import JavisSaas.Lib.Custody
import JavisSaas.Cosa.Events.FounderAssetEvents

/-!
# Callbacks of founder asset commands

Deliveries of the events that the Company writes, on a deployment with all services.

* `callbackLaw_along`: if no delivery dies or fails between recording and storing, and a failed
  request is marked only while the callback is pending, a command is authored at most once, a stored
  callback stays, and every recorded event is authored and delivered by one more delivery.
* `lost_of_run`: an event whose delivery died in between is never authored or never delivered.
* `not_callbackLaw_lostEvent`: a delivery that dies right after the recording.
-/

namespace JavisSaas.Cosa.Events

open JavisSaas.Lib
open FounderAssetCall (markingFailed settling step)

variable {J : Type}

/-! ## The events of the Company -/

/-- The command of an event, unless the event is rejected. -/
def AssetEnvelope.accepted (env : AssetEnvelope J) : Option (FounderAssetCommand J) :=
  env.command.toOption

theorem AssetEnvelope.command_eq_ok {env : AssetEnvelope J} {cmd : FounderAssetCommand J}
    (h : cmd ∈ env.accepted) : env.command = .ok cmd := by
  unfold accepted at h
  cases hc : env.command with
  | error => simp [hc, Except.toOption] at h
  | ok => simpa [hc, Except.toOption] using h

theorem AssetEnvelope.workspaceId_of_accepted {env : AssetEnvelope J} {cmd : FounderAssetCommand J}
    (h : cmd ∈ env.accepted) : cmd.workspaceId = env.workspaceId := by
  obtain ⟨c, -, h⟩ := bind_eq_ok.mp (AssetEnvelope.command_eq_ok h)
  obtain ⟨hws, h⟩ := require_bind_eq_ok.mp h
  exact pure_eq_ok.mp h ▸ hws

/-- One event for each command, under its `commandId`, with a kind of asset. -/
structure CommandLog (J : Type) where
  events : List (AssetEnvelope J)
  key_inj : ∀ e ∈ events, ∀ e' ∈ events, e.key = e'.key → e = e'
  command_inj : ∀ e ∈ events, ∀ e' ∈ events, ∀ cmd ∈ e.accepted, ∀ cmd' ∈ e'.accepted,
    cmd.key = cmd'.key → e = e'
  commandId : ∀ e ∈ events, ∀ cmd ∈ e.accepted, e.payload.commandId = some cmd.commandId
  assetKind : ∀ e ∈ events, ∀ cmd ∈ e.accepted, (AssetKind.ofString? cmd.assetKind).isSome

/-- The deployment of `build_deps`. -/
def productionDeps : FounderAssetDeps := {}

section

variable [DecidableEq J] [PyValue J]

/-- The deliveries of the events of `log`. -/
def deliveries (log : CommandLog J) : Service {env : AssetEnvelope J // env ∈ log.events}
    (FounderAssetStore J) (FounderAssetCall J) (FounderAssetAnswer J) :=
  (founderAssetCalls J productionDeps).only (· ∈ log.events)

/-! ## The law -/

def FounderAssetStore.Delivered (s : FounderAssetStore J) (key : String × String) : Prop :=
  ∃ r ∈ s.outbox.get? key, r.deliveryStatus = .delivered

/-- The steps of a delivery that neither dies nor fails. -/
def Smooth {Req : Type} : CallLabel Req (FounderAssetAnswer J) → Prop
  | .start _ | .step _ .ok | .step _ (.authored _) => True
  | _ => False

/-- The steps in which delivery `i` neither dies nor fails. -/
def SmoothAt {Req : Type} (i : ℕ) : CallLabel Req (FounderAssetAnswer J) → Prop
  | .step j a => i = j → Smooth (.step j a : CallLabel Req (FounderAssetAnswer J))
  | .giveUp j => i ≠ j
  | .start _ => True

/-- The call has recorded the event, and has not stored its callback yet. -/
def FounderAssetCall.Holds : FounderAssetCall J → AssetEnvelope J → Prop
  | .dispatching env, e => e = env
  | .storing env _, e => e = env
  | _, _ => False

/-- The callback is stored at the end of the authoring; a failed request is marked while it is
pending. -/
def Completes (s : FounderAssetStore J) : FounderAssetCall J → FounderAssetAnswer J → Prop
  | .storing _ _, .refused _ => False
  | .markingFailed _ _ _, .refused _ => True
  | .markingFailed _ payload _, _ => ∀ r ∈ s.outbox.get? payload.key, r.deliveryStatus = .pending
  | _, _ => True

instance (s : FounderAssetStore J) (call : FounderAssetCall J) (a : FounderAssetAnswer J) :
    Decidable (Completes s call a) := by
  unfold Completes
  split <;> infer_instance

/-- The condition of the calls that are given up: they do not hold an accepted event. -/
def MayDie (_ : FounderAssetStore J) : FounderAssetCall J → Prop
  | .dispatching env | .storing env _ => env.accepted.isNone
  | _ => True

instance (s : FounderAssetStore J) (call : FounderAssetCall J) : Decidable (MayDie s call) := by
  unfold MayDie
  split <;> infer_instance

/-- A step keeps the payload of every stored callback, and its delivery. -/
def CallbackStepLaw (s : FounderAssetStore J) (call : FounderAssetCall J)
    (a : FounderAssetAnswer J) : Prop :=
  ∀ r ∈ call.step productionDeps s a, ∀ key record, s.outbox.get? key = some record →
    ∃ record', r.1.outbox.get? key = some record' ∧ record'.payload = record.payload ∧
      (record.deliveryStatus = .delivered → record'.deliveryStatus = .delivered)

/-- Commands are authored once; a recorded event can be brought to the delivery of its callback,
and, held by none, is by every further delivery that does not fail. -/
structure CallbackLaw (log : CommandLog J)
    (s : InFlight (FounderAssetStore J) (FounderAssetCall J)) : Prop where
  once : s.store.authored.Nodup
  ends : ∀ env ∈ log.events, ∀ cmd ∈ env.accepted, (s.store.inbox.get? env.key).isSome →
    ∀ answer, ∃ ls s', (∀ l ∈ ls, Smooth l) ∧ (∀ i a, .step i (.authored a) ∈ ls → a = answer) ∧
      (deliveries log).system.run s ls = some s' ∧ cmd.key ∈ s'.store.authored ∧
        s'.store.Delivered cmd.key
  redelivered : ∀ env ∈ log.events, ∀ cmd ∈ env.accepted, (s.store.inbox.get? env.key).isSome →
    (∀ i c, s.call? i = some c → ¬c.Holds env) → ∀ i ls s', s.call? i = some (.recording env) →
      (deliveries log).system.Along (fun s l => (Service.Meets Completes s l ∧
        Service.Spares MayDie s l) ∧ SmoothAt i l) s ls →
      (deliveries log).system.run s ls = some s' → s'.call? i = none →
        cmd.key ∈ s'.store.authored ∧ s'.store.Delivered cmd.key

end

/-! ## What the deliveries keep -/

/-- Commands are authored once, by recorded events; callbacks are of authored commands. -/
structure FounderInv (log : CommandLog J) (s : FounderAssetStore J) : Prop where
  once : s.authored.Nodup
  recorded : ∀ env ∈ log.events, ∀ cmd ∈ env.accepted, cmd.key ∈ s.authored →
    (s.inbox.get? env.key).isSome
  stored : ∀ key r, s.outbox.get? key = some r → key ∈ s.authored ∧ r.payload.key = key

/-- The callback of the call is stored. -/
def Stored (s : FounderAssetStore J) (payload : StatusCallback J) : Prop :=
  ∃ r ∈ s.outbox.get? payload.key, r.payload = payload

/-- What a delivery knows of the store. -/
def Remembers (log : CommandLog J) (s : FounderAssetStore J) : FounderAssetCall J → Prop
  | .recording env => env ∈ log.events
  | .dispatching env => env ∈ log.events ∧ (s.inbox.get? env.key).isSome ∧
      ∀ cmd ∈ env.accepted, cmd.key ∉ s.authored
  | .storing env payload => env ∈ log.events ∧ (s.inbox.get? env.key).isSome ∧
      payload.key ∈ s.authored ∧ s.outbox.get? payload.key = none ∧
      ∃ cmd ∈ env.accepted, cmd.key = payload.key
  | .sending _ payload | .marking _ payload | .markingFailed _ payload _ => Stored s payload
  | .replaying _ | .settling _ _ _ => True

/-- The callback of a recorded event is not stored. -/
def Owed (log : CommandLog J) (s : FounderAssetStore J) (env : AssetEnvelope J) : Prop :=
  env ∈ log.events ∧ (s.inbox.get? env.key).isSome ∧
    ∃ cmd ∈ env.accepted, s.outbox.get? cmd.key = none

/-! ### Updates -/

/-- Nothing is authored, no row of the inbox is lost, and callbacks keep their payloads. -/
structure Updates (s s' : FounderAssetStore J) : Prop where
  inbox : ∀ key, (s.inbox.get? key).isSome → (s'.inbox.get? key).isSome
  authored : s'.authored = s.authored
  outbox : ∀ key, (s'.outbox.get? key).map (·.payload) = (s.outbox.get? key).map (·.payload)

theorem Updates.refl (s : FounderAssetStore J) : Updates s s := ⟨fun _ h => h, rfl, fun _ => rfl⟩

section

variable {log : CommandLog J} {s s' : FounderAssetStore J} {key : String × String}

theorem Updates.outbox_none (h : Updates s s') :
    s'.outbox.get? key = none ↔ s.outbox.get? key = none := by
  rw [← Option.map_eq_none_iff (f := (·.payload)), h.outbox, Option.map_eq_none_iff]

theorem Updates.outbox_some (h : Updates s s') {r : FounderAssetCallbackRecord J}
    (hr : s.outbox.get? key = some r) : ∃ r', s'.outbox.get? key = some r' ∧ r'.payload = r.payload := by
  have hmap := h.outbox key
  rw [hr] at hmap
  exact Option.map_eq_some_iff.mp hmap

theorem Updates.of_modify {f : FounderAssetCallbackRecord J → FounderAssetCallbackRecord J}
    (hf : ∀ r, (f r).payload = r.payload) :
    Updates s { s with outbox := s.outbox.modify key f } := by
  refine ⟨fun _ h => h, rfl, fun key' => ?_⟩
  show ((s.outbox.modify key f).get? key').map _ = _
  rw [Dict.get?_modify, Option.map_map]
  congr 1
  funext r
  show (if key = key' then f r else r).payload = r.payload
  split_ifs
  · exact hf r
  · rfl

theorem updates_setOutcome (outcome : IntakeOutcome) (reason : Option String) :
    Updates s (s.setOutcome key outcome reason) := by
  refine ⟨fun key' h => ?_, rfl, fun _ => rfl⟩
  show ((s.inbox.modify key _).get? key').isSome
  rwa [Dict.get?_modify, Option.isSome_map]

theorem updates_record (env : AssetEnvelope J) :
    Updates s { s with inbox := s.inbox.set env.key {} } := by
  refine ⟨fun key' h => ?_, rfl, fun _ => rfl⟩
  show ((s.inbox.set env.key {}).get? key').isSome
  rw [Dict.get?_set]
  split_ifs
  · rfl
  · exact h

theorem FounderInv.update (h : FounderInv log s) (hu : Updates s s') : FounderInv log s' where
  once := hu.authored ▸ h.once
  recorded env henv cmd hcmd hkey :=
    hu.inbox _ (h.recorded env henv cmd hcmd (hu.authored ▸ hkey))
  stored key r hr := by
    have hmap := hu.outbox key
    rw [hr] at hmap
    obtain ⟨r₀, hr₀, hpayload⟩ := Option.map_eq_some_iff.mp hmap.symm
    obtain ⟨hkey, hpkey⟩ := h.stored key r₀ hr₀
    refine ⟨hu.authored.symm ▸ hkey, ?_⟩
    rw [← hpkey]
    exact congrArg StatusCallback.key hpayload.symm

theorem Remembers.update {call : FounderAssetCall J} (h : Remembers log s call)
    (hu : Updates s s') : Remembers log s' call := by
  have hstored : ∀ payload, Stored s payload → Stored s' payload := by
    rintro payload ⟨r, hr, hpayload⟩
    obtain ⟨r', hr', hpayload'⟩ := hu.outbox_some hr
    exact ⟨r', hr', hpayload'.trans hpayload⟩
  cases call with
  | recording => exact h
  | dispatching => exact ⟨h.1, hu.inbox _ h.2.1, fun cmd hcmd => hu.authored ▸ h.2.2 cmd hcmd⟩
  | storing =>
    obtain ⟨henv, hinbox, hauthored, hnone, hcmd⟩ := h
    exact ⟨henv, hu.inbox _ hinbox, hu.authored.symm ▸ hauthored, hu.outbox_none.mpr hnone, hcmd⟩
  | sending _ payload => exact hstored payload h
  | marking _ payload => exact hstored payload h
  | markingFailed _ payload => exact hstored payload h
  | replaying | settling => trivial

end

/-! ### Steps -/

section

variable {log : CommandLog J} {s s' : FounderAssetStore J} {call : FounderAssetCall J}
  {call' : Option (FounderAssetCall J)} {env : AssetEnvelope J} {cmd : FounderAssetCommand J}

/-- What a step of a delivery does. -/
inductive Moved (log : CommandLog J) (s : FounderAssetStore J) (call : FounderAssetCall J) :
    FounderAssetStore J → Option (FounderAssetCall J) → Prop
  | updated (s' : FounderAssetStore J) (call' : Option (FounderAssetCall J)) (hu : Updates s s')
      (hinbox : ∀ key, (s'.inbox.get? key).isSome → (s.inbox.get? key).isSome)
      (hdelivered : ∀ key r, s.outbox.get? key = some r → r.deliveryStatus = .delivered →
        s'.Delivered key)
      (hfree : ∀ env, call.Holds env → env.accepted = none)
      (hcall : ∀ d ∈ call', Remembers log s d ∧ ∀ env, ¬d.Holds env) : Moved log s call s' call'
  | recorded (env : AssetEnvelope J) (hcall : call = .recording env)
      (hnew : s.inbox.get? env.key = none) :
    Moved log s call { s with inbox := s.inbox.set env.key {} } (some (.dispatching env))
  | authored (env : AssetEnvelope J) (cmd : FounderAssetCommand J) (payload : StatusCallback J)
      (hcall : call = .dispatching env) (hcmd : cmd ∈ env.accepted) (hkey : payload.key = cmd.key) :
    Moved log s call { s with authored := s.authored ++ [cmd.key] } (some (.storing env payload))
  | stored (env : AssetEnvelope J) (payload : StatusCallback J) (d : FounderAssetCall J)
      (hcall : call = .storing env payload)
      (hd : d = .sending env payload ∨ ∃ outcome reason, d = .settling env outcome reason) :
    Moved log s call { s with outbox := s.outbox.set payload.key { payload } } (some d)

theorem Moved.same (hfree : ∀ env, call.Holds env → env.accepted = none)
    (hcall : ∀ d ∈ call', Remembers log s d ∧ ∀ env, ¬d.Holds env) : Moved log s call s call' :=
  .updated s call' (.refl s) (fun _ h => h) (fun _ r hr hd => ⟨r, hr, hd⟩) hfree hcall

variable {key : String × String} {r : FounderAssetCallbackRecord J}

theorem Moved.of_modify {f : FounderAssetCallbackRecord J → FounderAssetCallbackRecord J}
    (hf : ∀ r, (f r).payload = r.payload)
    (hdelivered : ∀ r, s.outbox.get? key = some r → r.deliveryStatus = .delivered →
      (f r).deliveryStatus = .delivered) (hfree : ∀ env, call.Holds env → env.accepted = none)
    (hcall : ∀ d ∈ call', Remembers log s d ∧ ∀ env, ¬d.Holds env) :
    Moved log s call { s with outbox := s.outbox.modify key f } call' := by
  refine .updated _ _ (.of_modify hf) (fun _ h => h) (fun key' r hr hd => ?_) hfree hcall
  by_cases hkey : key = key'
  · subst hkey
    refine ⟨f r, ?_, hdelivered r hr hd⟩
    show (s.outbox.modify key f).get? key = _
    rw [Dict.get?_modify, hr]
    exact congrArg some (if_pos rfl)
  · refine ⟨r, ?_, hd⟩
    show (s.outbox.modify key f).get? key' = _
    rw [Dict.get?_modify, hr]
    exact congrArg some (if_neg hkey)

theorem remembers_settling (s : FounderAssetStore J) (env : AssetEnvelope J)
    (outcome : IntakeOutcome) (reason : Option String) :
    ∀ d ∈ some (settling env outcome reason), Remembers log s d ∧
      ∀ e, ¬d.Holds e := by
  intro d hd
  cases hd
  exact ⟨trivial, fun _ h => h⟩

theorem moved_of_replay (hI : FounderInv log s) :
    Moved log s (.replaying env) s (replay productionDeps s env) := by
  refine .same (fun _ h => h.elim) fun d hd => ?_
  unfold replay at hd
  dsimp only at hd
  rw [if_neg (by decide : ¬¬productionDeps.callbackOutbox)] at hd
  cases hget : s.outbox.get? (env.workspaceId, env.payload.commandId.getD "") with
  | none =>
    rw [hget] at hd
    cases hd
    exact ⟨trivial, fun _ h => h⟩
  | some r =>
    rw [hget] at hd
    dsimp only at hd
    cases hstatus : r.deliveryStatus with
    | delivered =>
      rw [hstatus] at hd
      nomatch hd
    | pending =>
      rw [hstatus] at hd
      cases hd
      have hkey := (hI.stored _ r hget).2
      exact ⟨⟨r, hkey ▸ hget, rfl⟩, fun _ h => h⟩

theorem Moved.keeps (h : Moved log s call s' call') (hI : FounderInv log s)
    (hJ : Remembers log s call) : FounderInv log s' ∧
      (∀ d, Remembers log s d → Service.Apart FounderAssetCall.Holds call d → Remembers log s' d) ∧
      ∀ d ∈ call', Remembers log s' d := by
  cases h with
  | updated _ _ hu _ _ _ hcall =>
    exact ⟨hI.update hu, fun d hd _ => hd.update hu, fun d hd => (hcall d hd).1.update hu⟩
  | recorded env hcall hnew =>
    subst hcall
    refine ⟨hI.update (updates_record env), fun d hd _ => hd.update (updates_record env), ?_⟩
    rintro d hd
    cases hd
    refine ⟨hJ, by rw [Dict.get?_set_self]; rfl, fun cmd hcmd hkey => ?_⟩
    have hsome := hI.recorded env hJ cmd hcmd hkey
    rw [hnew] at hsome
    nomatch hsome
  | authored env cmd payload hcall hcmd hkey =>
    subst hcall
    obtain ⟨henv, hinbox, hnew⟩ := hJ
    have hmem : ∀ key, key ∈ s.authored ++ [cmd.key] ↔ key ∈ s.authored ∨ key = cmd.key := by
      intro key
      rw [List.mem_append, List.mem_singleton]
    have hsame : ∀ e ∈ log.events, ∀ cmd' ∈ e.accepted, cmd'.key = cmd.key → e = env :=
      fun e he cmd' hcmd' heq => log.command_inj e he env henv cmd' hcmd' cmd hcmd heq
    refine ⟨⟨?_, fun e he cmd' hcmd' hk => ?_, fun key r hr => ?_⟩, fun d hd hapart => ?_, ?_⟩
    · exact List.nodup_append.mpr ⟨hI.once, List.nodup_singleton _, fun key hk key' hk' heq =>
        hnew cmd hcmd (List.mem_singleton.mp hk' ▸ heq ▸ hk)⟩
    · rcases (hmem _).mp hk with hk | hk
      · exact hI.recorded e he cmd' hcmd' hk
      · exact hsame e he cmd' hcmd' hk ▸ hinbox
    · obtain ⟨hk, hp⟩ := hI.stored key r hr
      exact ⟨(hmem _).mpr (.inl hk), hp⟩
    · cases d with
      | dispatching e =>
        obtain ⟨he, hinbox', hnew'⟩ := hd
        refine ⟨he, hinbox', fun cmd' hcmd' hk => ?_⟩
        rcases (hmem _).mp hk with hk | hk
        · exact hnew' cmd' hcmd' hk
        · exact hapart env rfl (hsame e he cmd' hcmd' hk).symm
      | storing =>
        obtain ⟨he, hinbox', hauthored, hrest⟩ := hd
        exact ⟨he, hinbox', (hmem _).mpr (.inl hauthored), hrest⟩
      | recording | sending | marking | markingFailed => exact hd
      | replaying | settling => trivial
    · intro d hd
      cases hd
      refine ⟨henv, hinbox, (hmem _).mpr (.inr hkey), ?_, cmd, hcmd, hkey.symm⟩
      cases hget : s.outbox.get? payload.key with
      | none => rfl
      | some r => exact absurd (hkey ▸ (hI.stored _ r hget).1) (hnew cmd hcmd)
  | stored env payload d hcall hd =>
    subst hcall
    obtain ⟨henv, hinbox, hauthored, hnone, cmd, hcmd, hkey⟩ := hJ
    have hget : ∀ key, (s.outbox.set payload.key { payload }).get? key =
        if payload.key = key then some { payload } else s.outbox.get? key :=
      fun key => Dict.get?_set _ _ _ _
    have hkept : ∀ payload', Stored s payload' →
        Stored { s with outbox := s.outbox.set payload.key { payload } } payload' := by
      rintro payload' ⟨r, hr, hp⟩
      refine ⟨r, ?_, hp⟩
      show (s.outbox.set payload.key { payload }).get? payload'.key = some r
      rw [hget, if_neg, hr]
      intro heq
      rw [heq] at hnone
      nomatch hnone.symm.trans hr
    refine ⟨⟨hI.once, hI.recorded, fun key r hr => ?_⟩, fun d hd hapart => ?_, ?_⟩
    · replace hr := (hget key).symm.trans hr
      split_ifs at hr with hk
      · cases hr
        exact ⟨hk ▸ hauthored, hk⟩
      · exact hI.stored key r hr
    · cases d with
      | storing e payload' =>
        obtain ⟨he, hinbox', hauthored', hnone', cmd', hcmd', hkey'⟩ := hd
        refine ⟨he, hinbox', hauthored', ?_, cmd', hcmd', hkey'⟩
        show (s.outbox.set payload.key { payload }).get? payload'.key = none
        rw [hget, if_neg, hnone']
        intro heq
        exact hapart env rfl (log.command_inj env henv e he cmd hcmd cmd' hcmd'
          (hkey.trans (heq.trans hkey'.symm)))
      | recording | dispatching => exact hd
      | sending | marking | markingFailed => exact hkept _ hd
      | replaying | settling => trivial
    · intro d' hd'
      cases hd'
      rcases hd with rfl | ⟨outcome, reason, rfl⟩
      · exact ⟨{ payload }, Dict.get?_set_self _ _ _, rfl⟩
      · trivial

theorem Moved.taken {d : FounderAssetCall J} (h : Moved log s call s' (some d))
    (hd : d.Holds env) : call.Holds env ∨ ∀ e, Remembers log s e → ¬e.Holds env := by
  cases h with
  | updated _ _ _ _ _ _ hcall => exact absurd hd ((hcall d rfl).2 env)
  | recorded env' _ hnew =>
    obtain rfl : env = env' := hd
    refine .inr fun e he hhold => ?_
    have hsome : (s.inbox.get? env.key).isSome := by
      cases e with
      | dispatching e => exact (show env = e from hhold) ▸ he.2.1
      | storing e => exact (show env = e from hhold) ▸ he.2.1
      | recording | sending | marking | markingFailed | replaying | settling => exact hhold.elim
    rw [hnew] at hsome
    nomatch hsome
  | authored _ _ _ hcall =>
    subst hcall
    exact .inl hd
  | stored _ _ _ _ hd' =>
    rcases hd' with rfl | ⟨outcome, reason, rfl⟩ <;> exact hd.elim

theorem Moved.debts (h : Moved log s call s' call') (hJ : Remembers log s call)
    (howed : Owed log s' env) : Owed log s env ∧ ¬call.Holds env ∨ ∃ d ∈ call', d.Holds env := by
  obtain ⟨henv, hinbox', cmd, hcmd, hnone⟩ := howed
  cases h with
  | updated _ _ hu hinbox _ hfree =>
    refine .inl ⟨⟨henv, hinbox _ hinbox', cmd, hcmd, hu.outbox_none.mp hnone⟩, fun hhold => ?_⟩
    rw [hfree env hhold] at hcmd
    nomatch hcmd
  | recorded env' hcall =>
    subst hcall
    by_cases heq : env = env'
    · exact .inr ⟨_, rfl, heq⟩
    · refine .inl ⟨⟨henv, ?_, cmd, hcmd, hnone⟩, fun h => h⟩
      have hkey : env'.key ≠ env.key := fun hk => heq (log.key_inj env henv env' hJ hk.symm)
      replace hinbox' : ((s.inbox.set env'.key {}).get? env.key).isSome := hinbox'
      rwa [Dict.get?_set_of_ne _ hkey] at hinbox'
  | authored env' _ _ hcall =>
    subst hcall
    by_cases heq : env = env'
    · exact .inr ⟨_, rfl, heq⟩
    · exact .inl ⟨⟨henv, hinbox', cmd, hcmd, hnone⟩, heq⟩
  | stored env' payload _ hcall =>
    subst hcall
    obtain ⟨henv', -, -, -, cmd', hcmd', hkey'⟩ := hJ
    replace hnone : (s.outbox.set payload.key { payload }).get? cmd.key = none := hnone
    rw [Dict.get?_set] at hnone
    split_ifs at hnone with hk
    refine .inl ⟨⟨henv, hinbox', cmd, hcmd, hnone⟩, fun hhold => hk ?_⟩
    obtain rfl : env = env' := hhold
    rw [← hkey', Option.some.inj (hcmd'.symm.trans hcmd)]

variable [DecidableEq J] [PyValue J] {a : FounderAssetAnswer J}

theorem dispatch_of_rejected (h : env.accepted = none) (answer : AuthoringAnswer J) :
    ∃ reason, dispatch productionDeps s env answer =
      (s, some (.settling env .rejected (some reason))) := by
  unfold AssetEnvelope.accepted at h
  unfold dispatch
  cases hcommand : env.command with
  | error e => exact ⟨e, rfl⟩
  | ok =>
    rw [hcommand] at h
    nomatch h

theorem dispatch_of_accepted (henv : env ∈ log.events) (h : cmd ∈ env.accepted)
    (answer : AuthoringAnswer J) : ∃ payload, payload.key = cmd.key ∧
      dispatch productionDeps s env answer =
        ({ s with authored := s.authored ++ [cmd.key] }, some (.storing env payload)) := by
  obtain ⟨kind, hkind⟩ := Option.isSome_iff_exists.mp (log.assetKind env henv cmd h)
  refine ⟨cmd.callback productionDeps env.actorId kind answer, cmd.key_callback _ _ _ _, ?_⟩
  unfold dispatch
  rw [AssetEnvelope.command_eq_ok h]
  dsimp only
  rw [hkind]
  rfl

theorem moved_of_step (hI : FounderInv log s) (hJ : Remembers log s call) (hG : Completes s call a)
    (h : call.step productionDeps s a = some (s', call')) : Moved log s call s' call' := by
  cases call with
  | recording env =>
    cases a with
    | ok =>
      rw [step] at h
      cases hget : s.inbox.get? env.key with
      | some =>
        rw [hget] at h
        cases h
        refine .same (fun _ h => h.elim) fun d hd => ?_
        cases hd
        exact ⟨trivial, fun _ h => h⟩
      | none =>
        rw [hget] at h
        cases h
        exact .recorded env rfl hget
    | lost | refused | authored => nomatch h
  | dispatching env =>
    cases a with
    | authored answer =>
      have hstep := Option.some.inj h
      cases haccepted : env.accepted with
      | none =>
        obtain ⟨reason, hdispatch⟩ := dispatch_of_rejected haccepted answer
        cases hdispatch.symm.trans hstep
        exact .same (fun e he => he ▸ haccepted) (remembers_settling s env _ _)
      | some cmd =>
        obtain ⟨payload, hkey, hdispatch⟩ := dispatch_of_accepted hJ.1 haccepted answer
        cases hdispatch.symm.trans hstep
        exact .authored env cmd payload rfl haccepted hkey
    | ok | lost | refused => nomatch h
  | storing env payload =>
    obtain ⟨-, -, -, hnone, -⟩ := hJ
    have henqueue : s.enqueue payload =
        .ok { s with outbox := s.outbox.set payload.key { payload } } := by
      rw [FounderAssetStore.enqueue, hnone]
    cases a with
    | ok =>
      rw [step, henqueue] at h
      cases h
      exact .stored env payload _ rfl (.inl rfl)
    | lost =>
      rw [step, henqueue] at h
      cases h
      exact .stored env payload _ rfl (.inr ⟨_, _, rfl⟩)
    | refused => exact hG.elim
    | authored => nomatch h
  | sending env payload =>
    have hmove : ∀ d, (d = .marking env payload ∨ ∃ e, d = .markingFailed env payload e) →
        Moved log s (.sending env payload) s (some d) := by
      rintro d hd
      refine .same (fun _ h => h.elim) fun d' hd' => ?_
      cases hd'
      rcases hd with rfl | ⟨e, rfl⟩ <;> exact ⟨hJ, fun _ h => h⟩
    cases a with
    | ok =>
      cases h
      exact hmove _ (.inl rfl)
    | lost e =>
      cases h
      exact hmove _ (.inr ⟨e, rfl⟩)
    | refused e =>
      cases h
      exact hmove _ (.inr ⟨e, rfl⟩)
    | authored => nomatch h
  | marking env payload =>
    have hfailing : ∀ e, Remembers log s (.markingFailed env payload e) ∧
        ∀ env' : AssetEnvelope J, ¬(markingFailed env payload e).Holds env' :=
      fun e => ⟨hJ, fun _ h => h⟩
    cases a with
    | ok =>
      cases h
      exact .of_modify (fun _ => rfl) (fun _ _ _ => rfl) (fun _ h => h.elim)
        (remembers_settling s env _ _)
    | lost e =>
      cases h
      refine .of_modify (fun _ => rfl) (fun _ _ _ => rfl) (fun _ h => h.elim) fun d hd => ?_
      cases hd
      exact hfailing e
    | refused e =>
      cases h
      refine .same (fun _ h => h.elim) fun d hd => ?_
      cases hd
      exact hfailing e
    | authored => nomatch h
  | markingFailed env payload =>
    have hpending : ∀ f : FounderAssetCallbackRecord J → FounderAssetCallbackRecord J,
        (∀ r ∈ s.outbox.get? payload.key, r.deliveryStatus = .pending) →
        ∀ r, s.outbox.get? payload.key = some r → r.deliveryStatus = .delivered →
          (f r).deliveryStatus = .delivered := by
      intro f hp r hr hd
      nomatch (hp r hr).symm.trans hd
    cases a with
    | ok | lost =>
      cases h
      exact .of_modify (fun _ => rfl) (hpending _ hG) (fun _ h => h.elim)
        (remembers_settling s env _ _)
    | refused =>
      cases h
      exact .same (fun _ h => h.elim) (remembers_settling s env _ _)
    | authored => nomatch h
  | replaying =>
    cases a with
    | ok =>
      cases h
      exact moved_of_replay hI
    | lost | refused | authored => nomatch h
  | settling env outcome reason =>
    cases a with
    | ok =>
      cases h
      refine .updated _ _ (updates_setOutcome outcome reason) (fun key hkey => ?_)
        (fun _ r hr hd => ⟨r, hr, hd⟩) (fun _ h => h.elim) fun d hd => nomatch hd
      replace hkey : ((s.inbox.modify env.key _).get? key).isSome := hkey
      rwa [Dict.get?_modify, Option.isSome_map] at hkey
    | lost | refused | authored => nomatch h

/-! ### The rule -/

theorem founderRule : (deliveries log).CustodyRule FounderAssetCall.Holds (Owed log) Completes MayDie
    (FounderInv log) (Remembers log) where
  start s req _ := ⟨req.2, fun _ h => h⟩
  step s c a s' c' hI hJ hG h := (moved_of_step hI hJ hG h).keeps hI hJ
  taken s c a s' d hI hJ hG h env hd := (moved_of_step hI hJ hG h).taken hd
  debts s c a s' c' hI hJ hG h env howed := (moved_of_step hI hJ hG h).debts hJ howed
  abort s c hI _ _ := ⟨hI, fun _ hd _ => hd⟩
  abandoned s c _ _ hA env howed := by
    refine ⟨howed, fun hhold => ?_⟩
    obtain ⟨-, -, cmd, hcmd, -⟩ := howed
    have hrejected : env.accepted.isNone := by
      cases c with
      | dispatching e => exact (show env = e from hhold) ▸ hA
      | storing e => exact (show env = e from hhold) ▸ hA
      | recording | sending | marking | markingFailed | replaying | settling => exact hhold.elim
    rw [hcmd] at hrejected
    nomatch hrejected

/-! ## What is stored stays -/

/-- Callbacks and recorded events stay, and so does the delivery of a callback. -/
structure Stays (s s' : FounderAssetStore J) : Prop where
  inbox : ∀ key, (s.inbox.get? key).isSome → (s'.inbox.get? key).isSome
  outbox : ∀ key record, s.outbox.get? key = some record → ∃ record',
    s'.outbox.get? key = some record' ∧ record'.payload = record.payload ∧
      (record.deliveryStatus = .delivered → record'.deliveryStatus = .delivered)

omit [DecidableEq J] [PyValue J] in
theorem Moved.stays (h : Moved log s call s' call') (hJ : Remembers log s call) : Stays s s' := by
  cases h with
  | updated _ _ hu _ hdelivered =>
    refine ⟨hu.inbox, fun key record hr => ?_⟩
    obtain ⟨r', hr', hpayload⟩ := hu.outbox_some hr
    refine ⟨r', hr', hpayload, fun hd => ?_⟩
    obtain ⟨r₁, hr₁, hd₁⟩ := hdelivered key record hr hd
    rw [Option.some.inj (hr'.symm.trans hr₁), hd₁]
  | recorded env =>
    exact ⟨(updates_record env).inbox, fun key record hr => ⟨record, hr, rfl, fun h => h⟩⟩
  | authored =>
    exact ⟨fun _ h => h, fun key record hr => ⟨record, hr, rfl, fun h => h⟩⟩
  | stored _ payload _ hcall =>
    subst hcall
    refine ⟨fun _ h => h, fun key record hr => ⟨record, ?_, rfl, fun h => h⟩⟩
    show (s.outbox.set payload.key { payload }).get? key = some record
    rw [Dict.get?_set_of_ne _ (fun heq => ?_), hr]
    nomatch (heq ▸ hJ.2.2.2.1 : s.outbox.get? key = none).symm.trans hr

theorem callbackStepLaw_of_moved (hI : FounderInv log s) (hJ : Remembers log s call)
    (hG : Completes s call a) : CallbackStepLaw s call a := by
  rintro ⟨s', call'⟩ hr key record hget
  exact ((moved_of_step hI hJ hG hr).stays hJ).outbox key record hget

omit [DecidableEq J] [PyValue J] in
theorem Stays.delivered (h : Stays s s') (hd : s.Delivered key) : s'.Delivered key := by
  obtain ⟨r, hr, hstatus⟩ := hd
  obtain ⟨r', hr', -, hkept⟩ := h.outbox key r hr
  exact ⟨r', hr', hkept hstatus⟩

omit [DecidableEq J] [PyValue J] in
theorem delivered_markDelivered {key : String × String} {r : FounderAssetCallbackRecord J}
    (h : s.outbox.get? key = some r) : (s.markDelivered key).Delivered key := by
  refine ⟨{ r with
    deliveryStatus := .delivered
    deliveryAttempts := r.deliveryAttempts + 1
    lastError := none }, ?_, rfl⟩
  show (s.outbox.modify key _).get? key = _
  rw [Dict.get?_modify, h]
  exact congrArg some (if_pos rfl)

/-! ## Recorded events end with the delivery of their callbacks -/

omit [DecidableEq J] [PyValue J] in
/-- What follows for a callback that is stored, for the event of its command. -/
theorem replay_of_stored (henv : env ∈ log.events) (hcmd : cmd ∈ env.accepted)
    (h : s.outbox.get? cmd.key = some r) :
    replay productionDeps s env = match r.deliveryStatus with
      | .delivered => none
      | .pending => some (.sending env r.payload) := by
  have hkey : (env.workspaceId, env.payload.commandId.getD "") = cmd.key := by
    rw [log.commandId env henv cmd hcmd, ← env.workspaceId_of_accepted hcmd]
    rfl
  unfold replay
  dsimp only
  rw [if_neg (by decide : ¬¬productionDeps.callbackOutbox), hkey, h]
  rfl

/-- A callback that is stored and that a call sends is delivered two steps later. -/
theorem solo_sending (log : CommandLog J) (s : FounderAssetStore J) (env : AssetEnvelope J)
    (payload : StatusCallback J) :
    (deliveries log).solo s (.sending env payload) [.ok, .ok] =
      some (s.markDelivered payload.key, some (.settling env .accepted none)) := rfl

omit [PyValue J] in
theorem enqueue_of_none {payload : StatusCallback J} (h : s.outbox.get? payload.key = none) :
    s.enqueue payload = .ok { s with outbox := s.outbox.set payload.key { payload } } := by
  rw [FounderAssetStore.enqueue, h]

theorem solo_storing (log : CommandLog J) (env : AssetEnvelope J) {payload : StatusCallback J}
    (h : s.outbox.get? payload.key = none) :
    (deliveries log).solo s (.storing env payload) [.ok, .ok, .ok] =
      some (({ s with outbox := s.outbox.set payload.key { payload } } :
        FounderAssetStore J).markDelivered payload.key, some (.settling env .accepted none)) := by
  have hstep : (deliveries log).step s (.storing env payload) .ok =
      some ({ s with outbox := s.outbox.set payload.key { payload } },
        some (.sending env payload)) := by
    show step productionDeps s (.storing env payload) .ok = _
    rw [step, enqueue_of_none h]
    rfl
  rw [Service.solo, hstep]
  exact solo_sending log _ env payload

theorem solo_dispatching (henv : env ∈ log.events) (hcmd : cmd ∈ env.accepted)
    (h : s.outbox.get? cmd.key = none) (answer : AuthoringAnswer J) :
    ∃ s' call, (deliveries log).solo s (.dispatching env) [.authored answer, .ok, .ok, .ok] =
      some (s', call) ∧ cmd.key ∈ s'.authored ∧ s'.Delivered cmd.key := by
  obtain ⟨payload, hkey, hdispatch⟩ := dispatch_of_accepted henv hcmd answer
  have hstep : (deliveries log).step s (.dispatching env) (.authored answer) =
      some ({ s with authored := s.authored ++ [cmd.key] }, some (.storing env payload)) :=
    congrArg some hdispatch
  rw [Service.solo, hstep]
  refine ⟨_, _, solo_storing log env (hkey.symm ▸ h), List.mem_append_right _ (by simp), ?_⟩
  rw [← hkey]
  exact delivered_markDelivered (Dict.get?_set_self _ _ _)

theorem solo_recording (henv : env ∈ log.events) (hcmd : cmd ∈ env.accepted)
    (h : s.outbox.get? cmd.key = some r) (hkey : r.payload.key = cmd.key)
    (hpending : r.deliveryStatus = .pending) (hinbox : (s.inbox.get? env.key).isSome) :
    (deliveries log).solo s (.recording env) [.ok, .ok, .ok, .ok] =
      some (s.markDelivered cmd.key, some (.settling env .accepted none)) := by
  obtain ⟨row, hrow⟩ := Option.isSome_iff_exists.mp hinbox
  have hrecord : (deliveries log).step s (.recording env) .ok = some (s, some (.replaying env)) := by
    show step productionDeps s (.recording env) .ok = _
    rw [step, hrow]
  have hreplay : (deliveries log).step s (.replaying env) .ok =
      some (s, some (.sending env r.payload)) := by
    show some (s, replay productionDeps s env) = _
    rw [replay_of_stored henv hcmd h, hpending]
  rw [Service.solo, hrecord]
  dsimp only
  rw [Service.solo, hreplay]
  dsimp only
  rw [solo_sending, hkey]

/-- The invariant of the deliveries. -/
abbrev DeliveriesInv (log : CommandLog J)
    (s : InFlight (FounderAssetStore J) (FounderAssetCall J)) : Prop :=
  Service.CustodyInv FounderAssetCall.Holds (Owed log) (FounderInv log) (Remembers log) s

section

variable {f f' : InFlight (FounderAssetStore J) (FounderAssetCall J)}

omit [DecidableEq J] [PyValue J] in
theorem smooth_of_mem_map {Req : Type} {i : ℕ} {answer : AuthoringAnswer J}
    {l : CallLabel Req (FounderAssetAnswer J)}
    {as : List (FounderAssetAnswer J)} (has : ∀ a ∈ as, a = .ok ∨ a = .authored answer)
    (h : l ∈ as.map (.step i)) :
    Smooth l ∧ ∀ j a, l = .step j (.authored a) → a = answer := by
  obtain ⟨a, ha, rfl⟩ := List.mem_map.mp h
  rcases has a ha with rfl | rfl
  · exact ⟨trivial, fun j a heq => by nomatch heq⟩
  · refine ⟨trivial, fun j a heq => ?_⟩
    injection heq with _ heq
    injection heq with heq
    exact heq.symm

theorem ends_of_inv (h : DeliveriesInv log f) (henv : env ∈ log.events) (hcmd : cmd ∈ env.accepted)
    (hinbox : (f.store.inbox.get? env.key).isSome) (answer : AuthoringAnswer J) :
    ∃ ls f', (∀ l ∈ ls, Smooth l) ∧ (∀ i a, .step i (.authored a) ∈ ls → a = answer) ∧
      (deliveries log).system.run f ls = some f' ∧ cmd.key ∈ f'.store.authored ∧
        f'.store.Delivered cmd.key := by
  -- the steps of one call, with answers that are all smooth
  have hsolo : ∀ i c as store c', f.call? i = some c →
      (∀ a ∈ as, a = .ok ∨ a = .authored answer) →
      (deliveries log).solo f.store c as = some (store, c') → cmd.key ∈ store.authored →
      store.Delivered cmd.key → ∃ ls f', (∀ l ∈ ls, Smooth l) ∧
        (∀ i a, .step i (.authored a) ∈ ls → a = answer) ∧
        (deliveries log).system.run f ls = some f' ∧ cmd.key ∈ f'.store.authored ∧
          f'.store.Delivered cmd.key := by
    intro i c as store c' hc has hrun hauthored hdelivered
    obtain ⟨f', hf', rfl⟩ := Service.run_solo hc hrun
    exact ⟨_, f', fun l hl => (smooth_of_mem_map has hl).1,
      fun j a hl => (smooth_of_mem_map has hl).2 j a rfl, hf', hauthored, hdelivered⟩
  cases hget : f.store.outbox.get? cmd.key with
  | none =>
    obtain ⟨i, c, hc, hhold⟩ := h.held env ⟨henv, hinbox, cmd, hcmd, hget⟩
    have hJ := h.inv.calls i c hc
    cases c with
    | dispatching e =>
      obtain rfl : env = e := hhold
      obtain ⟨store, call, hrun, hauthored, hdelivered⟩ :=
        solo_dispatching henv hcmd hget answer
      exact hsolo i _ _ store call hc (by simp) hrun hauthored hdelivered
    | storing e =>
      obtain rfl : env = e := hhold
      obtain ⟨-, -, hauthored, hnone, cmd', hcmd', hkey⟩ := hJ
      cases hcmd.symm.trans hcmd'
      refine hsolo i _ _ _ _ hc (by simp) (solo_storing log env hnone) (hkey ▸ hauthored) ?_
      rw [hkey]
      exact delivered_markDelivered (Dict.get?_set_self _ _ _)
    | recording | sending | marking | markingFailed | replaying | settling => exact hhold.elim
  | some r =>
    obtain ⟨hauthored, hkey⟩ := h.inv.store.stored _ r hget
    cases hstatus : r.deliveryStatus with
    | delivered =>
      exact ⟨[], f, fun _ hl => (nomatch hl), fun _ _ hl => (nomatch hl), rfl, hauthored,
        r, hget, hstatus⟩
    | pending =>
      -- one more delivery of the event
      let f₁ : InFlight (FounderAssetStore J) (FounderAssetCall J) :=
        { f with calls := f.calls ++ [some (.recording env)] }
      have hstart : (deliveries log).system.next f (.start ⟨env, henv⟩) = some f₁ := rfl
      have hc : f₁.call? f.calls.length = some (.recording env) := by
        rw [InFlight.call?_eq_some]
        exact List.getElem?_concat_length
      obtain ⟨f', hf', hstore⟩ := Service.run_solo hc
        (solo_recording henv hcmd hget hkey hstatus hinbox)
      have has : ∀ a ∈ [FounderAssetAnswer.ok, .ok, .ok, .ok], a = .ok ∨ a = .authored answer := by
        simp
      refine ⟨.start ⟨env, henv⟩ :: [FounderAssetAnswer.ok, .ok, .ok, .ok].map
        (CallLabel.step f.calls.length), f', fun l hl => ?_, fun j a hl => ?_,
        (deliveries log).system.run_cons_eq_some.mpr ⟨f₁, hstart, hf'⟩, ?_, ?_⟩
      · rcases List.mem_cons.mp hl with rfl | hl
        · trivial
        · exact (smooth_of_mem_map has hl).1
      · rcases List.mem_cons.mp hl with heq | hl
        · nomatch heq
        · exact (smooth_of_mem_map has hl).2 j a rfl
      · rw [hstore]
        exact hauthored
      · rw [hstore]
        exact delivered_markDelivered hget

/-! ## Further deliveries -/

/-- Where a further delivery of the event may be. -/
def Redelivering (s : FounderAssetStore J) (env : AssetEnvelope J) (cmd : FounderAssetCommand J) :
    Option (FounderAssetCall J) → Prop
  | some (.recording e) | some (.replaying e) => e = env
  | some (.sending _ payload) | some (.marking _ payload) => payload.key = cmd.key
  | some (.settling _ _ _) | none => s.Delivered cmd.key
  | some _ => False

omit [DecidableEq J] [PyValue J] in
theorem Redelivering.stays {o : Option (FounderAssetCall J)} (h : Redelivering s env cmd o)
    (hs : Stays s s') : Redelivering s' env cmd o := by
  cases o with
  | none => exact hs.delivered h
  | some c =>
    cases c with
    | settling => exact hs.delivered h
    | recording | dispatching | storing | sending | marking | markingFailed | replaying => exact h

theorem Redelivering.step {Req : Type} {i : ℕ} (hI : FounderInv log s) (henv : env ∈ log.events)
    (hcmd : cmd ∈ env.accepted) (hinbox : (s.inbox.get? env.key).isSome)
    (hstored : ∃ r, s.outbox.get? cmd.key = some r) (h : Redelivering s env cmd (some call))
    (hstays : Stays s s') (hsmooth : Smooth (.step i a : CallLabel Req (FounderAssetAnswer J)))
    (hstep : call.step productionDeps s a = some (s', call')) : Redelivering s' env cmd call' := by
  obtain ⟨r, hr⟩ := hstored
  cases call with
  | recording e =>
    obtain rfl : e = env := h
    obtain ⟨row, hrow⟩ := Option.isSome_iff_exists.mp hinbox
    cases a with
    | ok =>
      rw [step, hrow] at hstep
      obtain ⟨-, rfl⟩ := Prod.mk.inj (Option.some.inj hstep)
      rfl
    | lost | refused => exact hsmooth.elim
    | authored => nomatch hstep
  | replaying e =>
    obtain rfl : e = env := h
    cases a with
    | ok =>
      cases hstep
      rw [replay_of_stored henv hcmd hr]
      cases hstatus : r.deliveryStatus with
      | delivered => exact ⟨r, hr, hstatus⟩
      | pending => exact (hI.stored _ r hr).2
    | lost | refused => exact hsmooth.elim
    | authored => nomatch hstep
  | sending =>
    cases a with
    | ok =>
      obtain ⟨-, rfl⟩ := Prod.mk.inj (Option.some.inj hstep)
      exact h
    | lost | refused => exact hsmooth.elim
    | authored => nomatch hstep
  | marking _ payload =>
    cases a with
    | ok =>
      cases hstep
      show (s.markDelivered payload.key).Delivered cmd.key
      rw [show payload.key = cmd.key from h]
      exact delivered_markDelivered hr
    | lost | refused => exact hsmooth.elim
    | authored => nomatch hstep
  | settling =>
    cases a with
    | ok =>
      obtain ⟨-, rfl⟩ := Prod.mk.inj (Option.some.inj hstep)
      exact hstays.delivered h
    | lost | refused => exact hsmooth.elim
    | authored => nomatch hstep
  | dispatching | storing | markingFailed => exact h.elim

/-- The further delivery `i` of an event whose callback is stored. -/
structure FurtherInv (log : CommandLog J) (env : AssetEnvelope J) (cmd : FounderAssetCommand J)
    (i : ℕ) (f : InFlight (FounderAssetStore J) (FounderAssetCall J)) : Prop where
  inv : DeliveriesInv log f
  inbox : (f.store.inbox.get? env.key).isSome
  stored : ∃ r, f.store.outbox.get? cmd.key = some r
  there : i < f.calls.length
  redelivering : Redelivering f.store env cmd (f.call? i)

theorem FurtherInv.next {i : ℕ} (h : FurtherInv log env cmd i f) (henv : env ∈ log.events)
    (hcmd : cmd ∈ env.accepted)
    {l : CallLabel {env : AssetEnvelope J // env ∈ log.events} (FounderAssetAnswer J)}
    (hl : Service.Meets Completes f l) (hA : Service.Spares MayDie f l) (hsmooth : SmoothAt i l)
    (hs : (deliveries log).next f l = some f') : FurtherInv log env cmd i f' := by
  have hinv := founderRule.inv_next h.inv hl hA hs
  cases l with
  | start req =>
    cases hs
    refine ⟨hinv, h.inbox, h.stored, ?_, ?_⟩
    · show i < (f.calls ++ _).length
      rw [List.length_append]
      exact Nat.lt_add_right _ h.there
    · have hcall : InFlight.call? ({ f with
          calls := f.calls ++ [some ((deliveries log).start req)] } :
            InFlight (FounderAssetStore J) (FounderAssetCall J)) i = f.call? i := by
        rw [InFlight.call?, InFlight.call?, List.getElem?_append_left h.there]
      rw [hcall]
      exact h.redelivering
  | giveUp j =>
    cases hs
    have hstore : (f.call? j).elim f.store (fun c => (deliveries log).abort c f.store) = f.store := by
      cases f.call? j <;> rfl
    have hcall : InFlight.call? ({ store := f.store, calls := f.calls.set j none } :
        InFlight (FounderAssetStore J) (FounderAssetCall J)) i = f.call? i :=
      Service.call?_set_of_ne (Ne.symm hsmooth)
    rw [hstore] at hinv ⊢
    refine ⟨hinv, h.inbox, h.stored, ?_, ?_⟩
    · show i < (f.calls.set j none).length
      rw [List.length_set]
      exact h.there
    · rw [hcall]
      exact h.redelivering
  | step j =>
    obtain ⟨c, hc, store, c', hstep, rfl⟩ := (deliveries log).next_step_eq_some.mp hs
    have hI := h.inv.inv.store
    have hJ := h.inv.inv.calls j c hc
    have hstays := (moved_of_step hI hJ (hl c hc) hstep).stays hJ
    obtain ⟨r, hr⟩ := h.stored
    refine ⟨hinv, hstays.inbox _ h.inbox, ?_, ?_, ?_⟩
    · obtain ⟨r', hr', -⟩ := hstays.outbox _ r hr
      exact ⟨r', hr'⟩
    · show i < (f.calls.set j c').length
      rw [List.length_set]
      exact h.there
    · by_cases hij : i = j
      · subst hij
        rw [Service.call?_set_self hc]
        have hown := h.redelivering
        rw [hc] at hown
        exact hown.step hI henv hcmd h.inbox ⟨r, hr⟩ hstays (hsmooth rfl) hstep
      · rw [Service.call?_set_of_ne (Ne.symm hij)]
        exact h.redelivering.stays hstays

/-! ## Runs -/

omit [DecidableEq J] [PyValue J] in
theorem founderInv_empty : FounderInv log ({} : FounderAssetStore J) where
  once := List.nodup_nil
  recorded _ _ _ _ h := nomatch h
  stored _ _ h := nomatch h

/-- The law, along deliveries that store what they record, and mark only pending callbacks as
failed. -/
theorem callbackLaw_along
    {ls : List (CallLabel {env : AssetEnvelope J // env ∈ log.events} (FounderAssetAnswer J))}
    (hcond : (deliveries log).system.Along
      (fun s l => Service.Meets Completes s l ∧ Service.Spares MayDie s l) { store := {} } ls)
    (hrun : (deliveries log).system.run { store := {} } ls = some f) :
    CallbackLaw log f ∧
      (deliveries log).system.Along (Service.Meets CallbackStepLaw) { store := {} } ls := by
  have hempty : DeliveriesInv log ({ store := {} } : InFlight (FounderAssetStore J) _) :=
    .of_empty founderInv_empty fun e howed => nomatch howed.2.1
  have hinv := founderRule.inv_of_along hempty hcond hrun
  refine ⟨⟨hinv.inv.store.once, fun env henv cmd hcmd hinbox answer =>
    ends_of_inv hinv henv hcmd hinbox answer, ?_⟩,
    founderRule.along hempty (fun s c a hI hJ hG => callbackStepLaw_of_moved hI hJ hG) hcond⟩
  intro env henv cmd hcmd hinbox hnone i ls f' hc hcond' hrun' hend
  have hstored : ∃ r, f.store.outbox.get? cmd.key = some r := by
    cases hget : f.store.outbox.get? cmd.key with
    | some r => exact ⟨r, rfl⟩
    | none =>
      obtain ⟨j, c, hc', hhold⟩ := hinv.held env ⟨henv, hinbox, cmd, hcmd, hget⟩
      exact absurd hhold (hnone j c hc')
  have hthere : i < f.calls.length :=
    (List.getElem?_eq_some_iff.mp (InFlight.call?_eq_some.mp hc)).1
  have hfurther : FurtherInv log env cmd i f' :=
    (deliveries log).system.inv_of_along
      (fun s l s' h hl hs => h.next henv hcmd hl.1.1 hl.1.2 hl.2 hs)
      ⟨hinv, hinbox, hstored, hthere, by rw [hc]; rfl⟩ hcond' hrun'
  have hdelivered := hfurther.redelivering
  rw [hend] at hdelivered
  obtain ⟨r, hr⟩ := hfurther.stored
  exact ⟨(hfurther.inv.inv.store.stored _ r hr).1, hdelivered⟩

/-! ## A delivery that dies -/

/-- A call that does not hold the event. -/
def Abandons (log : CommandLog J) (env : AssetEnvelope J) : FounderAssetCall J → Prop
  | .recording e => e ∈ log.events
  | .dispatching e => e ∈ log.events ∧ e ≠ env
  | .storing e payload => e ∈ log.events ∧ e ≠ env ∧ ∃ cmd ∈ e.accepted, cmd.key = payload.key
  | _ => True

/-- The event is recorded, and the callback of its command is not stored. -/
def Lost (env : AssetEnvelope J) (cmd : FounderAssetCommand J) (s : FounderAssetStore J) : Prop :=
  (s.inbox.get? env.key).isSome ∧ s.outbox.get? cmd.key = none

omit [DecidableEq J] [PyValue J] in
theorem Lost.modify {key : String × String}
    {g : FounderAssetCallbackRecord J → FounderAssetCallbackRecord J} (h : Lost env cmd s) :
    Lost env cmd { s with outbox := s.outbox.modify key g } := by
  refine ⟨h.1, ?_⟩
  show (s.outbox.modify key g).get? cmd.key = none
  rw [Dict.get?_modify, h.2]
  rfl

omit [PyValue J] in
theorem Lost.enqueue (h : Lost env cmd s) (henv : env ∈ log.events) (hcmd : cmd ∈ env.accepted)
    {e : AssetEnvelope J} {payload : StatusCallback J}
    (hcall : Abandons log env (.storing e payload)) {s' : FounderAssetStore J}
    (hs : s.enqueue payload = .ok s') : Lost env cmd s' := by
  obtain ⟨he, hne, cmd', hcmd', hkey⟩ := hcall
  unfold FounderAssetStore.enqueue at hs
  cases hget : s.outbox.get? payload.key with
  | some =>
    rw [hget] at hs
    dsimp only at hs
    split_ifs at hs
    cases hs
    exact h
  | none =>
    rw [hget] at hs
    cases hs
    refine ⟨h.1, ?_⟩
    show (s.outbox.set payload.key { payload }).get? cmd.key = none
    rw [Dict.get?_set_of_ne _ (fun heq => ?_), h.2]
    exact hne (log.command_inj e he env henv cmd' hcmd' cmd hcmd (hkey.trans heq))

theorem lostRule (henv : env ∈ log.events) (hcmd : cmd ∈ env.accepted) :
    (deliveries log).Rule (fun _ _ _ => True) (Lost env cmd) (fun _ => Abandons log env) where
  start _ req _ := req.2
  abort _ _ hI _ := ⟨hI, fun _ hd => hd⟩
  step s c a s' c' hI hJ _ h := by
    replace h : c.step productionDeps s a = some (s', c') := h
    suffices hkeeps : Lost env cmd s' ∧ ∀ d ∈ c', Abandons log env d from
      ⟨hkeeps.1, fun _ hd => hd, hkeeps.2⟩
    have hsettling : ∀ e outcome reason, ∀ d ∈ some (settling e outcome reason),
        Abandons log env d := by
      intro e outcome reason d hd
      exact Option.some.inj hd ▸ trivial
    cases c with
    | recording e =>
      cases a with
      | ok =>
        rw [step] at h
        cases hget : s.inbox.get? e.key with
        | some =>
          rw [hget] at h
          cases h
          exact ⟨hI, fun d hd => Option.some.inj hd ▸ trivial⟩
        | none =>
          rw [hget] at h
          cases h
          refine ⟨⟨(updates_record e).inbox _ hI.1, hI.2⟩, fun d hd => ?_⟩
          cases hd
          refine ⟨hJ, fun heq => ?_⟩
          rw [heq] at hget
          nomatch hget ▸ hI.1
      | lost | refused | authored => nomatch h
    | dispatching e =>
      cases a with
      | authored answer =>
        have hstep := Option.some.inj h
        cases haccepted : e.accepted with
        | none =>
          obtain ⟨reason, hdispatch⟩ := dispatch_of_rejected (s := s) haccepted answer
          cases hdispatch.symm.trans hstep
          exact ⟨hI, hsettling _ _ _⟩
        | some cmd' =>
          obtain ⟨payload, hkey, hdispatch⟩ := dispatch_of_accepted (s := s) hJ.1 haccepted answer
          cases hdispatch.symm.trans hstep
          refine ⟨hI, fun d hd => ?_⟩
          cases hd
          exact ⟨hJ.1, hJ.2, cmd', haccepted, hkey.symm⟩
      | ok | lost | refused => nomatch h
    | storing _ payload =>
      cases a with
      | ok =>
        rw [step] at h
        cases henqueue : s.enqueue payload with
        | error =>
          rw [henqueue] at h
          cases h
          exact ⟨hI, hsettling _ _ _⟩
        | ok =>
          rw [henqueue] at h
          cases h
          exact ⟨hI.enqueue henv hcmd hJ henqueue, fun d hd => Option.some.inj hd ▸ trivial⟩
      | lost err =>
        cases h
        refine ⟨?_, hsettling _ _ _⟩
        cases henqueue : s.enqueue payload with
        | error => exact hI
        | ok => exact hI.enqueue henv hcmd hJ henqueue
      | refused =>
        cases h
        exact ⟨hI, hsettling _ _ _⟩
      | authored => nomatch h
    | sending =>
      cases a with
      | ok | lost err | refused err =>
        cases h
        exact ⟨hI, fun d hd => Option.some.inj hd ▸ trivial⟩
      | authored => nomatch h
    | marking =>
      cases a with
      | ok =>
        cases h
        exact ⟨hI.modify, hsettling _ _ _⟩
      | lost =>
        cases h
        exact ⟨hI.modify, fun d hd => Option.some.inj hd ▸ trivial⟩
      | refused =>
        cases h
        exact ⟨hI, fun d hd => Option.some.inj hd ▸ trivial⟩
      | authored => nomatch h
    | markingFailed =>
      cases a with
      | ok | lost err =>
        cases h
        exact ⟨hI.modify, hsettling _ _ _⟩
      | refused =>
        cases h
        exact ⟨hI, hsettling _ _ _⟩
      | authored => nomatch h
    | replaying e =>
      cases a with
      | ok =>
        cases h
        refine ⟨hI, fun d hd => ?_⟩
        unfold replay at hd
        dsimp only at hd
        rw [if_neg (by decide : ¬¬productionDeps.callbackOutbox)] at hd
        cases hget : s.outbox.get? (e.workspaceId, e.payload.commandId.getD "") with
        | none =>
          rw [hget] at hd
          exact Option.some.inj hd ▸ trivial
        | some r =>
          rw [hget] at hd
          dsimp only at hd
          cases hstatus : r.deliveryStatus with
          | delivered => simp [hstatus] at hd
          | pending =>
            rw [hstatus] at hd
            exact Option.some.inj hd ▸ trivial
      | lost | refused | authored => nomatch h
    | settling _ outcome reason =>
      cases a with
      | ok =>
        cases h
        exact ⟨⟨(updates_setOutcome outcome reason).inbox _ hI.1, hI.2⟩, fun d hd => nomatch hd⟩
      | lost | refused | authored => nomatch h

/-- A recorded event that none holds, without a callback, is never delivered. -/
theorem lost_of_run (henv : env ∈ log.events) (hcmd : cmd ∈ env.accepted)
    (hlost : Lost env cmd f.store) (hcalls : ∀ i c, f.call? i = some c → Abandons log env c)
    {ls : List (CallLabel {env : AssetEnvelope J // env ∈ log.events} (FounderAssetAnswer J))}
    (hrun : (deliveries log).system.run f ls = some f') : Lost env cmd f'.store :=
  ((lostRule henv hcmd).inv_of_run ⟨hlost, hcalls⟩ hrun).store

end

end

/-! ## One command -/

def createSkill : FounderAssetCommand String where
  commandId := "cmd-1"
  workspaceId := "ws-1"
  assetKind := "SKILL"
  operation := "CREATE"
  assetRef := { assetId := "skill.notes" }
  idempotencyKey := "key-1"
  reason := "First skill"

def createEvent : AssetEnvelope String where
  workspaceId := "ws-1"
  eventId := "event-1"
  actorId := "7"
  payload := {
    keys := ["commandId", "workspaceId", "assetKind", "operation", "assetRef", "idempotencyKey",
      "reason"]
    commandId := some "cmd-1"
    validated := .ok createSkill }

def createLog : CommandLog String where
  events := [createEvent]
  key_inj e he e' he' _ := (List.mem_singleton.mp he).trans (List.mem_singleton.mp he').symm
  command_inj e he e' he' _ _ _ _ _ :=
    (List.mem_singleton.mp he).trans (List.mem_singleton.mp he').symm
  commandId e he cmd hcmd := by
    obtain rfl := List.mem_singleton.mp he
    obtain rfl : createSkill = cmd := Option.some.inj hcmd
    rfl
  assetKind e he cmd hcmd := by
    obtain rfl := List.mem_singleton.mp he
    obtain rfl : createSkill = cmd := Option.some.inj hcmd
    decide

def createRequest : {env : AssetEnvelope String // env ∈ createLog.events} :=
  ⟨createEvent, List.mem_singleton.mpr rfl⟩

/-- The event is delivered twice at once, the callback times out, and the third delivery sends it. -/
def deliveredRun : List (CallLabel {env : AssetEnvelope String // env ∈ createLog.events}
    (FounderAssetAnswer String)) :=
  [.start createRequest, .step 0 .ok,
    .step 0 (.authored (.asset ⟨"skill.notes", some "0.1.0", some "sha256:1"⟩ .skill none)),
    .start createRequest, .step 1 .ok, .step 1 .ok, .step 1 .ok,
    .step 0 .ok, .step 0 (.refused "timeout"), .step 0 .ok, .step 0 .ok,
    .start createRequest, .step 2 .ok, .step 2 .ok, .step 2 .ok, .step 2 .ok, .step 2 .ok]

theorem callbackLaw_along_delivered :
    CallbackLaw createLog (((deliveries createLog).system.run { store := {} } deliveredRun).get
      (by decide +kernel)) ∧
    (deliveries createLog).system.Along (Service.Meets CallbackStepLaw) { store := {} }
      deliveredRun :=
  callbackLaw_along (by decide +kernel) (Option.some_get _).symm

/-- The delivery dies right after it has recorded the event. -/
def lostRun : List (CallLabel {env : AssetEnvelope String // env ∈ createLog.events}
    (FounderAssetAnswer String)) :=
  [.start createRequest, .step 0 .ok, .giveUp 0]

theorem not_callbackLaw_lostEvent :
    ¬∀ (log : CommandLog String) ls f, (deliveries log).system.run { store := {} } ls = some f →
      CallbackLaw log f ∧
        (deliveries log).system.Along (Service.Meets CallbackStepLaw) { store := {} } ls := by
  intro h
  let reached := ((deliveries createLog).system.run { store := {} } lostRun).get (by decide +kernel)
  obtain ⟨hlaw, -⟩ := h createLog lostRun reached (Option.some_get _).symm
  have hevent := createRequest.2
  have haccepted : createSkill ∈ createEvent.accepted := by decide +kernel
  obtain ⟨ls, f', -, -, hrun, -, r, hr, -⟩ := hlaw.ends createEvent hevent createSkill haccepted
    (by decide +kernel) (.raised "")
  have hcalls : ∀ i c, reached.call? i = some c → Abandons createLog createEvent c := by
    have hended : reached.calls.map Option.isSome = [false] := by decide +kernel
    intro i c hc
    have hsome := congrArg (Option.map Option.isSome) (InFlight.call?_eq_some.mp hc)
    rw [← List.getElem?_map, hended] at hsome
    match i with
    | 0 => nomatch hsome
    | i + 1 => nomatch hsome
  have hlost := lost_of_run hevent haccepted ⟨by decide +kernel, by decide +kernel⟩ hcalls hrun
  nomatch hlost.2.symm.trans hr

end JavisSaas.Cosa.Events
