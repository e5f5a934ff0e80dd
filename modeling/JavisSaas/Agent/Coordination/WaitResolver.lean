import Mathlib.Data.Int.Notation
import JavisSaas.Lib.Dict
import JavisSaas.Lib.Transition

/-!
# Waits and the events that resolve them

`packages/agent/coordination/wait_resolver.py`. A call holds the lock while it runs, so the calls
follow one another; the clock reading of each is an argument. The same identifier may be registered
again, and its entry is then another one.

* `visitAll_resolved`: what the loop of `resolve_wait_by_event` returns.
* `FreshSerials.visitAll`: no registration is resolved twice.
-/

namespace JavisSaas.Agent.Coordination

open JavisSaas.Lib

/-! ## Descriptors and entries -/

inductive WaitKind
  | approval
  | event
  | input
  | timer
  | externalDependency
  deriving DecidableEq

structure WaitDescriptor where
  id : String
  kind : WaitKind := .approval
  reason : String
  ownerResponder : Option String := none
  resumeTrigger : String := "approval.decided"
  checkpointRef : String
  relatedRef : Option String := none
  expiresAt : Option ℤ := none
  deriving DecidableEq

inductive WaitStatus
  | active
  | resolved
  | expired
  | cancelled
  deriving DecidableEq

/-- `serial` is the number of the registration that made the entry. -/
structure WaitEntry where
  runId : String
  descriptor : WaitDescriptor
  status : WaitStatus := .active
  serial : ℕ

variable {J : Type}

/-- The arguments of `resolve_wait_by_event`. -/
structure WaitEvent (J : Type) where
  eventName : String
  relatedRef : Option String := none
  responder : Option String := none
  payload : Option (Dict String J) := none
  runId : Option String := none
  deriving DecidableEq

structure WaitResolutionResult (J : Type) where
  waitId : String
  runId : String
  checkpointRef : String
  isResolved : Bool
  kind : WaitKind
  reason : String
  unblockedBy : Option String
  unblockingPayload : Dict String J
  resolvedAt : ℤ

structure WaitResolver where
  entries : Dict String WaitEntry := ∅
  runToWaits : Dict String (List String) := ∅

/-! ## Matching (lines 103–131) -/

/-- `name.startswith(stem)`. -/
def startsWith (name stem : String) : Bool := stem.toList.isPrefixOf name.toList

/-- `name.endswith(tail)`. -/
def endsWith (name tail : String) : Bool := tail.toList.isSuffixOf name.toList

/-- `trigger.rstrip("*")`. -/
def stem (trigger : String) : String :=
  String.ofList (trigger.toList.reverse.dropWhile (· = '*')).reverse

def triggerMatch (desc : WaitDescriptor) (eventName : String) : Bool :=
  desc.resumeTrigger = eventName || startsWith eventName (stem desc.resumeTrigger)

/-- The event is about something else; an empty or missing reference on either side is not. -/
def refDiffers (desc : WaitDescriptor) (ev : WaitEvent J) : Bool :=
  truthy desc.relatedRef && truthy ev.relatedRef && desc.relatedRef ≠ ev.relatedRef

def isAdmin (responder : String) : Bool := endsWith responder ":admin" || responder = "admin"

/-- The event comes from somebody else, who is no administrator. -/
def responderDiffers (desc : WaitDescriptor) (ev : WaitEvent J) : Bool :=
  truthy desc.ownerResponder && truthy ev.responder && desc.ownerResponder ≠ ev.responder &&
    !(ev.responder.any isAdmin)

def isExpired (desc : WaitDescriptor) (now : ℤ) : Bool := desc.expiresAt.any (· < now)

def accepts (desc : WaitDescriptor) (ev : WaitEvent J) : Bool :=
  triggerMatch desc ev.eventName && !refDiffers desc ev && !responderDiffers desc ev

/-! ## The calls -/

namespace WaitResolver

def registerWait (s : WaitResolver) (runId : String) (descriptor : WaitDescriptor) (serial : ℕ) :
    WaitResolver where
  entries := s.entries.set descriptor.id { runId, descriptor, serial }
  runToWaits := s.runToWaits.set runId
    ((s.runToWaits.get? runId).getD [] ++ [descriptor.id])

/-- The identifiers that a call goes through: those of a run, if one is given. -/
def targetIds (s : WaitResolver) (runId : Option String) : List String :=
  if truthy runId then (s.runToWaits.get? (runId.getD "")).getD [] else s.entries.keys

end WaitResolver

/-- The entry after `get_active_waits` has looked at it. -/
def expire (now : ℤ) (e : WaitEntry) : WaitEntry :=
  if e.status = .active ∧ isExpired e.descriptor now then { e with status := .expired } else e

def getActiveWaits (s : WaitResolver) (runId : Option String) (now : ℤ) :
    WaitResolver × List WaitEntry :=
  let ids := s.targetIds runId
  let entries := ids.foldl (fun entries id => entries.modify id (expire now)) s.entries
  ({ s with entries }, (ids.filterMap entries.get?).filter (·.status = .active))

/-- The entry after the loop of `resolve_wait_by_event` has looked at it. -/
def settle (ev : WaitEvent J) (now : ℤ) (e : WaitEntry) : WaitEntry :=
  if e.status ≠ .active then e
  else if isExpired e.descriptor now then { e with status := .expired }
  else if accepts e.descriptor ev then { e with status := .resolved }
  else e

/-- The loop resolves the entry. -/
def Resolves (ev : WaitEvent J) (now : ℤ) (e : WaitEntry) : Prop :=
  e.status = .active ∧ ¬ isExpired e.descriptor now ∧ accepts e.descriptor ev
deriving Decidable

/-- The loop's body: the entries, and those that were resolved so far. -/
def visit (ev : WaitEvent J) (now : ℤ) (acc : Dict String WaitEntry × List WaitEntry)
    (id : String) : Dict String WaitEntry × List WaitEntry :=
  match acc.1.get? id with
  | none => acc
  | some e => (acc.1.set id (settle ev now e), acc.2 ++ if Resolves ev now e then [e] else [])

def resultOf (ev : WaitEvent J) (now : ℤ) (e : WaitEntry) : WaitResolutionResult J where
  waitId := e.descriptor.id
  runId := e.runId
  checkpointRef := e.descriptor.checkpointRef
  isResolved := true
  kind := e.descriptor.kind
  reason := e.descriptor.reason
  unblockedBy := ev.responder
  unblockingPayload := ev.payload.getD ∅
  resolvedAt := now

/-- The loop, with the entries that it resolves. -/
def resolveLoop (s : WaitResolver) (ev : WaitEvent J) (now : ℤ) :
    Dict String WaitEntry × List WaitEntry :=
  (s.targetIds ev.runId).foldl (visit ev now) (s.entries, [])

def resolveWaitByEvent (s : WaitResolver) (ev : WaitEvent J) (now : ℤ) :
    WaitResolver × List (WaitResolutionResult J) :=
  let (entries, resolved) := resolveLoop s ev now
  ({ s with entries }, resolved.map (resultOf ev now))

/-! ## Runs -/

/-- Which registration was resolved, by which event and when. -/
structure Resolution (J : Type) where
  serial : ℕ
  event : WaitEvent J
  now : ℤ
  deriving DecidableEq

structure ResolverState (J : Type) where
  resolver : WaitResolver := {}
  /-- Every registration, in order. -/
  registered : List (String × WaitDescriptor) := []
  log : List (Resolution J) := []

inductive ResolverCall (J : Type)
  | registerWait (runId : String) (descriptor : WaitDescriptor)
  | getActiveWaits (runId : Option String) (now : ℤ)
  | resolveWaitByEvent (ev : WaitEvent J) (now : ℤ)

def waitResolver (J : Type) : System (ResolverState J) (ResolverCall J) where
  next s
    | .registerWait runId descriptor => some { s with
        resolver := s.resolver.registerWait runId descriptor s.registered.length
        registered := s.registered ++ [(runId, descriptor)] }
    | .getActiveWaits runId now =>
      some { s with resolver := (getActiveWaits s.resolver runId now).1 }
    | .resolveWaitByEvent ev now =>
      some { s with
        resolver := (resolveWaitByEvent s.resolver ev now).1
        log := s.log ++ (resolveLoop s.resolver ev now).2.map fun e => ⟨e.serial, ev, now⟩ }

/-! ## What the loops do to the entries -/

theorem settle_settle (ev : WaitEvent J) (now : ℤ) (e : WaitEntry) :
    settle ev now (settle ev now e) = settle ev now e := by
  unfold settle
  split_ifs <;> simp_all

theorem settle_serial (ev : WaitEvent J) (now : ℤ) (e : WaitEntry) :
    (settle ev now e).serial = e.serial := by
  unfold settle
  split_ifs <;> rfl

theorem settle_runId (ev : WaitEvent J) (now : ℤ) (e : WaitEntry) :
    (settle ev now e).runId = e.runId := by
  unfold settle
  split_ifs <;> rfl

theorem settle_descriptor (ev : WaitEvent J) (now : ℤ) (e : WaitEntry) :
    (settle ev now e).descriptor = e.descriptor := by
  unfold settle
  split_ifs <;> rfl

variable {ev : WaitEvent J} {now : ℤ} {logged : List ℕ}

theorem settle_of_resolves {e : WaitEntry} (h : Resolves ev now e) :
    settle ev now e = { e with status := .resolved } := by
  unfold settle
  rw [if_neg (not_not.mpr h.1), if_neg h.2.1, if_pos h.2.2]

theorem not_resolves_settle (ev : WaitEvent J) (now : ℤ) (e : WaitEntry) :
    ¬ Resolves ev now (settle ev now e) := by
  intro h
  have hsame := (settle_of_resolves h).symm.trans (settle_settle ev now e)
  have hactive := h.1
  rw [← hsame] at hactive
  nomatch hactive

theorem get?_visit (ev : WaitEvent J) (now : ℤ) (acc : Dict String WaitEntry × List WaitEntry)
    (id id' : String) : (visit ev now acc id).1.get? id' =
      (acc.1.get? id').map fun e => if id = id' then settle ev now e else e := by
  unfold visit
  cases hget : acc.1.get? id with
  | none =>
    by_cases hid : id = id'
    · subst hid
      rw [hget]
      rfl
    · simp only [hid, if_false, Option.map_id']
  | some =>
    dsimp only
    rw [Dict.get?_set]
    by_cases hid : id = id'
    · subst hid
      rw [if_pos rfl, hget]
      simp
    · simp only [hid, if_false, Option.map_id']

/-- Every entry that the loop comes to is settled, once or more often. -/
theorem get?_visitAll (ev : WaitEvent J) (now : ℤ) (ids : List String)
    (acc : Dict String WaitEntry × List WaitEntry) (id : String) :
    (ids.foldl (visit ev now) acc).1.get? id =
      (acc.1.get? id).map fun e => if id ∈ ids then settle ev now e else e := by
  induction ids generalizing acc with
  | nil => simp
  | cons first ids ih =>
    rw [List.foldl_cons, ih, get?_visit, Option.map_map]
    congr 1
    funext e
    by_cases hfirst : first = id
    · subst hfirst
      by_cases hin : first ∈ ids
      · simp [hin, settle_settle]
      · simp [hin]
    · have hne : id ≠ first := fun h => hfirst h.symm
      simp [hfirst, hne]

/-- The entries that the loop resolves are those that it could resolve when it began. -/
theorem visitAll_resolved (ev : WaitEvent J) (now : ℤ) (ids : List String)
    (acc : Dict String WaitEntry × List WaitEntry) (e : WaitEntry) :
    e ∈ (ids.foldl (visit ev now) acc).2 ↔
      e ∈ acc.2 ∨ Resolves ev now e ∧ ∃ id ∈ ids, acc.1.get? id = some e := by
  induction ids generalizing acc with
  | nil => simp
  | cons first ids ih =>
    have hfirst : e ∈ (visit ev now acc first).2 ↔
        e ∈ acc.2 ∨ Resolves ev now e ∧ acc.1.get? first = some e := by
      unfold visit
      cases hget : acc.1.get? first with
      | none => simp
      | some =>
        dsimp only
        rw [List.mem_append, Option.some_inj]
        split_ifs with hresolves
        · rw [List.mem_singleton]
          exact or_congr_right ⟨fun h => ⟨h ▸ hresolves, h.symm⟩, fun h => h.2.symm⟩
        · refine or_congr_right ⟨fun h => absurd h List.not_mem_nil, fun h => ?_⟩
          exact absurd (h.2 ▸ h.1) hresolves
    have hrest : (Resolves ev now e ∧ ∃ id ∈ ids, (visit ev now acc first).1.get? id = some e) ↔
        Resolves ev now e ∧ ∃ id ∈ ids, first ≠ id ∧ acc.1.get? id = some e := by
      refine and_congr_right fun hresolves => exists_congr fun id => and_congr_right fun _ => ?_
      rw [get?_visit, Option.map_eq_some_iff]
      constructor
      · rintro ⟨e', hget, hsettled⟩
        split_ifs at hsettled with hid
        · exact absurd (hsettled ▸ hresolves) (not_resolves_settle ev now e')
        · exact ⟨hid, hsettled ▸ hget⟩
      · rintro ⟨hid, hget⟩
        exact ⟨e, hget, if_neg hid⟩
    rw [List.foldl_cons, ih, hfirst, hrest, or_assoc]
    refine or_congr_right ?_
    constructor
    · rintro (⟨hresolves, hget⟩ | ⟨hresolves, id, hid, -, hget⟩)
      · exact ⟨hresolves, first, List.mem_cons_self, hget⟩
      · exact ⟨hresolves, id, List.mem_cons_of_mem _ hid, hget⟩
    · rintro ⟨hresolves, id, hid, hget⟩
      by_cases hsame : first = id
      · exact .inl ⟨hresolves, hsame ▸ hget⟩
      · rcases List.mem_cons.mp hid with rfl | hid
        · exact absurd rfl hsame
        · exact .inr ⟨hresolves, id, hid, hsame, hget⟩

theorem get?_expireAll (now : ℤ) (ids : List String) (entries : Dict String WaitEntry)
    (id : String) :
    ∃ f : WaitEntry → WaitEntry, (∀ e, f e = e ∨ f e = { e with status := .expired }) ∧
      (ids.foldl (fun entries id => entries.modify id (expire now)) entries).get? id =
        (entries.get? id).map f := by
  induction ids generalizing entries with
  | nil => exact ⟨fun e => e, fun _ => .inl rfl, by simp⟩
  | cons first _ ih =>
    obtain ⟨f, hf, hget⟩ := ih (entries.modify first (expire now))
    refine ⟨fun e => f (if first = id then expire now e else e), fun e => ?_, ?_⟩
    · have hexpire : (if first = id then expire now e else e) = e ∨
          (if first = id then expire now e else e) = { e with status := .expired } := by
        unfold expire
        split_ifs <;> simp
      rcases hexpire with he | he <;> rcases hf (if first = id then expire now e else e) with h | h
      · exact .inl (h.trans he)
      · exact .inr (h.trans (by rw [he]))
      · exact .inr (h.trans he)
      · exact .inr (h.trans (by rw [he]))
    · rw [List.foldl_cons, hget, Dict.get?_modify, Option.map_map]
      rfl

/-! ## The serial numbers -/

/-- Entries have different serial numbers, and what is still active has not been logged. -/
structure FreshSerials (entries : Dict String WaitEntry) (logged : List ℕ) : Prop where
  unique : ∀ id id' e e', entries.get? id = some e → entries.get? id' = some e' →
    e.serial = e'.serial → id = id'
  nodup : logged.Nodup
  fresh : ∀ id e, entries.get? id = some e → e.status = .active → e.serial ∉ logged

theorem FreshSerials.of_map {entries entries' : Dict String WaitEntry}
    (h : FreshSerials entries logged)
    (hmap : ∀ id e', entries'.get? id = some e' → ∃ e, entries.get? id = some e ∧
      e'.serial = e.serial ∧ (e'.status = .active → e.status = .active)) :
    FreshSerials entries' logged where
  unique id id' e e' hget hget' hserial := by
    obtain ⟨e₀, hget₀, hserial₀, -⟩ := hmap id e hget
    obtain ⟨e₁, hget₁, hserial₁, -⟩ := hmap id' e' hget'
    exact h.unique id id' e₀ e₁ hget₀ hget₁ (hserial₀.symm.trans (hserial.trans hserial₁))
  nodup := h.nodup
  fresh id e' hget hactive := by
    obtain ⟨e, hget, hserial, hback⟩ := hmap id e' hget
    rw [hserial]
    exact h.fresh id e hget (hback hactive)

theorem active_of_settle {ev : WaitEvent J} {now : ℤ} {e : WaitEntry}
    (h : (settle ev now e).status = .active) : e.status = .active ∧ ¬ Resolves ev now e := by
  refine ⟨?_, fun hresolves => ?_⟩
  · by_contra hother
    unfold settle at h
    rw [if_pos hother] at h
    exact hother h
  · rw [settle_of_resolves hresolves] at h
    nomatch h

theorem FreshSerials.visit {acc : Dict String WaitEntry × List WaitEntry}
    (h : FreshSerials acc.1 (logged ++ acc.2.map (·.serial))) (id : String) :
    FreshSerials (Coordination.visit ev now acc id).1
      (logged ++ (Coordination.visit ev now acc id).2.map (·.serial)) := by
  have hmap : ∀ id' e', (Coordination.visit ev now acc id).1.get? id' = some e' →
      ∃ e, acc.1.get? id' = some e ∧ e'.serial = e.serial ∧
        (e'.status = .active → e.status = .active ∧ (id = id' → ¬ Resolves ev now e)) := by
    intro id' e' hget
    rw [get?_visit, Option.map_eq_some_iff] at hget
    obtain ⟨e, hget, rfl⟩ := hget
    refine ⟨e, hget, ?_⟩
    split_ifs with hid
    · exact ⟨settle_serial ev now e, fun hactive =>
        ⟨(active_of_settle hactive).1, fun _ => (active_of_settle hactive).2⟩⟩
    · exact ⟨rfl, fun hactive => ⟨hactive, fun hsame => absurd hsame hid⟩⟩
  have hkept := h.of_map fun id' e' hget => by
    obtain ⟨e, hget, hserial, hback⟩ := hmap id' e' hget
    exact ⟨e, hget, hserial, fun hactive => (hback hactive).1⟩
  cases hget : acc.1.get? id with
  | none =>
    have hsame : (Coordination.visit ev now acc id).2 = acc.2 := by
      rw [Coordination.visit, hget]
    rw [hsame]
    exact hkept
  | some e =>
    have hnew : (Coordination.visit ev now acc id).2 =
        acc.2 ++ if Resolves ev now e then [e] else [] := by
      rw [Coordination.visit, hget]
    rw [hnew]
    split_ifs with hresolves
    · -- the entry was active, so its number is new in the log
      have hfresh := h.fresh id e hget hresolves.1
      rw [List.map_append, List.map_singleton, ← List.append_assoc]
      refine ⟨hkept.unique, ?_, fun id' e' hget' hactive hmem => ?_⟩
      · rw [List.nodup_append]
        refine ⟨h.nodup, List.nodup_singleton _, fun a ha b hb hab => ?_⟩
        rw [List.mem_singleton] at hb
        exact hfresh (hb ▸ hab ▸ ha)
      · obtain ⟨e₀, hget₀, hserial, hback⟩ := hmap id' e' hget'
        rcases mem_concat hmem with hmem | hmem
        · exact hkept.fresh id' e' hget' hactive hmem
        · have hid : id = id' :=
            h.unique id id' e e₀ hget hget₀ (hmem.symm.trans hserial)
          subst hid
          cases hget.symm.trans hget₀
          exact (hback hactive).2 rfl hresolves
    · rw [List.append_nil]
      exact hkept

theorem FreshSerials.visitAll (ids : List String) {acc : Dict String WaitEntry × List WaitEntry}
    (h : FreshSerials acc.1 (logged ++ acc.2.map (·.serial))) :
    FreshSerials (ids.foldl (Coordination.visit ev now) acc).1
      (logged ++ (ids.foldl (Coordination.visit ev now) acc).2.map (·.serial)) := by
  induction ids generalizing acc with
  | nil => exact h
  | cons id _ ih => exact ih (h.visit id)

end JavisSaas.Agent.Coordination
