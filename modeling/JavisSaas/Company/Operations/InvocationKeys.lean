import JavisSaas.Company.Operations.FrozenRevisions

/-!
# Invocations and their keys

* `invocationLaw_of_run`: after every run there is one invocation for a key, and one event for an
  invocation.
* `idempotencyKey_eq_iff`: which commands get the same key.
-/

namespace JavisSaas.Company.Operations

open JavisSaas.Lib

/-- An invocation for each workspace, revision and key, and a requested event for each of them. -/
structure InvocationLaw (s : AutomationStore) : Prop where
  distinct : (s.invocations.values.map fun i =>
    (i.workspaceId, i.revisionId, i.idempotencyKey)).Nodup
  requested : s.requested.map (·.invocationId) = s.invocations.keys

variable {hashes : AutomationHashes} {s s' : AutomationStore}

theorem InvocationLaw.inserted (h : InvocationLaw s) {id : ℕ} {row : AutomationInvocation}
    (hs : insertInvocation s id row = .ok s') : InvocationLaw s' := by
  unfold insertInvocation at hs
  split at hs
  · have hs := of_require hs
    cases hs
    exact h
  · next hnew =>
    obtain ⟨hid, hs⟩ := require_bind_eq_ok.mp hs
    cases hs
    have hitems := Dict.items_set_of_get?_eq_none hid row
    refine ⟨?_, ?_⟩
    · rw [Dict.values, hitems, List.map_append, List.map_append]
      refine List.nodup_append.mpr ⟨h.distinct, List.nodup_singleton _, fun a ha b hb heq => ?_⟩
      obtain ⟨w, hw, rfl⟩ := List.mem_map.mp ha
      obtain rfl := List.mem_singleton.mp hb
      exact List.find?_eq_none.mp hnew w hw (by simpa [and_assoc] using heq)
    · rw [List.map_append, h.requested, Dict.keys, Dict.keys, hitems, List.map_append]
      rfl

theorem InvocationLaw.step (h : InvocationLaw s) {call : AutomationCall}
    {answers : AutomationAnswers} {call' : Option AutomationCall} (hread : call.Read s)
    (hs : call.step hashes s answers = some (s', call')) : InvocationLaw s' := by
  cases (wrote_of_step hread hs).1 with
  | invoked row =>
    have hs := congrArg Prod.fst (Option.some.inj hs)
    cases hinsert : insertInvocation s answers.newId row with
    | error =>
      simp only [AutomationCall.perform, hinsert] at hs
      exact hs ▸ h
    | ok =>
      simp only [AutomationCall.perform, hinsert] at hs
      exact hs ▸ h.inserted hinsert
  | _ => exact ⟨h.distinct, h.requested⟩

theorem invocationRule (hashes : AutomationHashes) :
    (automationCalls hashes).Rule (fun _ _ _ => True)
      (fun s => Hashed hashes s ∧ InvocationLaw s) fun s call => call.Read s :=
  ((hashRule hashes).and (fun _ _ _ => True) InvocationLaw
    (fun _ _ _ _ _ _ hJ hlaw _ hs => hlaw.step hJ hs) fun _ _ _ _ hlaw => hlaw).imp
    fun _ _ _ _ => ⟨trivial, trivial⟩

theorem invocationLaw_empty (hashes : AutomationHashes) : Hashed hashes {} ∧ InvocationLaw {} :=
  ⟨fun _ _ hrow => (nomatch hrow), List.nodup_nil, rfl⟩

/-- However commands are submitted, one invocation and one event is created for a key. -/
theorem invocationLaw_of_run (hashes : AutomationHashes)
    {ls : List (CallLabel AutomationRequest AutomationAnswers)}
    {f : InFlight AutomationStore AutomationCall}
    (h : (automationCalls hashes).system.run ⟨{}, []⟩ ls = some f) : InvocationLaw f.store :=
  ((invocationRule hashes).inv_of_run (.of_empty (invocationLaw_empty hashes)) h).store.2

theorem invocationLaw_of_run_review : InvocationLaw (((automationCalls plainHashes).system.run
    ⟨{}, []⟩ (publishReview ++ useReview)).get (by decide +kernel)).store :=
  invocationLaw_of_run plainHashes (Option.some_get _).symm

/-! ## Keys -/

/-- The separator stands farther to the right in the second pair. -/
def Shifts (a b a' b' : String) : Prop := ∃ m, a' = a ++ ":" ++ m ∧ b = m ++ ":" ++ b'

theorem shifts_of_append {a b a' b' : String} {m : List Char} (ha : a'.toList = a.toList ++ m)
    (hb : ':' :: b.toList = m ++ ':' :: b'.toList) : a = a' ∧ b = b' ∨ Shifts a b a' b' := by
  cases m with
  | nil =>
    rw [List.append_nil] at ha
    exact .inl ⟨(String.toList_inj.mp ha).symm, String.toList_inj.mp (List.cons.inj hb).2⟩
  | cons _ m =>
    rw [List.cons_append] at hb
    obtain ⟨rfl, htail⟩ := List.cons.inj hb
    refine .inr ⟨.ofList m, ?_, ?_⟩ <;> apply String.toList_inj.mp
    · simp [ha]
    · simp [htail]

theorem append_colon_eq_iff {a b a' b' : String} :
    a ++ ":" ++ b = a' ++ ":" ++ b' ↔ a = a' ∧ b = b' ∨ Shifts a b a' b' ∨ Shifts a' b' a b := by
  constructor
  · intro h
    have hl := congrArg String.toList h
    simp only [String.toList_append, List.append_assoc] at hl
    rcases List.append_eq_append_iff.mp hl with ⟨m, ha, hb⟩ | ⟨m, ha, hb⟩
    · exact (shifts_of_append ha hb).imp_right .inl
    · exact (shifts_of_append ha hb).imp (fun h => ⟨h.1.symm, h.2.symm⟩) .inr
  · rintro (⟨rfl, rfl⟩ | ⟨m, rfl, rfl⟩ | ⟨m, rfl, rfl⟩)
    · rfl
    · simp only [String.append_assoc]
    · simp only [String.append_assoc]

/-- What names the occurrence that a command is for. -/
def InvocationCommand.identifiers (cmd : InvocationCommand) : Option String × Option String :=
  match cmd.triggerKind with
  | .manual => (cmd.clientRequestId, none)
  | .schedule => (cmd.scheduleId, cmd.scheduledFor)
  | .businessEvent => (cmd.triggerId, cmd.eventId)

/-- The identifiers are the same, or one continues the other across its separator. -/
def InvocationCommand.Collides (cmd cmd' : InvocationCommand) : Prop :=
  cmd.identifiers = cmd'.identifiers ∨ ∃ a b a' b', cmd.identifiers = (some a, some b) ∧
    cmd'.identifiers = (some a', some b') ∧ (Shifts a b a' b' ∨ Shifts a' b' a b)

theorem triggerIdentity_eq_ok {cmd : InvocationCommand} {i : String}
    (h : cmd.triggerIdentity = .ok i) :
    cmd.triggerKind = .manual ∧ cmd.identifiers = (some i, none) ∨ cmd.triggerKind ≠ .manual ∧
      ∃ a b, cmd.identifiers = (some a, some b) ∧ i = a ++ ":" ++ b := by
  have hfilled : ∀ {o : Option String} {a}, filled o = some a → o = some a := fun h =>
    (Option.filter_eq_some_iff.mp h).1
  unfold InvocationCommand.triggerIdentity at h
  unfold InvocationCommand.identifiers
  cases hkind : cmd.triggerKind <;> simp only [hkind] at h ⊢
  case manual =>
    split at h
    · next hid => cases h; simp [hfilled hid]
    · nomatch h
  case schedule | businessEvent =>
    split at h
    · next ha hb => cases h; simp [hfilled ha, hfilled hb]
    · nomatch h

theorem row_key_eq_iff {v v' : Invoking} {r r' : RevisionContent} {i i' : String}
    (hworkspace : v.workspaceId = v'.workspaceId) (hrevision : v.revisionId = v'.revisionId) :
    (v.row hashes r i).idempotencyKey = (v'.row hashes r' i').idempotencyKey ↔
      v.command.triggerKind = v'.command.triggerKind ∧ i = i' := by
  simp only [Invoking.row, hworkspace, hrevision]
  cases v.command.triggerKind <;> cases v'.command.triggerKind <;>
    simp [TriggerKind.text, ← String.toList_inj]

theorem triggerIdentity_eq_iff {cmd cmd' : InvocationCommand} {i i' : String}
    (hkind : cmd.triggerKind = cmd'.triggerKind) (hi : cmd.triggerIdentity = .ok i)
    (hi' : cmd'.triggerIdentity = .ok i') : i = i' ↔ cmd.Collides cmd' := by
  unfold InvocationCommand.Collides
  rcases triggerIdentity_eq_ok hi with ⟨hm, hids⟩ | ⟨hm, a, b, hids, rfl⟩ <;>
    rcases triggerIdentity_eq_ok hi' with ⟨hm', hids'⟩ | ⟨hm', a', b', hids', rfl⟩
  · simp [hids, hids']
  · exact absurd (hkind.symm.trans hm) hm'
  · exact absurd (hkind.trans hm') hm
  · rw [append_colon_eq_iff, hids, hids']
    simp

/-- One revision and one kind: the keys are equal exactly if the identifiers collide. -/
theorem idempotencyKey_eq_iff (hashes : AutomationHashes) {v v' : Invoking}
    {r r' : RevisionContent} {i i' : String} (hworkspace : v.workspaceId = v'.workspaceId)
    (hrevision : v.revisionId = v'.revisionId) (hi : v.command.triggerIdentity = .ok i)
    (hi' : v'.command.triggerIdentity = .ok i') :
    (v.row hashes r i).idempotencyKey = (v'.row hashes r' i').idempotencyKey ↔
      v.command.triggerKind = v'.command.triggerKind ∧ v.command.Collides v'.command := by
  rw [row_key_eq_iff hworkspace hrevision]
  exact and_congr_right fun hkind => triggerIdentity_eq_iff hkind hi hi'

def weekly (scheduleId scheduledFor : String) : Invoking where
  definitionId := 10
  command := {
    triggerKind := .schedule
    scheduleId := some scheduleId
    scheduledFor := some scheduledFor }
  workspaceId := 1
  definition := {
    workspaceId := 1
    automationKey := "operating.weekly-review"
    lifecycleState := .published
    currentRevisionId := some 20 }
  revisionId := 20

theorem idempotencyKey_weekly : ∃ v v' : Invoking, v.command.scheduleId ≠ v'.command.scheduleId ∧
    ∀ r, (v.row plainHashes r "a:b:c").idempotencyKey =
      (v'.row plainHashes r "a:b:c").idempotencyKey :=
  ⟨weekly "a" "b:c", weekly "a:b" "c", by decide, fun _ =>
    (idempotencyKey_eq_iff plainHashes (by rfl) (by rfl) (by rfl) (by rfl)).mpr
      ⟨rfl, .inr ⟨"a", "b:c", "a:b", "c", rfl, rfl, .inl ⟨"b", rfl, rfl⟩⟩⟩⟩

end JavisSaas.Company.Operations
