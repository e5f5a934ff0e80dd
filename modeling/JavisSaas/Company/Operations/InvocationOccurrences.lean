import JavisSaas.Company.Operations.InvocationKeys

/-!
# Occurrences of a trigger

* `occurrenceLaw_along`: keys stand for occurrences, and every occurrence gets one invocation of
  its own in every run, just when no two of the commands cross at the separator.
* `not_occurrenceLaw_weekly`: two schedules get one invocation.
-/

namespace JavisSaas.Company.Operations

open JavisSaas.Lib

/-! ## The law -/

/-- Two commands for one occurrence. -/
def InvocationCommand.SameOccurrence (cmd cmd' : InvocationCommand) : Prop :=
  cmd.triggerKind = cmd'.triggerKind ∧ cmd.identifiers = cmd'.identifiers

/-- The first identifier of `cmd'` is that of `cmd`, the separator, and a beginning of its second. -/
def InvocationCommand.Crosses (cmd cmd' : InvocationCommand) : Prop :=
  cmd.triggerKind = cmd'.triggerKind ∧ ∃ a b a' b', cmd.identifiers = (some a, some b) ∧
    cmd'.identifiers = (some a', some b') ∧ Shifts a b a' b'

def AutomationInvocation.SameKey (row row' : AutomationInvocation) : Prop :=
  row.workspaceId = row'.workspaceId ∧ row.revisionId = row'.revisionId ∧
    row.idempotencyKey = row'.idempotencyKey

/-- The command can have recorded the row. -/
def Invoking.Records (hashes : AutomationHashes) (v : Invoking) (row : AutomationInvocation) :
    Prop :=
  ∃ r i, v.command.triggerIdentity = .ok i ∧ row = v.row hashes r i

section Law

variable (hashes : AutomationHashes) (P : Invoking → Prop)

/-- One invocation under the key, with one event, recorded by commands for one occurrence only. -/
structure Answered (cmd : InvocationCommand) (row : AutomationInvocation) (s : AutomationStore)
    (id : ℕ) (e : AutomationInvocation) : Prop where
  found : s.invocations.get? id = some e
  sameKey : e.SameKey row
  only : ∀ id' e', s.invocations.get? id' = some e' → e'.SameKey row → id' = id
  event : (s.requested.map (·.invocationId)).count id = 1
  occurrence : ∀ v', P v' → v'.Records hashes e → cmd.SameOccurrence v'.command

/-- Commands have one key just when they are for one occurrence; an invocation has one event; and
who succeeds is answered with its own. -/
structure OccurrenceLaw (s : AutomationStore) : Prop where
  keyed : ∀ v v' row row', P v → P v' → v.workspaceId = v'.workspaceId →
    v.revisionId = v'.revisionId → v.Records hashes row → v'.Records hashes row' →
    (row.idempotencyKey = row'.idempotencyKey ↔ v.command.SameOccurrence v'.command)
  recorded : ∀ row ∈ s.invocations.values, ∃ v, P v ∧ v.Records hashes row
  single : InvocationLaw s
  answered : ∀ v row newId s', P v → v.Records hashes row →
    insertInvocation s newId row = .ok s' → ∃ id e, Answered hashes P v.command row s' id e

/-- No two commands for one revision, with their identifiers, cross. -/
def NoneCrosses : Prop :=
  ∀ v v' row row', P v → P v' → v.workspaceId = v'.workspaceId → v.revisionId = v'.revisionId →
    v.Records hashes row → v'.Records hashes row' → ¬v.command.Crosses v'.command

/-- The commands that are run are among `P`. -/
def RunsOnly (_ : AutomationStore) : AutomationCall → AutomationAnswers → Prop
  | .reading v, _ => P v
  | _, _ => True

instance [DecidablePred P] (s : AutomationStore) (call : AutomationCall)
    (answers : AutomationAnswers) : Decidable (RunsOnly P s call answers) := by
  unfold RunsOnly
  split <;> infer_instance

end Law

/-! ## Keys and occurrences -/

theorem ne_append_colon (a m : String) : a ≠ a ++ ":" ++ m := by
  intro h
  have hlength := congrArg (fun s => s.toList.length) h
  simp at hlength

theorem collides_iff {cmd cmd' : InvocationCommand} (hkind : cmd.triggerKind = cmd'.triggerKind) :
    cmd.Collides cmd' ↔
      cmd.identifiers = cmd'.identifiers ∨ cmd.Crosses cmd' ∨ cmd'.Crosses cmd := by
  constructor
  · rintro (hsame | ⟨a, b, a', b', h, h', hright | hleft⟩)
    · exact .inl hsame
    · exact .inr (.inl ⟨hkind, a, b, a', b', h, h', hright⟩)
    · exact .inr (.inr ⟨hkind.symm, a', b', a, b, h', h, hleft⟩)
  · rintro (hsame | ⟨-, a, b, a', b', h, h', hright⟩ | ⟨-, a', b', a, b, h', h, hleft⟩)
    · exact .inl hsame
    · exact .inr ⟨a, b, a', b', h, h', .inl hright⟩
    · exact .inr ⟨a, b, a', b', h, h', .inr hleft⟩

theorem InvocationCommand.Crosses.ne {cmd cmd' : InvocationCommand} (h : cmd.Crosses cmd') :
    cmd.identifiers ≠ cmd'.identifiers := by
  obtain ⟨-, a, b, a', b', hcmd, hcmd', m, ha, -⟩ := h
  rw [hcmd, hcmd']
  intro heq
  cases heq
  exact ne_append_colon a m ha

variable {hashes : AutomationHashes} {P : Invoking → Prop} {s s' : AutomationStore} {v v' : Invoking}
  {row row' : AutomationInvocation}

theorem Invoking.Records.key_eq_iff (h : v.Records hashes row) (h' : v'.Records hashes row')
    (hworkspace : v.workspaceId = v'.workspaceId) (hrevision : v.revisionId = v'.revisionId) :
    row.idempotencyKey = row'.idempotencyKey ↔
      v.command.triggerKind = v'.command.triggerKind ∧ v.command.Collides v'.command := by
  obtain ⟨r, i, hi, rfl⟩ := h
  obtain ⟨r', i', hi', rfl⟩ := h'
  rw [row_key_eq_iff hworkspace hrevision]
  exact and_congr_right fun hkind => triggerIdentity_eq_iff hkind hi hi'

theorem NoneCrosses.key_eq_iff (hnone : NoneCrosses hashes P) (hv : P v) (hv' : P v')
    (hworkspace : v.workspaceId = v'.workspaceId) (hrevision : v.revisionId = v'.revisionId)
    (h : v.Records hashes row) (h' : v'.Records hashes row') :
    row.idempotencyKey = row'.idempotencyKey ↔ v.command.SameOccurrence v'.command := by
  rw [h.key_eq_iff h' hworkspace hrevision]
  refine and_congr_right fun hkind => (collides_iff hkind).trans (or_iff_left ?_)
  rintro (hcross | hcross)
  · exact hnone v v' row row' hv hv' hworkspace hrevision h h' hcross
  · exact hnone v' v row' row hv' hv hworkspace.symm hrevision.symm h' h hcross

theorem OccurrenceLaw.noneCrosses (h : OccurrenceLaw hashes P s) : NoneCrosses hashes P := by
  intro v v' row row' hv hv' hworkspace hrevision hrow hrow' hcross
  have hcollide : v.command.Collides v'.command := (collides_iff hcross.1).mpr (.inr (.inl hcross))
  have hkey := (hrow.key_eq_iff hrow' hworkspace hrevision).mpr ⟨hcross.1, hcollide⟩
  exact hcross.ne ((h.keyed v v' row row' hv hv' hworkspace hrevision hrow hrow').mp hkey).2

theorem Invoking.Records.own (h : v.Records hashes row) :
    row.workspaceId = v.workspaceId ∧ row.revisionId = v.revisionId := by
  obtain ⟨_, _, -, rfl⟩ := h
  exact ⟨rfl, rfl⟩

/-! ## Answers -/

theorem AutomationInvocation.SameKey.trans_symm {e e' : AutomationInvocation} (h' : e'.SameKey row)
    (h : e.SameKey row) : e'.SameKey e :=
  ⟨h'.1.trans h.1.symm, h'.2.1.trans h.2.1.symm, h'.2.2.trans h.2.2.symm⟩

theorem sameKey_of_invocationOf {e : AutomationInvocation} (h : s.invocationOf row = some e) :
    e.SameKey row := by
  simpa [AutomationInvocation.SameKey, and_assoc] using List.find?_some h

theorem exists_sameKey_of_insert {newId : ℕ} (h : insertInvocation s newId row = .ok s') :
    ∃ id e, s'.invocations.get? id = some e ∧ e.SameKey row := by
  unfold insertInvocation at h
  split at h
  · next e he =>
    have h := of_require h
    cases h
    obtain ⟨id, hid⟩ := Dict.mem_values.mp (List.mem_of_find?_eq_some he)
    exact ⟨id, e, hid, sameKey_of_invocationOf he⟩
  · have h := of_require h
    cases h
    exact ⟨newId, row, Dict.get?_set_self .., rfl, rfl, rfl⟩

theorem InvocationLaw.id_eq (h : InvocationLaw s) {id id' : ℕ} {e e' : AutomationInvocation}
    (he : s.invocations.get? id = some e) (he' : s.invocations.get? id' = some e')
    (hkey : e'.SameKey e) : id' = id := by
  have hdistinct := h.distinct
  rw [Dict.values, List.map_map] at hdistinct
  have hitem := List.inj_on_of_nodup_map hdistinct (Dict.get?_eq_some.mp he')
    (Dict.get?_eq_some.mp he) (by
      obtain ⟨hworkspace, hrevision, hkey⟩ := hkey
      simp [hworkspace, hrevision, hkey])
  exact congrArg Prod.fst hitem

theorem InvocationLaw.count_requested (h : InvocationLaw s) {id : ℕ} {e : AutomationInvocation}
    (he : s.invocations.get? id = some e) : (s.requested.map (·.invocationId)).count id = 1 := by
  rw [h.requested]
  exact List.count_eq_one_of_mem s.invocations.nodup (Dict.mem_keys_of_get? he)

/-- Also the invocation that was recorded before was recorded for this occurrence. -/
theorem answered_of_insert (hnone : NoneCrosses hashes P) (hsingle : InvocationLaw s) (hv : P v)
    (hrow : v.Records hashes row) {newId : ℕ} (h : insertInvocation s newId row = .ok s') :
    ∃ id e, Answered hashes P v.command row s' id e := by
  have hsingle' := hsingle.inserted h
  obtain ⟨id, e, he, hkey⟩ := exists_sameKey_of_insert h
  refine ⟨id, e, he, hkey, fun id' e' he' hkey' => hsingle'.id_eq he he' (hkey'.trans_symm hkey),
    hsingle'.count_requested he, fun v' hv' he' => ?_⟩
  have hworkspace : v.workspaceId = v'.workspaceId :=
    hrow.own.1.symm.trans (hkey.1.symm.trans he'.own.1)
  have hrevision : v.revisionId = v'.revisionId :=
    hrow.own.2.symm.trans (hkey.2.1.symm.trans he'.own.2)
  exact (hnone.key_eq_iff hv hv' hworkspace hrevision hrow he').mp hkey.2.2.symm

/-! ## Runs -/

/-- What an invocation carries to its insertion. -/
def AutomationCall.Carries (hashes : AutomationHashes) (P : Invoking → Prop) :
    AutomationCall → Prop
  | .inserting row => ∃ v, P v ∧ v.Records hashes row
  | _ => True

theorem records_of_loadRevision (h : AutomationCall.loadRevision hashes s v = .ok row) :
    v.Records hashes row := by
  unfold AutomationCall.loadRevision at h
  split at h
  · nomatch h
  · next revision _ =>
    have h := of_require h
    obtain ⟨i, hi, h⟩ := bind_eq_ok.mp h
    exact ⟨revision.content, i, hi, (pure_eq_ok.mp h).symm⟩

theorem carries_of_perform {call d : AutomationCall} {answers : AutomationAnswers}
    (honly : RunsOnly P s call answers) (h : call.perform hashes s answers = .ok (s', some d)) :
    d.Carries hashes P := by
  cases call with
  | reading v =>
    obtain ⟨row, hrow, h⟩ := bind_eq_ok.mp h
    cases h
    exact ⟨v, honly, records_of_loadRevision hrow⟩
  | configure =>
    obtain ⟨blueprint, -, h⟩ := bind_eq_ok.mp h
    split at h
    · have h := of_require h
      cases h
      trivial
    · cases h
      trivial
  | configuring | numbering =>
    cases h
    trivial
  | publishing | suspending => cases h
  | saving _ _ draftId =>
    cases draftId with
    | some => cases h
    | none =>
      obtain ⟨_, -, h⟩ := bind_eq_ok.mp h
      cases h
  | validating =>
    simp only [AutomationCall.perform] at h
    split at h
    · cases h
    · obtain ⟨_, h⟩ := of_bind h
      cases h
      trivial
  | publish | suspend | invoke =>
    obtain ⟨_, -, h⟩ := bind_eq_ok.mp h
    cases h
    trivial
  | creating | inserting =>
    obtain ⟨_, -, h⟩ := bind_eq_ok.mp h
    cases h

theorem carries_of_step {call : AutomationCall} {answers : AutomationAnswers}
    {call' : Option AutomationCall} (honly : RunsOnly P s call answers)
    (h : call.step hashes s answers = some (s', call')) : ∀ d ∈ call', d.Carries hashes P := by
  rintro d rfl
  have h := Option.some.inj h
  cases hperform : call.perform hashes s answers with
  | error =>
    rw [hperform] at h
    nomatch h
  | ok r =>
    rw [hperform] at h
    obtain rfl : r = (s', some d) := h
    exact carries_of_perform honly hperform

def Recorded (hashes : AutomationHashes) (P : Invoking → Prop) (s : AutomationStore) : Prop :=
  ∀ row ∈ s.invocations.values, ∃ v, P v ∧ v.Records hashes row

theorem Recorded.step {call : AutomationCall} (h : Recorded hashes P s)
    (hcarries : call.Carries hashes P) (hwrote : Wrote hashes s call s') :
    Recorded hashes P s' := by
  cases hwrote with
  | invoked =>
    intro row' hrow'
    obtain ⟨k, hk⟩ := Dict.mem_values.mp hrow'
    rw [Dict.get?_set] at hk
    split_ifs at hk with heq
    · exact Option.some.inj hk ▸ hcarries
    · exact h row' (Dict.mem_values.mpr ⟨k, hk⟩)
  | _ => exact h

theorem occurrenceRule (hashes : AutomationHashes) (P : Invoking → Prop) :
    (automationCalls hashes).Rule (RunsOnly P)
      (fun s => (Hashed hashes s ∧ InvocationLaw s) ∧ Recorded hashes P s)
      fun s call => call.Read s ∧ call.Carries hashes P where
  start s req hI := ⟨(invocationRule hashes).start s req hI.1, by cases req <;> trivial⟩
  step s c a s' c' hI hJ hG h := by
    obtain ⟨hinv, hothers, hown⟩ := (invocationRule hashes).step s c a s' c' hI.1 hJ.1 trivial h
    exact ⟨⟨hinv, hI.2.step hJ.2 (wrote_of_step hJ.1 h).1⟩, fun d hd => ⟨hothers d hd.1, hd.2⟩,
      fun d hd => ⟨hown d hd, carries_of_step hG h d hd⟩⟩
  abort s c hI _ := ⟨hI, fun _ hd => hd⟩

/-- Each command is answered with the invocation of its own occurrence, if and only if no two cross. -/
theorem occurrenceLaw_along (hashes : AutomationHashes) (P : Invoking → Prop) :
    (∀ ls f, (automationCalls hashes).system.Along (Service.Meets (RunsOnly P)) ⟨{}, []⟩ ls →
      (automationCalls hashes).system.run ⟨{}, []⟩ ls = some f → OccurrenceLaw hashes P f.store) ↔
    NoneCrosses hashes P := by
  constructor
  · intro h
    exact (h [] ⟨{}, []⟩ trivial rfl).noneCrosses
  · intro hnone ls f honly hrun
    have hempty : (Hashed hashes {} ∧ InvocationLaw {}) ∧ Recorded hashes P {} :=
      ⟨invocationLaw_empty hashes, fun _ hrow => absurd hrow List.not_mem_nil⟩
    obtain ⟨⟨-, hsingle⟩, hrecorded⟩ :=
      ((occurrenceRule hashes P).inv_of_along (.of_empty hempty) honly hrun).store
    exact ⟨fun v v' row row' hv hv' hworkspace hrevision hrow hrow' =>
        hnone.key_eq_iff hv hv' hworkspace hrevision hrow hrow', hrecorded, hsingle,
      fun v row newId s' hv hrow h => answered_of_insert hnone hsingle hv hrow h⟩

/-! ### A weekly review on schedules -/

/-- The review is configured for a schedule, and published. -/
def publishWeekly : List (CallLabel AutomationRequest AutomationAnswers) :=
  [CallLabel.start (AutomationRequest.configure ⟨"operating.weekly-review",
      Dict.update ∅ [("projectId", .string "alpha")],
      { kind := .schedule, schedule := some "0 9 * * 1" }⟩ founderContext)] ++
    stepsOfAutomation 0 2 20 ++
    [CallLabel.start (AutomationRequest.publish 10 founderContext)] ++ stepsOfAutomation 1 3 0

/-- The call with number `i` invokes it; an invocation that is new gets the identifier `id`. -/
def submitWeekly (i id : ℕ) (scheduleId scheduledFor : String) :
    List (CallLabel AutomationRequest AutomationAnswers) :=
  CallLabel.start (.invoke 10 (weekly scheduleId scheduledFor).command founderContext) ::
    List.replicate 3 (.step i { newId := id })

/-- The commands of one schedule. -/
def OfSchedule (scheduleId : String) (v : Invoking) : Prop :=
  v.command.triggerKind = .schedule ∧ v.command.scheduleId = some scheduleId

instance (scheduleId : String) : DecidablePred (OfSchedule scheduleId) := fun _ =>
  inferInstanceAs (Decidable (_ ∧ _))

theorem noneCrosses_ofSchedule (hashes : AutomationHashes) (scheduleId : String) :
    NoneCrosses hashes (OfSchedule scheduleId) := by
  rintro v v' row row' ⟨hkind, hid⟩ ⟨hkind', hid'⟩ - - - - ⟨-, a, b, a', b', h, h', m, ha, -⟩
  simp only [InvocationCommand.identifiers, hkind, hkind', hid, hid', Prod.mk.injEq,
    Option.some.injEq] at h h'
  obtain ⟨rfl, -⟩ := h
  obtain ⟨rfl, -⟩ := h'
  exact ne_append_colon scheduleId m ha

/-- Two weeks, one of which is submitted again. -/
def submitTwoWeeks : List (CallLabel AutomationRequest AutomationAnswers) :=
  publishWeekly ++ submitWeekly 2 30 "review" "2026-01-05T09:00" ++
    submitWeekly 3 31 "review" "2026-01-12T09:00" ++ submitWeekly 4 32 "review" "2026-01-05T09:00"

def submittedTwoWeeks : InFlight AutomationStore AutomationCall :=
  ((automationCalls plainHashes).system.run ⟨{}, []⟩ submitTwoWeeks).get (by decide +kernel)

theorem occurrenceLaw_along_twoWeeks : submittedTwoWeeks.store.invocations.keys = [30, 31] ∧
    OccurrenceLaw plainHashes (OfSchedule "review") submittedTwoWeeks.store :=
  ⟨by decide +kernel, (occurrenceLaw_along plainHashes (OfSchedule "review")).mpr
    (noneCrosses_ofSchedule plainHashes "review") submitTwoWeeks submittedTwoWeeks
    (by decide +kernel) (Option.some_get _).symm⟩

/-- The schedules `a` and `a:b`, at `b:c` and `c`. -/
def submitCrossing : List (CallLabel AutomationRequest AutomationAnswers) :=
  publishWeekly ++ submitWeekly 2 30 "a" "b:c" ++ submitWeekly 3 31 "a:b" "c"

def submittedCrossing : InFlight AutomationStore AutomationCall :=
  ((automationCalls plainHashes).system.run ⟨{}, []⟩ submitCrossing).get (by decide +kernel)

/-- The second is answered with the invocation of the first. -/
theorem not_occurrenceLaw_weekly :
    ((automationCalls plainHashes).system.run ⟨{}, []⟩ submitCrossing = some submittedCrossing ∧
      submittedCrossing.store.invocations.keys = [30]) ∧
    ¬OccurrenceLaw plainHashes (fun _ => True) submittedCrossing.store := by
  refine ⟨⟨(Option.some_get _).symm, by decide +kernel⟩, fun h => ?_⟩
  let revision : RevisionContent :=
    ⟨10, 1, "", ∅, { kind := .schedule }, [], [], .readOnly, false, "", ""⟩
  have hrecords : ∀ a b, (weekly a b).command.triggerIdentity = .ok "a:b:c" →
      (weekly a b).Records plainHashes ((weekly a b).row plainHashes revision "a:b:c") :=
    fun a b hidentity => ⟨revision, _, hidentity, rfl⟩
  have hsame := (h.keyed (weekly "a" "b:c") (weekly "a:b" "c") _ _ trivial trivial rfl rfl
    (hrecords _ _ (by rfl)) (hrecords _ _ (by rfl))).mp rfl
  exact absurd hsame.2 (by decide)

end JavisSaas.Company.Operations
