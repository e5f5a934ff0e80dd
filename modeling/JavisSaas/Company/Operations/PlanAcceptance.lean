import JavisSaas.Company.Operations.ExecutionPlanCalls

/-!
# Acceptance of execution plans

A plan should be materialised at most once, while it is a draft, and never after it was superseded
or rejected. An acceptance compares the status when it reads the plan, without a lock, and sets it
at the end whatever it is then.

* `acceptanceLaw_of_run`: the law, if the plan and its items are as they were read at the commit.
* `not_acceptanceLaw_twice`: a plan is materialised twice.
-/

namespace JavisSaas.Company.Operations

open JavisSaas.Lib

/-! ## The law -/

structure AcceptanceLaw (s : Planning) : Prop where
  once : (s.materialized.map (·.planId)).Nodup
  draft : ∀ m ∈ s.materialized, m.planStatus = some .draft
  items : ∀ m ∈ s.materialized, m.made = m.live
  retired : ∀ id ∈ s.retired, id ∉ s.materialized.map (·.planId)

/-- When an acceptance commits, its plan has the status and the items that it has read. -/
def FindsAsRead (s : Planning) (c : PlanCall) (_ : PlanAnswers) : Prop :=
  match c with
  | .accepting txn => ∀ a ∈ s.accepts.get? txn, a.remaining = [] → a.checked = true →
    (s.db.plans.get? a.acceptance.plan.id).map (·.status) = some a.acceptance.plan.status ∧
      liveItems s.db a.acceptance.plan.id = a.acceptance.items
  | _ => True

instance (s : Planning) (answers : PlanAnswers) (c : PlanCall) :
    Decidable (FindsAsRead s c answers) := by
  unfold FindsAsRead
  split <;> infer_instance

/-! ## Every step -/

structure PlansKept (s : Planning) : Prop where
  once : (s.materialized.map (·.planId)).Nodup
  accepted : ∀ m ∈ s.materialized, ∃ p, s.db.plans.get? m.planId = some p ∧ p.status = .accepted
  retired : ∀ id ∈ s.retired, ∃ p, s.db.plans.get? id = some p ∧
    (p.status = .superseded ∨ p.status = .rejected)
  draft : ∀ m ∈ s.materialized, m.planStatus = some .draft
  items : ∀ m ∈ s.materialized, m.made = m.live
  accepting : ∀ n a, s.accepts.get? n = some a → a.acceptance.plan.status = .draft ∧
    a.made.map (·.item) ++ a.remaining = a.acceptance.items

theorem PlansKept.law {s : Planning} (h : PlansKept s) : AcceptanceLaw s where
  once := h.once
  draft := h.draft
  items := h.items
  retired id hid hmem := by
    obtain ⟨m, hm, rfl⟩ := List.mem_map.mp hmem
    obtain ⟨p, hp, haccepted⟩ := h.accepted m hm
    obtain ⟨p', hp', hstatus⟩ := h.retired _ hid
    cases hp.symm.trans hp'
    rw [haccepted] at hstatus
    rcases hstatus with hstatus | hstatus <;> nomatch hstatus

section Step

variable {keywords : OwnerAgentProfile → String → Bool} {s s' : Planning} {c : PlanCall}
  {c' : Option PlanCall} {answers : PlanAnswers}

theorem replaced_eq_false {input : CreateExecutionPlanInput} {p : ExecutionPlan}
    (h : p.status ≠ .draft) : replaced input p = false := by
  cases hw : input.weeklyPlanId <;> simp [replaced, hw, ExecutionPlan.isDraftOf, h]

theorem get?_supersede (input : CreateExecutionPlanInput) (plans : Dict ℕ ExecutionPlan) (id : ℕ) :
    (supersede input plans).get? id = (plans.get? id).map fun p =>
      if replaced input p then { p with status := .superseded } else p :=
  Dict.get?_mapValues _ _ _

variable {input : CreateExecutionPlanInput} {db : PlanDb}

theorem createExecutionPlanService_plans {db' : PlanDb}
    (h : createExecutionPlanService keywords db input answers = .ok db') :
    (supersede input db.plans).get? answers.newId = none ∧ ∃ p,
      db'.plans = (supersede input db.plans).set answers.newId p := by
  have h := of_require h
  have h := of_require h
  have h := of_require h
  have h := of_require h
  obtain ⟨_, h⟩ := of_bind h
  obtain ⟨⟨hnew, -, -⟩, h⟩ := require_bind_eq_ok.mp h
  cases h
  exact ⟨hnew, _, rfl⟩

theorem mem_replacedIds {id : ℕ} :
    id ∈ replacedIds db input ↔ ∃ p, db.plans.get? id = some p ∧ replaced input p = true := by
  simp only [replacedIds, List.mem_map, List.mem_filter, Prod.exists, exists_and_right,
    exists_eq_right, ← Dict.get?_eq_some]

theorem PlansKept.created (h : PlansKept s)
    (hdb : createExecutionPlanService keywords s.db input answers = .ok db) :
    PlansKept { s with db, retired := s.retired ++ replacedIds s.db input } := by
  obtain ⟨hnew, p₀, hplans⟩ := createExecutionPlanService_plans hdb
  -- a plan that there was is replaced, or it is as it was
  have hold : ∀ id p, s.db.plans.get? id = some p → db.plans.get? id =
      some (if replaced input p then { p with status := .superseded } else p) := by
    intro id p hget
    have hsup := get?_supersede input s.db.plans id
    rw [hget] at hsup
    rw [hplans, Dict.get?_set, if_neg ?_]
    · exact hsup
    · rintro rfl
      nomatch hnew.symm.trans hsup
  have hkept : ∀ id p, s.db.plans.get? id = some p → p.status ≠ .draft →
      db.plans.get? id = some p := by
    intro id p hget hstatus
    rw [hold id p hget, replaced_eq_false hstatus]
    rfl
  refine ⟨h.once, fun m hm => ?_, fun id hid => ?_, h.draft, h.items, h.accepting⟩
  · obtain ⟨p, hget, hstatus⟩ := h.accepted m hm
    exact ⟨p, hkept _ p hget (by rw [hstatus]; exact fun h => nomatch h), hstatus⟩
  · rcases List.mem_append.mp hid with hid | hid
    · obtain ⟨p, hget, hstatus⟩ := h.retired id hid
      refine ⟨p, hkept _ p hget ?_, hstatus⟩
      rcases hstatus with hstatus | hstatus <;> rw [hstatus] <;> exact fun h => nomatch h
    · obtain ⟨p, hget, hreplaced⟩ := mem_replacedIds.mp hid
      refine ⟨_, hold id p hget, .inl ?_⟩
      rw [if_pos hreplaced]

theorem PlansKept.rejected (h : PlansKept s) {id : ℕ} {plan : ExecutionPlan}
    (hget : s.db.plans.get? id = some plan) (hdraft : plan.status = .draft) :
    PlansKept { s with
      db := { s.db with plans := s.db.plans.set id { plan with status := .rejected } }
      retired := s.retired ++ [id] } := by
  refine ⟨h.once, fun m hm => ?_, fun id' hid' => ?_, h.draft, h.items, h.accepting⟩
  · obtain ⟨p, hp, hstatus⟩ := h.accepted m hm
    refine ⟨p, ?_, hstatus⟩
    rw [Dict.get?_set, if_neg ?_]
    · exact hp
    · rintro rfl
      cases hp.symm.trans hget
      nomatch hdraft.symm.trans hstatus
  · show ∃ p, (s.db.plans.set id _).get? id' = some p ∧ _
    rw [Dict.get?_set]
    split_ifs with heq
    · exact ⟨_, rfl, .inr rfl⟩
    · rcases mem_concat hid' with hid' | hid'
      · exact h.retired id' hid'
      · exact absurd hid'.symm heq

theorem get?_acceptWrites (db : PlanDb) (a : Acceptance) (made : List Made) (now : ℤ) (id : ℕ) :
    (acceptWrites db a made now).plans.get? id =
      (db.plans.get? id).map fun plan => if id = a.plan.id then acceptPlan a now plan else plan :=
  Dict.get?_mapValues _ _ _

/-- A commit that finds its plan a draft, with the items of which it has made tasks. -/
theorem PlansKept.committed (h : PlansKept s) {txn : ℕ} {a : Accepting}
    (hget : s.accepts.get? txn = some a) (hrest : a.remaining = [])
    (hread : (s.db.plans.get? a.acceptance.plan.id).map (·.status) =
      some a.acceptance.plan.status)
    (hlive : liveItems s.db a.acceptance.plan.id = a.acceptance.items) (now : ℤ) :
    PlansKept (commitAcceptance s txn a now) := by
  obtain ⟨hdraft, hmade⟩ := h.accepting txn a hget
  rw [hdraft] at hread
  obtain ⟨plan, hplan, hstatus⟩ := Option.map_eq_some_iff.mp hread
  have hnew : a.acceptance.plan.id ∉ s.materialized.map (·.planId) := by
    intro hmem
    obtain ⟨m, hm, hid⟩ := List.mem_map.mp hmem
    obtain ⟨p, hp, haccepted⟩ := h.accepted m hm
    rw [hid] at hp
    cases hp.symm.trans hplan
    nomatch hstatus.symm.trans haccepted
  refine ⟨?_, fun m hm => ?_, fun id hid => ?_, fun m hm => ?_, fun m hm => ?_, fun n a' ha' => ?_⟩
  · show ((s.materialized ++ [materialization s a]).map (·.planId)).Nodup
    rw [List.map_append, List.nodup_append]
    refine ⟨h.once, List.nodup_singleton _, fun x hx y hy heq => hnew ?_⟩
    have hy' : y = a.acceptance.plan.id := List.mem_singleton.mp hy
    rw [← hy', ← heq]
    exact hx
  · show ∃ p, (acceptWrites s.db a.acceptance a.made now).plans.get? m.planId = some p ∧ _
    have haccepted : ∃ p, s.db.plans.get? m.planId = some p ∧
        (m.planId ≠ a.acceptance.plan.id → p.status = .accepted) := by
      rcases mem_concat hm with hm | rfl
      · obtain ⟨p, hp, hstatus⟩ := h.accepted m hm
        exact ⟨p, hp, fun _ => hstatus⟩
      · exact ⟨plan, hplan, fun hne => absurd rfl hne⟩
    obtain ⟨p, hp, hstatus⟩ := haccepted
    refine ⟨_, by rw [get?_acceptWrites, hp]; rfl, ?_⟩
    split_ifs with heq
    · rfl
    · exact hstatus heq
  · obtain ⟨p, hp, hretired⟩ := h.retired id hid
    have hne : id ≠ a.acceptance.plan.id := by
      rintro rfl
      cases hp.symm.trans hplan
      rw [hstatus] at hretired
      rcases hretired with hretired | hretired <;> nomatch hretired
    refine ⟨p, ?_, hretired⟩
    show (acceptWrites s.db a.acceptance a.made now).plans.get? id = some p
    rw [get?_acceptWrites, hp, Option.map_some, if_neg hne]
  · rcases mem_concat hm with hm | rfl
    · exact h.draft m hm
    · exact hread
  · rcases mem_concat hm with hm | rfl
    · exact h.items m hm
    · show a.made.map (·.item) = liveItems s.db a.acceptance.plan.id
      rw [hlive, ← hmade, hrest, List.append_nil]
  · have hold : s.accepts.get? n = some a' := by
      have herase : (s.accepts.erase txn).get? n = some a' := ha'
      rw [Dict.get?_erase] at herase
      split_ifs at herase
      exact herase
    exact h.accepting n a' hold

/-- A transaction that goes on still has read a draft, and its items. -/
theorem PlansKept.set (h : PlansKept s) {txn nextTxn : ℕ} {a : Accepting}
    (ha : a.acceptance.plan.status = .draft ∧
      a.made.map (·.item) ++ a.remaining = a.acceptance.items) :
    PlansKept { s with accepts := s.accepts.set txn a, nextTxn } := by
  refine ⟨h.once, h.accepted, h.retired, h.draft, h.items, fun n a' ha' => ?_⟩
  have hset : (s.accepts.set txn a).get? n = some a' := ha'
  rw [Dict.get?_set] at hset
  split_ifs at hset
  · cases hset
    exact ha
  · exact h.accepting n a' hset

theorem PlansKept.erase (h : PlansKept s) (txn : ℕ) :
    PlansKept { s with accepts := s.accepts.erase txn } := by
  refine ⟨h.once, h.accepted, h.retired, h.draft, h.items, fun n a' ha' => ?_⟩
  have herase : (s.accepts.erase txn).get? n = some a' := ha'
  rw [Dict.get?_erase] at herase
  split_ifs at herase
  exact h.accepting n a' herase

theorem PlansKept.change (h : PlansKept s) (hsound : c.Sound s) (hG : FindsAsRead s c answers)
    (hc : PlanChange keywords s answers c s' c') : PlansKept s' := by
  cases hc with
  | same => exact h
  | created _ _ hdb => exact h.created hdb
  | patched itemId changes =>
    have hplans : (writePatch s.db itemId changes).plans = s.db.plans := by
      unfold writePatch
      split <;> rfl
    refine ⟨h.once, fun m hm => ?_, fun id hid => ?_, h.draft, h.items, h.accepting⟩
    · show ∃ p, (writePatch s.db itemId changes).plans.get? _ = _ ∧ _
      rw [hplans]
      exact h.accepted m hm
    · show ∃ p, (writePatch s.db itemId changes).plans.get? _ = _ ∧ _
      rw [hplans]
      exact h.retired id hid
  | began _ _ _ _ acceptance hplan hitems =>
    refine h.set ⟨?_, ?_⟩
    · show acceptance.plan.status = .draft
      rw [hplan]
      exact hsound
    · exact hitems.symm
  | took txn a it rest hget hrest =>
    obtain ⟨hdraft, hmade⟩ := h.accepting txn a hget
    obtain ⟨hacceptance, hremaining, htaken⟩ := a.take_spec it rest answers
    refine h.set ⟨?_, ?_⟩
    · rw [hacceptance]
      exact hdraft
    · rw [hacceptance, hremaining, htaken, ← hmade, hrest, List.append_assoc]
      rfl
  | checked txn a hget => exact h.set (h.accepting txn a hget)
  | committed _ a hget hrest hchecked =>
    obtain ⟨hread, hlive⟩ := hG a hget hrest hchecked
    exact h.committed hget hrest hread hlive answers.now
  | rolledBack txn => exact h.erase txn
  | rejected _ _ hget hdraft => exact h.rejected hget hdraft

end Step

/-! ## Every run -/

theorem plansKept_empty (db : PlanDb) : PlansKept { db } where
  once := List.nodup_nil
  accepted _ h := absurd h List.not_mem_nil
  retired _ h := absurd h List.not_mem_nil
  draft _ h := absurd h List.not_mem_nil
  items _ h := absurd h List.not_mem_nil
  accepting _ _ h := nomatch h

/-- If each commit finds its plan and items as it has read them, the law holds. -/
theorem acceptanceLaw_of_run (keywords : OwnerAgentProfile → String → Bool)
    (projects : List (ℕ × ℕ)) (weeklyPlans : List (ℕ × WeeklyPlan))
    (ls : List (CallLabel PlanReq PlanAnswers)) (s : InFlight Planning PlanCall)
    (h : (planning keywords).system.Along (Service.Meets FindsAsRead)
      (openPlanning projects weeklyPlans) ls)
    (hs : (planning keywords).system.run (openPlanning projects weeklyPlans) ls = some s) :
    AcceptanceLaw s.store := by
  have hrule : (planning keywords).Rule (fun s c a => True ∧ FindsAsRead s c a)
      (fun s => AutoItems s.db.items ∧ PlansKept s) fun s c => c.Sound s :=
    planRule (fun _ _ _ _ _ hI hsound hG hc => hI.change hsound hG hc) fun _ txn hI => hI.erase txn
  have hmeets : (planning keywords).system.Along (Service.Meets fun s c a => True ∧ FindsAsRead s c a)
      (openPlanning projects weeklyPlans) ls :=
    h.mono _ fun _ _ hl => hl.mono fun _ _ _ hG => ⟨trivial, hG⟩
  exact (hrule.inv_of_along (.of_empty ⟨autoItems_empty, plansKept_empty _⟩) hmeets hs).store.2.law

/-- In every run an `AUTO` item has a capability that may be. -/
theorem autoItems_of_run {keywords : OwnerAgentProfile → String → Bool} {projects weeklyPlans ls s}
    (h : (planning keywords).system.run (openPlanning projects weeklyPlans) ls = some s) :
    AutoItems s.store.db.items :=
  (soundRule.inv_of_run (.of_empty autoItems_empty) h).store

/-! ### Runs -/

/-- No text has keywords of a domain. -/
def noKeywords (_ : OwnerAgentProfile) (_ : String) : Bool := false

def interviews : CreatePlanItemInput where
  title := "Interview customers"
  decisionReason := "five interviews a week"

def summary : CreatePlanItemInput where
  title := "Summarise the interviews"
  decisionReason := "after the interviews"
  expectedCapability := some "operations.report.create_draft"
  capabilityRisk := some .low
  dependsOnTitles := ["Interview customers"]

/-- Plan 10 of project 2, for the weekly plan 5. -/
def weekOfInterviews : CreateExecutionPlanInput where
  workspaceId := 1
  projectId := 2
  weeklyPlanId := some 5
  goalText := "Understand the customers"
  items := [interviews, summary]

def interviewWorkspace : InFlight Planning PlanCall := openPlanning [(2, 1)] [(5, ⟨1, 2⟩)]

def createInterviews : List (CallLabel PlanReq PlanAnswers) :=
  [.start (.create weekOfInterviews), .step 0 { newId := 10, itemIds := (20 + ·) },
    .start (.accept { planId := 10, workspaceId := 1 })]

/-- Call `i` makes commitments and tasks of both items, from the identifier `id` on. -/
def acceptBoth (i id : ℕ) : List (CallLabel PlanReq PlanAnswers) :=
  List.replicate 4 (.step i { founderMemberId := some 7 } : CallLabel PlanReq PlanAnswers) ++
    ([.step i { newId := id, newTaskId := id + 1 },
      .step i { newId := id + 2, newTaskId := id + 3, aiMemberId := 8 }, .step i {},
      .step i { now := 100 }] : List (CallLabel PlanReq PlanAnswers))

def acceptedInterviews : InFlight Planning PlanCall :=
  ((planning noKeywords).system.run interviewWorkspace (createInterviews ++ acceptBoth 1 30)).get
    (by decide +kernel)

theorem acceptanceLaw_acceptedInterviews : AcceptanceLaw acceptedInterviews.store :=
  acceptanceLaw_of_run noKeywords [(2, 1)] [(5, ⟨1, 2⟩)] (createInterviews ++ acceptBoth 1 30)
    acceptedInterviews (by decide +kernel) (Option.some_get _).symm

/-- A second acceptance reads the plan before the first one commits. -/
def acceptedTwice : List (CallLabel PlanReq PlanAnswers) :=
  createInterviews ++ ([.start (.accept { planId := 10, workspaceId := 1 }), .step 2 {}] :
      List (CallLabel PlanReq PlanAnswers)) ++
    acceptBoth 1 30 ++ (acceptBoth 2 40).tail

def acceptedTwiceState : InFlight Planning PlanCall :=
  ((planning noKeywords).system.run interviewWorkspace acceptedTwice).get (by decide +kernel)

/-- The plan is materialised twice. -/
theorem not_acceptanceLaw_twice :
    (planning noKeywords).system.run interviewWorkspace acceptedTwice = some acceptedTwiceState ∧
      ¬AcceptanceLaw acceptedTwiceState.store := by
  refine ⟨(Option.some_get _).symm, fun h => ?_⟩
  have htwice : ¬(acceptedTwiceState.store.materialized.map (·.planId)).Nodup := by
    decide +kernel
  exact htwice h.once

theorem autoItems_acceptedTwice : AutoItems acceptedTwiceState.store.db.items :=
  autoItems_of_run (Option.some_get _).symm

end JavisSaas.Company.Operations
