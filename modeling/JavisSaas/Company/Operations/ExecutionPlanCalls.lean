import JavisSaas.Lib.Calls
import JavisSaas.Company.Operations.ExecutionPlans

/-!
# Execution plan calls in flight

Plans are created, patched, accepted and rejected. Each query is one step, at the isolation level
read committed. An acceptance locks every item that it writes until it ends, and its writes are seen
when it commits. Ghosts record what was materialised, superseded or rejected.

* `planChange_of_step`: everything that one step of `planning` may do.
* `planRule`: an invariant that every change keeps.
-/

namespace JavisSaas.Company.Operations

open JavisSaas.Lib

/-! ## The calls -/

inductive PlanReq
  | create (input : CreateExecutionPlanInput)
  | patch (p : PatchParams)
  | accept (p : AcceptParams)
  | reject (p : RejectParams)

/-- What is left of a call. -/
inductive PlanCall
  | create (input : CreateExecutionPlanInput)
  | patch (p : PatchParams)
  | patchItem (p : PatchParams)
  | patchWrite (itemId : ℕ) (changes : PatchPlanItemInput)
  | accept (p : AcceptParams)
  | acceptWeekly (p : AcceptParams) (plan : ExecutionPlan)
  | acceptItems (p : AcceptParams) (plan : ExecutionPlan) (projectId : ℕ)
  | acceptMembers (p : AcceptParams) (plan : ExecutionPlan) (projectId : ℕ)
    (items : List ExecutionPlanItem)
  /-- An acceptance in the transaction with this number. -/
  | accepting (txn : ℕ)
  | reject (p : RejectParams)

def PlanReq.call : PlanReq → PlanCall
  | create input => .create input
  | patch p => .patch p
  | accept p => .accept p
  | reject p => .reject p

/-- The transaction of an acceptance, from the loop over the items on. -/
structure Accepting where
  acceptance : Acceptance
  remaining : List ExecutionPlanItem
  made : List Made := []
  /-- `aiMemberByProfile`. -/
  aiMembers : List (String × ℕ) := []
  /-- The graph of the tasks was searched for cycles. -/
  checked : Bool := false

/-- The items that the loop has written are locked. -/
def Accepting.locks (a : Accepting) (itemId : ℕ) : Bool := a.made.any fun m => m.item.id = itemId

/-- Ghost: a committed acceptance, with the status of the plan and its items before it. -/
structure Materialization where
  planId : ℕ
  planStatus : Option PlanStatus
  made : List ExecutionPlanItem
  live : List ExecutionPlanItem

structure Planning where
  db : PlanDb := {}
  accepts : Dict ℕ Accepting := ∅
  nextTxn : ℕ := 0
  materialized : List Materialization := []
  retired : List ℕ := []

/-- The loop of an acceptance takes an item. -/
def Accepting.take (a : Accepting) (it : ExecutionPlanItem) (rest : List ExecutionPlanItem)
    (answers : PlanAnswers) : Accepting :=
  match agentProfile it with
  | none =>
    { a with
      remaining := rest
      made := a.made ++ [makeItem a.acceptance it a.acceptance.founderMemberId answers] }
  | some profile =>
    let member := (a.aiMembers.lookup profile).getD answers.aiMemberId
    { a with
      remaining := rest
      made := a.made ++ [makeItem a.acceptance it (some member) answers]
      aiMembers := (profile, member) :: a.aiMembers }

theorem Accepting.take_spec (a : Accepting) (it : ExecutionPlanItem)
    (rest : List ExecutionPlanItem) (answers : PlanAnswers) :
    (a.take it rest answers).acceptance = a.acceptance ∧
      (a.take it rest answers).remaining = rest ∧
      (a.take it rest answers).made.map (·.item) = a.made.map (·.item) ++ [it] := by
  unfold Accepting.take
  split <;> exact ⟨rfl, rfl, by rw [List.map_append]; rfl⟩

def materialization (s : Planning) (a : Accepting) : Materialization where
  planId := a.acceptance.plan.id
  planStatus := (s.db.plans.get? a.acceptance.plan.id).map (·.status)
  made := a.made.map (·.item)
  live := liveItems s.db a.acceptance.plan.id

/-- The end of an acceptance. -/
def commitAcceptance (s : Planning) (txn : ℕ) (a : Accepting) (now : ℤ) : Planning :=
  { s with
    db := acceptWrites s.db a.acceptance a.made now
    accepts := s.accepts.erase txn
    materialized := s.materialized ++ [materialization s a] }

/-- The next query of an acceptance in its transaction. -/
def continueAccepting (s : Planning) (txn : ℕ) (a : Accepting) (answers : PlanAnswers) :
    Except ApiError (Planning × Option PlanCall) :=
  match a.remaining with
  | it :: rest => .ok
    ({ s with accepts := s.accepts.set txn (a.take it rest answers) }, some (.accepting txn))
  | [] =>
    if a.checked then .ok (commitAcceptance s txn a answers.now, none)
    else do
      assertNoTaskCycles (existingDeps s.db a.acceptance.params.workspaceId ++ newEdges a.made)
      return ({ s with accepts := s.accepts.set txn { a with checked := true } },
        some (.accepting txn))

/-- The plans that a new one replaces. -/
def replacedIds (db : PlanDb) (input : CreateExecutionPlanInput) : List ℕ :=
  (db.plans.items.filter fun entry => replaced input entry.2).map Prod.fst

/-- An item that another acceptance has locked is not written. -/
def PlanCall.waits (s : Planning) : PlanCall → Bool
  | accepting txn => (s.accepts.get? txn).any fun a =>
    a.remaining.head?.any fun it => (s.accepts.erase txn).values.any (·.locks it.id)
  | patchWrite itemId _ => s.accepts.values.any (·.locks itemId)
  | _ => false

section Steps

variable (keywords : OwnerAgentProfile → String → Bool)

/-- The next step of a call; an error ends it. -/
def PlanCall.perform (s : Planning) (answers : PlanAnswers) :
    PlanCall → Except ApiError (Planning × Option PlanCall)
  | create input => do
    let db ← createExecutionPlanService keywords s.db input answers
    return ({ s with db, retired := s.retired ++ replacedIds s.db input }, none)
  | patch p => do
    let _ ← patchablePlan s.db p
    return (s, some (.patchItem p))
  | patchItem p => do
    let changes ← patchChanges s.db p
    return (s, some (.patchWrite p.itemId changes))
  | patchWrite itemId changes => .ok ({ s with db := writePatch s.db itemId changes }, none)
  | accept p => do
    let plan ← acceptablePlan s.db p
    return (s, some (.acceptWeekly p plan))
  | acceptWeekly p plan => do
    let projectId ← weeklyPlanProject s.db p plan
    return (s, some (.acceptItems p plan projectId))
  | acceptItems p plan projectId => do
    let items ← acceptableItems s.db plan
    return (s, some (.acceptMembers p plan projectId items))
  | acceptMembers p plan projectId items =>
    let acceptance : Acceptance := ⟨p, plan, projectId, items, answers.founderMemberId⟩
    .ok ({ s with
      accepts := s.accepts.set s.nextTxn { acceptance, remaining := items }
      nextTxn := s.nextTxn + 1 }, some (.accepting s.nextTxn))
  | accepting txn =>
    match s.accepts.get? txn with
    | some a => continueAccepting s txn a answers
    | none => .ok (s, none)
  | reject p => do
    let db ← rejectExecutionPlanService s.db p
    return ({ s with db, retired := s.retired ++ [p.planId] }, none)

/-- An acceptance that is rolled back releases its locks. -/
def PlanCall.rollback (c : PlanCall) (s : Planning) : Planning :=
  match c with
  | accepting txn => { s with accepts := s.accepts.erase txn }
  | _ => s

def planning : Service PlanReq Planning PlanCall PlanAnswers where
  start := PlanReq.call
  step s c answers :=
    if c.waits s then none
    else match c.perform keywords s answers with
      | .ok r => some r
      | .error _ => some (c.rollback s, none)
  abort := PlanCall.rollback

end Steps

/-! ## What a step does -/

/-- The plan was a draft, and an item becomes `AUTO` only if it may be. -/
def PlanCall.Sound (s : Planning) : PlanCall → Prop
  | acceptWeekly _ plan => plan.status = .draft
  | acceptItems _ plan _ => plan.status = .draft
  | acceptMembers _ plan _ _ => plan.status = .draft
  | patchWrite itemId changes => changes.autonomyClass = some .auto →
    ∃ it, s.db.items.get? itemId = some it ∧ MayBeAuto it.expectedCapability
  | _ => True

section Changes

variable {keywords : OwnerAgentProfile → String → Bool}

variable (keywords) in
/-- Everything that one step of a call may do, and what is left of the call. -/
inductive PlanChange (s : Planning) (answers : PlanAnswers) :
    PlanCall → Planning → Option PlanCall → Prop
  | same (c : PlanCall) (c' : Option PlanCall) (hsound : ∀ d ∈ c', d.Sound s) :
    PlanChange s answers c s c'
  | created (input : CreateExecutionPlanInput) (db : PlanDb)
    (h : createExecutionPlanService keywords s.db input answers = .ok db) :
    PlanChange s answers (.create input)
      { s with db, retired := s.retired ++ replacedIds s.db input } none
  | patched (itemId : ℕ) (changes : PatchPlanItemInput)
    (hfree : ∀ a ∈ s.accepts.values, a.locks itemId = false) :
    PlanChange s answers (.patchWrite itemId changes)
      { s with db := writePatch s.db itemId changes } none
  | began (p : AcceptParams) (plan : ExecutionPlan) (projectId : ℕ)
    (items : List ExecutionPlanItem) (acceptance : Acceptance)
    (hplan : acceptance.plan = plan) (hitems : acceptance.items = items) :
    PlanChange s answers (.acceptMembers p plan projectId items)
      { s with
        accepts := s.accepts.set s.nextTxn { acceptance, remaining := items }
        nextTxn := s.nextTxn + 1 } (some (.accepting s.nextTxn))
  | took (txn : ℕ) (a : Accepting) (it : ExecutionPlanItem) (rest : List ExecutionPlanItem)
    (hget : s.accepts.get? txn = some a) (hrest : a.remaining = it :: rest) :
    PlanChange s answers (.accepting txn)
      { s with accepts := s.accepts.set txn (a.take it rest answers) } (some (.accepting txn))
  | checked (txn : ℕ) (a : Accepting) (hget : s.accepts.get? txn = some a) :
    PlanChange s answers (.accepting txn)
      { s with accepts := s.accepts.set txn { a with checked := true } } (some (.accepting txn))
  | committed (txn : ℕ) (a : Accepting) (hget : s.accepts.get? txn = some a)
    (hrest : a.remaining = []) (hchecked : a.checked = true) :
    PlanChange s answers (.accepting txn) (commitAcceptance s txn a answers.now) none
  | rolledBack (txn : ℕ) :
    PlanChange s answers (.accepting txn) { s with accepts := s.accepts.erase txn } none
  | rejected (p : RejectParams) (plan : ExecutionPlan) (hget : s.db.plans.get? p.planId = some plan)
    (hdraft : plan.status = .draft) :
    PlanChange s answers (.reject p)
      { s with
        db := { s.db with plans := s.db.plans.set p.planId { plan with status := .rejected } }
        retired := s.retired ++ [p.planId] } none

variable {s s' : Planning} {c : PlanCall} {c' : Option PlanCall} {answers : PlanAnswers}

theorem acceptablePlan_eq_ok {db : PlanDb} {p : AcceptParams} {plan : ExecutionPlan}
    (h : acceptablePlan db p = .ok plan) :
    db.plans.get? p.planId = some plan ∧ plan.status = .draft := by
  unfold acceptablePlan at h
  split at h
  · nomatch h
  · next plan' hplan =>
    obtain ⟨hget, -⟩ := Option.filter_eq_some_iff.mp hplan
    obtain ⟨hdraft, h⟩ := require_bind_eq_ok.mp h
    have h := of_require h
    cases h
    exact ⟨hget, hdraft⟩

theorem mayBeAuto_of_patchChanges {db : PlanDb} {p : PatchParams} {changes : PatchPlanItemInput}
    (h : patchChanges db p = .ok changes) (hauto : changes.autonomyClass = some .auto) :
    ∃ it, db.items.get? p.itemId = some it ∧ MayBeAuto it.expectedCapability := by
  unfold patchChanges at h
  split at h
  · nomatch h
  · next it hit =>
    obtain ⟨hget, -⟩ := Option.filter_eq_some_iff.mp hit
    refine ⟨it, hget, ?_⟩
    have h := of_require h
    obtain ⟨_, hcheck, h⟩ := bind_eq_ok.mp h
    cases h
    rw [checkNewClass, if_pos hauto] at hcheck
    have hcheck := of_require hcheck
    split at hcheck
    · nomatch hcheck
    · next hnone => exact mayBeAuto_of_validateFounderOverride hnone

theorem change_of_accepting {txn : ℕ} {a : Accepting} (hget : s.accepts.get? txn = some a)
    (h : continueAccepting s txn a answers = .ok (s', c')) :
    PlanChange keywords s answers (.accepting txn) s' c' := by
  unfold continueAccepting at h
  split at h
  · next it rest hrest =>
    cases h
    exact .took txn a it rest hget hrest
  · next hrest =>
    split_ifs at h with hchecked
    · cases h
      exact .committed txn a hget hrest hchecked
    · obtain ⟨_, h⟩ := of_bind h
      cases h
      exact .checked txn a hget

theorem planChange_of_perform (hwaits : c.waits s = false) (hsound : c.Sound s)
    (h : c.perform keywords s answers = .ok (s', c')) : PlanChange keywords s answers c s' c' := by
  cases c with
  | create input =>
    obtain ⟨db, hdb, h⟩ := bind_eq_ok.mp h
    cases h
    exact .created input db hdb
  | patch =>
    obtain ⟨plan, -, h⟩ := bind_eq_ok.mp h
    cases h
    refine .same _ _ fun d hd => ?_
    cases hd
    trivial
  | patchItem =>
    obtain ⟨changes, hchanges, h⟩ := bind_eq_ok.mp h
    cases h
    refine .same _ _ fun d hd => ?_
    cases hd
    exact mayBeAuto_of_patchChanges hchanges
  | patchWrite itemId changes =>
    cases h
    refine .patched itemId changes fun a ha => ?_
    exact Bool.eq_false_iff.mpr (List.any_eq_false.mp hwaits a ha)
  | accept =>
    obtain ⟨plan, hplan, h⟩ := bind_eq_ok.mp h
    cases h
    refine .same _ _ fun d hd => ?_
    cases hd
    exact (acceptablePlan_eq_ok hplan).2
  | acceptWeekly =>
    obtain ⟨projectId, -, h⟩ := bind_eq_ok.mp h
    cases h
    refine .same _ _ fun d hd => ?_
    cases hd
    exact hsound
  | acceptItems =>
    obtain ⟨items, -, h⟩ := bind_eq_ok.mp h
    cases h
    refine .same _ _ fun d hd => ?_
    cases hd
    exact hsound
  | acceptMembers p plan projectId items =>
    cases h
    exact .began p plan projectId items _ rfl rfl
  | accepting =>
    simp only [PlanCall.perform] at h
    split at h
    · next a hget => exact change_of_accepting hget h
    · cases h
      exact .same _ _ fun d hd => nomatch hd
  | reject p =>
    obtain ⟨db, hdb, h⟩ := bind_eq_ok.mp h
    cases h
    unfold rejectExecutionPlanService at hdb
    split at hdb
    · next plan hplan =>
      obtain ⟨hget, hcond⟩ := Option.filter_eq_some_iff.mp hplan
      cases hdb
      exact .rejected p plan hget (of_decide_eq_true hcond).2
    · nomatch hdb

theorem planChange_of_step (hsound : c.Sound s)
    (h : (planning keywords).step s c answers = some (s', c')) :
    PlanChange keywords s answers c s' c' := by
  change (if c.waits s then none else _) = _ at h
  split_ifs at h with hwaits
  split at h
  · next r hperform =>
    cases h
    exact planChange_of_perform (Bool.eq_false_iff.mpr hwaits) hsound hperform
  · cases h
    cases c with
    | accepting txn => exact .rolledBack txn
    | _ => exact .same _ _ fun d hd => nomatch hd

/-! ## Items that run on their own -/

/-- An item that is `AUTO` has a capability that may be. -/
def AutoItems (items : Dict ℕ ExecutionPlanItem) : Prop :=
  ∀ id it, items.get? id = some it → it.autonomyClass = .auto → MayBeAuto it.expectedCapability

/-- The capability of an item, and its class. -/
def ExecutionPlanItem.classified (it : ExecutionPlanItem) : AutonomyClass × Option String :=
  (it.autonomyClass, it.expectedCapability)

variable {input : CreateExecutionPlanInput}

/-- The items of a new plan are those of the first pass, with their dependencies. -/
theorem exists_of_mem_newItems {it : ExecutionPlanItem}
    (hit : it ∈ newItems keywords input answers) : ∃ idx i deps,
      it = { newItem keywords input answers idx i with dependsOnItemIds := deps } := by
  have hzip : ∀ {inputs rows}, it ∈ List.zipWith (withDependencies
      (input.items.mapIdx (newItem keywords input answers))) inputs rows →
      ∃ row ∈ rows, ∃ deps, it = { row with dependsOnItemIds := deps } := by
    intro inputs
    induction inputs with
    | nil => intro rows h; simp at h
    | cons _ _ ih =>
      intro rows h
      cases rows with
      | nil => simp at h
      | cons row =>
        rcases List.mem_cons.mp h with rfl | h
        · exact ⟨row, List.mem_cons_self, _, rfl⟩
        · obtain ⟨row', hrow', heq⟩ := ih h
          exact ⟨row', List.mem_cons_of_mem _ hrow', heq⟩
  obtain ⟨row, hrow, deps, rfl⟩ := hzip hit
  obtain ⟨idx, hidx, rfl⟩ := List.mem_mapIdx.mp hrow
  exact ⟨idx, _, deps, rfl⟩

theorem mayBeAuto_of_newItems {it : ExecutionPlanItem}
    (hit : it ∈ newItems keywords input answers) (hauto : it.autonomyClass = .auto) :
    MayBeAuto it.expectedCapability := by
  obtain ⟨idx, i, deps, rfl⟩ := exists_of_mem_newItems hit
  exact mayBeAuto_of_classifyItem
    (show (classifyItem (classifyInput answers.policy i)).1 = .auto from hauto)

theorem get?_acceptItem (items : Dict ℕ ExecutionPlanItem) (m : Made) (id : ℕ) :
    ((acceptItem items m).get? id).map (·.classified) = (items.get? id).map (·.classified) := by
  unfold acceptItem
  split
  · next it hit =>
    rw [Dict.get?_set]
    split_ifs with heq
    · rw [← heq, hit]
      rfl
    · rfl
  · rfl

theorem get?_acceptItems (made : List Made) (items : Dict ℕ ExecutionPlanItem) (id : ℕ) :
    ((made.foldl acceptItem items).get? id).map (·.classified) =
      (items.get? id).map (·.classified) := by
  induction made generalizing items with
  | nil => rfl
  | cons m _ ih => exact (ih _).trans (get?_acceptItem items m id)

/-- What the writes do to the items: each keeps its capability. -/
structure ItemsKept (items items' : Dict ℕ ExecutionPlanItem) : Prop where
  auto : AutoItems items → AutoItems items'
  capability : ∀ id it, items.get? id = some it →
    ∃ it', items'.get? id = some it' ∧ it'.expectedCapability = it.expectedCapability

theorem ItemsKept.refl (items : Dict ℕ ExecutionPlanItem) : ItemsKept items items :=
  ⟨id, fun _ it h => ⟨it, h, rfl⟩⟩

theorem itemsKept_of_classified {items items' : Dict ℕ ExecutionPlanItem}
    (h : ∀ id, (items'.get? id).map (·.classified) = (items.get? id).map (·.classified)) :
    ItemsKept items items' where
  auto hauto id it hget hclass := by
    have hid := h id
    rw [hget] at hid
    obtain ⟨it', hget', heq⟩ := Option.map_eq_some_iff.mp hid.symm
    obtain ⟨hclass', hcap⟩ := Prod.mk.inj heq
    exact hcap ▸ hauto id it' hget' (hclass'.trans hclass)
  capability id it hget := by
    have hid := h id
    rw [hget] at hid
    obtain ⟨it', hget', heq⟩ := Option.map_eq_some_iff.mp hid
    exact ⟨it', hget', (Prod.mk.inj heq).2⟩

theorem itemsKept_created {db db' : PlanDb}
    (h : createExecutionPlanService keywords db input answers = .ok db') :
    ItemsKept db.items db'.items := by
  have h := of_require h
  have h := of_require h
  have h := of_require h
  have h := of_require h
  obtain ⟨_, h⟩ := of_bind h
  obtain ⟨⟨-, -, hfresh⟩, h⟩ := require_bind_eq_ok.mp h
  cases h
  refine ⟨fun hauto id it hget hclass => ?_, fun id it hget => ⟨it, ?_, rfl⟩⟩
  · simp only [Dict.get?_update, Option.or_eq_some_iff] at hget
    rcases hget with hnew | ⟨-, hold⟩
    · have hmem := Dict.mem_of_lookup hnew
      rw [List.mem_reverse] at hmem
      obtain ⟨it', hit', heq⟩ := List.mem_map.mp hmem
      cases heq
      exact mayBeAuto_of_newItems hit' hclass
    · exact hauto id it hold hclass
  · show (db.items.update _).get? id = some it
    rw [Dict.get?_update_of_notMem]
    · exact hget
    · intro hmem
      rw [List.map_map] at hmem
      obtain ⟨it', hit', heq⟩ := List.mem_map.mp hmem
      have hnone := hfresh it' hit'
      rw [show it'.id = id from heq, hget] at hnone
      cases hnone

theorem itemsKept_patched {db : PlanDb} {itemId : ℕ} {changes : PatchPlanItemInput}
    (h : changes.autonomyClass = some .auto →
      ∃ it, db.items.get? itemId = some it ∧ MayBeAuto it.expectedCapability) :
    ItemsKept db.items (writePatch db itemId changes).items := by
  unfold writePatch
  split
  · next it hit =>
    refine ⟨fun hauto id it' hget hclass => ?_, fun id it' hget => ?_⟩
    · simp only [Dict.get?_set] at hget
      split_ifs at hget with heq
      · cases hget
        cases hchange : changes.autonomyClass with
        | none =>
          simp only [PatchPlanItemInput.apply, hchange, Option.getD_none] at hclass
          exact hauto itemId it hit hclass
        | some =>
          simp only [PatchPlanItemInput.apply, hchange, Option.getD_some] at hclass
          obtain ⟨it', hit', hmay⟩ := h (hchange.trans (congrArg some hclass))
          cases hit.symm.trans hit'
          exact hmay
      · exact hauto id it' hget hclass
    · simp only [Dict.get?_set]
      split_ifs with heq
      · subst heq
        cases hit.symm.trans hget
        exact ⟨_, rfl, rfl⟩
      · exact ⟨it', hget, rfl⟩
  · exact ItemsKept.refl _

theorem PlanChange.itemsKept (hsound : c.Sound s)
    (hc : PlanChange keywords s answers c s' c') : ItemsKept s.db.items s'.db.items := by
  cases hc with
  | created _ _ h => exact itemsKept_created h
  | patched => exact itemsKept_patched hsound
  | committed _ a =>
    exact itemsKept_of_classified (get?_acceptItems a.made s.db.items)
  | same | began | took | checked | rolledBack | rejected => exact ItemsKept.refl _

theorem PlanCall.Sound.kept (h : c.Sound s) (hitems : ItemsKept s.db.items s'.db.items) :
    c.Sound s' := by
  cases c with
  | patchWrite itemId =>
    intro hauto
    obtain ⟨it, hit, hmay⟩ := h hauto
    obtain ⟨it', hit', hcap⟩ := hitems.capability itemId it hit
    exact ⟨it', hit', hcap ▸ hmay⟩
  | _ => exact h

end Changes

/-! ## Every run -/

section Rule

variable {keywords : OwnerAgentProfile → String → Bool}

theorem soundRule : (planning keywords).Rule (fun _ _ _ => True) (fun s => AutoItems s.db.items)
    fun s c => c.Sound s where
  start s req _ := by cases req <;> trivial
  step s c answers s' c' hI hsound _ hs := by
    have hc := planChange_of_step hsound hs
    have hitems := hc.itemsKept hsound
    refine ⟨hitems.auto hI, fun d hd => hd.kept hitems, fun d hd => ?_⟩
    cases hc with
    | same _ _ hsound' => exact hsound' d hd
    | began | took | checked => cases hd; trivial
    | created | patched | committed | rolledBack | rejected => nomatch hd
  abort s c hI _ := by
    have hdb : (c.rollback s).db = s.db := by cases c <;> rfl
    refine ⟨?_, fun d hd => hd.kept ?_⟩
    · rw [show (planning keywords).abort c s = c.rollback s from rfl, hdb]
      exact hI
    · rw [show (planning keywords).abort c s = c.rollback s from rfl, hdb]
      exact ItemsKept.refl _

/-- An invariant that every change keeps, and every rollback. -/
theorem planRule {G : Planning → PlanCall → PlanAnswers → Prop} {I : Planning → Prop}
    (hstep : ∀ s c answers s' c', I s → c.Sound s → G s c answers →
      PlanChange keywords s answers c s' c' → I s')
    (hback : ∀ s txn, I s → I { s with accepts := s.accepts.erase txn }) :
    (planning keywords).Rule (fun s c a => True ∧ G s c a) (fun s => AutoItems s.db.items ∧ I s)
      fun s c => c.Sound s := by
  refine soundRule.and G I (fun s c a s' c' _ hsound hI hG hs => ?_) fun s c _ _ hI => ?_
  · exact hstep s c a s' c' hI hsound hG (planChange_of_step hsound hs)
  · cases c with
    | accepting txn => exact hback s txn hI
    | _ => exact hI

theorem autoItems_empty : AutoItems ∅ := fun _ _ h => nomatch h

/-- Projects and weekly plans, before the first execution plan. -/
def openPlanning (projects : List (ℕ × ℕ)) (weeklyPlans : List (ℕ × WeeklyPlan)) :
    InFlight Planning PlanCall :=
  { store := { db := {
      projects := Dict.update ∅ projects, weeklyPlans := Dict.update ∅ weeklyPlans } } }

end Rule

end JavisSaas.Company.Operations
