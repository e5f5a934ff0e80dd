import JavisSaas.Lib.EdgeGraph
import JavisSaas.Company.Operations.ExecutionPlanCalls

/-!
# Dependencies between tasks

`createTaskDependencyService` of `task-dependency.service.ts` and, as one operation, the acceptance
of an execution plan, which makes a dependency of every dependency between its items. An acceptance
searches the graph of the workspace for a cycle; the other excludes only a task that depends on
itself.

* `dependencyLaw_along_iff`: the law holds along a sequence of operations if and only if no created
  dependency closes a cycle.
* `not_dependencyLaw_mutual`: two tasks that depend on each other.
-/

namespace JavisSaas.Company.Operations

open JavisSaas.Lib
open TaskDependency (dependsOnTaskId taskId)

/-! ## `createTaskDependencyService` (lines 69–96) -/

structure CreateDependencyParams where
  /-- `none` is a missing or empty identifier. -/
  taskId : Option ℕ
  dependsOnTaskId : Option ℕ
  workspaceId : ℕ

def assertTasksInWorkspace (db : PlanDb) (taskIds : List ℕ) (workspaceId : ℕ) :
    Except ApiError Unit :=
  require (∀ id ∈ taskIds, ∃ t ∈ db.tasks, t.id = id ∧ t.workspaceId = workspaceId)
    (.notFound "One or more referenced tasks are not in this workspace")

/-- The row that is inserted, after the checks. -/
def newDependency (db : PlanDb) (p : CreateDependencyParams) : Except ApiError TaskDependency := do
  match p.taskId, p.dependsOnTaskId with
  | some taskId, some dependsOnTaskId =>
    require (taskId ≠ dependsOnTaskId) (.invalidArgument "A task cannot depend on itself")
    assertTasksInWorkspace db [taskId, dependsOnTaskId] p.workspaceId
    return { taskId, dependsOnTaskId }
  | _, _ => .error (.invalidArgument "taskId and dependsOnTaskId are required")

def createTaskDependencyService (db : PlanDb) (p : CreateDependencyParams) :
    Except ApiError PlanDb := do
  let row ← newDependency db p
  return { db with dependencies := db.dependencies ++ [row] }

/-! ## `acceptExecutionPlanService`, from its first query to its commit -/

/-- The loop over the items; answer number `i` is for item number `i`. -/
def takeAll (answers : ℕ → PlanAnswers) : Accepting → List ExecutionPlanItem → Accepting
  | a, [] => a
  | a, it :: rest => takeAll answers (a.take it rest (answers a.made.length)) rest

/-- The new tasks have new keys. -/
def FreshTasks (db : PlanDb) (made : List Made) : Prop :=
  (made.map (·.task.id)).Nodup ∧ ∀ m ∈ made, ∀ t ∈ db.tasks, t.id ≠ m.task.id
deriving Decidable

def acceptExecutionPlanService (db : PlanDb) (p : AcceptParams) (answers : ℕ → PlanAnswers) :
    Except ApiError PlanDb := do
  let plan ← acceptablePlan db p
  let projectId ← weeklyPlanProject db p plan
  let items ← acceptableItems db plan
  let acceptance : Acceptance := ⟨p, plan, projectId, items, (answers 0).founderMemberId⟩
  let made := (takeAll answers { acceptance, remaining := items } items).made
  require (FreshTasks db made) ⟨"unique_violation", "tasks_pkey"⟩
  assertNoTaskCycles (existingDeps db p.workspaceId ++ newEdges made)
  return acceptWrites db acceptance made (answers 0).now

/-! ## Sequences of operations -/

/-- What the tables guarantee: items are stored under their keys, and the tasks of a dependency
    exist. -/
structure Referential (db : PlanDb) : Prop where
  keyed : ∀ id it, db.items.get? id = some it → it.id = id
  tasks : ∀ d ∈ db.dependencies,
    d.taskId ∈ db.tasks.map (·.id) ∧ d.dependsOnTaskId ∈ db.tasks.map (·.id)

/-- Everything else that happens between two operations makes no dependencies. -/
def LeavesDependencies (db db' : PlanDb) : Prop :=
  db'.dependencies ⊆ db.dependencies ∧ (∀ entry ∈ db'.items.items, entry.2.id = entry.1) ∧
    ∀ d ∈ db'.dependencies,
      d.taskId ∈ db'.tasks.map (·.id) ∧ d.dependsOnTaskId ∈ db'.tasks.map (·.id)
deriving Decidable

inductive DependencyOp
  | create (p : CreateDependencyParams)
  | accept (p : AcceptParams) (answers : ℕ → PlanAnswers)
  /-- Other writes to the tables. -/
  | other (db : PlanDb)

/-- An operation that is refused changes nothing. -/
def DependencyOp.next (db : PlanDb) : DependencyOp → Option PlanDb
  | create p => some ((createTaskDependencyService db p).toOption.getD db)
  | accept p answers => some ((acceptExecutionPlanService db p answers).toOption.getD db)
  | other db' => if LeavesDependencies db db' then some db' else none

def dependencyOps : System PlanDb DependencyOp := ⟨DependencyOp.next⟩

/-! ## The law -/

/-- The tasks of the relation. -/
def relatedTasks (db : PlanDb) : List ℕ :=
  nodesOf TaskDependency.taskId TaskDependency.dependsOnTaskId db.dependencies

/-- Dependencies, as `listAgentClaimableTasksService` finds them, have no cycle; some open task can
be claimed; and they refuse no plan. -/
structure DependencyLaw (db : PlanDb) : Prop where
  acyclic : Acyclic TaskDependency.taskId TaskDependency.dependsOnTaskId db.dependencies
  ready : ∀ done : ℕ → Prop, (∃ t ∈ relatedTasks db, ¬done t) →
    ∃ t ∈ relatedTasks db, ¬done t ∧ ∀ d ∈ db.dependencies, d.taskId = t → done d.dependsOnTaskId
  accepted : ∀ p answers db',
    acceptExecutionPlanService { db with dependencies := [] } p answers = .ok db' →
    ∃ db'', acceptExecutionPlanService db p answers = .ok db''

/-- The search that an acceptance makes finds no cycle through a created dependency. -/
def ClosesNoCycle (db : PlanDb) : DependencyOp → Prop
  | .create p => ∀ row, newDependency db p = .ok row →
    assertNoTaskCycles (db.dependencies ++ [row]) = .ok ()
  | _ => True

instance (db : PlanDb) : (op : DependencyOp) → Decidable (ClosesNoCycle db op)
  | .create p =>
    match h : newDependency db p with
    | .ok row => decidable_of_iff (assertNoTaskCycles (db.dependencies ++ [row]) = .ok ()) (by
        show _ ↔ ∀ row, newDependency db p = .ok row → _
        simp [h])
    | .error e => .isTrue fun row hrow => nomatch h.symm.trans hrow
  | .accept _ _ | .other _ => instDecidableTrue

/-! ## What the operations do -/

section Operations

variable {db db' : PlanDb}

theorem assertNoTaskCycles_eq_ok {edges : List TaskDependency} {u : Unit} :
    assertNoTaskCycles edges = .ok u ↔
      Acyclic taskId dependsOnTaskId edges := by
  rw [← cycleSearch_edges_iff]
  have hdeps : (fun task => (edges.filter (·.taskId = task)).map (·.dependsOnTaskId)) =
      depsOf taskId dependsOnTaskId edges := rfl
  have hnodes : (edges.map (·.taskId) ++ edges.map (·.dependsOnTaskId)).eraseDups =
      nodesOf taskId dependsOnTaskId edges := rfl
  unfold assertNoTaskCycles
  dsimp only
  rw [hdeps, hnodes]
  cases cycleSearch (depsOf taskId dependsOnTaskId edges)
      (nodesOf taskId dependsOnTaskId edges) with
  | ok m => exact ⟨fun _ => ⟨m, rfl⟩, fun _ => rfl⟩
  | error =>
    constructor
    · exact fun h => by cases h
    · rintro ⟨m, hm⟩
      cases hm

theorem tasks_of_newDependency {p : CreateDependencyParams} {row : TaskDependency}
    (h : newDependency db p = .ok row) :
    row.taskId ∈ db.tasks.map (·.id) ∧ row.dependsOnTaskId ∈ db.tasks.map (·.id) := by
  unfold newDependency at h
  split at h
  · next taskId dependsOnTaskId _ _ =>
    have h := of_require h
    obtain ⟨_, htasks, h⟩ := bind_eq_ok.mp h
    cases h
    have htasks := require_eq_ok.mp htasks
    obtain ⟨t, ht, hid, -⟩ := htasks taskId (by simp)
    obtain ⟨t', ht', hid', -⟩ := htasks dependsOnTaskId (by simp)
    exact ⟨List.mem_map.mpr ⟨t, ht, hid⟩, List.mem_map.mpr ⟨t', ht', hid'⟩⟩
  · nomatch h

theorem createTaskDependencyService_eq_ok {p : CreateDependencyParams} :
    createTaskDependencyService db p = .ok db' ↔ ∃ row, newDependency db p = .ok row ∧
      { db with dependencies := db.dependencies ++ [row] } = db' := by
  unfold createTaskDependencyService
  rw [bind_eq_ok]
  exact exists_congr fun row => and_congr_right fun _ => pure_eq_ok

theorem made_takeAll (answers : ℕ → PlanAnswers) (items : List ExecutionPlanItem) (a : Accepting) :
    (takeAll answers a items).made.map (·.item) = a.made.map (·.item) ++ items := by
  induction items generalizing a with
  | nil => exact (List.append_nil _).symm
  | cons it rest ih =>
    obtain ⟨-, -, hmade⟩ := a.take_spec it rest (answers a.made.length)
    rw [takeAll, ih, hmade, List.append_assoc]
    rfl

/-- What an acceptance finds out before it searches the graph. -/
structure Accepts (db : PlanDb) (p : AcceptParams) (answers : ℕ → PlanAnswers) (a : Acceptance)
    (made : List Made) : Prop where
  params : a.params = p
  founder : a.founderMemberId = (answers 0).founderMemberId
  plan : acceptablePlan db p = .ok a.plan
  project : weeklyPlanProject db p a.plan = .ok a.projectId
  items : acceptableItems db a.plan = .ok a.items
  loop : (takeAll answers { acceptance := a, remaining := a.items } a.items).made = made
  fresh : FreshTasks db made

theorem acceptExecutionPlanService_eq_ok {p : AcceptParams} {answers : ℕ → PlanAnswers} :
    acceptExecutionPlanService db p answers = .ok db' ↔ ∃ a made, Accepts db p answers a made ∧
      assertNoTaskCycles (existingDeps db p.workspaceId ++ newEdges made) = .ok () ∧
      acceptWrites db a made (answers 0).now = db' := by
  constructor
  · intro h
    obtain ⟨plan, hplan, h⟩ := bind_eq_ok.mp h
    obtain ⟨projectId, hproject, h⟩ := bind_eq_ok.mp h
    obtain ⟨items, hitems, h⟩ := bind_eq_ok.mp h
    obtain ⟨hfresh, h⟩ := require_bind_eq_ok.mp h
    obtain ⟨_, hsearch, h⟩ := bind_eq_ok.mp h
    have hwrites := pure_eq_ok.mp h
    exact ⟨⟨p, plan, projectId, items, (answers 0).founderMemberId⟩, _,
      ⟨rfl, rfl, hplan, hproject, hitems, rfl, hfresh⟩, hsearch, hwrites⟩
  · rintro ⟨⟨params, plan, projectId, items, founder⟩, made, h, hsearch, rfl⟩
    obtain ⟨hparams, hfounder, hplan, hproject, hitems, hloop, hfresh⟩ := h
    dsimp only at hparams hfounder
    subst hparams hfounder hloop
    refine bind_eq_ok.mpr ⟨plan, hplan, bind_eq_ok.mpr ⟨projectId, hproject, ?_⟩⟩
    refine bind_eq_ok.mpr ⟨items, hitems, require_bind_eq_ok.mpr ⟨hfresh, ?_⟩⟩
    exact bind_eq_ok.mpr ⟨(), hsearch, rfl⟩

theorem Accepts.made_items {p : AcceptParams} {answers : ℕ → PlanAnswers} {a : Acceptance}
    {made : List Made} (h : Accepts db p answers a made) : made.map (·.item) = a.items := by
  rw [← h.loop, made_takeAll]
  rfl

/-! ### The new edges -/

theorem nodup_liveItems (hkeyed : ∀ id it, db.items.get? id = some it → it.id = id) (planId : ℕ) :
    ((liveItems db planId).map (·.id)).Nodup := by
  have hvalues : (db.items.values.map (·.id)).Nodup := by
    have hkeys : db.items.values.map (·.id) = db.items.keys := by
      rw [Dict.values, Dict.keys, List.map_map]
      refine List.map_congr_left fun entry hentry => ?_
      exact hkeyed entry.1 entry.2 (Dict.get?_eq_some.mpr hentry)
    rw [hkeys]
    exact db.items.nodup_keys
  exact hvalues.sublist (List.filter_sublist.map _)

/-- The item of a node is found among the items whose identifiers differ. -/
theorem find?_item {items : List ExecutionPlanItem} (hids : (items.map (·.id)).Nodup)
    {it : ExecutionPlanItem} (hit : it ∈ items) :
    items.find? (fun it' => it'.id = it.id) = some it := by
  induction items with
  | nil => nomatch hit
  | cons first _ ih =>
    obtain ⟨hnew, hids⟩ := List.nodup_cons.mp hids
    rcases List.mem_cons.mp hit with rfl | hit
    · exact List.find?_cons_of_pos (by simp)
    · have hne : first.id ≠ it.id := by
        intro heq
        exact hnew (List.mem_map.mpr ⟨it, hit, heq.symm⟩)
      rw [List.find?_cons_of_neg (by simpa using hne)]
      exact ih hids hit

theorem mem_newEdges {made : List Made} {e : TaskDependency} (he : e ∈ newEdges made) :
    ∃ m ∈ made, ∃ m' ∈ made, e.taskId = m.task.id ∧ e.dependsOnTaskId = m'.task.id ∧
      m'.item.id ∈ m.item.dependsOnItemIds := by
  obtain ⟨m, hm, he⟩ := List.mem_flatMap.mp he
  obtain ⟨dep, hdep, he⟩ := List.mem_filterMap.mp he
  obtain ⟨m', hm', rfl⟩ := Option.map_eq_some_iff.mp he
  have hitem : m'.item.id = dep := by simpa using List.find?_some hm'
  exact ⟨m, hm, m', List.mem_of_find?_eq_some hm', rfl, rfl, hitem ▸ hdep⟩

theorem acyclic_newEdges {items : List ExecutionPlanItem} {made : List Made} {u : Unit}
    (hids : (items.map (·.id)).Nodup) (hcheck : assertNoCycles items = .ok u)
    (hmade : made.map (·.item) = items) (htasks : (made.map (·.task.id)).Nodup) :
    Acyclic taskId dependsOnTaskId (newEdges made) := by
  have hitem : ∀ m ∈ made, m.item ∈ items := fun m hm => hmade ▸ List.mem_map_of_mem hm
  have hacc : ∀ id, Acc (DepOf (itemDeps items)) id → ∀ m ∈ made, m.item.id = id →
      Acc (DepOf (depsOf taskId dependsOnTaskId (newEdges made)))
        m.task.id := by
    intro id hid
    induction hid with
    | intro _ _ ih =>
      rintro m hm rfl
      refine Acc.intro _ fun t ht => ?_
      obtain ⟨e, he, hsrc, rfl⟩ := depOf_iff.mp ht
      obtain ⟨m₁, hm₁, m', hm', htask, hdst, hdep⟩ := mem_newEdges he
      obtain rfl := List.inj_on_of_nodup_map htasks hm₁ hm (htask.symm.trans hsrc)
      have hfind := find?_item hids (hitem m₁ hm)
      have hdeps : DepOf (itemDeps items) m'.item.id m₁.item.id := by
        show m'.item.id ∈ itemDeps items m₁.item.id
        rw [itemDeps, hfind]
        refine List.mem_filter.mpr ⟨hdep, decide_eq_true ?_⟩
        exact List.mem_map_of_mem (hitem m' hm')
      rw [hdst]
      exact ih m'.item.id hdeps m' hm' rfl
  refine acc_iff_acyclic_edges.mp fun t => Acc.intro t fun t' ht => ?_
  obtain ⟨e, he, rfl, rfl⟩ := depOf_iff.mp ht
  obtain ⟨_, _, m', hm', -, hdst, -⟩ := mem_newEdges he
  rw [hdst]
  exact hacc _ (acc_of_assertNoCycles hcheck (hitem m' hm')) m' hm' rfl

end Operations

/-! ## Every sequence -/

section Law

variable {db db' : PlanDb}

/-- The tasks of the dependencies that there are exist, so no new edge starts at one. -/
theorem fresh_of_newEdges (hrows : Referential db) {made : List Made} (hfresh : FreshTasks db made)
    {e : TaskDependency} (he : e ∈ newEdges made) {edges : List TaskDependency}
    (hsub : edges ⊆ db.dependencies) :
    e.taskId ∉ nodesOf taskId dependsOnTaskId edges := by
  intro hmem
  obtain ⟨m, hm, -, -, htask, -⟩ := mem_newEdges he
  obtain ⟨d, hd, hend⟩ := mem_nodesOf.mp hmem
  have hexists : m.task.id ∈ db.tasks.map (·.id) := by
    rw [← htask]
    rcases hend with hend | hend
    · exact hend ▸ (hrows.tasks d (hsub hd)).1
    · exact hend ▸ (hrows.tasks d (hsub hd)).2
  obtain ⟨t, ht, hid⟩ := List.mem_map.mp hexists
  exact hfresh.2 m hm t ht hid

theorem dependencyLaw_iff (hrows : Referential db) : DependencyLaw db ↔
    Acyclic taskId dependsOnTaskId db.dependencies := by
  refine ⟨fun h => h.acyclic, fun h => ⟨h, fun done hopen => exists_ready h hopen, ?_⟩⟩
  intro p answers db' hdb'
  obtain ⟨a, made, haccepts, hsearch, -⟩ := acceptExecutionPlanService_eq_ok.mp hdb'
  have hexisting : Acyclic taskId dependsOnTaskId
      (existingDeps db p.workspaceId) := h.of_subset List.filter_sublist.subset
  have hnew : Acyclic taskId dependsOnTaskId (newEdges made) :=
    assertNoTaskCycles_eq_ok.mp hsearch
  refine ⟨_, acceptExecutionPlanService_eq_ok.mpr ⟨a, made, ⟨haccepts.params, haccepts.founder,
    haccepts.plan, haccepts.project, haccepts.items, haccepts.loop, haccepts.fresh⟩, ?_, rfl⟩⟩
  refine assertNoTaskCycles_eq_ok.mpr (acyclic_append_of_fresh hexisting hnew fun e he => ?_)
  exact fresh_of_newEdges hrows haccepts.fresh he List.filter_sublist.subset

theorem keyed_acceptItems (made : List Made) {items : Dict ℕ ExecutionPlanItem}
    (h : ∀ id it, items.get? id = some it → it.id = id) :
    ∀ id it, (made.foldl acceptItem items).get? id = some it → it.id = id := by
  induction made generalizing items with
  | nil => exact h
  | cons _ _ ih =>
    refine ih fun id it hit => ?_
    unfold acceptItem at hit
    split at hit
    · next old hold =>
      rw [Dict.get?_set] at hit
      split_ifs at hit with heq
      · cases hit
        exact (h _ old hold).trans heq
      · exact h id it hit
    · exact h id it hit

theorem Referential.created (h : Referential db) {row : TaskDependency}
    {p : CreateDependencyParams} (hrow : newDependency db p = .ok row) :
    Referential { db with dependencies := db.dependencies ++ [row] } where
  keyed := h.keyed
  tasks d hd := by
    rcases mem_concat hd with hd | rfl
    · exact h.tasks d hd
    · exact tasks_of_newDependency hrow

theorem Referential.accepted (h : Referential db) (a : Acceptance) (made : List Made) (now : ℤ) :
    Referential (acceptWrites db a made now) where
  keyed := keyed_acceptItems made h.keyed
  tasks d hd := by
    simp only [acceptWrites, List.map_append, List.mem_append] at hd ⊢
    rcases hd with hd | hd
    · exact ⟨.inl (h.tasks d hd).1, .inl (h.tasks d hd).2⟩
    · obtain ⟨m, hm, m', hm', hsrc, hdst, -⟩ := mem_newEdges hd
      rw [List.map_map, hsrc, hdst]
      exact ⟨.inr (List.mem_map.mpr ⟨m, hm, rfl⟩), .inr (List.mem_map.mpr ⟨m', hm', rfl⟩)⟩

theorem acyclic_accepted (hrows : Referential db)
    (h : Acyclic taskId dependsOnTaskId db.dependencies)
    {p : AcceptParams} {answers : ℕ → PlanAnswers} {a : Acceptance} {made : List Made}
    (haccepts : Accepts db p answers a made) :
    Acyclic taskId dependsOnTaskId
      (db.dependencies ++ newEdges made) := by
  have hitems : a.items = liveItems db a.plan.id ∧ assertNoCycles a.items = .ok () := by
    have h := haccepts.items
    have h := of_require h
    obtain ⟨_, hcheck, h⟩ := bind_eq_ok.mp h
    exact ⟨(pure_eq_ok.mp h).symm, pure_eq_ok.mp h ▸ hcheck⟩
  refine acyclic_append_of_fresh h ?_ fun e he => ?_
  · refine acyclic_newEdges ?_ hitems.2 haccepts.made_items haccepts.fresh.1
    rw [hitems.1]
    exact nodup_liveItems hrows.keyed _
  · exact fresh_of_newEdges hrows haccepts.fresh he (List.Subset.refl _)

/-! ### One operation -/

theorem referential_of_next (h : Referential db) {op : DependencyOp}
    (hnext : DependencyOp.next db op = some db') : Referential db' := by
  cases op with
  | create p =>
    cases hnext
    cases hcreate : createTaskDependencyService db p with
    | error => exact h
    | ok =>
      obtain ⟨row, hrow, rfl⟩ := createTaskDependencyService_eq_ok.mp hcreate
      exact h.created hrow
  | accept p answers =>
    cases hnext
    cases haccept : acceptExecutionPlanService db p answers with
    | error => exact h
    | ok =>
      obtain ⟨a, made, -, -, rfl⟩ := acceptExecutionPlanService_eq_ok.mp haccept
      exact h.accepted a made _
  | other db' =>
    change (if LeavesDependencies db db' then some db' else none) = some _ at hnext
    split_ifs at hnext with hleaves
    cases hnext
    obtain ⟨-, hkeyed, htasks⟩ := hleaves
    exact ⟨fun id it hit => hkeyed (id, it) (Dict.get?_eq_some.mp hit), htasks⟩

theorem law_of_next_iff (hrows : Referential db) (h : DependencyLaw db) (op : DependencyOp) :
    (∀ db' ∈ DependencyOp.next db op, DependencyLaw db') ↔ ClosesNoCycle db op := by
  have hlaw : ∀ db', DependencyOp.next db op = some db' → (DependencyLaw db' ↔
      Acyclic taskId dependsOnTaskId db'.dependencies) :=
    fun db' hnext => dependencyLaw_iff (referential_of_next hrows hnext)
  cases op with
  | create p =>
    simp only [DependencyOp.next, Option.mem_some_iff, forall_eq']
    rw [hlaw _ rfl]
    cases hcreate : createTaskDependencyService db p with
    | error =>
      refine iff_of_true h.acyclic fun row hrow => ?_
      nomatch hcreate.symm.trans (createTaskDependencyService_eq_ok.mpr ⟨row, hrow, rfl⟩)
    | ok =>
      obtain ⟨row, hrow, rfl⟩ := createTaskDependencyService_eq_ok.mp hcreate
      show Acyclic _ _ (db.dependencies ++ [row]) ↔ ∀ row', newDependency db p = .ok row' → _
      rw [hrow, ← assertNoTaskCycles_eq_ok (u := ())]
      constructor
      · rintro hsearch row' heq
        exact Except.ok.inj heq ▸ hsearch
      · exact fun hclose => hclose row rfl
  | accept p answers =>
    simp only [DependencyOp.next, Option.mem_some_iff, forall_eq']
    rw [hlaw _ rfl]
    refine iff_of_true ?_ trivial
    cases haccept : acceptExecutionPlanService db p answers with
    | error => exact h.acyclic
    | ok =>
      obtain ⟨a, made, haccepts, -, rfl⟩ := acceptExecutionPlanService_eq_ok.mp haccept
      exact acyclic_accepted hrows h.acyclic haccepts
  | other db' =>
    refine iff_of_true (fun db'' hnext => (hlaw db'' hnext).mpr ?_) trivial
    change (if LeavesDependencies db db' then some db' else none) = some db'' at hnext
    split_ifs at hnext with hleaves
    cases hnext
    exact h.acyclic.of_subset hleaves.1

/-- The law holds all along if and only if no created dependency closes a cycle. -/
theorem dependencyLaw_along_iff (db : PlanDb) (hrows : Referential db) (h : DependencyLaw db)
    (ops : List DependencyOp) :
    dependencyOps.Along (fun db op => ∀ db' ∈ dependencyOps.next db op, DependencyLaw db') db ops ↔
      dependencyOps.Along ClosesNoCycle db ops := by
  refine dependencyOps.along_iff_of_inv (I := fun db => Referential db ∧ DependencyLaw db) ?_ ?_ ?_
  · exact fun db op db' hI hG hnext => ⟨referential_of_next hI.1 hnext, hG db' hnext⟩
  · exact fun db op hI => law_of_next_iff hI.1 hI.2 op
  · exact ⟨hrows, h⟩

end Law

/-! ### Two tasks and a plan -/

def interviewTask (id : ℕ) : Task where
  id
  workspaceId := 1
  projectId := 2
  title := "Interview customers"
  priority := .medium
  weeklyCommitmentId := 4
  initiativeId := none
  assigneeMemberId := none
  executionMode := .human

def interviewItem (id : ℕ) (dependsOnItemIds : List ℕ) : ExecutionPlanItem where
  id
  planId := 10
  workspaceId := 1
  title := "Interview customers"
  decisionReason := "five interviews a week"
  evidenceRefs := []
  ownerAgentProfile := none
  expectedCapability := none
  autonomyClass := .founderOnly
  autonomyClassSource := .classifierDefault
  priority := .medium
  dependsOnItemIds
  sortKey := id

def interviewPlan : ExecutionPlan where
  id := 10
  workspaceId := 1
  projectId := 2
  weeklyPlanId := some 5
  goalText := "Understand the customers"
  origin := .chat
  originRef := none
  runId := none

/-- The tasks 1 and 2 without dependencies, and the plan 10 with two items. -/
def twoTasks : PlanDb where
  projects := Dict.update ∅ [(2, 1)]
  weeklyPlans := Dict.update ∅ [(5, ⟨1, 2⟩)]
  plans := Dict.update ∅ [(10, interviewPlan)]
  items := Dict.update ∅ [(20, interviewItem 20 []), (21, interviewItem 21 [20])]
  tasks := [interviewTask 1, interviewTask 2]

theorem referential_twoTasks : Referential twoTasks where
  keyed id it hit := by
    have hkeys : ∀ entry ∈ twoTasks.items.items, entry.2.id = entry.1 := by decide +kernel
    exact hkeys (id, it) (Dict.get?_eq_some.mp hit)
  tasks d hd := absurd hd List.not_mem_nil

theorem dependencyLaw_twoTasks : DependencyLaw twoTasks :=
  (dependencyLaw_iff referential_twoTasks).mpr acyclic_nil

/-- Task `taskId` depends on `dependsOnTaskId`. -/
def dependsOn (taskId dependsOnTaskId : ℕ) : DependencyOp :=
  .create ⟨some taskId, some dependsOnTaskId, 1⟩

/-- The plan 10 becomes the tasks 30 and 31. -/
def acceptInterviews : DependencyOp :=
  .accept { planId := 10, workspaceId := 1 } fun i => { newId := 40 + i, newTaskId := 30 + i }

theorem dependencyLaw_along_interviews : dependencyOps.Along
    (fun db op => ∀ db' ∈ dependencyOps.next db op, DependencyLaw db') twoTasks
    [dependsOn 2 1, acceptInterviews, dependsOn 30 2] :=
  (dependencyLaw_along_iff twoTasks referential_twoTasks dependencyLaw_twoTasks
    [dependsOn 2 1, acceptInterviews, dependsOn 30 2]).mpr (by decide +kernel)

/-- Each of the two tasks depends on the other: none of them can be claimed, and the plan is
    refused. -/
theorem not_dependencyLaw_mutual : ∃ db, dependencyOps.run twoTasks [dependsOn 2 1, dependsOn 1 2] =
    some db ∧ dependencyOps.run db [acceptInterviews] = some db ∧ ¬DependencyLaw db := by
  refine ⟨{ twoTasks with dependencies := [{ taskId := 2, dependsOnTaskId := 1 },
    { taskId := 1, dependsOnTaskId := 2 }] }, rfl, rfl, fun h => ?_⟩
  have hone : DepOf (depsOf TaskDependency.taskId TaskDependency.dependsOnTaskId
      [{ taskId := 2, dependsOnTaskId := 1 }, { taskId := 1, dependsOnTaskId := 2 }]) 1 2 := by
    show _ ∈ _
    decide
  have htwo : DepOf (depsOf TaskDependency.taskId TaskDependency.dependsOnTaskId
      [{ taskId := 2, dependsOnTaskId := 1 }, { taskId := 1, dependsOnTaskId := 2 }]) 2 1 := by
    show _ ∈ _
    decide
  exact h.acyclic 1 (.tail (.single hone) htwo)

end JavisSaas.Company.Operations
