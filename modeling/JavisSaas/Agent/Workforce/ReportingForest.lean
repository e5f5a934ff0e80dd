import Mathlib.Data.List.TakeWhile
import JavisSaas.Lib.Ancestry
import JavisSaas.Agent.Workforce.Reporting

/-!
# The reporting lines form a forest

The managers of a workspace form a forest, and `manager_chain` is the part of a line that is active.
A creation checks the line above the assignment; one that is created again takes the ones below it
along, whose lines may get deeper than the limit.

* `reportingLaw_along`: the law, if what is below an assignment still fits under its new manager.
* `not_reportingLaw_movedTeam`: a team is put under a deeper manager.
* `escalate_eq_wakeFirst`: an escalation goes up the chain of managers.
-/

namespace JavisSaas.Agent.Workforce

open JavisSaas.Lib

/-! ## The law -/

/-- No assignment is above itself, lines are short enough, and `manager_chain` is the active
beginning. -/
structure ReportingLaw (nodes : ReportingNodes) : Prop where
  acyclic : ∀ id, ¬ Relation.TransGen (fun a b => nodes.parentOf a = some b) id id
  depth : ∀ id, ∃ line, Line nodes.parentOf id line ∧ line.length ≤ maxReportingDepth
  chain : ∀ id maxHops line, Line nodes.parentOf id line →
    managerChain nodes id maxHops = (line.takeWhile nodes.isActive).take maxHops

/-! ## The condition -/

/-- The line of an assignment under the manager. -/
def lineUnder (nodes : ReportingNodes) (parentId : Option String) : List String :=
  parentId.elim [] fun p => p :: climb nodes.parentOf maxReportingDepth p

/-- The lines that lead to the assignment fit on top of its new one. -/
def FitsBelow (nodes : ReportingNodes) (id : String) (parentId : Option String) : Prop :=
  ∀ below ∈ nodes.keys, id ∈ climb nodes.parentOf maxReportingDepth below →
    ((climb nodes.parentOf maxReportingDepth below).takeWhile (· ≠ id)).length + 1 +
      (lineUnder nodes parentId).length ≤ maxReportingDepth
deriving Decidable

/-- A new id is of no other workspace or key, where the primary key is a constraint. -/
def Insertable (repository : WorkforceRepository) (rows : Assignments)
    (input : CreateAssignmentInput) (newId : String) : Prop :=
  repository = .postgres → input.existing rows = none →
    rows.get? (input.effectiveId rows newId) = none
deriving Decidable

/-- A creation that passes its checks leaves no line below it too deep. -/
def KeepsDepth (repository : WorkforceRepository) (rows : Assignments) : AssignmentOp → Prop
  | .create input employeeStatus newId =>
    (input.check rows employeeStatus newId).toOption.isSome →
      Insertable repository rows input newId →
        FitsBelow (nodesOf rows input.key.workspaceId) (input.effectiveId rows newId)
          input.reportsToAssignmentId
  | .retire _ _ => True

instance (repository : WorkforceRepository) (rows : Assignments) (op : AssignmentOp) :
    Decidable (KeepsDepth repository rows op) := by
  unfold KeepsDepth
  split <;> infer_instance

/-! ## `check_reporting_line` and `manager_chain` -/

section Lines

variable {nodes : ReportingNodes}

theorem line_of_checkAncestors {links : ℕ} {seen : List String} {current : String}
    (h : checkAncestors nodes links seen current = .ok ()) : ∃ line,
      Line nodes.parentOf current line ∧ line.length ≤ links ∧ ∀ a ∈ current :: line, a ∉ seen := by
  induction links generalizing seen current with
  | zero =>
    unfold checkAncestors at h
    split_ifs at h with hseen
    cases hparent : nodes.parentOf current with
    | none => exact ⟨[], .root hparent, Nat.le_refl _, by simpa using hseen⟩
    | some =>
      rw [hparent] at h
      nomatch h
  | succ _ ih =>
    unfold checkAncestors at h
    split_ifs at h with hseen
    cases hparent : nodes.parentOf current with
    | none => exact ⟨[], .root hparent, Nat.zero_le _, by simpa using hseen⟩
    | some next =>
      rw [hparent] at h
      obtain ⟨line, hline, hlength, hfresh⟩ := ih h
      refine ⟨next :: line, .link hparent hline, Nat.succ_le_succ hlength, fun a ha => ?_⟩
      rcases List.mem_cons.mp ha with rfl | ha
      · exact hseen
      · exact fun hin => hfresh a ha (List.mem_cons_of_mem _ hin)

/-- A manager who passes the check has a line that leaves room for the link to him. -/
theorem line_of_check {id p : String} (h : checkReportingLine nodes id (some p) = .ok ()) :
    ∃ line, Line nodes.parentOf p line ∧ line.length + 1 ≤ maxReportingDepth ∧ id ∉ p :: line := by
  have h := of_require h
  have h := of_require h
  have h := of_require h
  obtain ⟨line, hline, hlength, hfresh⟩ := line_of_checkAncestors h
  refine ⟨line, hline, ?_, fun hid => hfresh id hid (List.mem_singleton_self _)⟩
  unfold maxReportingDepth at hlength ⊢
  omega

theorem activeAncestors_of_line {hops : ℕ} {seen line : List String} {id : String}
    (hline : Line nodes.parentOf id line) (hfresh : ∀ a ∈ line, a ∉ seen) :
    activeAncestors nodes hops seen (nodes.parentOf id) =
      (line.takeWhile nodes.isActive).take hops := by
  induction hops generalizing id line seen with
  | zero => rw [activeAncestors, List.take_zero]
  | succ _ ih =>
    cases hline with
    | root h => rw [h, activeAncestors, List.takeWhile_nil, List.take_nil]
    | @link _ y line h hl =>
      have hy : y ∉ seen := hfresh y List.mem_cons_self
      rw [h, activeAncestors, List.takeWhile_cons]
      cases hactive : nodes.isActive y with
      | false =>
        rw [if_pos (.inr rfl), if_neg Bool.false_ne_true, List.take_nil]
      | true =>
        have hrest : ∀ a ∈ line, a ∉ y :: seen := by
          intro a ha hin
          rcases List.mem_cons.mp hin with rfl | hin
          · exact hl.notMem ha
          · exact hfresh a (List.mem_cons_of_mem _ ha) hin
        rw [if_neg (by simp [hy]), if_pos rfl, List.take_succ_cons, ih hl hrest]

theorem ReportingLaw.of_lines
    (h : ∀ id, ∃ line, Line nodes.parentOf id line ∧ line.length ≤ maxReportingDepth) :
    ReportingLaw nodes where
  acyclic id := by
    obtain ⟨line, hline, -⟩ := h id
    exact hline.acyclic
  depth := h
  chain id maxHops line hline := by
    refine activeAncestors_of_line hline fun a ha hid => ?_
    obtain rfl := List.mem_singleton.mp hid
    exact hline.notMem ha

end Lines

/-! ## Rows and nodes -/

/-- Every row is stored under its id. -/
def Keyed (rows : Assignments) : Prop := ∀ id r, rows.get? id = some r → r.assignmentId = id

namespace Keyed

variable {rows : Assignments} {ws id : String} {r : WorkforceAssignmentRecord}

theorem set (h : Keyed rows) (hr : r.assignmentId = id) : Keyed (rows.set id r) := by
  intro id' r' hr'
  rw [Dict.get?_set] at hr'
  split_ifs at hr' with hid
  · rw [← Option.some.inj hr', hr, hid]
  · exact h id' r' hr'

theorem map_assignmentId (h : Keyed rows) : rows.values.map (·.assignmentId) = rows.keys := by
  rw [Dict.values, Dict.keys, List.map_map]
  refine List.map_congr_left fun kv hkv => ?_
  exact h kv.1 kv.2 (Dict.get?_eq_some.mpr hkv)

theorem get?_nodesOf (h : Keyed rows) :
    (nodesOf rows ws).get? id = ((rows.get? id).filter (·.key.workspaceId = ws)).map
      fun r => ⟨r.reportsToAssignmentId, r.status⟩ := by
  rw [nodesOf, Dict.get?_update, Dict.get?_empty, Option.or_none]
  have hnodup : (((rows.values.filter (·.key.workspaceId = ws)).map fun r =>
      (r.assignmentId, (⟨r.reportsToAssignmentId, r.status⟩ : ReportingNode))).reverse.map
        Prod.fst).Nodup := by
    rw [List.map_reverse, List.nodup_reverse, List.map_map]
    refine List.Nodup.sublist (List.filter_sublist.map _) ?_
    show (rows.values.map (·.assignmentId)).Nodup
    rw [h.map_assignmentId]
    exact rows.nodup_keys
  apply Option.ext
  intro node
  rw [Dict.lookup_eq_some hnodup, List.mem_reverse, List.mem_map, Option.map_eq_some_iff]
  constructor
  · rintro ⟨r, hr, heq⟩
    obtain ⟨hr, hws⟩ := List.mem_filter.mp hr
    obtain ⟨id', hid'⟩ := Dict.mem_values.mp hr
    cases heq
    obtain rfl := h id' r hid'
    exact ⟨r, Option.filter_eq_some_iff.mpr ⟨hid', hws⟩, rfl⟩
  · rintro ⟨r, hr, rfl⟩
    obtain ⟨hid, hws⟩ := Option.filter_eq_some_iff.mp hr
    obtain rfl := h id r hid
    exact ⟨r, List.mem_filter.mpr ⟨Dict.mem_values.mpr ⟨_, hid⟩, hws⟩, rfl⟩

theorem parentOf_nodesOf (h : Keyed rows) :
    (nodesOf rows ws).parentOf id =
      ((rows.get? id).filter (·.key.workspaceId = ws)).bind (·.reportsToAssignmentId) := by
  rw [ReportingNodes.parentOf, h.get?_nodesOf, Option.bind_map]
  rfl

end Keyed

/-! ## What an operation does -/

section Operations

variable {rows rows' : Assignments} {repository : WorkforceRepository} {ws id : String}

theorem checkReportingLine_of_check {input : CreateAssignmentInput}
    {employeeStatus : Option String} {newId : String}
    (h : input.check rows employeeStatus newId = .ok ()) :
    checkReportingLine (nodesOf rows input.key.workspaceId) (input.effectiveId rows newId)
      input.reportsToAssignmentId = .ok () := by
  obtain ⟨_, h⟩ := of_bind h
  cases hline : checkReportingLine (nodesOf rows input.key.workspaceId)
      (input.effectiveId rows newId) input.reportsToAssignmentId with
  | ok => rfl
  | error =>
    rw [hline] at h
    nomatch h

theorem created_of_createAssignment {input : CreateAssignmentInput}
    {employeeStatus : Option String} {newId : String}
    (h : repository.createAssignment rows input employeeStatus newId = .ok rows') :
    input.check rows employeeStatus newId = .ok () ∧ Insertable repository rows input newId ∧
      ∃ r, r.assignmentId = input.effectiveId rows newId ∧
        r.key.workspaceId = input.key.workspaceId ∧
        r.reportsToAssignmentId = input.reportsToAssignmentId ∧
        rows' = rows.set (input.effectiveId rows newId) r := by
  cases repository with
  | postgres =>
    obtain ⟨_, hcheck, h⟩ := bind_eq_ok.mp h
    cases hexisting : input.existing rows with
    | some row =>
      have hid : input.effectiveId rows newId = row.assignmentId := by
        rw [CreateAssignmentInput.effectiveId, hexisting]
      rw [hexisting] at h
      cases h
      have hinsertable : Insertable .postgres rows input newId := by
        intro _ hnone
        nomatch hexisting.symm.trans hnone
      exact ⟨hcheck, hinsertable, input.updated row, hid.symm, rfl, rfl, by rw [hid]⟩
    | none =>
      have hid : input.effectiveId rows newId = input.assignmentId.getD newId := by
        rw [CreateAssignmentInput.effectiveId, hexisting]
      rw [hexisting] at h
      obtain ⟨hfree, h⟩ := require_bind_eq_ok.mp h
      cases h
      rw [← hid] at hfree ⊢
      exact ⟨hcheck, fun _ _ => hfree, _, rfl, rfl, rfl, rfl⟩
  | inMemory =>
    obtain ⟨_, hcheck, h⟩ := bind_eq_ok.mp h
    have hinsertable : Insertable .inMemory rows input newId := by
      intro hpostgres
      nomatch hpostgres
    refine ⟨hcheck, hinsertable, ?_⟩
    cases hexisting : input.existing rows with
    | some row =>
      have hid : input.effectiveId rows newId = row.assignmentId := by
        rw [CreateAssignmentInput.effectiveId, hexisting]
      rw [hexisting] at h
      cases h
      exact ⟨input.updated row, hid.symm, rfl, rfl, by rw [hid]⟩
    | none =>
      rw [hexisting] at h
      cases h
      exact ⟨_, rfl, rfl, rfl, rfl⟩

/-- A row that is written gives its assignment a parent in its workspace, and none elsewhere. -/
theorem parentOf_nodesOf_set (h : Keyed rows) {r : WorkforceAssignmentRecord}
    (hr : r.assignmentId = id) (z : String) :
    (nodesOf (rows.set id r) ws).parentOf z =
      if id = z then if r.key.workspaceId = ws then r.reportsToAssignmentId else none
      else (nodesOf rows ws).parentOf z := by
  rw [(h.set hr).parentOf_nodesOf, h.parentOf_nodesOf, Dict.get?_set]
  split_ifs with hid hws
  · rw [Option.filter_some, if_pos (by simpa using hws)]
    rfl
  · rw [Option.filter_some, if_neg (by simpa using hws)]
    rfl
  · rfl

theorem parentOf_retireAssignment (h : Keyed rows) (workspaceId : String) (z : String) :
    (nodesOf (retireAssignment rows workspaceId id) ws).parentOf z =
      (nodesOf rows ws).parentOf z := by
  unfold retireAssignment
  split
  case h_2 => rfl
  case h_1 row hrow =>
    obtain ⟨hrow, -⟩ := Option.filter_eq_some_iff.mp hrow
    rw [parentOf_nodesOf_set h (r := { row with status := "RETIRED" }) (h id row hrow)]
    split_ifs with hid hws
    · rw [h.parentOf_nodesOf, ← hid, hrow, Option.filter_some, if_pos (by simpa using hws)]
      rfl
    · rw [h.parentOf_nodesOf, ← hid, hrow, Option.filter_some, if_neg (by simpa using hws)]
      rfl
    · rfl

theorem keyed_retireAssignment (h : Keyed rows) (workspaceId : String) :
    Keyed (retireAssignment rows workspaceId id) := by
  unfold retireAssignment
  split
  case h_2 => exact h
  case h_1 row hrow =>
    obtain ⟨hrow, -⟩ := Option.filter_eq_some_iff.mp hrow
    exact h.set (h id row hrow)

end Operations

/-! ## The invariant -/

/-- Every line has its end within the limit. -/
def ShortLines (nodes : ReportingNodes) : Prop :=
  ∀ id, ∃ line, Line nodes.parentOf id line ∧ line.length ≤ maxReportingDepth

section Moving

variable {nodes nodes' : ReportingNodes} {x : String} {l : List String}

/-- Lines stay short when what is below the moved assignment fits on top of its new line. -/
theorem ShortLines.moved (h : ShortLines nodes)
    (hmoved : Line.Moved nodes.parentOf nodes'.parentOf x) (hline : Line nodes'.parentOf x l)
    (hlength : l.length ≤ maxReportingDepth)
    (hbelow : ∀ z l', Line nodes.parentOf z l' → x ∈ l' →
      (l'.takeWhile (· ≠ x)).length + 1 + l.length ≤ maxReportingDepth) :
    ShortLines nodes' := by
  intro z
  obtain ⟨l', hl', hlength'⟩ := h z
  refine ⟨_, Line.rerouted_moved hmoved hline hl', ?_⟩
  unfold Line.rerouted
  split_ifs with hz hx
  · exact hlength
  · have hfits := hbelow z l' hl' hx
    rw [List.length_append, List.length_cons]
    omega
  · exact hlength'

theorem ShortLines.freed (h : ShortLines nodes)
    (hmoved : Line.Moved nodes.parentOf nodes'.parentOf x) (hroot : nodes'.parentOf x = none) :
    ShortLines nodes' := by
  refine h.moved hmoved (.root hroot) (Nat.zero_le _) fun z l' hl' hx => ?_
  obtain ⟨l, hl, hlength⟩ := h z
  obtain rfl := hl'.unique hl
  have hsplit := congrArg List.length (List.takeWhile_append_dropWhile (p := (· ≠ x)) (l := l'))
  have hdrop : l'.dropWhile (· ≠ x) ≠ [] := by
    intro hnil
    have := List.dropWhile_eq_nil_iff.mp hnil x hx
    simp at this
  have hpos := List.length_pos_of_ne_nil hdrop
  rw [List.length_append] at hsplit
  rw [List.length_nil]
  omega

end Moving

/-- What every run keeps. -/
structure ReportingInv (rows : Assignments) : Prop where
  keyed : Keyed rows
  short : ∀ ws, ShortLines (nodesOf rows ws)

theorem ReportingInv.empty : ReportingInv ∅ where
  keyed _ _ h := nomatch h
  short _ _ := ⟨[], .root rfl, Nat.zero_le _⟩

section Steps

variable {rows rows' : Assignments} {repository : WorkforceRepository}

/-- The line of a created assignment ends within the limit, as the check has found out. -/
theorem line_of_created {nodes nodes' : ReportingNodes} {id : String} {parentId : Option String}
    (hcheck : checkReportingLine nodes id parentId = .ok ())
    (hmoved : Line.Moved nodes.parentOf nodes'.parentOf id)
    (hparent : nodes'.parentOf id = parentId) :
    Line nodes'.parentOf id (lineUnder nodes parentId) ∧
      (lineUnder nodes parentId).length ≤ maxReportingDepth := by
  cases parentId with
  | none => exact ⟨.root hparent, Nat.zero_le _⟩
  | some p =>
    obtain ⟨line, hline, hlength, hid⟩ := line_of_check hcheck
    have hunder : lineUnder nodes (some p) = p :: line := by
      show p :: climb nodes.parentOf maxReportingDepth p = p :: line
      rw [climb_of_line hline (Nat.le_of_succ_le hlength)]
    rw [List.mem_cons, not_or] at hid
    rw [hunder]
    exact ⟨.link hparent (hline.of_moved hmoved (Ne.symm hid.1) hid.2), hlength⟩

/-- The lines that are known to be short are the ones that the condition climbs. -/
theorem fits_of_fitsBelow {nodes : ReportingNodes} {id z : String} {parentId : Option String}
    {line : List String} (hshort : ShortLines nodes) (hfits : FitsBelow nodes id parentId)
    (hline : Line nodes.parentOf z line) (hid : id ∈ line) :
    (line.takeWhile (· ≠ id)).length + 1 + (lineUnder nodes parentId).length ≤
      maxReportingDepth := by
  obtain ⟨line', hline', hlength⟩ := hshort z
  obtain rfl := hline'.unique hline
  have hz : z ∈ nodes.keys := by
    rw [← Dict.get?_isSome]
    cases hline with
    | root => nomatch hid
    | link hparent =>
      obtain ⟨node, hnode, -⟩ := Option.bind_eq_some_iff.mp hparent
      rw [hnode]
      rfl
  have hbelow := hfits z hz
  rw [climb_of_line hline hlength] at hbelow
  exact hbelow hid

theorem ReportingInv.create {input : CreateAssignmentInput} {employeeStatus : Option String}
    {newId : String} (hinv : ReportingInv rows)
    (hkeeps : KeepsDepth repository rows (.create input employeeStatus newId))
    (h : repository.createAssignment rows input employeeStatus newId = .ok rows') :
    ReportingInv rows' := by
  obtain ⟨hcheck, hinsertable, r, hid, hws, hparent, rfl⟩ := created_of_createAssignment h
  have hfits := hkeeps (by rw [hcheck]; rfl) hinsertable
  replace hcheck := checkReportingLine_of_check hcheck
  generalize input.effectiveId rows newId = id at hcheck hfits hid ⊢
  rw [← hws, ← hparent] at hfits hcheck
  have hset := fun ws => @parentOf_nodesOf_set rows ws id hinv.keyed r hid
  have hmoved : ∀ ws,
      Line.Moved (nodesOf rows ws).parentOf (nodesOf (rows.set id r) ws).parentOf id :=
    fun ws z hz => by rw [hset, if_neg (Ne.symm hz)]
  refine ⟨hinv.keyed.set hid, fun ws => ?_⟩
  by_cases hown : r.key.workspaceId = ws
  case neg =>
    refine (hinv.short ws).freed (hmoved ws) ?_
    rw [hset, if_pos rfl, if_neg hown]
  case pos =>
    subst hown
    obtain ⟨hline, hlength⟩ := line_of_created hcheck (hmoved _)
      (by rw [hset, if_pos rfl, if_pos rfl])
    exact (hinv.short _).moved (hmoved _) hline hlength fun z l' hl' hx =>
      fits_of_fitsBelow (hinv.short _) hfits hl' hx

theorem ReportingInv.retire (hinv : ReportingInv rows) (workspaceId id : String) :
    ReportingInv (retireAssignment rows workspaceId id) where
  keyed := keyed_retireAssignment hinv.keyed workspaceId
  short ws := by
    have hparent : (nodesOf (retireAssignment rows workspaceId id) ws).parentOf =
        (nodesOf rows ws).parentOf := funext (parentOf_retireAssignment hinv.keyed workspaceId)
    intro z
    rw [hparent]
    exact hinv.short ws z

theorem ReportingInv.next {op : AssignmentOp} (hinv : ReportingInv rows)
    (hkeeps : KeepsDepth repository rows op) (h : repository.next rows op = some rows') :
    ReportingInv rows' := by
  cases op with
  | retire workspaceId id =>
    cases h
    exact hinv.retire workspaceId id
  | create input employeeStatus newId =>
    cases h
    cases hcreate : repository.createAssignment rows input employeeStatus newId with
    | error => exact hinv
    | ok => exact hinv.create hkeeps hcreate

end Steps

/-- While what is below an assignment fits where it is put, the lines of every workspace meet the
law. -/
theorem reportingLaw_along (repository : WorkforceRepository) (ops : List AssignmentOp)
    (rows : Assignments) (hrun : repository.system.run ∅ ops = some rows)
    (hkeeps : repository.system.Along (KeepsDepth repository) ∅ ops) (workspaceId : String) :
    ReportingLaw (nodesOf rows workspaceId) :=
  have hinv : ReportingInv rows := repository.system.inv_of_along
    (fun _ _ _ hinv hkeeps h => hinv.next hkeeps h) .empty hkeeps hrun
  .of_lines (hinv.short workspaceId)

/-! ## Runs -/

/-- Creates the assignment, again if there is one, under the manager. -/
def assign (id : String) (manager : Option String) : AssignmentOp :=
  .create
    { key := ⟨"ws", id, "spec", "1", "hash"⟩
      reportsToAssignmentId := manager
      assignmentId := some id } none id

/-- A manager and her team are put under another one, who is retired then. -/
def movedManager : List AssignmentOp :=
  [assign "head" none, assign "lead" none, assign "dev" (some "lead"), assign "lead" (some "head"),
    .retire "ws" "head"]

theorem reportingLaw_along_movedManager :
    ∃ rows, WorkforceRepository.postgres.system.run ∅ movedManager = some rows ∧
      (nodesOf rows "ws").parentOf "lead" = some "head" ∧ ReportingLaw (nodesOf rows "ws") :=
  let h : (WorkforceRepository.postgres.system.run ∅ movedManager).isSome := by decide +kernel
  ⟨_, (Option.some_get h).symm, by decide +kernel, reportingLaw_along .postgres movedManager _
    (Option.some_get h).symm (by decide +kernel) "ws"⟩

/-- Two lines of five assignments each, the first of the one put under the last of the other. -/
def movedTeam : List AssignmentOp :=
  [assign "m1" none, assign "m2" (some "m1"), assign "m3" (some "m2"), assign "m4" (some "m3"),
    assign "m5" (some "m4"), assign "t1" none, assign "t2" (some "t1"), assign "t3" (some "t2"),
    assign "t4" (some "t3"), assign "t5" (some "t4"), assign "t1" (some "m5")]

theorem not_reportingLaw_movedTeam :
    ¬ ∀ (repository : WorkforceRepository) (ops : List AssignmentOp) (rows : Assignments),
      repository.system.run ∅ ops = some rows →
        ∀ workspaceId, ReportingLaw (nodesOf rows workspaceId) := by
  intro hlaw
  have hrun : (WorkforceRepository.postgres.system.run ∅ movedTeam).isSome := by decide +kernel
  have hclimb : (climb (nodesOf ((WorkforceRepository.postgres.system.run ∅ movedTeam).get
      (by decide +kernel)) "ws").parentOf 9 "t5").length = 9 := by decide +kernel
  obtain ⟨line, hline, hlength⟩ :=
    (hlaw .postgres movedTeam _ (Option.some_get hrun).symm "ws").depth "t5"
  unfold maxReportingDepth at hlength
  rw [climb_of_line hline (by omega)] at hclimb
  omega

/-! ## Escalation -/

/-- The first of the managers, from this hop on, who can be woken. -/
def wakeFirst (request : String → ℕ → WakeOutcome) (fallback : WakeOutcome) :
    ℕ → List String → WakeOutcome
  | _, [] => fallback
  | hop, manager :: rest =>
    if (request manager (hop + 1)).Ineligible then wakeFirst request fallback (hop + 1) rest
    else request manager (hop + 1)

/-- An escalation goes up the chain of managers, as far as the cap lets it; nobody else is woken. -/
theorem escalate_eq_wakeFirst {nodes : ReportingNodes} {id : String} {line : List String}
    (hline : Line nodes.parentOf id line) (request : String → ℕ → WakeOutcome) (hopCap hop : ℕ) :
    escalate nodes hopCap request id hop =
      wakeFirst request ⟨"operator", some (if (managerChain nodes id (hopCap - hop)).length <
        hopCap - hop then "no_manager" else "hop_cap_reached")⟩ hop
        (managerChain nodes id (hopCap - hop)) := by
  have hchain : ∀ {id line} n, Line nodes.parentOf id line →
      managerChain nodes id n = (line.takeWhile nodes.isActive).take n := fun n hline =>
    activeAncestors_of_line hline fun a ha hid => hline.notMem (List.mem_singleton.mp hid ▸ ha)
  generalize hn : hopCap - hop = n
  induction n generalizing id line hop with
  | zero =>
    rw [escalate, if_pos (by omega), hchain _ hline]
    rfl
  | succ _ ih =>
    rw [escalate, if_neg (by omega), hchain _ hline, hchain _ hline]
    cases hline with
    | root => rfl
    | @link _ y line h hl =>
      cases hactive : nodes.isActive y with
      | false => simp [hactive, wakeFirst]
      | true =>
        simp only [List.takeWhile_cons, hactive, if_true, List.take_succ_cons, List.take_zero,
          wakeFirst, List.length_cons, Nat.add_lt_add_iff_right, ih hl (hop + 1) (by omega),
          hchain _ hl]

def teamOfThree : ReportingNodes := Dict.update ∅ [("dev", ⟨some "lead", "ACTIVE"⟩),
  ("lead", ⟨some "head", "ACTIVE"⟩), ("head", ⟨none, "ACTIVE"⟩)]

/-- The lead cannot be woken. -/
theorem escalate_teamOfThree : escalate teamOfThree 3 (fun id _ => if id = "lead" then
    ⟨"suppressed", some "no_executable_profile"⟩ else ⟨"scheduled", none⟩) "dev" 0 =
      ⟨"scheduled", none⟩ :=
  (escalate_eq_wakeFirst (.link (y := "lead") rfl (.link (y := "head") rfl (.root rfl)))
    _ 3 0).trans (by decide)

end JavisSaas.Agent.Workforce
