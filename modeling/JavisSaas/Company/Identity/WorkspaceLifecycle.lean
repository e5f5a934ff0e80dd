import JavisSaas.Lib.Calls
import JavisSaas.Lib.Dict
import JavisSaas.Lib.Fallible
import JavisSaas.Company.Finance.Money

/-!
# The lifecycle of a workspace

`transitionWorkspaceLifecycle` of `workspace-lifecycle.service.ts`, which judges the stage that it
reads, and writes where the version is the expected one.

* `lifecycleLaw_of_along`: the events form a chain of legal steps, if transitions that are written
  had read the version that they expect.
* `not_lifecycleLaw_ahead`: a transition that expects a later version.
-/

namespace JavisSaas.Company.Identity

open JavisSaas.Lib

/-! ## `transitionWorkspaceLifecycle` -/

def workspaceLifecycleStages : List String :=
  ["W0_IDEA", "W1_PROBLEM_VALIDATION", "W2_SOLUTION_VALIDATION", "W3_MVP_BUILD",
    "W4_PRODUCT_MARKET_FIT", "W5_SCALE"]

def stageIndex (stage : String) : ℤ :=
  if stage ∈ workspaceLifecycleStages then workspaceLifecycleStages.idxOf stage else -1

structure TransitionWorkspaceLifecycleInput where
  toStage : String
  expectedStageVersion : ℤ
  rationale : Option String := none

/-- The stage of a workspace, `identity_workspaces`. -/
structure LifecycleRow where
  lifecycleStage : String := "W0_IDEA"
  stageVersion : ℤ := 0
  deriving DecidableEq

structure WorkspaceLifecycleEvent where
  workspaceId : ℕ
  fromStage : String
  toStage : String
  fromStageVersion : ℤ
  actorMemberId : Option ℕ
  rationale : Option String

structure LifecycleStore where
  workspaces : Dict ℕ LifecycleRow
  events : List WorkspaceLifecycleEvent := []

/-- A call, with the row that its transaction has read. -/
structure LifecycleCall where
  membershipRole : Option String
  ownWorkspaceId : ℕ
  workforceMemberId : Option ℕ := none
  workspaceId : ℕ
  input : TransitionWorkspaceLifecycleInput
  read : Option LifecycleRow := none

/-- `isLifecyclePrivileged`; the lower case of a text is a parameter. -/
def isLifecyclePrivileged (lower : String → String) (role : Option String) : Bool :=
  role.any fun r => r ≠ "" && (["founder", "co-founder", "admin"].map String.toList).contains
    (Finance.trim (lower r))

/-- `!rationale || rationale.trim().length === 0` -/
def isBlankRationale (rationale : Option String) : Bool := rationale.all (Finance.trim · = [])

/-- The select, and what is checked of its row. -/
def LifecycleCall.judge (lower : String → String) (s : LifecycleStore) (c : LifecycleCall) :
    Except ApiError LifecycleCall := do
  require (isLifecyclePrivileged lower c.membershipRole) (.permissionDenied
    ("Action 'transitionWorkspaceLifecycle' requires founder, co-founder, or admin privilege"))
  require (c.workspaceId = c.ownWorkspaceId)
    (.permissionDenied "Cannot transition another workspace's lifecycle")
  require (stageIndex c.input.toStage ≠ -1)
    (.invalidArgument ("Invalid workspace lifecycle stage '" ++ c.input.toStage ++ "'"))
  match s.workspaces.get? c.workspaceId with
  | none => .error (.notFound ("Workspace " ++ toString c.workspaceId ++ " not found"))
  | some ws => do
    require (ws.lifecycleStage ≠ c.input.toStage)
      (.invalidArgument "Workspace is already at the requested lifecycle stage")
    let delta := stageIndex c.input.toStage - stageIndex ws.lifecycleStage
    require (¬delta > 1)
      (.invalidArgument "Workspace lifecycle can advance at most one stage at a time")
    require (¬(delta < 0 ∧ isBlankRationale c.input.rationale))
      (.invalidArgument "Moving a workspace lifecycle backward requires a rationale")
    return { c with read := some ws }

/-- The update under the expected version, and the event of the row that was read. -/
def LifecycleCall.write (s : LifecycleStore) (c : LifecycleCall) (ws : LifecycleRow) :
    LifecycleStore :=
  if (s.workspaces.get? c.workspaceId).any (·.stageVersion = c.input.expectedStageVersion) then
    { workspaces := s.workspaces.set c.workspaceId
        ⟨c.input.toStage, c.input.expectedStageVersion + 1⟩
      events := s.events ++ [{
        workspaceId := c.workspaceId
        fromStage := ws.lifecycleStage
        toStage := c.input.toStage
        fromStageVersion := ws.stageVersion
        actorMemberId := c.workforceMemberId
        rationale := c.input.rationale }] }
  else s

/-- The transitions in flight. An update that finds no row aborts its transaction. -/
def lifecycle (lower : String → String) :
    Service LifecycleCall LifecycleStore LifecycleCall Unit where
  start c := { c with read := none }
  step s c _ :=
    match c.read with
    | some ws => some (c.write s ws, none)
    | none => some (s, (c.judge lower s).toOption)

/-! ## The chain of the events -/

/-- One stage forward, or back for a reason. -/
def WorkspaceLifecycleEvent.Legal (e : WorkspaceLifecycleEvent) : Prop :=
  stageIndex e.toStage = stageIndex e.fromStage + 1 ∨
    stageIndex e.toStage < stageIndex e.fromStage ∧ isBlankRationale e.rationale = false

/-- Each event starts where the one before it has ended. -/
def Chained : LifecycleRow → List WorkspaceLifecycleEvent → LifecycleRow → Prop
  | a, [], b => a = b
  | a, e :: es, b => e.fromStage = a.lifecycleStage ∧ e.fromStageVersion = a.stageVersion ∧
    Chained ⟨e.toStage, a.stageVersion + 1⟩ es b

def LifecycleStore.eventsOf (s : LifecycleStore) (id : ℕ) : List WorkspaceLifecycleEvent :=
  s.events.filter (·.workspaceId = id)

/-- The events, by their starting versions, lead from the first stage to the present one. -/
def LifecycleLaw (first : Dict ℕ LifecycleRow) (s : LifecycleStore) : Prop :=
  ∀ id row, s.workspaces.get? id = some row → ∃ a, first.get? id = some a ∧
    ∃ es, es.Perm (s.eventsOf id) ∧ es.Pairwise (·.fromStageVersion < ·.fromStageVersion) ∧
      Chained a es row ∧ ∀ e ∈ es, e.Legal

/-- An update that finds the version that it expects had read that version. -/
def ReadsExpected (s : LifecycleStore) (c : LifecycleCall) (_ : Unit) : Prop :=
  ∀ ws ∈ c.read, ∀ row ∈ s.workspaces.get? c.workspaceId,
    row.stageVersion = c.input.expectedStageVersion → ws.stageVersion = row.stageVersion
deriving Decidable

section Run

variable {lower : String → String} {first : Dict ℕ LifecycleRow} {s s' : LifecycleStore}
  {c c' : LifecycleCall} {a b ws : LifecycleRow} {es : List WorkspaceLifecycleEvent}
  {e : WorkspaceLifecycleEvent}

theorem stageIndex_inj {x y : String} (h : stageIndex x = stageIndex y) (hx : stageIndex x ≠ -1) :
    x = y := by
  unfold stageIndex at h hx
  split_ifs at h hx with hmem hmem'
  · exact (List.idxOf_inj hmem).mp (Int.ofNat_inj.mp h)
  · omega

theorem Chained.append (h : Chained a es b) (hstage : e.fromStage = b.lifecycleStage)
    (hversion : e.fromStageVersion = b.stageVersion) :
    Chained a (es ++ [e]) ⟨e.toStage, b.stageVersion + 1⟩ := by
  induction es generalizing a with
  | nil =>
    obtain rfl : a = b := h
    exact ⟨hstage, hversion, rfl⟩
  | cons _ _ ih => exact ⟨h.1, h.2.1, ih h.2.2⟩

/-- What the invariant says of one workspace. -/
structure Recorded (a : LifecycleRow) (es : List WorkspaceLifecycleEvent) (row : LifecycleRow) :
    Prop where
  chained : Chained a es row
  sorted : es.Pairwise (·.fromStageVersion < ·.fromStageVersion)
  below : ∀ e ∈ es, e.fromStageVersion < row.stageVersion
  legal : ∀ e ∈ es, e.Legal

/-- What a call has read: a version that has passed, or the row that is there. -/
structure JudgedBy (s : LifecycleStore) (c : LifecycleCall) (ws : LifecycleRow) : Prop where
  current : ∀ row, s.workspaces.get? c.workspaceId = some row →
    ws.stageVersion < row.stageVersion ∨ ws = row
  legal : stageIndex c.input.toStage = stageIndex ws.lifecycleStage + 1 ∨
    stageIndex c.input.toStage < stageIndex ws.lifecycleStage ∧
      isBlankRationale c.input.rationale = false

theorem judge_eq_ok (h : c.judge lower s = .ok c') : ∃ ws, c' = { c with read := some ws } ∧
    JudgedBy s c ws := by
  have h := of_require h
  have h := of_require h
  obtain ⟨hto, h⟩ := require_bind_eq_ok.mp h
  split at h
  · cases h
  · next ws hws =>
    obtain ⟨hne, h⟩ := require_bind_eq_ok.mp h
    obtain ⟨hone, h⟩ := require_bind_eq_ok.mp h
    obtain ⟨hback, h⟩ := require_bind_eq_ok.mp h
    refine ⟨ws, (pure_eq_ok.mp h).symm, ⟨fun row hrow => ?_, ?_⟩⟩
    · exact .inr (Option.some.inj (hws.symm.trans hrow))
    · by_cases hlt : stageIndex c.input.toStage < stageIndex ws.lifecycleStage
      · exact .inr ⟨hlt, Bool.eq_false_iff.mpr fun hblank => hback ⟨by omega, hblank⟩⟩
      · have hdiff : stageIndex c.input.toStage ≠ stageIndex ws.lifecycleStage :=
          fun heq => hne (stageIndex_inj heq hto).symm
        exact .inl (by omega)

theorem write_cases (h : JudgedBy s c ws) (hread : c.read = some ws)
    (hexpected : ReadsExpected s c ()) : c.write s ws = s ∨
    s.workspaces.get? c.workspaceId = some ws ∧
      c.write s ws =
        { workspaces := s.workspaces.set c.workspaceId ⟨c.input.toStage, ws.stageVersion + 1⟩
          events := s.events ++ [⟨c.workspaceId, ws.lifecycleStage, c.input.toStage,
            ws.stageVersion, c.workforceMemberId, c.input.rationale⟩] } := by
  unfold LifecycleCall.write
  split_ifs with hany
  · obtain ⟨row, hrow, hversion⟩ := (Option.any_eq_true _ _).mp hany
    have hversion : row.stageVersion = c.input.expectedStageVersion := of_decide_eq_true hversion
    have heq := hexpected ws hread row hrow hversion
    obtain hlt | rfl := h.current row hrow
    · omega
    · exact .inr ⟨hrow, by rw [hversion]⟩
  · exact .inl rfl

theorem lifecycleRule (first : Dict ℕ LifecycleRow) : (lifecycle lower).Rule ReadsExpected
    (fun s => ∀ id row, s.workspaces.get? id = some row →
      ∃ a, first.get? id = some a ∧ Recorded a (s.eventsOf id) row)
    (fun s c => ∀ ws, c.read = some ws → JudgedBy s c ws) where
  start s req _ ws h := nomatch h
  abort s c hI _ := ⟨hI, fun _ hd => hd⟩
  step s c x s' c' hI hJ hG hs := by
    cases hread : c.read with
    | none =>
      simp only [lifecycle, hread, Option.some.injEq, Prod.mk.injEq] at hs
      obtain ⟨rfl, rfl⟩ := hs
      refine ⟨hI, fun _ hd => hd, fun d hd ws hws => ?_⟩
      cases hjudge : c.judge lower s with
      | error =>
        rw [hjudge] at hd
        cases hd
      | ok =>
        rw [hjudge] at hd
        cases hd
        obtain ⟨ws', rfl, hjudged⟩ := judge_eq_ok hjudge
        cases hws
        exact ⟨hjudged.current, hjudged.legal⟩
    | some ws =>
      simp only [lifecycle, hread, Option.some.injEq, Prod.mk.injEq] at hs
      obtain ⟨rfl, rfl⟩ := hs
      rcases write_cases (hJ ws hread) hread hG with hsame | ⟨hrow, hwrite⟩
      · rw [hsame]
        exact ⟨hI, fun _ hd => hd, fun _ hd => nomatch hd⟩
      · rw [hwrite]
        refine ⟨fun id row hget => ?_, fun d hd ws' hws' => ⟨fun row hget => ?_, ?_⟩,
          fun _ hd => nomatch hd⟩
        · simp only [Dict.get?_set] at hget
          simp only [LifecycleStore.eventsOf, List.filter_append]
          split_ifs at hget with hid
          · subst hid
            cases hget
            obtain ⟨a, ha, hrec⟩ := hI _ ws hrow
            rw [List.filter_cons_of_pos (by simp)]
            refine ⟨a, ha, hrec.chained.append rfl rfl, ?_, ?_, ?_⟩
            · exact List.pairwise_append.mpr ⟨hrec.sorted, List.pairwise_singleton _ _,
                fun e he e' he' => List.mem_singleton.mp he' ▸ hrec.below e he⟩
            · intro e he
              rcases mem_concat he with he | he
              · exact Int.lt_trans (hrec.below e he) (Int.lt_succ _)
              · rw [he]
                exact Int.lt_succ _
            · intro e he
              rcases mem_concat he with he | he
              · exact hrec.legal e he
              · rw [he]
                exact (hJ ws hread).legal
          · rw [List.filter_cons_of_neg (by simpa using hid), List.filter_nil, List.append_nil]
            exact hI id row hget
        · simp only [Dict.get?_set] at hget
          split_ifs at hget with hid
          · cases hget
            rw [hid] at hrow
            rcases (hd ws' hws').current ws hrow with hlt | rfl
            · exact .inl (Int.lt_trans hlt (Int.lt_succ _))
            · exact .inl (Int.lt_succ _)
          · exact (hd ws' hws').current row hget
        · exact (hd ws' hws').legal

end Run

/-- The events form a chain in every run in which the transitions read what they expect. -/
theorem lifecycleLaw_of_along (lower : String → String) (first : Dict ℕ LifecycleRow)
    {ls : List (CallLabel LifecycleCall Unit)} {s : InFlight LifecycleStore LifecycleCall}
    (hl : (lifecycle lower).system.Along (Service.Meets ReadsExpected)
      { store := { workspaces := first } } ls)
    (hs : (lifecycle lower).system.run { store := { workspaces := first } } ls = some s) :
    LifecycleLaw first s.store := by
  have hempty : Service.Inv (fun s => ∀ id row, s.workspaces.get? id = some row →
      ∃ a, first.get? id = some a ∧ Recorded a (s.eventsOf id) row)
      (fun s c => ∀ ws, c.read = some ws → JudgedBy s c ws)
      { store := { workspaces := first } } :=
    .of_empty fun id row hrow => ⟨row, hrow, rfl, List.Pairwise.nil,
      fun _ h => absurd h List.not_mem_nil, fun _ h => absurd h List.not_mem_nil⟩
  intro id row hrow
  obtain ⟨a, ha, hrec⟩ := ((lifecycleRule first).inv_of_along hempty hl hs).store id row hrow
  exact ⟨a, ha, _, List.Perm.refl _, hrec.sorted, hrec.chained, hrec.legal⟩

/-- A founder moves the workspace on. -/
def advance (toStage : String) (expectedStageVersion : ℤ) : CallLabel LifecycleCall Unit :=
  .start { membershipRole := some "founder", ownWorkspaceId := 1, workspaceId := 1,
           input := { toStage, expectedStageVersion } }

def newWorkspace : Dict ℕ LifecycleRow := (∅ : Dict ℕ LifecycleRow).set 1 {}

theorem lifecycleLaw_of_along_twice : LifecycleLaw newWorkspace
    (((lifecycle id).system.run { store := { workspaces := newWorkspace } }
      [advance "W1_PROBLEM_VALIDATION" 0, .step 0 (), advance "W1_PROBLEM_VALIDATION" 0, .step 1 (),
        .step 0 (), .step 1 (), advance "W2_SOLUTION_VALIDATION" 1, .step 2 (), .step 2 ()]).get
      (by decide +kernel)).store :=
  lifecycleLaw_of_along id newWorkspace (by decide +kernel) (Option.some_get _).symm

/-- The second transition reads the first stage, and is written over the first transition. -/
theorem not_lifecycleLaw_ahead : ¬LifecycleLaw newWorkspace
    (((lifecycle id).system.run { store := { workspaces := newWorkspace } }
      [advance "W1_PROBLEM_VALIDATION" 0, .step 0 (), advance "W1_PROBLEM_VALIDATION" 1, .step 1 (),
        .step 0 (), .step 1 ()]).get (by decide +kernel)).store := by
  intro h
  obtain ⟨a, -, es, hperm, hsorted, -⟩ := h 1 ⟨"W1_PROBLEM_VALIDATION", 2⟩ (by decide +kernel)
  have hnodup : (es.map (·.fromStageVersion)).Nodup :=
    List.pairwise_map.mpr (hsorted.imp fun hlt => Int.ne_of_lt hlt)
  exact absurd ((hperm.map _).nodup_iff.mp hnodup) (by decide +kernel)

end JavisSaas.Company.Identity
