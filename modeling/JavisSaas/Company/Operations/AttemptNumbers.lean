import Mathlib.Data.List.Range
import JavisSaas.Lib.Transition
import JavisSaas.Company.Operations.WorkPackages

/-!
# The numbers of attempts

The next number is one more than the first row of an ascending order, which is the lowest number
that there is.

* `openAttempt_lawful_iff`: an opening keeps the order if and only if it is the first or the second
  one of its package.
* `attemptLaw_along_iff`: the same for sequences of operations.
* `not_attemptLaw_thirdAttempt`: the third attempt.
-/

namespace JavisSaas.Company.Operations

open JavisSaas.Lib

/-! ## Operations -/

inductive PackageOp
  | create (input : PackageInput) (ctx : TenantContext) (answers : WorkAnswers)
  | reassign (input : ReassignInput) (ctx : TenantContext) (answers : WorkAnswers)
  | review (input : ReviewInput) (ctx : TenantContext) (answers : WorkAnswers)
  | override (input : OverrideInput) (ctx : TenantContext)
  | sweep (now : ℤ) (workspaceId : Option ℕ)
  | markValidationPassed (id : ℕ) (reviewDueAt : ℤ) (ctx : TenantContext)
  /-- The platform of the agents sets a status. -/
  | setStatus (id : ℕ) (status : WorkPackageStatus)

/-- `createWorkPackage` before its transaction; `false` if the key was used before. -/
def checkPackage (db : WorkDb) (input : PackageInput) (ctx : TenantContext)
    (answers : WorkAnswers) : Except ApiError Bool := do
  validatePackageShape input
  if (createdBefore db ctx.workspaceId input.idempotencyKey).isSome then return false
  else
    assertTaskCanEnterQueue db input.taskId ctx.workspaceId
    requireCurrentConfirmedContract db ctx.workspaceId input.taskId input.outcomeContractId
    answers.eligibility
    return true

/-- `createWorkPackage` (lines 406–455). -/
def createWorkPackage (indexed : Bool) (db : WorkDb) (input : PackageInput) (ctx : TenantContext)
    (answers : WorkAnswers) : Except ApiError WorkDb := do
  if ← checkPackage db input ctx answers then
    insertQueuedPackage indexed db ctx.workspaceId input answers
  else return db

def reassignWorkPackage (indexed : Bool) (db : WorkDb) (input : ReassignInput)
    (ctx : TenantContext) (answers : WorkAnswers) : Except ApiError WorkDb := do
  answers.eligibility
  let wp ← loadForReassign db input ctx
  reassignWrites indexed db input wp answers

def reviewWorkPackage (indexed : Bool) (db : WorkDb) (input : ReviewInput) (ctx : TenantContext)
    (answers : WorkAnswers) : Except ApiError WorkDb := do
  let wp ← loadForReview db input ctx
  reviewWrites indexed db input ctx wp (db.unchanged wp) answers

def PackageOp.perform (indexed : Bool) (db : WorkDb) : PackageOp → Except ApiError WorkDb
  | create input ctx answers => createWorkPackage indexed db input ctx answers
  | reassign input ctx answers => reassignWorkPackage indexed db input ctx answers
  | review input ctx answers => reviewWorkPackage indexed db input ctx answers
  | override input ctx => do
    let wp ← loadForOverride db input ctx
    overrideWrites db input ctx wp
  | sweep now workspaceId => .ok ((overduePackages db now workspaceId).foldl escalate db)
  | markValidationPassed id reviewDueAt ctx =>
    .ok (Operations.markValidationPassed db id reviewDueAt ctx)
  | setStatus id status => .ok (db.updatePackage id fun row => { row with status })

/-- The tables and the input when an operation comes to `openAttempt`, if it does. -/
def PackageOp.opening (db : WorkDb) : PackageOp → Option (WorkDb × OpenAttemptInput)
  | create input ctx answers =>
    match checkPackage db input ctx answers, insertPackage db ctx.workspaceId input answers with
    | .ok true, .ok opening => some opening
    | _, _ => none
  | reassign input ctx answers =>
    match answers.eligibility, loadForReassign db input ctx with
    | .ok (), .ok wp =>
      if wp.status ∈ leasedWpStatuses then none else some (reassignOpening db input wp answers.now)
    | _, _ => none
  | review input ctx answers =>
    match loadForReview db input ctx with
    | .ok wp =>
      if input.decision = .rework then
        some (reworkOpening (recordReview (reviewUpdate db input.decision wp (db.unchanged wp))
          input ctx answers.newId) input wp answers.now)
      else none
    | .error _ => none
  | _ => none

/-- The identifier of the attempt that an operation opens. -/
def PackageOp.newAttemptId : PackageOp → ℕ
  | create _ _ answers | reassign _ _ answers | review _ _ answers => answers.newAttemptId
  | _ => 0

/-- An operation that fails is rolled back. -/
def PackageOp.next (indexed : Bool) (db : WorkDb) (op : PackageOp) : Option WorkDb :=
  some ((op.perform indexed db).toOption.getD db)

def packageOps (indexed : Bool) : System WorkDb PackageOp := ⟨PackageOp.next indexed⟩

/-! ## The law -/

/-- Numbers 1, 2, 3, ... in the order of the openings, and at most one attempt that is open. -/
structure Numbered (as : List Attempt) : Prop where
  numbers : as.map (·.sequenceNo) = List.range' 1 as.length
  single : (as.filter (·.endedAt.isNone)).length ≤ 1

def AttemptLaw (db : WorkDb) : Prop := ∀ workPackageId, Numbered (db.attemptsOf workPackageId)

/-- The opening succeeds, if the operation comes to it, and the law holds after it. -/
def OpensLawfully (indexed : Bool) (db : WorkDb) (op : PackageOp) : Prop :=
  (∀ o ∈ op.opening db, ∃ db', openAttempt indexed o.1 o.2 op.newAttemptId = .ok db') ∧
    ∀ db' ∈ op.next indexed db, AttemptLaw db'

/-- The operation opens no attempt, or the first or the second one of its package. -/
def OpensFirstOrSecond (db : WorkDb) (op : PackageOp) : Prop :=
  ∀ o ∈ op.opening db, (db.attemptsOf o.2.workPackageId).length ≤ 1
deriving Decidable

/-! ## One opening -/

/-- Attempts are ended, and otherwise as they were. -/
structure Ends (f : Attempt → Attempt) : Prop where
  package : ∀ a, (f a).workPackageId = a.workPackageId
  number : ∀ a, (f a).sequenceNo = a.sequenceNo
  ended : ∀ a, a.endedAt.isSome → (f a).endedAt.isSome

theorem Ends.id : Ends fun a => a := ⟨fun _ => rfl, fun _ => rfl, fun _ h => h⟩

/-- The other attempts of the package are ended; the number is given for the first only. -/
structure Opening (db : WorkDb) (o : WorkDb × OpenAttemptInput) (f : Attempt → Attempt) :
    Prop where
  ends : Ends f
  attempts : o.1.attempts = db.attempts.map f
  closed : ∀ a ∈ db.attemptsOf o.2.workPackageId, (f a).endedAt.isSome
  number : o.2.sequenceNo = none ∨
    o.2.sequenceNo = some 1 ∧ db.attemptsOf o.2.workPackageId = []

section Opening

variable {indexed : Bool} {db db' : WorkDb} {o : WorkDb × OpenAttemptInput} {f : Attempt → Attempt}
  {newId : ℕ}

theorem attemptsOf_map (hf : Ends f) (h : db'.attempts = db.attempts.map f) (id : ℕ) :
    db'.attemptsOf id = (db.attemptsOf id).map f := by
  rw [WorkDb.attemptsOf, h, List.filter_map]
  congr 1
  refine List.filter_congr fun a _ => ?_
  simp [hf.package]

theorem Numbered.map (hf : Ends f) {as : List Attempt} (h : Numbered as) :
    Numbered (as.map f) where
  numbers := by
    rw [List.map_map, List.length_map, ← h.numbers]
    exact List.map_congr_left fun a _ => hf.number a
  single := by
    rw [List.filter_map, List.length_map]
    refine le_trans (List.Sublist.length_le ?_) h.single
    refine List.monotone_filter_right as fun a ha => ?_
    by_contra hnone
    have hsome : a.endedAt.isSome := by simpa [Option.isSome_iff_ne_none] using hnone
    have hended := hf.ended a hsome
    rw [Function.comp_apply, Option.isNone_iff_eq_none] at ha
    rw [ha] at hended
    nomatch hended

/-- The number that an opening takes. -/
def nextNumber (db : WorkDb) (o : WorkDb × OpenAttemptInput) : ℕ :=
  o.2.sequenceNo.getD
    ((((db.attemptsOf o.2.workPackageId).map (·.sequenceNo)).min?).getD 0 + 1)

/-- The row that an opening inserts. -/
def newAttempt (db : WorkDb) (o : WorkDb × OpenAttemptInput) (id : ℕ) : Attempt where
  id
  workPackageId := o.2.workPackageId
  sequenceNo := nextNumber db o
  assignedAgentInstanceId := o.2.assignedAgentInstanceId

theorem openAttempt_eq_ok (h : Opening db o f) : openAttempt indexed o.1 o.2 newId = .ok db' ↔
    (indexed → ∀ a ∈ db.attemptsOf o.2.workPackageId, a.sequenceNo ≠ nextNumber db o) ∧
      { o.1 with attempts := db.attempts.map f ++ [newAttempt db o newId] } = db' := by
  have hof := attemptsOf_map h.ends h.attempts o.2.workPackageId
  have hnumbers : ((db.attemptsOf o.2.workPackageId).map f).map (·.sequenceNo) =
      (db.attemptsOf o.2.workPackageId).map (·.sequenceNo) := by
    rw [List.map_map]
    exact List.map_congr_left fun a _ => h.ends.number a
  unfold openAttempt
  simp only [require_bind_eq_ok, pure_eq_ok, WorkDb.lastSequenceNo, hof, hnumbers, h.attempts,
    List.forall_mem_map, h.ends.number]
  exact ⟨fun hok => hok.2, fun hok => ⟨h.closed, hok⟩⟩

theorem nextNumber_eq (hlaw : AttemptLaw db) (h : Opening db o f) :
    nextNumber db o = if (db.attemptsOf o.2.workPackageId).length = 0 then 1 else 2 := by
  unfold nextNumber
  rcases h.number with hnone | ⟨hone, hempty⟩
  · rw [hnone, (hlaw o.2.workPackageId).numbers]
    by_cases hlength : (db.attemptsOf o.2.workPackageId).length = 0
    · rw [if_pos hlength, hlength]
      rfl
    · have hmin : (List.range' 1 (db.attemptsOf o.2.workPackageId).length).min? = some 1 := by
        rw [List.min?_eq_some_iff]
        refine ⟨List.mem_range'_1.mpr (by omega), fun b hb => ?_⟩
        exact (List.mem_range'_1.mp hb).1
      rw [if_neg hlength, hmin]
      rfl
  · rw [hone, hempty]
    rfl

/-- An attempt with the next number is added behind attempts that have ended. -/
theorem numbered_append (hf : Ends f) {as : List Attempt} (h : Numbered as)
    (hclosed : ∀ a ∈ as, (f a).endedAt.isSome) (a : Attempt) :
    Numbered (as.map f ++ [a]) ↔ a.sequenceNo = as.length + 1 := by
  have hnumbers := (h.map hf).numbers
  rw [List.length_map] at hnumbers
  have hended : (as.map f).filter (·.endedAt.isNone) = [] := by
    rw [List.filter_eq_nil_iff]
    intro b hb
    obtain ⟨a', ha', rfl⟩ := List.mem_map.mp hb
    simpa [Option.isSome_iff_ne_none] using hclosed a' ha'
  have hlength : (as.map f ++ [a]).length = as.length + 1 := by simp
  constructor
  · intro h'
    have hlast := h'.numbers
    rw [hlength, List.map_append, hnumbers, List.range'_1_concat, List.append_cancel_left_eq] at hlast
    have hnumber : a.sequenceNo = 1 + as.length := (List.cons.inj hlast).1
    omega
  · intro hnumber
    refine ⟨?_, ?_⟩
    · rw [hlength, List.map_append, hnumbers, List.range'_1_concat, List.map_singleton, hnumber,
        Nat.add_comm]
    · rw [List.filter_append, hended, List.nil_append]
      exact List.length_filter_le _ _

theorem attemptLaw_append (hlaw : AttemptLaw db) (hf : Ends f) {a : Attempt}
    (hattempts : db'.attempts = db.attempts.map f ++ [a])
    (hclosed : ∀ b ∈ db.attemptsOf a.workPackageId, (f b).endedAt.isSome) :
    AttemptLaw db' ↔ a.sequenceNo = (db.attemptsOf a.workPackageId).length + 1 := by
  have hmap : ∀ id, (db.attempts.map f).filter (·.workPackageId = id) = (db.attemptsOf id).map f :=
    fun id => attemptsOf_map hf (show ({ db with attempts := db.attempts.map f } : WorkDb).attempts =
      db.attempts.map f from rfl) id
  have hown : db'.attemptsOf a.workPackageId = (db.attemptsOf a.workPackageId).map f ++ [a] := by
    rw [WorkDb.attemptsOf, hattempts, List.filter_append, hmap]
    simp
  have hother : ∀ id ≠ a.workPackageId, db'.attemptsOf id = (db.attemptsOf id).map f := by
    intro id hid
    rw [WorkDb.attemptsOf, hattempts, List.filter_append, hmap]
    simp [Ne.symm hid]
  constructor
  · intro h
    have hnumbered := h a.workPackageId
    rw [hown] at hnumbered
    exact (numbered_append hf (hlaw _) hclosed a).mp hnumbered
  · intro hnumber id
    by_cases hid : id = a.workPackageId
    · rw [hid, hown]
      exact (numbered_append hf (hlaw _) hclosed a).mpr hnumber
    · rw [hother id hid]
      exact (hlaw id).map hf

/-- An opening succeeds and keeps the law if and only if the package has at most one attempt. -/
theorem openAttempt_lawful_iff (hlaw : AttemptLaw db) (h : Opening db o f) :
    ((∃ db', openAttempt indexed o.1 o.2 newId = .ok db') ∧
      ∀ db', openAttempt indexed o.1 o.2 newId = .ok db' → AttemptLaw db') ↔
      (db.attemptsOf o.2.workPackageId).length ≤ 1 := by
  have hnext := nextNumber_eq hlaw h
  have hnumbers := (hlaw o.2.workPackageId).numbers
  have hlawful : ∀ db', openAttempt indexed o.1 o.2 newId = .ok db' →
      (AttemptLaw db' ↔ nextNumber db o = (db.attemptsOf o.2.workPackageId).length + 1) := by
    intro db' hok
    obtain ⟨-, rfl⟩ := (openAttempt_eq_ok h).mp hok
    exact attemptLaw_append (a := newAttempt db o newId) hlaw h.ends rfl h.closed
  constructor
  · rintro ⟨⟨db', hok⟩, hall⟩
    have hnumber := (hlawful db' hok).mp (hall db' hok)
    rw [hnext] at hnumber
    split_ifs at hnumber with hzero <;> omega
  · intro hle
    have hnumber : nextNumber db o = (db.attemptsOf o.2.workPackageId).length + 1 := by
      rw [hnext]
      split_ifs with hzero <;> omega
    refine ⟨⟨_, (openAttempt_eq_ok h).mpr ⟨fun _ a ha heq => ?_, rfl⟩⟩, fun db' hok => ?_⟩
    · have hmem : a.sequenceNo ∈ List.range' 1 (db.attemptsOf o.2.workPackageId).length :=
        hnumbers ▸ List.mem_map_of_mem ha
      have := (List.mem_range'_1.mp hmem).2
      omega
    · exact (hlawful db' hok).mpr hnumber

end Opening

/-! ## One operation -/

/-- Packages are stored under their keys, and attempts refer to packages. -/
structure PackageTables (db : WorkDb) : Prop where
  keyed : ∀ id wp, db.packages.get? id = some wp → wp.id = id
  known : ∀ a ∈ db.attempts, (db.packages.get? a.workPackageId).isSome

/-- No package is removed, or gets another key. -/
structure KeepsPackages (db db' : WorkDb) : Prop where
  keyed : (∀ id wp, db.packages.get? id = some wp → wp.id = id) →
    ∀ id wp, db'.packages.get? id = some wp → wp.id = id
  known : ∀ id, (db.packages.get? id).isSome → (db'.packages.get? id).isSome

theorem KeepsPackages.of_eq {db db' : WorkDb} (h : db'.packages = db.packages) :
    KeepsPackages db db' := by
  constructor <;> rw [h]
  · exact id
  · exact fun _ => id

theorem KeepsPackages.trans {a b c : WorkDb} (h : KeepsPackages a b) (h' : KeepsPackages b c) :
    KeepsPackages a c :=
  ⟨fun ha => h'.keyed (h.keyed ha), fun id ha => h'.known id (h.known id ha)⟩

theorem attempts_updatePackage (db : WorkDb) (id : ℕ) (f : WorkPackage → WorkPackage) :
    (db.updatePackage id f).attempts = db.attempts := by
  unfold WorkDb.updatePackage
  split <;> rfl

theorem keepsPackages_updatePackage (db : WorkDb) (id : ℕ) {f : WorkPackage → WorkPackage}
    (hf : ∀ wp, (f wp).id = wp.id) : KeepsPackages db (db.updatePackage id f) := by
  unfold WorkDb.updatePackage
  split
  · next wp hwp =>
    refine ⟨fun hkeyed id' wp' hwp' => ?_, fun id' hid' => ?_⟩
    · simp only [Dict.get?_set] at hwp'
      split_ifs at hwp' with heq
      · cases hwp'
        rw [hf, hkeyed id wp hwp, heq]
      · exact hkeyed id' wp' hwp'
    · simp only [Dict.get?_set]
      split_ifs with heq
      · rfl
      · exact hid'
  · exact .of_eq rfl

theorem packages_endActiveAttempt (db : WorkDb) (id : ℕ) (status : AttemptStatus) (reason : String)
    (now : ℤ) : (endActiveAttempt db id status reason now).packages = db.packages := by
  unfold endActiveAttempt
  split <;> rfl

theorem exists_ends (db : WorkDb) (id : ℕ) (h : Numbered (db.attemptsOf id))
    (status : AttemptStatus) (reason : String) (now : ℤ) : ∃ f, Ends f ∧
      (endActiveAttempt db id status reason now).attempts = db.attempts.map f ∧
      ∀ a ∈ db.attemptsOf id, (f a).endedAt.isSome := by
  unfold endActiveAttempt
  split
  · next active hactive =>
    have hopen' : active.endedAt.isNone = true := by simpa using List.find?_some hactive
    refine ⟨_, ⟨fun a => ?_, fun a => ?_, fun a ha => ?_⟩, rfl, fun a ha => ?_⟩
    · split_ifs <;> rfl
    · split_ifs <;> rfl
    · split_ifs
      · rfl
      · exact ha
    · -- an attempt that is open is the active one
      by_cases hopen : a.endedAt.isNone
      · have hmem : a ∈ (db.attemptsOf id).filter (·.endedAt.isNone) :=
          List.mem_filter.mpr ⟨ha, hopen⟩
        have hmem' : active ∈ (db.attemptsOf id).filter (·.endedAt.isNone) :=
          List.mem_filter.mpr ⟨List.mem_of_find?_eq_some hactive, hopen'⟩
        obtain ⟨b, hb⟩ := List.length_eq_one_iff.mp
          (le_antisymm h.single (List.length_pos_of_mem hmem))
        rw [hb, List.mem_singleton] at hmem hmem'
        rw [if_pos (by rw [hmem, hmem'])]
        rfl
      · split_ifs
        · rfl
        · simpa [Option.isSome_iff_ne_none] using hopen
  · next hnone =>
    refine ⟨fun a => a, .id, (List.map_id' _).symm, fun a ha => ?_⟩
    simpa [Option.isSome_iff_ne_none] using List.find?_eq_none.mp hnone a ha

/-- An operation that comes to an opening, and what it does after it. -/
structure OpensAs (indexed : Bool) (db : WorkDb) (op : PackageOp) (o : WorkDb × OpenAttemptInput) :
    Prop where
  opening : ∃ f, Opening db o f
  keeps : KeepsPackages db o.1
  known : (o.1.packages.get? o.2.workPackageId).isSome
  perform : ∃ rest : WorkDb → Except ApiError WorkDb,
    op.perform indexed db = openAttempt indexed o.1 o.2 op.newAttemptId >>= rest ∧
      ∀ db₁, db₁.packages = o.1.packages → ∃ db', rest db₁ = .ok db' ∧
        db'.attempts = db₁.attempts ∧ KeepsPackages db₁ db'

section Perform

variable {indexed : Bool} {db db' : WorkDb}

variable {ctx : TenantContext} {answers : WorkAnswers} {o : WorkDb × OpenAttemptInput}
  {op : PackageOp}

theorem opensAs_create (hrows : PackageTables db) {input : PackageInput}
    (h : (PackageOp.create input ctx answers).opening db = some o) :
    OpensAs indexed db (.create input ctx answers) o := by
  simp only [PackageOp.opening] at h
  split at h
  · next o' hcheck hinsert =>
    obtain rfl := Option.some.inj h
    have hperform : (PackageOp.create input ctx answers).perform indexed db =
        openAttempt indexed o'.1 o'.2 answers.newAttemptId >>=
          fun db => pure (announcePackage db answers) := by
      simp only [PackageOp.perform, createWorkPackage, hcheck, insertQueuedPackage, hinsert]
      rfl
    have hinsert := of_require hinsert
    obtain ⟨hnew, hinsert⟩ := require_bind_eq_ok.mp hinsert
    cases hinsert
    have hempty : db.attemptsOf answers.newId = [] := by
      refine List.filter_eq_nil_iff.mpr fun a ha heq => ?_
      have hsome := hrows.known a ha
      rw [of_decide_eq_true heq, hnew] at hsome
      nomatch hsome
    refine ⟨⟨fun a => a, .id, (List.map_id' _).symm, fun a ha => ?_, .inr ⟨rfl, hempty⟩⟩,
      ⟨fun hkeyed id wp hwp => ?_, fun id hid => ?_⟩, ?_, _, hperform, fun db₁ _ => ?_⟩
    · exact absurd (hempty ▸ ha) List.not_mem_nil
    · simp only [Dict.get?_set] at hwp
      split_ifs at hwp with heq
      · cases hwp
        exact heq
      · exact hkeyed id wp hwp
    · simp only [Dict.get?_set]
      split_ifs
      · rfl
      · exact hid
    · simp only [Dict.get?_set_self, Option.isSome_some]
    · exact ⟨_, rfl, rfl, .of_eq rfl⟩
  · nomatch h

theorem opensAs_reassign (hrows : PackageTables db) (hlaw : AttemptLaw db) {input : ReassignInput}
    (h : (PackageOp.reassign input ctx answers).opening db = some o) :
    OpensAs indexed db (.reassign input ctx answers) o := by
  simp only [PackageOp.opening] at h
  split at h
  · next wp heligible hload =>
    split_ifs at h with hleased
    cases h
    obtain ⟨hwp, -⟩ := loadForReassign_eq_ok hload
    have hid := hrows.keyed _ _ hwp
    obtain ⟨f, hf, hattempts, hclosed⟩ :=
      exists_ends db wp.id (hlaw wp.id) .reassigned (input.reason.getD "reassigned") answers.now
    have hpackages := packages_endActiveAttempt db wp.id .reassigned
      (input.reason.getD "reassigned") answers.now
    refine ⟨⟨f, hf, hattempts, hclosed, .inl rfl⟩, .of_eq hpackages, ?_,
      fun db₁ => reassignUpdate db₁ input wp answers.newAttemptId, ?_, fun db₁ hdb₁ => ?_⟩
    · show ((endActiveAttempt db wp.id _ _ _).packages.get? wp.id).isSome
      rw [hpackages, hid, hwp]
      rfl
    · simp only [PackageOp.perform, reassignWorkPackage, heligible, hload, reassignWrites]
      exact if_neg hleased
    · have hunchanged : db₁.unchanged wp := by
        rw [WorkDb.unchanged, hdb₁]
        show ((endActiveAttempt db wp.id _ _ _).packages.get? wp.id).any _
        rw [hpackages, hid, hwp]
        exact decide_eq_true rfl
      refine ⟨_, require_bind_eq_ok.mpr ⟨hunchanged, rfl⟩, attempts_updatePackage _ _ _, ?_⟩
      exact (keepsPackages_updatePackage db₁ wp.id (f := input.set wp) fun _ => rfl).trans
        (.of_eq rfl)
  · nomatch h

theorem attempts_recordReview (input : ReviewInput) (ctx : TenantContext) (wp : WorkPackage)
    (matched : Bool) (id : ℕ) (db : WorkDb) :
    (recordReview (reviewUpdate db input.decision wp matched) input ctx id).attempts =
      db.attempts := by
  show (reviewUpdate db input.decision wp matched).attempts = _
  unfold reviewUpdate
  split_ifs
  · exact attempts_updatePackage _ _ _
  · rfl

theorem keepsPackages_recordReview (input : ReviewInput) (ctx : TenantContext) (wp : WorkPackage)
    (matched : Bool) (id : ℕ) (db : WorkDb) :
    KeepsPackages db (recordReview (reviewUpdate db input.decision wp matched) input ctx id) := by
  refine KeepsPackages.trans (b := reviewUpdate db input.decision wp matched) ?_ (.of_eq rfl)
  unfold reviewUpdate
  split_ifs
  · exact keepsPackages_updatePackage db wp.id fun _ => rfl
  · exact .of_eq rfl

theorem opensAs_review (hrows : PackageTables db) (hlaw : AttemptLaw db) {input : ReviewInput}
    (h : (PackageOp.review input ctx answers).opening db = some o) :
    OpensAs indexed db (.review input ctx answers) o := by
  simp only [PackageOp.opening] at h
  split at h
  · next wp hload =>
    split_ifs at h with hrework
    cases h
    obtain ⟨hwp, -⟩ := loadForReview_eq_ok hload
    have hid := hrows.keyed _ _ hwp
    -- the rows of the review leave the attempts as they are
    have hrecorded := attempts_recordReview input ctx wp (db.unchanged wp) answers.newId db
    have hkept := keepsPackages_recordReview input ctx wp (db.unchanged wp) answers.newId db
    obtain ⟨f, hf, hattempts, hclosed⟩ := exists_ends (recordReview
      (reviewUpdate db input.decision wp (db.unchanged wp)) input ctx answers.newId) wp.id
      (by rw [WorkDb.attemptsOf, hrecorded]; exact hlaw wp.id) .reworked input.reasonCode answers.now
    rw [hrecorded] at hattempts
    have hkeeps := hkept.trans (.of_eq (packages_endActiveAttempt _ wp.id
      .reworked input.reasonCode answers.now))
    refine ⟨⟨f, hf, hattempts, fun a ha => hclosed a ?_, .inl rfl⟩, hkeeps, ?_,
      fun db₁ => pure (requeue db₁ input wp), ?_, fun db₁ hdb₁ => ?_⟩
    · rw [WorkDb.attemptsOf, hrecorded]
      exact ha
    · refine hkeeps.known wp.id ?_
      rw [hid, hwp]
      rfl
    · simp only [PackageOp.perform, reviewWorkPackage, hload, reviewWrites]
      exact if_pos hrework
    · exact ⟨_, rfl, attempts_updatePackage _ _ _, keepsPackages_updatePackage db₁ wp.id fun _ => rfl⟩
  · nomatch h

theorem attempts_escalate (wps : List WorkPackage) (db : WorkDb) :
    (wps.foldl escalate db).attempts = db.attempts ∧ KeepsPackages db (wps.foldl escalate db) := by
  induction wps generalizing db with
  | nil => exact ⟨rfl, .of_eq rfl⟩
  | cons wp _ ih =>
    obtain ⟨hattempts, hkeeps⟩ := ih (escalate db wp)
    have hone : (escalate db wp).attempts = db.attempts ∧ KeepsPackages db (escalate db wp) := by
      unfold escalate
      split_ifs
      · exact ⟨attempts_updatePackage _ _ _, (keepsPackages_updatePackage db wp.id (f := fun row =>
          { row with status := .escalatedToFounder, version := wp.version + 1 }) fun _ => rfl).trans
          (.of_eq rfl)⟩
      · exact ⟨rfl, .of_eq rfl⟩
    exact ⟨hattempts.trans hone.1, hone.2.trans hkeeps⟩

/-- An operation that comes to no opening leaves the attempts as they are. -/
theorem attempts_of_no_opening (h : op.opening db = none) (hok : op.perform indexed db = .ok db') :
    db'.attempts = db.attempts ∧ KeepsPackages db db' := by
  cases op with
  | create =>
    obtain ⟨proceed, hcheck, hok⟩ := bind_eq_ok.mp hok
    cases proceed with
    | true =>
      obtain ⟨o, hinsert, -⟩ := bind_eq_ok.mp hok
      simp only [PackageOp.opening, hcheck, hinsert] at h
      nomatch h
    | false =>
      cases hok
      exact ⟨rfl, .of_eq rfl⟩
  | reassign =>
    obtain ⟨_, heligible, hok⟩ := bind_eq_ok.mp hok
    obtain ⟨wp, hload, hok⟩ := bind_eq_ok.mp hok
    simp only [PackageOp.opening, heligible, hload] at h
    split_ifs at h with hleased
    rw [reassignWrites, if_pos hleased] at hok
    cases hok
    exact ⟨rfl, .of_eq rfl⟩
  | review =>
    obtain ⟨wp, hload, hok⟩ := bind_eq_ok.mp hok
    simp only [PackageOp.opening, hload] at h
    split_ifs at h with hrework
    rw [reviewWrites, if_neg hrework] at hok
    cases hok
    exact ⟨attempts_recordReview _ _ _ _ _ _, keepsPackages_recordReview _ _ _ _ _ _⟩
  | override input =>
    obtain ⟨wp, -, hok⟩ := bind_eq_ok.mp hok
    have hok := of_require hok
    cases hok
    exact ⟨attempts_updatePackage _ _ _,
      (keepsPackages_updatePackage db wp.id (f := input.set wp) fun _ => rfl).trans (.of_eq rfl)⟩
  | sweep =>
    cases hok
    exact attempts_escalate _ db
  | markValidationPassed id =>
    cases hok
    unfold Operations.markValidationPassed
    split
    · exact ⟨attempts_updatePackage _ _ _, keepsPackages_updatePackage db id fun _ => rfl⟩
    · exact ⟨rfl, .of_eq rfl⟩
  | setStatus id =>
    cases hok
    exact ⟨attempts_updatePackage _ _ _, keepsPackages_updatePackage db id fun _ => rfl⟩

theorem opensAs (hrows : PackageTables db) (hlaw : AttemptLaw db) {op : PackageOp}
    {o : WorkDb × OpenAttemptInput} (h : op.opening db = some o) : OpensAs indexed db op o := by
  cases op with
  | create => exact opensAs_create hrows h
  | reassign => exact opensAs_reassign hrows hlaw h
  | review => exact opensAs_review hrows hlaw h
  | override | sweep | markValidationPassed | setStatus => nomatch h

theorem OpensAs.perform_eq_ok {f : Attempt → Attempt} (h : OpensAs indexed db op o)
    (hf : Opening db o f) :
    (∀ db', op.perform indexed db = .ok db' →
      ∃ db₁, openAttempt indexed o.1 o.2 op.newAttemptId = .ok db₁ ∧
        db'.attempts = db₁.attempts ∧ KeepsPackages db₁ db') ∧
      ∀ db₁, openAttempt indexed o.1 o.2 op.newAttemptId = .ok db₁ →
        ∃ db', op.perform indexed db = .ok db' ∧ db'.attempts = db₁.attempts := by
  obtain ⟨rest, hperform, hrest⟩ := h.perform
  have hpackages : ∀ db₁, openAttempt indexed o.1 o.2 op.newAttemptId = .ok db₁ →
      db₁.packages = o.1.packages := by
    intro db₁ hopen
    obtain ⟨-, rfl⟩ := (openAttempt_eq_ok hf).mp hopen
    rfl
  constructor
  · intro db' hok
    rw [hperform] at hok
    obtain ⟨db₁, hopen, hok⟩ := bind_eq_ok.mp hok
    obtain ⟨db'', hok'', hattempts, hkeeps⟩ := hrest db₁ (hpackages db₁ hopen)
    cases hok.symm.trans hok''
    exact ⟨db₁, hopen, hattempts, hkeeps⟩
  · intro db₁ hopen
    obtain ⟨db', hok, hattempts, -⟩ := hrest db₁ (hpackages db₁ hopen)
    refine ⟨db', ?_, hattempts⟩
    rw [hperform]
    exact bind_eq_ok.mpr ⟨db₁, hopen, hok⟩

theorem packageTables_of_perform (hrows : PackageTables db) (hlaw : AttemptLaw db)
    (hok : op.perform indexed db = .ok db') : PackageTables db' := by
  cases hopening : op.opening db with
  | none =>
    obtain ⟨hattempts, hkeeps⟩ := attempts_of_no_opening hopening hok
    exact ⟨hkeeps.keyed hrows.keyed, fun a ha => hkeeps.known _ (hrows.known a (hattempts ▸ ha))⟩
  | some o =>
    have hopens : OpensAs indexed db op o := opensAs hrows hlaw hopening
    obtain ⟨f, hf⟩ := hopens.opening
    obtain ⟨db₁, hopen, hattempts, hkeeps⟩ := (hopens.perform_eq_ok hf).1 db' hok
    obtain ⟨-, rfl⟩ := (openAttempt_eq_ok hf).mp hopen
    refine ⟨hkeeps.keyed (hopens.keeps.keyed hrows.keyed), fun a ha => hkeeps.known _ ?_⟩
    rw [hattempts] at ha
    rcases mem_concat ha with hold | hnew
    · obtain ⟨b, hb, rfl⟩ := List.mem_map.mp hold
      rw [hf.ends.package]
      exact hopens.keeps.known _ (hrows.known b hb)
    · rw [hnew]
      exact hopens.known

theorem attemptLaw_congr (h : db'.attempts = db.attempts) : AttemptLaw db' ↔ AttemptLaw db := by
  simp only [AttemptLaw, WorkDb.attemptsOf, h]

theorem packageTables_of_next (hrows : PackageTables db) (hlaw : AttemptLaw db)
    (hnext : op.next indexed db = some db') : PackageTables db' := by
  cases hnext
  cases hperform : op.perform indexed db with
  | error => exact hrows
  | ok => exact packageTables_of_perform hrows hlaw hperform

/-- An operation opens lawfully if and only if it opens no third attempt. -/
theorem opensLawfully_iff (hrows : PackageTables db) (hlaw : AttemptLaw db) (op : PackageOp) :
    OpensLawfully indexed db op ↔ OpensFirstOrSecond db op := by
  cases hopening : op.opening db with
  | none =>
    simp only [OpensLawfully, OpensFirstOrSecond, hopening, PackageOp.next, Option.mem_def,
      reduceCtorEq, false_implies, implies_true, true_and, iff_true, Option.some.injEq, forall_eq']
    cases hperform : op.perform indexed db with
    | error => exact hlaw
    | ok => exact (attemptLaw_congr (attempts_of_no_opening hopening hperform).1).mpr hlaw
  | some o =>
    have hopens : OpensAs indexed db op o := opensAs hrows hlaw hopening
    obtain ⟨f, hf⟩ := hopens.opening
    have hresult := (hopens.perform_eq_ok hf).2
    have hone : ((∃ db', openAttempt indexed o.1 o.2 op.newAttemptId = .ok db') ∧
        ∀ db', openAttempt indexed o.1 o.2 op.newAttemptId = .ok db' → AttemptLaw db') ↔
        (db.attemptsOf o.2.workPackageId).length ≤ 1 := openAttempt_lawful_iff hlaw hf
    simp only [OpensLawfully, OpensFirstOrSecond, hopening, PackageOp.next, Option.mem_def,
      Option.some.injEq, forall_eq']
    rw [← hone]
    refine and_congr_right fun hopen => ?_
    obtain ⟨db₁, hopen⟩ := hopen
    obtain ⟨db', hperform, hattempts⟩ := hresult db₁ hopen
    rw [hperform]
    show AttemptLaw db' ↔ _
    rw [attemptLaw_congr hattempts]
    constructor
    · intro h db₂ hopen'
      exact Except.ok.inj (hopen.symm.trans hopen') ▸ h
    · exact fun h => h db₁ hopen

end Perform

/-- Every opening is lawful if and only if none is the third one of its package. -/
theorem attemptLaw_along_iff (indexed : Bool) (db : WorkDb) (hrows : PackageTables db)
    (hlaw : AttemptLaw db) (ops : List PackageOp) :
    (packageOps indexed).Along (OpensLawfully indexed) db ops ↔
      (packageOps indexed).Along OpensFirstOrSecond db ops := by
  refine (packageOps indexed).along_iff_of_inv
    (I := fun db => PackageTables db ∧ AttemptLaw db) ?_ ?_ ⟨hrows, hlaw⟩
  · exact fun db op db' hI hG hnext => ⟨packageTables_of_next hI.1 hI.2 hnext, hG.2 db' hnext⟩
  · exact fun db op hI => opensLawfully_iff hI.1 hI.2 op

/-! ### Three agents -/

/-- The task 1 with the confirmed contract 5. -/
def confirmedTask : WorkDb where
  tasks := Dict.update ∅ [(1, ⟨1, some 5, "IN_PROGRESS"⟩)]
  contracts := Dict.update ∅ [(5, ⟨5, 1, 1, 2, .confirmed, some 4, 1⟩)]

def manager : TenantContext := ⟨1, "founder", some 3⟩

def reportInput : PackageInput where
  taskId := 1
  outcomeContractId := 5
  assignedAgentInstanceId := "agent-a"
  requestedPriority := .p1
  objective := "Write the report"
  outputContract := [("format", "markdown")]
  acceptanceRubric := [("clarity", 3)]
  idempotencyKey := some "report"

/-- The package 10 is created with the attempt 20. -/
def createReport : PackageOp := .create reportInput manager { newId := 10, newAttemptId := 20 }

/-- The package 10 goes to another agent. -/
def reassignReport (agent : String) (expectedVersion attemptId : ℕ) : PackageOp :=
  .reassign ⟨10, agent, expectedVersion, none⟩ manager { now := 100, newAttemptId := attemptId }

theorem packageTables_confirmedTask : PackageTables confirmedTask :=
  ⟨fun _ _ h => (nomatch h), fun _ h => absurd h List.not_mem_nil⟩

theorem attemptLaw_confirmedTask : AttemptLaw confirmedTask :=
  fun _ => ⟨rfl, Nat.zero_le 1⟩

theorem attemptLaw_along_report : (packageOps false).Along (OpensLawfully false) confirmedTask
    [createReport, reassignReport "agent-b" 1 21] :=
  (attemptLaw_along_iff false confirmedTask packageTables_confirmedTask attemptLaw_confirmedTask
    [createReport, reassignReport "agent-b" 1 21]).mpr (by decide +kernel)

/-- The package 10 with three attempts. -/
def thirdAttempt : WorkDb :=
  ((packageOps false).run confirmedTask
    [createReport, reassignReport "agent-b" 1 21, reassignReport "agent-c" 2 22]).get
      (by decide +kernel)

/-- The package 10 with two attempts. -/
def secondAttempt : WorkDb :=
  ((packageOps true).run confirmedTask [createReport, reassignReport "agent-b" 1 21]).get
    (by decide +kernel)

/-- The third attempt is number 2 again; where the index refuses that, it is not opened. -/
theorem not_attemptLaw_thirdAttempt :
    ((packageOps false).run confirmedTask
      [createReport, reassignReport "agent-b" 1 21, reassignReport "agent-c" 2 22] =
        some thirdAttempt ∧ ¬AttemptLaw thirdAttempt) ∧
    (packageOps true).run confirmedTask [createReport, reassignReport "agent-b" 1 21] =
      some secondAttempt ∧
      ∀ db, (reassignReport "agent-c" 2 22).perform true secondAttempt ≠ .ok db := by
  refine ⟨⟨(Option.some_get _).symm, fun h => ?_⟩, (Option.some_get _).symm, fun db hok => ?_⟩
  · have hnumbers := (h 10).numbers
    revert hnumbers
    decide +kernel
  · have hfails : ((reassignReport "agent-c" 2 22).perform true secondAttempt).toOption.isSome =
        false := by decide +kernel
    rw [hok] at hfails
    nomatch hfails

end JavisSaas.Company.Operations
