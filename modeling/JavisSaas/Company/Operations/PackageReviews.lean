import JavisSaas.Lib.Calls
import JavisSaas.Company.Operations.WorkPackages

/-!
# Reviews, reassignments, overrides and sweeps

What they read first they read without a lock, and the update that takes the lock of a package is
one step with all that follows it up to the commit; a review whose conditional update finds another
version goes on in a later step.

* `reviewLaw_along`: if every review finds the version that it has read, and no reassignment finds
  what it has read accepted or rejected, reported reviews have won the race, and packages stay
  accepted or rejected.
* `not_reviewLaw_staleRework`: a rework takes an accepted package back to the queue.
-/

namespace JavisSaas.Company.Operations

open JavisSaas.Lib

/-! ## The calls -/

/-- Accepted or rejected. -/
def WorkPackage.Final (wp : WorkPackage) : Prop := wp.status = .accepted ∨ wp.status = .rejected
deriving Decidable

/-- The status that a review returns. -/
def ReviewDecision.packageStatus : ReviewDecision → WorkPackageStatus
  | accept => .accepted
  | rework => .queued
  | reject => .rejected

/-- The version that the conditional update has found, and the status at the commit. -/
structure ReviewReport where
  reviewId : ℕ
  expectedVersion : ℕ
  packageStatus : WorkPackageStatus
  found : Option ℕ
  left : Option WorkPackageStatus

structure ReviewStore where
  db : WorkDb
  reported : List ReviewReport := []

inductive ReviewRequest
  | review (input : ReviewInput) (ctx : TenantContext)
  | reassign (input : ReassignInput) (ctx : TenantContext)
  | override (input : OverrideInput) (ctx : TenantContext)
  | sweep (workspaceId : Option ℕ)
  /-- The platform of the agents sets a status. -/
  | work (id : ℕ) (status : WorkPackageStatus)

inductive ReviewCall
  | review (input : ReviewInput) (ctx : TenantContext)
  | reviewing (input : ReviewInput) (ctx : TenantContext) (wp : WorkPackage)
  /-- The conditional update has found the version `found`. -/
  | reviewLost (input : ReviewInput) (ctx : TenantContext) (wp : WorkPackage) (found : Option ℕ)
  | reassign (input : ReassignInput) (ctx : TenantContext)
  | reassigning (input : ReassignInput) (ctx : TenantContext) (wp : WorkPackage)
  | override (input : OverrideInput) (ctx : TenantContext)
  | overriding (input : OverrideInput) (ctx : TenantContext) (wp : WorkPackage)
  | sweep (workspaceId : Option ℕ)
  | sweeping (wps : List WorkPackage)
  | work (id : ℕ) (status : WorkPackageStatus)

def ReviewRequest.call : ReviewRequest → ReviewCall
  | review input ctx => .review input ctx
  | reassign input ctx => .reassign input ctx
  | override input ctx => .override input ctx
  | sweep workspaceId => .sweep workspaceId
  | work id status => .work id status

def WorkDb.versionOf (db : WorkDb) (id : ℕ) : Option ℕ := (db.packages.get? id).map (·.version)

def WorkDb.statusOf (db : WorkDb) (id : ℕ) : Option WorkPackageStatus :=
  (db.packages.get? id).map (·.status)

/-- A review is committed, and reported. -/
def ReviewStore.report (s : ReviewStore) (input : ReviewInput) (reviewId : ℕ)
    (found : Option ℕ) (db : WorkDb) : ReviewStore where
  db
  reported := s.reported ++ [{
    reviewId
    expectedVersion := input.expectedVersion
    packageStatus := input.decision.packageStatus
    found
    left := db.statusOf input.workPackageId }]

/-- A package is worked on until it is accepted or rejected. -/
def workOn (db : WorkDb) (id : ℕ) (status : WorkPackageStatus) : WorkDb :=
  db.updatePackage id fun row =>
    if row.Final ∨ status ∈ [.accepted, .rejected] then row else { row with status }

def ReviewCall.perform (indexed : Bool) (s : ReviewStore) (answers : WorkAnswers) :
    ReviewCall → Except ApiError (ReviewStore × Option ReviewCall)
  | review input ctx => do
    let wp ← loadForReview s.db input ctx
    return (s, some (reviewing input ctx wp))
  | reviewing input ctx wp =>
    if s.db.unchanged wp then do
      let db ← reviewWrites indexed s.db input ctx wp true answers
      return (s.report input answers.newId (s.db.versionOf wp.id) db, none)
    else return (s, some (reviewLost input ctx wp (s.db.versionOf wp.id)))
  | reviewLost input ctx wp found => do
    let db ← reviewWrites indexed s.db input ctx wp false answers
    return (s.report input answers.newId found db, none)
  | reassign input ctx => do
    answers.eligibility
    let wp ← loadForReassign s.db input ctx
    return (s, some (reassigning input ctx wp))
  | reassigning input _ wp => do
    let db ← reassignWrites indexed s.db input wp answers
    return ({ s with db }, none)
  | override input ctx => do
    let wp ← loadForOverride s.db input ctx
    return (s, some (overriding input ctx wp))
  | overriding input ctx wp => do
    let db ← overrideWrites s.db input ctx wp
    return ({ s with db }, none)
  | sweep workspaceId => .ok (s, some (sweeping (overduePackages s.db answers.now workspaceId)))
  | sweeping wps => .ok ({ s with db := wps.foldl escalate s.db }, none)
  | work id status => .ok ({ s with db := workOn s.db id status }, none)

/-- A call that fails is rolled back. -/
def ReviewCall.step (indexed : Bool) (s : ReviewStore) (call : ReviewCall)
    (answers : WorkAnswers) : Option (ReviewStore × Option ReviewCall) :=
  some ((call.perform indexed s answers).toOption.getD (s, none))

def packageReviews (indexed : Bool) :
    Service ReviewRequest ReviewStore ReviewCall WorkAnswers where
  start := ReviewRequest.call
  step := ReviewCall.step indexed

/-! ## The law -/

/-- The review has found the version that was expected, and has set the status. -/
def ReviewReport.Won (r : ReviewReport) : Prop :=
  r.found = some r.expectedVersion ∧ r.left = some r.packageStatus
deriving Decidable

/-- The event that a review leaves. -/
def PackageEvent.ofReview (event : PackageEvent) : Bool :=
  event.eventType ∈ ["work_package.review_accept", "work_package.review_rework",
    "work_package.review_reject"]

/-- Every reported review has set the status, and only such reviews have left a record. -/
structure ReviewLaw (s : ReviewStore) : Prop where
  won : ∀ r ∈ s.reported, r.Won
  reviews : s.db.reviews.map (·.id) = s.reported.map (·.reviewId)
  events : (s.db.events.filter (·.ofReview)).map (·.ref) = s.reported.map (some ·.reviewId)

/-- The package is accepted or rejected. -/
def WorkDb.IsFinal (db : WorkDb) (id : ℕ) : Prop := ∃ wp ∈ db.packages.get? id, wp.Final

/-- A review finds the version that it has read, a reassignment not what it has read as decided. -/
def FindsWhatItRead (s : ReviewStore) : ReviewCall → WorkAnswers → Prop
  | .reviewing _ _ wp, _ => s.db.unchanged wp
  | .reassigning _ _ wp, _ => wp.Final → ¬s.db.unchanged wp
  | _, _ => True

instance (s : ReviewStore) (call : ReviewCall) (answers : WorkAnswers) :
    Decidable (FindsWhatItRead s call answers) := by
  unfold FindsWhatItRead
  split <;> infer_instance

/-! ## Versions only grow -/

/-- What may become of a row: with the version that it had, it is final if it was. -/
structure WorkPackage.Advances (row row' : WorkPackage) : Prop where
  id : row'.id = row.id
  version : row.version ≤ row'.version
  final : row.Final → row'.Final
  same : row'.version = row.version → row'.Final → row.Final

theorem WorkPackage.Advances.refl (row : WorkPackage) : row.Advances row :=
  ⟨rfl, le_rfl, fun h => h, fun _ h => h⟩

theorem WorkPackage.Advances.trans {a b c : WorkPackage} (h : a.Advances b) (h' : b.Advances c) :
    a.Advances c where
  id := h'.id.trans h.id
  version := h.version.trans h'.version
  final ha := h'.final (h.final ha)
  same hversion hc := by
    have hle := h.version
    have hle' := h'.version
    exact h.same (by omega) (h'.same (by omega) hc)

/-- Every package advances, and none is added. -/
structure WorkDb.Advances (db db' : WorkDb) : Prop where
  rows : ∀ id row, db.packages.get? id = some row →
    ∃ row', db'.packages.get? id = some row' ∧ row.Advances row'
  fresh : ∀ id, db.packages.get? id = none → db'.packages.get? id = none

namespace WorkDb.Advances

variable {a b c : WorkDb}

theorem of_eq (h : b.packages = a.packages) : a.Advances b := by
  constructor <;> rw [h]
  · exact fun id row hrow => ⟨row, hrow, .refl row⟩
  · exact fun id hid => hid

theorem trans (h : a.Advances b) (h' : b.Advances c) : a.Advances c where
  rows id row hrow := by
    obtain ⟨row', hrow', hadvances⟩ := h.rows id row hrow
    obtain ⟨row'', hrow'', hadvances'⟩ := h'.rows id row' hrow'
    exact ⟨row'', hrow'', hadvances.trans hadvances'⟩
  fresh id hid := h'.fresh id (h.fresh id hid)

theorem updatePackage {id : ℕ} {f : WorkPackage → WorkPackage}
    (h : ∀ row, a.packages.get? id = some row → row.Advances (f row)) :
    a.Advances (a.updatePackage id f) := by
  unfold WorkDb.updatePackage
  split
  · next row hrow =>
    refine ⟨fun id' row' hrow' => ?_, fun id' hid' => ?_⟩
    · simp only [Dict.get?_set]
      split_ifs with heq
      · subst heq
        cases hrow.symm.trans hrow'
        exact ⟨_, rfl, h row hrow⟩
      · exact ⟨row', hrow', .refl row'⟩
    · simp only [Dict.get?_set]
      split_ifs with heq
      · rw [heq] at hrow
        rw [hrow] at hid'
        nomatch hid'
      · exact hid'
  · exact .of_eq rfl

theorem keyed (h : a.Advances b) (hkeyed : ∀ id wp, a.packages.get? id = some wp → wp.id = id) :
    ∀ id wp, b.packages.get? id = some wp → wp.id = id := by
  intro id wp hwp
  cases hrow : a.packages.get? id with
  | none => nomatch (h.fresh id hrow).symm.trans hwp
  | some row =>
    obtain ⟨row', hrow', hadvances⟩ := h.rows id row hrow
    cases hrow'.symm.trans hwp
    rw [hadvances.id, hkeyed id row hrow]

theorem isFinal (h : a.Advances b) {id : ℕ} (hfinal : a.IsFinal id) : b.IsFinal id := by
  obtain ⟨row, hrow, hfinal⟩ := hfinal
  obtain ⟨row', hrow', hadvances⟩ := h.rows id row hrow
  exact ⟨row', hrow', hadvances.final hfinal⟩

end WorkDb.Advances

/-- The package was read earlier. -/
def WorkDb.WasRead (db : WorkDb) (wp : WorkPackage) : Prop :=
  ∃ row, db.packages.get? wp.id = some row ∧ wp.Advances row

variable {db db' : WorkDb} {wp : WorkPackage}

theorem WorkDb.WasRead.advances (h : db.WasRead wp) (hdb : db.Advances db') : db'.WasRead wp := by
  obtain ⟨row, hrow, hadvances⟩ := h
  obtain ⟨row', hrow', hadvances'⟩ := hdb.rows wp.id row hrow
  exact ⟨row', hrow', hadvances.trans hadvances'⟩

theorem WorkDb.WasRead.row (h : db.WasRead wp) (hunchanged : db.unchanged wp) :
    ∃ row, db.packages.get? wp.id = some row ∧ row.version = wp.version ∧
      (row.Final → wp.Final) := by
  obtain ⟨row, hrow, hadvances⟩ := h
  have hversion : row.version = wp.version := by simpa [WorkDb.unchanged, hrow] using hunchanged
  exact ⟨row, hrow, hversion, hadvances.same hversion⟩

/-- An update that counts the version of a package up, and is not of a final one. -/
theorem advances_count (h : db.WasRead wp) (hunchanged : db.unchanged wp)
    {f : WorkPackage → WorkPackage} (hid : ∀ row, (f row).id = row.id)
    (hversion : ∀ row, wp.version < (f row).version)
    (hfinal : ¬wp.Final ∨ ∀ row, (f row).status = row.status) :
    db.Advances (db.updatePackage wp.id f) := by
  obtain ⟨row, hrow, hrowVersion, hrowFinal⟩ := h.row hunchanged
  refine .updatePackage fun row' hrow' => ?_
  cases hrow.symm.trans hrow'
  have hlt := hversion row
  refine ⟨hid row, by omega, fun hrowIs => ?_, fun heq => by omega⟩
  rcases hfinal with hnot | hstatus
  · exact absurd (hrowFinal hrowIs) hnot
  · rwa [WorkPackage.Final, hstatus]

/-! ## What the transactions do -/

/-- Packages advance, and no review is recorded. -/
structure Moves (db db' : WorkDb) : Prop where
  advances : db.Advances db'
  reviews : db'.reviews = db.reviews
  events : db'.events.filter (·.ofReview) = db.events.filter (·.ofReview)

theorem Moves.of_advances (h : db.Advances db') (hreviews : db'.reviews = db.reviews)
    (hevents : db'.events = db.events) : Moves db db' :=
  ⟨h, hreviews, by rw [hevents]⟩

theorem Moves.refl (db : WorkDb) : Moves db db := .of_advances (.of_eq rfl) rfl rfl

theorem Moves.trans {a b c : WorkDb} (h : Moves a b) (h' : Moves b c) : Moves a c :=
  ⟨h.advances.trans h'.advances, h'.reviews.trans h.reviews, h'.events.trans h.events⟩

theorem Moves.append {db db' : WorkDb} (h : Moves db db') {e : PackageEvent}
    (hevent : e.ofReview = false) : Moves db (db'.append e) where
  advances := h.advances.trans (.of_eq rfl)
  reviews := h.reviews
  events := by
    rw [← h.events]
    simp [WorkDb.append, List.filter_append, hevent]

theorem reviews_updatePackage (db : WorkDb) (id : ℕ) (f : WorkPackage → WorkPackage) :
    (db.updatePackage id f).reviews = db.reviews ∧
      (db.updatePackage id f).events = db.events := by
  unfold WorkDb.updatePackage
  split <;> exact ⟨rfl, rfl⟩

theorem Moves.updatePackage {id : ℕ} {f : WorkPackage → WorkPackage}
    (h : db.Advances (db.updatePackage id f)) : Moves db (db.updatePackage id f) :=
  have hrows := reviews_updatePackage db id f
  .of_advances h hrows.1 hrows.2

section Transactions

variable {indexed : Bool} {db db' : WorkDb} {wp : WorkPackage}

theorem moves_escalate (h : db.WasRead wp) (hpending : wp.status = .pendingManagerReview) :
    Moves db (escalate db wp) := by
  unfold escalate
  split_ifs with hunchanged
  · have hopen : ¬wp.Final := by
      rintro (hfinal | hfinal) <;> exact nomatch hpending.symm.trans hfinal
    have hmoves : Moves db (db.updatePackage wp.id fun row =>
        { row with status := .escalatedToFounder, version := wp.version + 1 }) :=
      .updatePackage (advances_count h hunchanged (fun _ => rfl) (fun _ => Nat.lt_succ_self _)
        (.inl hopen))
    have hevent := hmoves.append (e := ⟨wp.id, "review.overdue", none, none⟩) rfl
    exact hevent.trans (.of_advances (.of_eq rfl) rfl rfl)
  · exact .refl db

theorem moves_sweep {wps : List WorkPackage}
    (h : ∀ wp ∈ wps, db.WasRead wp ∧ wp.status = .pendingManagerReview) :
    Moves db (wps.foldl escalate db) := by
  induction wps generalizing db with
  | nil => exact .refl db
  | cons _ _ ih =>
    rw [List.forall_mem_cons] at h
    have hone := moves_escalate h.1.1 h.1.2
    exact hone.trans (ih fun wp' hwp' =>
      ⟨(h.2 wp' hwp').1.advances hone.advances, (h.2 wp' hwp').2⟩)

theorem moves_reassign {input : ReassignInput} {answers : WorkAnswers} (h : db.WasRead wp)
    (hfinal : wp.Final → ¬db.unchanged wp)
    (hok : reassignWrites indexed db input wp answers = .ok db') : Moves db db' := by
  unfold reassignWrites at hok
  split_ifs at hok with hleased
  · cases hok
    exact ((Moves.refl db).append (e := ⟨input.workPackageId,
      "work_package.reassignment_requested", none, input.reason⟩) rfl).trans
      (.of_advances (.of_eq rfl) rfl rfl)
  · obtain ⟨db₁, hopen, hupdate⟩ := bind_eq_ok.mp hok
    obtain ⟨attempts, hended⟩ := endActiveAttempt_frame db wp.id .reassigned
      (input.reason.getD "reassigned") answers.now
    obtain ⟨attempts', rfl⟩ := openAttempt_frame hopen
    simp only [reassignOpening, hended] at hupdate
    obtain ⟨hunchanged, hupdate⟩ := require_bind_eq_ok.mp hupdate
    cases hupdate
    have hmoves : Moves db { db with attempts := attempts' } := .of_advances (.of_eq rfl) rfl rfl
    refine Moves.append (hmoves.trans (Moves.updatePackage ?_)) rfl
    refine advances_count (h.advances hmoves.advances) hunchanged (fun _ => rfl)
      (fun _ => Nat.lt_succ_self _) (.inl fun hwp => hfinal hwp hunchanged)

theorem moves_override {input : OverrideInput} {ctx : TenantContext} (h : db.WasRead wp)
    (hok : overrideWrites db input ctx wp = .ok db') : Moves db db' := by
  obtain ⟨hunchanged, hok⟩ := require_bind_eq_ok.mp hok
  cases hok
  have hmoves : Moves db (db.updatePackage wp.id (input.set wp)) :=
    .updatePackage (advances_count h hunchanged (fun _ => rfl) (fun _ => Nat.lt_succ_self _)
      (.inr fun _ => rfl))
  have hpriority := hmoves.trans (c := { db.updatePackage wp.id (input.set wp) with
    priorityEvents := db.priorityEvents ++ [⟨wp.id, ctx.workforceMemberId, wp.requestedPriority,
      wp.effectivePriority, input.effectivePriority, input.reason⟩] })
    (.of_advances (.of_eq rfl) rfl rfl)
  exact hpriority.append rfl

theorem moves_workOn (id : ℕ) (status : WorkPackageStatus) : Moves db (workOn db id status) := by
  refine .updatePackage (.updatePackage fun row _ => ?_)
  split_ifs with hstays
  · exact .refl row
  · rw [not_or] at hstays
    refine ⟨rfl, le_rfl, fun hfinal => absurd hfinal hstays.1, fun _ hfinal => ?_⟩
    refine absurd ?_ hstays.2
    rcases hfinal with hfinal | hfinal
    · exact List.mem_cons.mpr (.inl hfinal)
    · exact List.mem_cons.mpr (.inr (List.mem_singleton.mpr hfinal))

theorem get?_updatePackage {id : ℕ} {row : WorkPackage} (h : db.packages.get? id = some row)
    (f : WorkPackage → WorkPackage) : (db.updatePackage id f).packages.get? id = some (f row) := by
  rw [WorkDb.updatePackage, h]
  exact Dict.get?_set_self _ _ _

/-- The records of a review, with its identifier. -/
structure Records (db db' : WorkDb) (reviewId : ℕ) : Prop where
  reviews : db'.reviews.map (·.id) = db.reviews.map (·.id) ++ [reviewId]
  events : (db'.events.filter (·.ofReview)).map (·.ref) =
    (db.events.filter (·.ofReview)).map (·.ref) ++ [some reviewId]

theorem records_recordReview (input : ReviewInput) (ctx : TenantContext) (id : ℕ) :
    Records db (recordReview db input ctx id) id where
  reviews := by
    show (db.reviews ++ [newReview db input ctx id]).map (·.id) = _
    rw [List.map_append]
    rfl
  events := by
    have hreview : PackageEvent.ofReview ⟨input.workPackageId,
        "work_package.review_" ++ input.decision.lower, some id, some input.reasonCode⟩ = true := by
      cases input.decision <;> rfl
    simp [recordReview, WorkDb.append, List.filter_append, hreview]

theorem Records.of_rows {db₁ : WorkDb} {id : ℕ} (h : Records db db' id)
    (hreviews : db₁.reviews = db'.reviews) (hevents : db₁.events = db'.events) :
    Records db db₁ id :=
  ⟨by rw [hreviews, h.reviews], by rw [hevents, h.events]⟩

/-- What a review that has won the race leaves. -/
structure Reviewed (db db' : WorkDb) (decision : ReviewDecision) (id reviewId : ℕ) : Prop where
  advances : db.Advances db'
  status : db'.statusOf id = some decision.packageStatus
  records : Records db db' reviewId

theorem rework_frame {input : ReviewInput} {now : ℤ} {newId : ℕ}
    (h : openAttempt indexed (reworkOpening db input wp now).1 (reworkOpening db input wp now).2
      newId = .ok db') : ∃ attempts, db' = { db with attempts } := by
  obtain ⟨attempts, hended⟩ := endActiveAttempt_frame db wp.id .reworked input.reasonCode now
  obtain ⟨attempts', rfl⟩ := openAttempt_frame h
  exact ⟨attempts', by rw [show (reworkOpening db input wp now).1 = _ from hended]⟩

theorem reviewed_of_writes {input : ReviewInput} {ctx : TenantContext} {answers : WorkAnswers}
    (h : db.WasRead wp) (hunchanged : db.unchanged wp) (hopen : ¬wp.Final)
    (hok : reviewWrites indexed db input ctx wp true answers = .ok db') :
    Reviewed db db' input.decision wp.id answers.newId := by
  have hstill := h.row hunchanged
  obtain ⟨row, hrow, -, -⟩ := hstill
  -- the rows that the conditional update and the records leave
  have hupdate : db.Advances (reviewUpdate db input.decision wp true) :=
    advances_count h hunchanged (fun _ => rfl) (fun _ => Nat.lt_succ_self _) (.inl hopen)
  have hupdated : (reviewUpdate db input.decision wp true).packages.get? wp.id =
      some { row with status := input.decision.status, version := wp.version + 1 } :=
    get?_updatePackage hrow _
  have hrows : (reviewUpdate db input.decision wp true).reviews = db.reviews ∧
      (reviewUpdate db input.decision wp true).events = db.events :=
    reviews_updatePackage db wp.id _
  have hrecords : Records (reviewUpdate db input.decision wp true) (recordReview
      (reviewUpdate db input.decision wp true) input ctx answers.newId) answers.newId :=
    records_recordReview input ctx answers.newId
  unfold reviewWrites at hok
  generalize reviewUpdate db input.decision wp true = updated at *
  have hadvances : db.Advances (recordReview updated input ctx answers.newId) :=
    hupdate.trans (.of_eq rfl)
  replace hrecords : Records db (recordReview updated input ctx answers.newId) answers.newId :=
    ⟨hrows.1 ▸ hrecords.reviews, hrows.2 ▸ hrecords.events⟩
  split_ifs at hok with hrework
  · obtain ⟨db₁, hopened, hok⟩ := bind_eq_ok.mp hok
    obtain ⟨attempts, rfl⟩ := rework_frame hopened
    cases hok
    rw [hrework] at hupdated ⊢
    have hopened : (recordReview updated input ctx answers.newId).Advances
        { recordReview updated input ctx answers.newId with attempts } := .of_eq rfl
    refine ⟨hadvances.trans (hopened.trans (.updatePackage fun row' hrow' => ?_)), ?_,
      hrecords.of_rows (reviews_updatePackage _ _ _).1 (reviews_updatePackage _ _ _).2⟩
    · -- the row has the status REWORK
      cases hupdated.symm.trans hrow'
      refine ⟨rfl, Nat.le_succ _, ?_, fun heq => absurd heq (Nat.succ_ne_self _)⟩
      rintro (hfinal | hfinal) <;> nomatch hfinal
    · have hopenedRow : ({ recordReview updated input ctx answers.newId with attempts } :
          WorkDb).packages.get? wp.id = some _ := hupdated
      have hqueued := get?_updatePackage hopenedRow fun row =>
        { row with
          status := .queued
          assignedAgentInstanceId := reworkTarget input wp
          version := wp.version + 2 }
      show Option.map _ ((requeue _ input wp).packages.get? wp.id) = _
      rw [requeue, hqueued]
      rfl
  · cases hok
    refine ⟨hadvances, ?_, hrecords⟩
    show (updated.packages.get? wp.id).map (·.status) = _
    rw [hupdated]
    cases hdecision : input.decision with
    | accept | reject => rfl
    | rework => exact absurd hdecision hrework

end Transactions

/-! ## The calls keep the law -/

/-- Packages are stored under their identifiers. -/
def WorkDb.Keyed (db : WorkDb) : Prop := ∀ id wp, db.packages.get? id = some wp → wp.id = id

/-- What a call has read. -/
def ReviewCall.Reads (s : ReviewStore) : ReviewCall → Prop
  | .reviewing input _ wp => s.db.WasRead wp ∧ ¬wp.Final ∧ wp.version = input.expectedVersion ∧
      wp.id = input.workPackageId
  | .reviewLost _ _ _ _ => False
  | .reassigning _ _ wp | .overriding _ _ wp => s.db.WasRead wp
  | .sweeping wps => ∀ wp ∈ wps, s.db.WasRead wp ∧ wp.status = .pendingManagerReview
  | _ => True

theorem ReviewCall.Reads.advances {s s' : ReviewStore} (h : s.db.Advances s'.db)
    {call : ReviewCall} (hreads : call.Reads s) : call.Reads s' := by
  cases call with
  | reviewing => exact ⟨hreads.1.advances h, hreads.2⟩
  | reviewLost => exact hreads
  | reassigning | overriding => exact WorkDb.WasRead.advances hreads h
  | sweeping => exact fun wp hwp => ⟨(hreads wp hwp).1.advances h, (hreads wp hwp).2⟩
  | review | reassign | override | sweep | work => trivial

theorem wasRead_of_get? {db : WorkDb} {id : ℕ} {wp : WorkPackage} (hkeyed : db.Keyed)
    (h : db.packages.get? id = some wp) : db.WasRead wp :=
  ⟨wp, hkeyed id wp h ▸ h, .refl wp⟩

theorem ReviewLaw.moves {s : ReviewStore} (h : ReviewLaw s) {db : WorkDb} (hdb : Moves s.db db) :
    ReviewLaw { s with db } where
  won := h.won
  reviews := (congrArg (List.map _) hdb.reviews).trans h.reviews
  events := (congrArg (List.map _) hdb.events).trans h.events

theorem ReviewLaw.report {s : ReviewStore} (h : ReviewLaw s) {db : WorkDb} {input : ReviewInput}
    {reviewId : ℕ} {found : Option ℕ} (hfound : found = some input.expectedVersion)
    (hdb : Reviewed s.db db input.decision input.workPackageId reviewId) :
    ReviewLaw (s.report input reviewId found db) where
  won r hr := by
    rcases mem_concat hr with hr | rfl
    · exact h.won r hr
    · exact ⟨hfound, hdb.status⟩
  reviews := by
    show db.reviews.map (·.id) = (s.reported ++ _).map (·.reviewId)
    rw [hdb.records.reviews, h.reviews, List.map_append]
    rfl
  events := by
    show (db.events.filter (·.ofReview)).map (·.ref) = (s.reported ++ _).map _
    rw [hdb.records.events, h.events, List.map_append]
    rfl

theorem ReviewCall.kept_of_step {indexed : Bool} {s s' : ReviewStore} {call : ReviewCall}
    {call' : Option ReviewCall} {answers : WorkAnswers} (hkeyed : s.db.Keyed) (hlaw : ReviewLaw s)
    (hreads : call.Reads s) (hfinds : FindsWhatItRead s call answers)
    (h : call.step indexed s answers = some (s', call')) :
    s.db.Advances s'.db ∧ ReviewLaw s' ∧ ∀ d ∈ call', d.Reads s' := by
  have hend : ∀ d ∈ (none : Option ReviewCall), d.Reads s' := fun _ hd => nomatch hd
  have hstays : s.db.Advances s.db := .of_eq rfl
  have hmoves : ∀ {db : WorkDb}, Moves s.db db → s' = { s with db } → call' = none →
      s.db.Advances s'.db ∧ ReviewLaw s' ∧ ∀ d ∈ call', d.Reads s' := by
    rintro db hdb rfl rfl
    exact ⟨hdb.advances, hlaw.moves hdb, hend⟩
  cases hperform : call.perform indexed s answers with
  | error =>
    rw [ReviewCall.step, hperform] at h
    cases h
    exact ⟨hstays, hlaw, hend⟩
  | ok =>
    rw [ReviewCall.step, hperform] at h
    cases h
    cases call with
    | review =>
      obtain ⟨wp, hload, hok⟩ := bind_eq_ok.mp hperform
      cases hok
      obtain ⟨hwp, hstatus, hversion⟩ := loadForReview_eq_ok hload
      refine ⟨hstays, hlaw, fun d hd => ?_⟩
      cases hd
      refine ⟨wasRead_of_get? hkeyed hwp, ?_, hversion, hkeyed _ _ hwp⟩
      rintro (hfinal | hfinal) <;> rw [hfinal] at hstatus <;> revert hstatus <;> decide
    | reviewing _ _ wp =>
      obtain ⟨hread, hopen, hversion, hid⟩ := hreads
      have hunchanged : s.db.unchanged wp = true := hfinds
      simp only [ReviewCall.perform, if_pos hunchanged] at hperform
      obtain ⟨db, hwrites, hok⟩ := bind_eq_ok.mp hperform
      cases hok
      obtain ⟨row, hrow, hrowVersion, -⟩ := hread.row hunchanged
      have hreviewed := reviewed_of_writes hread hunchanged hopen hwrites
      refine ⟨hreviewed.advances, hlaw.report ?_ (hid ▸ hreviewed), hend⟩
      rw [WorkDb.versionOf, hrow, ← hversion, ← hrowVersion]
      rfl
    | reviewLost => exact hreads.elim
    | reassign =>
      obtain ⟨_, hperform⟩ := of_bind hperform
      obtain ⟨wp, hload, hok⟩ := bind_eq_ok.mp hperform
      cases hok
      refine ⟨hstays, hlaw, fun d hd => ?_⟩
      cases hd
      exact wasRead_of_get? hkeyed (loadForReassign_eq_ok hload).1
    | reassigning =>
      obtain ⟨db, hwrites, hok⟩ := bind_eq_ok.mp hperform
      cases hok
      exact hmoves (moves_reassign hreads hfinds hwrites) rfl rfl
    | override =>
      obtain ⟨wp, hload, hok⟩ := bind_eq_ok.mp hperform
      cases hok
      refine ⟨hstays, hlaw, fun d hd => ?_⟩
      cases hd
      exact wasRead_of_get? hkeyed (loadForOverride_eq_ok hload).1
    | overriding =>
      obtain ⟨db, hwrites, hok⟩ := bind_eq_ok.mp hperform
      cases hok
      exact hmoves (moves_override hreads hwrites) rfl rfl
    | sweep =>
      cases hperform
      refine ⟨hstays, hlaw, fun d hd => ?_⟩
      cases hd
      intro wp hwp
      obtain ⟨hmem, hoverdue⟩ := List.mem_filter.mp hwp
      obtain ⟨id, hget⟩ := Dict.mem_values.mp hmem
      simp only [Bool.and_eq_true, decide_eq_true_eq] at hoverdue
      exact ⟨wasRead_of_get? hkeyed hget, hoverdue.1.1⟩
    | sweeping =>
      cases hperform
      exact hmoves (moves_sweep hreads) rfl rfl
    | work id status =>
      cases hperform
      exact hmoves (moves_workOn id status) rfl rfl

def KeyedLaw (s : ReviewStore) : Prop := s.db.Keyed ∧ ReviewLaw s

theorem reviewRule (indexed : Bool) :
    (packageReviews indexed).Rule FindsWhatItRead KeyedLaw fun s call => call.Reads s where
  start s req _ := by cases req <;> trivial
  step s c a s' c' hI hJ hG hstep := by
    obtain ⟨hadvances, hlaw, hown⟩ := ReviewCall.kept_of_step hI.1 hI.2 hJ hG hstep
    exact ⟨⟨hadvances.keyed hI.1, hlaw⟩, fun d hd => hd.advances hadvances, hown⟩
  abort s c hI _ := ⟨hI, fun d hd => hd⟩

/-- If the calls find what they have read, the law holds, and decided packages stay so. -/
theorem reviewLaw_along (indexed : Bool) (s : ReviewStore) (hkeyed : s.db.Keyed)
    (hlaw : ReviewLaw s) (ls ls' : List (CallLabel ReviewRequest WorkAnswers))
    (m s' : InFlight ReviewStore ReviewCall)
    (hrun : (packageReviews indexed).system.run ⟨s, []⟩ ls = some m)
    (hrun' : (packageReviews indexed).system.run m ls' = some s')
    (hfinds : (packageReviews indexed).system.Along (Service.Meets FindsWhatItRead) ⟨s, []⟩
      (ls ++ ls')) :
    ReviewLaw s'.store ∧ ∀ id, m.store.db.IsFinal id → s'.store.db.IsFinal id := by
  obtain ⟨hbefore, hafter⟩ := ((packageReviews indexed).system.along_append hrun).mp hfinds
  have hinv : Service.Inv KeyedLaw (fun s call => ReviewCall.Reads s call) m :=
    (reviewRule indexed).inv_of_along (.of_empty ⟨hkeyed, hlaw⟩) hbefore hrun
  refine ⟨((reviewRule indexed).inv_of_along hinv hafter hrun').store.2, ?_⟩
  refine (packageReviews indexed).rel_of_along
    (R := fun a b => ∀ id, a.db.IsFinal id → b.db.IsFinal id) (fun _ _ h => h)
    (fun _ _ _ h h' id hid => h' id (h id hid)) (fun _ _ _ => (reviewRule indexed).inv_next) ?_
    (fun _ _ _ _ h => h) hinv hafter hrun'
  intro f i c answers s' c' hI hG hc hstep
  have hkept := ReviewCall.kept_of_step hI.store.1 hI.store.2 (hI.calls i c hc) (hG c hc) hstep
  exact fun id hid => hkept.1.isFinal hid

/-! ### Two reviews of one package -/

/-- The package 10 with the attempt 20, which waits for its review. -/
def waitingReport : ReviewStore where
  db := {
    packages := Dict.update ∅ [(10, {
      id := 10
      workspaceId := 1
      taskId := 1
      outcomeContractId := 5
      objective := "Write the report"
      outputContract := [("format", "markdown")]
      acceptanceRubric := [("clarity", 3)]
      requestedByManagerId := some 3
      assignedAgentInstanceId := "agent-a"
      requestedPriority := .p1
      effectivePriority := .p1
      status := .pendingManagerReview
      idempotencyKey := none })]
    attempts := [⟨20, 10, 1, "agent-a", .active, none, none⟩] }

/-- A review of the package as it was created. -/
def reviewReport (decision : ReviewDecision) : ReviewRequest :=
  .review ⟨10, some 20, "v1", decision, [("clarity", 2)], "rubric", none, 1, none⟩
    ⟨1, "founder", some 3⟩

def stepAt (i reviewId : ℕ) : CallLabel ReviewRequest WorkAnswers :=
  .step i { now := 100, newId := reviewId, newAttemptId := 21 }

theorem keyed_waitingReport : waitingReport.db.Keyed := by
  have hkeys : ∀ entry ∈ waitingReport.db.packages.items, entry.2.id = entry.1 := by decide +kernel
  exact fun id wp hwp => hkeys (id, wp) (Dict.get?_eq_some.mp hwp)

theorem reviewLaw_waitingReport : ReviewLaw waitingReport :=
  ⟨fun _ hr => absurd hr List.not_mem_nil, rfl, rfl⟩

def acceptRun : List (CallLabel ReviewRequest WorkAnswers) :=
  [.start (reviewReport .accept), stepAt 0 30, stepAt 0 30]

def sweepRun : List (CallLabel ReviewRequest WorkAnswers) :=
  [.start (.sweep none), stepAt 1 31, stepAt 1 31]

def acceptedReport : InFlight ReviewStore ReviewCall :=
  ((packageReviews true).system.run ⟨waitingReport, []⟩ acceptRun).get (by decide +kernel)

def sweptReport : InFlight ReviewStore ReviewCall :=
  ((packageReviews true).system.run acceptedReport sweepRun).get (by decide +kernel)

theorem reviewLaw_along_accept : ReviewLaw sweptReport.store ∧
    ∀ id, acceptedReport.store.db.IsFinal id → sweptReport.store.db.IsFinal id :=
  reviewLaw_along true waitingReport keyed_waitingReport reviewLaw_waitingReport acceptRun sweepRun
    acceptedReport sweptReport (Option.some_get _).symm (Option.some_get _).symm (by decide +kernel)

/-- The package is accepted while a rework has read it. -/
def acceptedWhileRead : InFlight ReviewStore ReviewCall :=
  ((packageReviews true).system.run ⟨waitingReport, []⟩ [.start (reviewReport .rework),
    stepAt 0 30, .start (reviewReport .accept), stepAt 1 31, stepAt 1 31]).get
      (by decide +kernel)

/-- The rework goes on. -/
def requeuedReport : InFlight ReviewStore ReviewCall :=
  ((packageReviews true).system.run acceptedWhileRead [stepAt 0 30, stepAt 0 30]).get
    (by decide +kernel)

/-- The rework has found another version, and takes the accepted package back to the queue. -/
theorem not_reviewLaw_staleRework :
    (packageReviews true).system.run ⟨waitingReport, []⟩ [.start (reviewReport .rework),
      stepAt 0 30, .start (reviewReport .accept), stepAt 1 31, stepAt 1 31] =
        some acceptedWhileRead ∧
    (packageReviews true).system.run acceptedWhileRead [stepAt 0 30, stepAt 0 30] =
      some requeuedReport ∧
    acceptedWhileRead.store.db.statusOf 10 = some .accepted ∧
    requeuedReport.store.db.statusOf 10 = some .queued ∧ ¬ReviewLaw requeuedReport.store := by
  refine ⟨(Option.some_get _).symm, (Option.some_get _).symm, by decide +kernel, by decide +kernel,
    fun h => ?_⟩
  have hwon := h.won
  revert hwon
  decide +kernel

end JavisSaas.Company.Operations
