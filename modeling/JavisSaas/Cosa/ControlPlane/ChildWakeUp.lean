import JavisSaas.Cosa.ControlPlane.ChildScheduler

/-!
# Blocked children are woken up

A blocked child is woken by the `completeChild` that completes the last of its dependencies, and by
nothing else. The wake-up is lost when a completion falls between what a transaction reads and what
it writes, or is made by `completeTask`.

* `ChildLaw`: what a step must not do to the children.
* `Undisturbed`: the steps in which no completion falls into such a gap.
* `along_childLaw`: runs of undisturbed steps keep the law.
-/

namespace JavisSaas.Cosa.ControlPlane

open JavisSaas.Lib

variable {J : Type}

theorem mem_completedChildIds {t : TaskTable J} {p d : String} :
    d ∈ completedChildIds t p ↔
      ∃ r ∈ t.rows, r.parentTaskId = some p ∧ r.status = .completed ∧ r.childId = some d := by
  simp only [completedChildIds, List.mem_filterMap, List.mem_filter, decide_eq_true_eq]
  constructor
  · rintro ⟨r, ⟨hr, hp, hs⟩, hc⟩; exact ⟨r, hr, hp, hs, hc⟩
  · rintro ⟨r, hr, hp, hs, hc⟩; exact ⟨r, ⟨hr, hp, hs⟩, hc⟩

/-- All dependencies of a child of `p` are completed. -/
def DepsDone (t : TaskTable J) (p : String) (dependsOn : List String) : Prop :=
  ∀ d ∈ dependsOn, d ∈ completedChildIds t p
deriving Decidable

/-- No child is blocked with all of its dependencies completed. -/
def Awake (t : TaskTable J) : Prop :=
  ∀ r ∈ t.rows, r.status = .blocked → ∀ p ∈ r.parentTaskId, ¬ DepsDone t p r.dependsOn
deriving Decidable

/-- What a step from `t` to `t'` may do to the children. -/
structure ChildLaw (t t' : TaskTable J) : Prop where
  awake : Awake t'
  /-- A child leaves blocked only when all of its dependencies are completed. -/
  unblocked : ∀ r ∈ t.rows, ∀ r' ∈ t'.rows, r'.id = r.id → r.status = .blocked →
    r'.status ≠ .blocked → ∀ p ∈ r.parentTaskId, DepsDone t' p r.dependsOn
  /-- A recorded completion keeps its result. -/
  recorded : ∀ r ∈ t.rows, ∀ r' ∈ t'.rows, r'.id = r.id → r.completionKey ≠ none →
    r'.childResult = r.childResult

/-- Rows are not deleted, keep their edges, and stay completed. -/
def Evolves (t t' : TaskTable J) : Prop :=
  ∀ r ∈ t.rows, ∃ r' ∈ t'.rows, r'.id = r.id ∧ r'.parentTaskId = r.parentTaskId ∧
    r'.childId = r.childId ∧ (r.status = .completed → r'.status = .completed)

variable {t t' : TaskTable J}

theorem Evolves.completed (h : Evolves t t') {p d : String}
    (hd : d ∈ completedChildIds t p) : d ∈ completedChildIds t' p := by
  obtain ⟨r, hr, hp, hs, hc⟩ := mem_completedChildIds.mp hd
  obtain ⟨r', hr', -, hp', hc', hs'⟩ := h r hr
  exact mem_completedChildIds.mpr ⟨r', hr', hp'.trans hp, hs' hs, hc'.trans hc⟩

/-! ## Steps of the queue -/

variable {claims : List (String × Option String)} {C : ScheduledTaskRow J → Prop} {r r' : ScheduledTaskRow J}

theorem RowStep.child_eq
    (h : RowStep C claims r r') :
    r'.parentTaskId = r.parentTaskId ∧ r'.childId = r.childId ∧ r'.dependsOn = r.dependsOn ∧
      r'.childResult = r.childResult := by
  cases h <;> exact ⟨rfl, rfl, rfl, rfl⟩

theorem RowStep.blocked_iff
    (h : RowStep C claims r r') :
    r'.status = .blocked ↔ r.status = .blocked := by
  cases h with
  | keep => exact Iff.rfl
  | claim hs => simp [ControlPlane.claim, hs]
  | succeed hs => simp [ControlPlane.succeed, hs]
  | deadLetter hs => simp [ControlPlane.deadLetter, hs]
  | reschedule hs => simp [ControlPlane.reschedule, hs]

theorem RowStep.completed_cases
    (h : RowStep C claims r r') (hs' : r'.status = .completed) : r.status = .completed ∨ C r := by
  cases h with
  | keep => exact Or.inl hs'
  | claim | deadLetter | reschedule => cases hs'
  | succeed _ hC => exact Or.inr hC

theorem RowStep.completed
    (h : RowStep C claims r r') (hs : r.status = .completed) :
    r'.status = .completed := by
  cases h with
  | keep => exact hs
  | claim hs' => rw [hs'] at hs; cases hs
  | succeed => rfl
  | deadLetter hs' => rw [hs'] at hs; cases hs
  | reschedule hs' => rw [hs'] at hs; cases hs

theorem RowSteps.evolves
    (h : RowSteps C claims t t') : Evolves t t' := by
  obtain ⟨g, hg, hstep⟩ := h.steps
  intro r hr
  have hs := hstep r hr
  refine ⟨g r, by rw [hg]; exact List.mem_map_of_mem hr, hs.id_eq, hs.child_eq.1,
    hs.child_eq.2.1, hs.completed⟩

/-- The completion of `c` completes the dependencies of no blocked child of `p`. -/
def WakesNobody (t : TaskTable J) (p c : String) : Prop :=
  ∀ b ∈ t.rows, b.status = .blocked → b.parentTaskId = some p →
    ¬ ∀ d ∈ b.dependsOn, d ∈ completedChildIds t p ∨ d = c
deriving Decidable

/-- Two rows of a table with one identifier, before and after a step of the rows. -/
theorem RowSteps.rowStep_of_id
    (h : RowSteps C claims t t')
    (hr : r ∈ t.rows) (hr' : r' ∈ t'.rows) (hid : r'.id = r.id) :
    RowStep C claims r r' := by
  obtain ⟨x, hx, hstep⟩ := h.exists_of_mem hr'
  cases t.key_injective hx hr (hstep.id_eq.symm.trans hid)
  exact hstep

/-- The queue keeps the law while no child that it completes has a sibling to wake. -/
theorem RowSteps.childLaw
    (h : RowSteps C claims t t') (ha : Awake t)
    (hC : ∀ r ∈ t.rows, C r → ∀ p ∈ r.parentTaskId, ∀ c ∈ r.childId, WakesNobody t p c)
    (hone : ∀ r ∈ t.rows, ∀ x ∈ t.rows, C r → C x → r = x) : ChildLaw t t' := by
  refine ⟨?_, ?_, ?_⟩
  · intro b' hb' hs' p hp hdone
    obtain ⟨b, hb, hstep⟩ := h.exists_of_mem hb'
    obtain ⟨hpar, hchild, hdeps, -⟩ := hstep.child_eq
    have hs : b.status = .blocked := hstep.blocked_iff.mp hs'
    rw [hpar] at hp
    rw [hdeps] at hdone
    -- a dependency was completed before the step, or is the child that the step completes
    have hdep : ∀ d ∈ b.dependsOn, d ∈ completedChildIds t p ∨
        ∃ x ∈ t.rows, C x ∧ x.parentTaskId = some p ∧ x.childId = some d := by
      intro d hd
      obtain ⟨x', hx', hxp, hxs, hxc⟩ := mem_completedChildIds.mp (hdone d hd)
      obtain ⟨x, hx, hxstep⟩ := h.exists_of_mem hx'
      have hxp' : x.parentTaskId = some p := hxstep.child_eq.1.symm.trans hxp
      have hxc' : x.childId = some d := hxstep.child_eq.2.1.symm.trans hxc
      rcases hxstep.completed_cases hxs with hold | hCx
      · exact Or.inl (mem_completedChildIds.mpr ⟨x, hx, hxp', hold, hxc'⟩)
      · exact Or.inr ⟨x, hx, hCx, hxp', hxc'⟩
    by_cases hnew : ∃ x ∈ t.rows, C x ∧ x.parentTaskId = some p ∧ ∃ c, x.childId = some c
    · obtain ⟨x, hx, hCx, hxp, c, hxc⟩ := hnew
      refine hC x hx hCx p hxp c hxc b hb hs hp fun d hd => ?_
      rcases hdep d hd with hold | ⟨y, hy, hCy, -, hyc⟩
      · exact Or.inl hold
      · cases hone x hx y hy hCx hCy
        exact Or.inr (Option.some.inj (hyc.symm.trans hxc))
    · refine ha b hb hs p hp fun d hd => ?_
      rcases hdep d hd with hold | ⟨y, hy, hCy, hyp, hyc⟩
      · exact hold
      · exact absurd ⟨y, hy, hCy, hyp, d, hyc⟩ hnew
  · intro r hr r' hr' hid hs hs'
    exact absurd ((h.rowStep_of_id hr hr' hid).blocked_iff.mpr hs) hs'
  · intro r hr r' hr' hid _
    exact (h.rowStep_of_id hr hr' hid).child_eq.2.2.2

/-! ## Insertions -/

variable {x : ScheduledTaskRow J}

theorem completedChildIds_append
    (h : t'.rows = t.rows ++ [x]) (hx : x.status ≠ .completed) {p d : String} :
    d ∈ completedChildIds t' p ↔ d ∈ completedChildIds t p := by
  simp only [mem_completedChildIds, h, List.mem_append, List.mem_singleton]
  constructor
  · rintro ⟨r, hr | rfl, hp, hs, hc⟩
    · exact ⟨r, hr, hp, hs, hc⟩
    · exact absurd hs hx
  · rintro ⟨r, hr, hp, hs, hc⟩; exact ⟨r, Or.inl hr, hp, hs, hc⟩

theorem evolves_append
    (h : t'.rows = t.rows ++ [x]) : Evolves t t' :=
  fun r hr => ⟨r, by rw [h]; exact List.mem_append_left _ hr, rfl, rfl, rfl, id⟩

/-- An inserted row keeps the law when it is not blocked, or blocked for a reason. -/
theorem childLaw_append (ha : Awake t)
    (h : t'.rows = t.rows ++ [x]) (hx : x.status ≠ .completed)
    (hblocked : x.status = .blocked → ∀ p ∈ x.parentTaskId, ¬ DepsDone t p x.dependsOn) :
    ChildLaw t t' := by
  have hsame : ∀ p deps, DepsDone t' p deps ↔ DepsDone t p deps := fun p deps =>
    forall₂_congr fun d _ => completedChildIds_append h hx
  have hold : ∀ r ∈ t.rows, ∀ r' ∈ t'.rows, r'.id = r.id → r' = r := fun r hr r' hr' hid =>
    t'.key_injective hr' (by rw [h]; exact List.mem_append_left _ hr) hid
  refine ⟨?_, ?_, ?_⟩
  · intro r hr hs p hp
    rw [hsame]
    rw [h, List.mem_append, List.mem_singleton] at hr
    rcases hr with hr | rfl
    · exact ha r hr hs p hp
    · exact hblocked hs p hp
  · intro r hr r' hr' hid hs hs'
    rw [hold r hr r' hr' hid] at hs'
    exact absurd hs hs'
  · intro r hr r' hr' hid _
    rw [hold r hr r' hr' hid]

theorem waitsFor_iff {dependsOn done : List String} :
    waitsFor dependsOn done = true ↔ ∃ d ∈ dependsOn, d ∉ done := by
  unfold waitsFor
  cases dependsOn with
  | nil | cons => simp

/-! ## The end of `completeChild` -/

/-- What the last part of `completeChild` does to a row. -/
def finishRow (id : String) (params : CompleteChildParams J) (now : ℤ) (done : List String)
    (r : ScheduledTaskRow J) : ScheduledTaskRow J :=
  if r.id = id then recordCompletion params now r
  else if (r.parentTaskId = some params.parentTaskId ∧ r.status = .blocked) ∧
      ∀ d ∈ r.dependsOn, d ∈ done then unblock r
  else r

theorem mem_readySiblings {t : TaskTable J} {p : String} {done : List String}
    {r : ScheduledTaskRow J} :
    r ∈ readySiblings t p done ↔
      r ∈ t.rows ∧ (r.parentTaskId = some p ∧ r.status = .blocked) ∧ ∀ d ∈ r.dependsOn, d ∈ done := by
  simp only [readySiblings, List.mem_filter, decide_eq_true_eq, List.all_eq_true, and_assoc]

theorem completeChildFinish_rows {row : ScheduledTaskRow J}
    {params : CompleteChildParams J} {now : ℤ} {done : List String}
    (h : completeChildFinish t row params now done = .ok t') :
    t'.rows = t.rows.map (finishRow row.id params now done) := by
  obtain ⟨u, hu, h⟩ := bind_eq_ok.mp h
  have hnd : ((readySiblings u params.parentTaskId done).map (·.id)).Nodup :=
    u.nodup.sublist ((List.filter_sublist.trans List.filter_sublist).map _)
  have hrows := Table.updateEach_rows (f := fun _ => unblock) (fun _ _ => rfl)
    (fun x hx => (mem_readySiblings.mp hx).1) hnd h
  have hready : ∀ r ∈ u.rows, r.id ∈ (readySiblings u params.parentTaskId done).map (·.id) ↔
      (r.parentTaskId = some params.parentTaskId ∧ r.status = .blocked) ∧
        ∀ d ∈ r.dependsOn, d ∈ done := by
    intro r hr
    constructor
    · intro hmem
      obtain ⟨x, hx, e⟩ := List.mem_map.mp hmem
      cases u.key_injective (mem_readySiblings.mp hx).1 hr e
      exact (mem_readySiblings.mp hx).2
    · exact fun hmem => List.mem_map_of_mem (mem_readySiblings.mpr ⟨hr, hmem⟩)
  have hurows := Table.update_eq_ok.mp hu
  rw [hrows, hurows, updateWhere, List.map_map]
  refine List.map_congr_left fun r hr => ?_
  have hmem : (if r.id = row.id then recordCompletion params now r else r) ∈ u.rows := by
    rw [hurows]
    exact mem_updateWhere.mpr ⟨r, hr, rfl⟩
  simp only [Function.comp_apply]
  rw [if_congr (hready _ hmem) rfl rfl, finishRow]
  by_cases hid : r.id = row.id
  · simp [hid, recordCompletion]
  · simp only [hid, if_false]

theorem finishRow_eq {id : String} {params : CompleteChildParams J} {now : ℤ} {done : List String}
    (r : ScheduledTaskRow J) :
    (finishRow id params now done r).id = r.id ∧
      (finishRow id params now done r).parentTaskId = r.parentTaskId ∧
      (finishRow id params now done r).childId = r.childId ∧
      (finishRow id params now done r).dependsOn = r.dependsOn := by
  unfold finishRow
  split_ifs <;> exact ⟨rfl, rfl, rfl, rfl⟩

section Finish

variable {t t' : TaskTable J} {id : String} {params : CompleteChildParams J} {now : ℤ}
  {done : List String}

theorem finish_evolves (h : t'.rows = t.rows.map (finishRow id params now done)) : Evolves t t' := by
  intro r hr
  obtain ⟨hid, hp, hc, -⟩ := @finishRow_eq J id params now done r
  refine ⟨_, by rw [h]; exact List.mem_map_of_mem hr, hid, hp, hc, fun hs => ?_⟩
  unfold finishRow
  split_ifs with h1 h2
  · rfl
  · rw [hs] at h2; cases h2.1.2
  · exact hs

/-- The transaction's child, as a row of the table. -/
def Child (t : TaskTable J) (id p c : String) : Prop :=
  ∃ r ∈ t.rows, r.id = id ∧ r.parentTaskId = some p ∧ r.childId = some c

theorem completedChildIds_finish (h : t'.rows = t.rows.map (finishRow id params now done))
    (hown : Child t id params.parentTaskId params.childId) {q d : String} :
    d ∈ completedChildIds t' q ↔
      d ∈ completedChildIds t q ∨ (q = params.parentTaskId ∧ d = params.childId) := by
  obtain ⟨own, hmem, hid, hp, hc⟩ := hown
  constructor
  · intro hd
    obtain ⟨r', hr', hrp, hrs, hrc⟩ := mem_completedChildIds.mp hd
    rw [h] at hr'
    obtain ⟨r, hr, rfl⟩ := List.mem_map.mp hr'
    obtain ⟨-, hpar, hchild, -⟩ :=
      @finishRow_eq J id params now done r
    rw [hpar] at hrp
    rw [hchild] at hrc
    by_cases hrid : r.id = id
    · cases t.key_injective hr hmem (hrid.trans hid.symm)
      exact Or.inr ⟨Option.some.inj (hrp.symm.trans hp), Option.some.inj (hrc.symm.trans hc)⟩
    · refine Or.inl (mem_completedChildIds.mpr ⟨r, hr, hrp, ?_, hrc⟩)
      unfold finishRow at hrs
      rw [if_neg hrid] at hrs
      split_ifs at hrs
      · cases hrs
      · exact hrs
  · rintro (hold | ⟨rfl, rfl⟩)
    · exact (finish_evolves h).completed hold
    · refine mem_completedChildIds.mpr ⟨finishRow id params now done own, ?_, ?_, ?_, ?_⟩
      · rw [h]; exact List.mem_map_of_mem hmem
      · rw [(finishRow_eq own).2.1]; exact hp
      · unfold finishRow; rw [if_pos hid]; rfl
      · rw [(finishRow_eq own).2.2.1]; exact hc

/-- The child was free, and every sibling that it completes is woken by what was read. -/
theorem finish_childLaw (h : t'.rows = t.rows.map (finishRow id params now done)) (ha : Awake t)
    (hown : Child t id params.parentTaskId params.childId)
    (hdone : ∀ d ∈ done, d ∈ completedChildIds t params.parentTaskId ∨ d = params.childId)
    (hread : ∀ b ∈ t.rows, b.id ≠ id → b.status = .blocked →
      b.parentTaskId = some params.parentTaskId →
      (∀ d ∈ b.dependsOn, d ∈ completedChildIds t params.parentTaskId ∨ d = params.childId) →
      ∀ d ∈ b.dependsOn, d ∈ done)
    (hrow : ∀ r ∈ t.rows, r.id = id → r.status ≠ .blocked ∧
      (r.completionKey = none ∨ r.childResult = some params.result)) :
    ChildLaw t t' := by
  have hof : ∀ r ∈ t.rows, ∀ r' ∈ t'.rows, r'.id = r.id → r' = finishRow id params now done r := by
    intro r hr r' hr' hid
    rw [h] at hr'
    obtain ⟨x, hx, rfl⟩ := List.mem_map.mp hr'
    cases t.key_injective hx hr ((finishRow_eq x).1.symm.trans hid)
    rfl
  refine ⟨?_, ?_, ?_⟩
  · intro b' hb' hs' q hq hall
    rw [h] at hb'
    obtain ⟨b, hb, rfl⟩ := List.mem_map.mp hb'
    rw [(finishRow_eq b).2.1] at hq
    rw [(finishRow_eq b).2.2.2] at hall
    unfold finishRow at hs'
    split_ifs at hs' with hbid hready
    · cases hs'
    · cases hs'
    have hall' : ∀ d ∈ b.dependsOn, d ∈ completedChildIds t q ∨
        (q = params.parentTaskId ∧ d = params.childId) :=
      fun d hd => (completedChildIds_finish h hown).mp (hall d hd)
    by_cases hqp : q = params.parentTaskId
    · subst hqp
      refine hready ⟨⟨hq, hs'⟩, hread b hb hbid hs' hq fun d hd => ?_⟩
      exact (hall' d hd).imp_right And.right
    · exact ha b hb hs' q hq fun d hd => (hall' d hd).resolve_right fun e => hqp e.1
  · intro r hr r' hr' hid hs hs' q hq d hd
    rw [hof r hr r' hr' hid] at hs'
    unfold finishRow at hs'
    split_ifs at hs' with hrid hready
    · exact absurd hs (hrow r hr hrid).1
    · have hqp : q = params.parentTaskId :=
        Option.some.inj ((Option.mem_def.mp hq).symm.trans hready.1.1)
      rw [completedChildIds_finish h hown]
      rcases hdone d (hready.2 d hd) with hold | hown'
      · exact Or.inl (hqp ▸ hold)
      · exact Or.inr ⟨hqp, hown'⟩
    · exact absurd hs hs'
  · intro r hr r' hr' hid hkey
    rw [hof r hr r' hr' hid]
    unfold finishRow
    split_ifs with hrid hready
    · exact ((hrow r hr hrid).2.resolve_left hkey).symm
    · rfl
    · rfl

end Finish

/-! ## Runs -/

section Runs

variable [Truthy J] [DecidableEq J]

/-- Where an open `completeChild` comes from. -/
inductive TxOrigin (s : ChildState J) : CompletingChild J → Prop
  | kept {tx : CompletingChild J} (h : tx ∈ s.completing) : TxOrigin s tx
  | locked {row : ScheduledTaskRow J} {params : CompleteChildParams J} {now : ℤ}
      (h : completeChildLock s.tasks params = some row) : TxOrigin s ⟨row, params, now, none⟩
  | read {tx : CompletingChild J} {done : List String} (h : tx ∈ s.completing)
      (hd : completeChildRead s.tasks tx.row tx.params tx.now = .ok done) :
      TxOrigin s { tx with done := some done }

/-- What one step of the child scheduler does to the rows. -/
inductive ChildStep (s s' : ChildState J) (l : ChildLabel J) : Prop
  | idle (hr : s'.tasks = s.tasks)
  | queue (ql : QueueLabel J) (hl : l = .queue ql) (hq : QueueStep s.queue s'.queue ql)
  | insert (i : ℕ) (uuid : String) (tx : SchedulingChild J) (hl : l = .scheduleInsert i uuid)
      (hi : s.scheduling[i]? = some tx)
      (hr : s'.tasks.rows = s.tasks.rows ++ [newChild tx.params tx.now tx.done uuid])
  | finish (i : ℕ) (tx : CompletingChild J) (done : List String) (hl : l = .completeFinish i)
      (hi : s.completing[i]? = some tx) (hd : tx.done = some done)
      (hr : s'.tasks.rows = s.tasks.rows.map (finishRow tx.row.id tx.params tx.now done))

variable {l : ChildLabel J}

theorem childNext_cases {s s' : ChildState J}
    (h : (childScheduler J).next s l = some s') :
    ChildStep s s' l ∧ ∀ tx ∈ s'.completing, TxOrigin s tx := by
  have herase : ∀ i, ∀ tx ∈ s.completing.eraseIdx i, TxOrigin s tx := fun i tx htx =>
    .kept (List.mem_of_mem_eraseIdx htx)
  cases l with
  | queue ql =>
    simp only [childScheduler] at h
    cases ha : attempt s.queue ql with
    | error =>
      rw [ha] at h
      cases h
      exact ⟨.idle (aborted_tasks s.queue ql), fun tx htx => .kept htx⟩
    | ok =>
      simp only [ha] at h
      split_ifs at h
      cases h
      exact ⟨.queue ql rfl (attempt_cases ha), fun tx htx => .kept htx⟩
  | scheduleRead =>
    simp only [childScheduler] at h
    split at h <;> cases h <;> exact ⟨.idle rfl, fun tx htx => .kept htx⟩
  | scheduleInsert i uuid =>
    obtain ⟨tx, hi, h⟩ := Option.bind_eq_some_iff.mp h
    dsimp only at h
    cases hins : s.tasks.insert (newChild tx.params tx.now tx.done uuid) with
    | error =>
      rw [hins] at h
      cases h
      exact ⟨.idle rfl, fun tx htx => .kept htx⟩
    | ok =>
      rw [hins] at h
      cases h
      exact ⟨.insert i uuid tx rfl hi (Table.insert_eq_ok.mp hins), fun tx htx => .kept htx⟩
  | completeLock params =>
    simp only [childScheduler] at h
    cases hlock : completeChildLock s.tasks params with
    | none =>
      rw [hlock] at h
      cases h
      exact ⟨.idle rfl, fun tx htx => .kept htx⟩
    | some =>
      simp only [hlock] at h
      split_ifs at h
      cases h
      refine ⟨.idle rfl, fun tx htx => ?_⟩
      rcases List.mem_append.mp htx with htx | htx
      · exact .kept htx
      · rw [List.mem_singleton] at htx
        subst htx
        exact .locked hlock
  | completeRead i =>
    obtain ⟨tx, hi, h⟩ := Option.bind_eq_some_iff.mp h
    split_ifs at h
    cases hread : completeChildRead s.tasks tx.row tx.params tx.now with
    | error =>
      rw [hread] at h
      cases h
      exact ⟨.idle rfl, herase i⟩
    | ok =>
      rw [hread] at h
      cases h
      refine ⟨.idle rfl, fun tx' htx' => ?_⟩
      rcases List.mem_or_eq_of_mem_set htx' with htx' | rfl
      · exact .kept htx'
      · exact .read (List.mem_of_getElem? hi) hread
  | completeFinish i =>
    obtain ⟨tx, hi, h⟩ := Option.bind_eq_some_iff.mp h
    obtain ⟨done, hd, h⟩ := Option.bind_eq_some_iff.mp h
    dsimp only at h
    split_ifs at h
    cases hfin : completeChildFinish s.tasks tx.row tx.params tx.now done with
    | error =>
      rw [hfin] at h
      cases h
      exact ⟨.idle rfl, herase i⟩
    | ok =>
      rw [hfin] at h
      cases h
      exact ⟨.finish i tx done rfl hi hd (completeChildFinish_rows hfin), herase i⟩
  | abort i =>
    cases h
    exact ⟨.idle rfl, herase i⟩

omit [Truthy J] [DecidableEq J] in
theorem ChildStep.evolves {s s' : ChildState J} (h : ChildStep s s' l) :
    Evolves s.tasks s'.tasks := by
  cases h with
  | idle hr => rw [hr]; exact fun r hr => ⟨r, hr, rfl, rfl, rfl, id⟩
  | queue _ _ hq =>
    rcases hq with ⟨claims, hh, hr, -⟩ | ⟨i, params, now, uuid, hl', hi, hh, hr⟩
    · exact hr.evolves
    · exact evolves_append hr
  | insert _ _ _ _ _ hr => exact evolves_append hr
  | finish _ _ _ _ _ _ hr => exact finish_evolves hr

/-- An open `completeChild` has read nothing but completed children and its own. -/
def TxInv (t : TaskTable J) (tx : CompletingChild J) : Prop :=
  Child t tx.row.id tx.params.parentTaskId tx.params.childId ∧
    ∀ done ∈ tx.done, ∀ d ∈ done,
      d ∈ completedChildIds t tx.params.parentTaskId ∨ d = tx.params.childId

omit [Truthy J] [DecidableEq J] in
theorem TxInv.evolves {t t' : TaskTable J} {tx : CompletingChild J} (h : TxInv t tx)
    (he : Evolves t t') : TxInv t' tx := by
  obtain ⟨⟨r, hr, hid, hp, hc⟩, hdone⟩ := h
  obtain ⟨r', hr', hid', hp', hc', -⟩ := he r hr
  refine ⟨⟨r', hr', hid'.trans hid, hp'.trans hp, hc'.trans hc⟩, fun done hd d hmem => ?_⟩
  exact (hdone done hd d hmem).imp_left he.completed

omit [Truthy J] [DecidableEq J] in
theorem TxOrigin.txInv {s : ChildState J} {tx : CompletingChild J} (h : TxOrigin s tx)
    (hall : ∀ tx ∈ s.completing, TxInv s.tasks tx) : TxInv s.tasks tx := by
  cases h with
  | kept h => exact hall _ h
  | @locked row params now h =>
    have hfind : findChild s.tasks params.parentTaskId params.childId = some row := by
      unfold completeChildLock at h
      exact (Option.filter_eq_some_iff.mp h).1
    have hmem := List.mem_of_find?_eq_some hfind
    have hcols := List.find?_some hfind
    simp only [decide_eq_true_eq] at hcols
    exact ⟨⟨row, hmem, rfl, hcols.1, hcols.2⟩, fun done hd => by cases hd⟩
  | @read tx done h hd =>
    obtain ⟨hchild, -⟩ := hall _ h
    refine ⟨hchild, fun done' hd' d hmem => ?_⟩
    cases hd'
    obtain ⟨u, hu, hdone⟩ := bind_eq_ok.mp hd
    cases hdone
    obtain ⟨r', hr', hp, hs, hc⟩ := mem_completedChildIds.mp hmem
    rw [Table.update_eq_ok.mp hu] at hr'
    obtain ⟨r, hr, rfl⟩ := mem_updateWhere.mp hr'
    by_cases hid : r.id = tx.row.id
    · obtain ⟨own, hown, hoid, -, hoc⟩ := hchild
      cases s.tasks.key_injective hr hown (hid.trans hoid.symm)
      rw [if_pos hid] at hc
      exact Or.inr (Option.some.inj (hc.symm.trans hoc))
    · rw [if_neg hid] at hp hs hc
      exact Or.inl (mem_completedChildIds.mpr ⟨r, hr, hp, hs, hc⟩)

/-- All that the completion unblocks was read, and the child has no other result. -/
def ReadsCurrent (t : TaskTable J) (tx : CompletingChild J) (done : List String) : Prop :=
  (∀ b ∈ t.rows, b.id ≠ tx.row.id → b.status = .blocked →
    b.parentTaskId = some tx.params.parentTaskId →
    (∀ d ∈ b.dependsOn, d ∈ completedChildIds t tx.params.parentTaskId ∨ d = tx.params.childId) →
    ∀ d ∈ b.dependsOn, d ∈ done) ∧
  ∀ r ∈ t.rows, r.id = tx.row.id →
    r.status ≠ .blocked ∧ (r.completionKey = none ∨ r.childResult = some tx.params.result)

instance (t : TaskTable J) (tx : CompletingChild J) (done : List String) :
    Decidable (ReadsCurrent t tx done) :=
  inferInstanceAs (Decidable ((∀ b ∈ t.rows, _ → _ → _ → _ → ∀ d ∈ b.dependsOn, d ∈ done) ∧
    ∀ r ∈ t.rows, _ → _))

/-- No completion falls between read and write, the child was free, and what `completeTask`
completes has nobody to wake. -/
def Undisturbed (s : ChildState J) : ChildLabel J → Prop
  | .queue (.complete params _) =>
    ∀ r ∈ s.tasks.rows, SucceededBy params r →
      ∀ p ∈ r.parentTaskId, ∀ c ∈ r.childId, WakesNobody s.tasks p c
  | .scheduleInsert i _ =>
    ∀ tx ∈ s.scheduling[i]?, DepsDone s.tasks tx.params.parentTaskId tx.params.dependsOn →
      ∀ d ∈ tx.params.dependsOn, d ∈ tx.done
  | .completeFinish i => ∀ tx ∈ s.completing[i]?, ∀ done ∈ tx.done, ReadsCurrent s.tasks tx done
  | _ => True

instance (s : ChildState J) (l : ChildLabel J) : Decidable (Undisturbed s l) := by
  unfold Undisturbed
  split <;> infer_instance

/-- The step keeps the law. -/
def Lawful (s : ChildState J) (l : ChildLabel J) : Prop :=
  ∀ s', (childScheduler J).next s l = some s' → ChildLaw s.tasks s'.tasks

/-- What holds in every state of an undisturbed run. -/
structure ChildInv (s : ChildState J) : Prop where
  awake : Awake s.tasks
  tx : ∀ tx ∈ s.completing, TxInv s.tasks tx

omit [Truthy J] [DecidableEq J] in
theorem childLaw_refl {t : TaskTable J} (ha : Awake t) : ChildLaw t t := by
  have hsame : ∀ r ∈ t.rows, ∀ r' ∈ t.rows, r'.id = r.id → r' = r := fun r hr r' hr' hid =>
    t.key_injective hr' hr hid
  refine ⟨ha, fun r hr r' hr' hid hs hs' => ?_, fun r hr r' hr' hid _ => ?_⟩
  · rw [hsame r hr r' hr' hid] at hs'
    exact absurd hs hs'
  · rw [hsame r hr r' hr' hid]

theorem lawful_of_undisturbed {s : ChildState J} (hI : ChildInv s)
    (hG : Undisturbed s l) : Lawful s l := by
  intro s' h
  obtain ⟨hstep, -⟩ := childNext_cases h
  rcases hstep with hr | ⟨ql, rfl, hq⟩ | ⟨i, uuid, tx, rfl, hi, hr⟩ | ⟨i, tx, done, rfl, hi, hd, hr⟩
  · rw [hr]; exact childLaw_refl hI.awake
  · rcases hq with ⟨claims, hh, hr, -⟩ | ⟨i, params, now, uuid, rfl, hi, hh, hr⟩
    · refine hr.childLaw hI.awake ?_ ?_
      · intro r hmem hC
        cases ql with
        | complete => exact hG r hmem hC
        | _ => exact hC.elim
      · intro r hmem x hx hCr hCx
        cases ql with
        | complete => exact s.tasks.key_injective hmem hx (hCr.1.trans hCx.1.symm)
        | _ => exact hCr.elim
    · exact childLaw_append hI.awake hr (by simp [newTask]) fun hs => by cases hs
  · refine childLaw_append hI.awake hr ?_ ?_
    · simp only [newChild]
      split_ifs <;> simp
    · intro hs p hp hall
      cases hp
      have hwait : waitsFor tx.params.dependsOn tx.done = true := by
        by_contra hno
        simp only [newChild, if_neg hno] at hs
        cases hs
      obtain ⟨d, hd, hnot⟩ := waitsFor_iff.mp hwait
      exact hnot (hG tx hi hall d hd)
  · obtain ⟨hchild, hdone⟩ := hI.tx tx (List.mem_of_getElem? hi)
    obtain ⟨hread, hrow⟩ := hG tx hi done hd
    exact finish_childLaw hr hI.awake hchild (hdone done hd) hread hrow

theorem childInv_next {s s' : ChildState J} (hI : ChildInv s)
    (hG : Undisturbed s l) (h : (childScheduler J).next s l = some s') : ChildInv s' := by
  obtain ⟨hstep, horigin⟩ := childNext_cases h
  refine ⟨(lawful_of_undisturbed hI hG s' h).awake, fun tx htx => ?_⟩
  exact ((horigin tx htx).txInv hI.tx).evolves hstep.evolves

/-- No child is left blocked or leaves too early, and recorded results stay. -/
theorem along_childLaw {ls : List (ChildLabel J)} (hG : (childScheduler J).Along Undisturbed ∅ ls) :
    (childScheduler J).Along Lawful ∅ ls := by
  refine (childScheduler J).along_of_inv (fun s l s' hI hG h => childInv_next hI hG h)
    (fun s l hI hG => lawful_of_undisturbed hI hG) ⟨?_, ?_⟩ hG
  · exact fun r hr => absurd hr List.not_mem_nil
  · exact fun tx htx => absurd htx List.not_mem_nil

end Runs

/-! ## Lost wake-ups -/

/-- The two halves of scheduling the child `c` of `p`. -/
def scheduling (c : String) (dependsOn : List String) : List (ChildLabel Bool) :=
  [ .scheduleRead
      { parentTaskId := "p"
        childId := c
        targetSpecId := "spec"
        inputPayload := ∅
        dependsOn := dependsOn } 0,
    .scheduleInsert 0 c ]

/-- A message that completes the child `c` of `p`. -/
def completion (c key : String) (result : Dict String Bool) : CompleteChildParams Bool :=
  { parentTaskId := "p", childId := c, result := result, idempotencyKey := key }

/-- `a` is completed before `b`, which waits for it. -/
def orderlyRun : List (ChildLabel Bool) :=
  scheduling "a" [] ++ scheduling "b" ["a"] ++
    [ChildLabel.completeLock (completion "a" "ka" ∅) 1, .completeRead 0, .completeFinish 0]

theorem along_childLaw_orderlyRun : (childScheduler Bool).Along Lawful ∅ orderlyRun :=
  along_childLaw (by decide)

/-- Two completions read before either commits. -/
def racingRun : List (ChildLabel Bool) :=
  scheduling "a" [] ++ scheduling "b" [] ++ scheduling "c" ["a", "b"] ++
    [ .completeLock (completion "a" "ka" ∅) 1, .completeLock (completion "b" "kb" ∅) 1,
      .completeRead 0, .completeRead 1, .completeFinish 0, .completeFinish 0 ]

/-- The worker that polled `a` completes it with `completeTask`. -/
def ordinaryRun : List (ChildLabel Bool) :=
  scheduling "a" [] ++ scheduling "c" ["a"] ++
    [ .queue (.poll { workerId := "w" } 1 (fun _ => false) id),
      .queue (.complete ⟨"child_a", "w", "claim_child_a", true, none⟩ 2) ]

/-- A second completion message for `a`, under another key. -/
def overwritingRun : List (ChildLabel Bool) :=
  [.completeLock (completion "a" "k2" (Dict.empty.set "ok" true)) 2, .completeRead 0,
    .completeFinish 0]

/-- A child stays blocked on both paths, and a recorded result is overwritten. -/
theorem not_childLaw_runs :
    (∃ s, (childScheduler Bool).run ∅ racingRun = some s ∧ ¬ Awake s.tasks) ∧
    (∃ s, (childScheduler Bool).run ∅ ordinaryRun = some s ∧ ¬ Awake s.tasks) ∧
    ∃ s s', (childScheduler Bool).run ∅ orderlyRun = some s ∧
      (childScheduler Bool).run s overwritingRun = some s' ∧
      (s.tasks.rows.map (·.completionKey)).head? = some (some "ka") ∧
      s.tasks.rows.map (·.childResult) ≠ s'.tasks.rows.map (·.childResult) := by
  refine ⟨⟨((childScheduler Bool).run ∅ racingRun).getD ∅, rfl, by decide⟩,
    ⟨((childScheduler Bool).run ∅ ordinaryRun).getD ∅, rfl, by decide⟩,
    ⟨((childScheduler Bool).run ∅ orderlyRun).getD ∅,
      (((childScheduler Bool).run ∅ (orderlyRun ++ overwritingRun)).getD ∅), rfl, rfl, by decide,
      by decide⟩⟩

end JavisSaas.Cosa.ControlPlane
