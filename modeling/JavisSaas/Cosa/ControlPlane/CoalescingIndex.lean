import JavisSaas.Cosa.ControlPlane.TaskQueue

/-!
# The unique index on coalescing keys

`idx_control_plane_scheduled_tasks_coalescing_key_pending` holds of the scheduled rows only, so
`scheduleTask` gives the key of a processing task away. When that task then fails, or its worker
dies, the queue cannot take it back.

* `LiveUnique`: no two rows that are scheduled, or can be again, have the same key.
* `along_keyFree_iff`: the index refuses nothing in a run, nor a completion or a reclaim after it,
  exactly when the run inserts no key that is live.
-/

namespace JavisSaas.Cosa.ControlPlane

open JavisSaas.Lib

variable {J : Type}

/-- The key of a row that is scheduled, or is processing with an attempt left. -/
def liveKey (r : ScheduledTaskRow J) : Option String :=
  if r.status = .scheduled ∨ (r.status = .processing ∧ r.attemptCount + 1 < r.maxAttempts) then
    r.coalescingKey
  else none

/-- The index, widened to the rows that can become scheduled again. -/
def liveIndex : (i : TaskIndex) → ScheduledTaskRow J → Option ((taskSchema J).Val i)
  | .coalescingKeyPending => liveKey
  | .parentChild => edge

theorem wider_liveIndex : Table.Wider (σ := taskSchema J) liveIndex := by
  intro i r
  cases i with
  | coalescingKeyPending =>
    by_cases hs : r.status = .scheduled
    · right; simp [liveIndex, pendingKey, liveKey, hs]
    · left; simp [pendingKey, hs]
  | parentChild => right; rfl

/-- No two live rows have the same key. -/
def LiveUnique (t : TaskTable J) : Prop := UniqueOn liveKey t.rows

variable {t : TaskTable J}

theorem LiveUnique.index (h : LiveUnique t) (i : TaskIndex) :
    UniqueOn (liveIndex i) t.rows := by
  cases i with
  | coalescingKeyPending => exact h
  | parentChild => exact t.unique .parentChild (by simp)

theorem RowStep.liveKey_eq {C : ScheduledTaskRow J → Prop}
    {claims : List (String × Option String)} {r r' : ScheduledTaskRow J} (h : RowStep C claims r r') :
    liveKey r' = none ∨ liveKey r' = liveKey r := by
  cases h with
  | keep => right; rfl
  | claim hs =>
    by_cases hmax : r.attemptCount + 1 < r.maxAttempts
    · right; simp [liveKey, ControlPlane.claim, hs, hmax]
    · left; simp [liveKey, ControlPlane.claim, hmax]
  | succeed => left; simp [liveKey, ControlPlane.succeed]
  | deadLetter => left; simp [liveKey, ControlPlane.deadLetter]
  | reschedule hs hmax =>
    right; simp [liveKey, ControlPlane.reschedule, hs, hmax]

theorem RowSteps.liveUnique {C : ScheduledTaskRow J → Prop}
    {claims : List (String × Option String)} {t t' : TaskTable J} (h : RowSteps C claims t t') (hu : LiveUnique t) : LiveUnique t' := by
  obtain ⟨g, hg, hstep⟩ := h.steps
  unfold LiveUnique
  rw [hg]
  exact UniqueOn.map_of_sub hu fun r hr => (hstep r hr).liveKey_eq

/-! ## Writes that the index accepts -/

def isKeyIndex : DbError J → Bool
  | .index .coalescingKeyPending => true
  | _ => false

/-- The transaction was aborted by the index on pending coalescing keys. -/
def refusedByKeyIndex {A : Type} : Except (DbError J) A → Bool
  | .error e => isKeyIndex e
  | .ok _ => false

theorem refusedByKeyIndex_bind {A B : Type} {x : Except (DbError J) A}
    {f : A → Except (DbError J) B} (hx : refusedByKeyIndex x = false)
    (hf : ∀ a, refusedByKeyIndex (f a) = false) : refusedByKeyIndex (x >>= f) = false := by
  cases x with
  | error => exact hx
  | ok a => exact hf a

theorem update_accepted (hu : LiveUnique t) {k : String}
    {f : ScheduledTaskRow J → ScheduledTaskRow J} (hid : ∀ r, (f r).id = r.id)
    (hedge : ∀ r, edge (f r) = edge r)
    (hlive : ∀ r ∈ t.rows, r.id = k → liveKey (f r) = none ∨ liveKey (f r) = liveKey r) :
    refusedByKeyIndex (t.update k f) = false := by
  obtain ⟨t', ht', -⟩ := Table.update_ok wider_liveIndex hu.index hid (k := k) (fun r hr hk i => by
    cases i with
    | coalescingKeyPending => exact hlive r hr hk
    | parentChild => exact Or.inr (hedge r))
  rw [ht']; rfl

theorem updateEach_accepted (hu : LiveUnique t)
    {sel : List (ScheduledTaskRow J)}
    {f : ScheduledTaskRow J → ScheduledTaskRow J → ScheduledTaskRow J}
    (hid : ∀ x r, (f x r).id = r.id) (hedge : ∀ x, edge (f x x) = edge x)
    (hlive : ∀ x ∈ sel, liveKey (f x x) = none ∨ liveKey (f x x) = liveKey x)
    (hsel : ∀ x ∈ sel, x ∈ t.rows) (hnd : (sel.map (·.id)).Nodup) :
    refusedByKeyIndex (t.updateEach sel f) = false := by
  obtain ⟨t', ht', -⟩ := Table.updateEach_ok wider_liveIndex hid (fun x hx i => by
    cases i with
    | coalescingKeyPending => exact hlive x hx
    | parentChild => exact Or.inr (hedge x)) hu.index hsel hnd
  rw [ht']; rfl

theorem scheduleLookup_accepted [Truthy J] (hu : LiveUnique t)
    (params : ScheduleParams J) : refusedByKeyIndex (scheduleLookup t params) = false := by
  have hc : ∀ existing, refusedByKeyIndex (some <$> coalesce t existing params) = false := by
    intro existing
    have hupd : refusedByKeyIndex (t.update existing.id fun r => { r with
        inputPayload := mergedPayload existing.inputPayload params.inputPayload }) = false :=
      update_accepted hu (fun _ => rfl) (fun _ => rfl) (fun _ _ _ => Or.inr rfl)
    have hco : refusedByKeyIndex (coalesce t existing params) = false :=
      refusedByKeyIndex_bind hupd fun _ => rfl
    cases hx : coalesce t existing params with
    | error => rw [hx] at hco; exact hco
    | ok => rfl
  unfold scheduleLookup
  split
  · rfl
  · split_ifs
    · rfl
    · split
      · rfl
      · split_ifs
        · exact hc _
        · rfl
    · split
      · rfl
      · exact hc _

theorem pollDueTasks_accepted (hu : LiveUnique t) (params : ClaimParams) (now : ℤ)
    (locked : String → Bool) (uuid : String → String) :
    refusedByKeyIndex (pollDueTasks t params now locked uuid) = false := by
  refine refusedByKeyIndex_bind (updateEach_accepted hu (claim_id params now uuid) (fun _ => rfl)
    (fun x hx => ?_) (fun x hx => (mem_dueRows hx).1) (nodup_dueRows ..)) (fun _ => rfl)
  have hstep : RowStep NoSuccess [(x.id, some ("claim_" ++ uuid x.id))] x
      (claim params now ("claim_" ++ uuid x.id) x) :=
    RowStep.claim (mem_dueRows hx).2.1 (List.mem_singleton_self _) (by simp)
  exact hstep.liveKey_eq

theorem heartbeatTask_accepted (hu : LiveUnique t) (params : HeartbeatTaskParams)
    (now : ℤ) : refusedByKeyIndex (heartbeatTask t params now) = false := by
  unfold heartbeatTask
  dsimp only
  split
  · rfl
  · split_ifs
    · exact refusedByKeyIndex_bind
        (update_accepted hu (fun _ => rfl) (fun _ => rfl) (fun _ _ _ => Or.inr rfl)) fun _ => rfl
    · rfl

theorem completeTask_accepted (hu : LiveUnique t) (params : CompleteTaskParams)
    (now : ℤ) : refusedByKeyIndex (completeTask t params now) = false := by
  unfold completeTask
  dsimp only
  split
  · rfl
  · rename_i row hrow
    obtain ⟨hmem, hid⟩ := Table.get?_eq_some.mp hrow
    have hself : ∀ r ∈ t.rows, r.id = params.taskId → r = row := fun r hr e =>
      t.key_injective hr hmem (e.trans hid.symm)
    by_cases hheld : HeldBy row params.workerId params.claimToken
    swap
    · rw [if_pos hheld]; rfl
    rw [if_neg (not_not.mpr hheld)]
    split_ifs with hsucc hmax
    all_goals
      refine refusedByKeyIndex_bind (update_accepted hu (fun _ => rfl) (fun _ => rfl) ?_) fun _ => rfl
      intro r hr e
      cases hself r hr e
    · exact (RowStep.succeed (C := fun _ => True) hheld.1 trivial rfl).liveKey_eq
    · exact (RowStep.deadLetter (C := NoSuccess) hheld.1 hmax rfl).liveKey_eq
    · exact (RowStep.reschedule (C := NoSuccess) hheld.1 (by omega) rfl).liveKey_eq

theorem reclaimStuckTasks_accepted (hu : LiveUnique t) (limit : ℕ) (now : ℤ)
    (locked : String → Bool) : refusedByKeyIndex (reclaimStuckTasks t limit now locked) = false := by
  refine refusedByKeyIndex_bind (updateEach_accepted hu (reclaim_id now) (fun x => ?_)
    (fun x hx => (reclaim_rowStep (mem_stuckRows hx).2.1).liveKey_eq)
    (fun x hx => (mem_stuckRows hx).1) (nodup_stuckRows ..)) (fun _ => rfl)
  unfold reclaim
  split_ifs <;> rfl

/-! ## Runs -/

section Runs

variable [Truthy J]

/-- The index lets the step's transaction commit. -/
def Accepted (s : QueueState J) (l : QueueLabel J) : Prop := refusedByKeyIndex (attempt s l) = false
deriving Decidable

/-- The step inserts no key of a live row; an insertion whose identifier is taken inserts
    nothing. -/
def KeyFree (s : QueueState J) : QueueLabel J → Prop
  | .scheduleInsert i uuid =>
    ∀ p ∈ s.inserting[i]?, (∀ r ∈ s.tasks.rows, r.id ≠ "task_" ++ uuid) →
      p.1.coalescingKey = none ∨ ∀ r ∈ s.tasks.rows, liveKey r ≠ p.1.coalescingKey
  | _ => True

variable {s : QueueState J} {l : QueueLabel J}

theorem accepted_of_liveUnique (hu : LiveUnique s.tasks) (hk : KeyFree s l) : Accepted s l := by
  cases l with
  | scheduleLookup params =>
    exact refusedByKeyIndex_bind (scheduleLookup_accepted hu params) fun o => by cases o <;> rfl
  | scheduleInsert _ uuid =>
    unfold Accepted attempt
    dsimp only
    split
    · rfl
    · rename_i params now hi
      refine refusedByKeyIndex_bind ?_ fun _ => rfl
      by_cases hid : ∃ r ∈ s.tasks.rows, r.id = "task_" ++ uuid
      · obtain ⟨r, hr, e⟩ := hid
        rw [Table.insert_of_key_mem ⟨r, hr, e⟩]; rfl
      push Not at hid
      cases hins : s.tasks.insert (newTask params now uuid) with
      | ok => rfl
      | error e =>
        match e, hins with
        | .key, _ => rfl
        | .index .parentChild, _ => rfl
        | .index .coalescingKeyPending, hins =>
          obtain ⟨key, hkey, r, hr, hrk⟩ := Table.exists_of_insert_error (by simp) hins
          have hparams : params.coalescingKey = some key := hkey
          have hlive : liveKey r = some key := by
            rcases wider_liveIndex .coalescingKeyPending r with h | h
            · rw [h] at hrk; cases hrk
            · exact h.symm.trans hrk
          rcases hk (params, now) hi hid with hnone | hfree
          · rw [hnone] at hparams; cases hparams
          · exact absurd (hlive.trans hparams.symm) (hfree r hr)
  | poll =>
    exact refusedByKeyIndex_bind (pollDueTasks_accepted hu ..) fun _ => rfl
  | heartbeat => exact refusedByKeyIndex_bind (heartbeatTask_accepted hu ..) fun _ => rfl
  | complete => exact refusedByKeyIndex_bind (completeTask_accepted hu ..) fun _ => rfl
  | reclaim =>
    exact refusedByKeyIndex_bind (reclaimStuckTasks_accepted hu ..) fun _ => rfl

theorem liveUnique_next {s' : QueueState J} (hu : LiveUnique s.tasks) (hk : KeyFree s l)
    (h : (taskQueue J).next s l = some s') : LiveUnique s'.tasks := by
  rcases next_cases h with ⟨claims, hh, hr, -⟩ | ⟨i, params, now, uuid, rfl, hi, hh, hr⟩
  · exact hr.liveUnique hu
  · unfold LiveUnique
    have hid : ∀ r ∈ s.tasks.rows, r.id ≠ "task_" ++ uuid := fun r hrow =>
      Table.key_ne_of_rows_append hr hrow
    rw [hr, uniqueOn_append_singleton]
    refine ⟨hu, fun key hkey r hrow => ?_⟩
    have hparams : params.coalescingKey = some key := hkey
    rcases hk (params, now) hi hid with hnone | hfree
    · rw [hnone] at hparams; cases hparams
    · exact hparams ▸ hfree r hrow

omit [Truthy J] in
theorem liveUnique_empty : LiveUnique (∅ : QueueState J).tasks := uniqueOn_nil _

/-! ## The insertions that lead to a refusal -/

/-- Every processing row is held under a claim. -/
def Claimed (t : TaskTable J) : Prop :=
  ∀ r ∈ t.rows, r.status = .processing → ∃ workerId claimToken, HeldBy r workerId claimToken

theorem claimed_next {s' : QueueState J} (hc : Claimed s.tasks)
    (h : (taskQueue J).next s l = some s') : Claimed s'.tasks := by
  intro r' hr' hs'
  rcases next_cases h with ⟨claims, hh, hr, -⟩ | ⟨i, params, now, uuid, rfl, hi, hh, hr⟩
  · obtain ⟨r, hr, hstep⟩ := hr.exists_of_mem hr'
    cases hstep with
    | keep => exact hc r hr hs'
    | claim => exact ⟨_, _, rfl, rfl, rfl⟩
    | succeed | deadLetter | reschedule => cases hs'
  · rw [hr, List.mem_append, List.mem_singleton] at hr'
    rcases hr' with hr' | rfl
    · exact hc r' hr' hs'
    · cases hs'

/-- The steps that return a processing task to scheduled. -/
def Returns : QueueLabel J → Prop
  | .complete _ _ => True
  | .reclaim _ _ _ => True
  | _ => False

/-- The step is accepted, and after it every completion and every reclaim would be. -/
def SafeStep (s : QueueState J) (l : QueueLabel J) : Prop :=
  Accepted s l ∧ ∀ s', attempt s l = .ok s' → ∀ l', Returns l' → Accepted s' l'

/-- A failed completion is refused when its key is that of another scheduled row. -/
theorem not_accepted_complete {r x : ScheduledTaskRow J} (hr : r ∈ s.tasks.rows)
    (hx : x ∈ s.tasks.rows) (hxs : x.status = .scheduled) (hkey : x.coalescingKey = r.coalescingKey)
    (hsome : r.coalescingKey ≠ none) {w tok : String} (hheld : HeldBy r w tok)
    (hmax : r.attemptCount + 1 < r.maxAttempts) (now : ℤ) :
    ¬ Accepted s (.complete ⟨r.id, w, tok, false, none⟩ now) := by
  obtain ⟨key, hrkey⟩ := Option.ne_none_iff_exists'.mp hsome
  have hget : s.tasks.get? r.id = some r := Table.get?_eq_some.mpr ⟨hr, rfl⟩
  -- the row that the completion would write
  let r' := reschedule (r.attemptCount + 1) none (nextRetryAt now (r.attemptCount + 1)) r
  have hne : x.id ≠ r.id := by
    intro e
    cases s.tasks.key_injective hx hr e
    rw [hheld.1] at hxs
    cases hxs
  have hmem_r' : r' ∈ updateWhere (fun a => a.id = r.id)
      (reschedule (r.attemptCount + 1) none (nextRetryAt now (r.attemptCount + 1))) s.tasks.rows :=
    mem_updateWhere.mpr ⟨r, hr, by simp [r']⟩
  have hmem_x : x ∈ updateWhere (fun a => a.id = r.id)
      (reschedule (r.attemptCount + 1) none (nextRetryAt now (r.attemptCount + 1))) s.tasks.rows :=
    mem_updateWhere.mpr ⟨x, hx, by simp [hne]⟩
  have hnot : ¬ UniqueOn pendingKey (updateWhere (fun a => a.id = r.id)
      (reschedule (r.attemptCount + 1) none (nextRetryAt now (r.attemptCount + 1)))
        s.tasks.rows) := by
    intro hu
    have hkx : pendingKey x = some key := by simp [pendingKey, hxs, hkey, hrkey]
    have hkr : pendingKey r' = some key := by simp [pendingKey, r', reschedule, hrkey]
    have := hu.eq_of_mem hmem_x hmem_r' hkx hkr
    exact hne (congrArg (·.id) this)
  have hwrite : s.tasks.update r.id
      (reschedule (r.attemptCount + 1) none (nextRetryAt now (r.attemptCount + 1))) =
      .error (.index .coalescingKeyPending) := by
    refine Table.write_eq_error rfl ?_ hnot
    rw [map_updateWhere]
    · exact s.tasks.nodup
    · intro a _; rfl
  have hcomplete : completeTask s.tasks ⟨r.id, w, tok, false, none⟩ now =
      .error (.index .coalescingKeyPending) := by
    unfold completeTask
    simp only [hget, not_not.mpr hheld, if_false, Bool.false_eq_true, if_neg (not_le.mpr hmax)]
    rw [hwrite]
    rfl
  unfold Accepted attempt
  simp only [hcomplete]
  exact fun h => by cases h

/-- An insertion that commits and leads to no refusal inserts no live key. -/
theorem keyFree_of_safe {i : ℕ} {uuid : String} (hc : Claimed s.tasks)
    (hacc : Accepted s (.scheduleInsert i uuid))
    (hsafe : ∀ s', attempt s (.scheduleInsert i uuid) = .ok s' → ∀ l', Returns l' → Accepted s' l') :
    KeyFree s (.scheduleInsert i uuid) := by
  rintro ⟨params, now⟩ hi hid
  by_contra hno
  push Not at hno
  obtain ⟨hsome, r, hr, hrk⟩ := hno
  obtain ⟨key, hkey⟩ := Option.ne_none_iff_exists'.mp hsome
  have hattempt : attempt s (.scheduleInsert i uuid) =
      (s.tasks.insert (newTask params now uuid) >>= fun t =>
        pure { s with tasks := t, inserting := s.inserting.eraseIdx i }) := by
    simp only [attempt]
    rw [Option.mem_def.mp hi]
  cases hins : s.tasks.insert (newTask params now uuid) with
  | error e =>
    cases e with
    | key => exact Table.insert_ne_error_key hid hins
    | index i =>
      cases i with
      | parentChild =>
        obtain ⟨v, hv, -⟩ := Table.exists_of_insert_error (by simp) hins
        cases hv
      | coalescingKeyPending =>
        unfold Accepted at hacc
        rw [hattempt, hins] at hacc
        cases hacc
  | ok t =>
    have hrows : t.rows = s.tasks.rows ++ [newTask params now uuid] := Table.insert_eq_ok.mp hins
    have hmem_r : r ∈ t.rows := by rw [hrows]; exact List.mem_append_left _ hr
    have hmem_new : newTask params now uuid ∈ t.rows := by rw [hrows]; simp
    have hrkey : r.coalescingKey = some key := by
      unfold liveKey at hrk
      split_ifs at hrk
      · exact hrk.trans hkey
      · exact absurd hrk.symm hsome
    have hlive : r.status = .scheduled ∨
        (r.status = .processing ∧ r.attemptCount + 1 < r.maxAttempts) := by
      by_contra hnot
      unfold liveKey at hrk
      rw [if_neg hnot] at hrk
      exact hsome hrk.symm
    rcases hlive with hs | ⟨hs, hmax⟩
    · have hkr : pendingKey r = some key := by simp [pendingKey, hs, hrkey]
      have hkn : pendingKey (newTask params now uuid) = some key := hkey
      have hsame := (t.unique .coalescingKeyPending (by simp)).eq_of_mem hmem_r hmem_new hkr hkn
      exact hid r hr (congrArg (·.id) hsame)
    · obtain ⟨w, tok, hheld⟩ := hc r hr hs
      have hok : attempt s (.scheduleInsert i uuid) =
          .ok { s with tasks := t, inserting := s.inserting.eraseIdx i } := by
        rw [hattempt, hins]; rfl
      exact not_accepted_complete hmem_r hmem_new rfl (hkey.trans hrkey.symm)
        (by rw [hrkey]; simp) hheld hmax 0 (hsafe _ hok _ trivial)

theorem keyFree_iff_safeStep {s : QueueState J} {l : QueueLabel J} (hu : LiveUnique s.tasks)
    (hc : Claimed s.tasks) : KeyFree s l ↔ SafeStep s l := by
  constructor
  · intro hk
    refine ⟨accepted_of_liveUnique hu hk, fun s' hs' l' hl' => ?_⟩
    have hu' : LiveUnique s'.tasks := liveUnique_next hu hk (by simp [taskQueue, hs'])
    refine accepted_of_liveUnique hu' ?_
    cases l' <;> trivial
  · rintro ⟨hacc, hsafe⟩
    cases l with
    | scheduleInsert => exact keyFree_of_safe hc hacc hsafe
    | _ => trivial

/-- The index refuses nothing, exactly in the runs that insert no live key. -/
theorem along_keyFree_iff (ls : List (QueueLabel J)) :
    (taskQueue J).Along KeyFree ∅ ls ↔ (taskQueue J).Along SafeStep ∅ ls := by
  refine (taskQueue J).along_iff_of_inv (I := fun s => LiveUnique s.tasks ∧ Claimed s.tasks) ?_ ?_ ?_
  · rintro s l s' ⟨hu, hc⟩ hk hn
    exact ⟨liveUnique_next hu hk hn, claimed_next hc hn⟩
  · rintro s l ⟨hu, hc⟩
    exact keyFree_iff_safeStep hu hc
  · exact ⟨liveUnique_empty, fun r hr => by cases hr⟩

end Runs

/-! ## A stuck task that aborts the reclaim of another -/

/-- `k` is polled, scheduled again and left behind; then `k` and `other` time out. -/
def collidingRun : List (QueueLabel Bool) :=
  [ .scheduleLookup { targetSpecId := "spec", inputPayload := ∅, coalescingKey := some "k" } 0,
    .scheduleInsert 0 "1",
    .scheduleLookup { targetSpecId := "spec", inputPayload := ∅, coalescingKey := some "other" } 0,
    .scheduleInsert 0 "2",
    .poll { workerId := "w1" } 0 (fun _ => false) id,
    .scheduleLookup { targetSpecId := "spec", inputPayload := ∅, coalescingKey := some "k" } 1,
    .scheduleInsert 0 "3",
    .reclaim 50 120000 fun _ => false ]

theorem not_along_accepted_collidingRun : ¬ (taskQueue Bool).Along Accepted ∅ collidingRun := by
  decide

end JavisSaas.Cosa.ControlPlane
