import JavisSaas.Cosa.ControlPlane.TaskQueue

/-!
# One task for one event

`scheduleTask` looks for the key of an event among the rows of every status, but locks nothing where
it finds none: two calls may both go on to the insertion, and the index refuses the second one only
while the task of the first is pending.

* `merges_mergedPayload`: what a coalesced task keeps of both payloads.
* `along_schedulingLaw_iff`: the runs in which an event has one task.
-/

namespace JavisSaas.Cosa.ControlPlane

open JavisSaas.Lib

variable {J : Type}

/-- `coalescingKey.startsWith("evt:")` -/
def IsEventKey (key : String) : Prop := "evt:".toList.isPrefixOf key.toList = true
deriving Decidable

/-- The key of a row that is an event's. -/
def eventKey (r : ScheduledTaskRow J) : Option String :=
  r.coalescingKey.filter fun key => IsEventKey key

theorem eventKey_eq_some {r : ScheduledTaskRow J} {key : String} :
    eventKey r = some key ↔ r.coalescingKey = some key ∧ IsEventKey key := by
  rw [eventKey, Option.filter_eq_some_iff, decide_eq_true_iff]

/-! ## Payloads of coalesced tasks -/

section Payloads

variable [Truthy J]

/-- A payload that has lost neither the run of the task nor what the later call brought. -/
structure Merges (existing input merged : Dict String J) : Prop where
  runId : ∀ v, existing.get? "run_id" = some v → truthy v → merged.get? "run_id" = some v
  later : ∀ k v, input.get? k = some v →
    (k = "run_id" → ∀ w, existing.get? "run_id" = some w → ¬ truthy w) → merged.get? k = some v
  earlier : ∀ k v, input.get? k = none → existing.get? k = some v → merged.get? k = some v

theorem get?_mergedPayload_of_truthy {existing : Dict String J} (input : Dict String J) {v : J}
    (hrun : existing.get? "run_id" = some v) (hv : truthy v) (k : String) :
    (mergedPayload existing input).get? k =
      if k = "run_id" then some v else (input.get? k).or (existing.get? k) := by
  rw [mergedPayload, hrun]
  dsimp only
  rw [if_pos hv, Dict.get?_update, List.reverse_singleton, Dict.get?_update_items]
  by_cases hk : k = "run_id"
  · simp [Dict.lookup, hk]
  · simp [Dict.lookup, hk, Ne.symm hk]

theorem get?_mergedPayload_of_not {existing : Dict String J} (input : Dict String J)
    (hrun : ∀ v, existing.get? "run_id" = some v → ¬ truthy v) (k : String) :
    (mergedPayload existing input).get? k = (input.get? k).or (existing.get? k) := by
  unfold mergedPayload
  split
  · next v hv =>
    rw [if_neg (hrun v hv), Dict.get?_update, Dict.get?_update_items]
    rfl
  · rw [Dict.get?_update, Dict.get?_update_items]
    rfl

theorem merges_mergedPayload (existing input : Dict String J) :
    Merges existing input (mergedPayload existing input) := by
  by_cases hrun : ∃ v, existing.get? "run_id" = some v ∧ truthy v
  · obtain ⟨v, hrun, hv⟩ := hrun
    have hget := get?_mergedPayload_of_truthy input hrun hv
    refine ⟨fun w hw _ => ?_, fun k w hin hk => ?_, fun k w hin hex => ?_⟩
    · rw [hget, if_pos rfl, ← hrun, hw]
    · rw [hget, if_neg fun h => hk h v hrun hv, hin]
      rfl
    · rw [hget]
      split_ifs with hk
      · rw [← hrun, ← hk, hex]
      · rw [hin, hex]
        rfl
  · have hnot : ∀ v, existing.get? "run_id" = some v → ¬ truthy v := fun v h hv => hrun ⟨v, h, hv⟩
    have hget := get?_mergedPayload_of_not input hnot
    refine ⟨fun w hw ht => absurd ht (hnot w hw), fun k w hin _ => ?_, fun k w hin hex => ?_⟩
    · rw [hget, hin]
      rfl
    · rw [hget, hin, hex]
      rfl

end Payloads

/-! ## What a step does to the payloads -/

/-- Every row is still there, under its key and with its payload. -/
def SamePayloads (t t' : TaskTable J) : Prop :=
  ∀ r ∈ t.rows, ∃ r' ∈ t'.rows, r'.id = r.id ∧ r'.coalescingKey = r.coalescingKey ∧
    r'.inputPayload = r.inputPayload

theorem SamePayloads.refl (t : TaskTable J) : SamePayloads t t :=
  fun r hr => ⟨r, hr, rfl, rfl, rfl⟩

variable {t t' : TaskTable J} {now : ℤ}

theorem samePayloads_of_update {k : String} {f : ScheduledTaskRow J → ScheduledTaskRow J}
    (h : t.update k f = .ok t') (hf : ∀ r, (f r).id = r.id ∧ (f r).coalescingKey = r.coalescingKey ∧
      (f r).inputPayload = r.inputPayload) : SamePayloads t t' := by
  intro r hr
  refine ⟨if r.id = k then f r else r, ?_, ?_⟩
  · rw [Table.update_eq_ok.mp h]
    exact mem_updateWhere.mpr ⟨r, hr, rfl⟩
  · split_ifs
    · exact hf r
    · exact ⟨rfl, rfl, rfl⟩

theorem samePayloads_of_map {p : ScheduledTaskRow J → Prop} [DecidablePred p]
    {f : ScheduledTaskRow J → ScheduledTaskRow J}
    (h : t'.rows = t.rows.map fun r => if p r then f r else r)
    (hf : ∀ r, (f r).id = r.id ∧ (f r).coalescingKey = r.coalescingKey ∧
      (f r).inputPayload = r.inputPayload) : SamePayloads t t' := by
  intro r hr
  refine ⟨if p r then f r else r, ?_, ?_⟩
  · rw [h]
    exact List.mem_map_of_mem hr
  · split_ifs
    · exact hf r
    · exact ⟨rfl, rfl, rfl⟩

theorem pollDueTasks_payloads {params : ClaimParams} {locked : String → Bool}
    {uuid : String → String} {rows : List (ScheduledTaskRow J)}
    (h : pollDueTasks t params now locked uuid = .ok (t', rows)) : SamePayloads t t' := by
  obtain ⟨u, hu, h⟩ := bind_eq_ok.mp h
  cases h
  exact samePayloads_of_map (updateEach_claim hu) fun r => ⟨rfl, rfl, rfl⟩

theorem heartbeatTask_payloads {params : HeartbeatTaskParams} {b : Bool}
    (h : heartbeatTask t params now = .ok (t', b)) : SamePayloads t t' := by
  unfold heartbeatTask at h
  split at h
  · cases h; exact SamePayloads.refl t
  · dsimp only at h
    split_ifs at h
    · obtain ⟨u, hu, h⟩ := bind_eq_ok.mp h
      cases h
      exact samePayloads_of_update hu fun r => ⟨rfl, rfl, rfl⟩
    · cases h; exact SamePayloads.refl t

theorem completeTask_payloads {params : CompleteTaskParams} {res : CompleteTaskResult}
    (h : completeTask t params now = .ok (t', res)) :
    SamePayloads t t' := by
  unfold completeTask at h
  split at h
  · cases h; exact SamePayloads.refl t
  · next row _ =>
    by_cases hheld : HeldBy row params.workerId params.claimToken
    swap
    · rw [if_pos hheld] at h
      cases h; exact SamePayloads.refl t
    rw [if_neg (not_not.mpr hheld)] at h
    dsimp only at h
    split_ifs at h
    all_goals
      obtain ⟨u, hu, h⟩ := bind_eq_ok.mp h
      cases h
      exact samePayloads_of_update hu fun r => ⟨rfl, rfl, rfl⟩

theorem reclaimStuckTasks_payloads {limit : ℕ} {locked : String → Bool} {res : ReclaimResult}
    (h : reclaimStuckTasks t limit now locked = .ok (t', res)) : SamePayloads t t' := by
  obtain ⟨u, hu, h⟩ := bind_eq_ok.mp h
  cases h
  have hrows := Table.updateEach_rows (σ := taskSchema J) (reclaim_id now)
    (fun x hx => (mem_stuckRows hx).1) (nodup_stuckRows ..) hu
  intro r hr
  refine ⟨_, by rw [hrows]; exact List.mem_map_of_mem hr, ?_⟩
  split_ifs
  · unfold reclaim
    split_ifs <;> exact ⟨rfl, rfl, rfl⟩
  · exact ⟨rfl, rfl, rfl⟩

/-! ## Coalescing calls -/

section Coalescing

variable [Truthy J] {t : TaskTable J} {params : ScheduleParams J} {r : ScheduledTaskRow J}

/-- The call is for a key that the pending row has. -/
def CoalescesInto (params : ScheduleParams J) (r : ScheduledTaskRow J) : Prop :=
  r.status = .scheduled ∧ r.coalescingKey = params.coalescingKey ∧
    params.coalescingKey ≠ none ∧ params.coalescingKey ≠ some ""

/-- The row with the payload of the call merged into its own. -/
def coalescedRow (r : ScheduledTaskRow J) (params : ScheduleParams J) : ScheduledTaskRow J :=
  { r with inputPayload := mergedPayload r.inputPayload params.inputPayload }

variable (t params r) in
theorem coalesce_eq_ok :
    ∃ t' : TaskTable J, coalesce t r params = .ok (t', coalescedRow r params) ∧
      t'.rows = updateWhere (fun x => x.id = r.id) (fun x => { x with
        inputPayload := mergedPayload r.inputPayload params.inputPayload }) t.rows := by
  obtain ⟨t', ht', -⟩ := Table.update_ok (σ := taskSchema J) (w := (taskSchema J).val)
    (t := t) (k := r.id)
    (f := fun x => { x with inputPayload := mergedPayload r.inputPayload params.inputPayload })
    (fun i x => Or.inr rfl) (fun i => t.unique i (by cases i <;> simp)) (fun x => rfl)
    (fun x _ _ i => Or.inr (by cases i <;> rfl))
  refine ⟨t', ?_, Table.update_eq_ok.mp ht'⟩
  unfold coalesce
  dsimp only
  rw [ht']
  rfl

theorem scheduleLookup_eq_of_coalesces (hevents : UniqueOn eventKey t.rows) (hr : r ∈ t.rows)
    (h : CoalescesInto params r) : scheduleLookup t params = some <$> coalesce t r params := by
  obtain ⟨hs, hkey, hnone, hempty⟩ := h
  obtain ⟨key, hparams⟩ := Option.ne_none_iff_exists'.mp hnone
  have hrkey : r.coalescingKey = some key := hkey.trans hparams
  have hne : key ≠ "" := fun h => hempty (h ▸ hparams)
  unfold scheduleLookup
  rw [hparams]
  dsimp only
  rw [if_neg hne]
  split_ifs with hevt
  · cases hfind : t.rows.find? fun x => x.coalescingKey = some key with
    | none => exact absurd (decide_eq_true hrkey) (List.find?_eq_none.mp hfind r hr)
    | some x =>
      have hxkey : x.coalescingKey = some key := of_decide_eq_true (List.find?_some hfind :)
      obtain rfl := hevents.eq_of_mem (List.mem_of_find?_eq_some hfind) hr
        (eventKey_eq_some.mpr ⟨hxkey, hevt⟩) (eventKey_eq_some.mpr ⟨hrkey, hevt⟩)
      dsimp only
      rw [if_pos hs]
  · cases hfind : t.rows.find? fun x => x.coalescingKey = some key ∧ x.status = .scheduled with
    | none => exact absurd (decide_eq_true ⟨hrkey, hs⟩) (List.find?_eq_none.mp hfind r hr)
    | some =>
      obtain ⟨hxkey, hxs⟩ := of_decide_eq_true (List.find?_some hfind :)
      have hpending := t.unique .coalescingKeyPending (by simp)
      obtain rfl := hpending.eq_of_mem (List.mem_of_find?_eq_some hfind) hr
        ((if_pos hxs).trans hxkey) ((if_pos hs).trans hrkey)
      rfl

end Coalescing

section Lookup

variable [Truthy J] {t : TaskTable J} {params : ScheduleParams J}

/-- A lookup leaves the table as it is, or coalesces into a pending row. -/
theorem scheduleLookup_cases {o : Option (TaskTable J × ScheduledTaskRow J)}
    (h : scheduleLookup t params = .ok o) :
    o = none ∨ (∃ r, o = some (t, r)) ∨
      ∃ r ∈ t.rows, CoalescesInto params r ∧ some <$> coalesce t r params = .ok o := by
  unfold scheduleLookup at h
  cases hparams : params.coalescingKey with
  | none =>
    rw [hparams] at h
    exact .inl (Except.ok.inj h).symm
  | some key =>
    rw [hparams] at h
    dsimp only at h
    by_cases hempty : key = ""
    · rw [if_pos hempty] at h
      exact .inl (Except.ok.inj h).symm
    rw [if_neg hempty] at h
    have hinto : ∀ {r : ScheduledTaskRow J}, r.coalescingKey = some key → r.status = .scheduled →
        CoalescesInto params r := fun hkey hs =>
      ⟨hs, hkey.trans hparams.symm, by rw [hparams]; exact Option.some_ne_none _,
        by rw [hparams]; exact fun h => hempty (Option.some.inj h)⟩
    split_ifs at h with hevt
    · split at h
      · exact .inl (Except.ok.inj h).symm
      · next existing hfind =>
        have hkey := of_decide_eq_true (List.find?_some hfind :)
        split_ifs at h with hs
        · exact .inr (.inr ⟨existing, List.mem_of_find?_eq_some hfind, hinto hkey hs, h⟩)
        · exact .inr (.inl ⟨existing, (Except.ok.inj h).symm⟩)
    · split at h
      · exact .inl (Except.ok.inj h).symm
      · next existing hfind =>
        obtain ⟨hkey, hs⟩ := of_decide_eq_true (List.find?_some hfind :)
        exact .inr (.inr ⟨existing, List.mem_of_find?_eq_some hfind, hinto hkey hs, h⟩)

end Lookup

/-! ## The law of a step -/

section Law

variable [Truthy J] {s s' : QueueState J} {l : QueueLabel J}

/-- No key has two pending tasks and no event two at all; coalescing merges the payload. -/
structure SchedulingLaw (s : QueueState J) (l : QueueLabel J) (s' : QueueState J) : Prop where
  onePending : UniqueOn pendingKey s'.tasks.rows
  oneEvent : UniqueOn eventKey s'.tasks.rows
  coalesced : ∀ params now r, l = .scheduleLookup params now → r ∈ s.tasks.rows →
    CoalescesInto params r → ∃ row, scheduleLookup s.tasks params = .ok (some (s'.tasks, row)) ∧
      row ∈ s'.tasks.rows ∧ row.id = r.id ∧ row.status = .scheduled ∧
        Merges r.inputPayload params.inputPayload row.inputPayload
  kept : ∀ r ∈ s.tasks.rows, ∃ r' ∈ s'.tasks.rows, r'.id = r.id ∧
    r'.coalescingKey = r.coalescingKey ∧ (r'.inputPayload = r.inputPayload ∨
      ∃ params now, l = .scheduleLookup params now ∧ CoalescesInto params r ∧
        Merges r.inputPayload params.inputPayload r'.inputPayload)

/-- The event inserted has no task that left `scheduled`; the index sees to the others. -/
def EventFree (s : QueueState J) : QueueLabel J → Prop
  | .scheduleInsert i uuid =>
    ∀ p ∈ s.inserting[i]?, (∀ r ∈ s.tasks.rows, r.id ≠ "task_" ++ uuid) →
      ∀ key ∈ p.1.coalescingKey, IsEventKey key →
        ∀ r ∈ s.tasks.rows, r.coalescingKey = some key → r.status = .scheduled
  | _ => True

omit [Truthy J] in
theorem RowStep.eventKey_eq {C : ScheduledTaskRow J → Prop}
    {claims : List (String × Option String)} {r r' : ScheduledTaskRow J}
    (h : RowStep C claims r r') : eventKey r' = eventKey r := by
  cases h <;> rfl

theorem oneEvent_next (hevents : UniqueOn eventKey s.tasks.rows) (hfree : EventFree s l)
    (h : (taskQueue J).next s l = some s') : UniqueOn eventKey s'.tasks.rows := by
  rcases next_cases h with ⟨claims, -, hr, -⟩ | ⟨i, params, now, uuid, rfl, hi, -, hr⟩
  · obtain ⟨g, hg, hstep⟩ := hr.steps
    rw [hg]
    exact hevents.map_of_sub fun r hrow => .inr (hstep r hrow).eventKey_eq
  · rw [hr, uniqueOn_append_singleton]
    refine ⟨hevents, fun key hkey r hrow hrkey => ?_⟩
    have hnew : ∀ r ∈ s.tasks.rows, r.id ≠ "task_" ++ uuid := fun r hrow =>
      Table.key_ne_of_rows_append hr hrow
    obtain ⟨hparams, hevent⟩ := eventKey_eq_some.mp hkey
    obtain ⟨hrkey, -⟩ := eventKey_eq_some.mp hrkey
    have hs := hfree (params, now) hi hnew key hparams hevent r hrow hrkey
    -- Both tasks would be pending, which the index refuses.
    have hmem : ∀ x ∈ s.tasks.rows ++ [newTask params now uuid], x ∈ s'.tasks.rows := fun x hx =>
      hr ▸ hx
    have hsame := (s'.tasks.unique .coalescingKeyPending (by simp)).eq_of_mem
      (hmem r (List.mem_append_left _ hrow))
      (hmem _ List.mem_concat_self)
      ((if_pos hs).trans hrkey) hparams
    exact hnew r hrow (congrArg (·.id) hsame)

theorem samePayloads_next (hl : ∀ params now, l ≠ .scheduleLookup params now)
    (h : (taskQueue J).next s l = some s') : SamePayloads s.tasks s'.tasks := by
  simp only [taskQueue, Option.some.injEq] at h
  cases ha : attempt s l with
  | error =>
    rw [ha] at h
    obtain rfl := h
    rw [aborted_tasks]
    exact SamePayloads.refl _
  | ok =>
    rw [ha] at h
    obtain rfl := h
    cases l with
    | scheduleLookup params now => exact absurd rfl (hl params now)
    | scheduleInsert =>
      simp only [attempt] at ha
      split at ha
      · cases ha; exact SamePayloads.refl _
      · obtain ⟨t, ht, ha⟩ := bind_eq_ok.mp ha
        cases ha
        intro r hr
        refine ⟨r, ?_, rfl, rfl, rfl⟩
        rw [Table.insert_eq_ok.mp ht]
        exact List.mem_append_left _ hr
    | poll =>
      obtain ⟨⟨t, rows⟩, ht, ha⟩ := bind_eq_ok.mp ha
      cases ha
      exact pollDueTasks_payloads ht
    | heartbeat =>
      obtain ⟨⟨t, b⟩, ht, ha⟩ := bind_eq_ok.mp ha
      cases ha
      exact heartbeatTask_payloads ht
    | complete =>
      obtain ⟨⟨t, res⟩, ht, ha⟩ := bind_eq_ok.mp ha
      cases ha
      exact completeTask_payloads ht
    | reclaim =>
      obtain ⟨⟨t, res⟩, ht, ha⟩ := bind_eq_ok.mp ha
      cases ha
      exact reclaimStuckTasks_payloads ht

/-- A call that has a row to coalesce into merges its payload into it, and changes no other row. -/
theorem next_of_coalesces {params : ScheduleParams J} {now : ℤ} {r : ScheduledTaskRow J}
    (hevents : UniqueOn eventKey s.tasks.rows) (hr : r ∈ s.tasks.rows)
    (hinto : CoalescesInto params r)
    (h : (taskQueue J).next s (.scheduleLookup params now) = some s') :
    scheduleLookup s.tasks params = .ok (some (s'.tasks, coalescedRow r params)) ∧
      s'.tasks.rows = updateWhere (fun x => x.id = r.id) (fun x => { x with
        inputPayload := mergedPayload r.inputPayload params.inputPayload }) s.tasks.rows := by
  obtain ⟨t', hcoalesce, hrows⟩ := coalesce_eq_ok s.tasks params r
  have hlookup : scheduleLookup s.tasks params = .ok (some (t', coalescedRow r params)) := by
    rw [scheduleLookup_eq_of_coalesces hevents hr hinto, hcoalesce]
    rfl
  have hattempt : attempt s (.scheduleLookup params now) = .ok { s with tasks := t' } := by
    simp only [attempt, hlookup]
    rfl
  simp only [taskQueue, hattempt, Option.some.injEq] at h
  obtain rfl := h
  exact ⟨hlookup, hrows⟩

/-- A lookup with no row to coalesce into leaves the table as it is. -/
theorem next_of_not_coalesces {params : ScheduleParams J} {now : ℤ}
    (hnone : ∀ r ∈ s.tasks.rows, ¬ CoalescesInto params r)
    (h : (taskQueue J).next s (.scheduleLookup params now) = some s') : s'.tasks = s.tasks := by
  simp only [taskQueue, Option.some.injEq] at h
  cases ha : attempt s (.scheduleLookup params now) with
  | error =>
    rw [ha] at h
    obtain rfl := h
    rfl
  | ok =>
    rw [ha] at h
    obtain rfl := h
    obtain ⟨o, ho, ha⟩ := bind_eq_ok.mp ha
    rcases scheduleLookup_cases ho with rfl | ⟨r, rfl⟩ | ⟨r, hr, hinto, -⟩
    · cases ha
      rfl
    · cases ha
      rfl
    · exact absurd hinto (hnone r hr)

theorem schedulingLaw_next (hevents : UniqueOn eventKey s.tasks.rows) (hfree : EventFree s l)
    (h : (taskQueue J).next s l = some s') : SchedulingLaw s l s' where
  onePending := s'.tasks.unique .coalescingKeyPending (by simp)
  oneEvent := oneEvent_next hevents hfree h
  coalesced := by
    rintro params now r rfl hr hinto
    obtain ⟨hlookup, hrows⟩ := next_of_coalesces hevents hr hinto h
    refine ⟨coalescedRow r params, hlookup, ?_, rfl, hinto.1, merges_mergedPayload _ _⟩
    rw [hrows]
    exact mem_updateWhere.mpr ⟨r, hr, (if_pos rfl).symm⟩
  kept := by
    intro x hx
    by_cases hl : ∃ params now, l = .scheduleLookup params now
    · obtain ⟨params, now, rfl⟩ := hl
      by_cases hinto : ∃ r ∈ s.tasks.rows, CoalescesInto params r
      · obtain ⟨r, hr, hinto⟩ := hinto
        obtain ⟨-, hrows⟩ := next_of_coalesces hevents hr hinto h
        refine ⟨_, hrows ▸ mem_updateWhere.mpr ⟨x, hx, rfl⟩, ?_⟩
        split_ifs with hid
        · obtain rfl := s.tasks.key_injective hx hr hid
          exact ⟨rfl, rfl, .inr ⟨params, now, rfl, hinto, merges_mergedPayload _ _⟩⟩
        · exact ⟨rfl, rfl, .inl rfl⟩
      · have hnone : ∀ r ∈ s.tasks.rows, ¬ CoalescesInto params r := fun r hr hi =>
          hinto ⟨r, hr, hi⟩
        rw [next_of_not_coalesces hnone h]
        exact ⟨x, hx, rfl, rfl, .inl rfl⟩
    · have hother : ∀ params now, l ≠ .scheduleLookup params now := fun params now hlookup =>
        hl ⟨params, now, hlookup⟩
      obtain ⟨x', hx', hid, hkey, hpayload⟩ := samePayloads_next hother h x hx
      exact ⟨x', hx', hid, hkey, .inl hpayload⟩

/-- An event whose task is no longer pending gets a second task from an insertion. -/
theorem eventFree_of_oneEvent (hevents : UniqueOn eventKey s.tasks.rows)
    (h : ∀ s' ∈ (taskQueue J).next s l, UniqueOn eventKey s'.tasks.rows) : EventFree s l := by
  cases l with
  | scheduleInsert i uuid =>
    rintro ⟨params, now⟩ hi hnew key hparams hevent r hr hrkey
    by_contra hs
    have hevent_r : eventKey r = some key := eventKey_eq_some.mpr ⟨hrkey, hevent⟩
    have hevent_new : eventKey (newTask params now uuid) = some key :=
      eventKey_eq_some.mpr ⟨hparams, hevent⟩
    have hattempt : attempt s (.scheduleInsert i uuid) =
        (s.tasks.insert (newTask params now uuid) >>= fun t =>
          pure { s with tasks := t, inserting := s.inserting.eraseIdx i }) := by
      simp only [attempt]
      rw [Option.mem_def.mp hi]
    cases hins : s.tasks.insert (newTask params now uuid) with
    | ok t =>
      have hok : attempt s (.scheduleInsert i uuid) =
          .ok { s with tasks := t, inserting := s.inserting.eraseIdx i } := by
        rw [hattempt, hins]
        rfl
      have hunique : UniqueOn eventKey t.rows :=
        h { s with tasks := t, inserting := s.inserting.eraseIdx i }
          (by simp only [taskQueue, hok]; rfl)
      rw [Table.insert_eq_ok.mp hins, uniqueOn_append_singleton] at hunique
      exact hunique.2 key hevent_new r hr hevent_r
    | error e =>
      cases e with
      | key => exact Table.insert_ne_error_key hnew hins
      | index index =>
        cases index with
        | parentChild =>
          obtain ⟨v, hv, -⟩ := Table.exists_of_insert_error (by simp) hins
          exact absurd hv (Option.some_ne_none v).symm
        | coalescingKeyPending =>
          -- The index refuses the insertion for a pending row, which is another row of the event.
          obtain ⟨v, hv, x, hx, hxv⟩ := Table.exists_of_insert_error (by simp) hins
          have hv : params.coalescingKey = some v := hv
          obtain rfl : v = key := Option.some.inj (hv.symm.trans hparams)
          have hxs : x.status = .scheduled := by
            by_contra hxs
            have hnone : pendingKey x = none := if_neg hxs
            exact absurd (hnone.symm.trans hxv) (Option.some_ne_none v).symm
          have hxkey : x.coalescingKey = some v := (if_pos hxs).symm.trans hxv
          obtain rfl := hevents.eq_of_mem hx hr (eventKey_eq_some.mpr ⟨hxkey, hevent⟩) hevent_r
          exact hs hxs
  | _ => trivial

/-- The runs in which every step keeps the law. -/
theorem along_schedulingLaw_iff (ls : List (QueueLabel J)) :
    (taskQueue J).Along (fun s l => ∀ s' ∈ (taskQueue J).next s l, SchedulingLaw s l s') ∅ ls ↔
      (taskQueue J).Along EventFree ∅ ls := by
  refine ((taskQueue J).along_iff_of_inv (I := fun s => UniqueOn eventKey s.tasks.rows) ?_ ?_
    (uniqueOn_nil _)).symm
  · intro s l s' hevents hfree hn
    exact oneEvent_next hevents hfree hn
  · intro s l hevents
    constructor
    · intro hfree s' hn
      exact schedulingLaw_next hevents hfree hn
    · intro hlaw
      exact eventFree_of_oneEvent hevents fun s' hn => (hlaw s' hn).oneEvent

end Law

/-! ## An event that is scheduled twice -/

/-- Two calls look for the event before either inserts; the first task is polled in between. -/
def racingCalls : List (QueueLabel Bool) :=
  [ .scheduleLookup { targetSpecId := "spec", inputPayload := ∅, coalescingKey := some "evt:1" } 0,
    .scheduleLookup { targetSpecId := "spec", inputPayload := ∅, coalescingKey := some "evt:1" } 0,
    .scheduleInsert 0 "1",
    .poll { workerId := "w1" } 0 (fun _ => false) id,
    .scheduleInsert 0 "2" ]

theorem not_schedulingLaw_racingCalls :
    ¬ (taskQueue Bool).Along
      (fun s l => ∀ s' ∈ (taskQueue Bool).next s l, SchedulingLaw s l s') ∅ racingCalls := by
  intro hlaw
  have hevents : (taskQueue Bool).Along
      (fun s l => ∀ s' ∈ (taskQueue Bool).next s l, UniqueOn eventKey s'.tasks.rows) ∅ racingCalls :=
    System.Along.mono (taskQueue Bool) (fun s l h s' hn => (h s' hn).oneEvent) hlaw
  revert hevents
  decide

end JavisSaas.Cosa.ControlPlane
