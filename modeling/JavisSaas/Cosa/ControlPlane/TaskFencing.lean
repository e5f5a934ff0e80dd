import JavisSaas.Cosa.ControlPlane.TaskQueue

/-!
# Fencing tokens and attempts

What holds of one task over any run, counted against the claims that the polls handed out.

* `Ledger`: how a row's attempts and status stand to its handouts.
* `ledgerInv_next`, `ledgerInv_of_run`: every step keeps it, so every run does.
* `superseded_next`: a superseded token never is the current one again.
* `taskLife_of_run`: handouts and attempts, dead letters, and writes of superseded workers.
-/

namespace JavisSaas.Cosa.ControlPlane

open JavisSaas.Lib

variable {J : Type}

/-- How often a task was handed out. -/
def handoutCount (handouts : List (String × Option String)) (id : String) : ℕ :=
  (handouts.map Prod.fst).count id

/-- The attempts that the code gives a task: it is handed out before its bound is looked at. -/
def allowedAttempts (r : ScheduledTaskRow J) : ℤ := max 1 r.maxAttempts

/-- The attempts and the status of a task that was handed out `n` times. -/
def Ledger (n : ℕ) (r : ScheduledTaskRow J) : Prop :=
  match r.status with
  | .scheduled => r.attemptCount = n ∧ n < allowedAttempts r
  | .processing => r.attemptCount + 1 = n ∧ 1 ≤ n ∧ n ≤ allowedAttempts r
  | .completed => r.attemptCount + 1 = n ∧ 1 ≤ n ∧ n ≤ allowedAttempts r
  | .failed => r.attemptCount = n ∧ n = allowedAttempts r
  | .coalesced => False
  | .blocked => False

/-- A row's token is one that was handed out for it. -/
def TokenIssued (handouts : List (String × Option String)) (r : ScheduledTaskRow J) : Prop :=
  ∀ token, r.claimToken = some token → (r.id, some token) ∈ handouts

/-- What holds of the rows and the handouts of every reachable state. -/
structure LedgerInv (s : QueueState J) : Prop where
  ledger : ∀ r ∈ s.tasks.rows, Ledger (handoutCount s.handouts r.id) r
  issued : ∀ r ∈ s.tasks.rows, TokenIssued s.handouts r
  known : ∀ h ∈ s.handouts, ∃ r ∈ s.tasks.rows, r.id = h.1

theorem handoutCount_append (hs claims : List (String × Option String)) (id : String) :
    handoutCount (hs ++ claims) id = handoutCount hs id + handoutCount claims id := by
  simp only [handoutCount, List.map_append, List.count_append]

@[simp] theorem handoutCount_nil (id : String) : handoutCount [] id = 0 := rfl

/-- A step of a row keeps its ledger, with the claims of the step counted. -/
theorem RowStep.ledger {C : ScheduledTaskRow J → Prop} {claims : List (String × Option String)}
    {r r' : ScheduledTaskRow J} {n : ℕ} (h : RowStep C claims r r') (hn : Ledger n r) :
    Ledger (n + handoutCount claims r.id) r' := by
  cases h with
  | keep _ _ _ hnot =>
    have h0 : handoutCount claims r.id = 0 := List.count_eq_zero.mpr hnot
    rw [h0]
    exact hn
  | claim hs _ hcount =>
    have h1 : handoutCount claims r.id = 1 := hcount
    simp only [Ledger, hs] at hn
    simp only [Ledger, ControlPlane.claim, allowedAttempts] at hn ⊢
    omega
  | succeed hs _ hnil =>
    subst hnil
    simp only [Ledger, hs] at hn
    rw [handoutCount_nil]
    exact hn
  | deadLetter hs _ hnil =>
    subst hnil
    simp only [Ledger, hs, allowedAttempts] at hn
    simp only [Ledger, ControlPlane.deadLetter, allowedAttempts, handoutCount_nil]
    omega
  | reschedule hs _ hnil =>
    subst hnil
    simp only [Ledger, hs, allowedAttempts] at hn
    simp only [Ledger, ControlPlane.reschedule, allowedAttempts, handoutCount_nil]
    omega

/-- The token after a step is the one before it, none, or one of the claims. -/
theorem RowStep.claimToken_cases {C : ScheduledTaskRow J → Prop}
    {claims : List (String × Option String)} {r r' : ScheduledTaskRow J}
    (h : RowStep C claims r r') {token : String}
    (ht : r'.claimToken = some token) :
    r.claimToken = some token ∨ (r.id, some token) ∈ claims := by
  cases h with
  | keep => exact Or.inl ht
  | claim _ hmem => cases ht; exact Or.inr hmem
  | succeed | deadLetter | reschedule => cases ht

section Runs

variable [Truthy J]

theorem ledgerInv_next {s s' : QueueState J} {l : QueueLabel J} (hI : LedgerInv s)
    (h : (taskQueue J).next s l = some s') : LedgerInv s' := by
  rcases next_cases h with ⟨claims, hh, hr, -⟩ | ⟨i, params, now, uuid, rfl, hi, hh, hr⟩
  · refine ⟨fun r' hr' => ?_, fun r' hr' => ?_, fun c hc => ?_⟩
    · obtain ⟨r, hmem, hstep⟩ := hr.exists_of_mem hr'
      rw [hh, hstep.id_eq, handoutCount_append]
      exact hstep.ledger (hI.ledger r hmem)
    · obtain ⟨r, hmem, hstep⟩ := hr.exists_of_mem hr'
      intro token ht
      rw [hh, hstep.id_eq, List.mem_append]
      exact (hstep.claimToken_cases ht).imp (hI.issued r hmem token) id
    · rw [hh, List.mem_append] at hc
      rcases hc with hc | hc
      · obtain ⟨r, hrow, e⟩ := hI.known c hc
        obtain ⟨g, hg, hstep⟩ := hr.steps
        exact ⟨g r, by rw [hg]; exact List.mem_map_of_mem hrow, (hstep r hrow).id_eq.trans e⟩
      · exact hr.known c hc
  · have hfresh : ∀ r ∈ s.tasks.rows, r.id ≠ "task_" ++ uuid := fun r hrow =>
      Table.key_ne_of_rows_append hr hrow
    refine ⟨fun r' hr' => ?_, fun r' hr' => ?_, fun c hc => ?_⟩
    · rw [hr, List.mem_append, List.mem_singleton] at hr'
      rcases hr' with hr' | rfl
      · rw [hh]; exact hI.ledger r' hr'
      · -- no poll can have handed out a task that did not exist
        have h0 : handoutCount s'.handouts ("task_" ++ uuid) = 0 := by
          rw [hh]
          refine List.count_eq_zero.mpr fun hmem => ?_
          obtain ⟨c, hc, e⟩ := List.mem_map.mp hmem
          obtain ⟨r, hrow, e'⟩ := hI.known c hc
          exact hfresh r hrow (e'.trans e)
        have : Ledger 0 (newTask params now uuid) := by
          simp only [Ledger, newTask, allowedAttempts]
          omega
        exact h0 ▸ this
    · rw [hr, List.mem_append, List.mem_singleton] at hr'
      rcases hr' with hr' | rfl
      · rw [hh]; exact hI.issued r' hr'
      · intro token ht
        cases ht
    · rw [hh] at hc
      obtain ⟨r, hrow, e⟩ := hI.known c hc
      exact ⟨r, by rw [hr]; exact List.mem_append_left _ hrow, e⟩

omit [Truthy J] in
theorem ledgerInv_empty : LedgerInv (∅ : QueueState J) :=
  ⟨fun _ hr => absurd hr List.not_mem_nil, fun _ hr => absurd hr List.not_mem_nil,
    fun _ hc => absurd hc List.not_mem_nil⟩

theorem ledgerInv_of_run {s : QueueState J} {ls : List (QueueLabel J)}
    (h : (taskQueue J).run ∅ ls = some s) : LedgerInv s :=
  (taskQueue J).inv_of_run (fun _ _ _ hI hn => ledgerInv_next hI hn) ledgerInv_empty h

/-! ## Superseded tokens -/

/-- The token was handed out for the task, and is not its current one. -/
def Superseded (s : QueueState J) (id token : String) : Prop :=
  (id, some token) ∈ s.handouts ∧ ∀ r ∈ s.tasks.rows, r.id = id → r.claimToken ≠ some token

variable {s s' : QueueState J} {id token : String}

theorem superseded_next {l : QueueLabel J} (hsup : Superseded s id token) (hfresh : FreshTokens s l)
    (h : (taskQueue J).next s l = some s') : Superseded s' id token := by
  obtain ⟨hmem, hnot⟩ := hsup
  rcases next_cases h with ⟨claims, hh, hr, hnew⟩ | ⟨i, params, now, uuid, rfl, hi, hh, hr⟩
  · refine ⟨by rw [hh]; exact List.mem_append_left _ hmem, fun r' hr' hid ht => ?_⟩
    obtain ⟨r, hrow, hstep⟩ := hr.exists_of_mem hr'
    have hrid : r.id = id := hstep.id_eq.symm.trans hid
    rcases hstep.claimToken_cases ht with hold | hclaim
    · exact hnot r hrow hrid hold
    · exact hnew hfresh _ hclaim (hrid ▸ hmem)
  · refine ⟨by rw [hh]; exact hmem, fun r' hr' hid ht => ?_⟩
    rw [hr, List.mem_append, List.mem_singleton] at hr'
    rcases hr' with hr' | rfl
    · exact hnot r' hr' hid ht
    · cases ht

theorem superseded_of_run {s s' : QueueState J} {ls : List (QueueLabel J)} {id token : String}
    (hsup : Superseded s id token) (hfresh : (taskQueue J).Along FreshTokens s ls)
    (h : (taskQueue J).run s ls = some s') : Superseded s' id token :=
  (taskQueue J).inv_of_along (fun _ _ _ hI hG hn => superseded_next hI hG hn) hsup hfresh h

omit [Truthy J] in
theorem not_heldBy_of_superseded (hsup : Superseded s id token) {r : ScheduledTaskRow J}
    (hr : s.tasks.get? id = some r) (workerId : String) : ¬ HeldBy r workerId token := by
  obtain ⟨hmem, hid⟩ := Table.get?_eq_some.mp hr
  exact fun hheld => hsup.2 r hmem hid hheld.2.2

omit [Truthy J] in
theorem heartbeatTask_of_superseded {params : HeartbeatTaskParams}
    (hsup : Superseded s params.taskId params.claimToken) (now : ℤ) :
    heartbeatTask s.tasks params now = .ok (s.tasks, false) := by
  unfold heartbeatTask
  dsimp only
  split
  · rfl
  · rename_i row hrow
    rw [if_pos (not_heldBy_of_superseded hsup hrow _)]

omit [Truthy J] in
theorem completeTask_of_superseded {params : CompleteTaskParams}
    (hsup : Superseded s params.taskId params.claimToken) (now : ℤ) :
    ∃ finalStatus, completeTask s.tasks params now = .ok (s.tasks, ⟨false, finalStatus⟩) := by
  unfold completeTask
  dsimp only
  split
  · exact ⟨none, rfl⟩
  · rename_i row hrow
    rw [if_pos (not_heldBy_of_superseded hsup hrow _)]
    exact ⟨_, rfl⟩

/-! ## The life of a task -/

omit [Truthy J] in
theorem Ledger.bounds {n : ℕ} {r : ScheduledTaskRow J} (h : Ledger n r) :
    n ≤ allowedAttempts r ∧ 0 ≤ r.attemptCount ∧ r.attemptCount ≤ allowedAttempts r ∧
      (r.status = .failed ↔ r.attemptCount = allowedAttempts r) := by
  unfold Ledger at h
  cases hs : r.status <;> simp only [hs] at h <;> simp only [reduceCtorEq, true_iff, false_iff] <;>
    omega

/-- What holds of every task of a reachable state. -/
structure TaskLife (s : QueueState J) : Prop where
  /-- A task is handed out at most `max 1 maxAttempts` times. -/
  handouts : ∀ r ∈ s.tasks.rows, handoutCount s.handouts r.id ≤ max 1 r.maxAttempts
  attempts : ∀ r ∈ s.tasks.rows, 0 ≤ r.attemptCount ∧ r.attemptCount ≤ max 1 r.maxAttempts
  /-- It is a dead letter exactly when that many attempts have ended without a success. -/
  deadLetters : ∀ r ∈ s.tasks.rows, r.status = .failed ↔ r.attemptCount = max 1 r.maxAttempts
  /-- A worker whose token has been superseded changes nothing, now or after any further steps. -/
  fenced : ∀ (ls : List (QueueLabel J)) (s' : QueueState J) (id token : String),
    (taskQueue J).Along FreshTokens s ls → (taskQueue J).run s ls = some s' →
    Superseded s id token → ∀ workerId now,
      (∀ extendSec, heartbeatTask s'.tasks ⟨id, workerId, token, extendSec⟩ now =
        .ok (s'.tasks, false)) ∧
      ∀ success error, ∃ finalStatus,
        completeTask s'.tasks ⟨id, workerId, token, success, error⟩ now =
          .ok (s'.tasks, ⟨false, finalStatus⟩)

/-- Every run of the queue keeps the bounds on handouts and attempts, and its fences. -/
theorem taskLife_of_run {ls : List (QueueLabel J)} {s : QueueState J}
    (h : (taskQueue J).run ∅ ls = some s) : TaskLife s := by
  have hbounds : ∀ r ∈ s.tasks.rows, _ := fun r hr => ((ledgerInv_of_run h).ledger r hr).bounds
  refine ⟨fun r hr => (hbounds r hr).1, fun r hr => ⟨(hbounds r hr).2.1, (hbounds r hr).2.2.1⟩,
    fun r hr => (hbounds r hr).2.2.2, ?_⟩
  intro ls' s' id token hfresh h' hsup workerId now
  have hsup' : Superseded s' id token := superseded_of_run hsup hfresh h'
  exact ⟨fun extendSec => heartbeatTask_of_superseded hsup' now,
    fun success error => completeTask_of_superseded hsup' now⟩

end Runs

/-- A task with two attempts, polled, reclaimed and polled by another worker. -/
def reclaimedRun : List (QueueLabel Bool) :=
  [ .scheduleLookup { targetSpecId := "spec", inputPayload := ∅, maxAttempts := some 2 } 0,
    .scheduleInsert 0 "1",
    .poll { workerId := "w1" } 0 (fun _ => false) (fun _ => "a"),
    .reclaim 50 120000 (fun _ => false),
    .poll { workerId := "w2" } 200000 (fun _ => false) (fun _ => "b") ]

theorem taskLife_reclaimedRun : TaskLife (((taskQueue Bool).run ∅ reclaimedRun).getD ∅) :=
  taskLife_of_run (show (taskQueue Bool).run ∅ reclaimedRun = _ from rfl)

/-- A task that `scheduleTask` accepts with no attempts at all, polled and failed. -/
def zeroAttemptsRun : List (QueueLabel Bool) :=
  [ .scheduleLookup { targetSpecId := "spec", inputPayload := ∅, maxAttempts := some 0 } 0,
    .scheduleInsert 0 "1",
    .poll { workerId := "w1" } 0 (fun _ => false) (fun _ => "a"),
    .complete { taskId := "task_1", workerId := "w1", claimToken := "claim_a", success := false } 1 ]

/-- Without the lower bound of one attempt, neither bound holds. -/
theorem zeroAttemptsRun_exceeds : ∃ s, (taskQueue Bool).run ∅ zeroAttemptsRun = some s ∧
    ∃ r ∈ s.tasks.rows,
      r.maxAttempts < handoutCount s.handouts r.id ∧ r.maxAttempts < r.attemptCount :=
  ⟨((taskQueue Bool).run ∅ zeroAttemptsRun).getD ∅, rfl, by decide⟩

end JavisSaas.Cosa.ControlPlane
