import JavisSaas.Lib.Pool
import JavisSaas.Agent.Runs.Repository

/-!
# Change approvals and the outbox of their actions

`packages/agent/runs/repository.py`, both repositories. A change is requested under a key
(workspace, action, subject), decided once, and its action is put into an outbox from which workers
claim it and mark it delivered.

* `inMemorySystem`: one atomic step for each method.
* `postgresSystem`: one step for each statement; the decision is a transaction of three that holds
  its row, and a claim takes any of the due rows, since locked ones are skipped.
* `ChangeLedger.Step`: what either does to the tables, and to the history.
* `outboxLaw_of_run`: one pending approval for each key, an action exactly for the approved ones
  that are allow-listed, delivered at most once and by its holder.
-/

namespace JavisSaas.Agent.Runs

open JavisSaas.Lib JavisSaas.Agent.Governance
open RunApprovalRecord (status_decided)

/-! ## Records -/

def ALLOW_LISTED_CHANGE_ACTIONS : List String := ["promote_skill_candidate"]

def WORKFLOW_GATE_SUBJECT_KIND : String := "workflow_gate"

structure ApprovalSubject where
  kind : String
  ref : String
  definitionHash : String

/-- What `create_change_approval_request` is called with, and the identifier that it draws. -/
structure ChangeRequest where
  approvalId : String
  workspaceId : String
  projectId : Option String := none
  action : String
  subject : ApprovalSubject
  requirement : Option ApprovalRequirement := none
  requester : String

/-- The record of `create_change_approval_request`. -/
def ChangeRequest.record (r : ChangeRequest) : RunApprovalRecord where
  approvalId := r.approvalId
  workspaceId := some r.workspaceId
  projectId := r.projectId
  bindingKind := .changeRequest
  action := some r.action
  subject := some s!"{r.subject.kind}:{r.subject.ref}"
  subjectKind := some r.subject.kind
  subjectRef := some r.subject.ref
  subjectHash := some r.subject.definitionHash
  requirement := r.requirement
  requester := some r.requester

namespace RunApprovalRecord

/-- Allow-listed by its action, or as the gate of a workflow. -/
def IsAllowListed (a : RunApprovalRecord) : Prop :=
  (∃ action ∈ a.action, action ∈ ALLOW_LISTED_CHANGE_ACTIONS) ∨
    a.subjectKind = some WORKFLOW_GATE_SUBJECT_KIND
deriving Decidable

/-- The event "approval.decided". -/
def decidedEvent (a : RunApprovalRecord) (reviewer : String) (approved : Bool)
    (reason : Option String) : ApprovalEventRecord where
  approvalId := a.approvalId
  workspaceId := a.workspaceId.getD ""
  eventType := "approval.decided"
  actorId := some reviewer
  approved
  reason
  action := a.action

/-- The outbox record of an approval. -/
def outbox (a : RunApprovalRecord) (now : ℤ) : ApprovalActionOutboxRecord where
  approvalId := a.approvalId
  workspaceId := a.workspaceId.getD ""
  action := a.action.getD ""
  subjectKind := a.subjectKind
  subjectRef := a.subjectRef
  subjectHash := a.subjectHash.getD ""
  nextAttemptAt := now

end RunApprovalRecord

namespace ApprovalActionOutboxRecord

/-- Waiting, or claimed by a worker whose claim has expired. -/
def isDue (o : ApprovalActionOutboxRecord) (now : ℤ) : Bool :=
  o.state = .pending ∧ o.nextAttemptAt ≤ now ∨ o.state = .claimed ∧ o.nextAttemptAt ≤ now

def claim (o : ApprovalActionOutboxRecord) (workerId : String) (now : ℤ) :
    ApprovalActionOutboxRecord :=
  { o with
    state := .claimed
    claimToken := some workerId
    attemptCount := o.attemptCount + 1
    nextAttemptAt := now + 60 * 1000 }

def deliver (o : ApprovalActionOutboxRecord) (now : ℤ) : ApprovalActionOutboxRecord :=
  { o with state := .delivered, deliveredAt := some now }

end ApprovalActionOutboxRecord

/-! ## The methods in memory -/

namespace ApprovalStore

def setApproval (store : ApprovalStore) (approvalId : String) (a : RunApprovalRecord) :
    ApprovalStore :=
  { store with approvals := store.approvals.set approvalId a }

def setOutbox (store : ApprovalStore) (approvalId : String) (o : ApprovalActionOutboxRecord) :
    ApprovalStore :=
  { store with approvalOutbox := store.approvalOutbox.set approvalId o }

def appendApprovalEvent (store : ApprovalStore) (e : ApprovalEventRecord) : ApprovalStore :=
  { store with approvalEvents := store.approvalEvents ++ [e] }

def createOrGetPendingChangeApproval (store : ApprovalStore) (approval : RunApprovalRecord) :
    (RunApprovalRecord × Bool) × ApprovalStore :=
  match store.approvals.values.find? fun e =>
      e.IsPendingChange ∧ e.changeKey = approval.changeKey with
  | some existing => ((existing, false), store)
  | none => ((approval, true), store.setApproval approval.approvalId approval)

def decideChangeApprovalAndEnqueue (store : ApprovalStore) (approvalId reviewer : String)
    (approved : Bool) (reason : Option String) (evidence : Option Evidence) (now : ℤ) :
    Option RunApprovalRecord × ApprovalStore :=
  match store.approvals.get? approvalId with
  | none => (none, store)
  | some a =>
    if a.status ≠ .pending then (none, store)
    else
      let a := a.decided reviewer approved (if truthy reason then reason else a.reason)
        (if truthy evidence then evidence else a.evidence)
      let store := store.setApproval approvalId a
      let store := store.appendApprovalEvent (a.decidedEvent reviewer approved reason)
      if approved ∧ a.IsAllowListed then (some a, store.setOutbox a.approvalId (a.outbox now))
      else (some a, store)

/-- The named actions are claimed. -/
def claimActions (store : ApprovalStore) (ids : List String) (workerId : String) (now : ℤ) :
    ApprovalStore :=
  { store with
    approvalOutbox := store.approvalOutbox.mapValues fun approvalId o =>
      if approvalId ∈ ids then o.claim workerId now else o }

/-- The first `limit` actions that are due. -/
def dueActions (store : ApprovalStore) (limit : ℕ) (now : ℤ) : List String :=
  ((store.approvalOutbox.items.filter fun item => item.2.isDue now).take limit).map Prod.fst

/-- `claim_approval_actions`; returns the claimed records. -/
def claimApprovalActions (store : ApprovalStore) (limit : ℕ) (workerId : String) (now : ℤ) :
    List ApprovalActionOutboxRecord × ApprovalStore :=
  let ids := store.dueActions limit now
  let store := store.claimActions ids workerId now
  (ids.filterMap store.approvalOutbox.get?, store)

def markApprovalActionDelivered (store : ApprovalStore) (approvalId workerId : String) (now : ℤ) :
    Bool × ApprovalStore :=
  match store.approvalOutbox.get? approvalId with
  | some o =>
    if o.claimToken = some workerId ∧ o.state = .claimed then
      (true, store.setOutbox approvalId (o.deliver now))
    else (false, store)
  | none => (false, store)

end ApprovalStore

/-! ## The ledger -/

inductive OutboxEvent where
  | claimed (approvalIds : List String) (workerId : String)
  | delivered (approvalId workerId : String)

/-- The worker of the last claim of an action. -/
def holder (log : List OutboxEvent) (approvalId : String) : Option String :=
  log.foldl (fun holder e =>
    match e with
    | .claimed approvalIds workerId => if approvalId ∈ approvalIds then some workerId else holder
    | .delivered _ _ => holder) none

/-- The tables, and the history of claims and deliveries. -/
structure ChangeLedger where
  store : ApprovalStore := {}
  log : List OutboxEvent := []

/-! ## The repository in memory -/

inductive ChangeLabel where
  | createOrGet (request : ChangeRequest)
  | decide (approvalId reviewer : String) (approved : Bool) (reason : Option String)
      (evidence : Option Evidence) (now : ℤ)
  | claim (limit : ℕ) (workerId : String) (now : ℤ)
  | deliver (approvalId workerId : String) (now : ℤ)

def inMemoryNext (l : ChangeLedger) : ChangeLabel → ChangeLedger
  | .createOrGet request =>
    { l with store := (l.store.createOrGetPendingChangeApproval request.record).2 }
  | .decide approvalId reviewer approved reason evidence now =>
    { l with
      store := (l.store.decideChangeApprovalAndEnqueue approvalId reviewer approved reason evidence
        now).2 }
  | .claim limit workerId now => {
      store := (l.store.claimApprovalActions limit workerId now).2
      log := l.log ++ [OutboxEvent.claimed (l.store.dueActions limit now) workerId] }
  | .deliver approvalId workerId now =>
    let (marked, store) := l.store.markApprovalActionDelivered approvalId workerId now
    { store, log := if marked then l.log ++ [OutboxEvent.delivered approvalId workerId] else l.log }

def inMemorySystem : System ChangeLedger ChangeLabel := ⟨fun l label => some (inMemoryNext l label)⟩

/-- The identifier of a request is new, as `uuid4` draws it. -/
def FreshId (l : ChangeLedger) : ChangeLabel → Prop
  | .createOrGet request => l.store.approvals.get? request.approvalId = none
  | _ => True

instance (l : ChangeLedger) : DecidablePred (FreshId l) := fun label =>
  match label with
  | .createOrGet _ => inferInstanceAs (Decidable (_ = none))
  | .decide .. => instDecidableTrue
  | .claim .. => instDecidableTrue
  | .deliver .. => instDecidableTrue

/-! ## The repository in Postgres -/

/-- A transaction, by its last statement. -/
inductive ChangeTx where
  /-- the `INSERT` met a pending approval of the same key -/
  | conflicted (approval : RunApprovalRecord)
  | answered (approval : RunApprovalRecord) (isNew : Bool)
  /-- the `UPDATE` of a decision, and the event to be written -/
  | updated (a : RunApprovalRecord) (event : ApprovalEventRecord) (now : ℤ)
  | recorded (a : RunApprovalRecord) (event : ApprovalEventRecord) (now : ℤ)
  | enqueued (a : RunApprovalRecord) (event : ApprovalEventRecord)
      (action : Option ApprovalActionOutboxRecord)
  | ended

/-- The decision that a transaction has not committed yet. -/
def ChangeTx.decision : ChangeTx → Option RunApprovalRecord
  | updated a _ _ => some a
  | recorded a _ _ => some a
  | enqueued a _ _ => some a
  | _ => none

structure PostgresState where
  ledger : ChangeLedger := {}
  txs : List ChangeTx := []

namespace PostgresState

/-- No decision in flight holds a row that satisfies `p`. -/
def Unheld (s : PostgresState) (p : RunApprovalRecord → Prop) : Prop :=
  ∀ tx ∈ s.txs, ∀ a ∈ tx.decision, ∀ old ∈ s.ledger.store.approvals.get? a.approvalId, ¬p old

instance (s : PostgresState) (p : RunApprovalRecord → Prop) [DecidablePred p] :
    Decidable (s.Unheld p) :=
  inferInstanceAs (Decidable (∀ tx ∈ s.txs, ∀ a ∈ tx.decision, ∀ old ∈ _, ¬p old))

def setTx (s : PostgresState) (i : ℕ) (tx : ChangeTx) : PostgresState :=
  { s with txs := s.txs.set i tx }

def addTx (s : PostgresState) (tx : ChangeTx) : PostgresState := { s with txs := s.txs ++ [tx] }

def setStore (s : PostgresState) (store : ApprovalStore) : PostgresState :=
  { s with ledger := { s.ledger with store } }

end PostgresState

/-- What a committed decision writes. -/
def ApprovalStore.commitDecision (store : ApprovalStore) (a : RunApprovalRecord)
    (event : ApprovalEventRecord) (action : Option ApprovalActionOutboxRecord) : ApprovalStore :=
  let store := (store.setApproval a.approvalId a).appendApprovalEvent event
  match action with
  | some o => store.setOutbox a.approvalId o
  | none => store

inductive PostgresLabel where
  | insert (request : ChangeRequest)
  | select (i : ℕ)
  | update (approvalId reviewer : String) (approved : Bool) (reason : Option String)
      (evidence : Option Evidence) (now : ℤ)
  | appendEvent (i : ℕ)
  | enqueue (i : ℕ)
  | commit (i : ℕ)
  | rollback (i : ℕ)
  | claim (ids : List String) (limit : ℕ) (workerId : String) (now : ℤ)
  | deliver (approvalId workerId : String) (now : ℤ)

def postgresNext (s : PostgresState) : PostgresLabel → Option PostgresState
  | .insert request =>
    let approval := request.record
    let store := s.ledger.store
    -- the check of the index waits for the decision of a row that it meets
    if s.Unheld (·.Conflicts approval) then
      if ∃ e ∈ store.approvals.values, e.Conflicts approval then
        some (s.addTx (.conflicted approval))
      -- the primary key
      else if (store.approvals.get? approval.approvalId).isSome then some s
      else some ((s.setStore (store.setApproval approval.approvalId approval)).addTx
        (.answered approval true))
    else none
  | .select i =>
    match s.txs[i]? with
    | some (.conflicted approval) =>
      match s.ledger.store.approvals.values.find? fun e => e.Conflicts approval with
      | some existing => some (s.setTx i (.answered existing false))
      | none => some (s.setTx i (.answered approval true))
    | _ => none
  | .update approvalId reviewer approved reason evidence now =>
    if s.Unheld fun old => old.approvalId = approvalId then
      match s.ledger.store.approvals.get? approvalId with
      | some old =>
        if old.status = .pending then
          let a := old.decided reviewer approved (reason.or old.reason) (evidence.or old.evidence)
          some (s.addTx (.updated a (a.decidedEvent reviewer approved reason) now))
        else some s
      | none => some s
    else none
  | .appendEvent i =>
    match s.txs[i]? with
    | some (.updated a event now) => some (s.setTx i (.recorded a event now))
    | _ => none
  | .enqueue i =>
    match s.txs[i]? with
    | some (.recorded a event now) =>
      let action :=
        if a.status = .approved ∧ a.IsAllowListed ∧
            s.ledger.store.approvalOutbox.get? a.approvalId = none then some (a.outbox now)
        else none
      some (s.setTx i (.enqueued a event action))
    | _ => none
  | .commit i =>
    match s.txs[i]? with
    | some (.enqueued a event action) =>
      some ((s.setTx i .ended).setStore (s.ledger.store.commitDecision a event action))
    | _ => none
  | .rollback i =>
    match s.txs[i]? with
    | some _ => some (s.setTx i .ended)
    | none => none
  | .claim ids limit workerId now =>
    let store := s.ledger.store
    if ids.Nodup ∧ ids.length ≤ limit ∧
        ∀ id ∈ ids, ∃ o ∈ store.approvalOutbox.get? id, o.isDue now then
      some { s with
        ledger := {
          store := store.claimActions ids workerId now
          log := s.ledger.log ++ [OutboxEvent.claimed ids workerId] } }
    else none
  | .deliver approvalId workerId now =>
    some { s with ledger := inMemoryNext s.ledger (.deliver approvalId workerId now) }

def postgresSystem : System PostgresState PostgresLabel := ⟨postgresNext⟩

/-! ## The law of the ledger -/

/-- A delivery is the first one of its action, by the worker that claimed it last. -/
def DeliveredByHolder (pre : List OutboxEvent) (e : OutboxEvent) : Prop :=
  ∀ approvalId workerId, e = .delivered approvalId workerId →
    holder pre approvalId = some workerId ∧ ∀ w, .delivered approvalId w ∉ pre

structure OutboxLaw (l : ChangeLedger) : Prop where
  onePending : ∀ i j a b, l.store.approvals.get? i = some a → l.store.approvals.get? j = some b →
    a.IsPendingChange → b.IsPendingChange → a.changeKey = b.changeKey → i = j
  enqueued : ∀ approvalId, (l.store.approvalOutbox.get? approvalId).isSome ↔
    ∃ a, l.store.approvals.get? approvalId = some a ∧ a.status = .approved ∧ a.IsAllowListed
  delivered : ∀ pre e post, l.log = pre ++ e :: post → DeliveredByHolder pre e

/-- The law, with what the tables say about the history. -/
structure ChangeLedger.Inv (l : ChangeLedger) : Prop extends OutboxLaw l where
  keyed : ∀ approvalId a, l.store.approvals.get? approvalId = some a → a.approvalId = approvalId
  complete : ∀ approvalId a, l.store.approvals.get? approvalId = some a → a.changeKey.IsComplete
  holders : ∀ approvalId o, l.store.approvalOutbox.get? approvalId = some o →
    o.state = .claimed → o.claimToken = holder l.log approvalId
  final : ∀ approvalId w, .delivered approvalId w ∈ l.log →
    ∃ o, l.store.approvalOutbox.get? approvalId = some o ∧ o.state = .delivered

/-- What the methods of either repository do. -/
inductive ChangeLedger.Step (l : ChangeLedger) : ChangeLedger → Prop
  | stay : Step l l
  | request (r : ChangeRequest) (hnew : l.store.approvals.get? r.approvalId = none)
      (hfree : ∀ approvalId e, l.store.approvals.get? approvalId = some e → e.IsPendingChange →
        e.changeKey ≠ r.record.changeKey) :
      Step l { l with store := l.store.setApproval r.approvalId r.record }
  | decide (old a : RunApprovalRecord) (event : ApprovalEventRecord)
      (action : Option ApprovalActionOutboxRecord)
      (hold : l.store.approvals.get? a.approvalId = some old) (hpending : old.status = .pending)
      (hdecided : a.status ≠ .pending) (hkey : a.changeKey = old.changeKey)
      (haction : action.isSome ↔ a.status = .approved ∧ a.IsAllowListed)
      (hfresh : ∀ o ∈ action, o.state = .pending) :
      Step l { l with store := l.store.commitDecision a event action }
  | claim (ids : List String) (workerId : String) (now : ℤ)
      (hdue : ∀ id ∈ ids, ∃ o ∈ l.store.approvalOutbox.get? id, o.isDue now) :
      Step l {
        store := l.store.claimActions ids workerId now
        log := l.log ++ [OutboxEvent.claimed ids workerId] }
  | deliver (approvalId workerId : String) (now : ℤ) (o : ApprovalActionOutboxRecord)
      (ho : l.store.approvalOutbox.get? approvalId = some o)
      (htoken : o.claimToken = some workerId) (hclaimed : o.state = .claimed) :
      Step l {
        store := l.store.setOutbox approvalId (o.deliver now)
        log := l.log ++ [OutboxEvent.delivered approvalId workerId] }

/-! ### What a step writes -/

section

variable {l l' : ChangeLedger} {log : List OutboxEvent} {approvalId workerId : String}

@[simp] theorem holder_claimed (ids : List String) :
    holder (log ++ [OutboxEvent.claimed ids workerId]) approvalId =
      if approvalId ∈ ids then some workerId else holder log approvalId := by
  simp [holder, List.foldl_append]

@[simp] theorem holder_delivered (id : String) :
    holder (log ++ [OutboxEvent.delivered id workerId]) approvalId = holder log approvalId := by
  simp [holder, List.foldl_append]

@[simp] theorem get?_setApproval (store : ApprovalStore) (a : RunApprovalRecord) (id : String) :
    (store.setApproval approvalId a).approvals.get? id =
      if approvalId = id then some a else store.approvals.get? id :=
  Dict.get?_set _ _ _ _

@[simp] theorem get?_setOutbox (store : ApprovalStore) (o : ApprovalActionOutboxRecord)
    (id : String) : (store.setOutbox approvalId o).approvalOutbox.get? id =
      if approvalId = id then some o else store.approvalOutbox.get? id :=
  Dict.get?_set _ _ _ _

theorem get?_claimActions (store : ApprovalStore) (ids : List String) (now : ℤ) (id : String) :
    (store.claimActions ids workerId now).approvalOutbox.get? id =
      (store.approvalOutbox.get? id).map fun o => if id ∈ ids then o.claim workerId now else o :=
  Dict.get?_mapValues _ _ _

section

variable (store : ApprovalStore) (a : RunApprovalRecord) (event : ApprovalEventRecord)
  (action : Option ApprovalActionOutboxRecord) (id : String)

theorem get?_approvals_commitDecision : (store.commitDecision a event action).approvals.get? id =
    if a.approvalId = id then some a else store.approvals.get? id := by
  cases action <;> exact get?_setApproval store a id

theorem get?_outbox_commitDecision : (store.commitDecision a event action).approvalOutbox.get? id =
    if a.approvalId = id then action.or (store.approvalOutbox.get? id)
    else store.approvalOutbox.get? id := by
  cases action with
  | none =>
    show store.approvalOutbox.get? id = _
    simp
  | some o => exact get?_setOutbox _ o id

end

variable {a : RunApprovalRecord} {action : Option ApprovalActionOutboxRecord} {now : ℤ}

theorem OutboxLaw.outbox_of_pending (h : OutboxLaw l)
    (ha : l.store.approvals.get? approvalId = some a) (hpending : a.status = .pending) :
    l.store.approvalOutbox.get? approvalId = none := by
  rw [← Option.not_isSome_iff_eq_none, h.enqueued]
  rintro ⟨b, hb, happroved, -⟩
  cases ha.symm.trans hb
  rw [hpending] at happroved
  nomatch happroved

theorem ChangeRequest.isComplete (r : ChangeRequest) : r.record.changeKey.IsComplete :=
  ⟨rfl, rfl, rfl, rfl, rfl⟩

/-! ### The steps keep the law -/

theorem ChangeLedger.Inv.request (h : l.Inv) (r : ChangeRequest)
    (hnew : l.store.approvals.get? r.approvalId = none)
    (hfree : ∀ approvalId e, l.store.approvals.get? approvalId = some e → e.IsPendingChange →
      e.changeKey ≠ r.record.changeKey) :
    ChangeLedger.Inv { l with store := l.store.setApproval r.approvalId r.record } where
  onePending i j a b ha hb hpa hpb hkey := by
    simp only [get?_setApproval] at ha hb
    split_ifs at ha hb with hi hj hj
    · exact hi.symm.trans hj
    · cases ha
      exact absurd hkey.symm (hfree j b hb hpb)
    · cases hb
      exact absurd hkey (hfree i a ha hpa)
    · exact h.onePending i j a b ha hb hpa hpb hkey
  enqueued approvalId := by
    rw [show ({ l with store := l.store.setApproval r.approvalId r.record } :
      ChangeLedger).store.approvalOutbox = l.store.approvalOutbox from rfl, h.enqueued]
    simp only [get?_setApproval]
    split_ifs with hid
    · subst hid
      constructor
      · rintro ⟨a, ha, -⟩
        rw [hnew] at ha
        nomatch ha
      · rintro ⟨a, ha, happroved, -⟩
        cases ha
        nomatch happroved
    · exact Iff.rfl
  delivered := h.delivered
  keyed approvalId a ha := by
    simp only [get?_setApproval] at ha
    split_ifs at ha with hid
    · cases ha
      exact hid
    · exact h.keyed approvalId a ha
  complete approvalId a ha := by
    simp only [get?_setApproval] at ha
    split_ifs at ha with hid
    · cases ha
      exact r.isComplete
    · exact h.complete approvalId a ha
  holders := h.holders
  final := h.final

theorem ChangeLedger.Inv.decide (h : l.Inv) (event : ApprovalEventRecord) {old : RunApprovalRecord}
    (hold : l.store.approvals.get? a.approvalId = some old) (hpending : old.status = .pending)
    (hdecided : a.status ≠ .pending) (hkey : a.changeKey = old.changeKey)
    (haction : action.isSome ↔ a.status = .approved ∧ a.IsAllowListed)
    (hfresh : ∀ o ∈ action, o.state = .pending) :
    ChangeLedger.Inv { l with store := l.store.commitDecision a event action } := by
  have hnone := h.outbox_of_pending hold hpending
  refine ⟨⟨?_, ?_, h.delivered⟩, ?_, ?_, ?_, ?_⟩
  · intro i j b c hb hc hpb hpc hbc
    simp only [get?_approvals_commitDecision] at hb hc
    split_ifs at hb hc with hi hj hj
    · exact hi.symm.trans hj
    · cases hb
      exact absurd hpb.2 hdecided
    · cases hc
      exact absurd hpc.2 hdecided
    · exact h.onePending i j b c hb hc hpb hpc hbc
  · intro id
    simp only [get?_approvals_commitDecision, get?_outbox_commitDecision]
    split_ifs with hid
    · subst hid
      rw [hnone, Option.or_none, haction]
      constructor
      · exact fun hlisted => ⟨a, rfl, hlisted⟩
      · rintro ⟨b, hb, hlisted⟩
        exact Option.some.inj hb ▸ hlisted
    · exact h.enqueued id
  · intro id b hb
    simp only [get?_approvals_commitDecision] at hb
    split_ifs at hb with hid
    · exact Option.some.inj hb ▸ hid
    · exact h.keyed id b hb
  · intro id b hb
    simp only [get?_approvals_commitDecision] at hb
    split_ifs at hb with hid
    · cases hb
      rw [hkey]
      exact h.complete _ old hold
    · exact h.complete id b hb
  · intro id o ho hclaimed
    simp only [get?_outbox_commitDecision] at ho
    split_ifs at ho with hid
    · subst hid
      rw [hnone, Option.or_none] at ho
      rw [hfresh o ho] at hclaimed
      nomatch hclaimed
    · exact h.holders id o ho hclaimed
  · intro id w hw
    obtain ⟨o, ho, hstate⟩ := h.final id w hw
    simp only [get?_outbox_commitDecision]
    split_ifs with hid
    · subst hid
      rw [hnone] at ho
      nomatch ho
    · exact ⟨o, ho, hstate⟩

theorem ChangeLedger.Inv.claim (h : l.Inv) {ids : List String}
    (hdue : ∀ id ∈ ids, ∃ o ∈ l.store.approvalOutbox.get? id, o.isDue now) :
    ChangeLedger.Inv {
      store := l.store.claimActions ids workerId now
      log := l.log ++ [OutboxEvent.claimed ids workerId] } where
  onePending := h.onePending
  enqueued id := by
    rw [get?_claimActions, Option.isSome_map]
    exact h.enqueued id
  delivered := forall_split_snoc.mpr ⟨h.delivered, fun _ _ heq => nomatch heq⟩
  keyed := h.keyed
  complete := h.complete
  holders id o ho hclaimed := by
    rw [get?_claimActions] at ho
    obtain ⟨o', ho', rfl⟩ := Option.map_eq_some_iff.mp ho
    rw [holder_claimed]
    split_ifs with hid
    · rfl
    · rw [if_neg hid] at hclaimed
      exact h.holders id o' ho' hclaimed
  final id w hw := by
    have hold : OutboxEvent.delivered id w ∈ l.log := by simpa using hw
    obtain ⟨o, ho, hstate⟩ := h.final id w hold
    have hnot : id ∉ ids := by
      intro hid
      obtain ⟨o', ho', hd⟩ := hdue id hid
      cases ho.symm.trans ho'
      simp [ApprovalActionOutboxRecord.isDue, hstate] at hd
    exact ⟨o, by rw [get?_claimActions, ho]; simp [hnot], hstate⟩

theorem ChangeLedger.Inv.deliver (h : l.Inv) {o : ApprovalActionOutboxRecord}
    (ho : l.store.approvalOutbox.get? approvalId = some o) (htoken : o.claimToken = some workerId)
    (hclaimed : o.state = .claimed) :
    ChangeLedger.Inv {
      store := l.store.setOutbox approvalId (o.deliver now)
      log := l.log ++ [OutboxEvent.delivered approvalId workerId] } where
  onePending := h.onePending
  enqueued id := by
    rw [get?_setOutbox]
    split_ifs with hid
    · subst hid
      refine Iff.trans ?_ (h.enqueued approvalId)
      rw [ho]
      rfl
    · exact h.enqueued id
  delivered := by
    refine forall_split_snoc.mpr ⟨h.delivered, fun id w heq => ?_⟩
    cases heq
    refine ⟨(h.holders _ o ho hclaimed).symm.trans htoken, fun w hw => ?_⟩
    -- the action would have been delivered already
    obtain ⟨o', ho', hstate⟩ := h.final _ w hw
    cases ho.symm.trans ho'
    rw [hstate] at hclaimed
    nomatch hclaimed
  keyed := h.keyed
  complete := h.complete
  holders id o' ho' hclaimed' := by
    rw [get?_setOutbox] at ho'
    rw [holder_delivered]
    split_ifs at ho' with hid
    · cases ho'
      nomatch hclaimed'
    · exact h.holders id o' ho' hclaimed'
  final id w hw := by
    rw [get?_setOutbox]
    split_ifs with hid
    · exact ⟨o.deliver now, rfl, rfl⟩
    · rcases mem_concat hw with hw | hw
      · exact h.final id w hw
      · cases hw
        exact absurd rfl hid

theorem ChangeLedger.Inv.step (h : l.Inv) (hs : l.Step l') : l'.Inv := by
  cases hs with
  | stay => exact h
  | request r hnew hfree => exact h.request r hnew hfree
  | decide _ _ event _ hold hpending hdecided hkey haction hfresh =>
    exact h.decide event hold hpending hdecided hkey haction hfresh
  | claim _ _ _ hdue => exact h.claim hdue
  | deliver _ _ _ _ ho htoken hclaimed => exact h.deliver ho htoken hclaimed

theorem ChangeLedger.inv_start : ChangeLedger.Inv {} where
  onePending _ _ _ _ h := nomatch h
  enqueued approvalId := by
    constructor
    · exact fun h => nomatch h
    · rintro ⟨a, ha, -⟩
      nomatch ha
  delivered pre e post h := by simp at h
  keyed _ _ h := nomatch h
  complete _ _ h := nomatch h
  holders _ _ h := nomatch h
  final _ _ h := nomatch h

/-! ### The repository in memory -/

theorem ChangeLedger.Inv.step_decide (h : l.Inv) (reviewer : String) (approved : Bool)
    (reason : Option String) (evidence : Option Evidence) (now : ℤ) :
    l.Step (inMemoryNext l (.decide approvalId reviewer approved reason evidence now)) := by
  simp only [inMemoryNext, ApprovalStore.decideChangeApprovalAndEnqueue]
  cases hold : l.store.approvals.get? approvalId with
  | none => exact .stay
  | some old =>
    by_cases hpending : old.status = .pending
    · have hid := h.keyed approvalId old hold
      subst hid
      simp only [hpending, ne_eq, not_true_eq_false, if_false]
      generalize hr : (if truthy reason then reason else old.reason) = r
      generalize he : (if truthy evidence then evidence else old.evidence) = e
      have hdecided : (old.decided reviewer approved r e).status ≠ .pending := by
        rw [status_decided]; split_ifs <;> exact fun h => nomatch h
      split_ifs with hlisted
      · refine .decide old (old.decided reviewer approved r e) _
          (some ((old.decided reviewer approved r e).outbox now)) hold hpending hdecided rfl ?_ ?_
        · rw [status_decided, if_pos hlisted.1]
          exact ⟨fun _ => ⟨rfl, hlisted.2⟩, fun _ => rfl⟩
        · rintro o ⟨⟩
          rfl
      · refine .decide old (old.decided reviewer approved r e) _ none hold hpending hdecided rfl ?_
          nofun
        rw [status_decided]
        constructor
        · exact fun h => nomatch h
        · rintro ⟨happroved, hallowed⟩
          refine absurd ⟨?_, hallowed⟩ hlisted
          by_contra hnot
          rw [if_neg hnot] at happroved
          nomatch happroved
    · simp only [ne_eq, hpending, not_false_eq_true, if_true]
      exact .stay

theorem isDue_of_mem_dueActions {store : ApprovalStore} {limit : ℕ} {id : String}
    (h : id ∈ store.dueActions limit now) : ∃ o ∈ store.approvalOutbox.get? id, o.isDue now := by
  obtain ⟨⟨id', o⟩, hitem, rfl⟩ := List.mem_map.mp h
  obtain ⟨hmem, hdue⟩ := List.mem_filter.mp (List.mem_of_mem_take hitem)
  exact ⟨o, Dict.get?_eq_some.mpr hmem, hdue⟩

/-- Either the worker holds the action, and it is marked, or nothing is written. -/
theorem markApprovalActionDelivered_cases (store : ApprovalStore) (approvalId workerId : String)
    (now : ℤ) :
    (∃ o, store.approvalOutbox.get? approvalId = some o ∧ o.claimToken = some workerId ∧
      o.state = .claimed ∧ store.markApprovalActionDelivered approvalId workerId now =
        (true, store.setOutbox approvalId (o.deliver now))) ∨
    store.markApprovalActionDelivered approvalId workerId now = (false, store) := by
  rw [ApprovalStore.markApprovalActionDelivered]
  cases ho : store.approvalOutbox.get? approvalId with
  | none => exact Or.inr rfl
  | some o =>
    by_cases hheld : o.claimToken = some workerId ∧ o.state = .claimed
    · exact Or.inl ⟨o, rfl, hheld.1, hheld.2, if_pos hheld⟩
    · exact Or.inr (if_neg hheld)

theorem ChangeLedger.step_deliver (l : ChangeLedger) (approvalId workerId : String) (now : ℤ) :
    l.Step (inMemoryNext l (.deliver approvalId workerId now)) := by
  rw [inMemoryNext]
  obtain ⟨o, ho, htoken, hclaimed, hmark⟩ | hmark :=
    markApprovalActionDelivered_cases l.store approvalId workerId now
  · rw [hmark]
    exact .deliver approvalId workerId now o ho htoken hclaimed
  · rw [hmark]
    exact .stay

theorem ChangeLedger.Inv.step_inMemory (h : l.Inv) {label : ChangeLabel}
    (hfresh : FreshId l label) : l.Step (inMemoryNext l label) := by
  cases label with
  | createOrGet request =>
    simp only [inMemoryNext, ApprovalStore.createOrGetPendingChangeApproval]
    cases hfind : l.store.approvals.values.find? fun e =>
        e.IsPendingChange ∧ e.changeKey = request.record.changeKey with
    | some => exact .stay
    | none =>
      refine .request request hfresh fun id e he hpending hkey => ?_
      have hnot := List.find?_eq_none.mp hfind e (Dict.mem_values.mpr ⟨id, he⟩)
      exact hnot (decide_eq_true ⟨hpending, hkey⟩)
  | decide _ reviewer approved reason evidence now =>
    exact h.step_decide reviewer approved reason evidence now
  | claim limit workerId now =>
    exact .claim (l.store.dueActions limit now) workerId now fun id => isDue_of_mem_dueActions
  | deliver approvalId workerId now => exact l.step_deliver approvalId workerId now

/-! ### The repository in Postgres -/

/-- What a decision in flight says about its row. -/
structure DecisionSound (l : ChangeLedger) (tx : ChangeTx) : Prop where
  held : ∀ a ∈ tx.decision, ∃ old, l.store.approvals.get? a.approvalId = some old ∧
    old.status = .pending ∧ a.status ≠ .pending ∧ a.changeKey = old.changeKey
  action : ∀ a event action, tx = .enqueued a event action →
    (action.isSome ↔ a.status = .approved ∧ a.IsAllowListed) ∧ ∀ o ∈ action, o.state = .pending

structure PostgresState.Inv (s : PostgresState) : Prop where
  ledger : s.ledger.Inv
  sound : ∀ tx ∈ s.txs, DecisionSound s.ledger tx
  /-- at most one decision in flight for each approval -/
  lock : ∀ (i j : ℕ) (tx tx' : ChangeTx), s.txs[i]? = some tx → s.txs[j]? = some tx' →
    ∀ a ∈ tx.decision, ∀ b ∈ tx'.decision, a.approvalId = b.approvalId → i = j

variable {s s' : PostgresState} {tx : ChangeTx} {i : ℕ}

theorem DecisionSound.of_none (l : ChangeLedger) (hnone : tx.decision = none) :
    DecisionSound l tx where
  held a ha := by rw [hnone] at ha; nomatch ha
  action a event action h := by rw [h] at hnone; nomatch hnone

theorem PostgresState.Inv.addTx (h : s.Inv) (hsound : DecisionSound s.ledger tx)
    (hlock : ∀ a ∈ tx.decision, ∀ tx' ∈ s.txs, ∀ b ∈ tx'.decision, b.approvalId ≠ a.approvalId) :
    (s.addTx tx).Inv where
  ledger := h.ledger
  sound u hu := by
    rcases mem_concat hu with hu | hu
    · exact h.sound u hu
    · exact hu ▸ hsound
  lock j k u u' hj hk a ha b hb hab := by
    have hcases : ∀ (j : ℕ) (u : ChangeTx), (s.txs ++ [tx])[j]? = some u →
        s.txs[j]? = some u ∨ j = s.txs.length ∧ u = tx := by
      intro j u hj
      rcases Nat.lt_trichotomy j s.txs.length with hlt | heq | hgt
      · rw [List.getElem?_append_left hlt] at hj
        exact Or.inl hj
      · subst heq
        rw [List.getElem?_concat_length] at hj
        exact Or.inr ⟨rfl, (Option.some.inj hj).symm⟩
      · rw [List.getElem?_eq_none (by simp; omega)] at hj
        cases hj
    rcases hcases j u hj with hold | ⟨rfl, rfl⟩ <;> rcases hcases k u' hk with hold' | ⟨rfl, rfl⟩
    · exact h.lock j k u u' hold hold' a ha b hb hab
    · exact absurd hab (hlock b hb u (List.mem_of_getElem? hold) a ha)
    · exact absurd hab.symm (hlock a ha u' (List.mem_of_getElem? hold') b hb)
    · rfl

theorem PostgresState.Inv.addTx_of_none (h : s.Inv) (hnone : tx.decision = none) :
    (s.addTx tx).Inv :=
  h.addTx (.of_none s.ledger hnone) fun a ha => by rw [hnone] at ha; nomatch ha

/-- A transaction moves on, with the decision that it had or with none. -/
theorem PostgresState.Inv.setTx (h : s.Inv) {tx' : ChangeTx} (ht : s.txs[i]? = some tx)
    (hsound : DecisionSound s.ledger tx') (hsame : tx'.decision = tx.decision ∨ tx'.decision = none) :
    (s.setTx i tx').Inv where
  ledger := h.ledger
  sound u hu := by
    rcases List.mem_or_eq_of_mem_set hu with hu | rfl
    · exact h.sound u hu
    · exact hsound
  lock j k u u' hj hk a ha b hb hab := by
    have hcases : ∀ (j : ℕ) (u : ChangeTx), (s.txs.set i tx')[j]? = some u →
        ∀ a ∈ u.decision, ∃ v, s.txs[j]? = some v ∧ a ∈ v.decision := by
      intro j u hj a ha
      rw [List.getElem?_set] at hj
      split_ifs at hj with hij
      · cases hj
        subst hij
        rcases hsame with hsame | hnone
        · exact ⟨tx, ht, hsame ▸ ha⟩
        · rw [hnone] at ha
          nomatch ha
      · exact ⟨u, hj, ha⟩
    obtain ⟨v, hv, hav⟩ := hcases j u hj a ha
    obtain ⟨v', hv', hbv⟩ := hcases k u' hk b hb
    exact h.lock j k v v' hv hv' a hav b hbv hab

/-- The tables change, but for the rows that decisions in flight hold. -/
theorem PostgresState.Inv.setLedger (h : s.Inv) (hl : l'.Inv)
    (hsame : ∀ tx ∈ s.txs, ∀ a ∈ tx.decision,
      l'.store.approvals.get? a.approvalId = s.ledger.store.approvals.get? a.approvalId) :
    PostgresState.Inv { s with ledger := l' } where
  ledger := hl
  sound tx htx := by
    refine ⟨fun a ha => ?_, (h.sound tx htx).action⟩
    rw [hsame tx htx a ha]
    exact (h.sound tx htx).held a ha
  lock := h.lock

theorem PostgresState.Inv.insert (h : s.Inv) {request : ChangeRequest}
    (hfree : ¬∃ e ∈ s.ledger.store.approvals.values, e.Conflicts request.record)
    (hnew : s.ledger.store.approvals.get? request.approvalId = none) :
    ((s.setStore (s.ledger.store.setApproval request.approvalId request.record)).addTx
      (.answered request.record true)).Inv := by
  have hl := h.ledger.request request hnew fun id e he hpending hkey =>
    hfree ⟨e, Dict.mem_values.mpr ⟨id, he⟩, hpending, ⟨rfl, rfl⟩, hkey, request.isComplete⟩
  refine PostgresState.Inv.addTx_of_none (h.setLedger hl fun tx htx a ha => ?_) rfl
  obtain ⟨old, hold, -⟩ := (h.sound tx htx).held a ha
  show (s.ledger.store.setApproval _ _).approvals.get? _ = _
  rw [get?_setApproval, if_neg]
  intro heq
  rw [← heq, hnew] at hold
  nomatch hold

theorem PostgresState.Inv.update (h : s.Inv) {reviewer : String} {approved : Bool}
    {old : RunApprovalRecord} (hold : s.ledger.store.approvals.get? approvalId = some old)
    (hpending : old.status = .pending)
    (hheld : s.Unheld fun old => old.approvalId = approvalId) (reason : Option String)
    (evidence : Option Evidence) (event : ApprovalEventRecord) (now : ℤ) :
    (s.addTx (.updated (old.decided reviewer approved reason evidence) event now)).Inv := by
  have hid := h.ledger.keyed approvalId old hold
  subst hid
  have hdecided : (old.decided reviewer approved reason evidence).status ≠ .pending := by
    rw [status_decided]
    split_ifs <;> exact fun h => nomatch h
  refine h.addTx ⟨fun a ha => ?_, fun a event action h => nomatch h⟩ fun a ha tx' htx' b hb hab => ?_
  · cases ha
    exact ⟨old, hold, hpending, hdecided, rfl⟩
  · cases ha
    obtain ⟨row, hrow, -⟩ := (h.sound tx' htx').held b hb
    exact hheld tx' htx' b hb row hrow ((h.ledger.keyed _ row hrow).trans hab)

theorem PostgresState.Inv.commit (h : s.Inv) {event : ApprovalEventRecord}
    (ht : s.txs[i]? = some (.enqueued a event action)) :
    ((s.setTx i .ended).setStore (s.ledger.store.commitDecision a event action)).Inv := by
  have hsound := h.sound _ (List.mem_of_getElem? ht)
  obtain ⟨old, hold, hpending, hdecided, hkey⟩ := hsound.held a rfl
  obtain ⟨haction, hfresh⟩ := hsound.action a event action rfl
  have hl := h.ledger.decide event hold hpending hdecided hkey haction hfresh
  have hended : (s.setTx i .ended).Inv := h.setTx ht (.of_none _ rfl) (Or.inr rfl)
  refine hended.setLedger hl fun tx htx b hb => ?_
  show (s.ledger.store.commitDecision a event action).approvals.get? b.approvalId = _
  rw [get?_approvals_commitDecision, if_neg]
  · rfl
  intro hab
  obtain ⟨j, hj⟩ := List.getElem?_of_mem htx
  change (s.txs.set i .ended)[j]? = some tx at hj
  rw [List.getElem?_set] at hj
  split_ifs at hj with hij
  · cases hj
    nomatch hb
  · exact hij (h.lock i j _ tx ht hj a rfl b hb hab)

theorem PostgresState.Inv.enqueue (h : s.Inv) {event : ApprovalEventRecord}
    (ht : s.txs[i]? = some (.recorded a event now)) (haction : action =
      if a.status = .approved ∧ a.IsAllowListed ∧
        s.ledger.store.approvalOutbox.get? a.approvalId = none then some (a.outbox now) else none) :
    (s.setTx i (.enqueued a event action)).Inv := by
  have hsound := h.sound _ (List.mem_of_getElem? ht)
  obtain ⟨old, hold, hpending, -⟩ := hsound.held a rfl
  have hnone := h.ledger.outbox_of_pending hold hpending
  refine h.setTx ht ⟨hsound.held, fun b event' action' heq => ?_⟩ (Or.inl rfl)
  cases heq
  rw [haction]
  split_ifs with hlisted
  · refine ⟨⟨fun _ => ⟨hlisted.1, hlisted.2.1⟩, fun _ => rfl⟩, fun o ho => ?_⟩
    rw [← Option.some.inj ho]
    rfl
  · refine ⟨⟨(fun hsome => nomatch hsome), fun hallowed => ?_⟩, fun o ho => nomatch ho⟩
    exact absurd ⟨hallowed.1, hallowed.2, hnone⟩ hlisted

theorem PostgresState.Inv.next (h : s.Inv) {label : PostgresLabel}
    (hs : postgresNext s label = some s') : s'.Inv := by
  cases label with
  | insert =>
    simp only [postgresNext] at hs
    split_ifs at hs with hheld hconflict hkey
    · cases hs
      exact h.addTx_of_none rfl
    · cases hs
      exact h
    · cases hs
      exact h.insert hconflict (Option.not_isSome_iff_eq_none.mp hkey)
  | select =>
    simp only [postgresNext] at hs
    split at hs
    · rename_i approval ht
      split at hs <;> obtain rfl := Option.some.inj hs <;>
        exact h.setTx ht (.of_none _ rfl) (Or.inr rfl)
    · nomatch hs
  | update =>
    simp only [postgresNext] at hs
    split_ifs at hs with hheld
    split at hs
    · rename_i old hold
      split_ifs at hs with hpending
      · cases hs
        exact h.update hold hpending hheld _ _ _ _
      · cases hs
        exact h
    · cases hs
      exact h
  | appendEvent =>
    simp only [postgresNext] at hs
    split at hs
    · rename_i a event now ht
      cases hs
      have hsound := h.sound _ (List.mem_of_getElem? ht)
      exact h.setTx ht ⟨hsound.held, fun _ _ _ heq => nomatch heq⟩ (Or.inl rfl)
    · nomatch hs
  | enqueue =>
    simp only [postgresNext] at hs
    split at hs
    · rename_i a event now ht
      cases hs
      exact h.enqueue ht rfl
    · nomatch hs
  | commit =>
    simp only [postgresNext] at hs
    split at hs
    · rename_i a event action ht
      cases hs
      exact h.commit ht
    · nomatch hs
  | rollback =>
    simp only [postgresNext] at hs
    split at hs
    · rename_i tx ht
      cases hs
      exact h.setTx ht (.of_none _ rfl) (Or.inr rfl)
    · nomatch hs
  | claim =>
    simp only [postgresNext] at hs
    split_ifs at hs with hdue
    cases hs
    exact h.setLedger (h.ledger.claim hdue.2.2) fun _ _ _ _ => rfl
  | deliver approvalId workerId now =>
    cases hs
    refine h.setLedger (h.ledger.step (s.ledger.step_deliver approvalId workerId now))
      fun _ _ a _ => ?_
    rw [inMemoryNext]
    obtain ⟨o, -, -, -, hmark⟩ | hmark :=
      markApprovalActionDelivered_cases s.ledger.store approvalId workerId now <;> rw [hmark]
    rfl

theorem PostgresState.inv_start : PostgresState.Inv {} where
  ledger := ChangeLedger.inv_start
  sound _ h := nomatch h
  lock _ _ _ _ h := nomatch h

/-- Both repositories keep the law: in memory if no identifier is drawn twice, which Postgres
refuses. -/
theorem outboxLaw_of_run :
    (∀ labels l, inMemorySystem.Along FreshId {} labels → inMemorySystem.run {} labels = some l →
      OutboxLaw l) ∧
    ∀ labels s, postgresSystem.run {} labels = some s → OutboxLaw s.ledger := by
  constructor
  · intro labels l hfresh hrun
    refine (inMemorySystem.inv_of_along (I := ChangeLedger.Inv) ?_ ChangeLedger.inv_start hfresh
      hrun).toOutboxLaw
    intro l label l' h hfresh hnext
    cases hnext
    exact h.step (h.step_inMemory hfresh)
  · intro labels s hrun
    exact (postgresSystem.inv_of_run (I := PostgresState.Inv) (fun _ _ _ h hs => h.next hs)
      PostgresState.inv_start hrun).ledger.toOutboxLaw

end

/-- The gate of a workflow that wants to send a report. -/
def gateRequest : ChangeRequest where
  approvalId := "appr_chg_1"
  workspaceId := "ws"
  action := "send_report"
  subject := ⟨WORKFLOW_GATE_SUBJECT_KIND, "run_1", "hash"⟩
  requester := "workflow"

/-- The gate is approved; worker "a" claims its action and is too slow, worker "b" delivers. -/
def gateRun : List ChangeLabel :=
  [.createOrGet gateRequest, .createOrGet { gateRequest with approvalId := "appr_chg_2" },
    .decide "appr_chg_1" "founder" true none none 0, .claim 10 "a" 0, .claim 10 "b" 60000,
    .deliver "appr_chg_1" "a" 60001, .deliver "appr_chg_1" "b" 60002]

/-- The same in Postgres. -/
def gateTransactions : List PostgresLabel :=
  [.insert gateRequest, .insert { gateRequest with approvalId := "appr_chg_2" }, .select 1,
    .update "appr_chg_1" "founder" true none none 0, .appendEvent 2, .enqueue 2, .commit 2,
    .claim ["appr_chg_1"] 10 "a" 0, .claim ["appr_chg_1"] 10 "b" 60000,
    .deliver "appr_chg_1" "a" 60001, .deliver "appr_chg_1" "b" 60002]

theorem outboxLaw_gateRun :
    OutboxLaw ((inMemorySystem.run {} gateRun).get (by decide +kernel)) ∧
      OutboxLaw ((postgresSystem.run {} gateTransactions).get (by decide +kernel)).ledger :=
  ⟨outboxLaw_of_run.1 gateRun _ (by decide +kernel) (Option.some_get _).symm,
    outboxLaw_of_run.2 gateTransactions _ (Option.some_get _).symm⟩

/-- An action exactly for the approved changes whose action is in the list. -/
def EnqueuedByAction (store : ApprovalStore) : Prop :=
  ∀ approvalId, (store.approvalOutbox.get? approvalId).isSome ↔
    ∃ a, store.approvals.get? approvalId = some a ∧ a.status = .approved ∧
      ∃ action ∈ a.action, action ∈ ALLOW_LISTED_CHANGE_ACTIONS

/-- The approved gate has an action, and "send_report" is not in the list. -/
theorem not_enqueuedByAction_gateRun :
    ¬EnqueuedByAction ((inMemorySystem.run {} gateRun).get (by decide +kernel)).store ∧
      ¬EnqueuedByAction
        ((postgresSystem.run {} gateTransactions).get (by decide +kernel)).ledger.store := by
  constructor
  · intro h
    obtain ⟨a, ha, -, action, haction, hlisted⟩ := (h "appr_chg_1").mp (by decide +kernel)
    have hunlisted : ∀ a ∈ ((inMemorySystem.run {} gateRun).get (by decide +kernel)).store.approvals
        |>.get? "appr_chg_1", ∀ action ∈ a.action, action ∉ ALLOW_LISTED_CHANGE_ACTIONS := by
      decide +kernel
    exact hunlisted a ha action haction hlisted
  · intro h
    obtain ⟨a, ha, -, action, haction, hlisted⟩ := (h "appr_chg_1").mp (by decide +kernel)
    have hunlisted : ∀ a ∈ ((postgresSystem.run {} gateTransactions).get
        (by decide +kernel)).ledger.store.approvals |>.get? "appr_chg_1",
        ∀ action ∈ a.action, action ∉ ALLOW_LISTED_CHANGE_ACTIONS := by
      decide +kernel
    exact hunlisted a ha action haction hlisted

end JavisSaas.Agent.Runs
