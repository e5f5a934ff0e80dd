import Mathlib.Data.List.MinMax
import Mathlib.Data.List.Sort
import Mathlib.Algebra.Order.Ring.Nat
import JavisSaas.Lib.Calls
import JavisSaas.Lib.Dict
import JavisSaas.Lib.Fallible

/-!
# The repository of skill improvements

`PostgresSkillImprovementRepository` of `packages/agent/skills/improvement_repository.py`, and its
callers `apps/cosa/worker/skill_improvement.py`. What a transaction inserts it inserts at its commit,
where the unique indexes decide: a row that is not committed yet makes another one wait.
-/

namespace JavisSaas.Agent.Skills

open JavisSaas.Lib

/-! ## Scores -/

/-- The operations on `float` that a score needs. -/
structure ScoreOps (F : Type) where
  zero : F
  one : F
  /-- `rating / 5.0` -/
  ratio : ℤ → F
  lt : F → F → Bool
  le : F → F → Bool
  sum : List F → F
  div : F → ℕ → F
  sub : F → F → F

variable {F : Type} (ops : ScoreOps F)

/-- The score of one feedback, `max(0.0, min(1.0, rating / 5.0))` if there is a rating. -/
def ScoreOps.score (success : Bool) : Option ℤ → F
  | none => if success then ops.one else ops.zero
  | some rating =>
    let capped := if ops.lt (ops.ratio rating) ops.one then ops.ratio rating else ops.one
    if ops.lt ops.zero capped then capped else ops.zero

/-! ## Tables -/

/-- A skill in a workspace: `(workspace_id, skill_id, skill_version, definition_hash)`. -/
structure SkillPin where
  workspaceId : String
  skillId : String
  version : String
  definitionHash : String
  deriving DecidableEq

structure SkillUsageObservation where
  pin : SkillPin
  runId : String
  projectId : Option String := none
  manifestHash : Option String := none

/-- A row of `agent_skill_feedback`. -/
structure StoredFeedback where
  pin : SkillPin
  idempotencyKey : Option String
  success : Bool
  rating : Option ℤ
  createdAt : ℤ

inductive FeedbackHealth
  | insufficientSamples
  | stable
  | degrading
  deriving DecidableEq

/-- A row of `skill_feedback_aggregates`. -/
structure FeedbackAggregate (F : Type) where
  pin : SkillPin
  revision : ℕ
  sampleCount : ℕ
  aggregateScore : F
  previousScore : Option F
  degradationDelta : Option F
  health : FeedbackHealth

/-- `ended` is any other status, such as `COMPLETED` or `STALE`. -/
inductive RequestStatus
  | pending
  | running
  | ended (status : String)
  deriving DecidableEq

/-- `status IN ('PENDING', 'RUNNING')` -/
def RequestStatus.Live : RequestStatus → Prop
  | pending | running => True
  | ended _ => False

instance : (status : RequestStatus) → Decidable status.Live
  | .pending => instDecidableTrue
  | .running => instDecidableTrue
  | .ended _ => instDecidableFalse

/-- A row of `skill_improvement_requests`. -/
structure ImprovementRequest where
  pin : SkillPin
  feedbackAggregateRevision : ℕ
  policyHash : String
  status : RequestStatus := .pending
  attemptCount : ℕ := 0
  claimToken : Option String := none
  safeReasonCode : Option String := none

inductive OutboxState
  | pending
  | retry
  | claimed
  | delivered
  | failedRequiresAttention
  deriving DecidableEq

/-- A row of `skill_improvement_outbox`. -/
structure ImprovementOutbox where
  requestId : String
  state : OutboxState := .pending
  attemptCount : ℕ := 0
  nextAttemptAt : ℤ
  claimToken : Option String := none

inductive ImprovementDisposition
  | insufficientSamples
  | stable
  | deferredPolicyDisabled
  | notEligible
  | queued
  deriving DecidableEq

/-- `FeedbackWriteResult`, without the columns of the feedback. -/
structure FeedbackWriteResult (F : Type) where
  feedbackId : String
  pin : SkillPin
  feedbackHealth : FeedbackHealth
  aggregateScore : F
  improvementDisposition : ImprovementDisposition
  requestId : Option String

/-- `sent` are the outbox rows whose task was scheduled, in that order. -/
structure ImprovementStore (F : Type) where
  observations : List SkillUsageObservation := []
  feedback : Dict String StoredFeedback := ∅
  aggregates : List (FeedbackAggregate F) := []
  requests : Dict String ImprovementRequest := ∅
  outbox : Dict String ImprovementOutbox := ∅
  results : List (FeedbackWriteResult F) := []
  sent : List String := []

/-! ## `record_feedback_and_maybe_enqueue` -/

structure SkillFeedbackRecord where
  feedbackId : String
  workspaceId : String
  skillId : String
  version : Option String := none
  definitionHash : Option String := none
  runId : Option String := none
  idempotencyKey : Option String := none
  success : Bool := true
  rating : Option ℤ := none
  projectId : Option String := none
  manifestHash : Option String := none
  createdAt : ℤ

/-- `SkillImprovementPolicyConfig`, the fields that are read here. -/
structure ImprovementPolicy (F : Type) where
  mode : String := "OFF"
  allowedIdentities : Option (List (String × String × String)) := some []
  minFeedbackSamples : ℕ := 3
  feedbackWindowSize : ℕ := 10
  lowScoreThreshold : F
  minimumDegradationDelta : F
  policyHash : String := "sha256:policy_default"

/-- A text that is there and not empty. -/
def nonEmpty (t : Option String) : Option String := t.filter (· ≠ "")

/-- Step 1: the skill that a feedback is for. -/
def SkillFeedbackRecord.resolve (f : SkillFeedbackRecord)
    (observations : List SkillUsageObservation) : Except String SkillPin :=
  match nonEmpty f.runId with
  | some runId =>
    let rows := observations.filter fun o =>
      o.pin.workspaceId = f.workspaceId ∧ o.runId = runId ∧ o.pin.skillId = f.skillId
    match rows with
    | [] => .error ("No observation found for run " ++ runId ++ " and skill " ++ f.skillId)
    | row :: rest => do
      require (∀ o ∈ rest, o.pin = row.pin)
        ("Ambiguous observations for run " ++ runId ++ " and skill " ++ f.skillId)
      require (∀ p ∈ f.projectId, row.projectId = some p)
        ("No observation found matching project_id " ++ f.projectId.getD "" ++ " for run " ++ runId)
      require (∀ h ∈ f.manifestHash, row.manifestHash = some h)
        ("No observation found matching manifest_hash " ++ f.manifestHash.getD "" ++ " for run " ++
          runId)
      return row.pin
  | none =>
    match nonEmpty f.version, nonEmpty f.definitionHash with
    | some version, some definitionHash => .ok ⟨f.workspaceId, f.skillId, version, definitionHash⟩
    | _, _ => .error "Skill version and definition hash required when run_id is omitted"

namespace ImprovementStore

def aggregatesOf (s : ImprovementStore F) (pin : SkillPin) : List (FeedbackAggregate F) :=
  s.aggregates.filter (·.pin = pin)

/-- `ORDER BY revision DESC LIMIT 1` -/
def latestAggregate (s : ImprovementStore F) (pin : SkillPin) : Option (FeedbackAggregate F) :=
  (s.aggregatesOf pin).argmax (·.revision)

/-- The id of a request for the skill that is pending or running. -/
def liveRequest (s : ImprovementStore F) (pin : SkillPin) : Option String :=
  (s.requests.items.find? fun item => item.2.pin = pin ∧ item.2.status.Live).map (·.1)

/-- A feedback with the key. -/
def feedbackOf (s : ImprovementStore F) (workspaceId : String) (idempotencyKey : Option String) :
    Option (String × StoredFeedback) :=
  (nonEmpty idempotencyKey).bind fun key => s.feedback.items.find? fun item =>
    item.2.pin.workspaceId = workspaceId ∧ item.2.idempotencyKey = some key

/-- Step 2: the answer for a feedback that is stored already. -/
def existingResult (s : ImprovementStore F) (skillId : String)
    (existing : String × StoredFeedback) : FeedbackWriteResult F :=
  let pin := { existing.2.pin with skillId }
  let latest := s.latestAggregate pin
  let live := s.liveRequest pin
  { feedbackId := existing.1
    pin
    feedbackHealth := (latest.map (·.health)).getD .insufficientSamples
    aggregateScore := (latest.map (·.aggregateScore)).getD ops.one
    improvementDisposition :=
      if live.isSome then .queued
      else match (latest.map (·.health)).getD .insufficientSamples with
        | .degrading => .deferredPolicyDisabled
        | .stable => .stable
        | .insufficientSamples => .insufficientSamples
    requestId := live }

/-- The rows of the window, the feedback itself among them. -/
def window (s : ImprovementStore F) (row : StoredFeedback) (size : ℕ) : List StoredFeedback :=
  ((row :: s.feedback.values.filter fun r =>
      r.pin.workspaceId = row.pin.workspaceId ∧ r.pin.skillId = row.pin.skillId ∧
        r.pin.definitionHash = row.pin.definitionHash).insertionSort
    fun a b => b.createdAt ≤ a.createdAt).take size

/-- Step 4: the next aggregate. -/
def nextAggregate (s : ImprovementStore F) (policy : ImprovementPolicy F) (row : StoredFeedback) :
    FeedbackAggregate F :=
  let rows := s.window row policy.feedbackWindowSize
  let score := if rows.length = 0 then ops.zero else
    ops.div (ops.sum (rows.map fun r => ops.score r.success r.rating)) rows.length
  let latest := s.latestAggregate row.pin
  let delta := latest.map fun a => ops.sub a.aggregateScore score
  { pin := row.pin
    revision := latest.elim 1 (·.revision + 1)
    sampleCount := rows.length
    aggregateScore := score
    previousScore := latest.map (·.aggregateScore)
    degradationDelta := delta
    health :=
      if rows.length < policy.minFeedbackSamples then .insufficientSamples
      else if ops.le score policy.lowScoreThreshold ∧
          delta.any (ops.le policy.minimumDegradationDelta) then .degrading
      else .stable }

end ImprovementStore

/-- What a degradation comes to before the requests are looked at. -/
def ImprovementPolicy.disposition (policy : ImprovementPolicy F) (a : FeedbackAggregate F) :
    ImprovementDisposition :=
  match a.health with
  | .stable => .stable
  | .insufficientSamples => .insufficientSamples
  | .degrading =>
    if policy.mode ≠ "CANDIDATE" then .deferredPolicyDisabled
    else if ∃ allowed ∈ policy.allowedIdentities,
        (a.pin.skillId, a.pin.version, a.pin.definitionHash) ∉ allowed then .notEligible
    else .queued

/-! ## The transactions -/

/-- The rows that a transaction is about to insert. -/
structure FeedbackWrite (F : Type) where
  feedbackId : String
  row : StoredFeedback
  aggregate : FeedbackAggregate F
  disposition : ImprovementDisposition
  /-- The request that is live already. -/
  live : Option String := none
  policyHash : String

/-- A request or an outbox row, with the token of its claim. -/
structure ImprovementClaim where
  id : String
  token : String

structure ImprovementOutcome where
  status : String
  safeReasonCode : Option String := none

inductive ImprovementReq (F : Type)
  /-- `record_resolved_skill_use` -/
  | observe (observation : SkillUsageObservation)
  | recordFeedback (feedback : SkillFeedbackRecord) (policy : ImprovementPolicy F)
  /-- `execute_skill_improvement_task` -/
  | execute (requestId : String)
  /-- `claim_improvement_requests`, by a caller that finishes what it has claimed. -/
  | claimRequests (limit : ℕ)
  /-- `relay_skill_improvement_outbox` -/
  | relay (limit : ℕ)

inductive ImprovementCall (F : Type)
  | observing (observation : SkillUsageObservation)
  | recording (feedback : SkillFeedbackRecord) (policy : ImprovementPolicy F)
  | measuring (feedbackId : String) (row : StoredFeedback) (policy : ImprovementPolicy F)
  | matching (write : FeedbackWrite F)
  | committing (write : FeedbackWrite F)
  | fetching (requestId : String)
  | claiming (requestId : String)
  /-- The check of the source and of the service. -/
  | checking (claim : ImprovementClaim)
  | executing (claim : ImprovementClaim)
  | finishing (claim : ImprovementClaim) (outcome : ImprovementOutcome)
  | claimingMany (limit : ℕ)
  | working (claims : List ImprovementClaim)
  | relaying (limit : ℕ)
  | sending (items : List ImprovementClaim)
  | delivering (item : ImprovementClaim) (items : List ImprovementClaim)
  | failing (item : ImprovementClaim) (items : List ImprovementClaim)

structure ImprovementAnswers where
  now : ℤ := 0
  ended : CallEnd := .ok
  /-- The rows that `FOR UPDATE SKIP LOCKED` gives, each with a new token. -/
  picked : List ImprovementClaim := []
  newRequestId : String := ""
  newOutboxId : String := ""
  /-- What ends a request before it is executed: another source, or no service. -/
  refusal : Option ImprovementOutcome := none
  outcome : ImprovementOutcome := ⟨"COMPLETED", none⟩

namespace ImprovementStore

/-- `ON CONFLICT (run_id, skill_id, skill_version, definition_hash) DO NOTHING` -/
def observe (s : ImprovementStore F) (o : SkillUsageObservation) : ImprovementStore F :=
  if ∃ r ∈ s.observations, r.runId = o.runId ∧ r.pin.skillId = o.pin.skillId ∧
      r.pin.version = o.pin.version ∧ r.pin.definitionHash = o.pin.definitionHash then s
  else { s with observations := s.observations ++ [o] }

/-- The rows of the write, with what is inserted for a new request, and the answer. -/
def commit (s : ImprovementStore F) (w : FeedbackWrite F) (a : ImprovementAnswers) :
    ImprovementStore F :=
  let queues := w.disposition = .queued ∧ w.live = none
  { s with
    feedback := s.feedback.set w.feedbackId w.row
    aggregates := s.aggregates ++ [w.aggregate]
    requests := if queues then s.requests.set a.newRequestId
        { pin := w.row.pin
          feedbackAggregateRevision := w.aggregate.revision
          policyHash := w.policyHash } else s.requests
    outbox := if queues then s.outbox.set a.newOutboxId
        { requestId := a.newRequestId, nextAttemptAt := a.now } else s.outbox
    results := s.results ++ [{
      feedbackId := w.feedbackId
      pin := w.row.pin
      feedbackHealth := w.aggregate.health
      aggregateScore := w.aggregate.aggregateScore
      improvementDisposition := w.disposition
      requestId := if queues then some a.newRequestId else w.live }] }

/-- The primary keys and the unique indexes let the rows in. -/
def Admits (s : ImprovementStore F) (w : FeedbackWrite F) (a : ImprovementAnswers) : Prop :=
  (s.feedback.get? w.feedbackId).isNone ∧
    (∀ key ∈ w.row.idempotencyKey, ∀ r ∈ s.feedback.values,
      r.pin.workspaceId = w.row.pin.workspaceId → r.idempotencyKey ≠ some key) ∧
    (∀ r ∈ s.aggregatesOf w.aggregate.pin, r.revision ≠ w.aggregate.revision) ∧
    (w.disposition = .queued ∧ w.live = none → (s.requests.get? a.newRequestId).isNone ∧
      (s.outbox.get? a.newOutboxId).isNone ∧
        ∀ r ∈ s.requests.values, r.pin = w.row.pin → ¬ r.status.Live)
deriving Decidable

/-- `UPDATE … SET status = 'RUNNING'` for the rows that were picked. -/
def claimRequests (s : ImprovementStore F) (picked : List ImprovementClaim) : ImprovementStore F :=
  { s with requests := picked.foldl (fun t c => t.modify c.id fun r =>
      { r with
        status := .running
        claimToken := some c.token
        attemptCount := r.attemptCount + 1 }) s.requests }

/-- `UPDATE … SET state = 'CLAIMED'` for the rows that were picked. -/
def claimOutbox (s : ImprovementStore F) (picked : List ImprovementClaim) : ImprovementStore F :=
  { s with outbox := picked.foldl (fun t c => t.modify c.id fun r =>
      { r with
        state := .claimed
        claimToken := some c.token
        attemptCount := r.attemptCount + 1 }) s.outbox }

/-- `finish_improvement_request`, with its `WHERE`. -/
def finish (s : ImprovementStore F) (claim : ImprovementClaim) (outcome : ImprovementOutcome) :
    ImprovementStore F :=
  { s with requests := s.requests.modify claim.id fun r =>
      if r.claimToken = some claim.token then
        { r with
          status := .ended outcome.status
          safeReasonCode := outcome.safeReasonCode
          claimToken := none }
      else r }

/-- `mark_outbox_delivered`, with its `WHERE`. -/
def markDelivered (s : ImprovementStore F) (item : ImprovementClaim) : ImprovementStore F :=
  { s with outbox := s.outbox.modify item.id fun r =>
      if r.claimToken = some item.token then { r with state := .delivered, claimToken := none }
      else r }

/-- `mark_outbox_failed`, with its `WHERE`; the next attempt is a minute later. -/
def markFailed (s : ImprovementStore F) (item : ImprovementClaim) (now : ℤ) : ImprovementStore F :=
  { s with outbox := s.outbox.modify item.id fun r =>
      if r.claimToken = some item.token then
        { r with
          state := if 5 ≤ r.attemptCount then .failedRequiresAttention else .retry
          claimToken := none
          nextAttemptAt := now + 60 }
      else r }

/-- The rows may be picked: they are different, no more than the limit, and each is due. -/
def Picks (due : String → Prop) (limit : ℕ) (picked : List ImprovementClaim) : Prop :=
  (picked.map (·.id)).Nodup ∧ picked.length ≤ limit ∧ ∀ c ∈ picked, due c.id

/-- `status = 'PENDING'` -/
def PendingRequest (s : ImprovementStore F) (id : String) : Prop :=
  ∃ r ∈ s.requests.get? id, r.status = .pending
deriving Decidable

/-- `state IN ('PENDING', 'RETRY') AND next_attempt_at <= :now` -/
def DueOutbox (s : ImprovementStore F) (now : ℤ) (id : String) : Prop :=
  ∃ r ∈ s.outbox.get? id, (r.state = .pending ∨ r.state = .retry) ∧ r.nextAttemptAt ≤ now
deriving Decidable

instance (due : String → Prop) [DecidablePred due] (limit : ℕ) (picked : List ImprovementClaim) :
    Decidable (Picks due limit picked) :=
  inferInstanceAs (Decidable (_ ∧ _ ∧ _))

end ImprovementStore

open ImprovementStore

def ImprovementCall.step (s : ImprovementStore F) (a : ImprovementAnswers) :
    ImprovementCall F → Option (ImprovementStore F × Option (ImprovementCall F))
  | .observing o => some (s.observe o, none)
  | .recording f policy =>
    match f.resolve s.observations with
    | .error _ => some (s, none)
    | .ok pin =>
      match s.feedbackOf f.workspaceId f.idempotencyKey with
      | some existing =>
        some ({ s with results := s.results ++ [s.existingResult ops f.skillId existing] }, none)
      | none =>
        some (s, some (.measuring f.feedbackId
          ⟨pin, f.idempotencyKey, f.success, f.rating, f.createdAt⟩ policy))
  | .measuring feedbackId row policy =>
    let aggregate := s.nextAggregate ops policy row
    let disposition := policy.disposition aggregate
    let write := { feedbackId, row, aggregate, disposition, policyHash := policy.policyHash }
    some (s, some (if disposition = .queued then .matching write else .committing write))
  | .matching write =>
    some (s, some (.committing { write with live := s.liveRequest write.row.pin }))
  | .committing write =>
    if s.Admits write a then some (s.commit write a, none) else some (s, none)
  | .fetching requestId =>
    match s.requests.get? requestId with
    | none => some (s, none)
    | some r => some (s, if r.status.Live then some (.claiming requestId) else none)
  | .claiming requestId =>
    -- a row that is locked is skipped, as one that is not pending
    if Picks s.PendingRequest 1 a.picked ∧ ∀ c ∈ a.picked, c.id = requestId then
      some (s.claimRequests a.picked, a.picked.head?.map .checking)
    else none
  | .checking claim => some (s, some (match a.refusal with
    | some outcome => .finishing claim outcome
    | none => .executing claim))
  | .executing claim => some (s, some (.finishing claim a.outcome))
  | .finishing claim outcome => some (s.finish claim outcome, none)
  | .claimingMany limit =>
    if Picks s.PendingRequest limit a.picked then
      some (s.claimRequests a.picked, some (.working a.picked))
    else none
  | .working [] => some (s, none)
  | .working (claim :: claims) => some (s.finish claim a.outcome, some (.working claims))
  | .relaying limit =>
    if Picks (s.DueOutbox a.now) limit a.picked then
      some (s.claimOutbox a.picked, some (.sending a.picked))
    else none
  | .sending [] => some (s, none)
  | .sending (item :: items) =>
    let sent := if a.ended = .raised then s else { s with sent := s.sent ++ [item.id] }
    some (sent, some (if a.ended = .ok then .delivering item items else .failing item items))
  | .delivering item items =>
    some (if a.ended = .raised then s else s.markDelivered item,
      some (if a.ended = .ok then .sending items else .failing item items))
  | .failing item items =>
    some (if a.ended = .raised then s else s.markFailed item a.now, some (.sending items))

/-- A step that raises where nothing handles it is a call that is given up. -/
def improvements :
    Service (ImprovementReq F) (ImprovementStore F) (ImprovementCall F) ImprovementAnswers where
  start
    | .observe observation => .observing observation
    | .recordFeedback feedback policy => .recording feedback policy
    | .execute requestId => .fetching requestId
    | .claimRequests limit => .claimingMany limit
    | .relay limit => .relaying limit
  step s call a := call.step ops s a

end JavisSaas.Agent.Skills
