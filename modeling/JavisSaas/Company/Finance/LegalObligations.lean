import JavisSaas.Lib.Calls
import JavisSaas.Lib.Dict
import JavisSaas.Lib.Fallible
import JavisSaas.Lib.Trails
import JavisSaas.Company.Finance.Money

/-!
# Legal obligations

`services/company/finance-legal/services/legal-obligation.service.ts`. A transition reads the
instance, and then writes its status, where the row still has the status that was read, together
with a row of the transition log. Other calls may move between the two statements.
-/

namespace JavisSaas.Company.Finance

open JavisSaas.Lib

/-! ## Statuses -/

inductive ObligationStatus
  | «open»
  | inProgress
  | fulfilled
  | exempt
  | cancelled
  deriving DecidableEq

/-- The column `status`, where `PENDING` stands for `OPEN`. -/
inductive StoredStatus
  | pending
  | status (s : ObligationStatus)
  deriving DecidableEq

namespace ObligationStatus

def text : ObligationStatus → String
  | «open» => "OPEN"
  | inProgress => "IN_PROGRESS"
  | fulfilled => "FULFILLED"
  | exempt => "EXEMPT"
  | cancelled => "CANCELLED"

/-- `ALLOWED_TRANSITIONS`. Its entry for `PENDING` is never looked up. -/
def allowedTransitions : ObligationStatus → List ObligationStatus
  | «open» => [inProgress, fulfilled, exempt, cancelled]
  | inProgress => [fulfilled, exempt, cancelled, «open»]
  | fulfilled => []
  | exempt => [«open»]
  | cancelled => [«open»]

theorem not_mem_allowedTransitions_self (s : ObligationStatus) : s ∉ s.allowedTransitions := by
  cases s <;> decide

end ObligationStatus

def StoredStatus.canonical : StoredStatus → ObligationStatus
  | pending => .open
  | status s => s

/-! ## Tables -/

structure LegalObligationInstance where
  workspaceId : ℤ
  legalEntityProfileId : Option ℤ := none
  templateId : Option ℤ := none
  periodKey : Option String := none
  status : StoredStatus := .status .open
  evidenceRefs : List String := []
  evidenceArtifactId : Option ℤ := none

structure ObligationTransition where
  id : ℤ
  workspaceId : ℤ
  obligationInstanceId : ℤ
  fromStatus : ObligationStatus
  toStatus : ObligationStatus
  evidenceArtifactId : Option ℤ
  evidenceRefs : List String
  actorMemberId : Option ℤ
  rationale : Option String

/-- The two tables; the transitions are in the order of their commits. -/
structure ObligationStore where
  instances : Dict ℤ LegalObligationInstance := .empty
  transitions : List ObligationTransition := []

namespace ObligationStore

def put (s : ObligationStore) (id : ℤ) (row : LegalObligationInstance) : ObligationStore :=
  { s with instances := s.instances.set id row }

def log (s : ObligationStore) (t : ObligationTransition) : ObligationStore :=
  { s with transitions := s.transitions ++ [t] }

/-- The changes of status that are logged for an instance. -/
def transitionsOf (s : ObligationStore) (id : ℤ) :
    List (Option ObligationStatus × ObligationStatus) :=
  (s.transitions.filter (·.obligationInstanceId = id)).map fun t => (some t.fromStatus, t.toStatus)

end ObligationStore

/-! ## Creation -/

structure CreateObligationInstance where
  workspaceId : ℤ
  templateId : Option ℤ := none
  legalEntityProfileId : Option ℤ := none
  periodKey : Option String := none
  evidenceRefs : Option (List String) := none
  evidenceArtifactId : Option ℤ := none

/-- What `if (x)` drops of an optional value. -/
def orFalsy {A : Type} [DecidableEq A] (falsy : A) (o : Option A) : Option A := o.filter (· ≠ falsy)

namespace CreateObligationInstance

/-- The instance that the idempotency check finds. -/
def Same (p : CreateObligationInstance) (row : LegalObligationInstance) : Prop :=
  row.workspaceId = p.workspaceId ∧ row.templateId = p.templateId ∧ row.periodKey = p.periodKey ∧
    row.legalEntityProfileId = orFalsy 0 p.legalEntityProfileId

instance (p : CreateObligationInstance) (row : LegalObligationInstance) :
    Decidable (p.Same row) :=
  show Decidable (_ ∧ _ ∧ _ ∧ _) from inferInstance

def exists? (p : CreateObligationInstance) (s : ObligationStore) : Bool :=
  (orFalsy 0 p.templateId).isSome && (orFalsy "" p.periodKey).isSome &&
    s.instances.values.any fun row => p.Same row

def row (p : CreateObligationInstance) : LegalObligationInstance where
  workspaceId := p.workspaceId
  legalEntityProfileId := p.legalEntityProfileId
  templateId := p.templateId
  periodKey := p.periodKey
  evidenceRefs := p.evidenceRefs.getD []
  evidenceArtifactId := p.evidenceArtifactId

end CreateObligationInstance

/-- `uq_legal_obligation_period_entity` -/
def LegalObligationInstance.SamePeriod (a b : LegalObligationInstance) : Prop :=
  a.templateId.isSome ∧ a.periodKey.isSome ∧ a.workspaceId = b.workspaceId ∧
    a.templateId = b.templateId ∧ a.periodKey = b.periodKey ∧
    a.legalEntityProfileId.getD 0 = b.legalEntityProfileId.getD 0

instance (a b : LegalObligationInstance) : Decidable (a.SamePeriod b) :=
  show Decidable (_ ∧ _ ∧ _ ∧ _ ∧ _ ∧ _) from inferInstance

/-- The authority of the caller, the generated id, and what else the database raises. -/
structure ObligationAnswers where
  authority : Except ApiError Unit := .ok ()
  newId : ℤ := 0
  database : Except ApiError Unit := .ok ()

namespace ObligationStore

def insertInstance (s : ObligationStore) (p : CreateObligationInstance)
    (answers : ObligationAnswers) : Except ApiError ObligationStore := do
  require (s.instances.get? answers.newId = none) (.internal "duplicate key")
  require (∀ row ∈ s.instances.values, ¬p.row.SamePeriod row) (.internal "duplicate key")
  answers.database
  return s.put answers.newId p.row

end ObligationStore

/-! ## Transitions -/

structure TransitionObligationInput where
  workspaceId : ℤ
  instanceId : ℤ
  expectedFromStatus : Option String := none
  toStatus : ObligationStatus
  evidenceArtifactId : Option ℤ := none
  evidenceRefs : Option (List String) := none
  actorMemberId : Option ℤ := none
  rationale : Option String := none

/-- The members of a `TenantContext` that a transition reads. -/
structure ObligationContext where
  userId : String
  workforceMemberId : Option String := none

/-- An artifact, or a reference that is not blank. -/
def HasEvidence (artifactId : Option ℤ) (refs : List String) : Prop :=
  (orFalsy 0 artifactId).isSome ∨ ∃ ref ∈ refs, trim ref ≠ []

instance (artifactId : Option ℤ) (refs : List String) : Decidable (HasEvidence artifactId refs) :=
  show Decidable (_ ∨ _) from inferInstance

def HasRationale (rationale : Option String) : Prop := ∃ r ∈ rationale, trim r ≠ []

instance (rationale : Option String) : Decidable (HasRationale rationale) :=
  show Decidable (∃ r ∈ rationale, trim r ≠ []) from inferInstance

namespace TransitionObligationInput

def checkEvidence (input : TransitionObligationInput) : Except ApiError Unit :=
  require (input.toStatus = .fulfilled →
      HasEvidence input.evidenceArtifactId (input.evidenceRefs.getD []))
    ⟨"EVIDENCE_REQUIRED",
      "Fulfillment requires verified evidence (evidenceArtifactId or non-empty evidenceRefs)"⟩

def checkRationale (input : TransitionObligationInput) : Except ApiError Unit :=
  require (input.toStatus = .exempt → HasRationale input.rationale)
    ⟨"RATIONALE_REQUIRED", "Exemption requires a rationale documenting the legal basis"⟩

/-- The checks of the row that was read, if its status is not the next one already. -/
def checkCurrent (input : TransitionObligationInput) (current : LegalObligationInstance) :
    Except ApiError Unit := do
  let currentCanonical := current.status.canonical
  require (∀ expected ∈ orFalsy "" input.expectedFromStatus, currentCanonical.text = expected)
    (.concurrentModification ("CAS mismatch: expected status " ++
      input.expectedFromStatus.getD "" ++ " but current status is " ++ currentCanonical.text))
  require (input.toStatus ∈ currentCanonical.allowedTransitions) ⟨"INVALID_TRANSITION",
    "Invalid obligation transition from " ++ currentCanonical.text ++ " to " ++
      input.toStatus.text⟩

/-- The row after the update; `current` is what was read before. -/
def updated (input : TransitionObligationInput) (current row : LegalObligationInstance) :
    LegalObligationInstance :=
  { row with
    status := .status input.toStatus
    evidenceArtifactId := input.evidenceArtifactId <|> current.evidenceArtifactId
    evidenceRefs := input.evidenceRefs.getD current.evidenceRefs }

/-- `ctx ? (ctx.workforceMemberId || ctx.userId) : input.actorMemberId`, as a number. -/
def actor (bigInt : String → Except ApiError ℤ) (input : TransitionObligationInput) :
    Option ObligationContext → Except ApiError (Option ℤ)
  | none => .ok (orFalsy 0 input.actorMemberId)
  | some ctx =>
    match orFalsy "" (some ((orFalsy "" ctx.workforceMemberId).getD ctx.userId)) with
    | none => .ok none
    | some actorId => some <$> bigInt actorId

def transition (input : TransitionObligationInput) (id : ℤ) (actorMemberId : Option ℤ)
    (current : LegalObligationInstance) : ObligationTransition where
  id
  workspaceId := input.workspaceId
  obligationInstanceId := input.instanceId
  fromStatus := current.status.canonical
  toStatus := input.toStatus
  evidenceArtifactId := input.evidenceArtifactId
  evidenceRefs := input.evidenceRefs.getD []
  actorMemberId
  rationale := input.rationale

end TransitionObligationInput

namespace ObligationStore

/-- The row with this id, in this workspace. -/
def findInstance (s : ObligationStore) (workspaceId instanceId : ℤ) :
    Option LegalObligationInstance :=
  (s.instances.get? instanceId).filter (·.workspaceId = workspaceId)

/-- The update, where the status is the one that was read, and the row of the log, in one commit. -/
def casUpdate (s : ObligationStore) (bigInt : String → Except ApiError ℤ)
    (ctx : Option ObligationContext) (input : TransitionObligationInput)
    (current : LegalObligationInstance) (answers : ObligationAnswers) :
    Except ApiError ObligationStore := do
  match (s.findInstance input.workspaceId input.instanceId).filter
      (·.status = current.status) with
  | none => throw (.concurrentModification "Concurrent modification during obligation transition")
  | some row =>
    let actorMemberId ← input.actor bigInt ctx
    require (∀ t ∈ s.transitions, t.id ≠ answers.newId) (.internal "duplicate key")
    answers.database
    return (s.put input.instanceId (input.updated current row)).log
      (input.transition answers.newId actorMemberId current)

end ObligationStore

/-! ## Calls -/

inductive ObligationRequest
  | create (p : CreateObligationInstance)
  | transition (ctx : Option ObligationContext) (input : TransitionObligationInput)

/-- A creation before its lookup or its insert; a transition before its checks or its read, or with
its row. -/
inductive ObligationCall
  | finding (p : CreateObligationInstance)
  | inserting (p : CreateObligationInstance)
  | checking (ctx : Option ObligationContext) (input : TransitionObligationInput)
  | reading (ctx : Option ObligationContext) (input : TransitionObligationInput)
  | writing (ctx : Option ObligationContext) (input : TransitionObligationInput)
    (current : LegalObligationInstance)

def ObligationRequest.call : ObligationRequest → ObligationCall
  | create p => .finding p
  | transition ctx input => .checking ctx input

/-- `if (ctx) await requireCommandAuthority(ctx, "legal.obligation.manage", …)` -/
def requireManage (ctx : Option ObligationContext) (answers : ObligationAnswers) :
    Except ApiError Unit :=
  if ctx.isSome then answers.authority else .ok ()

namespace ObligationCall

variable (bigInt : String → Except ApiError ℤ)

def perform (s : ObligationStore) (answers : ObligationAnswers) :
    ObligationCall → Except ApiError (ObligationStore × Option ObligationCall)
  | finding p => return (s, if p.exists? s then none else some (inserting p))
  | inserting p => do
    let s ← s.insertInstance p answers
    return (s, none)
  | checking ctx input => do
    requireManage ctx answers
    input.checkEvidence
    input.checkRationale
    return (s, some (reading ctx input))
  | reading ctx input =>
    match s.findInstance input.workspaceId input.instanceId with
    | none => throw (.notFound
        ("Legal obligation instance " ++ toString input.instanceId ++ " not found"))
    | some current =>
      -- The transition was made before: the view of the row is the answer.
      if current.status.canonical = input.toStatus then return (s, none) else do
        input.checkCurrent current
        return (s, some (writing ctx input current))
  | writing ctx input current => do
    let s ← s.casUpdate bigInt ctx input current answers
    return (s, none)

/-- A call that raises ends without effect. -/
def step (s : ObligationStore) (call : ObligationCall) (answers : ObligationAnswers) :
    Option (ObligationStore × Option ObligationCall) :=
  match call.perform bigInt s answers with
  | .ok r => some r
  | .error _ => some (s, none)

end ObligationCall

/-- Creations and transitions, in any interleaving. -/
def obligationCalls (bigInt : String → Except ApiError ℤ) :
    Service ObligationRequest ObligationStore ObligationCall ObligationAnswers where
  start := ObligationRequest.call
  step := ObligationCall.step bigInt

end JavisSaas.Company.Finance
