import JavisSaas.Lib.Fallible
import JavisSaas.Agent.Skills.Contracts
import JavisSaas.Agent.Runs.ChangeApprovals

/-!
# The two stores of skill candidates, and the promotion of a candidate

`packages/agent/skills/candidate_store.py` and `apps/cosa/worker/approval_actions.py`. A query
with `LIMIT 1` and without an order answers with the row that the scan meets first, `scan`.

* `MemoryStore`, `CandidateTable`: the two stores; a transaction that violates the unique index on
  the approval leaves the table as it is.
* `preparePromotion`, `concludePromotion`: `execute_skill_candidate_promotion`, before and after
  its publication.
-/

namespace JavisSaas.Agent.Skills

open JavisSaas.Lib JavisSaas.Agent.Runs

variable {R : Type} (digest : HashedSkill R → String)

/-! ## Publication -/

/-- The texts beside the outcome of `publish_candidate_if_approved`. -/
inductive PublicationReason where
  | candidateNotFound
  | alreadyPublished
  | alreadyPublishedDifferentApproval
  | approvalSubjectStale
  | candidateNotEvaluated
  | promotionAlreadyClaimed
  | concurrentModification
  | published

/-- `tuple[bool, str, SkillCandidate | None]`. -/
structure PublicationAnswer (R : Type) where
  ok : Bool
  reason : PublicationReason
  candidate : Option (SkillCandidate R)

namespace SkillCandidate

variable (cand : SkillCandidate R) (approvalId expectedDefinitionHash : String)

/-- Published with this approval and this hash. -/
def IsReplay : Prop :=
  cand.promotionApprovalId = some approvalId ∧
    (cand.promotionDefinitionHash = some expectedDefinitionHash ∨
      cand.definitionHash = some expectedDefinitionHash)
deriving Decidable

/-- The checks of `publish_candidate_if_approved`; `none` goes on to the publication. -/
def refusal : Option (Bool × PublicationReason) :=
  if cand.status = .published then
    if cand.IsReplay approvalId expectedDefinitionHash then some (true, .alreadyPublished)
    else some (false, .alreadyPublishedDifferentApproval)
  else if cand.definitionHash ≠ some expectedDefinitionHash then some (false, .approvalSubjectStale)
  else if cand.status ≠ .evaluated then some (false, .candidateNotEvaluated)
  else if cand.promotionApprovalId ≠ none then some (false, .promotionAlreadyClaimed)
  else none

/-- The candidate as it is published, with the skill `spec`. -/
def publishedWith (spec : SkillSpec R) : SkillCandidate R :=
  { cand with
    status := .published
    proposedSkill := { spec with status := .published }
    promotionApprovalId := some approvalId
    promotionDefinitionHash := some expectedDefinitionHash }

/-- A status written into the candidate, with a score where one is given. -/
def withStatus (status : SkillStatus) (evalScore : Option ℚ) : SkillCandidate R :=
  { cand with status, evalScore := evalScore.getD cand.evalScore }

variable {cand approvalId expectedDefinitionHash}

theorem of_refusal_eq_none (h : cand.refusal approvalId expectedDefinitionHash = none) :
    cand.status = .evaluated ∧ cand.definitionHash = some expectedDefinitionHash ∧
      cand.promotionApprovalId = none := by
  unfold refusal at h
  split_ifs at h with _ _ hhash hstatus happroval
  exact ⟨Decidable.not_not.mp hstatus, Decidable.not_not.mp hhash, Decidable.not_not.mp happroval⟩

end SkillCandidate

/-! ## In memory -/

/-- `_candidates`, by workspace and candidate. -/
abbrev MemoryStore (R : Type) := Dict (String × String) (SkillCandidate R)

namespace MemoryStore

variable (m : MemoryStore R)

def saveCandidate (workspaceId : String) (candidate : SkillCandidate R) :
    SkillCandidate R × MemoryStore R :=
  let cand := candidate.withHashes digest
  (cand, m.set (workspaceId, cand.candidateId) cand)

/-- `get_candidate`: by the key, else the first of the workspace with this skill. -/
def getCandidate (workspaceId candidateId : String) : Option (SkillCandidate R) :=
  match m.get? (workspaceId, candidateId) with
  | some cand => some (cand.withHash digest)
  | none =>
    (m.items.find? fun item => item.1.1 = workspaceId ∧ item.2.proposedSkill.id = candidateId).map
      fun item => item.2.withHash digest

def updateCandidateStatus (workspaceId candidateId : String) (status : SkillStatus)
    (evalScore : Option ℚ) : Option (SkillCandidate R) × MemoryStore R :=
  match m.getCandidate digest workspaceId candidateId with
  | none => (none, m)
  | some cand =>
    let cand := cand.withStatus status evalScore
    (some cand, m.set (workspaceId, cand.candidateId) cand)

def publishCandidateIfApproved (workspaceId candidateId approvalId expectedDefinitionHash : String) :
    PublicationAnswer R × MemoryStore R :=
  match m.getCandidate digest workspaceId candidateId with
  | none => (⟨false, .candidateNotFound, none⟩, m)
  | some cand =>
    match cand.refusal approvalId expectedDefinitionHash with
    | some (ok, reason) => (⟨ok, reason, some cand⟩, m)
    | none =>
      let cand := cand.publishedWith approvalId expectedDefinitionHash cand.proposedSkill
      (⟨true, .published, some cand⟩, m.set (workspaceId, cand.candidateId) cand)

end MemoryStore

/-! ## In Postgres -/

/-- A row of `agent.agent_skill_candidates`. -/
structure CandidateRow (R : Type) where
  workspaceId : String
  skillId : String
  candidate : SkillCandidate R
  deriving DecidableEq

/-- `agent.agent_skill_candidates`, by its primary key `candidate_id`. -/
abbrev CandidateTable (R : Type) := Dict String (CandidateRow R)

/-- The unique index `ux_agent_skill_candidates_promotion_approval` is violated. -/
inductive CandidateIntegrityError where
  | promotionApproval

namespace CandidateRow

variable (row : CandidateRow R)

/-- `workspace_id = … AND (candidate_id = … OR skill_id = …)`. -/
def Matches (workspaceId candidateId : String) : Prop :=
  row.workspaceId = workspaceId ∧
    (row.candidate.candidateId = candidateId ∨ row.skillId = candidateId)
deriving Decidable

/-- Workspace, run and skill stay, and the approval where the new candidate has none. -/
def upsert (cand : SkillCandidate R) : CandidateRow R :=
  { row with candidate := { cand with
      candidateId := row.candidate.candidateId
      parentRunId := row.candidate.parentRunId
      promotionApprovalId := cand.promotionApprovalId.or row.candidate.promotionApprovalId
      promotionDefinitionHash :=
        cand.promotionDefinitionHash.or row.candidate.promotionDefinitionHash } }

/-- The condition of the update that publishes. -/
def Publishable (workspaceId candidateId expectedDefinitionHash : String) : Prop :=
  row.Matches workspaceId candidateId ∧ row.candidate.status = .evaluated ∧
    (row.candidate.definitionHash = some expectedDefinitionHash ∨
      row.candidate.definitionHash = none) ∧
    row.candidate.promotionApprovalId = none
deriving Decidable

/-- What the update that publishes writes, with the skill `spec`. -/
def publish (spec : SkillSpec R) (approvalId expectedDefinitionHash : String) : CandidateRow R :=
  { row with candidate := row.candidate.publishedWith approvalId expectedDefinitionHash spec }

end CandidateRow

namespace CandidateTable

variable (t : CandidateTable R)

/-- Another candidate has the approval. -/
def ApprovalTaken (candidateId : String) (approvalId : Option String) : Prop :=
  ∃ a ∈ approvalId, ∃ item ∈ t.items, item.1 ≠ candidateId ∧
    item.2.candidate.promotionApprovalId = some a

instance (candidateId : String) (approvalId : Option String) :
    Decidable (t.ApprovalTaken candidateId approvalId) := by
  cases approvalId with
  | none => exact isFalse fun ⟨_, ha, _⟩ => nomatch ha
  | some a =>
    exact decidable_of_iff (∃ item ∈ t.items, item.1 ≠ candidateId ∧
      item.2.candidate.promotionApprovalId = some a) (by simp [ApprovalTaken])

/-- An insert, or an update of the row with this candidate identifier, whatever its workspace. -/
def savedRow (workspaceId : String) (cand : SkillCandidate R) : CandidateRow R :=
  match t.get? cand.candidateId with
  | some old => old.upsert cand
  | none => ⟨workspaceId, cand.proposedSkill.id, cand⟩

def saveCandidate (workspaceId : String) (candidate : SkillCandidate R) :
    Except CandidateIntegrityError (SkillCandidate R × CandidateTable R) :=
  let cand := candidate.withHashes digest
  let row := t.savedRow workspaceId cand
  if t.ApprovalTaken cand.candidateId row.candidate.promotionApprovalId then
    .error .promotionApproval
  else .ok (cand, t.set cand.candidateId row)

/-- The rows that the queries of the other methods match. -/
def rows (workspaceId candidateId : String) : List (CandidateRow R) :=
  t.values.filter fun row => row.Matches workspaceId candidateId

/-- `LIMIT 1`. -/
def first (workspaceId candidateId : String) (scan : ℕ) : Option (CandidateRow R) :=
  (t.rows workspaceId candidateId)[scan % (t.rows workspaceId candidateId).length]?

def getCandidate (workspaceId candidateId : String) (scan : ℕ) : Option (SkillCandidate R) :=
  (t.first workspaceId candidateId scan).map fun row => row.candidate.withHash digest

/-- `update_candidate_status`: all rows that match. -/
def updateCandidateStatus (workspaceId candidateId : String) (status : SkillStatus)
    (evalScore : Option ℚ) (scan : ℕ) : Option (SkillCandidate R) × CandidateTable R :=
  let t' : CandidateTable R := t.mapValues fun _ row =>
    if row.Matches workspaceId candidateId then
      { row with candidate := row.candidate.withStatus status evalScore }
    else row
  (t'.getCandidate digest workspaceId candidateId scan, t')

/-- The row is read and checked, then all rows that can be published get its skill and the approval. -/
def publishCandidateIfApproved (workspaceId candidateId approvalId expectedDefinitionHash : String)
    (scan : ℕ) : Except CandidateIntegrityError (PublicationAnswer R × CandidateTable R) :=
  match t.getCandidate digest workspaceId candidateId scan with
  | none => .ok (⟨false, .candidateNotFound, none⟩, t)
  | some cand =>
    match cand.refusal approvalId expectedDefinitionHash with
    | some (ok, reason) => .ok (⟨ok, reason, some cand⟩, t)
    | none =>
      match t.values.filter
        (·.Publishable workspaceId candidateId expectedDefinitionHash) with
      | [] => .ok (⟨false, .concurrentModification, some cand⟩, t)
      | [row] =>
        if ∃ other ∈ t.values, other.candidate.promotionApprovalId = some approvalId then
          .error .promotionApproval
        else
          let updated :=
            row.candidate.publishedWith approvalId expectedDefinitionHash cand.proposedSkill
          .ok (⟨true, .published, some { updated with
              definitionHash := if truthy updated.definitionHash then updated.definitionHash
                else some expectedDefinitionHash }⟩,
            t.mapValues fun _ row =>
              if row.Publishable workspaceId candidateId expectedDefinitionHash then
                row.publish cand.proposedSkill approvalId expectedDefinitionHash
              else row)
      -- two rows with one approval
      | _ :: _ :: _ => .error .promotionApproval

end CandidateTable

/-! ## The promotion of a candidate -/

/-- The payload of an approval action. -/
structure PromotionPayload where
  action : Option String
  subjectKind : Option String
  workspaceId : Option String
  approvalId : Option String
  subjectRef : Option String
  subjectHash : Option String

/-- The call of the store that a promotion comes to. -/
structure PublicationRequest where
  workspaceId : String
  candidateId : String
  approvalId : String
  expectedDefinitionHash : String

/-- The codes of a promotion, of `verify_change_execution`, and of the publication. -/
inductive PromotionReason where
  | unsupportedApprovalAction
  | invalidPayload
  | approvalNotFoundOrForbidden
  | approvalBindingKindMismatch
  | approvalActionMismatch
  | approvalExpired
  | approvalNotApproved
  | evalScoreBelowThreshold
  | unknownCapabilities
  | publication (reason : PublicationReason)

/-- The event of a promotion; `reason` is none for "approval.action.completed". -/
structure ActionEvent where
  workspaceId : String
  approvalId : String
  runId : String
  subjectRef : Option String
  reason : Option PromotionReason

/-- The result of a promotion, and the event that it records. -/
structure PromotionOutcome (R : Type) where
  success : Bool
  reason : PromotionReason
  candidate : Option (SkillCandidate R) := none
  event : Option ActionEvent := none

/-- `verify_change_execution` on the approvals that are stored; `none` when it may be executed. -/
def verifyChangeExecution (approvals : Dict String RunApprovalRecord)
    (approvalId workspaceId action : String) (subject : ApprovalSubject) (now : ℤ) :
    Option PromotionReason :=
  match (approvals.get? approvalId).filter (·.workspaceId = some workspaceId) with
  | none => some .approvalNotFoundOrForbidden
  | some approval =>
    if approval.bindingKind ≠ .changeRequest then some .approvalBindingKindMismatch
    else if approval.action ≠ some action then some .approvalActionMismatch
    else if approval.subjectKind ≠ some subject.kind ∨ approval.subjectRef ≠ some subject.ref ∨
        approval.subjectHash ≠ some subject.definitionHash then
      some (.publication .approvalSubjectStale)
    else if ∃ expiresAt ∈ approval.expiresAt, expiresAt < now then some .approvalExpired
    else if approval.status ≠ .approved then some .approvalNotApproved
    else none

/-- `execute_skill_candidate_promotion` up to the publication of the candidate that it has read. -/
def preparePromotion (read : String → String → Option (SkillCandidate R))
    (approvals : Dict String RunApprovalRecord) (capabilities : Option (List String)) (now : ℤ)
    (payload : PromotionPayload) :
    Except (PromotionOutcome R) (PublicationRequest × SkillCandidate R) := do
  require (payload.action = some "promote_skill_candidate" ∧
    payload.subjectKind = some "skill_candidate") { success := false, reason := .unsupportedApprovalAction }
  require (truthy payload.workspaceId ∧ truthy payload.approvalId ∧ truthy payload.subjectRef ∧
    truthy payload.subjectHash) { success := false, reason := .invalidPayload }
  let request : PublicationRequest := ⟨payload.workspaceId.getD "", payload.subjectRef.getD "",
    payload.approvalId.getD "", payload.subjectHash.getD ""⟩
  let rejected (cand : Option (SkillCandidate R)) (reason : PromotionReason) : PromotionOutcome R :=
    { success := false, reason, candidate := cand
      event := some { workspaceId := request.workspaceId, approvalId := request.approvalId
                      runId := (cand.map (·.parentRunId)).getD request.approvalId
                      subjectRef := cand.map (·.candidateId), reason := some reason } }
  match read request.workspaceId request.candidateId with
  | none => .error (rejected none (.publication .candidateNotFound))
  | some cand =>
    if cand.status = .published then
      if cand.IsReplay request.approvalId request.expectedDefinitionHash then
        .error { success := true, reason := .publication .alreadyPublished, candidate := cand
                 event := some { workspaceId := request.workspaceId
                                 approvalId := request.approvalId
                                 runId := cand.parentRunId
                                 subjectRef := some cand.candidateId, reason := none } }
      else .error (rejected cand (.publication .alreadyPublishedDifferentApproval))
    else if cand.proposedSkill.sha256 digest ≠ request.expectedDefinitionHash then
      .error (rejected cand (.publication .approvalSubjectStale))
    else
      match verifyChangeExecution approvals request.approvalId request.workspaceId
          "promote_skill_candidate"
          ⟨"skill_candidate", request.candidateId, request.expectedDefinitionHash⟩ now with
      | some reason => .error (rejected cand reason)
      | none =>
        if cand.status ≠ .evaluated then
          .error (rejected cand (.publication .candidateNotEvaluated))
        else if cand.evalScore < 7 / 10 then .error (rejected cand .evalScoreBelowThreshold)
        else if ∃ available ∈ capabilities,
            ¬cand.proposedSkill.requiredCapabilities ⊆ available then
          .error (rejected cand .unknownCapabilities)
        else .ok (request, cand)

/-- `execute_skill_candidate_promotion` after the publication. -/
def concludePromotion (request : PublicationRequest) (cand : SkillCandidate R)
    (answer : PublicationAnswer R) : PromotionOutcome R :=
  let subject := if answer.ok then answer.candidate else some cand
  { success := answer.ok
    reason := .publication answer.reason
    candidate := if answer.ok then answer.candidate else answer.candidate.or (some cand)
    event := some {
      workspaceId := request.workspaceId
      approvalId := request.approvalId
      runId := (subject.map (·.parentRunId)).getD request.approvalId
      subjectRef := subject.map (·.candidateId)
      reason := if answer.ok then none else some (.publication answer.reason) } }

end JavisSaas.Agent.Skills
