import JavisSaas.Agent.Capabilities.Operations
import JavisSaas.Agent.Runs.Backends

/-!
# Resuming after an approval

`verify_and_prepare_resume` of `packages/agent/capabilities/approval_service.py`: lookups, guards
over the records they find, and a fresh evaluation of the policy.

* `resumeLaw_verifyAndPrepareResume`: what a `can_resume` has passed; nothing is written.
* `canResume_olderCheckpoint`: the checkpoint need not be the latest of its run.
-/

namespace JavisSaas.Agent.Capabilities

open JavisSaas.Lib JavisSaas.Agent.Governance JavisSaas.Agent.Runs

variable {P : Type}

/-! ## Data -/

/-- The members of `ExecutionTargetSnapshot` that a resume compares. -/
structure ExecutionTargetSnapshot where
  connectorId : Option String := none
  schemaHashVersion : Option String := none

/-- A stored tool call with its `execution_target_snapshot`, as texts. -/
structure StoredToolCall (P : Type) extends RunToolCallRecord P where
  executionTargetSnapshot : Dict String (Option String) := ∅

structure ResumeStore (P : Type) where
  backend : Backend P
  toolCalls : Dict String (StoredToolCall P) := ∅

/-- The arguments of `verify_and_prepare_resume`. -/
structure ResumeRequest where
  runId : String
  toolCallId : String
  checkpointRef : String
  ambientContext : InvocationContext := {}
  currentTargetSnapshot : Option ExecutionTargetSnapshot := none
  expectedManifestHash : Option String := none

structure ApprovalResumeResult (P : Type) where
  canResume : Bool
  effectiveDecision : PolicyDecision
  reason : String
  approvalRecord : Option RunApprovalRecord := none
  toolCallRecord : Option (StoredToolCall P) := none
  checkpointRecord : Option (RunCheckpointRecord P) := none

/-- `policy_evaluator`, which may be missing. -/
abbrev PolicyEvaluator (P : Type) := Option (String → P → InvocationContext → PolicyDecision)

/-! ## Lookups -/

inductive ResumeOp where
  | getRun (runId : String)
  | getToolCall (toolCallId : String)
  | getCheckpoint (checkpointRef : String)
  | getApprovalByToolCall (toolCallId : String)

namespace ResumeOp

variable (P) in
abbrev Ans : ResumeOp → Type
  | getRun _ => Option (RunRecord P)
  | getToolCall _ => Option (StoredToolCall P)
  | getCheckpoint _ => Option (RunCheckpointRecord P)
  | getApprovalByToolCall _ => Option RunApprovalRecord

/-- `scan` is the approval that Postgres meets first. -/
def exec (scan : ℕ) : (o : ResumeOp) → ResumeStore P → o.Ans P × ResumeStore P
  | getRun runId, s => (s.backend.getRun runId, s)
  | getToolCall toolCallId, s => (s.toolCalls.get? toolCallId, s)
  | getCheckpoint checkpointRef, s => (s.backend.getCheckpoint checkpointRef, s)
  | getApprovalByToolCall toolCallId, s => (s.backend.getApprovalByToolCall toolCallId scan, s)

@[simp] theorem exec_snd (scan : ℕ) (o : ResumeOp) (s : ResumeStore P) :
    (o.exec scan s).2 = s := by
  cases o <;> rfl

end ResumeOp

abbrev ResumeProg (P α : Type) := Prog ResumeOp (ResumeOp.Ans P) PyException α

/-! ## The guards -/

/-- A version that both sides know and that differs. -/
def Drifted (current saved : Option String) : Prop :=
  truthy current ∧ truthy saved ∧ current ≠ saved
deriving Decidable

/-- `f"{value}"`. -/
def formatOption (value : Option String) : String := value.getD "None"

/-- Why the target is not the one that was approved, with the text of the refusal. -/
def targetDrift (current : Option ExecutionTargetSnapshot)
    (saved : Dict String (Option String)) : Option (String × String) :=
  match current with
  | none => none
  | some current =>
    if saved.items = [] then none
    else
      let connector := (saved.get? "connector_id").join
      let schema := (saved.get? "schema_hash_version").join
      if Drifted current.connectorId connector then
        some ("Target connector drifted", "Target connector changed from " ++
          formatOption connector ++ " to " ++ formatOption current.connectorId)
      else if Drifted current.schemaHashVersion schema then
        some ("Target schema drifted", "Target schema hash changed from " ++
          formatOption schema ++ " to " ++ formatOption current.schemaHashVersion)
      else none

/-- The tenant, the principal and the lock, as a resume checks them, with the text of
    the refusal. -/
def ambientRefusal (ctx : InvocationContext) : Option (String × String) :=
  if ctx.tenantStatus = "suspended" ∨ ctx.tenantStatus = "disabled" then
    some (s!"Tenant is {ctx.tenantStatus}",
      s!"Cannot resume: Tenant is currently {ctx.tenantStatus}")
  else if ctx.principalStatus = "revoked" ∨ ctx.principalStatus = "disabled" then
    some (s!"Principal is {ctx.principalStatus}",
      s!"Cannot resume: Principal is currently {ctx.principalStatus}")
  else if ctx.emergencyLock then
    some ("Emergency lock is active", "Cannot resume: Global emergency lock is active")
  else none

/-- The approval was granted under another manifest, as far as both are known. -/
def ManifestMismatch (approval : RunApprovalRecord) (expected : Option String) : Prop :=
  expected.isSome ∧ approval.manifestHash.isSome ∧ approval.manifestHash ≠ expected

instance (approval : RunApprovalRecord) (expected : Option String) :
    Decidable (ManifestMismatch approval expected) :=
  inferInstanceAs (Decidable (_ ∧ _ ∧ _))

/-- `current_policy_decision`. -/
def freshDecision (policy : PolicyEvaluator P) (toolCall : StoredToolCall P)
    (ctx : InvocationContext) : PolicyDecision :=
  match policy with
  | none => { outcome := .allow, reasons := ["Default allow"] }
  | some evaluate => evaluate toolCall.capabilityId toolCall.inputPayload ctx

/-- The guards after the lookups, in their order. -/
def verifyRecords (policy : PolicyEvaluator P) (req : ResumeRequest)
    (toolCall : StoredToolCall P) (checkpoint : RunCheckpointRecord P)
    (approval : RunApprovalRecord) : ApprovalResumeResult P :=
  let result (canResume : Bool) (effectiveDecision : PolicyDecision) (reason : String) :=
    { canResume, effectiveDecision, reason, approvalRecord := some approval
      toolCallRecord := some toolCall, checkpointRecord := some checkpoint }
  let deny (why reason : String) := result false { outcome := .deny, reasons := [why] } reason
  if approval.bindingKind ≠ .toolCall then
    deny "APPROVAL_BINDING_KIND_MISMATCH"
      "APPROVAL_BINDING_KIND_MISMATCH: verify_and_prepare_resume only accepts TOOL_CALL bindings"
  else if ManifestMismatch approval req.expectedManifestHash then
    deny "Approval manifest mismatch"
      ("Approval was granted under manifest '" ++ formatOption approval.manifestHash ++
        "', resume is under '" ++ formatOption req.expectedManifestHash ++ "'")
  else if approval.status ≠ .approved then
    result false
      { outcome := .requireApproval, reasons := [s!"Approval status is {approval.status.value}"] }
      s!"Approval is not approved (current status: {approval.status.value})"
  else match ambientRefusal req.ambientContext with
  | some (why, reason) => deny why reason
  | none =>
    match targetDrift req.currentTargetSnapshot toolCall.executionTargetSnapshot with
    | some (why, reason) => deny why reason
    | none =>
      let current := freshDecision policy toolCall req.ambientContext
      if current.outcome = .deny then
        result false current "Current policy evaluation resulted in DENY"
      else result true current "Approval verified and all safety invariants satisfied"

/-- A refusal before the records are known. -/
def notFound (why reason : String) : ApprovalResumeResult P :=
  { canResume := false, effectiveDecision := { outcome := .deny, reasons := [why] }, reason }

/-- `verify_and_prepare_resume`. A record of another run is treated as missing. -/
def verifyAndPrepareResume (policy : PolicyEvaluator P) (req : ResumeRequest) :
    ResumeProg P (ApprovalResumeResult P) := do
  let runId := req.runId
  let toolCallId := req.toolCallId
  let checkpointRef := req.checkpointRef
  let run ← Prog.perform (ResumeOp.getRun runId)
  if run.isNone then
    return notFound "Run not found" s!"Run '{runId}' does not exist"
  else
    let toolCall ← Prog.perform (ResumeOp.getToolCall toolCallId)
    match toolCall.filter fun t => t.runId = runId with
    | none =>
      return notFound "Tool call not found"
        s!"Tool call '{toolCallId}' not found for run '{runId}'"
    | some toolCall =>
      let checkpoint ← Prog.perform (ResumeOp.getCheckpoint checkpointRef)
      match checkpoint.filter fun c => c.runId = runId with
      | none =>
        return notFound "Checkpoint not found"
          s!"Checkpoint '{checkpointRef}' not found for run '{runId}'"
      | some checkpoint =>
        let approval ← Prog.perform (ResumeOp.getApprovalByToolCall toolCallId)
        match approval.filter fun a => a.checkpointRef = some checkpointRef with
        | none =>
          return notFound "Approval not found" (s!"No matching approval for tool_call " ++
            s!"'{toolCallId}' and checkpoint '{checkpointRef}'")
        | some approval => return verifyRecords policy req toolCall checkpoint approval

/-! ## What a resume has passed -/

/-- What the guards let pass. -/
structure Resumable (policy : PolicyEvaluator P) (req : ResumeRequest)
    (toolCall : StoredToolCall P) (approval : RunApprovalRecord) : Prop where
  binding : approval.bindingKind = .toolCall
  manifest : ¬ManifestMismatch approval req.expectedManifestHash
  approved : approval.status = .approved
  tenant : req.ambientContext.tenantStatus ∉ ["suspended", "disabled"]
  principal : req.ambientContext.principalStatus ∉ ["revoked", "disabled"]
  unlocked : req.ambientContext.emergencyLock = false
  target : targetDrift req.currentTargetSnapshot toolCall.executionTargetSnapshot = none
  notDenied : (freshDecision policy toolCall req.ambientContext).outcome ≠ .deny

theorem ambientRefusal_eq_none {ctx : InvocationContext} (h : ambientRefusal ctx = none) :
    ctx.tenantStatus ∉ ["suspended", "disabled"] ∧ ctx.principalStatus ∉ ["revoked", "disabled"] ∧
      ctx.emergencyLock = false := by
  unfold ambientRefusal at h
  split_ifs at h with htenant hprincipal hlock
  push Not at htenant hprincipal
  refine ⟨?_, ?_, Bool.eq_false_iff.mpr hlock⟩
  · rw [List.mem_pair]
    exact not_or.mpr htenant
  · rw [List.mem_pair]
    exact not_or.mpr hprincipal

theorem verifyRecords_canResume {policy : PolicyEvaluator P} {req : ResumeRequest}
    {toolCall : StoredToolCall P} {checkpoint : RunCheckpointRecord P}
    {approval : RunApprovalRecord}
    (h : (verifyRecords policy req toolCall checkpoint approval).canResume = true) :
    Resumable policy req toolCall approval := by
  unfold verifyRecords at h
  dsimp only at h
  split_ifs at h with hbinding hmanifest hstatus hpolicy
  · -- the policy denies, so none of the branches answers `can_resume`
    split at h
    · nomatch h
    · split at h <;> nomatch h
  split at h
  · nomatch h
  · next hambient =>
    split at h
    · nomatch h
    · next htarget =>
      obtain ⟨htenant, hprincipal, hlock⟩ := ambientRefusal_eq_none hambient
      exact ⟨not_not.mp hbinding, hmanifest, not_not.mp hstatus, htenant, hprincipal, hlock,
        htarget, hpolicy⟩

/-- What `can_resume` says about the store. -/
def ResumeSound (policy : PolicyEvaluator P) (req : ResumeRequest) (scan : ℕ)
    (s : ResumeStore P) : Prop :=
  (s.backend.getRun req.runId).isSome ∧
    ∃ toolCall checkpoint approval,
      s.toolCalls.get? req.toolCallId = some toolCall ∧ toolCall.runId = req.runId ∧
      s.backend.getCheckpoint req.checkpointRef = some checkpoint ∧
        checkpoint.runId = req.runId ∧
      s.backend.getApprovalByToolCall req.toolCallId scan = some approval ∧
        approval.checkpointRef = some req.checkpointRef ∧
      Resumable policy req toolCall approval

/-- `x` is what a resume answers, and the store after it. -/
structure ResumeLaw (policy : PolicyEvaluator P) (req : ResumeRequest) (scan : ℕ)
    (s : ResumeStore P) (x : Except PyException (ApprovalResumeResult P) × ResumeStore P) :
    Prop where
  sound : ∀ r, x.1 = .ok r → r.canResume = true → ResumeSound policy req scan s
  unchanged : x.2 = s

theorem ResumeLaw.of_refusal {policy : PolicyEvaluator P} {req : ResumeRequest} {scan : ℕ}
    {s : ResumeStore P} {r : ApprovalResumeResult P} (h : r.canResume = false) :
    ResumeLaw policy req scan s (.ok r, s) := by
  refine ⟨fun r' hr' hcan => ?_, rfl⟩
  rw [← Except.ok.inj hr', h] at hcan
  nomatch hcan

/-- A resume is only prepared for an approved record of the tool call, the checkpoint, the manifest
and the target, as far as they are known, that nothing forbids; and nothing is written. -/
theorem resumeLaw_verifyAndPrepareResume (policy : PolicyEvaluator P) (req : ResumeRequest)
    (scan : ℕ) (s : ResumeStore P) :
    ResumeLaw policy req scan s
      ((verifyAndPrepareResume policy req).runOn (ResumeOp.exec scan) s) := by
  unfold verifyAndPrepareResume
  rw [Prog.runOn_perform_bind, ResumeOp.exec]
  dsimp only
  by_cases hrun : (s.backend.getRun req.runId).isNone
  · rw [if_pos hrun]
    exact .of_refusal rfl
  rw [if_neg hrun, Prog.runOn_perform_bind, ResumeOp.exec]
  split
  · exact .of_refusal rfl
  · next toolCall htool =>
    obtain ⟨htool, htoolRun⟩ := Option.filter_eq_some_iff.mp htool
    rw [Prog.runOn_perform_bind, ResumeOp.exec]
    split
    · exact .of_refusal rfl
    · next checkpoint hcheckpoint =>
      obtain ⟨hcheckpoint, hcheckpointRun⟩ := Option.filter_eq_some_iff.mp hcheckpoint
      rw [Prog.runOn_perform_bind, ResumeOp.exec]
      split
      · exact .of_refusal rfl
      · next approval happroval =>
        obtain ⟨happroval, hbound⟩ := Option.filter_eq_some_iff.mp happroval
        refine ⟨fun r hr hcan => ?_, rfl⟩
        rw [← Except.ok.inj hr] at hcan
        have hpassed := verifyRecords_canResume hcan
        refine ⟨?_, toolCall, checkpoint, approval, htool, of_decide_eq_true htoolRun, hcheckpoint,
          of_decide_eq_true hcheckpointRun, happroval, of_decide_eq_true hbound, hpassed⟩
        exact Option.isSome_iff_ne_none.mpr (mt Option.isNone_iff_eq_none.mpr hrun)

/-! ## An approval for an older checkpoint -/

def chargeApproval : RunApprovalRecord where
  approvalId := "appr_run_1_call_1"
  runId := some "run_1"
  toolCallId := some "call_1"
  checkpointRef := some "ckpt_1"
  action := some "billing.charge"

/-- A run with two checkpoints, and an approved call at the first of them. -/
def chargeRepository : RunRepository String :=
  let repo := (RunRepository.empty.createRun { runId := "run_1" }).2
  let repo := (repo.saveCheckpoint {
    checkpointRef := "ckpt_1", runId := "run_1", sequenceNo := 1, serializedState := "" }).2
  let repo := (repo.createApproval chargeApproval).2
  let repo := (repo.decideApproval "appr_run_1_call_1" "founder" true none none).2
  (repo.saveCheckpoint {
    checkpointRef := "ckpt_2", runId := "run_1", sequenceNo := 2, serializedState := "" }).2

def chargeCall : StoredToolCall String where
  toolCallId := "call_1"
  runId := "run_1"
  checkpointRef := "ckpt_1"
  capabilityId := "billing.charge"
  payloadHash := "hash_1"
  inputPayload := "100"
  idempotencyKey := "key_1"
  status := .waitingApproval
  executionTargetSnapshot :=
    ((∅ : Dict String (Option String)).set "connector_id" (some "stripe")).set
      "schema_hash_version" none

def chargeStore : ResumeStore String where
  backend := .memory chargeRepository
  toolCalls := (∅ : Dict String (StoredToolCall String)).set "call_1" chargeCall

def chargeResume : ResumeRequest where
  runId := "run_1"
  toolCallId := "call_1"
  checkpointRef := "ckpt_1"
  currentTargetSnapshot :=
    some { connectorId := some "stripe", schemaHashVersion := some "v2" }

theorem resumeSound_chargeStore : ResumeSound none chargeResume 0 chargeStore :=
  (resumeLaw_verifyAndPrepareResume none chargeResume 0 chargeStore).sound
    (verifyRecords none chargeResume chargeCall
      { checkpointRef := "ckpt_1", runId := "run_1", sequenceNo := 1, serializedState := "" }
      (chargeApproval.decided "founder" true none none)) rfl rfl

/-- The checkpoint is not the latest of its run, and the schema version was unknown at the approval. -/
theorem canResume_olderCheckpoint :
    (((verifyAndPrepareResume none chargeResume).runOn (ResumeOp.exec 0)
      chargeStore).1.toOption.map (·.canResume)) = some true ∧
    (chargeStore.backend.getLatestCheckpoint "run_1").map (·.checkpointRef) = some "ckpt_2" ∧
    (chargeResume.currentTargetSnapshot.bind (·.schemaHashVersion)) = some "v2" ∧
    ((chargeStore.toolCalls.get? "call_1").bind fun t =>
      (t.executionTargetSnapshot.get? "schema_hash_version").join) = none := by
  decide +kernel

end JavisSaas.Agent.Capabilities
