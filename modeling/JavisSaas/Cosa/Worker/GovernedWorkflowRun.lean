import JavisSaas.Agent.Runs.Expiry
import JavisSaas.Agent.Workflows.EngineRuns

/-!
# Governed workflow runs

`apps/cosa/worker/governed_workflow_run.py` and the two calls of
`apps/cosa/composition/workflow_orchestration.py` that it makes, as a program over the operations
that it awaits. The `asyncio.gather` of a wave of steps lasts; everything else is one step.

* `executeGovernedWorkflowRun`: the dispatch.
* `governedWorkload`: dispatches of any runs over one repository, and cancellations.
-/

namespace JavisSaas.Cosa.Worker

open JavisSaas.Lib JavisSaas.Agent.Runs JavisSaas.Agent.Workflows

variable {V O : Type}

/-! ## The control plane -/

/-- `object` is what the steps of the run find under `_manifest`. -/
structure GovernedWorkflowRunManifest (V : Type) where
  runId : String
  projectId : String
  workspaceId : String := "default"
  workflowAssetId : String
  workflowVersion : String := "1.0.0"
  workflowDefinitionHash : String
  projectAgentDeploymentId : Option String := none
  object : V

structure WorkflowDefinitionRecord (V : Type) where
  definitionHash : String
  specData : SpecFields V

/-- What the dispatch stores as JSON: a workflow in a checkpoint, a state as the output
    of a run. -/
inductive Payload (V : Type) where
  | workflow (w : Workflow V)
  | state (state : Dict String V)

/-- `serialized_state["workflow"]`. -/
def Payload.workflow? : Payload V → Option (Workflow V)
  | workflow w => some w
  | state _ => none

/-- Durable definitions by workspace, identifier and version; the `manifest` of a run is inserted
once. -/
structure ControlPlane (V O : Type) where
  engine : WorkflowEngine V O
  computeHash : SpecFields V → String
  definitions : Dict (String × String × String) (WorkflowDefinitionRecord V)
  manifest : String → GovernedWorkflowRunManifest V
  runId_manifest : ∀ runId, (manifest runId).runId = runId

structure GovernedWorkflowRunOutcome where
  runId : String
  status : RunStatus
  error : Option String := none
  pendingApprovalId : Option String := none

/-! ## Operations -/

inductive DispatchOp (V O : Type) where
  | getRun (runId : String)
  | createRun (run : RunRecord (Payload V))
  | updateRunStatus (runId : String) (status : RunStatus) (finalOutput : Option (Payload V))
      (errorDetails : Option ErrorDetails)
  | appendEvent (runId eventType : String)
  | getLatestCheckpoint (runId : String)
  | listCheckpoints (runId : String)
  | saveCheckpoint (checkpoint : RunCheckpointRecord (Payload V))
  /-- the identifier of a new workflow and of a new checkpoint -/
  | uuid
  /-- `check_pending` of the paused step, if it is a gate -/
  | checkPending (w : Workflow V)
  /-- the steps of a wave, and the compensation after a failure -/
  | gather (spec : SpecFields V) (s : EngineState (Answers V O) V)

namespace DispatchOp

abbrev Ans : DispatchOp V O → Type
  | getRun _ => Option (RunRecord (Payload V))
  | createRun _ => Unit
  | updateRunStatus _ _ _ _ => Option (RunRecord (Payload V))
  | appendEvent _ _ => Unit
  | getLatestCheckpoint _ => Option (RunCheckpointRecord (Payload V))
  | listCheckpoints _ => List (RunCheckpointRecord (Payload V))
  | saveCheckpoint _ => Except IntegrityError Unit
  | uuid => String
  | checkPending _ => Answers V O
  | gather _ _ => List (Answers V O) × Answers V O

/-- `none` for what the world answers. No constraint refuses a run, since it has its
    workspace. -/
def exec : (o : DispatchOp V O) → Backend (Payload V) → Option (o.Ans × Backend (Payload V))
  | getRun runId, b => some (b.getRun runId, b)
  | createRun run, b => some ((), b.createRun run)
  | updateRunStatus runId status finalOutput errorDetails, b =>
    some (b.updateRunStatus runId status finalOutput errorDetails)
  | appendEvent _ _, b => some ((), b)
  | getLatestCheckpoint runId, b => some (b.getLatestCheckpoint runId, b)
  | listCheckpoints runId, b => some (b.listCheckpoints runId, b)
  | saveCheckpoint checkpoint, b =>
    match b.saveCheckpoint checkpoint with
    | .ok b' => some (.ok (), b')
    | .error e => some (.error e, b)
  | uuid, _ => none
  | checkPending _, _ => none
  | gather _ _, _ => none

end DispatchOp

/-- An exception is its text. -/
abbrev DispatchProg (V O α : Type) := Prog (DispatchOp V O) DispatchOp.Ans String α

namespace Await

abbrev getRun (runId : String) : DispatchProg V O (Option (RunRecord (Payload V))) :=
  Prog.perform (DispatchOp.getRun runId)

abbrev createRun (run : RunRecord (Payload V)) : DispatchProg V O Unit :=
  Prog.perform (DispatchOp.createRun run)

abbrev updateRunStatus (runId : String) (status : RunStatus) (finalOutput : Option (Payload V))
    (errorDetails : Option ErrorDetails) :
    DispatchProg V O (Option (RunRecord (Payload V))) :=
  Prog.perform (DispatchOp.updateRunStatus runId status finalOutput errorDetails)

abbrev appendEvent (runId eventType : String) : DispatchProg V O Unit :=
  Prog.perform (DispatchOp.appendEvent runId eventType)

abbrev getLatestCheckpoint (runId : String) :
    DispatchProg V O (Option (RunCheckpointRecord (Payload V))) :=
  Prog.perform (DispatchOp.getLatestCheckpoint runId)

abbrev listCheckpoints (runId : String) :
    DispatchProg V O (List (RunCheckpointRecord (Payload V))) :=
  Prog.perform (DispatchOp.listCheckpoints runId)

abbrev saveCheckpoint (checkpoint : RunCheckpointRecord (Payload V)) :
    DispatchProg V O (Except IntegrityError Unit) :=
  Prog.perform (DispatchOp.saveCheckpoint checkpoint)

abbrev uuid : DispatchProg V O String := Prog.perform DispatchOp.uuid

abbrev checkPending (w : Workflow V) : DispatchProg V O (Answers V O) :=
  Prog.perform (DispatchOp.checkPending w)

abbrev gather (spec : SpecFields V) (s : EngineState (Answers V O) V) :
    DispatchProg V O (List (Answers V O) × Answers V O) :=
  Prog.perform (DispatchOp.gather spec s)

end Await

/-! ## The orchestration -/

/-- `None` where the engine would have raised. -/
def orRaise {A : Type} (x : Option A) (text : String) : DispatchProg V O A :=
  match x with
  | some a => .ret a
  | none => .raise text

def BuildError.message : BuildError → String
  | .gatewayRequired step =>
    s!"WorkflowEngine cannot compile TOOL_CALL step '{step}': CapabilityGateway is required"
  | .unsupported _ reason => reason

def sanitizeState (state : Dict String V) : Dict String V where
  items := state.items.filter (·.1 ≠ "_manifest")
  nodup := (List.filter_sublist.map Prod.fst).nodup state.nodup

section Orchestration

variable [PyValue V]

def seedManifestState (m : GovernedWorkflowRunManifest V) (state : Dict String V) :
    Dict String V :=
  let state := state.set "_manifest" m.object
  let state := state.set "workspace_id" (PyValue.ofStr m.workspaceId)
  let state := state.set "project_id" (PyValue.ofStr m.projectId)
  let state := match m.projectAgentDeploymentId.filter truthy with
    | some deployment =>
      state.set "project_agent_deployment_id" (PyValue.ofStr deployment)
    | none => state
  if truthy m.runId then state.set "run_id" (PyValue.ofStr m.runId) else state

/-- The loop of `_execute_dag`; `fuel` bounds the number of waves. -/
def runDag (spec : WorkflowSpec V) (steps : String → Option (WorkflowStep (Answers V O) V)) :
    ℕ → EngineState (Answers V O) V → DispatchProg V O (EngineState (Answers V O) V)
  | 0, s => return s
  | fuel + 1, s =>
    match s.phase with
    | .returned => return s
    | .gathering _ _ _ => do
      let (answers, compensation) ← Await.gather spec.toSpecFields s
      let s ← orRaise (next spec steps s (.wave answers compensation)) "no answer of the steps"
      runDag spec steps fuel s

namespace ControlPlane

variable [DecidableEq V] (plane : ControlPlane V O)

def resolvePinnedSpec (m : GovernedWorkflowRunManifest V) : Except String (WorkflowSpec V) :=
  match plane.definitions.get? (m.workspaceId, m.workflowAssetId, m.workflowVersion) with
  | none => .error s!"Durable workflow definition not found for manifest {m.runId}"
  | some record =>
    match h : validateDag record.specData with
    | .error e => .error e.message
    | .ok () =>
      let spec : WorkflowSpec V := ⟨record.specData, h⟩
      let hash := (spec.definitionHash.filter truthy).getD (plane.computeHash record.specData)
      if spec.id ≠ m.workflowAssetId ∨ spec.version ≠ m.workflowVersion ∨
          hash ≠ record.definitionHash ∨ record.definitionHash ≠ m.workflowDefinitionHash then
        .error "Resolved workflow definition does not match the exact manifest definition hash pin"
      else .ok spec

/-- `build_steps_from_spec`, as the map from step ids. -/
def stepsOf (spec : WorkflowSpec V) :
    Except String (String → Option (WorkflowStep (Answers V O) V)) :=
  match plane.engine.buildStepsFromSpec spec.toSpecFields with
  | .ok built => .ok (stepsMap spec.toSpecFields built)
  | .error e => .error (BuildError.message e)

def executeManifest (m : GovernedWorkflowRunManifest V) : DispatchProg V O (Workflow V) := do
  let spec ← Prog.ofExcept (plane.resolvePinnedSpec m)
  let id ← Await.uuid
  let steps ← Prog.ofExcept (plane.stepsOf spec)
  let s ← orRaise (executeSpec spec id plane.computeHash (seedManifestState m ∅) none)
    "invalid workflow transition"
  let s ← runDag spec steps spec.forwardSteps.length s
  return s.workflow

def resumeManifest (m : GovernedWorkflowRunManifest V) (w : Workflow V) :
    DispatchProg V O (Workflow V) := do
  let spec ← Prog.ofExcept (plane.resolvePinnedSpec m)
  let w := { w with state := seedManifestState m w.state }
  if w.status ≠ .waitingApproval then return w
  else do
    let steps ← Prog.ofExcept (plane.stepsOf spec)
    let answer ← Await.checkPending w
    let s ← orRaise (next spec steps { workflow := w, phase := .returned } (.resume answer))
      "invalid workflow transition"
    let s ← runDag spec steps spec.forwardSteps.length s
    return s.workflow

/-! ## The dispatch -/

def checkpointStateKind : String := "governed_workflow"

/-- The body of the `try`. -/
def orchestrate (m : GovernedWorkflowRunManifest V) (resuming : Bool) :
    DispatchProg V O (Workflow V) :=
  if resuming then do
    let checkpoint ← Await.getLatestCheckpoint m.runId
    let checkpoint ← orRaise (checkpoint.filter (·.stateKind = checkpointStateKind))
      s!"run {m.runId} is WAITING_APPROVAL but has no durable governed workflow checkpoint to resume from"
    let w ← orRaise checkpoint.serializedState.workflow? "workflow"
    plane.resumeManifest m w
  else plane.executeManifest m

/-- The status of the run after the checkpoint. -/
def settle (m : GovernedWorkflowRunManifest V) (w : Workflow V) :
    DispatchProg V O GovernedWorkflowRunOutcome :=
  match w.status with
  | .completed => do
    let _ ← Await.updateRunStatus m.runId .completed (some (.state (sanitizeState w.state))) none
    Await.appendEvent m.runId "run.completed"
    return { runId := m.runId, status := .completed }
  | .waitingApproval => do
    let _ ← Await.updateRunStatus m.runId .waitingApproval none none
    Await.appendEvent m.runId "run.waiting_approval"
    return {
      runId := m.runId, status := .waitingApproval, pendingApprovalId := w.pendingApprovalId }
  | _ => do
    let safeReason := (w.error.filter truthy).getD "governed_workflow_step_failed"
    let _ ← Await.updateRunStatus m.runId .failed none (some
      (((∅ : ErrorDetails).set "failed_step" w.failedStepName).set "reason" safeReason))
    Await.appendEvent m.runId "run.failed"
    return { runId := m.runId, status := .failed, error := some safeReason }

/-- From the `try` on. -/
def proceed (m : GovernedWorkflowRunManifest V) (resuming : Bool) :
    DispatchProg V O GovernedWorkflowRunOutcome := do
  let result ← (plane.orchestrate m resuming).attempt
  match result with
  | .error _ => do
    let _ ← Await.updateRunStatus m.runId .failed none
      (some ((∅ : ErrorDetails).set "reason" "governed_workflow_execution_error"))
    Await.appendEvent m.runId "run.failed"
    return {
      runId := m.runId, status := .failed, error := some "governed_workflow_execution_error" }
  | .ok w => do
    let existing ← Await.listCheckpoints m.runId
    let ref ← Await.uuid
    let saved ← Await.saveCheckpoint {
      checkpointRef := ref
      runId := m.runId
      projectId := some m.projectId
      sequenceNo := existing.length + 1
      stepName := some ((w.failedStepName.filter truthy).getD "governed_workflow")
      stateKind := checkpointStateKind
      serializedState := .workflow { w with state := sanitizeState w.state } }
    match saved with
    | .error _ => .raise "IntegrityError"
    | .ok () => settle m w

def executeGovernedWorkflowRun (m : GovernedWorkflowRunManifest V) :
    DispatchProg V O GovernedWorkflowRunOutcome := do
  let run ← Await.getRun m.runId
  match run with
  | none => do
    Await.createRun {
      runId := m.runId, workspaceId := some m.workspaceId, projectId := some m.projectId
      status := .running }
    Await.appendEvent m.runId "run.started"
    plane.proceed m false
  | some r =>
    if r.status.IsTerminal then
      return {
        runId := m.runId, status := r.status
        error := r.errorDetails.bind fun details => (details.get? "reason").join }
    else do
      let _ ← Await.updateRunStatus m.runId .running none none
      plane.proceed m (r.status = .waitingApproval)

end ControlPlane

end Orchestration

/-! ## Dispatches and cancellations -/

/-- `cancel_run`, beside the dispatches. -/
structure CancelRequest where
  runId : String
  reason : String

def CancelRequest.apply (e : CancelRequest) (b : Backend (Payload V)) : Backend (Payload V) :=
  ((cancelRun e.runId e.reason).runOn RunOp.exec b).2

/-- A dispatch is started for a run. -/
def governedWorkload [PyValue V] [DecidableEq V] (plane : ControlPlane V O) :
    Workload (DispatchOp V O) DispatchOp.Ans String GovernedWorkflowRunOutcome String
      (Backend (Payload V)) CancelRequest where
  program runId := plane.executeGovernedWorkflowRun (plane.manifest runId)
  exec := DispatchOp.exec
  lasting
    | .gather _ _ => true
    | _ => false
  act := CancelRequest.apply

end JavisSaas.Cosa.Worker
