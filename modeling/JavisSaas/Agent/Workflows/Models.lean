import JavisSaas.Lib.Dict

/-!
# Workflow instances and step outcomes

`packages/agent/workflows/models.py`: the status machine of a workflow, the
outcome of a step, and the workflow instance, which is also the checkpoint that
the engine hands back and resumes from.
-/

namespace JavisSaas.Agent.Workflows

open JavisSaas.Lib

inductive WorkflowStatus where
  | pending
  | running
  | waitingApproval
  | completed
  | failed
  | cancelled
  deriving DecidableEq

/-- `_ALLOWED_TRANSITIONS`. -/
def WorkflowStatus.allowed : WorkflowStatus → List WorkflowStatus
  | pending => [running, cancelled]
  | running => [waitingApproval, completed, failed, cancelled]
  | waitingApproval => [running, failed, cancelled]
  | completed => []
  | failed => []
  | cancelled => []

inductive StepStatus where
  | completed
  | waitingApproval
  | failed
  deriving DecidableEq

structure StepOutcome (V : Type) where
  status : StepStatus
  updates : Dict String V := ∅
  error : Option String := none
  approvalId : Option String := none

structure Workflow (V : Type) where
  id : String
  name : String
  status : WorkflowStatus := .pending
  completedSteps : List String := []
  checkpoints : Dict String (Dict String V) := ∅
  stepOutcomes : Dict String (StepOutcome V) := ∅
  state : Dict String V := ∅
  pendingApprovalId : Option String := none
  failedStepName : Option String := none
  hadApprovalGate : Bool := false
  error : Option String := none

variable {V : Type}

/-- `transition`; `none` is the `InvalidWorkflowTransition` exception. -/
def Workflow.transition (w : Workflow V) (target : WorkflowStatus) : Option (Workflow V) :=
  if target ∈ w.status.allowed then some { w with status := target } else none

/-- A name, a `run` that answers for a state, and, for an `ApprovalGateStep` only, `check_pending`.
The answers of the outside world are of type `A`; `run` also returns the state dictionary. A step
that raises ends the call without a checkpoint, so there is no answer for it. -/
structure WorkflowStep (A V : Type) where
  name : String
  run : Dict String V → A → StepOutcome V × Dict String V
  checkPending : Option (String → Dict String V → A → StepOutcome V)
  /-- No return of `check_pending` has updates. -/
  noUpdates : ∀ check ∈ checkPending, ∀ approvalId state answer,
    (check approvalId state answer).updates = ∅

theorem transition_eq_some {w w' : Workflow V} {target : WorkflowStatus} :
    w.transition target = some w' ↔
      target ∈ w.status.allowed ∧ { w with status := target } = w' := by
  unfold Workflow.transition
  split_ifs with h <;> simp [h]

end JavisSaas.Agent.Workflows
