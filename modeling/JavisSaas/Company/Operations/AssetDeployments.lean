import Mathlib.Algebra.Order.Ring.Nat
import JavisSaas.Lib.ApiError
import JavisSaas.Lib.Calls
import JavisSaas.Lib.Dict
import JavisSaas.Lib.Fallible

/-!
# Deployments of roles, agents and workflows

`services/company/operations/services/founder-asset-deployment.service.ts`, and the grants of
`agent-profile-grants.service.ts`. Every operation is one transaction that reads the deployment and
writes it by id later; the write waits for the row, and is one step with the rest of the transaction.
-/

namespace JavisSaas.Company.Operations

open JavisSaas.Lib

/-! ## Tables -/

/-- An asset with its version and the hash of its definition. -/
structure AssetPin where
  assetId : String
  version : String
  definitionHash : String
  deriving DecidableEq

structure OperatingRole where
  workspaceId : ℕ
  state : String := "ACTIVE"

def workspaceCloneOrigin : String := "WORKSPACE_CLONE"

structure WorkspaceAgent where
  workspaceId : ℕ
  pin : AssetPin
  workforceMemberId : ℕ
  originKind : String
  state : String := "ACTIVE"

/-- `AgentPublishManifest`, the fields that are read here. -/
structure AgentPublishManifest where
  originProfileKey : String
  capabilityRefs : List String
  deriving DecidableEq

/-- An event of `founder_asset_events`: an agent with its manifest, or a workflow. -/
inductive PublishReceipt
  | agent (workspaceId : ℕ) (pin : AssetPin) (manifest : Option AgentPublishManifest)
  | workflow (workspaceId : ℕ) (projectId : Option ℕ) (pin : AssetPin)
  deriving DecidableEq

inductive DeploymentKind
  | role
  | agent
  | workflow
  deriving DecidableEq

/-- What is deployed: the unique columns of the three tables, next to the project. -/
inductive DeploymentTarget
  | role (roleId : ℕ)
  | agent (workspaceAgentId : ℕ)
  | workflow (workflowAssetId : String)
  deriving DecidableEq

def DeploymentTarget.kind : DeploymentTarget → DeploymentKind
  | role _ => .role
  | agent _ => .agent
  | workflow _ => .workflow

structure DeploymentKey where
  workspaceId : ℕ
  projectId : ℕ
  target : DeploymentTarget
  deriving DecidableEq

inductive DeploymentState
  | active
  | paused
  deriving DecidableEq

/-- The other columns that a deployment writes; `J` are JSON values. -/
inductive DeploymentSettings (J : Type)
  | role (policyOverride : J) (budgetLimit : Option J)
  | agent (projectRoleDeploymentId : Option ℕ) (capabilityOverrides : List J)
  | workflow (version definitionHash : String) (executionPolicy : J)
  deriving DecidableEq

/-- A row of `project_role_deployments`, `project_agent_deployments` or
    `project_workflow_bindings`. -/
structure ProjectDeployment (J : Type) where
  id : ℕ
  state : DeploymentState := .active
  version : ℕ := 1
  settings : DeploymentSettings J
  deriving DecidableEq

/-- A row of `core.agent_capability_grants`, the deployment that gave it, and its profile. -/
structure ProfileGrant where
  workspaceId : ℕ
  projectId : ℕ
  agentWorkforceMemberId : ℕ
  capabilityId : String
  active : Bool := true
  deployment : Option DeploymentKey := none
  profileKey : String := ""

/-- A row of `founder_asset_events` for a change of a deployment. -/
structure DeploymentEvent where
  workspaceId : ℕ
  projectId : ℕ
  command : String
  kind : DeploymentKind
  deploymentId : ℕ

structure DeploymentStore (J : Type) where
  /-- The projects, with their workspace. -/
  projects : Dict ℕ ℕ := ∅
  roles : Dict ℕ OperatingRole := ∅
  agents : Dict ℕ WorkspaceAgent := ∅
  receipts : List PublishReceipt := []
  /-- The capabilities of `capability_permission_bindings`. -/
  bound : List String := []
  deployments : Dict DeploymentKey (ProjectDeployment J) := ∅
  grants : List ProfileGrant := []
  events : List DeploymentEvent := []

/-! ## Grants of a profile -/

def agentProfileGrantedCapabilities (profileKey : String) : List String :=
  if profileKey = "operations" then
    ["operations.task.create_draft", "operations.task.advance", "okr.key_result.create",
      "okr.key_result.checkin", "okr.key_result.update", "startup_os.goal.create",
      "startup_os.project.triage", "venture.profile.propose_update", "founder.notify.send",
      "automation.plan.propose"]
  else if profileKey = "finance" then
    ["finance.transaction.classify_propose", "finance.accounting_document.create_draft"]
  else []

/-- `profileCapabilities`, with a filter. -/
def profileCapabilities (profileKey : String) (filter : List String) : List String :=
  (agentProfileGrantedCapabilities profileKey).filter (· ∈ filter)

/-- The grant is for this member in this project. -/
def ProfileGrant.IsOf (g : ProfileGrant) (workspaceId projectId memberId : ℕ) : Prop :=
  g.workspaceId = workspaceId ∧ g.projectId = projectId ∧ g.agentWorkforceMemberId = memberId
deriving Decidable

namespace DeploymentStore

variable {J : Type}

/-- `ensureProfileCapabilityGrants`: the grants that are created. -/
def profileGrants (s : DeploymentStore J) (key : DeploymentKey) (memberId : ℕ)
    (manifest : AgentPublishManifest) : List ProfileGrant :=
  ((profileCapabilities manifest.originProfileKey manifest.capabilityRefs).filter fun c =>
      c ∈ s.bound ∧ ∀ g ∈ s.grants,
        g.IsOf key.workspaceId key.projectId memberId → g.active → g.capabilityId ≠ c).map fun c => {
    workspaceId := key.workspaceId
    projectId := key.projectId
    agentWorkforceMemberId := memberId
    capabilityId := c
    deployment := some key
    profileKey := manifest.originProfileKey }

/-- `revokeProfileCapabilityGrants` -/
def revokeProfileGrants (s : DeploymentStore J) (key : DeploymentKey) (memberId : ℕ)
    (profileKey : String) : DeploymentStore J :=
  { s with grants := s.grants.map fun g =>
      if g.IsOf key.workspaceId key.projectId memberId ∧
          g.capabilityId ∈ agentProfileGrantedCapabilities profileKey then
        { g with active := false } else g }

/-- The manifests of the receipts for an agent, in the order in which the rows happen to come. -/
def agentManifests (s : DeploymentStore J) (workspaceId : ℕ) (pin : AssetPin) :
    List AgentPublishManifest :=
  s.receipts.filterMap fun
    | .agent workspaceId' pin' manifest =>
      if workspaceId' = workspaceId ∧ pin' = pin then manifest else none
    | .workflow .. => none

/-- `findAgentPublishReceipt` may return this: one of the manifests, if there is one. -/
def Finds (s : DeploymentStore J) (agent : WorkspaceAgent) (workspaceId : ℕ)
    (manifest : Option AgentPublishManifest) : Prop :=
  match manifest with
  | some m => m ∈ s.agentManifests workspaceId agent.pin
  | none => s.agentManifests workspaceId agent.pin = []

instance (s : DeploymentStore J) (agent : WorkspaceAgent) (workspaceId : ℕ)
    (manifest : Option AgentPublishManifest) : Decidable (s.Finds agent workspaceId manifest) := by
  unfold Finds
  split <;> infer_instance

/-- A deployment by the id that it has in the table of its kind. -/
def findById (s : DeploymentStore J) (kind : DeploymentKind) (id workspaceId : ℕ) :
    Option (DeploymentKey × ProjectDeployment J) :=
  s.deployments.items.find? fun item =>
    item.1.target.kind = kind ∧ item.2.id = id ∧ item.1.workspaceId = workspaceId

/-- The id is in use in the table of the kind. -/
def Taken (s : DeploymentStore J) (kind : DeploymentKind) (id : ℕ) : Prop :=
  ∃ item ∈ s.deployments.items, item.1.target.kind = kind ∧ item.2.id = id
deriving Decidable

end DeploymentStore

/-! ## Operations -/

/-- What each deployment is given for its own columns; the overrides of an agent only tighten. -/
inductive DeployChange (J : Type)
  | role (roleId : ℕ) (policyOverride : Option J) (budgetLimit : Option (Option J))
  | agent (workspaceAgentId : ℕ) (projectRoleDeploymentId : Option ℕ)
    (capabilityOverrides : Option (List J))
  | workflow (pin : AssetPin) (executionPolicy : Option J)

variable {J : Type} [EmptyCollection J]

def DeployChange.target : DeployChange J → DeploymentTarget
  | role roleId .. => .role roleId
  | agent workspaceAgentId .. => .agent workspaceAgentId
  | workflow pin _ => .workflow pin.assetId

/-- The columns of a new row, or of the update of an existing one. -/
def DeployChange.settings : DeployChange J → Option (DeploymentSettings J) → DeploymentSettings J
  | role _ policyOverride budgetLimit, some (.role policy budget) =>
    .role (policyOverride.getD policy) (budgetLimit.getD budget)
  | role _ policyOverride budgetLimit, _ => .role (policyOverride.getD ∅) budgetLimit.join
  | agent _ roleDeploymentId overrides, some (.agent roleDeploymentId' overrides') =>
    .agent (roleDeploymentId.or roleDeploymentId') (overrides.getD overrides')
  | agent _ roleDeploymentId overrides, _ => .agent roleDeploymentId (overrides.getD [])
  | workflow pin policy, some (.workflow _ _ policy') =>
    .workflow pin.version pin.definitionHash (policy.getD policy')
  | workflow pin policy, _ => .workflow pin.version pin.definitionHash (policy.getD ∅)

structure DeployInput (J : Type) where
  workspaceId : ℕ
  projectId : ℕ
  change : DeployChange J
  expectedVersion : Option ℕ := none

def DeployInput.key (input : DeployInput J) : DeploymentKey :=
  ⟨input.workspaceId, input.projectId, input.change.target⟩

structure PauseInput where
  workspaceId : ℕ
  kind : DeploymentKind
  deploymentId : ℕ
  expectedVersion : ℕ

/-- The command of the event of a new deployment, and of an update. -/
def DeploymentKind.commands : DeploymentKind → String × String
  | role => ("deployRoleToProject", "updateProjectRoleDeployment")
  | agent => ("deployAgentToProject", "updateProjectAgentDeployment")
  | workflow => ("bindWorkflowToProject", "updateProjectWorkflowBinding")

/-- How a message names a deployment of the kind, in a sentence and at its start. -/
def DeploymentKind.texts : DeploymentKind → String × String
  | role => ("project role deployment", "Project role deployment")
  | agent => ("project agent deployment", "Project agent deployment")
  | workflow => ("project workflow binding", "Project workflow binding")

inductive DeployRequest (J : Type)
  | deploy (input : DeployInput J)
  | pause (input : PauseInput)
  /-- A callback that ends a publication with success. -/
  | published (receipt : PublishReceipt)

inductive DeployCall (J : Type)
  | checking (input : DeployInput J)
  /-- The role deployment that an agent deployment names. -/
  | linking (input : DeployInput J) (grants : List ProfileGrant)
  | reading (input : DeployInput J) (grants : List ProfileGrant)
  | writing (input : DeployInput J) (grants : List ProfileGrant)
    (existing : Option (ProjectDeployment J))
  | readingPaused (input : PauseInput)
  | pausing (input : PauseInput) (key : DeploymentKey) (row : ProjectDeployment J)
  | receiving (receipt : PublishReceipt)

/-- The receipt that is found, the founder member that is resolved, and a new id. -/
structure DeployAnswers where
  manifest : Option AgentPublishManifest := none
  founderMember : Option ℕ := none
  newId : ℕ := 0

/-- The checks of `deployAgentToProject` before it reads the deployment, and its grants. -/
def grantsOfAgent (s : DeploymentStore J) (input : DeployInput J) (workspaceAgentId : ℕ)
    (a : DeployAnswers) : Except ApiError (List ProfileGrant) :=
  match (s.agents.get? workspaceAgentId).filter fun agent =>
      agent.workspaceId = input.workspaceId ∧ agent.state = "ACTIVE" with
  | none => .error (.invalidArgument "Active workspace agent required")
  | some agent =>
    if agent.originKind = workspaceCloneOrigin then
      match a.manifest with
      | none => .error (.failedPrecondition "Workspace clone agent has no publish receipt")
      | some manifest =>
        .ok (if a.founderMember.isSome then
          s.profileGrants input.key agent.workforceMemberId manifest else [])
    else .ok []

/-- The receipt in the answers is one that the lookup for the agent may find. -/
def FindsFor (s : DeploymentStore J) (workspaceId : ℕ) (target : DeploymentTarget)
    (a : DeployAnswers) : Prop :=
  match target with
  | .agent id => ∀ agent ∈ s.agents.get? id, s.Finds agent workspaceId a.manifest
  | _ => True

instance (s : DeploymentStore J) (workspaceId : ℕ) (target : DeploymentTarget)
    (a : DeployAnswers) : Decidable (FindsFor s workspaceId target a) := by
  unfold FindsFor
  split <;> infer_instance

/-- The checks of a deployment, and the grants that it gives. -/
def checkDeploy (s : DeploymentStore J) (input : DeployInput J) (a : DeployAnswers) :
    Except ApiError (List ProfileGrant) := do
  match s.projects.get? input.projectId with
  | none => .error (.notFound "Project not found in workspace")
  | some workspaceId =>
    require (workspaceId = input.workspaceId)
      (.permissionDenied "Project does not belong to specified workspace")
    match input.change with
    | .role roleId .. =>
      require ((s.roles.get? roleId).any fun role =>
          role.workspaceId = input.workspaceId ∧ role.state = "ACTIVE")
        (.invalidArgument "Active operating role required")
      return []
    | .agent workspaceAgentId .. => grantsOfAgent s input workspaceAgentId a
    | .workflow pin _ =>
      require (.workflow input.workspaceId none pin ∈ s.receipts) (.invalidArgument
        "Workflow binding requires an exact successful workspace workflow publish receipt")
      return []

/-- The check of the role deployment that the input of an agent deployment names. -/
def checkRoleDeployment (s : DeploymentStore J) (input : DeployInput J) : Except ApiError Unit :=
  match input.change with
  | .agent _ (some id) _ =>
    require ((s.findById .role id input.workspaceId).any fun item =>
        item.1.projectId = input.projectId ∧ item.2.state = .active)
      (.invalidArgument "Active project role deployment required")
  | _ => .ok ()

def staleExpectedVersion (kind : DeploymentKind) (versions : String) : ApiError :=
  ⟨"aborted", "Stale expectedVersion for " ++ kind.texts.1 ++ versions⟩

/-- The deployment that is there, with the version that is expected. -/
def readExisting (s : DeploymentStore J) (input : DeployInput J) :
    Except ApiError (Option (ProjectDeployment J)) :=
  match s.deployments.get? input.key with
  | none => .ok none
  | some existing => do
    require (∀ v ∈ input.expectedVersion, existing.version = v)
      (staleExpectedVersion input.change.target.kind "")
    return some existing

/-- The row and the event that a transaction writes. -/
def DeploymentStore.put (s : DeploymentStore J) (key : DeploymentKey) (row : ProjectDeployment J)
    (command : String) : DeploymentStore J :=
  { s with
    deployments := s.deployments.set key row
    events := s.events ++ [⟨key.workspaceId, key.projectId, command, key.target.kind, row.id⟩] }

/-- The insert, or the update of the row with the id that was read, and the commit. -/
def commitDeploy (s : DeploymentStore J) (input : DeployInput J) (grants : List ProfileGrant)
    (existing : Option (ProjectDeployment J)) (newId : ℕ) : Except ApiError (DeploymentStore J) :=
  let kind := input.change.target.kind
  match existing with
  | none => do
    require ((s.deployments.get? input.key).isNone ∧ ¬ s.Taken kind newId)
      ⟨"unique_violation", kind.texts.1⟩
    let row := { id := newId, settings := input.change.settings none }
    return { s.put input.key row kind.commands.1 with grants := s.grants ++ grants }
  | some row =>
    let row := { row with
      state := .active
      version := row.version + 1
      settings := input.change.settings (some row.settings) }
    .ok { s.put input.key row kind.commands.2 with grants := s.grants ++ grants }

/-- The deployment that a pause is for, with the version that is expected. -/
def readForPause (s : DeploymentStore J) (input : PauseInput) :
    Except ApiError (DeploymentKey × ProjectDeployment J) :=
  match s.findById input.kind input.deploymentId input.workspaceId with
  | none => .error (.notFound (input.kind.texts.2 ++ " not found"))
  | some item => do
    require (item.2.version = input.expectedVersion) (staleExpectedVersion input.kind
      (" (current=" ++ toString item.2.version ++ ", expected=" ++ toString input.expectedVersion ++
        ")"))
    return item

/-- The grants that a pause revokes. -/
def revokeOfPause (s : DeploymentStore J) (key : DeploymentKey) (a : DeployAnswers) :
    DeploymentStore J :=
  match key.target with
  | .agent id =>
    match (s.agents.get? id).filter fun agent =>
        agent.workspaceId = key.workspaceId ∧ agent.originKind = workspaceCloneOrigin, a.manifest with
    | some agent, some manifest =>
      s.revokeProfileGrants key agent.workforceMemberId manifest.originProfileKey
    | _, _ => s
  | _ => s

/-- The update of the row, the grants and the event, and the commit. -/
def commitPause (s : DeploymentStore J) (key : DeploymentKey) (row : ProjectDeployment J)
    (a : DeployAnswers) : DeploymentStore J :=
  let s := revokeOfPause s key a
  { s with
    deployments := s.deployments.modify key
      ({ · with state := .paused, version := row.version + 1 })
    events := s.events ++ [⟨key.workspaceId, key.projectId, "pauseProjectDeployment",
      key.target.kind, row.id⟩] }

def DeployCall.perform (s : DeploymentStore J) (a : DeployAnswers) :
    DeployCall J → Except ApiError (DeploymentStore J × Option (DeployCall J))
  | .checking input => do return (s, some (.linking input (← checkDeploy s input a)))
  | .linking input grants => do
    checkRoleDeployment s input
    return (s, some (.reading input grants))
  | .reading input grants => do return (s, some (.writing input grants (← readExisting s input)))
  | .writing input grants existing => do
    return (← commitDeploy s input grants existing a.newId, none)
  | .readingPaused input => do
    let (key, row) ← readForPause s input
    return (s, some (.pausing input key row))
  | .pausing _ key row => .ok (commitPause s key row a, none)
  | .receiving receipt => .ok ({ s with receipts := s.receipts ++ [receipt] }, none)

/-- The agent whose receipt the step looks up. -/
def DeployCall.LooksUp (s : DeploymentStore J) (a : DeployAnswers) : DeployCall J → Prop
  | .checking input => FindsFor s input.workspaceId input.change.target a
  | .pausing _ key _ => FindsFor s key.workspaceId key.target a
  | _ => True

instance (s : DeploymentStore J) (a : DeployAnswers) (call : DeployCall J) :
    Decidable (call.LooksUp s a) := by
  unfold DeployCall.LooksUp
  split <;> infer_instance

/-- An error rolls the transaction back, and the call ends. -/
def DeployCall.step (s : DeploymentStore J) (call : DeployCall J) (a : DeployAnswers) :
    Option (DeploymentStore J × Option (DeployCall J)) :=
  if call.LooksUp s a then
    match call.perform s a with
    | .ok result => some result
    | .error _ => some (s, none)
  else none

variable (J) in
def deployments : Service (DeployRequest J) (DeploymentStore J) (DeployCall J) DeployAnswers where
  start
    | .deploy input => .checking input
    | .pause input => .readingPaused input
    | .published receipt => .receiving receipt
  step := DeployCall.step

end JavisSaas.Company.Operations
