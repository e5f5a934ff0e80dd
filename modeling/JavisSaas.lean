import JavisSaas.Agent.Capabilities.ApprovalResume
import JavisSaas.Agent.Capabilities.CanonicalForms
import JavisSaas.Agent.Capabilities.Enablements
import JavisSaas.Agent.Capabilities.WaitingApproval
import JavisSaas.Agent.Coordination.Delegation
import JavisSaas.Agent.Coordination.WaitResolution
import JavisSaas.Agent.Evals.PromotionGate
import JavisSaas.Agent.Governance.Conjunction
import JavisSaas.Agent.Registry.PublishedSpecs
import JavisSaas.Agent.Remote.AcceptedCommands
import JavisSaas.Agent.Runs.Agreement
import JavisSaas.Agent.Skills.CandidateAgreement
import JavisSaas.Agent.Skills.DegradationWindow
import JavisSaas.Agent.Skills.ImprovementRecovery
import JavisSaas.Agent.Skills.OptimizationLab
import JavisSaas.Agent.Sync.Replicas
import JavisSaas.Agent.Vault.StoredObjects
import JavisSaas.Agent.Verification.Prompts
import JavisSaas.Agent.Workflows.Compensation
import JavisSaas.Agent.Workflows.DagRuns
import JavisSaas.Agent.Workflows.Definitions
import JavisSaas.Agent.Workflows.GateChain
import JavisSaas.Agent.Workflows.ToolResume
import JavisSaas.Agent.Workforce.Delegations
import JavisSaas.Agent.Workforce.ImprovementProposals
import JavisSaas.Agent.Workforce.ReportingForest
import JavisSaas.Company.Events.OutboxDelivery
import JavisSaas.Company.Finance.ApprovalProof
import JavisSaas.Company.Finance.BalanceSheet
import JavisSaas.Company.Finance.BudgetLimit
import JavisSaas.Company.Finance.DocumentRuns
import JavisSaas.Company.Finance.FinancialSnapshots
import JavisSaas.Company.Finance.LegalPredicates
import JavisSaas.Company.Finance.MoneyDecimals
import JavisSaas.Company.Finance.ObligationTrails
import JavisSaas.Company.Finance.ReportSnapshots
import JavisSaas.Company.Identity.FounderRevocations
import JavisSaas.Company.Identity.MembershipConvergence
import JavisSaas.Company.Identity.TicketConsumption
import JavisSaas.Company.Identity.WorkspaceLifecycle
import JavisSaas.Company.Operations.AttemptNumbers
import JavisSaas.Company.Operations.DeploymentVersions
import JavisSaas.Company.Operations.ExecutionCalendar
import JavisSaas.Company.Operations.InvocationOccurrences
import JavisSaas.Company.Operations.ItemPatches
import JavisSaas.Company.Operations.OneConfirmedContract
import JavisSaas.Company.Operations.PackageReviews
import JavisSaas.Company.Operations.PlanAcceptance
import JavisSaas.Company.Operations.PublishedMetrics
import JavisSaas.Company.Operations.TaskCompletions
import JavisSaas.Company.Operations.TaskDependencies
import JavisSaas.Cosa.ControlPlane.ChildWakeUp
import JavisSaas.Cosa.ControlPlane.CoalescingIndex
import JavisSaas.Cosa.ControlPlane.EventKeys
import JavisSaas.Cosa.ControlPlane.ExecutionLease
import JavisSaas.Cosa.ControlPlane.JoinPolicies
import JavisSaas.Cosa.ControlPlane.RunLeases
import JavisSaas.Cosa.ControlPlane.TaskFencing
import JavisSaas.Cosa.Events.FounderCallbacks
import JavisSaas.Cosa.Invitations.InvitationGrants
import JavisSaas.Cosa.Knowledge.IngestionTrails
import JavisSaas.Cosa.KnowledgeIngestion.TaskExecutions
import JavisSaas.Cosa.Policies.GrantConstraints
import JavisSaas.Cosa.Policies.Strictness
import JavisSaas.Cosa.Schedule.NextRun
import JavisSaas.Cosa.Snowflake.Emission
import JavisSaas.Cosa.Snowflake.Uniqueness
import JavisSaas.Cosa.Wga.ClosedTasks
import JavisSaas.Cosa.Worker.GovernedRuns
