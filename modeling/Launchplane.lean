import Launchplane.MergeTrain.StructuralAdmission
import Launchplane.MergeTrain.DryRun
import Launchplane.Dokploy.DotenvWeight
import Launchplane.Interaction.Act
import Launchplane.Dokploy.Environment
import Launchplane.Dokploy.CommentLines
import Launchplane.Dokploy.Literals
import Launchplane.Dokploy.RoundTrip
import Launchplane.Dokploy.Rewrite
import Launchplane.Interaction.Quiet
import Launchplane.MergeTrain.AdmissionRecord
import Launchplane.SelfDeploy.Fence
import Launchplane.SelfDeploy.Runs
import Launchplane.SelfDeploy.OldWorkers
import Launchplane.SelfDeploy.Ownership
import Launchplane.Table
import Launchplane.Secrets.Slug
import Launchplane.Secrets.Store
import Launchplane.Secrets.Write
import Launchplane.Secrets.Kept
import Launchplane.RuntimeEnvironment.Isolation
import Launchplane.ClientRelease.Rollback
import Launchplane.Interaction.Pool
import Launchplane.Outbox.AtMostOnce
import Launchplane.MergeReadiness.Ready
import Launchplane.MergeTrain.StackDiscovery
import Launchplane.MergeTrain.BatchSelection
import Launchplane.MergeTrain.CodeOwners
import Launchplane.MergeReadiness.Contracts
import Launchplane.MergeReadiness.Evaluate
import Launchplane.ProductReconcile.NeverLost
import Launchplane.PublicIngress.History
import Launchplane.PublicIngress.Reminders
import Launchplane.HealthProbe.Observations
import Launchplane.HealthProbe.CheckUrl
import Launchplane.HealthProbe.Monitor
import Launchplane.HealthProbe.Urls
import Launchplane.HealthProbe.Observed
import Launchplane.HealthProbe.Settled
import Launchplane.Authz.Records
import Launchplane.Authz.Migration
import Launchplane.Authz.Normalize
import Launchplane.Authz.PinnedWorkflows
import Launchplane.Authz.Replan
import Launchplane.ReleaseCompatibility.ReleaseClass
import Launchplane.Checks.RequiredChecks
import Launchplane.Worklist
import Launchplane.CiSelection.SelectModules
import Launchplane.Balance
import Launchplane.UnittestSharding.Targets
import Launchplane.MergeTrain.Reconcile
import Launchplane.Intervals
import Launchplane.LaneMovement.Forward
import Launchplane.BusinessHours.CalendarWindow
import Launchplane.ReleaseCompatibility.Reasons
import Launchplane.OdooOperation.Record
import Launchplane.OdooOperation.Steps
import Launchplane.OdooOperation.Completion
import Launchplane.OdooOperation.Runs
import Launchplane.OdooOperation.Holders
import Launchplane.Mutation.Takeover
