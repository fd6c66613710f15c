import ShardCluster.Cluster.Preview
import ShardCluster.CommandLine.Session
import ShardCluster.Main
import ShardCluster.Machine.Session
import ShardCluster.Scenario.Run
import ShardCluster.Scenario.Signals
import ShardCluster.Proofs.Execution
import ShardCluster.Proofs.Accounts
import ShardCluster.Proofs.NodeAccounts
import ShardCluster.Proofs.Order
import ShardCluster.Proofs.SettingUp
import ShardCluster.Proofs.History
import ShardCluster.Proofs.Ownership
import ShardCluster.Proofs.Membership
import ShardCluster.Proofs.ScopedRuns
import ShardCluster.Proofs.Sparing
import ShardCluster.Proofs.Directories
import ShardCluster.Proofs.FailedSetUps
import ShardCluster.Proofs.Retries
import ShardCluster.Proofs.Conflicts
import ShardCluster.Proofs.Lifecycle
import ShardCluster.Proofs.RunningPorts
import ShardCluster.Proofs.BringUp
import ShardCluster.Proofs.Failures
import ShardCluster.Proofs.HalfBootstraps
import ShardCluster.Proofs.AcceptedPlans
import ShardCluster.Proofs.Departures
import ShardCluster.Proofs.Literals
import ShardCluster.Proofs.RenderedSettings
import ShardCluster.Proofs.JoiningOrder
import ShardCluster.Proofs.Remains
import ShardCluster.Proofs.Refusals
import ShardCluster.Proofs.Signalling
import ShardCluster.Proofs.Ceilings
import ShardCluster.Proofs.PassedConnections
import ShardCluster.Proofs.TimeSettings
import ShardCluster.Proofs.CrashReports
import ShardCluster.Proofs.Readiness
import ShardCluster.Proofs.ShutDowns
import ShardCluster.Proofs.SettingsFile
import ShardCluster.Proofs.AcceptedTimes
import ShardCluster.Proofs.EnvironmentOverlay
import ShardCluster.Proofs.SerialisedValues
import ShardCluster.Proofs.StartTimeouts
import ShardCluster.Proofs.NestedErrors
