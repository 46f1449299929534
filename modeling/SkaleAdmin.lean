import SkaleAdmin.Dkg.FilterCoverage
import SkaleAdmin.Dkg.AlrightSafety
import SkaleAdmin.Dkg.Completion
import SkaleAdmin.Dkg.KeyMaterial
import SkaleAdmin.Config.CrashSafety
import SkaleAdmin.Process.KillSafety
import SkaleAdmin.Process.SingleMonitor
import SkaleAdmin.Monitor.ConfigVersion
import SkaleAdmin.Monitor.ReloadSchedule
import SkaleAdmin.Monitor.RepairSafety
import SkaleAdmin.Monitor.RpcRestarts
import SkaleAdmin.Monitor.StaggeredExit
import SkaleAdmin.Dkg.VectorAgreement
import SkaleAdmin.Dkg.RefetchAgreement
import SkaleAdmin.Firewall.Acceptance
import SkaleAdmin.Firewall.Independence
import SkaleAdmin.Monitor.RepairRequests
import SkaleAdmin.Monitor.ConfiglessRun
import SkaleAdmin.Monitor.SslReload
import SkaleAdmin.Monitor.KeyedConfig
import SkaleAdmin.Cleaner.Monitor
import SkaleAdmin.Cleaner.CompleteCleanup
import SkaleAdmin.Web.MonitoredRecords
import SkaleAdmin.Config.TwoCells
import SkaleAdmin.Monitor.TaskLoop
import SkaleAdmin.Dkg.TimeBudget
import SkaleAdmin.Firewall.CachedController
import SkaleAdmin.Monitor.ImaContainer
import SkaleAdmin.Monitor.PartialStatus
import SkaleAdmin.Monitor.CounterRange
import SkaleAdmin.Monitor.GroupReload
import SkaleAdmin.Monitor.FirewallPass
import SkaleAdmin.Dkg.RetryTransparency
import SkaleAdmin.Dkg.ComplaintTargets
import SkaleAdmin.Monitor.FinishTs
import SkaleAdmin.Config.StaticGroups
import SkaleAdmin.Config.ExternalConfig
import SkaleAdmin.Monitor.UpstreamWrites
import SkaleAdmin.Core.RegisterCrashes
import SkaleAdmin.Web.CheckFilter
import SkaleAdmin.Docker.RemovedLogs
import SkaleAdmin.Notifications.StateChanges
import SkaleAdmin.Config.UpstreamDiscovery
import SkaleAdmin.Logging.Redaction
import SkaleAdmin.Dkg.RunOutcomes
import SkaleAdmin.Firewall.RuleOrder
import SkaleAdmin.Tools.TornFile
import SkaleAdmin.Monitor.Peers
import SkaleAdmin.Core.ImaEnv
import SkaleAdmin.Core.SchainCmd
import SkaleAdmin.Config.GenesisAccounts
import SkaleAdmin.Web.Upgrade
import SkaleAdmin.Monitor.RunningConfig
