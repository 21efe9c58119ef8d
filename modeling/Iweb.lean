import Iweb.Activation.Proofs.CrashAtomicityProofs
import Iweb.Activation.Proofs.RpcHistoryProofs
import Iweb.Runtime.Proofs.ActivationFactsProofs
import Iweb.Runtime.Proofs.ControlMutatorsProofs
import Iweb.HostServices.Proofs.LoggingProofs
import Iweb.Runtime.Proofs.RollbackProofs
import Iweb.Admission.Proofs.AdmissionProofs
import Iweb.Admission.Proofs.JournalFileProofs
import Iweb.Runtime.System
import Iweb.Registry.Proofs.KindRegistryProofs
import Iweb.Supervisor.Proofs.FenceProofs
import Iweb.Supervisor.Proofs.ExecutionRpcProofs
import Iweb.Supervisor.Proofs.RestartProofs
import Iweb.Supervisor.Proofs.ProcessRuntimeProofs
import Iweb.Closure.Proofs.CapabilityProofs
import Iweb.Secrets.Proofs.RotationConvergenceProofs
import Iweb.Secrets.Proofs.RotationRefusalProofs
import Iweb.Catalog.Proofs.RecoveryRunProofs
import Iweb.HostServices.Proofs.LedgerProofs
import Iweb.HostServices.Proofs.KvProofs
import Iweb.HostServices.Proofs.ReplayProofs
import Iweb.HostServices.Proofs.SqliteLexerProofs
import Iweb.HostServices.Proofs.SqlDialectProofs
import Iweb.Foundations.Linearization
import Iweb.Registry.RouteEdits
import Iweb.Runtime.EngineMetrics
import Iweb.Supervisor.EngineSampling
import Iweb.Supervisor.Proofs.EngineMetricsProofs
import Iweb.Supervisor.Proofs.ProcessCustodyProofs
import Iweb.HostServices.Proofs.SettlementProofs
import Iweb.Admission.Proofs.SequencingProofs
import Iweb.Foundations.Lexicographic
import Iweb.Kernel.Text
import Iweb.HostServices.Proofs.KvPagingProofs
import Iweb.Admission.Proofs.ContractProofs
import Iweb.HostServices.Proofs.SqlContractProofs
import Iweb.Registry.Proofs.RouteEditsProofs
import Iweb.Ingress.Proofs.RoutingProofs
import Iweb.Supervisor.Proofs.HostLoggingProofs
import Iweb.Ingress.Proofs.SandboxExchangeProofs
import Iweb.Runtime.Proofs.EngineMetricsRunsProofs
import Iweb.Supervisor.Proofs.SnapshotHandoffsProofs
import Iweb.Supervisor.Proofs.HostBackupProofs
import Iweb.Keys.Proofs.KeyExpiryProofs
import Iweb.Kernel.Proofs.TimestampCodecProofs
import Iweb.Relay.Proofs.ChildrenProofs
import Iweb.Relay.Proofs.DescriptorSlotsProofs
import Iweb.Workspace.Proofs.FilesProofs
import Iweb.Packages.Proofs.CollectionProofs
import Iweb.Notes.Proofs.MigrationProofs
import Iweb.Storage.Proofs.GatewayProofs
import Iweb.Runtime.ProcessSampling
import Iweb.Runtime.Watchdog
import Iweb.Runtime.Proofs.WatchdogProofs
import Iweb.HostServices.KvContract
import Iweb.HostServices.Proofs.KvContractProofs
import Iweb.HostServices.HostClock
import Iweb.HostServices.Proofs.HostClockProofs
import Iweb.Contracts.JsonGrammar
import Iweb.Contracts.Proofs.StrictJsonProofs
import Iweb.Contracts.Proofs.CanonicalJsonProofs
import Iweb.Contracts.CanonicalFile
import Iweb.Contracts.Proofs.CanonicalFileProofs
import Iweb.Contracts.Proofs.OciLayoutProofs
import Iweb.Runtime.Proofs.WritesProofs
import Iweb.Runtime.Proofs.SupervisedProofs
