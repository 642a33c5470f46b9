import Clusterflux.Verification.SignatureBinding
import Clusterflux.Verification.AssignmentLifecycle
import Clusterflux.Verification.CredentialIsolation
import Clusterflux.Verification.GuestEnvironment
import Clusterflux.Verification.TransferMetering
import Clusterflux.Verification.TransferLeases
import Clusterflux.Verification.LogReading
import Clusterflux.Verification.QuotaExactness
import Clusterflux.Verification.ReplayProtection
import Clusterflux.Verification.AdmissionCeilings
import Clusterflux.Verification.RunRecords
import Clusterflux.Verification.SingleTransfers
import Clusterflux.Verification.SummaryHistory
import Clusterflux.Verification.RelaySuspensions
import Clusterflux.Verification.TransferProtocol
import Clusterflux.Verification.ArtifactVisibility
import Clusterflux.Verification.TransferIntegrity
import Clusterflux.Verification.LaunchRedelivery
import Clusterflux.Verification.CompilerLeases
import Clusterflux.Verification.EndpointBindings
import Clusterflux.Verification.ArtifactPaths
import Clusterflux.Verification.SecretBinding
import Clusterflux.Verification.BundleIdentity
import Clusterflux.Verification.FuelBudget
import Clusterflux.Verification.OperatorPanels
import Clusterflux.Verification.CommandLogs
