import Clusterflux.Core.Execution
import Clusterflux.Foundation.Checks

/-!
# Artifact transfers

The life cycle of a transfer, the lease both ends work under, and the record the
coordinator keeps.  A lease has two deadlines: the stream ticket for opening the
body stream, and the active lease that keeps the transfer itself alive.
-/

namespace Clusterflux

open Checks

def maxEndpointDirectAddresses : ℕ := 32

def maxEndpointRelayUrls : ℕ := 8

def maxEndpointIdBytes : ℕ := 128

def maxRelayUrlBytes : ℕ := 2048

def maxTransferIdBytes : ℕ := 128

/-- The state of a transfer in coarser steps. -/
inductive ArtifactTransferPhase where
  | queued
  | connecting
  | waitingForDirect
  | transferring
  | verifying
  | complete
  deriving DecidableEq

inductive ArtifactAssignmentState where
  | offered
  | acknowledged
  | ready
  deriving DecidableEq

/-- What is worth doing after a transfer failed for a given reason. -/
inductive ArtifactTransferRetryClass where
  | retrySameSource
  | tryAnotherSource
  | waitAndRetryPath
  | permanentSourceInvalidation
  | doNotRetry
  deriving DecidableEq

namespace ArtifactTransferErrorCode

def asStr : ArtifactTransferErrorCode → String
  | .noArtifactLocation => "no_artifact_location"
  | .sourceNodeOffline => "source_node_offline"
  | .destinationNodeOffline => "destination_node_offline"
  | .endpointAdvertisementMissing => "endpoint_advertisement_missing"
  | .relayAssistUnavailable => "relay_assist_unavailable"
  | .directPathTimeout => "direct_path_timeout"
  | .relayPathForbidden => "relay_path_forbidden"
  | .connectionFailed => "connection_failed"
  | .peerIdentityMismatch => "peer_identity_mismatch"
  | .transferLeaseRejected => "transfer_lease_rejected"
  | .transferLeaseExpired => "transfer_lease_expired"
  | .artifactMissingAtSource => "artifact_missing_at_source"
  | .rangeInvalid => "range_invalid"
  | .destinationDiskFull => "destination_disk_full"
  | .sizeMismatch => "size_mismatch"
  | .digestMismatch => "digest_mismatch"
  | .transferCancelled => "transfer_cancelled"
  | .capacityUnavailable => "capacity_unavailable"

def retryClass : ArtifactTransferErrorCode → ArtifactTransferRetryClass
  | .directPathTimeout | .relayPathForbidden => .waitAndRetryPath
  | .relayAssistUnavailable | .connectionFailed | .transferLeaseExpired
  | .capacityUnavailable | .sourceNodeOffline | .destinationNodeOffline
  | .endpointAdvertisementMissing => .retrySameSource
  | .artifactMissingAtSource | .sizeMismatch | .digestMismatch => .permanentSourceInvalidation
  | .peerIdentityMismatch | .transferLeaseRejected | .rangeInvalid => .tryAnotherSource
  | .noArtifactLocation | .destinationDiskFull | .transferCancelled => .doNotRetry

end ArtifactTransferErrorCode

namespace ArtifactTransferState

def terminal : ArtifactTransferState → Bool
  | .completed | .failed | .cancelled | .expired => true
  | _ => false

/-- The states a state may be followed by, itself apart. -/
def successors : ArtifactTransferState → List ArtifactTransferState
  | .requested => [.sourceSelected, .failed, .cancelled, .expired]
  | .sourceSelected => [.connecting, .retrying, .failed, .cancelled, .expired]
  | .connecting => [.waitingForDirect, .transferring, .retrying, .failed, .cancelled, .expired]
  | .waitingForDirect => [.transferring, .retrying, .failed, .cancelled, .expired]
  | .transferring => [.verifying, .retrying, .failed, .cancelled, .expired]
  | .verifying => [.completed, .retrying, .failed, .cancelled, .expired]
  | .retrying => [.sourceSelected, .connecting, .failed, .cancelled, .expired]
  | .completed | .failed | .cancelled | .expired => []

/-- A state may be reported again, or move on to a successor. -/
def permitsTransitionTo (state next : ArtifactTransferState) : Bool :=
  state = next || state.successors.contains next

def phase : ArtifactTransferState → ArtifactTransferPhase
  | .requested | .sourceSelected | .retrying => .queued
  | .connecting => .connecting
  | .waitingForDirect => .waitingForDirect
  | .transferring => .transferring
  | .verifying => .verifying
  | .completed | .failed | .cancelled | .expired => .complete

/-- The debug text of the state. -/
def text : ArtifactTransferState → String
  | .requested => "Requested"
  | .sourceSelected => "SourceSelected"
  | .connecting => "Connecting"
  | .waitingForDirect => "WaitingForDirect"
  | .transferring => "Transferring"
  | .verifying => "Verifying"
  | .completed => "Completed"
  | .retrying => "Retrying"
  | .failed => "Failed"
  | .cancelled => "Cancelled"
  | .expired => "Expired"

/-- Whatever is not finished may fail, be cancelled or expire. -/
theorem permits_ending {state next : ArtifactTransferState} (hstate : state.terminal = false)
    (hnext : next = .failed ∨ next = .cancelled ∨ next = .expired) :
    state.permitsTransitionTo next = true := by
  rcases hnext with rfl | rfl | rfl <;>
    cases state <;> simp_all [terminal, permitsTransitionTo, successors]

@[simp]
theorem permitsTransitionTo_self (state : ArtifactTransferState) :
    state.permitsTransitionTo state = true := by
  simp [permitsTransitionTo]

end ArtifactTransferState

def validateEndpointId (endpointId : String) : Except String Unit :=
  refuseIf (endpointId.isEmpty || endpointId.utf8ByteSize > maxEndpointIdBytes)
    "Iroh endpoint ID is empty or exceeds its size limit"

def validateRelayUrls (relayUrls : List String) : Except String Unit := do
  refuseIf (relayUrls.length > maxEndpointRelayUrls) "Iroh endpoint contains too many relay URLs"
  refuseIf (relayUrls.any fun url => url.isEmpty || url.utf8ByteSize > maxRelayUrlBytes)
    "Iroh endpoint contains an invalid relay URL"

def IrohEndpointAdvertisement.validateBounds (advertisement : IrohEndpointAdvertisement) :
    Except String Unit := do
  validateEndpointId advertisement.endpointId
  refuseIf (advertisement.directAddresses.length > maxEndpointDirectAddresses)
    "Iroh endpoint advertisement has too many direct addresses"
  validateRelayUrls advertisement.relayUrls
  refuseIf (advertisement.generation = 0 || advertisement.relayConfigurationGeneration = 0)
    "Iroh endpoint advertisement generations must be non-zero"

/-- Only an endpoint with a valid id can be advertised. -/
theorem IrohEndpointAdvertisement.validateEndpointId_of_validateBounds
    {advertisement : IrohEndpointAdvertisement}
    (hvalid : advertisement.validateBounds = .ok ()) :
    validateEndpointId advertisement.endpointId = .ok () := by
  exact (check_bind_eq_ok.mp hvalid).1

/-- The terms under which one node may send a range of an artifact to another. -/
structure ArtifactTransferLease where
  transferId : String
  tenant : TenantId
  project : ProjectId
  process : ProcessId
  artifact : ArtifactId
  digest : Digest
  sizeBytes : ℕ
  sourceNode : NodeId
  sourceEndpointId : String
  destinationNode : NodeId
  destinationEndpointId : String
  allowedOffset : ℕ
  maximumBytes : ℕ
  relayPolicy : ArtifactRelayPolicy
  directPathDeadlineMs : ℕ
  /-- Short-lived authorization for opening or resuming the body stream. -/
  expiresAt : ℕ
  /-- Renewable lifetime of the transfer. -/
  activeLeaseExpiresAt : ℕ
  nonce : String
  deriving DecidableEq

def ArtifactTransferLease.validateBounds (lease : ArtifactTransferLease) : Except String Unit := do
  refuseIf (lease.transferId.isEmpty || lease.transferId.utf8ByteSize > maxTransferIdBytes)
    "artifact transfer ID is empty or exceeds its size limit"
  validateEndpointId lease.sourceEndpointId
  validateEndpointId lease.destinationEndpointId
  refuseIf (lease.nonce.isEmpty || lease.nonce.utf8ByteSize > maxTransferIdBytes)
    "artifact transfer lease has an invalid nonce"
  refuseIf (lease.allowedOffset > lease.sizeBytes)
    "artifact transfer lease offset exceeds artifact size"
  refuseIf (lease.maximumBytes < lease.sizeBytes - lease.allowedOffset)
    "artifact transfer lease byte limit is smaller than the permitted range"
  refuseIf (lease.activeLeaseExpiresAt ≠ 0 && lease.activeLeaseExpiresAt < lease.expiresAt)
    "artifact active-transfer lease expires before its stream ticket"

/-- A lease within its bounds: sizes of the texts, the permitted range, and the
order of the deadlines. -/
theorem ArtifactTransferLease.validateBounds_eq_ok_iff {lease : ArtifactTransferLease} :
    lease.validateBounds = .ok () ↔
      (lease.transferId.isEmpty = false ∧ lease.transferId.utf8ByteSize ≤ maxTransferIdBytes) ∧
      validateEndpointId lease.sourceEndpointId = .ok () ∧
      validateEndpointId lease.destinationEndpointId = .ok () ∧
      (lease.nonce.isEmpty = false ∧ lease.nonce.utf8ByteSize ≤ maxTransferIdBytes) ∧
      lease.allowedOffset ≤ lease.sizeBytes ∧
      lease.sizeBytes - lease.allowedOffset ≤ lease.maximumBytes ∧
      (lease.activeLeaseExpiresAt = 0 ∨ lease.expiresAt ≤ lease.activeLeaseExpiresAt) := by
  simp only [validateBounds, check_bind_eq_ok, refuseIf_eq_ok, Bool.or_eq_false_iff,
    decide_eq_false_iff_not, not_lt, Bool.and_eq_false_iff, decide_not, Bool.not_eq_false',
    decide_eq_true_eq]

/-- How long a partial download under the lease is kept. -/
def ArtifactTransferLease.retentionExpiresAt (lease : ArtifactTransferLease) : ℕ :=
  max lease.activeLeaseExpiresAt lease.expiresAt

/-- Where the other side of a transfer can be reached. -/
structure AuthorizedPeerEndpoint where
  node : NodeId
  endpointId : String
  generation : ℕ
  directAddresses : List String
  relayUrls : List String
  deriving DecidableEq

def AuthorizedPeerEndpoint.validateBounds (peer : AuthorizedPeerEndpoint) :
    Except String Unit := do
  validateEndpointId peer.endpointId
  refuseIf (peer.generation = 0) "authorized peer endpoint generation must be non-zero"
  refuseIf (peer.directAddresses.length > maxEndpointDirectAddresses)
    "authorized peer endpoint contains too many direct addresses"
  validateRelayUrls peer.relayUrls

/-- A lease with the secret and the peer that are needed to use it. -/
structure ArtifactTransferAuthorization where
  lease : ArtifactTransferLease
  transferSecret : List UInt8
  peer : AuthorizedPeerEndpoint
  deriving DecidableEq

/-- What the coordinator remembers of a transfer. -/
structure ArtifactTransferRecord where
  transferId : String
  tenant : TenantId
  project : ProjectId
  process : ProcessId
  artifact : ArtifactId
  sourceNode : NodeId
  destinationNode : NodeId
  bytesCompleted : ℕ
  pathKind : ClusterfluxPathKind
  state : ArtifactTransferState
  createdAt : ℕ
  updatedAt : ℕ
  /-- Renewable active-transfer lease deadline. -/
  expiresAt : ℕ
  streamTicketExpiresAt : ℕ
  lastProgressAt : ℕ
  totalBytes : ℕ
  phase : ArtifactTransferPhase
  failureCode : Option ArtifactTransferErrorCode
  attemptCount : ℕ
  deriving DecidableEq

end Clusterflux
