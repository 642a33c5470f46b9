import Clusterflux.Coordinator.InterchangeRegistry

/-!
# Interchange configuration

The operator's policy for moving artifacts between nodes and the terms of a new
transfer under it.
-/

namespace Clusterflux

open Checks

inductive ClusterfluxDeploymentMode where
  | hostedPublic
  | selfHosted
  | localOffline
  deriving DecidableEq

structure ClusterfluxRelayConfig where
  url : String
  accessToken : Option String := none
  deriving DecidableEq

inductive IrohRelayConfiguration where
  | disabled
  | custom (relays : List ClusterfluxRelayConfig)
  deriving DecidableEq

/-- What a node is told of the policy. -/
structure ArtifactDataPlanePolicy where
  relay : IrohRelayConfiguration
  artifactRelayPolicy : ArtifactRelayPolicy
  generation : ℕ
  endpointAdvertisementTtlSeconds : ℕ
  directPathDeadlineMs : ℕ
  directPathGracePeriodMs : ℕ

structure CoordinatorArtifactInterchangeConfiguration where
  deploymentMode : ClusterfluxDeploymentMode := .selfHosted
  relay : IrohRelayConfiguration := .disabled
  artifactRelayPolicy : ArtifactRelayPolicy := .directRequired
  generation : ℕ := 1
  endpointAdvertisementTtlSeconds : ℕ := 60
  transferLeaseTtlSeconds : ℕ := 120
  activeTransferLeaseTtlSeconds : ℕ := 10 * 60
  noProgressTimeoutSeconds : ℕ := 5 * 60
  absoluteTransferMaxSeconds : Option ℕ := none
  maxActiveTransfersPerTenant : ℕ := 128
  maxActiveTransfersPerProject : ℕ := 64
  maxActiveTransfersPerProcess : ℕ := 32
  maxProviderLeasesPerNode : ℕ := 64
  maxReceiverLeasesPerNode : ℕ := 64
  maxTransferCreationsPerTenantNodeMinute : ℕ := 120
  maxPartialBytesPerNodeProject : ℕ := 64 * 1024 * 1024 * 1024
  directPathDeadlineMs : ℕ := 20000
  directPathGracePeriodMs : ℕ := 2000

def endpointAdvertisementClockSkewSeconds : ℕ := 5

def maxInterchangeTransfers : ℕ := 4096

def maxActiveTransferLeaseTtlSeconds : ℕ := 24 * 60 * 60

def maxNoProgressTimeoutSeconds : ℕ := 24 * 60 * 60

def maxAbsoluteTransferSeconds : ℕ := 7 * 24 * 60 * 60

def maxTransferCreationsPerTenantNodeMinuteLimit : ℕ := 1000000

def maxPartialBytesPerNodeProjectLimit : ℕ := 1024 * 1024 * 1024 * 1024

def maxDirectPathDeadlineMs : ℕ := 10 * 60 * 1000

def assignmentAckRecoverySeconds : ℕ := 5

def terminalTransferRetentionSeconds : ℕ := 10 * 60

/-! ## Relay URLs -/

/-- The parts before and after the first occurrence of a separator. -/
def splitOnce (separator : List Char) : List Char → Option (List Char × List Char)
  | [] => if separator = [] then some ([], []) else none
  | char :: rest =>
    if separator.isPrefixOf (char :: rest) then
      some ([], (char :: rest).drop separator.length)
    else (splitOnce separator rest).map fun (before, after) => (char :: before, after)

/-- The host an authority names, without a trailing dot and in lower case. -/
def authorityHost (authority : List Char) : List Char :=
  let host := match authority with
    | '[' :: bracketed => bracketed.takeWhile (· ≠ ']')
    | _ => authority.takeWhile (· ≠ ':')
  (host.reverse.dropWhile (· = '.')).reverse.map Char.toLower

def publicRelayDomains : List String := ["iroh.link", "iroh.computer", "n0.computer"]

def relayUrlIsForbiddenOrInvalid (value : String) (mode : ClusterfluxDeploymentMode) : Bool :=
  let chars := value.toList
  if chars.contains '?' || chars.contains '#' then true
  else match splitOnce "://".toList chars with
    | none => true
    | some (scheme, remainder) =>
      let https := scheme = "https".toList
      let http := scheme = "http".toList
      let authority := remainder.takeWhile (· ≠ '/')
      if (¬ http ∧ ¬ https) ∨ remainder = [] then true
      else if authority = [] ∨ '@' ∈ authority then true
      else
        let host := authorityHost authority
        let loopback := host = "localhost".toList ∨ host = "127.0.0.1".toList ∨
          host = "::1".toList ∨ "127.".toList.isPrefixOf host
        (http ∧ (mode = .hostedPublic ∨ ¬ loopback)) ∨ (mode = .hostedPublic ∧ ¬ https) ∨
          host = [] ∨ publicRelayDomains.any fun domain =>
            host = domain.toList || ('.' :: domain.toList).isSuffixOf host

/-- Only a final slash may differ. -/
def relayUrlsMatch (configured advertised : String) : Bool :=
  configured = advertised || configured = advertised ++ "/" || advertised = configured ++ "/"

/-! ## Validation -/

namespace CoordinatorArtifactInterchangeConfiguration

variable (configuration : CoordinatorArtifactInterchangeConfiguration)

/-- A limit that may be neither zero nor above its maximum. -/
def outsideLimit (maximum limit : ℕ) : Bool := limit = 0 || limit > maximum

def boundsInvalid : Bool :=
  configuration.generation = 0 ||
    outsideLimit (10 * 60) configuration.endpointAdvertisementTtlSeconds ||
    outsideLimit (15 * 60) configuration.transferLeaseTtlSeconds ||
    outsideLimit maxActiveTransferLeaseTtlSeconds configuration.activeTransferLeaseTtlSeconds ||
    outsideLimit maxNoProgressTimeoutSeconds configuration.noProgressTimeoutSeconds ||
    configuration.noProgressTimeoutSeconds < configuration.activeTransferLeaseTtlSeconds / 4 ||
    (configuration.absoluteTransferMaxSeconds.any fun maximum =>
      maximum < configuration.activeTransferLeaseTtlSeconds ||
        maximum > maxAbsoluteTransferSeconds) ||
    [configuration.maxActiveTransfersPerTenant, configuration.maxActiveTransfersPerProject,
      configuration.maxActiveTransfersPerProcess, configuration.maxProviderLeasesPerNode,
      configuration.maxReceiverLeasesPerNode].any (outsideLimit maxInterchangeTransfers) ||
    outsideLimit maxTransferCreationsPerTenantNodeMinuteLimit
      configuration.maxTransferCreationsPerTenantNodeMinute ||
    outsideLimit maxPartialBytesPerNodeProjectLimit
      configuration.maxPartialBytesPerNodeProject ||
    outsideLimit maxDirectPathDeadlineMs configuration.directPathDeadlineMs ||
    configuration.directPathGracePeriodMs > configuration.directPathDeadlineMs

def relayListInvalid (relays : List ClusterfluxRelayConfig) : Bool :=
  relays.any fun relay =>
    relay.url.isEmpty || relay.url.utf8ByteSize > maxRelayUrlBytes ||
      relayUrlIsForbiddenOrInvalid relay.url configuration.deploymentMode

def validateRelays : Except String Unit :=
  match configuration.relay with
  | .disabled => .ok ()
  | .custom relays => do
      refuseIf (relays.isEmpty || relays.length > maxEndpointRelayUrls)
        "artifact interchange relay list is empty or too large"
      refuseIf (configuration.relayListInvalid relays || ¬ (relays.map (·.url)).Nodup)
        "artifact interchange relay URL is invalid or duplicated"

def validate : Except String Unit := do
  refuseIf configuration.boundsInvalid
    "artifact interchange policy contains an invalid generation or bound"
  refuseIf (configuration.deploymentMode = .hostedPublic &&
      configuration.artifactRelayPolicy ≠ .directRequired)
    "hosted public artifact transfers must require direct paths"
  refuseIf (configuration.deploymentMode = .hostedPublic && configuration.relay = .disabled)
    "hosted public NAT traversal requires a Clusterflux assist relay"
  refuseIf (configuration.deploymentMode = .localOffline && configuration.relay ≠ .disabled)
    "local/offline artifact interchange must disable relays"
  refuseIf (configuration.relay = .disabled &&
      configuration.artifactRelayPolicy = .relayFallbackAllowed)
    "artifact relay fallback cannot be enabled without a configured relay"
  configuration.validateRelays

def lifetimes : TransferLifetimes where
  transferTicketTtlSeconds := configuration.transferLeaseTtlSeconds
  activeLeaseTtlSeconds := configuration.activeTransferLeaseTtlSeconds
  absoluteTransferMaxSeconds := configuration.absoluteTransferMaxSeconds

end CoordinatorArtifactInterchangeConfiguration

/-! ## Terms of a transfer -/

def authorizedPeer (advertisement : IrohEndpointAdvertisement) : AuthorizedPeerEndpoint where
  node := advertisement.node
  endpointId := advertisement.endpointId
  generation := advertisement.generation
  directAddresses := advertisement.directAddresses
  relayUrls := advertisement.relayUrls

/-- What a new transfer is made of: who asked for which bytes, the source that
was selected, the advertised endpoints of both ends and fresh tokens. -/
structure TransferTerms where
  configuration : CoordinatorArtifactInterchangeConfiguration
  destination : NodeScopeKey
  process : ProcessId
  artifact : ArtifactId
  digest : Digest
  size : ℕ
  offset : ℕ
  sourceNode : NodeId
  sourceAdvertisement : IrohEndpointAdvertisement
  destinationAdvertisement : IrohEndpointAdvertisement
  transferId : String
  nonce : String
  transferSecret : List UInt8
  attemptCount : ℕ
  now : ℕ

namespace TransferTerms

variable (terms : TransferTerms)

def streamTicketExpiresAt : ℕ :=
  saturatingAdd terms.now terms.configuration.transferLeaseTtlSeconds

def expiresAt : ℕ :=
  saturatingAdd terms.now terms.configuration.activeTransferLeaseTtlSeconds

def lease : ArtifactTransferLease where
  transferId := terms.transferId
  tenant := terms.destination.tenant
  project := terms.destination.project
  process := terms.process
  artifact := terms.artifact
  digest := terms.digest
  sizeBytes := terms.size
  sourceNode := terms.sourceNode
  sourceEndpointId := terms.sourceAdvertisement.endpointId
  destinationNode := terms.destination.node
  destinationEndpointId := terms.destinationAdvertisement.endpointId
  allowedOffset := terms.offset
  maximumBytes := terms.size - terms.offset
  relayPolicy := terms.configuration.artifactRelayPolicy
  directPathDeadlineMs := terms.configuration.directPathDeadlineMs
  expiresAt := terms.streamTicketExpiresAt
  activeLeaseExpiresAt := terms.expiresAt
  nonce := terms.nonce

def record : ArtifactTransferRecord where
  transferId := terms.transferId
  tenant := terms.destination.tenant
  project := terms.destination.project
  process := terms.process
  artifact := terms.artifact
  sourceNode := terms.sourceNode
  destinationNode := terms.destination.node
  bytesCompleted := terms.offset
  pathKind := .unknown
  state := .sourceSelected
  createdAt := terms.now
  updatedAt := terms.now
  expiresAt := terms.expiresAt
  streamTicketExpiresAt := terms.streamTicketExpiresAt
  lastProgressAt := terms.now
  totalBytes := terms.size
  phase := .queued
  failureCode := none
  attemptCount := terms.attemptCount

def transfer : InterchangeTransfer where
  record := terms.record
  destinationAuthorization :=
    ⟨terms.lease, terms.transferSecret, authorizedPeer terms.sourceAdvertisement⟩
  providerAuthorization :=
    ⟨terms.lease, terms.transferSecret, authorizedPeer terms.destinationAdvertisement⟩
  destinationAssignment := .offered
  providerAssignment := .offered
  destinationAcknowledgedAt := none
  providerAcknowledgedAt := none
  meteredBodyBytes := 0

end TransferTerms

end Clusterflux
