import Clusterflux.Coordinator.ArtifactRegistry

/-!
# Interchange registry

The transfers between nodes that the coordinator has authorized.  Both ends of a
transfer report progress on one record; terminal transfers stay for a while and
answer repeated reports.
-/

namespace Clusterflux

structure InterchangeTransfer where
  record : ArtifactTransferRecord
  destinationAuthorization : ArtifactTransferAuthorization
  providerAuthorization : ArtifactTransferAuthorization
  destinationAssignment : ArtifactAssignmentState
  providerAssignment : ArtifactAssignmentState
  destinationAcknowledgedAt : Option ℕ
  providerAcknowledgedAt : Option ℕ
  meteredBodyBytes : ℕ
  deriving DecidableEq

structure InterchangeRegistry where
  transfers : OrderedMap String InterchangeTransfer := ∅
  directBodyBytes : ℕ := 0
  relayedBodyBytes : ℕ := 0
  unknownPathBodyBytes : ℕ := 0

/-- An artifact and the reason of the hold on it that a finished transfer gives
up. -/
abbrev ReleasedTransferHold := ArtifactScopeKey × ArtifactHoldReason

inductive TransferReportError where
  | protocol (message : String)
  | unauthorized (message : String)

/-- What a node says about a transfer. -/
structure TransferReport where
  state : ArtifactTransferState
  bytesCompleted : ℕ
  pathKind : ClusterfluxPathKind
  failureCode : Option ArtifactTransferErrorCode
  verifiedDigest : Option Digest
  verifiedSize : Option ℕ

/-- The configured lifetimes. -/
structure TransferLifetimes where
  transferTicketTtlSeconds : ℕ
  activeLeaseTtlSeconds : ℕ
  absoluteTransferMaxSeconds : Option ℕ

structure InterchangeProgress where
  record : ArtifactTransferRecord
  authorization : Option ArtifactTransferAuthorization
  terminalHold : Option ReleasedTransferHold

/-- The deadline of an active lease renewed now. -/
def TransferLifetimes.activeExpiry (lifetimes : TransferLifetimes) (createdAt now : ℕ) : ℕ :=
  let renewed := saturatingAdd now lifetimes.activeLeaseTtlSeconds
  match lifetimes.absoluteTransferMaxSeconds with
  | some maximum => min renewed (saturatingAdd createdAt maximum)
  | none => renewed

namespace InterchangeTransfer

variable (transfer : InterchangeTransfer)

def key : ArtifactScopeKey :=
  ⟨transfer.record.tenant, transfer.record.project, transfer.record.artifact⟩

def activeHold : ReleasedTransferHold :=
  (transfer.key, .activeTransfer transfer.record.transferId)

/-- The node is one of the ends of a transfer of its project. -/
def concerns (scope : NodeScopeKey) : Bool :=
  transfer.record.tenant = scope.tenant ∧ transfer.record.project = scope.project ∧
    (transfer.record.sourceNode = scope.node ∨ transfer.record.destinationNode = scope.node)

def matchesActiveNode (scope : NodeScopeKey) : Bool :=
  !transfer.record.state.terminal && transfer.concerns scope

/-- The transfer ended by something else than a report. -/
def ended (state : ArtifactTransferState) (code : ArtifactTransferErrorCode) (now : ℕ) :
    InterchangeTransfer :=
  { transfer with record := { transfer.record with
      state := state
      failureCode := some code
      updatedAt := now
      phase := .complete } }

/-! ## Reports -/

/-- The answer to a report on a finished transfer: the same report again is
accepted, any other is refused with the code of the end. -/
def terminalAnswer (report : TransferReport) : Except TransferReportError InterchangeProgress :=
  let record := transfer.record
  if record.state = report.state ∧ record.bytesCompleted = report.bytesCompleted ∧
      record.pathKind = report.pathKind ∧ record.failureCode = report.failureCode then
    .ok ⟨record, none, none⟩
  else .error (.protocol (match record.state with
    | .cancelled => ArtifactTransferErrorCode.asStr .transferCancelled
    | .expired => ArtifactTransferErrorCode.asStr .transferLeaseExpired
    | .failed => match record.failureCode with
        | some code => code.asStr
        | none => "artifact_transfer_failed"
    | _ => "artifact_transfer_completed"))

/-- A provider that is ready announces itself again: the state stays. -/
def providerReadyRefresh (scope : NodeScopeKey) (report : TransferReport) : Bool :=
  scope.node = transfer.record.sourceNode ∧ report.state = .connecting ∧
    [.connecting, .waitingForDirect, .transferring, .verifying].contains transfer.record.state

/-- The assignments a report makes ready. -/
def withReadyAssignments (scope : NodeScopeKey) (report : TransferReport) : InterchangeTransfer :=
  let transfer :=
    if scope.node = transfer.record.sourceNode ∧
        [.connecting, .waitingForDirect, .transferring].contains report.state then
      -- the renewed receiver authorization is delivered again
      { transfer with
        providerAssignment := .ready
        destinationAssignment := .offered
        destinationAcknowledgedAt := none }
    else transfer
  if scope.node = transfer.record.destinationNode ∧
      [.transferring, .verifying, .completed].contains report.state then
    { transfer with destinationAssignment := .ready }
  else transfer

/-- Body bytes went over a path that the lease forbids. -/
def relayForbidden (report : TransferReport) : Bool :=
  let lease := transfer.destinationAuthorization.lease
  lease.relayPolicy = .directRequired ∧ report.bytesCompleted > lease.allowedOffset ∧
    report.pathKind ≠ .direct ∧ report.pathKind ≠ .local

/-- The transfer fails and the report is refused; its phase stays. -/
def failedByRelay (now : ℕ) : InterchangeTransfer :=
  { transfer with record := { transfer.record with
      state := .failed
      failureCode := some .relayPathForbidden
      updatedAt := now } }

/-- A completion counts only from the destination and with the exact digest and
size of the artifact. -/
def provesCompletion (scope : NodeScopeKey) (report : TransferReport) : Prop :=
  let lease := transfer.destinationAuthorization.lease
  scope.node = transfer.record.destinationNode ∧ report.bytesCompleted = lease.sizeBytes ∧
    report.verifiedDigest = some lease.digest ∧ report.verifiedSize = some lease.sizeBytes ∧
    report.failureCode = none

instance (scope : NodeScopeKey) (report : TransferReport) :
    Decidable (transfer.provesCompletion scope report) :=
  inferInstanceAs (Decidable (_ ∧ _))

end InterchangeTransfer

namespace ArtifactRegistry

variable (registry : ArtifactRegistry)

/-- Record a location after the node verified and installed the bytes. -/
def recordVerifiedRetainingLocation (key : ArtifactScopeKey) (node : NodeId) (digest : Digest)
    (size : ℕ) : Option ArtifactRegistry :=
  match registry.artifacts[key]? with
  | none => none
  | some metadata =>
    if metadata.digest = digest ∧ metadata.size = size then
      some { registry with
        artifacts := registry.artifacts.insert key
          { metadata with retainingNodes := insert node metadata.retainingNodes } }
    else none

def removeRetainingLocation (key : ArtifactScopeKey) (node : NodeId) : ArtifactRegistry :=
  { registry with
    artifacts := registry.artifacts.modify key fun metadata =>
      { metadata with retainingNodes := metadata.retainingNodes.erase node } }

end ArtifactRegistry

namespace InterchangeTransfer

variable (transfer : InterchangeTransfer)

section

variable (scope : NodeScopeKey)

section

variable (report : TransferReport)

/-- What a report does to the artifact metadata, or why it is refused. -/
def reportEffects
    (artifacts : ArtifactRegistry) : Except TransferReportError ArtifactRegistry :=
  let lease := transfer.destinationAuthorization.lease
  if report.state = .completed then
    if transfer.provesCompletion scope report then
      match artifacts.recordVerifiedRetainingLocation transfer.key
          transfer.record.destinationNode lease.digest lease.sizeBytes with
      | some artifacts => .ok artifacts
      | none => .error (.protocol
          "artifact is unavailable because node-local unsynced bytes were lost")
    else .error (.protocol "artifact completion lacks exact destination verification proof")
  else if report.state.terminal ∧ report.failureCode = none then
    .error (.protocol "terminal artifact transfer failure requires a stable failure code")
  else if report.failureCode = some .artifactMissingAtSource then
    if report.state = .failed ∧ scope.node = transfer.record.sourceNode then
      .ok (artifacts.removeRetainingLocation transfer.key transfer.record.sourceNode)
    else .error (.unauthorized
      "only the selected source may report that retained artifact bytes are missing")
  else .ok artifacts

def withActiveLease (now expiry : ℕ) : InterchangeTransfer :=
  { transfer with
    record := { transfer.record with lastProgressAt := now, expiresAt := expiry }
    destinationAuthorization := { transfer.destinationAuthorization with
      lease := { transfer.destinationAuthorization.lease with activeLeaseExpiresAt := expiry } }
    providerAuthorization := { transfer.providerAuthorization with
      lease := { transfer.providerAuthorization.lease with activeLeaseExpiresAt := expiry } } }

def withTicket (expiry : ℕ) : InterchangeTransfer :=
  { transfer with
    record := { transfer.record with streamTicketExpiresAt := expiry }
    destinationAuthorization := { transfer.destinationAuthorization with
      lease := { transfer.destinationAuthorization.lease with expiresAt := expiry } }
    providerAuthorization := { transfer.providerAuthorization with
      lease := { transfer.providerAuthorization.lease with expiresAt := expiry } } }

/-- The other end gets its renewed authorization through its assignment poll. -/
def offerOther : InterchangeTransfer :=
  if scope.node = transfer.record.destinationNode then
    { transfer with providerAssignment := .offered, providerAcknowledgedAt := none }
  else { transfer with destinationAssignment := .offered, destinationAcknowledgedAt := none }

/-- Body bytes that a report accounts for. -/
def bodyBytes : ℕ :=
  if report.pathKind = .local then 0
  else report.bytesCompleted - transfer.destinationAuthorization.lease.allowedOffset

/-- The state a report leads to. -/
def recordedState : ArtifactTransferState :=
  if transfer.providerReadyRefresh scope report then transfer.record.state else report.state

/-- The report renews the active lease. -/
def renewsLease : Bool :=
  !(transfer.recordedState scope report).terminal &&
    (report.bytesCompleted > transfer.record.bytesCompleted ||
      [.connecting, .waitingForDirect, .verifying].contains report.state)

/-- The report renews the stream ticket. -/
def renewsTicket : Bool :=
  scope.node = transfer.record.sourceNode ∧ report.state = .connecting ∧
    (transfer.recordedState scope report).terminal = false

/-- The transfer after an accepted report. -/
def advanced (lifetimes : TransferLifetimes)
    (now : ℕ) : InterchangeTransfer :=
  let state := transfer.recordedState scope report
  let renewsLease := transfer.renewsLease scope report
  let renewsTicket := transfer.renewsTicket scope report
  let transfer := { transfer with
    meteredBodyBytes := max transfer.meteredBodyBytes (transfer.bodyBytes report)
    record := { transfer.record with
      state := state
      bytesCompleted := report.bytesCompleted
      pathKind := report.pathKind
      failureCode := report.failureCode
      updatedAt := now
      phase := state.phase } }
  let transfer :=
    if renewsLease then
      transfer.withActiveLease now (lifetimes.activeExpiry transfer.record.createdAt now)
    else transfer
  let transfer :=
    if renewsTicket then
      transfer.withTicket
        (min (saturatingAdd now lifetimes.transferTicketTtlSeconds) transfer.record.expiresAt)
    else transfer
  if renewsLease then transfer.offerOther scope else transfer

end

/-- The answer to the node whose report was accepted. -/
def progress : InterchangeProgress :=
  if transfer.record.state.terminal then
    ⟨transfer.record, none, some transfer.activeHold⟩
  else
    ⟨transfer.record,
      some (if scope.node = transfer.record.sourceNode then transfer.providerAuthorization
        else transfer.destinationAuthorization), none⟩

end

/-- The outcome of a report, the transfer after it and the artifact metadata
after it.  A refused report may still have made assignments ready. -/
def reportProgress (artifacts : ArtifactRegistry) (scope : NodeScopeKey)
    (report : TransferReport) (lifetimes : TransferLifetimes) (now : ℕ) :
    Except TransferReportError InterchangeProgress × InterchangeTransfer × ArtifactRegistry :=
  if ¬ transfer.concerns scope then
    (.error (.unauthorized "artifact transfer report is outside the signed node scope"),
      transfer, artifacts)
  else if transfer.record.state.terminal then
    (transfer.terminalAnswer report, transfer, artifacts)
  else if report.bytesCompleted < transfer.record.bytesCompleted ∨
      report.bytesCompleted > transfer.destinationAuthorization.lease.sizeBytes then
    (.error (.protocol "artifact transfer byte progress is invalid"), transfer, artifacts)
  else if ¬ transfer.providerReadyRefresh scope report ∧
      ¬ transfer.record.state.permitsTransitionTo report.state then
    (.error (.protocol ("artifact transfer lifecycle cannot move from " ++
      transfer.record.state.text ++ " to " ++ report.state.text)), transfer, artifacts)
  else
    let ready := transfer.withReadyAssignments scope report
    if ready.relayForbidden report then
      (.error (.protocol (ArtifactTransferErrorCode.asStr .relayPathForbidden)),
        ready.failedByRelay now, artifacts)
    else
      match ready.reportEffects scope report artifacts with
      | .error error => (.error error, ready, artifacts)
      | .ok artifacts =>
        let after := ready.advanced scope report lifetimes now
        (.ok (after.progress scope), after, artifacts)

end InterchangeTransfer

namespace InterchangeRegistry

variable (registry : InterchangeRegistry)

/-! ## Admission -/

/-- The finished transfer that was touched longest ago. -/
def oldestTerminal : Option String :=
  ((registry.transfers.toList.filter fun (_, transfer) => transfer.record.state.terminal).argmin
    fun (_, transfer) => transfer.record.updatedAt).map (·.1)

/-- One round of making room. -/
def pruneTerminal (capacity : ℕ) : InterchangeRegistry :=
  if registry.transfers.size ≥ capacity then
    match registry.oldestTerminal with
    | some oldest => { registry with transfers := registry.transfers.erase oldest }
    | none => registry
  else registry

/-- Every round removes a transfer or is the last, so the number of transfers is
enough rounds. -/
def pruneTerminalToFit (capacity : ℕ) : InterchangeRegistry :=
  (pruneTerminal · capacity)^[registry.transfers.size] registry

def create (transferId : String) (transfer : InterchangeTransfer) (capacity : ℕ) :
    Option InterchangeRegistry × InterchangeRegistry :=
  let pruned := registry.pruneTerminalToFit capacity
  if pruned.transfers.size ≥ capacity then (none, pruned)
  else
    let created := { pruned with transfers := pruned.transfers.insert transferId transfer }
    (some created, created)

/-! ## Progress -/

def meterBodyBytes (pathKind : ClusterfluxPathKind) (bytes : ℕ) : InterchangeRegistry :=
  match pathKind with
  | .local => registry
  | .direct => { registry with directBodyBytes := saturatingAdd registry.directBodyBytes bytes }
  | .relayed =>
    { registry with relayedBodyBytes := saturatingAdd registry.relayedBodyBytes bytes }
  | .unknown =>
    { registry with unknownPathBodyBytes := saturatingAdd registry.unknownPathBodyBytes bytes }

def reportProgress (artifacts : ArtifactRegistry) (scope : NodeScopeKey) (transferId : String)
    (report : TransferReport) (lifetimes : TransferLifetimes) (now : ℕ) :
    Except TransferReportError InterchangeProgress × InterchangeRegistry × ArtifactRegistry :=
  match registry.transfers[transferId]? with
  | none => (.error (.protocol "unknown artifact transfer"), registry, artifacts)
  | some transfer =>
    let (outcome, after, artifacts) :=
      transfer.reportProgress artifacts scope report lifetimes now
    let stored := { registry with transfers := registry.transfers.insert transferId after }
    match outcome with
    | .error error => (.error error, stored, artifacts)
    | .ok progress =>
      -- a repeated report on a finished transfer meters nothing
      if transfer.record.state.terminal then (.ok progress, stored, artifacts)
      else (.ok progress, stored.meterBodyBytes report.pathKind
        (transfer.bodyBytes report - transfer.meteredBodyBytes), artifacts)

end InterchangeRegistry

namespace InterchangeTransfer

variable (transfer : InterchangeTransfer)

/-- A repeated request by the destination finds the transfer that serves it. -/
def serves (scope : NodeScopeKey) (process : ProcessId) (artifact : ArtifactId) (now : ℕ) : Bool :=
  transfer.record.expiresAt ≥ now ∧ transfer.record.state.terminal = false ∧
    transfer.record.tenant = scope.tenant ∧ transfer.record.project = scope.project ∧
    transfer.record.process = process ∧ transfer.record.artifact = artifact ∧
    transfer.record.destinationNode = scope.node

/-- The states in which a renewal also renews the active lease. -/
def renewalExtendsLease : Bool :=
  [.requested, .sourceSelected, .connecting, .waitingForDirect, .retrying].contains
    transfer.record.state

/-- The stream ticket that a renewal hands out. -/
def renewedTicket (lifetimes : TransferLifetimes) (now : ℕ) : ℕ :=
  min (saturatingAdd now lifetimes.transferTicketTtlSeconds)
    (lifetimes.activeExpiry transfer.record.createdAt now)

def renewed (lifetimes : TransferLifetimes) (now : ℕ) : InterchangeTransfer :=
  let ticketed := transfer.withTicket (transfer.renewedTicket lifetimes now)
  if transfer.renewalExtendsLease then
    ticketed.withActiveLease now (lifetimes.activeExpiry transfer.record.createdAt now)
  else ticketed

end InterchangeTransfer

namespace InterchangeRegistry

variable (registry : InterchangeRegistry)

/-- The first transfer in the order of the ids that satisfies the condition. -/
def find (condition : InterchangeTransfer → Bool) : Option (String × InterchangeTransfer) :=
  registry.transfers.toList.find? fun (_, transfer) => condition transfer

/-- Writes a transfer back under its id. -/
def store (transferId : String) (transfer : InterchangeTransfer) : InterchangeRegistry :=
  { registry with transfers := registry.transfers.insert transferId transfer }

def renew (scope : NodeScopeKey) (process : ProcessId) (artifact : ArtifactId)
    (lifetimes : TransferLifetimes) (now : ℕ) :
    Option (ArtifactTransferAuthorization × ArtifactTransferRecord) × InterchangeRegistry :=
  match registry.find (·.serves scope process artifact now) with
  | none => (none, registry)
  | some (transferId, transfer) =>
    let renewed := transfer.renewed lifetimes now
    (some (renewed.destinationAuthorization, renewed.record), registry.store transferId renewed)

/-! ## Assignments -/

/-- An assignment is delivered while it is offered, and again when its
acknowledgement led to nothing for some seconds. -/
def assignmentDue (assignment : ArtifactAssignmentState) (acknowledgedAt : Option ℕ)
    (now recovery : ℕ) : Bool :=
  assignment = .offered ∨
    (assignment = .acknowledged ∧ saturatingAdd (acknowledgedAt.getD 0) recovery < now)

def pollProviderAssignment (scope : NodeScopeKey) (now recovery : ℕ) :
    (List String × Option ArtifactTransferAuthorization) × InterchangeRegistry :=
  let retired := (registry.transfers.values.filter fun transfer =>
    transfer.record.tenant = scope.tenant ∧ transfer.record.project = scope.project ∧
      transfer.record.sourceNode = scope.node ∧ transfer.record.state.terminal).map
    (·.record.transferId)
  match registry.find fun transfer =>
      transfer.record.tenant = scope.tenant ∧ transfer.record.project = scope.project ∧
        transfer.record.sourceNode = scope.node ∧
        assignmentDue transfer.providerAssignment transfer.providerAcknowledgedAt now recovery ∧
        transfer.record.state.terminal = false ∧ transfer.record.expiresAt ≥ now with
  | none => ((retired, none), registry)
  | some (transferId, transfer) =>
    ((retired, some transfer.providerAuthorization),
      if transfer.providerAssignment = .acknowledged then
        registry.store transferId
          { transfer with providerAssignment := .offered, providerAcknowledgedAt := none }
      else registry)

def pollReceiverAssignment (scope : NodeScopeKey) (now recovery : ℕ) :
    Option ArtifactTransferAuthorization × InterchangeRegistry :=
  match registry.find fun transfer =>
      assignmentDue transfer.destinationAssignment transfer.destinationAcknowledgedAt now
          recovery ∧
        transfer.record.state.terminal = false ∧ transfer.record.destinationNode = scope.node ∧
        transfer.record.tenant = scope.tenant ∧ transfer.record.project = scope.project ∧
        transfer.record.expiresAt ≥ now with
  | none => (none, registry)
  | some (transferId, transfer) =>
    (some transfer.destinationAuthorization,
      if transfer.destinationAssignment = .acknowledged then
        registry.store transferId
          { transfer with destinationAssignment := .offered, destinationAcknowledgedAt := none }
      else registry)

inductive AssignmentAcknowledgementError where
  | unknownTransfer
  | outsideScope
  | roleMismatch

/-- An assignment that is ready does not go back. -/
def acknowledged (assignment : ArtifactAssignmentState) (acknowledgedAt : Option ℕ) (now : ℕ) :
    ArtifactAssignmentState × Option ℕ :=
  if assignment = .ready then (assignment, acknowledgedAt) else (.acknowledged, some now)

def acknowledgeAssignment (scope : NodeScopeKey) (transferId : String)
    (role : ArtifactAssignmentRole) (now : ℕ) :
    Except AssignmentAcknowledgementError ArtifactAssignmentState × InterchangeRegistry :=
  match registry.transfers[transferId]? with
  | none => (.error .unknownTransfer, registry)
  | some transfer =>
    let record := transfer.record
    if record.tenant ≠ scope.tenant ∨ record.project ≠ scope.project then
      (.error .outsideScope, registry)
    else if role = .provider ∧ record.sourceNode = scope.node then
      let (state, acknowledgedAt) :=
        acknowledged transfer.providerAssignment transfer.providerAcknowledgedAt now
      (.ok state, registry.store transferId
        { transfer with providerAssignment := state, providerAcknowledgedAt := acknowledgedAt })
    else if role = .receiver ∧ record.destinationNode = scope.node then
      let (state, acknowledgedAt) :=
        acknowledged transfer.destinationAssignment transfer.destinationAcknowledgedAt now
      (.ok state, registry.store transferId
        { transfer with
          destinationAssignment := state
          destinationAcknowledgedAt := acknowledgedAt })
    else (.error .roleMismatch, registry)

/-! ## Ends -/

/-- Ends the selected transfers, which give up their holds. -/
def endTransfers (selected : InterchangeTransfer → Bool)
    (ending : InterchangeTransfer → InterchangeTransfer) :
    List ReleasedTransferHold × InterchangeRegistry :=
  ((registry.transfers.values.filter selected).map InterchangeTransfer.activeHold,
    { registry with
      transfers := registry.transfers.map fun _ transfer =>
        if selected transfer then ending transfer else transfer })

def cancelProcess (tenant : TenantId) (project : ProjectId) (process : ProcessId) (now : ℕ) :
    List ReleasedTransferHold × InterchangeRegistry :=
  registry.endTransfers
    (fun transfer => !transfer.record.state.terminal && decide (transfer.record.tenant = tenant ∧
      transfer.record.project = project ∧ transfer.record.process = process))
    (·.ended .cancelled .transferCancelled now)

/-- The artifacts and ids of the cancelled transfers are those of the holds. -/
def cancelNodeForHardDrain (scope : NodeScopeKey) (now : ℕ) :
    List ReleasedTransferHold × InterchangeRegistry :=
  registry.endTransfers (·.matchesActiveNode scope) (·.ended .cancelled .transferCancelled now)

/-- The released holds are not reported to the caller. -/
def failNode (scope : NodeScopeKey) (now : ℕ) : InterchangeRegistry :=
  (registry.endTransfers (·.matchesActiveNode scope) fun transfer =>
    transfer.ended .failed
      (if transfer.record.sourceNode = scope.node then .sourceNodeOffline
        else .destinationNodeOffline) now).2

/-- A running transfer whose lease, progress or whole life is over. -/
def expired (noProgressTimeout : ℕ) (absoluteMax : Option ℕ) (now : ℕ)
    (transfer : InterchangeTransfer) : Bool :=
  !transfer.record.state.terminal &&
    (decide (transfer.record.expiresAt < now) ||
      decide (saturatingAdd transfer.record.lastProgressAt noProgressTimeout < now) ||
      absoluteMax.any fun maximum => saturatingAdd transfer.record.createdAt maximum < now)

def expire (now noProgressTimeout : ℕ) (absoluteMax : Option ℕ) (terminalRetention : ℕ) :
    List ReleasedTransferHold × InterchangeRegistry :=
  let (released, ended) := registry.endTransfers (expired noProgressTimeout absoluteMax now)
    (·.ended .expired .transferLeaseExpired now)
  (released, { ended with
    transfers := ended.transfers.filter fun _ transfer =>
      !transfer.record.state.terminal ||
        decide (saturatingAdd transfer.record.updatedAt terminalRetention ≥ now) })

end InterchangeRegistry

end Clusterflux
