import Clusterflux.Transfer.Protocol

/-!
# The receiver of artifacts

A download goes into a partial file next to which its metadata stand.  It may be
interrupted anywhere and is resumed from the length of the file, whose bytes are hashed
again.  A complete file with the right digest is linked to its destination, one with a
wrong digest is removed.

One download at a time works on a partial file.  Where a regular file is expected there
may be a directory; symbolic links and failing calls of the file system are left out,
as are the metrics.
-/

namespace Clusterflux.Transfer

open Checks LengthFraming StatefulProgram

structure PartialStoreConfig where
  maximumTotalBytes : ℕ
  maximumPartialCount : ℕ

inductive PathPolicyError where
  | directPathTimeout
  | relayPathForbidden
  | noSelectedPath
  | connectionClosed
  | transfer (message : String)
  | destinationDiskFull

inductive ReceiveError where
  | invalidLease (message : String)
  | invalidPeer (message : String)
  | wrongDestination
  | peerIdentityMismatch
  | leaseExpired
  | invalidTransferSecret
  | connection (message : String)
  | responseMismatch
  | rejected (code : ArtifactTransferErrorCode) (message : String)
  | sizeMismatch (expected actual : ℕ)
  | digestMismatch
  | destinationConflict
  | unsafePartialPath
  | unsafePartialMetadata
  | unsafeDestination
  | partialCapacityUnavailable
  | partialMetadataMismatch
  | partialExceedsExpectedSize
  | invalidDigest (message : String)
  | pathPolicy (error : PathPolicyError)
  | protocol (error : ProtocolError)
  | fileSystem (message : String)
  | json

/-- A call fails, or its caller gives up and nothing after this point happens. -/
inductive ReceiveFault where
  | failed (error : ReceiveError)
  | dropped

/-! ## Files -/

structure PartialMetadata where
  transferId : String
  artifact : ArtifactId
  digest : Digest
  expectedSize : ℕ
  receivedContiguousBytes : ℕ
  lastUpdate : ℕ
  expiry : ℕ
  deriving DecidableEq

inductive Entry (α : Type) where
  | regular (content : α)
  | directory
  deriving DecidableEq

/-- The partial files and their metadata by their stems, and the destinations by their
paths.  A metadata file that is not the text of any metadata has none. -/
structure Disk where
  partials : OrderedMap String (Entry Bytes)
  metadata : OrderedMap String (Entry (Option PartialMetadata))
  destinations : OrderedMap String (Entry Bytes)

abbrev Receiver := EStateM ReceiveFault Disk

def refuse {α : Type} (error : ReceiveError) : Receiver α := throw (.failed error)

/-- A write into the open file at this position. -/
def Disk.write (disk : Disk) (stem : String) (position : ℕ) (bytes : Bytes) : Disk :=
  match disk.partials[stem]? with
  | some (.regular content) =>
    { disk with partials := disk.partials.insert stem (.regular
        (content.take position ++ bytes ++ content.drop (position + bytes.length))) }
  | _ => disk

def removePartial (stem : String) : Receiver Unit := do
  let disk ← get
  ensure (disk.partials[stem]? ≠ some .directory) (.failed .unsafePartialPath)
  set { disk with partials := disk.partials.erase stem }

def removeMetadata (stem : String) : Receiver Unit := do
  let disk ← get
  ensure (disk.metadata[stem]? ≠ some .directory) (.failed .unsafePartialPath)
  set { disk with metadata := disk.metadata.erase stem }

def persistPartialMetadata (stem : String) (metadata : PartialMetadata) : Receiver Unit :=
  modify fun disk =>
    { disk with metadata := disk.metadata.insert stem (.regular (some metadata)) }

/-! ## Authorization -/

/-- The identity of the receiving endpoint. -/
structure EndpointIdentity where
  tenant : TenantId
  project : ProjectId
  node : NodeId
  endpointId : String

def validateAuthorizationIdentity (scope : EndpointIdentity)
    (authorization : ArtifactTransferAuthorization) : Except ReceiveError Unit := do
  let lease := authorization.lease
  lease.validateBounds.mapError .invalidLease
  authorization.peer.validateBounds.mapError .invalidPeer
  refuseIf (lease.tenant ≠ scope.tenant || lease.project ≠ scope.project ||
    lease.destinationNode ≠ scope.node || lease.destinationEndpointId ≠ scope.endpointId)
    .wrongDestination
  refuseIf (authorization.peer.node ≠ lease.sourceNode ||
    authorization.peer.endpointId ≠ lease.sourceEndpointId) .peerIdentityMismatch
  refuseIf (authorization.transferSecret.all (· == 0)) .invalidTransferSecret

def validateAuthorization (scope : EndpointIdentity)
    (authorization : ArtifactTransferAuthorization) (now : ℕ) : Except ReceiveError Unit := do
  validateAuthorizationIdentity scope authorization
  refuseIf (authorization.lease.expiresAt < now) .leaseExpired

/-! ## The partial store -/

/-- `value.trim_start_matches(start)` removes at most as many copies as there are characters. -/
def trimStartMatches (start : String) : ℕ → String → String
  | 0, value => value
  | copies + 1, value =>
    match stripStart value start with
    | none => value
    | some rest => trimStartMatches start copies rest

def partialStem [Primitives] (authorization : ArtifactTransferAuthorization) : String :=
  let lease := authorization.lease
  let text := (Digest.fromParts [utf8 lease.tenant.value, utf8 lease.project.value,
    utf8 lease.destinationNode.value, utf8 lease.artifact.value, utf8 lease.digest.text]).text
  trimStartMatches "sha256:" text.length text

/-- The lengths of the partial files. -/
def partialLengths (disk : Disk) : List (String × ℕ) :=
  disk.partials.toList.filterMap fun
    | (stem, .regular content) => some (stem, content.length)
    | (_, .directory) => none

def ensureCapacity (config : PartialStoreConfig) (disk : Disk) (stem : String)
    (expectedSize : ℕ) : Except ReceiveError Unit :=
  let files := partialLengths disk
  let bytes := files.foldl (fun total file => saturatingAdd total file.2) 0
  let requestedExistingBytes := files.lookup stem
  let countAfterPrepare := files.length + if requestedExistingBytes.isNone then 1 else 0
  let bytesAfterCompletion :=
    saturatingAdd (bytes - requestedExistingBytes.getD 0) expectedSize
  refuseIf (expectedSize > config.maximumTotalBytes ||
    countAfterPrepare > config.maximumPartialCount ||
    bytesAfterCompletion > config.maximumTotalBytes) .partialCapacityUnavailable

/-- The open partial file of a download: what of it is hashed, and how far it was received. -/
structure PartialSession where
  stem : String
  metadata : PartialMetadata
  hasher : Bytes
  receivedBytes : ℕ

def PartialSession.persistMetadata (session : PartialSession) (now : ℕ) :
    Receiver PartialSession := do
  let metadata := { session.metadata with
    receivedContiguousBytes := session.receivedBytes
    lastUpdate := now }
  persistPartialMetadata session.stem metadata
  return { session with metadata }

/-- The metadata a session starts with: those of its transfer, or the stored ones taken
over by it. -/
def adoptMetadata (disk : Disk) (stem : String) (expected : PartialMetadata) :
    Except ReceiveError PartialMetadata :=
  match disk.metadata[stem]? with
  | none => .ok expected
  | some .directory => .error .unsafePartialMetadata
  | some (.regular none) => .error .json
  | some (.regular (some stored)) =>
    if stored.artifact ≠ expected.artifact ∨ stored.digest ≠ expected.digest ∨
        stored.expectedSize ≠ expected.expectedSize then
      .error .partialMetadataMismatch
    else
      .ok { stored with transferId := expected.transferId, expiry := expected.expiry }

/-- The bytes of the partial file, which is created if there is none. -/
def openPartialFile (stem : String) : Receiver Bytes := do
  let disk ← get
  match disk.partials[stem]? with
  | some (.regular content) => return content
  | some .directory => refuse .unsafePartialPath
  | none =>
    set { disk with partials := disk.partials.insert stem (.regular []) }
    return []

def expectedMetadata (authorization : ArtifactTransferAuthorization) (now : ℕ) : PartialMetadata :=
  let lease := authorization.lease
  { transferId := lease.transferId
    artifact := lease.artifact
    digest := lease.digest
    expectedSize := lease.sizeBytes
    receivedContiguousBytes := 0
    lastUpdate := now
    expiry := lease.retentionExpiresAt }

/-- The caller may give up while the file is read; `reading` says whether it does. -/
def prepare [Primitives] (config : PartialStoreConfig)
    (authorization : ArtifactTransferAuthorization)
    (now : ℕ) (reading : Except ReceiveFault Unit) : Receiver PartialSession := do
  let stem := partialStem authorization
  let disk ← get
  liftExcept (ensureCapacity config disk stem authorization.lease.sizeBytes) .failed
  let metadata ← liftExcept (adoptMetadata disk stem (expectedMetadata authorization now)) .failed
  let content ← openPartialFile stem
  ensure (content.length ≤ authorization.lease.sizeBytes) (.failed .partialExceedsExpectedSize)
  liftExcept reading id
  PartialSession.persistMetadata
    { stem
      metadata
      hasher := content
      receivedBytes := content.length } now

/-! ## The body -/

/-- What the stream of a body brings: a chunk, or the end of the transfer while so many
bytes of the next chunk are written.  Without an error the caller has given up. -/
inductive BodyEvent where
  | chunk (bytes : Bytes)
  | interrupted (bytes : Bytes) (written : ℕ) (error : Option PathPolicyError)

inductive BodyOutcome where
  | finished
  | failed (error : PathPolicyError)
  | dropped

/-- Why a chunk is not written. -/
def refuseChunk (expectedSize : ℕ) (session : PartialSession) (bytes : Bytes) :
    Option PathPolicyError :=
  if session.receivedBytes + bytes.length > u64Max then
    some (.transfer "artifact size overflow")
  else if session.receivedBytes + bytes.length > expectedSize then
    some (.transfer "provider sent more bytes than the authorized artifact size")
  else none

def PartialSession.receive (session : PartialSession) (bytes : Bytes) : PartialSession :=
  { session with
    hasher := session.hasher ++ bytes
    receivedBytes := session.receivedBytes + bytes.length }

/-- The end of the list is the end of the stream. -/
def receiveBody (expectedSize : ℕ) :
    List BodyEvent → PartialSession → Disk → BodyOutcome × PartialSession × Disk
  | [], session, disk => (.finished, session, disk)
  | .chunk bytes :: events, session, disk =>
    if bytes.isEmpty then receiveBody expectedSize events session disk
    else
      match refuseChunk expectedSize session bytes with
      | some error => (.failed error, session, disk)
      | none => receiveBody expectedSize events (session.receive bytes)
          (disk.write session.stem session.receivedBytes bytes)
  | .interrupted bytes written error :: _, session, disk =>
    match refuseChunk expectedSize session bytes with
    | some error => (.failed error, session, disk)
    | none => (match error with | some error => .failed error | none => .dropped, session,
        disk.write session.stem session.receivedBytes (bytes.take written))

/-! ## Downloads -/

structure CompletedTransfer where
  artifact : ArtifactId
  digest : Digest
  sizeBytes : ℕ
  installedPath : String
  resumedFrom : ℕ
  bytesTransferred : ℕ
  alreadyPresent : Bool

section Downloads

variable [Primitives]

def hashRegularFile (content : Bytes) : Except ReceiveError (Digest × ℕ) := do
  let digest ← (Digest.fromSha256Hex (Primitives.sha256Hex content)).mapError .invalidDigest
  return (digest, content.length)

/-- Whether the destination has the artifact. -/
def verifyExistingDestination (disk : Disk) (destination : String) (expectedDigest : Digest)
    (expectedSize : ℕ) : Except ReceiveError Bool :=
  match disk.destinations[destination]? with
  | none => .ok false
  | some .directory => .error .unsafeDestination
  | some (.regular content) => do
      let (digest, size) ← hashRegularFile content
      if digest = expectedDigest ∧ size = expectedSize then return true
      else .error .destinationConflict

/-- Links the partial file to the destination, whose parent is a directory. -/
def PartialSession.link (session : PartialSession) (destination : String)
    (expectedDigest : Digest) (expectedSize : ℕ) : Receiver Unit := do
  let disk ← get
  let entry ← orFail disk.partials[session.stem]?
    (.failed (.fileSystem "No such file or directory (os error 2)"))
  match disk.destinations[destination]? with
  | none => set { disk with destinations := disk.destinations.insert destination entry }
  | some .directory => refuse .unsafeDestination
  | some (.regular content) => do
      let (digest, size) ← liftExcept (hashRegularFile content) .failed
      ensure (digest = expectedDigest ∧ size = expectedSize) (.failed .destinationConflict)

def PartialSession.remove (session : PartialSession) : Receiver Unit := do
  removePartial session.stem
  removeMetadata session.stem

def PartialSession.install (session : PartialSession) (destination : String)
    (expectedDigest : Digest) (expectedSize : ℕ) : Receiver Unit := do
  session.link destination expectedDigest expectedSize
  session.remove

/-- What happens to a download from outside: while the partial file is read, while the
stream is opened and the request is sent, the answer of the provider, the body, and while
the file is synchronized. -/
structure Exchange where
  reading : Except ReceiveFault Unit
  connecting : Except ReceiveFault Unit
  response : Except ReceiveFault GetArtifactResponse
  body : List BodyEvent
  synchronizing : Except ReceiveFault Unit

def checkResponse (lease : ArtifactTransferLease) (resumedFrom : ℕ) :
    GetArtifactResponse → Except ReceiveError Unit
  | .accepted artifact digest totalSize offset remainingSize =>
    refuseIf (!(artifact = lease.artifact && digest = lease.digest &&
      totalSize.toNat = lease.sizeBytes && offset.toNat = resumedFrom &&
      remainingSize.toNat = lease.sizeBytes - resumedFrom)) .responseMismatch
  | .rejected code message => .error (.rejected code message)

/-- A body of the right length is hashed and installed, or removed. -/
def PartialSession.conclude (session : PartialSession) (lease : ArtifactTransferLease)
    (destination : String) (now : ℕ) (synchronizing : Except ReceiveFault Unit) :
    Receiver Unit := do
  if session.receivedBytes ≠ lease.sizeBytes then
    let session ← session.persistMetadata now
    refuse (.sizeMismatch lease.sizeBytes session.receivedBytes)
  else
    liftExcept synchronizing id
    let actualDigest ← liftExcept (Digest.fromSha256Hex (Primitives.sha256Hex session.hasher))
      fun message => .failed (.invalidDigest message)
    if actualDigest ≠ lease.digest then
      session.remove
      refuse .digestMismatch
    else session.install destination lease.digest lease.sizeBytes

/-- The stream of the body and what follows it. -/
def PartialSession.transfer (session : PartialSession) (lease : ArtifactTransferLease)
    (destination : String) (now : ℕ) (exchange : Exchange) : Receiver PartialSession := do
  let disk ← get
  let (outcome, received, disk) := receiveBody lease.sizeBytes exchange.body session disk
  set disk
  match outcome with
  | .dropped => throw .dropped
  | .failed error =>
    let _ ← received.persistMetadata now
    refuse (.pathPolicy error)
  | .finished =>
    received.conclude lease destination now exchange.synchronizing
    return received

def download (scope : EndpointIdentity) (config : PartialStoreConfig)
    (authorization : ArtifactTransferAuthorization) (destination : String) (now : ℕ)
    (exchange : Exchange) : Receiver CompletedTransfer := do
  liftExcept (validateAuthorization scope authorization now) .failed
  let lease := authorization.lease
  let disk ← get
  let present ← liftExcept
    (verifyExistingDestination disk destination lease.digest lease.sizeBytes) .failed
  if present then
    return {
      artifact := lease.artifact
      digest := lease.digest
      sizeBytes := lease.sizeBytes
      installedPath := destination
      resumedFrom := lease.sizeBytes
      bytesTransferred := 0
      alreadyPresent := true }
  else
    let session ← prepare config authorization now exchange.reading
    liftExcept exchange.connecting id
    let response ← liftExcept exchange.response id
    liftExcept (checkResponse lease session.receivedBytes response) .failed
    let received ← session.transfer lease destination now exchange
    return {
      artifact := lease.artifact
      digest := lease.digest
      sizeBytes := lease.sizeBytes
      installedPath := destination
      resumedFrom := session.receivedBytes
      bytesTransferred := received.receivedBytes - session.receivedBytes
      alreadyPresent := false }

end Downloads

end Clusterflux.Transfer
