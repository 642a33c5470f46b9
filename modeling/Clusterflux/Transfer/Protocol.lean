import Clusterflux.Core.ArtifactTransfer
import Clusterflux.Core.Digests
import Clusterflux.Foundation.ByteReaders

/-!
# The protocol of artifact streams

A receiver asks for an artifact with one request, and the provider answers with one
response before it sends the body.  Both are frames: a length of four bytes and a
header of at most eight kibibytes, whose texts are preceded by their lengths.
-/

namespace Clusterflux.Transfer

open ByteReaders Checks LengthFraming StatefulProgram

def artifactTransferProtocolVersion : UInt16 := 1

def maxTransferErrorMessageBytes : ℕ := 1024

def maxProtocolHeaderBytes : ℕ := 8 * 1024

def maxArtifactIdBytes : ℕ := 255

def sha256DigestBytes : ℕ := 71

def u16Max : ℕ := 65535

inductive ProtocolError where
  | headerTooLarge
  | truncatedHeader
  | trailingHeaderBytes
  | unsupportedVersion (version : UInt16)
  | invalidField (problem : String)
  | unknownResponseTag (tag : UInt8)
  | unknownErrorCode (value : UInt8)
  | unexpectedEof
  deriving DecidableEq

/-- An array of 32 bytes. -/
abbrev TransferSecret := { bytes : Bytes // bytes.length = 32 }

structure GetArtifactRequest where
  protocolVersion : UInt16
  transferId : String
  transferSecret : TransferSecret
  artifact : ArtifactId
  expectedDigest : Digest
  expectedSize : UInt64
  offset : UInt64

inductive GetArtifactResponse where
  | accepted (artifact : ArtifactId) (digest : Digest) (totalSize offset remainingSize : UInt64)
  | rejected (code : ArtifactTransferErrorCode) (message : String)

/-! ## Error codes -/

def errorCodeToWire : ArtifactTransferErrorCode → UInt8
  | .noArtifactLocation => 0
  | .sourceNodeOffline => 1
  | .destinationNodeOffline => 2
  | .endpointAdvertisementMissing => 3
  | .relayAssistUnavailable => 4
  | .directPathTimeout => 5
  | .relayPathForbidden => 6
  | .connectionFailed => 7
  | .peerIdentityMismatch => 8
  | .transferLeaseRejected => 9
  | .transferLeaseExpired => 10
  | .artifactMissingAtSource => 11
  | .rangeInvalid => 12
  | .destinationDiskFull => 13
  | .sizeMismatch => 14
  | .digestMismatch => 15
  | .transferCancelled => 16
  | .capacityUnavailable => 17

def errorCodeFromWire : UInt8 → Except ProtocolError ArtifactTransferErrorCode
  | 0 => .ok .noArtifactLocation
  | 1 => .ok .sourceNodeOffline
  | 2 => .ok .destinationNodeOffline
  | 3 => .ok .endpointAdvertisementMissing
  | 4 => .ok .relayAssistUnavailable
  | 5 => .ok .directPathTimeout
  | 6 => .ok .relayPathForbidden
  | 7 => .ok .connectionFailed
  | 8 => .ok .peerIdentityMismatch
  | 9 => .ok .transferLeaseRejected
  | 10 => .ok .transferLeaseExpired
  | 11 => .ok .artifactMissingAtSource
  | 12 => .ok .rangeInvalid
  | 13 => .ok .destinationDiskFull
  | 14 => .ok .sizeMismatch
  | 15 => .ok .digestMismatch
  | 16 => .ok .transferCancelled
  | 17 => .ok .capacityUnavailable
  | value => .error (.unknownErrorCode value)

/-! ## Writing -/

def validateRequest (request : GetArtifactRequest) : Except ProtocolError Unit := do
  refuseIf (request.protocolVersion ≠ artifactTransferProtocolVersion)
    (.unsupportedVersion request.protocolVersion)
  refuseIf (request.transferId.isEmpty || request.transferId.utf8ByteSize > maxTransferIdBytes)
    (.invalidField "transfer ID is empty or too large")
  refuseIf (!request.expectedDigest.isValidSha256) (.invalidField "expected digest is not SHA-256")
  refuseIf (request.offset > request.expectedSize)
    (.invalidField "requested offset exceeds expected size")

def encodeString (value : String) (maximum : ℕ) (field : String) : Except ProtocolError Bytes :=
  if value.isEmpty || value.utf8ByteSize > maximum || value.utf8ByteSize > u16Max then
    .error (.invalidField (field ++ " is empty or too large"))
  else .ok (beBytes 2 value.utf8ByteSize ++ utf8 value)

/-- The length of the header, and the header. -/
def writeFrame (encoded : Bytes) : Except ProtocolError Bytes :=
  if encoded.isEmpty || encoded.length > maxProtocolHeaderBytes then .error .headerTooLarge
  else .ok (beBytes 4 encoded.length ++ encoded)

def encodeRequest (request : GetArtifactRequest) : Except ProtocolError Bytes := do
  validateRequest request
  let transferId ← encodeString request.transferId maxTransferIdBytes "transfer ID"
  let artifact ← encodeString request.artifact.value maxArtifactIdBytes "artifact ID"
  let digest ← encodeString request.expectedDigest.text sha256DigestBytes "digest"
  return beBytes 2 request.protocolVersion.toNat ++ (transferId ++ (request.transferSecret.val ++
    (artifact ++ (digest ++ (beBytes 8 request.expectedSize.toNat ++
      beBytes 8 request.offset.toNat)))))

def writeRequest (request : GetArtifactRequest) : Except ProtocolError Bytes := do
  let encoded ← encodeRequest request
  writeFrame encoded

def encodeResponse : GetArtifactResponse → Except ProtocolError Bytes
  | .accepted artifact digest totalSize offset remainingSize => do
      refuseIf (!digest.isValidSha256 || offset > totalSize ||
          remainingSize.toNat ≠ totalSize.toNat - offset.toNat)
        (.invalidField "accepted response has inconsistent size or digest fields")
      let artifact ← encodeString artifact.value maxArtifactIdBytes "artifact ID"
      let digest ← encodeString digest.text sha256DigestBytes "digest"
      return [0] ++ (artifact ++ (digest ++ (beBytes 8 totalSize.toNat ++
        (beBytes 8 offset.toNat ++ beBytes 8 remainingSize.toNat))))
  | .rejected code message => do
      let message ← encodeString message maxTransferErrorMessageBytes "rejection message"
      return [1] ++ ([errorCodeToWire code] ++ message)

def writeResponse (response : GetArtifactResponse) : Except ProtocolError Bytes := do
  let encoded ← encodeResponse response
  writeFrame encoded

/-! ## Reading -/

inductive Fault where
  | error (error : ProtocolError)
  | panicked (expected : String)

/-- Reading leaves the bytes that were not read. -/
abbrev Decoder := EStateM Fault Bytes

namespace Decoder

def fail {α : Type} (error : ProtocolError) : Decoder α := throw (.error error)

def take (length : ℕ) : Decoder Bytes := ByteReaders.take length (.error .truncatedHeader) id

/-- An array of so many bytes, whose length is expected to be right. -/
def array (length : ℕ) (expected : String) :
    Decoder { bytes : Bytes // bytes.length = length } := do
  let bytes ← take length
  if hlength : bytes.length = length then pure ⟨bytes, hlength⟩ else throw (.panicked expected)

def u8 : Decoder UInt8 := do
  match ← take 1 with
  | [] => throw (.panicked "index out of bounds")
  | byte :: _ => pure byte

def u16 : Decoder UInt16 := do
  let bytes ← array 2 "two bytes"
  return UInt16.ofNat (ofBeBytes bytes.val)

def u64 : Decoder UInt64 := do
  let bytes ← array 8 "eight bytes"
  return UInt64.ofNat (ofBeBytes bytes.val)

def array32 : Decoder TransferSecret := array 32 "32 bytes"

def string (maximum : ℕ) (field : String) : Decoder String := do
  let length ← u16
  if length.toNat = 0 ∨ length.toNat > maximum then
    fail (.invalidField (field ++ " is empty or too large"))
  else
    let bytes ← take length.toNat
    orFail (ofUtf8 bytes) (.error (.invalidField (field ++ " is not UTF-8")))

def finish : Decoder Unit := do
  let rest ← get
  ensure (rest = []) (.error .trailingHeaderBytes)

end Decoder

def decodeDigest (value : String) : Except ProtocolError Digest :=
  match stripStart value "sha256:" with
  | none => .error (.invalidField "digest is not SHA-256")
  | some hex => (Digest.fromSha256Hex hex).mapError .invalidField

def decodeArtifactId (value : String) : Except ProtocolError ArtifactId :=
  (Id.tryNew .artifact value).mapError fun reason =>
    .invalidField (IdKind.artifact.parseError reason)

/-- Bytes of a stream; nothing is left of one that ends early. -/
def readExact (length : ℕ) : Decoder Bytes :=
  ByteReaders.take length (.error .unexpectedEof) fun _ => []

def readFrame : Decoder Bytes := do
  let length ← readExact 4
  let length := ofBeBytes length
  if length = 0 ∨ length > maxProtocolHeaderBytes then .fail .headerTooLarge
  else readExact length

def decodeRequest : Decoder GetArtifactRequest := do
  let protocolVersion ← .u16
  let transferId ← .string maxTransferIdBytes "transfer ID"
  let transferSecret ← .array32
  let artifact ← .string maxArtifactIdBytes "artifact ID"
  let artifact ← liftExcept (decodeArtifactId artifact) .error
  let digest ← .string sha256DigestBytes "digest"
  let expectedDigest ← liftExcept (decodeDigest digest) .error
  let expectedSize ← .u64
  let offset ← .u64
  .finish
  let request : GetArtifactRequest :=
    ⟨protocolVersion, transferId, transferSecret, artifact, expectedDigest, expectedSize, offset⟩
  liftExcept (validateRequest request) .error
  return request

def decodeAccepted : Decoder GetArtifactResponse := do
  let artifact ← .string maxArtifactIdBytes "artifact ID"
  let artifact ← liftExcept (decodeArtifactId artifact) .error
  let digest ← .string sha256DigestBytes "digest"
  let digest ← liftExcept (decodeDigest digest) .error
  let totalSize ← .u64
  let offset ← .u64
  let remainingSize ← .u64
  ensure (¬ (offset > totalSize ∨ remainingSize.toNat ≠ totalSize.toNat - offset.toNat))
    (.error (.invalidField "accepted response has inconsistent sizes"))
  return .accepted artifact digest totalSize offset remainingSize

def decodeRejected : Decoder GetArtifactResponse := do
  let code ← .u8
  let code ← liftExcept (errorCodeFromWire code) .error
  let message ← .string maxTransferErrorMessageBytes "rejection message"
  return .rejected code message

def decodeTagged : Decoder GetArtifactResponse := do
  let tag ← .u8
  if tag = 0 then decodeAccepted
  else if tag = 1 then decodeRejected
  else .fail (.unknownResponseTag tag)

def decodeResponse : Decoder GetArtifactResponse := do
  let response ← decodeTagged
  .finish
  return response

/-- A header is read whole before it is decoded. -/
def readMessage {α : Type} (decode : Decoder α) : Decoder α := do
  let encoded ← readFrame
  match decode encoded with
  | .ok message _ => pure message
  | .error fault _ => throw fault

def readRequest : Decoder GetArtifactRequest := readMessage decodeRequest

def readResponse : Decoder GetArtifactResponse := readMessage decodeResponse

end Clusterflux.Transfer
