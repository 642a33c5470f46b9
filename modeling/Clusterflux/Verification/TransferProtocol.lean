import Clusterflux.Transfer.Protocol

/-!
# The artifact protocol is canonical

What is written is read back, what is read is what would have been written, and
reading neither panics nor reads beyond the frame.
-/

namespace Clusterflux.Transfer

open ByteReaders Checks LengthFraming StatefulProgram

variable {value : String} {bytes input rest following : Bytes} {digest : Digest}
  {artifact : ArtifactId} {code : ArtifactTransferErrorCode} {request : GetArtifactRequest}
  {response : GetArtifactResponse}

/-! ## Fields -/

namespace Decoder

theorem canonical_array (length : ℕ) (expected : String) :
    Canonical (fun value bytes => value.val = bytes) (array length expected) := by
  apply (canonical_take length _ _).map
  · rintro _ bytes ⟨rfl, hlength⟩ result rest final
    rw [dif_pos hlength]
    constructor
    · intro hread
      cases hread
      exact ⟨rfl, rfl⟩
    · rintro ⟨rfl, rfl⟩
      rfl
  · rintro result _ rfl
    exact ⟨result.val, rfl, result.property⟩

theorem canonical_u8 : Canonical (fun value bytes => bytes = [value]) u8 := by
  apply (canonical_take 1 _ _).map
  · rintro _ bytes ⟨rfl, hlength⟩ result rest final
    obtain ⟨byte, rfl⟩ := List.length_eq_one_iff.mp hlength
    constructor
    · intro hread
      cases hread
      exact ⟨rfl, rfl⟩
    · rintro ⟨hbyte, rfl⟩
      cases hbyte
      rfl
  · rintro result _ rfl
    exact ⟨_, rfl, rfl⟩

theorem canonical_number {α : Type} {width : ℕ} {ofNat : ℕ → α} {toNat : α → ℕ}
    (expected : String) (hbound : ∀ value, toNat value < 256 ^ width)
    (hback : ∀ value, ofNat (toNat value) = value)
    (hnumber : ∀ number, number < 256 ^ width → toNat (ofNat number) = number) :
    Canonical (fun value bytes => bytes = beBytes width (toNat value)) (do
      let bytes ← array width expected
      return ofNat (ofBeBytes bytes.val)) := by
  apply (canonical_array width expected).map
  · rintro ⟨bytes, rfl⟩ _ rfl result rest final
    constructor
    · intro hread
      cases hread
      refine ⟨?_, rfl⟩
      rw [hnumber _ (ofBeBytes_lt bytes), beBytes_ofBeBytes]
    · rintro ⟨hbytes, rfl⟩
      have hvalue : ofNat (ofBeBytes bytes) = result := by
        rw [show bytes = beBytes bytes.length (toNat result) from hbytes,
          ofBeBytes_beBytes (hbound result), hback]
      rw [hvalue]
      rfl
  · rintro result _ rfl
    exact ⟨⟨_, length_beBytes _ _⟩, rfl⟩

theorem canonical_u16 : Canonical (fun value bytes => bytes = beBytes 2 value.toNat) u16 :=
  canonical_number _ UInt16.toNat_lt (fun _ => UInt16.ofNat_toNat)
    (fun _ hnumber => UInt16.toNat_ofNat_of_lt' hnumber)

theorem canonical_u64 : Canonical (fun value bytes => bytes = beBytes 8 value.toNat) u64 :=
  canonical_number _ UInt64.toNat_lt (fun _ => UInt64.ofNat_toNat)
    (fun _ hnumber => UInt64.toNat_ofNat_of_lt' hnumber)

theorem canonical_array32 : Canonical (fun value bytes => value.val = bytes) array32 :=
  canonical_array 32 _

theorem encodeString_eq_ok_iff {maximum : ℕ} {field : String} :
    encodeString value maximum field = .ok bytes ↔
      (value.utf8ByteSize ≠ 0 ∧ value.utf8ByteSize ≤ maximum ∧ value.utf8ByteSize ≤ u16Max) ∧
        bytes = beBytes 2 value.utf8ByteSize ++ utf8 value := by
  have hempty : value.isEmpty = decide (value.utf8ByteSize = 0) := rfl
  unfold encodeString
  rw [hempty]
  simp only [Bool.or_eq_true, decide_eq_true_eq]
  split
  case isTrue hrefused =>
    constructor
    · intro heq
      cases heq
    · rintro ⟨hsize, -⟩
      omega
  case isFalse haccepted =>
    rw [Except.ok.injEq, eq_comm (b := bytes)]
    constructor
    · intro hbytes
      exact ⟨by omega, hbytes⟩
    · rintro ⟨-, hbytes⟩
      exact hbytes

theorem canonical_string (maximum : ℕ) (field : String) :
    Canonical (fun value bytes => encodeString value maximum field = .ok bytes)
      (string maximum field) := by
  intro input value rest
  simp only [encodeString_eq_ok_iff]
  rw [string, canonical_u16.bind_iff]
  constructor
  · rintro ⟨length, _, following, rfl, rfl, hread⟩
    split at hread
    case isTrue => cases hread
    case isFalse hlength =>
      rw [take, (canonical_take _ _ _).bind_iff] at hread
      obtain ⟨_, bytes, last, ⟨rfl, hbytes⟩, rfl, htext⟩ := hread
      obtain ⟨hutf8, rfl⟩ := orFail_eq_ok_iff.mp htext
      rw [ofUtf8_eq_some_iff] at hutf8
      subst hutf8
      rw [length_utf8] at hbytes
      have hbound := length.toNat_lt
      refine ⟨beBytes 2 value.utf8ByteSize ++ utf8 value, ⟨?_, rfl⟩, ?_⟩
      · unfold u16Max
        omega
      · rw [hbytes, List.append_assoc]
  · rintro ⟨_, ⟨⟨hpositive, hmaximum, hrange⟩, rfl⟩, rfl⟩
    have hlength : (UInt16.ofNat value.utf8ByteSize).toNat = value.utf8ByteSize :=
      UInt16.toNat_ofNat_of_lt' (Nat.lt_succ_of_le hrange)
    refine ⟨UInt16.ofNat value.utf8ByteSize, _, utf8 value ++ rest, rfl, ?_, ?_⟩
    · rw [hlength, List.append_assoc]
    · rw [if_neg (by omega), take, (canonical_take _ _ _).bind_iff]
      exact ⟨_, utf8 value, rest, ⟨rfl, hlength.symm⟩, rfl,
        orFail_eq_ok_iff.mpr ⟨ofUtf8_eq_some_iff.mpr rfl, rfl⟩⟩

theorem finish_bind_iff {α : Type} {next : Unit → Decoder α} {result : α} :
    (finish >>= next) input = .ok result rest ↔ input = [] ∧ next () [] = .ok result rest := by
  rw [bind_eq_ok_iff]
  constructor
  · rintro ⟨_, middle, hfinish, hnext⟩
    obtain ⟨_, _, hget, hensure⟩ := bind_eq_ok_iff.mp hfinish
    cases hget
    obtain ⟨rfl, rfl⟩ := ensure_eq_ok_iff.mp hensure
    exact ⟨rfl, hnext⟩
  · rintro ⟨rfl, hnext⟩
    exact ⟨(), [], rfl, hnext⟩

theorem liftExcept_bind_iff {α β : Type} {outcome : Except ProtocolError α}
    {next : α → Decoder β} {result : β} :
    ((liftExcept outcome .error : Decoder α) >>= next) input = .ok result rest ↔
      ∃ value, outcome = .ok value ∧ next value input = .ok result rest := by
  rw [bind_eq_ok_iff]
  constructor
  · rintro ⟨value, middle, hlift, hnext⟩
    obtain ⟨hvalue, rfl⟩ := liftExcept_eq_ok_iff.mp hlift
    exact ⟨value, hvalue, hnext⟩
  · rintro ⟨value, hvalue, hnext⟩
    exact ⟨value, input, liftExcept_eq_ok_iff.mpr ⟨hvalue, rfl⟩, hnext⟩

end Decoder

theorem decodeDigest_eq_ok_iff :
    decodeDigest value = .ok digest ↔ digest.text = value ∧ digest.isValidSha256 = true := by
  unfold decodeDigest Digest.fromSha256Hex
  cases hstrip : stripStart value "sha256:" with
  | none =>
    constructor
    · intro heq
      cases heq
    · rintro ⟨rfl, hvalid⟩
      simp [Digest.isValidSha256, hstrip] at hvalid
  | some hex =>
    have hvalue := append_of_stripStart hstrip
    dsimp only
    rw [hvalue]
    split
    case isTrue hvalid =>
      constructor
      · intro heq
        cases heq
        exact ⟨rfl, hvalid⟩
      · rintro ⟨rfl, -⟩
        rfl
    case isFalse hinvalid =>
      constructor
      · intro heq
        cases heq
      · rintro ⟨rfl, hvalid⟩
        exact absurd hvalid hinvalid

theorem decodeArtifactId_eq_ok_iff :
    decodeArtifactId value = .ok artifact ↔ artifact.value = value := by
  rw [decodeArtifactId, mapError_eq_ok, Id.tryNew_eq_ok_iff]

theorem errorCodeFromWire_eq_ok_iff {value : UInt8} :
    errorCodeFromWire value = .ok code ↔ value = errorCodeToWire code := by
  constructor
  · intro hcode
    unfold errorCodeFromWire at hcode
    split at hcode <;> first | (cases hcode; rfl) | cases hcode
  · rintro rfl
    cases code <;> rfl

/-! ## Headers -/

theorem valid_of_validateRequest {result : Unit} (hvalid : validateRequest request = .ok result) :
    request.expectedDigest.isValidSha256 = true := by
  simp only [validateRequest, check_bind_eq_ok, refuseIf_eq_ok, Bool.not_eq_false'] at hvalid
  exact hvalid.2.2.1

open Decoder in
/-- A request is decoded exactly from its encoding. -/
theorem decodeRequest_eq_ok_iff :
    decodeRequest input = .ok request rest ↔ encodeRequest request = .ok input ∧ rest = [] := by
  simp only [decodeRequest, encodeRequest, canonical_u16.bind_iff, (canonical_string _ _).bind_iff,
    canonical_array32.bind_iff, canonical_u64.bind_iff, liftExcept_bind_iff, finish_bind_iff,
    bind_eq_ok, decodeDigest_eq_ok_iff, decodeArtifactId_eq_ok_iff]
  constructor
  · rintro ⟨version, _, _, rfl, rfl, transferId, _, _, htransferId, rfl, secret, _, _, rfl, rfl,
      _, _, _, hartifact, rfl, artifact, rfl, _, _, _, hdigest, rfl, digest, ⟨rfl, -⟩,
      size, _, _, rfl, rfl, offset, _, _, rfl, rfl, rfl, _, hvalid, hresult⟩
    cases hresult
    refine ⟨⟨_, hvalid, _, htransferId, _, hartifact, _, hdigest, ?_⟩, rfl⟩
    rw [List.append_nil]
    rfl
  · rintro ⟨⟨_, hvalid, _, htransferId, _, hartifact, _, hdigest, hinput⟩, rfl⟩
    cases hinput
    have hsha256 := valid_of_validateRequest hvalid
    exact ⟨_, _, _, rfl, rfl, _, _, _, htransferId, rfl, _, _, _, rfl, rfl, _, _, _, hartifact, rfl,
      _, rfl, _, _, _, hdigest, rfl, _, ⟨rfl, hsha256⟩, _, _, _, rfl, rfl, _, _, _, rfl,
      (List.append_nil _).symm, rfl, _, hvalid, rfl⟩

theorem encodeResponse_accepted_iff {totalSize offset remainingSize : UInt64} :
    encodeResponse (.accepted artifact digest totalSize offset remainingSize) = .ok bytes ↔
      (digest.isValidSha256 = true ∧
        ¬ (offset > totalSize ∨ remainingSize.toNat ≠ totalSize.toNat - offset.toNat)) ∧
      ∃ artifactBytes digestBytes,
        encodeString artifact.value maxArtifactIdBytes "artifact ID" = .ok artifactBytes ∧
        encodeString digest.text sha256DigestBytes "digest" = .ok digestBytes ∧
        [0] ++ (artifactBytes ++ (digestBytes ++ (beBytes 8 totalSize.toNat ++
          (beBytes 8 offset.toNat ++ beBytes 8 remainingSize.toNat)))) = bytes := by
  rw [encodeResponse, check_bind_eq_ok, refuseIf_eq_ok]
  simp only [bind_eq_ok, pure, Except.pure, Except.ok.injEq, Bool.or_eq_false_iff,
    Bool.not_eq_false', decide_eq_false_iff_not, not_or, exists_and_left, and_assoc]

theorem encodeResponse_rejected_iff {message : String} :
    encodeResponse (.rejected code message) = .ok bytes ↔ ∃ messageBytes,
        encodeString message maxTransferErrorMessageBytes "rejection message" = .ok messageBytes ∧
        [1] ++ ([errorCodeToWire code] ++ messageBytes) = bytes := by
  simp only [encodeResponse, bind_eq_ok, pure, Except.pure, Except.ok.injEq]

theorem ensure_bind_iff {α : Type} {condition : Prop} [Decidable condition] {fault : Fault}
    {next : PUnit → Decoder α} {result : α} :
    (ensure condition fault >>= next) input = .ok result rest ↔
      condition ∧ next ⟨⟩ input = .ok result rest := by
  rw [bind_eq_ok_iff]
  constructor
  · rintro ⟨_, middle, hensure, hnext⟩
    obtain ⟨hcondition, rfl⟩ := ensure_eq_ok_iff.mp hensure
    exact ⟨hcondition, hnext⟩
  · rintro ⟨hcondition, hnext⟩
    exact ⟨⟨⟩, input, ensure_eq_ok_iff.mpr ⟨hcondition, rfl⟩, hnext⟩

open Decoder in
theorem decodeAccepted_eq_ok_iff : decodeAccepted following = .ok response rest ↔
      ∃ bytes, encodeResponse response = .ok ([0] ++ bytes) ∧ following = bytes ++ rest := by
  simp only [decodeAccepted, (canonical_string _ _).bind_iff, canonical_u64.bind_iff,
    liftExcept_bind_iff, decodeDigest_eq_ok_iff, decodeArtifactId_eq_ok_iff, ensure_bind_iff]
  constructor
  · rintro ⟨_, artifactBytes, _, hartifact, rfl, artifact, rfl, _, digestBytes, _, hdigest, rfl,
      digest, ⟨rfl, hvalid⟩, totalSize, _, _, rfl, rfl, offset, _, _, rfl, rfl, remainingSize,
      _, _, rfl, rfl, hsizes, hresult⟩
    cases hresult
    refine ⟨_, encodeResponse_accepted_iff.mpr
      ⟨⟨hvalid, hsizes⟩, _, _, hartifact, hdigest, rfl⟩, ?_⟩
    simp only [List.append_assoc]
  · rintro ⟨bytes, hencoded, hfollowing⟩
    cases response with
    | accepted artifact digest totalSize offset remainingSize =>
      obtain ⟨⟨hvalid, hsizes⟩, _, _, hartifact, hdigest, hbytes⟩ :=
        encodeResponse_accepted_iff.mp hencoded
      rw [← List.append_cancel_left hbytes] at hfollowing
      simp only [List.append_assoc] at hfollowing
      exact ⟨_, _, _, hartifact, hfollowing, _, rfl, _, _, _, hdigest, rfl, _, ⟨rfl, hvalid⟩,
        _, _, _, rfl, rfl, _, _, _, rfl, rfl, _, _, _, rfl, rfl, hsizes, rfl⟩
    | rejected code message =>
      obtain ⟨_, -, hbytes⟩ := encodeResponse_rejected_iff.mp hencoded
      cases hbytes

open Decoder in
theorem decodeRejected_eq_ok_iff : decodeRejected following = .ok response rest ↔
      ∃ bytes, encodeResponse response = .ok ([1] ++ bytes) ∧ following = bytes ++ rest := by
  simp only [decodeRejected, (canonical_string _ _).bind_iff, canonical_u8.bind_iff,
    liftExcept_bind_iff, errorCodeFromWire_eq_ok_iff]
  constructor
  · rintro ⟨_, _, _, rfl, rfl, code, rfl, message, messageBytes, _, hmessage, rfl, hresult⟩
    cases hresult
    refine ⟨_, encodeResponse_rejected_iff.mpr ⟨_, hmessage, rfl⟩, ?_⟩
    simp only [List.append_assoc]
  · rintro ⟨bytes, hencoded, hfollowing⟩
    cases response with
    | accepted artifact digest totalSize offset remainingSize =>
      obtain ⟨-, _, _, -, -, hbytes⟩ := encodeResponse_accepted_iff.mp hencoded
      cases hbytes
    | rejected code message =>
      obtain ⟨_, hmessage, hbytes⟩ := encodeResponse_rejected_iff.mp hencoded
      rw [← List.append_cancel_left hbytes] at hfollowing
      simp only [List.append_assoc] at hfollowing
      exact ⟨_, _, _, rfl, hfollowing, _, rfl, _, _, _, hmessage, rfl, rfl⟩

open Decoder in
theorem canonical_tagged :
    Canonical (fun response bytes => encodeResponse response = .ok bytes) decodeTagged := by
  intro input response rest
  rw [decodeTagged, canonical_u8.bind_iff]
  constructor
  · rintro ⟨tag, _, following, rfl, rfl, hread⟩
    split at hread
    case isTrue haccepted =>
      subst haccepted
      obtain ⟨bytes, hencoded, rfl⟩ := decodeAccepted_eq_ok_iff.mp hread
      exact ⟨_, hencoded, rfl⟩
    case isFalse =>
      split at hread
      case isTrue hrejected =>
        subst hrejected
        obtain ⟨bytes, hencoded, rfl⟩ := decodeRejected_eq_ok_iff.mp hread
        exact ⟨_, hencoded, rfl⟩
      case isFalse => cases hread
  · rintro ⟨bytes, hencoded, rfl⟩
    cases response with
    | accepted artifact digest totalSize offset remainingSize =>
      obtain ⟨-, _, _, -, -, rfl⟩ := encodeResponse_accepted_iff.mp hencoded
      exact ⟨0, _, _, rfl, rfl, decodeAccepted_eq_ok_iff.mpr ⟨_, hencoded, rfl⟩⟩
    | rejected code message =>
      obtain ⟨_, -, rfl⟩ := encodeResponse_rejected_iff.mp hencoded
      exact ⟨1, _, _, rfl, rfl, decodeRejected_eq_ok_iff.mpr ⟨_, hencoded, rfl⟩⟩

open Decoder in
/-- A response is decoded exactly from its encoding. -/
theorem decodeResponse_eq_ok_iff :
    decodeResponse input = .ok response rest ↔ encodeResponse response = .ok input ∧ rest = [] := by
  simp only [decodeResponse, canonical_tagged.bind_iff, finish_bind_iff]
  constructor
  · rintro ⟨_, bytes, _, hbytes, rfl, rfl, hresult⟩
    cases hresult
    rw [List.append_nil]
    exact ⟨hbytes, rfl⟩
  · rintro ⟨hbytes, rfl⟩
    exact ⟨_, _, _, hbytes, (List.append_nil _).symm, rfl, rfl⟩

/-! ## Frames -/

theorem writeFrame_eq_ok_iff {encoded bytes : Bytes} : writeFrame encoded = .ok bytes ↔
      (encoded.length ≠ 0 ∧ encoded.length ≤ maxProtocolHeaderBytes) ∧
        bytes = beBytes 4 encoded.length ++ encoded := by
  unfold writeFrame
  simp only [List.isEmpty_iff_length_eq_zero, Bool.or_eq_true, decide_eq_true_eq]
  split
  case isTrue hrefused =>
    constructor
    · intro heq
      cases heq
    · rintro ⟨hlength, -⟩
      omega
  case isFalse haccepted =>
    rw [Except.ok.injEq, eq_comm (b := bytes)]
    constructor
    · intro hbytes
      exact ⟨by omega, hbytes⟩
    · rintro ⟨-, hbytes⟩
      exact hbytes

theorem canonical_readFrame :
    Canonical (fun encoded bytes => writeFrame encoded = .ok bytes) readFrame := by
  intro input encoded rest
  rw [readFrame, readExact, (canonical_take _ _ _).bind_iff]
  simp only [writeFrame_eq_ok_iff]
  constructor
  · rintro ⟨_, bytes, following, ⟨rfl, hfour⟩, rfl, hread⟩
    split at hread
    case isTrue => cases hread
    case isFalse hlength =>
      obtain ⟨_, ⟨rfl, hencoded⟩, rfl⟩ := (canonical_take _ _ _ _ _ _).mp hread
      refine ⟨_, ⟨by omega, rfl⟩, ?_⟩
      rw [hencoded, ← hfour, beBytes_ofBeBytes, List.append_assoc]
  · rintro ⟨_, ⟨hlength, rfl⟩, rfl⟩
    have hback : ofBeBytes (beBytes 4 encoded.length) = encoded.length := by
      apply ofBeBytes_beBytes
      unfold maxProtocolHeaderBytes at hlength
      omega
    refine ⟨_, _, encoded ++ rest, ⟨rfl, length_beBytes _ _⟩, List.append_assoc _ _ _, ?_⟩
    rw [hback, if_neg (by omega)]
    exact (canonical_take _ _ _ _ _ _).mpr ⟨_, ⟨rfl, rfl⟩, rfl⟩

/-! ## Failures -/

/-- The fault is an error of the protocol. -/
def Fault.IsError (fault : Fault) : Prop := ∃ error, fault = .error error

namespace Decoder

theorem failsOnly_fail {α : Type} (error : ProtocolError) :
    FailsOnly Fault.IsError (fail error : Decoder α) :=
  .throw ⟨error, rfl⟩

theorem failsOnly_take (length : ℕ) : FailsOnly Fault.IsError (take length) :=
  .take ⟨_, rfl⟩

theorem failsOnly_array (length : ℕ) (expected : String) :
    FailsOnly Fault.IsError (array length expected) := by
  apply (canonical_take length _ _).failsOnly_bind (failsOnly_take length)
  rintro _ bytes ⟨rfl, hlength⟩
  rw [dif_pos hlength]
  exact .pure _

theorem failsOnly_u8 : FailsOnly Fault.IsError u8 := by
  apply (canonical_take 1 _ _).failsOnly_bind (failsOnly_take 1)
  rintro _ bytes ⟨rfl, hlength⟩
  obtain ⟨byte, rfl⟩ := List.length_eq_one_iff.mp hlength
  exact .pure byte

theorem failsOnly_u16 : FailsOnly Fault.IsError u16 :=
  (failsOnly_array 2 _).bind fun _ => .pure _

theorem failsOnly_u64 : FailsOnly Fault.IsError u64 :=
  (failsOnly_array 8 _).bind fun _ => .pure _

theorem failsOnly_string (maximum : ℕ) (field : String) :
    FailsOnly Fault.IsError (string maximum field) := by
  apply failsOnly_u16.bind
  intro length
  split
  · exact failsOnly_fail _
  · exact (failsOnly_take _).bind fun _ => .orFail ⟨_, rfl⟩

theorem failsOnly_finish : FailsOnly Fault.IsError finish := by
  intro input fault rest hfailed
  rcases bind_eq_error_iff.mp hfailed with hget | ⟨_, _, -, hensure⟩
  · cases hget
  · exact FailsOnly.ensure ⟨_, rfl⟩ _ _ _ hensure

theorem failsOnly_liftExcept {α : Type} (outcome : Except ProtocolError α) :
    FailsOnly Fault.IsError (liftExcept outcome .error : Decoder α) :=
  .liftExcept fun error => ⟨error, rfl⟩

end Decoder

open Decoder in
theorem failsOnly_decodeRequest : FailsOnly Fault.IsError decodeRequest := by
  apply failsOnly_u16.bind
  intro version
  apply (failsOnly_string _ _).bind
  intro transferId
  apply (failsOnly_array 32 _).bind
  intro secret
  apply (failsOnly_string _ _).bind
  intro artifact
  apply (failsOnly_liftExcept _).bind
  intro artifact
  apply (failsOnly_string _ _).bind
  intro digest
  apply (failsOnly_liftExcept _).bind
  intro digest
  apply failsOnly_u64.bind
  intro size
  apply failsOnly_u64.bind
  intro offset
  apply failsOnly_finish.bind
  intro _
  exact (failsOnly_liftExcept _).bind fun _ => .pure _

open Decoder in
theorem failsOnly_decodeResponse : FailsOnly Fault.IsError decodeResponse := by
  apply FailsOnly.bind
  · apply failsOnly_u8.bind
    intro tag
    split
    · apply (failsOnly_string _ _).bind
      intro artifact
      apply (failsOnly_liftExcept _).bind
      intro artifact
      apply (failsOnly_string _ _).bind
      intro digest
      apply (failsOnly_liftExcept _).bind
      intro digest
      apply failsOnly_u64.bind
      intro totalSize
      apply failsOnly_u64.bind
      intro offset
      apply failsOnly_u64.bind
      intro remainingSize
      exact FailsOnly.bind (.ensure ⟨_, rfl⟩) fun _ => .pure _
    · split
      · apply failsOnly_u8.bind
        intro code
        apply (failsOnly_liftExcept _).bind
        intro code
        exact (failsOnly_string _ _).bind fun _ => .pure _
      · exact failsOnly_fail _
  · intro response
    exact failsOnly_finish.bind fun _ => .pure _

theorem failsOnly_readExact (length : ℕ) : FailsOnly Fault.IsError (readExact length) :=
  .take ⟨_, rfl⟩

theorem failsOnly_readFrame : FailsOnly Fault.IsError readFrame := by
  apply (failsOnly_readExact 4).bind
  intro length
  dsimp only
  split
  · exact Decoder.failsOnly_fail _
  · exact failsOnly_readExact _

/-! ## Messages -/

/-- What one side writes is what the other side reads, and reading is safe. -/
structure Faithful {α : Type} (write : α → Except ProtocolError Bytes) (read : Decoder α) :
    Prop where
  decodes : ∀ message frame, write message = .ok frame →
    ∀ rest, read (frame ++ rest) = .ok message rest
  encodes : ∀ stream message rest, read stream = .ok message rest →
    ∃ frame, write message = .ok frame ∧ stream = frame ++ rest
  /-- Two frames that are read as one message are the same. -/
  unique : ∀ left right message leftRest rightRest, read (left ++ leftRest) = .ok message leftRest →
    read (right ++ rightRest) = .ok message rightRest → left = right
  neverPanics : ∀ stream expected rest, read stream ≠ .error (.panicked expected) rest
  /-- Nothing is read beyond the length the frame begins with. -/
  withinFrame : ∀ stream, ∃ count ≤ 4 + ofBeBytes (stream.take 4),
    finalState (read stream) = stream.drop count

theorem finalState_readMessage {α : Type} (decode : Decoder α) (stream : Bytes) :
    finalState (readMessage decode stream) = finalState (readFrame stream) := by
  rw [readMessage, bind_apply]
  cases readFrame stream with
  | error fault rest => rfl
  | ok encoded rest =>
    dsimp only
    cases decode encoded <;> rfl

theorem readFrame_within (stream : Bytes) : ∃ count ≤ 4 + ofBeBytes (stream.take 4),
    finalState (readFrame stream) = stream.drop count := by
  rw [readFrame, bind_apply, readExact, ByteReaders.take]
  by_cases hfour : 4 ≤ stream.length
  case neg =>
    rw [if_neg hfour]
    exact ⟨stream.length, by omega, (List.drop_length).symm⟩
  case pos =>
    rw [if_pos hfour]
    dsimp only
    split
    case isTrue => exact ⟨4, Nat.le_add_right _ _, rfl⟩
    case isFalse =>
      rw [readExact, ByteReaders.take]
      split
      case isTrue =>
        exact ⟨4 + ofBeBytes (stream.take 4), le_rfl, List.drop_drop⟩
      case isFalse hshort =>
        rw [List.length_drop] at hshort
        exact ⟨stream.length, by omega, (List.drop_length).symm⟩

theorem readMessage_eq_ok_iff {α : Type} {decode : Decoder α} {stream rest : Bytes} {message : α} :
    readMessage decode stream = .ok message rest ↔
      ∃ encoded, readFrame stream = .ok encoded rest ∧
        ∃ left, decode encoded = .ok message left := by
  rw [readMessage, bind_eq_ok_iff]
  constructor
  · rintro ⟨encoded, middle, hframe, hmessage⟩
    cases hdecode : decode encoded with
    | error fault left =>
      rw [hdecode] at hmessage
      cases hmessage
    | ok decoded left =>
      rw [hdecode] at hmessage
      cases hmessage
      exact ⟨encoded, hframe, left, hdecode⟩
  · rintro ⟨encoded, hframe, left, hdecode⟩
    refine ⟨encoded, rest, hframe, ?_⟩
    rw [hdecode]
    rfl

theorem failsOnly_readMessage {α : Type} {decode : Decoder α}
    (hdecode : FailsOnly Fault.IsError decode) : FailsOnly Fault.IsError (readMessage decode) := by
  apply failsOnly_readFrame.bind
  intro encoded
  cases hdecoded : decode encoded with
  | ok message left => exact .pure message
  | error fault left => exact .throw (hdecode _ _ _ hdecoded)

/-- A decoder that inverts an encoder makes the framed messages faithful. -/
theorem Faithful.of_header {α : Type} {encode : α → Except ProtocolError Bytes} {decode : Decoder α}
    (hheader : ∀ input message rest, decode input = .ok message rest ↔
      encode message = .ok input ∧ rest = [])
    (hfails : FailsOnly Fault.IsError decode) :
    Faithful (fun message => encode message >>= writeFrame) (readMessage decode) := by
  have hread : Canonical (fun message frame => (encode message >>= writeFrame) = .ok frame)
      (readMessage decode) := by
    intro stream message rest
    simp only [readMessage_eq_ok_iff, canonical_readFrame _ _ _, hheader, bind_eq_ok]
    constructor
    · rintro ⟨encoded, ⟨frame, hframe, hstream⟩, _, hencoded, -⟩
      exact ⟨frame, ⟨encoded, hencoded, hframe⟩, hstream⟩
    · rintro ⟨frame, ⟨encoded, hencoded, hframe⟩, hstream⟩
      exact ⟨encoded, ⟨frame, hframe, hstream⟩, [], hencoded, rfl⟩
  exact {
    decodes := fun message frame hframe rest => (hread _ _ _).mpr ⟨frame, hframe, rfl⟩
    encodes := fun stream message rest hmessage => (hread _ _ _).mp hmessage
    unique := by
      intro left right message leftRest rightRest hleft hright
      obtain ⟨frame, hframe, hleftFrame⟩ := (hread _ _ _).mp hleft
      obtain ⟨other, hother, hrightFrame⟩ := (hread _ _ _).mp hright
      rw [hframe] at hother
      cases hother
      rw [List.append_cancel_right hleftFrame, List.append_cancel_right hrightFrame]
    neverPanics := by
      intro stream expected rest hpanicked
      obtain ⟨error, herror⟩ := failsOnly_readMessage hfails _ _ _ hpanicked
      cases herror
    withinFrame := by
      intro stream
      rw [finalState_readMessage]
      exact readFrame_within stream }

/-- Requests and responses of the artifact protocol are read exactly as they are written. -/
theorem artifact_wire_format_is_canonical :
    Faithful writeRequest readRequest ∧ Faithful writeResponse readResponse :=
  ⟨.of_header (fun _ _ _ => decodeRequest_eq_ok_iff) failsOnly_decodeRequest,
    .of_header (fun _ _ _ => decodeResponse_eq_ok_iff) failsOnly_decodeResponse⟩

end Clusterflux.Transfer
