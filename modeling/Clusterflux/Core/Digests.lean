import Clusterflux.Core.Primitives
import Clusterflux.Foundation.ByteReaders

/-!
# Digests as texts

A SHA-256 digest is the text `sha256:` followed by 64 hexadecimal digits.
-/

namespace Clusterflux

def Digest.fromSha256Hex (hex : String) : Except String Digest :=
  let digest : Digest := ⟨"sha256:" ++ hex⟩
  if digest.isValidSha256 then .ok digest
  else .error "SHA-256 digest must contain exactly 64 lowercase hexadecimal characters"

/-- The hash has the form of a SHA-256. -/
def Primitives.HashesToSha256 [Primitives] : Prop :=
  ∀ bytes, (Digest.sha256 bytes).isValidSha256 = true

theorem append_of_stripStart {value start rest : String}
    (hstrip : stripStart value start = some rest) : start ++ rest = value := by
  unfold stripStart startsWith at hstrip
  split at hstrip
  case isTrue hstarts =>
    cases hstrip
    rw [List.isPrefixOf_iff_prefix] at hstarts
    obtain ⟨tail, htail⟩ := hstarts
    apply String.toList_inj.mp
    rw [String.toList_append, String.toList_ofList, ← htail, ← String.length_toList,
      List.drop_left, htail]
  case isFalse => cases hstrip

theorem stripStart_append (start rest : String) : stripStart (start ++ rest) start = some rest := by
  have hstarts : startsWith (start ++ rest) start = true := by
    rw [startsWith, List.isPrefixOf_iff_prefix, String.toList_append]
    exact List.prefix_append _ _
  rw [stripStart, if_pos hstarts, String.toList_append, ← String.length_toList, List.drop_left,
    String.ofList_toList]

theorem Digest.isValidSha256_sha256_iff [Primitives] {bytes : LengthFraming.Bytes} :
    (Digest.sha256 bytes).isValidSha256 = true ↔
      (Primitives.sha256Hex bytes).utf8ByteSize = 64 ∧
        ∀ digit ∈ (Primitives.sha256Hex bytes).toList,
          (digit.isDigit || ('a' ≤ digit && digit ≤ 'f')) = true := by
  rw [Digest.isValidSha256, Digest.sha256, stripStart_append]
  simp only [Bool.and_eq_true, decide_eq_true_eq, List.all_eq_true]

theorem sha256_of_fromSha256Hex [Primitives] {bytes : LengthFraming.Bytes} {digest : Digest}
    (hdigest : Digest.fromSha256Hex (Primitives.sha256Hex bytes) = .ok digest) :
    Digest.sha256 bytes = digest := by
  unfold Digest.fromSha256Hex at hdigest
  dsimp only at hdigest
  split at hdigest
  case isTrue => exact Except.ok.inj hdigest
  case isFalse => cases hdigest

/-! ## Digests of part lists -/

section Parts

open ByteReaders LengthFraming

theorem lengthBytes_mod {left right : ℕ} (heq : lengthBytes left = lengthBytes right) :
    left % 2 ^ 64 = right % 2 ^ 64 := by
  have hbytes (length : ℕ) : lengthBytes length = beBytes 8 length := by
    simp [lengthBytes, beBytes, Nat.shiftRight_eq_div_pow, Nat.div_div_eq_div_mul]
  have hlengths := congrArg ofBeBytes (hbytes left ▸ hbytes right ▸ heq)
  rwa [ofBeBytes_beBytes_mod, ofBeBytes_beBytes_mod] at hlengths

/-- A part as it is hashed. -/
abbrev sizedPart (part : Bytes) : Bytes := lengthBytes part.length ++ part

variable {left right leftRest rightRest : Bytes}

/-- A part can be told from what follows it if one of the two is shorter than an address
space. -/
theorem sizedPart_append_inj
    (hshort : (left.length < 2 ^ 64 ∧ right.length < 2 ^ 64) ∨
      (leftRest.length < 2 ^ 64 ∧ rightRest.length < 2 ^ 64))
    (heq : sizedPart left ++ leftRest = sizedPart right ++ rightRest) :
    left = right ∧ leftRest = rightRest := by
  rw [List.append_assoc, List.append_assoc] at heq
  obtain ⟨hlength, hbytes⟩ := List.append_inj heq rfl
  refine List.append_inj hbytes ?_
  have hwrapped := lengthBytes_mod hlength
  have htotal := congrArg List.length hbytes
  rw [List.length_append, List.length_append] at htotal
  omega

variable [Primitives] (hsha256 : Function.Injective Primitives.sha256Hex)
  {first second : List Bytes}
  (hfirst : ∀ part ∈ first, part.length < 2 ^ 64) (hsecond : ∀ part ∈ second, part.length < 2 ^ 64)
include hsha256 hfirst hsecond

theorem fromParts_inj (heq : Digest.fromParts first = Digest.fromParts second) :
    first = second := by
  simp only [Digest.fromParts, Digest.mk.injEq, String.append_right_inj] at heq
  exact flatMap_inj (fun hfits hfits' => sizedPart_append_inj (.inl ⟨hfits, hfits'⟩))
    (by simp [lengthBytes]) hfirst hsecond (hsha256 heq)

/-- The first parts can be recovered whatever follows them. -/
theorem fromParts_append_inj {others others' : List Bytes}
    (hcount : first.length = second.length)
    (heq : Digest.fromParts (first ++ others) = Digest.fromParts (second ++ others')) :
    first = second ∧ others.flatMap sizedPart = others'.flatMap sizedPart := by
  simp only [Digest.fromParts, Digest.mk.injEq, String.append_right_inj, List.map_append,
    List.flatten_append] at heq
  exact flatMap_append_inj (fun hfits hfits' => sizedPart_append_inj (.inl ⟨hfits, hfits'⟩))
    hcount hfirst hsecond (hsha256 heq)

end Parts

/-! ## The sample hash -/

theorem isHex_digitChar {digit : ℕ} (hdigit : digit < 16) :
    ((Nat.digitChar digit).isDigit ||
      ('a' ≤ Nat.digitChar digit && Nat.digitChar digit ≤ 'f')) = true ∧
      (Nat.digitChar digit).utf8Size = 1 := by
  revert digit
  decide

theorem utf8Len_of_ascii {characters : List Char}
    (hascii : ∀ character ∈ characters, character.utf8Size = 1) :
    String.utf8Len characters = characters.length := by
  induction characters with
  | nil => rfl
  | cons first characters ih =>
    obtain ⟨hfirst, hothers⟩ := List.forall_mem_cons.mp hascii
    rw [String.utf8Len_cons, ih hothers, hfirst, List.length_cons]

theorem Primitives.sample_hashesToSha256 : @Primitives.HashesToSha256 Primitives.sample := by
  intro bytes
  apply (@Digest.isValidSha256_sha256_iff Primitives.sample bytes).mpr
  obtain ⟨value, hhex⟩ : ∃ value, @Primitives.sha256Hex Primitives.sample bytes =
      String.ofList ((List.range 64).map fun index =>
        Nat.digitChar (value / 16 ^ (63 - index) % 16)) := ⟨_, rfl⟩
  have hdigits : ∀ digit ∈ (List.range 64).map fun index =>
      Nat.digitChar (value / 16 ^ (63 - index) % 16),
        (digit.isDigit || ('a' ≤ digit && digit ≤ 'f')) = true ∧ digit.utf8Size = 1 := by
    intro digit hdigit
    obtain ⟨index, -, rfl⟩ := List.mem_map.mp hdigit
    exact isHex_digitChar (Nat.mod_lt _ (by decide))
  rw [hhex, String.toList_ofList, String.utf8ByteSize_ofList,
    utf8Len_of_ascii fun digit hdigit => (hdigits digit hdigit).2, List.length_map,
    List.length_range]
  exact ⟨rfl, fun digit hdigit => (hdigits digit hdigit).1⟩

end Clusterflux
