import Clusterflux.Core.Ids
import Clusterflux.Foundation.Framing

/-!
# What the code takes from outside

Hashing, base64 and Ed25519 come from third-party libraries.  They are
parameters of the model; results that need a property of one of them state it
as a hypothesis.  The wall clock, the random source and the durable store are
read through a `World`: streams of what the successive calls will answer.
-/

namespace Clusterflux

open LengthFraming

/-! ## Third-party functions -/

class Primitives where
  /-- Lower-case hexadecimal SHA-256 of a byte string. -/
  sha256Hex : Bytes → String
  /-- Standard base64 with padding; an error is given by its text. -/
  base64Decode : String → Except String Bytes
  /-- `VerifyingKey::from_bytes` succeeds. -/
  isVerifyingKey : Bytes → Bool
  /-- `verifying_key.verify(message, signature)` succeeds. -/
  verifiesEd25519 : (key message signature : Bytes) → Bool

namespace Primitives

/-- The six bits a base64 character stands for. -/
def base64Value (char : Char) : Option ℕ :=
  if 'A' ≤ char ∧ char ≤ 'Z' then some (char.toNat - 'A'.toNat)
  else if 'a' ≤ char ∧ char ≤ 'z' then some (char.toNat - 'a'.toNat + 26)
  else if '0' ≤ char ∧ char ≤ '9' then some (char.toNat - '0'.toNat + 52)
  else if char = '+' then some 62
  else if char = '/' then some 63
  else none

/-- Decodes groups of four characters; only the last may be padded, and the bits
it leaves unused must be zero. -/
def decodeGroups : List Char → Option Bytes
  | [] => some []
  | [a, b, '=', '='] => do
      let a ← base64Value a
      let b ← base64Value b
      if b % 16 = 0 then some [(a * 4 + b / 16).toUInt8] else none
  | [a, b, c, '='] => do
      let a ← base64Value a
      let b ← base64Value b
      let c ← base64Value c
      if c % 4 = 0 then some [(a * 4 + b / 16).toUInt8, (b * 16 + c / 4).toUInt8] else none
  | a :: b :: c :: d :: rest => do
      let a ← base64Value a
      let b ← base64Value b
      let c ← base64Value c
      let d ← base64Value d
      let bytes ← decodeGroups rest
      some ((a * 4 + b / 16).toUInt8 :: (b * 16 + c / 4).toUInt8 :: (c * 64 + d).toUInt8 :: bytes)
  | _ => none

/-- Functions to evaluate the model with on concrete inputs.  Base64 is decoded
as it should be; the hash has the shape of SHA-256 and tells small inputs apart;
every signature of the right length counts as genuine. -/
@[reducible] def sample : Primitives where
  sha256Hex bytes :=
    let value := bytes.foldl (fun state byte => (state * 257 + byte.toNat + 1) % 2 ^ 256) 0
    String.ofList ((List.range 64).map fun index =>
      Nat.digitChar (value / 16 ^ (63 - index) % 16))
  base64Decode text :=
    match decodeGroups text.toList with
    | some bytes => .ok bytes
    | none => .error "Invalid padding"
  isVerifyingKey key := key.length == 32
  verifiesEd25519 _ _ signature := signature.length == 64

/-- As `sample`, with a hash that gives every input its own text. -/
@[reducible] def transparent : Primitives :=
  { sample with
    sha256Hex := fun bytes => String.ofList (bytes.map fun byte => Char.ofNat byte.toNat) }

theorem transparent_injective : Function.Injective transparent.sha256Hex := by
  intro left right heq
  have hchars := String.ofList_injective heq
  refine (List.map_injective_iff.mpr ?_) hchars
  intro byte byte' hbyte
  have hvalid : ∀ byte : UInt8, byte.toNat.isValidChar := fun byte => by
    have hlt := byte.toNat_lt
    exact Or.inl (by omega)
  have hvalue := congrArg Char.toNat hbyte
  rw [Char.toNat_ofNat, Char.toNat_ofNat, if_pos (hvalid byte), if_pos (hvalid byte')] at hvalue
  exact UInt8.toNat_inj.mp hvalue

end Primitives

/-! ## Digests -/

structure Digest where
  text : String
  deriving DecidableEq

instance : Ord Digest := ⟨compareOn Digest.text⟩

instance : Std.TransOrd Digest :=
  inferInstanceAs (Std.TransCmp (compareOn Digest.text))

instance : Std.LawfulEqOrd Digest where
  eq_of_compare {left right} hcompare := by
    have htext : left.text = right.text := Std.LawfulEqOrd.eq_of_compare hcompare
    cases left
    cases right
    simpa using htext

/-- A digest of the form a SHA-256 has. -/
def Digest.isValidSha256 (digest : Digest) : Bool :=
  match stripStart digest.text "sha256:" with
  | none => false
  | some hex => hex.utf8ByteSize = 64 && hex.toList.all fun char =>
    char.isDigit || ('a' ≤ char && char ≤ 'f')

/-- The eight big-endian bytes of a 64-bit length. -/
def lengthBytes (length : ℕ) : Bytes :=
  [56, 48, 40, 32, 24, 16, 8, 0].map fun shift => (length >>> shift).toUInt8

def Digest.sha256 [Primitives] (bytes : Bytes) : Digest :=
  ⟨"sha256:" ++ Primitives.sha256Hex bytes⟩

def Digest.fromParts [Primitives] (parts : List Bytes) : Digest :=
  ⟨"sha256:" ++ Primitives.sha256Hex
    ((parts.map fun part => lengthBytes part.length ++ part).flatten)⟩

/-- Collision freedom of the hash carries over to digests. -/
theorem Digest.sha256_injective [Primitives]
    (hsha256 : Function.Injective (Primitives.sha256Hex)) :
    Function.Injective Digest.sha256 := by
  intro left right heq
  simp only [Digest.sha256, Digest.mk.injEq, String.append_right_inj] at heq
  exact hsha256 heq

/-! ## Machine arithmetic -/

def u64Max : ℕ := 2 ^ 64 - 1

/-- `u64::saturating_add`. -/
def saturatingAdd (left right : ℕ) : ℕ := min (left + right) u64Max

/-- `u64::abs_diff`. -/
def absDiff (left right : ℕ) : ℕ := (left - right) + (right - left)

/-! ## The environment -/

/-- What the successive calls to the environment will answer. -/
structure World where
  /-- Readings of the system clock in seconds since the epoch; `none` for a
  clock set before the epoch. -/
  clock : ℕ → Option ℕ
  clock_bounded : ∀ index seconds, clock index = some seconds → seconds ≤ u64Max
  /-- Opaque tokens drawn from the random source, which may fail: 32 bytes in
  base64. -/
  tokens : ℕ → Option String
  tokens_size : ∀ index token, tokens index = some token → token.utf8ByteSize = 43
  /-- Whether the durable store accepts the next write. -/
  storeAccepts : ℕ → Bool

namespace World

variable (world : World)

/-- The world after one more clock reading. -/
def afterClock : World :=
  { world with
    clock := fun index => world.clock (index + 1)
    clock_bounded := fun index => world.clock_bounded (index + 1) }

def afterToken : World :=
  { world with
    tokens := fun index => world.tokens (index + 1)
    tokens_size := fun index => world.tokens_size (index + 1) }

def afterStore : World :=
  { world with storeAccepts := fun index => world.storeAccepts (index + 1) }

/-- The next clock reading where a failure counts as zero. -/
def now : ℕ := (world.clock 0).getD 0

theorem now_le : world.now ≤ u64Max := by
  unfold now
  cases hreading : world.clock 0 with
  | none => simp
  | some seconds => simpa using world.clock_bounded 0 seconds hreading

/-- Successive clock readings never go back. -/
def ClockNondecreasing : Prop :=
  ∀ earlier later, earlier ≤ later →
    (world.clock earlier).getD 0 ≤ (world.clock later).getD 0

end World

end Clusterflux
