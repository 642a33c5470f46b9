import Clusterflux.Foundation.Framing
import Clusterflux.Foundation.Program

/-!
# Reading what was written

A reader consumes bytes from the front of its input; what it has not read is its
state.  It is canonical for a way of writing values if it reads exactly what is
written: it accepts an input if and only if a written value stands at its front, and
leaves what follows.  Canonical readers compose to canonical readers.
-/

namespace ByteReaders

open LengthFraming StatefulProgram

/-! ## Big-endian numbers -/

/-- The last bytes of a number, the most significant first. -/
def beBytes : ℕ → ℕ → Bytes
  | 0, _ => []
  | width + 1, number => beBytes width (number / 256) ++ [UInt8.ofNat number]

def ofBeBytes (bytes : Bytes) : ℕ :=
  bytes.foldl (fun number byte => number * 256 + byte.toNat) 0

@[simp]
theorem length_beBytes (width number : ℕ) : (beBytes width number).length = width := by
  induction width generalizing number with
  | zero => rfl
  | succ width ih => rw [beBytes, List.length_append, ih, List.length_singleton]

@[simp]
theorem ofBeBytes_concat (bytes : Bytes) (byte : UInt8) :
    ofBeBytes (bytes ++ [byte]) = ofBeBytes bytes * 256 + byte.toNat := by
  rw [ofBeBytes, List.foldl_append]
  rfl

theorem ofBeBytes_beBytes_mod (width number : ℕ) :
    ofBeBytes (beBytes width number) = number % 256 ^ width := by
  induction width generalizing number with
  | zero => exact (Nat.mod_one number).symm
  | succ width ih =>
    rw [beBytes, ofBeBytes_concat, ih, UInt8.toNat_ofNat', pow_succ' 256, Nat.mod_mul]
    omega

theorem ofBeBytes_beBytes {width number : ℕ} (hnumber : number < 256 ^ width) :
    ofBeBytes (beBytes width number) = number := by
  rw [ofBeBytes_beBytes_mod, Nat.mod_eq_of_lt hnumber]

theorem ofBeBytes_lt (bytes : Bytes) : ofBeBytes bytes < 256 ^ bytes.length := by
  induction bytes using List.reverseRecOn with
  | nil => exact Nat.one_pos
  | append_singleton bytes byte ih =>
    have hbyte := byte.toNat_lt
    rw [ofBeBytes_concat, List.length_append, List.length_singleton, pow_succ]
    omega

theorem beBytes_ofBeBytes (bytes : Bytes) : beBytes bytes.length (ofBeBytes bytes) = bytes := by
  induction bytes using List.reverseRecOn with
  | nil => rfl
  | append_singleton bytes byte ih =>
    have hbyte : byte.toNat < 256 := byte.toNat_lt
    have hhigh : (ofBeBytes bytes * 256 + byte.toNat) / 256 = ofBeBytes bytes := by omega
    have hlow : UInt8.ofNat (ofBeBytes bytes * 256 + byte.toNat) = byte := by
      apply UInt8.toNat_inj.mp
      rw [UInt8.toNat_ofNat']
      omega
    rw [ofBeBytes_concat, List.length_append, List.length_singleton, beBytes, hhigh, hlow, ih]

/-! ## Texts -/

/-- The text with these bytes, if there is one. -/
def ofUtf8 (bytes : Bytes) : Option String := String.fromUTF8? ⟨bytes.toArray⟩

theorem ofUtf8_eq_some_iff {bytes : Bytes} {text : String} :
    ofUtf8 bytes = some text ↔ utf8 text = bytes := by
  unfold ofUtf8 String.fromUTF8? utf8
  constructor
  · intro htext
    split at htext
    · cases htext
      rfl
    · cases htext
  · rintro rfl
    have hbytes : (⟨text.toByteArray.data.toList.toArray⟩ : ByteArray) = text.toByteArray := by
      rw [Array.toArray_toList]
    rw [hbytes, dif_pos text.isValidUTF8]
    rfl

/-! ## Readers -/

variable {ε α β : Type}

/-- The reader accepts exactly what is written. -/
def Canonical (writes : α → Bytes → Prop) (read : EStateM ε Bytes α) : Prop :=
  ∀ input value rest, read input = .ok value rest ↔
    ∃ bytes, writes value bytes ∧ input = bytes ++ rest

variable {writes : α → Bytes → Prop} {first : EStateM ε Bytes α}

/-- What is read after a canonical reader is read from what follows. -/
theorem Canonical.bind_iff (hfirst : Canonical writes first) (next : α → EStateM ε Bytes β)
    (input : Bytes) (result : β) (rest : Bytes) :
    (first >>= next) input = .ok result rest ↔
      ∃ value bytes following, writes value bytes ∧ input = bytes ++ following ∧
        next value following = .ok result rest := by
  rw [bind_eq_ok_iff]
  constructor
  · rintro ⟨value, following, hread, hnext⟩
    obtain ⟨bytes, hbytes, hinput⟩ := (hfirst _ _ _).mp hread
    exact ⟨value, bytes, following, hbytes, hinput, hnext⟩
  · rintro ⟨value, bytes, following, hbytes, hinput, hnext⟩
    exact ⟨value, following, (hfirst _ _ _).mpr ⟨bytes, hbytes, hinput⟩, hnext⟩

/-- So many bytes of the input.  If there are fewer, something of them may be left. -/
def take (length : ℕ) (failure : ε) (left : Bytes → Bytes) : EStateM ε Bytes Bytes := fun input =>
  if length ≤ input.length then .ok (input.take length) (input.drop length)
  else .error failure (left input)

theorem canonical_take (length : ℕ) (failure : ε) (left : Bytes → Bytes) :
    Canonical (fun value bytes => value = bytes ∧ bytes.length = length)
      (take length failure left) := by
  intro input value rest
  unfold take
  split
  case isTrue hlength =>
    constructor
    · intro hread
      cases hread
      exact ⟨_, ⟨rfl, List.length_take_of_le hlength⟩, (List.take_append_drop length input).symm⟩
    · rintro ⟨bytes, ⟨rfl, hbytes⟩, rfl⟩
      rw [List.take_left' hbytes, List.drop_left' hbytes]
  case isFalse hlength =>
    constructor
    · intro hread
      cases hread
    · rintro ⟨bytes, ⟨rfl, hbytes⟩, rfl⟩
      simp only [List.length_append] at hlength
      omega

/-- Values that are computed from what is read. -/
theorem Canonical.map {writes' : β → Bytes → Prop} {change : α → EStateM ε Bytes β}
    (hfirst : Canonical writes first)
    (hchange : ∀ value bytes, writes value bytes → ∀ result rest final,
      change value rest = .ok result final ↔ writes' result bytes ∧ final = rest)
    (hall : ∀ result bytes, writes' result bytes → ∃ value, writes value bytes) :
    Canonical writes' (first >>= change) := by
  intro input result rest
  rw [hfirst.bind_iff]
  constructor
  · rintro ⟨value, bytes, following, hbytes, rfl, hread⟩
    obtain ⟨hwritten, rfl⟩ := (hchange value bytes hbytes _ _ _).mp hread
    exact ⟨bytes, hwritten, rfl⟩
  · rintro ⟨bytes, hwritten, rfl⟩
    obtain ⟨value, hbytes⟩ := hall result bytes hwritten
    exact ⟨value, bytes, rest, hbytes, rfl, (hchange value bytes hbytes _ _ _).mpr ⟨hwritten, rfl⟩⟩

/-! ## Failures -/

/-- Every failure of the reader is one of these. -/
def FailsOnly (failures : ε → Prop) (read : EStateM ε Bytes α) : Prop :=
  ∀ input failure rest, read input = .error failure rest → failures failure

section Failures

variable {failures : ε → Prop} {next : α → EStateM ε Bytes β}

theorem FailsOnly.pure (value : α) : FailsOnly failures (pure value : EStateM ε Bytes α) := by
  intro input failure rest hfailed
  cases hfailed

theorem FailsOnly.throw {failure : ε} (hfailure : failures failure) :
    FailsOnly failures (throw failure : EStateM ε Bytes α) := by
  intro input raised rest hfailed
  cases hfailed
  exact hfailure

theorem FailsOnly.take {length : ℕ} {failure : ε} {left : Bytes → Bytes}
    (hfailure : failures failure) : FailsOnly failures (take length failure left) := by
  intro input raised rest hfailed
  unfold ByteReaders.take at hfailed
  split at hfailed
  · cases hfailed
  · cases hfailed
    exact hfailure

theorem FailsOnly.orFail {value : Option α} {failure : ε} (hfailure : failures failure) :
    FailsOnly failures (orFail value failure : EStateM ε Bytes α) := by
  intro input raised rest hfailed
  rw [← (orFail_eq_error_iff.mp hfailed).2.1]
  exact hfailure

theorem FailsOnly.ensure {condition : Prop} [Decidable condition] {failure : ε}
    (hfailure : failures failure) :
    FailsOnly failures (ensure condition failure : EStateM ε Bytes PUnit) := by
  intro input raised rest hfailed
  rw [← (ensure_eq_error_iff.mp hfailed).2.1]
  exact hfailure

theorem FailsOnly.liftExcept {δ : Type} {outcome : Except δ α} {failure : δ → ε}
    (hfailure : ∀ error, failures (failure error)) :
    FailsOnly failures (liftExcept outcome failure : EStateM ε Bytes α) := by
  intro input raised rest hfailed
  obtain ⟨error, -, rfl, -⟩ := liftExcept_eq_error_iff.mp hfailed
  exact hfailure error

theorem FailsOnly.bind (hfirst : FailsOnly failures first)
    (hnext : ∀ value, FailsOnly failures (next value)) : FailsOnly failures (first >>= next) := by
  intro input failure rest hfailed
  rcases bind_eq_error_iff.mp hfailed with hfailed | ⟨value, middle, -, hfailed⟩
  · exact hfirst _ _ _ hfailed
  · exact hnext value _ _ _ hfailed

/-- What was read may tell why the rest does not fail. -/
theorem Canonical.failsOnly_bind (hcanonical : Canonical writes first)
    (hfirst : FailsOnly failures first)
    (hnext : ∀ value bytes, writes value bytes → FailsOnly failures (next value)) :
    FailsOnly failures (first >>= next) := by
  intro input failure rest hfailed
  rcases bind_eq_error_iff.mp hfailed with hfailed | ⟨value, middle, hread, hfailed⟩
  · exact hfirst _ _ _ hfailed
  · obtain ⟨bytes, hbytes, -⟩ := (hcanonical _ _ _).mp hread
    exact hnext value bytes hbytes _ _ _ hfailed

end Failures

end ByteReaders
