import Mathlib

/-!
# Length-prefixed framing

A list of byte strings is sent as one byte string: every part is preceded by
its length in decimal and a colon, and followed by a line feed.  The length
makes the part self-delimiting, so no part can be moved across a boundary and
the whole list can be recovered, whatever bytes the parts contain.
-/

namespace LengthFraming

abbrev Bytes := List UInt8

/-- The UTF-8 encoding of a string. -/
def utf8 (text : String) : Bytes :=
  text.toByteArray.data.toList

theorem utf8_injective : Function.Injective utf8 := by
  intro left right heq
  apply String.toByteArray_inj.mp
  apply ByteArray.ext
  exact Array.toList_inj.mp heq

/-- Decimal digits of a length, most significant first. -/
def decimal (length : ℕ) : Bytes :=
  (Nat.toDigits 10 length).map fun digit => digit.toNat.toUInt8

def colon : UInt8 := 58
def lineFeed : UInt8 := 10

/-- One part with its length. -/
def frame (part : Bytes) : Bytes :=
  decimal part.length ++ colon :: (part ++ [lineFeed])

/-- All parts, one after the other. -/
def frames (parts : List Bytes) : Bytes :=
  (parts.map frame).flatten

@[simp]
theorem frames_nil : frames [] = [] := rfl

@[simp]
theorem frames_cons (part : Bytes) (parts : List Bytes) :
    frames (part :: parts) = frame part ++ frames parts := rfl

/-! ## Decimal lengths -/

/-- A decimal digit is one byte between `'0'` and `'9'`. -/
private theorem digit_range {length : ℕ} {digit : Char}
    (hdigit : digit ∈ Nat.toDigits 10 length) :
    48 ≤ digit.toNat ∧ digit.toNat ≤ 57 := by
  have hisDigit := Nat.isDigit_of_mem_toDigits (by decide) (by decide) hdigit
  simp only [Char.isDigit, Bool.and_eq_true, decide_eq_true_eq, ge_iff_le,
    UInt32.le_iff_toNat_le] at hisDigit
  exact hisDigit

private theorem digit_byte {length : ℕ} {digit : Char}
    (hdigit : digit ∈ Nat.toDigits 10 length) :
    digit.toNat.toUInt8.toNat = digit.toNat := by
  have hrange := digit_range hdigit
  simp only [Nat.toUInt8, UInt8.toNat_ofNat']
  omega

theorem colon_not_mem_decimal (length : ℕ) : colon ∉ decimal length := by
  intro hmem
  obtain ⟨digit, hdigit, hcolon⟩ := List.mem_map.mp hmem
  have hrange := digit_range hdigit
  have hvalue := congrArg UInt8.toNat hcolon
  rw [digit_byte hdigit] at hvalue
  have hcolonValue : colon.toNat = 58 := rfl
  omega

/-- The digits can be read back from their bytes. -/
private theorem map_ofNat_decimal (length : ℕ) :
    (decimal length).map (fun byte => Char.ofNat byte.toNat) = Nat.toDigits 10 length := by
  rw [decimal, List.map_map]
  conv_rhs => rw [← List.map_id (Nat.toDigits 10 length)]
  apply List.map_congr_left
  intro digit hdigit
  simp only [Function.comp_apply, digit_byte hdigit, Char.ofNat_toNat, id_eq]

theorem decimal_injective : Function.Injective decimal := by
  intro left right heq
  have hdigits : Nat.toDigits 10 left = Nat.toDigits 10 right := by
    rw [← map_ofNat_decimal, ← map_ofNat_decimal, heq]
  rw [← Nat.ofDigitChars_ten_toDigits (n := left), hdigits,
    Nat.ofDigitChars_ten_toDigits]

/-! ## Recovering the parts -/

/-- The text before the first separator is determined by the whole. -/
theorem cancel_before_separator {α : Type} {separator : α} {left right : List α}
    {leftRest rightRest : List α} (hleft : separator ∉ left) (hright : separator ∉ right)
    (heq : left ++ separator :: leftRest = right ++ separator :: rightRest) :
    left = right ∧ leftRest = rightRest := by
  induction left generalizing right with
  | nil =>
    cases right with
    | nil => simpa using heq
    | cons byte right =>
      simp only [List.nil_append, List.cons_append, List.cons.injEq] at heq
      exact absurd (heq.1 ▸ List.mem_cons_self) hright
  | cons byte left ih =>
    cases right with
    | nil =>
      simp only [List.nil_append, List.cons_append, List.cons.injEq] at heq
      exact absurd (heq.1 ▸ List.mem_cons_self) hleft
    | cons byte' right =>
      simp only [List.cons_append, List.cons.injEq] at heq
      simp only [List.mem_cons, not_or] at hleft hright
      obtain ⟨hrest, hsuffix⟩ := ih hleft.2 hright.2 heq.2
      exact ⟨by rw [heq.1, hrest], hsuffix⟩

/-- A framed part followed by anything determines the part and what follows. -/
theorem frame_append_inj {left right : Bytes} {leftRest rightRest : Bytes}
    (heq : frame left ++ leftRest = frame right ++ rightRest) :
    left = right ∧ leftRest = rightRest := by
  simp only [frame, List.append_assoc, List.cons_append, List.nil_append] at heq
  obtain ⟨hlength, hbody⟩ :=
    cancel_before_separator (colon_not_mem_decimal _) (colon_not_mem_decimal _) heq
  obtain ⟨hpart, hrest⟩ := List.append_inj hbody (decimal_injective hlength)
  exact ⟨hpart, (List.cons.inj hrest).2⟩

theorem frame_ne_nil (part : Bytes) : frame part ≠ [] := by
  simp [frame]

section Codes

variable {α β : Type} {fits : α → Prop} {code : α → List β}
  (hcode : ∀ {first second leftRest rightRest}, fits first → fits second →
    code first ++ leftRest = code second ++ rightRest → first = second ∧ leftRest = rightRest)
  {left right : List α}

include hcode

/-- Items can be recovered from their concatenated codes if each code can be told from
what follows it. -/
theorem flatMap_inj (hnil : ∀ item, code item ≠ []) (hleft : ∀ item ∈ left, fits item)
    (hright : ∀ item ∈ right, fits item) (heq : left.flatMap code = right.flatMap code) :
    left = right := by
  induction left generalizing right with
  | nil =>
    cases right with
    | nil => rfl
    | cons item right => simp [hnil] at heq
  | cons first left ih =>
    cases right with
    | nil => simp [hnil] at heq
    | cons second right =>
      rw [List.forall_mem_cons] at hleft hright
      rw [List.flatMap_cons, List.flatMap_cons] at heq
      obtain ⟨hitem, hrest⟩ := hcode hleft.1 hright.1 heq
      rw [hitem, ih hleft.2 hright.2 hrest]

/-- So many items can be recovered from their codes and what follows these. -/
theorem flatMap_append_inj {leftRest rightRest : List β} (hcount : left.length = right.length)
    (hleft : ∀ item ∈ left, fits item) (hright : ∀ item ∈ right, fits item)
    (heq : left.flatMap code ++ leftRest = right.flatMap code ++ rightRest) :
    left = right ∧ leftRest = rightRest := by
  induction left generalizing right with
  | nil =>
    obtain rfl := List.length_eq_zero_iff.mp hcount.symm
    exact ⟨rfl, heq⟩
  | cons first left ih =>
    cases right with
    | nil => cases hcount
    | cons second right =>
      rw [List.forall_mem_cons] at hleft hright
      rw [List.flatMap_cons, List.flatMap_cons, List.append_assoc, List.append_assoc] at heq
      obtain ⟨rfl, hothers⟩ := hcode hleft.1 hright.1 heq
      exact (ih (Nat.succ.inj hcount) hleft.2 hright.2 hothers).imp_left (congrArg (first :: ·))

end Codes

/-- The parts can be recovered from the framed byte string. -/
theorem frames_injective : Function.Injective frames := fun _ _ heq =>
  flatMap_inj (fun _ _ => frame_append_inj) frame_ne_nil (fun _ _ => trivial)
    (fun _ _ => trivial) heq

/-! ## Length-prefixed texts

The same idea on texts, without the line feed: the length of a part in bytes, a
colon and the part. -/

/-- A text after its length in bytes. -/
def prefixedText (part : String) : String :=
  toString part.utf8ByteSize ++ ":" ++ part

theorem utf8_append (left right : String) : utf8 (left ++ right) = utf8 left ++ utf8 right := by
  simp [utf8, String.toByteArray_append]

theorem length_utf8 (text : String) : (utf8 text).length = text.utf8ByteSize := rfl

/-- Two continued texts of the same size in bytes are equal part by part. -/
theorem append_inj_of_size {left right leftRest rightRest : String}
    (hsize : left.utf8ByteSize = right.utf8ByteSize)
    (heq : left ++ leftRest = right ++ rightRest) : left = right ∧ leftRest = rightRest := by
  have hbytes := congrArg utf8 heq
  rw [utf8_append, utf8_append] at hbytes
  obtain ⟨hleft, hrest⟩ := List.append_inj hbytes (by simpa only [length_utf8] using hsize)
  exact ⟨utf8_injective hleft, utf8_injective hrest⟩

theorem colon_not_mem_toString (size : ℕ) : ':' ∉ (toString size).toList := by
  intro hmem
  have hdigit : ':' ∈ Nat.toDigits 10 size := by simpa [toString, Nat.repr] using hmem
  have hrange := digit_range hdigit
  revert hrange
  decide

/-- A length-prefixed text followed by anything determines the text and what
follows. -/
theorem prefixedText_append_inj {left right leftRest rightRest : String}
    (heq : prefixedText left ++ leftRest = prefixedText right ++ rightRest) :
    left = right ∧ leftRest = rightRest := by
  simp only [prefixedText, String.append_assoc] at heq
  have hchars := congrArg String.toList heq
  simp only [String.toList_append] at hchars
  obtain ⟨hsize, hbody⟩ := cancel_before_separator (colon_not_mem_toString left.utf8ByteSize)
    (colon_not_mem_toString right.utf8ByteSize) hchars
  apply append_inj_of_size
  · have hrepr : toString left.utf8ByteSize = toString right.utf8ByteSize :=
      String.toList_injective hsize
    exact Nat.repr_injective hrepr
  · apply String.toList_injective
    rw [String.toList_append, String.toList_append]
    exact hbody

end LengthFraming
