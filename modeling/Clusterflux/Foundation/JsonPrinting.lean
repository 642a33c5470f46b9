import Clusterflux.Foundation.Json

/-!
# The compact text of a JSON value

Printing without white space, with the shortest escapes, and the proof that the
printed text determines the value.  The text of a value is self-delimiting once
it is followed by the end of the text or by the character that ends an array
element or an object entry.
-/

namespace JsonText

/-! ## Text of numbers -/

def integerText : ℤ → List Char
  | .ofNat value => Nat.toDigits 10 value
  | .negSucc value => '-' :: Nat.toDigits 10 (value + 1)

def Number.text : Number → List Char
  | .integer value => integerText value
  | .float value => value.text

/-! ## Text of strings -/

/-- The text of one character inside a string literal. -/
def escapeCharacter (char : Char) : List Char :=
  if char = '"' then ['\\', '"']
  else if char = '\\' then ['\\', '\\']
  else if char.toNat = 8 then ['\\', 'b']
  else if char.toNat = 12 then ['\\', 'f']
  else if char = '\n' then ['\\', 'n']
  else if char = '\r' then ['\\', 'r']
  else if char = '\t' then ['\\', 't']
  else if char.toNat < 32 then
    ['\\', 'u', '0', '0', Nat.digitChar (char.toNat / 16), Nat.digitChar (char.toNat % 16)]
  else [char]

def escapeCharacters (text : List Char) : List Char :=
  text.flatMap escapeCharacter

def stringText (value : String) : List Char :=
  '"' :: (escapeCharacters value.toList ++ ['"'])

/-! ## Text of values -/

namespace Json

mutual

def text : Json → List Char
  | .null => ['n', 'u', 'l', 'l']
  | .bool true => ['t', 'r', 'u', 'e']
  | .bool false => ['f', 'a', 'l', 's', 'e']
  | .number value => value.text
  | .string value => stringText value
  | .array [] => ['[', ']']
  | .array (item :: items) => '[' :: (text item ++ itemsText items)
  | .object [] => ['{', '}']
  | .object ((key, value) :: fields) =>
    '{' :: (stringText key ++ ':' :: (text value ++ fieldsText fields))

/-- The remaining elements of an array and its closing bracket. -/
def itemsText : List Json → List Char
  | [] => [']']
  | item :: items => ',' :: (text item ++ itemsText items)

/-- The remaining entries of an object and its closing brace. -/
def fieldsText : List (String × Json) → List Char
  | [] => ['}']
  | (key, value) :: fields =>
    ',' :: (stringText key ++ ':' :: (text value ++ fieldsText fields))

end

end Json

/-! ## Numbers can be read back -/

private theorem isNumberCharacter_of_mem_toDigits {value : ℕ} {char : Char}
    (hmem : char ∈ Nat.toDigits 10 value) : isNumberCharacter char = true := by
  have hdigit := Nat.isDigit_of_mem_toDigits (by decide) (by decide) hmem
  simp [isNumberCharacter, hdigit]

theorem isNumberCharacter_of_mem_text {value : Number} {char : Char}
    (hmem : char ∈ value.text) : isNumberCharacter char = true := by
  cases value with
  | float value => exact List.all_eq_true.mp value.characters char hmem
  | integer value =>
    cases value with
    | ofNat value => exact isNumberCharacter_of_mem_toDigits hmem
    | negSucc value =>
      simp only [Number.text, integerText, List.mem_cons] at hmem
      rcases hmem with rfl | hmem
      · decide
      · exact isNumberCharacter_of_mem_toDigits hmem

theorem text_ne_nil (value : Number) : value.text ≠ [] := by
  cases value with
  | float value =>
    intro hnil
    have hfractional := value.fractional
    rw [Number.text] at hnil
    simp [hnil] at hfractional
  | integer value =>
    cases value with
    | ofNat value => exact Nat.toDigits_ne_nil
    | negSucc value => simp [Number.text, integerText]

private theorem toDigits_injective {left right : ℕ}
    (heq : Nat.toDigits 10 left = Nat.toDigits 10 right) : left = right := by
  rw [← Nat.ofDigitChars_ten_toDigits (n := left), heq, Nat.ofDigitChars_ten_toDigits]

private theorem minus_not_mem_toDigits (value : ℕ) : '-' ∉ Nat.toDigits 10 value := by
  intro hmem
  exact absurd (Nat.isDigit_of_mem_toDigits (by decide) (by decide) hmem) (by decide)

private theorem integerText_injective : Function.Injective integerText := by
  intro left right heq
  cases left with
  | ofNat left =>
    cases right with
    | ofNat right => rw [toDigits_injective heq]
    | negSucc right =>
      simp only [integerText] at heq
      exact absurd (heq ▸ List.mem_cons_self) (minus_not_mem_toDigits left)
  | negSucc left =>
    cases right with
    | ofNat right =>
      simp only [integerText] at heq
      exact absurd (heq ▸ List.mem_cons_self) (minus_not_mem_toDigits right)
    | negSucc right =>
      have hdigits := toDigits_injective (List.cons.inj heq).2
      rw [Nat.succ.inj hdigits]

/-- An integer is printed without a decimal point or an exponent. -/
private theorem not_fractional_integerText (value : ℤ) :
    (integerText value).any (fun char => char == '.' || char == 'e') = false := by
  have hdigits : ∀ value : ℕ,
      (Nat.toDigits 10 value).any (fun char => char == '.' || char == 'e') = false := by
    intro value
    rw [List.any_eq_false]
    intro char hmem
    have hdigit := Nat.isDigit_of_mem_toDigits (by decide) (by decide) hmem
    simp only [Bool.or_eq_true, beq_iff_eq, not_or]
    exact ⟨by rintro rfl; exact absurd hdigit (by decide),
      by rintro rfl; exact absurd hdigit (by decide)⟩
  cases value with
  | ofNat value => exact hdigits value
  | negSucc value => simpa [integerText] using hdigits (value + 1)

theorem numberText_injective : Function.Injective Number.text := by
  intro left right heq
  cases left with
  | integer left =>
    cases right with
    | integer right => rw [integerText_injective heq]
    | float right =>
      have hfractional := right.fractional
      rw [show right.text = integerText left from heq.symm,
        not_fractional_integerText] at hfractional
      exact absurd hfractional (by decide)
  | float left =>
    cases right with
    | integer right =>
      have hfractional := left.fractional
      rw [show left.text = integerText right from heq,
        not_fractional_integerText] at hfractional
      exact absurd hfractional (by decide)
    | float right =>
      cases left
      cases right
      simpa [Number.text] using heq

/-! ## Strings can be read back -/

/-- The numeric value of a hexadecimal digit. -/
private def hexValue (char : Char) : ℕ :=
  if char.isDigit then char.toNat - 48 else char.toNat - 87

/-- Read one character of a string literal. -/
private def unescapeCharacter : List Char → Option (Char × List Char)
  | '\\' :: '"' :: rest => some ('"', rest)
  | '\\' :: '\\' :: rest => some ('\\', rest)
  | '\\' :: 'b' :: rest => some (Char.ofNat 8, rest)
  | '\\' :: 'f' :: rest => some (Char.ofNat 12, rest)
  | '\\' :: 'n' :: rest => some ('\n', rest)
  | '\\' :: 'r' :: rest => some ('\r', rest)
  | '\\' :: 't' :: rest => some ('\t', rest)
  | '\\' :: 'u' :: '0' :: '0' :: high :: low :: rest =>
    some (Char.ofNat (16 * hexValue high + hexValue low), rest)
  | char :: rest => some (char, rest)
  | [] => none

private theorem unescape_escape (char : Char) (rest : List Char) :
    unescapeCharacter (escapeCharacter char ++ rest) = some (char, rest) := by
  have hchar : Char.ofNat char.toNat = char := Char.ofNat_toNat char
  unfold escapeCharacter
  split_ifs with hquote hbackslash hbackspace hformFeed hnewline hreturn htab hcontrol
  · subst hquote; rfl
  · subst hbackslash; rfl
  · rw [← hchar, hbackspace]; rfl
  · rw [← hchar, hformFeed]; rfl
  · subst hnewline; rfl
  · subst hreturn; rfl
  · subst htab; rfl
  · rw [← hchar]
    generalize char.toNat = code at hcontrol
    interval_cases code <;> rfl
  · -- a character that stands for itself is not the start of an escape
    rw [List.singleton_append]
    unfold unescapeCharacter
    split <;> simp_all

private theorem escapeCharacter_append_inj {left right : Char} {rest rest' : List Char}
    (heq : escapeCharacter left ++ rest = escapeCharacter right ++ rest') :
    left = right ∧ rest = rest' := by
  have hread := congrArg unescapeCharacter heq
  rw [unescape_escape, unescape_escape] at hread
  simpa using hread

private theorem escapeCharacter_head_ne_quote (char : Char) (rest rest' : List Char) :
    escapeCharacter char ++ rest ≠ '"' :: rest' := by
  intro heq
  have hread := congrArg unescapeCharacter heq
  rw [unescape_escape] at hread
  have hchar : char = '"' := by simpa [unescapeCharacter] using congrArg (·.map Prod.fst) hread
  subst hchar
  simp [escapeCharacter] at heq

private theorem escapeCharacters_append_inj {left right rest rest' : List Char}
    (heq : escapeCharacters left ++ '"' :: rest = escapeCharacters right ++ '"' :: rest') :
    left = right ∧ rest = rest' := by
  induction left generalizing right with
  | nil =>
    cases right with
    | nil => simpa [escapeCharacters] using heq
    | cons char right =>
      simp only [escapeCharacters, List.flatMap_cons, List.append_assoc] at heq
      exact absurd heq.symm (escapeCharacter_head_ne_quote _ _ _)
  | cons char left ih =>
    cases right with
    | nil =>
      simp only [escapeCharacters, List.flatMap_cons, List.append_assoc] at heq
      exact absurd heq (escapeCharacter_head_ne_quote _ _ _)
    | cons char' right =>
      simp only [escapeCharacters, List.flatMap_cons, List.append_assoc] at heq
      obtain ⟨hchar, htail⟩ := escapeCharacter_append_inj heq
      obtain ⟨hleft, hrest⟩ := ih htail
      exact ⟨by rw [hchar, hleft], hrest⟩

/-- A string literal followed by anything determines the string and what
follows. -/
theorem stringText_append_inj {left right : String} {rest rest' : List Char}
    (heq : stringText left ++ rest = stringText right ++ rest') :
    left = right ∧ rest = rest' := by
  simp only [stringText, List.cons_append, List.append_assoc, List.nil_append,
    List.cons.injEq, true_and] at heq
  obtain ⟨htext, hrest⟩ := escapeCharacters_append_inj heq
  exact ⟨String.toList_inj.mp htext, hrest⟩

/-! ## Values can be read back -/

namespace Json

/-- What may follow a value: nothing, a separator or a closing bracket. -/
def EndsValue (rest : List Char) : Prop :=
  ∀ char ∈ rest.head?, isNumberCharacter char = false

theorem endsValue_nil : EndsValue [] := by simp [EndsValue]

theorem endsValue_itemsText (items : List Json) (rest : List Char) :
    EndsValue (itemsText items ++ rest) := by
  cases items <;> simp [EndsValue, itemsText, isNumberCharacter]

theorem endsValue_fieldsText (fields : List (String × Json)) (rest : List Char) :
    EndsValue (fieldsText fields ++ rest) := by
  cases fields <;> simp [EndsValue, fieldsText, isNumberCharacter]

private theorem numberText_append_inj {left right : Number} {rest rest' : List Char}
    (hrest : EndsValue rest) (hrest' : EndsValue rest')
    (heq : left.text ++ rest = right.text ++ rest') : left = right ∧ rest = rest' := by
  have hprefix : ∀ (value : Number) (rest : List Char), EndsValue rest →
      (value.text ++ rest).takeWhile isNumberCharacter = value.text := by
    intro value rest hends
    rw [List.takeWhile_append_of_pos fun char hmem => isNumberCharacter_of_mem_text hmem]
    cases rest with
    | nil => simp
    | cons char rest =>
      rw [List.takeWhile_cons_of_neg (by simpa using hends char rfl), List.append_nil]
  have htext : left.text = right.text := by
    rw [← hprefix left rest hrest, heq, hprefix right rest' hrest']
  exact ⟨numberText_injective htext, List.append_cancel_left (htext ▸ heq)⟩

/-- The kind of value that a first character announces. -/
private def announced (char : Char) : ℕ :=
  if char = 'n' then 0
  else if char = 't' ∨ char = 'f' then 1
  else if isNumberCharacter char then 2
  else if char = '"' then 3
  else if char = '[' then 4
  else if char = '{' then 5
  else 6

private def kind : Json → ℕ
  | .null => 0
  | .bool _ => 1
  | .number _ => 2
  | .string _ => 3
  | .array _ => 4
  | .object _ => 5

private theorem announced_of_isNumberCharacter {char : Char}
    (hchar : isNumberCharacter char = true) : announced char = 2 := by
  have hn : char ≠ 'n' := by rintro rfl; exact absurd hchar (by decide)
  have ht : char ≠ 't' := by rintro rfl; exact absurd hchar (by decide)
  have hf : char ≠ 'f' := by rintro rfl; exact absurd hchar (by decide)
  simp [announced, hn, ht, hf, hchar]

/-- The first character of the text announces the kind of the value. -/
private theorem text_announces (value : Json) :
    ∃ char rest, text value = char :: rest ∧ announced char = kind value := by
  cases value with
  | null => exact ⟨_, _, rfl, by decide⟩
  | bool value => cases value <;> exact ⟨_, _, rfl, by decide⟩
  | number value =>
    obtain ⟨char, rest, htext⟩ := List.exists_cons_of_ne_nil (text_ne_nil value)
    refine ⟨char, rest, htext, announced_of_isNumberCharacter ?_⟩
    exact isNumberCharacter_of_mem_text (htext ▸ List.mem_cons_self)
  | string value => exact ⟨_, _, rfl, by simp only [kind]; decide⟩
  | array items => cases items <;> exact ⟨_, _, rfl, by simp only [kind]; decide⟩
  | object fields => cases fields <;> exact ⟨_, _, rfl, by simp only [kind]; decide⟩

private theorem kind_eq_of_text_append_eq {left right : Json} {rest rest' : List Char}
    (heq : text left ++ rest = text right ++ rest') : kind left = kind right := by
  obtain ⟨char, tail, htext, hkind⟩ := text_announces left
  obtain ⟨char', tail', htext', hkind'⟩ := text_announces right
  rw [htext, htext', List.cons_append, List.cons_append] at heq
  rw [← hkind, ← hkind', (List.cons.inj heq).1]

/-- No value starts with a closing bracket. -/
private theorem text_append_ne_bracket (value : Json) (rest rest' : List Char) :
    text value ++ rest ≠ ']' :: rest' := by
  intro heq
  obtain ⟨char, tail, htext, hkind⟩ := text_announces value
  rw [htext, List.cons_append] at heq
  have hbracket : announced ']' = 6 := by decide
  rw [(List.cons.inj heq).1, hbracket] at hkind
  cases value <;> simp [kind] at hkind

mutual

/-- The text of a value, followed by the end or by what separates values,
determines the value and what follows. -/
theorem text_append_inj : ∀ (left right : Json) {rest rest' : List Char},
    EndsValue rest → EndsValue rest' → text left ++ rest = text right ++ rest' →
      left = right ∧ rest = rest'
  | .null, right, rest, rest', _, _, heq => by
      have hkind := kind_eq_of_text_append_eq heq
      cases right <;> simp [kind] at hkind
      simpa [text] using heq
  | .bool left, right, rest, rest', _, _, heq => by
      have hkind := kind_eq_of_text_append_eq heq
      cases right <;> simp [kind] at hkind
      next right => cases left <;> cases right <;> simp_all [text]
  | .number left, right, rest, rest', hrest, hrest', heq => by
      have hkind := kind_eq_of_text_append_eq heq
      cases right <;> simp [kind] at hkind
      obtain ⟨hnumber, htail⟩ := numberText_append_inj hrest hrest' heq
      exact ⟨by rw [hnumber], htail⟩
  | .string left, right, rest, rest', _, _, heq => by
      have hkind := kind_eq_of_text_append_eq heq
      cases right <;> simp [kind] at hkind
      obtain ⟨hstring, htail⟩ := stringText_append_inj heq
      exact ⟨by rw [hstring], htail⟩
  | .array [], right, rest, rest', _, _, heq => by
      have hkind := kind_eq_of_text_append_eq heq
      cases right with
      | array items =>
        cases items with
        | nil => simpa [text] using heq
        | cons item items =>
          simp only [text, List.cons_append, List.nil_append, List.append_assoc,
            List.cons.injEq, true_and] at heq
          exact absurd heq.symm (text_append_ne_bracket _ _ _)
      | _ => simp [kind] at hkind
  | .array (item :: items), right, rest, rest', _, _, heq => by
      have hkind := kind_eq_of_text_append_eq heq
      cases right with
      | array items' =>
        cases items' with
        | nil =>
          simp only [text, List.cons_append, List.nil_append, List.append_assoc,
            List.cons.injEq, true_and] at heq
          exact absurd heq (text_append_ne_bracket _ _ _)
        | cons item' items' =>
          obtain ⟨hitems, hrest⟩ := itemsText_append_inj (item :: items) (item' :: items')
            (by simpa [text, itemsText] using heq)
          exact ⟨by rw [hitems], hrest⟩
      | _ => simp [kind] at hkind
  | .object [], right, rest, rest', _, _, heq => by
      have hkind := kind_eq_of_text_append_eq heq
      cases right with
      | object fields =>
        cases fields with
        | nil => simpa [text] using heq
        | cons entry fields => simp [text, stringText] at heq
      | _ => simp [kind] at hkind
  | .object ((key, value) :: fields), right, rest, rest', _, _, heq => by
      have hkind := kind_eq_of_text_append_eq heq
      cases right with
      | object fields' =>
        cases fields' with
        | nil => simp [text, stringText] at heq
        | cons entry fields' =>
          obtain ⟨hfields, hrest⟩ := fieldsText_append_inj ((key, value) :: fields)
            (entry :: fields') (by simpa [text, fieldsText] using heq)
          exact ⟨by rw [hfields], hrest⟩
      | _ => simp [kind] at hkind

theorem itemsText_append_inj : ∀ (left right : List Json) {rest rest' : List Char},
    itemsText left ++ rest = itemsText right ++ rest' → left = right ∧ rest = rest'
  | [], right, rest, rest', heq => by
      cases right with
      | nil => simpa [itemsText] using heq
      | cons item items => simp [itemsText] at heq
  | item :: items, right, rest, rest', heq => by
      cases right with
      | nil => simp [itemsText] at heq
      | cons item' items' =>
        simp only [itemsText, List.cons_append, List.append_assoc, List.cons.injEq,
          true_and] at heq
        obtain ⟨hitem, htail⟩ := text_append_inj item item'
          (endsValue_itemsText _ _) (endsValue_itemsText _ _) heq
        obtain ⟨hitems, hrest⟩ := itemsText_append_inj items items' htail
        exact ⟨by rw [hitem, hitems], hrest⟩

theorem fieldsText_append_inj : ∀ (left right : List (String × Json))
    {rest rest' : List Char},
    fieldsText left ++ rest = fieldsText right ++ rest' → left = right ∧ rest = rest'
  | [], right, rest, rest', heq => by
      cases right with
      | nil => simpa [fieldsText] using heq
      | cons entry fields => simp [fieldsText] at heq
  | (key, value) :: fields, right, rest, rest', heq => by
      cases right with
      | nil => simp [fieldsText] at heq
      | cons entry fields' =>
        obtain ⟨key', value'⟩ := entry
        simp only [fieldsText, List.cons_append, List.append_assoc, List.cons.injEq,
          true_and] at heq
        obtain ⟨hkey, htail⟩ := stringText_append_inj heq
        obtain ⟨hvalue, htail⟩ := text_append_inj value value'
          (endsValue_fieldsText _ _) (endsValue_fieldsText _ _) (List.cons.inj htail).2
        obtain ⟨hfields, hrest⟩ := fieldsText_append_inj fields fields' htail
        exact ⟨by rw [hkey, hvalue, hfields], hrest⟩

end

/-- The compact text determines the value. -/
theorem text_injective : Function.Injective text := by
  intro left right heq
  exact (text_append_inj left right endsValue_nil endsValue_nil (by simpa using heq)).1

end Json

end JsonText
