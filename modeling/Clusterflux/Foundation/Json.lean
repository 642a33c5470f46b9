import Mathlib

/-!
# JSON values

JSON values as a decoder produces them, and the removal of null-valued object
entries.

An object is the list of its entries.  Numbers are integers, or fractional
numbers represented by their shortest decimal text, which determines them.
-/

namespace JsonText

/-! ## Values -/

def isNumberCharacter (char : Char) : Bool :=
  char.isDigit || char == '-' || char == '+' || char == '.' || char == 'e'

/-- The decimal text of a number that is not written as an integer. -/
structure FloatText where
  text : List Char
  characters : text.all isNumberCharacter = true
  fractional : text.any (fun char => char == '.' || char == 'e') = true

inductive Number where
  | integer (value : ℤ)
  | float (value : FloatText)

inductive Json where
  | null
  | bool (value : Bool)
  | number (value : Number)
  | string (value : String)
  | array (items : List Json)
  | object (fields : List (String × Json))

namespace Json

def isNull : Json → Bool
  | .null => true
  | _ => false

@[simp]
theorem isNull_eq_true_iff (value : Json) : value.isNull = true ↔ value = .null := by
  cases value <;> simp [isNull]

@[simp]
theorem isNull_eq_false_iff (value : Json) : value.isNull = false ↔ value ≠ .null := by
  cases value <;> simp [isNull]

/-! ## Removal of null entries -/

mutual

/-- The value without the object entries whose value is null, at any depth.
Null elements of arrays stay. -/
def stripNulls : Json → Json
  | .null => .null
  | .bool value => .bool value
  | .number value => .number value
  | .string value => .string value
  | .array items => .array (stripItems items)
  | .object fields => .object (stripFields fields)

def stripItems : List Json → List Json
  | [] => []
  | item :: items => stripNulls item :: stripItems items

def stripFields : List (String × Json) → List (String × Json)
  | [] => []
  | (key, value) :: fields =>
    if value.isNull then stripFields fields
    else (key, stripNulls value) :: stripFields fields

end

theorem stripItems_eq_map (items : List Json) : stripItems items = items.map stripNulls := by
  induction items with
  | nil => rfl
  | cons item items ih => rw [stripItems, ih, List.map_cons]

@[simp]
theorem isNull_stripNulls (value : Json) : (stripNulls value).isNull = value.isNull := by
  cases value <;> rfl

mutual

theorem stripNulls_stripNulls : ∀ value : Json,
    stripNulls (stripNulls value) = stripNulls value
  | .null => rfl
  | .bool _ => rfl
  | .number _ => rfl
  | .string _ => rfl
  | .array items => by
      rw [stripNulls, stripNulls, stripItems_stripItems items]
  | .object fields => by
      rw [stripNulls, stripNulls, stripFields_stripFields fields]

theorem stripItems_stripItems : ∀ items : List Json,
    stripItems (stripItems items) = stripItems items
  | [] => rfl
  | item :: items => by
      rw [stripItems, stripItems, stripNulls_stripNulls item, stripItems_stripItems items]

theorem stripFields_stripFields : ∀ fields : List (String × Json),
    stripFields (stripFields fields) = stripFields fields
  | [] => rfl
  | (key, value) :: fields => by
      by_cases hnull : value.isNull = true
      · rw [stripFields, if_pos hnull]
        exact stripFields_stripFields fields
      · rw [stripFields, if_neg hnull, stripFields, isNull_stripNulls, if_neg hnull,
          stripNulls_stripNulls value, stripFields_stripFields fields]

end

/-! ## Looking entries up -/

variable {fields fields' : List (String × Json)}

/-- In a list of entries without repeated keys a lookup finds the entry. -/
theorem lookup_eq_some_iff (hkeys : (fields.map Prod.fst).Nodup) (key : String) (value : Json) :
    fields.lookup key = some value ↔ (key, value) ∈ fields := by
  induction fields with
  | nil => simp
  | cons entry fields ih =>
    obtain ⟨name, found⟩ := entry
    simp only [List.map_cons, List.nodup_cons] at hkeys
    by_cases hname : key = name
    · subst hname
      have habsent : (key, value) ∉ fields := fun hmem =>
        hkeys.1 (List.mem_map_of_mem (f := Prod.fst) hmem)
      simp [List.lookup, habsent, eq_comm]
    · have hdiffers : (key == name) = false := by simpa using hname
      simp [List.lookup, hdiffers, ih hkeys.2, hname]

/-- A lookup does not depend on the order of the entries. -/
theorem lookup_eq_of_perm (hperm : fields.Perm fields') (hkeys : (fields.map Prod.fst).Nodup)
    (key : String) :
    fields.lookup key = fields'.lookup key := by
  have hkeys' : (fields'.map Prod.fst).Nodup := (hperm.map Prod.fst).nodup_iff.mp hkeys
  apply Option.ext
  intro value
  rw [lookup_eq_some_iff hkeys, lookup_eq_some_iff hkeys', hperm.mem_iff]

theorem stripFields_eq_filterMap (fields : List (String × Json)) :
    stripFields fields =
      (fields.filter fun entry => !entry.2.isNull).map fun entry =>
        (entry.1, stripNulls entry.2) := by
  induction fields with
  | nil => rfl
  | cons entry fields ih =>
    obtain ⟨key, value⟩ := entry
    by_cases hnull : value.isNull = true
    · rw [stripFields, if_pos hnull, ih, List.filter_cons_of_neg (by simpa using hnull)]
    · rw [stripFields, if_neg hnull, ih, List.filter_cons_of_pos (by simpa using hnull),
        List.map_cons]

theorem nodup_keys_stripFields (hkeys : (fields.map Prod.fst).Nodup) :
    ((stripFields fields).map Prod.fst).Nodup := by
  rw [stripFields_eq_filterMap, List.map_map]
  exact hkeys.sublist (List.filter_sublist.map Prod.fst)

/-- A lookup after the removal of null entries. -/
theorem lookup_stripFields (hkeys : (fields.map Prod.fst).Nodup) (key : String) :
    (stripFields fields).lookup key =
      ((fields.lookup key).filter fun value => !value.isNull).map stripNulls := by
  apply Option.ext
  intro value
  rw [lookup_eq_some_iff (nodup_keys_stripFields hkeys), stripFields_eq_filterMap]
  simp only [List.mem_map, List.mem_filter, Prod.mk.injEq, Option.map_eq_some_iff,
    Option.filter_eq_some_iff, lookup_eq_some_iff hkeys]
  constructor
  · rintro ⟨⟨name, found⟩, ⟨hmem, hnull⟩, rfl, hvalue⟩
    exact ⟨found, ⟨hmem, hnull⟩, hvalue⟩
  · rintro ⟨found, ⟨hmem, hnull⟩, hvalue⟩
    exact ⟨(key, found), ⟨hmem, hnull⟩, rfl, hvalue⟩

/-! ## Objects -/

/-- The object with the given entries, which are stored in the order of their
keys. -/
def ofFields (fields : List (String × Json)) : Json :=
  .object (fields.insertionSort fun left right => left.1 ≤ right.1)

private theorem pairwise_sorted (fields : List (String × Json)) :
    (fields.insertionSort fun left right => left.1 ≤ right.1).Pairwise
      fun left right => left.1 ≤ right.1 := by
  have : Std.Total fun left right : String × Json => left.1 ≤ right.1 :=
    ⟨fun left right => le_total left.1 right.1⟩
  have : IsTrans (String × Json) fun left right => left.1 ≤ right.1 :=
    ⟨fun _ _ _ => le_trans⟩
  exact List.pairwise_insertionSort _ fields

private theorem stripFields_perm (hperm : fields.Perm fields') :
    (stripFields fields).Perm (stripFields fields') := by
  rw [stripFields_eq_filterMap, stripFields_eq_filterMap]
  exact (hperm.filter _).map _

private theorem pairwise_stripFields
    (hsorted : fields.Pairwise fun left right => left.1 ≤ right.1) :
    (stripFields fields).Pairwise fun left right => left.1 ≤ right.1 := by
  rw [stripFields_eq_filterMap, List.pairwise_map]
  exact hsorted.filter _

/-- Lists with the same entries, none under the same key, are equal once sorted. -/
private theorem eq_of_sorted_perm (hkeys : (fields.map Prod.fst).Nodup)
    (hperm : fields.Perm fields')
    (hsorted : fields.Pairwise fun left right => left.1 ≤ right.1)
    (hsorted' : fields'.Pairwise fun left right => left.1 ≤ right.1) : fields = fields' := by
  refine hperm.eq_of_pairwise ?_ hsorted hsorted'
  rintro ⟨key, value⟩ ⟨key', value'⟩ hmem hmem' hle hge
  obtain rfl : key = key' := le_antisymm hle hge
  have hfound := (lookup_eq_some_iff hkeys key value).mpr hmem
  have hfound' := (lookup_eq_some_iff hkeys key value').mpr (hperm.mem_iff.mpr hmem')
  rw [hfound] at hfound'
  rw [Option.some.inj hfound']

private theorem nodup_keys_sorted (hkeys : (fields.map Prod.fst).Nodup) :
    ((fields.insertionSort fun left right => left.1 ≤ right.1).map Prod.fst).Nodup :=
  ((List.perm_insertionSort _ fields).map Prod.fst).nodup_iff.mpr hkeys

/-- Structures whose entries agree once null entries are removed become the same
object once null entries are removed. -/
theorem stripNulls_ofFields_congr (hkeys : (fields.map Prod.fst).Nodup)
    (heq : stripFields fields = stripFields fields') :
    stripNulls (ofFields fields) = stripNulls (ofFields fields') := by
  have hperm := List.perm_insertionSort (fun left right : String × Json => left.1 ≤ right.1)
    fields
  have hperm' := List.perm_insertionSort (fun left right : String × Json => left.1 ≤ right.1)
    fields'
  have hstripped := (stripFields_perm hperm).trans
    (heq ▸ (stripFields_perm hperm').symm)
  simp only [ofFields, stripNulls, object.injEq]
  exact eq_of_sorted_perm (nodup_keys_stripFields (nodup_keys_sorted hkeys)) hstripped
    (pairwise_stripFields (pairwise_sorted _)) (pairwise_stripFields (pairwise_sorted _))

/-- Leaving out keys of an object is leaving out the entries of the structure. -/
theorem filter_sorted (hkeys : (fields.map Prod.fst).Nodup) (keep : String → Bool) :
    (fields.insertionSort fun left right => left.1 ≤ right.1).filter (fun entry => keep entry.1) =
      (fields.filter fun entry => keep entry.1).insertionSort
        fun left right => left.1 ≤ right.1 := by
  have hperm := List.perm_insertionSort (fun left right : String × Json => left.1 ≤ right.1)
    fields
  refine eq_of_sorted_perm ?_ ((hperm.filter _).trans (List.perm_insertionSort _ _).symm)
    ((pairwise_sorted fields).filter _) (pairwise_sorted _)
  exact (nodup_keys_sorted hkeys).sublist (List.filter_sublist.map Prod.fst)

/-- Two objects that agree up to null entries agree on every key, up to null
entries. -/
theorem lookup_of_stripNulls_ofFields_eq (hkeys : (fields.map Prod.fst).Nodup)
    (hkeys' : (fields'.map Prod.fst).Nodup)
    (heq : stripNulls (ofFields fields) = stripNulls (ofFields fields')) (key : String) :
    ((fields.lookup key).filter fun value => !value.isNull).map stripNulls =
      ((fields'.lookup key).filter fun value => !value.isNull).map stripNulls := by
  have hsorted : ∀ entries : List (String × Json), (entries.map Prod.fst).Nodup →
      (stripFields (entries.insertionSort fun left right => left.1 ≤ right.1)).lookup key =
        ((entries.lookup key).filter fun value => !value.isNull).map stripNulls := by
    intro entries hentries
    have hperm := List.perm_insertionSort (fun left right : String × Json => left.1 ≤ right.1)
      entries
    rw [lookup_stripFields ((hperm.map Prod.fst).nodup_iff.mpr hentries),
      lookup_eq_of_perm hperm.symm hentries]
  simp only [ofFields, stripNulls, object.injEq] at heq
  rw [← hsorted fields hkeys, ← hsorted fields' hkeys', heq]

end Json

end JsonText
