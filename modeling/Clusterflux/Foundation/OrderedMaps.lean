import Mathlib

/-!
# Lookups in ordered maps

The library states what a map holds through lookups.  Code that walks over all
values of a map needs the same facts for the list of values, and a proof that
follows one entry through updates needs to know when a lookup finds it.
-/

namespace OrderedMaps

open Std

variable {κ ν : Type} [Ord κ] [TransOrd κ]

theorem values_eq_map_toList (map : ExtTreeMap κ ν compare) :
    map.values = map.toList.map Prod.snd := by
  obtain ⟨⟨quotient⟩⟩ := map
  induction quotient using Quotient.ind with
  | _ tree =>
    obtain ⟨tree, wellFormed⟩ := tree
    change tree.values = (DTreeMap.Internal.Impl.Const.toList tree).map Prod.snd
    rw [DTreeMap.Internal.Impl.values_eq_map_snd,
      DTreeMap.Internal.Impl.Const.toList_eq_toListModel_map, List.map_map]
    rfl

theorem values_empty : (∅ : ExtTreeMap κ ν compare).values = [] := by
  apply List.eq_nil_of_length_eq_zero
  rw [values_eq_map_toList, List.length_map, ExtTreeMap.length_toList,
    ExtTreeMap.size_empty]

/-- The values of a map are what its lookups return. -/
theorem mem_values_iff [LawfulEqOrd κ] (map : ExtTreeMap κ ν compare) (value : ν) :
    value ∈ map.values ↔ ∃ key : κ, map[key]? = some value := by
  rw [values_eq_map_toList, List.mem_map]
  constructor
  · rintro ⟨⟨key, value⟩, hmem, rfl⟩
    exact ⟨key, ExtTreeMap.mem_toList_iff_getElem?_eq_some.mp hmem⟩
  · rintro ⟨key, hlookup⟩
    exact ⟨(key, value), ExtTreeMap.mem_toList_iff_getElem?_eq_some.mpr hlookup, rfl⟩

section Lookup

variable [LawfulEqOrd κ] {map : ExtTreeMap κ ν compare} {key other : κ} {value found : ν}

theorem getElem?_insert_of_ne (hkey : key ≠ other) :
    (map.insert key value)[other]? = map[other]? := by
  rw [ExtTreeMap.getElem?_insert, if_neg (mt LawfulEqCmp.compare_eq_iff_eq.mp hkey)]

theorem getElem?_erase_of_ne (hkey : key ≠ other) : (map.erase key)[other]? = map[other]? := by
  rw [ExtTreeMap.getElem?_erase, if_neg (mt LawfulEqCmp.compare_eq_iff_eq.mp hkey)]

theorem getElem?_insert_eq_some_iff :
    (map.insert key value)[other]? = some found ↔
      (key = other ∧ value = found) ∨ (key ≠ other ∧ map[other]? = some found) := by
  rw [ExtTreeMap.getElem?_insert]
  by_cases hkey : key = other
  · simp [hkey]
  · simp [hkey, LawfulEqCmp.compare_eq_iff_eq]

/-- Entering a new key leaves the others alone. -/
theorem getElem?_insert_of_absent (habsent : map[key]? = none) (hfound : map[other]? = some found) :
    (map.insert key value)[other]? = some found := by
  refine getElem?_insert_eq_some_iff.mpr (Or.inr ⟨?_, hfound⟩)
  rintro rfl
  simp [habsent] at hfound

theorem getElem?_erase_eq_some_iff :
    (map.erase key)[other]? = some found ↔ key ≠ other ∧ map[other]? = some found := by
  rw [ExtTreeMap.getElem?_erase]
  by_cases hkey : key = other
  · simp [hkey]
  · simp [hkey, LawfulEqCmp.compare_eq_iff_eq]

theorem getElem?_eraseAll_eq_some_iff {keys : List κ} :
    (keys.foldl (·.erase ·) map)[other]? = some found ↔
      other ∉ keys ∧ map[other]? = some found := by
  induction keys generalizing map with
  | nil => simp
  | cons first rest ih =>
    rw [List.foldl_cons, ih, getElem?_erase_eq_some_iff, List.mem_cons, not_or, ← and_assoc,
      ne_comm, and_comm (a := other ∉ rest)]

theorem getElem?_filter_eq_some_iff {keep : κ → ν → Bool} :
    (map.filter keep)[key]? = some value ↔ map[key]? = some value ∧ keep key value = true := by
  rw [ExtTreeMap.getElem?_filter', Option.filter_eq_some_iff]

theorem insert_eq_self_of_lookup (hlookup : map[key]? = some value) :
    map.insert key value = map := by
  apply ExtTreeMap.ext_getElem?
  intro other
  rw [ExtTreeMap.getElem?_insert]
  by_cases hkey : key = other
  · subst hkey
    simp [hlookup]
  · simp [hkey, LawfulEqCmp.compare_eq_iff_eq]

/-- What a search through the entries returns stands under the returned key. -/
theorem getElem?_of_find?_toList {condition : κ × ν → Bool}
    (hfind : map.toList.find? condition = some (key, value)) :
    map[key]? = some value ∧ condition (key, value) = true :=
  ⟨ExtTreeMap.mem_toList_iff_getElem?_eq_some.mp (List.mem_of_find?_eq_some hfind),
    List.find?_some hfind⟩

end Lookup

/-! ## Counting values -/

/-- The number of values with a property is the size of the part that has it. -/
theorem countP_values (map : ExtTreeMap κ ν compare) (property : ν → Bool) :
    map.values.countP property = (map.filter fun _ value => property value).size := by
  rw [values_eq_map_toList, List.countP_map, List.countP_eq_length_filter,
    ← ExtTreeMap.length_toList, ExtTreeMap.toList_filter]
  rfl

section Count

variable [LawfulEqOrd κ] {map : ExtTreeMap κ ν compare} {key : κ} {value found : ν}
  {property : ν → Bool}

theorem filter_insert (map : ExtTreeMap κ ν compare) (key : κ) (value : ν)
    (property : ν → Bool) :
    (map.insert key value).filter (fun _ value => property value) =
      if property value then (map.filter fun _ value => property value).insert key value
      else (map.filter fun _ value => property value).erase key := by
  apply ExtTreeMap.ext_getElem?
  intro other
  rw [ExtTreeMap.getElem?_filter', ExtTreeMap.getElem?_insert]
  by_cases hkey : key = other
  · subst hkey
    by_cases hvalue : property value <;> simp [hvalue]
  · by_cases hvalue : property value <;>
      simp [hvalue, hkey, ExtTreeMap.getElem?_insert, ExtTreeMap.getElem?_erase,
        LawfulEqCmp.compare_eq_iff_eq]

theorem filter_erase (map : ExtTreeMap κ ν compare) (key : κ) (property : ν → Bool) :
    (map.erase key).filter (fun _ value => property value) =
      (map.filter fun _ value => property value).erase key := by
  apply ExtTreeMap.ext_getElem?
  intro other
  rw [ExtTreeMap.getElem?_filter', ExtTreeMap.getElem?_erase,
    ExtTreeMap.getElem?_erase, ExtTreeMap.getElem?_filter']
  by_cases hkey : key = other
  · simp [hkey]
  · simp [hkey, LawfulEqCmp.compare_eq_iff_eq]

theorem contains_filter_of_lookup (hlookup : map[key]? = some found) (hfound : property found) :
    (map.filter fun _ value => property value).contains key = true := by
  rw [ExtTreeMap.contains_eq_isSome_getElem?, ExtTreeMap.getElem?_filter', hlookup]
  simp [hfound]

/-- An insertion adds at most one value. -/
theorem countP_values_insert_le :
    (map.insert key value).values.countP property ≤ map.values.countP property + 1 := by
  rw [countP_values, countP_values, filter_insert]
  split
  · exact ExtTreeMap.size_insert_le
  · exact ExtTreeMap.size_erase_le.trans (Nat.le_succ _)

/-- An insertion over a counted value does not add one. -/
theorem countP_values_insert_of_lookup (hlookup : map[key]? = some found)
    (hfound : property found) :
    (map.insert key value).values.countP property ≤ map.values.countP property := by
  rw [countP_values, countP_values, filter_insert]
  split
  · rw [ExtTreeMap.size_insert, if_pos (contains_filter_of_lookup hlookup hfound)]
  · exact ExtTreeMap.size_erase_le

/-- An insertion of a value that is not counted does not add one. -/
theorem countP_values_insert_of_not (hvalue : property value = false) :
    (map.insert key value).values.countP property ≤ map.values.countP property := by
  rw [countP_values, countP_values, filter_insert, hvalue]
  exact ExtTreeMap.size_erase_le

theorem countP_values_erase_le :
    (map.erase key).values.countP property ≤ map.values.countP property := by
  rw [countP_values, countP_values, filter_erase]
  exact ExtTreeMap.size_erase_le

/-- Erasing a counted value removes one. -/
theorem countP_values_erase_of_lookup (hlookup : map[key]? = some found)
    (hfound : property found) :
    (map.erase key).values.countP property + 1 = map.values.countP property := by
  have hmem := contains_filter_of_lookup hlookup hfound
  rw [countP_values, countP_values, filter_erase, ExtTreeMap.size_erase, if_pos hmem]
  have hpositive : 0 < (map.filter fun _ value => property value).size := by
    rw [Nat.pos_iff_ne_zero, Ne, ← ExtTreeMap.eq_empty_iff_size_eq_zero]
    intro hempty
    rw [hempty] at hmem
    simp at hmem
  omega

end Count

end OrderedMaps
