import Clusterflux.Foundation.OrderedMaps

/-!
# Secondary indexes

A table holds entries under their keys.  An index files the keys under a field of
their entries, in sets that are never empty.  Adding an entry to both, and removing
one from both, keeps the index complete.  A unique index has one key for a value.
-/

namespace SecondaryIndexes

open OrderedMaps Std

variable {κ ν ι : Type} [DecidableEq κ] [Ord ι] [TransOrd ι]

section

variable (index : ExtTreeMap ι (Finset κ) compare)

/-- The keys that are filed under a value. -/
def filed (value : ι) : Finset κ :=
  index[value]?.getD ∅

def add (value : ι) (key : κ) : ExtTreeMap ι (Finset κ) compare :=
  index.insert value (insert key (filed index value))

/-- A set from which the last key is removed goes. -/
def remove (value : ι) (key : κ) : ExtTreeMap ι (Finset κ) compare :=
  match index[value]? with
  | none => index
  | some keys =>
    if keys.erase key = ∅ then index.erase value else index.insert value (keys.erase key)

end

/-- The index files exactly the keys of the table, and no set is empty. -/
structure Indexes [Ord κ] [TransOrd κ] (field : ν → ι) (table : ExtTreeMap κ ν compare)
    (index : ExtTreeMap ι (Finset κ) compare) : Prop where
  exact : ∀ value key, key ∈ filed index value ↔
    ∃ entry, table[key]? = some entry ∧ field entry = value
  nonempty : ∀ (value : ι) (keys : Finset κ), index[value]? = some keys → keys.Nonempty

variable {index : ExtTreeMap ι (Finset κ) compare} {key other : κ} {value elsewhere : ι}

theorem filed_add_self (index : ExtTreeMap ι (Finset κ) compare) (value : ι) (key : κ) :
    filed (add index value key) value = insert key (filed index value) := by
  rw [filed, add, ExtTreeMap.getElem?_insert_self, Option.getD_some]

variable [LawfulEqOrd ι]

theorem filed_add_of_ne (hvalue : value ≠ elsewhere) :
    filed (add index value key) elsewhere = filed index elsewhere := by
  rw [filed, add, ExtTreeMap.getElem?_insert, if_neg, filed]
  rwa [LawfulEqCmp.compare_eq_iff_eq]

theorem filed_remove_self (index : ExtTreeMap ι (Finset κ) compare) (value : ι) (key : κ) :
    filed (remove index value key) value = (filed index value).erase key := by
  unfold remove filed
  cases hkeys : index[value]? with
  | none => simp [hkeys]
  | some keys =>
    dsimp only
    split
    case isTrue hempty => simp [hempty]
    case isFalse => simp

theorem filed_remove_of_ne (hvalue : value ≠ elsewhere) :
    filed (remove index value key) elsewhere = filed index elsewhere := by
  have hcompare : compare value elsewhere ≠ .eq := by rwa [Ne, LawfulEqCmp.compare_eq_iff_eq]
  unfold remove filed
  cases hkeys : index[value]? with
  | none => rfl
  | some keys =>
    dsimp only
    split
    case isTrue => rw [ExtTreeMap.getElem?_erase, if_neg hcompare]
    case isFalse => rw [ExtTreeMap.getElem?_insert, if_neg hcompare]

namespace Indexes

variable [Ord κ] [TransOrd κ] {field : ν → ι} {table : ExtTreeMap κ ν compare} {entry : ν}

omit [DecidableEq κ] [LawfulEqOrd ι] in
theorem empty : Indexes field (∅ : ExtTreeMap κ ν compare)
    (∅ : ExtTreeMap ι (Finset κ) compare) where
  exact value key := by simp [filed]
  nonempty value keys hkeys := by simp at hkeys

variable [LawfulEqOrd κ]

/-- A new entry is filed under its field. -/
theorem insert (hindexes : Indexes field table index) (habsent : table[key]? = none) :
    Indexes field (table.insert key entry) (add index (field entry) key) where
  exact value other := by
    by_cases hvalue : field entry = value
    · subst hvalue
      rw [filed_add_self, Finset.mem_insert, hindexes.exact]
      constructor
      · rintro (rfl | ⟨found, hfound, hfield⟩)
        · exact ⟨entry, ExtTreeMap.getElem?_insert_self, rfl⟩
        · exact ⟨found, getElem?_insert_of_absent habsent hfound, hfield⟩
      · rintro ⟨found, hfound, hfield⟩
        rcases getElem?_insert_eq_some_iff.mp hfound with ⟨rfl, -⟩ | ⟨-, hfound⟩
        · exact .inl rfl
        · exact .inr ⟨found, hfound, hfield⟩
    · rw [filed_add_of_ne hvalue, hindexes.exact]
      constructor
      · rintro ⟨found, hfound, hfield⟩
        exact ⟨found, getElem?_insert_of_absent habsent hfound, hfield⟩
      · rintro ⟨found, hfound, hfield⟩
        rcases getElem?_insert_eq_some_iff.mp hfound with ⟨-, rfl⟩ | ⟨-, hfound⟩
        · exact absurd hfield hvalue
        · exact ⟨found, hfound, hfield⟩
  nonempty value keys hkeys := by
    rcases getElem?_insert_eq_some_iff.mp hkeys with ⟨-, rfl⟩ | ⟨-, hkeys⟩
    · exact Finset.insert_nonempty _ _
    · exact hindexes.nonempty value keys hkeys

theorem erase (hindexes : Indexes field table index) (hfound : table[key]? = some entry) :
    Indexes field (table.erase key) (remove index (field entry) key) where
  exact value other := by
    by_cases hvalue : field entry = value
    · subst hvalue
      rw [filed_remove_self, Finset.mem_erase, hindexes.exact]
      constructor
      · rintro ⟨hother, found, hlookup, hfield⟩
        exact ⟨found, getElem?_erase_eq_some_iff.mpr ⟨Ne.symm hother, hlookup⟩, hfield⟩
      · rintro ⟨found, hlookup, hfield⟩
        obtain ⟨hother, hlookup⟩ := getElem?_erase_eq_some_iff.mp hlookup
        exact ⟨Ne.symm hother, found, hlookup, hfield⟩
    · rw [filed_remove_of_ne hvalue, hindexes.exact]
      constructor
      · rintro ⟨found, hlookup, hfield⟩
        refine ⟨found, getElem?_erase_eq_some_iff.mpr ⟨?_, hlookup⟩, hfield⟩
        rintro rfl
        rw [hfound] at hlookup
        cases hlookup
        exact hvalue hfield
      · rintro ⟨found, hlookup, hfield⟩
        exact ⟨found, (getElem?_erase_eq_some_iff.mp hlookup).2, hfield⟩
  nonempty value keys hkeys := by
    unfold remove at hkeys
    cases hold : index[field entry]? with
    | none =>
      rw [hold] at hkeys
      exact hindexes.nonempty value keys hkeys
    | some old =>
      rw [hold] at hkeys
      dsimp only at hkeys
      split at hkeys
      case isTrue =>
        exact hindexes.nonempty value keys (getElem?_erase_eq_some_iff.mp hkeys).2
      case isFalse hrest =>
        rcases getElem?_insert_eq_some_iff.mp hkeys with ⟨-, rfl⟩ | ⟨-, hkeys⟩
        · exact Finset.nonempty_iff_ne_empty.mpr hrest
        · exact hindexes.nonempty value keys hkeys

end Indexes

/-! ## Unique indexes -/

section Unique

variable [Ord κ] [TransOrd κ] [LawfulEqOrd κ] {field : ν → ι}
  {table : ExtTreeMap κ ν compare} {keys : ExtTreeMap ι κ compare} {entry : ν}

/-- The index and the field of the entries are inverse to each other. -/
def Inverts (field : ν → ι) (table : ExtTreeMap κ ν compare)
    (keys : ExtTreeMap ι κ compare) : Prop :=
  ∀ (value : ι) (key : κ), keys[value]? = some key ↔
    ∃ entry, table[key]? = some entry ∧ field entry = value

omit [DecidableEq κ] [LawfulEqOrd ι] [LawfulEqOrd κ] in
/-- No two entries of a table with a unique index have the same field. -/
theorem Inverts.unique (hinverts : Inverts field table keys) {entry' : ν}
    (hentry : table[key]? = some entry) (hother : table[other]? = some entry')
    (hfield : field entry = field entry') : key = other := by
  have hkey := (hinverts (field entry) key).mpr ⟨entry, hentry, rfl⟩
  rw [(hinverts (field entry) other).mpr ⟨entry', hother, hfield.symm⟩] at hkey
  exact (Option.some.inj hkey).symm

omit [DecidableEq κ] in
/-- An entry is written under a key that has had its field and no other key has. -/
theorem Inverts.insert (hinverts : Inverts field table keys)
    (hfree : ∀ other, keys[field entry]? = some other → other = key)
    (hkept : ∀ found, table[key]? = some found → field found = field entry) :
    Inverts field (table.insert key entry) (keys.insert (field entry) key) := by
  intro value other
  simp only [getElem?_insert_eq_some_iff, hinverts value other]
  constructor
  · rintro (⟨rfl, rfl⟩ | ⟨hvalue, found, hfound, rfl⟩)
    · exact ⟨entry, .inl ⟨rfl, rfl⟩, rfl⟩
    · refine ⟨found, .inr ⟨?_, hfound⟩, rfl⟩
      rintro rfl
      exact hvalue (hkept found hfound).symm
  · rintro ⟨found, ⟨rfl, rfl⟩ | ⟨hother, hfound⟩, rfl⟩
    · exact .inl ⟨rfl, rfl⟩
    · refine .inr ⟨?_, found, hfound, rfl⟩
      intro hvalue
      exact hother (hfree other ((hinverts _ other).mpr ⟨found, hfound, hvalue.symm⟩)).symm

omit [DecidableEq κ] in
theorem Inverts.erase (hinverts : Inverts field table keys)
    (hentry : table[key]? = some entry) :
    Inverts field (table.erase key) (keys.erase (field entry)) := by
  intro value other
  simp only [getElem?_erase_eq_some_iff, hinverts value other]
  constructor
  · rintro ⟨hvalue, found, hfound, rfl⟩
    refine ⟨found, ⟨?_, hfound⟩, rfl⟩
    rintro rfl
    rw [hentry] at hfound
    exact hvalue (congrArg field (Option.some.inj hfound))
  · rintro ⟨found, ⟨hother, hfound⟩, rfl⟩
    refine ⟨?_, found, hfound, rfl⟩
    intro hvalue
    exact hother (hinverts.unique hentry hfound hvalue)

end Unique

end SecondaryIndexes
