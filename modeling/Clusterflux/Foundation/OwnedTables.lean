import Clusterflux.Foundation.OrderedMaps

/-!
# Tables whose entries have owners

Every entry of a table belongs to an owner, and each owner may have a limited
number of entries.  A change either adds no entry, or enters one that is admitted:
it replaces an entry of the same owner, or the owner has room.  Such changes keep
every owner within the limit.  A table is filed if its entries name their keys.
-/

namespace OwnedTables

open OrderedMaps Std

variable {κ ν ο : Type} [Ord κ] [TransOrd κ] {owner : ν → ο}
  {before after table : ExtTreeMap κ ν compare}

/-! ## Changes that add nothing -/

/-- Every entry was there before, with the same owner. -/
def AddsNothing (owner : ν → ο) (before after : ExtTreeMap κ ν compare) : Prop :=
  ∀ (key : κ) (value : ν), after[key]? = some value →
    ∃ earlier, before[key]? = some earlier ∧ owner earlier = owner value

theorem AddsNothing.refl (owner : ν → ο) (table : ExtTreeMap κ ν compare) :
    AddsNothing owner table table :=
  fun _ value hvalue => ⟨value, hvalue, rfl⟩

theorem AddsNothing.of_eq (heq : after = before) : AddsNothing owner before after := by
  rw [heq]
  exact .refl owner before

/-- What is a function of the owner is kept as well. -/
theorem AddsNothing.comp {ρ : Type} (hadds : AddsNothing owner before after) (role : ο → ρ) :
    AddsNothing (fun value => role (owner value)) before after := by
  intro key value hvalue
  obtain ⟨earlier, hearlier, howner⟩ := hadds key value hvalue
  exact ⟨earlier, hearlier, congrArg role howner⟩

section Operations

variable [LawfulEqOrd κ]

theorem AddsNothing.erase (owner : ν → ο) (table : ExtTreeMap κ ν compare) (key : κ) :
    AddsNothing owner table (table.erase key) :=
  fun _ value hvalue => ⟨value, (getElem?_erase_eq_some_iff.mp hvalue).2, rfl⟩

theorem AddsNothing.filter (owner : ν → ο) (table : ExtTreeMap κ ν compare)
    (keep : κ → ν → Bool) : AddsNothing owner table (table.filter keep) := by
  intro key value hvalue
  rw [ExtTreeMap.getElem?_filter'] at hvalue
  obtain ⟨hlookup, -⟩ := Option.filter_eq_some_iff.mp hvalue
  exact ⟨value, hlookup, rfl⟩

theorem AddsNothing.map {change : κ → ν → ν}
    (hchange : ∀ key value, owner (change key value) = owner value) :
    AddsNothing owner table (table.map change) := by
  intro key value hvalue
  rw [ExtTreeMap.getElem?_map] at hvalue
  obtain ⟨earlier, hearlier, rfl⟩ := Option.map_eq_some_iff.mp hvalue
  exact ⟨earlier, hearlier, (hchange key earlier).symm⟩

end Operations

/-! ## Filed tables -/

section Filed

variable {keyOf : ν → κ}

/-- Every entry stands under the key it names. -/
def Filed (keyOf : ν → κ) (table : ExtTreeMap κ ν compare) : Prop :=
  ∀ (key : κ) (value : ν), table[key]? = some value → keyOf value = key

theorem Filed.empty (keyOf : ν → κ) : Filed keyOf (∅ : ExtTreeMap κ ν compare) :=
  fun _ _ hvalue => absurd hvalue (by simp)

theorem AddsNothing.filed (hadds : AddsNothing keyOf before after) (hfiled : Filed keyOf before) :
    Filed keyOf after := by
  intro key value hvalue
  obtain ⟨earlier, hearlier, hkey⟩ := hadds key value hvalue
  exact hkey.symm.trans (hfiled key earlier hearlier)

theorem Filed.insert [LawfulEqOrd κ] (hfiled : Filed keyOf table) (value : ν) :
    Filed keyOf (table.insert (keyOf value) value) := by
  intro key found hfound
  obtain ⟨hkey, rfl⟩ | ⟨-, hearlier⟩ := getElem?_insert_eq_some_iff.mp hfound
  · exact hkey
  · exact hfiled key found hearlier

end Filed

/-! ## Counting -/

section Count

variable [DecidableEq ο]

/-- The number of entries of an owner. -/
def count (owner : ν → ο) (table : ExtTreeMap κ ν compare) (who : ο) : ℕ :=
  table.values.countP fun value => owner value = who

theorem count_empty (owner : ν → ο) (who : ο) :
    count owner (∅ : ExtTreeMap κ ν compare) who = 0 := by
  rw [count, values_empty, List.countP_nil]

variable [LawfulEqOrd κ]

/-- A change that adds nothing leaves no owner with more entries. -/
theorem AddsNothing.count_le (hadds : AddsNothing owner before after) (who : ο) :
    count owner after who ≤ count owner before who := by
  rw [count, count, countP_values, countP_values, ← ExtTreeMap.length_keys,
    ← ExtTreeMap.length_keys]
  apply List.Subperm.length_le
  apply ExtTreeMap.nodup_keys.subperm
  intro key hkey
  rw [ExtTreeMap.mem_keys, ExtTreeMap.mem_iff_isSome_getElem?,
    ExtTreeMap.getElem?_filter', Option.isSome_iff_exists] at hkey ⊢
  obtain ⟨value, hvalue⟩ := hkey
  obtain ⟨hlookup, hwho⟩ := Option.filter_eq_some_iff.mp hvalue
  obtain ⟨earlier, hearlier, howner⟩ := hadds key value hlookup
  refine ⟨earlier, Option.filter_eq_some_iff.mpr ⟨hearlier, ?_⟩⟩
  simpa [howner] using hwho

/-- The entry may be made: it replaces one of its owner, or its owner has room. -/
def Admits (owner : ν → ο) (limit : ο → ℕ) (table : ExtTreeMap κ ν compare) (key : κ)
    (value : ν) : Prop :=
  (∃ found, table[key]? = some found ∧ owner found = owner value) ∨
    count owner table (owner value) < limit (owner value)

/-- An admitted entry takes no owner over the limit. -/
theorem Admits.count_insert_le {limit : ο → ℕ} {key : κ} {value : ν}
    (hadmits : Admits owner limit table key value) (who : ο) :
    count owner (table.insert key value) who ≤ max (count owner table who) (limit who) := by
  by_cases hwho : owner value = who
  · subst hwho
    rcases hadmits with ⟨found, hfound, howner⟩ | hroom
    · exact (countP_values_insert_of_lookup hfound (by simpa using howner)).trans
        (Nat.le_max_left _ _)
    · calc
        count owner (table.insert key value) (owner value)
            ≤ count owner table (owner value) + 1 := countP_values_insert_le
        _ ≤ limit (owner value) := hroom
        _ ≤ max (count owner table (owner value)) (limit (owner value)) := Nat.le_max_right _ _
  · exact (countP_values_insert_of_not (by simpa using hwho)).trans (Nat.le_max_left _ _)

end Count

end OwnedTables
