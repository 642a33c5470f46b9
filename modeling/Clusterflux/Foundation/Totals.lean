import Clusterflux.Foundation.OrderedMaps

/-!
# Totals over the values of a map

Every value of a map has a measure, and the measures are added up.  A change of the
map is compared key by key: a total grows no more than its terms, an entry adds its
measure, and what disappears from a map takes its measure along.
-/

namespace OrderedMaps

open Std

variable {κ ν : Type} [Ord κ] [TransOrd κ] {map before after : ExtTreeMap κ ν compare}
  {key : κ} {value : ν} {measure later : ν → ℕ}

/-- The sum of the measures of all values. -/
def total (measure : ν → ℕ) (map : ExtTreeMap κ ν compare) : ℕ :=
  (map.values.map measure).sum

/-- The measure of what stands under a key. -/
def measureAt (measure : ν → ℕ) (map : ExtTreeMap κ ν compare) (key : κ) : ℕ :=
  (map[key]?.map measure).getD 0

theorem measureAt_of_lookup (hlookup : map[key]? = some value) :
    measureAt measure map key = measure value := by
  rw [measureAt, hlookup]
  rfl

theorem measureAt_of_absent (habsent : map[key]? = none) : measureAt measure map key = 0 := by
  rw [measureAt, habsent]
  rfl

/-- Counting is adding up ones. -/
theorem countP_values_eq_total (property : ν → Bool) (map : ExtTreeMap κ ν compare) :
    map.values.countP property = total (fun value => if property value then 1 else 0) map := by
  rw [total]
  generalize map.values = values
  induction values with
  | nil => rfl
  | cons value values ih =>
    rw [List.countP_cons, List.map_cons, List.sum_cons, ih, Nat.add_comm]

section Keys

variable [LawfulEqOrd κ] [DecidableEq κ]

/-- A total can be taken over any keys that contain those of the map. -/
theorem total_eq_sum (keys : Finset κ) (hkeys : ∀ key ∈ map, key ∈ keys) :
    total measure map = ∑ key ∈ keys, measureAt measure map key := by
  have hmap : map.values.map measure = map.keys.map (measureAt measure map) := by
    rw [values_eq_map_toList, ← ExtTreeMap.map_fst_toList_eq_keys, List.map_map, List.map_map]
    apply List.map_congr_left
    rintro ⟨key, value⟩ hmem
    exact (measureAt_of_lookup (ExtTreeMap.mem_toList_iff_getElem?_eq_some.mp hmem)).symm
  calc
    total measure map = (map.keys.map (measureAt measure map)).sum := congrArg List.sum hmap
    _ = ∑ key ∈ map.keys.toFinset, measureAt measure map key :=
      (List.sum_toFinset _ ExtTreeMap.nodup_keys).symm
    _ = ∑ key ∈ keys, measureAt measure map key := by
      apply Finset.sum_subset
      · intro key hkey
        exact hkeys key (ExtTreeMap.mem_keys.mp (List.mem_toFinset.mp hkey))
      · intro key _ hkey
        apply measureAt_of_absent
        rw [List.mem_toFinset, ExtTreeMap.mem_keys] at hkey
        exact ExtTreeMap.getElem?_eq_none hkey

theorem total_eq_sum_keys (measure : ν → ℕ) (map : ExtTreeMap κ ν compare) :
    total measure map = ∑ key ∈ map.keys.toFinset, measureAt measure map key :=
  total_eq_sum _ fun _ hkey => List.mem_toFinset.mpr (ExtTreeMap.mem_keys.mpr hkey)

end Keys

section Changes

variable [LawfulEqOrd κ]

theorem mem_keys_of_lookup [DecidableEq κ] (hlookup : map[key]? = some value) :
    key ∈ map.keys.toFinset := by
  rw [List.mem_toFinset, ExtTreeMap.mem_keys, ExtTreeMap.mem_iff_isSome_getElem?, hlookup]
  rfl

/-- Every key of the later map stands in the earlier one. -/
theorem mem_keys_of_terms [DecidableEq κ] {related : ν → ν → Prop}
    (hterms : ∀ (key : κ) value, after[key]? = some value →
      ∃ earlier, before[key]? = some earlier ∧ related earlier value) :
    ∀ key ∈ after, key ∈ before.keys.toFinset := by
  intro key hkey
  obtain ⟨value, hvalue⟩ := Option.isSome_iff_exists.mp
    (ExtTreeMap.mem_iff_isSome_getElem?.mp hkey)
  obtain ⟨earlier, hearlier, -⟩ := hterms key value hvalue
  exact mem_keys_of_lookup hearlier

/-- A total whose terms come from larger terms is not larger. -/
theorem total_le_total (hterms : ∀ (key : κ) value, after[key]? = some value →
      ∃ earlier, before[key]? = some earlier ∧ later value ≤ measure earlier) :
    total later after ≤ total measure before := by
  classical
  rw [total_eq_sum before.keys.toFinset (mem_keys_of_terms hterms), total_eq_sum_keys]
  apply Finset.sum_le_sum
  intro key _
  cases hvalue : after[key]? with
  | none =>
    rw [measureAt_of_absent hvalue]
    exact Nat.zero_le _
  | some value =>
    obtain ⟨earlier, hearlier, hle⟩ := hterms key value hvalue
    rw [measureAt_of_lookup hvalue, measureAt_of_lookup hearlier]
    exact hle

/-- An entry adds its measure and takes away that of the entry it replaces. -/
theorem total_insert (measure : ν → ℕ) (map : ExtTreeMap κ ν compare) (key : κ) (value : ν) :
    total measure (map.insert key value) + measureAt measure map key =
      total measure map + measure value := by
  classical
  have hinserted : ∀ other ∈ map.insert key value, other ∈ insert key map.keys.toFinset := by
    intro other hother
    rw [ExtTreeMap.mem_insert, LawfulEqCmp.compare_eq_iff_eq] at hother
    rw [Finset.mem_insert, List.mem_toFinset, ExtTreeMap.mem_keys]
    exact hother.imp Eq.symm id
  have hkept : ∀ other ∈ map, other ∈ insert key map.keys.toFinset := fun other hother =>
    Finset.mem_insert_of_mem (List.mem_toFinset.mpr (ExtTreeMap.mem_keys.mpr hother))
  have hrest : ∑ other ∈ (insert key map.keys.toFinset).erase key,
      measureAt measure (map.insert key value) other =
      ∑ other ∈ (insert key map.keys.toFinset).erase key, measureAt measure map other := by
    apply Finset.sum_congr rfl
    intro other hother
    have hne : key ≠ other := (Finset.ne_of_mem_erase hother).symm
    rw [measureAt, measureAt, ExtTreeMap.getElem?_insert, if_neg]
    rwa [LawfulEqCmp.compare_eq_iff_eq]
  have hvalue : measureAt measure (map.insert key value) key = measure value :=
    measureAt_of_lookup ExtTreeMap.getElem?_insert_self
  rw [total_eq_sum _ hinserted, total_eq_sum _ hkept,
    ← Finset.add_sum_erase _ _ (Finset.mem_insert_self key _),
    ← Finset.add_sum_erase _ (measureAt measure map) (Finset.mem_insert_self key _), hrest, hvalue]
  omega

/-- What disappears from a map takes its measure along. -/
theorem total_split (hterms : ∀ (key : κ) value, after[key]? = some value →
      ∃ earlier, before[key]? = some earlier ∧ measure value = measure earlier) :
    total measure before =
      total measure after + total measure (before.filter fun key _ => !after.contains key) := by
  classical
  have hfiltered : ∀ key ∈ before.filter fun key _ => !after.contains key,
      key ∈ before.keys.toFinset := by
    intro key hkey
    rw [List.mem_toFinset, ExtTreeMap.mem_keys]
    exact ExtTreeMap.mem_of_mem_filter hkey
  rw [total_eq_sum before.keys.toFinset (mem_keys_of_terms hterms),
    total_eq_sum before.keys.toFinset hfiltered, total_eq_sum_keys, ← Finset.sum_add_distrib]
  apply Finset.sum_congr rfl
  intro key _
  cases hvalue : after[key]? with
  | none =>
    have hcontains : after.contains key = false := by
      rw [ExtTreeMap.contains_eq_isSome_getElem?, hvalue]
      rfl
    rw [measureAt_of_absent hvalue, Nat.zero_add, measureAt, measureAt,
      ExtTreeMap.getElem?_filter']
    cases before[key]? <;> simp [hcontains, Option.filter]
  | some value =>
    have hcontains : after.contains key = true := by
      rw [ExtTreeMap.contains_eq_isSome_getElem?, hvalue]
      rfl
    obtain ⟨earlier, hearlier, hsame⟩ := hterms key value hvalue
    rw [measureAt_of_lookup hvalue, measureAt_of_lookup hearlier, hsame, measureAt,
      ExtTreeMap.getElem?_filter', hearlier]
    simp [hcontains]

end Changes

end OrderedMaps
