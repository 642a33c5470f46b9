import Mathlib.Data.List.Perm.Basic
import Mathlib.Data.List.Basic
import Mathlib.Order.Basic

/-!
# Selecting a least element

`firstLeast` returns the first of the least elements of a list under a
comparison.  For a comparison that is transitive and tells different elements
apart, the choice depends on the elements only and not on their order.
-/

namespace Selection

open Std

variable {α : Type*} (cmp : α → α → Ordering)

/-- The first of the least elements. -/
def firstLeast : List α → Option α
  | [] => none
  | first :: rest =>
    match firstLeast rest with
    | none => some first
    | some least => if (cmp first least).isLE then some first else some least

/-- The element is in the list, and nothing in the list comes before it. -/
structure IsLeast (elements : List α) (least : α) : Prop where
  mem : least ∈ elements
  le : ∀ element ∈ elements, (cmp least element).isLE

theorem firstLeast_eq_none_iff {elements : List α} :
    firstLeast cmp elements = none ↔ elements = [] := by
  cases elements with
  | nil => simp [firstLeast]
  | cons first rest =>
    rw [firstLeast]
    cases firstLeast cmp rest with
    | none => simp
    | some least => by_cases hle : (cmp first least).isLE <;> simp [hle]

theorem isLeast_of_firstLeast [TransCmp cmp] {elements : List α} {least : α}
    (hleast : firstLeast cmp elements = some least) : IsLeast cmp elements least := by
  induction elements generalizing least with
  | nil => cases hleast
  | cons first rest ih =>
    have hrefl : (cmp first first).isLE := by
      simp [ReflCmp.compare_self]
    rw [firstLeast] at hleast
    cases hrest : firstLeast cmp rest with
    | none =>
      rw [hrest] at hleast
      cases hleast
      cases (firstLeast_eq_none_iff cmp).mp hrest
      exact ⟨List.mem_singleton_self _, by simpa using hrefl⟩
    | some best =>
      rw [hrest] at hleast
      have hbest := ih hrest
      by_cases hle : (cmp first best).isLE
      · cases hleast.symm.trans (if_pos hle)
        refine ⟨List.mem_cons_self, List.forall_mem_cons.mpr ⟨hrefl, ?_⟩⟩
        intro element helement
        exact TransCmp.isLE_trans hle (hbest.le element helement)
      · cases hleast.symm.trans (if_neg hle)
        refine ⟨List.mem_cons_of_mem _ hbest.mem, List.forall_mem_cons.mpr ⟨?_, hbest.le⟩⟩
        have hgt : cmp first least = .gt := by simpa using hle
        rw [OrientedCmp.lt_of_gt hgt]
        rfl

/-- Where the comparison tells the elements apart, their order does not matter. -/
theorem IsLeast.unique [TransCmp cmp] {left right : List α} {least other : α}
    (hperm : left.Perm right) (hdistinct : ∀ first ∈ left, ∀ second ∈ left,
      cmp first second = .eq → first = second)
    (hleast : IsLeast cmp left least) (hother : IsLeast cmp right other) : least = other := by
  have hmem : other ∈ left := hperm.mem_iff.mpr hother.mem
  apply hdistinct least hleast.mem other hmem
  apply OrientedCmp.isLE_antisymm
  · exact hleast.le other hmem
  · exact hother.le least (hperm.mem_iff.mp hleast.mem)

end Selection
