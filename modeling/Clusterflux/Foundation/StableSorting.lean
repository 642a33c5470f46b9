import Mathlib

/-!
# Stable sorting by a key

Sorting by a key keeps the items of one key in their order.  The sorted list
therefore says which items the list has of every key and in which order, and
nothing about how items of different keys were mixed.
-/

namespace StableSorting

variable {α β κ : Type} [LinearOrder κ] (key : α → κ) (items : List α)

def notAfter (first second : α) : Bool :=
  key first ≤ key second

/-- The items in the order of their keys. -/
def sortBy : List α :=
  items.mergeSort (notAfter key)

/-- The items of one key, as they stand in the list. -/
def itemsOf (name : κ) : List α :=
  items.filter (key · = name)

theorem notAfter_trans (first second third : α) (hfirst : notAfter key first second)
    (hsecond : notAfter key second third) : notAfter key first third := by
  simp only [notAfter, decide_eq_true_eq] at *
  exact hfirst.trans hsecond

theorem notAfter_total (first second : α) :
    (notAfter key first second || notAfter key second first) = true := by
  simpa [notAfter] using le_total (key first) (key second)

theorem pairwise_sortBy : (sortBy key items).Pairwise (key · ≤ key ·) :=
  (List.pairwise_mergeSort (notAfter_trans key) (notAfter_total key) items).imp of_decide_eq_true

theorem sortBy_perm : (sortBy key items).Perm items :=
  items.mergeSort_perm _

/-- Sorting a projection is projecting the sorted list. -/
theorem map_sortBy (project : β → α) (items : List β) :
    (sortBy (key ∘ project) items).map project = sortBy key (items.map project) :=
  List.map_mergeSort fun _ _ _ _ => rfl

/-- The sort is stable. -/
theorem itemsOf_sortBy (name : κ) :
    itemsOf key (sortBy key items) name = itemsOf key items name := by
  have hkey : ∀ item ∈ itemsOf key items name, key item = name := fun item hitem => by
    simpa using (List.mem_filter.mp hitem).2
  have hties : (itemsOf key items name).Pairwise (notAfter key · ·) :=
    List.pairwise_of_forall_mem_list fun first hfirst second hsecond => by
      simp [notAfter, hkey first hfirst, hkey second hsecond]
  have hsublist := (List.sublist_mergeSort (notAfter_trans key) (notAfter_total key) hties
    List.filter_sublist).filter (key · = name)
  rw [itemsOf, List.filter_filter] at hsublist
  simp only [Bool.and_self] at hsublist
  exact (hsublist.eq_of_length_le ((sortBy_perm key items).filter _).length_eq.le).symm

variable {key} {left right : List α}

/-- Two sorted lists with the same items of every key are the same. -/
theorem eq_of_itemsOf_eq (hleft : left.Pairwise (key · ≤ key ·))
    (hright : right.Pairwise (key · ≤ key ·))
    (hitems : ∀ name, itemsOf key left name = itemsOf key right name) : left = right := by
  induction left generalizing right with
  | nil =>
    cases right with
    | nil => rfl
    | cons item right => simpa [itemsOf] using hitems (key item)
  | cons first left ih =>
    cases right with
    | nil => simpa [itemsOf] using hitems (key first)
    | cons second right =>
      have hmem : ∀ item, item ∈ first :: left ↔ item ∈ second :: right := fun item => by
        have hboth := congrArg (item ∈ ·) (hitems (key item))
        simpa only [itemsOf, List.mem_filter, decide_true, and_true, eq_iff_iff] using hboth
      have hkey : key first = key second := by
        apply le_antisymm
        · obtain rfl | hlater := List.mem_cons.mp ((hmem second).mpr List.mem_cons_self)
          · exact le_rfl
          · exact List.rel_of_pairwise_cons hleft hlater
        · obtain rfl | hlater := List.mem_cons.mp ((hmem first).mp List.mem_cons_self)
          · exact le_rfl
          · exact List.rel_of_pairwise_cons hright hlater
      obtain rfl : first = second := by
        have hhead := hitems (key first)
        rw [itemsOf, itemsOf, List.filter_cons_of_pos (by simp),
          List.filter_cons_of_pos (by simp [hkey])] at hhead
        exact (List.cons.inj hhead).1
      rw [ih hleft.of_cons hright.of_cons]
      intro name
      have hname := hitems name
      by_cases hfirst : key first = name
      · simpa [itemsOf, hfirst] using hname
      · simpa [itemsOf, hfirst] using hname

theorem sortBy_eq_sortBy_iff :
    sortBy key left = sortBy key right ↔
      ∀ name, itemsOf key left name = itemsOf key right name := by
  constructor
  · intro hsorted name
    rw [← itemsOf_sortBy, hsorted, itemsOf_sortBy]
  · intro hitems
    apply eq_of_itemsOf_eq (pairwise_sortBy _ _) (pairwise_sortBy _ _)
    intro name
    rw [itemsOf_sortBy, itemsOf_sortBy, hitems]

theorem perm_of_itemsOf_eq (hitems : ∀ name, itemsOf key left name = itemsOf key right name) :
    left.Perm right :=
  calc
    left.Perm (sortBy key left) := (sortBy_perm key left).symm
    _ = sortBy key right := sortBy_eq_sortBy_iff.mpr hitems
    List.Perm _ right := sortBy_perm key right

/-- Where the item is its own key, order is all that is lost. -/
theorem sortBy_id_eq_sortBy_id_iff {left right : List κ} :
    sortBy id left = sortBy id right ↔ left.Perm right := by
  constructor
  · exact fun hsorted => perm_of_itemsOf_eq (sortBy_eq_sortBy_iff.mp hsorted)
  · intro hperm
    have hsorted := (sortBy_perm id left).trans (hperm.trans (sortBy_perm id right).symm)
    exact hsorted.eq_of_pairwise (fun _ _ _ _ => le_antisymm) (pairwise_sortBy id left)
      (pairwise_sortBy id right)

end StableSorting
