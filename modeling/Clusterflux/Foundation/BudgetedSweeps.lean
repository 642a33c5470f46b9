import Mathlib

/-!
# Sweeping under a budget

Items are looked at in order.  An item goes if it is stale, or if those that are left
are too many or too large together; some items are protected and never go.  What goes
for lack of room is then the beginning of what could go, and no more than necessary.
-/

namespace BudgetedSweeps

variable {α : Type} (size : α → ℕ) (stale kept : α → Bool) (maxCount maxSize : ℕ)

/-- The items that go, when so many of such a total size are left. -/
def swept : ℕ → ℕ → List α → List α
  | _, _, [] => []
  | count, total, item :: items =>
    if (stale item ∨ count > maxCount ∨ total > maxSize) ∧ ¬ kept item then
      item :: swept (count - 1) (total - size item) items
    else swept count total items

variable {size stale kept maxCount maxSize} {count total : ℕ} {items : List α} {item other : α}

theorem swept_cons_of_goes
    (hgoes : (stale item ∨ count > maxCount ∨ total > maxSize) ∧ ¬ kept item) :
    swept size stale kept maxCount maxSize count total (item :: items) =
      item :: swept size stale kept maxCount maxSize (count - 1) (total - size item) items :=
  if_pos hgoes

theorem swept_cons_of_stays
    (hstays : ¬ ((stale item ∨ count > maxCount ∨ total > maxSize) ∧ ¬ kept item)) :
    swept size stale kept maxCount maxSize count total (item :: items) =
      swept size stale kept maxCount maxSize count total items :=
  if_neg hstays

theorem swept_sublist (count total : ℕ) (items : List α) :
    (swept size stale kept maxCount maxSize count total items).Sublist items := by
  induction items generalizing count total with
  | nil => exact .slnil
  | cons item items ih =>
    rw [swept]
    split
    · exact (ih _ _).cons_cons item
    · exact (ih _ _).cons item

theorem not_kept_of_mem_swept
    (hitem : item ∈ swept size stale kept maxCount maxSize count total items) :
    kept item = false := by
  induction items generalizing count total with
  | nil => cases hitem
  | cons first items ih =>
    rw [swept] at hitem
    split at hitem
    case isTrue hgoes =>
      rcases List.mem_cons.mp hitem with rfl | hitem
      · exact Bool.eq_false_iff.mpr hgoes.2
      · exact ih hitem
    case isFalse => exact ih hitem

/-- Stale items go. -/
theorem mem_swept_of_stale (hitem : item ∈ items) (hstale : stale item = true)
    (hkept : kept item = false) :
    item ∈ swept size stale kept maxCount maxSize count total items := by
  induction items generalizing count total with
  | nil => cases hitem
  | cons first items ih =>
    rcases List.mem_cons.mp hitem with rfl | hitem
    · rw [swept_cons_of_goes ⟨.inl hstale, by simp [hkept]⟩]
      exact List.mem_cons_self
    · rw [swept]
      split
      · exact List.mem_cons_of_mem _ (ih hitem)
      · exact ih hitem

/-- Within the budget only stale items go. -/
theorem stale_of_mem_swept (hcount : count ≤ maxCount) (htotal : total ≤ maxSize)
    (hitem : item ∈ swept size stale kept maxCount maxSize count total items) :
    stale item = true := by
  induction items generalizing count total with
  | nil => cases hitem
  | cons first items ih =>
    rw [swept] at hitem
    split at hitem
    case isTrue hgoes =>
      rcases List.mem_cons.mp hitem with rfl | hitem
      · rcases hgoes.1 with hstale | hover
        · exact hstale
        · omega
      · exact ih (by omega) (by omega) hitem
    case isFalse => exact ih hcount htotal hitem

section Ordered

variable {before : α → α → Prop}

/-- An item that goes for lack of room goes after all that stand before it. -/
theorem mem_swept_of_before (hasymm : ∀ left right, before left right → ¬ before right left)
    (hordered : items.Pairwise before)
    (hother : other ∈ swept size stale kept maxCount maxSize count total items)
    (hfresh : stale other = false) (hitem : item ∈ items) (hbefore : before item other)
    (hkept : kept item = false) :
    item ∈ swept size stale kept maxCount maxSize count total items := by
  induction items generalizing count total with
  | nil => cases hitem
  | cons first items ih =>
    obtain ⟨hfirst, hordered⟩ := List.pairwise_cons.mp hordered
    rcases List.mem_cons.mp hitem with rfl | hlater
    · -- If the first item stayed, there would be room, and only stale items would go.
      by_contra habsent
      by_cases hgoes : (stale item ∨ count > maxCount ∨ total > maxSize) ∧ ¬ kept item
      · rw [swept_cons_of_goes hgoes] at habsent
        exact habsent List.mem_cons_self
      · rw [swept_cons_of_stays hgoes] at hother
        have hroom : count ≤ maxCount ∧ total ≤ maxSize := by
          simp only [hkept, Bool.false_eq_true, not_false_eq_true, and_true, not_or] at hgoes
          omega
        rw [stale_of_mem_swept hroom.1 hroom.2 hother] at hfresh
        cases hfresh
    · rw [swept] at hother ⊢
      split at hother
      case isTrue hgoes =>
        rw [if_pos hgoes]
        rcases List.mem_cons.mp hother with rfl | hother
        · exact absurd hbefore (hasymm _ _ (hfirst item hlater))
        · exact List.mem_cons_of_mem _ (ih hordered hother hlater)
      case isFalse hstays =>
        rw [if_neg hstays]
        exact ih hordered hother hlater

/-- Without the last item that went for lack of room, the budget would be exceeded. -/
theorem over_of_last (hordered : items.Pairwise before) (hcount : items.length ≤ count)
    (htotal : (items.map size).sum ≤ total)
    (hitem : item ∈ swept size stale kept maxCount maxSize count total items)
    (hfresh : stale item = false)
    (hlast : ∀ other ∈ swept size stale kept maxCount maxSize count total items,
      ¬ before item other) :
    count - (swept size stale kept maxCount maxSize count total items).length + 1 > maxCount ∨
      total - ((swept size stale kept maxCount maxSize count total items).map size).sum +
        size item > maxSize := by
  induction items generalizing count total with
  | nil => cases hitem
  | cons first items ih =>
    obtain ⟨hfirst, hordered⟩ := List.pairwise_cons.mp hordered
    rw [List.length_cons] at hcount
    rw [List.map_cons, List.sum_cons] at htotal
    by_cases hgoes : (stale first ∨ count > maxCount ∨ total > maxSize) ∧ ¬ kept first
    case neg =>
      rw [swept_cons_of_stays hgoes] at hitem hlast ⊢
      exact ih hordered (by omega) (by omega) hitem hlast
    case pos =>
      rw [swept_cons_of_goes hgoes] at hitem hlast ⊢
      rw [List.length_cons, List.map_cons, List.sum_cons]
      rcases List.mem_cons.mp hitem with rfl | hitem
      · have hrest : swept size stale kept maxCount maxSize (count - 1) (total - size item)
            items = [] := by
          apply List.eq_nil_iff_forall_not_mem.mpr
          intro other hother
          exact hlast other (List.mem_cons_of_mem _ hother)
            (hfirst other ((swept_sublist _ _ _).subset hother))
        rw [hrest, List.length_nil, List.map_nil, List.sum_nil]
        rcases hgoes.1 with hstale | hover
        · rw [hstale] at hfresh
          cases hfresh
        · omega
      · have hover := ih hordered (by omega) (by omega) hitem fun other hother =>
          hlast other (List.mem_cons_of_mem _ hother)
        omega

end Ordered

/-! ## What is left -/

variable [DecidableEq α]

theorem swept_append_left_perm (hnodup : items.Nodup) :
    (swept size stale kept maxCount maxSize count total items ++
      items.filter (· ∉ swept size stale kept maxCount maxSize count total items)).Perm items := by
  have hsublist : (swept size stale kept maxCount maxSize count total items).Sublist items :=
    swept_sublist count total items
  generalize swept size stale kept maxCount maxSize count total items = gone at hsublist
  have hgone : (items.filter (· ∈ gone)).Perm gone := by
    apply (List.perm_ext_iff_of_nodup (hnodup.filter _) (hnodup.sublist hsublist)).mpr
    intro item
    rw [List.mem_filter, decide_eq_true_eq]
    exact ⟨And.right, fun hitem => ⟨hsublist.subset hitem, hitem⟩⟩
  have hsplit := List.filter_append_perm (· ∈ gone) items
  simp only [← decide_not] at hsplit
  exact (hgone.symm.append_right _).trans hsplit

end BudgetedSweeps
