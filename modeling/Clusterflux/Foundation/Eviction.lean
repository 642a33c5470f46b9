import Mathlib
import Clusterflux.Foundation.Queues

/-!
# Making room in a queue

Entries are taken from the front, among those that may go, until few enough are left
or none may go any more.
-/

namespace BoundedQueue

variable {α : Type} [DecidableEq α] {removable counted : α → Bool} {items all : List α}
  {count limit : ℕ} {entry other : α}

omit [DecidableEq α] in
theorem mem_of_mem_takeFirst (hentry : entry ∈ takeFirst removable count items) :
    entry ∈ items ∧ removable entry = true :=
  List.mem_filter.mp (List.mem_of_mem_take hentry)

omit [DecidableEq α] in
/-- If fewer were taken than asked for, all that may go are gone. -/
theorem mem_takeFirst_of_length_lt (hfew : (takeFirst removable count items).length < count)
    (hentry : entry ∈ items) (hremovable : removable entry = true) :
    entry ∈ takeFirst removable count items := by
  unfold takeFirst at hfew ⊢
  rw [List.length_take] at hfew
  rw [List.take_of_length_le (by omega)]
  exact List.mem_filter.mpr ⟨hentry, hremovable⟩

omit [DecidableEq α] in
/-- What is taken stands before what could have been taken and was not. -/
theorem before_of_mem_takeFirst {before : α → α → Prop} (hordered : items.Pairwise before)
    (hentry : entry ∈ takeFirst removable count items) (hother : other ∈ items)
    (hremovable : removable other = true) (hleft : other ∉ takeFirst removable count items) :
    before entry other := by
  have hsplit : (items.filter removable).Pairwise before :=
    hordered.sublist List.filter_sublist
  rw [← List.take_append_drop count (items.filter removable)] at hsplit
  have hdrop : other ∈ (items.filter removable).drop count := by
    have hmem : other ∈ items.filter removable := List.mem_filter.mpr ⟨hother, hremovable⟩
    rw [← List.take_append_drop count (items.filter removable)] at hmem
    exact (List.mem_append.mp hmem).resolve_left hleft
  exact (List.pairwise_append.mp hsplit).2.2 entry hentry other hdrop

/-- Removing entries that are counted lowers the count by their number. -/
theorem countP_filter_not_mem {removed : List α} (hall : all.Nodup) (hremoved : removed.Nodup)
    (hsubset : ∀ entry ∈ removed, entry ∈ all ∧ counted entry = true) :
    (all.filter (· ∉ removed)).countP counted + removed.length = all.countP counted := by
  have hgone : (all.filter (· ∈ removed)).countP counted = removed.length := by
    rw [List.countP_filter, List.countP_eq_length_filter]
    refine List.Perm.length_eq
      ((List.perm_ext_iff_of_nodup (hall.filter _) hremoved).mpr fun entry => ?_)
    rw [List.mem_filter, Bool.and_eq_true, decide_eq_true_eq]
    exact ⟨fun hentry => hentry.2.2,
      fun hentry => ⟨(hsubset entry hentry).1, (hsubset entry hentry).2, hentry⟩⟩
  have hsplit := List.countP_eq_countP_filter_add all counted (· ∈ removed)
  rw [hgone] at hsplit
  simp only [decide_not] at hsplit ⊢
  omega

/-- Either few enough entries are left or none may go. -/
theorem countP_lt_or_taken (removable counted : α → Bool) (limit : ℕ) (hall : all.Nodup)
    (hitems : items.Nodup) (hsubset : ∀ entry ∈ items, entry ∈ all)
    (hcounted : ∀ entry, removable entry = true → counted entry = true)
    (hcount : count = all.countP counted + 1 - limit) :
    (all.filter (· ∉ takeFirst removable count items)).countP counted < limit ∨
      ∀ entry ∈ items, removable entry = true → entry ∈ takeFirst removable count items := by
  by_cases hfew : (takeFirst removable count items).length < count
  · exact Or.inr fun entry => mem_takeFirst_of_length_lt hfew
  · refine Or.inl ?_
    have htaken : (takeFirst removable count items).Nodup :=
      (hitems.filter _).sublist (List.take_sublist _ _)
    have hleft := countP_filter_not_mem hall htaken fun entry hentry => by
      obtain ⟨hitem, hremovable⟩ := mem_of_mem_takeFirst hentry
      exact ⟨hsubset entry hitem, hcounted entry hremovable⟩
    omega

end BoundedQueue
