import Mathlib.Data.List.Sublists
import Mathlib.Data.List.Dedup

/-!
# Bounded queues

Queues that make room before a push: the oldest entries go first, either of the
whole queue or of the entries of one owner.
-/

namespace BoundedQueue

universe u

variable {α : Type u}

/-- Push at the back after removing from the front until fewer than `limit`
entries are left. -/
def push (limit : ℕ) (items : List α) (item : α) : List α :=
  items.drop (items.length + 1 - limit) ++ [item]

/-- Remove the first `count` entries with the property. -/
def dropFirst (property : α → Bool) : ℕ → List α → List α
  | 0, items => items
  | _ + 1, [] => []
  | count + 1, item :: items =>
    if property item then dropFirst property count items
    else item :: dropFirst property (count + 1) items

/-- The entries `dropFirst` removes, oldest first. -/
def takeFirst (property : α → Bool) (count : ℕ) (items : List α) : List α :=
  (items.filter property).take count

theorem dropFirst_sublist (property : α → Bool) (count : ℕ) (items : List α) :
    (dropFirst property count items).Sublist items := by
  induction items generalizing count with
  | nil => cases count <;> simp [dropFirst]
  | cons item items ih =>
    cases count with
    | zero => simp [dropFirst]
    | succ count =>
      by_cases hitem : property item
      · simpa [dropFirst, hitem] using (ih count).cons item
      · simpa [dropFirst, hitem] using (ih (count + 1)).cons_cons item

@[simp]
theorem dropFirst_zero (property : α → Bool) (items : List α) :
    dropFirst property 0 items = items := by
  cases items <;> rfl

/-- Every entry is either kept or among the removed ones. -/
theorem mem_dropFirst_or_mem_takeFirst (property : α → Bool) (count : ℕ)
    {items : List α} {entry : α} (hentry : entry ∈ items) :
    entry ∈ dropFirst property count items ∨ entry ∈ takeFirst property count items := by
  induction items generalizing count with
  | nil => simp at hentry
  | cons item items ih =>
    cases count with
    | zero => exact Or.inl (by simpa using hentry)
    | succ count =>
      rw [List.mem_cons] at hentry
      by_cases hitem : property item
      · rcases hentry with heq | hmem
        · simp [takeFirst, hitem, heq]
        · rcases ih count hmem with hkept | hremoved
          · exact Or.inl (by simpa [dropFirst, hitem] using hkept)
          · refine Or.inr ?_
            simp only [takeFirst, List.filter_cons, hitem, if_true, List.take_succ_cons]
            exact List.mem_cons_of_mem _ hremoved
      · rcases hentry with heq | hmem
        · simp [dropFirst, hitem, heq]
        · rcases ih (count + 1) hmem with hkept | hremoved
          · exact Or.inl (by simp [dropFirst, hitem, hkept])
          · exact Or.inr (by simpa [takeFirst, hitem] using hremoved)

end BoundedQueue
