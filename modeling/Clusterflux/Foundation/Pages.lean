import Mathlib

/-!
# Reading a ranked list page by page

Entries are read from the highest rank downwards.  A page holds the next entries and,
if there are more, a mark of its last entry; the next page is asked for with that mark.
-/

namespace RankedPages

universe u

variable {α κ ε : Type u}

/-! ## Descending lists -/

/-- The highest rank first, and no rank twice. -/
def Descending (rank : α → ℕ) (entries : List α) : Prop :=
  entries.Pairwise fun earlier later => rank later < rank earlier

section Descending

variable {rank : α → ℕ} {left right front rest : List α}

theorem Descending.nodup (hdescending : Descending rank left) : left.Nodup :=
  hdescending.imp fun hrank heq => hrank.ne (congrArg rank heq).symm

/-- A descending list is determined by what is in it. -/
theorem Descending.eq_of_mem_iff (hleft : Descending rank left) (hright : Descending rank right)
    (hmem : ∀ entry, entry ∈ left ↔ entry ∈ right) : left = right := by
  have hperm : left.Perm right :=
    (List.perm_ext_iff_of_nodup hleft.nodup hright.nodup).mpr hmem
  refine List.Perm.eq_of_pairwise ?_ hleft hright hperm
  intro first second _ _ hfirst hsecond
  exact absurd hfirst (Nat.lt_asymm hsecond)

/-- Below the last entry that was read stand those that were not. -/
theorem Descending.mem_rest_iff {last entry : α}
    (hdescending : Descending rank (front ++ rest)) (hlast : front.getLast? = some last) :
    entry ∈ rest ↔ entry ∈ front ++ rest ∧ rank entry < rank last := by
  obtain ⟨earlier, rfl⟩ := List.getLast?_eq_some_iff.mp hlast
  obtain ⟨hfront, -, hacross⟩ := List.pairwise_append.mp hdescending
  constructor
  · intro hentry
    exact ⟨List.mem_append_right _ hentry, hacross last (by simp) entry hentry⟩
  · rintro ⟨hentry, hrank⟩
    rcases List.mem_append.mp hentry with hread | hrest
    · rcases List.mem_append.mp hread with hearlier | hsame
      · have habove := (List.pairwise_append.mp hfront).2.2 entry hearlier last (by simp)
        exact absurd hrank (Nat.lt_asymm habove)
      · rw [List.mem_singleton.mp hsame] at hrank
        exact absurd hrank (Nat.lt_irrefl _)
    · exact hrest

end Descending

/-! ## Walking through the pages -/

/-- The entries of pages of the given sizes, read one after the other until there are no
more. -/
def walk (page : Option κ → ℕ → Except ε (List α × Option κ)) :
    List ℕ → Option κ → Except ε (List α)
  | [], _ => .ok []
  | limit :: limits, mark => do
      let (entries, next) ← page mark limit
      match next with
      | none => return entries
      | some _ => return entries ++ (← walk page limits next)

/-- The page after the entries that were read, and the mark for the one after it. -/
def turn (mark : α → κ) (rest : List α) (limit : ℕ) : List α × Option κ :=
  (rest.take limit, if limit < rest.length then (rest.take limit).getLast?.map mark else none)

/-- Asked with the mark of the last entry that was read, `page` turns one page of the
list. -/
def TurnsPages (page : Option κ → ℕ → Except ε (List α × Option κ)) (mark : α → κ)
    (entries : List α) : Prop :=
  ∀ front rest, entries = front ++ rest → ∀ limit, 0 < limit →
    page (front.getLast?.map mark) limit = .ok (turn mark rest limit)

theorem TurnsPages.walk_rest {page : Option κ → ℕ → Except ε (List α × Option κ)}
    {mark : α → κ} {entries : List α} (hturns : TurnsPages page mark entries)
    {limits : List ℕ} (hlimits : ∀ limit ∈ limits, 0 < limit) :
    ∀ front rest, entries = front ++ rest →
      walk page limits (front.getLast?.map mark) = .ok (rest.take limits.sum) := by
  induction limits with
  | nil => simp [walk]
  | cons limit limits ih =>
    intro front rest hentries
    have hlimit : 0 < limit := hlimits limit (by simp)
    have hlater := ih fun other hother => hlimits other (List.mem_cons_of_mem _ hother)
    rw [walk, hturns front rest hentries limit hlimit, turn, List.sum_cons]
    by_cases hmore : limit < rest.length
    · -- The page is full, so its last entry becomes the next mark.
      have hpage : rest.take limit ≠ [] := by
        intro hempty
        have hsize := congrArg List.length hempty
        rw [List.length_take, List.length_nil] at hsize
        omega
      have hmark := List.getLast?_eq_some_getLast hpage
      have hnext := hlater (front ++ rest.take limit) (rest.drop limit)
        (by rw [List.append_assoc, List.take_append_drop, hentries])
      rw [List.getLast?_append, hmark, Option.some_or] at hnext
      rw [if_pos hmore, hmark, List.take_add]
      simp only [Option.map_some] at hnext ⊢
      change (do return rest.take limit ++ (← walk page limits (some (mark _)))) = _
      rw [hnext]
      rfl
    · rw [if_neg hmore, List.take_of_length_le (by omega), List.take_of_length_le (by omega)]
      rfl

/-- Whatever the sizes of the pages, they show the list from its start. -/
theorem TurnsPages.walk_eq_take {page : Option κ → ℕ → Except ε (List α × Option κ)}
    {mark : α → κ} {entries : List α} (hturns : TurnsPages page mark entries)
    {limits : List ℕ} (hlimits : ∀ limit ∈ limits, 0 < limit) :
    walk page limits none = .ok (entries.take limits.sum) :=
  hturns.walk_rest hlimits [] entries rfl

end RankedPages
