import Clusterflux.Foundation.OrderedMaps

/-!
# Entries that expire

A map from keys to dates remembers what was seen.  An entry may be dropped once
the moment up to which its date obliges the map to keep it has passed, and a key
may be dated anew only while it is not in the map.  Then whatever was entered is
either still there under its date or has expired.
-/

namespace ExpiringEntries

open Std

variable {κ : Type} [Ord κ] [TransOrd κ]

/-- Keep the entries whose last moment has not passed. -/
def prune (lastMoment : ℕ → ℕ) (now : ℕ) (entries : ExtTreeMap κ ℕ compare) :
    ExtTreeMap κ ℕ compare :=
  entries.filter fun _ date => now ≤ lastMoment date

/-- The key is still in the map under its date, or its date has expired. -/
def Remembers (lastMoment : ℕ → ℕ) (entries : ExtTreeMap κ ℕ compare) (key : κ)
    (date now : ℕ) : Prop :=
  entries[key]? = some date ∨ lastMoment date < now

/-- What an admission at `now` may do to the entries. -/
inductive Admits (lastMoment : ℕ → ℕ) (now : ℕ) (entries : ExtTreeMap κ ℕ compare) :
    ExtTreeMap κ ℕ compare → Prop
  | refused : Admits lastMoment now entries entries
  | pruned : Admits lastMoment now entries (prune lastMoment now entries)
  | entered (key : κ) (date : ℕ) (hfresh : (prune lastMoment now entries)[key]? = none) :
      Admits lastMoment now entries ((prune lastMoment now entries).insert key date)

variable {lastMoment : ℕ → ℕ} {entries later : ExtTreeMap κ ℕ compare} {key : κ}
  {date now : ℕ}

theorem Remembers.mono {now' : ℕ} (hremembers : Remembers lastMoment entries key date now)
    (hnow : now ≤ now') : Remembers lastMoment entries key date now' :=
  hremembers.imp_right fun hexpired => hexpired.trans_le hnow

theorem getElem?_prune (key : κ) :
    (prune lastMoment now entries)[key]? =
      entries[key]?.filter fun date => now ≤ lastMoment date := by
  simp [prune]

variable (hremembers : Remembers lastMoment entries key date now)
include hremembers

/-- An entry that has not expired survives pruning. -/
theorem Remembers.getElem?_prune (hdate : now ≤ lastMoment date) :
    (prune lastMoment now entries)[key]? = some date := by
  have hentry : entries[key]? = some date := hremembers.resolve_right (by omega)
  rw [ExpiringEntries.getElem?_prune, hentry]
  simp [hdate]

theorem Remembers.prune : Remembers lastMoment (prune lastMoment now entries) key date now := by
  by_cases hdate : now ≤ lastMoment date
  · exact Or.inl (hremembers.getElem?_prune hdate)
  · exact Or.inr (by omega)

/-- No admission forgets an entry before it expires. -/
theorem Remembers.admits [LawfulEqOrd κ]
    (hadmits : Admits lastMoment now entries later) :
    Remembers lastMoment later key date now := by
  cases hadmits with
  | refused => exact hremembers
  | pruned => exact hremembers.prune
  | entered other otherDate hfresh =>
    refine hremembers.prune.imp_left fun hentry => ?_
    -- the key itself is not fresh, so the new entry is another one
    have hother : other ≠ key := by
      rintro rfl
      rw [hentry] at hfresh
      cases hfresh
    rw [OrderedMaps.getElem?_insert_eq_some_iff]
    exact Or.inr ⟨hother, hentry⟩

end ExpiringEntries
