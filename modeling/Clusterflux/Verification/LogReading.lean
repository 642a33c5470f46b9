import Clusterflux.Coordinator.RecentLogStore
import Clusterflux.Foundation.OrderedMaps

/-!
# Reading recent logs

The log store forgets entries under four bounds.  A reader follows one process
with a cursor while entries of any process arrive and are forgotten.  This module
keeps, next to the store, what was appended for each process since its logs were
last cleared, and shows that a reader who misses one of these entries has been
told that the history is truncated.  Sequence numbers end at the largest 64-bit
number, where the counter stays.
-/

namespace Clusterflux

open OrderedMaps RecentLogStore

variable {process : ProcessControlKey}

section

/-- The arguments of one append. -/
structure LogAppend where
  key : TaskRestartKey
  stream : TaskLogStream
  text : String
  truncated : Bool
  serverTimestampEpochSeconds : ℕ

variable {through sequence : ℕ} {entry : RecentLogEntry} {request : LogAppend}

namespace RecentLogStore

variable {store : RecentLogStore}

def performAppend (store : RecentLogStore) (request : LogAppend) : RecentLogStore :=
  store.append request.key request.stream request.text request.truncated
    request.serverTimestampEpochSeconds

/-- The entry an append stores. -/
def entryOf (store : RecentLogStore) (request : LogAppend) : RecentLogEntry :=
  let overlong := request.text.utf8ByteSize > maxRecentLogChunkBytes
  { sequence := store.nextRecentLogSequence
    process := request.key.process
    task := request.key.task
    stream := request.stream
    text := if overlong then
        String.ofList (truncateAtBoundary maxRecentLogChunkBytes request.text.toList)
      else request.text
    serverTimestampEpochSeconds := request.serverTimestampEpochSeconds
    truncated := request.truncated || overlong }

/-- The stored logs of a project. -/
def logs (store : RecentLogStore) (scope : TenantId × ProjectId) : List RecentLogEntry :=
  store.recentLogs[scope]?.getD []

/-- Entries of the process up to the sequence number may have been dropped. -/
def Dropped (store : RecentLogStore) (process : ProcessControlKey) (sequence : ℕ) : Prop :=
  ∃ through, store.recentLogDroppedThrough[process]? = some through ∧ sequence ≤ through

/-! ## What an append does -/

/-- Notes that an entry of a project was dropped. -/
def noteDropped (scope : TenantId × ProjectId) (dropped : OrderedMap ProcessControlKey ℕ)
    (entry : RecentLogEntry) : OrderedMap ProcessControlKey ℕ :=
  dropped.insert ⟨scope.1, scope.2, entry.process⟩
    (max (dropped[(⟨scope.1, scope.2, entry.process⟩ : ProcessControlKey)]?.getD 0) entry.sequence)

theorem through_noteDropped (scope : TenantId × ProjectId) (entry : RecentLogEntry)
    {dropped : OrderedMap ProcessControlKey ℕ} (hlookup : dropped[process]? = some through) :
    ∃ later, (noteDropped scope dropped entry)[process]? = some later ∧ through ≤ later := by
  rw [noteDropped, Std.ExtTreeMap.getElem?_insert]
  by_cases hprocess : (⟨scope.1, scope.2, entry.process⟩ : ProcessControlKey) = process
  · subst hprocess
    exact ⟨max through entry.sequence, by simp [hlookup], le_max_left _ _⟩
  · exact ⟨through, by simp [hprocess, hlookup], le_refl _⟩

theorem through_foldl_noteDropped {scope : TenantId × ProjectId} (entries : List RecentLogEntry)
    {dropped : OrderedMap ProcessControlKey ℕ} (hlookup : dropped[process]? = some through) :
    ∃ later, (entries.foldl (noteDropped scope) dropped)[process]? = some later ∧
      through ≤ later := by
  induction entries generalizing dropped through with
  | nil => exact ⟨through, hlookup, le_refl _⟩
  | cons entry entries ih =>
    obtain ⟨middle, hmiddle, hle⟩ := through_noteDropped scope entry hlookup
    obtain ⟨later, hlater, hmore⟩ := ih hmiddle
    exact ⟨later, hlater, hle.trans hmore⟩

/-- Every dropped entry is noted. -/
theorem through_of_mem_dropped {scope : TenantId × ProjectId} {entries : List RecentLogEntry}
    (dropped : OrderedMap ProcessControlKey ℕ) (hmem : entry ∈ entries) :
    ∃ through, (entries.foldl (noteDropped scope) dropped)[
        (⟨scope.1, scope.2, entry.process⟩ : ProcessControlKey)]? = some through ∧
      entry.sequence ≤ through := by
  induction entries generalizing dropped with
  | nil => cases hmem
  | cons first entries ih =>
    rcases List.mem_cons.mp hmem with rfl | hrest
    · have hnoted : (noteDropped scope dropped entry)[
          (⟨scope.1, scope.2, entry.process⟩ : ProcessControlKey)]? =
            some (max (dropped[(⟨scope.1, scope.2, entry.process⟩ :
              ProcessControlKey)]?.getD 0) entry.sequence) := by
        rw [noteDropped, Std.ExtTreeMap.getElem?_insert_self]
      obtain ⟨through, hthrough, hle⟩ := through_foldl_noteDropped entries hnoted
      exact ⟨through, hthrough, (le_max_right _ _).trans hle⟩
    · exact ih (noteDropped scope dropped first) hrest

theorem mem_drop_or_mem_entriesOverBudget (newBytes : ℕ) {entries : List RecentLogEntry}
    (hmem : entry ∈ entries) :
    entry ∈ entries.drop (entriesOverBudget newBytes entries).length ∨
      entry ∈ entriesOverBudget newBytes entries := by
  induction entries with
  | nil => cases hmem
  | cons first entries ih =>
    rw [entriesOverBudget]
    split
    · rcases List.mem_cons.mp hmem with rfl | hrest
      · exact Or.inr (List.mem_cons_self ..)
      · rcases ih hrest with hkept | hdropped
        · exact Or.inl (by simpa using hkept)
        · exact Or.inr (List.mem_cons_of_mem _ hdropped)
    · exact Or.inl (by simpa using hmem)

/-- The entries of the process that go first, and the rest. -/
def overProcessLimit (store : RecentLogStore) (request : LogAppend) :
    List RecentLogEntry × List RecentLogEntry :=
  let logs := store.logs (request.key.tenant, request.key.project)
  let sameProcess := fun entry : RecentLogEntry => decide (entry.process = request.key.process)
  let excess := logs.countP sameProcess + 1 - maxRecentLogEntriesPerProcess
  (BoundedQueue.takeFirst sameProcess excess logs, BoundedQueue.dropFirst sameProcess excess logs)

/-- The entries an append drops. -/
def droppedBy (store : RecentLogStore) (request : LogAppend) : List RecentLogEntry :=
  (store.overProcessLimit request).1 ++
    entriesOverBudget (store.entryOf request).text.utf8ByteSize (store.overProcessLimit request).2

/-- The entries of the project an append keeps. -/
def keptBy (store : RecentLogStore) (request : LogAppend) : List RecentLogEntry :=
  (store.overProcessLimit request).2.drop
    (entriesOverBudget (store.entryOf request).text.utf8ByteSize
      (store.overProcessLimit request).2).length

theorem recentLogs_performAppend (request : LogAppend) : (store.performAppend request).recentLogs =
      store.recentLogs.insert (request.key.tenant, request.key.project)
        (store.keptBy request ++ [store.entryOf request]) := by
  simp only [performAppend, append, keptBy, overProcessLimit, entryOf, logs]

theorem droppedThrough_performAppend (request : LogAppend) :
    (store.performAppend request).recentLogDroppedThrough = (store.droppedBy request).foldl
        (noteDropped (request.key.tenant, request.key.project))
        store.recentLogDroppedThrough := by
  simp only [performAppend, append, droppedBy, overProcessLimit, entryOf, logs]
  rfl

theorem logs_performAppend_self (request : LogAppend) :
    (store.performAppend request).logs (request.key.tenant, request.key.project) =
      store.keptBy request ++ [store.entryOf request] := by
  rw [logs, recentLogs_performAppend, Std.ExtTreeMap.getElem?_insert_self, Option.getD_some]

theorem logs_performAppend_of_ne {scope : TenantId × ProjectId}
    (hscope : (request.key.tenant, request.key.project) ≠ scope) :
    (store.performAppend request).logs scope = store.logs scope := by
  rw [logs, logs, recentLogs_performAppend, Std.ExtTreeMap.getElem?_insert, if_neg]
  simpa using hscope

theorem keptBy_sublist (request : LogAppend) :
    (store.keptBy request).Sublist (store.logs (request.key.tenant, request.key.project)) := by
  simp only [keptBy, overProcessLimit]
  exact (List.drop_sublist _ _).trans (BoundedQueue.dropFirst_sublist _ _ _)

theorem mem_keptBy_or_mem_droppedBy
    (hmem : entry ∈ store.logs (request.key.tenant, request.key.project)) :
    entry ∈ store.keptBy request ∨ entry ∈ store.droppedBy request := by
  simp only [keptBy, droppedBy, overProcessLimit]
  rcases BoundedQueue.mem_dropFirst_or_mem_takeFirst _ _ hmem with hkept | hdropped
  · rcases mem_drop_or_mem_entriesOverBudget _ hkept with hstays | hgoes
    · exact Or.inl hstays
    · exact Or.inr (List.mem_append_right _ hgoes)
  · exact Or.inr (List.mem_append_left _ hdropped)

theorem Dropped.performAppend (hdropped : store.Dropped process sequence) (request : LogAppend) :
    (store.performAppend request).Dropped process sequence := by
  obtain ⟨through, hlookup, hle⟩ := hdropped
  obtain ⟨later, hlater, hmore⟩ := through_foldl_noteDropped (store.droppedBy request) hlookup
  rw [Dropped, droppedThrough_performAppend]
  exact ⟨later, hlater, hle.trans hmore⟩

/-- What an append does not keep is noted as dropped. -/
theorem kept_or_dropped (hmem : entry ∈ store.logs (request.key.tenant, request.key.project)) :
    entry ∈ store.keptBy request ∨ (store.performAppend request).Dropped
        ⟨request.key.tenant, request.key.project, entry.process⟩ entry.sequence := by
  rcases mem_keptBy_or_mem_droppedBy hmem with hkept | hdropped
  · exact Or.inl hkept
  · rw [Dropped, droppedThrough_performAppend]
    exact Or.inr (through_of_mem_dropped _ hdropped)

/-! ## Clearing -/

theorem logs_clearProcess (process : ProcessControlKey) (scope : TenantId × ProjectId) :
    (store.clearProcess process).logs scope =
      if (process.tenant, process.project) = scope then
        (store.logs scope).filter (·.process ≠ process.process)
      else store.logs scope := by
  rw [logs, logs, clearProcess]
  simp only [forgetStreams]
  cases hlookup : store.recentLogs[(process.tenant, process.project)]? with
  | none =>
    simp only
    split
    · rename_i hscope
      rw [← hscope, hlookup]
      rfl
    · rfl
  | some entries =>
    cases hfilter : entries.filter (·.process ≠ process.process) with
    | nil =>
      simp only [hfilter, Std.ExtTreeMap.getElem?_erase, Std.LawfulEqCmp.compare_eq_iff_eq]
      split
      · rename_i hscope
        rw [← hscope, hlookup, Option.getD_some, hfilter, Option.getD_none]
      · rfl
    | cons first rest =>
      simp only [hfilter, Std.ExtTreeMap.getElem?_insert, Std.LawfulEqCmp.compare_eq_iff_eq]
      split
      · rename_i hscope
        rw [← hscope, hlookup, Option.getD_some, Option.getD_some, hfilter]
      · rfl

end RecentLogStore

/-! ## Histories -/

inductive LogOperation where
  | append (request : LogAppend)
  | clearTask (task : TaskRestartKey)
  | clearProcess (process : ProcessControlKey)

/-- A store with what was appended for each process since its logs were last
cleared, and the number of all appends. -/
structure LogHistory where
  store : RecentLogStore := {}
  appended : ProcessControlKey → List RecentLogEntry := fun _ => []
  count : ℕ := 0

variable {operation : LogOperation}

namespace LogHistory

def perform (history : LogHistory) : LogOperation → LogHistory
  | .append request =>
    { store := history.store.performAppend request
      appended := Function.update history.appended request.key.toProcessControlKey
        (history.appended request.key.toProcessControlKey ++ [history.store.entryOf request])
      count := history.count + 1 }
  | .clearTask task => { history with store := history.store.clearTask task }
  | .clearProcess process =>
    { history with
      store := history.store.clearProcess process
      appended := Function.update history.appended process [] }

/-- Every appended entry is stored or noted as dropped, and the stored entries
are the appended ones in the order of their sequence numbers. -/
structure Complete (history : LogHistory) : Prop where
  counter : history.count < u64Max → history.store.nextRecentLogSequence = history.count + 1
  appended : ∀ process, ∀ entry ∈ history.appended process,
    entry.process = process.process ∧ entry.sequence ≤ history.count ∧
      (entry ∈ history.store.logs (process.tenant, process.project) ∨
        history.store.Dropped process entry.sequence)
  stored : ∀ scope, ∀ entry ∈ history.store.logs scope,
    entry ∈ history.appended ⟨scope.1, scope.2, entry.process⟩
  ordered : ∀ scope, (history.store.logs scope).Pairwise (·.sequence < ·.sequence)

theorem complete_empty : ({} : LogHistory).Complete where
  counter _ := rfl
  appended _ entry hmem := by cases hmem
  stored scope entry hmem := by
    change entry ∈ (∅ : OrderedMap (TenantId × ProjectId) (List RecentLogEntry))[scope]?.getD []
      at hmem
    simp at hmem
  ordered scope := by
    change List.Pairwise _
      ((∅ : OrderedMap (TenantId × ProjectId) (List RecentLogEntry))[scope]?.getD [])
    simp

variable {history : LogHistory}

theorem Complete.sequence_le (hcomplete : history.Complete) {scope : TenantId × ProjectId}
    (hmem : entry ∈ history.store.logs scope) :
    entry.sequence ≤ history.count :=
  (hcomplete.appended _ entry (hcomplete.stored scope entry hmem)).2.1

theorem mem_appended_append :
    entry ∈ (history.perform (.append request)).appended process ↔
      entry ∈ history.appended process ∨
        (process = request.key.toProcessControlKey ∧ entry = history.store.entryOf request) := by
  change entry ∈ Function.update history.appended _ _ process ↔ _
  by_cases hprocess : process = request.key.toProcessControlKey
  · subst hprocess
    rw [Function.update_self, List.mem_append, List.mem_singleton]
    simp
  · rw [Function.update_of_ne hprocess]
    simp [hprocess]

theorem mem_logs_append {scope : TenantId × ProjectId}
    (hmem : entry ∈ (history.store.performAppend request).logs scope) :
    entry ∈ history.store.logs scope ∨ ((request.key.tenant, request.key.project) = scope ∧
        entry = history.store.entryOf request) := by
  by_cases hscope : (request.key.tenant, request.key.project) = scope
  · rw [← hscope, logs_performAppend_self, List.mem_append,
      List.mem_singleton] at hmem
    rcases hmem with hkept | hnew
    · exact Or.inl (hscope ▸ (keptBy_sublist request).subset hkept)
    · exact Or.inr ⟨hscope, hnew⟩
  · rw [logs_performAppend_of_ne hscope] at hmem
    exact Or.inl hmem

/-- An append leaves every stored entry stored or notes that it was dropped. -/
theorem stored_or_dropped_append (hprocess : entry.process = process.process)
    (hstored : entry ∈ history.store.logs (process.tenant, process.project)) :
    entry ∈ (history.store.performAppend request).logs (process.tenant, process.project) ∨
      (history.store.performAppend request).Dropped process entry.sequence := by
  by_cases hscope : (request.key.tenant, request.key.project) = (process.tenant, process.project)
  · rw [← hscope] at hstored
    rcases kept_or_dropped hstored with hkept | hdropped
    · left
      rw [← hscope, logs_performAppend_self]
      exact List.mem_append_left _ hkept
    · right
      obtain ⟨htenant, hproject⟩ := Prod.mk.inj hscope
      rwa [htenant, hproject, hprocess] at hdropped
  · left
    rwa [logs_performAppend_of_ne hscope]

section

variable (hcomplete : history.Complete)
include hcomplete

theorem Complete.append (hroom : history.count < u64Max) (request : LogAppend) :
    (history.perform (.append request)).Complete where
  counter hnext := by
    change saturatingAdd history.store.nextRecentLogSequence 1 = history.count + 1 + 1
    change history.count + 1 < u64Max at hnext
    rw [hcomplete.counter hroom, saturatingAdd]
    omega
  appended process entry hmem := by
    have hsequence : (history.store.entryOf request).sequence = history.count + 1 :=
      hcomplete.counter hroom
    rcases mem_appended_append.mp hmem with hold | ⟨rfl, rfl⟩
    · obtain ⟨hprocess, hle, hkept⟩ := hcomplete.appended process entry hold
      refine ⟨hprocess, hle.trans (Nat.le_succ _), ?_⟩
      rcases hkept with hstored | hdropped
      · exact stored_or_dropped_append hprocess hstored
      · exact Or.inr (hdropped.performAppend request)
    · refine ⟨rfl, hsequence.le, Or.inl ?_⟩
      change _ ∈ (history.store.performAppend request).logs
        (request.key.tenant, request.key.project)
      rw [logs_performAppend_self]
      exact List.mem_append_right _ (List.mem_singleton_self _)
  stored scope entry hmem := by
    apply mem_appended_append.mpr
    rcases mem_logs_append hmem with hold | ⟨rfl, rfl⟩
    · exact Or.inl (hcomplete.stored scope entry hold)
    · exact Or.inr ⟨rfl, rfl⟩
  ordered scope := by
    change ((history.store.performAppend request).logs scope).Pairwise _
    by_cases hscope : (request.key.tenant, request.key.project) = scope
    · rw [← hscope, logs_performAppend_self, List.pairwise_append]
      refine ⟨(hcomplete.ordered _).sublist (keptBy_sublist request),
        List.pairwise_singleton _ _, fun entry hmem new hnew => ?_⟩
      rw [List.mem_singleton.mp hnew]
      change entry.sequence < history.store.nextRecentLogSequence
      rw [hcomplete.counter hroom]
      exact Nat.lt_succ_of_le (hcomplete.sequence_le
        ((keptBy_sublist request).subset hmem))
    · rw [logs_performAppend_of_ne hscope]
      exact hcomplete.ordered scope

theorem Complete.clearTask (task : TaskRestartKey) :
    (history.perform (.clearTask task)).Complete where
  counter := hcomplete.counter
  appended := hcomplete.appended
  stored := hcomplete.stored
  ordered := hcomplete.ordered

theorem Complete.clearProcess (process : ProcessControlKey) :
    (history.perform (.clearProcess process)).Complete where
  counter := hcomplete.counter
  appended other entry hmem := by
    change entry ∈ Function.update history.appended process [] other at hmem
    by_cases hother : other = process
    · rw [hother, Function.update_self] at hmem
      cases hmem
    rw [Function.update_of_ne hother] at hmem
    obtain ⟨hprocess, hle, hkept⟩ := hcomplete.appended other entry hmem
    refine ⟨hprocess, hle, ?_⟩
    rcases hkept with hstored | ⟨through, hlookup, hthrough⟩
    · left
      change entry ∈ (history.store.clearProcess process).logs _
      rw [logs_clearProcess]
      split
      · rename_i hscope
        apply List.mem_filter.mpr
        refine ⟨hstored, ?_⟩
        simp only [ne_eq, decide_not, Bool.not_eq_true', decide_eq_false_iff_not]
        intro hsame
        apply hother
        obtain ⟨htenant, hproject⟩ := Prod.mk.inj hscope
        cases other
        cases process
        simp_all
      · exact hstored
    · right
      refine ⟨through, ?_, hthrough⟩
      change (history.store.recentLogDroppedThrough.erase process)[other]? = some through
      exact getElem?_erase_eq_some_iff.mpr ⟨Ne.symm hother, hlookup⟩
  stored scope entry hmem := by
    change entry ∈ (history.store.clearProcess process).logs scope at hmem
    change entry ∈ Function.update history.appended process [] _
    rw [logs_clearProcess] at hmem
    have hstored : entry ∈ history.store.logs scope := by
      split at hmem
      · exact (List.mem_filter.mp hmem).1
      · exact hmem
    rw [Function.update_of_ne]
    · exact hcomplete.stored scope entry hstored
    · rintro rfl
      simp at hmem
  ordered scope := by
    change ((history.store.clearProcess process).logs scope).Pairwise _
    rw [logs_clearProcess]
    split
    · exact (hcomplete.ordered scope).filter _
    · exact hcomplete.ordered scope

theorem Complete.perform (hroom : ∀ request, operation = .append request → history.count < u64Max) :
    (history.perform operation).Complete := by
  cases operation with
  | append request => exact hcomplete.append (hroom request rfl) request
  | clearTask task => exact hcomplete.clearTask task
  | clearProcess process => exact hcomplete.clearProcess process

end

/-! ## Listing -/

/-- The stored entries of a process after a cursor. -/
def after (history : LogHistory) (process : ProcessControlKey) (cursor : ℕ) : List RecentLogEntry :=
  (history.store.logs (process.tenant, process.project)).filter fun entry =>
    entry.process = process.process ∧ entry.sequence > cursor

theorem list_fst (process : ProcessControlKey) (cursor limit : ℕ) :
    (history.store.list process none cursor limit).1 =
      (history.after process cursor).take limit := by
  simp [list, after, RecentLogStore.logs]

theorem mem_after_iff {cursor : ℕ} :
    entry ∈ history.after process cursor ↔
      entry ∈ history.store.logs (process.tenant, process.project) ∧
        entry.process = process.process ∧ cursor < entry.sequence := by
  simp [after]

theorem Complete.after_ordered (hcomplete : history.Complete) (process : ProcessControlKey)
    (cursor : ℕ) : (history.after process cursor).Pairwise (·.sequence < ·.sequence) :=
  (hcomplete.ordered _).filter _

/-- Without the mark, no entry after the cursor has been dropped. -/
theorem not_dropped_of_not_truncated {cursor limit sequence : ℕ}
    (hcomplete : (history.store.list process none cursor limit).2 = false)
    (hsequence : cursor < sequence) : ¬ history.store.Dropped process sequence := by
  rintro ⟨through, hlookup, hle⟩
  rw [list, hlookup] at hcomplete
  simp only [Option.any_some, decide_eq_false_iff_not, not_lt] at hcomplete
  omega

/-- Without the mark, the entries after the cursor are all stored. -/
theorem Complete.mem_after (hcomplete : history.Complete) {cursor limit : ℕ}
    (hmark : (history.store.list process none cursor limit).2 = false)
    (hentry : entry ∈ history.appended process) (hcursor : cursor < entry.sequence) :
    entry ∈ history.after process cursor := by
  obtain ⟨hprocess, -, hkept⟩ := hcomplete.appended process entry hentry
  rcases hkept with hstored | hdropped
  · exact mem_after_iff.mpr ⟨hstored, hprocess, hcursor⟩
  · exact absurd hdropped (not_dropped_of_not_truncated hmark hcursor)

theorem Complete.appended_of_mem_after (hcomplete : history.Complete) {cursor : ℕ}
    (hentry : entry ∈ history.after process cursor) : entry ∈ history.appended process := by
  obtain ⟨hstored, hprocess, -⟩ := mem_after_iff.mp hentry
  have happended := hcomplete.stored _ entry hstored
  rwa [hprocess] at happended

end LogHistory

/-! ## Paging -/

section Pages

variable {cursor limit : ℕ} {entries : List RecentLogEntry}

/-- The sequence number of the last entry of a page; an empty page leaves the
cursor. -/
def pageCursor (cursor : ℕ) (page : List RecentLogEntry) : ℕ :=
  (page.getLast?.map (·.sequence)).getD cursor

theorem pageCursor_of_mem (hordered : entries.Pairwise (·.sequence < ·.sequence))
    (hmem : entry ∈ entries) :
    entry.sequence ≤ pageCursor cursor entries := by
  induction entries using List.reverseRecOn with
  | nil => cases hmem
  | append_singleton entries last =>
    rw [pageCursor, List.getLast?_concat, Option.map_some, Option.getD_some]
    rcases List.mem_append.mp hmem with hbefore | hlast
    · exact ((List.pairwise_append.mp hordered).2.2 entry hbefore last
        (List.mem_singleton_self _)).le
    · rw [List.mem_singleton.mp hlast]

theorem pageCursor_eq_or_mem (cursor : ℕ) (entries : List RecentLogEntry) :
    (entries = [] ∧ pageCursor cursor entries = cursor) ∨
      ∃ entry ∈ entries, pageCursor cursor entries = entry.sequence := by
  induction entries using List.reverseRecOn with
  | nil => exact Or.inl ⟨rfl, rfl⟩
  | append_singleton entries last =>
    right
    refine ⟨last, List.mem_append_right _ (List.mem_singleton_self _), ?_⟩
    rw [pageCursor, List.getLast?_concat, Option.map_some, Option.getD_some]

/-- What a page of an ordered list leaves out is behind its cursor. -/
theorem mem_take_of_le_pageCursor (hordered : entries.Pairwise (·.sequence < ·.sequence))
    (hmem : entry ∈ entries) (hafter : cursor < entry.sequence)
    (hle : entry.sequence ≤ pageCursor cursor (entries.take limit)) :
    entry ∈ entries.take limit := by
  rcases pageCursor_eq_or_mem cursor (entries.take limit) with ⟨-, hsame⟩ | ⟨last, hlast, hcursor⟩
  · omega
  · rw [← List.take_append_drop limit entries, List.mem_append] at hmem
    rcases hmem with hpage | hrest
    · exact hpage
    · rw [← List.take_append_drop limit entries, List.pairwise_append] at hordered
      have hbehind := hordered.2.2 last hlast entry hrest
      omega

end Pages

/-- A reader of one process. -/
structure LogReader where
  cursor : ℕ
  collected : List RecentLogEntry := []
  /-- Some page reported that the history is truncated. -/
  truncated : Bool := false

/-- Reads a page and moves the cursor to its last entry. -/
def LogReader.page (reader : LogReader) (store : RecentLogStore) (process : ProcessControlKey)
    (limit : ℕ) : LogReader :=
  let (entries, historyTruncated) := store.list process none reader.cursor limit
  { cursor := pageCursor reader.cursor entries
    collected := reader.collected ++ entries
    truncated := reader.truncated || historyTruncated }

inductive ReaderStep where
  | write (operation : LogOperation)
  | page (limit : ℕ)

def ReaderStep.isAppend : ReaderStep → Bool
  | .write (.append _) => true
  | _ => false

structure LogSession where
  history : LogHistory
  reader : LogReader

variable {steps : List ReaderStep}

namespace LogSession

def perform (process : ProcessControlKey) (session : LogSession) : ReaderStep → LogSession
  | .write operation => { session with history := session.history.perform operation }
  | .page limit =>
    { session with reader := session.reader.page session.history.store process limit }

/-- The reader has what was appended between its first cursor and its present
one, in order, unless it was told that something is missing. -/
structure Follows (process : ProcessControlKey) (start : ℕ) (session : LogSession) : Prop where
  complete : session.history.Complete
  increasing : session.reader.collected.Pairwise (·.sequence < ·.sequence)
  below : ∀ entry ∈ session.reader.collected, entry.sequence ≤ session.reader.cursor
  start_le : start ≤ session.reader.cursor
  cursor : session.reader.cursor = start ∨ session.reader.cursor ≤ session.history.count
  nothing_missing : session.reader.truncated = false →
    ∀ entry ∈ session.history.appended process, start < entry.sequence →
      entry.sequence ≤ session.reader.cursor → entry ∈ session.reader.collected

variable {process : ProcessControlKey} {start : ℕ} {session : LogSession}

theorem count_perform_write (operation : LogOperation) :
    session.history.count ≤ (session.history.perform operation).count := by
  cases operation with
  | append request => exact Nat.le_succ _
  | clearTask task => exact le_refl _
  | clearProcess cleared => exact le_refl _

theorem Follows.write (hfollows : Follows process start session)
    (hroom : ∀ request, operation = .append request → session.history.count < u64Max) :
    Follows process start (session.perform process (.write operation)) where
  complete := hfollows.complete.perform hroom
  increasing := hfollows.increasing
  below := hfollows.below
  start_le := hfollows.start_le
  cursor := hfollows.cursor.imp_right fun hle => hle.trans (count_perform_write operation)
  nothing_missing htruncated entry hentry hstart hcursor := by
    apply hfollows.nothing_missing htruncated entry ?_ hstart hcursor
    change entry ∈ (session.history.perform operation).appended process at hentry
    change entry.sequence ≤ session.reader.cursor at hcursor
    cases operation with
    | append request =>
      rcases LogHistory.mem_appended_append.mp hentry with hold | ⟨-, rfl⟩
      · exact hold
      · -- A new entry is behind every cursor that the reader got from a page.
        have hsequence : (session.history.store.entryOf request).sequence =
            session.history.count + 1 := hfollows.complete.counter (hroom request rfl)
        rcases hfollows.cursor with hsame | hle <;> omega
    | clearTask task => exact hentry
    | clearProcess cleared =>
      change entry ∈ Function.update session.history.appended cleared [] process at hentry
      by_cases hprocess : process = cleared
      · rw [hprocess, Function.update_self] at hentry
        cases hentry
      · rwa [Function.update_of_ne hprocess] at hentry

theorem Follows.page (hfollows : Follows process start session) (limit : ℕ) :
    Follows process start (session.perform process (.page limit)) := by
  have hordered := hfollows.complete.after_ordered process session.reader.cursor
  have hpage : ∀ entry ∈ (session.history.after process session.reader.cursor).take limit,
      session.reader.cursor < entry.sequence :=
    fun entry hmem => (LogHistory.mem_after_iff.mp (List.mem_of_mem_take hmem)).2.2
  have hpageOrdered := hordered.sublist (List.take_sublist limit _)
  have hforward : session.reader.cursor ≤ pageCursor session.reader.cursor
      ((session.history.after process session.reader.cursor).take limit) := by
    rcases pageCursor_eq_or_mem session.reader.cursor
      ((session.history.after process session.reader.cursor).take limit) with
        ⟨-, hsame⟩ | ⟨entry, hmem, hcursor⟩
    · rw [hsame]
    · rw [hcursor]
      exact (hpage entry hmem).le
  refine ⟨hfollows.complete, ?_, ?_, ?_, ?_, ?_⟩ <;>
    simp only [perform, LogReader.page, LogHistory.list_fst]
  · refine List.pairwise_append.mpr ⟨hfollows.increasing, hpageOrdered, ?_⟩
    intro old hold entry hmem
    exact (hfollows.below old hold).trans_lt (hpage entry hmem)
  · intro entry hmem
    rcases List.mem_append.mp hmem with hold | hnew
    · exact (hfollows.below entry hold).trans hforward
    · exact pageCursor_of_mem hpageOrdered hnew
  · exact hfollows.start_le.trans hforward
  · rcases pageCursor_eq_or_mem session.reader.cursor
      ((session.history.after process session.reader.cursor).take limit) with
        ⟨-, hsame⟩ | ⟨entry, hmem, hcursor⟩
    · rw [hsame]
      exact hfollows.cursor
    · right
      rw [hcursor]
      exact hfollows.complete.sequence_le
        (LogHistory.mem_after_iff.mp (List.mem_of_mem_take hmem)).1
  · intro htruncated entry hentry hstart hle
    rw [Bool.or_eq_false_iff] at htruncated
    apply List.mem_append.mpr
    by_cases hold : entry.sequence ≤ session.reader.cursor
    · exact Or.inl (hfollows.nothing_missing htruncated.1 entry hentry hstart hold)
    · have hafter := hfollows.complete.mem_after htruncated.2 hentry (not_le.mp hold)
      exact Or.inr (mem_take_of_le_pageCursor hordered hafter (not_le.mp hold) hle)

/-- The session after the steps, from an empty store. -/
def run (process : ProcessControlKey) (start : ℕ) (steps : List ReaderStep) : LogSession :=
  steps.foldl (perform process) ⟨{}, { cursor := start }⟩

theorem run_append_singleton {step : ReaderStep} :
    run process start (steps ++ [step]) = (run process start steps).perform process step := by
  rw [run, List.foldl_append]
  rfl

theorem count_run (steps : List ReaderStep) :
    (run process start steps).history.count = steps.countP ReaderStep.isAppend := by
  induction steps using List.reverseRecOn with
  | nil => rfl
  | append_singleton steps step ih =>
    rw [run_append_singleton, List.countP_append, ← ih]
    rcases step with ⟨request | task | cleared⟩ | limit <;> rfl

theorem follows_run (hcount : steps.countP ReaderStep.isAppend ≤ u64Max) :
    Follows process start (run process start steps) := by
  induction steps using List.reverseRecOn with
  | nil =>
    refine ⟨LogHistory.complete_empty, List.Pairwise.nil, ?_, le_refl _, Or.inl rfl, ?_⟩
    · intro entry hmem
      cases hmem
    · intro _ entry hmem
      cases hmem
  | append_singleton steps step ih =>
    rw [List.countP_append] at hcount
    have hfollows := ih ((Nat.le_add_right _ _).trans hcount)
    rw [run_append_singleton]
    cases step with
    | page limit => exact hfollows.page limit
    | write operation =>
      apply hfollows.write
      rintro request rfl
      rw [count_run]
      have hone : [ReaderStep.write (.append request)].countP ReaderStep.isAppend = 1 := rfl
      omega

end LogSession

/-- In every run of at most `2 ^ 64 - 1` appends, with any clearing and paging in
between: listing a process after any cursor with a limit that cuts nothing returns
entries of the process since its last clearing in strictly increasing order, and
all of those after the cursor unless it reports a truncated history; and a reader
who pages with any limits from any cursor has received entries in strictly
increasing order, and all of those up to its present cursor unless some page
reported a truncated history. -/
theorem reader_misses_nothing_silently (process : ProcessControlKey) (start : ℕ)
    (steps : List ReaderStep) (hcount : steps.countP ReaderStep.isAppend ≤ u64Max) :
    let session := LogSession.run process start steps
    (∀ (listed : ProcessControlKey) cursor limit,
        (session.history.store.logs (listed.tenant, listed.project)).length ≤ limit →
        let page := session.history.store.list listed none cursor limit
        page.1.Pairwise (·.sequence < ·.sequence) ∧
          (∀ entry ∈ page.1, entry ∈ session.history.appended listed) ∧
          (page.2 = false → ∀ entry ∈ session.history.appended listed, cursor < entry.sequence →
              entry ∈ page.1)) ∧
      session.reader.collected.Pairwise (·.sequence < ·.sequence) ∧
      (session.reader.truncated = false →
        ∀ entry ∈ session.history.appended process, start < entry.sequence →
          entry.sequence ≤ session.reader.cursor → entry ∈ session.reader.collected) := by
  intro session
  have hfollows : LogSession.Follows process start session := LogSession.follows_run hcount
  refine ⟨fun listed cursor limit hlimit => ?_, hfollows.increasing, hfollows.nothing_missing⟩
  have hall : (session.history.store.list listed none cursor limit).1 =
      session.history.after listed cursor := by
    rw [LogHistory.list_fst]
    exact List.take_of_length_le ((List.length_filter_le _ _).trans hlimit)
  refine ⟨?_, ?_, ?_⟩
  · rw [hall]
    exact hfollows.complete.after_ordered listed cursor
  · intro entry hmem
    rw [hall] at hmem
    exact hfollows.complete.appended_of_mem_after hmem
  · intro hmark entry hentry hcursor
    rw [hall]
    exact hfollows.complete.mem_after hmark hentry hcursor

end

namespace LogSample

/-- A short line of a process of one of two projects. -/
def line (project : ProjectId) : LogAppend where
  key := ⟨⟨⟨"tenant", tenant_valid⟩, project, ⟨"process", process_valid⟩⟩, ⟨"task", task_valid⟩⟩
  stream := .stdout
  text := "line"
  truncated := false
  serverTimestampEpochSeconds := 0

def busy : ProjectId := ⟨"busy", by decide⟩

def quiet : ProjectId := ⟨"quiet", by decide⟩

def quietProcess : ProcessControlKey := (line quiet).key.toProcessControlKey

/-- As many lines as there are sequence numbers before the last one. -/
def busySteps : List ReaderStep := List.replicate (u64Max - 1) (.write (.append (line busy)))

def quietStep : ReaderStep := .write (.append (line quiet))

theorem logs_quiet_replicate (count : ℕ) : (LogSession.run quietProcess 0
      (List.replicate count (.write (.append (line busy))))).history.store.logs
        (quietProcess.tenant, quietProcess.project) = [] := by
  induction count with
  | zero => rfl
  | succ count ih =>
    rw [List.replicate_succ', LogSession.run_append_singleton]
    exact (logs_performAppend_of_ne (by decide)).trans ih

theorem text_entryOf_line (store : RecentLogStore) :
    (store.entryOf (line quiet)).text = "line" := by
  have hshort : ¬ (line quiet).text.utf8ByteSize > maxRecentLogChunkBytes := by decide
  simp only [RecentLogStore.entryOf, hshort, if_false]
  rfl

/-- A second short line is put behind the first. -/
theorem logs_quiet_second {store : RecentLogStore} {first : RecentLogEntry}
    (hlogs : store.logs (quietProcess.tenant, quietProcess.project) = [first])
    (htext : first.text = "line") :
    (store.performAppend (line quiet)).logs (quietProcess.tenant, quietProcess.project) =
      [first, store.entryOf (line quiet)] := by
  have hlimit : (store.overProcessLimit (line quiet)).2 = [first] := by
    have hexcess : [first].countP (fun entry => decide (entry.process = (line quiet).key.process)) +
        1 - maxRecentLogEntriesPerProcess = 0 := by
      have hcount := List.countP_le_length (l := [first])
        (p := fun entry => decide (entry.process = (line quiet).key.process))
      rw [List.length_singleton] at hcount
      rw [maxRecentLogEntriesPerProcess]
      omega
    rw [quietProcess] at hlogs
    simp only [RecentLogStore.overProcessLimit, hlogs, hexcess, BoundedQueue.dropFirst_zero]
  have hbudget : entriesOverBudget (store.entryOf (line quiet)).text.utf8ByteSize [first] = [] := by
    rw [entriesOverBudget, List.map_singleton, List.sum_singleton, List.length_singleton, htext,
      text_entryOf_line]
    exact if_neg (by decide)
  have hkept : store.keptBy (line quiet) = [first] := by
    rw [RecentLogStore.keptBy, hlimit, hbudget, List.length_nil, List.drop_zero]
  exact (logs_performAppend_self (line quiet)).trans (by rw [hkept]; rfl)

/-- Two lines of the process when the last sequence number has been reached. -/
theorem sequences_of_two_lines {store : RecentLogStore}
    (hnext : store.nextRecentLogSequence = u64Max)
    (hlogs : store.logs (quietProcess.tenant, quietProcess.project) = []) :
    (((store.performAppend (line quiet)).performAppend (line quiet)).list quietProcess none 0
      2).1.map (·.sequence) = [u64Max, u64Max] := by
  have hkept : store.keptBy (line quiet) = [] := by
    apply List.eq_nil_of_subset_nil
    exact fun entry hmem => hlogs ▸ (keptBy_sublist (line quiet)).subset hmem
  have hfirst : (store.performAppend (line quiet)).logs
      (quietProcess.tenant, quietProcess.project) = [store.entryOf (line quiet)] := by
    refine (logs_performAppend_self (line quiet)).trans ?_
    rw [hkept, List.nil_append]
  have hsecond := logs_quiet_second hfirst (text_entryOf_line store)
  have hsequence : (store.entryOf (line quiet)).sequence = u64Max := hnext
  have hsequence' : ((store.performAppend (line quiet)).entryOf (line quiet)).sequence =
      u64Max := by
    change saturatingAdd store.nextRecentLogSequence 1 = u64Max
    rw [hnext]
    rfl
  have hprocess : ∀ other : RecentLogStore,
      (other.entryOf (line quiet)).process = quietProcess.process := fun _ => rfl
  have hpositive : 0 < u64Max := by decide
  rw [RecentLogStore.logs] at hsecond
  simp [list, hsecond, hprocess, hsequence, hsequence', hpositive]

end LogSample

open LogSample in
/-- After `2 ^ 64 - 2` lines of another project, two lines of a process get the
same sequence number. -/
theorem last_sequence_repeats : ((LogSession.run quietProcess 0
        (busySteps ++ [quietStep, quietStep])).history.store.list
          quietProcess none 0 2).1.map (·.sequence) = [u64Max, u64Max] := by
  have hcount : busySteps.countP ReaderStep.isAppend = u64Max - 1 := by
    rw [busySteps, List.countP_replicate]
    rfl
  have hfollows : LogSession.Follows quietProcess 0 (LogSession.run quietProcess 0 busySteps) :=
    LogSession.follows_run (hcount.le.trans (Nat.sub_le _ _))
  have hcounted : (LogSession.run quietProcess 0 busySteps).history.count = u64Max - 1 := by
    rw [LogSession.count_run, hcount]
  have hnext : (LogSession.run quietProcess 0
      busySteps).history.store.nextRecentLogSequence = u64Max := by
    rw [hfollows.complete.counter (by rw [hcounted]; decide), hcounted]
    decide
  have hempty : (LogSession.run quietProcess 0 busySteps).history.store.logs
        (quietProcess.tenant, quietProcess.project) = [] := by
    rw [busySteps, logs_quiet_replicate]
  rw [LogSession.run, List.foldl_append, ← LogSession.run]
  generalize LogSession.run quietProcess 0 busySteps = session at hnext hempty ⊢
  exact sequences_of_two_lines hnext hempty

open LogSample in
/-- Two pages with a line in between. -/
theorem two_pages_in_order :
    let steps := [quietStep, .page 1, quietStep, .page 4]
    (LogSession.run quietProcess 0 steps).reader.collected.map (·.sequence) = [1, 2] ∧
      (LogSession.run quietProcess 0 steps).reader.collected.Pairwise
        (·.sequence < ·.sequence) := by
  refine ⟨by decide +kernel, ?_⟩
  exact (reader_misses_nothing_silently quietProcess 0 _ (by decide)).2.1

end Clusterflux
