import Clusterflux.Foundation.BudgetedSweeps
import Clusterflux.Foundation.OrderedMaps
import Clusterflux.Node.ArtifactStore

/-!
# Collection of artifacts

The collector never removes a pinned artifact, removes every other one that is too old,
and beyond those as few as the limits allow, the oldest first.  It removes nothing at
all if a file has no proper name or if the sizes do not fit a machine word together.
-/

namespace Clusterflux.NodeArtifacts

open BudgetedSweeps Checks LengthFraming OrderedMaps StatefulProgram Std
open StoredArtifactEntry (notAfter sizeBytes)

variable {id : ArtifactId} {name : String} {inode : Inode} {left right : StoredArtifactEntry}
  {ids : List ArtifactId}

/-! ## Listings -/

section Scans

variable {α : Type} {find : String × Inode → Except NodeFault (Option α)}
  {listing : List (String × Inode)} {found : List α}

/-- A scan succeeds if every entry is looked at without a failure. -/
theorem scan_eq_ok_iff : scan find listing = .ok found ↔
    (∀ entry ∈ listing, ∃ item, find entry = .ok item) ∧
      found = listing.filterMap fun entry => (find entry).toOption.join := by
  induction listing generalizing found with
  | nil => simp [scan, eq_comm]
  | cons entry listing ih =>
    simp only [scan, bind_eq_ok, List.forall_mem_cons]
    constructor
    · rintro ⟨item, hitem, others, hothers, hfound⟩
      obtain ⟨hall, rfl⟩ := ih.mp hothers
      cases hfound
      refine ⟨⟨⟨item, hitem⟩, hall⟩, ?_⟩
      cases item <;> simp [hitem, Except.toOption]
    · rintro ⟨⟨⟨item, hitem⟩, hall⟩, rfl⟩
      refine ⟨item, hitem, _, ih.mpr ⟨hall, rfl⟩, ?_⟩
      cases item <;> simp [hitem, Except.toOption] <;> rfl

theorem mem_scan (hscan : scan find listing = .ok found) {item : α} :
    item ∈ found ↔ ∃ entry ∈ listing, find entry = .ok (some item) := by
  obtain ⟨hall, rfl⟩ := scan_eq_ok_iff.mp hscan
  rw [List.mem_filterMap]
  constructor
  · rintro ⟨entry, hentry, hitem⟩
    obtain ⟨result, hresult⟩ := hall entry hentry
    rw [hresult] at hitem
    cases result with
    | none => cases hitem
    | some value =>
      cases hitem
      exact ⟨entry, hentry, hresult⟩
  · rintro ⟨entry, hentry, hitem⟩
    exact ⟨entry, hentry, by simp [hitem, Except.toOption]⟩

end Scans

/-- The name is one of the store's own. -/
def Hidden (name : String) : Prop := startsWith name "." = true

theorem newArtifactId_eq_ok_iff {value : String} :
    newArtifactId value = .ok id ↔ id.value = value := by
  rw [newArtifactId, mapError_eq_ok, Id.tryNew_eq_ok_iff]

/-- What the collector notes of a file. -/
structure Describes (entry : StoredArtifactEntry) (name : String) (inode : Inode) : Prop where
  visible : ¬ Hidden name
  valid : validateArtifactComponent name "artifact id" 256 = .ok ()
  path : entry.path = name
  id : entry.id.value = name
  content : ∃ content modified, inode = .file content modified ∧
    entry.sizeBytes = content.length ∧ entry.modifiedEpochSeconds = modified.getD 0

theorem storedEntry_eq_some_iff {entry : StoredArtifactEntry} :
    storedEntry (name, inode) = .ok (some entry) ↔ Describes entry name inode := by
  unfold storedEntry
  dsimp only
  by_cases hhidden : startsWith name "." = true
  case pos =>
    simp only [hhidden, if_true]
    constructor
    · rintro ⟨⟩
    · intro hdescribes
      exact absurd hhidden hdescribes.visible
  case neg =>
    rw [if_neg hhidden, check_bind_eq_ok, mapError_eq_ok]
    constructor
    · rintro ⟨hvalid, hentry⟩
      cases inode with
      | file content modified =>
        simp only [bind_eq_ok, newArtifactId_eq_ok_iff] at hentry
        obtain ⟨id, rfl, hentry⟩ := hentry
        cases hentry
        exact ⟨hhidden, hvalid, rfl, rfl, content, modified, rfl, rfl, rfl⟩
      | directory => cases hentry
      | symbolicLink => cases hentry
    · rintro ⟨-, hvalid, hpath, hid, content, modified, rfl, hsize, hmodified⟩
      refine ⟨hvalid, ?_⟩
      simp only [bind_eq_ok, newArtifactId_eq_ok_iff]
      refine ⟨entry.id, hid, ?_⟩
      rw [← hpath, ← hsize, ← hmodified]
      rfl

theorem listedId_eq_some_iff : listedId (name, inode) = .ok (some id) ↔
      inode.isFile = true ∧ ¬ Hidden name ∧
        validateArtifactComponent name "artifact id" 256 = .ok () ∧ id.value = name := by
  unfold listedId Hidden
  dsimp only
  by_cases hfile : inode.isFile = true
  case neg => simp [hfile]
  case pos =>
    by_cases hhidden : startsWith name "." = true
    case pos => simp [hfile, hhidden]
    case neg =>
      rw [hfile, if_neg (by simp), if_neg hhidden, check_bind_eq_ok, mapError_eq_ok, bind_eq_ok]
      simp only [newArtifactId_eq_ok_iff]
      constructor
      · rintro ⟨hvalid, found, hfound, hid⟩
        cases hid
        exact ⟨trivial, hhidden, hvalid, hfound⟩
      · rintro ⟨-, -, hvalid, hid⟩
        exact ⟨hvalid, id, hid, rfl⟩

variable {directory : Directory} {entries : List StoredArtifactEntry}

section

variable (hentries : storedEntries directory = .ok entries)
include hentries

/-- The collector notes exactly the visible files. -/
theorem mem_storedEntries {entry : StoredArtifactEntry} :
    entry ∈ entries ↔ ∃ inode, directory[entry.path]? = some inode ∧
      Describes entry entry.path inode := by
  rw [mem_scan hentries]
  constructor
  · rintro ⟨⟨name, inode⟩, hlisted, hfound⟩
    have hdescribes := storedEntry_eq_some_iff.mp hfound
    rw [ExtTreeMap.mem_toList_iff_getElem?_eq_some, ← hdescribes.path] at hlisted
    rw [← hdescribes.path] at hdescribes
    exact ⟨inode, hlisted, hdescribes⟩
  · rintro ⟨inode, hlookup, hdescribes⟩
    exact ⟨(entry.path, inode), ExtTreeMap.mem_toList_iff_getElem?_eq_some.mpr hlookup,
      storedEntry_eq_some_iff.mpr hdescribes⟩

theorem path_eq_id
    {entry : StoredArtifactEntry} (hentry : entry ∈ entries) : entry.path = entry.id.value := by
  obtain ⟨inode, -, hdescribes⟩ := (mem_storedEntries hentries).mp hentry
  rw [hdescribes.id]

/-- An identifier stands for one entry. -/
theorem eq_of_id_eq
    {entry other : StoredArtifactEntry} (hentry : entry ∈ entries) (hother : other ∈ entries)
    (hid : entry.id = other.id) : entry = other := by
  have hpath : entry.path = other.path := by
    rw [path_eq_id hentries hentry, path_eq_id hentries hother, hid]
  obtain ⟨inode, hlookup, -, -, -, -, content, modified, rfl, hsize, hmodified⟩ :=
    (mem_storedEntries hentries).mp hentry
  obtain ⟨inode, hlookup', -, -, -, -, content', modified', rfl, hsize', hmodified'⟩ :=
    (mem_storedEntries hentries).mp hother
  rw [← hpath, hlookup] at hlookup'
  cases hlookup'
  cases entry
  cases other
  simp_all

end

theorem path_of_found {entry : StoredArtifactEntry}
    (hfound : (storedEntry (name, inode)).toOption.join = some entry) : entry.path = name := by
  cases hresult : storedEntry (name, inode) with
  | error fault => simp [hresult, Except.toOption] at hfound
  | ok item =>
    rw [hresult] at hfound
    cases item with
    | none => cases hfound
    | some found =>
      cases hfound
      exact (storedEntry_eq_some_iff.mp hresult).path

theorem nodup_storedEntries (hentries : storedEntries directory = .ok entries) : entries.Nodup := by
  obtain ⟨-, rfl⟩ := scan_eq_ok_iff.mp hentries
  apply List.pairwise_filterMap.mpr
  apply directory.distinct_keys_toList.imp
  rintro ⟨left, leftInode⟩ ⟨right, rightInode⟩ hdifferent entry hentry _ hother rfl
  have hsame : left = right := (path_of_found hentry).symm.trans (path_of_found hother)
  exact hdifferent (LawfulEqCmp.compare_eq_iff_eq.mpr hsame)

/-! ## Order -/

namespace StoredArtifactEntry

/-- The entry is older, or as old with a smaller identifier. -/
def Before (left right : StoredArtifactEntry) : Prop :=
  (compare left.modifiedEpochSeconds right.modifiedEpochSeconds).then
    (compare left.id right.id) = .lt

def rank (entry : StoredArtifactEntry) : ℕ × ArtifactId := (entry.modifiedEpochSeconds, entry.id)

theorem notAfter_iff :
    left.notAfter right = true ↔ (compare left.rank right.rank).isLE = true := Iff.rfl

theorem before_iff :
    left.Before right ↔ compare left.rank right.rank = .lt := Iff.rfl

theorem Before.asymm (hbefore : left.Before right) : ¬ right.Before left := by
  rw [before_iff] at hbefore ⊢
  exact OrientedCmp.not_lt_of_lt hbefore

theorem notAfter_trans (left middle right : StoredArtifactEntry)
    (hleft : left.notAfter middle = true) (hright : middle.notAfter right = true) :
    left.notAfter right = true := by
  rw [notAfter_iff] at hleft hright ⊢
  exact TransCmp.isLE_trans hleft hright

theorem notAfter_total (left right : StoredArtifactEntry) :
    (left.notAfter right || right.notAfter left) = true := by
  rw [Bool.or_eq_true, notAfter_iff, notAfter_iff]
  have hswap : compare right.rank left.rank = (compare left.rank right.rank).swap :=
    OrientedCmp.eq_swap
  rw [hswap]
  cases compare left.rank right.rank <;> simp

/-- Entries with different identifiers are strictly ordered. -/
theorem before_of_notAfter
    (hnotAfter : left.notAfter right = true) (hid : left.id ≠ right.id) : left.Before right := by
  rw [notAfter_iff] at hnotAfter
  rw [before_iff]
  cases hcompare : compare left.rank right.rank with
  | lt => rfl
  | eq => exact absurd (congrArg Prod.snd (LawfulEqCmp.compare_eq_iff_eq.mp hcompare)) hid
  | gt =>
    rw [hcompare] at hnotAfter
    cases hnotAfter

end StoredArtifactEntry

open StoredArtifactEntry in
theorem pairwise_before (hentries : storedEntries directory = .ok entries) :
    (entries.mergeSort notAfter).Pairwise StoredArtifactEntry.Before := by
  have hperm := entries.mergeSort_perm notAfter
  have hsorted : (entries.mergeSort notAfter).Pairwise fun left right =>
      left.notAfter right = true :=
    List.pairwise_mergeSort notAfter_trans notAfter_total entries
  have hnodup := hperm.nodup_iff.mpr (nodup_storedEntries hentries)
  refine (hsorted.and hnodup).imp_of_mem ?_
  rintro left right hleft hright ⟨hnotAfter, hdifferent⟩
  apply before_of_notAfter hnotAfter
  intro hid
  exact hdifferent (eq_of_id_eq hentries (hperm.mem_iff.mp hleft) (hperm.mem_iff.mp hright) hid)

/-! ## The sweep -/

section Sweeps

variable (limits : NodeArtifactRetentionLimits) (pinned : Finset ArtifactId) (ageCutoff : ℕ)

def Expired (entry : StoredArtifactEntry) : Bool := entry.modifiedEpochSeconds ≤ ageCutoff

def Pinned (entry : StoredArtifactEntry) : Bool := entry.id ∈ pinned

/-- The entries that go. -/
def goneFrom (count bytes : ℕ) (entries : List StoredArtifactEntry) : List StoredArtifactEntry :=
  swept sizeBytes (Expired ageCutoff) (Pinned pinned) limits.maxCount
    limits.maxBytes count bytes entries

theorem foldl_step (entries : List StoredArtifactEntry) (sweep : Sweep) :
    entries.foldl (Sweep.step limits pinned ageCutoff) sweep =
      let gone := goneFrom limits pinned ageCutoff sweep.retainedCount sweep.retainedBytes entries
      { directory := gone.foldl (fun directory entry => removeFile entry.path directory)
          sweep.directory
        retainedCount := sweep.retainedCount - gone.length
        retainedBytes := sweep.retainedBytes - (gone.map sizeBytes).sum
        evicted := sweep.evicted ++ gone.map StoredArtifactEntry.id } := by
  induction entries generalizing sweep with
  | nil => simp [goneFrom, swept]
  | cons entry entries ih =>
    rw [List.foldl_cons, ih]
    unfold goneFrom
    by_cases hgoes : (Expired ageCutoff entry = true ∨ sweep.retainedCount > limits.maxCount ∨
        sweep.retainedBytes > limits.maxBytes) ∧ ¬ Pinned pinned entry = true
    case pos =>
      have hstep : ¬ (¬ (entry.modifiedEpochSeconds ≤ ageCutoff ∨
          sweep.retainedCount > limits.maxCount ∨ sweep.retainedBytes > limits.maxBytes) ∨
            entry.id ∈ pinned) := by
        simp only [Expired, Pinned, decide_eq_true_eq] at hgoes
        tauto
      rw [swept_cons_of_goes hgoes, Sweep.step, if_neg hstep]
      simp [Nat.sub_sub, Nat.add_comm]
    case neg =>
      have hstep : ¬ (entry.modifiedEpochSeconds ≤ ageCutoff ∨
          sweep.retainedCount > limits.maxCount ∨ sweep.retainedBytes > limits.maxBytes) ∨
            entry.id ∈ pinned := by
        simp only [Expired, Pinned, decide_eq_true_eq] at hgoes
        tauto
      rw [swept_cons_of_stays hgoes, Sweep.step, if_pos hstep]

end Sweeps

theorem removeFile_of_file (hfile : directory[name]? ≠ some .directory) :
    removeFile name directory = directory.erase name := by
  unfold removeFile
  split
  case h_1 hdirectory => exact absurd hdirectory hfile
  case h_2 => rfl

/-- Removing artifacts removes their names and nothing else. -/
theorem lookup_foldl_removeFile {gone : List StoredArtifactEntry}
    (hfiles : ∀ entry ∈ gone, directory[entry.path]? ≠ some .directory) (name : String) :
    (gone.foldl (fun directory entry => removeFile entry.path directory) directory)[name]? =
      if name ∈ gone.map StoredArtifactEntry.path then none else directory[name]? := by
  induction gone generalizing directory with
  | nil => simp
  | cons first gone ih =>
    obtain ⟨hfirst, hfiles⟩ := List.forall_mem_cons.mp hfiles
    rw [List.foldl_cons, removeFile_of_file hfirst, ih, ExtTreeMap.getElem?_erase]
    · by_cases hname : first.path = name
      · simp [hname]
      · have hother : name ≠ first.path := fun heq => hname heq.symm
        have hcompare : compare first.path name ≠ .eq := by
          rwa [Ne, LawfulEqCmp.compare_eq_iff_eq]
        simp [hother, hcompare]
    · intro entry hentry hlookup
      exact hfiles entry hentry (getElem?_erase_eq_some_iff.mp hlookup).2

theorem checkedTotal_eq (entries : List StoredArtifactEntry) : checkedTotal entries =
      if (entries.map sizeBytes).sum ≤ u64Max then
        some (entries.map sizeBytes).sum
      else none := by
  -- The sum so far fits, and the whole sum is at least as large.
  suffices hgeneral : ∀ start ≤ u64Max, entries.foldlM (fun total entry =>
      if total + entry.sizeBytes ≤ u64Max then some (total + entry.sizeBytes) else none) start =
        if start + (entries.map sizeBytes).sum ≤ u64Max then
          some (start + (entries.map sizeBytes).sum)
        else none by
    simpa [checkedTotal] using hgeneral 0 (Nat.zero_le _)
  induction entries with
  | nil =>
    intro start hstart
    simp [hstart]
  | cons entry entries ih =>
    intro start hstart
    rw [List.foldlM_cons, List.map_cons, List.sum_cons]
    by_cases hfits : start + entry.sizeBytes ≤ u64Max
    · rw [if_pos hfits, Option.bind_eq_bind, Option.bind_some, ih _ hfits, Nat.add_assoc]
    · rw [if_neg hfits, if_neg (by omega)]
      rfl

/-- An entry is listed if the collector can note it. -/
theorem listedId_of_storedEntry {item : Option StoredArtifactEntry}
    (hitem : storedEntry (name, inode) = .ok item) : ∃ id, listedId (name, inode) = .ok id := by
  unfold storedEntry at hitem
  unfold listedId
  dsimp only at hitem ⊢
  cases inode with
  | directory => exact ⟨none, rfl⟩
  | symbolicLink => exact ⟨none, rfl⟩
  | file content modified =>
    rw [if_neg (by simp [Inode.isFile])]
    split at hitem
    case isTrue hhidden => exact ⟨none, if_pos hhidden⟩
    case isFalse hvisible =>
      rw [if_neg hvisible]
      rw [check_bind_eq_ok, bind_eq_ok] at hitem
      obtain ⟨hvalid, id, hid, -⟩ := hitem
      rw [hvalid, hid]
      exact ⟨some id, rfl⟩

/-- Of fewer files those identifiers are listed whose files are left. -/
theorem artifactIds_of_subset (hentries : storedEntries directory = .ok entries) {after : Directory}
    (hsubset : ∀ (name : String) (inode : Inode), after[name]? = some inode →
      directory[name]? = some inode) :
    ∃ ids, artifactIds after = .ok ids ∧ ∀ entry ∈ entries,
      (entry.id ∈ ids ↔ ∃ inode, after[entry.path]? = some inode) := by
  have hall : ∀ entry ∈ after.toList, ∃ id, listedId entry = .ok id := by
    rintro ⟨name, inode⟩ hlisted
    have hlookup := hsubset _ _ (ExtTreeMap.mem_toList_iff_getElem?_eq_some.mp hlisted)
    obtain ⟨item, hitem⟩ := (scan_eq_ok_iff.mp hentries).1 (name, inode)
      (ExtTreeMap.mem_toList_iff_getElem?_eq_some.mpr hlookup)
    exact listedId_of_storedEntry hitem
  have hscan := scan_eq_ok_iff.mpr ⟨hall, rfl⟩
  refine ⟨_, bind_eq_ok.mpr ⟨_, hscan, rfl⟩, fun entry hentry => ?_⟩
  rw [List.mem_mergeSort, mem_scan hscan]
  constructor
  · rintro ⟨⟨name, inode⟩, hlisted, hid⟩
    obtain ⟨-, -, -, hname⟩ := listedId_eq_some_iff.mp hid
    rw [path_eq_id hentries hentry, hname]
    exact ⟨inode, ExtTreeMap.mem_toList_iff_getElem?_eq_some.mp hlisted⟩
  · rintro ⟨inode, hlookup⟩
    obtain ⟨stored, hstored, hdescribes⟩ := (mem_storedEntries hentries).mp hentry
    rw [hsubset _ _ hlookup] at hstored
    cases hstored
    obtain ⟨content, modified, rfl, -, -⟩ := hdescribes.content
    exact ⟨(entry.path, _), ExtTreeMap.mem_toList_iff_getElem?_eq_some.mpr hlookup,
      listedId_eq_some_iff.mpr ⟨rfl, hdescribes.visible, hdescribes.valid, hdescribes.id⟩⟩

/-! ## What a collection does -/

/-- The artifacts that are left. -/
def remaining (entries : List StoredArtifactEntry) (report : NodeArtifactGcReport) :
    List StoredArtifactEntry :=
  entries.filter fun entry => entry.id ∉ report.evicted

def totalBytes (entries : List StoredArtifactEntry) : ℕ :=
  (entries.map sizeBytes).sum

open StoredArtifactEntry in
/-- A collection of these entries that is safe and minimal. -/
structure Collected (limits : NodeArtifactRetentionLimits) (pinned : Finset ArtifactId)
    (ageCutoff : ℕ) (entries : List StoredArtifactEntry) (directory after : Directory)
    (report : NodeArtifactGcReport) : Prop where
  /-- The names of the evicted artifacts are free, all others are as they were. -/
  removed : ∀ name, after[name]? =
    if name ∈ report.evicted.map Id.value then none else directory[name]?
  /-- The evicted artifacts are removed in their order. -/
  ordered : ∃ gone, gone ⊆ entries ∧ gone.Pairwise Before ∧
    report.evicted = gone.map StoredArtifactEntry.id
  safe : ∀ entry ∈ entries, entry.id ∈ pinned → entry.id ∉ report.evicted
  expired : ∀ entry ∈ entries, entry.id ∉ pinned → Expired ageCutoff entry = true →
    entry.id ∈ report.evicted
  /-- An artifact that is not expired goes after all older ones that may go. -/
  oldestFirst : ∀ entry ∈ entries, entry.id ∈ report.evicted → Expired ageCutoff entry = false →
    ∀ older ∈ entries, older.Before entry → older.id ∉ pinned → older.id ∈ report.evicted
  /-- With the last of them restored, a limit would be exceeded. -/
  needed : ∀ entry ∈ entries, entry.id ∈ report.evicted → Expired ageCutoff entry = false →
    (∀ other ∈ entries, other.id ∈ report.evicted → ¬ entry.Before other) →
      (remaining entries report).length + 1 > limits.maxCount ∨
        totalBytes (remaining entries report) + entry.sizeBytes > limits.maxBytes
  count : report.retainedCount = (remaining entries report).length
  bytes : report.retainedBytes = totalBytes (remaining entries report)
  satisfied : report.limitsSatisfied = true ↔ (remaining entries report).length ≤ limits.maxCount ∧
      totalBytes (remaining entries report) ≤ limits.maxBytes ∧
      ∀ entry ∈ remaining entries report, Expired ageCutoff entry = false

section Collection

section Gone

variable (limits : NodeArtifactRetentionLimits) (pinned : Finset ArtifactId) (ageCutoff : ℕ)
  (entries : List StoredArtifactEntry)

/-- The artifacts that go, in the order of their removal. -/
def gone : List StoredArtifactEntry :=
  goneFrom limits pinned ageCutoff entries.length (totalBytes entries) (entries.mergeSort notAfter)

/-- The directory without them. -/
def without (directory : Directory) : Directory :=
  (gone limits pinned ageCutoff entries).foldl
    (fun directory entry => removeFile entry.path directory) directory

/-- What is reported when these identifiers are listed afterwards. -/
def reported (ids : List ArtifactId) : NodeArtifactGcReport :=
  let gone := gone limits pinned ageCutoff entries
  let retainedCount := entries.length - gone.length
  let retainedBytes := totalBytes entries - totalBytes gone
  let hasExpired := (entries.mergeSort notAfter).any fun entry =>
    entry.id ∈ ids && entry.modifiedEpochSeconds ≤ ageCutoff
  { retainedCount
    retainedBytes
    evicted := gone.map StoredArtifactEntry.id
    limitsSatisfied := retainedCount ≤ limits.maxCount && retainedBytes ≤ limits.maxBytes &&
      !hasExpired }

end Gone

variable {limits : NodeArtifactRetentionLimits} {pinned : Finset ArtifactId} {now ageCutoff : ℕ}
  {entry : StoredArtifactEntry}

theorem mem_gone (hentry : entry ∈ gone limits pinned ageCutoff entries) : entry ∈ entries :=
  List.mem_mergeSort.mp ((swept_sublist _ _ _).subset hentry)

section

variable (hentries : storedEntries directory = .ok entries)
include hentries

/-- An identifier is evicted if its entry goes. -/
theorem id_mem_gone_iff (hentry : entry ∈ entries) :
    entry.id ∈ (gone limits pinned ageCutoff entries).map StoredArtifactEntry.id ↔
      entry ∈ gone limits pinned ageCutoff entries := by
  rw [List.mem_map]
  constructor
  · rintro ⟨other, hother, hid⟩
    rwa [← eq_of_id_eq hentries (mem_gone hother) hentry hid]
  · intro hgone
    exact ⟨entry, hgone, rfl⟩

theorem path_mem_gone_iff (hentry : entry ∈ entries) :
    entry.path ∈ (gone limits pinned ageCutoff entries).map StoredArtifactEntry.path ↔
      entry ∈ gone limits pinned ageCutoff entries := by
  rw [List.mem_map]
  constructor
  · rintro ⟨other, hother, hpath⟩
    have hid : other.id = entry.id := by
      apply Id.value_injective
      rw [← path_eq_id hentries (mem_gone hother), ← path_eq_id hentries hentry, hpath]
    rwa [← eq_of_id_eq hentries (mem_gone hother) hentry hid]
  · intro hgone
    exact ⟨entry, hgone, rfl⟩

theorem lookup_without (name : String) :
    (without limits pinned ageCutoff entries directory)[name]? =
      if name ∈ (gone limits pinned ageCutoff entries).map StoredArtifactEntry.path then none
      else directory[name]? := by
  apply lookup_foldl_removeFile
  intro entry hentry hdirectory
  obtain ⟨inode, hlookup, hdescribes⟩ := (mem_storedEntries hentries).mp (mem_gone hentry)
  obtain ⟨content, modified, rfl, -, -⟩ := hdescribes.content
  rw [hlookup] at hdirectory
  cases hdirectory

end

/-- A collection whose entries are proper goes through to its report. -/
theorem garbageCollect_of_entries (limits : NodeArtifactRetentionLimits)
    (pinned : Finset ArtifactId) (now : ℕ) (hentries : storedEntries directory = .ok entries)
    (hfits : totalBytes entries ≤ u64Max) :
    ∃ ids, (∀ entry ∈ entries, (entry.id ∈ ids ↔
        entry ∉ gone limits pinned (now - limits.maxAgeSeconds) entries)) ∧
      garbageCollect limits pinned now directory =
        .ok (reported limits pinned (now - limits.maxAgeSeconds) entries ids)
          (without limits pinned (now - limits.maxAgeSeconds) entries directory) := by
  have hperm := entries.mergeSort_perm notAfter
  have hlength : (entries.mergeSort notAfter).length = entries.length :=
    hperm.length_eq
  have hsum : ((entries.mergeSort notAfter).map
      sizeBytes).sum = totalBytes entries := (hperm.map _).sum_eq
  have htotal : checkedTotal (entries.mergeSort notAfter) = some (totalBytes entries) := by
    rw [checkedTotal_eq, hsum, if_pos hfits]
  have hsweep : (entries.mergeSort notAfter).foldl
      (Sweep.step limits pinned (now - limits.maxAgeSeconds))
      ⟨directory, entries.length, totalBytes entries, []⟩ =
        ⟨without limits pinned (now - limits.maxAgeSeconds) entries directory,
          entries.length - (gone limits pinned (now - limits.maxAgeSeconds) entries).length,
          totalBytes entries - totalBytes (gone limits pinned (now - limits.maxAgeSeconds) entries),
          (gone limits pinned (now - limits.maxAgeSeconds) entries).map
            StoredArtifactEntry.id⟩ := by
    rw [foldl_step]
    rfl
  have hsubset : ∀ (name : String) (inode : Inode),
      (without limits pinned (now - limits.maxAgeSeconds) entries directory)[name]? = some inode →
        directory[name]? = some inode := by
    intro name inode hlookup
    rw [lookup_without hentries] at hlookup
    split at hlookup
    · cases hlookup
    · exact hlookup
  obtain ⟨ids, hids, hlisted⟩ := artifactIds_of_subset hentries hsubset
  refine ⟨ids, ?_, ?_⟩
  · intro entry hentry
    rw [hlisted entry hentry, lookup_without hentries]
    obtain ⟨inode, hlookup, -⟩ := (mem_storedEntries hentries).mp hentry
    simp only [path_mem_gone_iff hentries hentry]
    split
    case isTrue hgone => simp [hgone]
    case isFalse hleft => simp [hleft, hlookup]
  · rw [garbageCollect, bind_of_ok (get_apply _),
    bind_of_ok (liftExcept_eq_ok_iff.mpr ⟨hentries, rfl⟩),
      bind_of_ok (orFail_eq_ok_iff.mpr ⟨htotal, rfl⟩), hlength, hsweep, set_bind,
      bind_of_ok (liftExcept_eq_ok_iff.mpr ⟨hids, rfl⟩)]
    rfl

/-- What is left is what did not go. -/
theorem gone_append_remaining_perm (hentries : storedEntries directory = .ok entries)
    (ids : List ArtifactId) :
    (gone limits pinned ageCutoff entries ++
      remaining entries (reported limits pinned ageCutoff entries ids)).Perm entries := by
  have hperm := entries.mergeSort_perm notAfter
  have hnodup := hperm.nodup_iff.mpr (nodup_storedEntries hentries)
  have hleft : remaining entries (reported limits pinned ageCutoff entries ids) =
      entries.filter (· ∉ gone limits pinned ageCutoff entries) := by
    apply List.filter_congr
    intro entry hentry
    exact decide_eq_decide.mpr (not_congr (id_mem_gone_iff hentries hentry))
  rw [hleft]
  exact ((hperm.symm.filter _).append_left _).trans ((swept_append_left_perm hnodup).trans hperm)

theorem mem_remaining (hentries : storedEntries directory = .ok entries) :
    entry ∈ remaining entries (reported limits pinned ageCutoff entries ids) ↔
      entry ∈ entries ∧ entry ∉ gone limits pinned ageCutoff entries := by
  rw [remaining, List.mem_filter, decide_eq_true_eq]
  exact and_congr_right fun hentry => not_congr (id_mem_gone_iff hentries hentry)

/-- The totals in the report are those of what is left. -/
theorem reported_totals (limits : NodeArtifactRetentionLimits) (pinned : Finset ArtifactId)
    (ageCutoff : ℕ) (hentries : storedEntries directory = .ok entries)
    (ids : List ArtifactId) :
    (reported limits pinned ageCutoff entries ids).retainedCount =
        (remaining entries (reported limits pinned ageCutoff entries ids)).length ∧
      (reported limits pinned ageCutoff entries ids).retainedBytes =
        totalBytes (remaining entries (reported limits pinned ageCutoff entries ids)) := by
  have hleft : (gone limits pinned ageCutoff entries ++
      remaining entries (reported limits pinned ageCutoff entries ids)).Perm entries :=
    gone_append_remaining_perm hentries ids
  have hlength := hleft.length_eq
  have hbytes := (hleft.map sizeBytes).sum_eq
  rw [List.length_append] at hlength
  rw [List.map_append, List.sum_append] at hbytes
  constructor
  · change entries.length - _ = _
    omega
  · change (entries.map _).sum - (List.map _ _).sum = (List.map _ _).sum
    omega

theorem collected_reported (hentries : storedEntries directory = .ok entries)
    (hids : ∀ entry ∈ entries, (entry.id ∈ ids ↔ entry ∉ gone limits pinned ageCutoff entries)) :
    Collected limits pinned ageCutoff entries directory
      (without limits pinned ageCutoff entries directory)
      (reported limits pinned ageCutoff entries ids) := by
  have hordered := pairwise_before hentries
  have hpaths : (gone limits pinned ageCutoff entries).map StoredArtifactEntry.path =
      ((gone limits pinned ageCutoff entries).map StoredArtifactEntry.id).map Id.value := by
    rw [List.map_map]
    apply List.map_congr_left
    intro entry hentry
    exact path_eq_id hentries (mem_gone hentry)
  have hevicted : ∀ entry ∈ entries,
      entry.id ∈ (reported limits pinned ageCutoff entries ids).evicted ↔
        entry ∈ gone limits pinned ageCutoff entries :=
    fun entry hentry => id_mem_gone_iff hentries hentry
  obtain ⟨hcount, hbytes⟩ := reported_totals limits pinned ageCutoff hentries ids
  constructor
  case count => exact hcount
  case bytes => exact hbytes
  case ordered =>
    exact ⟨gone limits pinned ageCutoff entries, fun entry => mem_gone,
      hordered.sublist (swept_sublist _ _ _), rfl⟩
  case removed =>
    intro name
    rw [lookup_without hentries, hpaths]
    rfl
  case safe =>
    intro entry hentry hpinned hgone
    have hkept := not_kept_of_mem_swept ((hevicted entry hentry).mp hgone)
    exact of_decide_eq_false hkept hpinned
  case expired =>
    intro entry hentry hpinned hexpired
    apply (hevicted entry hentry).mpr
    exact mem_swept_of_stale (List.mem_mergeSort.mpr hentry) hexpired (decide_eq_false hpinned)
  case oldestFirst =>
    intro entry hentry hgone hfresh older holder hbefore hpinned
    apply (hevicted older holder).mpr
    exact mem_swept_of_before (fun _ _ => StoredArtifactEntry.Before.asymm) hordered
      ((hevicted entry hentry).mp hgone) hfresh (List.mem_mergeSort.mpr holder) hbefore
      (decide_eq_false hpinned)
  case needed =>
    intro entry hentry hgone hfresh hlast
    rw [← hcount, ← hbytes]
    have hperm := entries.mergeSort_perm notAfter
    apply over_of_last hordered hperm.length_eq.le (hperm.map _).sum_eq.le
      ((hevicted entry hentry).mp hgone) hfresh
    intro other hother
    exact hlast other (mem_gone hother) ((hevicted other (mem_gone hother)).mpr hother)
  case satisfied =>
    rw [← hcount, ← hbytes]
    have hexpired : ((entries.mergeSort notAfter).any fun entry =>
        decide (entry.id ∈ ids) && decide (entry.modifiedEpochSeconds ≤ ageCutoff)) = false ↔
          ∀ entry ∈ remaining entries (reported limits pinned ageCutoff entries ids),
            Expired ageCutoff entry = false := by
      rw [List.any_eq_false]
      constructor
      · intro hnone entry hentry
        obtain ⟨hentry, hleft⟩ := (mem_remaining hentries).mp hentry
        have hlisted := (hids entry hentry).mpr hleft
        simpa [hlisted, Expired] using hnone entry (List.mem_mergeSort.mpr hentry)
      · intro hfresh entry hentry hexpired
        rw [Bool.and_eq_true, decide_eq_true_eq, decide_eq_true_eq] at hexpired
        have hentry := List.mem_mergeSort.mp hentry
        have hleft := (hids entry hentry).mp hexpired.1
        have hfresh := hfresh entry ((mem_remaining hentries).mpr ⟨hentry, hleft⟩)
        exact of_decide_eq_false hfresh hexpired.2
    rw [← hexpired, ← and_assoc]
    change (_ && _ && !_) = true ↔ _
    rw [Bool.and_eq_true, Bool.and_eq_true, Bool.not_eq_true', decide_eq_true_eq, decide_eq_true_eq]
    rfl

theorem garbageCollect_of_overflow (limits : NodeArtifactRetentionLimits)
    (pinned : Finset ArtifactId) (now : ℕ) (hentries : storedEntries directory = .ok entries)
    (hfits : ¬ totalBytes entries ≤ u64Max) :
    garbageCollect limits pinned now directory =
      .error (.error "node artifact byte accounting overflowed") directory := by
  have hsum : ((entries.mergeSort notAfter).map sizeBytes).sum = totalBytes entries :=
    ((entries.mergeSort_perm notAfter).map _).sum_eq
  have htotal : checkedTotal (entries.mergeSort notAfter) = none := by
    rw [checkedTotal_eq, hsum, if_neg hfits]
  rw [garbageCollect, bind_of_ok (get_apply _),
    bind_of_ok (liftExcept_eq_ok_iff.mpr ⟨hentries, rfl⟩),
    bind_of_error (orFail_eq_error_iff.mpr ⟨htotal, rfl, rfl⟩)]

theorem garbageCollect_of_fault (limits : NodeArtifactRetentionLimits)
    (pinned : Finset ArtifactId) (now : ℕ) {fault : NodeFault}
    (hfault : storedEntries directory = .error fault) :
    garbageCollect limits pinned now directory = .error fault directory := by
  rw [garbageCollect, bind_of_ok (get_apply _),
    bind_of_error (liftExcept_eq_error_iff.mpr ⟨fault, hfault, rfl, rfl⟩)]

end Collection

/-- A collection is safe and minimal; unless a name is not proper or the sizes do not fit
a machine word together, when it fails and removes nothing. -/
theorem collection_is_minimal_and_safe (limits : NodeArtifactRetentionLimits)
    (pinned : Finset ArtifactId) (now : ℕ) (directory : Directory) :
    (∃ entries report after, storedEntries directory = .ok entries ∧ totalBytes entries ≤ u64Max ∧
      garbageCollect limits pinned now directory = .ok report after ∧
      Collected limits pinned (now - limits.maxAgeSeconds) entries directory after report) ∨
    (¬ ∃ entries, storedEntries directory = .ok entries ∧ totalBytes entries ≤ u64Max) ∧
      ∃ fault, garbageCollect limits pinned now directory = .error fault directory := by
  cases hentries : storedEntries directory with
  | error fault =>
    refine .inr ⟨?_, fault, garbageCollect_of_fault limits pinned now hentries⟩
    rintro ⟨entries, hok, -⟩
    cases hok
  | ok entries =>
    by_cases hfits : totalBytes entries ≤ u64Max
    · obtain ⟨ids, hids, hcollected⟩ :=
        garbageCollect_of_entries limits pinned now hentries hfits
      exact .inl ⟨entries, _, _, rfl, hfits, hcollected, collected_reported hentries hids⟩
    · refine .inr ⟨?_, _, garbageCollect_of_overflow limits pinned now hentries hfits⟩
      rintro ⟨others, hok, hothers⟩
      cases hok
      exact hfits hothers

/-! ## Sizes that do not fit -/

/-- Three artifacts of the same bytes. -/
def sampleDirectory (content : Bytes) : Directory :=
  (((∅ : Directory).insert "x" (.file content (some 0))).insert "y"
    (.file content (some 0))).insert "z" (.file content (some 0))

def sampleEntry (id : ArtifactId) (content : Bytes) : StoredArtifactEntry :=
  ⟨id, id.value, content.length, 0⟩

def sampleEntries (content : Bytes) : List StoredArtifactEntry :=
  [sampleEntry ⟨"x", by decide⟩ content, sampleEntry ⟨"y", by decide⟩ content,
    sampleEntry ⟨"z", by decide⟩ content]

theorem storedEntries_sample (content : Bytes) :
    storedEntries (sampleDirectory content) = .ok (sampleEntries content) := by
  rfl

theorem expired_sample (content : Bytes) :
    ∀ entry ∈ sampleEntries content, Expired (100 - 1) entry = true := by
  simp [sampleEntries, sampleEntry, Expired]

theorem garbageCollect_sample {content : Bytes} (hlarge : u64Max < 3 * content.length) :
    garbageCollect ⟨1, 1, 1⟩ ∅ 100 (sampleDirectory content) =
      .error (.error "node artifact byte accounting overflowed") (sampleDirectory content) := by
  apply garbageCollect_of_overflow _ _ _ (storedEntries_sample content)
  simp only [totalBytes, sampleEntries, sampleEntry, List.map_cons, List.map_nil, List.sum_cons,
    List.sum_nil]
  omega

/-- As many bytes as a file can have. -/
def largestContent : Bytes := List.replicate (2 ^ 63 - 1) 0

/-- Expired artifacts whose sizes together exceed a machine word are not removed. -/
theorem overflowing_store_is_not_collected :
    storedEntries (sampleDirectory largestContent) = .ok (sampleEntries largestContent) ∧
      (∀ entry ∈ sampleEntries largestContent, Expired (100 - 1) entry = true) ∧
      garbageCollect ⟨1, 1, 1⟩ ∅ 100 (sampleDirectory largestContent) =
        .error (.error "node artifact byte accounting overflowed")
          (sampleDirectory largestContent) := by
  have hlarge : u64Max < 3 * largestContent.length := by
    rw [largestContent, List.length_replicate]
    decide
  exact ⟨storedEntries_sample _, expired_sample _, garbageCollect_sample hlarge⟩

end Clusterflux.NodeArtifacts
