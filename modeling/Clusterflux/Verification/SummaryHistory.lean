import Clusterflux.Coordinator.Summaries
import Clusterflux.Foundation.Eviction
import Clusterflux.Foundation.OrderedMaps
import Clusterflux.Foundation.Pages
import Clusterflux.Verification.Footprints

/-!
# The history of processes

The registry keeps a summary for every process it was told about and the order in
which they were opened.  Room is made when a process starts, and only then: finished
summaries go, the oldest first, until there is room in the project and in the
registry.  A process that ends keeps its place.  Reading the summaries page by page
shows each of them once, the newest first.
-/

namespace Clusterflux

open OrderedMaps BoundedQueue RankedPages ProcessRegistry Std

section

variable {keys : List ProcessControlKey} {now order : ℕ} {gone : ProcessControlKey}

namespace ProcessRegistry

/-! ## The order of summaries -/

/-- The order number of a stored summary. -/
def orderOf (registry : ProcessRegistry) (key : ProcessControlKey) : ℕ :=
  (registry.summaries[key]?.map (·.order)).getD 0

/-- The summary order lists the stored summaries, each once and by increasing order
number. -/
structure Ordered (registry : ProcessRegistry) : Prop where
  listed : ∀ key, key ∈ registry.summaryOrder ↔ registry.summaries.contains key = true
  nodup : registry.summaryOrder.Nodup
  increasing : (registry.summaryOrder.map registry.orderOf).Pairwise (· < ·)

/-- Order numbers that were given out are below the next one. -/
structure Sound (registry : ProcessRegistry) : Prop extends registry.Ordered where
  below : ∀ (key : ProcessControlKey) (summary : StoredProcessSummary),
    registry.summaries[key]? = some summary →
    summary.order < registry.nextSummaryOrder

variable {registry : ProcessRegistry} {key other : ProcessControlKey}
  {summary : StoredProcessSummary}

theorem orderOf_of_lookup (hlookup : registry.summaries[key]? = some summary) :
    registry.orderOf key = summary.order := by
  rw [orderOf, hlookup]
  rfl

theorem Ordered.mem_of_lookup (hordered : registry.Ordered)
    (hlookup : registry.summaries[key]? = some summary) : key ∈ registry.summaryOrder := by
  apply (hordered.listed key).mpr
  rw [ExtTreeMap.contains_eq_isSome_getElem?, hlookup]
  rfl

theorem Ordered.pairwise (hordered : registry.Ordered) :
    registry.summaryOrder.Pairwise fun earlier later =>
      registry.orderOf earlier < registry.orderOf later :=
  List.pairwise_map.mp hordered.increasing

/-- No two summaries share an order number. -/
theorem Ordered.eq_of_orderOf_eq (hordered : registry.Ordered)
    (hkey : key ∈ registry.summaryOrder) (hother : other ∈ registry.summaryOrder)
    (heq : registry.orderOf key = registry.orderOf other) : key = other := by
  have hdistinct : (registry.summaryOrder.map registry.orderOf).Nodup :=
    hordered.increasing.imp fun hlt => hlt.ne
  exact List.inj_on_of_nodup_map hdistinct hkey hother heq

/-! ## Counting -/

/-- The number of summaries stored for a project. -/
def projectSummaryCount (registry : ProcessRegistry) (tenant : TenantId) (project : ProjectId) :
    ℕ :=
  registry.summaries.keys.countP fun candidate =>
    decide (candidate.tenant = tenant ∧ candidate.project = project)

/-- Stored keys are counted in any list of them. -/
theorem countP_keys (map : OrderedMap ProcessControlKey StoredProcessSummary) (hnodup : keys.Nodup)
    (hkeys : ∀ key, key ∈ keys ↔ map.contains key = true) (property : ProcessControlKey → Bool) :
    map.keys.countP property = keys.countP property := by
  apply List.Perm.countP_eq
  apply (List.perm_ext_iff_of_nodup ExtTreeMap.nodup_keys hnodup).mpr
  intro key
  rw [hkeys, ExtTreeMap.mem_keys, ExtTreeMap.contains_iff_mem]

theorem size_eq_length (map : OrderedMap ProcessControlKey StoredProcessSummary)
    (hnodup : keys.Nodup)
    (hkeys : ∀ key, key ∈ keys ↔ map.contains key = true) : map.size = keys.length := by
  have hcount := countP_keys map hnodup hkeys fun _ => true
  rw [List.countP_true, ExtTreeMap.length_keys] at hcount
  exact hcount

/-! ## Making room -/

/-- The registry without some of its summaries. -/
def without (registry : ProcessRegistry) (removed : List ProcessControlKey) : ProcessRegistry :=
  { registry with
    summaries := registry.summaries.filter fun key _ => decide (key ∉ removed)
    summaryOrder := registry.summaryOrder.filter (· ∉ removed) }

theorem lookup_without {removed : List ProcessControlKey} :
    (registry.without removed).summaries[key]? = some summary ↔
      registry.summaries[key]? = some summary ∧ key ∉ removed := by
  rw [without, ExtTreeMap.getElem?_filter', Option.filter_eq_some_iff, decide_eq_true_eq]

theorem without_nil : registry.without [] = registry := by
  have hsummaries : registry.summaries.filter (fun key _ => decide (key ∉ [])) =
      registry.summaries := by
    apply ExtTreeMap.ext_getElem?
    intro key
    rw [ExtTreeMap.getElem?_filter']
    cases registry.summaries[key]? <;> simp
  unfold without
  rw [hsummaries]
  simp

theorem foldl_removeSummary (removed : List ProcessControlKey) (registry : ProcessRegistry) :
    removed.foldl (·.removeSummary ·) registry = registry.without removed := by
  induction removed generalizing registry with
  | nil => exact without_nil.symm
  | cons gone removed ih =>
    rw [List.foldl_cons, ih]
    unfold without removeSummary
    have hsummaries : (registry.summaries.erase gone).filter (fun key _ =>
          decide (key ∉ removed)) =
        registry.summaries.filter fun key _ => decide (key ∉ gone :: removed) := by
      apply ExtTreeMap.ext_getElem?
      intro key
      rw [ExtTreeMap.getElem?_filter', ExtTreeMap.getElem?_filter',
        ExtTreeMap.getElem?_erase]
      by_cases hgone : gone = key
      · simp [hgone]
      · simp [hgone, Ne.symm hgone, LawfulEqCmp.compare_eq_iff_eq]
    have horder : (registry.summaryOrder.filter (· ≠ gone)).filter (· ∉ removed) =
        registry.summaryOrder.filter (· ∉ gone :: removed) := by
      rw [List.filter_filter]
      apply List.filter_congr
      intro key _
      simp [Bool.and_comm]
    simp only [hsummaries, horder]

theorem eraseDups_of_nodup (hnodup : keys.Nodup) : keys.eraseDups = keys := by
  induction keys with
  | nil => rfl
  | cons key keys ih =>
    rw [List.nodup_cons] at hnodup
    have hothers : keys.filter (fun other => !other == key) = keys := by
      apply List.filter_eq_self.mpr
      intro other hother
      have hne : other ≠ key := fun heq => hnodup.1 (heq ▸ hother)
      simp [hne]
    rw [List.eraseDups_cons, hothers, ih hnodup.2]

/-- The process has ended. -/
def finished (registry : ProcessRegistry) (key : ProcessControlKey) : Bool :=
  registry.summaries[key]?.any (·.finalResult.isSome)

/-- The finished summaries that go to make room among those with a property. -/
def spare (registry : ProcessRegistry) (property : ProcessControlKey → Bool) (excess : ℕ) :
    List ProcessControlKey :=
  takeFirst (fun candidate => property candidate && registry.finished candidate) excess
    registry.summaryOrder

theorem evictFinished_eq (hnodup : registry.summaryOrder.Nodup)
    (property : ProcessControlKey → Bool) (excess : ℕ) :
    registry.evictFinished property excess =
      (registry.spare property excess, registry.without (registry.spare property excess)) := by
  unfold evictFinished
  simp only [foldl_removeSummary]
  rw [eraseDups_of_nodup (hnodup.filter _)]
  rfl

/-! ## Opening a summary -/

/-- The registry with the summary of a process that starts. -/
def opened (registry : ProcessRegistry) (key : ProcessControlKey) (now : ℕ) : ProcessRegistry :=
  { registry with
    summaries := registry.summaries.insert key
      { startedAtEpochSeconds := now, order := registry.nextSummaryOrder }
    summaryOrder := registry.summaryOrder ++ [key]
    nextSummaryOrder := saturatingAdd registry.nextSummaryOrder 1 }

/-- The registry while a process is started again: its old summary has lost its place. -/
def detached (registry : ProcessRegistry) (key : ProcessControlKey) : ProcessRegistry :=
  { registry with summaryOrder := registry.summaryOrder.filter (· ≠ key) }

/-- The registry is sound but for a summary of the process, which has no place. -/
structure SoundBeside (registry : ProcessRegistry) (key : ProcessControlKey) : Prop where
  listed : ∀ other, other ∈ registry.summaryOrder ↔
    other ≠ key ∧ registry.summaries.contains other = true
  nodup : registry.summaryOrder.Nodup
  increasing : registry.summaryOrder.Pairwise fun earlier later =>
    registry.orderOf earlier < registry.orderOf later
  below : ∀ (key : ProcessControlKey) (summary : StoredProcessSummary),
    registry.summaries[key]? = some summary → summary.order < registry.nextSummaryOrder

theorem contains_iff :
    registry.summaries.contains key = true ↔
      ∃ summary, registry.summaries[key]? = some summary := by
  rw [ExtTreeMap.contains_eq_isSome_getElem?, Option.isSome_iff_exists]

theorem Sound.detached (hsound : registry.Sound) (key : ProcessControlKey) :
    (registry.detached key).SoundBeside key where
  listed other := by
    rw [ProcessRegistry.detached, List.mem_filter, decide_eq_true_eq, hsound.listed]
    exact and_comm
  nodup := hsound.nodup.filter _
  increasing := hsound.pairwise.sublist List.filter_sublist
  below := hsound.below

theorem Sound.beside (hsound : registry.Sound)
    (hunknown : ¬ registry.summaries.contains key = true) : registry.SoundBeside key where
  listed other := by
    rw [hsound.listed]
    constructor
    · intro hcontains
      refine ⟨?_, hcontains⟩
      rintro rfl
      exact hunknown hcontains
    · exact fun hboth => hboth.2
  nodup := hsound.nodup
  increasing := hsound.pairwise
  below := hsound.below

theorem SoundBeside.without (hsound : registry.SoundBeside key)
    (removed : List ProcessControlKey) : (registry.without removed).SoundBeside key where
  listed other := by
    rw [ProcessRegistry.without, List.mem_filter, hsound.listed, decide_eq_true_eq,
      ← ProcessRegistry.without, contains_iff, contains_iff]
    simp only [lookup_without]
    constructor
    · rintro ⟨⟨hne, summary, hlookup⟩, hkept⟩
      exact ⟨hne, summary, hlookup, hkept⟩
    · rintro ⟨hne, summary, hlookup, hkept⟩
      exact ⟨⟨hne, summary, hlookup⟩, hkept⟩
  nodup := hsound.nodup.filter _
  increasing := by
    apply (hsound.increasing.sublist List.filter_sublist).imp_of_mem
    intro earlier later hearlier hlater hlt
    have hkept : ∀ other ∈ registry.summaryOrder.filter (· ∉ removed),
        (registry.without removed).orderOf other = registry.orderOf other := by
      intro other hother
      obtain ⟨hlisted, hkept⟩ := List.mem_filter.mp hother
      obtain ⟨summary, hlookup⟩ := contains_iff.mp ((hsound.listed other).mp hlisted).2
      have hafter := lookup_without.mpr ⟨hlookup, of_decide_eq_true hkept⟩
      rw [orderOf_of_lookup hlookup, orderOf_of_lookup hafter]
    rw [hkept earlier hearlier, hkept later hlater]
    exact hlt
  below other summary hlookup := hsound.below other summary (lookup_without.mp hlookup).1

theorem lookup_opened : (registry.opened key now).summaries[other]? = some summary ↔
    (key = other ∧ { startedAtEpochSeconds := now, order := registry.nextSummaryOrder } = summary) ∨
      (key ≠ other ∧ registry.summaries[other]? = some summary) :=
  getElem?_insert_eq_some_iff

/-- A summary that is opened gets a place at the end and the highest order number. -/
theorem SoundBeside.opened (hsound : registry.SoundBeside key) (now : ℕ)
    (hroom : registry.nextSummaryOrder < u64Max) : (registry.opened key now).Sound := by
  have hnext : (registry.opened key now).nextSummaryOrder = registry.nextSummaryOrder + 1 :=
    Nat.min_eq_left hroom
  have hnew : key ∉ registry.summaryOrder := fun hlisted => ((hsound.listed key).mp hlisted).1 rfl
  have hold : ∀ other ∈ registry.summaryOrder,
      (registry.opened key now).orderOf other = registry.orderOf other ∧
        registry.orderOf other < registry.nextSummaryOrder := by
    intro other hother
    obtain ⟨hne, hcontains⟩ := (hsound.listed other).mp hother
    obtain ⟨summary, hlookup⟩ := contains_iff.mp hcontains
    have hafter : (registry.opened key now).summaries[other]? = some summary :=
      lookup_opened.mpr (Or.inr ⟨hne.symm, hlookup⟩)
    rw [orderOf_of_lookup hlookup, orderOf_of_lookup hafter]
    exact ⟨rfl, hsound.below other summary hlookup⟩
  have hlast : (registry.opened key now).orderOf key = registry.nextSummaryOrder :=
    orderOf_of_lookup (lookup_opened.mpr (Or.inl ⟨rfl, rfl⟩))
  refine ⟨⟨fun other => ?_, ?_, ?_⟩, fun other summary hlookup => ?_⟩
  · rw [ProcessRegistry.opened, List.mem_append, List.mem_singleton, hsound.listed,
      ExtTreeMap.contains_insert]
    by_cases hkey : key = other
    · simp [hkey]
    · simp [hkey, Ne.symm hkey, LawfulEqCmp.compare_eq_iff_eq]
  · exact hsound.nodup.append (List.nodup_singleton key) (by simpa using hnew)
  · rw [ProcessRegistry.opened, List.map_append, ← ProcessRegistry.opened]
    apply List.pairwise_append.mpr
    refine ⟨?_, List.pairwise_singleton _ _, ?_⟩
    · apply List.pairwise_map.mpr
      apply hsound.increasing.imp_of_mem
      intro earlier later hearlier hlater hlt
      rw [(hold earlier hearlier).1, (hold later hlater).1]
      exact hlt
    · intro earlier hearlier later hlater
      obtain ⟨other, hother, rfl⟩ := List.mem_map.mp hearlier
      rw [List.map_singleton, List.mem_singleton] at hlater
      rw [hlater, hlast, (hold other hother).1]
      exact (hold other hother).2
  · rw [hnext]
    rcases lookup_opened.mp hlookup with ⟨-, rfl⟩ | ⟨-, hlookup⟩
    · exact Nat.lt_succ_self _
    · exact Nat.lt_succ_of_lt (hsound.below other summary hlookup)

/-! ## A process starts -/

def sameProject (key candidate : ProcessControlKey) : Bool :=
  decide (candidate.tenant = key.tenant ∧ candidate.project = key.project)

/-- The summaries that go to make room in the project of a process that starts. -/
def projectSpare (registry : ProcessRegistry) (key : ProcessControlKey) : List ProcessControlKey :=
  (registry.detached key).spare (sameProject key)
    (registry.projectSummaryCount key.tenant key.project + 1 - maxRecentProcessSummariesPerProject)

def roomInProject (registry : ProcessRegistry) (key : ProcessControlKey) : ProcessRegistry :=
  (registry.detached key).without (registry.projectSpare key)

/-- The summaries that go after that, to make room in the registry. -/
def totalSpare (registry : ProcessRegistry) (key : ProcessControlKey) : List ProcessControlKey :=
  (registry.roomInProject key).spare (fun _ => true)
    ((registry.roomInProject key).summaries.size + 1 - maxRecentProcessSummariesTotal)

def started (registry : ProcessRegistry) (key : ProcessControlKey) (now : ℕ) : ProcessRegistry :=
  ((registry.roomInProject key).without (registry.totalSpare key)).opened key now

theorem startSummary_eq (hsound : registry.Sound) (now : ℕ) : registry.startSummary key now =
      (registry.projectSpare key ++ registry.totalSpare key, registry.started key now) := by
  have hdetached := hsound.detached key
  unfold startSummary
  simp only
  rw [← ProcessRegistry.detached, evictFinished_eq hdetached.nodup]
  simp only
  rw [evictFinished_eq (hdetached.without _).nodup]
  simp only [started, totalSpare, roomInProject, projectSpare, projectSummaryCount, opened]
  rfl

theorem lookup_started : (registry.started key now).summaries[other]? = some summary ↔
      (key = other ∧
        { startedAtEpochSeconds := now, order := registry.nextSummaryOrder } = summary) ∨
      (key ≠ other ∧ registry.summaries[other]? = some summary ∧
        other ∉ registry.projectSpare key ∧ other ∉ registry.totalSpare key) := by
  unfold started
  rw [lookup_opened, lookup_without, roomInProject, lookup_without, and_assoc]
  rfl

theorem Sound.started (hsound : registry.Sound) (hroom : registry.nextSummaryOrder < u64Max)
    (now : ℕ) : (registry.started key now).Sound :=
  (((hsound.detached key).without _).without _).opened now hroom

/-- What is left after room was made in the project. -/
theorem sublist_roomInProject : (registry.roomInProject key).summaryOrder.Sublist
      (registry.summaryOrder.filter (· ∉ registry.projectSpare key)) :=
  List.filter_sublist.filter _

/-- Summaries that go have a final result. -/
theorem mem_projectSpare (hother : other ∈ registry.projectSpare key) :
    (other ≠ key ∧ other ∈ registry.summaryOrder) ∧ sameProject key other = true ∧
      registry.finished other = true := by
  obtain ⟨hlisted, hremovable⟩ := mem_of_mem_takeFirst hother
  obtain ⟨hlisted, hne⟩ := List.mem_filter.mp hlisted
  exact ⟨⟨of_decide_eq_true hne, hlisted⟩, (Bool.and_eq_true_iff.mp hremovable)⟩

theorem finished_iff : registry.finished key = true ↔
      ∃ summary, registry.summaries[key]? = some summary ∧ summary.finalResult.isSome = true := by
  rw [finished, Option.any_eq_true]

theorem mem_totalSpare (hother : other ∈ registry.totalSpare key) :
    (other ≠ key ∧ other ∈ registry.summaryOrder ∧ other ∉ registry.projectSpare key) ∧
      registry.finished other = true := by
  obtain ⟨hlisted, hremovable⟩ := mem_of_mem_takeFirst hother
  obtain ⟨hlisted, hkept⟩ := List.mem_filter.mp hlisted
  obtain ⟨hlisted, hne⟩ := List.mem_filter.mp hlisted
  obtain ⟨summary, hlookup, hended⟩ := finished_iff.mp (Bool.and_eq_true_iff.mp hremovable).2
  refine ⟨⟨of_decide_eq_true hne, hlisted, of_decide_eq_true hkept⟩, ?_⟩
  exact finished_iff.mpr ⟨summary, (lookup_without.mp hlookup).1, hended⟩

section

variable (hsound : registry.Sound)
include hsound

theorem countP_started (hroom : registry.nextSummaryOrder < u64Max)
    (now : ℕ) (property : ProcessControlKey → Bool) :
    (registry.started key now).summaries.keys.countP property ≤
      ((registry.roomInProject key).summaryOrder.filter
        (· ∉ registry.totalSpare key)).countP property + 1 := by
  have hafter : (registry.started key now).Sound := hsound.started hroom now
  rw [countP_keys _ hafter.nodup hafter.listed]
  unfold started opened
  rw [List.countP_append]
  exact Nat.add_le_add_left (List.countP_le_length.trans (List.length_singleton).le) _

/-- A start leaves too many summaries in a project only if none of them is finished. -/
theorem unfinished_of_projectSummaryCount (hroom : registry.nextSummaryOrder < u64Max)
    (hexceeded : maxRecentProcessSummariesPerProject <
      (registry.started key now).projectSummaryCount key.tenant key.project)
    (hother : sameProject key other = true)
    (hlookup : (registry.started key now).summaries[other]? = some summary) :
    summary.finalResult = none := by
  have hdetached := hsound.detached key
  have hmade := countP_lt_or_taken
    (fun candidate => sameProject key candidate && (registry.detached key).finished candidate)
    (sameProject key) maxRecentProcessSummariesPerProject hsound.nodup hdetached.nodup
    (fun entry hentry => (List.mem_filter.mp hentry).1)
    (fun entry hremovable => (Bool.and_eq_true_iff.mp hremovable).1)
    (congrArg (· + 1 - maxRecentProcessSummariesPerProject)
      (countP_keys registry.summaries hsound.nodup hsound.listed (sameProject key)))
  rcases hmade with hfew | htaken
  · -- Room was made, and the new summary fills it at most.
    have hcount : (registry.started key now).summaries.keys.countP (sameProject key) ≤ _ :=
      countP_started hsound hroom now (sameProject key)
    have hsublist : ((registry.roomInProject key).summaryOrder.filter
        (· ∉ registry.totalSpare key)).countP (sameProject key) ≤
          (registry.summaryOrder.filter (· ∉ registry.projectSpare key)).countP (sameProject key) :=
      (List.filter_sublist.trans sublist_roomInProject).countP_le
    exact absurd hexceeded (Nat.not_lt.mpr (hcount.trans (Nat.succ_le_of_lt
      (hsublist.trans_lt hfew))))
  · by_contra hended
    rcases lookup_started.mp hlookup with ⟨-, rfl⟩ | ⟨hne, hbefore, hkept, -⟩
    · exact hended rfl
    · apply hkept
      apply htaken other (List.mem_filter.mpr ⟨hsound.mem_of_lookup hbefore, by simp [hne.symm]⟩)
      rw [Bool.and_eq_true_iff]
      exact ⟨hother, finished_iff.mpr ⟨summary, hbefore, Option.isSome_iff_ne_none.mpr hended⟩⟩

theorem size_roomInProject : (registry.roomInProject key).summaries.size =
      (registry.summaryOrder.filter (· ∉ registry.projectSpare key)).length := by
  apply size_eq_length _ (hsound.nodup.filter _)
  intro other
  rw [List.mem_filter, hsound.listed, decide_eq_true_eq, contains_iff, roomInProject, contains_iff]
  simp only [lookup_without]
  constructor
  · rintro ⟨⟨summary, hlookup⟩, hkept⟩
    exact ⟨summary, hlookup, hkept⟩
  · rintro ⟨summary, hlookup, hkept⟩
    exact ⟨⟨summary, hlookup⟩, hkept⟩

/-- A start leaves too many summaries in the registry only if none of them is
finished. -/
theorem unfinished_of_size (hroom : registry.nextSummaryOrder < u64Max)
    (hexceeded : maxRecentProcessSummariesTotal < (registry.started key now).summaries.size)
    (hlookup : (registry.started key now).summaries[other]? = some summary) :
    summary.finalResult = none := by
  have hinProject := (hsound.detached key).without (registry.projectSpare key)
  have hmade := countP_lt_or_taken
    (fun candidate => true && (registry.roomInProject key).finished candidate) (fun _ => true)
    maxRecentProcessSummariesTotal
    (hsound.nodup.filter fun entry => decide (entry ∉ registry.projectSpare key))
    hinProject.nodup (fun entry hentry => sublist_roomInProject.subset hentry) (fun _ _ => rfl)
    (by rw [List.countP_true, ← size_roomInProject hsound])
  rcases hmade with hfew | htaken
  · have hcount : (registry.started key now).summaries.keys.countP (fun _ => true) ≤ _ :=
      countP_started hsound hroom now fun _ => true
    have hsublist : ((registry.roomInProject key).summaryOrder.filter
        (· ∉ registry.totalSpare key)).length ≤
          ((registry.summaryOrder.filter (· ∉ registry.projectSpare key)).filter
            (· ∉ registry.totalSpare key)).length :=
      (sublist_roomInProject.filter _).length_le
    rw [List.countP_true, ExtTreeMap.length_keys] at hcount
    rw [List.countP_true] at hfew
    exact absurd hexceeded (Nat.not_lt.mpr (hcount.trans (Nat.succ_le_of_lt
      (hsublist.trans_lt hfew))))
  · by_contra hended
    rcases lookup_started.mp hlookup with ⟨-, rfl⟩ | ⟨hne, hbefore, hkept, hstays⟩
    · exact hended rfl
    · apply hstays
      apply htaken other
      · apply List.mem_filter.mpr
        refine ⟨List.mem_filter.mpr ⟨hsound.mem_of_lookup hbefore, by simp [hne.symm]⟩, ?_⟩
        exact decide_eq_true hkept
      · rw [Bool.true_and]
        apply finished_iff.mpr
        exact ⟨summary, lookup_without.mpr ⟨hbefore, hkept⟩, Option.isSome_iff_ne_none.mpr hended⟩

/-- The summaries that go are the oldest finished ones of the project. -/
theorem projectSpare_oldest (hgone : gone ∈ registry.projectSpare key) (hne : other ≠ key)
    (hproject : sameProject key other = true) (hfinished : registry.finished other = true)
    (hkept : other ∉ registry.projectSpare key) :
    registry.orderOf gone < registry.orderOf other := by
  obtain ⟨summary, hlookup, -⟩ := finished_iff.mp hfinished
  apply before_of_mem_takeFirst (hsound.detached key).increasing hgone
  · exact List.mem_filter.mpr ⟨hsound.mem_of_lookup hlookup, decide_eq_true hne⟩
  · exact Bool.and_eq_true_iff.mpr ⟨hproject, hfinished⟩
  · exact hkept

/-- The summaries that go after that are the oldest finished ones that are left. -/
theorem totalSpare_oldest (hgone : gone ∈ registry.totalSpare key) (hne : other ≠ key)
    (hfinished : registry.finished other = true) (hleft : other ∉ registry.projectSpare key)
    (hkept : other ∉ registry.totalSpare key) :
    registry.orderOf gone < registry.orderOf other := by
  obtain ⟨summary, hlookup, hended⟩ := finished_iff.mp hfinished
  have hordered : (registry.roomInProject key).summaryOrder.Pairwise fun earlier later =>
      registry.orderOf earlier < registry.orderOf later :=
    hsound.pairwise.sublist (List.filter_sublist.trans List.filter_sublist)
  apply before_of_mem_takeFirst hordered hgone
  · apply List.mem_filter.mpr
    refine ⟨List.mem_filter.mpr ⟨hsound.mem_of_lookup hlookup, decide_eq_true hne⟩, ?_⟩
    exact decide_eq_true hleft
  · rw [Bool.true_and]
    exact finished_iff.mpr ⟨summary, lookup_without.mpr ⟨hlookup, hleft⟩, hended⟩
  · exact hkept

end

/-! ## Summaries that are written again -/

/-- A change of one summary that leaves its order number. -/
theorem Sound.modify (hsound : registry.Sound) (key : ProcessControlKey)
    {change : StoredProcessSummary → StoredProcessSummary}
    (hchange : ∀ summary, (change summary).order = summary.order) :
    ({ registry with summaries := registry.summaries.modify key change } :
      ProcessRegistry).Sound := by
  have horder : ∀ other : ProcessControlKey,
      (registry.summaries.modify key change)[other]?.map (·.order) =
        registry.summaries[other]?.map (·.order) := by
    intro other
    rw [ExtTreeMap.getElem?_modify]
    split
    case isTrue hsame =>
      rw [LawfulEqCmp.eq_of_compare hsame, Option.map_map]
      exact congrArg (Option.map · _) (funext hchange)
    case isFalse => rfl
  refine ⟨⟨fun other => ?_, hsound.nodup, ?_⟩, fun other summary hlookup => ?_⟩
  · rw [hsound.listed, ExtTreeMap.contains_eq_isSome_getElem?,
      ExtTreeMap.contains_eq_isSome_getElem?, ← Option.isSome_map, ← horder,
      Option.isSome_map]
  · have hsame : ({ registry with summaries := registry.summaries.modify key change } :
        ProcessRegistry).orderOf = registry.orderOf := by
      funext other
      rw [orderOf, orderOf, horder]
    rw [hsame]
    exact hsound.increasing
  · have hmapped := horder other
    rw [hlookup, Option.map_some, eq_comm, Option.map_eq_some_iff] at hmapped
    obtain ⟨earlier, hearlier, hsame⟩ := hmapped
    rw [← hsame]
    exact hsound.below other earlier hearlier

theorem Sound.recordMainTerminal (hsound : registry.Sound) (key : ProcessControlKey)
    (taskDefinition : TaskDefinitionId) (taskInstance : TaskInstanceId)
    (terminalState : TaskTerminalState) :
    (registry.recordMainTerminal key taskDefinition taskInstance terminalState).Sound :=
  hsound.modify key fun _ => rfl

/-- A process that ends keeps its place; one that was not known gets the last one. -/
theorem Sound.finishSummary (hsound : registry.Sound) (hroom : registry.nextSummaryOrder < u64Max)
    (key : ProcessControlKey) (finalResult : ProcessFinalResult) (connectedNodes : Finset NodeId)
    (now : ℕ) : (registry.finishSummary key finalResult connectedNodes now).Sound := by
  unfold ProcessRegistry.finishSummary
  dsimp only
  split
  case isTrue => exact hsound.modify key fun _ => rfl
  case isFalse hunknown =>
    have hopened : (registry.opened key now).Sound := (hsound.beside hunknown).opened now hroom
    exact hopened.modify key fun _ => rfl

end ProcessRegistry

/-! ## Histories -/

/-- What the registry is told about processes. -/
inductive SummaryEvent where
  | start (key : ProcessControlKey) (now : ℕ)
  | finish (key : ProcessControlKey) (result : ProcessFinalResult) (nodes : Finset NodeId)
      (now : ℕ)
  | mainEnds (key : ProcessControlKey) (taskDefinition : TaskDefinitionId)
      (taskInstance : TaskInstanceId) (terminalState : TaskTerminalState)

namespace SummaryEvent

def apply (registry : ProcessRegistry) : SummaryEvent → ProcessRegistry
  | .start key now => (registry.startSummary key now).2
  | .finish key result nodes now => registry.finishSummary key result nodes now
  | .mainEnds key taskDefinition taskInstance terminalState =>
    registry.recordMainTerminal key taskDefinition taskInstance terminalState

/-- The registry after a sequence of events. -/
def history (events : List SummaryEvent) : ProcessRegistry := events.foldl apply {}

theorem history_concat (events : List SummaryEvent) (event : SummaryEvent) :
    history (events ++ [event]) = event.apply (history events) := by
  rw [history, List.foldl_append]
  rfl

/-- One event keeps the summaries and their order in step. -/
theorem sound_apply {registry : ProcessRegistry} (hsound : registry.Sound)
    (hroom : registry.nextSummaryOrder < u64Max) (event : SummaryEvent) :
    (event.apply registry).Sound := by
  cases event with
  | start key now =>
    rw [apply, startSummary_eq hsound]
    exact hsound.started hroom now
  | finish key result nodes now => exact hsound.finishSummary hroom key result nodes now
  | mainEnds key taskDefinition taskInstance terminalState =>
    exact hsound.recordMainTerminal key taskDefinition taskInstance terminalState

/-- An event uses at most one order number. -/
theorem nextSummaryOrder_apply {registry : ProcessRegistry} (hsound : registry.Sound)
    (event : SummaryEvent) :
    (event.apply registry).nextSummaryOrder ≤ registry.nextSummaryOrder + 1 := by
  cases event with
  | start key now =>
    rw [apply, startSummary_eq hsound]
    exact Nat.min_le_left _ _
  | finish key result nodes now =>
    rw [apply, finishSummary]
    dsimp only
    split
    · exact Nat.le_succ _
    · exact Nat.min_le_left _ _
  | mainEnds key taskDefinition taskInstance terminalState => exact Nat.le_succ _

theorem sound_history (events : List SummaryEvent) (hlength : events.length < u64Max) :
    (history events).Sound ∧ (history events).nextSummaryOrder ≤ events.length + 1 := by
  induction events using List.reverseRecOn with
  | nil =>
    refine ⟨⟨⟨fun key => ?_, List.nodup_nil, List.Pairwise.nil⟩, fun key summary hlookup => ?_⟩,
      le_rfl⟩
    · simp [history]
    · simp [history] at hlookup
  | append_singleton events event ih =>
    rw [List.length_append, List.length_singleton] at hlength ⊢
    obtain ⟨hsound, hnext⟩ := ih (by omega)
    rw [history_concat]
    have hstep := nextSummaryOrder_apply hsound event
    exact ⟨sound_apply hsound (by omega) event, by omega⟩

end SummaryEvent

/-! ## Reading the pages -/

theorem parseDecimal_toDigits (horder : order ≤ u64Max) :
    parseDecimal (Nat.toDigits 10 order) = some order := by
  have hdigits : ∀ char ∈ Nat.toDigits 10 order, char.isDigit = true := fun char hchar =>
    Nat.isDigit_of_mem_toDigits (by decide) (by decide) hchar
  have hsign : withoutPlus (Nat.toDigits 10 order) = Nat.toDigits 10 order := by
    unfold withoutPlus
    split
    case h_1 rest hplus =>
      have hfalse := hdigits '+' (by rw [hplus]; exact List.mem_cons_self)
      exact absurd hfalse (by decide)
    case h_2 => rfl
  unfold parseDecimal
  simp only [hsign]
  rw [if_pos, Nat.ofDigitChars_ten_toDigits]
  rw [Nat.ofDigitChars_ten_toDigits]
  exact ⟨Nat.toDigits_ne_nil, List.all_eq_true.mpr hdigits, horder⟩

/-- The cursor of a page is read back as the order number it names. -/
theorem parseOrderCursor_orderCursor (horder : order ≤ u64Max) :
    parseOrderCursor (some (orderCursor "process" order)) "process" = .ok (some order) := by
  have htext : (orderCursor "process" order).toList =
      "process".toList ++ ':' :: Nat.toDigits 10 order := by
    rw [orderCursor, String.toList_append, String.toList_append, List.append_assoc]
    congr 1
    change ':' :: (toString order).toList = _
    rw [Nat.toString_eq_ofList_toDigits, String.toList_ofList]
  have hsplit : splitOnce [':'] ("process".toList ++ ':' :: Nat.toDigits 10 order) =
      some ("process".toList, Nat.toDigits 10 order) := by
    simp [splitOnce]
  simp only [parseOrderCursor, htext, hsplit, parseDecimal_toDigits horder]
  rfl

namespace ProcessRegistry

variable (registry : ProcessRegistry) (tenant : TenantId) (project : ProjectId)

/-- The summaries of a project below an order number, as a page shows them. -/
def pageEntries (beforeOrder : Option ℕ) : List SummaryEntry :=
  (registry.summaries.toList.filter fun (key, summary) =>
    decide (key.tenant = tenant ∧ key.project = project) &&
      beforeOrder.all (summary.order < ·)).mergeSort
        fun left right => decide (right.2.order ≤ left.2.order)

/-- All summaries of a project, the newest first. -/
structure NewestFirst (entries : List SummaryEntry) : Prop where
  descending : Descending (fun entry => entry.2.order) entries
  complete : ∀ (key : ProcessControlKey) (summary : StoredProcessSummary),
    (key, summary) ∈ entries ↔ registry.summaries[key]? = some summary ∧
      key.tenant = tenant ∧ key.project = project

variable {registry tenant project}

theorem mem_pageEntries {beforeOrder : Option ℕ} {entry : SummaryEntry} :
    entry ∈ registry.pageEntries tenant project beforeOrder ↔
      (registry.summaries[entry.1]? = some entry.2 ∧
        entry.1.tenant = tenant ∧ entry.1.project = project) ∧
      beforeOrder.all (entry.2.order < ·) = true := by
  rw [pageEntries, List.mem_mergeSort, List.mem_filter, Bool.and_eq_true, decide_eq_true_eq,
    ExtTreeMap.mem_toList_iff_getElem?_eq_some, and_assoc, and_assoc, and_assoc]

theorem Sound.descending_pageEntries (hsound : registry.Sound) (beforeOrder : Option ℕ) :
    Descending (fun entry => entry.2.order) (registry.pageEntries tenant project beforeOrder) := by
  have hsorted : (registry.pageEntries tenant project beforeOrder).Pairwise
      fun left right => right.2.order ≤ left.2.order := by
    apply (List.pairwise_mergeSort ?_ ?_ _).imp fun hle => of_decide_eq_true hle
    · intro first second third hfirst hsecond
      simp only [decide_eq_true_eq] at hfirst hsecond ⊢
      omega
    · intro first second
      simp only [Bool.or_eq_true, decide_eq_true_eq]
      omega
  have hdistinct : (registry.pageEntries tenant project beforeOrder).Nodup := by
    apply (List.mergeSort_perm _ _).nodup_iff.mpr
    apply List.Nodup.filter
    have hkeys := ExtTreeMap.distinct_keys_toList (t := registry.summaries)
    exact hkeys.imp fun hne heq => by simp [heq] at hne
  apply (hsorted.and hdistinct).imp_of_mem
  rintro left right hleft hright ⟨hle, hne⟩
  apply Nat.lt_of_le_of_ne hle
  intro heq
  have hleft := (mem_pageEntries.mp hleft).1.1
  have hright := (mem_pageEntries.mp hright).1.1
  have hkey := hsound.eq_of_orderOf_eq (hsound.mem_of_lookup hright) (hsound.mem_of_lookup hleft)
    (by rw [orderOf_of_lookup hright, orderOf_of_lookup hleft, heq])
  rw [hkey, hleft] at hright
  exact hne (Prod.ext hkey.symm (Option.some.inj hright))

theorem Sound.newestFirst (hsound : registry.Sound) :
    registry.NewestFirst tenant project (registry.pageEntries tenant project none) where
  descending := hsound.descending_pageEntries none
  complete key summary := by
    rw [mem_pageEntries]
    simp

theorem listSummaries_eq {cursor : Option String} {beforeOrder : Option ℕ}
    (hcursor : parseOrderCursor cursor "process" = .ok beforeOrder) (limit : ℕ) :
    registry.listSummaries tenant project cursor limit =
      .ok (turn (fun entry => orderCursor "process" entry.2.order)
        (registry.pageEntries tenant project beforeOrder) limit) := by
  unfold listSummaries turn
  rw [hcursor]
  change Except.ok (_, if decide (limit < (registry.pageEntries tenant project
    beforeOrder).length) = true then _ else none) = _
  simp only [decide_eq_true_eq]
  rfl

/-- The cursor of the last summary that was read leads to the summaries that were not. -/
theorem Sound.turnsPages (hsound : registry.Sound) (hnext : registry.nextSummaryOrder ≤ u64Max) :
    TurnsPages (registry.listSummaries tenant project)
      (fun entry => orderCursor "process" entry.2.order)
      (registry.pageEntries tenant project none) := by
  intro front rest hentries limit _
  have hdescending : Descending (fun entry => entry.2.order) (front ++ rest) := by
    rw [← hentries]
    exact hsound.descending_pageEntries none
  cases hlast : front.getLast? with
  | none =>
    rw [List.getLast?_eq_none_iff] at hlast
    subst hlast
    rw [List.nil_append] at hentries
    rw [← hentries]
    exact listSummaries_eq rfl limit
  | some last =>
    have hread : last ∈ registry.pageEntries tenant project none := by
      rw [hentries]
      exact List.mem_append_left _ (List.mem_of_getLast? hlast)
    have hbelow := hsound.below _ _ (mem_pageEntries.mp hread).1.1
    have hrest : registry.pageEntries tenant project (some last.2.order) = rest := by
      apply (hsound.descending_pageEntries _).eq_of_mem_iff
        (hdescending.sublist (List.sublist_append_right _ _))
      intro entry
      rw [hdescending.mem_rest_iff hlast, ← hentries, mem_pageEntries, mem_pageEntries]
      simp
    rw [Option.map_some, ← hrest]
    exact listSummaries_eq (parseOrderCursor_orderCursor (by omega)) limit

end ProcessRegistry

/-! ## What a history keeps -/

/-- A start makes room among finished summaries, the oldest first, and leaves too many
behind only if none is finished. -/
structure ProcessRegistry.MakesRoom (registry : ProcessRegistry) (key : ProcessControlKey)
    (evicted : List ProcessControlKey) (after : ProcessRegistry) : Prop where
  inProject : maxRecentProcessSummariesPerProject <
      after.projectSummaryCount key.tenant key.project →
    ∀ other summary, sameProject key other = true → after.summaries[other]? = some summary →
      summary.finalResult = none
  inTotal : maxRecentProcessSummariesTotal < after.summaries.size →
    ∀ (other : ProcessControlKey) summary, after.summaries[other]? = some summary →
      summary.finalResult = none
  stored : ∀ (other : ProcessControlKey) summary, other ≠ key →
    (after.summaries[other]? = some summary ↔
      registry.summaries[other]? = some summary ∧ other ∉ evicted)
  finished : ∀ gone ∈ evicted, registry.finished gone = true
  oldest : ∃ ofProject ofTotal, evicted = ofProject ++ ofTotal ∧
    (∀ gone ∈ ofProject, sameProject key gone = true ∧ ∀ other, other ≠ key →
      sameProject key other = true → registry.finished other = true → other ∉ ofProject →
        registry.orderOf gone < registry.orderOf other) ∧
    ∀ gone ∈ ofTotal, ∀ other, other ≠ key → registry.finished other = true →
      other ∉ ofProject → other ∉ ofTotal → registry.orderOf gone < registry.orderOf other

theorem ProcessRegistry.Sound.makesRoom {registry : ProcessRegistry} (hsound : registry.Sound)
    (hroom : registry.nextSummaryOrder < u64Max) (key : ProcessControlKey) (now : ℕ) :
    registry.MakesRoom key (registry.startSummary key now).1 (registry.startSummary key now).2 := by
  rw [startSummary_eq hsound]
  constructor
  · intro hexceeded other summary hproject hlookup
    exact unfinished_of_projectSummaryCount hsound hroom hexceeded hproject hlookup
  · intro hexceeded other summary hlookup
    exact unfinished_of_size hsound hroom hexceeded hlookup
  · intro other summary hne
    rw [lookup_started, List.mem_append, not_or]
    simp [hne.symm]
  · intro gone hgone
    rcases List.mem_append.mp hgone with hproject | htotal
    · exact (mem_projectSpare hproject).2.2
    · exact (mem_totalSpare htotal).2
  · refine ⟨_, _, rfl, ?_, ?_⟩
    · intro gone hgone
      refine ⟨(mem_projectSpare hgone).2.1, ?_⟩
      intro other hne hproject hfinished hkept
      exact projectSpare_oldest hsound hgone hne hproject hfinished hkept
    · intro gone hgone other hne hfinished hleft hkept
      exact totalSpare_oldest hsound hgone hne hfinished hleft hkept

/-- Only a start removes summaries. -/
theorem SummaryEvent.contains_apply {registry : ProcessRegistry} {event : SummaryEvent}
    (hevent : ∀ key now, event ≠ .start key now) {other : ProcessControlKey}
    (hstored : registry.summaries.contains other = true) :
    (event.apply registry).summaries.contains other = true := by
  cases event with
  | start key now => exact absurd rfl (hevent key now)
  | finish key result nodes now =>
    rw [apply, finishSummary, ExtTreeMap.contains_modify]
    split
    · exact hstored
    · rw [ExtTreeMap.contains_insert, hstored, Bool.or_true]
  | mainEnds key taskDefinition taskInstance terminalState =>
    rw [apply, recordMainTerminal, ExtTreeMap.contains_modify]
    exact hstored

/-- In every history of starts, restarts and ends, as long as order numbers do not run
out, the summary order lists the stored summaries by increasing order number; a start
makes room as described, and nothing else removes a summary; pages of any sizes show
the summaries of a project from the newest on, each once. -/
theorem summaries_make_room_at_starts (events : List SummaryEvent)
    (hlength : events.length + 1 < u64Max) :
    (SummaryEvent.history events).Ordered ∧ (∀ key now, (SummaryEvent.history events).MakesRoom key
        ((SummaryEvent.history events).startSummary key now).1
        ((SummaryEvent.history events).startSummary key now).2) ∧
      (∀ event : SummaryEvent, (∀ key now, event ≠ .start key now) → ∀ other,
        (SummaryEvent.history events).summaries.contains other = true →
          (event.apply (SummaryEvent.history events)).summaries.contains other = true) ∧
      ∀ tenant project, ∃ entries,
        (SummaryEvent.history events).NewestFirst tenant project entries ∧
        ∀ limits : List ℕ, (∀ limit ∈ limits, 0 < limit) →
          walk ((SummaryEvent.history events).listSummaries tenant project) limits none =
            .ok (entries.take limits.sum) := by
  obtain ⟨hsound, hnext⟩ := SummaryEvent.sound_history events (by omega)
  refine ⟨hsound.toOrdered, fun key now => hsound.makesRoom (by omega) key now, ?_, ?_⟩
  · intro event hevent other hstored
    exact SummaryEvent.contains_apply hevent hstored
  · intro tenant project
    refine ⟨_, hsound.newestFirst, fun limits hlimits => ?_⟩
    exact (hsound.turnsPages (by omega)).walk_eq_take hlimits

/-! ## A registry that stays too large -/

/-- While no process ends, starts only add summaries. -/
theorem SummaryEvent.history_starts (hnodup : keys.Nodup) (hlength : keys.length < u64Max) :
    (history (keys.map (.start · 0))).summaryOrder = keys ∧
      ∀ key, (history (keys.map (.start · 0))).finished key = false := by
  induction keys using List.reverseRecOn with
  | nil => exact ⟨rfl, fun key => rfl⟩
  | append_singleton keys key ih =>
    rw [List.length_append, List.length_singleton] at hlength
    obtain ⟨hbefore, -, hnew⟩ := List.nodup_append.mp hnodup
    obtain ⟨horder, hrunning⟩ := ih hbefore (by omega)
    have hsound := (SummaryEvent.sound_history (keys.map (.start · 0))
      (by rw [List.length_map]; omega)).1
    rw [List.map_append, List.map_singleton, SummaryEvent.history_concat, apply,
      startSummary_eq hsound]
    generalize history (keys.map (.start · 0)) = registry at horder hrunning hsound
    have hproject : registry.projectSpare key = [] := by
      apply List.eq_nil_iff_forall_not_mem.mpr
      intro other hother
      exact absurd (mem_projectSpare hother).2.2 (by simp [hrunning])
    have htotal : registry.totalSpare key = [] := by
      apply List.eq_nil_iff_forall_not_mem.mpr
      intro other hother
      exact absurd (mem_totalSpare hother).2 (by simp [hrunning])
    constructor
    · rw [ProcessRegistry.started, htotal, without_nil,
        ProcessRegistry.roomInProject, hproject, without_nil]
      change registry.summaryOrder.filter (· ≠ key) ++ [key] = _
      rw [horder, List.filter_eq_self.mpr]
      intro other hother
      exact decide_eq_true (hnew other hother key (by simp))
    · intro other
      rw [← Bool.not_eq_true, finished_iff]
      rintro ⟨summary, hlookup, hended⟩
      rcases lookup_started.mp hlookup with ⟨-, rfl⟩ | ⟨-, hlookup, -⟩
      · simp at hended
      · have hfinished := finished_iff.mpr ⟨summary, hlookup, hended⟩
        rw [hrunning] at hfinished
        cases hfinished

end

namespace SummarySample

/-- The two digits of a number below one hundred. -/
def twoDigits (number : Fin 100) : String :=
  String.ofList [Nat.digitChar (number / 10), Nat.digitChar (number % 10)]

theorem valid_twoDigits : ∀ number, (validateId (twoDigits number)).isOk := by
  decide +kernel

def numbered (kind : IdKind) (number : Fin 100) : Id kind :=
  ⟨twoDigits number, valid_twoDigits number⟩

theorem digitChar_inj : ∀ left right : Fin 10,
    Nat.digitChar left = Nat.digitChar right → left = right := by
  decide

theorem numbered_injective (kind : IdKind) : Function.Injective (numbered kind) := by
  intro left right heq
  have htext := congrArg (fun id => id.value.toList) heq
  simp only [numbered, twoDigits, String.toList_ofList, List.cons.injEq, and_true] at htext
  have htens := digitChar_inj ⟨left / 10, by omega⟩ ⟨right / 10, by omega⟩ htext.1
  have hones := digitChar_inj ⟨left % 10, by omega⟩ ⟨right % 10, by omega⟩ htext.2
  rw [Fin.mk.injEq] at htens hones
  exact Fin.ext (by omega)

def processOf (owner : Fin 100 × Fin 100) : ProcessControlKey :=
  ⟨numbered .tenant owner.1, numbered .project owner.2, numbered .process 0⟩

/-- One process in each of more projects than the registry has room for. -/
def crowd : List ProcessControlKey :=
  ((List.finRange 100 ×ˢ List.finRange 100).take (maxRecentProcessSummariesTotal + 1)).map processOf

theorem nodup_crowd : crowd.Nodup := by
  apply List.Nodup.map
  · rintro ⟨tenant, project⟩ ⟨tenant', project'⟩ heq
    have htenant := numbered_injective _ (congrArg ProcessControlKey.tenant heq)
    have hproject := numbered_injective _ (congrArg ProcessControlKey.project heq)
    exact Prod.ext htenant hproject
  · apply List.Nodup.sublist (List.take_sublist _ _)
    exact (List.nodup_finRange 100).product (List.nodup_finRange 100)

theorem length_crowd : crowd.length = maxRecentProcessSummariesTotal + 1 := by
  simp [crowd, List.length_product, maxRecentProcessSummariesTotal]

theorem processOf_mem_crowd : processOf (0, 0) ∈ crowd := by
  apply List.mem_map.mpr
  refine ⟨(0, 0), ?_, rfl⟩
  rw [List.finRange_succ, List.product_cons, List.map_cons, List.cons_append, List.take_succ_cons]
  exact List.mem_cons_self

/-- Every process of the crowd starts, and the first one ends. -/
def crowdedEvents : List SummaryEvent :=
  crowd.map (.start · 0) ++ [.finish (processOf (0, 0)) .completed ∅ 1]

end SummarySample

open SummarySample in
/-- A process that was started, ended and started again has one place. -/
theorem restarted_process_has_one_place :
    [SummaryEvent.start (processOf (0, 0)) 0, .finish (processOf (0, 0)) .failed ∅ 1,
      .start (processOf (0, 0)) 2].length + 1 < u64Max ∧
    (SummaryEvent.history [.start (processOf (0, 0)) 0, .finish (processOf (0, 0)) .failed ∅ 1,
      .start (processOf (0, 0)) 2]).Ordered :=
  ⟨by decide, (summaries_make_room_at_starts _ (by decide)).1⟩

open SummarySample in
/-- A process that ends frees no room: the registry holds more than its bound although one
of its summaries is finished. -/
theorem ended_process_leaves_registry_over_bound :
    maxRecentProcessSummariesTotal < (SummaryEvent.history crowdedEvents).summaries.size ∧
      (SummaryEvent.history crowdedEvents).finished (processOf (0, 0)) = true := by
  have hbound : crowd.length < u64Max := by
    rw [length_crowd]
    decide
  obtain ⟨horder, -⟩ := SummaryEvent.history_starts nodup_crowd hbound
  obtain ⟨hsound, hnext⟩ := SummaryEvent.sound_history (crowd.map (.start · 0))
    (by rw [List.length_map]; exact hbound)
  rw [List.length_map, length_crowd] at hnext
  have hroom : maxRecentProcessSummariesTotal + 1 + 1 < u64Max := by decide
  have hstored : (SummaryEvent.history (crowd.map (.start · 0))).summaries.contains
      (processOf (0, 0)) = true := by
    rw [← hsound.listed, horder]
    exact processOf_mem_crowd
  rw [crowdedEvents, SummaryEvent.history_concat, SummaryEvent.apply]
  constructor
  · have hafter := hsound.finishSummary (hnext.trans_lt hroom) (processOf (0, 0)) .completed ∅ 1
    rw [size_eq_length _ hafter.nodup hafter.listed,
      finishSummary, if_pos hstored]
    dsimp only
    rw [horder, length_crowd]
    exact Nat.lt_succ_self _
  · rw [ProcessRegistry.finished, finishSummary, if_pos hstored]
    change ((SummaryEvent.history (crowd.map (.start · 0))).summaries.modify _ _)[_]?.any _ = true
    obtain ⟨summary, hlookup⟩ := contains_iff.mp hstored
    rw [ExtTreeMap.getElem?_modify_self, hlookup]
    rfl

end Clusterflux
