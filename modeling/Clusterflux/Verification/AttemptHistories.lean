import Clusterflux.Coordinator.TaskLaunches
import Clusterflux.Foundation.OrderedMaps
import Clusterflux.Foundation.Runs

/-!
# Attempt histories

The attempts of a task are numbered by the length of a history that keeps the
last 128 of them, and a restart derives the path of the result from the same
length.  A log beside the registry keeps every attempt that was ever begun, so
that numbers and paths can be compared across the cap.
-/

namespace Clusterflux

open LabelledRuns OrderedMaps

namespace TaskRegistry

variable (registry : TaskRegistry) (key : TaskRestartKey)

/-- The retained attempts of a task. -/
def attemptHistory : List TaskAttemptSnapshot := registry.taskAttempts[key]?.getD []

theorem attemptCount_eq : registry.attemptCount key = (registry.attemptHistory key).length := by
  unfold attemptCount attemptHistory
  cases registry.taskAttempts[key]? <;> rfl

theorem lastAttempt_eq : registry.lastAttempt key = (registry.attemptHistory key).getLast? := by
  unfold lastAttempt attemptHistory
  cases registry.taskAttempts[key]? <;> rfl

theorem attemptHistory_eq_of_lookup {registry registry' : TaskRegistry} {key : TaskRestartKey}
    (hlookup : ∀ attempts, registry'.taskAttempts[key]? = some attempts ↔
      registry.taskAttempts[key]? = some attempts) :
    registry'.attemptHistory key = registry.attemptHistory key := by
  rw [attemptHistory, attemptHistory, Option.ext hlookup]

/-! ## Beginning an attempt -/

/-- A new attempt of another task leaves the history of this one alone: there is
room, or the history holds an attempt that can still run. -/
def KeepsHistory (other : TaskRestartKey) : Prop :=
  registry.taskAttempts.contains other = true ∨
    registry.taskAttempts.size < maxTaskAttemptHistories ∨
    ∀ attempts, registry.taskAttempts[key]? = some attempts →
      ∃ attempt ∈ attempts, attempt.state.isRunnable = true

/-- The history of a task with one more attempt. -/
def extended (history : List TaskAttemptSnapshot) (snapshot : TaskAttemptSnapshot)
    (capacity : ℕ) : List TaskAttemptSnapshot :=
  let attempts := history.map (fun attempt => { attempt with current := false }) ++
    [{ snapshot with attemptNumber := history.length + 1 }]
  if attempts.length > capacity then attempts.drop 1 else attempts

variable {registry key}

theorem lookup_makeAttemptRoom {capacity : ℕ} {attempts : List TaskAttemptSnapshot}
    (hlookup : (registry.makeAttemptRoom capacity).2.taskAttempts[key]? = some attempts) :
    registry.taskAttempts[key]? = some attempts :=
  (getElem?_eraseAll_eq_some_iff.mp hlookup).2

/-- Only histories without a runnable attempt make room for others. -/
theorem lookup_makeAttemptRoom_of_keeps {capacity : ℕ} {attempts : List TaskAttemptSnapshot}
    (hroom : registry.taskAttempts.size < capacity ∨
      ∃ attempt ∈ attempts, attempt.state.isRunnable = true)
    (hlookup : registry.taskAttempts[key]? = some attempts) :
    (registry.makeAttemptRoom capacity).2.taskAttempts[key]? = some attempts := by
  refine getElem?_eraseAll_eq_some_iff.mpr ⟨?_, hlookup⟩
  intro hmem
  rcases hroom with hsize | ⟨attempt, hattempt, hrunnable⟩
  · rw [Nat.sub_eq_zero_of_le hsize, List.take_zero] at hmem
    cases hmem
  · obtain ⟨⟨_, found⟩, hfound, rfl⟩ := List.mem_map.mp (List.mem_of_mem_take hmem)
    rw [List.mem_filter, Std.ExtTreeMap.mem_toList_iff_getElem?_eq_some, hlookup] at hfound
    obtain ⟨hsome, hall⟩ := hfound
    cases hsome
    have hnot := List.all_eq_true.mp hall attempt hattempt
    rw [hrunnable] at hnot
    cases hnot

theorem attemptHistory_beginAttempt_of_ne {other : TaskRestartKey}
    {snapshot : TaskAttemptSnapshot} {capacity : ℕ} (hne : other ≠ key)
    (hkeeps : registry.KeepsHistory key other) :
    (registry.beginAttempt other snapshot maxTaskAttemptHistories capacity).2.attemptHistory key =
      registry.attemptHistory key := by
  apply attemptHistory_eq_of_lookup
  intro attempts
  have hmade : (if registry.taskAttempts.contains other = true then (true, registry)
      else registry.makeAttemptRoom maxTaskAttemptHistories).2.taskAttempts[key]? = some attempts ↔
        registry.taskAttempts[key]? = some attempts := by
    by_cases hcontains : registry.taskAttempts.contains other = true
    · rw [if_pos hcontains]
    · rw [if_neg hcontains]
      refine ⟨lookup_makeAttemptRoom, fun hlookup => ?_⟩
      apply lookup_makeAttemptRoom_of_keeps _ hlookup
      exact (hkeeps.resolve_left hcontains).imp_right fun hrunnable => hrunnable attempts hlookup
  unfold beginAttempt
  split
  next room made hroom =>
    rw [hroom] at hmade
    split
    · exact getElem?_insert_eq_some_iff.trans (by simpa [hne] using hmade)
    · exact hmade

/-- A task that has a history can always begin an attempt; otherwise there has to be room. -/
theorem attemptHistory_beginAttempt_self {snapshot : TaskAttemptSnapshot}
    {historyCapacity capacity : ℕ} :
    (registry.beginAttempt key snapshot historyCapacity capacity).2.attemptHistory key =
      if (registry.beginAttempt key snapshot historyCapacity capacity).1 then
        extended (registry.attemptHistory key) snapshot capacity
      else registry.attemptHistory key := by
  by_cases hcontains : registry.taskAttempts.contains key = true
  · simp only [beginAttempt, hcontains, if_true, attemptHistory, extended,
      Std.ExtTreeMap.getElem?_insert_self, Option.getD_some, List.length_map]
    rfl
  · have habsent : registry.taskAttempts[key]? = none := by
      simpa using hcontains
    have hmade : (registry.makeAttemptRoom historyCapacity).2.taskAttempts[key]? = none := by
      apply Option.eq_none_iff_forall_ne_some.mpr
      intro attempts hlookup
      rw [lookup_makeAttemptRoom hlookup] at habsent
      cases habsent
    simp only [beginAttempt, hcontains, attemptHistory, habsent]
    cases hroom : (registry.makeAttemptRoom historyCapacity).1 <;>
      simp [hroom, hmade, extended]

/-- A task that has a history, or finds room for one, begins its attempt. -/
theorem beginAttempt_succeeds {snapshot : TaskAttemptSnapshot} {historyCapacity capacity : ℕ}
    (hroom : registry.attemptHistory key ≠ [] ∨ registry.taskAttempts.size < historyCapacity) :
    (registry.beginAttempt key snapshot historyCapacity capacity).1 = true := by
  by_cases hcontains : registry.taskAttempts.contains key = true
  · simp only [beginAttempt, hcontains, if_true]
  · have habsent : registry.taskAttempts[key]? = none := by simpa using hcontains
    have hsize : registry.taskAttempts.size < historyCapacity := by
      apply hroom.resolve_left
      rw [attemptHistory, habsent]
      exact not_not.mpr rfl
    have hmade : (registry.makeAttemptRoom historyCapacity).1 = true := by
      simp [makeAttemptRoom, Nat.sub_eq_zero_of_le hsize]
    simp [beginAttempt, hcontains, hmade]

end TaskRegistry

/-! ## The current attempt -/

/-- Exactly the last attempt is current. -/
def LastIsCurrent (history : List TaskAttemptSnapshot) : Prop :=
  history = [] ∨ ∃ earlier last, history = earlier ++ [last] ∧ last.current = true ∧
    ∀ attempt ∈ earlier, attempt.current = false

theorem LastIsCurrent.extended (history : List TaskAttemptSnapshot)
    {snapshot : TaskAttemptSnapshot} {capacity : ℕ} (hcurrent : snapshot.current = true)
    (hcapacity : 0 < capacity) :
    ∃ earlier last, TaskRegistry.extended history snapshot capacity = earlier ++ [last] ∧
      last.current = true ∧ last.attemptNumber = history.length + 1 ∧
      ∀ attempt ∈ earlier, attempt.current = false := by
  have hothers : ∀ attempt ∈ history.map (fun attempt => { attempt with current := false }),
      attempt.current = false := by
    intro attempt hattempt
    obtain ⟨_, -, rfl⟩ := List.mem_map.mp hattempt
    rfl
  unfold TaskRegistry.extended
  dsimp only
  split
  case isTrue hfull =>
    refine ⟨_, _, List.drop_append_of_le_length ?_, hcurrent, rfl, ?_⟩
    · rw [List.length_append, List.length_singleton] at hfull
      omega
    · exact fun attempt hattempt => hothers attempt (List.mem_of_mem_drop hattempt)
  case isFalse => exact ⟨_, _, rfl, hcurrent, rfl, hothers⟩

theorem length_extended (history : List TaskAttemptSnapshot) (snapshot : TaskAttemptSnapshot)
    {capacity : ℕ} (hlength : history.length ≤ capacity) :
    (TaskRegistry.extended history snapshot capacity).length =
      min (history.length + 1) capacity := by
  unfold TaskRegistry.extended
  dsimp only
  split <;> rename_i hfull <;> simp at hfull ⊢ <;> omega

theorem modifyLast_append_singleton {α : Type} {property : α → Bool} {change : α → α}
    {earlier : List α} {last : α} (hlast : property last = true) :
    DurableState.modifyLast property change (earlier ++ [last]) =
      some (earlier ++ [change last]) := by
  induction earlier with
  | nil => simp [DurableState.modifyLast, hlast]
  | cons first rest ih => rw [List.cons_append, DurableState.modifyLast, ih]; rfl

/-- A change of an attempt keeps its number and whether it is current. -/
structure AttemptChange where
  change : TaskAttemptSnapshot → TaskAttemptSnapshot
  number : ∀ attempt, (change attempt).attemptNumber = attempt.attemptNumber
  current : ∀ attempt, (change attempt).current = attempt.current

theorem LastIsCurrent.update {registry : TaskRegistry} {key : TaskRestartKey}
    (hlast : LastIsCurrent (registry.attemptHistory key)) (target : TaskRestartKey)
    (change : AttemptChange) :
    LastIsCurrent ((registry.updateCurrentAttempt target change.change).attemptHistory key) ∧
      ((registry.updateCurrentAttempt target change.change).attemptHistory key).length =
        (registry.attemptHistory key).length := by
  unfold TaskRegistry.updateCurrentAttempt TaskRegistry.attemptHistory at *
  rw [Std.ExtTreeMap.getElem?_modify]
  by_cases htarget : target = key
  · subst htarget
    rw [if_pos Std.ReflCmp.compare_self]
    cases hlookup : registry.taskAttempts[target]? with
    | none => exact ⟨Or.inl rfl, rfl⟩
    | some attempts =>
      rw [hlookup] at hlast
      rcases hlast with hnil | ⟨earlier, last, happend, hcurrent, hothers⟩
      · cases hnil
        exact ⟨Or.inl rfl, rfl⟩
      · rw [Option.getD_some] at happend
        subst happend
        rw [Option.map_some, modifyLast_append_singleton hcurrent]
        refine ⟨Or.inr ⟨earlier, change.change last, rfl, ?_, hothers⟩, by simp⟩
        rw [change.current, hcurrent]
  · rw [if_neg (by rwa [Std.LawfulEqCmp.compare_eq_iff_eq])]
    exact ⟨hlast, rfl⟩

/-! ## Runs of attempts -/

/-- What is told of an attempt when it begins. -/
structure AttemptBeginning where
  spec : TaskSpec
  attemptId : String
  argumentSummary : List String
  node : Option NodeId
  queued : Bool

def AttemptBeginning.snapshot (beginning : AttemptBeginning) (artifactPath : Option String) :
    TaskAttemptSnapshot :=
  beginning.spec.attemptSnapshot beginning.attemptId beginning.argumentSummary beginning.node
    artifactPath beginning.queued

/-- The attempt is entered as launches enter it. -/
def AttemptBeginning.begin (beginning : AttemptBeginning) (registry : TaskRegistry)
    (artifactPath : Option String) : Bool × TaskRegistry :=
  registry.beginAttempt beginning.spec.restartKey (beginning.snapshot artifactPath)
    maxTaskAttemptHistories maxAttemptsPerTask

inductive AttemptEvent where
  | launch (beginning : AttemptBeginning) (artifactPath : Option String)
  | restart (beginning : AttemptBeginning)
  | update (target : TaskRestartKey) (change : AttemptChange)
  | clear (process : ProcessControlKey)

/-- An attempt that was begun, with the path if a restart gave it one. -/
structure BegunAttempt where
  number : ℕ
  restartPath : Option String

/-- The registry, and the attempts of one task that were ever begun. -/
structure AttemptLog where
  registry : TaskRegistry
  begun : List BegunAttempt

namespace AttemptLog

variable (log : AttemptLog) (key : TaskRestartKey)

def beginAttempt (beginning : AttemptBeginning) (artifactPath restartPath : Option String) :
    AttemptLog :=
  let outcome := beginning.begin log.registry artifactPath
  { registry := outcome.2
    begun := if outcome.1 = true ∧ beginning.spec.restartKey = key then
        log.begun ++
          [⟨((outcome.2.lastAttempt key).map (·.attemptNumber)).getD 0, restartPath⟩]
      else log.begun }

/-- A cleared process takes its tasks with it: what is launched later under the
same names are other tasks. -/
def apply : AttemptEvent → AttemptLog
  | .launch beginning artifactPath => log.beginAttempt key beginning artifactPath none
  | .restart beginning =>
    let path := log.registry.restartArtifactPath beginning.spec.restartKey
    log.beginAttempt key beginning (some path) (some path)
  | .update target change =>
    { log with registry := log.registry.updateCurrentAttempt target change.change }
  | .clear process =>
    { registry := log.registry.clearProcess process
      begun := if key.toProcessControlKey = process then [] else log.begun }

/-- The event does not evict the history of the task. -/
def Spares : AttemptEvent → Prop
  | .launch beginning _ | .restart beginning =>
    beginning.spec.restartKey = key ∨
      log.registry.KeepsHistory key beginning.spec.restartKey
  | .update _ _ | .clear _ => True

/-- The path that names an attempt of the task by a number. -/
def attemptPath (number : ℕ) : String :=
  "/vfs/artifacts/" ++ key.task.value ++ "-attempt-" ++ toString number ++ "-result.json"

/-- The history holds the last 128 attempts, and the attempts are numbered up to 129. -/
structure Consistent : Prop where
  length : (log.registry.attemptHistory key).length = min log.begun.length maxAttemptsPerTask
  last : LastIsCurrent (log.registry.attemptHistory key)
  numbered : ∀ (index : ℕ) (entry : BegunAttempt), log.begun[index]? = some entry →
    entry.number = min (index + 1) (maxAttemptsPerTask + 1) ∧
      ∀ path, entry.restartPath = some path → path = attemptPath key entry.number

variable {log key}

/-- The k-th attempt gets the number k, and 129 from then on. -/
theorem Consistent.snoc (hlog : log.Consistent key) {registry : TaskRegistry}
    {snapshot : TaskAttemptSnapshot} {restartPath : Option String}
    (hcurrent : snapshot.current = true)
    (hhistory : registry.attemptHistory key =
      TaskRegistry.extended (log.registry.attemptHistory key) snapshot maxAttemptsPerTask)
    (hpath : ∀ path, restartPath = some path → path = log.registry.restartArtifactPath key) :
    Consistent ⟨registry, log.begun ++
      [⟨((registry.lastAttempt key).map (·.attemptNumber)).getD 0, restartPath⟩]⟩ key := by
  have hlength := hlog.length
  obtain ⟨earlier, last, happend, hlast, hnumber, hothers⟩ :=
    LastIsCurrent.extended (log.registry.attemptHistory key) hcurrent
      (show 0 < maxAttemptsPerTask by decide)
  have hnewest : ((registry.lastAttempt key).map (·.attemptNumber)).getD 0 =
      min (log.begun.length + 1) (maxAttemptsPerTask + 1) := by
    rw [TaskRegistry.lastAttempt_eq, hhistory, happend, List.getLast?_concat, Option.map_some,
      Option.getD_some, hnumber, hlength, min_add_add_right]
  refine ⟨?_, ?_, ?_⟩
  · change (registry.attemptHistory key).length = _
    rw [hhistory, length_extended _ _ (by rw [hlength]; exact min_le_right _ _), hlength,
      List.length_append, List.length_singleton]
    omega
  · exact Or.inr ⟨earlier, last, hhistory.trans happend, hlast, hothers⟩
  · intro index entry hentry
    dsimp only at hentry
    rcases Nat.lt_or_ge index log.begun.length with hlt | hge
    · rw [List.getElem?_append_left hlt] at hentry
      exact hlog.numbered index entry hentry
    · rw [List.getElem?_append_right hge] at hentry
      have hindex : index = log.begun.length := by
        have hzero := (List.getElem?_eq_some_iff.mp hentry).1
        rw [List.length_singleton] at hzero
        omega
      rw [hindex, Nat.sub_self, List.getElem?_cons_zero] at hentry
      rw [← Option.some.inj hentry, hindex]
      refine ⟨hnewest, ?_⟩
      intro path hrestart
      have hcount : log.registry.attemptCount key + 1 =
          ((registry.lastAttempt key).map (·.attemptNumber)).getD 0 := by
        rw [hnewest, TaskRegistry.attemptCount_eq, hlength, min_add_add_right]
      exact (hpath path hrestart).trans (congrArg (attemptPath key) hcount)

theorem Consistent.of_eq (hlog : log.Consistent key) {registry : TaskRegistry}
    (hhistory : registry.attemptHistory key = log.registry.attemptHistory key) :
    Consistent ⟨registry, log.begun⟩ key :=
  ⟨by rw [hhistory]; exact hlog.length, by rw [hhistory]; exact hlog.last, hlog.numbered⟩

theorem Consistent.beginAttempt (hlog : log.Consistent key) {beginning : AttemptBeginning}
    {artifactPath restartPath : Option String}
    (hkeeps : beginning.spec.restartKey = key ∨
      log.registry.KeepsHistory key beginning.spec.restartKey)
    (hpath : ∀ path, restartPath = some path →
      path = log.registry.restartArtifactPath beginning.spec.restartKey) :
    (log.beginAttempt key beginning artifactPath restartPath).Consistent key := by
  unfold AttemptLog.beginAttempt
  by_cases hkey : beginning.spec.restartKey = key
  · have hhistory : (beginning.begin log.registry artifactPath).2.attemptHistory key =
        if (beginning.begin log.registry artifactPath).1 then
          TaskRegistry.extended (log.registry.attemptHistory key)
            (beginning.snapshot artifactPath) maxAttemptsPerTask
        else log.registry.attemptHistory key := by
      rw [← hkey]
      exact TaskRegistry.attemptHistory_beginAttempt_self
    by_cases hbegun : (beginning.begin log.registry artifactPath).1 = true
    · rw [if_pos hbegun] at hhistory
      dsimp only
      rw [if_pos ⟨hbegun, hkey⟩]
      rw [hkey] at hpath
      exact hlog.snoc rfl hhistory hpath
    · rw [if_neg hbegun] at hhistory
      dsimp only
      rw [if_neg fun hboth => hbegun hboth.1]
      exact hlog.of_eq hhistory
  · dsimp only
    rw [if_neg fun hboth => hkey hboth.2]
    exact hlog.of_eq (TaskRegistry.attemptHistory_beginAttempt_of_ne hkey
      (hkeeps.resolve_left hkey))

theorem begun_beginAttempt {beginning : AttemptBeginning} {artifactPath restartPath : Option String}
    (hbegin : (beginning.begin log.registry artifactPath).1 = true) :
    ∃ number, (log.beginAttempt beginning.spec.restartKey beginning artifactPath
      restartPath).begun = log.begun ++ [⟨number, restartPath⟩] := by
  rw [AttemptLog.beginAttempt]
  dsimp only
  rw [if_pos ⟨hbegin, rfl⟩]
  exact ⟨_, rfl⟩

theorem attemptHistory_clearProcess (registry : TaskRegistry) (process : ProcessControlKey) :
    (registry.clearProcess process).attemptHistory key =
      if key.toProcessControlKey = process then [] else registry.attemptHistory key := by
  have hlookup : (registry.clearProcess process).taskAttempts[key]? =
      registry.taskAttempts[key]?.filter fun _ => key.toProcessControlKey ≠ process := by
    simp only [TaskRegistry.clearProcess, Std.ExtTreeMap.getElem?_filter']
    rfl
  rw [TaskRegistry.attemptHistory, TaskRegistry.attemptHistory, hlookup]
  by_cases hprocess : key.toProcessControlKey = process
  · cases registry.taskAttempts[key]? <;> simp [hprocess]
  · cases registry.taskAttempts[key]? <;> simp [hprocess, Option.filter_some]

theorem Consistent.apply (hlog : log.Consistent key) {event : AttemptEvent}
    (hspares : log.Spares key event) : (log.apply key event).Consistent key := by
  cases event with
  | launch beginning artifactPath =>
    apply hlog.beginAttempt hspares
    intro path hpath
    cases hpath
  | restart beginning =>
    apply hlog.beginAttempt hspares
    intro path hpath
    exact (Option.some.inj hpath).symm
  | update target change =>
    have hupdate := hlog.last.update target change
    exact ⟨hupdate.2.trans hlog.length, hupdate.1, hlog.numbered⟩
  | clear process =>
    have hhistory : (log.registry.clearProcess process).attemptHistory key = _ :=
      attemptHistory_clearProcess log.registry process
    by_cases hprocess : key.toProcessControlKey = process
    · rw [if_pos hprocess] at hhistory
      rw [AttemptLog.apply, if_pos hprocess]
      exact ⟨by simp [hhistory], Or.inl hhistory, by simp⟩
    · rw [if_neg hprocess] at hhistory
      rw [AttemptLog.apply, if_neg hprocess]
      exact hlog.of_eq hhistory

/-! ## Numbers and paths -/

/-- The numbers increase from one attempt to the next. -/
def Increasing (begun : List BegunAttempt) : Prop :=
  (begun.map (·.number)).Pairwise (· < ·)

/-- No two restarts were given the same path. -/
def DistinctPaths (begun : List BegunAttempt) : Prop :=
  (begun.filterMap (·.restartPath)).Nodup

theorem attemptPath_injective : Function.Injective (attemptPath key) := by
  intro left right heq
  unfold attemptPath at heq
  rw [String.append_left_inj, String.append_right_inj] at heq
  exact Nat.repr_injective heq

theorem Consistent.increasing_iff (hlog : log.Consistent key) :
    Increasing log.begun ↔ log.begun.length ≤ maxAttemptsPerTask + 1 := by
  have hnumber : ∀ (index : ℕ) (hindex : index < log.begun.length),
      (log.begun[index]).number = min (index + 1) (maxAttemptsPerTask + 1) :=
    fun index hindex => (hlog.numbered index _ (List.getElem?_eq_getElem hindex)).1
  rw [Increasing, List.pairwise_map, List.pairwise_iff_getElem]
  constructor
  · intro hincreasing
    by_contra hlong
    have hlt := hincreasing maxAttemptsPerTask (maxAttemptsPerTask + 1) (by omega) (by omega)
      (by omega)
    rw [hnumber, hnumber] at hlt
    omega
  · intro hshort first second hfirst hsecond hlt
    rw [hnumber, hnumber]
    omega

/-- Paths repeat only where numbers do. -/
theorem Consistent.distinctPaths (hlog : log.Consistent key)
    (hincreasing : Increasing log.begun) : DistinctPaths log.begun := by
  have hpath : ∀ entry ∈ log.begun, ∀ path, entry.restartPath = some path →
      path = attemptPath key entry.number := by
    intro entry hentry
    obtain ⟨index, hindex⟩ := List.getElem?_of_mem hentry
    exact (hlog.numbered index entry hindex).2
  rw [Increasing, List.pairwise_map] at hincreasing
  rw [DistinctPaths, List.Nodup, List.pairwise_filterMap]
  apply hincreasing.imp_of_mem
  intro first second hfirst hsecond hlt left hleft right hright heq
  rw [hpath first hfirst left hleft, hpath second hsecond right hright] at heq
  exact hlt.ne (attemptPath_injective heq)

theorem consistent_of_run {registry : TaskRegistry} {events : List AttemptEvent}
    {final : AttemptLog} (hfresh : registry.attemptHistory key = [])
    (hrun : Run (fun event before after => before.apply key event = after)
      (fun event log => log.Spares key event) ⟨registry, []⟩ events final) :
    final.Consistent key := by
  induction hrun with
  | nil => exact ⟨by simp [hfresh], Or.inl hfresh, by simp⟩
  | snoc _ hspares hstep ih =>
    rw [← hstep]
    exact ih.apply hspares

/-- In every run that spares the history of a task, exactly its last retained
attempt is current; its attempts are told apart by number and path as long as
there are at most 129 of them. -/
theorem attempts_are_told_apart_iff (key : TaskRestartKey) (registry : TaskRegistry)
    (hfresh : registry.attemptHistory key = []) {events : List AttemptEvent} {final : AttemptLog}
    (hrun : Run (fun event before after => before.apply key event = after)
      (fun event log => log.Spares key event) ⟨registry, []⟩ events final) :
    LastIsCurrent (final.registry.attemptHistory key) ∧
      (Increasing final.begun ∧ DistinctPaths final.begun ↔
        final.begun.length ≤ maxAttemptsPerTask + 1) := by
  have hfinal := consistent_of_run hfresh hrun
  refine ⟨hfinal.last, ?_⟩
  rw [← hfinal.increasing_iff]
  exact ⟨And.left, fun hincreasing => ⟨hincreasing, hfinal.distinctPaths hincreasing⟩⟩

end AttemptLog

/-! ## A task that is restarted again and again -/

namespace AttemptSample

def spec : TaskSpec where
  tenant := ⟨"tenant", tenant_valid⟩
  project := ⟨"project", project_valid⟩
  process := ⟨"process", process_valid⟩
  taskDefinition := ⟨"build", by decide⟩
  taskInstance := ⟨"build-1", by decide⟩
  dispatch := ⟨some "build", .taskV1⟩
  environmentId := none
  environment := none
  environmentDigest := none
  requiredCapabilities := ∅
  dependencyCache := none
  sourceSnapshot := none
  sourceRevision := none
  requiredArtifacts := []
  args := []
  requestedSecrets := []
  vfsEpoch := 1
  failurePolicy := .failFast
  bundleDigest := none

def beginning : AttemptBeginning := ⟨spec, "ta_1", [], none, true⟩

/-- The current attempt fails. -/
def failure : AttemptChange where
  change attempt := { attempt with state := .failed }
  number _ := rfl
  current _ := rfl

/-- The log after a launch and a number of restarts; all attempts failed. -/
def afterRestarts : ℕ → AttemptLog
  | 0 => ((⟨{}, []⟩ : AttemptLog).apply spec.restartKey (.launch beginning none)).apply
      spec.restartKey (.update spec.restartKey failure)
  | restarts + 1 =>
    ((afterRestarts restarts).apply spec.restartKey (.restart beginning)).apply spec.restartKey
      (.update spec.restartKey failure)

theorem run_afterRestarts (restarts : ℕ) :
    ∃ events, Run (fun event before after => before.apply spec.restartKey event = after)
      (fun event log => log.Spares spec.restartKey event) ⟨{}, []⟩ events
      (afterRestarts restarts) := by
  have hfailure : ∀ log : AttemptLog,
      log.Spares spec.restartKey (.update spec.restartKey failure) := fun _ => trivial
  induction restarts with
  | zero =>
    have hlaunch : (⟨{}, []⟩ : AttemptLog).Spares spec.restartKey (.launch beginning none) :=
      Or.inl rfl
    exact ⟨_, .snoc (.snoc .nil hlaunch rfl) (hfailure _) rfl⟩
  | succ restarts ih =>
    obtain ⟨events, hrun⟩ := ih
    have hrestart : (afterRestarts restarts).Spares spec.restartKey (.restart beginning) :=
      Or.inl rfl
    exact ⟨_, (hrun.snoc hrestart rfl).snoc (hfailure _) rfl⟩

theorem consistent_afterRestarts (restarts : ℕ) :
    (afterRestarts restarts).Consistent spec.restartKey := by
  obtain ⟨events, hrun⟩ := run_afterRestarts restarts
  exact AttemptLog.consistent_of_run rfl hrun

/-- Every restart begins an attempt under a path of its own. -/
theorem begun_afterRestarts (restarts : ℕ) :
    (afterRestarts restarts).begun.length = restarts + 1 ∧
      ∀ (index : ℕ) entry, (afterRestarts restarts).begun[index + 1]? = some entry →
        ∃ path, entry.restartPath = some path := by
  induction restarts with
  | zero =>
    have hbegin : (beginning.begin (⟨{}, []⟩ : AttemptLog).registry none).1 = true :=
      TaskRegistry.beginAttempt_succeeds (Or.inr (by decide))
    obtain ⟨number, hbegun⟩ : ∃ number, (afterRestarts 0).begun = [] ++ [⟨number, none⟩] :=
      AttemptLog.begun_beginAttempt hbegin
    rw [hbegun]
    exact ⟨rfl, fun index entry hentry => by simp at hentry⟩
  | succ restarts ih =>
    have hlength := (consistent_afterRestarts restarts).length
    rw [ih.1] at hlength
    have hbegin : (beginning.begin (afterRestarts restarts).registry (some
        ((afterRestarts restarts).registry.restartArtifactPath spec.restartKey))).1 = true := by
      refine TaskRegistry.beginAttempt_succeeds
        (Or.inl (List.ne_nil_of_length_pos (hlength ▸ ?_)))
      exact lt_min (Nat.succ_pos _) (by decide)
    obtain ⟨number, hbegun⟩ : ∃ number, (afterRestarts (restarts + 1)).begun = _ :=
      AttemptLog.begun_beginAttempt hbegin
    rw [hbegun]
    refine ⟨by rw [List.length_append, ih.1, List.length_singleton], ?_⟩
    intro index entry hentry
    rw [List.getElem?_append] at hentry
    split_ifs at hentry
    · exact ih.2 index entry hentry
    · obtain rfl := List.mem_singleton.mp (List.mem_of_getElem? hentry)
      exact ⟨_, rfl⟩

theorem begun_at {restarts index : ℕ} (hindex : index < restarts) :
    (afterRestarts restarts).begun[index + 1]? =
      some ⟨min (index + 2) (maxAttemptsPerTask + 1), some (AttemptLog.attemptPath spec.restartKey
        (min (index + 2) (maxAttemptsPerTask + 1)))⟩ := by
  obtain ⟨hlength, hpaths⟩ := begun_afterRestarts restarts
  have hlookup := List.getElem?_eq_getElem (hlength ▸ Nat.succ_lt_succ hindex :
    index + 1 < (afterRestarts restarts).begun.length)
  obtain ⟨hnumber, hpath⟩ := (consistent_afterRestarts restarts).numbered (index + 1) _ hlookup
  obtain ⟨path, hsome⟩ := hpaths index _ hlookup
  rw [hlookup, ← hnumber, ← hpath path hsome, ← hsome]

end AttemptSample

open AttemptSample in
/-- The first three attempts of a task are told apart. -/
theorem three_attempts_are_told_apart :
    AttemptLog.Increasing (afterRestarts 2).begun ∧
      AttemptLog.DistinctPaths (afterRestarts 2).begun := by
  obtain ⟨events, hrun⟩ := run_afterRestarts 2
  have hlength := (begun_afterRestarts 2).1
  exact (AttemptLog.attempts_are_told_apart_iff spec.restartKey {} rfl hrun).2.mpr
    (hlength.trans_le (by decide))

open AttemptSample in
/-- The attempts 129 and 130 of a task get the same number and the same path. -/
theorem attempt_130_repeats_attempt_129 :
    ∃ events final, Run
        (fun event before after => before.apply spec.restartKey event = after)
        (fun event log => log.Spares spec.restartKey event)
        (⟨{}, []⟩ : AttemptLog) events final ∧
      ∃ path, final.begun[128]? = some ⟨129, some path⟩ ∧
        final.begun[129]? = some ⟨129, some path⟩ := by
  obtain ⟨events, hrun⟩ := run_afterRestarts 129
  exact ⟨events, _, hrun, _, begun_at (by decide), begun_at (by decide)⟩

end Clusterflux
