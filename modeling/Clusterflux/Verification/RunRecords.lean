import Clusterflux.Verification.TriggerIndex

/-!
# Records of automated runs

A run that has ended stays as it is until it is removed, and every stored record
passes its own check.  The first fails where the source of an ended run is claimed,
or where a process ends that an ended run was launched as; the second where a text
is cut by characters, or not at all, instead of by bytes.
-/

namespace Clusterflux

open StatefulProgram LabelledRuns OrderedMaps Checks

section

variable {durable middle stored : DurableState} {tenant : TenantId} {project : ProjectId}
  {record : AutomatedRunStageRecord} {accepted : AcceptedCommitTriggerRecord} {retried : RunId}

/-! ## The two questions -/

/-- The records of all runs are valid. -/
def DurableState.AllValid (durable : DurableState) : Prop :=
  ∀ (runId : RunId) (record : AutomatedRunStageRecord),
    durable.automatedRuns[runId]? = some record → record.run.Valid

def AllValid (machine : Machine) : Prop := machine.service.durable.AllValid

/-- No run that was launched as the process has ended. -/
def Machine.NoEndedRun (machine : Machine) (key : ProcessControlKey) : Prop :=
  ∀ (runId : RunId) (record : AutomatedRunStageRecord), machine.runs[runId]? = some record →
    record.runsProcess key → record.run.state.isTerminal = false

/-- The run has ended, in a state and at a time. -/
def EndedAs (runId : RunId) (state : AutomatedRunState) (endedAt : Option ℕ)
    (machine : Machine) : Prop :=
  ∃ record : AutomatedRunStageRecord, machine.runs[runId]? = some record ∧
    record.run.state = state ∧ record.run.endedAt = endedAt

/-- Every stored record passes its own check. -/
def RecordsValid (machine : Machine) : Prop :=
  ∀ (runId : RunId) (record : AutomatedRunStageRecord), machine.runs[runId]? = some record →
    record.run.validate = .ok ()

/-- The run may go to make room for a new one. -/
def DurableState.Removable (durable : DurableState) (runId : RunId) : Prop :=
  ∃ tenant project record, (runId, record) ∈ durable.removableRuns tenant project

namespace AutomationEvent

variable [Primitives] {event : AutomationEvent} {runId : RunId} {before after : Machine}

/-- The event stores the new run of a retry under the id. -/
def StoresRetry (event : AutomationEvent) (runId : RunId) (before after : Machine) : Prop :=
  ∃ retried snapshot triggerId now runKey, event = .retry retried ∧
    before.runs[retried]? = some snapshot ∧
    after.runs[runId]? = some (.begun (snapshot.run.retried runId triggerId now) runKey)

/-- The run is one of those that make room for a new one, and its record is gone.  A retry
may have stored its new run under the id that this has set free. -/
def Removes (event : AutomationEvent) (runId : RunId) (before after : Machine) : Prop :=
  ¬ event.IsWork ∧ before.service.durable.Removable runId ∧
    (after.runs[runId]? = none ∨ event.StoresRetry runId before after)

/-- The event leaves ended runs to themselves: it does not claim the source of one, and it
ends no process that one was launched as. -/
def SparesEnded (event : AutomationEvent) (machine : Machine) : Prop :=
  event.ClaimsOpenRun machine ∧ ∀ key ∈ event.ending machine, machine.NoEndedRun key

/-! ## Ended runs -/

section Ended

/-- Compaction keeps the record of a run, or removes the run. -/
theorem runs_compacts (hcompacts : durable.Compacts tenant project middle)
    (hrecord : durable.automatedRuns[runId]? = some record) :
    middle.automatedRuns[runId]? = some record ∨
      durable.Removable runId ∧ middle.automatedRuns[runId]? = none := by
  obtain rfl | rfl := hcompacts
  · exact .inl hrecord
  · by_cases hgone : runId ∈ (durable.removableRuns tenant project).map (·.1)
    · obtain ⟨⟨_, removed⟩, hremoved, rfl⟩ := List.mem_map.mp hgone
      refine .inr ⟨⟨tenant, project, removed, hremoved⟩, ?_⟩
      refine Option.eq_none_iff_forall_ne_some.mpr fun kept hkept => ?_
      exact (DurableState.runs_removeRuns.mp hkept).2 hgone
    · exact .inl (DurableState.runs_removeRuns.mpr ⟨hrecord, hgone⟩)

theorem runs_accepts (hindexed : durable.Indexed) (haccepts : durable.Accepts accepted stored)
    (hrecord : durable.automatedRuns[runId]? = some record) :
    stored.automatedRuns[runId]? = some record ∨
      durable.Removable runId ∧ stored.automatedRuns[runId]? = none := by
  cases haccepts with
  | compacted hcompacts => exact runs_compacts hcompacts hrecord
  | joined _ _ hkey =>
    rw [hindexed.storeDelivery_known hkey]
    exact .inl hrecord
  | @started middle fresh _ _ hfree hcompacts _ hrunId =>
    -- The key of the new run was free, so its id is not the one of a run stored before.
    have hother : fresh ≠ runId := by
      rintro rfl
      rw [hindexed.lookup_eq_none hfree hrunId] at hrecord
      cases hrecord
    change (middle.automatedRuns.insert fresh _)[runId]? = _ ∨
      _ ∧ (middle.automatedRuns.insert fresh _)[runId]? = _
    rw [getElem?_insert_of_ne hother]
    exact runs_compacts hcompacts hrecord

theorem runs_retries (hindexed : durable.Indexed) (hretries : durable.Retries retried stored)
    (hrecord : durable.automatedRuns[runId]? = some record) :
    stored.automatedRuns[runId]? = some record ∨ durable.Removable runId ∧
      (stored.automatedRuns[runId]? = none ∨ ∃ snapshot triggerId now runKey,
        durable.automatedRuns[retried]? = some snapshot ∧ stored.automatedRuns[runId]? =
          some (.begun (snapshot.run.retried runId triggerId now) runKey)) := by
  cases hretries with
  | refused => exact .inl hrecord
  | compacted hcompacts => exact (runs_compacts hcompacts hrecord).imp_right (.imp_right .inl)
  | @stored snapshot _ middle retry now fresh triggerId hsnapshot _ hcompacts _ hfree hrunId _ =>
    obtain hkept | ⟨hremovable, hgone⟩ := runs_compacts hcompacts hrecord
    · exact .inl (getElem?_insert_of_absent
        ((hindexed.compacts hcompacts).lookup_eq_none hfree hrunId) hkept)
    · refine .inr ⟨hremovable, ?_⟩
      by_cases hsame : fresh = runId
      · subst hsame
        exact .inr ⟨snapshot, triggerId, now, _, hsnapshot, Std.ExtTreeMap.getElem?_insert_self⟩
      · exact .inl ((getElem?_insert_of_ne hsame).trans hgone)

variable [BundleInspection]

/-- One step leaves a run that has ended as it is. -/
theorem Happens.endedAs {state : AutomatedRunState} {endedAt : Option ℕ}
    (hhappens : event.Happens before after) (hkept : ¬ event.Removes runId before after)
    (hspares : event.SparesEnded before) (hindexed : before.service.durable.Indexed)
    (hterminal : state.isTerminal = true) (hended : EndedAs runId state endedAt before) :
    EndedAs runId state endedAt after := by
  obtain ⟨record, hrecord, rfl, rfl⟩ := hended
  by_cases hwork : event.IsWork
  · have hkeeps := (hhappens.keeps hwork hspares.1 False.elim).runs runId
    have hspared : record.Spared (event.ending before) := by
      intro key hkey
      have hnone := hspares.2 key hkey runId record hrecord
      rw [hterminal] at hnone
      simpa using hnone
    rw [hrecord] at hkeeps
    generalize hlater : after.runs[runId]? = later at hkeeps
    cases hkeeps with
    | some hkeeps =>
      obtain ⟨hstate, hend, -⟩ := hkeeps.ended hterminal hspared
      exact ⟨_, hlater, hstate, hend⟩
  · suffices hsame : after.runs[runId]? = some record from ⟨record, hsame, rfl, rfl⟩
    cases event
    case accept accepted =>
      subst hhappens
      refine (runs_accepts hindexed (acceptCommitTrigger_accepts accepted before)
        hrecord).resolve_right ?_
      exact fun ⟨hremovable, hgone⟩ => hkept ⟨hwork, hremovable, .inl hgone⟩
    case retry retried =>
      subst hhappens
      refine (runs_retries hindexed (retryAutomatedRun_retries retried before)
        hrecord).resolve_right ?_
      rintro ⟨hremovable, hgone | ⟨snapshot, triggerId, now, runKey, hsnapshot, hfresh⟩⟩
      · exact hkept ⟨hwork, hremovable, .inl hgone⟩
      · exact hkept ⟨hwork, hremovable,
          .inr ⟨retried, snapshot, triggerId, now, runKey, rfl, hsnapshot, hfresh⟩⟩
    all_goals exact absurd trivial hwork

end Ended

end AutomationEvent

/-! ## Valid records -/

section Valid

variable [Primitives] {event : AutomationEvent} {runId : RunId} {before after : Machine}

omit [Primitives] in
/-- A trigger that was accepted has what a record needs. -/
theorem begun_valid (htrigger : accepted.trigger.validate = .ok ()) (runId : RunId) :
    (acceptedRun runId accepted.tenant accepted.project accepted.trigger).Valid := by
  unfold CommitTrigger.validate at htrigger
  simp only [check_bind_eq_ok] at htrigger
  obtain ⟨-, hsha, href, -⟩ := htrigger
  exact ⟨hsha, href, by rintro _ ⟨⟩, by rintro _ ⟨⟩, rfl⟩

omit [Primitives] in
theorem retried_valid {run : AutomatedRunRecord} (hvalid : run.Valid) (runId : RunId)
    (triggerId : TriggerId) (now : ℕ) : (run.retried runId triggerId now).Valid :=
  { hvalid with
    message := by rintro _ ⟨⟩
    reason := by rintro _ ⟨⟩
    ended := rfl }

theorem DurableState.AllValid.compacts (hvalid : durable.AllValid)
    (hcompacts : durable.Compacts tenant project middle) : middle.AllValid := by
  obtain rfl | rfl := hcompacts
  · exact hvalid
  · intro runId record hrecord
    exact hvalid runId record (DurableState.runs_removeRuns.mp hrecord).1

theorem DurableState.AllValid.recordFor
    (hvalid : durable.AllValid) (htrigger : accepted.trigger.validate = .ok ()) (runId : RunId) :
    (durable.recordFor accepted runId).run.Valid := by
  unfold DurableState.recordFor
  cases hrecord : durable.automatedRuns[runId]? with
  | none => exact begun_valid htrigger runId
  | some record => exact hvalid runId record hrecord

omit [Primitives] in
theorem DurableState.AllValid.insert (hvalid : durable.AllValid) (hrecord : record.run.Valid)
    (hruns : stored.automatedRuns = durable.automatedRuns.insert runId record) :
    stored.AllValid := by
  intro other found hfound
  rw [hruns, getElem?_insert_eq_some_iff] at hfound
  obtain ⟨-, rfl⟩ | ⟨-, hfound⟩ := hfound
  · exact hrecord
  · exact hvalid other found hfound

theorem DurableState.AllValid.accepts
    (hvalid : durable.AllValid) (haccepts : durable.Accepts accepted stored) :
    stored.AllValid := by
  cases haccepts with
  | compacted hcompacts => exact hvalid.compacts hcompacts
  | joined hadmissible _ _ => exact hvalid.insert (hvalid.recordFor hadmissible.trigger _) rfl
  | started hadmissible _ _ hcompacts _ _ =>
    have hmiddle := hvalid.compacts hcompacts
    exact hmiddle.insert (hmiddle.recordFor hadmissible.trigger _) rfl

theorem DurableState.AllValid.retries
    (hvalid : durable.AllValid) (hretries : durable.Retries retried stored) :
    stored.AllValid := by
  cases hretries with
  | refused => exact hvalid
  | compacted hcompacts => exact hvalid.compacts hcompacts
  | stored hsnapshot _ hcompacts _ _ _ _ =>
    exact (hvalid.compacts hcompacts).insert (retried_valid (hvalid _ _ hsnapshot) _ _ _) rfl

variable [BundleInspection]

theorem AutomationEvent.Happens.allValid (hhappens : event.Happens before after)
    (hopen : event.ClaimsOpenRun before) (hfits : event.TextsFit before)
    (hvalid : AllValid before) : AllValid after := by
  by_cases hwork : event.IsWork
  · intro runId record hrecord
    have hfits : True → event.TextsFit before := fun _ => hfits
    have hkeeps := (hhappens.keeps hwork hopen hfits).runs runId
    change after.runs[runId]? = some record at hrecord
    rw [hrecord] at hkeeps
    generalize hearlier : before.runs[runId]? = earlier at hkeeps
    cases hkeeps with
    | some hkeeps => exact hkeeps.valid trivial (hvalid runId _ hearlier)
  · cases event
    case accept accepted =>
      subst hhappens
      exact hvalid.accepts (acceptCommitTrigger_accepts accepted before)
    case retry retried =>
      subst hhappens
      exact hvalid.retries (retryAutomatedRun_retries retried before)
    all_goals exact absurd trivial hwork

end Valid

/-! ## Runs of the system -/

section Runs

variable [Primitives] [BundleInspection]

/-- What is kept along a run of the system about a run that has ended. -/
structure StillEnded (runId : RunId) (state : AutomatedRunState) (endedAt : Option ℕ)
    (machine : Machine) : Prop where
  indexed : machine.Indexed
  ended : EndedAs runId state endedAt machine

/-- Wherever automation has led, a run that has ended keeps its state and the time of its
end through every further step that leaves ended runs to themselves, until it is removed. -/
theorem ended_runs_stay_ended {start middle final : Machine}
    {earlier later : List AutomationEvent} {runId : RunId} {record : AutomatedRunStageRecord}
    (hstart : start.NoAutomation)
    (hearlier : Run AutomationEvent.Happens (fun _ _ => True) start earlier middle)
    (hrecord : middle.runs[runId]? = some record) (hterminal : record.run.state.isTerminal = true)
    (hlater : Run (fun event before after =>
        event.Happens before after ∧ ¬ event.Removes runId before after)
      AutomationEvent.SparesEnded middle later final) :
    ∃ kept : AutomatedRunStageRecord, final.runs[runId]? = some kept ∧
      kept.run.state = record.run.state ∧ kept.run.endedAt = record.run.endedAt := by
  have hmiddle : middle.Indexed := indexed_of_run hstart hearlier
  have hfinal : StillEnded runId record.run.state record.run.endedAt final := by
    refine hlater.invariant ⟨hmiddle, record, hrecord, rfl, rfl⟩ ?_
    rintro event before after ⟨hindexed, hended⟩ hspares ⟨hhappens, hkept⟩
    exact ⟨indexed_of_happens hindexed hhappens,
      hhappens.endedAs hkept hspares hindexed hterminal hended⟩
  exact hfinal.ended

/-- From the first trigger on, every stored record passes its own check if no step claims the
source of an ended run and every text that a step leaves in a record fits. -/
theorem stored_records_are_valid {start final : Machine} {events : List AutomationEvent}
    (hstart : start.NoAutomation)
    (hrun : Run AutomationEvent.Happens
      (fun event machine => event.ClaimsOpenRun machine ∧ event.TextsFit machine) start events
      final) : RecordsValid final := by
  have hvalid : AllValid final := by
    refine hrun.invariant (fun runId record hrecord => ?_) ?_
    · rw [hstart.runs] at hrecord
      simp at hrecord
    · rintro event before after hvalid ⟨hopen, hfits⟩ hhappens
      exact hhappens.allValid hopen hfits hvalid
  intro runId record hrecord
  exact record.run.validate_eq_ok_iff.mpr (hvalid runId record hrecord)

end Runs

end

/-! ## Histories that fail -/

namespace AutomationSample

theorem start_noAutomation : start.NoAutomation := ⟨rfl, rfl, rfl, rfl⟩

theorem stored_of_state {machine : Machine} {runId : RunId} {state : AutomatedRunState}
    (hstate : machine.runs[runId]?.map (·.run.state) = some state) :
    ∃ record, machine.runs[runId]? = some record ∧ record.run.state = state :=
  Option.map_eq_some_iff.mp hstate

theorem accepted_run [Primitives] [BundleInspection] :
    Run AutomationEvent.Happens (fun _ _ => True) start [.accept pushed] accepted :=
  Run.snoc Run.nil trivial rfl

theorem cancelled_run [Primitives] [BundleInspection] :
    Run AutomationEvent.Happens (fun _ _ => True) start
      [.accept pushed, .cancel (firstRun accepted)] cancelled :=
  Run.snoc accepted_run trivial rfl

end AutomationSample

open AutomationSample in
/-- A run that was cancelled before its source was loaded is marked as loading when the source
is claimed. -/
theorem claimed_source_revives_cancelled_run :
    letI := Primitives.sample
    letI := inspection
    ¬ ∀ (start middle final : Machine) (earlier later : List AutomationEvent) (runId : RunId)
        (record : AutomatedRunStageRecord),
      start.NoAutomation → Run AutomationEvent.Happens (fun _ _ => True) start earlier middle →
      middle.runs[runId]? = some record → record.run.state.isTerminal = true →
      Run (fun event before after =>
          event.Happens before after ∧ ¬ event.Removes runId before after)
        (fun _ _ => True) middle later final →
      ∃ kept : AutomatedRunStageRecord, final.runs[runId]? = some kept ∧
        kept.run.state = record.run.state ∧ kept.run.endedAt = record.run.endedAt := by
  let := Primitives.sample
  let := inspection
  intro hstays
  have hcancelled : cancelled.runs[firstRun
      accepted]?.map (·.run.state) = some .cancelled := by decide +kernel
  have hclaimed : claimed.runs[firstRun
      accepted]?.map (·.run.state) = some .loadingSource := by decide +kernel
  obtain ⟨record, hrecord, hstate⟩ := stored_of_state hcancelled
  obtain ⟨revived, hrevived, hloading⟩ := stored_of_state hclaimed
  obtain ⟨kept, hkept, hsame, -⟩ := hstays _ _ claimed _
    [.claimSource pushed.trigger.triggerId] _ record
    start_noAutomation cancelled_run hrecord
    (by rw [hstate]; rfl) (Run.snoc Run.nil trivial ⟨rfl, fun hremoves => hremoves.1 trivial⟩)
  rw [hrevived] at hkept
  cases hkept
  rw [hloading, hstate] at hsame
  cases hsame

open AutomationSample in
/-- A stage that fails late leaves the cancelled run cancelled. -/
theorem cancelled_run_stays_cancelled :
    letI := Primitives.sample
    ∃ kept : AutomatedRunStageRecord, (finalState (failAutomatedRunStage (firstRun accepted)
          "source_unavailable" "the forge did not answer" cancelled)).runs[
        firstRun accepted]? = some kept ∧
      kept.run.state = .cancelled := by
  let := Primitives.sample
  let := inspection
  have hcancelled : cancelled.runs[firstRun
      accepted]?.map (·.run.state) = some .cancelled := by decide +kernel
  obtain ⟨record, hrecord, hstate⟩ := stored_of_state hcancelled
  have hspares : (AutomationEvent.failStage (firstRun accepted)
      "source_unavailable" "the forge did not answer").SparesEnded cancelled :=
    ⟨trivial, by rintro _ ⟨⟩⟩
  have hlater : Run (fun event before after => event.Happens before after ∧
        ¬ event.Removes (firstRun accepted) before after)
      AutomationEvent.SparesEnded cancelled
      [.failStage (firstRun accepted) "source_unavailable" "the forge did not answer"]
      (finalState (failAutomatedRunStage (firstRun accepted)
        "source_unavailable" "the forge did not answer" cancelled)) :=
    Run.snoc Run.nil hspares ⟨rfl, fun hremoves => hremoves.1 trivial⟩
  obtain ⟨kept, hkept, hsame, -⟩ := ended_runs_stay_ended start_noAutomation
    cancelled_run hrecord (by rw [hstate]; rfl) hlater
  exact ⟨kept, hkept, hsame.trans hstate⟩

/-- The message of a stage that fails is stored as it was cut. -/
theorem runs_failAutomatedRunStage {machine : Machine} {runId : RunId}
    {record : AutomatedRunStageRecord} {now : ℕ} (hrecord : machine.runs[runId]? = some record)
    (hactive : record.run.state.isTerminal = false)
    (hclock : machine.environment.clock 0 = some now) (code message : String) :
    (finalState (failAutomatedRunStage runId code message machine)).runs[runId]? =
      some (record.failedStage code message now) := by
  have hstored : Leads (failAutomatedRunStage runId code message) machine
      (fun _ final => final.runs[runId]? = some (record.failedStage code message now))
      (fun final => final.runs[runId]? = some (record.failedStage code message now)) := by
    have hread : Handler.readClock machine = .ok (some now) { machine with environment :=
          { machine.environment with toWorld := machine.environment.afterClock } } :=
      congrArg (EStateM.Result.ok · _) hclock
    refine Leads.bind_ok (bind_eq_ok_iff.mpr ⟨_, _, hread, rfl⟩) ?_
    refine Leads.bind (modifyDurable_leads _ _ _) fun _ middle hmiddle => ?_
    have hruns : middle.runs[runId]? = some record := by
      rw [Machine.runs, hmiddle, machine.service.durable.sameButAssignments_terminalizeForRun]
      exact hrecord
    refine Leads.bind_ok (orFail_eq_ok_iff.mpr ⟨hruns, rfl⟩) ?_
    unfold runIf
    rw [if_pos hactive]
    refine Leads.bind (modifyDurable_leads _ _ _) fun _ last hlast => ?_
    have hfailed : last.runs[runId]? = some (record.failedStage code message now) := by
      rw [Machine.runs, hlast]
      change (middle.runs.modify runId _)[runId]? = _
      rw [Std.ExtTreeMap.getElem?_modify_self, hruns]
      rfl
    have hfinal : ∀ final, Touches elsewhere last final →
        final.runs[runId]? = some (record.failedStage code message now) := by
      intro final htouches
      have hsame : final.runs = last.runs := htouches .runs (by decide)
      rw [hsame]
      exact hfailed
    exact Leads.of_moves Touches.persistDurableState (fun _ => hfinal) hfinal
  exact hstored.finalState

/-- A message of as many characters as a record has room for bytes. -/
def longMessage : String := String.ofList (List.replicate maxAutomatedRunFailureBytes 'é')

theorem utf8ByteSize_boundedStageFailure_longMessage :
    (boundedStageFailure longMessage).utf8ByteSize = 2 * maxAutomatedRunFailureBytes := by
  have hwhole : boundedStageFailure longMessage = longMessage := by
    unfold boundedStageFailure longMessage
    rw [String.toList_ofList, List.take_replicate, Nat.min_self]
  rw [hwhole, longMessage, utf8ByteSize_ofList_eq_sum, List.map_replicate, List.sum_replicate,
    smul_eq_mul, Nat.mul_comm]
  rfl

open AutomationSample in
/-- A message of four thousand accented letters is stored whole, in twice the bytes that a
record may hold. -/
theorem accented_failure_breaks_record :
    letI := Primitives.sample
    letI := inspection
    ¬ ∀ (start final : Machine) (events : List AutomationEvent), start.NoAutomation →
      Run AutomationEvent.Happens (fun _ _ => True) start events final → RecordsValid final := by
  let := Primitives.sample
  let := inspection
  intro hvalid
  have hstored : accepted.runs[firstRun
      accepted]?.map (·.run.state) = some .accepted := by decide +kernel
  obtain ⟨record, hrecord, hstate⟩ := stored_of_state hstored
  have hclock : accepted.environment.clock 0 = some 100 := by decide +kernel
  have hfailed := runs_failAutomatedRunStage hrecord (by rw [hstate]; rfl) hclock
    "source_invalid" longMessage
  have hhappens : AutomationEvent.Happens (.failStage (firstRun
      accepted) "source_invalid" longMessage) accepted _ := rfl
  have hrecordValid := hvalid _ _ _ start_noAutomation
    (Run.snoc accepted_run trivial hhappens) _ _ hfailed
  have hsize := ((AutomatedRunRecord.validate_eq_ok_iff _).mp hrecordValid).message _ rfl
  rw [utf8ByteSize_boundedStageFailure_longMessage] at hsize
  exact absurd hsize (by decide)

namespace AutomationSample

variable [Primitives]

/-- A process reports an accented reason while the run that was accepted is waiting. -/
def waiting : AutomationEvent :=
  .processWaits ⟨tenant, project, ⟨"process", by decide⟩⟩ (some "en attente d'un nœud")

/-- The run fails with an accented message. -/
def failing : AutomationEvent :=
  .failStage (firstRun accepted) "source_unavailable" "la forge n'a pas répondu à temps"

end AutomationSample

open AutomationSample in
/-- The records are valid after an accented reason and an accented failure.  Both texts are
longer in bytes than in characters, and fit all the same. -/
theorem accented_record_is_valid :
    letI := Primitives.sample
    letI := inspection
    ∃ final : Machine, Run AutomationEvent.Happens
        (fun event machine => event.ClaimsOpenRun machine ∧ event.TextsFit machine)
        start [.accept pushed, waiting, failing] final ∧
      RecordsValid final ∧
      final.runs[firstRun accepted]?.map (·.run.failureMessage) =
        some (some "la forge n'a pas répondu à temps") := by
  let := Primitives.sample
  let := inspection
  have hwaiting : waiting.TextsFit accepted := by
    rintro _ ⟨⟩
    decide +kernel
  have hfailing (machine : Machine) : failing.TextsFit machine := by
    show (boundedStageFailure _).utf8ByteSize ≤ _
    decide +kernel
  have hrun : Run AutomationEvent.Happens
      (fun event machine => event.ClaimsOpenRun machine ∧ event.TextsFit machine) start
      [.accept pushed, waiting, failing] _ :=
    .snoc (.snoc (.snoc .nil ⟨trivial, trivial⟩ rfl) ⟨trivial, hwaiting⟩ rfl)
      ⟨trivial, hfailing _⟩ rfl
  exact ⟨_, hrun, stored_records_are_valid start_noAutomation hrun, by decide +kernel⟩

end Clusterflux
