import Clusterflux.Verification.AutomationSteps

/-!
# Processes of automated runs

A run is launched as a process and ends with it.  The launch, the abort of a
process and the cancellation of a run each end the run on some path; the runs
they end are those of one process.
-/

namespace Clusterflux

open StatefulProgram

variable {kind : IdKind} {record : AutomatedRunStageRecord} {runId : RunId} {start : Machine}

variable {ending : Option ProcessControlKey} {fits : Prop} {machine : Machine}

/-! ## Texts of failed processes -/

theorem utf8ByteSize_ofList_eq_sum (chars : List Char) :
    (String.ofList chars).utf8ByteSize = (chars.map Char.utf8Size).sum := by
  rw [String.utf8ByteSize_ofList]
  induction chars with
  | nil => rfl
  | cons char chars ih =>
    rw [String.utf8Len_cons, ih, List.map_cons, List.sum_cons, Nat.add_comm]

/-- The message fits when there is room for its start. -/
theorem utf8ByteSize_boundedAutomatedFailureMessage {start : String} (detail : String)
    (hstart : start.utf8ByteSize + 5 ≤ maxAutomatedRunFailureBytes) :
    (boundedAutomatedFailureMessage start detail).utf8ByteSize ≤ maxAutomatedRunFailureBytes := by
  have hseparator : ("\n…\n" : String).utf8ByteSize = 5 := by decide
  have hspace : (" " : String).utf8ByteSize = 1 := by decide
  unfold boundedAutomatedFailureMessage
  dsimp only
  split
  case isTrue hwhole =>
    rw [String.utf8ByteSize_append, String.utf8ByteSize_append, hspace]
    exact hwhole
  case isFalse =>
    have hend := utf8Size_suffixWithin (maxAutomatedRunFailureBytes -
      (start.utf8ByteSize + ("\n…\n" : String).utf8ByteSize)) detail.toList
    rw [hseparator] at hend
    rw [String.utf8ByteSize_append, String.utf8ByteSize_append, hseparator,
      utf8ByteSize_ofList_eq_sum]
    omega

theorem utf8ByteSize_automatedProcessFailureMessage (registry : TaskRegistry)
    (key : ProcessControlKey) :
    (registry.automatedProcessFailureMessage key).utf8ByteSize ≤
      maxAutomatedRunFailureBytes := by
  unfold TaskRegistry.automatedProcessFailureMessage
  dsimp only
  split
  · decide +kernel
  case h_2 event _ =>
    apply utf8ByteSize_boundedAutomatedFailureMessage
    have htask := event.task.utf8ByteSize_le
    have hdefinition := event.taskDefinition.utf8ByteSize_le
    have htexts : ("Task " : String).utf8ByteSize = 5 ∧ (" (" : String).utf8ByteSize = 2 ∧
      (") failed:" : String).utf8ByteSize = 9 := by decide
    simp only [String.utf8ByteSize_append, maxExternalIdBytes, maxAutomatedRunFailureBytes,
      htexts] at *
    omega

/-! ## Ends of processes -/

theorem ended_valid (hvalid : record.run.Valid) (result : ProcessFinalResult) {message : String}
    (hmessage : message.utf8ByteSize ≤ maxAutomatedRunFailureBytes) (now : ℕ) :
    (record.ended result message now).run.Valid := by
  cases result
  case failed =>
    exact { hvalid with
      message := by
        rintro _ ⟨rfl⟩
        exact hmessage
      reason := by rintro _ ⟨⟩
      ended := rfl }
  all_goals
    exact { hvalid with
      reason := by rintro _ ⟨⟩
      ended := rfl }

section

variable (key : ProcessControlKey)

/-- The end of a process ends the first run that was launched as it. -/
theorem recordAutomatedProcessTerminal_keeps (result : ProcessFinalResult) (now : ℕ) :
    Moves (AutomationKeeps (some key) fits) (recordAutomatedProcessTerminal key result now) := by
  refine moves_bind_service fun machine => ?_
  cases hfound : machine.service.durable.findRun (·.runsProcess key) with
  | none => exact refl_of _ machine
  | some runId =>
    obtain ⟨record, hlookup, hruns⟩ := findRun_eq_some hfound
    refine AutomationKeeps.bind ?_ fun _ middle _ hmiddle =>
      hmiddle.moves persistIgnoringFailure_keeps
    refine AutomationKeeps.modifyRun (refl_of _ machine) fun first last hfirst hlast hrecord => ?_
    change machine.runs[runId]? = some record at hlookup
    rw [hlookup] at hfirst hlast
    cases hfirst
    cases hlast
    refine ⟨?_, fun _ hspared => ?_, fun _ hvalid => ?_⟩
    · cases result <;> rfl
    · rw [hspared key rfl] at hruns
      cases hruns
    · exact ended_valid hvalid result (utf8ByteSize_automatedProcessFailureMessage _ _) now

theorem recordProcessTerminal_keeps (result : ProcessFinalResult)
    (now : ℕ) :
    Moves (AutomationKeeps (some key) fits) (recordProcessTerminal key result now) := by
  refine Moves.after fun _ => ?_
  refine elsewhere_bind (Touches.modifyProcesses (by decide)) fun _ => ?_
  refine elsewhere_bind (Touches.modifyArtifacts (by decide)) fun _ => ?_
  exact recordAutomatedProcessTerminal_keeps key result now

theorem abortActiveProcess_touches : Moves (Touches elsewhere) (abortActiveProcess key) := by
  refine moves_bind_service fun machine => ?_
  refine finalState_after (refl_of _ _) fun coordinator hrun => ?_
  have haborted := (liftExcept_eq_ok_iff.mp hrun).1
  unfold Coordinator.abortProcess at haborted
  split at haborted
  case isFalse => cases haborted
  case isTrue =>
    cases haborted
    intro part hpart
    cases part <;> first | rfl | exact absurd (by decide) hpart

theorem newId_value (id : Id kind) (machine : Machine) :
    Handler.newId kind id.value machine = .ok id machine :=
  liftExcept_eq_ok_iff.mpr ⟨Id.tryNew_eq_ok_iff.mpr rfl, rfl⟩

/-- A request that names a process by the texts of its ids stops that process. -/
theorem allowsStop_keeps {machine : Machine} {named : ProcessControlKey}
    (hnamed : Handler.newProcessKey key.tenant.value key.project.value key.process.value machine =
      .ok named machine) :
    AllowsStop (AutomationKeeps (some key) fits) named := by
  have hread : Handler.newProcessKey key.tenant.value key.project.value key.process.value
      machine = .ok key machine := by
    unfold Handler.newProcessKey
    rw [bind_of_ok (newId_value _ _), bind_of_ok (newId_value _ _), bind_of_ok (newId_value _ _)]
    rfl
  obtain ⟨rfl, -⟩ := EStateM.Result.ok.inj (hread.symm.trans hnamed)
  exact ⟨fun hprogram => keeps_of_elsewhere (Touches.weaken (by decide) hprogram),
    recordProcessTerminal_keeps key _, keeps_of_elsewhere (abortActiveProcess_touches key)⟩

end

/-! ## Notes on a run -/

theorem recordAutomatedProcessWaitingReason_keeps (key : ProcessControlKey) {reason : Option String}
    (hfits : fits → ∀ text ∈ reason, (boundedWaitingReason text).utf8ByteSize ≤ 256) :
    Moves (AutomationKeeps ending fits) (recordAutomatedProcessWaitingReason key reason) := by
  refine moves_bind_service fun machine => ?_
  dsimp only
  cases hfound : machine.service.durable.findRun fun record =>
      record.runsProcess key && !record.run.state.isTerminal with
  | none => exact refl_of _ machine
  | some runId =>
    obtain ⟨record, hlookup, hwaits⟩ := findRun_eq_some hfound
    simp only [Bool.and_eq_true, Bool.not_eq_true'] at hwaits
    dsimp only [runIf]
    split
    case isFalse => exact refl_of _ machine
    case isTrue =>
      refine AutomationKeeps.bind ?_ fun _ middle _ hmiddle =>
        hmiddle.moves persistIgnoringFailure_keeps
      refine AutomationKeeps.modifyActive (refl_of _ machine)
        (RunActive.of_lookup hlookup hwaits.2) (fun _ => rfl) ?_
      intro stored _ hfit hvalid
      refine { hvalid with reason := fun text htext => ?_ }
      obtain ⟨given, hgiven, rfl⟩ := Option.mem_map.mp htext
      exact hfits hfit given hgiven

theorem recordAutomatedPublicationBoundary_keeps [BundleInspection] (key : ProcessControlKey)
    (boundary : Option TaskBoundaryValue) :
    Moves (AutomationKeeps ending fits) (recordAutomatedPublicationBoundary key boundary) := by
  refine Moves.after fun service => ?_
  split
  · refine Moves.bind (modifyRun_keeps fun record => ?_) fun _ => persistIgnoringFailure_keeps
    exact ⟨rfl, fun _ hspared => ⟨rfl, rfl, hspared⟩, fun _ hvalid => { hvalid with }⟩
  · exact Moves.pure _

/-! ## Restart -/

theorem reconcileAutomatedRuns_keeps :
    Moves (AutomationKeeps ending fits) reconcileAutomatedRunsAfterCoordinatorRestart := by
  refine moves_bind_service fun machine => ?_
  dsimp only
  split
  case isTrue => exact refl_of _ machine
  case isFalse =>
    refine AutomationKeeps.bind (currentEpochSeconds_keeps machine) fun now middle _ hmiddle => ?_
    refine AutomationKeeps.bind (finalState_forM hmiddle ?_) fun _ final _ hfinal =>
      hfinal.persist _
    intro runId hrunId machine hkeeps
    obtain ⟨⟨found, record⟩, hrunning, rfl⟩ := List.mem_map.mp hrunId
    obtain ⟨hstored, hrunning⟩ := List.mem_filter.mp hrunning
    have hactive : record.run.state.isTerminal = false := by
      rw [of_decide_eq_true hrunning]
      rfl
    refine AutomationKeeps.bind (hkeeps.moves (modifyAssignments_keeps fun durable =>
      durable.sameButAssignments_terminalizeForRun found now)) fun _ final _ hfinal => ?_
    refine AutomationKeeps.bind (hfinal.updateRun ?_) fun _ last _ hlast => hlast
    refine hfinal.modifyActive (RunActive.of_lookup
      (Std.ExtTreeMap.mem_toList_iff_getElem?_eq_some.mp hstored) hactive) (fun _ => rfl) ?_
    intro stored _ _ hvalid
    exact { hvalid with
      message := by
        rintro _ ⟨rfl⟩
        decide +kernel
      reason := by rintro _ ⟨⟩
      ended := rfl }

/-! ## Cancellation -/

/-- The process that the cancellation of a run stops: none if the run has ended. -/
def cancelKey (runId : RunId) (machine : Machine) : Option ProcessControlKey :=
  (machine.runs[runId]?.filter fun record => !record.run.state.isTerminal).bind fun record =>
    record.run.processId.map fun process => ⟨record.run.tenant, record.run.project, process⟩

/-- A cancellation touches ended runs only through the process that it stops. -/
theorem cancelAutomatedRun_keeps (runId : RunId) :
    AutomationKeeps (cancelKey runId machine) fits machine
      (finalState (cancelAutomatedRun runId machine)) := by
  refine AutomationKeeps.automatedRun (refl_of _ machine) fun record hrecord => ?_
  split
  case isTrue => exact refl_of _ machine
  case isFalse hactive =>
    have hactive := Bool.not_eq_true _ ▸ hactive
    have hstopped : AutomationKeeps (cancelKey runId machine) fits machine
        (finalState (cancelRunProcess record.run record.run.processId machine)) := by
      cases hprocess : record.run.processId with
      | none => exact refl_of _ machine
      | some process =>
        have hkey : cancelKey runId machine =
            some ⟨record.run.tenant, record.run.project, process⟩ := by
          simp [cancelKey, hrecord, hactive, hprocess, Option.filter_some]
        rw [hkey]
        refine Moves.bind service_guards.moves (fun _ => Moves.runIf ?_) machine
        exact Moves.bind (AllowsStop.cancel (allowsStop_keeps
          ⟨record.run.tenant, record.run.project, process⟩)) fun _ => Moves.pure _
    refine AutomationKeeps.bind hstopped fun _ middle _ hmiddle => ?_
    refine AutomationKeeps.bind (hmiddle.moves currentEpochSeconds_keeps)
      fun now middle _ hmiddle => ?_
    refine AutomationKeeps.bind (hmiddle.moves (modifyAssignments_keeps fun durable =>
      durable.sameButAssignments_terminalizeForRun runId now)) fun _ middle _ hmiddle => ?_
    refine AutomationKeeps.bind (hmiddle.updateRun ?_) fun _ final _ hfinal => hfinal.persist _
    refine hmiddle.modifyActive (RunActive.of_lookup hrecord hactive) (fun _ => rfl) ?_
    intro stored _ _ hvalid
    exact { hvalid with ended := rfl }

/-! ## Launching -/

theorem finalState_attempt {α : Type} (action : Handler α) (machine : Machine) :
    finalState (Handler.attempt action machine) = finalState (action machine) := by
  unfold Handler.attempt
  cases action machine with
  | ok value final => rfl
  | error failure final => cases failure <;> rfl

theorem attempt_moves {α : Type} {relation : Machine → Machine → Prop} {action : Handler α}
    (haction : Moves relation action) : Moves relation (Handler.attempt action) := by
  intro machine
  rw [finalState_attempt]
  exact haction machine

/-- The outcome tells whether the action returned or failed. -/
theorem attempt_leads {α : Type} {action : Handler α} {returns : α → Machine → Prop}
    {fails : Machine → Prop} (haction : Leads action machine returns fails) :
    Leads (Handler.attempt action) machine (fun outcome final => match outcome with
        | .ok value => returns value final
        | .error _ => fails final) fails := by
  unfold Handler.attempt
  cases hrun : action machine with
  | ok value final =>
    refine ⟨fun hattempt => ?_, fun hattempt => ?_⟩
    · rw [hrun] at hattempt
      cases hattempt
      exact haction.of_ok hrun
    · rw [hrun] at hattempt
      cases hattempt
  | error failure final =>
    have hfails := haction.of_error hrun
    cases failure <;> refine ⟨fun hattempt => ?_, fun hattempt => ?_⟩ <;>
      rw [hrun] at hattempt <;> cases hattempt <;> exact hfails

section Launching

variable [Primitives]

theorem handleStartProcess_touches (tenant project : String) (fields : WorkflowActorFields)
    (process : String) (launchAttempt : Option String) (restart : Bool) :
    Moves (Touches elsewhere)
      (handleStartProcess tenant project fields process launchAttempt restart) := by
  refine Moves.after fun key => ?_
  refine Moves.after fun _ => ?_
  refine Moves.bind (workflowActor_touches (by decide) _ _ _ _ _ _) fun actor => ?_
  refine Moves.after fun _ => Moves.after fun _ => ?_
  refine Moves.bind (Moves.runIf (ensureProcessAdmission_guards _).moves) fun _ => ?_
  refine Moves.bind Touches.currentEpochSeconds fun now => ?_
  refine Moves.bind (chargeWorkflowSpawn_touches (by decide) _ _ _) fun spawns => ?_
  refine Moves.bind (Moves.runIf (Touches.modifyMain (by decide))) fun _ => ?_
  refine Moves.bind (Touches.modifyProcesses (by decide)) fun _ => ?_
  refine Moves.bind (Touches.modifyDebug (by decide)) fun _ => ?_
  refine Moves.bind (Touches.modifyTasks (by decide)) fun _ => ?_
  refine Moves.bind (Touches.modifyDebug (by decide)) fun _ => ?_
  refine Moves.after fun attempt => ?_
  refine Moves.bind (Touches.modifyService fun service part hother => ?_) fun _ => ?_
  · cases part <;> first | rfl | exact absurd (by decide) hother
  · refine Moves.bind (recordProcessStarted_touches (by decide) (by decide) _ _) fun _ => ?_
    exact Moves.after fun _ => Moves.pure _

variable [BundleInspection]

omit [Primitives] in
theorem submitMain_touches (key : ProcessControlKey) (spec : TaskSpec)
    (wasm : LengthFraming.Bytes) (wasmExport : String) :
    Moves (Touches elsewhere) (submitMain key spec wasm wasmExport) := by
  refine Moves.bind (Touches.modifyMain (by decide)) fun _ => ?_
  split
  · exact Moves.pure _
  · exact Moves.bind (Touches.modifyMain (by decide)) fun _ => Moves.throw _

theorem launchMain_touches (key : ProcessControlKey) (actor : WorkflowActor) (spec : TaskSpec)
    (wasmModuleBase64 : String) :
    Moves (Touches elsewhere) (launchMain key actor spec wasmModuleBase64) := by
  refine Moves.after fun _ => Moves.after fun _ => ?_
  refine Moves.after fun _ => Moves.after fun _ => ?_
  refine Moves.after fun _ => Moves.after fun _ => ?_
  refine Moves.after fun _ => Moves.after fun _ => ?_
  refine Moves.after fun _ => Moves.after fun _ => ?_
  refine Moves.after fun _ => Moves.after fun _ => ?_
  refine Moves.after fun _ => ?_
  exact Moves.bind (submitMain_touches _ _ _ _) fun _ => Moves.pure _

omit [Primitives] [BundleInspection] in
theorem failMainLaunch_keeps (key : ProcessControlKey) :
    Moves (AutomationKeeps (some key) fits) (failMainLaunch key) := by
  refine elsewhere_bind (Touches.modifyMain (by decide)) fun _ => ?_
  refine elsewhere_bind Touches.livenessNowEpochSeconds fun now => ?_
  refine Moves.bind (recordProcessTerminal_keeps key _ _) fun _ => ?_
  exact Moves.bind (attempt_moves (keeps_of_elsewhere (abortActiveProcess_touches key)))
    fun _ => Moves.pure _

/-- A launch ends the run of its process only if it fails. -/
theorem handleLaunchCoordinatorMain_leads (key : ProcessControlKey)
    (fields : WorkflowActorFields) (spec : TaskSpec) (hprocess : spec.process = key.process)
    (wasmModuleBase64 : String) (machine : Machine) :
    Leads (handleLaunchCoordinatorMain key.tenant.value key.project.value fields spec
        wasmModuleBase64) machine
      (fun _ => Touches elsewhere machine) (AutomationKeeps (some key) fits machine) := by
  have hkey : key = ⟨key.tenant, key.project, spec.process⟩ := by rw [hprocess]
  refine Leads.bind_ok (newId_value _ _) (Leads.bind_ok (newId_value _ _) ?_)
  refine Leads.bind (Leads.of_moves (workflowActor_touches (by decide) _ _ _ _ _ _)
    (fun _ _ hreached => hreached) fun _ => .of_touches) fun actor middle hreached => ?_
  refine Leads.bind (Leads.of_guards service_guards (fun _ _ => hreached)
    (.of_touches hreached)) fun service middle hreached => ?_
  rw [← hkey]
  refine Leads.bind (Leads.of_moves (attempt_moves (launchMain_touches key actor spec _))
    (fun _ _ hlaunched => trans_of (Touches elsewhere) hreached hlaunched) fun _ hlaunched =>
      .of_touches (trans_of (Touches elsewhere) hreached hlaunched)) fun result final hfinal => ?_
  cases result with
  | ok launched => exact Leads.pure hfinal
  | error error =>
    have hended : Moves (AutomationKeeps (some key) fits)
        (runIf (¬ service.mainRuntime.controls.contains key) (failMainLaunch key)) :=
      Moves.runIf (failMainLaunch_keeps key)
    have hlast : ∀ last, AutomationKeeps (some key) fits final last →
        AutomationKeeps (some key) fits machine last :=
      fun _ => trans_of _ (.of_touches hfinal)
    exact Leads.bind (Leads.of_moves hended (fun _ => hlast) hlast) fun _ _ => Leads.throw

theorem handleLaunchTask_leads (key : ProcessControlKey) (fields : WorkflowActorFields)
    (spec : TaskSpec) (hprocess : spec.process = key.process) (wasmModuleBase64 : String)
    (machine : Machine) :
    Leads (handleLaunchTask key.tenant.value key.project.value fields spec wasmModuleBase64)
      machine (fun _ => Touches elsewhere machine) (AutomationKeeps (some key) fits machine) := by
  refine Leads.bind (Leads.of_guards (Guards.liftExcept _ _) (fun _ _ => rfl)
    (refl_of _ machine)) ?_
  rintro _ _ rfl
  refine Leads.bind (Leads.of_guards (Guards.ensure _ _) (fun _ _ => rfl) (refl_of _ machine)) ?_
  rintro _ _ rfl
  exact handleLaunchCoordinatorMain_leads key fields spec hprocess wasmModuleBase64 machine

/-! ## Launching a run -/

/-- The run has yet to be launched, or its launch is under way. -/
def AutomatedRunStageRecord.awaitsLaunch (record : AutomatedRunStageRecord) : Bool :=
  !(record.run.state = .running ∨ record.run.state.isTerminal)

/-- The process that the launch of a run starts: none if the run is running or has ended. -/
def launchKey (runId : RunId) (machine : Machine) : Option ProcessControlKey :=
  (machine.runs[runId]?.filter (·.awaitsLaunch)).bind fun record =>
    (record.run.processId <|>
      (Id.tryNew .process ("process-" ++ idSuffix runId.value)).toOption).map
        fun process => ⟨record.run.tenant, record.run.project, process⟩

omit [Primitives] [BundleInspection] in
theorem processForRun_guards (runId : RunId) (process : Option ProcessId) :
    Guards (processForRun runId process) := by
  cases process with
  | none => exact newId_guards _ _
  | some process => exact Guards.pure _

omit [Primitives] [BundleInspection] in
theorem launchKey_eq {process : ProcessId}
    {final : Machine} (hrecord : machine.runs[runId]? = some record)
    (hawaits : record.awaitsLaunch = true)
    (hrun : processForRun runId record.run.processId machine = .ok process final) :
    launchKey runId machine = some ⟨record.run.tenant, record.run.project, process⟩ := by
  unfold launchKey
  cases hprocess : record.run.processId with
  | some known =>
    rw [hprocess] at hrun
    cases hrun
    simp [hrecord, hawaits, hprocess, Option.filter_some]
  | none =>
    rw [hprocess] at hrun
    have hnew := (liftExcept_eq_ok_iff.mp hrun).1
    simp [hrecord, hawaits, hprocess, hnew, Option.filter_some, Except.toOption]

omit [Primitives] [BundleInspection] in
theorem RunActive.of_change {change : AutomatedRunStageRecord → AutomatedRunStageRecord}
    (hchange : ∀ record, (change record).run.state.isTerminal = false) :
    RunActive runId (finalState (Handler.modifyDurable (·.modifyRun runId change) machine)) := by
  intro record hrecord
  change (machine.runs.modify runId change)[runId]? = some record at hrecord
  rw [Std.ExtTreeMap.getElem?_modify_self] at hrecord
  obtain ⟨stored, -, rfl⟩ := Option.map_eq_some_iff.mp hrecord
  exact hchange stored

/-- What is known of a launch on its way to the main: the run goes on. -/
structure OnItsWay (ending : Option ProcessControlKey) (fits : Prop) (runId : RunId)
    (start machine : Machine) : Prop where
  keeps : AutomationKeeps ending fits start machine
  active : RunActive runId machine

omit [Primitives] [BundleInspection] in
theorem OnItsWay.touches {start after : Machine} (hway : OnItsWay ending fits runId start machine)
    (htouches : Touches elsewhere machine after) : OnItsWay ending fits runId start after :=
  ⟨trans_of _ hway.keeps (.of_touches htouches), hway.active.touches htouches⟩

omit [Primitives] [BundleInspection] in
/-- A part of the launch that writes no run. -/
theorem OnItsWay.bind {α β : Type} {first : Handler α}
    {next : α → Handler β} {returns : β → Machine → Prop}
    (hway : OnItsWay ending fits runId start machine) (hfirst : Moves (Touches elsewhere) first)
    (hnext : ∀ value middle, OnItsWay ending fits runId start middle →
      Leads (next value) middle returns (AutomationKeeps ending fits start)) :
    Leads (first >>= next) machine returns (AutomationKeeps ending fits start) :=
  Leads.bind (Leads.of_moves hfirst (fun _ _ htouches => hway.touches htouches)
    fun _ htouches => (hway.touches htouches).keeps) hnext

omit [Primitives] [BundleInspection] in
theorem OnItsWay.updateRun {β : Type} {missing : Failure}
    {change : AutomatedRunStageRecord → AutomatedRunStageRecord}
    {next : AutomatedRunStageRecord → Handler β} {returns : β → Machine → Prop}
    (hkeeps : AutomationKeeps ending fits start machine)
    (hmodify : OnItsWay ending fits runId start
      (finalState (Handler.modifyDurable (·.modifyRun runId change) machine)))
    (hnext : ∀ record middle, OnItsWay ending fits runId start middle →
      Leads (next record) middle returns (AutomationKeeps ending fits start)) :
    Leads (Handler.updateRun runId missing change >>= next) machine returns
      (AutomationKeeps ending fits start) := by
  have hupdate : Leads (Handler.updateRun runId missing change) machine
      (fun _ => OnItsWay ending fits runId start) (AutomationKeeps ending fits start) := by
    refine Leads.bind (Leads.of_guards service_guards (fun _ _ => rfl) hkeeps) ?_
    rintro _ _ rfl
    refine Leads.bind (Leads.of_guards (Guards.orFail _ _) (fun _ _ => rfl) hkeeps) ?_
    rintro _ _ rfl
    exact Leads.bind_ok rfl (Leads.pure hmodify)
  exact Leads.bind hupdate hnext

omit [Primitives] [BundleInspection] in
theorem AutomatedRunStageRecord.active_of_awaitsLaunch (hawaits : record.awaitsLaunch = true) :
    record.run.state.isTerminal = false := by
  simp only [awaitsLaunch, Bool.not_eq_true', decide_eq_false_iff_not, not_or] at hawaits
  simpa using hawaits.2

theorem attemptLaunch_leads (fits : Prop)
    (hrecord : machine.runs[runId]? = some record) (hawaits : record.awaitsLaunch = true)
    (bundle : CompiledWorkflowBundle) (revision : RepositoryRevision)
    (entrypointExport : String) :
    Leads (attemptLaunch runId record bundle revision entrypointExport) machine
      (fun launched final =>
        AutomationKeeps (launchKey runId machine) fits machine final ∧
        launchKey runId machine = some ⟨record.run.tenant, record.run.project, launched.process⟩ ∧
        ∀ main, launched.outcome = .ok main → RunActive runId final)
      (AutomationKeeps (launchKey runId machine) fits machine) := by
  have hstart := RunActive.of_lookup hrecord (record.active_of_awaitsLaunch hawaits)
  have hread : Leads (processForRun runId record.run.processId) machine
      (fun process middle => machine = middle ∧
        launchKey runId machine = some ⟨record.run.tenant, record.run.project, process⟩)
      (AutomationKeeps (launchKey runId machine) fits machine) :=
    Leads.of_guards (processForRun_guards _ _)
      (fun process hrun => ⟨rfl, launchKey_eq hrecord hawaits hrun⟩) (refl_of _ machine)
  refine Leads.bind hread ?_
  rintro process _ ⟨rfl, hkey⟩
  rw [hkey]
  refine OnItsWay.updateRun (refl_of _ machine) ?_ fun _ middle hway => ?_
  · refine ⟨AutomationKeeps.modifyActive (refl_of _ machine) hstart (fun _ => rfl) ?_, ?_⟩
    · intro stored hstored _ hvalid
      exact { hvalid.moved (hstart stored hstored) .launching rfl with }
    · exact RunActive.of_change fun _ => rfl
  refine hway.bind Touches.persistDurableState fun _ middle hway => ?_
  refine hway.bind (handleStartProcess_touches _ _ _ _ _ _) fun started middle hway => ?_
  refine hway.bind service_guards.moves fun _ middle hway => ?_
  refine hway.bind (Moves.ensure _ _) fun _ middle hway => ?_
  refine hway.bind (Moves.liftExcept _ _) fun _ middle hway => ?_
  refine OnItsWay.updateRun hway.keeps ?_ fun _ middle hway => ?_
  · refine ⟨hway.keeps.modifyRun fun _ _ _ _ hlast => hlast.trans (.of_run_eq rfl rfl), ?_⟩
    exact hway.active.modifyRun fun _ => rfl
  refine hway.bind Touches.persistDurableState fun _ middle hway => ?_
  refine hway.bind (newId_guards _ _).moves fun entrypoint middle hway => ?_
  refine hway.bind (newId_guards _ _).moves fun taskInstance middle hway => ?_
  have hlaunch : Leads (handleLaunchTask record.run.tenant.value record.run.project.value
      triggerActor (mainSpec record.run process entrypoint taskInstance entrypointExport revision
        bundle started.epoch) bundle.moduleBase64) middle (fun _ => Touches elsewhere middle)
      (AutomationKeeps (some ⟨record.run.tenant, record.run.project, process⟩) fits middle) :=
    handleLaunchTask_leads ⟨record.run.tenant, record.run.project, process⟩ _ _ rfl _ middle
  refine Leads.bind (attempt_leads (hlaunch.mono (fun _ final htouches => hway.touches htouches)
    fun final hended => trans_of _ hway.keeps hended)) fun outcome final hfinal => ?_
  cases outcome with
  | ok main => exact Leads.pure ⟨hfinal.keeps, rfl, fun _ _ => hfinal.active⟩
  | error error => exact Leads.pure ⟨hfinal, rfl, by rintro _ ⟨⟩⟩

/-- The text of the error that a launch ends with fits. -/
def LaunchTextFits (runId : RunId) (machine : Machine) : Prop :=
  ∀ record bundle revision entrypointExport launched middle error,
    machine.runs[runId]? = some record → record.compiledBundle = some bundle →
    record.revision = some revision →
    BundleInspection.compiledEntrypointExport bundle.moduleBase64 bundle.defaultEntrypoint =
      .ok entrypointExport →
    attemptLaunch runId record bundle revision entrypointExport machine = .ok launched middle →
    launched.outcome = .error error →
      (boundedStageFailure error.text).utf8ByteSize ≤ maxAutomatedRunFailureBytes

theorem startRun_keeps
    {bundle : CompiledWorkflowBundle} {revision : RepositoryRevision} {entrypointExport : String}
    (hrecord : machine.runs[runId]? = some record) (hawaits : record.awaitsLaunch = true)
    (hfits : fits → ∀ launched middle error,
      attemptLaunch runId record bundle revision entrypointExport machine = .ok launched middle →
      launched.outcome = .error error →
        (boundedStageFailure error.text).utf8ByteSize ≤ maxAutomatedRunFailureBytes) :
    AutomationKeeps (launchKey runId machine) fits machine
      (finalState (startRun runId record bundle revision entrypointExport machine)) := by
  have hattempt : Leads (attemptLaunch runId record bundle revision entrypointExport) machine _ _ :=
    attemptLaunch_leads fits hrecord hawaits bundle revision entrypointExport
  refine AutomationKeeps.bind (hattempt.mono (fun _ _ h => h.1) fun _ h => h).finalState
    fun launched middle hrun hmiddle => ?_
  obtain ⟨-, hkey, hgoes⟩ := hattempt.of_ok hrun
  cases houtcome : launched.outcome with
  | error error =>
    rw [hkey] at hmiddle ⊢
    refine AutomationKeeps.bind (hmiddle.moves (attempt_moves (AllowsStop.abortProcess
      (allowsStop_keeps ⟨record.run.tenant, record.run.project, launched.process⟩) _)))
      fun _ middle _ hmiddle => ?_
    refine AutomationKeeps.bind (hmiddle.moves (failAutomatedRun_keeps runId _ fun hfit =>
      hfits hfit launched _ error hrun houtcome)) fun _ final _ hfinal => hfinal
  | ok main =>
    have hgoes := hgoes main houtcome
    refine finalState_bind (fun failure final hclock => ?_) fun now final hclock => ?_
    · exact trans_of _ hmiddle (.of_touches (Touches.currentEpochSeconds.of_error hclock))
    have htouches : Touches elsewhere middle final := Touches.currentEpochSeconds.of_ok hclock
    have hfinal : AutomationKeeps (launchKey runId machine) fits machine final :=
      trans_of _ hmiddle (.of_touches htouches)
    refine AutomationKeeps.bind (hfinal.updateRun ?_) fun _ last _ hlast => hlast.persist _
    refine hfinal.modifyActive (RunActive.of_lookup hrecord
      (record.active_of_awaitsLaunch hawaits)) (fun _ => rfl) ?_
    intro stored hstored _ hvalid
    exact { hvalid.moved (hgoes.touches htouches stored hstored) .running rfl with }

/-- A launch touches ended runs only through the process that it launches. -/
theorem launchAutomatedRun_keeps (hfits : fits → LaunchTextFits runId machine) :
    AutomationKeeps (launchKey runId machine) fits machine
      (finalState (launchAutomatedRun runId machine)) := by
  refine AutomationKeeps.automatedRun (refl_of _ machine) fun record hrecord => ?_
  split
  case isTrue => exact refl_of _ machine
  case isFalse hgoes =>
    have hawaits : record.awaitsLaunch = true := by
      rw [AutomatedRunStageRecord.awaitsLaunch, decide_eq_false hgoes]
      rfl
    have hactive := record.active_of_awaitsLaunch hawaits
    refine finalState_after (refl_of _ machine) fun bundle hbundle => ?_
    refine finalState_after (refl_of _ machine)
      fun revision hrevision => ?_
    refine finalState_after (refl_of _ machine)
      fun entrypointExport hexport => ?_
    refine finalState_after (refl_of _ machine) fun service _ => ?_
    split
    case isTrue =>
      refine AutomationKeeps.bind (AutomationKeeps.updateRun (refl_of _ machine) ?_)
        fun _ final _ hfinal => hfinal.persist _
      refine AutomationKeeps.modifyActive (refl_of _ machine) (RunActive.of_lookup hrecord hactive)
        (fun _ => rfl) ?_
      intro stored hstored _ hvalid
      rw [hrecord] at hstored
      cases hstored
      exact hvalid.moved hactive _ rfl
    case isFalse =>
      refine startRun_keeps hrecord hawaits fun hfit launched middle error hrun houtcome => ?_
      exact hfits hfit record bundle revision entrypointExport launched middle error hrecord
        (orFail_eq_ok_iff.mp hbundle).1 (orFail_eq_ok_iff.mp hrevision).1
        (liftExcept_eq_ok_iff.mp hexport).1 hrun houtcome

end Launching

end Clusterflux
