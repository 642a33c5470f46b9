import Clusterflux.Coordinator.Automation
import Clusterflux.Foundation.OrderedMaps
import Clusterflux.Foundation.Runs
import Clusterflux.Verification.Footprints

/-!
# Steps of automation

About a dozen operations write the records of automated runs, each with guards
of its own.  What an operation leaves of a record is said once, by a relation
with one part for each question that is asked later: what the run is known by,
whether a run that has ended stays as it is, and whether the record stays valid.
-/

namespace Clusterflux

open StatefulProgram LabelledRuns OrderedMaps Checks

variable {change : AutomatedRunStageRecord → AutomatedRunStageRecord} {run : AutomatedRunRecord}
  {message : String} {now : ℕ} {result : WorkflowCompilationResult} {other : RunId}

/-! ## Valid records -/

structure AutomatedRunRecord.Valid (run : AutomatedRunRecord) : Prop where
  commitSha : validateCommitSha run.commitSha = .ok ()
  gitRef : validateBoundedText "Git ref" run.gitRef 512 = .ok ()
  message : ∀ message ∈ run.failureMessage, message.utf8ByteSize ≤ maxAutomatedRunFailureBytes
  reason : ∀ reason ∈ run.waitingReason, reason.utf8ByteSize ≤ 256
  ended : run.state.isTerminal = run.endedAt.isSome

theorem any_exceeds_eq_false {α : Type} (size : α → ℕ) (limit : ℕ) (value : Option α) :
    (value.any fun item => size item > limit) = false ↔ ∀ item ∈ value, size item ≤ limit := by
  cases value <;> simp

/-- The record's own check passes exactly on valid records. -/
theorem AutomatedRunRecord.validate_eq_ok_iff (run : AutomatedRunRecord) :
    run.validate = .ok () ↔ run.Valid := by
  unfold AutomatedRunRecord.validate
  simp only [check_bind_eq_ok, refuseIf_eq_ok, any_exceeds_eq_false, bne_eq_false_iff_eq]
  constructor
  · rintro ⟨hsha, href, hmessage, hreason, hended⟩
    exact ⟨hsha, href, hmessage, hreason, hended⟩
  · rintro ⟨hsha, href, hmessage, hreason, hended⟩
    exact ⟨hsha, href, hmessage, hreason, hended⟩

/-- A valid run that has not ended has no end. -/
theorem AutomatedRunRecord.Valid.endedAt_eq_none (hvalid : run.Valid)
    (hactive : run.state.isTerminal = false) : run.endedAt = none := by
  have hended := hvalid.ended
  rw [hactive] at hended
  exact Option.isSome_eq_false_iff.mp hended.symm |> Option.isNone_iff_eq_none.mp

/-! ## What an operation leaves of a run -/

namespace AutomatedRunStageRecord

variable (record : AutomatedRunStageRecord)

/-- What a run is known by. -/
def identity : Digest × TriggerId × TenantId × ProjectId :=
  (record.runKey, record.run.primaryTriggerId, record.run.tenant, record.run.project)

/-- The run was not launched as the process that ends. -/
def Spared (ending : Option ProcessControlKey) : Prop :=
  ∀ key ∈ ending, record.runsProcess key = false

end AutomatedRunStageRecord

/-- An operation may end the runs of one process, and stores valid records if the
texts it is given fit. -/
structure RunKeeps (ending : Option ProcessControlKey) (fits : Prop)
    (before after : AutomatedRunStageRecord) : Prop where
  identity : after.identity = before.identity
  ended : before.run.state.isTerminal → before.Spared ending →
    after.run.state = before.run.state ∧ after.run.endedAt = before.run.endedAt ∧
      after.Spared ending
  valid : fits → before.run.Valid → after.run.Valid

namespace RunKeeps

variable {ending : Option ProcessControlKey} {fits : Prop}
  {before middle after : AutomatedRunStageRecord}

theorem refl (before : AutomatedRunStageRecord) : RunKeeps ending fits before before where
  identity := rfl
  ended _ hspared := ⟨rfl, rfl, hspared⟩
  valid _ hvalid := hvalid

theorem trans (hfirst : RunKeeps ending fits before middle)
    (hsecond : RunKeeps ending fits middle after) : RunKeeps ending fits before after where
  identity := hsecond.identity.trans hfirst.identity
  ended hterminal hspared := by
    obtain ⟨hstate, hend, hmiddle⟩ := hfirst.ended hterminal hspared
    rw [← hstate] at hterminal
    obtain ⟨hstate', hend', hafter⟩ := hsecond.ended hterminal hmiddle
    exact ⟨hstate'.trans hstate, hend'.trans hend, hafter⟩
  valid hfits hvalid := hsecond.valid hfits (hfirst.valid hfits hvalid)

/-- A run that has not ended may be changed. -/
theorem of_active (hactive : before.run.state.isTerminal = false)
    (hidentity : after.identity = before.identity)
    (hvalid : fits → before.run.Valid → after.run.Valid) : RunKeeps ending fits before after where
  identity := hidentity
  ended hterminal := by simp [hactive] at hterminal
  valid := hvalid

/-- A change of what is kept beside the run. -/
theorem of_run_eq (hrun : after.run = before.run) (hkey : after.runKey = before.runKey) :
    RunKeeps ending fits before after where
  identity := by simp only [AutomatedRunStageRecord.identity, hrun, hkey]
  ended _ hspared := by
    refine ⟨by rw [hrun], by rw [hrun], ?_⟩
    intro key hkey
    simpa only [AutomatedRunStageRecord.runsProcess, AutomatedRunStageRecord.ofProject, hrun]
      using hspared key hkey
  valid _ hvalid := by rwa [hrun]

end RunKeeps

/-! ## What an operation leaves of the state -/

/-- The records of all runs. -/
def Machine.runs (machine : Machine) : OrderedMap RunId AutomatedRunStageRecord :=
  machine.service.durable.automatedRuns

/-- Every run keeps its record, up to `RunKeeps`; triggers and projects stay as they
are. -/
structure AutomationKeeps (ending : Option ProcessControlKey) (fits : Prop)
    (before after : Machine) : Prop where
  runs : ∀ runId : RunId, Option.Rel (RunKeeps ending fits) before.runs[runId]? after.runs[runId]?
  triggers : Part.triggers.view after.service = Part.triggers.view before.service
  projects : Part.projects.view after.service = Part.projects.view before.service

section Keeps

variable {ending : Option ProcessControlKey} {fits : Prop}

theorem optionRel_refl {α : Type} {relation : α → α → Prop} (hrefl : ∀ item, relation item item)
    (value : Option α) : Option.Rel relation value value := by
  cases value with
  | none => exact Option.Rel.none
  | some item => exact Option.Rel.some (hrefl item)

instance automationKeeps_isPreorder : IsPreorder Machine (AutomationKeeps ending fits) where
  refl machine := ⟨fun _ => optionRel_refl RunKeeps.refl _, rfl, rfl⟩
  trans first middle last hfirst hsecond := by
    refine ⟨fun runId => ?_, hsecond.triggers.trans hfirst.triggers,
      hsecond.projects.trans hfirst.projects⟩
    have hleft := hfirst.runs runId
    have hright := hsecond.runs runId
    revert hleft hright
    generalize first.runs[runId]? = start
    generalize middle.runs[runId]? = between
    generalize last.runs[runId]? = final
    intro hleft hright
    cases hleft with
    | none =>
      cases hright
      exact Option.Rel.none
    | some hleft =>
      cases hright with
      | some hright => exact Option.Rel.some (hleft.trans hright)

/-- The parts that no automation is kept in. -/
def elsewhere : Finset Part :=
  {.nodeIdentities, .quotaOverrides, .assignments, .records, .activeProcesses, .nodes,
    .processes, .tasks, .logs, .debug, .mains, .replay, .artifacts, .transfers, .meters,
    .settings}

theorem AutomationKeeps.of_touches {before after : Machine}
    (htouches : Touches elsewhere before after) : AutomationKeeps ending fits before after := by
  refine ⟨fun runId => ?_, htouches .triggers (by decide), htouches .projects (by decide)⟩
  have hsame : after.runs = before.runs := htouches .runs (by decide)
  rw [hsame]
  exact optionRel_refl RunKeeps.refl _

theorem keeps_of_elsewhere {α : Type} {program : Handler α}
    (hprogram : Moves (Touches elsewhere) program) :
    Moves (AutomationKeeps ending fits) program :=
  hprogram.mono fun _ _ => .of_touches

theorem elsewhere_bind {α β : Type} {first : Handler α} {next : α → Handler β}
    (hfirst : Moves (Touches elsewhere) first)
    (hnext : ∀ value, Moves (AutomationKeeps ending fits) (next value)) :
    Moves (AutomationKeeps ending fits) (first >>= next) :=
  Moves.bind (keeps_of_elsewhere hfirst) hnext

/-! ## Rules -/

variable {start machine : Machine} {runId : RunId} {α β : Type}

/-- A sequence, followed from the start of the operation it is a part of. -/
theorem AutomationKeeps.bind {first : Handler α} {next : α → Handler β}
    (hfirst : AutomationKeeps ending fits start (finalState (first machine)))
    (hnext : ∀ value middle, first machine = .ok value middle →
      AutomationKeeps ending fits start middle →
        AutomationKeeps ending fits start (finalState (next value middle))) :
    AutomationKeeps ending fits start (finalState ((first >>= next) machine)) := by
  refine finalState_bind (fun failure middle hrun => ?_) fun value middle hrun => ?_
  · rwa [hrun] at hfirst
  · rw [hrun] at hfirst
    exact hnext value middle hrun hfirst

theorem AutomationKeeps.moves {program : Handler α}
    (hkeeps : AutomationKeeps ending fits start machine)
    (hprogram : Moves (AutomationKeeps ending fits) program) :
    AutomationKeeps ending fits start (finalState (program machine)) :=
  trans_of _ hkeeps (hprogram machine)

/-- The record of one run is changed; what the change has to keep is asked of the
record at the start of the operation. -/
theorem AutomationKeeps.modifyRun (hkeeps : AutomationKeeps ending fits start machine)
    (hchange : ∀ first last, start.runs[runId]? = some first → machine.runs[runId]? = some last →
      RunKeeps ending fits first last → RunKeeps ending fits first (change last)) :
    AutomationKeeps ending fits start
      (finalState (Handler.modifyDurable (·.modifyRun runId change) machine)) := by
  refine ⟨fun other => ?_, hkeeps.triggers, hkeeps.projects⟩
  change Option.Rel _ start.runs[other]? (machine.runs.modify runId change)[other]?
  rw [Std.ExtTreeMap.getElem?_modify]
  have hother := hkeeps.runs other
  by_cases hrun : runId = other
  · subst hrun
    rw [if_pos (Std.ReflCmp.compare_self)]
    generalize hfirst : start.runs[runId]? = first at hother ⊢
    generalize hlast : machine.runs[runId]? = last at hother ⊢
    cases hother with
    | none => exact Option.Rel.none
    | some hrecord => exact Option.Rel.some (hchange _ _ hfirst hlast hrecord)
  · rw [if_neg (by simpa [Std.LawfulEqCmp.compare_eq_iff_eq] using hrun)]
    exact hother

/-- The run has not ended. -/
def RunActive (runId : RunId) (machine : Machine) : Prop :=
  ∀ record, machine.runs[runId]? = some record → record.run.state.isTerminal = false

/-- A run that had not ended at the start of the operation may be changed. -/
theorem AutomationKeeps.modifyActive (hkeeps : AutomationKeeps ending fits start machine)
    (hactive : RunActive runId start)
    (hidentity : ∀ record, (change record).identity = record.identity)
    (hvalid : ∀ record, machine.runs[runId]? = some record → fits → record.run.Valid →
      (change record).run.Valid) :
    AutomationKeeps ending fits start
      (finalState (Handler.modifyDurable (·.modifyRun runId change) machine)) := by
  refine hkeeps.modifyRun fun first last hfirst hlast hrecord => ?_
  refine .of_active (hactive first hfirst) ((hidentity last).trans hrecord.identity) ?_
  intro hfits hstart
  exact hvalid last hlast hfits (hrecord.valid hfits hstart)

/-- A change that every record survives. -/
theorem modifyRun_keeps (hchange : ∀ record, RunKeeps ending fits record (change record)) :
    Moves (AutomationKeeps ending fits) (Handler.modifyDurable (·.modifyRun runId change)) :=
  fun machine => AutomationKeeps.modifyRun (refl_of _ machine)
    fun _ last _ _ hrecord => hrecord.trans (hchange last)

theorem AutomationKeeps.updateRun {missing : Failure}
    (hkeeps : AutomationKeeps ending fits start machine)
    (hmodify : AutomationKeeps ending fits start
      (finalState (Handler.modifyDurable (·.modifyRun runId change) machine))) :
    AutomationKeeps ending fits start
      (finalState (Handler.updateRun runId missing change machine)) := by
  refine finalState_after hkeeps fun service hservice => ?_
  refine finalState_after hkeeps fun record hrecord => ?_
  exact AutomationKeeps.bind hmodify fun _ middle _ hmiddle => hmiddle

/-- Reading the record of a run. -/
theorem AutomationKeeps.automatedRun {next : AutomatedRunStageRecord → Handler α}
    (hkeeps : AutomationKeeps ending fits start machine)
    (hnext : ∀ record, machine.runs[runId]? = some record →
      AutomationKeeps ending fits start (finalState (next record machine))) :
    AutomationKeeps ending fits start
      (finalState ((Handler.automatedRun runId >>= next) machine)) := by
  have hreads : Guards (Handler.automatedRun runId) :=
    Guards.bind service_guards fun _ => Guards.orFail _ _
  refine finalState_bind_guard hreads hkeeps fun record hrun => hnext record ?_
  exact (orFail_eq_ok_iff.mp hrun).1

theorem currentEpochSeconds_keeps :
    Moves (AutomationKeeps ending fits) Handler.currentEpochSeconds :=
  keeps_of_elsewhere Touches.currentEpochSeconds

theorem persistDurableState_keeps :
    Moves (AutomationKeeps ending fits) Handler.persistDurableState :=
  keeps_of_elsewhere Touches.persistDurableState

theorem persistIgnoringFailure_keeps :
    Moves (AutomationKeeps ending fits) Handler.persistIgnoringFailure :=
  keeps_of_elsewhere Touches.persistIgnoringFailure

/-- The record of a run is written and the store is asked to keep it. -/
theorem AutomationKeeps.persist (hkeeps : AutomationKeeps ending fits start machine) (value : α) :
    AutomationKeeps ending fits start (finalState ((do
      Handler.persistDurableState
      return value) machine)) :=
  hkeeps.moves (Moves.bind persistDurableState_keeps fun _ => Moves.pure _)

end Keeps

/-! ## Assignments -/

section Assignments

variable {ending : Option ProcessControlKey} {fits : Prop}

/-- Only the assignments differ. -/
def DurableState.SameButAssignments (before after : DurableState) : Prop :=
  after = { before with
    activeAssignments := after.activeAssignments
    terminalAssignmentHistory := after.terminalAssignmentHistory }

theorem DurableState.sameButAssignments_terminalize (durable : DurableState)
    (authority : AssignmentAuthority) (now : ℕ) (replayAllowed : Bool) :
    durable.SameButAssignments
      (durable.terminalizeActiveAssignment authority now replayAllowed) := by
  unfold terminalizeActiveAssignment
  split
  · rfl
  · split <;> rfl

theorem DurableState.sameButAssignments_terminalizeForRun (durable : DurableState) (runId : RunId)
    (now : ℕ) :
    durable.SameButAssignments (durable.terminalizeSystemAssignmentForRun runId now) := by
  unfold terminalizeSystemAssignmentForRun
  split
  · rfl
  · exact durable.sameButAssignments_terminalize _ _ _

theorem DurableState.SameButAssignments.trans {first middle last : DurableState}
    (hfirst : first.SameButAssignments middle) (hsecond : middle.SameButAssignments last) :
    first.SameButAssignments last := by
  rw [SameButAssignments] at hfirst hsecond ⊢
  rw [hfirst] at hsecond
  exact hsecond

theorem DurableState.sameButAssignments_terminalizeExpired (durable : DurableState) (now : ℕ) :
    durable.SameButAssignments (durable.terminalizeExpiredCompilers now) := by
  unfold terminalizeExpiredCompilers
  generalize List.filter _ (durable.expiredActiveAssignments now) = expired
  induction expired generalizing durable with
  | nil => rfl
  | cons active rest ih =>
    exact (durable.sameButAssignments_terminalize _ _ _).trans (ih _)

theorem modifyAssignments_touches {change : DurableState → DurableState}
    (hchange : ∀ durable : DurableState, durable.SameButAssignments (change durable)) :
    Moves (Touches elsewhere) (Handler.modifyDurable change) := by
  unfold Handler.modifyDurable Handler.modifyCoordinator
  refine Touches.modifyService fun service part hother => ?_
  have hsame := hchange service.durable
  cases part
  case assignments => exact absurd (by decide) hother
  all_goals
    first
    | rfl
    | (change Part.view _ { service with coordinator :=
          { service.coordinator with durable := change service.durable } } = _
       rw [hsame]
       rfl)

theorem offerActiveAssignment_touches (assignment : ActiveAssignmentRecord) :
    Moves (Touches elsewhere) (Handler.modifyDurable (·.offerActiveAssignment assignment)) :=
  modifyAssignments_touches fun _ => rfl

theorem modifyAssignments_keeps {change : DurableState → DurableState}
    (hchange : ∀ durable : DurableState, durable.SameButAssignments (change durable)) :
    Moves (AutomationKeeps ending fits) (Handler.modifyDurable change) :=
  keeps_of_elsewhere (modifyAssignments_touches hchange)

end Assignments

/-! ## Operations on runs that have not ended -/

section Operations

variable {ending : Option ProcessControlKey} {fits : Prop} {machine : Machine}

theorem RunActive.of_lookup {machine : Machine} {runId : RunId} {record : AutomatedRunStageRecord}
    (hlookup : machine.runs[runId]? = some record) (hactive : record.run.state.isTerminal = false) :
    RunActive runId machine := by
  intro other hother
  rw [hlookup] at hother
  cases hother
  exact hactive

theorem AutomatedRunRecord.Valid.failed (hvalid : run.Valid) {code : Option String}
    (hmessage : message.utf8ByteSize ≤ maxAutomatedRunFailureBytes) :
    { run with
      state := .failed
      endedAt := some now
      failureCode := code
      failureMessage := some message }.Valid :=
  { hvalid with
    message := by
      rintro _ ⟨rfl⟩
      exact hmessage
    ended := rfl }

/-- A run that has not ended moves on to another stage. -/
theorem AutomatedRunRecord.Valid.moved (hvalid : run.Valid) (hactive : run.state.isTerminal = false)
    (state : AutomatedRunState) (hstate : state.isTerminal = false) :
    { run with state := state }.Valid :=
  { hvalid with
    ended := by
      rw [hvalid.endedAt_eq_none hactive]
      exact hstate }

/-- A stage that waits says what for. -/
theorem AutomatedRunRecord.Valid.waits (hvalid : run.Valid) (hactive : run.state.isTerminal = false)
    (reason : String) (hreason : reason.utf8ByteSize ≤ 256) :
    { run with state := .waitingForCompilerNode, waitingReason := some reason }.Valid :=
  { hvalid.moved hactive .waitingForCompilerNode rfl with
    reason := by
      rintro _ ⟨rfl⟩
      exact hreason }

theorem failAutomatedRun_keeps (runId : RunId) (code : String)
    (hfits : fits → (boundedStageFailure message).utf8ByteSize ≤ maxAutomatedRunFailureBytes) :
    Moves (AutomationKeeps ending fits) (failAutomatedRun runId code message) := by
  refine Moves.bind currentEpochSeconds_keeps fun now => ?_
  refine Moves.bind (modifyAssignments_keeps fun durable =>
    durable.sameButAssignments_terminalizeForRun runId now) fun _ machine => ?_
  refine AutomationKeeps.automatedRun (refl_of _ machine) fun record hrecord => ?_
  unfold runIf
  split
  case isFalse => exact refl_of _ machine
  case isTrue hactive =>
    refine AutomationKeeps.bind ?_ fun _ middle _ hmiddle =>
      hmiddle.moves persistDurableState_keeps
    refine AutomationKeeps.modifyActive (refl_of _ machine)
      (RunActive.of_lookup hrecord hactive) (fun _ => rfl) ?_
    intro stored _ hfit hvalid
    exact hvalid.failed (hfits hfit)

theorem claimSourceLoad_keeps {triggerId : TriggerId}
    (hactive : ∀ runId record, machine.service.durable.findRun (fun record =>
        record.run.primaryTriggerId = triggerId) = some runId →
      machine.runs[runId]? = some record → record.source = none →
        record.run.state.isTerminal = false) :
    AutomationKeeps ending fits machine (finalState (claimSourceLoad triggerId machine)) := by
  refine finalState_after (refl_of _ machine) fun service hservice => ?_
  cases hservice
  refine finalState_after (refl_of _ machine) fun runId hfound => ?_
  refine AutomationKeeps.bind ?_ fun _ middle _ hmiddle => hmiddle.persist runId
  refine AutomationKeeps.modifyRun (refl_of _ machine) fun first last hfirst hlast hrecord => ?_
  split
  case isFalse => exact hrecord
  case isTrue hsource =>
    have hterminal := hactive runId last (orFail_eq_ok_iff.mp hfound).1 hlast
      (Option.isNone_iff_eq_none.mp hsource)
    refine hrecord.trans (.of_active hterminal rfl fun _ hvalid => ?_)
    exact hvalid.moved hterminal _ rfl

/-- The text that a report leaves in a record fits: a report without a bundle ends the
run unless it may be tried again. -/
def WorkflowCompilationResult.TextFits (result : WorkflowCompilationResult) (machine : Machine) :
    Prop :=
  ∀ record, machine.runs[result.runId]? = some record → record.run.state.isTerminal = false →
    result.bundle = none →
    ¬ (result.retryable ∧ record.assignmentRetry.attempts < maxSystemAssignmentAttempts) →
      result.failureText.utf8ByteSize ≤ maxAutomatedRunFailureBytes

theorem compiled_valid {record : AutomatedRunStageRecord}
    {endedAt : Option ℕ} (hvalid : record.run.Valid) (hactive : record.run.state.isTerminal = false)
    (hended : result.bundle = none → endedAt.isSome)
    (htext : result.bundle = none →
      ¬ (result.retryable ∧ record.assignmentRetry.attempts < maxSystemAssignmentAttempts) →
        result.failureText.utf8ByteSize ≤ maxAutomatedRunFailureBytes) :
    (record.compiled result endedAt).run.Valid := by
  unfold AutomatedRunStageRecord.compiled
  cases hbundle : result.bundle with
  | some bundle => exact { hvalid.moved hactive .waitingForProcessSlot rfl with }
  | none =>
    obtain ⟨now, rfl⟩ := Option.isSome_iff_exists.mp (hended hbundle)
    dsimp only
    split
    case isTrue => exact hvalid.waits hactive "eligible_node_retry_pending" (by decide)
    case isFalse hlast => exact hvalid.failed (htext hbundle hlast)

section Compilation

variable [BundleInspection]

theorem recordAutomatedRunSource_keeps (runId : RunId) (source : WorkflowSource)
    (revision : RepositoryRevision) :
    Moves (AutomationKeeps ending fits) (recordAutomatedRunSource runId source revision) := by
  refine Moves.after fun _ => ?_
  refine Moves.after fun _ machine => ?_
  refine AutomationKeeps.automatedRun (refl_of _ machine) fun record hrecord => ?_
  split
  case isTrue => exact refl_of _ machine
  case isFalse hactive =>
    have hactive := Bool.not_eq_true _ ▸ hactive
    refine finalState_after (refl_of _ machine) fun _ _ => ?_
    split
    · exact Moves.bind (Moves.ensure _ _) (fun _ => Moves.pure _) machine
    · refine AutomationKeeps.bind ?_ fun _ middle _ hmiddle => hmiddle.persist _
      refine AutomationKeeps.modifyActive (refl_of _ machine)
        (RunActive.of_lookup hrecord hactive) (fun _ => rfl) ?_
      intro stored hstored _ hvalid
      rw [hrecord] at hstored
      cases hstored
      exact { hvalid.moved hactive .loadingSource rfl with }

theorem enqueueWorkflowCompilation_keeps (request : WorkflowCompilationRequest) :
    Moves (AutomationKeeps ending fits) (enqueueWorkflowCompilation request) := by
  refine Moves.after fun _ machine => ?_
  refine AutomationKeeps.automatedRun (refl_of _ machine) fun record hrecord => ?_
  refine finalState_after (refl_of _ machine) fun service _ => ?_
  refine finalState_after (refl_of _ machine) fun _ _ => ?_
  split
  case isTrue => exact refl_of _ machine
  case isFalse hactive =>
    have hactive := Bool.not_eq_true _ ▸ hactive
    unfold storeCompilationRequest
    split
    · exact Moves.bind (Moves.ensure _ _) (fun _ => Moves.pure _) machine
    · refine finalState_after (refl_of _ machine) fun _ _ => ?_
      refine AutomationKeeps.bind ?_ fun _ middle _ hmiddle => hmiddle.persist _
      refine AutomationKeeps.modifyActive (refl_of _ machine)
        (RunActive.of_lookup hrecord hactive) (fun _ => rfl) ?_
      intro stored hstored _ hvalid
      rw [hrecord] at hstored
      cases hstored
      exact hvalid.waits hactive "no_attached_compatible_node" (by decide)

theorem checkBundle_guards (record : AutomatedRunStageRecord)
    (bundle : Option CompiledWorkflowBundle) : Guards (checkBundle record bundle) := by
  cases bundle with
  | none => exact Guards.pure _
  | some bundle => exact Guards.bind (Guards.liftExcept _ _) fun _ => Guards.ensure _ _

omit [BundleInspection] in
theorem failureTime_touches (bundle : Option CompiledWorkflowBundle) :
    Moves (Touches elsewhere) (failureTime bundle) := by
  cases bundle with
  | some bundle => exact Moves.pure _
  | none => exact Moves.bind Touches.currentEpochSeconds fun _ => Moves.pure _

omit [BundleInspection] in
theorem failureTime_eq_ok {bundle : Option CompiledWorkflowBundle} {machine final : Machine}
    {endedAt : Option ℕ} (hrun : failureTime bundle machine = .ok endedAt final)
    (hbundle : bundle = none) : endedAt.isSome := by
  subst hbundle
  obtain ⟨now, middle, -, hnow⟩ := bind_eq_ok_iff.mp hrun
  cases hnow
  rfl

theorem storeCompilerResult_keeps {record : AutomatedRunStageRecord}
    (hrecord : machine.runs[result.runId]? = some record)
    (hactive : record.run.state.isTerminal = false) (hfits : fits → result.TextFits machine)
    (now : ℕ) :
    AutomationKeeps ending fits machine
      (finalState (storeCompilerResult record result now machine)) := by
  refine finalState_bind_guard (checkBundle_guards _ _) (refl_of _ machine) fun _ _ => ?_
  refine finalState_bind (fun failure middle hrun => ?_) fun endedAt middle hrun => ?_
  · exact .of_touches ((failureTime_touches _).of_error hrun)
  have hreached := (failureTime_touches _).of_ok hrun
  refine finalState_bind_moves hreached (modifyAssignments_touches fun durable =>
    durable.sameButAssignments_terminalize _ _ _) (fun _ => .of_touches)
    fun _ middle hreached => ?_
  have hruns : middle.runs = machine.runs := hreached .runs (by decide)
  have hkeeps : AutomationKeeps ending fits machine middle := .of_touches hreached
  refine AutomationKeeps.bind (hkeeps.updateRun ?_) fun _ final _ hfinal => hfinal.persist _
  refine hkeeps.modifyActive (RunActive.of_lookup hrecord hactive) (fun _ => ?_) ?_
  · unfold AutomatedRunStageRecord.compiled
    split
    · rfl
    · split <;> rfl
  · intro stored hstored hfit hvalid
    rw [hruns, hrecord] at hstored
    cases hstored
    exact compiled_valid hvalid hactive (failureTime_eq_ok hrun) (hfits hfit record hrecord hactive)

theorem reportSystemTask_keeps {result : SystemTaskResult}
    (hfits : fits → result.result.TextFits machine) :
    AutomationKeeps ending fits machine (finalState (reportSystemTask result machine)) := by
  refine finalState_after (refl_of _ machine) fun _ _ => ?_
  refine finalState_after (refl_of _ machine) fun _ _ => ?_
  refine finalState_after (refl_of _ machine) fun _ _ => ?_
  refine AutomationKeeps.automatedRun (refl_of _ machine) fun record hrecord => ?_
  split
  case isTrue =>
    refine Moves.bind service_guards.moves (fun _ => ?_) machine
    exact Moves.after fun _ => Moves.pure _
  case isFalse hactive =>
    have hactive := Bool.not_eq_true _ ▸ hactive
    refine finalState_bind_moves (refl_of (Touches elsewhere) machine) Touches.currentEpochSeconds
      (fun _ => .of_touches) fun now middle hreached => ?_
    have hruns : middle.runs = machine.runs := hreached .runs (by decide)
    have hkeeps : AutomationKeeps ending fits machine middle := .of_touches hreached
    refine finalState_after hkeeps fun _ _ => ?_
    refine finalState_after hkeeps fun _ _ => ?_
    cases hbundle : record.compiledBundle with
    | some bundle => exact hkeeps.moves (Moves.after fun _ => Moves.pure _)
    | none =>
      refine trans_of _ hkeeps (storeCompilerResult_keeps ?_ hactive (fun hfit => ?_) now)
      · rw [hruns]
        exact hrecord
      · intro stored hstored
        rw [hruns] at hstored
        exact hfits hfit stored hstored

end Compilation

/-! ## Polls -/

theorem findRun_eq_some {durable : DurableState} {property : AutomatedRunStageRecord → Bool}
    {runId : RunId} (hfound : durable.findRun property = some runId) :
    ∃ record, durable.automatedRuns[runId]? = some record ∧ property record := by
  obtain ⟨⟨found, record⟩, hfind, rfl⟩ := Option.map_eq_some_iff.mp hfound
  exact ⟨record, getElem?_of_find?_toList hfind⟩

theorem AutomatedRunStageRecord.active_of_inCompilation {record : AutomatedRunStageRecord}
    (hstate : record.inCompilation = true) : record.run.state.isTerminal = false := by
  simp only [inCompilation, decide_eq_true_eq] at hstate
  obtain hstate | hstate := hstate <;> rw [hstate] <;> rfl

theorem setSystemTaskWaitReason_keeps (tenant : TenantId) (project : ProjectId) {reason : String}
    (hreason : reason.utf8ByteSize ≤ 256) :
    Moves (AutomationKeeps ending fits) (setSystemTaskWaitReason tenant project reason) := by
  refine Moves.after fun _ => Moves.runIf ?_
  refine Moves.bind (fun machine => ?_) fun _ => persistDurableState_keeps
  refine ⟨fun runId => ?_, rfl, rfl⟩
  change Option.Rel _ machine.runs[runId]? (machine.runs.map _)[runId]?
  rw [Std.ExtTreeMap.getElem?_map]
  cases machine.runs[runId]? with
  | none => exact Option.Rel.none
  | some record =>
    refine Option.Rel.some ?_
    dsimp only
    split
    case isFalse => exact RunKeeps.refl record
    case isTrue hwaits =>
      simp only [Bool.and_eq_true, decide_eq_true_eq] at hwaits
      obtain ⟨-, hstate, -⟩ := hwaits
      refine .of_active (by rw [hstate]; rfl) rfl fun _ hvalid => ?_
      exact { hvalid with
        reason := by
          rintro _ ⟨rfl⟩
          exact hreason }

theorem failExhaustedRun_keeps (scope : NodeScopeKey) (now : ℕ) :
    Moves (AutomationKeeps ending fits) (failExhaustedRun scope now) := by
  refine moves_bind_service fun machine => ?_
  cases hfound : machine.service.durable.exhaustedRun scope with
  | none => exact refl_of _ machine
  | some runId =>
    obtain ⟨record, hlookup, hexhausted⟩ := findRun_eq_some hfound
    simp only [Bool.and_eq_true] at hexhausted
    have hactive := AutomatedRunStageRecord.active_of_inCompilation hexhausted.2
    refine AutomationKeeps.bind (modifyAssignments_keeps (fun durable =>
      durable.sameButAssignments_terminalizeForRun runId now) machine) fun _ middle _ hmiddle => ?_
    refine AutomationKeeps.bind ?_ fun _ final _ hfinal =>
      hfinal.moves persistDurableState_keeps
    refine hmiddle.modifyActive (RunActive.of_lookup hlookup hactive) (fun _ => rfl) ?_
    intro stored _ _ hvalid
    exact hvalid.failed (by decide +kernel)

theorem foldl_earlierRun_mem (first : RunId × AutomatedRunStageRecord)
    (rest : List (RunId × AutomatedRunStageRecord)) :
    rest.foldl earlierRun first ∈ first :: rest := by
  induction rest generalizing first with
  | nil => exact List.mem_singleton_self _
  | cons next rest ih =>
    have hearlier : earlierRun first next = first ∨ earlierRun first next = next := by
      unfold earlierRun
      split
      · exact Or.inr rfl
      · exact Or.inl rfl
    have hmem := ih (earlierRun first next)
    rw [List.foldl_cons]
    obtain hsame | hsame := hearlier <;> rw [hsame] at hmem ⊢ <;> grind

theorem RunActive.modifyRun {runId other : RunId} (hactive : RunActive runId machine)
    (hchange : ∀ record, (change record).run = record.run) :
    RunActive runId (finalState (Handler.modifyDurable (·.modifyRun other change) machine)) := by
  intro record hrecord
  change (machine.runs.modify other change)[runId]? = some record at hrecord
  rw [Std.ExtTreeMap.getElem?_modify] at hrecord
  split at hrecord
  case isFalse => exact hactive record hrecord
  case isTrue hsame =>
    obtain rfl := Std.LawfulEqCmp.eq_of_compare hsame
    obtain ⟨stored, hstored, rfl⟩ := Option.map_eq_some_iff.mp hrecord
    rw [hchange]
    exact hactive stored hstored

theorem RunActive.touches {runId : RunId} {after : Machine} (hactive : RunActive runId machine)
    (htouches : Touches elsewhere machine after) : RunActive runId after := by
  have hruns : after.runs = machine.runs := htouches .runs (by decide)
  intro record hrecord
  rw [hruns] at hrecord
  exact hactive record hrecord

section Offers

variable [Primitives]

theorem compilerAuthority_keeps (scope : NodeScopeKey) (runId : RunId) (now : ℕ) :
    Moves (AutomationKeeps ending fits) (compilerAuthority scope runId now) := by
  refine Moves.after fun service => ?_
  split
  · exact Moves.pure _
  · refine Moves.after fun record => ?_
    refine Moves.bind (modifyRun_keeps fun _ => .of_run_eq rfl rfl) fun _ => ?_
    exact elsewhere_bind (offerActiveAssignment_touches _) fun _ => Moves.pure _

/-- An offer is counted in the record of its run, which goes on. -/
theorem compilerAuthority_runActive (hactive : RunActive other machine) (scope : NodeScopeKey)
    (runId : RunId) (now : ℕ) :
    RunActive other (finalState (compilerAuthority scope runId now machine)) := by
  refine finalState_after hactive fun service _ => ?_
  cases service.durable.activeAssignmentForKind (.workflowCompiler runId) with
  | some existing => exact hactive
  | none =>
    refine finalState_after hactive fun record _ => ?_
    refine finalState_bind (fun _ _ hrun => by cases hrun) fun _ middle hrun => ?_
    cases hrun
    refine RunActive.touches ?_ (Moves.bind (offerActiveAssignment_touches _)
      (fun _ => Moves.pure _) _)
    exact hactive.modifyRun fun _ => rfl

variable [BundleInspection]

theorem offerCompilation_keeps {runId : RunId} (hactive : RunActive runId machine)
    (scope : NodeScopeKey) (now : ℕ) :
    AutomationKeeps ending fits machine
      (finalState (offerCompilation scope runId now machine)) := by
  refine AutomationKeeps.bind (compilerAuthority_keeps scope runId now machine)
    fun authority middle hrun hmiddle => ?_
  have hgoes := compilerAuthority_runActive hactive scope runId now
  rw [hrun] at hgoes
  refine finalState_after hmiddle fun service _ => ?_
  refine finalState_after hmiddle fun active _ => ?_
  refine finalState_after hmiddle fun record _ => ?_
  refine AutomationKeeps.bind ?_ fun _ final _ hfinal => hfinal.persist _
  refine hmiddle.modifyActive hactive (fun _ => rfl) fun stored hstored _ hvalid => ?_
  exact { hvalid.moved (hgoes stored hstored) .compilingWorkflow rfl with
    reason := by rintro _ ⟨⟩ }

omit [Primitives] in
theorem runActive_of_selected {scope : NodeScopeKey} {bundle : SystemBundleCapability}
    {runId : RunId}
    (hselected : machine.service.durable.selectedRun scope bundle now = some runId) :
    RunActive runId machine := by
  unfold DurableState.selectedRun at hselected
  split at hselected
  case h_1 => cases hselected
  case h_2 first rest hcompilable =>
    have hmem := foldl_earlierRun_mem first rest
    rw [← hcompilable, List.mem_filter] at hmem
    obtain ⟨hstored, hcompilable⟩ := hmem
    cases hselected
    refine RunActive.of_lookup (Std.ExtTreeMap.mem_toList_iff_getElem?_eq_some.mp hstored) ?_
    unfold DurableState.compilable at hcompilable
    simp only [Bool.and_eq_true] at hcompilable
    exact AutomatedRunStageRecord.active_of_inCompilation (by tauto)

theorem pollSystemTaskOffer_keeps (scope : NodeScopeKey) :
    Moves (AutomationKeeps ending fits) (pollSystemTaskOffer scope) := by
  refine Moves.after fun service => ?_
  refine Moves.after fun _ => Moves.after fun descriptor => ?_
  cases hbundle : compilerBundle descriptor.capabilities with
  | error reason =>
    refine Moves.bind (setSystemTaskWaitReason_keeps _ _ ?_) fun _ => Moves.pure _
    unfold compilerBundle at hbundle
    split_ifs at hbundle
    · cases hbundle
      decide
    · cases hbundle
      decide
    · split at hbundle
      · cases hbundle
        decide
      · cases hbundle
  | ok bundle =>
    refine Moves.bind currentEpochSeconds_keeps fun now => ?_
    refine Moves.bind (modifyAssignments_keeps fun durable =>
      durable.sameButAssignments_terminalizeExpired now) fun _ => ?_
    refine Moves.bind (failExhaustedRun_keeps scope now) fun _ =>
      moves_bind_service fun machine => ?_
    cases hselected : machine.service.durable.selectedRun scope bundle now with
    | none => exact refl_of _ machine
    | some runId => exact offerCompilation_keeps (runActive_of_selected hselected) scope now

end Offers

end Operations

end Clusterflux
