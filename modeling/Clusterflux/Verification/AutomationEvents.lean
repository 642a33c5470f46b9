import Clusterflux.Verification.RunProcesses

/-!
# Events of automation

Beside the operations that work on stored runs there are two that store new ones:
the acceptance of a trigger and the retry of a run.  Both may first remove old runs
of the project.  What they do to the durable state is listed case by case; all
operations together are the events of a system.
-/

namespace Clusterflux

open StatefulProgram OrderedMaps

section

variable {runId : RunId} {record : AutomatedRunStageRecord} {machine : Machine}

/-! ## Compaction -/

section Compaction

variable {durable : DurableState} {tenant : TenantId} {project : ProjectId}

/-- The runs to remove are finished runs of the project. -/
theorem lookup_of_removable (hremovable : (runId, record) ∈ durable.removableRuns tenant project) :
    durable.automatedRuns[runId]? = some record ∧ record.ofProject tenant project ∧
      record.run.state.isTerminal := by
  unfold DurableState.removableRuns DurableState.terminalRuns at hremovable
  dsimp only at hremovable
  split at hremovable
  case isTrue => simp at hremovable
  case isFalse =>
    have hfinished := List.mem_of_mem_take hremovable
    rw [List.mem_mergeSort, List.mem_filter, Bool.and_eq_true] at hfinished
    exact ⟨Std.ExtTreeMap.mem_toList_iff_getElem?_eq_some.mp hfinished.1, hfinished.2⟩

variable [Primitives]

namespace DurableState

variable {removed : List (RunId × AutomatedRunStageRecord)}

theorem runs_removeRuns :
    (durable.removeRuns tenant project removed).automatedRuns[runId]? = some record ↔
      durable.automatedRuns[runId]? = some record ∧ runId ∉ removed.map (·.1) := by
  rw [removeRuns, getElem?_filter_eq_some_iff]
  simp

theorem runKeys_removeRuns {runKey : Digest} :
    (durable.removeRuns tenant project removed).automatedRunKeys[runKey]? = some runId ↔
      durable.automatedRunKeys[runKey]? = some runId ∧ runKey ∉ removed.map (·.2.runKey) := by
  rw [removeRuns, getElem?_filter_eq_some_iff]
  simp

end DurableState

/-- The history of a project is left as it is or compacted. -/
def DurableState.Compacts (tenant : TenantId) (project : ProjectId)
    (before after : DurableState) : Prop :=
  after = before ∨ after = before.removeRuns tenant project (before.removableRuns tenant project)

/-- A key that is free stays free. -/
theorem DurableState.Compacts.runKeys_eq_none {after : DurableState} {runKey : Digest}
    (hcompacts : durable.Compacts tenant project after)
    (hfree : durable.automatedRunKeys[runKey]? = none) :
    after.automatedRunKeys[runKey]? = none := by
  obtain rfl | rfl := hcompacts
  · exact hfree
  · refine Option.eq_none_iff_forall_ne_some.mpr fun runId hkey => ?_
    rw [(DurableState.runKeys_removeRuns.mp hkey).1] at hfree
    cases hfree

end Compaction

/-! ## Steps beside the durable state -/

def SameDurable (before after : Machine) : Prop :=
  after.service.durable = before.service.durable

instance SameDurable.isPreorder : IsPreorder Machine SameDurable :=
  samePart_isPreorder fun machine : Machine => machine.service.durable

theorem currentEpochSeconds_sameDurable : Moves SameDurable Handler.currentEpochSeconds := by
  have hread : Moves SameDurable Handler.readClock := fun _ => rfl
  exact Moves.bind hread fun _ => Moves.orFail _ _

theorem persistDurableState_sameDurable : Moves SameDurable Handler.persistDurableState := by
  have hstore : ∀ advance, Moves SameDurable (Handler.observe (·.storeAccepts 0) advance) :=
    fun _ _ => rfl
  exact Moves.bind (hstore _) fun _ => Moves.ensure _ _

theorem leads_bind_service {α : Type} {next : CoordinatorService → Handler α}
    {returns : α → Machine → Prop} {fails : Machine → Prop}
    (hnext : Leads (next machine.service) machine returns fails) :
    Leads (Handler.service >>= next) machine returns fails :=
  Leads.bind_ok rfl hnext

theorem modifyDurable_leads (change : DurableState → DurableState) (machine : Machine)
    (fails : Machine → Prop) :
    Leads (Handler.modifyDurable change) machine
      (fun _ final => final.service.durable = change machine.service.durable) fails where
  of_ok hrun := by
    cases hrun
    rfl
  of_error hrun := by cases hrun

/-- The end of an operation that writes the durable state and has it stored. -/
theorem storeDurable_leads {α : Type} {change : DurableState → DurableState}
    (property : DurableState → Prop) (hproperty : property (change machine.service.durable))
    (value : α) :
    Leads (do
        Handler.modifyDurable change
        Handler.persistDurableState
        return value) machine
      (fun _ final => property final.service.durable)
      (fun final => property final.service.durable) := by
  refine Leads.bind (modifyDurable_leads _ _ _) fun _ middle hmiddle => ?_
  have hsame : ∀ final, SameDurable middle final → property final.service.durable := by
    intro final hsame
    rw [hsame, hmiddle]
    exact hproperty
  exact Leads.bind (Leads.of_moves persistDurableState_sameDurable (fun _ => hsame) hsame)
    fun _ _ hfinal => Leads.pure hfinal

theorem newId_leads {kind : IdKind} {text : String} {fails : Machine → Prop}
    (hfails : fails machine) :
    Leads (Handler.newId kind text) machine
      (fun id final => machine = final ∧ id.value = text) fails := by
  refine Leads.of_guards (newId_guards _ _) (fun id hrun => ⟨rfl, ?_⟩) hfails
  exact Id.tryNew_eq_ok_iff.mp (liftExcept_eq_ok_iff.mp hrun).1

theorem automatedRun_leads {fails : Machine → Prop} (hfails : fails machine) :
    Leads (Handler.automatedRun runId) machine
      (fun record final => machine = final ∧ machine.runs[runId]? = some record) fails :=
  leads_bind_service (Leads.orFail hfails)

/-! ## Accepting a trigger -/

section Triggers

variable [Primitives]

namespace AcceptedCommitTriggerRecord

variable (accepted : AcceptedCommitTriggerRecord)

/-- The delivery that a trigger came with. -/
def delivery : String × String := (accepted.bindingId, accepted.trigger.deliveryId)

/-- The key of the run that a trigger leads to. -/
def runKey : Digest := accepted.trigger.runIdentity accepted.project

omit [Primitives] in
/-- The checks that a trigger has to pass. -/
structure Admissible (durable : DurableState) : Prop where
  trigger : accepted.trigger.validate = .ok ()
  body : accepted.bodyDigest.isValidSha256 = true
  project : ∃ project, durable.projects[accepted.project]? = some project ∧
    project.tenant = accepted.tenant

end AcceptedCommitTriggerRecord

/-- The record that a new trigger leads to: the one under the id, or a new one. -/
def DurableState.recordFor (durable : DurableState) (accepted : AcceptedCommitTriggerRecord)
    (runId : RunId) : AutomatedRunStageRecord :=
  durable.automatedRuns[runId]?.getD (.begun
    (acceptedRun runId accepted.tenant accepted.project accepted.trigger) accepted.runKey)

/-- What the acceptance of a trigger makes of the durable state.  Room for a run is only
made when its key is not known. -/
inductive DurableState.Accepts (accepted : AcceptedCommitTriggerRecord) (before : DurableState) :
    DurableState → Prop
  | compacted {after : DurableState} :
      before.Compacts accepted.tenant accepted.project after → before.Accepts accepted after
  | joined {runId : RunId} :
      accepted.Admissible before → before.triggerDeliveries[accepted.delivery]? = none →
      before.automatedRunKeys[accepted.runKey]? = some runId →
      before.Accepts accepted
        (before.storeDelivery accepted accepted.runKey runId (before.recordFor accepted runId))
  | started {middle : DurableState} {runId : RunId} :
      accepted.Admissible before → before.triggerDeliveries[accepted.delivery]? = none →
      before.automatedRunKeys[accepted.runKey]? = none →
      before.Compacts accepted.tenant accepted.project middle →
      middle.projectRunCount accepted.tenant accepted.project < maxRunsPerProject →
      runId.value = runIdText accepted.runKey →
      before.Accepts accepted
        (middle.storeDelivery accepted accepted.runKey runId (middle.recordFor accepted runId))

theorem admitRun_leads (tenant : TenantId) (project : ProjectId) (machine : Machine) :
    Leads (admitRun tenant project) machine
      (fun _ final => machine.service.durable.Compacts tenant project final.service.durable ∧
        final.service.durable.projectRunCount tenant project < maxRunsPerProject)
      (fun final => machine.service.durable.Compacts tenant project final.service.durable) := by
  have hqueue : Guards (ensureRunQueue tenant project) :=
    Guards.bind service_guards fun _ => Guards.ensure _ _
  have hretention : Guards (ensureRunRetention tenant project) :=
    Guards.bind service_guards fun _ => Guards.ensure _ _
  have hcompact : Leads (compactAutomatedRunHistory tenant project) machine
      (fun _ final => machine.service.durable.Compacts tenant project final.service.durable)
      (fun final => machine.service.durable.Compacts tenant project final.service.durable) := by
    refine leads_bind_service ?_
    dsimp only [runIf]
    split
    case isFalse => exact Leads.pure (Or.inl rfl)
    case isTrue =>
      refine Leads.bind (modifyDurable_leads _ machine _) fun _ middle hmiddle => ?_
      refine Leads.of_moves persistDurableState_sameDurable (fun _ final hsame => Or.inr ?_)
        fun final hsame => Or.inr ?_
      · exact hsame.trans hmiddle
      · exact hsame.trans hmiddle
  refine Leads.bind (Leads.of_guards hqueue (fun _ _ => rfl) (Or.inl rfl)) ?_
  rintro _ _ rfl
  refine Leads.bind hcompact fun _ middle hmiddle => ?_
  refine Leads.of_guards hretention (fun _ hroom => ⟨hmiddle, ?_⟩) hmiddle
  exact (ensure_eq_ok_iff.mp hroom).1

/-- The durable state that the acceptance of a trigger may lead to. -/
def AcceptsFrom (accepted : AcceptedCommitTriggerRecord) (start machine : Machine) : Prop :=
  start.service.durable.Accepts accepted machine.service.durable

theorem acceptDelivery_leads {accepted : AcceptedCommitTriggerRecord}
    (hadmissible : accepted.Admissible machine.service.durable)
    (hdelivery : machine.service.durable.triggerDeliveries[accepted.delivery]? = none) :
    Leads (acceptDelivery accepted) machine (fun _ => AcceptsFrom accepted machine)
      (AcceptsFrom accepted machine) := by
  refine leads_bind_service ?_
  cases hkey : machine.service.durable.automatedRunKeys[accepted.runKey]? with
  | some runId =>
    have hknown : machine.service.durable.automatedRunKeys.contains accepted.runKey = true := by
      rw [Std.ExtTreeMap.contains_eq_isSome_getElem?, hkey]
      rfl
    have hskip : runIf (¬ machine.service.durable.automatedRunKeys.contains accepted.runKey)
        (admitRun accepted.tenant accepted.project) machine = .ok () machine := by
      rw [runIf_eq_ok_iff, if_neg (not_not.mpr hknown)]
    have hread : runForKey accepted.runKey
        machine.service.durable.automatedRunKeys[accepted.runKey]? machine = .ok runId machine := by
      rw [hkey]
      rfl
    refine Leads.bind_ok hskip (leads_bind_service (Leads.bind_ok hread ?_))
    exact storeDurable_leads (machine.service.durable.Accepts accepted)
      (.joined hadmissible hdelivery hkey) _
  | none =>
    have hmadeRoom : Leads (runIf (¬ machine.service.durable.automatedRunKeys.contains
          accepted.runKey) (admitRun accepted.tenant accepted.project)) machine
        (fun _ middle => machine.service.durable.Compacts accepted.tenant accepted.project
          middle.service.durable ∧ middle.service.durable.projectRunCount accepted.tenant
            accepted.project < maxRunsPerProject) (AcceptsFrom accepted machine) := by
      have hunknown : ¬ machine.service.durable.automatedRunKeys.contains accepted.runKey := by
        rw [Std.ExtTreeMap.contains_eq_isSome_getElem?, hkey]
        exact Bool.false_ne_true
      unfold runIf
      rw [if_pos hunknown]
      exact (admitRun_leads _ _ machine).mono (fun _ _ hroom => hroom) fun _ => .compacted
    refine Leads.bind hmadeRoom fun _ middle hroom => leads_bind_service ?_
    obtain ⟨hcompacts, hroom⟩ := hroom
    have hread : Leads (runForKey accepted.runKey
          middle.service.durable.automatedRunKeys[accepted.runKey]?) middle
        (fun runId final => middle = final ∧ runId.value = runIdText accepted.runKey)
        (AcceptsFrom accepted machine) := by
      rw [hcompacts.runKeys_eq_none hkey]
      exact newId_leads (.compacted hcompacts)
    refine Leads.bind hread ?_
    rintro runId _ ⟨rfl, hrunId⟩
    exact storeDurable_leads (machine.service.durable.Accepts accepted)
      (.started hadmissible hdelivery hkey hcompacts hroom hrunId) _

theorem acceptCommitTrigger_accepts (accepted : AcceptedCommitTriggerRecord) (machine : Machine) :
    AcceptsFrom accepted machine (finalState (acceptCommitTrigger accepted machine)) := by
  have hstays : AcceptsFrom accepted machine machine := .compacted (Or.inl rfl)
  refine finalState_after hstays fun _ htrigger => ?_
  refine finalState_after hstays fun _ hbody => ?_
  refine finalState_after hstays fun _ hservice => ?_
  cases hservice
  refine finalState_after hstays fun project hproject => ?_
  refine finalState_after hstays fun _ htenant => ?_
  have hadmissible : accepted.Admissible machine.service.durable :=
    ⟨(liftExcept_eq_ok_iff.mp htrigger).1, (ensure_eq_ok_iff.mp hbody).1, project,
      (orFail_eq_ok_iff.mp hproject).1, (ensure_eq_ok_iff.mp htenant).1⟩
  cases hdelivery : machine.service.durable.triggerDeliveries[
      (accepted.bindingId, accepted.trigger.deliveryId)]? with
  | some triggerId =>
    have hredelivered : Guards (redeliveredRun triggerId accepted.bodyDigest) := by
      refine Guards.bind service_guards fun _ => Guards.bind (Guards.orFail _ _) fun _ => ?_
      refine Guards.bind (Guards.ensure _ _) fun _ => Guards.bind (Guards.orFail _ _) fun _ => ?_
      exact Guards.orFail _ _
    change AcceptsFrom accepted machine (finalState (redeliveredRun triggerId _ machine))
    rw [hredelivered.1 machine]
    exact hstays
  | none => exact (acceptDelivery_leads hadmissible hdelivery).finalState

/-! ## Retrying a run -/

/-- The trigger of a retry is named after its run. -/
def retryTriggerText (runKey : Digest) : String :=
  "trigger-retry-" ++ idSuffix (runIdText runKey)

/-- What the retry of a run makes of the durable state. -/
inductive DurableState.Retries (runId : RunId) (before : DurableState) : DurableState → Prop
  | refused : before.Retries runId before
  | compacted {tenant : TenantId} {project : ProjectId} {after : DurableState} :
      before.Compacts tenant project after → before.Retries runId after
  | stored {snapshot : AutomatedRunStageRecord} {accepted : AcceptedCommitTriggerRecord}
      {middle : DurableState} {retry now : ℕ} {retryRunId : RunId} {triggerId : TriggerId} :
      before.automatedRuns[runId]? = some snapshot →
      before.acceptedCommitTriggers[snapshot.run.primaryTriggerId]? = some accepted →
      before.Compacts snapshot.run.tenant snapshot.run.project middle →
      middle.projectRunCount snapshot.run.tenant snapshot.run.project < maxRunsPerProject →
      middle.automatedRunKeys[retryKey runId retry]? = none →
      retryRunId.value = runIdText (retryKey runId retry) →
      triggerId.value = retryTriggerText (retryKey runId retry) →
      before.Retries runId (middle.storeRetry (accepted.retried runId retry triggerId now)
        (retryKey runId retry) retryRunId
        (.begun (snapshot.run.retried retryRunId triggerId now) (retryKey runId retry)))

/-- The durable state that the retry of a run may lead to. -/
def RetriesFrom (runId : RunId) (start machine : Machine) : Prop :=
  start.service.durable.Retries runId machine.service.durable

theorem retryAutomatedRun_retries (runId : RunId) (machine : Machine) :
    RetriesFrom runId machine (finalState (retryAutomatedRun runId machine)) := by
  have hrefused : RetriesFrom runId machine machine := .refused
  refine Leads.finalState (Leads.bind (automatedRun_leads hrefused) ?_)
  rintro snapshot _ ⟨rfl, hsnapshot⟩
  refine Leads.bind (Leads.of_guards (Guards.ensure _ _) (fun _ _ => rfl) hrefused) ?_
  rintro _ _ rfl
  refine leads_bind_service (Leads.bind (Leads.orFail hrefused) ?_)
  rintro accepted _ ⟨rfl, haccepted⟩
  refine Leads.bind ((admitRun_leads _ _ _).mono (fun _ _ hroom => hroom)
    fun _ => .compacted) fun _ middle hroom => leads_bind_service ?_
  obtain ⟨hcompacts, hroom⟩ := hroom
  have hcompacted : ∀ final, SameDurable middle final → RetriesFrom runId machine final := by
    intro final hsame
    rw [RetriesFrom, hsame]
    exact .compacted hcompacts
  have hmiddle := hcompacted middle rfl
  refine Leads.bind (Leads.orFail hmiddle) ?_
  rintro retry _ ⟨rfl, hfree⟩
  refine Leads.bind (newId_leads hmiddle) ?_
  rintro retryRunId _ ⟨rfl, hrunId⟩
  refine Leads.bind (newId_leads hmiddle) ?_
  rintro triggerId _ ⟨rfl, htriggerId⟩
  refine Leads.bind (Leads.of_moves currentEpochSeconds_sameDurable (fun _ _ hsame => hsame)
    hcompacted) fun now final hfinal => ?_
  have hkey : middle.service.durable.automatedRunKeys[retryKey runId retry]? = none := by
    have hlacks := List.find?_some hfree
    rw [Bool.not_eq_true'] at hlacks
    exact Std.ExtTreeMap.getElem?_eq_none_of_contains_eq_false hlacks
  rw [hrunId] at htriggerId
  have hdurable : final.service.durable = middle.service.durable := hfinal
  have hstored : machine.service.durable.Retries runId (final.service.durable.storeRetry
      (accepted.retried runId retry triggerId now) (retryKey runId retry) retryRunId
      (.begun (snapshot.run.retried retryRunId triggerId now) (retryKey runId retry))) := by
    rw [hdurable]
    exact .stored hsnapshot haccepted hcompacts hroom hkey hrunId htriggerId
  exact storeDurable_leads (machine.service.durable.Retries runId) hstored _

end Triggers

/-! ## The system -/

/-- What happens to automated runs: the two operations that store a run, those that
work on stored runs, the news of their processes, and whatever else the coordinator
does. -/
inductive AutomationEvent where
  | accept (accepted : AcceptedCommitTriggerRecord)
  | retry (runId : RunId)
  | claimSource (triggerId : TriggerId)
  | recordSource (runId : RunId) (source : WorkflowSource) (revision : RepositoryRevision)
  | enqueue (request : WorkflowCompilationRequest)
  | poll (scope : NodeScopeKey)
  /-- No node with room for the compilation polls. -/
  | wait (tenant : TenantId) (project : ProjectId)
  | report (result : SystemTaskResult)
  | launch (runId : RunId)
  | processEnds (key : ProcessControlKey) (result : ProcessFinalResult) (now : ℕ)
  | processWaits (key : ProcessControlKey) (reason : Option String)
  | publish (key : ProcessControlKey) (boundary : Option TaskBoundaryValue)
  | cancel (runId : RunId)
  | failStage (runId : RunId) (code message : String)
  | restart
  | other

namespace AutomationEvent

section System

variable [Primitives] [BundleInspection]

def Happens : AutomationEvent → Machine → Machine → Prop
  | .accept accepted, before, after => finalState (acceptCommitTrigger accepted before) = after
  | .retry runId, before, after => finalState (retryAutomatedRun runId before) = after
  | .claimSource triggerId, before, after => finalState (claimSourceLoad triggerId before) = after
  | .recordSource runId source revision, before, after =>
    finalState (recordAutomatedRunSource runId source revision before) = after
  | .enqueue request, before, after =>
    finalState (enqueueWorkflowCompilation request before) = after
  | .poll scope, before, after => finalState (pollSystemTaskOffer scope before) = after
  | .wait tenant project, before, after =>
    finalState (setSystemTaskWaitReason tenant project "all_eligible_nodes_at_capacity"
      before) = after
  | .report result, before, after => finalState (reportSystemTask result before) = after
  | .launch runId, before, after => finalState (launchAutomatedRun runId before) = after
  | .processEnds key result now, before, after =>
    finalState (recordProcessTerminal key result now before) = after
  | .processWaits key reason, before, after =>
    finalState (recordAutomatedProcessWaitingReason key reason before) = after
  | .publish key boundary, before, after =>
    finalState (recordAutomatedPublicationBoundary key boundary before) = after
  | .cancel runId, before, after => finalState (cancelAutomatedRun runId before) = after
  | .failStage runId code message, before, after =>
    finalState (failAutomatedRunStage runId code message before) = after
  | .restart, before, after =>
    finalState (reconcileAutomatedRunsAfterCoordinatorRestart before) = after
  | .other, before, after => Touches elsewhere before after

/-- The event works on stored runs and stores no new one. -/
def IsWork : AutomationEvent → Prop
  | .accept _ | .retry _ => False
  | _ => True

/-- The process that the event ends, if it ends one. -/
def ending : AutomationEvent → Machine → Option ProcessControlKey
  | .launch runId, machine => launchKey runId machine
  | .cancel runId, machine => cancelKey runId machine
  | .processEnds key _ _, _ => some key
  | _, _ => none

/-- The source of a run is claimed only while the run goes on, or for nothing because
the run has its source. -/
def ClaimsOpenRun : AutomationEvent → Machine → Prop
  | .claimSource triggerId, machine => ∀ runId record,
      machine.service.durable.findRun (fun record =>
        record.run.primaryTriggerId = triggerId) = some runId →
      machine.runs[runId]? = some record → record.source = none →
        record.run.state.isTerminal = false
  | _, _ => True

/-- The texts that the event leaves in a record fit, in bytes. -/
def TextsFit : AutomationEvent → Machine → Prop
  | .report result, machine => result.result.TextFits machine
  | .launch runId, machine => LaunchTextFits runId machine
  | .processWaits _ reason, _ => ∀ text ∈ reason, (boundedWaitingReason text).utf8ByteSize ≤ 256
  | .failStage _ _ message, _ =>
    (boundedStageFailure message).utf8ByteSize ≤ maxAutomatedRunFailureBytes
  | _, _ => True

/-- One event, from the footprints of the handlers. -/
theorem Happens.keeps {event : AutomationEvent} {fits : Prop} {before after : Machine}
    (hhappens : event.Happens before after) (hwork : event.IsWork)
    (hopen : event.ClaimsOpenRun before) (hfits : fits → event.TextsFit before) :
    AutomationKeeps (event.ending before) fits before after := by
  cases event with
  | accept accepted => exact hwork.elim
  | retry runId => exact hwork.elim
  | other => exact .of_touches hhappens
  | claimSource triggerId =>
    subst hhappens
    exact claimSourceLoad_keeps hopen
  | recordSource runId source revision =>
    subst hhappens
    exact recordAutomatedRunSource_keeps runId source revision before
  | enqueue request =>
    subst hhappens
    exact enqueueWorkflowCompilation_keeps request before
  | poll scope =>
    subst hhappens
    exact pollSystemTaskOffer_keeps scope before
  | wait tenant project =>
    subst hhappens
    exact setSystemTaskWaitReason_keeps tenant project (by decide) before
  | report result =>
    subst hhappens
    exact reportSystemTask_keeps hfits
  | launch runId =>
    subst hhappens
    exact launchAutomatedRun_keeps hfits
  | processEnds key result now =>
    subst hhappens
    exact recordProcessTerminal_keeps key result now before
  | processWaits key reason =>
    subst hhappens
    exact recordAutomatedProcessWaitingReason_keeps key hfits before
  | publish key boundary =>
    subst hhappens
    exact recordAutomatedPublicationBoundary_keeps key boundary before
  | cancel runId =>
    subst hhappens
    exact cancelAutomatedRun_keeps runId
  | failStage runId code message =>
    subst hhappens
    exact failAutomatedRun_keeps runId code hfits before
  | restart =>
    subst hhappens
    exact reconcileAutomatedRuns_keeps before

end System

end AutomationEvent

end

/-! ## A small history -/

namespace AutomationSample

/-- A release whose inspections accept everything. -/
@[reducible] def inspection : BundleInspection where
  systemManifest :=
    { bundleId := "compiler"
      bundleDigest := ⟨"sha256:bundle"⟩
      environmentDigest := ⟨"sha256:environment"⟩
      sdkDigest := ⟨"sha256:sdk"⟩
      rustToolchain := "stable"
      sdkAbiVersion := 1
      wasmTarget := "wasm32"
      supportedArch := "x86_64" }
  validateSource _ := .ok ()
  validateMetadata _ := .ok ()
  validateCompiledModule _ _ _ := .ok ()
  taskDescriptor _ _ := none
  compiledEntrypointExport _ _ := .ok "main"
  readsDescriptors _ := .ok ()
  submitMain _ _ := .ok ()
  publication _ := none
  validateBoundaryAuthority _ := .ok ()
  validateInvocation _ _ _ := .ok ()

def tenant : TenantId := ⟨"tenant", tenant_valid⟩

def project : ProjectId := ⟨"app", by decide⟩

/-- A coordinator with one project and no automation. -/
def start : Machine where
  service :=
    { coordinator :=
        { durable := { projects := Std.ExtTreeMap.insert ∅ project ⟨project, tenant, "App"⟩ } } }
  environment := steadyEnvironment 100 hundred_le

/-- A push to the main branch. -/
def pushed : AcceptedCommitTriggerRecord where
  tenant := tenant
  project := project
  bindingId := "binding"
  bodyDigest := ⟨"sha256:" ++ String.ofList (List.replicate 64 '0')⟩
  trigger :=
    { triggerId := ⟨"trigger-a", by decide⟩
      repositoryId := ⟨"app", by decide⟩
      repositoryUrl := "https://forge/app"
      commitSha := String.ofList (List.replicate 40 'a')
      gitRef := "refs/heads/main"
      deliveryId := "delivery-a"
      actor := none
      trusted := true
      receivedAt := 50 }

variable [Primitives]

def accepted : Machine := finalState (acceptCommitTrigger pushed start)

/-- The first run that is stored. -/
def firstRun (machine : Machine) : RunId :=
  (machine.runs.keys.head?).getD ⟨"none", by decide⟩

def cancelled : Machine := finalState (cancelAutomatedRun (firstRun accepted) accepted)

def claimed : Machine := finalState (claimSourceLoad pushed.trigger.triggerId cancelled)

end AutomationSample

end Clusterflux
