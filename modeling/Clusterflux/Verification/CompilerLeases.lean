import Clusterflux.Coordinator.NodeAssignments
import Clusterflux.Verification.AutomationEvents
import Clusterflux.Verification.HandlerEvaluation

/-!
# Leases of compilations

A node acknowledges a compilation with the same request as a task of a process.
The coordinator tries the lease of a task first, and that try succeeds for every
assignment, so the lease that a compilation is entitled to is never used.
-/

namespace Clusterflux

open StatefulProgram OrderedMaps LabelledRuns

section

variable {machine : Machine} {leaseEpoch now : ℕ} {signedAuthority : Option AssignmentAuthority}
  {authority : AssignmentAuthority} {scope : NodeScopeKey} {active : ActiveAssignmentRecord}

/-! ## What an acknowledgement does to an assignment -/

/-- The assignment stays as it is, or its lease is renewed from a time on. -/
def Extended (time : ℕ) (assignmentId : String) (before after : DurableState) : Prop :=
  ∀ active, before.activeAssignments[assignmentId]? = some active →
    ∃ renewed, after.activeAssignments[assignmentId]? = some renewed ∧
      (renewed = active ∨ renewed.acknowledgedAt.isSome = true ∧
        saturatingAdd time processAssignmentLeaseSeconds ≤ renewed.leaseExpiresAt)

theorem ActiveAssignmentRecord.acknowledgedAt_acknowledged (record : ActiveAssignmentRecord)
    (now seconds : ℕ) : (record.acknowledged now seconds).acknowledgedAt.isSome = true := by
  unfold ActiveAssignmentRecord.acknowledged
  cases record.acknowledgedAt <;> rfl

namespace Extended

variable {time : ℕ} {assignmentId : String} {before middle after : DurableState}

theorem rfl : Extended time assignmentId before before :=
  fun active hactive => ⟨active, hactive, Or.inl (Eq.refl _)⟩

theorem trans (hfirst : Extended time assignmentId before middle)
    (hsecond : Extended time assignmentId middle after) :
    Extended time assignmentId before after := by
  intro active hactive
  obtain ⟨renewed, hrenewed, hkept⟩ := hfirst active hactive
  obtain ⟨last, hlast, hlater⟩ := hsecond renewed hrenewed
  refine ⟨last, hlast, ?_⟩
  rcases hlater with heq | hlater
  · rwa [heq]
  · exact Or.inr hlater

theorem acknowledge (durable : DurableState) (scope : NodeScopeKey)
    (authority : AssignmentAuthority) {now seconds : ℕ} (htime : time ≤ now)
    (hseconds : processAssignmentLeaseSeconds ≤ seconds) :
    Extended time assignmentId durable
      (durable.acknowledgeActiveAssignment scope authority now seconds).2 := by
  unfold DurableState.acknowledgeActiveAssignment
  split
  next => exact rfl
  next found hfound =>
    split
    next =>
      intro active hactive
      by_cases hid : authority.assignmentId = assignmentId
      · subst hid
        refine ⟨_, Std.ExtTreeMap.getElem?_insert_self, Or.inr ⟨?_, ?_⟩⟩
        · exact ActiveAssignmentRecord.acknowledgedAt_acknowledged _ _ _
        · exact min_le_min_right _ (Nat.add_le_add htime hseconds)
      · exact ⟨active, getElem?_insert_eq_some_iff.mpr (Or.inr ⟨hid, hactive⟩), Or.inl (Eq.refl _)⟩
    next => exact rfl

end Extended

/-- No reading of the clock is before the time. -/
def ClockFrom (time : ℕ) (machine : Machine) : Prop :=
  ∀ index seconds, machine.environment.clock index = some seconds → time ≤ seconds

theorem leaseSeconds_ge (record : AutomatedRunStageRecord) :
    processAssignmentLeaseSeconds ≤ record.leaseSeconds :=
  le_max_right _ _

/-- What acknowledgements may do to a machine whose clock is past the time. -/
def Prolongs (time : ℕ) (assignmentId : String) (before after : Machine) : Prop :=
  ClockFrom time before → ClockFrom time after ∧
    Extended time assignmentId before.service.durable after.service.durable

namespace Prolongs

variable {time : ℕ} {assignmentId : String}

instance : IsPreorder Machine (Prolongs time assignmentId) where
  refl _ hclock := ⟨hclock, Extended.rfl⟩
  trans _ _ _ hfirst hsecond hclock := by
    obtain ⟨hmiddle, hextended⟩ := hfirst hclock
    obtain ⟨hlast, hlater⟩ := hsecond hmiddle
    exact ⟨hlast, hextended.trans hlater⟩

theorem modifyTasks (change : TaskRegistry → TaskRegistry) :
    Moves (Prolongs time assignmentId) (Handler.modifyTasks change) :=
  fun _ hclock => ⟨hclock, Extended.rfl⟩

theorem persistDurableState : Moves (Prolongs time assignmentId) Handler.persistDurableState := by
  intro machine hclock
  cases haccepts : machine.environment.storeAccepts 0 with
  | true =>
    rw [Handler.persistDurableState_of_accepts haccepts]
    exact ⟨hclock, Extended.rfl⟩
  | false =>
    rw [Handler.persistDurableState_of_refuses haccepts]
    exact ⟨hclock, Extended.rfl⟩

/-- The durable state is replaced by one that was computed from it. -/
theorem replaceDurable {α : Type} {durable : DurableState} {rest : Handler α}
    (hextended : Extended time assignmentId machine.service.durable durable)
    (hrest : Moves (Prolongs time assignmentId) rest) :
    Prolongs time assignmentId machine
      (finalState ((Handler.modifyDurable (fun _ => durable) >>= fun _ => rest) machine)) :=
  bind_related (fun hclock => ⟨hclock, hextended⟩) fun _ middle _ => hrest middle

/-- What follows a reading of the clock may count on it. -/
theorem bind_currentEpochSeconds {α : Type} {next : ℕ → Handler α} (hnext : ∀ now, time ≤ now →
      Prolongs time assignmentId machine.afterClock (finalState (next now machine.afterClock))) :
    Prolongs time assignmentId machine
      (finalState ((Handler.currentEpochSeconds >>= next) machine)) := by
  intro hclock
  have hlater : ClockFrom time machine.afterClock := fun index => hclock (index + 1)
  cases hreading : machine.environment.clock 0 with
  | none =>
    rw [bind_of_error (Handler.currentEpochSeconds_of_none hreading)]
    exact ⟨hlater, Extended.rfl⟩
  | some now =>
    rw [bind_of_ok (Handler.currentEpochSeconds_of_some hreading)]
    exact hnext now (hclock 0 now hreading) hlater

theorem acknowledgeSystemTaskOffer (scope : NodeScopeKey) (offerId : String) (leaseEpoch : ℕ)
    (authority : AssignmentAuthority) :
    Moves (Prolongs time assignmentId)
      (acknowledgeSystemTaskOffer scope offerId leaseEpoch authority) := by
  intro machine
  refine bind_currentEpochSeconds fun now htime => ?_
  rw [Handler.service_bind]
  cases machine.afterClock.service.durable.compilerRun offerId with
  | none => exact Moves.pure false machine.afterClock
  | some record =>
    dsimp only
    split_ifs with hproject hauthority
    · exact Moves.pure false machine.afterClock
    · exact Moves.pure false machine.afterClock
    · apply replaceDurable
      · exact Extended.acknowledge _ _ _ htime (leaseSeconds_ge record)
      · exact Moves.bind (Moves.runIf persistDurableState) fun _ => Moves.pure _

theorem startAcknowledgedTask (scope : NodeScopeKey) (offerId attemptId : String) :
    Moves (Prolongs time assignmentId) (startAcknowledgedTask scope offerId attemptId) := by
  intro machine
  unfold Clusterflux.startAcknowledgedTask
  rw [Handler.service_bind]
  rcases machine.service.durable.activeAssignments[offerId]?.map ActiveAssignmentRecord.kind with
    _ | runId | ⟨process, task⟩
  · exact Moves.pure _ machine
  · exact Moves.pure _ machine
  · exact modifyTasks _ machine

/-- Whatever is acknowledged, every assignment keeps its lease or gets a new one. -/
theorem handleAcknowledgeNodeAssignment (request : NodeRequest.AcknowledgeNodeAssignment)
    (signedAuthority : Option AssignmentAuthority) :
    Moves (Prolongs time assignmentId)
      (handleAcknowledgeNodeAssignment request signedAuthority) := by
  refine Moves.after fun scope => ?_
  intro machine
  rw [Handler.service_bind]
  refine bind_related (Moves.orFail _ _ machine) fun _ known hknown => ?_
  obtain rfl := (Guards.orFail _ _).state_eq hknown
  refine bind_related (Moves.orFail _ _ _) fun authority fenced hfenced => ?_
  obtain rfl := (Guards.orFail _ _).state_eq hfenced
  refine bind_currentEpochSeconds fun now htime => ?_
  apply replaceDurable
  · exact Extended.acknowledge _ _ _ htime le_rfl
  · refine Moves.bind (modifyTasks _) fun _ => Moves.ite ?_ ?_
    · refine Moves.bind (startAcknowledgedTask _ _ _) fun _ => ?_
      exact Moves.bind persistDurableState fun _ => Moves.pure _
    · refine Moves.bind (acknowledgeSystemTaskOffer _ _ _ _) fun _ => ?_
      exact Moves.after fun _ => Moves.pure _

end Prolongs

/-! ## The lease of an acknowledged compilation -/

/-- An assignment of the durable state that compiles a workflow. -/
structure CompilerOffer (durable : DurableState) (assignmentId : String) where
  active : ActiveAssignmentRecord
  stored : durable.activeAssignments[assignmentId]? = some active
  named : active.assignmentId = assignmentId
  runId : RunId
  compiles : active.kind = .workflowCompiler runId
  run : AutomatedRunStageRecord
  recorded : durable.automatedRuns[runId]? = some run
  request : WorkflowCompilationRequest
  requested : run.compilationRequest = some request

namespace CompilerOffer

variable {durable : DurableState} {assignmentId : String}

/-- The wall-clock limit of the compilation, in seconds. -/
def wallClockSeconds (offer : CompilerOffer durable assignmentId) : ℕ :=
  offer.request.resourcePolicy.wallClockSeconds

/-- When the lease of a compilation that is acknowledged at a time should end. -/
def promisedUntil (offer : CompilerOffer durable assignmentId) (time : ℕ) : ℕ :=
  saturatingAdd time (max 180 (saturatingAdd offer.wallClockSeconds 30))

/-- The lease of the assignment lasts as long as it should. -/
def LeaseLasts (offer : CompilerOffer durable assignmentId) (time : ℕ) (machine : Machine) : Prop :=
  ∃ active, machine.service.durable.activeAssignments[assignmentId]? = some active ∧
    active.acknowledgedAt.isSome = true ∧ offer.promisedUntil time ≤ active.leaseExpiresAt

/-- The authority of an acknowledgement of the offer names the offer. -/
theorem assignmentId_of_acknowledgedAuthority (offer : CompilerOffer durable assignmentId)
    (hauthority : durable.acknowledgedAuthority assignmentId leaseEpoch signedAuthority =
      some authority) : authority.assignmentId = assignmentId := by
  unfold DurableState.acknowledgedAuthority at hauthority
  rcases Option.or_eq_some_iff.mp hauthority with hsigned | ⟨-, hstored⟩
  · exact (of_decide_eq_true (Option.filter_eq_some_iff.mp hsigned).2).1
  · rw [offer.stored] at hstored
    obtain ⟨active, hactive, rfl⟩ := Option.map_eq_some_iff.mp hstored
    obtain ⟨hsome, -⟩ := Option.filter_eq_some_iff.mp hactive
    rw [← Option.some.inj hsome]
    exact offer.named

theorem acknowledgeProcessAssignment_eq (registry : TaskRegistry)
    (hstored : durable.activeAssignments[authority.assignmentId]? = some active) (seconds : ℕ) :
    ∃ started, registry.acknowledgeProcessAssignment durable scope authority now seconds =
      if active.CanBeAcknowledged scope authority now then
        (true, { durable with
          activeAssignments := durable.activeAssignments.insert authority.assignmentId
            (active.acknowledged now seconds) }, started)
      else (false, durable, started) := by
  unfold TaskRegistry.acknowledgeProcessAssignment DurableState.acknowledgeActiveAssignment
  rw [hstored]
  dsimp only
  split <;> exact ⟨_, rfl⟩

/-- What follows the acknowledgement of a task does not touch the assignments. -/
theorem startsTask_touches (registry : TaskRegistry) (scope : NodeScopeKey)
    (assignmentId attemptId : String) (answer : NodeAssignmentAcknowledged) :
    Moves (Touches {.tasks}) (do
      Handler.modifyTasks fun _ => registry
      startAcknowledgedTask scope assignmentId attemptId
      Handler.persistDurableState
      return answer) := by
  refine Moves.bind (Touches.modifyTasks (by decide)) fun _ => ?_
  refine Moves.bind ?_ fun _ => Moves.bind Touches.persistDurableState fun _ => Moves.pure _
  refine moves_bind_service fun machine => ?_
  rcases machine.service.durable.activeAssignments[assignmentId]?.map ActiveAssignmentRecord.kind
    with _ | runId | ⟨process, task⟩
  · exact Moves.pure _ machine
  · exact Moves.pure _ machine
  · exact Touches.modifyTasks (by decide) machine

/-- A compilation is acknowledged as one only if it could be acknowledged. -/
theorem canBeAcknowledged_of_acknowledgeSystemTaskOffer {machine after : Machine}
    (hrun : acknowledgeSystemTaskOffer scope assignmentId leaseEpoch authority machine =
      .ok true after)
    (hstored : machine.service.durable.activeAssignments[authority.assignmentId]? = some active) :
    ∃ now, active.CanBeAcknowledged scope authority now := by
  obtain ⟨now, clocked, hclock, hserved⟩ := bind_eq_ok_iff.mp hrun
  obtain ⟨-, rfl⟩ := Handler.currentEpochSeconds_eq_ok_iff.mp hclock
  rw [Handler.service_bind, Machine.service_afterClock] at hserved
  cases hrun : machine.service.durable.compilerRun assignmentId with
  | none =>
    rw [hrun] at hserved
    cases hserved
  | some record =>
    rw [hrun] at hserved
    dsimp only at hserved
    split_ifs at hserved with hproject hauthority
    · cases hserved
    · cases hserved
    · obtain ⟨_, written, -, hpersisted⟩ := bind_eq_ok_iff.mp hserved
      obtain ⟨_, persisted, -, hanswer⟩ := bind_eq_ok_iff.mp hpersisted
      have hacknowledged := (EStateM.Result.ok.inj hanswer).1
      unfold DurableState.acknowledgeActiveAssignment at hacknowledged
      rw [hstored] at hacknowledged
      dsimp only at hacknowledged
      split_ifs at hacknowledged with hcan
      exact ⟨now, hcan⟩

/-- An acknowledgement in time gives a compilation the lease of a task. -/
theorem lease_of_acknowledgement {machine after : Machine} {time : ℕ}
    {request : NodeRequest.AcknowledgeNodeAssignment}
    (offer : CompilerOffer machine.service.durable request.assignmentId)
    {answer : NodeAssignmentAcknowledged}
    (hrun : handleAcknowledgeNodeAssignment request signedAuthority machine = .ok answer after)
    (htime : machine.environment.clock 0 = some time)
    (hoffered : time ≤ offer.active.leaseExpiresAt) :
    after.service.durable.activeAssignments[request.assignmentId]? =
      some (offer.active.acknowledged time processAssignmentLeaseSeconds) := by
  obtain ⟨scope, begun, hscope, hserved⟩ := bind_eq_ok_iff.mp hrun
  obtain rfl := (newNodeScope_guards _).state_eq hscope
  rw [Handler.service_bind] at hserved
  obtain ⟨identity, known, hknown, hread⟩ := bind_eq_ok_iff.mp hserved
  obtain ⟨-, rfl⟩ := orFail_eq_ok_iff.mp hknown
  obtain ⟨authority, fenced, hfenced, hclocked⟩ := bind_eq_ok_iff.mp hread
  obtain ⟨hauthority, rfl⟩ := orFail_eq_ok_iff.mp hfenced
  rw [bind_of_ok (Handler.currentEpochSeconds_of_some htime)] at hclocked
  have hnamed := offer.assignmentId_of_acknowledgedAuthority hauthority
  have hstored : begun.service.durable.activeAssignments[authority.assignmentId]? =
      some offer.active := by
    rw [hnamed]
    exact offer.stored
  obtain ⟨started, hacknowledged⟩ := acknowledgeProcessAssignment_eq
    begun.service.taskRegistry hstored processAssignmentLeaseSeconds
  by_cases hcan : offer.active.CanBeAcknowledged scope authority time
  · rw [hacknowledged, if_pos hcan] at hclocked
    obtain ⟨_, written, hwritten, hstarted⟩ := bind_eq_ok_iff.mp hclocked
    cases hwritten
    have hsame := (startsTask_touches _ _ _ _ _).of_ok hstarted .assignments (by decide)
    have hactive := congrArg Prod.fst hsame
    dsimp only [Part.view] at hactive
    rw [hactive]
    exact getElem?_insert_eq_some_iff.mpr (Or.inl ⟨hnamed, rfl⟩)
  · rw [hacknowledged, if_neg hcan] at hclocked
    obtain ⟨_, written, hwritten, htasks⟩ := bind_eq_ok_iff.mp hclocked
    cases hwritten
    obtain ⟨_, queued, hqueued, hsystem⟩ := bind_eq_ok_iff.mp htasks
    cases hqueued
    obtain ⟨system, offered, hoffer, hensured⟩ := bind_eq_ok_iff.mp hsystem
    obtain ⟨_, ensured, hsystem, -⟩ := bind_eq_ok_iff.mp hensured
    obtain ⟨rfl, -⟩ := ensure_eq_ok_iff.mp hsystem
    obtain ⟨now, hmatches, -, hstate⟩ :=
      canBeAcknowledged_of_acknowledgeSystemTaskOffer hoffer hstored
    exact absurd ⟨hmatches, hoffered, hstate⟩ hcan

/-- The lease of a task is long enough for a compilation with a small limit, or
where the clock is at its end. -/
theorem promisedUntil_le_iff (offer : CompilerOffer durable assignmentId) (time : ℕ) :
    offer.promisedUntil time ≤ saturatingAdd time processAssignmentLeaseSeconds ↔
      offer.wallClockSeconds ≤ 150 ∨ u64Max ≤ time + 180 := by
  unfold promisedUntil saturatingAdd processAssignmentLeaseSeconds u64Max
  omega

end CompilerOffer

/-! ## Further acknowledgements -/

/-- An acknowledgement with the authority that its signature carries. -/
abbrev Acknowledgement := NodeRequest.AcknowledgeNodeAssignment × Option AssignmentAuthority

/-- The machine after one more acknowledgement, accepted or not. -/
def acknowledgeAgain (acknowledgement : Acknowledgement) (machine : Machine) : Machine :=
  finalState (handleAcknowledgeNodeAssignment acknowledgement.1 acknowledgement.2 machine)

theorem acknowledgeAgain_prolongs (time : ℕ) (assignmentId : String)
    (acknowledgement : Acknowledgement) (machine : Machine) :
    Prolongs time assignmentId machine (acknowledgeAgain acknowledgement machine) := by
  unfold acknowledgeAgain
  exact Prolongs.handleAcknowledgeNodeAssignment _ _ machine

namespace CompilerOffer

/-- An acknowledged compilation keeps the lease it needs, through any further
acknowledgements, exactly if the lease of a task is long enough for it. -/
theorem compiler_lease_lasts_iff {machine after : Machine} {time : ℕ}
    {request : NodeRequest.AcknowledgeNodeAssignment}
    (offer : CompilerOffer machine.service.durable request.assignmentId)
    {signedAuthority : Option AssignmentAuthority} {answer : NodeAssignmentAcknowledged}
    (hrun : handleAcknowledgeNodeAssignment request signedAuthority machine = .ok answer after)
    (htime : machine.environment.clock 0 = some time)
    (hoffered : time ≤ offer.active.leaseExpiresAt) (hclock : ClockFrom time after) :
    (∀ acknowledgements : List Acknowledgement,
        offer.LeaseLasts time (replay acknowledgeAgain after acknowledgements)) ↔
      offer.wallClockSeconds ≤ 150 ∨ u64Max ≤ time + 180 := by
  have hlease := offer.lease_of_acknowledgement hrun htime hoffered
  rw [← offer.promisedUntil_le_iff time]
  constructor
  · intro hlasts
    obtain ⟨active, hactive, -, hpromised⟩ := hlasts []
    have hsame := Option.some.inj (hactive.symm.trans hlease)
    rw [hsame] at hpromised
    exact hpromised
  · intro hpromised acknowledgements
    have hprolongs := related_replay
      (acknowledgeAgain_prolongs time request.assignmentId) after acknowledgements
    obtain ⟨-, hextended⟩ := hprolongs hclock
    obtain ⟨renewed, hrenewed, hkept⟩ := hextended _ hlease
    refine ⟨renewed, hrenewed, ?_⟩
    rcases hkept with rfl | ⟨hacknowledged, hlater⟩
    · exact ⟨ActiveAssignmentRecord.acknowledgedAt_acknowledged _ _ _, hpromised⟩
    · exact ⟨hacknowledged, hpromised.trans hlater⟩

end CompilerOffer

end

/-! ## A compilation with a limit of five minutes -/

namespace CompilerSample

open AutomationSample

def node : NodeId := ⟨"builder", by decide⟩

def runId : RunId := ⟨"run-1", by decide⟩

def record : AutomatedRunRecord :=
  { acceptedRun runId tenant project pushed.trigger with state := .compilingWorkflow }

def compilation (limit : ℕ) : WorkflowCompilationRequest where
  runId := runId
  source := ⟨record.primaryTriggerId, record.repositoryId, record.commitSha, ⟨"sha256:tree"⟩,
    ⟨"sha256:manifest"⟩, [], []⟩
  compilerProfile := "release"
  compilerImage := ⟨"sha256:image"⟩
  compilerSdk := ⟨"sha256:sdk"⟩
  rustToolchain := "stable"
  resourcePolicy := ⟨1, 1073741824, limit, 1048576, 65536⟩

def run (limit : ℕ) : AutomatedRunStageRecord :=
  { AutomatedRunStageRecord.begun record ⟨"sha256:run"⟩ with
    compilationRequest := some (compilation limit) }

/-- What a node was offered half a minute ago at most. -/
def offered : ActiveAssignmentRecord where
  assignmentId := "assignment-1"
  kind := .workflowCompiler runId
  tenant := tenant
  project := project
  node := node
  attemptId := "attempt-1"
  offerEpoch := 1
  state := .offered
  offeredAt := 90
  acknowledgedAt := none
  leaseExpiresAt := 120
  terminalMutations := []

def machine (limit : ℕ) : Machine where
  service :=
    { coordinator :=
        { durable :=
            { nodeIdentities := Std.ExtTreeMap.insert ∅ ⟨tenant, project, node⟩
                ⟨node, tenant, project, "", "", none⟩
              automatedRuns := Std.ExtTreeMap.insert ∅ runId (run limit)
              activeAssignments := Std.ExtTreeMap.insert ∅ "assignment-1" offered } } }
  environment := steadyEnvironment 100 hundred_le

def acknowledgement : NodeRequest.AcknowledgeNodeAssignment where
  tenant := "tenant"
  project := "app"
  node := "builder"
  assignmentId := "assignment-1"
  leaseEpoch := 1

def offer (limit : ℕ) : CompilerOffer (machine limit).service.durable
    acknowledgement.assignmentId where
  active := offered
  stored := Std.ExtTreeMap.getElem?_insert_self
  named := rfl
  runId := runId
  compiles := rfl
  run := run limit
  recorded := Std.ExtTreeMap.getElem?_insert_self
  request := compilation limit
  requested := rfl

/-- The machine after the acknowledgement. -/
def acknowledged (limit : ℕ) : Machine :=
  finalState (handleAcknowledgeNodeAssignment acknowledgement none (machine limit))

theorem acknowledges (limit : ℕ) :
    handleAcknowledgeNodeAssignment acknowledgement none (machine limit) =
      .ok ⟨"assignment-1", 1⟩ (acknowledged limit) := by
  rfl

theorem clockFrom_acknowledged (limit : ℕ) : ClockFrom 100 (acknowledged limit) := by
  have hclock : ClockFrom 100 (machine limit) := by
    rintro index seconds ⟨rfl⟩
    exact le_rfl
  obtain ⟨hlater, -⟩ := acknowledgeAgain_prolongs 100 "assignment-1" (acknowledgement, none)
    (machine limit) hclock
  exact hlater

end CompilerSample

open CompilerSample

/-- Two minutes are less than the lease of a task, also when the compilation is
acknowledged again. -/
theorem two_minutes_are_leased :
    (offer 120).LeaseLasts 100 (replay acknowledgeAgain (CompilerSample.acknowledged 120)
      [(acknowledgement, none), (acknowledgement, none)]) :=
  (CompilerOffer.compiler_lease_lasts_iff (offer 120) (acknowledges 120) rfl (by decide)
    (clockFrom_acknowledged 120)).mpr (Or.inl (by decide)) _

open CompilerSample in
/-- A compilation that may take five minutes and is acknowledged at second 100 has a
lease until second 280. -/
theorem five_minutes_are_not_leased :
    handleAcknowledgeNodeAssignment acknowledgement none (machine 300) =
        .ok ⟨"assignment-1", 1⟩ (acknowledged 300) ∧
      (acknowledged 300).service.durable.activeAssignments["assignment-1"]? =
        some (offered.acknowledged 100 180) ∧
      (offered.acknowledged 100 180).leaseExpiresAt = 280 ∧
      (offer 300).promisedUntil 100 = 430 ∧
      ¬ (offer 300).LeaseLasts 100 (acknowledged 300) := by
  have hlease := (offer 300).lease_of_acknowledgement (acknowledges 300) rfl (by decide)
  refine ⟨acknowledges 300, hlease, by decide, by decide, ?_⟩
  rintro ⟨active, hactive, -, hpromised⟩
  obtain rfl := Option.some.inj (hactive.symm.trans hlease)
  exact absurd hpromised (by decide)

end Clusterflux
