import Clusterflux.Verification.AttemptHistories
import Clusterflux.Verification.AutomationEvents
import Clusterflux.Verification.TaskPlacements

/-!
# Launches that are queued again

An offer that no node acknowledged in time is turned into a queued launch.  The
request of that launch is made at this moment, with what the quota says then, and
every later poll looks at the request only.
-/

namespace Clusterflux

open StatefulProgram DefaultScheduler

/-! ## Which facts a request is made of -/

section Requests

variable {service service' : CoordinatorService} {tenant : TenantId} {project : ProjectId}
  {spec : TaskSpec} {prefer prefer' : Option NodeId} {now now' : ℕ} {descriptor : NodeDescriptor}

/-- What a task asks of a node does not depend on when it asks. -/
theorem compatible_placementRequest_iff :
    Compatible (service.placementRequest tenant project spec prefer now) descriptor ↔
      Compatible (service'.placementRequest tenant project spec prefer' now') descriptor := by
  constructor <;>
  · rintro ⟨honline, htenant, hproject, hprocess, hcapabilities, henvironment, hcached, hsnapshot,
      hartifacts⟩
    exact ⟨honline, htenant, hproject, hprocess, hcapabilities, henvironment, hcached, hsnapshot,
      hartifacts⟩

/-- A compatible node can take the task when quota and policy admitted it as the
request was made. -/
theorem exists_place_iff
    (hcompatible : Compatible (service.placementRequest tenant project spec prefer now)
      descriptor) :
    (∃ placement, place [descriptor]
        (service'.placementRequest tenant project spec prefer' now') = .ok placement) ↔
      service'.quota.canCharge tenant project .spawn 1 now' = .ok () ∧
        service'.admission.workflowPlacementAllowed = true := by
  have hquota : (service'.placementRequest tenant project spec prefer' now').quotaAvailable = true ↔
      service'.quota.canCharge tenant project .spawn 1 now' = .ok () := by
    change (service'.quota.canCharge tenant project .spawn 1 now').isOk = true ↔ _
    cases service'.quota.canCharge tenant project .spawn 1 now' <;>
      simp [Except.isOk, Except.toBool]
  rw [exists_place_singleton_iff, rejections_eq_nil_iff, hquota]
  constructor
  · rintro ⟨hadmits, hpolicy, -⟩
    exact ⟨hadmits, hpolicy⟩
  · rintro ⟨hadmits, hpolicy⟩
    exact ⟨hadmits, hpolicy, compatible_placementRequest_iff.mp hcompatible⟩

theorem trustedSecretNodes_terminalize (durable : DurableState) (authority : AssignmentAuthority)
    (now : ℕ) (replayAllowed : Bool) :
    (durable.terminalizeActiveAssignment authority now replayAllowed).trustedSecretNodes =
      durable.trustedSecretNodes := by
  unfold DurableState.terminalizeActiveAssignment
  split
  · rfl
  · split <;> rfl

theorem redelivery_congr {active : ActiveAssignmentRecord} {process : ProcessId}
    {task : TaskInstanceId} {assignment : TaskAssignment}
    (hquota : service'.quota = service.quota) (hadmission : service'.admission = service.admission)
    (htrusted : service'.durable.trustedSecretNodes = service.durable.trustedSecretNodes) :
    service'.redelivery active process task assignment now =
      service.redelivery active process task assignment now := by
  simp only [CoordinatorService.redelivery, CoordinatorService.placementRequest, hquota,
    hadmission, htrusted]

end Requests

/-! ## The reconciliation of an expired offer -/

section Reconciliation

variable {machine : Machine} {now : ℕ}
  {active : ActiveAssignmentRecord} {process : ProcessId} {task : TaskInstanceId}
  {checkpoint : TaskRestartCheckpoint}

/-- The offer of an active process becomes a queued launch; its request is made
from the state before the step. -/
theorem reconcileExpiredAssignment_of_offer (hkind : active.kind = .processTask process task)
    (hcheckpoint : machine.service.taskRegistry.checkpoint
      ⟨⟨active.tenant, active.project, process⟩, task⟩ = some checkpoint)
    (hoffered : active.acknowledgedAt = none ∧ active.state = .offered)
    (hprocess : (machine.service.coordinator.activeProcess
      ⟨active.tenant, active.project, process⟩).isSome = true)
    (hcancelled : machine.service.processRegistry.isCancelled
      ⟨active.tenant, active.project, process⟩ = false) :
    ∃ final, reconcileExpiredAssignment now active machine = .ok ⟨⟩ final ∧
      final.service.taskRegistry.pendingTaskLaunches =
        machine.service.taskRegistry.pendingTaskLaunches ++
          [machine.service.redelivery active process task checkpoint.assignment now] := by
  unfold reconcileExpiredAssignment
  rw [hkind]
  simp only [Handler.service, Handler.modifyDurable, Handler.modifyCoordinator,
    Handler.modifyService, bind_apply, get_apply, modify_apply, pure_apply, hcheckpoint]
  rw [if_pos ⟨by rw [hoffered.1]; rfl, hoffered.2⟩]
  simp only [redeliverOffer, Handler.service, Handler.modifyTasks,
    Handler.modifyService, bind_apply, get_apply, modify_apply, pure_apply, runIf]
  rw [if_pos ⟨hprocess, by rw [hcancelled]; exact Bool.false_ne_true⟩]
  refine ⟨_, rfl, ?_⟩
  apply congrArg (fun pending => machine.service.taskRegistry.pendingTaskLaunches ++ [pending])
  exact redelivery_congr rfl rfl (trustedSecretNodes_terminalize _ _ _ _)

/-! ## Polls after the reconciliation -/

variable [Primitives] [BundleInspection] {later : Machine} {pending : PendingTaskLaunch}
  {descriptor : NodeDescriptor}

/-- The node that polls is offered the launch. -/
def AcceptedBy (pending : PendingTaskLaunch) (descriptor : NodeDescriptor) (later : Machine) :
    Prop :=
  ∃ placement, placement.node = descriptor.id ∧
    considerPendingLaunch descriptor.scope descriptor pending later =
      assignPendingLaunch pending placement later

theorem considerPendingLaunch_of_current (htenant : descriptor.tenant = pending.tenant)
    (hproject : descriptor.project = pending.project)
    (hcurrent : later.service.pendingIsCurrent pending = true)
    (hsecrets : later.service.secretsAllow pending descriptor.id = true) :
    considerPendingLaunch descriptor.scope descriptor pending later =
      (match place [descriptor] pending.request with
        | .ok placement => assignPendingLaunch pending placement
        | .error message => do
            Handler.modifyTasks (·.updateCurrentAttempt pending.restartKey
              (·.waitingForNode (boundedWaitingReason message)))
            return .kept { pending with waitingReason := boundedWaitingReason message }) later := by
  unfold considerPendingLaunch
  rw [bind_of_ok (show Handler.service later = .ok later.service later from rfl)]
  rw [if_neg (by simp [NodeDescriptor.scope, htenant, hproject]), hcurrent, hsecrets]
  rfl

theorem assignPendingLaunch_ne_kept {placement : Placement} {kept : PendingTaskLaunch}
    {after : Machine} : assignPendingLaunch pending placement later ≠ .ok (.kept kept) after := by
  intro hassign
  unfold assignPendingLaunch at hassign
  obtain ⟨_, _, -, hassign⟩ := bind_eq_ok_iff.mp hassign
  obtain ⟨_, _, -, hassign⟩ := bind_eq_ok_iff.mp hassign
  obtain ⟨_, _, -, hassign⟩ := bind_eq_ok_iff.mp hassign
  obtain ⟨_, _, -, hassign⟩ := bind_eq_ok_iff.mp hassign
  rw [map_eq_pure_bind] at hassign
  obtain ⟨assignment, _, -, hreturn⟩ := bind_eq_ok_iff.mp hassign
  cases hreturn

/-- The decision about a node is the scheduler's, on the request that was queued. -/
theorem acceptedBy_iff (htenant : descriptor.tenant = pending.tenant)
    (hproject : descriptor.project = pending.project)
    (hcurrent : later.service.pendingIsCurrent pending = true)
    (hsecrets : later.service.secretsAllow pending descriptor.id = true) :
    AcceptedBy pending descriptor later ↔
      ∃ placement, place [descriptor] pending.request = .ok placement := by
  have hconsider := considerPendingLaunch_of_current htenant hproject hcurrent hsecrets
  unfold AcceptedBy
  rw [hconsider]
  cases hplace : place [descriptor] pending.request with
  | ok placement =>
    obtain ⟨node, hnode, hid, -⟩ := exists_of_place_eq_ok hplace
    rw [List.mem_singleton.mp hnode] at hid
    exact ⟨fun _ => ⟨placement, rfl⟩, fun _ => ⟨placement, hid.symm, rfl⟩⟩
  | error message =>
    constructor
    · rintro ⟨placement, -, hassign⟩
      exact absurd hassign.symm assignPendingLaunch_ne_kept
    · rintro ⟨placement, hok⟩
      cases hok

/-- An expired offer is queued again.  A node that is compatible with the task is
accepted at any later time, whatever the launch has waited for, exactly if quota and
policy admitted a spawn when the offer was reconciled. -/
theorem redelivered_launch_is_accepted_iff (origin : CoordinatorService) (prefer : Option NodeId)
    (launchedAt : ℕ) (hkind : active.kind = .processTask process task)
    (hcheckpoint : machine.service.taskRegistry.checkpoint
      ⟨⟨active.tenant, active.project, process⟩, task⟩ = some checkpoint)
    (hoffered : active.acknowledgedAt = none ∧ active.state = .offered)
    (hprocess : (machine.service.coordinator.activeProcess
      ⟨active.tenant, active.project, process⟩).isSome = true)
    (hcancelled : machine.service.processRegistry.isCancelled
      ⟨active.tenant, active.project, process⟩ = false) :
    ∃ final, reconcileExpiredAssignment now active machine = .ok ⟨⟩ final ∧
      final.service.taskRegistry.pendingTaskLaunches =
        machine.service.taskRegistry.pendingTaskLaunches ++
          [machine.service.redelivery active process task checkpoint.assignment now] ∧
      ∀ waitingReason descriptor later,
        let launch : PendingTaskLaunch :=
          { machine.service.redelivery active process task checkpoint.assignment now with
            waitingReason }
        Compatible (origin.placementRequest active.tenant active.project
          checkpoint.assignment.taskSpec prefer launchedAt) descriptor →
        later.service.pendingIsCurrent launch = true →
        later.service.secretsAllow launch descriptor.id = true →
        (AcceptedBy launch descriptor later ↔
          machine.service.quota.canCharge active.tenant active.project .spawn 1 now = .ok () ∧
            machine.service.admission.workflowPlacementAllowed = true) := by
  obtain ⟨final, hfinal, hqueue⟩ :=
    reconcileExpiredAssignment_of_offer hkind hcheckpoint hoffered hprocess hcancelled
  refine ⟨final, hfinal, hqueue, ?_⟩
  intro waitingReason descriptor later launch hcompatible hcurrent hsecrets
  rw [acceptedBy_iff hcompatible.tenant hcompatible.project hcurrent hsecrets]
  exact exists_place_iff hcompatible

end Reconciliation

/-! ## A quota that is used up when an offer expires -/

namespace RedeliverySample

open AttemptSample PlacementSample

def offer : ActiveAssignmentRecord where
  assignmentId := "assignment-1"
  kind := .processTask spec.process spec.taskInstance
  tenant := tenant
  project := project
  node := worker
  attemptId := "ta_1"
  offerEpoch := 1
  state := .offered
  offeredAt := 0
  acknowledgedAt := none
  leaseExpiresAt := 30
  terminalMutations := []

def assignment : TaskAssignment where
  assignmentId := "assignment-1"
  attemptId := "ta_1"
  offerEpoch := 1
  offerExpiresAtEpochSeconds := 30
  tenant := tenant
  project := project
  process := spec.process
  task := spec.taskInstance
  node := worker
  epoch := 1
  artifactPath := "/vfs/artifacts/build-1-result.json"
  taskSpec := spec
  wasmModuleBase64 := ""

def checkpoint : TaskRestartCheckpoint where
  checkpoint :=
    { task := spec.taskInstance
      boundary := ⟨"build", ⟨""⟩, ⟨""⟩, 1, ⟨""⟩⟩
      vfsManifest := ⟨1, spec.taskInstance, worker, [], false⟩
      dependsOnLiveStack := false
      dependsOnLiveSocket := false
      dependsOnEphemeralArtifactDurability := false }
  assignment := assignment

/-- One spawn a minute, and that of the first minute is used. -/
def quota : CoordinatorQuota where
  configuration := { limits := fun _ => 1, windowSeconds := fun _ => 60 }
  meters := Std.ExtTreeMap.insert ∅ (tenant, project, .spawn, 0) 1

/-- The process runs, and its task was offered to a node. -/
def machine (quota : CoordinatorQuota) : Machine where
  service :=
    { coordinator :=
        { activeProcesses := Std.ExtTreeMap.insert ∅ spec.processKey
            ⟨spec.process, none, tenant, project, ∅, 1⟩ }
      taskRegistry :=
        { taskRestartCheckpoints := Std.ExtTreeMap.insert ∅ spec.restartKey checkpoint }
      quota := quota }
  environment := steadyEnvironment 31 (by decide)

theorem canCharge_quota : quota.canCharge tenant project .spawn 1 31 ≠ .ok () ∧
    quota.canCharge tenant project .spawn 1 100 = .ok () := by
  decide

theorem compatible_worker (service : CoordinatorService) (now : ℕ) :
    Compatible (service.placementRequest tenant project spec none now) (node worker) where
  __ := compatible worker true

/-- The launch that replaces the offer. -/
def redelivered (quota : CoordinatorQuota) : PendingTaskLaunch :=
  (machine quota).service.redelivery offer spec.process spec.taskInstance assignment 31

theorem redelivered_isCurrent (quota : CoordinatorQuota) :
    (machine quota).service.pendingIsCurrent (redelivered quota) = true := by
  have hactive : (machine quota).service.coordinator.activeProcess spec.processKey =
      some ⟨spec.process, none, tenant, project, ∅, 1⟩ := Std.ExtTreeMap.getElem?_insert_self
  unfold CoordinatorService.pendingIsCurrent
  change (_ && Option.any _ ((machine quota).service.coordinator.activeProcess spec.processKey)) = _
  rw [hactive]
  rfl

theorem checkpoint_machine (quota : CoordinatorQuota) :
    (machine quota).service.taskRegistry.checkpoint spec.restartKey = some checkpoint :=
  Std.ExtTreeMap.getElem?_insert_self

theorem process_machine (quota : CoordinatorQuota) :
    ((machine quota).service.coordinator.activeProcess spec.processKey).isSome = true := by
  rw [show (machine quota).service.coordinator.activeProcess spec.processKey = some _ from
    Std.ExtTreeMap.getElem?_insert_self]
  rfl

end RedeliverySample

open RedeliverySample

/-- While there is quota, the node that let its offer expire can have it again. -/
theorem redelivered_with_quota :
    ∃ final, reconcileExpiredAssignment 31 offer (machine {}) = .ok ⟨⟩ final ∧
      @AcceptedBy Primitives.sample AutomationSample.inspection (redelivered {})
        (PlacementSample.node PlacementSample.worker) (machine {}) := by
  obtain ⟨final, hfinal, -, haccepted⟩ :=
    @redelivered_launch_is_accepted_iff (machine {}) 31 offer _ _ checkpoint Primitives.sample
      AutomationSample.inspection {} none 0 rfl (checkpoint_machine {}) ⟨rfl, rfl⟩
      (process_machine {}) rfl
  refine ⟨final, hfinal, ?_⟩
  refine (haccepted _ _ _ (compatible_worker _ _) (redelivered_isCurrent {}) rfl).mpr ⟨?_, rfl⟩
  decide

open PlacementSample in
/-- The offer expires while the quota is used up.  In the next minute there is quota
again, but no node is ever accepted for the queued launch. -/
theorem redelivered_without_quota : quota.canCharge tenant project .spawn 1 100 = .ok () ∧
      Compatible (CoordinatorService.placementRequest {} tenant project AttemptSample.spec none 0)
        (node worker) ∧
      ∃ final, reconcileExpiredAssignment 31 offer (machine quota) = .ok ⟨⟩ final ∧
        final.service.taskRegistry.pendingTaskLaunches = [redelivered quota] ∧
        ∀ (waitingReason : String) (descriptor : NodeDescriptor) (later : Machine),
          let launch : PendingTaskLaunch := { redelivered quota with waitingReason }
          descriptor.tenant = tenant → descriptor.project = project →
          later.service.pendingIsCurrent launch = true →
          later.service.secretsAllow launch descriptor.id = true →
          ¬ @AcceptedBy Primitives.sample AutomationSample.inspection launch descriptor later := by
  obtain ⟨final, hfinal, hqueue⟩ := @reconcileExpiredAssignment_of_offer (machine quota) 31 offer
    _ _ checkpoint rfl (checkpoint_machine quota) ⟨rfl, rfl⟩ (process_machine quota) rfl
  refine ⟨canCharge_quota.2, compatible_worker _ _, final, hfinal, hqueue, ?_⟩
  intro waitingReason descriptor later launch htenant hproject hcurrent hsecrets haccepted
  have hplace := (@acceptedBy_iff Primitives.sample AutomationSample.inspection _ _ _ htenant
    hproject hcurrent hsecrets).mp haccepted
  rw [exists_place_singleton_iff, rejections_eq_nil_iff] at hplace
  have hrefused : (redelivered quota).request.quotaAvailable ≠ true := by decide
  exact hrefused hplace.1

end Clusterflux
