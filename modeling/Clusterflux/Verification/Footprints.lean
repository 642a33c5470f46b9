import Clusterflux.Coordinator.Processes
import Clusterflux.Coordinator.Projects

/-!
# Footprints of handlers

The state of the service falls into parts.  The footprint of a handler is a set
of parts outside of which it changes nothing, whether it returns or fails.  A
result about one part then follows for every handler whose footprint leaves the
part out.
-/

namespace Clusterflux

open StatefulProgram

inductive Part where
  | projects
  | nodeIdentities
  | quotaOverrides
  | runs
  /-- Accepted triggers and the indices that lead from them to runs. -/
  | triggers
  | assignments
  /-- Permissions, agent keys, credentials, sessions, policies, secrets. -/
  | records
  | activeProcesses
  | nodes
  | processes
  | tasks
  | logs
  | debug
  | mains
  | replay
  | artifacts
  | transfers
  | meters
  /-- What only the operator of the coordinator sets. -/
  | settings
  deriving DecidableEq

/-- What a part of the service holds. -/
def Part.Contents : Part → Type
  | .projects => OrderedMap ProjectId ProjectRecord
  | .nodeIdentities => OrderedMap NodeScopeKey NodeIdentityRecord
  | .quotaOverrides => OrderedMap TenantId TenantQuotaOverrideValues
  | .runs => OrderedMap RunId AutomatedRunStageRecord
  | .triggers =>
    OrderedMap TriggerId AcceptedCommitTriggerRecord × OrderedMap (String × String) TriggerId ×
      OrderedMap Digest RunId
  | .assignments => OrderedMap String ActiveAssignmentRecord × List TerminalAssignmentRecord
  | .records =>
    OrderedMap (TenantId × String) Digest × OrderedMap (TenantId × ProjectId × UserId) Bool ×
      OrderedMap (TenantId × ProjectId × AgentId) AgentPublicKeyRecord ×
      OrderedMap String CredentialRecord × OrderedMap Digest CliSessionRecord ×
      OrderedMap (TenantId × ProjectId) NodeId
  | .activeProcesses => OrderedMap ProcessControlKey ActiveProcess
  | .nodes => NodeRegistry
  | .processes => ProcessRegistry
  | .tasks => TaskRegistry
  | .logs => RecentLogStore
  | .debug => DebugRegistry
  | .mains => CoordinatorMainRuntime
  | .replay => ReplayRegistry
  | .artifacts => ArtifactRegistry
  | .transfers => InterchangeRegistry
  | .meters => OrderedMap MeterKey ℕ
  | .settings =>
    ℕ × ℕ × ℕ × ℕ × CoordinatorArtifactInterchangeConfiguration ×
      CoordinatorQuotaConfiguration × CoordinatorAdmission × Bool × Option Digest

def Part.view : (part : Part) → CoordinatorService → part.Contents
  | .projects, service => service.durable.projects
  | .nodeIdentities, service => service.durable.nodeIdentities
  | .quotaOverrides, service => service.durable.tenantQuotaOverrides
  | .runs, service => service.durable.automatedRuns
  | .triggers, service =>
    (service.durable.acceptedCommitTriggers, service.durable.triggerDeliveries,
      service.durable.automatedRunKeys)
  | .assignments, service =>
    (service.durable.activeAssignments, service.durable.terminalAssignmentHistory)
  | .records, service =>
    (service.durable.servicePolicyRecords, service.durable.projectPermissions,
      service.durable.agentPublicKeys, service.durable.credentials,
      service.durable.cliSessions, service.durable.trustedSecretNodes)
  | .activeProcesses, service => service.coordinator.activeProcesses
  | .nodes, service => service.nodeRegistry
  | .processes, service => service.processRegistry
  | .tasks, service => service.taskRegistry
  | .logs, service => service.recentLogStore
  | .debug, service => service.debugRegistry
  | .mains, service => service.mainRuntime
  | .replay, service => service.replayRegistry
  | .artifacts, service => service.artifactRegistry
  | .transfers, service => service.interchangeRegistry
  | .meters, service => service.quota.meters
  | .settings, service =>
    (service.coordinator.coordinatorEpoch, service.nodeStaleAfterSeconds,
      service.debugFreezeTimeout, service.debugEpochLeaseTimeout,
      service.artifactInterchangeConfiguration, service.quota.configuration,
      service.admission, service.secretCipher, service.adminTokenDigest)

/-- The parts that a change of the service leaves alone. -/
def Untouched (parts : Finset Part) (before after : CoordinatorService) : Prop :=
  ∀ part ∉ parts, part.view after = part.view before

/-- Only the given parts differ. -/
def Touches (parts : Finset Part) (before after : Machine) : Prop :=
  Untouched parts before.service after.service

instance touches_isPreorder (parts : Finset Part) : IsPreorder Machine (Touches parts) where
  refl _ _ _ := rfl
  trans _ _ _ hfirst hsecond part hpart := (hsecond part hpart).trans (hfirst part hpart)

/-! ## Steps that touch nothing -/

theorem service_apply (machine : Machine) :
    Handler.service machine = .ok machine.service machine := rfl

/-- To know what a handler does after reading the service it is enough to know it
for the service it is in. -/
theorem moves_bind_service {α : Type} {relation : Machine → Machine → Prop}
    {next : CoordinatorService → Handler α}
    (hnext : ∀ machine : Machine, relation machine (finalState (next machine.service machine))) :
    Moves relation (Handler.service >>= next) :=
  hnext

section Guards

@[instance]
theorem service_guards : Guards Handler.service :=
  Guards.bind Guards.get fun _ => Guards.pure _

@[instance]
theorem newId_guards (kind : IdKind) (value : String) : Guards (Handler.newId kind value) :=
  Guards.liftExcept _ _

theorem newId_eq_ok {kind : IdKind} {value : String} {machine final : Machine} {id : Id kind}
    (hrun : Handler.newId kind value machine = .ok id final) : id.value = value :=
  Id.tryNew_eq_ok_iff.mp (liftExcept_eq_ok_iff.mp hrun).1

@[instance]
theorem newNodeScope_guards (fields : NodeFields) : Guards (Handler.newNodeScope fields) :=
  Guards.bind (newId_guards _ _) fun _ => Guards.bind (newId_guards _ _) fun _ =>
    Guards.bind (newId_guards _ _) fun _ => Guards.pure _

@[instance]
theorem newRevocation_guards (fields : NodeFields) (actorUser : String) :
    Guards (newRevocation fields actorUser) :=
  Guards.bind (newId_guards _ _) fun _ => Guards.bind (newId_guards _ _) fun _ =>
    Guards.bind (newId_guards _ _) fun _ => Guards.bind (newId_guards _ _) fun _ => Guards.pure _

/-- The scope that the fields of a request name. -/
def NodeFields.Names (fields : NodeFields) (scope : NodeScopeKey) : Prop :=
  scope.tenant.value = fields.tenant ∧ scope.project.value = fields.project ∧
    scope.node.value = fields.node

theorem newNodeScope_eq_ok {fields : NodeFields} {scope : NodeScopeKey} {machine final : Machine}
    (hrun : Handler.newNodeScope fields machine = .ok scope final) : fields.Names scope := by
  simp only [Handler.newNodeScope, bind_eq_ok_iff] at hrun
  obtain ⟨tenant, _, htenant, project, _, hproject, node, _, hnode, hscope⟩ := hrun
  cases hscope
  exact ⟨newId_eq_ok htenant, newId_eq_ok hproject, newId_eq_ok hnode⟩

theorem newRevocation_eq_ok {fields : NodeFields} {actorUser : String} {scope : NodeScopeKey}
    {actor : UserId} {machine final : Machine}
    (hrun : newRevocation fields actorUser machine = .ok (scope, actor) final) :
    fields.Names scope := by
  simp only [newRevocation, bind_eq_ok_iff] at hrun
  obtain ⟨tenant, _, htenant, project, _, hproject, _, _, _, node, _, hnode, hpair⟩ := hrun
  cases hpair
  exact ⟨newId_eq_ok htenant, newId_eq_ok hproject, newId_eq_ok hnode⟩

@[instance]
theorem newProcessKey_guards (tenant project process : String) :
    Guards (Handler.newProcessKey tenant project process) :=
  Guards.bind (newId_guards _ _) fun _ => Guards.bind (newId_guards _ _) fun _ =>
    Guards.bind (newId_guards _ _) fun _ => Guards.pure _

@[instance]
theorem ensureTenantActive_guards (tenant : TenantId) : Guards (ensureTenantActive tenant) :=
  Guards.bind service_guards fun _ => Guards.liftExcept _ _

@[instance]
theorem ensureProjectOwner_guards (tenant : TenantId) (project : ProjectId) (message : String) :
    Guards (ensureProjectOwner tenant project message) :=
  Guards.bind service_guards fun _ => Guards.ensure _ _

@[instance]
theorem ensureProjectAdmission_guards (tenant : TenantId) :
    Guards (ensureProjectAdmission tenant) :=
  Guards.bind service_guards fun _ => Guards.ensure _ _

@[instance]
theorem ensureNodeAdmission_guards (scope : NodeScopeKey) : Guards (ensureNodeAdmission scope) :=
  Guards.bind service_guards fun _ => Guards.ensure _ _

@[instance]
theorem ensureProcessAdmission_guards (tenant : TenantId) :
    Guards (ensureProcessAdmission tenant) :=
  Guards.bind service_guards fun _ => Guards.ensure _ _

@[instance]
theorem newLaunchAttempt_guards (launchAttempt : Option String) :
    Guards (newLaunchAttempt launchAttempt) := by
  cases launchAttempt with
  | none => exact Guards.pure _
  | some launchAttempt =>
    have hread := newId_guards .launchAttempt launchAttempt
    exact Guards.bind hread fun _ => Guards.pure _

end Guards

namespace Touches

variable {parts : Finset Part}

theorem observe {α : Type} (answer : Environment → α) (advance : Environment → Environment) :
    Moves (Touches parts) (Handler.observe answer advance) := fun _ _ _ => rfl

theorem readClock : Moves (Touches parts) Handler.readClock := observe _ _

theorem currentEpochSeconds : Moves (Touches parts) Handler.currentEpochSeconds :=
  Moves.bind readClock fun _ => Moves.orFail _ _

theorem livenessNowEpochSeconds : Moves (Touches parts) Handler.livenessNowEpochSeconds :=
  Moves.bind readClock fun _ => Moves.pure _

theorem generateOpaqueToken (label : String) :
    Moves (Touches parts) (Handler.generateOpaqueToken label) :=
  Moves.bind (observe _ _) fun _ => Moves.after fun _ => Moves.pure _

theorem persistDurableState : Moves (Touches parts) Handler.persistDurableState :=
  Moves.bind (observe _ _) fun _ => Moves.ensure _ _

theorem persistIgnoringFailure : Moves (Touches parts) Handler.persistIgnoringFailure :=
  Moves.bind (observe _ _) fun _ => Moves.pure _

theorem boundedTtl (requested maximum : ℕ) :
    Moves (Touches parts) (Handler.boundedTtl requested maximum) :=
  Moves.after fun _ => Moves.pure _

/-! ## Steps that write one part -/

theorem modifyService {change : CoordinatorService → CoordinatorService}
    (hchange : ∀ service, Untouched parts service (change service)) :
    Moves (Touches parts) (Handler.modifyService change) :=
  fun machine => hchange machine.service

theorem modifyNodes {change : NodeRegistry → NodeRegistry} (hpart : .nodes ∈ parts) :
    Moves (Touches parts) (Handler.modifyNodes change) := by
  refine modifyService fun service part hother => ?_
  cases part <;> first | rfl | exact absurd hpart hother

theorem modifyProcesses {change : ProcessRegistry → ProcessRegistry}
    (hpart : .processes ∈ parts) :
    Moves (Touches parts) (Handler.modifyProcesses change) := by
  refine modifyService fun service part hother => ?_
  cases part <;> first | rfl | exact absurd hpart hother

theorem modifyTasks {change : TaskRegistry → TaskRegistry} (hpart : .tasks ∈ parts) :
    Moves (Touches parts) (Handler.modifyTasks change) := by
  refine modifyService fun service part hother => ?_
  cases part <;> first | rfl | exact absurd hpart hother

theorem modifyLogs {change : RecentLogStore → RecentLogStore} (hpart : .logs ∈ parts) :
    Moves (Touches parts) (Handler.modifyLogs change) := by
  refine modifyService fun service part hother => ?_
  cases part <;> first | rfl | exact absurd hpart hother

theorem modifyDebug {change : DebugRegistry → DebugRegistry} (hpart : .debug ∈ parts) :
    Moves (Touches parts) (Handler.modifyDebug change) := by
  refine modifyService fun service part hother => ?_
  cases part <;> first | rfl | exact absurd hpart hother

theorem modifyMain {change : CoordinatorMainRuntime → CoordinatorMainRuntime}
    (hpart : .mains ∈ parts) : Moves (Touches parts) (Handler.modifyMain change) := by
  refine modifyService fun service part hother => ?_
  cases part <;> first | rfl | exact absurd hpart hother

theorem modifyReplay {change : ReplayRegistry → ReplayRegistry}
    (hpart : .replay ∈ parts) :
    Moves (Touches parts) (Handler.modifyReplay change) := by
  refine modifyService fun service part hother => ?_
  cases part <;> first | rfl | exact absurd hpart hother

theorem modifyArtifacts {change : ArtifactRegistry → ArtifactRegistry}
    (hpart : .artifacts ∈ parts) :
    Moves (Touches parts) (Handler.modifyArtifacts change) := by
  refine modifyService fun service part hother => ?_
  cases part <;> first | rfl | exact absurd hpart hother

theorem modifyInterchange {change : InterchangeRegistry → InterchangeRegistry}
    (hpart : .transfers ∈ parts) :
    Moves (Touches parts) (Handler.modifyInterchange change) := by
  refine modifyService fun service part hother => ?_
  cases part <;> first | rfl | exact absurd hpart hother

theorem modifyQuota {change : CoordinatorQuota → CoordinatorQuota} (hpart : .meters ∈ parts)
    (machine : Machine) (hconfiguration :
      (change machine.service.quota).configuration = machine.service.quota.configuration) :
    Touches parts machine (finalState (Handler.modifyQuota change machine)) := by
  intro part hother
  cases part
  case meters => exact absurd hpart hother
  case settings =>
    change (_, _, _, _, _, (change machine.service.quota).configuration, _, _, _) = _
    rw [hconfiguration]
    rfl
  all_goals rfl

end Touches

/-! ## Charges -/

theorem CoordinatorQuota.configuration_charge (quota : CoordinatorQuota) (tenant : TenantId)
    (project : ProjectId) (kind : LimitKind) (amount now : ℕ) :
    (quota.charge tenant project kind amount now).2.configuration = quota.configuration := by
  unfold CoordinatorQuota.charge
  dsimp only
  split <;> rfl

theorem chargeWorkflowSpawn_touches {parts : Finset Part} (hpart : .meters ∈ parts)
    (tenant : TenantId) (project : ProjectId) (now : ℕ) :
    Moves (Touches parts) (chargeWorkflowSpawn tenant project now) := by
  refine moves_bind_service fun machine => ?_
  refine bind_related (Touches.modifyQuota hpart machine
    (CoordinatorQuota.configuration_charge _ _ _ _ _ _)) fun _ middle _ => ?_
  exact Moves.bind (Moves.liftExcept _ _) (fun _ => Moves.pure _) middle

theorem authenticatedUser_guards (operation : String) (actor : Actor) :
    Guards (authenticatedUser operation actor) := by
  cases actor <;> exact ⟨fun _ => rfl⟩

theorem authenticateRequest_touches [Primitives] {parts : Finset Part} (hpart : .meters ∈ parts)
    (sessionSecret operation : String) :
    Moves (Touches parts) (authenticateRequest sessionSecret operation) := by
  refine Moves.bind Touches.livenessNowEpochSeconds fun _ => ?_
  refine Moves.after fun _ => ?_
  refine Moves.after fun context => ?_
  refine Moves.bind (authenticatedUser_guards _ _).moves fun actor => ?_
  refine Moves.bind Touches.currentEpochSeconds fun now => moves_bind_service fun machine => ?_
  refine bind_related (Touches.modifyQuota hpart machine
    (CoordinatorQuota.configuration_charge _ _ _ _ _ _)) fun _ middle _ => ?_
  exact Moves.bind (Moves.liftExcept _ _) (fun _ => Moves.pure _) middle

/-! ## Steps of several requests -/

section Steps

variable {parts : Finset Part}

theorem admitNonce_touches (hpart : .replay ∈ parts)
    (check : ReplayRegistry → Except ReplayAdmissionError Unit × ReplayRegistry)
    (failure : Failure) : Moves (Touches parts) (admitNonce check failure) :=
  Moves.after fun _ => Moves.bind (Touches.modifyReplay hpart) fun _ =>
    Moves.ensure _ _

theorem workflowActor_touches [Primitives] (hpart : .replay ∈ parts) (tenant : TenantId)
    (project : ProjectId) (fields : WorkflowActorFields) (requestKind : String)
    (process : ProcessId) (task : Option TaskInstanceId) :
    Moves (Touches parts) (workflowActor tenant project fields requestKind process task) := by
  unfold workflowActor
  split
  · refine Moves.after fun _ => ?_
    refine Moves.after fun _ => Moves.after fun _ => ?_
    refine Moves.after fun _ => ?_
    refine Moves.bind Touches.livenessNowEpochSeconds fun _ => ?_
    refine Moves.bind (admitNonce_touches hpart _ _) fun _ => ?_
    refine Moves.after fun _ => ?_
    refine Moves.after fun _ => ?_
    refine Moves.after fun _ => ?_
    exact Moves.bind (admitNonce_touches hpart _ _) fun _ => Moves.pure _
  · exact Moves.after fun _ => Moves.pure _

theorem grantProjectDebug_touches (hpart : .records ∈ parts) (tenant : TenantId)
    (project : ProjectId) (user : UserId) :
    Moves (Touches parts)
      (Handler.modifyCoordinator (·.grantProjectDebug tenant project user)) := by
  refine Touches.modifyService fun service part hother => ?_
  cases part <;> first | rfl | exact absurd hpart hother

theorem enrollNode_touches (hpart : .nodeIdentities ∈ parts) (scope : NodeScopeKey)
    (publicKey enrollmentScope : String) :
    Moves (Touches parts)
      (Handler.modifyCoordinator (·.enrollNode scope publicKey enrollmentScope)) := by
  refine Touches.modifyService fun service part hother => ?_
  cases part <;> first | rfl | exact absurd hpart hother

/-- What a request makes of the coordinator after it has read the service. -/
theorem replaceCoordinator_touches {machine : Machine} {coordinator : Coordinator}
    (hcoordinator : Untouched parts machine.service
      { machine.service with coordinator := coordinator }) :
    Touches parts machine (finalState (Handler.modifyCoordinator (fun _ => coordinator) machine)) :=
  hcoordinator

theorem recordProcessStarted_touches (hlogs : .logs ∈ parts) (hprocesses : .processes ∈ parts)
    (key : ProcessControlKey) (now : ℕ) :
    Moves (Touches parts) (recordProcessStarted key now) := by
  refine Moves.bind (Touches.modifyLogs hlogs) fun _ => ?_
  refine Moves.after fun _ => ?_
  exact Moves.bind (Touches.modifyProcesses hprocesses) fun _ => Touches.modifyLogs hlogs

theorem modifyRun_touches (hpart : .runs ∈ parts) (runId : RunId)
    (change : AutomatedRunStageRecord → AutomatedRunStageRecord) :
    Moves (Touches parts) (Handler.modifyDurable (·.modifyRun runId change)) := by
  unfold Handler.modifyDurable Handler.modifyCoordinator
  refine Touches.modifyService fun service part hother => ?_
  cases part <;> first | rfl | exact absurd hpart hother

theorem recordAutomatedProcessTerminal_touches (hpart : .runs ∈ parts)
    (key : ProcessControlKey) (result : ProcessFinalResult) (now : ℕ) :
    Moves (Touches parts) (recordAutomatedProcessTerminal key result now) := by
  refine Moves.after fun service => ?_
  split
  · exact Moves.pure _
  · exact Moves.bind (modifyRun_touches hpart _ _) fun _ => Touches.persistIgnoringFailure

theorem recordProcessTerminal_touches (hruns : .runs ∈ parts) (hprocesses : .processes ∈ parts)
    (hartifacts : .artifacts ∈ parts) (key : ProcessControlKey) (result : ProcessFinalResult)
    (now : ℕ) : Moves (Touches parts) (recordProcessTerminal key result now) := by
  refine Moves.after fun _ => ?_
  refine Moves.bind (Touches.modifyProcesses hprocesses) fun _ => ?_
  refine Moves.bind (Touches.modifyArtifacts hartifacts) fun _ => ?_
  exact recordAutomatedProcessTerminal_touches hruns _ _ _

theorem cancelArtifactInterchanges_touches (hartifacts : .artifacts ∈ parts)
    (htransfers : .transfers ∈ parts) (key : ProcessControlKey) (now : ℕ) :
    Moves (Touches parts) (Handler.modifyService (·.cancelArtifactInterchanges key now)) := by
  refine Touches.modifyService fun service part hother => ?_
  cases part <;> first | rfl | exact absurd hartifacts hother | exact absurd htransfers hother

end Steps

/-! ## Stopping a process -/

theorem Touches.weaken {parts larger : Finset Part} (hparts : parts ⊆ larger) {α : Type}
    {program : Handler α} (hprogram : Moves (Touches parts) program) :
    Moves (Touches larger) program :=
  hprogram.mono fun _ _ htouches part hpart => htouches part fun hmem => hpart (hparts hmem)

/-- A relation that the steps respect with which a process is stopped: what they
change on the way, the record of its end, and the removal of its entry. -/
structure AllowsStop (relation : Machine → Machine → Prop) (key : ProcessControlKey) : Prop where
  quiet : ∀ {α : Type} {program : Handler α},
    Moves (Touches {.processes, .tasks, .debug, .mains, .artifacts, .transfers}) program →
      Moves relation program
  terminal : ∀ now, Moves relation (recordProcessTerminal key .cancelled now)
  abort : Moves relation (abortActiveProcess key)

section Stops

variable {relation : Machine → Machine → Prop} [IsPreorder Machine relation]
  {tenant project process : String}

theorem AllowsStop.cancel (hstop : ∀ {machine : Machine} {key : ProcessControlKey},
      Handler.newProcessKey tenant project process machine = .ok key machine →
        AllowsStop relation key) :
    Moves relation (handleCancelProcess tenant project process) := by
  intro machine
  refine finalState_after (refl_of _ machine) fun key hkey => ?_
  obtain ⟨hquiet, hterminal, habort⟩ := hstop hkey
  refine (?_ : Moves relation _) machine
  refine Moves.after fun _ => Moves.after fun _ => ?_
  refine Moves.bind (hquiet (Touches.modifyProcesses (by decide))) fun _ => ?_
  refine Moves.bind (hquiet Touches.currentEpochSeconds) fun now => ?_
  refine Moves.bind (hquiet (cancelArtifactInterchanges_touches (by decide) (by decide) _ _))
    fun _ => ?_
  refine Moves.bind (hquiet (Touches.modifyMain (by decide))) fun _ => ?_
  refine Moves.bind (hquiet (Touches.modifyDebug (by decide))) fun _ => ?_
  refine Moves.bind (hquiet (Touches.modifyTasks (by decide))) fun _ => ?_
  refine Moves.after fun _ => ?_
  refine Moves.bind (hquiet (Touches.modifyTasks (by decide))) fun _ => ?_
  refine Moves.bind (Moves.runIf ?_) fun _ => Moves.pure _
  exact Moves.bind (hterminal _) fun _ => habort

theorem AllowsStop.abortProcess (hstop : ∀ {machine : Machine} {key : ProcessControlKey},
      Handler.newProcessKey tenant project process machine = .ok key machine →
        AllowsStop relation key) (launchAttempt : Option String) :
    Moves relation (handleAbortProcess tenant project process launchAttempt) := by
  intro machine
  refine finalState_after (refl_of _ machine) fun key hkey => ?_
  obtain ⟨hquiet, hterminal, habort⟩ := hstop hkey
  refine (?_ : Moves relation _) machine
  refine Moves.after fun _ => Moves.after fun _ => ?_
  refine Moves.after fun attempt => Moves.after fun _ => ?_
  refine Moves.bind (hquiet Touches.currentEpochSeconds) fun now => ?_
  refine Moves.bind (hquiet (cancelArtifactInterchanges_touches (by decide) (by decide) _ _))
    fun _ => ?_
  refine Moves.bind (hquiet (Touches.modifyProcesses (by decide))) fun _ => ?_
  refine Moves.bind (hquiet (Touches.modifyTasks (by decide))) fun _ => ?_
  refine Moves.bind (hquiet (Touches.modifyMain (by decide))) fun _ => ?_
  refine Moves.bind (hquiet (Touches.modifyDebug (by decide))) fun _ => ?_
  refine Moves.bind (hquiet (Touches.modifyTasks (by decide))) fun _ => ?_
  refine Moves.after fun _ => ?_
  refine Moves.bind (hquiet (Touches.modifyTasks (by decide))) fun _ => ?_
  refine Moves.bind (hterminal _) fun _ => ?_
  refine Moves.bind (Moves.ite ?_ habort) fun _ => ?_
  · exact Moves.after fun _ => Moves.after fun _ => Moves.after fun _ => habort
  refine Moves.bind (hquiet (Touches.modifyTasks (by decide))) fun _ => ?_
  exact Moves.bind (Moves.runIf (hquiet (Touches.modifyProcesses (by decide))))
    fun _ => Moves.pure _

end Stops

/-! ## A world to run handlers in -/

theorem steady_bounded {seconds : ℕ} (hseconds : seconds ≤ u64Max) (_ reading : ℕ)
    (hreading : some seconds = some reading) : reading ≤ u64Max :=
  Option.some.inj hreading ▸ hseconds

theorem hundred_le : 100 ≤ u64Max := by decide

/-- The clock stands still, the random source repeats itself, and the store
accepts every write. -/
def steadyEnvironment (seconds : ℕ) (hseconds : seconds ≤ u64Max) : Environment where
  clock _ := some seconds
  clock_bounded := steady_bounded hseconds
  tokens _ := some "AAAAAAAAAAAAAAAAAAAAAAAAAAAAAAAAAAAAAAAAAAA"
  tokens_size := by
    rintro _ token ⟨rfl⟩
    decide +kernel
  storeAccepts _ := true
  instants _ := 0
  transferSecrets _ := .ok []
  mainDebug _ := {}

end Clusterflux
