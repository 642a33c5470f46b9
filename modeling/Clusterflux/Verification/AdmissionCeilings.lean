import Clusterflux.Foundation.OwnedTables
import Clusterflux.Verification.ProjectOwnership

/-!
# Admission ceilings

A tenant may have so many projects, node identities and active processes.  The
ceilings of node identities and active processes are checked wherever one is
entered.  The ceiling of projects is checked by the requests that create a
project, and by no other of the requests that enter one.
-/

namespace Clusterflux

open StatefulProgram OwnedTables LabelledRuns

/-! ## The tables and their keys -/

def NodeIdentityRecord.scope (identity : NodeIdentityRecord) : NodeScopeKey :=
  ⟨identity.tenant, identity.project, identity.id⟩

def ActiveProcess.key (active : ActiveProcess) : ProcessControlKey :=
  ⟨active.tenant, active.project, active.id⟩

def EnrollmentGrant.key (grant : EnrollmentGrant) : EnrollmentGrantKey :=
  (grant.tenant, grant.project, grant.grantId)

namespace Machine

abbrev identities (machine : Machine) : OrderedMap NodeScopeKey NodeIdentityRecord :=
  machine.service.durable.nodeIdentities

abbrev processes (machine : Machine) : OrderedMap ProcessControlKey ActiveProcess :=
  machine.service.coordinator.activeProcesses

abbrev grants (machine : Machine) : OrderedMap EnrollmentGrantKey EnrollmentGrant :=
  machine.service.nodeRegistry.enrollmentGrants

def nodeCount (machine : Machine) (tenant : TenantId) : ℕ :=
  machine.service.coordinator.nodeIdentityCountForTenant tenant

def processCount (machine : Machine) (tenant : TenantId) : ℕ :=
  machine.service.coordinator.activeProcessCountForTenant tenant

/-- Identities, processes and grants stand under the keys they name. -/
structure WellFiled (machine : Machine) : Prop where
  identities : Filed NodeIdentityRecord.scope machine.identities
  processes : Filed ActiveProcess.key machine.processes
  grants : Filed EnrollmentGrant.key machine.grants

/-- Nothing is enrolled, started or granted.  The limits may be any. -/
structure IsEmpty (machine : Machine) : Prop where
  projects : machine.projects = ∅
  identities : machine.identities = ∅
  processes : machine.processes = ∅
  grants : machine.grants = ∅

/-- No project, identity, process or grant is entered, and the limits stay. -/
structure AddsNone (before after : Machine) : Prop where
  limits : after.limits = before.limits
  projects : after.projects = before.projects
  identities : AddsNothing NodeIdentityRecord.scope before.identities after.identities
  processes : AddsNothing ActiveProcess.key before.processes after.processes
  grants : AddsNothing EnrollmentGrant.key before.grants after.grants

/-- No table but that of the projects grows beyond the limits, and that of the
projects changes only if it may. -/
structure AdmitsWithin (mayWrite : Prop) (before after : Machine) : Prop where
  limits : after.limits = before.limits
  filed : before.WellFiled → after.WellFiled
  nodes : before.WellFiled → ∀ tenant,
    after.nodeCount tenant ≤ max (before.nodeCount tenant) (before.limits tenant).maxNodes
  processes : before.WellFiled → ∀ tenant,
    after.processCount tenant ≤
      max (before.processCount tenant) (before.limits tenant).maxActiveProcesses
  projects : mayWrite ∨ after.projects = before.projects

end Machine

instance admitsWithin_isPreorder (mayWrite : Prop) :
    IsPreorder Machine (Machine.AdmitsWithin mayWrite) where
  refl _ := ⟨rfl, id, fun _ _ => le_max_left _ _, fun _ _ => le_max_left _ _, Or.inr rfl⟩
  trans _ _ _ hfirst hsecond :=
    { limits := hsecond.limits.trans hfirst.limits
      filed := fun hfiled => hsecond.filed (hfirst.filed hfiled)
      nodes := by
        intro hfiled tenant
        have hbound := hsecond.nodes (hfirst.filed hfiled) tenant
        rw [hfirst.limits] at hbound
        exact hbound.trans (max_le (hfirst.nodes hfiled tenant) (le_max_right _ _))
      processes := by
        intro hfiled tenant
        have hbound := hsecond.processes (hfirst.filed hfiled) tenant
        rw [hfirst.limits] at hbound
        exact hbound.trans (max_le (hfirst.processes hfiled tenant) (le_max_right _ _))
      projects := by
        rcases hfirst.projects with hmay | hprojects
        · exact Or.inl hmay
        · exact hsecond.projects.imp_right fun hlater => hlater.trans hprojects }

namespace Machine

variable {mayWrite : Prop} {before after : Machine}

theorem processCount_eq_count (machine : Machine) (tenant : TenantId) :
    machine.processCount tenant = count ActiveProcess.tenant machine.processes tenant := by
  rw [processCount, Coordinator.activeProcessCountForTenant, count, List.countP_eq_length_filter]

/-- Tables that gain no entry stay within the limits. -/
theorem AdmitsWithin.of_addsNothing (hlimits : after.limits = before.limits)
    (hidentities : AddsNothing NodeIdentityRecord.scope before.identities after.identities)
    (hprocesses : AddsNothing ActiveProcess.key before.processes after.processes)
    (hgrants : AddsNothing EnrollmentGrant.key before.grants after.grants)
    (hprojects : mayWrite ∨ after.projects = before.projects) :
    before.AdmitsWithin mayWrite after where
  limits := hlimits
  filed hfiled := ⟨hidentities.filed hfiled.identities, hprocesses.filed hfiled.processes,
    hgrants.filed hfiled.grants⟩
  nodes _ tenant :=
    ((hidentities.comp NodeScopeKey.tenant).count_le tenant).trans (le_max_left _ _)
  processes _ tenant := by
    rw [processCount_eq_count, processCount_eq_count]
    exact ((hprocesses.comp ProcessControlKey.tenant).count_le tenant).trans (le_max_left _ _)
  projects := hprojects

/-- The parts that the ceilings are about. -/
def countedParts : Finset Part :=
  {.nodeIdentities, .activeProcesses, .nodes, .quotaOverrides, .settings}

theorem AdmitsWithin.of_touches {parts : Finset Part} (htouches : Touches parts before after)
    (hparts : Disjoint countedParts parts) (hprojects : mayWrite ∨ .projects ∉ parts) :
    before.AdmitsWithin mayWrite after := by
  have hother : ∀ part ∈ countedParts, part ∉ parts := fun part hpart =>
    Finset.disjoint_left.mp hparts hpart
  refine .of_addsNothing ?_ (.of_eq ?_) (.of_eq ?_) (.of_eq ?_) ?_
  · exact limits_of_touches htouches (hother _ (by decide)) (hother _ (by decide))
  · exact htouches .nodeIdentities (hother _ (by decide))
  · exact htouches .activeProcesses (hother _ (by decide))
  · exact congrArg NodeRegistry.enrollmentGrants (htouches .nodes (hother _ (by decide)))
  · exact hprojects.imp_right fun hpart => htouches .projects hpart

/-- Tables that a step leaves alone were well filed before it. -/
theorem WellFiled.of_touches {parts : Finset Part} (hfiled : after.WellFiled)
    (htouches : Touches parts before after) (hparts : Disjoint countedParts parts) :
    before.WellFiled := by
  have hother : ∀ part ∈ countedParts, part ∉ parts := fun part hpart =>
    Finset.disjoint_left.mp hparts hpart
  have hidentities : after.identities = before.identities :=
    htouches .nodeIdentities (hother _ (by decide))
  have hprocesses : after.processes = before.processes :=
    htouches .activeProcesses (hother _ (by decide))
  have hgrants : after.grants = before.grants :=
    congrArg NodeRegistry.enrollmentGrants (htouches .nodes (hother _ (by decide)))
  exact ⟨hidentities ▸ hfiled.identities, hprocesses ▸ hfiled.processes,
    hgrants ▸ hfiled.grants⟩

end Machine

/-! ## Entering a node or a process -/

namespace Machine

variable {mayWrite : Prop} {before after : Machine}

/-- The node is enrolled already, or its tenant has room for it. -/
def AdmitsNode (machine : Machine) (scope : NodeScopeKey) : Prop :=
  machine.identities[scope]?.isSome ∨
    machine.nodeCount scope.tenant < (machine.limits scope.tenant).maxNodes

/-- The process is active already, or its tenant has room for it. -/
def AdmitsProcess (machine : Machine) (key : ProcessControlKey) : Prop :=
  machine.processes[key]?.isSome ∨
    machine.processCount key.tenant < (machine.limits key.tenant).maxActiveProcesses

theorem AdmitsWithin.of_enrollNode {scope : NodeScopeKey} (publicKey enrollmentScope : String)
    (hadmitted : before.WellFiled → before.AdmitsNode scope) (hidentities : after.identities =
      (before.service.coordinator.enrollNode scope publicKey
        enrollmentScope).durable.nodeIdentities)
    (hlimits : after.limits = before.limits) (hprocesses : after.processes = before.processes)
    (hgrants : after.grants = before.grants) (hprojects : after.projects = before.projects) :
    before.AdmitsWithin mayWrite after where
  limits := hlimits
  filed hfiled :=
    { identities := hidentities ▸ hfiled.identities.insert
        ⟨scope.node, scope.tenant, scope.project, publicKey, enrollmentScope, none⟩
      processes := hprocesses ▸ hfiled.processes
      grants := hgrants ▸ hfiled.grants }
  nodes hfiled tenant := by
    have hadmits : Admits NodeIdentityRecord.tenant (fun tenant => (before.limits tenant).maxNodes)
        before.identities scope
        ⟨scope.node, scope.tenant, scope.project, publicKey, enrollmentScope, none⟩ := by
      rcases hadmitted hfiled with henrolled | hroom
      · obtain ⟨found, hfound⟩ := Option.isSome_iff_exists.mp henrolled
        exact Or.inl ⟨found, hfound,
          congrArg NodeScopeKey.tenant (hfiled.identities _ found hfound)⟩
      · exact Or.inr hroom
    have hcount : after.nodeCount tenant = count NodeIdentityRecord.tenant
        (before.service.coordinator.enrollNode scope publicKey
          enrollmentScope).durable.nodeIdentities tenant := by
      rw [← hidentities]
      rfl
    rw [hcount]
    exact hadmits.count_insert_le tenant
  processes _ tenant := by
    rw [processCount_eq_count, processCount_eq_count, hprocesses]
    exact le_max_left _ _
  projects := Or.inr hprojects

theorem AdmitsWithin.of_startProcess {machine : Machine} {key : ProcessControlKey}
    (launchAttempt : Option LaunchAttemptId)
    (hadmitted : machine.WellFiled → machine.AdmitsProcess key) :
    machine.AdmitsWithin mayWrite (finalState (Handler.modifyCoordinator
      (·.startProcessForLaunchAttempt key launchAttempt) machine)) where
  limits := rfl
  filed hfiled := ⟨hfiled.identities, hfiled.processes.insert
    ⟨key.process, launchAttempt, key.tenant, key.project, ∅,
      machine.service.coordinator.coordinatorEpoch⟩, hfiled.grants⟩
  nodes _ _ := le_max_left _ _
  processes hfiled tenant := by
    have hadmits : Admits ActiveProcess.tenant
        (fun tenant => (machine.limits tenant).maxActiveProcesses) machine.processes key
        ⟨key.process, launchAttempt, key.tenant, key.project, ∅,
          machine.service.coordinator.coordinatorEpoch⟩ := by
      rcases hadmitted hfiled with hactive | hroom
      · obtain ⟨found, hfound⟩ := Option.isSome_iff_exists.mp hactive
        exact Or.inl ⟨found, hfound,
          congrArg ProcessControlKey.tenant (hfiled.processes _ found hfound)⟩
      · rw [processCount_eq_count] at hroom
        exact Or.inr hroom
    rw [processCount_eq_count, processCount_eq_count]
    exact hadmits.count_insert_le tenant
  projects := Or.inr rfl

end Machine

/-! ## Steps -/

section Steps

variable {mayWrite : Prop}

/-- The parts that have nothing to do with admission. -/
def quietParts : Finset Part :=
  {.runs, .assignments, .records, .processes, .tasks, .logs, .debug, .mains, .replay, .artifacts,
    .transfers, .meters}

theorem admits_of_quiet {α : Type} {program : Handler α}
    (htouches : Moves (Touches quietParts) program) :
    Moves (Machine.AdmitsWithin mayWrite) program :=
  fun machine => .of_touches (htouches machine) (by decide) (Or.inr (by decide))

theorem quiet_bind {α β : Type} {first : Handler α} {next : α → Handler β}
    (hfirst : Moves (Touches quietParts) first)
    (hnext : ∀ value, Moves (Machine.AdmitsWithin mayWrite) (next value)) :
    Moves (Machine.AdmitsWithin mayWrite) (first >>= next) :=
  Moves.bind (admits_of_quiet hfirst) hnext

theorem upsertProject_admits (tenant : TenantId) (project : ProjectId) (name : String) :
    Moves (Machine.AdmitsWithin True)
      (Handler.modifyCoordinator (·.upsertProject tenant project name)) :=
  fun _ => .of_addsNothing rfl (.refl _ _) (.refl _ _) (.refl _ _) (Or.inl trivial)

theorem modifyNodes_admits {change : NodeRegistry → NodeRegistry}
    (hgrants : ∀ registry, AddsNothing EnrollmentGrant.key registry.enrollmentGrants
      (change registry).enrollmentGrants) :
    Moves (Machine.AdmitsWithin mayWrite) (Handler.modifyNodes change) :=
  fun _ => .of_addsNothing rfl (.refl _ _) (.refl _ _) (hgrants _) (Or.inr rfl)

theorem pruneEnrollmentGrants_admits (now : ℕ) :
    Moves (Machine.AdmitsWithin mayWrite)
      (Handler.modifyNodes (·.pruneEnrollmentGrants now)) :=
  modifyNodes_admits fun _ => .filter _ _ _

theorem insertEnrollmentGrant_admits (grant : EnrollmentGrant) :
    Moves (Machine.AdmitsWithin mayWrite)
      (Handler.modifyNodes (·.insertEnrollmentGrant grant.key grant)) := fun _ =>
  { limits := rfl
    filed := fun hfiled => ⟨hfiled.identities, hfiled.processes, hfiled.grants.insert grant⟩
    nodes := fun _ _ => le_max_left _ _
    processes := fun _ _ => le_max_left _ _
    projects := Or.inr rfl }

theorem ensureNodeAdmission_eq_ok {scope : NodeScopeKey} {machine final : Machine} {value : Unit}
    (hrun : ensureNodeAdmission scope machine = .ok value final) : machine.AdmitsNode scope :=
  (ensure_eq_ok_iff.mp hrun).1

theorem abortActiveProcess_admits (key : ProcessControlKey) :
    Moves (Machine.AdmitsWithin mayWrite) (abortActiveProcess key) := by
  refine moves_bind_service fun machine => ?_
  refine finalState_after (refl_of _ _) fun coordinator hrun => ?_
  have haborted := (liftExcept_eq_ok_iff.mp hrun).1
  rw [Coordinator.abortProcess] at haborted
  split at haborted
  · cases haborted
    exact .of_addsNothing rfl (.refl _ _) (.erase _ _ _) (.refl _ _) (Or.inr rfl)
  · cases haborted

theorem allowsStop_admits (key : ProcessControlKey) :
    AllowsStop (Machine.AdmitsWithin mayWrite) key where
  quiet hprogram := admits_of_quiet (Touches.weaken (by decide) hprogram)
  terminal now := admits_of_quiet
    (recordProcessTerminal_touches (by decide) (by decide) (by decide) key _ now)
  abort := abortActiveProcess_admits key

end Steps

/-! ## Nodes -/

section Nodes

theorem handleAttachNode_admits (fields : NodeFields) (publicKey : String) :
    Moves (Machine.AdmitsWithin True) (handleAttachNode fields publicKey) := by
  refine Moves.after fun scope => ?_
  refine Moves.after fun _ => ?_
  refine Moves.bind (upsertProject_admits _ _ _) fun _ machine => ?_
  refine finalState_after (refl_of _ _) fun _ hadmitted => ?_
  refine bind_related ?_ fun _ middle _ => ?_
  · exact .of_enrollNode publicKey "node:attach"
      (fun _ => ensureNodeAdmission_eq_ok hadmitted) rfl rfl rfl rfl rfl
  · exact quiet_bind Touches.persistDurableState (fun _ => Moves.pure _) middle

theorem handleCreateNodeEnrollmentGrant_admits (tenant project actorUser : String)
    (ttlSeconds : ℕ) :
    Moves (Machine.AdmitsWithin True)
      (handleCreateNodeEnrollmentGrant tenant project actorUser ttlSeconds) := by
  refine Moves.after fun tenantId => ?_
  refine Moves.after fun projectId => ?_
  refine Moves.after fun _ => ?_
  refine Moves.after fun _ => ?_
  refine Moves.bind (upsertProject_admits _ _ _) fun _ => ?_
  refine quiet_bind Touches.currentEpochSeconds fun now => ?_
  refine Moves.bind (pruneEnrollmentGrants_admits _) fun _ => ?_
  refine Moves.after fun _ => Moves.after fun _ => ?_
  refine quiet_bind (Touches.generateOpaqueToken _) fun grant => ?_
  refine Moves.after fun _ => ?_
  refine quiet_bind (Touches.boundedTtl _ _) fun ttl => ?_
  refine Moves.bind (insertEnrollmentGrant_admits
    ⟨tenantId, projectId, grant, "node:attach", saturatingAdd now ttl, false⟩) fun _ => ?_
  exact quiet_bind Touches.persistDurableState fun _ => Moves.pure _

theorem exchangeNodeEnrollmentGrant_eq_ok [Primitives] {coordinator : Coordinator}
    {grant : EnrollmentGrant} {node : NodeId} {publicKey requestedScope : String} {now : ℕ}
    {result : NodeCredential × Coordinator}
    (hexchanged : coordinator.exchangeNodeEnrollmentGrant grant node publicKey requestedScope
      now = .ok result) :
    ∃ enrollmentScope record, result.2 =
      (coordinator.enrollNode ⟨grant.tenant, grant.project, node⟩ publicKey
        enrollmentScope).insertCredential record := by
  unfold Coordinator.exchangeNodeEnrollmentGrant EnrollmentGrant.exchangeForNodeIdentity
    at hexchanged
  split_ifs at hexchanged
  cases hexchanged
  exact ⟨_, _, rfl⟩

/-- The grant is filed under the tenant and the project of the request, so the
node that is enrolled is the one that was admitted. -/
theorem handleExchangeNodeEnrollmentGrant_admits [Primitives] (fields : NodeFields)
    (publicKey enrollmentGrant : String) :
    Moves (Machine.AdmitsWithin False)
      (handleExchangeNodeEnrollmentGrant fields publicKey enrollmentGrant) := by
  refine Moves.after fun scope => ?_
  refine quiet_bind Touches.currentEpochSeconds fun now => ?_
  refine Moves.bind (pruneEnrollmentGrants_admits _) fun _ => ?_
  refine Moves.after fun _ machine => ?_
  refine finalState_after (refl_of _ _) fun _ hadmitted => ?_
  rw [bind_of_ok (service_apply machine)]
  refine finalState_after (refl_of _ _) fun grant hgrant => ?_
  refine finalState_after (refl_of _ _)
    fun ⟨credential, coordinator⟩ hexchanged => ?_
  refine bind_related ?_ fun _ middle _ => ?_
  · obtain ⟨enrollmentScope, record, rfl⟩ :=
      exchangeNodeEnrollmentGrant_eq_ok (liftExcept_eq_ok_iff.mp hexchanged).1
    refine .of_enrollNode publicKey enrollmentScope (fun hfiled => ?_) rfl rfl rfl rfl rfl
    have hkey := hfiled.grants _ grant (orFail_eq_ok_iff.mp hgrant).1
    obtain ⟨htenant, hproject, -⟩ : grant.tenant = scope.tenant ∧ grant.project = scope.project ∧
        grant.grantId = enrollmentGrant := by
      simpa [EnrollmentGrant.key] using hkey
    rw [htenant, hproject]
    exact ensureNodeAdmission_eq_ok hadmitted
  · refine Moves.bind (modifyNodes_admits fun _ => .erase _ _ _) (fun _ => ?_) middle
    exact quiet_bind Touches.persistDurableState fun _ => Moves.pure _

theorem NodeRegistry.enrollmentGrants_removeNode (registry : NodeRegistry)
    (scope : NodeScopeKey) :
    (registry.removeNode scope).enrollmentGrants = registry.enrollmentGrants := by
  unfold NodeRegistry.removeNode NodeRegistry.removeEndpoint
  split <;> rfl

theorem handleRevokeNodeCredential_admits (fields : NodeFields) (actorUser : String) :
    Moves (Machine.AdmitsWithin False) (handleRevokeNodeCredential fields actorUser) := by
  refine Moves.after fun ⟨scope, actor⟩ => ?_
  refine moves_bind_service fun machine => ?_
  refine finalState_after (refl_of _ _) fun coordinator hrun => ?_
  have hrevoked := (liftExcept_eq_ok_iff.mp hrun).1
  refine bind_related ?_ fun _ middle _ => ?_
  · simp only [Coordinator.revokeNodeCredential] at hrevoked
    split at hrevoked
    · cases hrevoked
    · cases hrevoked
      refine .of_addsNothing rfl (.erase _ _ _) (.map fun _ active => ?_) (.refl _ _) (Or.inr rfl)
      split <;> rfl
  · have hgrants : ∀ registry : NodeRegistry, AddsNothing EnrollmentGrant.key
        registry.enrollmentGrants (registry.removeNode scope).enrollmentGrants :=
      fun registry => .of_eq (registry.enrollmentGrants_removeNode scope)
    refine Moves.bind (modifyNodes_admits hgrants) (fun _ => ?_) middle
    refine quiet_bind Touches.currentEpochSeconds fun _ => ?_
    refine quiet_bind (Touches.modifyInterchange (by decide)) fun _ => ?_
    refine quiet_bind (Touches.modifyReplay (by decide)) fun _ => ?_
    refine quiet_bind (Touches.modifyArtifacts (by decide)) fun _ => ?_
    refine quiet_bind (Touches.modifyTasks (by decide)) fun _ => ?_
    exact quiet_bind Touches.persistDurableState fun _ => Moves.pure _

end Nodes

/-! ## Processes -/

section Processes

theorem activeProcessForProject_eq_some {machine : Machine} (hfiled : machine.WellFiled)
    {tenant : TenantId} {project : ProjectId} {active : ActiveProcess}
    (hfound : machine.service.coordinator.activeProcessForProject tenant project = some active) :
    machine.processes[(⟨tenant, project, active.id⟩ : ProcessControlKey)]? = some active := by
  have hmem := List.mem_of_find?_eq_some hfound
  have hscope : active.tenant = tenant ∧ active.project = project := by
    simpa using List.find?_some hfound
  obtain ⟨key, hkey⟩ := (OrderedMaps.mem_values_iff _ _).mp hmem
  have hnamed : (⟨tenant, project, active.id⟩ : ProcessControlKey) = key := by
    rw [← hscope.1, ← hscope.2]
    exact hfiled.processes key active hkey
  rwa [hnamed]

/-- A process that may be started is active already or fits the limit. -/
theorem admitsProcess_of_guards {machine : Machine} {key : ProcessControlKey} {restart : Bool}
    (hsame : (machine.service.coordinator.activeProcessForProject key.tenant key.project).all
      fun active => active.id = key.process ∧ restart)
    {value : Unit} {final : Machine} (hadmitted : runIf
      (machine.service.coordinator.activeProcessForProject key.tenant key.project).isNone
      (ensureProcessAdmission key.tenant) machine = .ok value final)
    (hfiled : machine.WellFiled) : machine.AdmitsProcess key := by
  rw [runIf_eq_ok_iff] at hadmitted
  cases hexisting :
      machine.service.coordinator.activeProcessForProject key.tenant key.project with
  | none =>
    have hensured : ensureProcessAdmission key.tenant machine = .ok value final := by
      simpa [hexisting] using hadmitted
    exact Or.inr (ensure_eq_ok_iff.mp hensured).1
  | some active =>
    rw [hexisting] at hsame
    obtain ⟨hid, -⟩ : active.id = key.process ∧ restart = true := by simpa using hsame
    have hactive := activeProcessForProject_eq_some hfiled hexisting
    rw [hid] at hactive
    exact Or.inl (Option.isSome_of_eq_some hactive)

theorem admitsProcess_of_touches {parts : Finset Part} {before after : Machine}
    {key : ProcessControlKey} (htouches : Touches parts before after)
    (hparts : Disjoint Machine.countedParts parts) (hadmitted : before.AdmitsProcess key) :
    after.AdmitsProcess key := by
  have hother : ∀ part ∈ Machine.countedParts, part ∉ parts := fun part hpart =>
    Finset.disjoint_left.mp hparts hpart
  have hlimits := Machine.limits_of_touches htouches (hother _ (by decide)) (hother _ (by decide))
  have hprocesses : after.processes = before.processes :=
    htouches .activeProcesses (hother _ (by decide))
  rwa [Machine.AdmitsProcess, Machine.processCount_eq_count, hlimits, hprocesses,
    ← Machine.processCount_eq_count]

theorem handleStartProcess_admits [Primitives] (tenant project : String)
    (fields : WorkflowActorFields) (process : String) (launchAttempt : Option String)
    (restart : Bool) :
    Moves (Machine.AdmitsWithin False)
      (handleStartProcess tenant project fields process launchAttempt restart) := by
  refine Moves.after fun key => ?_
  refine Moves.after fun _ => ?_
  refine quiet_bind (workflowActor_touches (by decide) _ _ _ _ _ _)
    fun actor => moves_bind_service fun machine => ?_
  refine finalState_after (refl_of _ _) fun _ hsame => ?_
  refine finalState_bind_guard (Guards.runIf (ensureProcessAdmission_guards _)) (refl_of _ _)
    fun _ hadmitted => ?_
  have hadmits := admitsProcess_of_guards (ensure_eq_ok_iff.mp hsame).1 hadmitted
  have hstop : ∀ middle, Touches quietParts machine middle → machine.AdmitsWithin False middle :=
    fun middle htouches => .of_touches htouches (by decide) (Or.inr (by decide))
  -- Up to the entry of the process nothing that is counted changes.
  refine finalState_bind_moves (refl_of (Touches quietParts) machine) Touches.currentEpochSeconds
    hstop fun now middle hreached => ?_
  refine finalState_bind_moves hreached (chargeWorkflowSpawn_touches (by decide) _ _ _)
    hstop fun spawns middle hreached => ?_
  refine finalState_bind_moves hreached (Moves.runIf (Touches.modifyMain (by decide)))
    hstop fun _ middle hreached => ?_
  refine finalState_bind_moves hreached (Touches.modifyProcesses (by decide))
    hstop fun _ middle hreached => ?_
  refine finalState_bind_moves hreached (Touches.modifyDebug (by decide))
    hstop fun _ middle hreached => ?_
  refine finalState_bind_moves hreached (Touches.modifyTasks (by decide))
    hstop fun _ middle hreached => ?_
  refine finalState_bind_moves hreached (Touches.modifyDebug (by decide))
    hstop fun _ middle hreached => ?_
  refine finalState_bind_moves hreached (newLaunchAttempt_guards _).moves
    hstop fun launchAttempt middle hreached => ?_
  refine trans_of _ (hstop middle hreached) (bind_related ?_ fun _ entered _ => ?_)
  · refine .of_startProcess launchAttempt fun hfiled => ?_
    exact admitsProcess_of_touches hreached (by decide)
      (hadmits (hfiled.of_touches hreached (by decide)))
  · refine quiet_bind (recordProcessStarted_touches (by decide) (by decide) _ _)
      (fun _ => ?_) entered
    exact Moves.after fun _ => Moves.pure _

end Processes

/-! ## Projects -/

section Projects

theorem createProject_admits (tenant : TenantId) (actor : UserId) (project : ProjectId)
    (name outsideScope : String) :
    Moves (Machine.AdmitsWithin True) (createProject tenant actor project name outsideScope) := by
  refine Moves.after fun _ => ?_
  refine Moves.after fun _ => ?_
  refine Moves.after fun _ => ?_
  refine Moves.bind (Guards.runIf (ensureProjectAdmission_guards _)).moves fun _ => ?_
  refine Moves.bind (upsertProject_admits _ _ _) fun _ => ?_
  refine quiet_bind (grantProjectDebug_touches (by decide) _ _ _) fun _ => ?_
  refine quiet_bind Touches.persistDurableState fun _ => ?_
  exact Moves.after fun _ => Moves.after fun _ =>
    Moves.pure _

variable [Primitives]

theorem handleRegisterAgentPublicKey_admits (tenant project user agent publicKey : String) :
    Moves (Machine.AdmitsWithin True)
      (handleRegisterAgentPublicKey tenant project user agent publicKey) := by
  refine Moves.after fun _ => ?_
  refine Moves.after fun _ => ?_
  refine Moves.after fun _ => ?_
  refine Moves.after fun _ => ?_
  refine Moves.after fun _ => ?_
  refine Moves.after fun _ => ?_
  refine Moves.bind (upsertProject_admits _ _ _) fun _ => moves_bind_service fun machine => ?_
  refine bind_related ?_ fun _ middle _ => ?_
  · exact .of_addsNothing rfl (.refl _ _) (.refl _ _) (.refl _ _) (Or.inl trivial)
  · exact quiet_bind Touches.persistDurableState (fun _ => Moves.pure _) middle

theorem issueCliSession_admits (tenant : TenantId) (project : ProjectId) (user : UserId)
    (sessionSecret : String) (expiresAtEpochSeconds : Option ℕ) :
    Moves (Machine.AdmitsWithin True)
      (issueCliSession tenant project user sessionSecret expiresAtEpochSeconds) := by
  refine Moves.after fun _ => ?_
  refine Moves.after fun _ => ?_
  refine Moves.after fun _ => ?_
  refine Moves.bind (Moves.runIf (upsertProject_admits _ _ _)) fun _ => ?_
  refine quiet_bind (grantProjectDebug_touches (by decide) _ _ _) fun _ => ?_
  refine moves_bind_service fun machine => bind_related ?_ fun _ middle _ => ?_
  · exact .of_addsNothing rfl (.refl _ _) (.refl _ _) (.refl _ _) (Or.inl trivial)
  · exact quiet_bind Touches.persistDurableState (fun _ => Moves.pure _) middle

theorem ProjectRequest.handle_admits (request : ProjectRequest) :
    Moves (Machine.AdmitsWithin True) request.handle := by
  cases request with
  | createProject tenant actorUser project name =>
    refine Moves.bind ?_ fun _ => Moves.pure _
    refine Moves.after fun _ => ?_
    refine Moves.after fun _ => ?_
    exact Moves.after fun _ => createProject_admits _ _ _ _ _
  | authenticatedCreateProject sessionSecret project name =>
    refine Moves.bind ?_ fun _ => Moves.pure _
    refine quiet_bind (authenticateRequest_touches (by decide) _ _) fun _ => ?_
    exact Moves.after fun _ => createProject_admits _ _ _ _ _
  | registerAgentPublicKey tenant project user agent publicKey =>
    exact Moves.bind (handleRegisterAgentPublicKey_admits _ _ _ _ _) fun _ => Moves.pure _
  | attachNode fields publicKey =>
    exact Moves.bind (handleAttachNode_admits _ _) fun _ => Moves.pure _
  | createNodeEnrollmentGrant tenant project actorUser ttlSeconds =>
    exact Moves.bind (handleCreateNodeEnrollmentGrant_admits _ _ _ _) fun _ => Moves.pure _
  | issueCliSession tenant project user sessionSecret expiresAtEpochSeconds =>
    exact Moves.bind (issueCliSession_admits _ _ _ _ _) fun _ => Moves.pure _

omit [Primitives] in
theorem handleRevokeAgentPublicKey_admits (tenant project user agent : String) :
    Moves (Machine.AdmitsWithin False)
      (handleRevokeAgentPublicKey tenant project user agent) := by
  refine Moves.after fun _ => ?_
  refine Moves.after fun _ => ?_
  refine Moves.after fun _ => ?_
  refine Moves.after fun _ => moves_bind_service fun machine => ?_
  refine finalState_after (refl_of _ _)
    fun ⟨record, coordinator⟩ hrun => ?_
  have hrevoked := (liftExcept_eq_ok_iff.mp hrun).1
  refine bind_related ?_ fun _ middle _ => ?_
  · unfold Coordinator.revokeAgentPublicKey at hrevoked
    dsimp only at hrevoked
    split at hrevoked
    · cases hrevoked
    · split_ifs at hrevoked
      cases hrevoked
      exact .of_addsNothing rfl (.refl _ _) (.refl _ _) (.refl _ _) (Or.inr rfl)
  · exact quiet_bind Touches.persistDurableState (fun _ => Moves.pure _) middle

end Projects

/-! ## Runs -/

/-- What can happen to the coordinator: a request that enters or removes something
that is counted, or anything else. -/
inductive AdmissionEvent where
  | writeProject (request : ProjectRequest)
  | exchangeNodeEnrollmentGrant (fields : NodeFields) (publicKey enrollmentGrant : String)
  | revokeNodeCredential (fields : NodeFields) (actorUser : String)
  | revokeAgentPublicKey (tenant project user agent : String)
  | startProcess (tenant project : String) (fields : WorkflowActorFields) (process : String)
      (launchAttempt : Option String) (restart : Bool)
  | cancelProcess (tenant project process : String)
  | abortProcess (tenant project process : String) (launchAttempt : Option String)
  | other

/-- The tenant owns the project, or has room for one more. -/
def Machine.HasRoom (machine : Machine) (tenant : TenantId) (id : ProjectId) : Prop :=
  (∃ existing, machine.projects[id]? = some existing ∧ existing.tenant = tenant) ∨
    machine.projectCount tenant < (machine.limits tenant).maxProjects

/-- A request that enters a project without looking at the ceiling names a project
that its tenant owns, or comes while the tenant has room. -/
def ProjectRequest.Fits (machine : Machine) : ProjectRequest → Prop
  | .createProject _ _ _ _ => True
  | .authenticatedCreateProject _ _ _ => True
  | .registerAgentPublicKey tenant project _ _ _ =>
    ∀ (owner : TenantId) (id : ProjectId), owner.value = tenant → id.value = project →
      machine.HasRoom owner id
  | .attachNode fields _ =>
    ∀ (owner : TenantId) (id : ProjectId), owner.value = fields.tenant →
      id.value = fields.project → machine.HasRoom owner id
  | .createNodeEnrollmentGrant tenant project _ _ =>
    ∀ (owner : TenantId) (id : ProjectId), owner.value = tenant → id.value = project →
      machine.HasRoom owner id
  | .issueCliSession tenant project _ _ _ => machine.HasRoom tenant project

namespace AdmissionEvent

def Fits : AdmissionEvent → Machine → Prop
  | .writeProject request, machine => request.Fits machine
  | _, _ => True

/-- The event writes a project. -/
def WritesProject : AdmissionEvent → Prop
  | .writeProject _ => True
  | _ => False

variable [Primitives]

inductive Happens : AdmissionEvent → Machine → Machine → Prop
  | writeProject (request : ProjectRequest) (machine : Machine) :
      Happens (.writeProject request) machine (finalState (request.handle machine))
  | exchangeNodeEnrollmentGrant (fields : NodeFields) (publicKey enrollmentGrant : String)
      (machine : Machine) :
      Happens (.exchangeNodeEnrollmentGrant fields publicKey enrollmentGrant) machine
        (finalState (handleExchangeNodeEnrollmentGrant fields publicKey enrollmentGrant machine))
  | revokeNodeCredential (fields : NodeFields) (actorUser : String) (machine : Machine) :
      Happens (.revokeNodeCredential fields actorUser) machine
        (finalState (handleRevokeNodeCredential fields actorUser machine))
  | revokeAgentPublicKey (tenant project user agent : String) (machine : Machine) :
      Happens (.revokeAgentPublicKey tenant project user agent) machine
        (finalState (handleRevokeAgentPublicKey tenant project user agent machine))
  | startProcess (tenant project : String) (fields : WorkflowActorFields) (process : String)
      (launchAttempt : Option String) (restart : Bool) (machine : Machine) :
      Happens (.startProcess tenant project fields process launchAttempt restart) machine
        (finalState (handleStartProcess tenant project fields process launchAttempt restart
          machine))
  | cancelProcess (tenant project process : String) (machine : Machine) :
      Happens (.cancelProcess tenant project process) machine
        (finalState (handleCancelProcess tenant project process machine))
  | abortProcess (tenant project process : String) (launchAttempt : Option String)
      (machine : Machine) :
      Happens (.abortProcess tenant project process launchAttempt) machine
        (finalState (handleAbortProcess tenant project process launchAttempt machine))
  | other {before after : Machine} : before.AddsNone after → Happens .other before after

theorem Happens.admitsWithin {event : AdmissionEvent} {before after : Machine}
    (hhappens : event.Happens before after) :
    before.AdmitsWithin event.WritesProject after := by
  cases hhappens with
  | writeProject request => exact request.handle_admits before
  | exchangeNodeEnrollmentGrant => exact handleExchangeNodeEnrollmentGrant_admits _ _ _ before
  | revokeNodeCredential => exact handleRevokeNodeCredential_admits _ _ before
  | revokeAgentPublicKey => exact handleRevokeAgentPublicKey_admits _ _ _ _ before
  | startProcess => exact handleStartProcess_admits _ _ _ _ _ _ before
  | cancelProcess => exact AllowsStop.cancel (fun _ => allowsStop_admits _) before
  | abortProcess => exact AllowsStop.abortProcess (fun _ => allowsStop_admits _) _ before
  | other hadds =>
    exact .of_addsNothing hadds.limits hadds.identities hadds.processes hadds.grants
      (Or.inr hadds.projects)

end AdmissionEvent

section Ceilings

/-- A record that a fitting request writes is admitted among the projects. -/
theorem ProjectRequest.admits_write {request : ProjectRequest} {machine : Machine}
    {record : ProjectRecord} (hfits : request.Fits machine)
    (hwrites : request.Writes machine record) :
    Admits ProjectRecord.tenant (fun tenant => (machine.limits tenant).maxProjects)
      machine.projects record.id record := by
  have hcreated : machine.OwnedIfPresent record → machine.RoomIfAbsent record →
      machine.HasRoom record.tenant record.id := by
    intro howned hroom
    cases hexisting : machine.projects[record.id]? with
    | none => exact Or.inr (hroom hexisting)
    | some existing => exact Or.inl ⟨existing, hexisting, howned existing hexisting⟩
  cases request with
  | createProject => exact hcreated hwrites.2.2.2.1 hwrites.2.2.2.2
  | authenticatedCreateProject => exact hcreated hwrites.2.2.1 hwrites.2.2.2
  | registerAgentPublicKey => exact hfits _ _ hwrites.1 hwrites.2.1
  | attachNode => exact hfits _ _ hwrites.1 hwrites.2.1
  | createNodeEnrollmentGrant => exact hfits _ _ hwrites.1 hwrites.2.1
  | issueCliSession =>
    obtain ⟨htenant, hid, -⟩ := hwrites
    rw [← htenant, ← hid] at hfits
    exact hfits

variable [Primitives]

/-- A fitting event takes no tenant over the ceiling of projects. -/
theorem AdmissionEvent.projectCount_le {event : AdmissionEvent} {before after : Machine}
    (hfits : event.Fits before) (hhappens : event.Happens before after) (tenant : TenantId) :
    after.projectCount tenant ≤
      max (before.projectCount tenant) (before.limits tenant).maxProjects := by
  obtain hwrites | hprojects := hhappens.admitsWithin.projects
  · cases hhappens with
    | writeProject request =>
      obtain hprojects | ⟨record, hwritten, hinsert⟩ := request.handle_outcome before
      · rw [Machine.projectCount_congr hprojects]
        exact le_max_left _ _
      · have hcount : (finalState (request.handle before)).projectCount tenant =
            count ProjectRecord.tenant (before.projects.insert record.id record) tenant := by
          rw [← hinsert]
          rfl
        rw [hcount]
        exact (ProjectRequest.admits_write hfits hwritten).count_insert_le tenant
    | _ => exact hwrites.elim
  · rw [Machine.projectCount_congr hprojects]
    exact le_max_left _ _

/-- In every run from an empty coordinator, node identities and active processes stay
within the limits. -/
theorem nodes_and_processes_within_limits {allowed : AdmissionEvent → Machine → Prop}
    {start final : Machine} {events : List AdmissionEvent} (hempty : start.IsEmpty)
    (hrun : Run AdmissionEvent.Happens allowed start events final) (tenant : TenantId) :
    final.nodeCount tenant ≤ (final.limits tenant).maxNodes ∧
      final.processCount tenant ≤ (final.limits tenant).maxActiveProcesses := by
  have hadmits : start.AdmitsWithin True final := by
    refine hrun.related fun event _ before after _ hhappens => ?_
    have hstep := hhappens.admitsWithin
    exact ⟨hstep.limits, hstep.filed, hstep.nodes, hstep.processes, Or.inl trivial⟩
  have hfiled : start.WellFiled :=
    { identities := hempty.identities ▸ Filed.empty _
      processes := hempty.processes ▸ Filed.empty _
      grants := hempty.grants ▸ Filed.empty _ }
  have hnodes : start.nodeCount tenant = 0 :=
    (congrArg (fun table => count NodeIdentityRecord.tenant table tenant) hempty.identities).trans
      (count_empty _ _)
  have hprocesses : start.processCount tenant = 0 := by
    rw [Machine.processCount_eq_count, hempty.processes, count_empty]
  rw [hadmits.limits]
  constructor
  · simpa [hnodes] using hadmits.nodes hfiled tenant
  · simpa [hprocesses] using hadmits.processes hfiled tenant

def Machine.ProjectsWithin (tenant : TenantId) (machine : Machine) : Prop :=
  machine.projectCount tenant ≤ (machine.limits tenant).maxProjects

/-- In every run from an empty coordinator whose requests all fit, projects, node
identities and active processes stay within the limits. -/
theorem admission_ceilings_hold {start final : Machine} {events : List AdmissionEvent}
    (hempty : start.IsEmpty)
    (hrun : Run AdmissionEvent.Happens AdmissionEvent.Fits start events final)
    (tenant : TenantId) :
    final.projectCount tenant ≤ (final.limits tenant).maxProjects ∧
      final.nodeCount tenant ≤ (final.limits tenant).maxNodes ∧
      final.processCount tenant ≤ (final.limits tenant).maxActiveProcesses := by
  have hprojects : Machine.ProjectsWithin tenant final := by
    refine hrun.invariant ?_ fun event before after hwithin hfits hhappens => ?_
    · have hnone : start.projectCount tenant = 0 :=
        (congrArg (fun table => count ProjectRecord.tenant table tenant) hempty.projects).trans
          (count_empty _ _)
      rw [Machine.ProjectsWithin, hnone]
      exact Nat.zero_le _
    · rw [Machine.ProjectsWithin, hhappens.admitsWithin.limits]
      exact (event.projectCount_le hfits hhappens tenant).trans (max_le hwithin le_rfl)
  exact ⟨hprojects, nodes_and_processes_within_limits hempty hrun tenant⟩

end Ceilings

namespace AdmissionSample

def tenant : TenantId := ⟨"tenant", tenant_valid⟩

/-- One project for each tenant. -/
def empty : Machine :=
  ⟨{ quota := { configuration := { admission := ⟨1, 8, 8⟩ } } }, steadyEnvironment 100 hundred_le⟩

def attach (project node : String) : ProjectRequest :=
  .attachNode ⟨"tenant", project, node⟩ "public-key"

def attached [Primitives] : Machine := finalState ((attach "payroll" "node-a").handle empty)

theorem empty_isEmpty : empty.IsEmpty := ⟨rfl, rfl, rfl, rfl⟩

end AdmissionSample

open AdmissionSample in
/-- Attaching nodes to two projects gives a tenant two projects, whatever the ceiling. -/
theorem attached_nodes_exceed_project_ceiling :
    letI := Primitives.sample
    ¬ ∀ (start final : Machine) (events : List AdmissionEvent) (tenant : TenantId),
      start.IsEmpty → Run AdmissionEvent.Happens (fun _ _ => True) start events final →
        final.projectCount tenant ≤ (final.limits tenant).maxProjects := by
  let := Primitives.sample
  intro hceiling
  have hrun : Run AdmissionEvent.Happens (fun _ _ => True) empty
      [.writeProject (attach "payroll" "node-a"), .writeProject (attach "website" "node-b")]
      (finalState ((attach "website" "node-b").handle attached)) :=
    Run.snoc (Run.snoc Run.nil trivial (.writeProject _ _)) trivial (.writeProject _ _)
  have hcount := hceiling _ _ _ tenant empty_isEmpty hrun
  exact absurd hcount (by decide +kernel)

open AdmissionSample in
/-- The first of the nodes fits. -/
theorem first_attached_node_fits :
    letI := Primitives.sample
    attached.projectCount tenant ≤
        (attached.limits tenant).maxProjects ∧
      attached.nodeCount tenant ≤
        (attached.limits tenant).maxNodes ∧
      attached.processCount tenant ≤
        (attached.limits tenant).maxActiveProcesses := by
  let := Primitives.sample
  have hfits : (AdmissionEvent.writeProject (attach "payroll" "node-a")).Fits empty := by
    intro owner id howner _
    have htenant : owner = tenant := Id.value_injective howner
    rw [htenant]
    exact Or.inr (by decide +kernel)
  exact admission_ceilings_hold empty_isEmpty (Run.snoc Run.nil hfits (.writeProject _ _)) _

end Clusterflux
