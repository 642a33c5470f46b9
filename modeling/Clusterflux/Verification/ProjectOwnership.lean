import Clusterflux.Foundation.OrderedMaps
import Clusterflux.Foundation.Runs
import Clusterflux.Verification.Footprints

/-!
# Who owns a project

A project is kept under its identifier alone and written by six requests.  Four
of them check that a project that exists belongs to the tenant of the request.
Attaching a node and creating an enrollment grant do not, and both, like the
registration of an agent key, write the project under the name `local` whatever
it was called before.
-/

namespace Clusterflux

open StatefulProgram LabelledRuns

section

variable {before after machine final : Machine} {parts : Finset Part} {tenant : TenantId}
  {name : String}

/-- The requests that write projects. -/
inductive ProjectRequest where
  | createProject (tenant actorUser project name : String)
  | authenticatedCreateProject (sessionSecret project name : String)
  | registerAgentPublicKey (tenant project user agent publicKey : String)
  | attachNode (fields : NodeFields) (publicKey : String)
  | createNodeEnrollmentGrant (tenant project actorUser : String) (ttlSeconds : ℕ)
  | issueCliSession (tenant : TenantId) (project : ProjectId) (user : UserId)
      (sessionSecret : String) (expiresAtEpochSeconds : Option ℕ)

namespace Machine

abbrev projects (machine : Machine) : OrderedMap ProjectId ProjectRecord :=
  machine.service.durable.projects

def projectCount (machine : Machine) (tenant : TenantId) : ℕ :=
  machine.service.coordinator.projectCountForTenant tenant

/-- The limits of a tenant. -/
def limits (machine : Machine) (tenant : TenantId) : AdmissionQuotaLimits :=
  machine.service.quota.effectiveAdmissionLimits
    machine.service.durable.tenantQuotaOverrides[tenant]?

/-- A project that exists under the identifier is one of the tenant. -/
def OwnedIfPresent (machine : Machine) (record : ProjectRecord) : Prop :=
  ∀ existing, machine.projects[record.id]? = some existing → existing.tenant = record.tenant

/-- A project that does not exist yet fits the limit of the tenant. -/
def RoomIfAbsent (machine : Machine) (record : ProjectRecord) : Prop :=
  machine.projects[record.id]? = none →
    machine.projectCount record.tenant < (machine.limits record.tenant).maxProjects

/-- What a request to create a project does to the projects. -/
def CreatesProject (before : Machine) (record : ProjectRecord) (after : Machine) : Prop :=
  after.projects = before.projects ∨ before.OwnedIfPresent record ∧ before.RoomIfAbsent record ∧
      after.projects = before.projects.insert record.id record

theorem projectCount_congr (hprojects : after.projects = before.projects) :
    after.projectCount = before.projectCount := by
  funext tenant
  exact congrArg (fun projects : OrderedMap ProjectId ProjectRecord =>
    projects.values.countP fun project => decide (project.tenant = tenant)) hprojects

theorem limits_of_touches
    (htouches : Touches parts before after) (hoverrides : .quotaOverrides ∉ parts)
    (hsettings : .settings ∉ parts) : after.limits = before.limits := by
  have hsame : after.service.durable.tenantQuotaOverrides =
      before.service.durable.tenantQuotaOverrides := htouches .quotaOverrides hoverrides
  have hquota : after.service.quota.configuration = before.service.quota.configuration :=
    congrArg (fun settings : Part.Contents .settings => settings.2.2.2.2.2.1)
      (htouches .settings hsettings)
  funext tenant
  simp only [limits, CoordinatorQuota.effectiveAdmissionLimits, hsame, hquota]

theorem CreatesProject.refl (machine : Machine) (record : ProjectRecord) :
    machine.CreatesProject record machine :=
  Or.inl rfl

end Machine

namespace ProjectRequest

/-- What a request checks about the record it writes. -/
def Writes (machine : Machine) (record : ProjectRecord) : ProjectRequest → Prop
  | .createProject tenant _ project name =>
    record.tenant.value = tenant ∧ record.id.value = project ∧ record.name = name ∧
      machine.OwnedIfPresent record ∧ machine.RoomIfAbsent record
  | .authenticatedCreateProject _ project name =>
    record.id.value = project ∧ record.name = name ∧
      machine.OwnedIfPresent record ∧ machine.RoomIfAbsent record
  | .registerAgentPublicKey tenant project _ _ _ =>
    record.tenant.value = tenant ∧ record.id.value = project ∧ record.name = "local" ∧
      machine.OwnedIfPresent record
  | .attachNode fields _ =>
    record.tenant.value = fields.tenant ∧ record.id.value = fields.project ∧ record.name = "local"
  | .createNodeEnrollmentGrant tenant project _ _ =>
    record.tenant.value = tenant ∧ record.id.value = project ∧ record.name = "local"
  | .issueCliSession tenant project _ _ _ =>
    record.tenant = tenant ∧ record.id = project ∧ record.name = "Session project" ∧
      machine.projects[record.id]? = none

/-- A request writes the record of one project, or none. -/
def Outcome (request : ProjectRequest) (before after : Machine) : Prop :=
  after.projects = before.projects ∨ ∃ record, request.Writes before record ∧
      after.projects = before.projects.insert record.id record

theorem Outcome.refl (request : ProjectRequest) (machine : Machine) :
    request.Outcome machine machine :=
  Or.inl rfl

variable [Primitives]

def handle : ProjectRequest → Handler Unit
  | .createProject tenant actorUser project name => do
      let _ ← handleCreateProject tenant actorUser project name
  | .authenticatedCreateProject sessionSecret project name => do
      let _ ← handleAuthenticatedCreateProject sessionSecret project name
  | .registerAgentPublicKey tenant project user agent publicKey => do
      let _ ← handleRegisterAgentPublicKey tenant project user agent publicKey
  | .attachNode fields publicKey => do
      let _ ← handleAttachNode fields publicKey
  | .createNodeEnrollmentGrant tenant project actorUser ttlSeconds => do
      let _ ← handleCreateNodeEnrollmentGrant tenant project actorUser ttlSeconds
  | .issueCliSession tenant project user sessionSecret expiresAtEpochSeconds => do
      let _ ← Clusterflux.issueCliSession tenant project user sessionSecret expiresAtEpochSeconds

end ProjectRequest

/-! ## Writing a record -/

section Writing

/-- After the record is written, the rest of the request leaves projects alone. -/
theorem projects_finalState_upsert {α : Type} {id : ProjectId} {rest : Unit → Handler α}
    (hrest : ∀ value, Moves (Touches parts) (rest value)) (hparts : .projects ∉ parts)
    (machine : Machine) :
    (finalState ((Handler.modifyCoordinator (·.upsertProject tenant id name) >>= rest)
      machine)).projects = machine.projects.insert id ⟨id, tenant, name⟩ :=
  hrest () _ .projects hparts

/-- The parts that the requests write beside the project. -/
def recordParts : Finset Part := {.records, .nodeIdentities, .nodes}

theorem projects_notMem_recordParts : Part.projects ∉ recordParts := by decide

end Writing

/-! ## What the requests do to projects -/

section Outcomes

theorem ensureProjectOwner_eq_ok {project : ProjectId} {message name : String} {value : Unit}
    (hrun : ensureProjectOwner tenant project message machine = .ok value final) :
    machine.OwnedIfPresent ⟨project, tenant, name⟩ := by
  intro existing hexisting
  have hensured := (ensure_eq_ok_iff.mp hrun).1
  simpa [Coordinator.project, hexisting] using hensured

theorem createProject_projects (tenant : TenantId) (actor : UserId) (project : ProjectId)
    (name outsideScope : String) (machine : Machine) :
    machine.CreatesProject ⟨project, tenant, name⟩
      (finalState (createProject tenant actor project name outsideScope machine)) := by
  refine finalState_after (.refl _ _) fun _ _ => ?_
  refine finalState_after (.refl _ _) fun _ howner => ?_
  rw [bind_of_ok (service_apply machine)]
  refine finalState_bind_guard (Guards.runIf (ensureProjectAdmission_guards _)) (.refl _ _)
    fun _ hroom => ?_
  refine Or.inr ⟨ensureProjectOwner_eq_ok howner, ?_, ?_⟩
  · intro habsent
    have hmissing : machine.service.coordinator.project project = none := habsent
    have hadmitted := runIf_eq_ok_iff.mp hroom
    rw [if_pos hmissing] at hadmitted
    exact (ensure_eq_ok_iff.mp hadmitted).1
  · refine projects_finalState_upsert (fun _ => ?_) projects_notMem_recordParts machine
    refine Moves.bind (grantProjectDebug_touches (by decide) _ _ _) fun _ => ?_
    refine Moves.bind Touches.persistDurableState fun _ => ?_
    exact Moves.after fun _ => Moves.after fun _ =>
      Moves.pure _

theorem handleCreateProject_outcome (tenant actorUser project name : String) (machine : Machine) :
    (ProjectRequest.createProject tenant actorUser project name).Outcome machine
      (finalState (handleCreateProject tenant actorUser project name machine)) := by
  refine finalState_after (.refl _ _) fun tenantId htenant => ?_
  refine finalState_after (.refl _ _) fun actor _ => ?_
  refine finalState_after (.refl _ _) fun projectId hproject => ?_
  obtain hsame | ⟨howned, hroom, hinsert⟩ := createProject_projects tenantId actor projectId
    name "project id is outside the signed-in tenant scope" machine
  · exact Or.inl hsame
  · exact Or.inr ⟨_, ⟨newId_eq_ok htenant, newId_eq_ok hproject, rfl, howned, hroom⟩, hinsert⟩

theorem handleAttachNode_outcome (fields : NodeFields) (publicKey : String) (machine : Machine) :
    (ProjectRequest.attachNode fields publicKey).Outcome machine
      (finalState (handleAttachNode fields publicKey machine)) := by
  refine finalState_after (.refl _ _) fun scope hscope => ?_
  refine finalState_after (.refl _ _) fun _ _ => ?_
  obtain ⟨htenant, hproject, -⟩ := newNodeScope_eq_ok hscope
  refine Or.inr ⟨⟨scope.project, scope.tenant, "local"⟩, ⟨htenant, hproject, rfl⟩, ?_⟩
  refine projects_finalState_upsert (fun _ => ?_) projects_notMem_recordParts machine
  refine Moves.after fun _ => ?_
  refine Moves.bind (enrollNode_touches (by decide) _ _ _) fun _ => ?_
  exact Moves.bind Touches.persistDurableState fun _ => Moves.pure _

theorem handleCreateNodeEnrollmentGrant_outcome (tenant project actorUser : String)
    (ttlSeconds : ℕ) (machine : Machine) :
    (ProjectRequest.createNodeEnrollmentGrant tenant project actorUser ttlSeconds).Outcome machine
      (finalState (handleCreateNodeEnrollmentGrant tenant project actorUser ttlSeconds
        machine)) := by
  refine finalState_after (.refl _ _) fun tenantId htenant => ?_
  refine finalState_after (.refl _ _) fun projectId hproject => ?_
  refine finalState_after (.refl _ _) fun actor _ => ?_
  refine finalState_after (.refl _ _) fun _ _ => ?_
  refine Or.inr ⟨⟨projectId, tenantId, "local"⟩,
    ⟨newId_eq_ok htenant, newId_eq_ok hproject, rfl⟩, ?_⟩
  refine projects_finalState_upsert (fun _ => ?_) projects_notMem_recordParts machine
  refine Moves.bind Touches.currentEpochSeconds fun _ => ?_
  refine Moves.bind (Touches.modifyNodes (by decide)) fun _ => ?_
  refine Moves.after fun _ => ?_
  refine Moves.after fun _ => ?_
  refine Moves.bind (Touches.generateOpaqueToken _) fun _ => ?_
  refine Moves.after fun _ => ?_
  refine Moves.bind (Touches.boundedTtl _ _) fun _ => ?_
  refine Moves.bind (Touches.modifyNodes (by decide)) fun _ => ?_
  exact Moves.bind Touches.persistDurableState fun _ => Moves.pure _

variable [Primitives]

theorem handleAuthenticatedCreateProject_outcome (sessionSecret project name : String)
    (machine : Machine) :
    (ProjectRequest.authenticatedCreateProject sessionSecret project name).Outcome machine
      (finalState (handleAuthenticatedCreateProject sessionSecret project name machine)) := by
  have htouches : Moves (Touches {.meters}) (authenticateRequest sessionSecret "create_project") :=
    authenticateRequest_touches (by decide) _ _
  refine finalState_bind (fun _ middle hrun => ?_) fun ⟨context, actor⟩ middle hrun => ?_
  · exact Or.inl (htouches.of_error hrun .projects (by decide))
  have hmiddle := htouches.of_ok hrun
  have hprojects : middle.projects = machine.projects := hmiddle .projects (by decide)
  have hlimits := Machine.limits_of_touches hmiddle (by decide) (by decide)
  have hstart : (ProjectRequest.authenticatedCreateProject sessionSecret project name).Outcome
      machine middle := Or.inl hprojects
  refine finalState_after hstart fun projectId hproject => ?_
  obtain hsame | ⟨howned, hroom, hinsert⟩ := createProject_projects context.tenant actor projectId
    name "project id is outside the authenticated tenant scope" middle
  · exact Or.inl (hsame.trans hprojects)
  · refine Or.inr ⟨_, ⟨newId_eq_ok hproject, rfl, ?_, ?_⟩, hinsert.trans (by rw [hprojects])⟩
    · rwa [Machine.OwnedIfPresent, hprojects] at howned
    · rwa [Machine.RoomIfAbsent, hprojects, Machine.projectCount_congr hprojects, hlimits] at hroom

theorem handleRegisterAgentPublicKey_outcome (tenant project user agent publicKey : String)
    (machine : Machine) :
    (ProjectRequest.registerAgentPublicKey tenant project user agent publicKey).Outcome machine
      (finalState (handleRegisterAgentPublicKey tenant project user agent publicKey machine)) := by
  refine finalState_after (.refl _ _) fun tenantId htenant => ?_
  refine finalState_after (.refl _ _) fun projectId hproject => ?_
  refine finalState_after (.refl _ _) fun actor _ => ?_
  refine finalState_after (.refl _ _) fun agentId _ => ?_
  refine finalState_after (.refl _ _) fun _ _ => ?_
  refine finalState_after (.refl _ _) fun _ howner => ?_
  refine Or.inr ⟨⟨projectId, tenantId, "local"⟩,
    ⟨newId_eq_ok htenant, newId_eq_ok hproject, rfl, ensureProjectOwner_eq_ok howner⟩, ?_⟩
  refine projects_finalState_upsert (fun _ => ?_) projects_notMem_recordParts machine
  refine moves_bind_service fun machine => ?_
  refine bind_related (replaceCoordinator_touches fun part hother => ?_) fun _ middle _ => ?_
  · cases part <;> first | rfl | exact absurd (by decide) hother
  · exact Moves.bind Touches.persistDurableState (fun _ => Moves.pure _) middle

theorem issueCliSession_outcome (tenant : TenantId) (project : ProjectId) (user : UserId)
    (sessionSecret : String) (expiresAtEpochSeconds : Option ℕ) (machine : Machine) :
    (ProjectRequest.issueCliSession tenant project user sessionSecret
      expiresAtEpochSeconds).Outcome machine
      (finalState (issueCliSession tenant project user sessionSecret expiresAtEpochSeconds
        machine)) := by
  refine finalState_after (.refl _ _) fun _ _ => ?_
  refine finalState_after (.refl _ _) fun _ _ => ?_
  rw [bind_of_ok (service_apply machine)]
  have hrest : ∀ value : Unit, Moves (Touches recordParts) (do
      Handler.modifyCoordinator (·.grantProjectDebug tenant project user)
      let service ← Handler.service
      let session := service.coordinator.issueCliSession tenant project user
        sessionSecret expiresAtEpochSeconds
      Handler.modifyCoordinator fun _ => session.2
      Handler.persistDurableState
      return session.1) := by
    intro _
    refine Moves.bind (grantProjectDebug_touches (by decide) _ _ _) fun _ => ?_
    refine moves_bind_service fun machine => ?_
    refine bind_related (replaceCoordinator_touches fun part hother => ?_) fun _ middle _ => ?_
    · cases part <;> first | rfl | exact absurd (by decide) hother
    · exact Moves.bind Touches.persistDurableState (fun _ => Moves.pure _) middle
  by_cases habsent : machine.service.coordinator.project project = none
  · refine Or.inr ⟨⟨project, tenant, "Session project"⟩, ⟨rfl, rfl, rfl, habsent⟩, ?_⟩
    rw [runIf, if_pos habsent]
    exact projects_finalState_upsert hrest projects_notMem_recordParts machine
  · rw [runIf, if_neg habsent]
    exact Or.inl (hrest () machine .projects projects_notMem_recordParts)

/-- Whatever a request does to projects it does through its write. -/
theorem ProjectRequest.handle_outcome (request : ProjectRequest) (machine : Machine) :
    request.Outcome machine (finalState (request.handle machine)) := by
  cases request with
  | createProject tenant actorUser project name =>
    rw [handle, finalState_bind_pure]
    exact handleCreateProject_outcome _ _ _ _ machine
  | authenticatedCreateProject sessionSecret project name =>
    rw [handle, finalState_bind_pure]
    exact handleAuthenticatedCreateProject_outcome _ _ _ machine
  | registerAgentPublicKey tenant project user agent publicKey =>
    rw [handle, finalState_bind_pure]
    exact handleRegisterAgentPublicKey_outcome _ _ _ _ _ machine
  | attachNode fields publicKey =>
    rw [handle, finalState_bind_pure]
    exact handleAttachNode_outcome _ _ machine
  | createNodeEnrollmentGrant tenant project actorUser ttlSeconds =>
    rw [handle, finalState_bind_pure]
    exact handleCreateNodeEnrollmentGrant_outcome _ _ _ _ machine
  | issueCliSession tenant project user sessionSecret expiresAtEpochSeconds =>
    rw [handle, finalState_bind_pure]
    exact issueCliSession_outcome _ _ _ _ _ machine

end Outcomes

/-! ## Runs -/

/-- What can happen to the coordinator: a request that writes projects, or anything
else.  An authenticated request for an agent key or an enrollment grant is the
charge to its session followed by the plain request. -/
inductive ProjectEvent where
  | request (request : ProjectRequest)
  | other

namespace ProjectEvent

/-- The event is a request to create the project. -/
def Creates (id : ProjectId) : ProjectEvent → Prop
  | .request (.createProject _ _ project _) => id.value = project
  | .request (.authenticatedCreateProject _ project _) => id.value = project
  | _ => False

/-- Other requests, and the passing of time, leave projects alone. -/
def Happens [Primitives] : ProjectEvent → Machine → Machine → Prop
  | .request written, before, after => after = finalState (written.handle before)
  | .other, before, after => after.projects = before.projects

/-- A request that writes a project under the name `local` finds no project under
the identifier, or one that it writes unchanged. -/
def Respects : ProjectEvent → Machine → Prop
  | .request (.attachNode fields _), machine =>
    ∀ (id : ProjectId) (record : ProjectRecord), id.value = fields.project →
      machine.projects[id]? = some record →
        record.tenant.value = fields.tenant ∧ record.name = "local"
  | .request (.createNodeEnrollmentGrant tenant project _ _), machine =>
    ∀ (id : ProjectId) (record : ProjectRecord), id.value = project →
      machine.projects[id]? = some record → record.tenant.value = tenant ∧ record.name = "local"
  | .request (.registerAgentPublicKey tenant project _ _ _), machine =>
    ∀ (id : ProjectId) (record : ProjectRecord), id.value = project →
      machine.projects[id]? = some record → record.tenant.value = tenant → record.name = "local"
  | _, _ => True

end ProjectEvent

/-- The project keeps its owner, and its name unless it may be renamed. -/
def Machine.KeepsProject (id : ProjectId) (mayRename : Prop) (before after : Machine) : Prop :=
  ∀ record, before.projects[id]? = some record → ∃ kept, after.projects[id]? = some kept ∧
    kept.tenant = record.tenant ∧ (mayRename ∨ kept.name = record.name)

instance keepsProject_isPreorder (id : ProjectId) (mayRename : Prop) :
    IsPreorder Machine (Machine.KeepsProject id mayRename) where
  refl _ record hrecord := ⟨record, hrecord, rfl, Or.inr rfl⟩
  trans _ _ _ hfirst hsecond record hrecord := by
    obtain ⟨middle, hmiddle, htenant, hname⟩ := hfirst record hrecord
    obtain ⟨kept, hkept, htenant', hname'⟩ := hsecond middle hmiddle
    refine ⟨kept, hkept, htenant'.trans htenant, ?_⟩
    rcases hname with hname | hname
    · exact Or.inl hname
    · exact hname'.imp_right fun hsame => hsame.trans hname

section Runs

/-- Writing the record of a project keeps the project that was there. -/
theorem ProjectEvent.keepsProject_write {request : ProjectRequest}
    {record existing : ProjectRecord} (hrespects : (ProjectEvent.request request).Respects before)
    (hwrites : request.Writes before record)
    (hexisting : before.projects[record.id]? = some existing) :
    record.tenant = existing.tenant ∧
      ((ProjectEvent.request request).Creates record.id ∨ record.name = existing.name) := by
  cases request with
  | createProject tenant actorUser project name =>
    obtain ⟨-, hproject, -, howned, -⟩ := hwrites
    exact ⟨(howned existing hexisting).symm, Or.inl hproject⟩
  | authenticatedCreateProject sessionSecret project name =>
    obtain ⟨hproject, -, howned, -⟩ := hwrites
    exact ⟨(howned existing hexisting).symm, Or.inl hproject⟩
  | registerAgentPublicKey tenant project user agent publicKey =>
    obtain ⟨htenant, hproject, hname, howned⟩ := hwrites
    have hsame := howned existing hexisting
    have hlocal := hrespects _ existing hproject hexisting (by rw [hsame, htenant])
    exact ⟨hsame.symm, Or.inr (hname.trans hlocal.symm)⟩
  | attachNode fields publicKey =>
    obtain ⟨htenant, hproject, hname⟩ := hwrites
    obtain ⟨hsame, hlocal⟩ := hrespects _ existing hproject hexisting
    exact ⟨Id.value_injective (htenant.trans hsame.symm), Or.inr (hname.trans hlocal.symm)⟩
  | createNodeEnrollmentGrant tenant project actorUser ttlSeconds =>
    obtain ⟨htenant, hproject, hname⟩ := hwrites
    obtain ⟨hsame, hlocal⟩ := hrespects _ existing hproject hexisting
    exact ⟨Id.value_injective (htenant.trans hsame.symm), Or.inr (hname.trans hlocal.symm)⟩
  | issueCliSession tenant project user sessionSecret expiresAtEpochSeconds =>
    obtain ⟨-, -, -, habsent⟩ := hwrites
    exact absurd (habsent.symm.trans hexisting) nofun

variable [Primitives]

/-- One event keeps every project. -/
theorem ProjectEvent.keepsProject {event : ProjectEvent}
    (hrespects : event.Respects before) (hhappens : event.Happens before after)
    (id : ProjectId) : before.KeepsProject id (event.Creates id) after := by
  intro existing hexisting
  cases event with
  | other =>
    have hsame : after.projects = before.projects := hhappens
    exact ⟨existing, by rw [hsame]; exact hexisting, rfl, Or.inr rfl⟩
  | request request =>
    have hafter : after = finalState (request.handle before) := hhappens
    rw [hafter]
    obtain hsame | ⟨record, hwrites, hinsert⟩ := request.handle_outcome before
    · exact ⟨existing, by rw [hsame]; exact hexisting, rfl, Or.inr rfl⟩
    rw [hinsert]
    by_cases hid : record.id = id
    · subst hid
      exact ⟨record, by simp, ProjectEvent.keepsProject_write hrespects hwrites hexisting⟩
    · refine ⟨existing, ?_, rfl, Or.inr rfl⟩
      exact OrderedMaps.getElem?_insert_eq_some_iff.mpr (Or.inr ⟨hid, hexisting⟩)

/-- In a run whose requests respect the projects that exist, a project never
changes its owner, and it changes its name only if it is requested to be created
again. -/
theorem project_ownership_stable {start final : Machine} {events : List ProjectEvent}
    (hrun : Run ProjectEvent.Happens ProjectEvent.Respects start events final)
    (id : ProjectId) :
    start.KeepsProject id (∃ event ∈ events, event.Creates id) final := by
  refine hrun.related fun event hevent before after hrespects hhappens existing hexisting => ?_
  obtain ⟨kept, hkept, htenant, hname⟩ :=
    ProjectEvent.keepsProject hrespects hhappens id existing hexisting
  exact ⟨kept, hkept, htenant, hname.imp_left fun hcreates => ⟨event, hevent, hcreates⟩⟩

end Runs

end

namespace OwnershipSample

def payroll : ProjectId := ⟨"payroll", by decide⟩

def empty : Machine := ⟨{}, steadyEnvironment 100 hundred_le⟩

def create : ProjectRequest := .createProject "tenant-a" "user" "payroll" "Payroll"

def attach (project : String) : ProjectRequest :=
  .attachNode ⟨"tenant-b", project, "node"⟩ "public-key"

def created [Primitives] : Machine := finalState (create.handle empty)

end OwnershipSample

open OwnershipSample in
/-- A node of another tenant that is attached to the project takes the project over
and renames it. -/
theorem attached_node_takes_project_over :
    letI := Primitives.sample
    ¬ ∀ (start final : Machine) (events : List ProjectEvent) (id : ProjectId),
      Run ProjectEvent.Happens (fun _ _ => True) start events final →
        start.KeepsProject id (∃ event ∈ events, event.Creates id) final := by
  let := Primitives.sample
  intro hstable
  have hrun : Run ProjectEvent.Happens (fun _ _ => True) created [.request (attach "payroll")]
      (finalState ((attach "payroll").handle created)) :=
    Run.snoc Run.nil trivial rfl
  have hcreated : created.projects[payroll]? =
      some ⟨payroll, ⟨"tenant-a", by decide⟩, "Payroll"⟩ := by
    decide +kernel
  obtain ⟨kept, hkept, htenant, -⟩ := hstable _ _ _ _ hrun _ hcreated
  have hattached : (finalState ((attach "payroll").handle created)).projects[payroll]? =
      some ⟨payroll, ⟨"tenant-b", by decide⟩, "local"⟩ := by
    decide +kernel
  rw [hattached, Option.some.injEq] at hkept
  rw [← hkept] at htenant
  exact absurd htenant (by decide)

open OwnershipSample in
/-- Attaching the node to a project of its own leaves the other project alone. -/
theorem project_kept_beside_new_project :
    letI := Primitives.sample
    created.KeepsProject payroll (∃ event ∈ [ProjectEvent.request (attach "project-b")],
        event.Creates payroll)
      (finalState ((attach "project-b").handle created)) := by
  let := Primitives.sample
  have hrespects : (ProjectEvent.request (attach "project-b")).Respects created := by
    intro id record hid hrecord
    have habsent : created.projects[(⟨"project-b", by decide⟩ : ProjectId)]? = none := by
      decide +kernel
    have hsame : id = ⟨"project-b", by decide⟩ := Id.value_injective hid
    rw [hsame, habsent] at hrecord
    cases hrecord
  exact project_ownership_stable (Run.snoc Run.nil hrespects rfl) _

end Clusterflux
