import Clusterflux.Foundation.ExpiringEntries
import Clusterflux.Verification.Footprints

/-!
# Replay protection

A signed request is admitted if it is fresh and its nonce is not remembered.  The
registry forgets nonces, so what matters is that a nonce is remembered as long as
its request is fresh.  Agent and administrator nonces are dated by the issue time,
which makes the two windows end at the same moment.  Node nonces are dated by the
time of acceptance, and a request that was dated in the future outlives them.
-/

namespace Clusterflux

open StatefulProgram ExpiringEntries Checks Std

/-! ## Time -/

namespace World

/-- The clock of `after` is that of `before` after some readings. -/
def Later (before after : World) : Prop :=
  ∃ skipped, ∀ index, after.clock index = before.clock (index + skipped)

theorem Later.refl (world : World) : world.Later world := ⟨0, fun _ => rfl⟩

theorem Later.trans {first second third : World} (hfirst : first.Later second)
    (hsecond : second.Later third) : first.Later third := by
  obtain ⟨skipped, hclock⟩ := hfirst
  obtain ⟨skipped', hclock'⟩ := hsecond
  refine ⟨skipped' + skipped, fun index => ?_⟩
  rw [hclock', hclock, Nat.add_assoc]

theorem Later.clockNondecreasing {before after : World} (hlater : before.Later after)
    (hclock : before.ClockNondecreasing) : after.ClockNondecreasing := by
  obtain ⟨skipped, hreadings⟩ := hlater
  intro earlier later hle
  rw [hreadings, hreadings]
  exact hclock _ _ (by omega)

theorem Later.now_le {before after : World} (hlater : before.Later after)
    (hclock : before.ClockNondecreasing) : before.now ≤ after.now := by
  obtain ⟨skipped, hreadings⟩ := hlater
  have hreading : after.clock 0 = before.clock skipped := by rw [hreadings, Nat.zero_add]
  rw [World.now, World.now, hreading]
  exact hclock _ _ (Nat.zero_le _)

end World

/-- The environment of `after` has been read at least as far. -/
def Machine.Later (before after : Machine) : Prop :=
  before.environment.Later after.environment.toWorld

instance : IsPreorder Machine Machine.Later where
  refl _ := World.Later.refl _
  trans _ _ _ := World.Later.trans

theorem moves_later_readClock : Moves Machine.Later Handler.readClock :=
  fun _ => ⟨1, fun _ => rfl⟩

theorem moves_later_modifyService (change : CoordinatorService → CoordinatorService) :
    Moves Machine.Later (Handler.modifyService change) :=
  fun _ => World.Later.refl _

section Rules

variable {relation : Machine → Machine → Prop} [IsPreorder Machine relation]

theorem moves_livenessNow (hclock : Moves relation Handler.readClock) :
    Moves relation Handler.livenessNowEpochSeconds :=
  Moves.bind hclock fun _ => Moves.pure _

theorem moves_admitNonce (hreplay : ∀ change, Moves relation (Handler.modifyReplay change))
    (check : ReplayRegistry → Except ReplayAdmissionError Unit × ReplayRegistry)
    (failure : Failure) : Moves relation (admitNonce check failure) :=
  Moves.after fun _ => Moves.bind (hreplay _) fun _ => Moves.ensure _ _

end Rules

namespace Machine

variable (machine : Machine)

/-- The present time, which the next reading of the clock returns. -/
abbrev now : ℕ := machine.environment.now

/-- The machine after one more reading of the clock. -/
def ticked : Machine :=
  { machine with
    environment := { machine.environment with toWorld := machine.environment.afterClock } }

def withReplay (registry : ReplayRegistry) : Machine :=
  { machine with service := { machine.service with replayRegistry := registry } }

abbrev replay : ReplayRegistry := machine.service.replayRegistry

theorem replay_ticked : machine.ticked.replay = machine.replay := rfl

theorem replay_withReplay (registry : ReplayRegistry) :
    (machine.withReplay registry).replay = registry := rfl

end Machine

theorem livenessNow_apply (machine : Machine) :
    Handler.livenessNowEpochSeconds machine = .ok machine.now machine.ticked := rfl

theorem modifyReplay_apply (change : ReplayRegistry → ReplayRegistry) (machine : Machine) :
    Handler.modifyReplay change machine = .ok () (machine.withReplay (change machine.replay)) := rfl

section Admission

variable {check : ReplayRegistry → Except ReplayAdmissionError Unit × ReplayRegistry}
  {failure : Failure} {machine final : Machine}

theorem admitNonce_eq_ok_iff :
    admitNonce check failure machine = .ok () final ↔
      (check machine.replay).1.isOk ∧ machine.withReplay (check machine.replay).2 = final := by
  rw [admitNonce, bind_of_ok (service_apply machine)]
  exact ensure_eq_ok_iff

theorem admitNonce_of_error {error : ReplayAdmissionError} {registry : ReplayRegistry}
    (hcheck : check machine.replay = (.error error, registry)) :
    admitNonce check failure machine = .error failure (machine.withReplay registry) := by
  rw [admitNonce, bind_of_ok (service_apply machine), bind_of_ok (modifyReplay_apply _ _)]
  change ensure (check machine.replay).1.isOk failure
    (machine.withReplay (check machine.replay).2) = _
  rw [hcheck]
  exact ensure_eq_error_iff.mpr ⟨nofun, rfl, rfl⟩

/-- Admitting a nonce records the outcome of the check before it may fail. -/
theorem finalState_admitNonce_bind {α : Type} {property : Machine → Prop}
    {next : Unit → Handler α} {outcome : Except ReplayAdmissionError Unit}
    {registry : ReplayRegistry} (hcheck : check machine.replay = (outcome, registry))
    (hrefuse : property (machine.withReplay registry))
    (hnext : outcome.isOk → property (finalState (next () (machine.withReplay registry)))) :
    property (finalState ((admitNonce check failure >>= next) machine)) := by
  refine finalState_bind (fun raised middle hrun => ?_) fun _ middle hrun => ?_
  · rw [admitNonce, bind_of_ok (service_apply machine)] at hrun
    obtain ⟨-, -, rfl⟩ := ensure_eq_error_iff.mp hrun
    rw [hcheck]
    exact hrefuse
  · obtain ⟨hok, rfl⟩ := admitNonce_eq_ok_iff.mp hrun
    rw [hcheck] at hok ⊢
    exact hnext hok

end Admission

/-! ## The registry -/

namespace ReplayRegistry

/-- The last moment at which an entry is kept for a window. -/
abbrev lastMoment (windowSeconds date : ℕ) : ℕ := saturatingAdd date windowSeconds

/-- What one signed request may do to the registry at `now`. -/
structure Advances (now : ℕ) (before after : ReplayRegistry) : Prop where
  agents : Admits (lastMoment agentSignatureWindowSeconds) now before.agentNonces after.agentNonces
  admins : Admits (lastMoment adminRequestMaxClockSkewSeconds) now before.adminNonces
    after.adminNonces
  nodes : Admits (lastMoment nodeSignatureWindowSeconds) now before.nodeNonces after.nodeNonces

theorem Advances.refl (now : ℕ) (registry : ReplayRegistry) : registry.Advances now registry :=
  ⟨.refused, .refused, .refused⟩

variable (registry : ReplayRegistry) (now window capacity : ℕ)

theorem getElem?_eq_none_of_not_contains {κ : Type} [Ord κ] [TransOrd κ]
    {entries : OrderedMap κ ℕ} {key : κ} (hcontains : ¬ entries.contains key) :
    entries[key]? = none := by
  rw [ExtTreeMap.contains_eq_isSome_getElem?] at hcontains
  simpa using hcontains

section Agents

variable (tenant : TenantId) (project : ProjectId) (agent : AgentId) (nonce : String)

/-- The registry with the agent nonces whose window has passed removed. -/
def pruneAgents : ReplayRegistry :=
  { registry with agentNonces := prune (lastMoment window) now registry.agentNonces }

theorem prepareAgent_cases : registry.prepareAgent tenant project agent nonce now window =
        (.error .duplicate, registry.pruneAgents now window) ∨
      registry.prepareAgent tenant project agent nonce now window =
          (.ok (), registry.pruneAgents now window) ∧
        (registry.pruneAgents now window).agentNonces[(tenant, project, agent, nonce)]? =
          none := by
  by_cases hcontains : (registry.pruneAgents now window).agentNonces.contains
      (tenant, project, agent, nonce)
  · exact Or.inl (if_pos hcontains)
  · exact Or.inr ⟨if_neg hcontains, getElem?_eq_none_of_not_contains hcontains⟩

theorem commitAgent_cases (issuedAt : ℕ) :
    registry.commitAgent tenant project agent nonce issuedAt capacity =
        (.error .capacity, registry) ∨
      registry.commitAgent tenant project agent nonce issuedAt capacity = (.ok (), { registry with
          agentNonces := registry.agentNonces.insert (tenant, project, agent, nonce)
            issuedAt }) := by
  rw [commitAgent]
  by_cases hfull : (registry.agentNonces.keys.filter fun key =>
      key.1 = tenant ∧ key.2.1 = project ∧ key.2.2.1 = agent).length ≥ capacity
  · exact Or.inl (if_pos hfull)
  · exact Or.inr (if_neg hfull)

end Agents

/-- The registry with the administrator nonces whose window has passed removed. -/
def pruneAdmins : ReplayRegistry :=
  { registry with adminNonces := prune (lastMoment window) now registry.adminNonces }

theorem admitAdmin_cases (nonce : String) (issuedAt : ℕ) :
    (∃ error, registry.admitAdmin nonce issuedAt now window capacity =
        (.error error, registry.pruneAdmins now window)) ∨
      registry.admitAdmin nonce issuedAt now window capacity = (.ok (), { registry with
            adminNonces := (registry.pruneAdmins now window).adminNonces.insert nonce
              issuedAt }) ∧
        (registry.pruneAdmins now window).adminNonces[nonce]? = none := by
  by_cases hcontains : (registry.pruneAdmins now window).adminNonces.contains nonce
  · exact Or.inl ⟨.duplicate, if_pos hcontains⟩
  · by_cases hfull : (registry.pruneAdmins now window).adminNonces.size ≥ capacity
    · exact Or.inl ⟨.capacity, (if_neg hcontains).trans (if_pos hfull)⟩
    · exact Or.inr ⟨(if_neg hcontains).trans (if_neg hfull),
        getElem?_eq_none_of_not_contains hcontains⟩

theorem prepareNode_cases (scope : NodeScopeKey) (nonce : String) :
    registry.prepareNode scope nonce now window =
        (.error .duplicate, registry.pruneNodes now window) ∨
      registry.prepareNode scope nonce now window = (.ok (), registry.pruneNodes now window) ∧
        (registry.pruneNodes now window).nodeNonces[(scope, nonce)]? = none := by
  by_cases hcontains : (registry.pruneNodes now window).nodeNonces.contains (scope, nonce)
  · exact Or.inl (if_pos hcontains)
  · exact Or.inr ⟨if_neg hcontains, getElem?_eq_none_of_not_contains hcontains⟩

theorem commitNode_cases (scope : NodeScopeKey) (nonce : String) (acceptedAt : ℕ) :
    registry.commitNode scope nonce acceptedAt capacity = (.error .capacity, registry) ∨
      registry.commitNode scope nonce acceptedAt capacity = (.ok (), { registry with
          nodeNonces := registry.nodeNonces.insert (scope, nonce) acceptedAt }) := by
  rw [commitNode]
  by_cases hfull : registry.nodeCount scope ≥ capacity
  · exact Or.inl (if_pos hfull)
  · exact Or.inr (if_neg hfull)

end ReplayRegistry

/-- What one signed request may do to the replay windows. -/
def Machine.Admitted (before after : Machine) : Prop :=
  before.replay.Advances before.now after.replay

theorem Machine.Admitted.refl (machine : Machine) : machine.Admitted machine :=
  ReplayRegistry.Advances.refl _ _

/-! ## Requests -/

section Requests

variable [Primitives]

open ReplayRegistry

/-- Only a fresh request is authorized. -/
theorem absDiff_le_of_authorizeAgentProjectRun {coordinator : Coordinator}
    {scope : AgentWorkflowScope} {fingerprint : Option Digest} {payloadDigest : Digest}
    {signature : AgentSignedRequest} {now : ℕ} {record : AgentPublicKeyRecord}
    (hauthorized : coordinator.authorizeAgentProjectRun scope fingerprint payloadDigest
      signature now = .ok record) :
    absDiff signature.issuedAtEpochSeconds now ≤ agentSignatureWindowSeconds := by
  rw [Coordinator.authorizeAgentProjectRun] at hauthorized
  split at hauthorized
  · cases hauthorized
  · simp only [check_bind_eq_ok, refuseIf_eq_ok, decide_eq_false_iff_not] at hauthorized
    exact Nat.not_lt.mp hauthorized.2.2.1

section Agents

variable (tenant : TenantId) (project : ProjectId) (agent : String)
  (fields : WorkflowActorFields) (requestKind : String) (process : ProcessId)
  (task : Option TaskInstanceId) (machine : Machine)

theorem admitted_agentWorkflowActor : machine.Admitted (finalState
      (agentWorkflowActor tenant project agent fields requestKind process task machine)) := by
  have hstart := Machine.Admitted.refl machine
  rw [agentWorkflowActor]
  refine finalState_after hstart fun agent _ => ?_
  refine finalState_after hstart fun signature _ => ?_
  refine finalState_after hstart fun payloadDigest _ => ?_
  refine finalState_after hstart fun _ _ => ?_
  rw [bind_of_ok (livenessNow_apply machine)]
  have hpruned : machine.Admitted (machine.ticked.withReplay
      (machine.replay.pruneAgents machine.now agentSignatureWindowSeconds)) :=
    ⟨.pruned, .refused, .refused⟩
  obtain hprepare | ⟨hprepare, hfresh⟩ := machine.replay.prepareAgent_cases machine.now
    agentSignatureWindowSeconds tenant project agent signature.nonce
  · exact finalState_admitNonce_bind hprepare hpruned nofun
  refine finalState_admitNonce_bind hprepare hpruned fun _ => ?_
  refine finalState_after hpruned fun scope _ => ?_
  rw [bind_of_ok (service_apply _)]
  refine finalState_after hpruned fun record _ => ?_
  obtain hcommit | hcommit := (machine.replay.pruneAgents machine.now
    agentSignatureWindowSeconds).commitAgent_cases maxReplayNoncesPerAuthority tenant project
      agent signature.nonce signature.issuedAtEpochSeconds
  · exact finalState_admitNonce_bind hcommit hpruned nofun
  · exact finalState_admitNonce_bind hcommit ⟨.entered _ _ hfresh, .refused, .refused⟩
      fun _ => ⟨.entered _ _ hfresh, .refused, .refused⟩

/-- What an accepted agent request went through: it was fresh, its nonce was not
remembered, and now it is. -/
theorem agentWorkflowActor_eq_ok {actor : WorkflowActor} {final : Machine}
    (hrun : agentWorkflowActor tenant project agent fields requestKind process task machine =
      .ok actor final) :
    ∃ agentId signature, Id.tryNew .agent agent = .ok agentId ∧
      fields.agentSignature = some signature ∧
      absDiff signature.issuedAtEpochSeconds machine.now ≤ agentSignatureWindowSeconds ∧
      (machine.replay.pruneAgents machine.now agentSignatureWindowSeconds).agentNonces[
        (tenant, project, agentId, signature.nonce)]? = none ∧
      final.replay.agentNonces[(tenant, project, agentId, signature.nonce)]? =
        some signature.issuedAtEpochSeconds := by
  rw [agentWorkflowActor] at hrun
  obtain ⟨agentId, hagent, hrun⟩ := ok_after hrun
  obtain ⟨signature, hsignature, hrun⟩ := ok_after hrun
  obtain ⟨payloadDigest, -, hrun⟩ := ok_after hrun
  obtain ⟨_, -, hrun⟩ := ok_after hrun
  rw [bind_of_ok (livenessNow_apply machine)] at hrun
  obtain ⟨_, _, hchecked, hrun⟩ := bind_eq_ok_iff.mp hrun
  obtain ⟨hprepared, rfl⟩ := admitNonce_eq_ok_iff.mp hchecked
  obtain ⟨scope, -, hrun⟩ := ok_after hrun
  rw [bind_of_ok (service_apply _)] at hrun
  obtain ⟨record, hrecord, hrun⟩ := ok_after hrun
  obtain ⟨_, _, hchecked, hrun⟩ := bind_eq_ok_iff.mp hrun
  obtain ⟨hcommitted, rfl⟩ := admitNonce_eq_ok_iff.mp hchecked
  cases hrun
  refine ⟨agentId, signature, (liftExcept_eq_ok_iff.mp hagent).1,
    (orFail_eq_ok_iff.mp hsignature).1,
    absDiff_le_of_authorizeAgentProjectRun (liftExcept_eq_ok_iff.mp hrecord).1, ?_, ?_⟩
  · obtain hprepare | ⟨-, hfresh⟩ := machine.replay.prepareAgent_cases machine.now
      agentSignatureWindowSeconds tenant project agentId signature.nonce
    · rw [Machine.replay_ticked, hprepare] at hprepared
      cases hprepared
    · exact hfresh
  · obtain hcommit | hcommit := ReplayRegistry.commitAgent_cases _ maxReplayNoncesPerAuthority
      tenant project agentId signature.nonce signature.issuedAtEpochSeconds
    · rw [hcommit] at hcommitted
      cases hcommitted
    · rw [Machine.replay_withReplay, hcommit]
      exact ExtTreeMap.getElem?_insert_self

end Agents

section Workflows

variable (tenant : TenantId) (project : ProjectId) (fields : WorkflowActorFields)
  (requestKind : String) (process : ProcessId) (task : Option TaskInstanceId)

theorem admitted_workflowActor (machine : Machine) : machine.Admitted (finalState
      (workflowActor tenant project fields requestKind process task machine)) := by
  rw [workflowActor]
  cases fields.actorAgent with
  | some agent => exact admitted_agentWorkflowActor _ _ _ _ _ _ _ _
  | none =>
    exact finalState_after (Machine.Admitted.refl machine)
      fun _ _ => Machine.Admitted.refl machine

end Workflows

section Administrators

variable (request : AdminRequest) (machine : Machine)

/-- The outcome of admitting the administrator's nonce now. -/
def AdminRequest.admission (registry : ReplayRegistry) (now : ℕ) :
    Except ReplayAdmissionError Unit × ReplayRegistry :=
  registry.admitAdmin request.adminNonce request.issuedAtEpochSeconds now
    adminRequestMaxClockSkewSeconds maxReplayNoncesPerAuthority

theorem admitted_verifyAdminRequest :
    machine.Admitted (finalState (verifyAdminRequest request machine)) := by
  have hstart := Machine.Admitted.refl machine
  rw [verifyAdminRequest, bind_of_ok (service_apply machine)]
  refine finalState_after hstart fun expected _ => ?_
  refine finalState_after hstart fun _ _ => ?_
  rw [bind_of_ok (livenessNow_apply machine)]
  refine finalState_after hstart fun _ _ => ?_
  refine finalState_after hstart fun _ _ => ?_
  rw [bind_of_ok (service_apply _)]
  have hadmitted : machine.Admitted
      (machine.ticked.withReplay (request.admission machine.replay machine.now).2) := by
    obtain ⟨error, hchecked⟩ | ⟨hchecked, hfresh⟩ := machine.replay.admitAdmin_cases machine.now
      adminRequestMaxClockSkewSeconds maxReplayNoncesPerAuthority request.adminNonce
      request.issuedAtEpochSeconds
    · rw [AdminRequest.admission, hchecked]
      exact ⟨.refused, .pruned, .refused⟩
    · rw [AdminRequest.admission, hchecked]
      exact ⟨.refused, .entered _ _ hfresh, .refused⟩
  rw [bind_of_ok (modifyReplay_apply _ _), (Guards.ensure _ _).1]
  exact hadmitted

theorem verifyAdminRequest_eq_ok {final : Machine}
    (hrun : verifyAdminRequest request machine = .ok () final) :
    absDiff machine.now request.issuedAtEpochSeconds ≤ adminRequestMaxClockSkewSeconds ∧
      (machine.replay.pruneAdmins machine.now adminRequestMaxClockSkewSeconds).adminNonces[
        request.adminNonce]? = none ∧
      final.replay.adminNonces[request.adminNonce]? = some request.issuedAtEpochSeconds := by
  rw [verifyAdminRequest, bind_of_ok (service_apply machine)] at hrun
  obtain ⟨expected, -, hrun⟩ := ok_after hrun
  obtain ⟨_, -, hrun⟩ := ok_after hrun
  rw [bind_of_ok (livenessNow_apply machine)] at hrun
  obtain ⟨_, hfreshTime, hrun⟩ := ok_after hrun
  obtain ⟨_, -, hrun⟩ := ok_after hrun
  rw [bind_of_ok (service_apply _), bind_of_ok (modifyReplay_apply _ _)] at hrun
  obtain ⟨hadmitted, rfl⟩ := ensure_eq_ok_iff.mp hrun
  obtain ⟨error, hchecked⟩ | ⟨hchecked, hfresh⟩ := machine.replay.admitAdmin_cases machine.now
    adminRequestMaxClockSkewSeconds maxReplayNoncesPerAuthority request.adminNonce
    request.issuedAtEpochSeconds
  · change (machine.replay.admitAdmin _ _ _ _ _).1.isOk at hadmitted
    rw [hchecked] at hadmitted
    cases hadmitted
  · refine ⟨(ensure_eq_ok_iff.mp hfreshTime).1, hfresh, ?_⟩
    change (machine.replay.admitAdmin _ _ _ _ _).2.adminNonces[_]? = _
    rw [hchecked]
    exact ExtTreeMap.getElem?_insert_self

end Administrators

section Nodes

variable (scope : NodeScopeKey) (nodeSignature : Option NodeSignedRequest)
  (requestKind : String) (payloadDigest : Digest) (machine : Machine)

theorem admitted_authenticateNodeRequest : machine.Admitted (finalState
      (authenticateNodeRequest scope nodeSignature requestKind payloadDigest machine)) := by
  have hstart := Machine.Admitted.refl machine
  rw [authenticateNodeRequest, bind_of_ok (service_apply machine)]
  refine finalState_after hstart fun identity _ => ?_
  refine finalState_after hstart fun signature _ => ?_
  refine finalState_after hstart fun _ _ => ?_
  rw [bind_of_ok (livenessNow_apply machine)]
  refine finalState_after hstart fun _ _ => ?_
  have hpruned : machine.Admitted (machine.ticked.withReplay
      (machine.replay.pruneNodes machine.now nodeSignatureWindowSeconds)) :=
    ⟨.refused, .refused, .pruned⟩
  obtain hprepare | ⟨hprepare, hfresh⟩ := machine.replay.prepareNode_cases machine.now
    nodeSignatureWindowSeconds scope signature.nonce
  · exact finalState_admitNonce_bind hprepare hpruned nofun
  refine finalState_admitNonce_bind hprepare hpruned fun _ => ?_
  refine finalState_after hpruned fun _ _ => ?_
  obtain hcommit | hcommit := (machine.replay.pruneNodes machine.now
    nodeSignatureWindowSeconds).commitNode_cases maxNodeReplayNoncesPerAuthority scope
      signature.nonce machine.now
  · exact finalState_admitNonce_bind hcommit hpruned nofun
  · exact finalState_admitNonce_bind hcommit ⟨.refused, .refused, .entered _ _ hfresh⟩
      fun _ => ⟨.refused, .refused, .entered _ _ hfresh⟩

end Nodes

/-! ## What requests may touch

A request reads the clock and changes the replay registry.  A request of a node also
marks the node as seen. -/

section Moves

variable {relation : Machine → Machine → Prop} [IsPreorder Machine relation]
  (tenant : TenantId) (project : ProjectId) (fields : WorkflowActorFields)
  (request : AdminRequest) (scope : NodeScopeKey) (nodeSignature : Option NodeSignedRequest)
  (requestKind : String) (payloadDigest : Digest) (process : ProcessId)
  (task : Option TaskInstanceId)

section

variable (hclock : Moves relation Handler.readClock)
  (hreplay : ∀ change, Moves relation (Handler.modifyReplay change))
include hclock hreplay

theorem moves_workflowActor :
    Moves relation (workflowActor tenant project fields requestKind process task) := by
  rw [workflowActor]
  cases fields.actorAgent with
  | some agent =>
    exact Moves.after fun _ => Moves.after fun _ => Moves.after fun _ => Moves.after fun _ =>
      Moves.bind (moves_livenessNow hclock) fun _ => Moves.bind (moves_admitNonce hreplay _ _)
      fun _ => Moves.after fun _ => Moves.after fun _ => Moves.after fun _ =>
      Moves.bind (moves_admitNonce hreplay _ _) fun _ => Moves.pure _
  | none => exact Moves.after fun _ => Moves.pure _

theorem moves_verifyAdminRequest : Moves relation (verifyAdminRequest request) :=
  Moves.after fun _ => Moves.after fun _ => Moves.after fun _ =>
    Moves.bind (moves_livenessNow hclock) fun _ => Moves.after fun _ => Moves.after fun _ =>
    Moves.after fun _ => Moves.bind (hreplay _) fun _ => Moves.ensure _ _

theorem moves_authenticateNodeRequest
    (hnodes : ∀ change, Moves relation (Handler.modifyNodes change))
    (hseen : ∀ seenAt, Moves relation
      (Handler.modifyCoordinator (·.markNodeIdentitySeen scope seenAt))) :
    Moves relation (authenticateNodeRequest scope nodeSignature requestKind payloadDigest) :=
  Moves.after fun _ => Moves.after fun _ => Moves.after fun _ => Moves.after fun _ =>
    Moves.bind (moves_livenessNow hclock) fun _ => Moves.after fun _ =>
    Moves.bind (moves_admitNonce hreplay _ _) fun _ => Moves.after fun _ =>
    Moves.bind (moves_admitNonce hreplay _ _) fun _ => Moves.bind (moves_livenessNow hclock)
    fun _ => Moves.bind (hnodes _) fun _ => hseen _

end

theorem moves_later_workflowActor :
    Moves Machine.Later (workflowActor tenant project fields requestKind process task) :=
  moves_workflowActor _ _ _ _ _ _ moves_later_readClock fun _ => moves_later_modifyService _

theorem moves_later_verifyAdminRequest : Moves Machine.Later (verifyAdminRequest request) :=
  moves_verifyAdminRequest _ moves_later_readClock fun _ => moves_later_modifyService _

theorem moves_later_authenticateNodeRequest : Moves Machine.Later
      (authenticateNodeRequest scope nodeSignature requestKind payloadDigest) :=
  moves_authenticateNodeRequest _ _ _ _ moves_later_readClock
    (fun _ => moves_later_modifyService _) (fun _ => moves_later_modifyService _)
    fun _ => moves_later_modifyService _

end Moves

/-! ## Runs -/

/-- One step of a run: a request that goes through a replay window, or any other
change that is quiet about what a result follows. -/
inductive ReplayStep (quiet : Machine → Machine → Prop) (machine : Machine) : Machine → Prop
  | workflow (tenant : TenantId) (project : ProjectId) (fields : WorkflowActorFields)
      (requestKind : String) (process : ProcessId) (task : Option TaskInstanceId) :
      ReplayStep quiet machine
        (finalState (workflowActor tenant project fields requestKind process task machine))
  | admin (request : AdminRequest) :
      ReplayStep quiet machine (finalState (verifyAdminRequest request machine))
  | node (scope : NodeScopeKey) (nodeSignature : Option NodeSignedRequest)
      (requestKind : String) (payloadDigest : Digest) :
      ReplayStep quiet machine
        (finalState (authenticateNodeRequest scope nodeSignature requestKind payloadDigest machine))
  | other (after : Machine) (hquiet : quiet machine after) : ReplayStep quiet machine after

section Windows

variable {κ : Type} [Ord κ] [TransOrd κ] [LawfulEqOrd κ]
  {entries : ReplayRegistry → OrderedMap κ ℕ} {window date : ℕ} {key : κ}
  {machine later : Machine}

variable (entries window key date machine) in
/-- The clock does not go back, and the entry is remembered until it expires. -/
structure StaysRemembered : Prop where
  clock : machine.environment.ClockNondecreasing
  remembers : Remembers (lastMoment window) (entries machine.replay) key date machine.now

omit [Primitives] in
theorem StaysRemembered.of_admitted (hstays : StaysRemembered entries window date key machine)
    (hadmits : Admits (lastMoment window) machine.now (entries machine.replay)
      (entries later.replay))
    (hlater : machine.Later later) : StaysRemembered entries window date key later where
  clock := hlater.clockNondecreasing hstays.clock
  remembers := (hstays.remembers.admits hadmits).mono (hlater.now_le hstays.clock)

section

variable (hentries : ∀ {now before after}, Advances now before after →
  Admits (lastMoment window) now (entries before) (entries after))
include hentries

theorem StaysRemembered.step {quiet : Machine → Machine → Prop}
    (hquiet : ∀ {before after}, quiet before after → before.Later after ∧
      (entries after.replay)[key]? = (entries before.replay)[key]?)
    (hstays : StaysRemembered entries window date key machine)
    (hstep : ReplayStep quiet machine later) :
    StaysRemembered entries window date key later := by
  cases hstep with
  | workflow tenant project fields requestKind process task =>
    exact hstays.of_admitted (hentries (admitted_workflowActor _ _ _ _ _ _ machine))
      (moves_later_workflowActor _ _ _ _ _ _ machine)
  | admin request =>
    exact hstays.of_admitted (hentries (admitted_verifyAdminRequest request machine))
      (moves_later_verifyAdminRequest request machine)
  | node scope nodeSignature requestKind payloadDigest =>
    exact hstays.of_admitted (hentries (admitted_authenticateNodeRequest _ _ _ _ machine))
      (moves_later_authenticateNodeRequest _ _ _ _ machine)
  | other _ hother =>
    obtain ⟨hlater, hentry⟩ := hquiet hother
    refine ⟨hlater.clockNondecreasing hstays.clock, ?_⟩
    refine Remembers.mono ?_ (hlater.now_le hstays.clock)
    rw [Remembers, hentry]
    exact hstays.remembers

theorem StaysRemembered.run {quiet : Machine → Machine → Prop}
    (hquiet : ∀ {before after}, quiet before after → before.Later after ∧
      (entries after.replay)[key]? = (entries before.replay)[key]?)
    (hstays : StaysRemembered entries window date key machine)
    (hrun : Relation.ReflTransGen (ReplayStep quiet) machine later) :
    StaysRemembered entries window date key later := by
  induction hrun with
  | refl => exact hstays
  | tail _ hstep ih => exact ih.step hentries hquiet hstep

end

omit [Primitives] [LawfulEqOrd κ] in
/-- A request that is still fresh finds its nonce. -/
theorem StaysRemembered.getElem?_prune (hstays : StaysRemembered entries window date key machine)
    (hfresh : machine.now ≤ date + window) :
    (prune (lastMoment window) machine.now (entries machine.replay))[key]? = some date :=
  hstays.remembers.getElem?_prune (le_min hfresh machine.environment.now_le)

end Windows

/-! ## Requests of agents and administrators -/

/-- Whatever else happens leaves the nonces of agents and administrators alone and
does not turn the clock back. -/
structure Machine.KeepsSignedNonces (before after : Machine) : Prop where
  later : before.Later after
  agents : after.replay.agentNonces = before.replay.agentNonces
  admins : after.replay.adminNonces = before.replay.adminNonces

/-- A workflow request as the coordinator looks at it for its actor. -/
structure WorkflowRequest where
  tenant : TenantId
  project : ProjectId
  fields : WorkflowActorFields
  requestKind : String
  process : ProcessId
  task : Option TaskInstanceId

namespace WorkflowRequest

variable (request : WorkflowRequest)

def perform : Handler WorkflowActor :=
  workflowActor request.tenant request.project request.fields request.requestKind
    request.process request.task

/-- The two requests carry one signed message of an agent. -/
structure SameMessage (again : WorkflowRequest) : Prop where
  tenant : again.tenant = request.tenant
  project : again.project = request.project
  agent : again.fields.actorAgent = request.fields.actorAgent
  signature : again.fields.agentSignature = request.fields.agentSignature
  signed : request.fields.actorAgent.isSome

end WorkflowRequest

/-- The handler returns instead of failing. -/
def Accepts {α : Type} (handler : Handler α) (machine : Machine) : Prop :=
  (returned (handler machine)).isSome

omit [Primitives] in
theorem Accepts.exists_ok {α : Type} {handler : Handler α} {machine : Machine}
    (haccepts : Accepts handler machine) : ∃ value final, handler machine = .ok value final := by
  rw [Accepts] at haccepts
  cases hrun : handler machine with
  | ok value final => exact ⟨value, final, rfl⟩
  | error failure final =>
    rw [hrun] at haccepts
    cases haccepts

section AtMostOnce

variable {machine later : Machine} (hclock : machine.environment.ClockNondecreasing)
include hclock

theorem agent_request_rejected {request again : WorkflowRequest}
    (hsame : request.SameMessage again) (haccepts : Accepts request.perform machine)
    (hrun : Relation.ReflTransGen (ReplayStep Machine.KeepsSignedNonces)
      (finalState (request.perform machine)) later) :
    ¬ Accepts again.perform later := by
  intro hagain
  obtain ⟨agent, hagent⟩ := Option.isSome_iff_exists.mp hsame.signed
  obtain ⟨actor, final, hfirst⟩ := haccepts.exists_ok
  obtain ⟨actor', final', hsecond⟩ := hagain.exists_ok
  have hlater := moves_later_workflowActor request.tenant request.project request.fields
    request.requestKind request.process request.task machine
  rw [WorkflowRequest.perform] at hrun
  rw [WorkflowRequest.perform, workflowActor, hagent] at hfirst
  rw [WorkflowRequest.perform, workflowActor, hsame.agent, hagent] at hsecond
  rw [workflowActor, hagent] at hlater hrun
  rw [hfirst, finalState_ok] at hlater hrun
  obtain ⟨agentId, signature, hid, hsignature, -, -, hentry⟩ :=
    agentWorkflowActor_eq_ok _ _ _ _ _ _ _ _ hfirst
  obtain ⟨agentId', signature', hid', hsignature', hfresh, hunknown, -⟩ :=
    agentWorkflowActor_eq_ok _ _ _ _ _ _ _ _ hsecond
  rw [hsame.signature, hsignature] at hsignature'
  obtain rfl := Option.some.inj hsignature'
  rw [hid] at hid'
  obtain rfl := Except.ok.inj hid'
  rw [hsame.tenant, hsame.project] at hunknown
  have hstays : StaysRemembered (·.agentNonces) agentSignatureWindowSeconds
      signature.issuedAtEpochSeconds (request.tenant, request.project, agentId, signature.nonce)
      final :=
    ⟨hlater.clockNondecreasing hclock, Or.inl hentry⟩
  have hfinds := (hstays.run (fun hadvances => hadvances.agents)
    (fun hquiet => ⟨hquiet.later, by rw [hquiet.agents]⟩) hrun).getElem?_prune (by
      rw [absDiff] at hfresh
      omega)
  exact absurd (hfinds.symm.trans hunknown) (Option.some_ne_none _)

theorem admin_request_rejected {request again : AdminRequest}
    (hnonce : again.adminNonce = request.adminNonce)
    (hissued : again.issuedAtEpochSeconds = request.issuedAtEpochSeconds)
    (haccepts : Accepts (verifyAdminRequest request) machine)
    (hrun : Relation.ReflTransGen (ReplayStep Machine.KeepsSignedNonces)
      (finalState (verifyAdminRequest request machine)) later) :
    ¬ Accepts (verifyAdminRequest again) later := by
  intro hagain
  obtain ⟨_, final, hfirst⟩ := haccepts.exists_ok
  obtain ⟨_, final', hsecond⟩ := hagain.exists_ok
  have hlater := moves_later_verifyAdminRequest request machine
  rw [hfirst, finalState_ok] at hlater hrun
  obtain ⟨-, -, hentry⟩ := verifyAdminRequest_eq_ok _ _ hfirst
  obtain ⟨hfresh, hunknown, -⟩ := verifyAdminRequest_eq_ok _ _ hsecond
  rw [hnonce] at hunknown
  rw [hissued] at hfresh
  have hstays : StaysRemembered (·.adminNonces) adminRequestMaxClockSkewSeconds
      request.issuedAtEpochSeconds request.adminNonce final :=
    ⟨hlater.clockNondecreasing hclock, Or.inl hentry⟩
  have hfinds := (hstays.run (fun hadvances => hadvances.admins)
    (fun hquiet => ⟨hquiet.later, by rw [hquiet.admins]⟩) hrun).getElem?_prune (by
      rw [absDiff] at hfresh
      omega)
  exact absurd (hfinds.symm.trans hunknown) (Option.some_ne_none _)

end AtMostOnce

/-- A signed request of an agent, and a request of the administrator, is accepted
at most once in a run whose clock does not go back. -/
theorem signed_request_accepted_once {machine later : Machine}
    (hclock : machine.environment.ClockNondecreasing) :
    (∀ request again : WorkflowRequest, request.SameMessage again →
      Accepts request.perform machine →
      Relation.ReflTransGen (ReplayStep Machine.KeepsSignedNonces)
        (finalState (request.perform machine)) later →
      ¬ Accepts again.perform later) ∧
    ∀ request again : AdminRequest, again.adminNonce = request.adminNonce →
      again.issuedAtEpochSeconds = request.issuedAtEpochSeconds →
      Accepts (verifyAdminRequest request) machine →
      Relation.ReflTransGen (ReplayStep Machine.KeepsSignedNonces)
        (finalState (verifyAdminRequest request machine)) later →
      ¬ Accepts (verifyAdminRequest again) later :=
  ⟨fun _ _ hsame haccepts hrun => agent_request_rejected hclock hsame haccepts hrun,
    fun _ _ hnonce hissued haccepts hrun =>
      admin_request_rejected hclock hnonce hissued haccepts hrun⟩

instance {α : Type} (handler : Handler α) (machine : Machine) :
    Decidable (Accepts handler machine) :=
  inferInstanceAs (Decidable (_ = true))

namespace ReplaySample

/-- An environment in which the clock jumps after some readings. -/
def environment (readings before after : ℕ) (hbefore : before ≤ u64Max) (hafter : after ≤ u64Max) :
    Environment where
  clock index := some (if index < readings then before else after)
  clock_bounded index seconds hreading := by
    rw [← Option.some.inj hreading]
    split
    · exact hbefore
    · exact hafter
  tokens := fun _ => none
  tokens_size := nofun
  storeAccepts := fun _ => true
  instants := fun _ => 0
  transferSecrets := fun _ => .error "none"
  mainDebug := fun _ => {}

omit [Primitives] in
theorem clockNondecreasing_environment {readings before after : ℕ} (hle : before ≤ after)
    (hbefore : before ≤ u64Max) (hafter : after ≤ u64Max) :
    (environment readings before after hbefore hafter).ClockNondecreasing := by
  intro earlier later horder
  change (if earlier < readings then before else after) ≤ if later < readings then before else after
  split <;> split <;> omega

def publicKey : String := "ed25519:AAAAAAAAAAAAAAAAAAAAAAAAAAAAAAAAAAAAAAAAAAA="

def signature : String :=
  "ed25519:AAAAAAAAAAAAAAAAAAAAAAAAAAAAAAAAAAAAAAAAAAAAAAAAAAAAAAAAAAAAAAAAAAAAAAAAAAAAAAAAAAAAAA=="

def tenant : TenantId := ⟨"tenant", tenant_valid⟩

def project : ProjectId := ⟨"project", project_valid⟩

/-- The clock jumps from 100 to 650 after the first reading. -/
def machine : Machine where
  service :=
    { coordinator := (({} : Coordinator).registerAgentPublicKey tenant project
        ⟨"user", user_valid⟩ ⟨"agent", by decide⟩ publicKey).2
      adminTokenDigest := some ⟨"token"⟩ }
  environment := environment 1 100 650 hundred_le (by decide)

/-- A request that is dated 300 seconds ahead of the first reading. -/
def workflowRequest : WorkflowRequest where
  tenant := tenant
  project := project
  fields :=
    { actorUser := none
      actorAgent := some "agent"
      agentPublicKeyFingerprint := none
      agentSignature := some ⟨"nonce", 400, signature⟩
      requestPayloadDigest := some ⟨"payload"⟩ }
  requestKind := "start_process"
  process := ⟨"process", process_valid⟩
  task := none

def adminRequest : AdminRequest :=
  let request : AdminRequest := ⟨"suspend_tenant", "tenant", "user", "tenant", ⟨""⟩, "nonce", 400⟩
  { request with adminProof := request.expectedProof ⟨"token"⟩ }

end ReplaySample

omit [Primitives] in
/-- Requests that were dated ahead are accepted, and recognised 550 seconds later,
when they are still fresh. -/
theorem future_dated_request_rejected_again :
    letI := Primitives.sample
    (Accepts ReplaySample.workflowRequest.perform ReplaySample.machine ∧
      ¬ Accepts ReplaySample.workflowRequest.perform
        (finalState (ReplaySample.workflowRequest.perform ReplaySample.machine))) ∧
    Accepts (verifyAdminRequest ReplaySample.adminRequest) ReplaySample.machine ∧
      ¬ Accepts (verifyAdminRequest ReplaySample.adminRequest)
        (finalState (verifyAdminRequest ReplaySample.adminRequest ReplaySample.machine)) := by
  let := Primitives.sample
  have hclock : ReplaySample.machine.environment.ClockNondecreasing :=
    ReplaySample.clockNondecreasing_environment (by decide) (by decide) (by decide)
  have hworkflow : Accepts ReplaySample.workflowRequest.perform ReplaySample.machine := by
    decide +kernel
  have hadmin : Accepts (verifyAdminRequest ReplaySample.adminRequest) ReplaySample.machine := by
    decide +kernel
  exact ⟨⟨hworkflow, (signed_request_accepted_once hclock).1 _ _ ⟨rfl, rfl, rfl, rfl, rfl⟩
      hworkflow .refl⟩,
    hadmin, (signed_request_accepted_once hclock).2 _ _ rfl rfl hadmin .refl⟩

/-! ## Requests of nodes -/

/-- Whatever else happens neither revokes the node nor clears its nonces, and does
not turn the clock back. -/
structure Machine.KeepsNode (scope : NodeScopeKey) (before after : Machine) : Prop where
  later : before.Later after
  nonces : ∀ nonce : String, after.replay.nodeNonces[(scope, nonce)]? =
    before.replay.nodeNonces[(scope, nonce)]?
  enrolled : (before.service.coordinator.nodeIdentity scope).isSome →
    (after.service.coordinator.nodeIdentity scope).isSome

/-- A signed request of a node as it is authenticated. -/
structure SignedNodeRequest where
  scope : NodeScopeKey
  signature : NodeSignedRequest
  requestKind : String
  payloadDigest : Digest

def SignedNodeRequest.perform (request : SignedNodeRequest) : Handler Unit :=
  authenticateNodeRequest request.scope (some request.signature) request.requestKind
    request.payloadDigest

/-- What an accepted node request went through; its nonce is dated by the time of
acceptance. -/
theorem SignedNodeRequest.perform_eq_ok {request : SignedNodeRequest} {machine final : Machine}
    (hrun : request.perform machine = .ok () final) :
    (machine.service.coordinator.nodeIdentity request.scope).isSome ∧
      nonceIsValid request.signature.nonce ∧
      final.replay.nodeNonces[(request.scope, request.signature.nonce)]? = some machine.now := by
  rw [SignedNodeRequest.perform, authenticateNodeRequest, bind_of_ok (service_apply machine)]
    at hrun
  obtain ⟨identity, hidentity, hrun⟩ := ok_after hrun
  rw [bind_of_ok (orFail_eq_ok_iff.mpr ⟨rfl, rfl⟩)] at hrun
  obtain ⟨_, hnonce, hrun⟩ := ok_after hrun
  rw [bind_of_ok (livenessNow_apply machine)] at hrun
  obtain ⟨_, -, hrun⟩ := ok_after hrun
  obtain ⟨_, _, hchecked, hrun⟩ := bind_eq_ok_iff.mp hrun
  obtain ⟨-, rfl⟩ := admitNonce_eq_ok_iff.mp hchecked
  obtain ⟨_, -, hrun⟩ := ok_after hrun
  obtain ⟨_, _, hchecked, hrun⟩ := bind_eq_ok_iff.mp hrun
  obtain ⟨hcommitted, rfl⟩ := admitNonce_eq_ok_iff.mp hchecked
  rw [bind_of_ok (livenessNow_apply _)] at hrun
  refine ⟨by rw [(orFail_eq_ok_iff.mp hidentity).1]; rfl, (ensure_eq_ok_iff.mp hnonce).1, ?_⟩
  obtain hcommit | hcommit := ReplayRegistry.commitNode_cases _ maxNodeReplayNoncesPerAuthority
    request.scope request.signature.nonce machine.now
  · rw [hcommit] at hcommitted
    cases hcommitted
  · rw [hcommit] at hrun
    -- the two marks of the last sighting leave the registry as it is
    cases hrun
    exact ExtTreeMap.getElem?_insert_self

omit [Primitives] in
/-- Marking nodes as seen revokes none. -/
theorem isSome_nodeIdentity_markNodeIdentitySeen (coordinator : Coordinator)
    (scope seen : NodeScopeKey) (seenAt : ℕ)
    (henrolled : (coordinator.nodeIdentity scope).isSome) :
    ((coordinator.markNodeIdentitySeen seen seenAt).nodeIdentity scope).isSome := by
  rw [Coordinator.nodeIdentity] at henrolled ⊢
  rw [Coordinator.markNodeIdentitySeen, ExtTreeMap.getElem?_modify]
  split
  · rename_i heq
    rw [LawfulEqCmp.compare_eq_iff_eq.mp heq, Option.isSome_map]
    exact henrolled
  · exact henrolled

/-- The node stays enrolled. -/
def Machine.StaysEnrolled (scope : NodeScopeKey) (before after : Machine) : Prop :=
  (before.service.coordinator.nodeIdentity scope).isSome →
    (after.service.coordinator.nodeIdentity scope).isSome

instance (scope : NodeScopeKey) : IsPreorder Machine (Machine.StaysEnrolled scope) where
  refl _ := id
  trans _ _ _ hfirst hsecond := hsecond ∘ hfirst

theorem staysEnrolled_step {scope : NodeScopeKey} {machine later : Machine}
    (hstep : ReplayStep (Machine.KeepsNode scope) machine later) :
    machine.StaysEnrolled scope later := by
  cases hstep with
  | workflow tenant project fields requestKind process task =>
    exact moves_workflowActor _ _ _ _ _ _ (fun _ => id) (fun _ _ => id) machine
  | admin request => exact moves_verifyAdminRequest request (fun _ => id) (fun _ _ => id) machine
  | node seen nodeSignature requestKind payloadDigest =>
    exact moves_authenticateNodeRequest _ _ _ _ (fun _ => id) (fun _ _ => id) (fun _ _ => id)
      (fun _ _ => isSome_nodeIdentity_markNodeIdentitySeen _ _ _ _) machine
  | other _ hother => exact hother.enrolled

theorem staysEnrolled_run {scope : NodeScopeKey} {machine later : Machine}
    (hrun : Relation.ReflTransGen (ReplayStep (Machine.KeepsNode scope)) machine later) :
    machine.StaysEnrolled scope later := by
  induction hrun with
  | refl => exact id
  | tail _ hstep ih => exact staysEnrolled_step hstep ∘ ih

/-- How a presentation fails whose nonce is remembered until the request is stale. -/
theorem SignedNodeRequest.perform_of_remembered {request : SignedNodeRequest} {machine : Machine}
    (henrolled : (machine.service.coordinator.nodeIdentity request.scope).isSome)
    (hnonce : nonceIsValid request.signature.nonce) {acceptedAt : ℕ}
    (hstays : StaysRemembered (·.nodeNonces) nodeSignatureWindowSeconds acceptedAt
      (request.scope, request.signature.nonce) machine)
    (hdated : request.signature.issuedAtEpochSeconds ≤ acceptedAt) :
    ∃ final, request.perform machine = .error outsideSignatureWindow final ∨
      request.perform machine = .error replayedNonce final := by
  obtain ⟨identity, hidentity⟩ := Option.isSome_iff_exists.mp henrolled
  have hensure : ensure _ (unauthorized "node signed request nonce is missing or invalid")
      machine = .ok () machine :=
    ensure_eq_ok_iff.mpr ⟨hnonce, rfl⟩
  rw [SignedNodeRequest.perform, authenticateNodeRequest, bind_of_ok (service_apply machine),
    bind_of_ok (orFail_eq_ok_iff.mpr ⟨hidentity, rfl⟩),
    bind_of_ok (orFail_eq_ok_iff.mpr ⟨rfl, rfl⟩), bind_of_ok hensure,
    bind_of_ok (livenessNow_apply machine)]
  by_cases hwindow : absDiff request.signature.issuedAtEpochSeconds machine.now ≤
      nodeSignatureWindowSeconds
  · have hfinds := hstays.getElem?_prune (by
      rw [absDiff] at hwindow
      omega)
    obtain hprepare | ⟨-, hfresh⟩ := machine.replay.prepareNode_cases machine.now
      nodeSignatureWindowSeconds request.scope request.signature.nonce
    · have hensure : ensure _ outsideSignatureWindow machine.ticked = .ok () machine.ticked :=
        ensure_eq_ok_iff.mpr ⟨hwindow, rfl⟩
      rw [bind_of_ok hensure]
      exact ⟨_, Or.inr (bind_of_error (admitNonce_of_error hprepare))⟩
    · exact absurd (hfinds.symm.trans hfresh) (Option.some_ne_none _)
  · exact ⟨_, Or.inl (bind_of_error (ensure_eq_error_iff.mpr ⟨hwindow, rfl, rfl⟩))⟩

/-- A node request that was not dated in the future when it was accepted is not
accepted again: whatever is presented later with its scope, nonce and issue time is
recognised as a replay or as stale. -/
theorem node_request_accepted_once {machine later : Machine}
    (hclock : machine.environment.ClockNondecreasing) (request again : SignedNodeRequest)
    (hscope : again.scope = request.scope)
    (hnonce : again.signature.nonce = request.signature.nonce)
    (hissued : again.signature.issuedAtEpochSeconds = request.signature.issuedAtEpochSeconds)
    (hdated : request.signature.issuedAtEpochSeconds ≤ machine.now)
    (haccepts : Accepts request.perform machine)
    (hrun : Relation.ReflTransGen (ReplayStep (Machine.KeepsNode request.scope))
      (finalState (request.perform machine)) later) :
    ∃ final, again.perform later = .error outsideSignatureWindow final ∨
      again.perform later = .error replayedNonce final := by
  obtain ⟨_, final, hfirst⟩ := haccepts.exists_ok
  have hlater := moves_later_authenticateNodeRequest request.scope (some request.signature)
    request.requestKind request.payloadDigest machine
  have hstep : ReplayStep (Machine.KeepsNode request.scope) machine
      (finalState (request.perform machine)) := ReplayStep.node _ _ _ _
  obtain ⟨hidentity, hvalid, hentry⟩ := SignedNodeRequest.perform_eq_ok hfirst
  have hstays : StaysRemembered (·.nodeNonces) nodeSignatureWindowSeconds machine.now
      (request.scope, request.signature.nonce) (finalState (request.perform machine)) := by
    refine ⟨hlater.clockNondecreasing hclock, Or.inl ?_⟩
    rw [hfirst]
    exact hentry
  have hstays := hstays.run (fun hadvances => hadvances.nodes)
    (fun hquiet => ⟨hquiet.later, hquiet.nonces _⟩) hrun
  have henrolled := staysEnrolled_run hrun (staysEnrolled_step hstep hidentity)
  rw [← hscope] at henrolled hstays
  rw [← hnonce] at hvalid hstays
  exact SignedNodeRequest.perform_of_remembered henrolled hvalid hstays (hissued.trans_le hdated)

end Requests

namespace ReplaySample

def scope : NodeScopeKey := ⟨tenant, project, ⟨"node", node_valid⟩⟩

/-- The clock jumps from 100 to 131 after two readings, which is what accepting a
node request takes. -/
def nodeMachine : Machine where
  service := { coordinator := ({} : Coordinator).enrollNode scope publicKey "node:attach" }
  environment := environment 2 100 131 hundred_le (by decide)

def nodeRequest (issuedAt : ℕ) : SignedNodeRequest where
  scope := scope
  signature := ⟨"nonce", issuedAt, signature, none, none⟩
  requestKind := "node_heartbeat"
  payloadDigest := ⟨"payload"⟩

end ReplaySample

/-- A request dated 30 seconds ahead is accepted a second time 31 seconds after the
first. -/
theorem future_dated_node_request_accepted_twice :
    letI := Primitives.sample
    let request := ReplaySample.nodeRequest 130
    Accepts request.perform ReplaySample.nodeMachine ∧
      Accepts request.perform (finalState (request.perform ReplaySample.nodeMachine)) := by
  decide +kernel

open ReplaySample in
/-- A request dated by the time of acceptance is accepted once, also with another payload. -/
theorem node_request_rejected_again :
    letI := Primitives.sample
    let request := nodeRequest 100
    let again := { request with payloadDigest := ⟨"other"⟩ }
    Accepts request.perform nodeMachine ∧ ∃ final,
        again.perform (finalState (request.perform nodeMachine)) =
            .error outsideSignatureWindow final ∨
          again.perform (finalState (request.perform nodeMachine)) =
            .error replayedNonce final := by
  let := Primitives.sample
  have haccepts : Accepts (nodeRequest 100).perform nodeMachine := by
    decide +kernel
  have hdated : (nodeRequest 100).signature.issuedAtEpochSeconds ≤ nodeMachine.now := by
    decide +kernel
  exact ⟨haccepts, node_request_accepted_once
    (clockNondecreasing_environment (by decide) (by decide) (by decide)) _ _ rfl rfl rfl hdated
    haccepts .refl⟩

end Clusterflux
