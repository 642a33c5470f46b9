import Clusterflux.Coordinator.Durable
import Clusterflux.Foundation.Queues

/-!
# Assignment authority

An assignment is offered to a node, acknowledged by it, renewed by its requests
and finally retired into a bounded history.  Every operation looks the
assignment up by its identifier; attempt and offer epoch fence older authority.
-/

namespace Clusterflux

open LengthFraming

def maxTerminalAssignmentHistory : ℕ := 4096

namespace ActiveAssignmentRecord

variable (record : ActiveAssignmentRecord)

section Authority

variable (scope : NodeScopeKey) (authority : AssignmentAuthority) (now : ℕ)

/-- The node and the fence of a request are those of the assignment. -/
def Matches : Prop :=
  record.tenant = scope.tenant ∧ record.project = scope.project ∧ record.node = scope.node ∧
    record.attemptId = authority.attemptId ∧ record.offerEpoch = authority.offerEpoch

instance : Decidable (record.Matches scope authority) :=
  inferInstanceAs (Decidable (_ ∧ _))

def CanBeAcknowledged : Prop :=
  record.Matches scope authority ∧ now ≤ record.leaseExpiresAt ∧
    (record.state = .offered ∨ record.state = .acknowledged ∨ record.state = .running)

instance : Decidable (record.CanBeAcknowledged scope authority now) :=
  inferInstanceAs (Decidable (_ ∧ _))

def IsAuthorized : Prop :=
  record.Matches scope authority ∧ record.acknowledgedAt.isSome ∧
    now ≤ record.leaseExpiresAt ∧ (record.state = .acknowledged ∨ record.state = .running)

instance : Decidable (record.IsAuthorized scope authority now) :=
  inferInstanceAs (Decidable (_ ∧ _))

end Authority

/-- The record after an acknowledgement. -/
def acknowledged (now assignmentSeconds : ℕ) : ActiveAssignmentRecord :=
  { record with
    acknowledgedAt := record.acknowledgedAt <|> some now
    state := .acknowledged
    leaseExpiresAt := saturatingAdd now assignmentSeconds }

/-- The record after a request that renewed its lease. -/
def renewed (now assignmentSeconds : ℕ) : ActiveAssignmentRecord :=
  { record with
    state := .running
    leaseExpiresAt := saturatingAdd now assignmentSeconds }

def toTerminal (now : ℕ) (replayAllowed : Bool) : TerminalAssignmentRecord where
  assignmentId := record.assignmentId
  tenant := record.tenant
  project := record.project
  node := record.node
  attemptId := record.attemptId
  offerEpoch := record.offerEpoch
  terminalAt := now
  replayAllowed := replayAllowed
  terminalMutations := record.terminalMutations

end ActiveAssignmentRecord

/-- The terminal record answers for the node and fence of a request. -/
def TerminalAssignmentRecord.Matches (record : TerminalAssignmentRecord)
    (scope : NodeScopeKey) (authority : AssignmentAuthority) : Prop :=
  record.replayAllowed ∧ record.tenant = scope.tenant ∧ record.project = scope.project ∧
    record.node = scope.node ∧ record.attemptId = authority.attemptId ∧
    record.offerEpoch = authority.offerEpoch

instance (record : TerminalAssignmentRecord) (scope : NodeScopeKey)
    (authority : AssignmentAuthority) : Decidable (record.Matches scope authority) :=
  inferInstanceAs (Decidable (_ ∧ _))

namespace DurableState

variable (durable : DurableState)

/-- The identifier of an offer is a digest of its owner, attempt and epoch. -/
def offeredAssignmentId [Primitives] (ownerIdentity attemptId : String) (offerEpoch : ℕ) : String :=
  "assignment-" ++ Primitives.sha256Hex
    (utf8 (ownerIdentity ++ "\x00" ++ attemptId ++ "\x00" ++ toString offerEpoch))

def offeredAssignment [Primitives] (kind : AssignmentKind) (scope : NodeScopeKey)
    (attemptId : String) (offerEpoch now offerSeconds : ℕ) (ownerIdentity : String) :
    ActiveAssignmentRecord where
  assignmentId := offeredAssignmentId ownerIdentity attemptId offerEpoch
  kind := kind
  tenant := scope.tenant
  project := scope.project
  node := scope.node
  attemptId := attemptId
  offerEpoch := offerEpoch
  state := .offered
  offeredAt := now
  acknowledgedAt := none
  leaseExpiresAt := saturatingAdd now offerSeconds
  terminalMutations := []

/-- Enter an offered assignment under its identifier. -/
def offerActiveAssignment (record : ActiveAssignmentRecord) : DurableState :=
  { durable with
    activeAssignments := durable.activeAssignments.insert record.assignmentId record }

def terminalAssignmentMatches (scope : NodeScopeKey) (authority : AssignmentAuthority) : Bool :=
  match durable.terminalAssignmentHistory.reverse.find? fun terminal =>
      terminal.assignmentId = authority.assignmentId with
  | some terminal => terminal.Matches scope authority
  | none => false

def acknowledgeActiveAssignment (scope : NodeScopeKey) (authority : AssignmentAuthority)
    (now assignmentSeconds : ℕ) : Bool × DurableState :=
  match durable.activeAssignments[authority.assignmentId]? with
  | none => (durable.terminalAssignmentMatches scope authority, durable)
  | some active =>
    if active.CanBeAcknowledged scope authority now then
      (true, { durable with
        activeAssignments := durable.activeAssignments.insert authority.assignmentId
          (active.acknowledged now assignmentSeconds) })
    else (false, durable)

def activeAssignmentIsAuthorized (scope : NodeScopeKey) (authority : AssignmentAuthority)
    (now : ℕ) : Bool :=
  match durable.activeAssignments[authority.assignmentId]? with
  | none => false
  | some active => active.IsAuthorized scope authority now

/-- A request with live authority renews the lease. -/
def authorizeActiveAssignment (scope : NodeScopeKey) (authority : AssignmentAuthority)
    (now assignmentSeconds : ℕ) : Bool × DurableState :=
  match durable.activeAssignments[authority.assignmentId]? with
  | none => (false, durable)
  | some active =>
    if active.IsAuthorized scope authority now then
      (true, { durable with
        activeAssignments := durable.activeAssignments.insert authority.assignmentId
          (active.renewed now assignmentSeconds) })
    else (false, durable)

/-- Retire an assignment whose fence is that of the authority.  The lookup does
not ask which node the authority comes from. -/
def terminalizeActiveAssignment (authority : AssignmentAuthority) (now : ℕ)
    (replayAllowed : Bool) : DurableState :=
  match durable.activeAssignments[authority.assignmentId]? with
  | none => durable
  | some active =>
    if active.attemptId = authority.attemptId ∧ active.offerEpoch = authority.offerEpoch then
      { durable with
        activeAssignments := durable.activeAssignments.erase authority.assignmentId
        terminalAssignmentHistory :=
          BoundedQueue.push maxTerminalAssignmentHistory durable.terminalAssignmentHistory
            (active.toTerminal now replayAllowed) }
    else
      -- The record goes back under the identifier it carries.
      { durable with
        activeAssignments := (durable.activeAssignments.erase authority.assignmentId).insert
          active.assignmentId active }

def expiredActiveAssignments (now : ℕ) : List ActiveAssignmentRecord :=
  durable.activeAssignments.values.filter fun active => active.leaseExpiresAt < now

def activeAssignmentForKind (kind : AssignmentKind) : Option ActiveAssignmentRecord :=
  durable.activeAssignments.values.find? fun active => active.kind = kind

/-- Applies a change to the last element with a property, if there is one. -/
def modifyLast {α : Type} (property : α → Bool) (change : α → α) (items : List α) :
    Option (List α) :=
  match items with
  | [] => none
  | item :: rest =>
    match modifyLast property change rest with
    | some changed => some (item :: changed)
    | none => if property item then some (change item :: rest) else none

end DurableState

end Clusterflux
