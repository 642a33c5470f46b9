import Clusterflux.Verification.TransferCalls
import Clusterflux.Verification.TransferHolds

/-!
# Runs of the artifact interchange

If holds and unfinished transfers correspond, they still do after every call that
does not end a transfer on one of the two paths that forget the hold: a report
refused for the path its bytes took, and the revocation of a node.
-/

namespace Clusterflux

open InterchangeRegistry

section

variable {machine : Machine} {service : CoordinatorService} {transferId : String}
  {report : TransferReport}

/-! ## Calls -/

/-- No unfinished transfer has the node as one of its ends. -/
def CoordinatorService.Idle (service : CoordinatorService) (scope : NodeScopeKey) : Prop :=
  ∀ (transferId : String) transfer,
    service.interchangeRegistry.transfers[transferId]? = some transfer →
      transfer.matchesActiveNode scope = false

/-- The call does not take one of the two paths that end a transfer and forget
its hold: a report whose bytes took a forbidden path, and the revocation of a
node with unfinished transfers. -/
def InterchangeCall.ReleasesHolds (call : InterchangeCall) (service : CoordinatorService) : Prop :=
  match call with
  | .report message => ∀ scope stored, message.toNodeFields.Names scope →
      service.interchangeRegistry.transfers[message.transferId]? = some stored →
        ¬ stored.FailsByRelay scope (transferReport message)
  | .revokeNode fields _ => ∀ scope, fields.Names scope → service.Idle scope
  | _ => True

/-- Holds and unfinished transfers of a service correspond. -/
def CoordinatorService.HoldsMatch (service : CoordinatorService) : Prop :=
  TransferHoldsMatch service.interchangeRegistry service.artifactRegistry

theorem Entered.holdsMatch (hentered : Entered machine service)
    (hmatch : machine.service.HoldsMatch) : service.HoldsMatch := by
  obtain rfl | ⟨first, -, rfl⟩ := hentered
  · exact hmatch
  · exact hmatch.expire first _ _ _

theorem Elsewhere.holdsMatch {after : CoordinatorService} (helsewhere : Elsewhere service after)
    (hmatch : service.HoldsMatch) : after.HoldsMatch :=
  hmatch.of_activity (fun _ => by rw [helsewhere.transfers]) helsewhere.holds

/-- An expired transfer does not fail by its path any more. -/
theorem Entered.not_failsByRelay {scope : NodeScopeKey} (hentered : Entered machine service)
    (hrelay : ∀ stored, machine.service.interchangeRegistry.transfers[transferId]? = some stored →
      ¬ stored.FailsByRelay scope report) {stored : InterchangeTransfer}
    (hstored : service.interchangeRegistry.transfers[transferId]? = some stored) :
    ¬ stored.FailsByRelay scope report := by
  obtain rfl | ⟨first, -, rfl⟩ := hentered
  · exact hrelay stored hstored
  simp only [CoordinatorService.expireInterchange, InterchangeRegistry.expire,
    Std.ExtTreeMap.getElem?_filter', Option.filter_eq_some_iff] at hstored
  obtain ⟨before, hbefore, rfl | ⟨-, rfl⟩⟩ := lookup_endTransfers hstored.1
  · exact hrelay _ hbefore
  · rintro ⟨-, hactive, -⟩
    cases hactive

namespace CoordinatorService.HoldsMatch

theorem reportInterchange {scope : NodeScopeKey} (hmatch : service.HoldsMatch)
    (hrelay : ∀ stored, service.interchangeRegistry.transfers[transferId]? = some stored →
      ¬ stored.FailsByRelay scope report) (now : ℕ) :
    (service.reportInterchange scope transferId report now).2.HoldsMatch := by
  obtain ⟨hrefused, haccepted⟩ := hmatch.report hrelay
    service.artifactInterchangeConfiguration.lifetimes now
  simp only [HoldsMatch, CoordinatorService.reportInterchange]
  split
  · rename_i progress hprogress
    exact haccepted progress hprogress
  · rename_i error herror
    exact hrefused error herror

theorem createInterchange {terms : TransferTerms} (hmatch : service.HoldsMatch)
    (habsent : service.interchangeRegistry.transfers[terms.transferId]? = none)
    (hknown : service.artifactRegistry.artifacts.contains terms.transfer.key = true) :
    (service.createInterchange terms).2.HoldsMatch := by
  have hpruned := hmatch.pruneTerminalToFit maxInterchangeTransfers
  by_cases hcapacity : (service.interchangeRegistry.pruneTerminalToFit
      maxInterchangeTransfers).transfers.size ≥ maxInterchangeTransfers
  · simp only [CoordinatorService.createInterchange, create, if_pos hcapacity]
    exact hpruned
  · simp only [CoordinatorService.createInterchange, create, if_neg hcapacity]
    refine hpruned.insert ?_ hknown
    exact (Follows.pruneTerminalToFit _ _).carries.absent habsent

/-- A node without unfinished transfers may go: nothing fails with it. -/
theorem failNode {scope : NodeScopeKey} (hmatch : service.HoldsMatch) (hidle : service.Idle scope)
    (now : ℕ) : HoldsMatch { service with
      interchangeRegistry := service.interchangeRegistry.failNode scope now } := by
  refine hmatch.of_activity (fun id => ?_) rfl
  simp only [InterchangeRegistry.failNode, endTransfers, Std.ExtTreeMap.getElem?_map]
  cases hlookup : service.interchangeRegistry.transfers[id]? with
  | none => rfl
  | some transfer => simp [hidle id transfer hlookup]

/-- Explicit retention is not the hold of a transfer. -/
theorem applySoftDrainPolicy (hmatch : service.HoldsMatch) (scope : NodeScopeKey) :
    (service.applySoftDrainPolicy scope).HoldsMatch := by
  refine ⟨hmatch.keyed, fun key transferId => ?_⟩
  refine Iff.trans ?_ (hmatch.held_iff key transferId)
  refine ArtifactRegistry.holds_dropHolds_iff.trans ?_
  simp

end CoordinatorService.HoldsMatch

/-- The outcome of a call that releases the holds of the transfers it ends. -/
theorem CallOutcome.holdsMatch {call : InterchangeCall}
    (houtcome : CallOutcome machine call service) (hreleases : call.ReleasesHolds machine.service)
    (hunused : machine.environment.TokenUnused machine.service.interchangeRegistry)
    (hmatch : machine.service.HoldsMatch) : service.HoldsMatch := by
  cases houtcome with
  | elsewhere hentered helsewhere => exact helsewhere.holdsMatch (hentered.holdsMatch hmatch)
  | reassigned hentered hreassigns => exact (hentered.holdsMatch hmatch).reassigns hreassigns
  | renewed hentered hfound lifetimes => exact (hentered.holdsMatch hmatch).renewed hfound lifetimes
  | created hcreation =>
    have hentered : Entered machine _ := .inr ⟨_, hcreation.expiry, rfl⟩
    exact (hentered.holdsMatch hmatch).createInterchange
      (hentered.carries.absent (hcreation.absent hunused)) hcreation.known
  | reported hentered hnames now =>
    refine (hentered.holdsMatch hmatch).reportInterchange (fun stored hstored => ?_) now
    exact hentered.not_failsByRelay (fun before => hreleases _ before hnames) hstored
  | configured => exact hmatch
  | cancelled key now => exact hmatch.endTransfers _ _ fun _ => ⟨rfl, rfl⟩
  | softDrained scope => exact hmatch.applySoftDrainPolicy scope
  | hardDrained scope now => exact hmatch.endTransfers _ _ fun _ => ⟨rfl, rfl⟩
  | revoked hnames now hfailed =>
    exact hfailed.holdsMatch (hmatch.failNode (hreleases _ hnames) now)

/-! ## Runs -/

/-- Every call of the run draws an unused token and releases the holds of the
transfers it ends. -/
def CoordinatorService.ReleasesHolds (service : CoordinatorService) :
    List (InterchangeCall × Environment) → Prop
  | [] => True
  | (call, environment) :: calls =>
    environment.TokenUnused service.interchangeRegistry ∧ call.ReleasesHolds service ∧
      (call.perform ⟨service, environment⟩).ReleasesHolds calls

/-- From a state in which holds and unfinished transfers correspond, every run
whose calls release the holds of the transfers they end leads to such a state: an
artifact is held for a transfer if and only if the transfer is stored for that
artifact and unfinished. -/
theorem transfer_held_iff_unfinished (service : CoordinatorService)
    (hstart : TransferHoldsMatch service.interchangeRegistry service.artifactRegistry)
    (calls : List (InterchangeCall × Environment)) (hreleases : service.ReleasesHolds calls)
    (key : ArtifactScopeKey) (transferId : String) :
    (service.performCalls calls).artifactRegistry.Holds key (.activeTransfer transferId) ↔
      ∃ transfer, (service.performCalls calls).interchangeRegistry.transfers[transferId]? =
          some transfer ∧
        transfer.key = key ∧ transfer.record.state.terminal = false := by
  induction calls generalizing service with
  | nil => exact hstart.held_iff key transferId
  | cons step calls ih =>
    obtain ⟨call, environment⟩ := step
    obtain ⟨hunused, hcall, hrest⟩ := hreleases
    refine ih _ ?_ hrest
    exact (call.outcome_perform ⟨service, environment⟩).holdsMatch hcall hunused hstart

end

namespace TransferSample

/-- Two enrolled, live and advertised nodes, one of which retains an artifact of a
running process. -/
def service : CoordinatorService where
  coordinator := (({} : Coordinator).enrollNode (scope source) "key" "node:attach").enrollNode
    (scope destination) "key" "node:attach"
  nodeRegistry :=
    { lastSeenEpochSeconds := ((∅ : OrderedMap NodeScopeKey ℕ).insert (scope source) 5).insert
        (scope destination) 5
      irohEndpointAdvertisements :=
        ((∅ : OrderedMap NodeScopeKey IrohEndpointAdvertisement).insert (scope source)
          (advertisement source)).insert (scope destination) (advertisement destination) }
  artifactRegistry := artifacts.addHold (terms {}).transfer.key
    (.processRetention (terms {}).process) 1

def environment (now : ℕ) (hnow : now ≤ u64Max) (drawn : List String)
    (hdrawn : ∀ token ∈ drawn, token.utf8ByteSize = 43) : Environment where
  clock := fun _ => some now
  clock_bounded := steady_bounded hnow
  tokens := fun index => drawn[index]?
  tokens_size := fun _ token htoken => hdrawn token (List.mem_of_getElem? htoken)
  storeAccepts := fun _ => true
  instants := fun _ => 0
  transferSecrets := fun _ => .ok []
  mainDebug := fun _ => {}

def nodeFields (node : NodeId) : NodeFields := ⟨"tenant", "project", node.value⟩

def request : InterchangeCall :=
  .request { toNodeFields := nodeFields destination
             process := "process", artifact := "artifact", offset := 0 }

def requestEnvironment : Environment :=
  environment 5 (by decide) [token, "BBBBBBBBBBBBBBBBBBBBBBBBBBBBBBBBBBBBBBBBBBB"] (by decide)

def laterEnvironment : Environment := environment 6 (by decide) [] (by decide)

def progress (node : NodeId) (state : ArtifactTransferState) (pathKind : ClusterfluxPathKind) :
    InterchangeCall :=
  .report { toNodeFields := nodeFields node
            transferId := transferId, state := state, bytesCompleted := 4, pathKind := pathKind
            failureCode := none, verifiedDigest := none, verifiedSize := none }

/-- The source connects and the destination receives four bytes over a relay the
policy forbids. -/
def relayedRun : List (InterchangeCall × Environment) :=
  [(request, requestEnvironment), (progress source .connecting .direct, laterEnvironment),
    (progress destination .transferring .relayed, laterEnvironment)]

/-- The source is revoked while the transfer waits for its nodes. -/
def revokedRun : List (InterchangeCall × Environment) :=
  [(request, requestEnvironment), (.revokeNode (nodeFields source) "user", laterEnvironment)]

/-- The process is cancelled while the transfer waits for its nodes. -/
def cancelledRun : List (InterchangeCall × Environment) :=
  [(request, requestEnvironment),
    (.cancelProcess ⟨(scope source).tenant, (scope source).project, (terms {}).process⟩ 6,
      laterEnvironment)]

/-- The state of the sample transfer after the calls. -/
def stateAfter (calls : List (InterchangeCall × Environment)) : Option ArtifactTransferState :=
  (service.performCalls calls).interchangeRegistry.transfers[transferId]?.map fun transfer =>
    transfer.record.state

/-- The sample artifact is held for the sample transfer after the calls. -/
def HeldAfter (calls : List (InterchangeCall × Environment)) : Prop :=
  (service.performCalls calls).artifactRegistry.Holds (terms {}).transfer.key
    (.activeTransfer transferId)

instance (calls : List (InterchangeCall × Environment)) : Decidable (HeldAfter calls) :=
  inferInstanceAs (Decidable (ArtifactRegistry.Holds _ _ _))

theorem service_holds_match :
    TransferHoldsMatch service.interchangeRegistry service.artifactRegistry where
  keyed transferId transfer hstored := by
    rw [show service.interchangeRegistry.transfers = ∅ from rfl] at hstored
    simp at hstored
  held_iff key transferId := by
    rw [show service.interchangeRegistry.transfers = ∅ from rfl,
      show service.artifactRegistry = artifacts.addHold (terms {}).transfer.key
        (.processRetention (terms {}).process) 1 from rfl,
      ArtifactRegistry.holds_addHold_iff (by decide +kernel)]
    simp [ArtifactRegistry.Holds, artifacts]

theorem releasesHolds_cancelledRun : service.ReleasesHolds cancelledRun := by
  refine ⟨fun _ _ => ?_, trivial, fun _ htoken => ?_, trivial, trivial⟩
  · rw [show service.interchangeRegistry.transfers = ∅ from rfl]
    simp
  · simp [laterEnvironment, environment] at htoken

end TransferSample

open TransferSample in
/-- A transfer that a report over a forbidden path fails, and one that the
revocation of its source fails, keep their holds. -/
theorem failed_transfer_stays_held : (stateAfter relayedRun = some .failed ∧ HeldAfter relayedRun) ∧
      stateAfter revokedRun = some .failed ∧
        HeldAfter revokedRun := by
  decide +kernel

open TransferSample in
/-- A cancelled transfer does not keep its hold. -/
theorem cancelled_transfer_not_held : stateAfter cancelledRun = some .cancelled ∧
      ¬ HeldAfter cancelledRun := by
  have hstate : stateAfter cancelledRun = some .cancelled := by
    decide +kernel
  refine ⟨hstate, fun hheld => ?_⟩
  obtain ⟨transfer, hstored, -, hactive⟩ := (transfer_held_iff_unfinished service
    service_holds_match cancelledRun
    releasesHolds_cancelledRun _ _).mp hheld
  rw [stateAfter, hstored, Option.map_some, Option.some_inj] at hstate
  rw [hstate] at hactive
  cases hactive

end Clusterflux
