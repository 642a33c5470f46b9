import Clusterflux.Coordinator.InterchangeConfiguration
import Clusterflux.Foundation.OrderedMaps

/-!
# The life of a transfer

Two nodes report on one transfer while requests renew it, processes are
cancelled, nodes disappear and leases lapse.  Whatever the order, a transfer only
moves along permitted transitions, its byte count only grows and never exceeds
the artifact, a finished transfer stays as it is, and completion needs the proof
of the destination and leaves it among the nodes that retain the artifact.

Everything is derived from one inversion: what stands under a transfer id after
an operation was just created, or comes from what stood there by one of a few
changes.
-/

namespace Clusterflux

open OrderedMaps InterchangeTransfer InterchangeRegistry

/-- The text is an opaque token with the label: the base64 text of 32 bytes
follows it. -/
def IsOpaqueToken (label text : String) : Prop :=
  ∃ token : String, token.utf8ByteSize = 43 ∧ text = label ++ "_" ++ token

/-- The terms that the request handler agrees on: the range lies within the
artifact, both endpoints were accepted when they were advertised, and the id and
the nonce are fresh tokens. -/
structure AdmittedTerms extends TransferTerms where
  offset_le : offset ≤ size
  source_advertised : sourceAdvertisement.validateBounds = .ok ()
  destination_advertised : destinationAdvertisement.validateBounds = .ok ()
  transferId_token : IsOpaqueToken "artifact_interchange" transferId
  nonce_token : IsOpaqueToken "artifact_interchange_nonce" nonce

/-- The operations on the registry of transfers.  The artifact metadata also
changes for other reasons, at any time and in any way. -/
inductive InterchangeOperation where
  | create (terms : AdmittedTerms)
  | report (scope : NodeScopeKey) (transferId : String) (report : TransferReport)
      (lifetimes : TransferLifetimes) (now : ℕ)
  | renew (scope : NodeScopeKey) (process : ProcessId) (artifact : ArtifactId)
      (lifetimes : TransferLifetimes) (now : ℕ)
  | cancelProcess (tenant : TenantId) (project : ProjectId) (process : ProcessId) (now : ℕ)
  | cancelNodeForHardDrain (scope : NodeScopeKey) (now : ℕ)
  | failNode (scope : NodeScopeKey) (now : ℕ)
  | expire (now noProgressTimeout : ℕ) (absoluteMax : Option ℕ) (terminalRetention : ℕ)
  | changeArtifacts (artifacts : ArtifactRegistry)

/-- The operation creates a transfer under the id. -/
def InterchangeOperation.Creates (operation : InterchangeOperation) (transferId : String) : Prop :=
  match operation with
  | .create terms => terms.transferId = transferId
  | _ => False

structure InterchangeState where
  registry : InterchangeRegistry
  artifacts : ArtifactRegistry

namespace InterchangeState

def perform (state : InterchangeState) : InterchangeOperation → InterchangeState
  | .create terms => { state with
      registry := (state.registry.create terms.transferId terms.transfer
        maxInterchangeTransfers).2 }
  | .report scope transferId report lifetimes now =>
    let (_, registry, artifacts) := state.registry.reportProgress state.artifacts scope
      transferId report lifetimes now
    ⟨registry, artifacts⟩
  | .renew scope process artifact lifetimes now => { state with
      registry := (state.registry.renew scope process artifact lifetimes now).2 }
  | .cancelProcess tenant project process now => { state with
      registry := (state.registry.cancelProcess tenant project process now).2 }
  | .cancelNodeForHardDrain scope now => { state with
      registry := (state.registry.cancelNodeForHardDrain scope now).2 }
  | .failNode scope now => { state with registry := state.registry.failNode scope now }
  | .expire now noProgressTimeout absoluteMax terminalRetention => { state with
      registry := (state.registry.expire now noProgressTimeout absoluteMax
        terminalRetention).2 }
  | .changeArtifacts artifacts => { state with artifacts := artifacts }

def performAll (state : InterchangeState) (operations : List InterchangeOperation) :
    InterchangeState :=
  operations.foldl perform state

end InterchangeState

/-! ## What the changes leave alone -/

namespace InterchangeTransfer

variable (transfer : InterchangeTransfer)

/-- What a transfer is about; fixed when it is created. -/
def subject : String × ArtifactScopeKey × NodeId × NodeId × Digest × ℕ :=
  (transfer.record.transferId, transfer.key, transfer.record.sourceNode,
    transfer.record.destinationNode, transfer.destinationAuthorization.lease.digest,
    transfer.destinationAuthorization.lease.sizeBytes)

variable (scope : NodeScopeKey) (report : TransferReport) (lifetimes : TransferLifetimes)
  (now : ℕ)

@[simp]
theorem record_withReadyAssignments :
    (transfer.withReadyAssignments scope report).record = transfer.record := by
  unfold withReadyAssignments
  dsimp only
  split <;> split <;> rfl

@[simp]
theorem destinationAuthorization_withReadyAssignments :
    (transfer.withReadyAssignments scope report).destinationAuthorization =
      transfer.destinationAuthorization := by
  unfold withReadyAssignments
  dsimp only
  split <;> split <;> rfl

@[simp]
theorem providerAuthorization_withReadyAssignments :
    (transfer.withReadyAssignments scope report).providerAuthorization =
      transfer.providerAuthorization := by
  unfold withReadyAssignments
  dsimp only
  split <;> split <;> rfl

@[simp]
theorem subject_withReadyAssignments :
    (transfer.withReadyAssignments scope report).subject = transfer.subject := by
  simp [subject, key]

@[simp]
theorem recordedState_withReadyAssignments :
    (transfer.withReadyAssignments scope report).recordedState scope report =
      transfer.recordedState scope report := by
  simp [recordedState, providerReadyRefresh]

@[simp]
theorem record_offerOther : (transfer.offerOther scope).record = transfer.record := by
  unfold offerOther
  split <;> rfl

@[simp]
theorem destinationAuthorization_offerOther :
    (transfer.offerOther scope).destinationAuthorization = transfer.destinationAuthorization := by
  unfold offerOther
  split <;> rfl

@[simp]
theorem providerAuthorization_offerOther :
    (transfer.offerOther scope).providerAuthorization = transfer.providerAuthorization := by
  unfold offerOther
  split <;> rfl

theorem state_advanced : (transfer.advanced scope report lifetimes now).record.state =
    transfer.recordedState scope report := by
  unfold advanced
  dsimp only
  split <;> split <;> simp [withActiveLease, withTicket]

theorem bytesCompleted_advanced :
    (transfer.advanced scope report lifetimes now).record.bytesCompleted =
      report.bytesCompleted := by
  unfold advanced
  dsimp only
  split <;> split <;> simp [withActiveLease, withTicket]

@[simp]
theorem subject_advanced :
    (transfer.advanced scope report lifetimes now).subject = transfer.subject := by
  unfold advanced
  dsimp only
  split <;> split <;> simp [withActiveLease, withTicket, subject, key]

theorem state_renewed : (transfer.renewed lifetimes now).record.state = transfer.record.state := by
  unfold renewed
  dsimp only
  split <;> rfl

theorem bytesCompleted_renewed :
    (transfer.renewed lifetimes now).record.bytesCompleted = transfer.record.bytesCompleted := by
  unfold renewed
  dsimp only
  split <;> rfl

@[simp]
theorem subject_renewed : (transfer.renewed lifetimes now).subject = transfer.subject := by
  unfold renewed
  dsimp only
  split <;> rfl

end InterchangeTransfer

/-! ## Inversion -/

/-- What an operation in a state can do to a transfer that stays in the registry
under its id, with the artifact metadata after the operation. -/
inductive TransferChange (state : InterchangeState) (artifacts' : ArtifactRegistry)
    (transferId : String) :
    InterchangeOperation → InterchangeTransfer → InterchangeTransfer → Prop
  | same {operation transfer} :
      TransferChange state artifacts' transferId operation transfer transfer
  /-- The report was refused after it had made assignments ready. -/
  | readied {transfer scope report lifetimes now}
      (hactive : transfer.record.state.terminal = false) :
      TransferChange state artifacts' transferId (.report scope transferId report lifetimes now)
        transfer (transfer.withReadyAssignments scope report)
  | relayFailed {transfer scope report lifetimes now}
      (hactive : transfer.record.state.terminal = false)
      (hrelay : transfer.relayForbidden report) :
      TransferChange state artifacts' transferId (.report scope transferId report lifetimes now)
        transfer ((transfer.withReadyAssignments scope report).failedByRelay now)
  | advanced {transfer scope report lifetimes now}
      (hconcerns : transfer.concerns scope)
      (hactive : transfer.record.state.terminal = false)
      (hbytes : transfer.record.bytesCompleted ≤ report.bytesCompleted)
      (hsize : report.bytesCompleted ≤ transfer.destinationAuthorization.lease.sizeBytes)
      (hmove : transfer.providerReadyRefresh scope report ∨
        transfer.record.state.permitsTransitionTo report.state)
      (heffects : (transfer.withReadyAssignments scope report).reportEffects scope report
        state.artifacts = .ok artifacts') :
      TransferChange state artifacts' transferId (.report scope transferId report lifetimes now)
        transfer ((transfer.withReadyAssignments scope report).advanced scope report lifetimes now)
  | renewed {transfer scope process artifact lifetimes now}
      (hfound : state.registry.find (·.serves scope process artifact now) =
        some (transferId, transfer)) :
      TransferChange state artifacts' transferId (.renew scope process artifact lifetimes now)
        transfer (transfer.renewed lifetimes now)
  | ended {operation transfer status code now}
      (hactive : transfer.record.state.terminal = false)
      (hstatus : status = .failed ∨ status = .cancelled ∨ status = .expired) :
      TransferChange state artifacts' transferId operation transfer (transfer.ended status code now)

section Inversion

variable {registry : InterchangeRegistry} {transferId : String} {transfer : InterchangeTransfer}

theorem InterchangeTransfer.relayForbidden_withReadyAssignments (scope : NodeScopeKey)
    (report : TransferReport) :
    (transfer.withReadyAssignments scope report).relayForbidden report =
      transfer.relayForbidden report := by
  simp [relayForbidden]

/-- A report keeps the transfer, makes assignments ready, fails it or advances
it; only an advance touches the artifact metadata. -/
theorem InterchangeTransfer.change_of_reportProgress (transfer : InterchangeTransfer)
    (state : InterchangeState) (scope : NodeScopeKey) (transferId : String)
    (report : TransferReport) (lifetimes : TransferLifetimes) (now : ℕ) :
    TransferChange state
      (transfer.reportProgress state.artifacts scope report lifetimes now).2.2 transferId
      (.report scope transferId report lifetimes now) transfer
      (transfer.reportProgress state.artifacts scope report lifetimes now).2.1 := by
  rw [reportProgress]
  split
  · exact .same
  rename_i hconcerns
  rw [not_not] at hconcerns
  split
  · exact .same
  rename_i hactive
  rw [Bool.not_eq_true] at hactive
  split
  · exact .same
  rename_i hbytes
  split
  · exact .same
  rename_i hmove
  dsimp only
  split
  · rename_i hrelay
    exact .relayFailed hactive (by rwa [relayForbidden_withReadyAssignments] at hrelay)
  split
  · exact .readied hactive
  · rename_i heffects
    refine .advanced hconcerns hactive ?_ ?_ ?_ heffects
    · omega
    · omega
    · by_contra hneither
      exact hmove ⟨fun hrefresh => hneither (.inl hrefresh), fun hpermits =>
        hneither (.inr hpermits)⟩

theorem InterchangeRegistry.transfers_meterBodyBytes (registry : InterchangeRegistry)
    (pathKind : ClusterfluxPathKind) (bytes : ℕ) :
    (registry.meterBodyBytes pathKind bytes).transfers = registry.transfers := by
  cases pathKind <;> rfl

/-- A round of making room only removes. -/
theorem InterchangeRegistry.lookup_of_pruneTerminal {capacity : ℕ}
    (hlookup : (registry.pruneTerminal capacity).transfers[transferId]? = some transfer) :
    registry.transfers[transferId]? = some transfer := by
  rw [pruneTerminal] at hlookup
  split at hlookup
  · split at hlookup
    · exact (getElem?_erase_eq_some_iff.mp hlookup).2
    · exact hlookup
  · exact hlookup

theorem InterchangeRegistry.lookup_of_pruneTerminalToFit {capacity : ℕ}
    (hlookup : (registry.pruneTerminalToFit capacity).transfers[transferId]? = some transfer) :
    registry.transfers[transferId]? = some transfer := by
  rw [pruneTerminalToFit] at hlookup
  generalize registry.transfers.size = rounds at hlookup
  induction rounds generalizing registry with
  | zero => exact hlookup
  | succ rounds ih => exact lookup_of_pruneTerminal (ih hlookup)

/-- After an ending the selected transfers are ended and the others are as they
were. -/
theorem InterchangeRegistry.lookup_endTransfers {selected : InterchangeTransfer → Bool}
    {ending : InterchangeTransfer → InterchangeTransfer}
    (hlookup : (registry.endTransfers selected ending).2.transfers[transferId]? = some transfer) :
    ∃ before, registry.transfers[transferId]? = some before ∧
      (transfer = before ∨ (selected before ∧ transfer = ending before)) := by
  rw [endTransfers, Std.ExtTreeMap.getElem?_map, Option.map_eq_some_iff] at hlookup
  obtain ⟨before, hbefore, rfl⟩ := hlookup
  refine ⟨before, hbefore, ?_⟩
  split
  · rename_i hselected
    exact .inr ⟨hselected, rfl⟩
  · exact .inl rfl

theorem InterchangeRegistry.lookup_of_find {condition : InterchangeTransfer → Bool}
    (hfind : registry.find condition = some (transferId, transfer)) :
    registry.transfers[transferId]? = some transfer ∧ condition transfer = true :=
  getElem?_of_find?_toList hfind

/-- The transfers that an operation ends are ended by it. -/
theorem InterchangeRegistry.change_of_endTransfers {state : InterchangeState}
    {artifacts' : ArtifactRegistry} {operation : InterchangeOperation}
    {selected : InterchangeTransfer → Bool} {status : ArtifactTransferState}
    {code : InterchangeTransfer → ArtifactTransferErrorCode} {now : ℕ}
    (hselected : ∀ transfer, selected transfer → transfer.record.state.terminal = false)
    (hstatus : status = .failed ∨ status = .cancelled ∨ status = .expired)
    (hlookup : (registry.endTransfers selected fun transfer =>
      transfer.ended status (code transfer) now).2.transfers[transferId]? = some transfer) :
    ∃ before, registry.transfers[transferId]? = some before ∧
      TransferChange state artifacts' transferId operation before transfer := by
  obtain ⟨before, hbefore, rfl | ⟨hends, rfl⟩⟩ := lookup_endTransfers hlookup
  · exact ⟨_, hbefore, .same⟩
  · exact ⟨_, hbefore, .ended (hselected before hends) hstatus⟩

variable {state : InterchangeState} {operation : InterchangeOperation}

section Report

variable {scope : NodeScopeKey} {report : TransferReport} {lifetimes : TransferLifetimes}
  {now : ℕ} {artifacts : ArtifactRegistry} {stored : InterchangeTransfer}

/-- A report on a stored transfer has the outcome and the effects that it has on
the transfer alone. -/
theorem InterchangeRegistry.reportProgress_of_stored
    (hstored : registry.transfers[transferId]? = some stored) :
    let whole := registry.reportProgress artifacts scope transferId report lifetimes now
    let alone := stored.reportProgress artifacts scope report lifetimes now
    whole.1 = alone.1 ∧ whole.2.1.transfers = registry.transfers.insert transferId alone.2.1 ∧
      whole.2.2 = alone.2.2 := by
  simp only [reportProgress, hstored]
  cases (stored.reportProgress artifacts scope report lifetimes now).1 with
  | error error => exact ⟨rfl, rfl, rfl⟩
  | ok progress =>
    dsimp only
    split
    · exact ⟨rfl, rfl, rfl⟩
    · exact ⟨rfl, transfers_meterBodyBytes _ _ _, rfl⟩

theorem InterchangeRegistry.reportProgress_unknown
    (hunknown : registry.transfers[transferId]? = none) :
    (registry.reportProgress artifacts scope transferId report lifetimes now).2 =
      (registry, artifacts) := by
  simp only [reportProgress, hunknown]

theorem InterchangeState.change_of_report {id : String}
    (hlookup : (state.registry.reportProgress state.artifacts scope id report lifetimes
      now).2.1.transfers[transferId]? = some transfer) :
    ∃ before, state.registry.transfers[transferId]? = some before ∧
      TransferChange state (state.registry.reportProgress state.artifacts scope id report
        lifetimes now).2.2 transferId (.report scope id report lifetimes now) before transfer := by
  cases hstored : state.registry.transfers[id]? with
  | none =>
    rw [reportProgress_unknown hstored] at hlookup ⊢
    exact ⟨transfer, hlookup, .same⟩
  | some stored =>
    rw [(reportProgress_of_stored hstored).2.1] at hlookup
    rw [(reportProgress_of_stored hstored).2.2]
    rcases getElem?_insert_eq_some_iff.mp hlookup with ⟨rfl, rfl⟩ | ⟨-, hother⟩
    · exact ⟨stored, hstored, stored.change_of_reportProgress _ _ _ _ _ _⟩
    · exact ⟨transfer, hother, .same⟩

end Report

/-- What stands under an id was just created or comes from what stood there. -/
theorem InterchangeState.change_of_perform
    (hlookup : (state.perform operation).registry.transfers[transferId]? = some transfer) :
    (∃ terms, operation = .create terms ∧ terms.transferId = transferId ∧
        transfer = terms.transfer) ∨
      ∃ before, state.registry.transfers[transferId]? = some before ∧
        TransferChange state (state.perform operation).artifacts transferId operation before
          transfer := by
  cases operation with
  | create terms =>
    simp only [perform, InterchangeRegistry.create] at hlookup
    split at hlookup
    · exact .inr ⟨transfer, lookup_of_pruneTerminalToFit hlookup, .same⟩
    · rcases getElem?_insert_eq_some_iff.mp hlookup with ⟨rfl, rfl⟩ | ⟨-, hother⟩
      · exact .inl ⟨terms, rfl, rfl, rfl⟩
      · exact .inr ⟨transfer, lookup_of_pruneTerminalToFit hother, .same⟩
  | report scope id report lifetimes now => exact .inr (change_of_report hlookup)
  | renew scope process artifact lifetimes now =>
    simp only [perform, InterchangeRegistry.renew] at hlookup
    cases hfind : state.registry.find (·.serves scope process artifact now) with
    | none =>
      rw [hfind] at hlookup
      exact .inr ⟨transfer, hlookup, .same⟩
    | some found =>
      obtain ⟨id, stored⟩ := found
      rw [hfind] at hlookup
      have hstored := (lookup_of_find hfind).1
      rcases getElem?_insert_eq_some_iff.mp hlookup with ⟨rfl, rfl⟩ | ⟨-, hother⟩
      · exact .inr ⟨stored, hstored, .renewed hfind⟩
      · exact .inr ⟨transfer, hother, .same⟩
  | cancelProcess tenant project process now =>
    refine .inr (change_of_endTransfers ?_ (.inr (.inl rfl)) hlookup)
    intro transfer hselected
    simp only [Bool.and_eq_true, Bool.not_eq_true'] at hselected
    exact hselected.1
  | cancelNodeForHardDrain scope now =>
    refine .inr (change_of_endTransfers ?_ (.inr (.inl rfl)) hlookup)
    intro transfer hselected
    simp only [matchesActiveNode, Bool.and_eq_true,
      Bool.not_eq_true'] at hselected
    exact hselected.1
  | failNode scope now =>
    refine .inr (change_of_endTransfers ?_ (.inl rfl) hlookup)
    intro transfer hselected
    simp only [matchesActiveNode, Bool.and_eq_true,
      Bool.not_eq_true'] at hselected
    exact hselected.1
  | expire now noProgressTimeout absoluteMax terminalRetention =>
    simp only [perform, InterchangeRegistry.expire, Std.ExtTreeMap.getElem?_filter',
      Option.filter_eq_some_iff] at hlookup
    refine .inr (change_of_endTransfers ?_ (.inr (.inr rfl)) hlookup.1)
    intro transfer hselected
    simp only [expired, Bool.and_eq_true, Bool.not_eq_true'] at hselected
    exact hselected.1
  | changeArtifacts artifacts => exact .inr ⟨transfer, hlookup, .same⟩

end Inversion

/-! ## Lifecycle -/

/-- The operation is a report by the destination that proves the digest and the
size of the artifact, and it leaves the destination among the nodes that retain
exactly that artifact. -/
def InterchangeOperation.Completes (operation : InterchangeOperation)
    (transfer : InterchangeTransfer) (artifacts' : ArtifactRegistry) : Prop :=
  let lease := transfer.destinationAuthorization.lease
  ∃ scope transferId report lifetimes now,
    operation = .report scope transferId report lifetimes now ∧
    scope = ⟨transfer.record.tenant, transfer.record.project, transfer.record.destinationNode⟩ ∧
    report.verifiedDigest = some lease.digest ∧ report.verifiedSize = some lease.sizeBytes ∧
    ∃ metadata, artifacts'.artifacts[transfer.key]? = some metadata ∧
      metadata.digest = lease.digest ∧ metadata.size = lease.sizeBytes ∧
      transfer.record.destinationNode ∈ metadata.retainingNodes

/-- What one operation may do to a transfer. -/
structure LifecycleStep (artifacts' : ArtifactRegistry) (operation : InterchangeOperation)
    (before after : InterchangeTransfer) : Prop where
  moves : before.record.state.permitsTransitionTo after.record.state = true
  grows : before.record.bytesCompleted ≤ after.record.bytesCompleted
  subject_eq : after.subject = before.subject
  finished : before.record.state.terminal = true → after = before
  completes : after.record.state = .completed → before.record.state ≠ .completed →
    operation.Completes before artifacts'

section Steps

variable {artifacts artifacts' : ArtifactRegistry} {state : InterchangeState}
  {operation : InterchangeOperation} {transferId : String}
  {transfer before after : InterchangeTransfer} {scope : NodeScopeKey} {report : TransferReport}

/-- A recorded location is that of the digest and the size. -/
theorem ArtifactRegistry.retaining_of_recordVerifiedRetainingLocation {key : ArtifactScopeKey}
    {node : NodeId} {digest : Digest} {size : ℕ}
    (hrecord : artifacts.recordVerifiedRetainingLocation key node digest size = some artifacts') :
    ∃ metadata, artifacts'.artifacts[key]? = some metadata ∧ metadata.digest = digest ∧
      metadata.size = size ∧ node ∈ metadata.retainingNodes := by
  simp only [recordVerifiedRetainingLocation] at hrecord
  split at hrecord
  · cases hrecord
  · rename_i metadata hmetadata
    split at hrecord
    · rename_i hmatches
      cases hrecord
      refine ⟨_, Std.ExtTreeMap.getElem?_insert_self, hmatches.1, hmatches.2, ?_⟩
      exact Finset.mem_insert_self node _
    · cases hrecord

/-- An accepted completion carries its proof. -/
theorem InterchangeTransfer.completion_of_reportEffects
    (heffects : transfer.reportEffects scope report artifacts = .ok artifacts')
    (hcompleted : report.state = .completed) :
    transfer.provesCompletion scope report ∧
      artifacts.recordVerifiedRetainingLocation transfer.key transfer.record.destinationNode
        transfer.destinationAuthorization.lease.digest
        transfer.destinationAuthorization.lease.sizeBytes = some artifacts' := by
  simp only [reportEffects, if_pos hcompleted] at heffects
  split at heffects
  · rename_i hproves
    split at heffects
    · rename_i hrecord
      cases heffects
      exact ⟨hproves, hrecord⟩
    · cases heffects
  · cases heffects

theorem InterchangeTransfer.scope_of_concerns (hconcerns : transfer.concerns scope)
    (hnode : scope.node = transfer.record.destinationNode) :
    scope = ⟨transfer.record.tenant, transfer.record.project, transfer.record.destinationNode⟩ := by
  obtain ⟨tenant, project, node⟩ := scope
  simp only [concerns, decide_eq_true_eq] at hconcerns
  obtain ⟨rfl, rfl, -⟩ := hconcerns
  rw [← hnode]

variable (hchange : TransferChange state artifacts' transferId operation before after)
include hchange

theorem lifecycleStep_of_change : LifecycleStep artifacts' operation before after := by
  cases hchange with
  | same => exact ⟨by simp, le_rfl, rfl, fun _ => rfl, fun hafter hbefore => absurd hafter hbefore⟩
  | readied hactive =>
    refine ⟨by simp, by simp, by simp, fun hterminal => ?_, fun hafter hbefore => ?_⟩
    · simp [hactive] at hterminal
    · simp [hbefore] at hafter
  | relayFailed hactive =>
    refine ⟨?_, ?_, ?_, fun hterminal => ?_, fun hafter _ => ?_⟩
    · exact ArtifactTransferState.permits_ending hactive (.inl rfl)
    · simp [failedByRelay]
    · simp [failedByRelay, InterchangeTransfer.subject, InterchangeTransfer.key]
    · simp [hactive] at hterminal
    · cases hafter
  | @advanced _ scope report lifetimes now hconcerns hactive hbytes hsize hmove heffects =>
    refine ⟨?_, ?_, ?_, fun hterminal => ?_, fun hafter hbefore => ?_⟩
    · rw [state_advanced,
        recordedState_withReadyAssignments,
        InterchangeTransfer.recordedState]
      split
      · exact ArtifactTransferState.permitsTransitionTo_self _
      · rename_i hrefresh
        exact hmove.resolve_left hrefresh
    · rw [bytesCompleted_advanced]
      exact hbytes
    · simp
    · simp [hactive] at hterminal
    · -- a refresh keeps the state, so the report itself says completed
      rw [state_advanced,
        recordedState_withReadyAssignments,
        InterchangeTransfer.recordedState] at hafter
      split at hafter
      · exact absurd hafter hbefore
      · obtain ⟨⟨hnode, -, hdigest, hverified, -⟩, hrecord⟩ :=
          completion_of_reportEffects heffects hafter
        obtain ⟨metadata, hmetadata⟩ :=
          ArtifactRegistry.retaining_of_recordVerifiedRetainingLocation hrecord
        simp only [record_withReadyAssignments,
          destinationAuthorization_withReadyAssignments,
          InterchangeTransfer.key] at hnode hdigest hverified hmetadata
        exact ⟨scope, transferId, report, lifetimes, now, rfl,
          scope_of_concerns hconcerns hnode, hdigest, hverified, metadata,
          hmetadata⟩
  | renewed hfound =>
    have hserves := (lookup_of_find hfound).2
    simp only [serves, decide_eq_true_eq] at hserves
    refine ⟨?_, ?_, by simp, fun hterminal => ?_, fun hafter hbefore => ?_⟩
    · rw [state_renewed]
      exact ArtifactTransferState.permitsTransitionTo_self _
    · rw [bytesCompleted_renewed]
    · rw [hserves.2.1] at hterminal
      cases hterminal
    · rw [state_renewed] at hafter
      exact absurd hafter hbefore
  | @ended _ _ status _ _ hactive hstatus =>
    refine ⟨?_, le_rfl, rfl, fun hterminal => ?_, fun hafter _ => ?_⟩
    · exact ArtifactTransferState.permits_ending hactive hstatus
    · simp [hactive] at hterminal
    · have hcompleted : status = .completed := hafter
      subst hcompleted
      simp at hstatus

/-- The bytes of an advanced transfer are within the artifact. -/
theorem bytesCompleted_le_of_change
    (hbefore : before.record.bytesCompleted ≤ before.destinationAuthorization.lease.sizeBytes) :
    after.record.bytesCompleted ≤ after.destinationAuthorization.lease.sizeBytes := by
  have hsize : after.destinationAuthorization.lease.sizeBytes =
      before.destinationAuthorization.lease.sizeBytes :=
    congrArg (·.2.2.2.2.2) (lifecycleStep_of_change hchange).subject_eq
  rw [hsize]
  cases hchange with
  | same => exact hbefore
  | readied => simpa using hbefore
  | relayFailed => simpa [failedByRelay] using hbefore
  | advanced _ _ _ hwithin =>
    rw [bytesCompleted_advanced]
    exact hwithin
  | renewed =>
    rw [bytesCompleted_renewed]
    exact hbefore
  | ended => exact hbefore

end Steps

/-! ## Runs -/

namespace InterchangeState

variable {state : InterchangeState} {transferId : String} {transfer : InterchangeTransfer}

/-- No transfer has moved more bytes than its artifact has. -/
def WithinSize (state : InterchangeState) : Prop :=
  ∀ (transferId : String) transfer, state.registry.transfers[transferId]? = some transfer →
    transfer.record.bytesCompleted ≤ transfer.destinationAuthorization.lease.sizeBytes

theorem withinSize_perform (hstate : state.WithinSize) (operation : InterchangeOperation) :
    (state.perform operation).WithinSize := by
  intro transferId transfer hlookup
  rcases change_of_perform hlookup with ⟨terms, -, -, rfl⟩ | ⟨before, hbefore, hchange⟩
  · exact terms.offset_le
  · exact bytesCompleted_le_of_change hchange (hstate transferId before hbefore)

theorem withinSize_performAll (hstate : state.WithinSize)
    (operations : List InterchangeOperation) : (state.performAll operations).WithinSize := by
  induction operations generalizing state with
  | nil => exact hstate
  | cons operation operations ih => exact ih (withinSize_perform hstate operation)

/-- Without a creation under the id, a finished transfer is removed or stays. -/
theorem finished_performAll (hterminal : transfer.record.state.terminal = true)
    {later : List InterchangeOperation}
    (hlater : ∀ operation ∈ later, ¬ operation.Creates transferId)
    (hstate : ∀ found, state.registry.transfers[transferId]? = some found → found = transfer)
    {found : InterchangeTransfer}
    (hfound : (state.performAll later).registry.transfers[transferId]? = some found) :
    found = transfer := by
  induction later generalizing state with
  | nil => exact hstate found hfound
  | cons operation later ih =>
    refine ih (fun next hnext => hlater next (List.mem_cons_of_mem _ hnext)) ?_ hfound
    intro middle hmiddle
    rcases change_of_perform hmiddle with ⟨terms, rfl, hid, -⟩ | ⟨before, hbefore, hchange⟩
    · exact absurd hid (hlater _ List.mem_cons_self)
    · obtain rfl := hstate before hbefore
      exact (lifecycleStep_of_change hchange).finished hterminal

end InterchangeState

/-- Whatever operations have been performed on the transfers, with the artifact
metadata changing in any way in between: no transfer has more bytes than its
artifact; the next operation creates a transfer or takes it one step along its
life cycle; and a finished transfer stays as it is until it is removed. -/
theorem transfers_follow_lifecycle (artifacts : ArtifactRegistry)
    (history : List InterchangeOperation) :
    let state := InterchangeState.performAll ⟨{}, artifacts⟩ history
    (∀ (transferId : String) transfer, state.registry.transfers[transferId]? = some transfer →
        transfer.record.bytesCompleted ≤ transfer.destinationAuthorization.lease.sizeBytes) ∧
    (∀ operation (transferId : String) transfer,
      (state.perform operation).registry.transfers[transferId]? = some transfer →
        (∃ terms, operation = .create terms ∧ terms.transferId = transferId ∧
          transfer = terms.transfer) ∨
        ∃ before, state.registry.transfers[transferId]? = some before ∧
          LifecycleStep (state.perform operation).artifacts operation before transfer) ∧
    (∀ (transferId : String) transfer, state.registry.transfers[transferId]? = some transfer →
        transfer.record.state.terminal = true →
        ∀ later : List InterchangeOperation, (∀ operation ∈ later, ¬ operation.Creates transferId) →
          ∀ found, (state.performAll later).registry.transfers[transferId]? = some found →
            found = transfer) := by
  intro state
  have hempty : InterchangeState.WithinSize ⟨{}, artifacts⟩ := by
    intro transferId transfer hlookup
    simp at hlookup
  refine ⟨InterchangeState.withinSize_performAll hempty history, ?_, ?_⟩
  · intro operation transferId transfer hlookup
    rcases InterchangeState.change_of_perform hlookup with hcreated | ⟨before, hbefore, hchange⟩
    · exact .inl hcreated
    · exact .inr ⟨before, hbefore, lifecycleStep_of_change hchange⟩
  · intro transferId transfer hlookup hterminal later hlater found hfound
    refine InterchangeState.finished_performAll hterminal hlater ?_ hfound
    intro stored hstored
    rw [hlookup] at hstored
    exact (Option.some.inj hstored).symm

namespace TransferSample

def scope (node : NodeId) : NodeScopeKey :=
  ⟨⟨"tenant", tenant_valid⟩, ⟨"project", project_valid⟩, node⟩

def source : NodeId := ⟨"source", by decide⟩

def destination : NodeId := ⟨"destination", by decide⟩

def token : String := "AAAAAAAAAAAAAAAAAAAAAAAAAAAAAAAAAAAAAAAAAAA"

def transferId : String := "artifact_interchange" ++ "_" ++ token

def advertisement (node : NodeId) : IrohEndpointAdvertisement where
  tenant := (scope node).tenant
  project := (scope node).project
  node := node
  endpointId := node.value
  generation := 1
  relayConfigurationGeneration := 1
  directAddresses := []
  relayUrls := []
  expiresAt := 60

/-- A transfer of ten bytes. -/
def terms (configuration : CoordinatorArtifactInterchangeConfiguration) : AdmittedTerms where
  configuration := configuration
  destination := scope destination
  process := ⟨"process", process_valid⟩
  artifact := ⟨"artifact", artifact_valid⟩
  digest := ⟨"sha256:bytes"⟩
  size := 10
  offset := 0
  sourceNode := source
  sourceAdvertisement := advertisement source
  destinationAdvertisement := advertisement destination
  transferId := transferId
  nonce := "artifact_interchange_nonce" ++ "_" ++ token
  transferSecret := []
  attemptCount := 1
  now := 5
  offset_le := by decide
  source_advertised := by decide
  destination_advertised := by decide
  transferId_token := ⟨token, by decide, rfl⟩
  nonce_token := ⟨token, by decide, rfl⟩

def artifacts : ArtifactRegistry :=
  { artifacts := (∅ : OrderedMap ArtifactScopeKey ArtifactMetadata).insert
      (terms {}).transfer.key
      { id := (terms {}).artifact
        tenant := (terms {}).destination.tenant
        project := (terms {}).destination.project
        process := (terms {}).process
        producerTask := ⟨"task", task_valid⟩
        producerNode := source
        digest := (terms {}).digest
        size := (terms {}).size
        flushedEpoch := 1
        retainingNodes := {source}
        explicitLocations := [] } }

def report (state : ArtifactTransferState) (bytes : ℕ) : TransferReport where
  state := state
  bytesCompleted := bytes
  pathKind := .direct
  failureCode := none
  verifiedDigest := some (terms {}).digest
  verifiedSize := some (terms {}).size

/-- Both ends report until the destination has verified all bytes. -/
def completingRun : List InterchangeOperation :=
  let lifetimes := CoordinatorArtifactInterchangeConfiguration.lifetimes {}
  [.create (terms {}), .report (scope source) transferId (report .connecting 0) lifetimes 6,
    .report (scope destination) transferId (report .transferring 4) lifetimes 7,
    .report (scope source) transferId (report .connecting 4) lifetimes 8,
    .report (scope destination) transferId (report .verifying 10) lifetimes 9,
    .report (scope destination) transferId (report .completed 10) lifetimes 10]

end TransferSample

open TransferSample in
/-- A transfer that has completed is not failed by the loss of its source. -/
theorem completed_transfer_stays_completed :
    let state := InterchangeState.performAll ⟨{}, artifacts⟩ completingRun
    (state.registry.transfers[transferId]?).map (·.record.state) = some .completed ∧
      ∀ found, (state.performAll [.failNode (scope source) 20,
          .expire 30 300 none 600]).registry.transfers[transferId]? =
            some found → found.record.state = .completed := by
  intro state
  have hcompleted : (state.registry.transfers[transferId]?).map
      (·.record.state) = some .completed := by
    decide +kernel
  refine ⟨hcompleted, fun found hfound => ?_⟩
  obtain ⟨transfer, hlookup, hstate⟩ := Option.map_eq_some_iff.mp hcompleted
  have hsame : found = transfer :=
    (transfers_follow_lifecycle artifacts completingRun).2.2 _
      transfer hlookup (by rw [hstate]; rfl) _
      (by simp [InterchangeOperation.Creates]) found hfound
  rw [hsame, hstate]

end Clusterflux
