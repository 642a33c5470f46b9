import Clusterflux.Verification.TransferLifecycle

/-!
# The leases of transfers

Both ends of a transfer work under the same lease, and the record repeats its two
deadlines.  That holds in every run.  That the lease keeps its own bounds, above
all that the stream ticket does not outlive the active lease, depends on three
moments at which one deadline moves without the other: the creation, a renewal
while bytes are moving, and a report that renews the active lease only.
-/

namespace Clusterflux

namespace InterchangeTransfer

variable (transfer : InterchangeTransfer)

/-- The lease of the destination, which is the lease of the transfer. -/
def lease : ArtifactTransferLease := transfer.destinationAuthorization.lease

/-- Both ends have the same lease and the record has its deadlines. -/
structure LeaseAgrees : Prop where
  provider : transfer.providerAuthorization.lease = transfer.lease
  expiresAt : transfer.record.expiresAt = transfer.lease.activeLeaseExpiresAt
  ticket : transfer.record.streamTicketExpiresAt = transfer.lease.expiresAt

/-- The bounds of the lease other than the order of the deadlines. -/
def StaticBounds (lease : ArtifactTransferLease) : Prop :=
  { lease with expiresAt := 0 }.validateBounds = .ok ()

theorem validateBounds_eq_ok_iff_static {lease : ArtifactTransferLease} :
    lease.validateBounds = .ok () ↔ StaticBounds lease ∧
      (lease.activeLeaseExpiresAt = 0 ∨ lease.expiresAt ≤ lease.activeLeaseExpiresAt) := by
  rw [StaticBounds, ArtifactTransferLease.validateBounds_eq_ok_iff,
    ArtifactTransferLease.validateBounds_eq_ok_iff]
  simp only [zero_le, or_true, and_true, and_assoc]

variable (scope : NodeScopeKey) (report : TransferReport) (lifetimes : TransferLifetimes)
  (now : ℕ)

@[simp]
theorem renewsLease_withReadyAssignments :
    (transfer.withReadyAssignments scope report).renewsLease scope report =
      transfer.renewsLease scope report := by
  simp [renewsLease]

@[simp]
theorem renewsTicket_withReadyAssignments :
    (transfer.withReadyAssignments scope report).renewsTicket scope report =
      transfer.renewsTicket scope report := by
  simp [renewsTicket]

theorem expiresAt_advanced :
    (transfer.advanced scope report lifetimes now).record.expiresAt =
      if transfer.renewsLease scope report then
        lifetimes.activeExpiry transfer.record.createdAt now
      else transfer.record.expiresAt := by
  rw [advanced]
  dsimp only
  split <;> split <;> simp [withActiveLease, withTicket]

theorem streamTicketExpiresAt_advanced :
    (transfer.advanced scope report lifetimes now).record.streamTicketExpiresAt =
      if transfer.renewsTicket scope report then
        min (saturatingAdd now lifetimes.transferTicketTtlSeconds)
          (transfer.advanced scope report lifetimes now).record.expiresAt
      else transfer.record.streamTicketExpiresAt := by
  rw [advanced]
  dsimp only
  split <;> split <;> simp [withActiveLease, withTicket]

variable {transfer}

theorem staticBounds_withDeadlines {lease : ArtifactTransferLease} {ticket active : ℕ} :
    StaticBounds { lease with expiresAt := ticket, activeLeaseExpiresAt := active } ↔
      StaticBounds lease := by
  simp only [StaticBounds, ArtifactTransferLease.validateBounds_eq_ok_iff, zero_le, or_true]

/-- The transfer has the lease it had, up to the deadlines, which are those of
its record. -/
structure LeaseFollows (before after : InterchangeTransfer) : Prop where
  agrees : after.LeaseAgrees
  lease : ∃ ticket active, after.lease =
    { before.lease with expiresAt := ticket, activeLeaseExpiresAt := active }

theorem LeaseAgrees.follows (hagrees : transfer.LeaseAgrees) {after : InterchangeTransfer}
    (hprovider : after.providerAuthorization = transfer.providerAuthorization)
    (hdestination : after.destinationAuthorization = transfer.destinationAuthorization)
    (hexpires : after.record.expiresAt = transfer.record.expiresAt)
    (hticket : after.record.streamTicketExpiresAt = transfer.record.streamTicketExpiresAt) :
    LeaseFollows transfer after := by
  obtain ⟨hsame, hactive, hstream⟩ := hagrees
  refine ⟨⟨?_, ?_, ?_⟩, transfer.lease.expiresAt, transfer.lease.activeLeaseExpiresAt, ?_⟩
  · rw [hprovider, hsame, lease, lease, hdestination]
  · rw [hexpires, hactive, lease, lease, hdestination]
  · rw [hticket, hstream, lease, lease, hdestination]
  · rw [lease, hdestination]
    rfl

theorem LeaseFollows.trans {first middle last : InterchangeTransfer}
    (hfirst : LeaseFollows first middle) (hlast : LeaseFollows middle last) :
    LeaseFollows first last := by
  obtain ⟨ticket, active, hmiddle⟩ := hfirst.lease
  obtain ⟨ticket', active', hlease⟩ := hlast.lease
  exact ⟨hlast.agrees, ticket', active', by rw [hlease, hmiddle]⟩

theorem LeaseAgrees.follows_withActiveLease (hagrees : transfer.LeaseAgrees) (now expiry : ℕ) :
    LeaseFollows transfer (transfer.withActiveLease now expiry) :=
  ⟨⟨by simp only [withActiveLease, lease, hagrees.provider], rfl, hagrees.ticket⟩,
    transfer.lease.expiresAt, expiry, rfl⟩

theorem LeaseAgrees.follows_withTicket (hagrees : transfer.LeaseAgrees) (expiry : ℕ) :
    LeaseFollows transfer (transfer.withTicket expiry) :=
  ⟨⟨by simp only [withTicket, lease, hagrees.provider], hagrees.expiresAt, rfl⟩,
    expiry, transfer.lease.activeLeaseExpiresAt, rfl⟩

theorem LeaseAgrees.follows_offerOther (hagrees : transfer.LeaseAgrees) :
    LeaseFollows transfer (transfer.offerOther scope) :=
  hagrees.follows (by simp) (by simp) (by simp) (by simp)

/-- Following a lease through a step that may be skipped. -/
theorem LeaseFollows.ite {first before after : InterchangeTransfer} (condition : Prop)
    [Decidable condition] (hbefore : LeaseFollows first before)
    (hafter : before.LeaseAgrees → LeaseFollows before after) :
    LeaseFollows first (if condition then after else before) := by
  split
  · exact hbefore.trans (hafter hbefore.agrees)
  · exact hbefore

theorem LeaseAgrees.follows_advanced (hagrees : transfer.LeaseAgrees) :
    LeaseFollows transfer (transfer.advanced scope report lifetimes now) := by
  rw [advanced]
  refine LeaseFollows.ite _ ?_ fun h => h.follows_offerOther scope
  refine LeaseFollows.ite _ ?_ fun h => h.follows_withTicket _
  refine LeaseFollows.ite _ ?_ fun h => h.follows_withActiveLease _ _
  exact hagrees.follows rfl rfl rfl rfl

theorem LeaseAgrees.follows_renewed (hagrees : transfer.LeaseAgrees) :
    LeaseFollows transfer (transfer.renewed lifetimes now) := by
  rw [renewed]
  exact LeaseFollows.ite _ (hagrees.follows_withTicket _) fun h =>
    h.follows_withActiveLease _ _

theorem leaseFollows_of_change {state : InterchangeState} {artifacts' : ArtifactRegistry}
    {transferId : String} {operation : InterchangeOperation} {before after : InterchangeTransfer}
    (hchange : TransferChange state artifacts' transferId operation before after)
    (hagrees : before.LeaseAgrees) : LeaseFollows before after := by
  cases hchange with
  | same => exact hagrees.follows rfl rfl rfl rfl
  | readied => exact hagrees.follows (by simp) (by simp) (by simp) (by simp)
  | relayFailed =>
    exact hagrees.follows (by simp [failedByRelay]) (by simp [failedByRelay])
      (by simp [failedByRelay]) (by simp [failedByRelay])
  | @advanced _ scope report lifetimes now =>
    have hready : LeaseFollows before (before.withReadyAssignments scope report) :=
      hagrees.follows (by simp) (by simp) (by simp) (by simp)
    exact hready.trans (hready.agrees.follows_advanced scope report lifetimes now)
  | renewed => exact hagrees.follows_renewed _ _
  | ended => exact hagrees.follows rfl rfl rfl rfl

end InterchangeTransfer

/-! ## The order of the deadlines -/

/-- The operation does not let a stream ticket outlive the active lease: a new
transfer has a ticket lifetime within the lifetime of its lease; a renewal that
does not extend the lease leaves the ticket within it; a report that renews the
lease without the ticket does not move it before the ticket. -/
def InterchangeOperation.KeepsTicketWithinLease (operation : InterchangeOperation)
    (state : InterchangeState) : Prop :=
  match operation with
  | .create terms =>
    saturatingAdd terms.now terms.configuration.transferLeaseTtlSeconds ≤
      saturatingAdd terms.now terms.configuration.activeTransferLeaseTtlSeconds
  | .renew scope process artifact lifetimes now =>
    ∀ (transferId : String) transfer,
      state.registry.find (·.serves scope process artifact now) =
        some (transferId, transfer) →
      transfer.renewalExtendsLease = true ∨
        min (saturatingAdd now lifetimes.transferTicketTtlSeconds)
          (lifetimes.activeExpiry transfer.record.createdAt now) ≤ transfer.record.expiresAt
  | .report scope transferId progress lifetimes now =>
    ∀ transfer, state.registry.transfers[transferId]? = some transfer →
      transfer.renewsLease scope progress = true →
      transfer.renewsTicket scope progress = true ∨
        transfer.record.streamTicketExpiresAt ≤
          lifetimes.activeExpiry transfer.record.createdAt now
  | _ => True

namespace InterchangeTransfer

/-- The ticket ends no later than the lease. -/
def TicketWithinLease (transfer : InterchangeTransfer) : Prop :=
  transfer.record.streamTicketExpiresAt ≤ transfer.record.expiresAt

theorem ticketWithinLease_of_change {state : InterchangeState} {artifacts' : ArtifactRegistry}
    {transferId : String} {operation : InterchangeOperation} {before after : InterchangeTransfer}
    (hlookup : state.registry.transfers[transferId]? = some before)
    (hchange : TransferChange state artifacts' transferId operation before after)
    (hkeeps : operation.KeepsTicketWithinLease state) (hbefore : before.TicketWithinLease) :
    after.TicketWithinLease := by
  cases hchange with
  | same => exact hbefore
  | readied => simpa [TicketWithinLease] using hbefore
  | relayFailed => simpa [TicketWithinLease, failedByRelay] using hbefore
  | @advanced _ scope report lifetimes now =>
    rw [TicketWithinLease, streamTicketExpiresAt_advanced]
    split
    · exact min_le_right _ _
    · rename_i hticket
      rw [expiresAt_advanced]
      simp only [renewsTicket_withReadyAssignments, renewsLease_withReadyAssignments,
        record_withReadyAssignments] at hticket ⊢
      split
      · rename_i hlease
        exact (hkeeps before hlookup hlease).resolve_left hticket
      · exact hbefore
  | @renewed _ scope process artifact lifetimes now hfound =>
    rw [TicketWithinLease, renewed]
    split
    · exact min_le_right _ _
    · rename_i hextends
      exact (hkeeps transferId before hfound).resolve_left hextends
  | ended => exact hbefore

end InterchangeTransfer

/-! ## Runs -/

namespace AdmittedTerms

variable (terms : AdmittedTerms)

theorem size_of_isOpaqueToken {label text : String} (htoken : IsOpaqueToken label text) :
    text.utf8ByteSize = label.utf8ByteSize + 44 := by
  obtain ⟨token, hsize, rfl⟩ := htoken
  rw [String.utf8ByteSize_append, String.utf8ByteSize_append, hsize]
  rfl

theorem isEmpty_of_isOpaqueToken {label text : String} (htoken : IsOpaqueToken label text) :
    text.isEmpty = false := by
  have hsize := size_of_isOpaqueToken htoken
  by_contra hempty
  rw [Bool.not_eq_false, String.isEmpty_iff] at hempty
  rw [hempty] at hsize
  simp at hsize

theorem staticBounds_lease : InterchangeTransfer.StaticBounds terms.transfer.lease := by
  have hid := size_of_isOpaqueToken terms.transferId_token
  have hnonce := size_of_isOpaqueToken terms.nonce_token
  have hoffset := terms.offset_le
  rw [InterchangeTransfer.StaticBounds, ArtifactTransferLease.validateBounds_eq_ok_iff]
  refine ⟨⟨isEmpty_of_isOpaqueToken terms.transferId_token, ?_⟩, ?_, ?_,
    ⟨isEmpty_of_isOpaqueToken terms.nonce_token, ?_⟩, hoffset, le_rfl, .inr (Nat.zero_le _)⟩
  · exact hid.trans_le (by decide)
  · exact IrohEndpointAdvertisement.validateEndpointId_of_validateBounds terms.source_advertised
  · exact IrohEndpointAdvertisement.validateEndpointId_of_validateBounds
      terms.destination_advertised
  · exact hnonce.trans_le (by decide)

theorem leaseAgrees_transfer : terms.transfer.LeaseAgrees := ⟨rfl, rfl, rfl⟩

end AdmittedTerms

namespace InterchangeState

variable {state : InterchangeState}

/-- Every stored transfer has one lease with the deadlines of its record, and
apart from their order the lease is within its bounds. -/
def LeasesAgree (state : InterchangeState) : Prop :=
  ∀ (transferId : String) transfer, state.registry.transfers[transferId]? = some transfer →
    transfer.LeaseAgrees ∧ InterchangeTransfer.StaticBounds transfer.lease

/-- No stored transfer has a ticket that outlives its lease. -/
def TicketsWithinLeases (state : InterchangeState) : Prop :=
  ∀ (transferId : String) transfer, state.registry.transfers[transferId]? = some transfer →
    transfer.TicketWithinLease

/-- Every operation of the run keeps tickets within leases, in the state in which
it is performed. -/
def KeepTicketsWithinLeases (state : InterchangeState) : List InterchangeOperation → Prop
  | [] => True
  | operation :: operations =>
    operation.KeepsTicketWithinLease state ∧
      (state.perform operation).KeepTicketsWithinLeases operations

theorem leasesAgree_perform (hstate : state.LeasesAgree) (operation : InterchangeOperation) :
    (state.perform operation).LeasesAgree := by
  intro transferId transfer hlookup
  rcases change_of_perform hlookup with ⟨terms, -, -, rfl⟩ | ⟨before, hbefore, hchange⟩
  · exact ⟨terms.leaseAgrees_transfer, terms.staticBounds_lease⟩
  · obtain ⟨hagrees, hbounds⟩ := hstate transferId before hbefore
    obtain ⟨hafter, ticket, active, hlease⟩ :=
      InterchangeTransfer.leaseFollows_of_change hchange hagrees
    refine ⟨hafter, ?_⟩
    rw [hlease]
    exact InterchangeTransfer.staticBounds_withDeadlines.mpr hbounds

theorem leasesAgree_performAll (hstate : state.LeasesAgree)
    (operations : List InterchangeOperation) : (state.performAll operations).LeasesAgree := by
  induction operations generalizing state with
  | nil => exact hstate
  | cons operation operations ih => exact ih (leasesAgree_perform hstate operation)

theorem ticketsWithinLeases_perform (hstate : state.TicketsWithinLeases)
    {operation : InterchangeOperation} (hkeeps : operation.KeepsTicketWithinLease state) :
    (state.perform operation).TicketsWithinLeases := by
  intro transferId transfer hlookup
  rcases change_of_perform hlookup with ⟨terms, rfl, -, rfl⟩ | ⟨before, hbefore, hchange⟩
  · exact hkeeps
  · exact InterchangeTransfer.ticketWithinLease_of_change hbefore hchange hkeeps
      (hstate transferId before hbefore)

theorem ticketsWithinLeases_performAll (hstate : state.TicketsWithinLeases)
    {operations : List InterchangeOperation}
    (hkeep : state.KeepTicketsWithinLeases operations) :
    (state.performAll operations).TicketsWithinLeases := by
  induction operations generalizing state with
  | nil => exact hstate
  | cons operation operations ih =>
    exact ih (ticketsWithinLeases_perform hstate hkeep.1) hkeep.2

end InterchangeState

/-- In every run both ends of every transfer have the same lease and the record
has its deadlines; in every run whose operations keep the stream ticket within
the active lease, every lease also passes the validation of its bounds. -/
theorem leases_valid_of_tickets_within (artifacts : ArtifactRegistry)
    (operations : List InterchangeOperation) :
    let start : InterchangeState := ⟨{}, artifacts⟩
    (∀ (transferId : String) transfer,
      (start.performAll operations).registry.transfers[transferId]? = some transfer →
        transfer.providerAuthorization.lease = transfer.destinationAuthorization.lease ∧
        transfer.record.expiresAt =
          transfer.destinationAuthorization.lease.activeLeaseExpiresAt ∧
        transfer.record.streamTicketExpiresAt =
          transfer.destinationAuthorization.lease.expiresAt) ∧
    (start.KeepTicketsWithinLeases operations →
      ∀ (transferId : String) transfer,
        (start.performAll operations).registry.transfers[transferId]? = some transfer →
          transfer.destinationAuthorization.lease.validateBounds = .ok ()) := by
  intro start
  have hempty : ∀ (transferId : String), start.registry.transfers[transferId]? = none := by
    intro transferId
    simp [start]
  have hagree : (start.performAll operations).LeasesAgree := by
    apply InterchangeState.leasesAgree_performAll
    intro transferId transfer hlookup
    rw [hempty] at hlookup
    cases hlookup
  refine ⟨fun transferId transfer hlookup => ?_, fun hkeep transferId transfer hlookup => ?_⟩
  · obtain ⟨⟨hprovider, hexpires, hticket⟩, -⟩ := hagree transferId transfer hlookup
    exact ⟨hprovider, hexpires, hticket⟩
  · obtain ⟨⟨-, hexpires, hticket⟩, hbounds⟩ := hagree transferId transfer hlookup
    have hwithin : (start.performAll operations).TicketsWithinLeases := by
      apply InterchangeState.ticketsWithinLeases_performAll _ hkeep
      intro transferId transfer hlookup
      rw [hempty] at hlookup
      cases hlookup
    have horder := hwithin transferId transfer hlookup
    rw [InterchangeTransfer.TicketWithinLease, hexpires, hticket] at horder
    exact InterchangeTransfer.validateBounds_eq_ok_iff_static.mpr ⟨hbounds, .inr horder⟩

open TransferSample in
/-- A new transfer whose source reports that it is ready has a valid lease. -/
theorem ready_transfer_has_valid_lease :
    let start : InterchangeState := ⟨{}, artifacts⟩
    let operations : List InterchangeOperation :=
      [.create (terms {}),
        .report (scope source) transferId
          (report .connecting 0)
          (CoordinatorArtifactInterchangeConfiguration.lifetimes {}) 6]
    start.KeepTicketsWithinLeases operations ∧
      ∃ transfer, (start.performAll operations).registry.transfers[transferId]? =
          some transfer ∧
        transfer.destinationAuthorization.lease.validateBounds = .ok () := by
  intro start operations
  have hkeep : start.KeepTicketsWithinLeases operations := by
    have hcreate : saturatingAdd 5 120 ≤ saturatingAdd 5 600 := by decide
    refine ⟨hcreate, ?_, trivial⟩
    intro transfer hlookup _
    have hcreated : (start.perform (.create (terms {}))).registry.transfers[
        transferId]? = some (terms {}).transfer := by
      decide +kernel
    rw [hcreated] at hlookup
    obtain rfl := Option.some.inj hlookup
    exact .inl (by decide)
  have hstored : ((start.performAll operations).registry.transfers[
      transferId]?).isSome = true := by
    decide +kernel
  obtain ⟨transfer, hlookup⟩ := Option.isSome_iff_exists.mp hstored
  exact ⟨hkeep, transfer, hlookup,
    (leases_valid_of_tickets_within artifacts operations).2 hkeep _ transfer hlookup⟩

open TransferSample in
/-- A valid configuration may give the active lease a shorter life than the
stream ticket; a new transfer then has a lease that its own validation refuses.
With a longer active lease the same happens when a transfer that is moving bytes
is requested again late: the ticket is renewed and the lease is not. -/
theorem ticket_outlives_active_lease :
    let refused : Except String Unit :=
      .error "artifact active-transfer lease expires before its stream ticket"
    let validated (operations : List InterchangeOperation) : Option (Except String Unit) :=
      ((InterchangeState.performAll ⟨{}, artifacts⟩ operations).registry.transfers[
        transferId]?).map (·.destinationAuthorization.lease.validateBounds)
    let short : CoordinatorArtifactInterchangeConfiguration :=
      { transferLeaseTtlSeconds := 900, activeTransferLeaseTtlSeconds := 60 }
    let patient : CoordinatorArtifactInterchangeConfiguration :=
      { noProgressTimeoutSeconds := 600 }
    short.validate = .ok () ∧ validated [.create (terms short)] = some refused ∧
    patient.validate = .ok () ∧
      validated [.create (terms patient),
        .report (scope source) transferId
          (report .connecting 0) patient.lifetimes 6,
        .report (scope destination) transferId
          (report .transferring 4) patient.lifetimes 7,
        .expire 600 patient.noProgressTimeoutSeconds none 600,
        .renew (scope destination) ⟨"process", by decide⟩
          ⟨"artifact", by decide⟩ patient.lifetimes 600] = some refused := by
  decide +kernel

end Clusterflux
