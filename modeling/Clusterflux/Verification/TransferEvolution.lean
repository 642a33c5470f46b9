import Clusterflux.Verification.TransferLifecycle

/-!
# How transfers and their registry change

A transfer that stays in the registry keeps what it is about, its byte count only
grows, and once finished it stays finished; most operations add no transfer.
-/

namespace Clusterflux

open OrderedMaps

variable {first second third after : InterchangeRegistry}

/-! ## Transfers over time -/

/-- What a transfer is for: an artifact of a process, on a node. -/
def ArtifactTransferRecord.errand (record : ArtifactTransferRecord) :
    TenantId × ProjectId × ProcessId × ArtifactId × NodeId :=
  (record.tenant, record.project, record.process, record.artifact, record.destinationNode)

namespace InterchangeTransfer

/-- What is fixed when a transfer is created. -/
def frame (transfer : InterchangeTransfer) :
    String × (TenantId × ProjectId × ProcessId × ArtifactId × NodeId) × NodeId × ℕ × ℕ :=
  (transfer.record.transferId, transfer.record.errand, transfer.record.sourceNode,
    transfer.record.totalBytes, transfer.destinationAuthorization.lease.allowedOffset)

/-- How a transfer that stays in the registry may change. -/
structure Evolves (before after : InterchangeTransfer) : Prop where
  frame : after.frame = before.frame
  bytes : before.record.bytesCompleted ≤ after.record.bytesCompleted
  ended : before.record.state.terminal = true → after.record.state.terminal = true

theorem Evolves.refl (transfer : InterchangeTransfer) : transfer.Evolves transfer :=
  ⟨rfl, le_rfl, id⟩

theorem Evolves.trans {first second third : InterchangeTransfer} (hfirst : first.Evolves second)
    (hsecond : second.Evolves third) : first.Evolves third :=
  ⟨hsecond.frame.trans hfirst.frame, hfirst.bytes.trans hsecond.bytes,
    fun hended => hsecond.ended (hfirst.ended hended)⟩

variable (transfer : InterchangeTransfer) (scope : NodeScopeKey) (report : TransferReport)
  (lifetimes : TransferLifetimes) (now : ℕ)

theorem frame_withReadyAssignments :
    (transfer.withReadyAssignments scope report).frame = transfer.frame := by
  simp [frame]

theorem frame_advanced : (transfer.advanced scope report lifetimes now).frame = transfer.frame := by
  unfold advanced
  dsimp only
  split <;> split <;>
    simp [withActiveLease, withTicket, frame, ArtifactTransferRecord.errand]

theorem evolves_renewed : transfer.Evolves (transfer.renewed lifetimes now) := by
  refine ⟨?_, ?_, ?_⟩
  · unfold renewed
    dsimp only
    split <;> rfl
  · rw [bytesCompleted_renewed]
  · rw [state_renewed]
    exact id

theorem meteredBodyBytes_renewed :
    (transfer.renewed lifetimes now).meteredBodyBytes = transfer.meteredBodyBytes := by
  unfold renewed
  dsimp only
  split <;> rfl

theorem evolves_ended {status : ArtifactTransferState} (hstatus : status.terminal = true)
    (code : ArtifactTransferErrorCode) : transfer.Evolves (transfer.ended status code now) :=
  ⟨rfl, le_rfl, fun _ => hstatus⟩

/-- Whatever becomes of a report, the transfer is still the same one. -/
theorem evolves_of_change {state : InterchangeState} {artifacts' : ArtifactRegistry}
    {transferId : String} {operation : InterchangeOperation}
    {before after : InterchangeTransfer}
    (hchange : TransferChange state artifacts' transferId operation before after) :
    before.Evolves after := by
  cases hchange with
  | same => exact Evolves.refl _
  | readied hactive => exact ⟨frame_withReadyAssignments _ _ _, by simp, by simp⟩
  | relayFailed hactive _ =>
    refine ⟨?_, ?_, fun hended => ?_⟩
    · exact frame_withReadyAssignments _ _ _
    · simp [failedByRelay]
    · rw [hactive] at hended
      cases hended
  | advanced _ hactive hbytes _ _ _ =>
    refine ⟨?_, ?_, fun hended => ?_⟩
    · exact (frame_advanced _ _ _ _ _).trans (frame_withReadyAssignments _ _ _)
    · rw [bytesCompleted_advanced]
      exact hbytes
    · rw [hactive] at hended
      cases hended
  | renewed _ => exact evolves_renewed _ _ _
  | ended hactive hstatus =>
    apply evolves_ended
    obtain rfl | rfl | rfl := hstatus <;> rfl

end InterchangeTransfer

/-! ## Registries over time -/

namespace InterchangeRegistry

/-- The bytes metered so far, by path. -/
def meters (registry : InterchangeRegistry) : ℕ × ℕ × ℕ :=
  (registry.directBodyBytes, registry.relayedBodyBytes, registry.unknownPathBodyBytes)

/-- Nothing is added and nothing is metered. -/
structure Follows (before after : InterchangeRegistry) : Prop where
  transfers : ∀ (transferId : String) later, after.transfers[transferId]? = some later →
    ∃ earlier, before.transfers[transferId]? = some earlier ∧ earlier.Evolves later ∧
      later.meteredBodyBytes = earlier.meteredBodyBytes
  meters : after.meters = before.meters

/-- Nothing is dropped either. -/
structure Evolves (before after : InterchangeRegistry) : Prop extends Follows before after where
  kept : ∀ transferId ∈ before.transfers, transferId ∈ after.transfers

/-- Every transfer comes from one that stood under the same id. -/
def Carries (before after : InterchangeRegistry) : Prop :=
  ∀ (transferId : String) later, after.transfers[transferId]? = some later →
    ∃ earlier, before.transfers[transferId]? = some earlier ∧ earlier.Evolves later

theorem Carries.trans (hfirst : first.Carries second)
    (hsecond : second.Carries third) : first.Carries third := by
  intro transferId later hlater
  obtain ⟨between, hbetween, hevolves⟩ := hsecond transferId later hlater
  obtain ⟨earlier, hearlier, hevolved⟩ := hfirst transferId between hbetween
  exact ⟨earlier, hearlier, hevolved.trans hevolves⟩

theorem Follows.carries {before after : InterchangeRegistry} (hfollows : before.Follows after) :
    before.Carries after := by
  intro transferId later hlater
  obtain ⟨earlier, hearlier, hevolves, -⟩ := hfollows.transfers transferId later hlater
  exact ⟨earlier, hearlier, hevolves⟩

theorem Follows.trans (hfirst : first.Follows second)
    (hsecond : second.Follows third) : first.Follows third := by
  refine ⟨fun transferId later hlater => ?_, hsecond.meters.trans hfirst.meters⟩
  obtain ⟨between, hbetween, hevolves, hmetered⟩ := hsecond.transfers transferId later hlater
  obtain ⟨earlier, hearlier, hevolved, hmetered'⟩ := hfirst.transfers transferId between hbetween
  exact ⟨earlier, hearlier, hevolved.trans hevolves, hmetered.trans hmetered'⟩

theorem Evolves.refl (registry : InterchangeRegistry) : registry.Evolves registry :=
  ⟨⟨fun _ later hlater => ⟨later, hlater, .refl later, rfl⟩, rfl⟩, fun _ => id⟩

variable {registry : InterchangeRegistry} {transferId : String}
  {stored transfer : InterchangeTransfer}

/-- Only transfers are left out. -/
theorem Follows.of_lookup
    (hlookup : ∀ (transferId : String) later, after.transfers[transferId]? = some later →
      registry.transfers[transferId]? = some later)
    (hmeters : after.meters = registry.meters) : registry.Follows after :=
  ⟨fun transferId later hlater => ⟨later, hlookup transferId later hlater, .refl later, rfl⟩,
    hmeters⟩

theorem Evolves.store (hstored : registry.transfers[transferId]? = some stored)
    (hevolves : stored.Evolves transfer)
    (hmetered : transfer.meteredBodyBytes = stored.meteredBodyBytes) :
    registry.Evolves (registry.store transferId transfer) := by
  refine ⟨⟨fun other later hlater => ?_, rfl⟩, fun other hmem => ?_⟩
  · rcases getElem?_insert_eq_some_iff.mp hlater with ⟨rfl, rfl⟩ | ⟨-, hother⟩
    · exact ⟨stored, hstored, hevolves, hmetered⟩
    · exact ⟨later, hother, .refl later, rfl⟩
  · exact Std.ExtTreeMap.mem_insert.mpr (.inr hmem)

theorem Evolves.endTransfers (registry : InterchangeRegistry)
    (selected : InterchangeTransfer → Bool) {ending : InterchangeTransfer → InterchangeTransfer}
    (hending : ∀ transfer : InterchangeTransfer, transfer.Evolves (ending transfer) ∧
      (ending transfer).meteredBodyBytes = transfer.meteredBodyBytes) :
    registry.Evolves (registry.endTransfers selected ending).2 := by
  refine ⟨⟨fun transferId later hlater => ?_, rfl⟩, fun transferId hmem => ?_⟩
  · obtain ⟨before, hbefore, rfl | ⟨-, rfl⟩⟩ := lookup_endTransfers hlater
    · exact ⟨_, hbefore, .refl _, rfl⟩
    · exact ⟨before, hbefore, hending before⟩
  · exact Std.ExtTreeMap.mem_map.mpr hmem

/-- The endings of transfers other than by reports. -/
theorem Evolves.endAll (registry : InterchangeRegistry) (selected : InterchangeTransfer → Bool)
    (status : ArtifactTransferState) (hstatus : status.terminal = true)
    (code : InterchangeTransfer → ArtifactTransferErrorCode) (now : ℕ) :
    registry.Evolves (registry.endTransfers selected fun transfer =>
      transfer.ended status (code transfer) now).2 :=
  Evolves.endTransfers registry selected fun transfer =>
    ⟨transfer.evolves_ended now hstatus _, rfl⟩

theorem Evolves.cancelProcess (registry : InterchangeRegistry) (tenant : TenantId)
    (project : ProjectId) (process : ProcessId) (now : ℕ) :
    registry.Evolves (registry.cancelProcess tenant project process now).2 :=
  .endAll registry _ .cancelled rfl _ now

theorem Evolves.cancelNodeForHardDrain (registry : InterchangeRegistry) (scope : NodeScopeKey)
    (now : ℕ) : registry.Evolves (registry.cancelNodeForHardDrain scope now).2 :=
  .endAll registry _ .cancelled rfl _ now

theorem Evolves.failNode (registry : InterchangeRegistry) (scope : NodeScopeKey) (now : ℕ) :
    registry.Evolves (registry.failNode scope now) :=
  .endAll registry _ .failed rfl _ now

theorem Follows.expire (registry : InterchangeRegistry) (now noProgressTimeout : ℕ)
    (absoluteMax : Option ℕ) (terminalRetention : ℕ) :
    registry.Follows (registry.expire now noProgressTimeout absoluteMax terminalRetention).2 := by
  have hended := Evolves.endAll registry (expired noProgressTimeout absoluteMax now)
    .expired rfl (fun _ => .transferLeaseExpired) now
  apply hended.toFollows.trans
  apply Follows.of_lookup
  · intro transferId later hlater
    simp only [InterchangeRegistry.expire] at hlater
    rw [Std.ExtTreeMap.getElem?_filter', Option.filter_eq_some_iff] at hlater
    exact hlater.1
  · rfl

theorem Follows.pruneTerminalToFit (registry : InterchangeRegistry) (capacity : ℕ) :
    registry.Follows (registry.pruneTerminalToFit capacity) := by
  apply Follows.of_lookup
  · intro transferId later hlater
    exact lookup_of_pruneTerminalToFit hlater
  · rw [InterchangeRegistry.pruneTerminalToFit]
    generalize registry.transfers.size = rounds
    induction rounds generalizing registry with
    | zero => rfl
    | succ rounds ih =>
      refine (ih (registry.pruneTerminal capacity)).trans ?_
      unfold pruneTerminal
      split
      · split <;> rfl
      · rfl

/-- The registry is the same, or a transfer was written back with other
assignments only. -/
inductive Reassigns (before : InterchangeRegistry) : InterchangeRegistry → Prop
  | same : Reassigns before before
  | stored {transferId : String} {stored transfer : InterchangeTransfer}
      (hstored : before.transfers[transferId]? = some stored)
      (hrecord : transfer.record = stored.record)
      (hauthorization : transfer.destinationAuthorization = stored.destinationAuthorization)
      (hmetered : transfer.meteredBodyBytes = stored.meteredBodyBytes) :
      Reassigns before (before.store transferId transfer)

theorem Reassigns.pollProviderAssignment (registry : InterchangeRegistry) (scope : NodeScopeKey)
    (now recovery : ℕ) :
    registry.Reassigns (registry.pollProviderAssignment scope now recovery).2 := by
  rw [InterchangeRegistry.pollProviderAssignment]
  split
  · exact .same
  · rename_i hfind
    dsimp only
    split
    · exact .stored (lookup_of_find hfind).1 rfl rfl rfl
    · exact .same

theorem Reassigns.pollReceiverAssignment (registry : InterchangeRegistry) (scope : NodeScopeKey)
    (now recovery : ℕ) :
    registry.Reassigns (registry.pollReceiverAssignment scope now recovery).2 := by
  rw [InterchangeRegistry.pollReceiverAssignment]
  split
  · exact .same
  · rename_i hfind
    dsimp only
    split
    · exact .stored (lookup_of_find hfind).1 rfl rfl rfl
    · exact .same

theorem Reassigns.acknowledgeAssignment (registry : InterchangeRegistry) (scope : NodeScopeKey)
    (transferId : String) (role : ArtifactAssignmentRole) (now : ℕ) :
    registry.Reassigns (registry.acknowledgeAssignment scope transferId role now).2 := by
  rw [InterchangeRegistry.acknowledgeAssignment]
  split
  · exact .same
  · rename_i hstored
    dsimp only
    split
    · exact .same
    split
    · exact .stored hstored rfl rfl rfl
    split
    · exact .stored hstored rfl rfl rfl
    · exact .same

theorem Reassigns.evolves (hreassigns : registry.Reassigns after) : registry.Evolves after := by
  cases hreassigns with
  | same => exact .refl _
  | stored hstored hrecord hauthorization hmetered =>
    refine .store hstored ⟨?_, ?_, ?_⟩ hmetered
    · rw [InterchangeTransfer.frame, InterchangeTransfer.frame, hrecord, hauthorization]
    · rw [hrecord]
    · rw [hrecord]
      exact id

/-- No transfer is added. -/
theorem Carries.absent (hcarries : registry.Carries after)
    (habsent : registry.transfers[transferId]? = none) : after.transfers[transferId]? = none := by
  cases hlater : after.transfers[transferId]? with
  | none => rfl
  | some later =>
    obtain ⟨earlier, hearlier, -⟩ := hcarries transferId later hlater
    rw [habsent] at hearlier
    cases hearlier

theorem Carries.reportProgress (registry : InterchangeRegistry) (artifacts : ArtifactRegistry)
    (scope : NodeScopeKey) (transferId : String) (report : TransferReport)
    (lifetimes : TransferLifetimes) (now : ℕ) :
    registry.Carries (registry.reportProgress artifacts scope transferId report lifetimes
      now).2.1 := by
  intro id later hlater
  have hreported : ((⟨registry, artifacts⟩ : InterchangeState).registry.reportProgress
      (⟨registry, artifacts⟩ : InterchangeState).artifacts scope transferId report lifetimes
        now).2.1.transfers[id]? = some later := hlater
  obtain ⟨earlier, hearlier, hchange⟩ := InterchangeState.change_of_report hreported
  exact ⟨earlier, hearlier, InterchangeTransfer.evolves_of_change hchange⟩

/-- What is unfinished after the expiry was unfinished before and has not lapsed. -/
theorem lookup_expire_of_unfinished {now noProgressTimeout : ℕ} {absoluteMax : Option ℕ}
    {terminalRetention : ℕ}
    (hlookup : (registry.expire now noProgressTimeout absoluteMax
      terminalRetention).2.transfers[transferId]? = some transfer)
    (hactive : transfer.record.state.terminal = false) :
    registry.transfers[transferId]? = some transfer ∧
      expired noProgressTimeout absoluteMax now transfer = false := by
  simp only [InterchangeRegistry.expire, Std.ExtTreeMap.getElem?_filter',
    Option.filter_eq_some_iff, endTransfers, Std.ExtTreeMap.getElem?_map,
    Option.map_eq_some_iff] at hlookup
  obtain ⟨⟨before, hbefore, hends⟩, -⟩ := hlookup
  by_cases hexpired : expired noProgressTimeout absoluteMax now before
  · rw [if_pos hexpired] at hends
    rw [← hends] at hactive
    cases hactive
  · rw [if_neg hexpired] at hends
    subst hends
    exact ⟨hbefore, Bool.not_eq_true _ ▸ hexpired⟩

end InterchangeRegistry

end Clusterflux
