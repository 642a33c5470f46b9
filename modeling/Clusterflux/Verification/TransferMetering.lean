import Clusterflux.Foundation.Runs
import Clusterflux.Verification.InterchangeRuns
import Clusterflux.Verification.TransferBounds

/-!
# Metered bytes and dropped transfers

The coordinator meters the body bytes that nodes report, by the path they took.  A
transfer remembers how many of its bytes have been metered, so that a byte is not
metered again when the path changes or when both ends report it.  The meters add up
to what all transfers ever created remember, including those that were dropped; and
only finished transfers are dropped.
-/

namespace Clusterflux

open LabelledRuns OrderedMaps InterchangeRegistry Std

variable {transferId : String} {transfer : InterchangeTransfer}

section

variable {bytes terminalRetention capacity : ℕ} {terms : TransferTerms}
  {service : CoordinatorService} {step : CoordinatorStep}

/-! ## Reports -/

namespace InterchangeTransfer

variable (transfer : InterchangeTransfer) (artifacts : ArtifactRegistry) (scope : NodeScopeKey)
  (report : TransferReport) (lifetimes : TransferLifetimes) (now : ℕ)

/-- The bytes of the transfer that can have been transferred under its lease. -/
def bodyBytesSent : ℕ :=
  transfer.record.bytesCompleted - transfer.destinationAuthorization.lease.allowedOffset

theorem meteredBodyBytes_withReadyAssignments :
    (transfer.withReadyAssignments scope report).meteredBodyBytes = transfer.meteredBodyBytes := by
  unfold withReadyAssignments
  dsimp only
  split <;> split <;> rfl

theorem meteredBodyBytes_advanced :
    (transfer.advanced scope report lifetimes now).meteredBodyBytes =
      max transfer.meteredBodyBytes (transfer.bodyBytes report) := by
  unfold advanced offerOther
  dsimp only
  split <;> split <;> (try split) <;> rfl

/-- What a report does to the metered bytes of its transfer. -/
inductive MeteredBy (outcome : Except TransferReportError InterchangeProgress)
    (after : InterchangeTransfer) : Prop
  | refused (error : TransferReportError) (houtcome : outcome = .error error)
      (hmetered : after.meteredBodyBytes = transfer.meteredBodyBytes)
  | repeated (hended : transfer.record.state.terminal = true)
      (hmetered : after.meteredBodyBytes = transfer.meteredBodyBytes)
  | taken (progress : InterchangeProgress) (houtcome : outcome = .ok progress)
      (hactive : transfer.record.state.terminal = false)
      (hbytes : after.record.bytesCompleted = report.bytesCompleted)
      (hmetered : after.meteredBodyBytes =
        max transfer.meteredBodyBytes (transfer.bodyBytes report))

theorem meteredBy_reportProgress :
    transfer.MeteredBy report (transfer.reportProgress artifacts scope report lifetimes now).1
      (transfer.reportProgress artifacts scope report lifetimes now).2.1 := by
  rw [reportProgress]
  split
  · exact .refused _ rfl rfl
  split
  · rename_i hended
    exact .repeated hended rfl
  rename_i hactive
  rw [Bool.not_eq_true] at hactive
  split
  · exact .refused _ rfl rfl
  split
  · exact .refused _ rfl rfl
  dsimp only
  split
  · exact .refused _ rfl (meteredBodyBytes_withReadyAssignments _ _ _)
  split
  · exact .refused _ rfl (meteredBodyBytes_withReadyAssignments _ _ _)
  · refine .taken _ rfl hactive (bytesCompleted_advanced _ _ _ _ _) ?_
    rw [meteredBodyBytes_advanced, meteredBodyBytes_withReadyAssignments, bodyBytes, bodyBytes,
      destinationAuthorization_withReadyAssignments]

end InterchangeTransfer

/-! ## Meters -/

open InterchangeTransfer (meteredBodyBytes)

namespace InterchangeRegistry

variable (registry : InterchangeRegistry)

def meterTotal : ℕ :=
  registry.directBodyBytes + registry.relayedBodyBytes + registry.unknownPathBodyBytes

/-- What the stored transfers remember to have been metered. -/
def meteredTotal : ℕ := total meteredBodyBytes registry.transfers

theorem meterTotal_of_meters {before after : InterchangeRegistry}
    (hmeters : after.meters = before.meters) : after.meterTotal = before.meterTotal := by
  simp only [meters, Prod.mk.injEq] at hmeters
  simp only [meterTotal, hmeters]

/-- Metered bytes arrive in the meter of their path, unless it saturates. -/
theorem meterTotal_meterBodyBytes {pathKind : ClusterfluxPathKind}
    (hlocal : pathKind = .local → bytes = 0) (hroom : registry.meterTotal + bytes ≤ u64Max) :
    (registry.meterBodyBytes pathKind bytes).meterTotal = registry.meterTotal + bytes := by
  unfold meterTotal at hroom ⊢
  cases pathKind with
  | «local» =>
    rw [hlocal rfl]
    rfl
  | direct =>
    simp only [meterBodyBytes, saturatingAdd]
    omega
  | relayed =>
    simp only [meterBodyBytes, saturatingAdd]
    omega
  | unknown =>
    simp only [meterBodyBytes, saturatingAdd]
    omega

/-- The bytes that a step meters, with the transfers that remember them. -/
structure Meters (before after : InterchangeRegistry) (bytes : ℕ) : Prop where
  remembered : after.meteredTotal = before.meteredTotal + bytes
  metered : before.meterTotal + bytes ≤ u64Max → after.meterTotal = before.meterTotal + bytes

variable {registry} {transferId : String} {stored after : InterchangeTransfer}

/-- Writing a transfer back changes what is remembered by what it remembers more. -/
theorem meteredTotal_store (hstored : registry.transfers[transferId]? = some stored)
    (hmetered : after.meteredBodyBytes = stored.meteredBodyBytes + bytes) :
    (registry.store transferId after).meteredTotal = registry.meteredTotal + bytes := by
  have hinsert : (registry.store transferId after).meteredTotal +
      measureAt meteredBodyBytes registry.transfers transferId =
        registry.meteredTotal + after.meteredBodyBytes := total_insert _ _ _ _
  rw [measureAt_of_lookup hstored, hmetered] at hinsert
  omega

/-- A report meters the bytes beyond those that its transfer remembers. -/
theorem meters_reportProgress (registry : InterchangeRegistry) (artifacts : ArtifactRegistry)
    (scope : NodeScopeKey) (transferId : String) (report : TransferReport)
    (lifetimes : TransferLifetimes) (now : ℕ) :
    ∃ bytes, registry.Meters (registry.reportProgress artifacts scope transferId report lifetimes
      now).2.1 bytes := by
  cases hstored : registry.transfers[transferId]? with
  | none =>
    rw [reportProgress_unknown hstored]
    exact ⟨0, rfl, fun _ => rfl⟩
  | some stored =>
    have hreport := stored.meteredBy_reportProgress artifacts scope report lifetimes now
    simp only [reportProgress, hstored]
    generalize stored.reportProgress artifacts scope report lifetimes now = result at hreport ⊢
    obtain ⟨outcome, after, artifacts'⟩ := result
    cases hreport with
    | refused error houtcome hmetered =>
      subst houtcome
      exact ⟨0, meteredTotal_store hstored hmetered, fun _ => rfl⟩
    | repeated hended hmetered =>
      refine ⟨0, ?_⟩
      cases outcome with
      | error error => exact ⟨meteredTotal_store hstored hmetered, fun _ => rfl⟩
      | ok progress =>
        simp only [hended, if_true]
        exact ⟨meteredTotal_store hstored hmetered, fun _ => rfl⟩
    | taken progress houtcome hactive _ hmetered =>
      subst houtcome
      simp only [hactive, Bool.false_eq_true, if_false]
      dsimp only at hmetered
      refine ⟨stored.bodyBytes report - stored.meteredBodyBytes, ?_, fun hroom => ?_⟩
      · rw [meteredTotal, transfers_meterBodyBytes]
        exact meteredTotal_store hstored (by omega)
      · apply meterTotal_meterBodyBytes (registry.store transferId after) _ hroom
        intro hlocal
        rw [InterchangeTransfer.bodyBytes, if_pos hlocal, Nat.zero_sub]

/-! ## Dropped transfers -/

/-- The transfers of the earlier registry that the later one does not have. -/
def missing (before after : InterchangeRegistry) : List InterchangeTransfer :=
  (before.transfers.filter fun transferId _ => !after.transfers.contains transferId).values

variable {before after final : InterchangeRegistry}

theorem meteredTotal_of_follows (hfollows : before.Follows after) :
    before.meteredTotal = after.meteredTotal +
      ((before.missing after).map meteredBodyBytes).sum := by
  apply total_split
  intro transferId later hlater
  obtain ⟨earlier, hearlier, -, hmetered⟩ := hfollows.transfers transferId later hlater
  exact ⟨earlier, hearlier, hmetered⟩

/-- Only what happens to the earlier transfers counts. -/
theorem missing_congr (hsame : ∀ transferId ∈ before.transfers,
      after.transfers.contains transferId = final.transfers.contains transferId) :
    before.missing after = before.missing final := by
  rw [missing, missing]
  congr 1
  apply ExtTreeMap.ext_getElem?
  intro transferId
  rw [ExtTreeMap.getElem?_filter', ExtTreeMap.getElem?_filter']
  cases hlookup : before.transfers[transferId]? with
  | none => rfl
  | some transfer =>
    have hmem : transferId ∈ before.transfers :=
      ExtTreeMap.mem_iff_isSome_getElem?.mpr (by rw [hlookup]; rfl)
    simp only [hsame transferId hmem]

theorem mem_missing_iff :
    transfer ∈ before.missing after ↔ ∃ transferId : String,
      before.transfers[transferId]? = some transfer ∧ after.transfers[transferId]? = none := by
  rw [missing, mem_values_iff]
  apply exists_congr
  intro transferId
  rw [ExtTreeMap.getElem?_filter', Option.filter_eq_some_iff,
    ExtTreeMap.contains_eq_isSome_getElem?]
  cases after.transfers[transferId]? <;> simp

/-- A transfer that expiry drops was finished. -/
theorem finished_of_dropped_expire {now noProgressTimeout : ℕ} {absoluteMax : Option ℕ}
    (hnow : now ≤ u64Max) (hstored : before.transfers[transferId]? = some transfer)
    (hdropped : (before.expire now noProgressTimeout absoluteMax
      terminalRetention).2.transfers[transferId]? = none) :
    transfer.record.state.terminal = true := by
  simp only [expire, endTransfers, ExtTreeMap.getElem?_filter', ExtTreeMap.getElem?_map,
    hstored, Option.map_some] at hdropped
  cases hexpired : expired noProgressTimeout absoluteMax now transfer with
  | true =>
    -- what has just been ended is kept for a while
    have hkept : now ≤ saturatingAdd now terminalRetention := by
      unfold saturatingAdd
      omega
    simp [hexpired, InterchangeTransfer.ended, hkept, Option.filter] at hdropped
  | false =>
    cases hended : transfer.record.state.terminal with
    | true => rfl
    | false => simp [hexpired, hended, Option.filter] at hdropped

/-- What is finished after the expiry was finished before or has lapsed. -/
theorem finished_or_expired {now noProgressTimeout : ℕ} {absoluteMax : Option ℕ}
    {transfer later : InterchangeTransfer} (hstored : before.transfers[transferId]? = some transfer)
    (hlater : (before.expire now noProgressTimeout absoluteMax
      terminalRetention).2.transfers[transferId]? = some later)
    (hended : later.record.state.terminal = true) :
    transfer.record.state.terminal = true ∨
      expired noProgressTimeout absoluteMax now transfer = true := by
  simp only [expire, endTransfers, ExtTreeMap.getElem?_filter', ExtTreeMap.getElem?_map,
    hstored, Option.map_some, Option.filter_eq_some_iff, Option.some_inj] at hlater
  obtain ⟨rfl, -⟩ := hlater
  by_cases hexpired : expired noProgressTimeout absoluteMax now transfer
  · exact .inr hexpired
  · rw [if_neg hexpired] at hended
    exact .inl hended

/-- A round of making room drops a finished transfer. -/
theorem finished_of_dropped_pruneTerminal (hstored : before.transfers[transferId]? = some transfer)
    (hdropped : (before.pruneTerminal capacity).transfers[transferId]? = none) :
    transfer.record.state.terminal = true := by
  unfold pruneTerminal at hdropped
  split at hdropped
  · split at hdropped
    · rename_i oldest holdest
      obtain ⟨removed, hremoved, hended⟩ := TransferHoldsMatch.terminal_of_oldestTerminal holdest
      by_cases hid : oldest = transferId
      · rw [hid, hstored] at hremoved
        rw [Option.some.inj hremoved]
        exact hended
      · rw [ExtTreeMap.getElem?_erase, if_neg (by simpa using hid), hstored] at hdropped
        cases hdropped
    · rw [hstored] at hdropped
      cases hdropped
  · rw [hstored] at hdropped
    cases hdropped

theorem finished_of_dropped_pruneTerminalToFit
    (hstored : before.transfers[transferId]? = some transfer)
    (hdropped : (before.pruneTerminalToFit capacity).transfers[transferId]? = none) :
    transfer.record.state.terminal = true := by
  rw [pruneTerminalToFit] at hdropped
  generalize before.transfers.size = rounds at hdropped
  induction rounds generalizing before with
  | zero =>
    rw [Function.iterate_zero_apply, hstored] at hdropped
    cases hdropped
  | succ rounds ih =>
    rw [Function.iterate_succ_apply] at hdropped
    cases hround : (before.pruneTerminal capacity).transfers[transferId]? with
    | none => exact finished_of_dropped_pruneTerminal hstored hround
    | some kept =>
      rw [lookup_of_pruneTerminal hround] at hstored
      obtain rfl := Option.some.inj hstored
      exact ih hround hdropped

end InterchangeRegistry

/-! ## What is metered was sent -/

/-- No more bytes of the transfer are metered than were sent under its lease. -/
def InterchangeTransfer.MeteredOnce (transfer : InterchangeTransfer) : Prop :=
  transfer.meteredBodyBytes ≤ transfer.bodyBytesSent

theorem InterchangeTransfer.Evolves.bodyBytesSent_le {before after : InterchangeTransfer}
    (hevolves : before.Evolves after) : before.bodyBytesSent ≤ after.bodyBytesSent := by
  have hoffset : after.destinationAuthorization.lease.allowedOffset =
      before.destinationAuthorization.lease.allowedOffset :=
    congrArg (fun frame => frame.2.2.2.2) hevolves.frame
  have hbytes := hevolves.bytes
  unfold bodyBytesSent
  omega

/-- Every stored transfer is metered once. -/
def InterchangeRegistry.MeteredOnce (registry : InterchangeRegistry) : Prop :=
  ∀ (transferId : String) transfer, registry.transfers[transferId]? = some transfer →
    transfer.MeteredOnce

namespace InterchangeRegistry.MeteredOnce

variable {registry after : InterchangeRegistry}

theorem of_follows (honce : registry.MeteredOnce) (hfollows : registry.Follows after) :
    after.MeteredOnce := by
  intro transferId later hlater
  obtain ⟨earlier, hearlier, hevolves, hmetered⟩ := hfollows.transfers transferId later hlater
  calc
    later.meteredBodyBytes = earlier.meteredBodyBytes := hmetered
    _ ≤ earlier.bodyBytesSent := honce transferId earlier hearlier
    _ ≤ later.bodyBytesSent := hevolves.bodyBytesSent_le

/-- The bytes that a report meters are among those that it reports. -/
theorem reportProgress (honce : registry.MeteredOnce) (artifacts : ArtifactRegistry)
    (scope : NodeScopeKey) (transferId : String) (report : TransferReport)
    (lifetimes : TransferLifetimes) (now : ℕ) :
    (registry.reportProgress artifacts scope transferId report lifetimes now).2.1.MeteredOnce := by
  intro id later hlater
  obtain ⟨earlier, hearlier, hevolves⟩ :=
    Carries.reportProgress registry artifacts scope transferId report lifetimes now id later hlater
  have hsent := hevolves.bodyBytesSent_le
  have hbefore := honce id earlier hearlier
  by_cases hid : transferId = id
  · subst hid
    rw [(reportProgress_of_stored hearlier).2.1, ExtTreeMap.getElem?_insert_self,
      Option.some_inj] at hlater
    have hreport := earlier.meteredBy_reportProgress artifacts scope report lifetimes now
    rw [hlater] at hreport
    cases hreport with
    | refused error _ hmetered => exact (hmetered.trans_le hbefore).trans hsent
    | repeated _ hmetered => exact (hmetered.trans_le hbefore).trans hsent
    | taken progress _ _ hbytes hmetered =>
      have hoffset : later.destinationAuthorization.lease.allowedOffset =
          earlier.destinationAuthorization.lease.allowedOffset :=
        congrArg (fun frame => frame.2.2.2.2) hevolves.frame
      have hbody : earlier.bodyBytes report ≤ later.bodyBytesSent := by
        unfold InterchangeTransfer.bodyBytes InterchangeTransfer.bodyBytesSent
        rw [hbytes, hoffset]
        split
        · exact Nat.zero_le _
        · exact le_rfl
      exact hmetered.trans_le (max_le (hbefore.trans hsent) hbody)
  · cases hstored : registry.transfers[transferId]? with
    | none =>
      rw [reportProgress_unknown hstored] at hlater
      exact honce id later hlater
    | some stored =>
      rw [(reportProgress_of_stored hstored).2.1] at hlater
      rcases getElem?_insert_eq_some_iff.mp hlater with ⟨hsame, -⟩ | ⟨-, hother⟩
      · exact absurd hsame hid
      · exact honce id later hother

theorem create (honce : registry.MeteredOnce) (terms : TransferTerms) :
    (registry.create terms.transferId terms.transfer maxInterchangeTransfers).2.MeteredOnce := by
  have hpruned := honce.of_follows (Follows.pruneTerminalToFit registry maxInterchangeTransfers)
  obtain hfull | ⟨-, hcreated⟩ := create_cases registry terms.transferId terms.transfer
    maxInterchangeTransfers
  · rw [hfull]
    exact hpruned
  · rw [hcreated]
    intro transferId transfer hlookup
    rcases getElem?_insert_eq_some_iff.mp hlookup with ⟨-, rfl⟩ | ⟨-, hother⟩
    · exact Nat.zero_le _
    · exact hpruned transferId transfer hother

end InterchangeRegistry.MeteredOnce

/-! ## Calls -/

/-- What a call does to the account of metered bytes. -/
structure Accounted (before after : InterchangeRegistry) (bytes : ℕ) : Prop where
  remembered : after.meteredTotal + ((before.missing after).map meteredBodyBytes).sum =
      before.meteredTotal + bytes
  metered : before.meterTotal + bytes ≤ u64Max → after.meterTotal = before.meterTotal + bytes

theorem contains_reportProgress (registry : InterchangeRegistry) (artifacts : ArtifactRegistry)
    (scope : NodeScopeKey) (transferId : String) (report : TransferReport)
    (lifetimes : TransferLifetimes) (now : ℕ) (other : String) :
    (registry.reportProgress artifacts scope transferId report lifetimes
      now).2.1.transfers.contains other = registry.transfers.contains other := by
  cases hstored : registry.transfers[transferId]? with
  | none => rw [reportProgress_unknown hstored]
  | some stored =>
    rw [(reportProgress_of_stored hstored).2.1, ExtTreeMap.contains_insert]
    by_cases hid : transferId = other
    · subst hid
      simp [ExtTreeMap.contains_eq_isSome_getElem?, hstored]
    · simp [hid]

theorem Accounted.of_follows {before after : InterchangeRegistry}
    (hfollows : before.Follows after) : Accounted before after 0 where
  remembered := (meteredTotal_of_follows hfollows).symm
  metered _ := meterTotal_of_meters hfollows.meters

/-- Metering after transfers have been dropped. -/
theorem Accounted.of_meters {before middle after : InterchangeRegistry}
    (hfollows : before.Follows middle) (hmeters : middle.Meters after bytes)
    (hsame : ∀ transferId ∈ before.transfers,
      after.transfers.contains transferId = middle.transfers.contains transferId) :
    Accounted before after bytes where
  remembered := by
    rw [missing_congr hsame, hmeters.remembered,
      meteredTotal_of_follows hfollows]
    omega
  metered hroom := by
    have hbefore := meterTotal_of_meters hfollows.meters
    rw [← hbefore] at hroom ⊢
    exact hmeters.metered hroom

section Calls

variable {machine : Machine} {call : InterchangeCall}

/-- A new transfer remembers nothing. -/
theorem InterchangeRegistry.meters_store_new {registry : InterchangeRegistry}
    (habsent : registry.transfers[terms.transferId]? = none) :
    registry.Meters (registry.store terms.transferId terms.transfer) 0 where
  remembered := by
    have hinsert : (registry.store terms.transferId terms.transfer).meteredTotal +
        measureAt meteredBodyBytes registry.transfers terms.transferId =
          registry.meteredTotal + terms.transfer.meteredBodyBytes := total_insert _ _ _ _
    rw [measureAt_of_absent habsent] at hinsert
    exact hinsert
  metered _ := rfl

theorem InterchangeRegistry.Follows.absent {before after : InterchangeRegistry}
    (hfollows : before.Follows after) (habsent : before.transfers[transferId]? = none) :
    after.transfers[transferId]? = none := by
  cases hlookup : after.transfers[transferId]? with
  | none => rfl
  | some later =>
    obtain ⟨earlier, hearlier, -⟩ := hfollows.transfers transferId later hlookup
    rw [habsent] at hearlier
    cases hearlier

theorem accounted_create {before middle : InterchangeRegistry} (hfollows : before.Follows middle)
    (habsent : before.transfers[terms.transferId]? = none) :
    Accounted before (middle.create terms.transferId terms.transfer maxInterchangeTransfers).2
      0 := by
  have hpruned := hfollows.trans
    (InterchangeRegistry.Follows.pruneTerminalToFit middle maxInterchangeTransfers)
  obtain hfull | ⟨-, hcreated⟩ := create_cases middle terms.transferId
    terms.transfer maxInterchangeTransfers
  · rw [hfull]
    exact .of_follows hpruned
  · rw [hcreated]
    apply Accounted.of_meters hpruned
      (meters_store_new (hpruned.absent habsent))
    intro transferId hmem
    have hother : terms.transferId ≠ transferId := by
      rintro rfl
      rw [ExtTreeMap.mem_iff_isSome_getElem?, habsent] at hmem
      cases hmem
    rw [store, ExtTreeMap.contains_insert]
    simp [hother]

/-- A call meters what its report brings, and nothing is lost with the transfers
that it drops. -/
theorem accounted_perform (hfixed : call.KeepsConfiguration)
    (hunused : machine.environment.TokenUnused machine.service.interchangeRegistry) :
    ∃ bytes, Accounted machine.service.interchangeRegistry
      (call.perform machine).interchangeRegistry bytes := by
  have heffect := (call.effect_perform hfixed machine).transfers
  generalize (call.perform machine).interchangeRegistry = after at heffect
  cases heffect with
  | evolved hentered hevolves => exact ⟨0, .of_follows (hentered.follows.trans hevolves.toFollows)⟩
  | reported hentered scope now =>
    obtain ⟨bytes, hmeters⟩ := meters_reportProgress _ _ scope _ _ _ now
    exact ⟨bytes, .of_meters hentered.follows hmeters fun transferId _ =>
      contains_reportProgress _ _ _ _ _ _ _ transferId⟩
  | created hcreation =>
    have hentered : Entered machine (machine.service.expireInterchange _) :=
      .inr ⟨_, hcreation.expiry, rfl⟩
    exact ⟨0, accounted_create hentered.follows (hcreation.absent hunused)⟩

theorem meteredOnce_perform (hfixed : call.KeepsConfiguration)
    (honce : machine.service.interchangeRegistry.MeteredOnce) :
    (call.perform machine).interchangeRegistry.MeteredOnce := by
  have heffect := (call.effect_perform hfixed machine).transfers
  generalize (call.perform machine).interchangeRegistry = after at heffect
  cases heffect with
  | evolved hentered hevolves =>
    exact honce.of_follows (hentered.follows.trans hevolves.toFollows)
  | reported hentered scope now =>
    exact (honce.of_follows hentered.follows).reportProgress _ _ _ _ _ _
  | created hcreation =>
    have hentered : Entered machine (machine.service.expireInterchange _) :=
      .inr ⟨_, hcreation.expiry, rfl⟩
    exact (honce.of_follows hentered.follows).create _

/-- The transfer lapsed when the call entered: it was ended before anything else. -/
def Machine.Lapsed (machine : Machine) (transfer : InterchangeTransfer) : Prop :=
  ∃ first, machine.environment.clock 0 = some first ∧ InterchangeRegistry.expired
      machine.service.artifactInterchangeConfiguration.noProgressTimeoutSeconds
      machine.service.artifactInterchangeConfiguration.absoluteTransferMaxSeconds first
      transfer = true

/-- Entering drops finished transfers only. -/
theorem Entered.finished_of_dropped (hentered : Entered machine service)
    (hstored : machine.service.interchangeRegistry.transfers[transferId]? = some transfer)
    (hdropped : service.interchangeRegistry.transfers[transferId]? = none) :
    transfer.record.state.terminal = true := by
  obtain rfl | ⟨first, hfirst, rfl⟩ := hentered
  · rw [hstored] at hdropped
    cases hdropped
  · exact finished_of_dropped_expire
      (machine.environment.clock_bounded 0 first hfirst) hstored hdropped

theorem absent_pruneTerminalToFit_of_create {registry : InterchangeRegistry}
    {transferId other : String}
    (hdropped : (registry.create other transfer capacity).2.transfers[transferId]? = none) :
    (registry.pruneTerminalToFit capacity).transfers[transferId]? = none := by
  obtain hfull | ⟨-, hcreated⟩ := registry.create_cases other transfer capacity
  · rw [hfull] at hdropped
    exact hdropped
  · rw [hcreated, store, ExtTreeMap.getElem?_insert] at hdropped
    split at hdropped
    · cases hdropped
    · exact hdropped

/-- A call drops a transfer only if it is finished, or if it lapsed and the call
ended it first. -/
theorem finished_of_dropped_perform (hfixed : call.KeepsConfiguration)
    (hstored : machine.service.interchangeRegistry.transfers[transferId]? = some transfer)
    (hdropped : (call.perform machine).interchangeRegistry.transfers[transferId]? = none) :
    transfer.record.state.terminal = true ∨ machine.Lapsed transfer := by
  have heffect := (call.effect_perform hfixed machine).transfers
  generalize (call.perform machine).interchangeRegistry = after at heffect hdropped
  cases heffect with
  | evolved hentered hevolves =>
    rename_i entered
    apply Or.inl
    apply hentered.finished_of_dropped hstored
    apply ExtTreeMap.getElem?_eq_none
    intro hmem
    have hkept := hevolves.kept transferId hmem
    rw [ExtTreeMap.mem_iff_isSome_getElem?, hdropped] at hkept
    cases hkept
  | reported hentered scope now =>
    apply Or.inl
    apply hentered.finished_of_dropped hstored
    rw [← Option.isNone_iff_eq_none, ← Option.not_isSome,
      ← ExtTreeMap.contains_eq_isSome_getElem?, contains_reportProgress] at hdropped
    rw [← Option.isNone_iff_eq_none, ← Option.not_isSome,
      ← ExtTreeMap.contains_eq_isSome_getElem?]
    exact hdropped
  | created hcreation =>
    rename_i fields first request terms
    cases hexpired : (machine.service.expireInterchange
        first).interchangeRegistry.transfers[transferId]? with
    | none =>
      have hentered : Entered machine (machine.service.expireInterchange first) :=
        .inr ⟨first, hcreation.expiry, rfl⟩
      exact .inl (hentered.finished_of_dropped hstored hexpired)
    | some later =>
      have hpruned := absent_pruneTerminalToFit_of_create hdropped
      have hended := finished_of_dropped_pruneTerminalToFit hexpired hpruned
      apply (finished_or_expired hstored hexpired hended).imp id
      intro hlapsed
      exact ⟨first, hcreation.expiry, hlapsed⟩

end Calls

/-! ## Runs -/

/-- The service with the transfers that were dropped on the way. -/
structure TransferLedger where
  service : CoordinatorService
  dropped : List InterchangeTransfer

namespace TransferLedger

variable (ledger : TransferLedger)

def next (step : CoordinatorStep) : TransferLedger where
  service := step.next ledger.service
  dropped := ledger.dropped ++
    ledger.service.interchangeRegistry.missing (step.next ledger.service).interchangeRegistry

/-- All transfers ever created, as they are or as they were when they were dropped. -/
def transfers : List InterchangeTransfer :=
  ledger.service.interchangeRegistry.transfers.values ++ ledger.dropped

def meteredTotal : ℕ := (ledger.transfers.map meteredBodyBytes).sum

theorem meteredTotal_eq : ledger.meteredTotal = ledger.service.interchangeRegistry.meteredTotal +
    (ledger.dropped.map meteredBodyBytes).sum := by
  rw [meteredTotal, transfers, List.map_append, List.sum_append]
  rfl

/-- What holds of the ledger in every state of a run. -/
structure Sound (configuration : CoordinatorArtifactInterchangeConfiguration) : Prop where
  configured : ledger.service.artifactInterchangeConfiguration = configuration
  within : ledger.service.interchangeRegistry.WithinBounds configuration
  meteredOnce : ∀ transfer ∈ ledger.transfers, transfer.MeteredOnce
  metered : ledger.meteredTotal ≤ u64Max →
    ledger.service.interchangeRegistry.meterTotal = ledger.meteredTotal

end TransferLedger

/-- The step leaves the configuration alone, and a transfer that it creates gets an
unused token. -/
def CoordinatorStep.Ordinary (step : CoordinatorStep) (service : CoordinatorService) : Prop :=
  match step with
  | .interchange call environment =>
    call.KeepsConfiguration ∧ environment.TokenUnused service.interchangeRegistry
  | .elsewhere _ => True

namespace TransferLedger.Sound

variable {ledger : TransferLedger} {configuration : CoordinatorArtifactInterchangeConfiguration}

theorem meteredOnce_registry (hsound : ledger.Sound configuration) :
    ledger.service.interchangeRegistry.MeteredOnce := fun transferId transfer hlookup =>
  hsound.meteredOnce transfer
    (List.mem_append_left _ ((mem_values_iff _ _).mpr ⟨transferId, hlookup⟩))

/-- The ledger after a call that changed the registry as it should. -/
theorem of_accounted (hsound : ledger.Sound configuration)
    (hconfiguration : service.artifactInterchangeConfiguration =
      ledger.service.artifactInterchangeConfiguration)
    (hwithin : service.interchangeRegistry.WithinBounds configuration)
    (honce : service.interchangeRegistry.MeteredOnce)
    (haccounted : Accounted ledger.service.interchangeRegistry service.interchangeRegistry bytes) :
    Sound ⟨service, ledger.dropped ++
      ledger.service.interchangeRegistry.missing service.interchangeRegistry⟩ configuration where
  configured := hconfiguration.trans hsound.configured
  within := hwithin
  meteredOnce transfer hmem := by
    simp only [transfers, List.mem_append] at hmem
    rcases hmem with hstored | hdropped | hmissing
    · obtain ⟨transferId, hlookup⟩ := (mem_values_iff _ _).mp hstored
      exact honce transferId transfer hlookup
    · exact hsound.meteredOnce transfer (List.mem_append_right _ hdropped)
    · obtain ⟨transferId, hlookup, -⟩ := mem_missing_iff.mp hmissing
      exact hsound.meteredOnce_registry transferId transfer hlookup
  metered hroom := by
    have hremembered := haccounted.remembered
    have hbefore := ledger.meteredTotal_eq
    rw [meteredTotal_eq, List.map_append, List.sum_append] at hroom ⊢
    dsimp only at hroom ⊢
    have hmeters := hsound.metered (by omega)
    rw [haccounted.metered (by omega)]
    omega

theorem perform {machine : Machine} {dropped : List InterchangeTransfer} {call : InterchangeCall}
    (hvalid : configuration.validate = .ok ())
    (hsound : Sound ⟨machine.service, dropped⟩ configuration) (hfixed : call.KeepsConfiguration)
    (hunused : machine.environment.TokenUnused machine.service.interchangeRegistry) :
    Sound ⟨call.perform machine, dropped ++
      machine.service.interchangeRegistry.missing (call.perform machine).interchangeRegistry⟩
        configuration := by
  obtain rfl : machine.service.artifactInterchangeConfiguration = configuration :=
    hsound.configured
  obtain ⟨bytes, haccounted⟩ := accounted_perform hfixed hunused
  apply hsound.of_accounted
  · exact (call.effect_perform hfixed machine).configuration
  · exact withinBounds_perform hvalid hfixed hsound.within
  · exact meteredOnce_perform hfixed hsound.meteredOnce_registry
  · exact haccounted

/-- One step keeps the ledger sound. -/
theorem next (hvalid : configuration.validate = .ok ()) (hsound : ledger.Sound configuration)
    (hordinary : step.Ordinary ledger.service) :
    (ledger.next step).Sound configuration := by
  obtain ⟨service, dropped⟩ := ledger
  cases step with
  | interchange call environment =>
    have hperformed : Sound ⟨call.perform ⟨service, environment⟩, dropped ++
        service.interchangeRegistry.missing
          (call.perform ⟨service, environment⟩).interchangeRegistry⟩ configuration :=
      hsound.perform hvalid hordinary.1 hordinary.2
    exact hperformed
  | elsewhere other =>
    have hkept : Sound ⟨CoordinatorStep.next service (.elsewhere other), dropped ++
        service.interchangeRegistry.missing service.interchangeRegistry⟩ configuration :=
      hsound.of_accounted rfl hsound.within hsound.meteredOnce_registry
        (.of_follows (InterchangeRegistry.Evolves.refl _).toFollows)
    exact hkept

/-- Without transfers every limit is kept and nothing is metered. -/
theorem initial (hempty : service.interchangeRegistry = {}) :
    Sound ⟨service, []⟩ service.artifactInterchangeConfiguration := by
  have hvalues : service.interchangeRegistry.transfers.values = [] := by
    rw [hempty]
    exact values_empty
  have hload : ∀ property, service.interchangeRegistry.load property = 0 := by
    intro property
    rw [load, hvalues, List.countP_nil]
  have hbytes : ∀ scope, service.interchangeRegistry.partialBytes scope = 0 := by
    intro scope
    rw [partialBytes, total, hvalues]
    rfl
  refine ⟨rfl, ⟨?_, ?_, ?_, ?_, ?_, ?_, ?_⟩, ?_, ?_⟩
  · exact fun _ => (hload _).trans_le (Nat.zero_le _)
  · exact fun _ _ => (hload _).trans_le (Nat.zero_le _)
  · exact fun _ _ _ => (hload _).trans_le (Nat.zero_le _)
  · exact fun _ => (hload _).trans_le (Nat.zero_le _)
  · exact fun _ => (hload _).trans_le (Nat.zero_le _)
  · exact fun scope => (hbytes scope).trans_le (Nat.zero_le _)
  · rw [hempty]
    exact ExtTreeMap.size_empty.trans_le (Nat.zero_le _)
  · intro transfer hmem
    rw [transfers, hvalues] at hmem
    cases hmem
  · intro _
    rw [meteredTotal, transfers, hvalues, hempty]
    rfl

end TransferLedger.Sound

/-- The runs of the coordinator under one configuration, in which the random tokens
of new transfers are unused. -/
def OrdinaryRun (start : TransferLedger) (steps : List CoordinatorStep) (final : TransferLedger) :
    Prop :=
  Run (fun step before after => after = TransferLedger.next before step)
    (fun step ledger => step.Ordinary ledger.service) start steps final

theorem TransferLedger.Sound.of_run {configuration : CoordinatorArtifactInterchangeConfiguration}
    {start final : TransferLedger} {steps : List CoordinatorStep}
    (hvalid : configuration.validate = .ok ()) (hstart : start.Sound configuration)
    (hrun : OrdinaryRun start steps final) : final.Sound configuration := by
  induction hrun with
  | nil => exact hstart
  | snoc _ hordinary hstep ih =>
    subst hstep
    exact ih.next hvalid hordinary

/-- A step drops finished transfers only, or such as lapsed and were ended first. -/
theorem finished_of_dropped_next (hordinary : step.Ordinary service)
    (hstored : service.interchangeRegistry.transfers[transferId]? = some transfer)
    (hdropped : (step.next service).interchangeRegistry.transfers[transferId]? = none) :
    transfer.record.state.terminal = true ∨ ∃ call environment,
      step = .interchange call environment ∧ Machine.Lapsed ⟨service, environment⟩ transfer := by
  cases step with
  | interchange call environment =>
    have hperformed : (call.perform ⟨service, environment⟩).interchangeRegistry.transfers[
      transferId]? = none := hdropped
    have hfinished := finished_of_dropped_perform hordinary.1 hstored hperformed
    exact hfinished.imp id fun hlapsed => ⟨call, environment, rfl, hlapsed⟩
  | elsewhere other =>
    have hsame : service.interchangeRegistry.transfers[transferId]? = none := hdropped
    rw [hstored] at hsame
    cases hsame

/-- In every state that a run under a valid configuration reaches: the numbers of
unfinished transfers and the bytes under way keep their limits and the registry its
size; a further step drops a transfer only if it is finished, or if its lease has
lapsed and the step ended it first; of every transfer ever created at most the bytes
sent under its lease are metered; and the meters add up to the metered bytes of all
transfers ever created, unless these exceed the largest number. -/
theorem transfers_bounded_and_metered {start : CoordinatorService} {steps : List CoordinatorStep}
    {final : TransferLedger} (hvalid : start.artifactInterchangeConfiguration.validate = .ok ())
    (hempty : start.interchangeRegistry = {}) (hrun : OrdinaryRun ⟨start, []⟩ steps final) :
    final.service.interchangeRegistry.WithinBounds start.artifactInterchangeConfiguration ∧
      (∀ (step : CoordinatorStep), step.Ordinary final.service → ∀ (transferId : String) transfer,
        final.service.interchangeRegistry.transfers[transferId]? = some transfer →
        (step.next final.service).interchangeRegistry.transfers[transferId]? = none →
          transfer.record.state.terminal = true ∨ ∃ call environment,
            step = .interchange call environment ∧
              Machine.Lapsed ⟨final.service, environment⟩ transfer) ∧
      (∀ transfer ∈ final.transfers, transfer.meteredBodyBytes ≤ transfer.record.bytesCompleted -
          transfer.destinationAuthorization.lease.allowedOffset) ∧
      ((final.transfers.map meteredBodyBytes).sum ≤ u64Max →
        final.service.interchangeRegistry.directBodyBytes +
            final.service.interchangeRegistry.relayedBodyBytes +
            final.service.interchangeRegistry.unknownPathBodyBytes =
          (final.transfers.map meteredBodyBytes).sum) := by
  have hsound := TransferLedger.Sound.of_run hvalid (.initial hempty) hrun
  refine ⟨hsound.within, ?_, hsound.meteredOnce, hsound.metered⟩
  intro step hordinary transferId transfer hstored hdropped
  exact finished_of_dropped_next hordinary hstored hdropped

end

namespace TransferSample

theorem ordinary_progress (node : NodeId) (state : ArtifactTransferState)
    (pathKind : ClusterfluxPathKind) (service : CoordinatorService) :
    (CoordinatorStep.interchange (progress node state pathKind) laterEnvironment).Ordinary
      service := by
  refine ⟨trivial, fun token htoken => ?_⟩
  simp [laterEnvironment, environment] at htoken

/-- The destination asks for the artifact, the source has sent four bytes, and the
destination has received them. -/
def meteredRun : List CoordinatorStep :=
  [.interchange request requestEnvironment,
    .interchange (progress source .connecting .direct) laterEnvironment,
    .interchange (progress destination .transferring .direct) laterEnvironment]

def meteredLedger : TransferLedger := meteredRun.foldl TransferLedger.next ⟨service, []⟩

theorem ordinaryRun_meteredRun : OrdinaryRun ⟨service, []⟩ meteredRun meteredLedger := by
  have hrequested : OrdinaryRun ⟨service, []⟩ [.interchange request requestEnvironment]
      (TransferLedger.next ⟨service, []⟩ (.interchange request requestEnvironment)) := by
    refine Run.snoc Run.nil ⟨trivial, fun token _ => ?_⟩ rfl
    rw [show service.interchangeRegistry.transfers = ∅ from rfl]
    simp
  exact Run.snoc (Run.snoc hrequested (ordinary_progress _ _ _ _) rfl)
    (ordinary_progress _ _ _ _) rfl

end TransferSample

open TransferSample in
/-- Four bytes that both ends report are metered once. -/
theorem reported_bytes_metered_once : meteredLedger.service.interchangeRegistry.directBodyBytes +
        meteredLedger.service.interchangeRegistry.relayedBodyBytes +
        meteredLedger.service.interchangeRegistry.unknownPathBodyBytes = 4 := by
  have hsum : (meteredLedger.transfers.map (·.meteredBodyBytes)).sum = 4 := by decide +kernel
  have hvalid : service.artifactInterchangeConfiguration.validate = .ok () := by
    decide +kernel
  obtain ⟨-, -, -, hmetered⟩ := transfers_bounded_and_metered hvalid rfl ordinaryRun_meteredRun
  rw [hmetered (by rw [hsum]; decide), hsum]

end Clusterflux
