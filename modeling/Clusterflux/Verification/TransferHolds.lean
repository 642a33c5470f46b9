import Clusterflux.Coordinator.Nodes
import Clusterflux.Verification.TransferEvolution

/-!
# The holds of transfers

While a transfer is unfinished its artifact is held under the id of the transfer.
Holds and transfers live in different registries and many paths end a transfer;
each of them has to give up exactly its hold.
-/

namespace Clusterflux

open OrderedMaps InterchangeRegistry InterchangeTransfer

/-! ## Holds -/

namespace ArtifactRegistry

variable {registry : ArtifactRegistry} {key held : ArtifactScopeKey}
  {reason other : ArtifactHoldReason}

/-- The artifact is held for the reason. -/
def Holds (registry : ArtifactRegistry) (key : ArtifactScopeKey) (reason : ArtifactHoldReason) :
    Prop :=
  ∃ holds, registry.holds[key]? = some holds ∧ ∃ hold ∈ holds, hold.reason = reason

theorem holds_iff_getD :
    registry.Holds key reason ↔ ∃ hold ∈ registry.holds[key]?.getD ∅, hold.reason = reason := by
  rw [Holds]
  cases registry.holds[key]? <;> simp

instance : Decidable (registry.Holds key reason) := decidable_of_iff _ holds_iff_getD.symm

theorem holds_congr {registry' : ArtifactRegistry} (hsame : registry'.holds = registry.holds) :
    registry'.Holds key reason ↔ registry.Holds key reason := by
  rw [Holds, Holds, hsame]

/-- The holds of an artifact that `dropHolds` leaves. -/
def keptHolds (chosen : ArtifactScopeKey → Bool) (dropped : ArtifactHoldReason → Bool)
    (key : ArtifactScopeKey) (holds : Finset ArtifactHold) : Finset ArtifactHold :=
  if chosen key then holds.filter (fun hold => !dropped hold.reason) else holds

theorem mem_keptHolds_iff {chosen : ArtifactScopeKey → Bool}
    {dropped : ArtifactHoldReason → Bool} {holds : Finset ArtifactHold} {hold : ArtifactHold} :
    hold ∈ keptHolds chosen dropped key holds ↔
      hold ∈ holds ∧ ¬ (chosen key = true ∧ dropped hold.reason = true) := by
  rw [keptHolds]
  by_cases hchosen : chosen key = true
  · simp [hchosen]
  · simp [hchosen]

theorem holds_dropHolds_iff {chosen : ArtifactScopeKey → Bool}
    {dropped : ArtifactHoldReason → Bool} :
    (registry.dropHolds chosen dropped).Holds key reason ↔
      registry.Holds key reason ∧ ¬ (chosen key = true ∧ dropped reason = true) := by
  have hlookup : (registry.dropHolds chosen dropped).holds[key]? =
      registry.holds[key]?.bind fun holds =>
        if keptHolds chosen dropped key holds = ∅ then none
        else some (keptHolds chosen dropped key holds) :=
    Std.ExtTreeMap.getElem?_filterMap'
  simp only [Holds, hlookup, Option.bind_eq_some_iff]
  constructor
  · rintro ⟨kept, ⟨holds, hholds, hkept⟩, hold, hmem, rfl⟩
    split at hkept
    · cases hkept
    · obtain rfl := Option.some.inj hkept
      obtain ⟨hmem, hkeep⟩ := mem_keptHolds_iff.mp hmem
      exact ⟨⟨holds, hholds, hold, hmem, rfl⟩, hkeep⟩
  · rintro ⟨⟨holds, hholds, hold, hmem, rfl⟩, hkeep⟩
    have hkept : hold ∈ keptHolds chosen dropped key holds :=
      mem_keptHolds_iff.mpr ⟨hmem, hkeep⟩
    exact ⟨_, ⟨holds, hholds, if_neg (Finset.ne_empty_of_mem hkept)⟩, hold, hkept, rfl⟩

theorem holds_removeHold_iff : (registry.removeHold key reason).Holds held other ↔
      registry.Holds held other ∧ ¬ (held = key ∧ other = reason) := by
  rw [removeHold, holds_dropHolds_iff]
  simp only [decide_eq_true_eq]

theorem holds_releaseTransferHolds_iff {released : List ReleasedTransferHold} :
    (registry.releaseTransferHolds released).Holds key reason ↔
      registry.Holds key reason ∧ (key, reason) ∉ released := by
  induction released generalizing registry with
  | nil => simp [releaseTransferHolds]
  | cons first released ih =>
    obtain ⟨firstKey, firstReason⟩ := first
    have hstep : registry.releaseTransferHolds ((firstKey, firstReason) :: released) =
        (registry.removeHold firstKey firstReason).releaseTransferHolds released := rfl
    rw [hstep, ih, holds_removeHold_iff, List.mem_cons, Prod.mk.injEq, not_or, and_assoc]

theorem holds_addHold_iff {now : ℕ} (hknown : registry.artifacts.contains key = true) :
    (registry.addHold key reason now).Holds held other ↔
      registry.Holds held other ∨ (held = key ∧ other = reason) := by
  rw [addHold]
  split
  · rename_i hrefused
    have hpresent : registry.Holds key reason := by
      obtain ⟨hold, hmem, hreason⟩ := hrefused.resolve_left (not_not.mpr hknown)
      cases hlookup : registry.holds[key]? with
      | none => simp [hlookup] at hmem
      | some holds =>
        rw [hlookup, Option.getD_some] at hmem
        exact ⟨holds, hlookup, hold, hmem, hreason⟩
    constructor
    · exact .inl
    · rintro (hheld | ⟨rfl, rfl⟩)
      · exact hheld
      · exact hpresent
  · simp only [Holds, getElem?_insert_eq_some_iff]
    by_cases hkey : key = held
    · subst hkey
      cases hlookup : registry.holds[key]? with
      | none => simp [eq_comm]
      | some holds =>
        simp only [true_and, ne_eq, not_true_eq_false, false_and, or_false, Option.getD_some,
          exists_eq_left', Finset.exists_mem_insert, Option.some.injEq]
        rw [or_comm, eq_comm]
    · have hne : held ≠ key := fun heq => hkey heq.symm
      simp [hkey, hne]

end ArtifactRegistry

/-! ## Holds and transfers -/

/-- Holds and unfinished transfers correspond: an artifact is held under an id if
and only if the id is that of an unfinished transfer of the artifact. -/
structure TransferHoldsMatch (registry : InterchangeRegistry) (artifacts : ArtifactRegistry) :
    Prop where
  /-- Transfers stand under their own ids. -/
  keyed : ∀ (transferId : String) transfer,
    registry.transfers[transferId]? = some transfer → transfer.record.transferId = transferId
  held_iff : ∀ key (transferId : String), artifacts.Holds key (.activeTransfer transferId) ↔
      ∃ transfer, registry.transfers[transferId]? = some transfer ∧ transfer.key = key ∧
        transfer.record.state.terminal = false

/-- What the correspondence depends on in a transfer. -/
def InterchangeTransfer.activity (transfer : InterchangeTransfer) :
    String × ArtifactScopeKey × Bool :=
  (transfer.record.transferId, transfer.key, transfer.record.state.terminal)

open InterchangeTransfer (activity)

namespace TransferHoldsMatch

variable {registry registry' : InterchangeRegistry} {artifacts artifacts' : ArtifactRegistry}
  {transferId : String} {transfer stored : InterchangeTransfer}

theorem activity_eq_of_map {lookup lookup' : Option InterchangeTransfer}
    (hsame : lookup'.map activity = lookup.map activity) (hlookup : lookup' = some transfer) :
    ∃ before, lookup = some before ∧ before.activity = transfer.activity := by
  rw [hlookup, Option.map_some, eq_comm, Option.map_eq_some_iff] at hsame
  exact hsame

theorem activity_insert (hstored : registry.transfers[transferId]? = some stored)
    (hsame : transfer.activity = stored.activity) (id : String) :
    ((registry.transfers.insert transferId transfer)[id]?).map activity =
      (registry.transfers[id]?).map activity := by
  rw [Std.ExtTreeMap.getElem?_insert]
  split
  · rename_i hcompare
    obtain rfl := Std.LawfulEqCmp.compare_eq_iff_eq.mp hcompare
    rw [hstored, Option.map_some, Option.map_some, hsame]
  · rfl

theorem terminal_of_oldestTerminal (holdest : registry.oldestTerminal = some transferId) :
    ∃ transfer, registry.transfers[transferId]? = some transfer ∧
      transfer.record.state.terminal = true := by
  rw [oldestTerminal, Option.map_eq_some_iff] at holdest
  obtain ⟨⟨id, transfer⟩, hoption, rfl⟩ := holdest
  have hmem := List.mem_filter.mp (List.argmin_mem (Option.mem_def.mpr hoption))
  exact ⟨transfer, Std.ExtTreeMap.mem_toList_iff_getElem?_eq_some.mp hmem.1, hmem.2⟩

variable (hmatch : TransferHoldsMatch registry artifacts)
include hmatch

/-- Transfers may change in everything but their activity. -/
theorem of_activity (hactivity : ∀ id : String, (registry'.transfers[id]?).map activity =
      (registry.transfers[id]?).map activity)
    (hholds : artifacts'.holds = artifacts.holds) :
    TransferHoldsMatch registry' artifacts' := by
  refine ⟨fun id found hfound => ?_, fun key id => ?_⟩
  · obtain ⟨before, hbefore, hsame⟩ := activity_eq_of_map (hactivity id) hfound
    rw [← hmatch.keyed id before hbefore]
    exact (congrArg (·.1) hsame).symm
  · rw [ArtifactRegistry.holds_congr hholds, hmatch.held_iff]
    constructor
    · rintro ⟨before, hbefore, rfl, hactive⟩
      obtain ⟨after, hafter, hsame⟩ := activity_eq_of_map (hactivity id).symm hbefore
      exact ⟨after, hafter, congrArg (·.2.1) hsame, (congrArg (·.2.2) hsame).trans hactive⟩
    · rintro ⟨after, hafter, rfl, hactive⟩
      obtain ⟨before, hbefore, hsame⟩ := activity_eq_of_map (hactivity id) hafter
      exact ⟨before, hbefore, congrArg (·.2.1) hsame, (congrArg (·.2.2) hsame).trans hactive⟩

/-- Rewriting one transfer without touching its activity. -/
theorem store (hstored : registry.transfers[transferId]? = some stored)
    (hsame : transfer.activity = stored.activity) :
    TransferHoldsMatch (registry.store transferId transfer) artifacts :=
  hmatch.of_activity (activity_insert hstored hsame) rfl

/-! ## Ends -/

section Ends

variable {selected : InterchangeTransfer → Bool}
  {ending : InterchangeTransfer → InterchangeTransfer}

/-- The holds that ended transfers give up are their own. -/
theorem mem_released_iff {key : ArtifactScopeKey} :
    (key, ArtifactHoldReason.activeTransfer transferId) ∈
        (registry.endTransfers selected ending).1 ↔
      ∃ transfer, registry.transfers[transferId]? = some transfer ∧ transfer.key = key ∧
        selected transfer = true := by
  simp only [InterchangeRegistry.endTransfers, List.mem_map, List.mem_filter, mem_values_iff]
  constructor
  · rintro ⟨transfer, ⟨⟨id, hlookup⟩, hselected⟩, hhold⟩
    simp only [activeHold, Prod.mk.injEq,
      ArtifactHoldReason.activeTransfer.injEq] at hhold
    obtain ⟨hkey, hid⟩ := hhold
    rw [hmatch.keyed id transfer hlookup] at hid
    exact ⟨transfer, hid ▸ hlookup, hkey, hselected⟩
  · rintro ⟨transfer, hlookup, hkey, hselected⟩
    refine ⟨transfer, ⟨⟨transferId, hlookup⟩, hselected⟩, ?_⟩
    rw [activeHold, hkey, hmatch.keyed transferId transfer hlookup]

variable (selected ending) in
theorem endTransfers
    (hending : ∀ transfer, (ending transfer).record.transferId = transfer.record.transferId ∧
      (ending transfer).record.state.terminal = true) :
    TransferHoldsMatch (registry.endTransfers selected ending).2
      (artifacts.releaseTransferHolds (registry.endTransfers selected ending).1) := by
  refine ⟨fun id found hfound => ?_, fun key id => ?_⟩
  · obtain ⟨before, hbefore, rfl | ⟨-, rfl⟩⟩ := lookup_endTransfers hfound
    · exact hmatch.keyed id _ hbefore
    · rw [(hending before).1]
      exact hmatch.keyed id before hbefore
  · rw [ArtifactRegistry.holds_releaseTransferHolds_iff, hmatch.held_iff, mem_released_iff hmatch]
    constructor
    · rintro ⟨⟨before, hbefore, hkey, hactive⟩, hkept⟩
      have hunselected : selected before ≠ true :=
        fun hselected => hkept ⟨before, hbefore, hkey, hselected⟩
      refine ⟨before, ?_, hkey, hactive⟩
      rw [InterchangeRegistry.endTransfers, Std.ExtTreeMap.getElem?_map, hbefore,
        Option.map_some, if_neg hunselected]
    · rintro ⟨after, hafter, hkey, hactive⟩
      rw [InterchangeRegistry.endTransfers, Std.ExtTreeMap.getElem?_map,
        Option.map_eq_some_iff] at hafter
      obtain ⟨before, hbefore, rfl⟩ := hafter
      by_cases hselected : selected before = true
      · rw [if_pos hselected, (hending before).2] at hactive
        cases hactive
      · rw [if_neg hselected] at hkey hactive
        refine ⟨⟨before, hbefore, hkey, hactive⟩, ?_⟩
        rintro ⟨other, hother, -, hotherSelected⟩
        rw [hbefore] at hother
        obtain rfl := Option.some.inj hother
        exact hselected hotherSelected

/-- Removing finished transfers changes no unfinished one. -/
theorem filter {kept : InterchangeTransfer → Bool}
    (hkept : ∀ transfer, transfer.record.state.terminal = false → kept transfer = true) :
    TransferHoldsMatch
      { registry with transfers := registry.transfers.filter fun _ => kept } artifacts := by
  refine ⟨fun id found hfound => ?_, fun key id => ?_⟩
  · rw [Std.ExtTreeMap.getElem?_filter', Option.filter_eq_some_iff] at hfound
    exact hmatch.keyed id found hfound.1
  · rw [hmatch.held_iff]
    simp only [Std.ExtTreeMap.getElem?_filter', Option.filter_eq_some_iff]
    constructor
    · rintro ⟨before, hbefore, hkey, hactive⟩
      exact ⟨before, ⟨hbefore, hkept before hactive⟩, hkey, hactive⟩
    · rintro ⟨after, ⟨hafter, -⟩, hkey, hactive⟩
      exact ⟨after, hafter, hkey, hactive⟩

theorem expire (now noProgressTimeout : ℕ)
    (absoluteMax : Option ℕ) (terminalRetention : ℕ) :
    TransferHoldsMatch (registry.expire now noProgressTimeout absoluteMax terminalRetention).2
      (artifacts.releaseTransferHolds
        (registry.expire now noProgressTimeout absoluteMax terminalRetention).1) := by
  have hended := hmatch.endTransfers (expired noProgressTimeout absoluteMax now)
    (·.ended .expired .transferLeaseExpired now) fun transfer => ⟨rfl, rfl⟩
  refine hended.filter ?_
  intro transfer hactive
  simp [hactive]

end Ends

/-! ## Creation and renewal -/

theorem of_transfers_eq (htransfers : registry'.transfers = registry.transfers) :
    TransferHoldsMatch registry' artifacts :=
  hmatch.of_activity (fun id => by rw [htransfers]) rfl

/-- Making room removes a finished transfer. -/
theorem pruneTerminal (capacity : ℕ) :
    TransferHoldsMatch (registry.pruneTerminal capacity) artifacts := by
  rw [InterchangeRegistry.pruneTerminal]
  split
  swap
  · exact hmatch
  split
  swap
  · exact hmatch
  rename_i oldest holdest
  obtain ⟨removed, hremoved, hterminal⟩ := terminal_of_oldestTerminal holdest
  refine ⟨fun id found hfound => ?_, fun key id => ?_⟩
  · exact hmatch.keyed id found (getElem?_erase_eq_some_iff.mp hfound).2
  · rw [hmatch.held_iff]
    simp only [getElem?_erase_eq_some_iff]
    constructor
    · rintro ⟨before, hbefore, hkey, hactive⟩
      refine ⟨before, ⟨?_, hbefore⟩, hkey, hactive⟩
      rintro rfl
      rw [hremoved] at hbefore
      obtain rfl := Option.some.inj hbefore
      rw [hterminal] at hactive
      cases hactive
    · rintro ⟨after, ⟨-, hafter⟩, hkey, hactive⟩
      exact ⟨after, hafter, hkey, hactive⟩

theorem pruneTerminalToFit (capacity : ℕ) :
    TransferHoldsMatch (registry.pruneTerminalToFit capacity) artifacts := by
  rw [InterchangeRegistry.pruneTerminalToFit]
  generalize registry.transfers.size = rounds
  induction rounds generalizing registry with
  | zero => exact hmatch
  | succ rounds ih =>
    rw [Function.iterate_succ_apply]
    exact ih (hmatch.pruneTerminal capacity)

/-- A new transfer of a known artifact is held under its fresh id. -/
theorem insert {terms : TransferTerms}
    (hfresh : registry.transfers[terms.transferId]? = none)
    (hknown : artifacts.artifacts.contains terms.transfer.key = true) :
    TransferHoldsMatch
      { registry with transfers := registry.transfers.insert terms.transferId terms.transfer }
      (artifacts.addHold terms.transfer.key (.activeTransfer terms.transferId) terms.now) := by
  refine ⟨fun id found hfound => ?_, fun key id => ?_⟩
  · rcases getElem?_insert_eq_some_iff.mp hfound with ⟨rfl, rfl⟩ | ⟨-, hother⟩
    · rfl
    · exact hmatch.keyed id found hother
  · rw [ArtifactRegistry.holds_addHold_iff hknown, hmatch.held_iff]
    simp only [getElem?_insert_eq_some_iff, ArtifactHoldReason.activeTransfer.injEq]
    constructor
    · rintro (⟨before, hbefore, hkey, hactive⟩ | ⟨rfl, rfl⟩)
      · refine ⟨before, .inr ⟨?_, hbefore⟩, hkey, hactive⟩
        rintro rfl
        rw [hfresh] at hbefore
        cases hbefore
      · exact ⟨terms.transfer, .inl ⟨rfl, rfl⟩, rfl, rfl⟩
    · rintro ⟨after, ⟨rfl, rfl⟩ | ⟨-, hafter⟩, hkey, hactive⟩
      · exact .inr ⟨hkey.symm, rfl⟩
      · exact .inl ⟨after, hafter, hkey, hactive⟩

/-- A renewal changes deadlines only. -/
theorem renewed {selected : InterchangeTransfer → Bool}
    (hfound : registry.find selected = some (transferId, stored)) (lifetimes : TransferLifetimes)
    {now : ℕ} :
    TransferHoldsMatch (registry.store transferId (stored.renewed lifetimes now)) artifacts := by
  refine hmatch.store (lookup_of_find hfound).1 ?_
  have hsubject := stored.subject_renewed lifetimes now
  simp only [subject, Prod.mk.injEq] at hsubject
  rw [activity, state_renewed, hsubject.1, hsubject.2.1, activity]

/-- Assignments are no part of the activity of a transfer. -/
theorem reassigns
    (hreassigns : registry.Reassigns registry') : TransferHoldsMatch registry' artifacts := by
  cases hreassigns with
  | same => exact hmatch
  | stored hstored hrecord =>
    refine hmatch.store hstored ?_
    rw [activity, activity, InterchangeTransfer.key, InterchangeTransfer.key, hrecord]

end TransferHoldsMatch

/-! ## Reports -/

/-- The report is in order except that it moved bytes over a path that the lease
forbids, so the transfer fails and the report is refused. -/
def InterchangeTransfer.FailsByRelay (transfer : InterchangeTransfer) (scope : NodeScopeKey)
    (report : TransferReport) : Prop :=
  transfer.concerns scope = true ∧ transfer.record.state.terminal = false ∧
    transfer.record.bytesCompleted ≤ report.bytesCompleted ∧
    report.bytesCompleted ≤ transfer.destinationAuthorization.lease.sizeBytes ∧
    (transfer.providerReadyRefresh scope report = true ∨
      transfer.record.state.permitsTransitionTo report.state = true) ∧
    transfer.relayForbidden report = true

/-- The outcome of a report as the holds see it: nothing changed for them, or the
transfer advanced and its end, if this is one, gives up the hold. -/
inductive ReportOutcome (artifacts : ArtifactRegistry) (transfer : InterchangeTransfer)
    (scope : NodeScopeKey) :
    Except TransferReportError InterchangeProgress × InterchangeTransfer × ArtifactRegistry → Prop
  | kept {outcome after} (hactivity : after.activity = transfer.activity)
      (houtcome : ∀ progress, outcome = .ok progress → progress.terminalHold = none) :
      ReportOutcome artifacts transfer scope (outcome, after, artifacts)
  | advanced {after artifacts'} (hactive : transfer.record.state.terminal = false)
      (hsubject : after.subject = transfer.subject)
      (hholds : artifacts'.holds = artifacts.holds) :
      ReportOutcome artifacts transfer scope (.ok (after.progress scope), after, artifacts')

namespace InterchangeTransfer

variable {transfer : InterchangeTransfer} {scope : NodeScopeKey} {report : TransferReport}
  {artifacts artifacts' : ArtifactRegistry}

theorem terminalHold_of_terminalAnswer {progress : InterchangeProgress}
    (hanswer : transfer.terminalAnswer report = .ok progress) : progress.terminalHold = none := by
  rw [terminalAnswer] at hanswer
  split at hanswer
  · obtain rfl := Except.ok.inj hanswer
    rfl
  · cases hanswer

/-- Reports change locations of artifacts, never holds. -/
theorem holds_of_reportEffects
    (heffects : transfer.reportEffects scope report artifacts = .ok artifacts') :
    artifacts'.holds = artifacts.holds := by
  simp only [reportEffects] at heffects
  split at heffects
  · split at heffects
    · split at heffects
      · rename_i hrecord
        obtain rfl := Except.ok.inj heffects
        simp only [ArtifactRegistry.recordVerifiedRetainingLocation] at hrecord
        split at hrecord
        · cases hrecord
        · split at hrecord
          · obtain rfl := Option.some.inj hrecord
            rfl
          · cases hrecord
      · cases heffects
    · cases heffects
  · split at heffects
    · cases heffects
    · split at heffects
      · split at heffects
        · obtain rfl := Except.ok.inj heffects
          rfl
        · cases heffects
      · obtain rfl := Except.ok.inj heffects
        rfl

theorem activity_withReadyAssignments :
    (transfer.withReadyAssignments scope report).activity = transfer.activity := by
  simp [activity, key]

theorem reportOutcome_of_reportProgress (hrelay : ¬ transfer.FailsByRelay scope report)
    (lifetimes : TransferLifetimes) (now : ℕ) :
    ReportOutcome artifacts transfer scope
      (transfer.reportProgress artifacts scope report lifetimes now) := by
  rw [reportProgress]
  split
  · exact .kept rfl (by simp)
  rename_i hconcerns
  rw [not_not] at hconcerns
  split
  · exact .kept rfl fun progress => terminalHold_of_terminalAnswer
  rename_i hactive
  rw [Bool.not_eq_true] at hactive
  split
  · exact .kept rfl (by simp)
  rename_i hbytes
  split
  · exact .kept rfl (by simp)
  rename_i hmove
  dsimp only
  split
  · rename_i hforbidden
    rw [relayForbidden_withReadyAssignments] at hforbidden
    refine absurd ⟨hconcerns, hactive, ?_, ?_, ?_, hforbidden⟩ hrelay
    · omega
    · omega
    · by_contra hneither
      exact hmove ⟨fun hrefresh => hneither (.inl hrefresh), fun hpermits =>
        hneither (.inr hpermits)⟩
  split
  · exact .kept activity_withReadyAssignments (by simp)
  · rename_i heffects
    exact .advanced hactive (by simp) (holds_of_reportEffects heffects)

end InterchangeTransfer

namespace TransferHoldsMatch

variable {registry : InterchangeRegistry} {artifacts artifacts' : ArtifactRegistry}
  {transferId : String} {stored after : InterchangeTransfer}

/-- A transfer that ends gives up its hold. -/
theorem endOne (hmatch : TransferHoldsMatch registry artifacts)
    (hstored : registry.transfers[transferId]? = some stored)
    (hid : after.record.transferId = stored.record.transferId) (hkey : after.key = stored.key)
    (hterminal : after.record.state.terminal = true) :
    TransferHoldsMatch (registry.store transferId after)
      (artifacts.releaseTransferHolds [after.activeHold]) := by
  have hown : after.record.transferId = transferId :=
    hid.trans (hmatch.keyed transferId stored hstored)
  refine ⟨fun id found hfound => ?_, fun key id => ?_⟩
  · rcases getElem?_insert_eq_some_iff.mp hfound with ⟨rfl, rfl⟩ | ⟨-, hother⟩
    · exact hown
    · exact hmatch.keyed id found hother
  · rw [ArtifactRegistry.holds_releaseTransferHolds_iff, hmatch.held_iff, List.mem_singleton,
      activeHold, hown, hkey, Prod.mk.injEq,
      ArtifactHoldReason.activeTransfer.injEq]
    simp only [InterchangeRegistry.store, getElem?_insert_eq_some_iff]
    constructor
    · rintro ⟨⟨before, hbefore, rfl, hactive⟩, hother⟩
      refine ⟨before, .inr ⟨?_, hbefore⟩, rfl, hactive⟩
      rintro rfl
      rw [hstored] at hbefore
      obtain rfl := Option.some.inj hbefore
      exact hother ⟨rfl, rfl⟩
    · rintro ⟨found, ⟨rfl, rfl⟩ | ⟨hne, hfound⟩, hfoundKey, hactive⟩
      · rw [hterminal] at hactive
        cases hactive
      · exact ⟨⟨found, hfound, hfoundKey, hactive⟩, fun hsame => hne hsame.2.symm⟩

/-- A report that does not fail its transfer by the path keeps holds and
transfers in step, once its terminal hold is released. -/
theorem report (hmatch : TransferHoldsMatch registry artifacts) {scope : NodeScopeKey}
    {report : TransferReport}
    (hrelay : ∀ stored, registry.transfers[transferId]? = some stored →
      ¬ stored.FailsByRelay scope report)
    (lifetimes : TransferLifetimes) (now : ℕ) :
    let result := registry.reportProgress artifacts scope transferId report lifetimes now
    (∀ error, result.1 = .error error → TransferHoldsMatch result.2.1 result.2.2) ∧
    ∀ progress, result.1 = .ok progress → TransferHoldsMatch result.2.1
        (result.2.2.releaseTransferHolds progress.terminalHold.toList) := by
  intro result
  cases hstored : registry.transfers[transferId]? with
  | none =>
    have hresult : result.2 = (registry, artifacts) :=
      reportProgress_unknown hstored
    have hfailed : result.1 = .error (.protocol "unknown artifact transfer") := by
      simp only [result, InterchangeRegistry.reportProgress, hstored]
    refine ⟨fun error _ => ?_, fun progress hprogress => ?_⟩
    · rw [hresult]
      exact hmatch
    · rw [hfailed] at hprogress
      cases hprogress
  | some stored =>
    have hregistry : result.2.1.transfers = (registry.store transferId
        (stored.reportProgress artifacts scope report lifetimes now).2.1).transfers :=
      (reportProgress_of_stored hstored).2.1
    have hartifacts : result.2.2 =
        (stored.reportProgress artifacts scope report lifetimes now).2.2 :=
      (reportProgress_of_stored hstored).2.2
    have houtcome : result.1 = (stored.reportProgress artifacts scope report lifetimes now).1 :=
      (reportProgress_of_stored hstored).1
    have hcases : ReportOutcome artifacts stored scope
        (stored.reportProgress artifacts scope report lifetimes now) :=
      reportOutcome_of_reportProgress (hrelay stored hstored) lifetimes now
    rw [hartifacts, houtcome]
    generalize stored.reportProgress artifacts scope report lifetimes now = run at *
    cases hcases with
    | kept hactivity hnone =>
      have hstep := (hmatch.store hstored hactivity).of_transfers_eq hregistry
      refine ⟨fun _ _ => hstep, fun progress hprogress => ?_⟩
      rw [hnone progress hprogress]
      exact hstep
    | @advanced after artifacts' hactive hsubject hholds =>
      refine ⟨fun error herror => (by cases herror), fun progress hprogress => ?_⟩
      obtain rfl := Except.ok.inj hprogress
      simp only [subject, Prod.mk.injEq] at hsubject
      have hmoved : TransferHoldsMatch registry artifacts' :=
        hmatch.of_activity (fun _ => rfl) hholds
      rw [InterchangeTransfer.progress]
      split
      · rename_i hterminal
        exact (hmoved.endOne hstored hsubject.1 hsubject.2.1 hterminal).of_transfers_eq hregistry
      · rename_i hunfinished
        rw [Bool.not_eq_true] at hunfinished
        refine (hmoved.store hstored ?_).of_transfers_eq hregistry
        rw [activity, activity, hsubject.1, hsubject.2.1, hunfinished, hactive]

end TransferHoldsMatch

end Clusterflux
