import Clusterflux.Foundation.Totals
import Clusterflux.Verification.TransferCalls

/-!
# Bounds on unfinished transfers

A transfer is created only if the tenant, the project, the process and both nodes
have room for it and the bytes still to come fit the receiving node.  Everything
else that happens to transfers ends some of them or brings bytes, so under one
configuration the limits hold in every state that a run reaches.
-/

namespace Clusterflux

open OrderedMaps InterchangeTransfer

/-! ## Loads -/

/-- The bytes of the transfer, while it is unfinished, that the node of the project
still waits for. -/
def InterchangeTransfer.outstanding (transfer : InterchangeTransfer) (scope : NodeScopeKey) : ℕ :=
  if transfer.record.state.terminal = false ∧ transfer.record.tenant = scope.tenant ∧
      transfer.record.project = scope.project ∧ transfer.record.destinationNode = scope.node then
    transfer.record.totalBytes - transfer.record.bytesCompleted
  else 0

namespace InterchangeRegistry

variable (registry : InterchangeRegistry)

/-- The number of unfinished transfers with a property. -/
def load (property : InterchangeTransfer → Bool) : ℕ :=
  registry.transfers.values.countP fun transfer =>
    !transfer.record.state.terminal && property transfer

def tenantLoad (tenant : TenantId) : ℕ :=
  registry.load fun transfer => transfer.record.tenant = tenant

def projectLoad (tenant : TenantId) (project : ProjectId) : ℕ :=
  registry.load fun transfer =>
    transfer.record.tenant = tenant ∧ transfer.record.project = project

def processLoad (tenant : TenantId) (project : ProjectId) (process : ProcessId) : ℕ :=
  registry.load fun transfer => transfer.record.tenant = tenant ∧
    transfer.record.project = project ∧ transfer.record.process = process

def receiverLoad (scope : NodeScopeKey) : ℕ :=
  registry.load fun transfer => transfer.record.tenant = scope.tenant ∧
    transfer.record.project = scope.project ∧ transfer.record.destinationNode = scope.node

def providerLoad (scope : NodeScopeKey) : ℕ :=
  registry.load fun transfer => transfer.record.tenant = scope.tenant ∧
    transfer.record.project = scope.project ∧ transfer.record.sourceNode = scope.node

def partialBytes (scope : NodeScopeKey) : ℕ :=
  total (fun transfer => transfer.outstanding scope) registry.transfers

/-- Every limit of the configuration is kept, and so is the size of the registry. -/
structure WithinBounds (configuration : CoordinatorArtifactInterchangeConfiguration) : Prop where
  tenant : ∀ tenant, registry.tenantLoad tenant ≤ configuration.maxActiveTransfersPerTenant
  project : ∀ tenant project,
    registry.projectLoad tenant project ≤ configuration.maxActiveTransfersPerProject
  process : ∀ tenant project process,
    registry.processLoad tenant project process ≤ configuration.maxActiveTransfersPerProcess
  receiver : ∀ scope, registry.receiverLoad scope ≤ configuration.maxReceiverLeasesPerNode
  provider : ∀ scope, registry.providerLoad scope ≤ configuration.maxProviderLeasesPerNode
  partialBytes : ∀ scope, registry.partialBytes scope ≤ configuration.maxPartialBytesPerNodeProject
  size : registry.transfers.size ≤ maxInterchangeTransfers

end InterchangeRegistry

/-! ## Carried transfers weigh no more -/

section Carried

variable {registry before after : InterchangeRegistry} {property : InterchangeTransfer → Bool}

/-- The property depends on what a transfer is about only. -/
def Framed (property : InterchangeTransfer → Bool) : Prop :=
  ∀ transfer other : InterchangeTransfer, transfer.frame = other.frame →
    property transfer = property other

theorem InterchangeRegistry.Carries.load_le (hcarries : before.Carries after)
    (hframed : Framed property) : after.load property ≤ before.load property := by
  rw [load, load, countP_values_eq_total, countP_values_eq_total]
  apply total_le_total
  intro transferId later hlater
  obtain ⟨earlier, hearlier, hevolves⟩ := hcarries transferId later hlater
  refine ⟨earlier, hearlier, ?_⟩
  rw [hframed later earlier hevolves.frame]
  cases hended : earlier.record.state.terminal with
  | true => simp [hevolves.ended hended]
  | false => split <;> simp_all

theorem InterchangeRegistry.Carries.partialBytes_le (hcarries : before.Carries after)
    (scope : NodeScopeKey) : after.partialBytes scope ≤ before.partialBytes scope := by
  apply total_le_total
  intro transferId later hlater
  obtain ⟨earlier, hearlier, hevolves⟩ := hcarries transferId later hlater
  refine ⟨earlier, hearlier, ?_⟩
  have hframe := hevolves.frame
  simp only [InterchangeTransfer.frame, ArtifactTransferRecord.errand, Prod.mk.injEq] at hframe
  obtain ⟨-, ⟨htenant, hproject, -, -, hnode⟩, -, htotal, -⟩ := hframe
  have hbytes := hevolves.bytes
  rw [outstanding, outstanding, htenant, hproject, hnode,
    htotal]
  cases hended : earlier.record.state.terminal with
  | true => simp [hevolves.ended hended]
  | false =>
    split
    · rename_i hlater
      rw [if_pos ⟨rfl, hlater.2⟩]
      omega
    · exact Nat.zero_le _

theorem InterchangeRegistry.Carries.size_le (hcarries : before.Carries after) :
    after.transfers.size ≤ before.transfers.size := by
  rw [← Std.ExtTreeMap.length_keys, ← Std.ExtTreeMap.length_keys]
  apply List.Subperm.length_le
  apply Std.ExtTreeMap.nodup_keys.subperm
  intro transferId hmem
  rw [Std.ExtTreeMap.mem_keys, Std.ExtTreeMap.mem_iff_isSome_getElem?,
    Option.isSome_iff_exists] at hmem ⊢
  obtain ⟨later, hlater⟩ := hmem
  obtain ⟨earlier, hearlier, -⟩ := hcarries transferId later hlater
  exact ⟨earlier, hearlier⟩

end Carried

namespace InterchangeRegistry

variable {registry after : InterchangeRegistry} {property : InterchangeTransfer → Bool}
  {configuration : CoordinatorArtifactInterchangeConfiguration}

/-- What a transfer is for and where it comes from is fixed. -/
theorem framed (property : TenantId × ProjectId × ProcessId × ArtifactId × NodeId → NodeId → Bool) :
    Framed fun transfer => property transfer.record.errand transfer.record.sourceNode := by
  intro transfer other hframe
  have herrand := congrArg (fun frame => frame.2.1) hframe
  have hsource := congrArg (fun frame => frame.2.2.1) hframe
  exact congrArg₂ property herrand hsource

theorem WithinBounds.of_carries (hwithin : registry.WithinBounds configuration)
    (hcarries : registry.Carries after) : after.WithinBounds configuration where
  tenant tenant :=
    (hcarries.load_le (framed fun errand _ => errand.1 = tenant)).trans (hwithin.tenant tenant)
  project tenant project :=
    (hcarries.load_le (framed fun errand _ => errand.1 = tenant ∧ errand.2.1 = project)).trans
      (hwithin.project tenant project)
  process tenant project process :=
    (hcarries.load_le (framed fun errand _ => errand.1 = tenant ∧ errand.2.1 = project ∧
      errand.2.2.1 = process)).trans (hwithin.process tenant project process)
  receiver scope :=
    (hcarries.load_le (framed fun errand _ => errand.1 = scope.tenant ∧
      errand.2.1 = scope.project ∧ errand.2.2.2.2 = scope.node)).trans (hwithin.receiver scope)
  provider scope :=
    (hcarries.load_le (framed fun errand source => errand.1 = scope.tenant ∧
      errand.2.1 = scope.project ∧ source = scope.node)).trans (hwithin.provider scope)
  partialBytes scope := (hcarries.partialBytes_le scope).trans (hwithin.partialBytes scope)
  size := hcarries.size_le.trans hwithin.size

/-! ## Admission -/

/-- The lists that the admission walks over are counted by the loads. -/
theorem length_filter_active (registry : InterchangeRegistry)
    (property : InterchangeTransfer → Bool) :
    (registry.active.filter property).length = registry.load property := by
  rw [active, List.filter_filter, ← List.countP_eq_length_filter, load]
  congr 1
  funext transfer
  exact Bool.and_comm _ _

/-- Sums that saturate are the sums cut off. -/
theorem foldl_saturatingAdd {α : Type} (items : List α) (size : α → ℕ) {start : ℕ}
    (hstart : start ≤ u64Max) :
    items.foldl (fun sum item => saturatingAdd sum (size item)) start =
      min (start + (items.map size).sum) u64Max := by
  induction items generalizing start with
  | nil => simp [hstart]
  | cons item items ih =>
    have hnext : saturatingAdd start (size item) ≤ u64Max := Nat.min_le_right _ _
    rw [List.foldl_cons, ih hnext, List.map_cons, List.sum_cons, saturatingAdd]
    omega

theorem sum_map_receiving (registry : InterchangeRegistry) (request : TransferRequest) :
    ((registry.receiving request).map fun transfer =>
      transfer.record.totalBytes - transfer.record.bytesCompleted).sum =
      registry.partialBytes request.destination := by
  rw [partialBytes, total, receiving, active, List.filter_filter]
  generalize registry.transfers.values = values
  induction values with
  | nil => rfl
  | cons transfer values ih =>
    rw [List.map_cons, List.sum_cons, ← ih, List.filter_cons]
    cases hended : transfer.record.state.terminal with
    | true => simp [outstanding, hended]
    | false =>
      by_cases hscope : transfer.record.tenant = request.destination.tenant ∧
          transfer.record.project = request.destination.project ∧
          transfer.record.destinationNode = request.destination.node
      · simp [outstanding, hended, hscope]
      · simp [outstanding, hended, hscope]

/-- What it means that no limit stands in the way of a transfer. -/
theorem room_of_admissionObstacle {request : TransferRequest} {requested now : ℕ}
    (hnone : registry.admissionObstacle request configuration requested now = none) :
    registry.tenantLoad request.destination.tenant < configuration.maxActiveTransfersPerTenant ∧
      registry.projectLoad request.destination.tenant request.destination.project <
        configuration.maxActiveTransfersPerProject ∧
      registry.processLoad request.destination.tenant request.destination.project
        request.process < configuration.maxActiveTransfersPerProcess ∧
      registry.receiverLoad request.destination < configuration.maxReceiverLeasesPerNode ∧
      min (min (registry.partialBytes request.destination) u64Max + requested) u64Max ≤
        configuration.maxPartialBytesPerNodeProject := by
  unfold admissionObstacle at hnone
  dsimp only at hnone
  rw [foldl_saturatingAdd _ _ (Nat.zero_le _), sum_map_receiving, Nat.zero_add] at hnone
  split at hnone
  · cases hnone
  rename_i htenant
  split at hnone
  · cases hnone
  rename_i hproject
  split at hnone
  · cases hnone
  rename_i hprocess
  split at hnone
  · cases hnone
  rename_i hreceiver
  split at hnone
  · cases hnone
  rename_i hbytes
  rw [length_filter_active, not_le] at htenant
  rw [List.filter_filter, length_filter_active, not_le] at hproject
  rw [List.filter_filter, List.filter_filter, length_filter_active, not_le] at hprocess
  rw [receiving, length_filter_active, not_le] at hreceiver
  refine ⟨htenant, ?_, ?_, hreceiver, not_lt.mp hbytes⟩
  · refine lt_of_eq_of_lt (congrArg registry.load ?_) hproject
    funext transfer
    rw [← Bool.decide_and]
    exact decide_eq_decide.mpr and_comm
  · refine lt_of_eq_of_lt (congrArg registry.load ?_) hprocess
    funext transfer
    rw [← Bool.decide_and, ← Bool.decide_and]
    apply decide_eq_decide.mpr
    tauto

/-! ## Creation -/

section Create

variable {request : TransferRequest} {terms : TransferTerms}

/-- The registry after a creation: room was made, and the transfer was added if
there was room. -/
theorem create_cases (registry : InterchangeRegistry) (transferId : String)
    (transfer : InterchangeTransfer) (capacity : ℕ) :
    ((registry.create transferId transfer capacity).2 = registry.pruneTerminalToFit capacity) ∨
      ((registry.pruneTerminalToFit capacity).transfers.size < capacity ∧
        (registry.create transferId transfer capacity).2 =
          (registry.pruneTerminalToFit capacity).store transferId transfer) := by
  unfold create
  dsimp only
  split
  · exact .inl rfl
  · rename_i hroom
    exact .inr ⟨not_le.mp hroom, rfl⟩

/-- A transfer counts for a limit that it has the property of, and only then. -/
theorem load_create_le {limit : ℕ} (hframed : Framed property)
    (hwithin : registry.load property ≤ limit)
    (hroom : property terms.transfer = true → registry.load property < limit) :
    (registry.create terms.transferId terms.transfer maxInterchangeTransfers).2.load property ≤
      limit := by
  have hpruned := (Follows.pruneTerminalToFit registry maxInterchangeTransfers).carries.load_le
    hframed
  obtain hfull | ⟨-, hcreated⟩ := create_cases registry terms.transferId terms.transfer
    maxInterchangeTransfers
  · rw [hfull]
    exact hpruned.trans hwithin
  · rw [hcreated]
    cases hproperty : property terms.transfer with
    | true =>
      calc
        ((registry.pruneTerminalToFit maxInterchangeTransfers).store terms.transferId
            terms.transfer).load property
            ≤ (registry.pruneTerminalToFit maxInterchangeTransfers).load property + 1 :=
          countP_values_insert_le
        _ ≤ registry.load property + 1 := Nat.succ_le_succ hpruned
        _ ≤ limit := hroom hproperty
    | false =>
      refine (countP_values_insert_of_not ?_).trans (hpruned.trans hwithin)
      rw [hproperty, Bool.and_false]

theorem outstanding_transfer (terms : TransferTerms) (scope : NodeScopeKey) :
    terms.transfer.outstanding scope =
      if terms.destination = scope then terms.size - terms.offset else 0 := by
  obtain ⟨tenant, project, node⟩ := scope
  by_cases hscope : terms.destination = ⟨tenant, project, node⟩
  · rw [if_pos hscope, outstanding, if_pos]
    · rfl
    · exact ⟨rfl, congrArg NodeScopeKey.tenant hscope, congrArg NodeScopeKey.project hscope,
        congrArg NodeScopeKey.node hscope⟩
  · rw [if_neg hscope, outstanding, if_neg]
    rintro ⟨-, rfl, rfl, rfl⟩
    exact hscope rfl

theorem partialBytes_create_le {limit : ℕ} {scope : NodeScopeKey}
    (hwithin : registry.partialBytes scope ≤ limit)
    (hroom : terms.destination = scope →
      registry.partialBytes scope + (terms.size - terms.offset) ≤ limit) :
    (registry.create terms.transferId terms.transfer maxInterchangeTransfers).2.partialBytes scope ≤
      limit := by
  have hpruned := (Follows.pruneTerminalToFit registry
    maxInterchangeTransfers).carries.partialBytes_le scope
  obtain hfull | ⟨-, hcreated⟩ := create_cases registry terms.transferId terms.transfer
    maxInterchangeTransfers
  · rw [hfull]
    exact hpruned.trans hwithin
  · have hinsert : ((registry.pruneTerminalToFit maxInterchangeTransfers).store terms.transferId
        terms.transfer).partialBytes scope + _ =
          (registry.pruneTerminalToFit maxInterchangeTransfers).partialBytes scope +
            terms.transfer.outstanding scope := total_insert _ _ _ _
    rw [outstanding_transfer] at hinsert
    rw [hcreated]
    split at hinsert
    · rename_i hscope
      have hfits := hroom hscope
      omega
    · omega

/-- The limits that were checked when the transfer was agreed on hold when it has
been created. -/
theorem WithinBounds.create (hwithin : registry.WithinBounds configuration)
    (hagreed : Agreed registry configuration request terms)
    (hlimit : configuration.maxPartialBytesPerNodeProject < u64Max) :
    (registry.create terms.transferId terms.transfer
      maxInterchangeTransfers).2.WithinBounds configuration := by
  obtain ⟨htenant, hproject, hprocess, hreceiver, hbytes⟩ :=
    room_of_admissionObstacle hagreed.unobstructed
  have hproviding := hagreed.providing
  rw [providing, length_filter_active] at hproviding
  have hdestination := hagreed.destination
  refine ⟨fun tenant => ?_, fun tenant project => ?_, fun tenant project process => ?_,
    fun scope => ?_, fun scope => ?_, fun scope => ?_, ?_⟩
  · refine load_create_le (framed fun errand _ => errand.1 = tenant) (hwithin.tenant tenant)
      fun hproperty => ?_
    obtain rfl : terms.destination.tenant = tenant := of_decide_eq_true hproperty
    rw [hdestination]
    exact htenant
  · refine load_create_le (framed fun errand _ => errand.1 = tenant ∧ errand.2.1 = project)
      (hwithin.project tenant project) fun hproperty => ?_
    obtain ⟨rfl, rfl⟩ : terms.destination.tenant = tenant ∧ terms.destination.project = project :=
      of_decide_eq_true hproperty
    rw [hdestination]
    exact hproject
  · refine load_create_le (framed fun errand _ => errand.1 = tenant ∧ errand.2.1 = project ∧
      errand.2.2.1 = process) (hwithin.process tenant project process) fun hproperty => ?_
    obtain ⟨rfl, rfl, rfl⟩ : terms.destination.tenant = tenant ∧
        terms.destination.project = project ∧ terms.process = process :=
      of_decide_eq_true hproperty
    rw [hdestination, hagreed.process]
    exact hprocess
  · refine load_create_le (framed fun errand _ => errand.1 = scope.tenant ∧
      errand.2.1 = scope.project ∧ errand.2.2.2.2 = scope.node) (hwithin.receiver scope)
      fun hproperty => ?_
    obtain ⟨htenant', hproject', hnode'⟩ : terms.destination.tenant = scope.tenant ∧
        terms.destination.project = scope.project ∧ terms.destination.node = scope.node :=
      of_decide_eq_true hproperty
    rw [← htenant', ← hproject', ← hnode', hdestination]
    exact hreceiver
  · refine load_create_le (framed fun errand source => errand.1 = scope.tenant ∧
      errand.2.1 = scope.project ∧ source = scope.node) (hwithin.provider scope)
      fun hproperty => ?_
    obtain ⟨htenant', hproject', hnode'⟩ : terms.destination.tenant = scope.tenant ∧
        terms.destination.project = scope.project ∧ terms.sourceNode = scope.node :=
      of_decide_eq_true hproperty
    rw [← htenant', ← hproject', ← hnode', hdestination]
    exact hproviding
  · apply partialBytes_create_le (hwithin.partialBytes scope)
    rintro rfl
    rw [hdestination]
    omega
  · have hpruned := (Follows.pruneTerminalToFit registry maxInterchangeTransfers).carries.size_le
    obtain hfull | ⟨hroom, hcreated⟩ := create_cases registry terms.transferId terms.transfer
      maxInterchangeTransfers
    · rw [hfull]
      exact hpruned.trans hwithin.size
    · rw [hcreated]
      exact Std.ExtTreeMap.size_insert_le.trans hroom

end Create

end InterchangeRegistry

/-! ## Calls -/

/-- The limit on bytes under way is far from the largest number. -/
theorem CoordinatorArtifactInterchangeConfiguration.maxPartialBytes_lt
    {configuration : CoordinatorArtifactInterchangeConfiguration}
    (hvalid : configuration.validate = .ok ()) :
    configuration.maxPartialBytesPerNodeProject < u64Max := by
  have hbounds := Checks.refuseIf_eq_ok.mp (Checks.check_bind_eq_ok.mp hvalid).1
  simp only [boundsInvalid, outsideLimit, Bool.or_eq_false_iff, decide_eq_false_iff_not, not_lt,
    maxPartialBytesPerNodeProjectLimit] at hbounds
  have hlimit := of_decide_eq_false hbounds.1.1.2.2
  unfold u64Max
  omega

/-- A call under a valid configuration keeps the limits of the configuration. -/
theorem withinBounds_perform {call : InterchangeCall} {machine : Machine}
    (hvalid : machine.service.artifactInterchangeConfiguration.validate = .ok ())
    (hfixed : call.KeepsConfiguration)
    (hwithin : machine.service.interchangeRegistry.WithinBounds
      machine.service.artifactInterchangeConfiguration) :
    (call.perform machine).interchangeRegistry.WithinBounds
      machine.service.artifactInterchangeConfiguration := by
  have heffect := (call.effect_perform hfixed machine).transfers
  generalize (call.perform machine).interchangeRegistry = after at heffect
  cases heffect with
  | evolved hentered hevolves =>
    exact hwithin.of_carries (hentered.carries.trans hevolves.carries)
  | reported hentered scope now =>
    exact hwithin.of_carries (hentered.carries.trans (.reportProgress _ _ _ _ _ _ _))
  | created hcreation =>
    have hentered : Entered machine (machine.service.expireInterchange _) :=
      .inr ⟨_, hcreation.expiry, rfl⟩
    exact (hwithin.of_carries hentered.carries).create hcreation.agreed
      (CoordinatorArtifactInterchangeConfiguration.maxPartialBytes_lt hvalid)

end Clusterflux
