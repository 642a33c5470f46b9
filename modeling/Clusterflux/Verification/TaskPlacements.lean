import Clusterflux.Coordinator.TaskPlacement

/-!
# Placement is optimal and independent of the order of the nodes

The coordinator asks the scheduler about every node alone and compares the
answers by score, load and node.  The outcome is the best compatible node, with
the score that the scheduler finds for the whole list.
-/

namespace Clusterflux

open Selection DefaultScheduler

section

variable {node : NodeDescriptor} {request : PlacementRequest} {placements : List Placement}
  {nodes : List NodeDescriptor} {selected : Placement}

/-! ## Compatible nodes -/

/-- The node offers what an environment needs. -/
structure Provides (node : NodeDescriptor) (environment : EnvironmentRequirements) : Prop where
  os : ∀ os, environment.os = some os → node.capabilities.os = os
  arch : ∀ arch, environment.arch = some arch → node.capabilities.arch = arch
  capabilities : environment.capabilities ⊆ node.capabilities.capabilities

/-- The node itself can run the task. -/
structure Compatible (request : PlacementRequest) (node : NodeDescriptor) : Prop where
  online : node.online = true
  tenant : node.tenant = request.tenant
  project : node.project = request.project
  processTasks : node.capabilities.workPolicy ≠ .systemTasksOnly
  capabilities : request.requiredCapabilities ⊆ node.capabilities.capabilities
  environment : ∀ environment, request.environment = some environment → Provides node environment
  cachedEnvironment : request.environmentCacheRequired = true →
    ∃ digest ∈ node.cachedEnvironments, request.environmentDigest = some digest
  sourceSnapshot : ∀ digest, request.sourceSnapshot = some digest → digest ∈ node.sourceSnapshots
  artifacts : request.requiredArtifacts ⊆ node.artifactLocations ∨
    node.artifactConnectivity.endpointAdvertised = true

namespace DefaultScheduler

theorem reasonIf_eq_nil_iff {condition : Bool} {reason : String} :
    reasonIf condition reason = [] ↔ condition = false := by
  cases condition <;> simp [reasonIf]

theorem missing_eq_nil_iff {required held : Finset Capability} {describe : Capability → String} :
    ((Capability.ordered required).filter (· ∉ held)).map describe = [] ↔ required ⊆ held := by
  have hall : ∀ capability, capability ∈ Capability.all := by
    intro capability
    cases capability <;> decide
  simp only [List.map_eq_nil_iff, List.filter_eq_nil_iff, Capability.ordered, List.mem_filter,
    decide_eq_true_eq, not_not, hall, true_and]
  rfl

theorem environmentReasons_eq_nil_iff {environment : EnvironmentRequirements} :
    environmentReasons node environment = [] ↔ Provides node environment := by
  rw [environmentReasons, List.append_eq_nil_iff, List.append_eq_nil_iff, missing_eq_nil_iff]
  constructor
  · rintro ⟨⟨hos, harch⟩, hcapabilities⟩
    refine ⟨?_, ?_, hcapabilities⟩
    · intro os heq
      simpa [heq, reasonIf_eq_nil_iff] using hos
    · intro arch heq
      simpa [heq, reasonIf_eq_nil_iff] using harch
  · intro hprovides
    refine ⟨⟨?_, ?_⟩, hprovides.capabilities⟩
    · cases heq : environment.os with
      | none => rfl
      | some os => simp [reasonIf_eq_nil_iff, hprovides.os os heq]
    · cases heq : environment.arch with
      | none => rfl
      | some arch => simp [reasonIf_eq_nil_iff, hprovides.arch arch heq]

theorem environmentCacheReasons_eq_nil_iff :
    environmentCacheReasons node request = [] ↔ (request.environmentCacheRequired = true →
      ∃ digest ∈ node.cachedEnvironments, request.environmentDigest = some digest) := by
  unfold environmentCacheReasons
  cases request.environmentCacheRequired with
  | false => simp
  | true =>
    cases request.environmentDigest with
    | none => simp
    | some digest => simp [reasonIf_eq_nil_iff]

theorem environment_eq_nil_iff : (match request.environment with
      | some environment => environmentReasons node environment
      | none => []) = [] ↔
    ∀ environment, request.environment = some environment → Provides node environment := by
  cases request.environment <;> simp [environmentReasons_eq_nil_iff]

theorem sourceSnapshot_eq_nil_iff : (match request.sourceSnapshot with
      | some digest => reasonIf (digest ∉ node.sourceSnapshots)
          "required source snapshot is not local to this node"
      | none => []) = [] ↔
    ∀ digest, request.sourceSnapshot = some digest → digest ∈ node.sourceSnapshots := by
  cases request.sourceSnapshot <;> simp [reasonIf_eq_nil_iff]

/-- A node is rejected for what it lacks, for the quota and for the policy. -/
theorem rejections_eq_nil_iff : rejections node request = [] ↔ request.quotaAvailable = true ∧
      request.policyAllowed = true ∧ Compatible request node := by
  have hartifacts : (0 < missingArtifacts node request &&
      !node.artifactConnectivity.endpointAdvertised) = false ↔
      (request.requiredArtifacts ⊆ node.artifactLocations ∨
        node.artifactConnectivity.endpointAdvertised = true) := by
    rw [Bool.and_eq_false_iff, Bool.not_eq_false', decide_eq_false_iff_not, missingArtifacts,
      Finset.card_pos, Finset.not_nonempty_iff_eq_empty, Finset.sdiff_eq_empty_iff_subset]
  unfold rejections
  simp only [List.append_eq_nil_iff, reasonIf_eq_nil_iff, missing_eq_nil_iff, hartifacts,
    environmentCacheReasons_eq_nil_iff, Bool.not_eq_false', bne_eq_false_iff_eq,
    beq_eq_false_iff_ne, and_assoc]
  constructor
  · rintro ⟨honline, htenant, hproject, hquota, hpolicy, hsystem, hcapabilities, henv, hcache,
      hsource, hheld⟩
    exact ⟨hquota, hpolicy, honline, htenant, hproject, hsystem, hcapabilities,
      environment_eq_nil_iff.mp henv, hcache, sourceSnapshot_eq_nil_iff.mp hsource, hheld⟩
  · rintro ⟨hquota, hpolicy, hcompatible⟩
    exact ⟨hcompatible.online, hcompatible.tenant, hcompatible.project, hquota, hpolicy,
      hcompatible.processTasks, hcompatible.capabilities,
      environment_eq_nil_iff.mpr hcompatible.environment, hcompatible.cachedEnvironment,
      sourceSnapshot_eq_nil_iff.mpr hcompatible.sourceSnapshot, hcompatible.artifacts⟩

/-! ## The best score -/

theorem lastBest_eq_none_iff : lastBest placements = none ↔ placements = [] := by
  cases placements with
  | nil => simp [lastBest]
  | cons first rest =>
    rw [lastBest]
    cases lastBest rest with
    | none => simp
    | some best => by_cases hle : first.score ≤ best.score <;> simp [hle]

theorem score_le_of_lastBest {best : Placement} (hbest : lastBest placements = some best) :
    ∀ placement ∈ placements, placement.score ≤ best.score := by
  induction placements generalizing best with
  | nil => cases hbest
  | cons first rest ih =>
    rw [lastBest] at hbest
    rw [List.forall_mem_cons]
    cases hrest : lastBest rest with
    | none =>
      rw [hrest] at hbest
      cases hbest
      cases lastBest_eq_none_iff.mp hrest
      exact ⟨le_rfl, by simp⟩
    | some later =>
      rw [hrest] at hbest
      have hlater := ih hrest
      by_cases hle : first.score ≤ later.score
      · cases hbest.symm.trans (if_pos hle)
        exact ⟨hle, hlater⟩
      · cases hbest.symm.trans (if_neg hle)
        have hlt : later.score < first.score := not_le.mp hle
        exact ⟨le_rfl, fun placement hmem => (hlater placement hmem).trans hlt.le⟩

/-- What the scheduler finds is a compatible node with the best score. -/
theorem place_eq_lastBest (nodes : List NodeDescriptor) (request : PlacementRequest) :
    place nodes request =
      match lastBest ((nodes.filter fun node => rejections node request = []).map
        (scoredPlacement · request)) with
      | some placement => .ok placement
      | none => .error (rejectionMessage (nodes.flatMap (rejections · request))) := rfl

theorem toOption_place_singleton (node : NodeDescriptor) (request : PlacementRequest) :
    (place [node] request).toOption =
      if rejections node request = [] then some (scoredPlacement node request) else none := by
  rw [place_eq_lastBest]
  by_cases hcompatible : rejections node request = [] <;>
    simp [hcompatible, lastBest, Except.toOption]

theorem place_singleton_of_compatible (hcompatible : rejections node request = []) :
    place [node] request = .ok (scoredPlacement node request) := by
  rw [place_eq_lastBest]
  simp [hcompatible, lastBest]

theorem exists_place_singleton_iff :
    (∃ placement, place [node] request = .ok placement) ↔ rejections node request = [] := by
  constructor
  · rintro ⟨placement, hplace⟩
    obtain ⟨other, hother, -, hcompatible⟩ := exists_of_place_eq_ok hplace
    rwa [List.mem_singleton.mp hother] at hcompatible
  · exact fun hcompatible => ⟨_, place_singleton_of_compatible hcompatible⟩

theorem rejectionMessage_perm {reasons reasons' : List String} (hperm : reasons.Perm reasons') :
    rejectionMessage reasons = rejectionMessage reasons' := by
  have hsorted : reasons.dedup.mergeSort (fun left right => left ≤ right) =
      reasons'.dedup.mergeSort (fun left right => left ≤ right) := by
    apply List.Perm.eq_of_pairwise (fun left right _ _ hle hge => le_antisymm hle hge)
    · exact List.pairwise_mergeSort' (· ≤ ·) reasons.dedup
    · exact List.pairwise_mergeSort' (· ≤ ·) reasons'.dedup
    · exact (List.mergeSort_perm _ _).trans (hperm.dedup.trans (List.mergeSort_perm _ _).symm)
  rw [rejectionMessage, rejectionMessage, hsorted]
  congr 1
  apply List.map_congr_left
  intro reason _
  rw [hperm.count_eq]

end DefaultScheduler

/-! ## The selected placement -/

instance : Std.TransCmp fun left right : Placement => compare right.score left.score :=
  @Std.TransCmp.opposite _ (compareOn Placement.score) _

instance (load : NodeId → ℕ) : Std.TransCmp (comparePlacements load) :=
  inferInstanceAs (Std.TransCmp (compareLex
    (fun left right : Placement => compare right.score left.score)
    (compareLex (compareOn fun placement : Placement => load placement.node)
      (compareOn Placement.node))))

theorem placementCandidates_eq (nodes : List NodeDescriptor) (request : PlacementRequest) :
    placementCandidates nodes request =
      (nodes.filter fun node => DefaultScheduler.rejections node request = []).map
        (DefaultScheduler.scoredPlacement · request) := by
  rw [← List.filterMap_eq_map, List.filterMap_filter, placementCandidates]
  apply List.filterMap_congr
  intro node _
  rw [toOption_place_singleton]
  simp

theorem mem_placementCandidates_iff {candidate : Placement} :
    candidate ∈ placementCandidates nodes request ↔
      ∃ node ∈ nodes, DefaultScheduler.rejections node request = [] ∧
        DefaultScheduler.scoredPlacement node request = candidate := by
  simp only [placementCandidates_eq, List.mem_map, List.mem_filter, decide_eq_true_eq, and_assoc]

/-- The first placement has the better score, or the smaller load, or the smaller node. -/
def Preferred (load : NodeId → ℕ) (selected other : Placement) : Prop :=
  other.score < selected.score ∨ other.score = selected.score ∧
    (load selected.node < load other.node ∨ load selected.node = load other.node ∧
      (compare selected.node other.node).isLE)

theorem preferred_of_isLE {load : NodeId → ℕ} {selected other : Placement}
    (hle : (comparePlacements load selected other).isLE) : Preferred load selected other := by
  rcases lt_trichotomy other.score selected.score with hscore | hscore | hscore
  · exact Or.inl hscore
  · apply Or.inr
    refine ⟨hscore, ?_⟩
    rcases lt_trichotomy (load selected.node) (load other.node) with hload | hload | hload
    · exact Or.inl hload
    · apply Or.inr
      simpa [comparePlacements, hscore, hload, Ordering.isLE_then_iff_and] using hle
    · simp [comparePlacements, hscore, Nat.compare_eq_gt.mpr hload] at hle
  · simp [comparePlacements, compare_gt_iff_gt.mpr hscore] at hle

/-- Placements of different nodes are never equally good. -/
theorem eq_of_comparePlacements
    (hdistinct : (nodes.map (·.id)).Nodup) {load : NodeId → ℕ} {first second : Placement}
    (hfirst : first ∈ placementCandidates nodes request)
    (hsecond : second ∈ placementCandidates nodes request)
    (hcompare : comparePlacements load first second = .eq) : first = second := by
  obtain ⟨left, hleft, -, rfl⟩ := mem_placementCandidates_iff.mp hfirst
  obtain ⟨right, hright, -, rfl⟩ := mem_placementCandidates_iff.mp hsecond
  have hnode : compare left.id right.id = .eq := by
    rw [comparePlacements, Ordering.then_eq_eq, Ordering.then_eq_eq] at hcompare
    exact hcompare.2.2
  have hid : left.id = right.id := Std.LawfulEqCmp.compare_eq_iff_eq.mp hnode
  rw [List.inj_on_of_nodup_map hdistinct hleft hright hid]

namespace CoordinatorService

variable (service : CoordinatorService)

/-- The load by which the coordinator compares nodes for a request. -/
abbrev loadFor (request : PlacementRequest) : NodeId → ℕ :=
  service.taskRegistry.activeOnNode request.tenant request.project

/-- The reason added when the load decided between equally good nodes. -/
def loadReasons (candidates : List Placement) (load : NodeId → ℕ) (selected : Placement) :
    List String :=
  if candidates.any fun candidate =>
      candidate.score = selected.score ∧ load selected.node < load candidate.node then
    [leastActiveReason (load selected.node)]
  else []

theorem placeWorkflowTask_of_none (hnone : placementCandidates nodes request = []) :
    service.placeWorkflowTask nodes request = .error (DefaultScheduler.rejectionMessage
        (nodes.flatMap (DefaultScheduler.rejections · request))) := by
  have hselect : selectTaskPlacement (placementCandidates nodes request)
      (service.taskRegistry.activeOnNode request.tenant request.project) = none :=
    (firstLeast_eq_none_iff _).mpr hnone
  rw [placementCandidates_eq] at hnone
  unfold placeWorkflowTask
  simp only [hselect]
  rw [place_eq_lastBest, hnone]
  rfl

theorem placeWorkflowTask_of_some (hselect : selectTaskPlacement (placementCandidates nodes request)
      (service.loadFor request) = some selected) :
    service.placeWorkflowTask nodes request = .ok { selected with
      reasons := selected.reasons ++ loadReasons (placementCandidates nodes request)
        (service.loadFor request) selected } := by
  unfold placeWorkflowTask loadReasons
  simp only [hselect]
  split
  case isTrue => rfl
  case isFalse => rw [List.append_nil]

/-- A placement comes from a candidate that nothing is better than. -/
theorem exists_of_placeWorkflowTask
    {placement : Placement} (hplace : service.placeWorkflowTask nodes request = .ok placement) :
    ∃ selected, IsLeast (comparePlacements (service.loadFor request))
        (placementCandidates nodes request) selected ∧
      placement = { selected with
        reasons := selected.reasons ++ loadReasons (placementCandidates nodes request)
          (service.loadFor request) selected } := by
  cases hselect : selectTaskPlacement (placementCandidates nodes request)
      (service.loadFor request) with
  | none =>
    rw [service.placeWorkflowTask_of_none ((firstLeast_eq_none_iff _).mp hselect)] at hplace
    cases hplace
  | some selected =>
    rw [service.placeWorkflowTask_of_some hselect] at hplace
    exact ⟨selected, isLeast_of_firstLeast _ hselect, (Except.ok.inj hplace).symm⟩

theorem exists_placeWorkflowTask_iff (nodes : List NodeDescriptor) (request : PlacementRequest) :
    (∃ placement, service.placeWorkflowTask nodes request = .ok placement) ↔
      request.quotaAvailable = true ∧ request.policyAllowed = true ∧
        ∃ node ∈ nodes, Compatible request node := by
  have hcandidates : placementCandidates nodes request ≠ [] ↔
      request.quotaAvailable = true ∧ request.policyAllowed = true ∧
        ∃ node ∈ nodes, Compatible request node := by
    constructor
    · intro hne
      obtain ⟨candidate, hcandidate⟩ := List.exists_mem_of_ne_nil _ hne
      obtain ⟨node, hnode, hrejections, -⟩ := mem_placementCandidates_iff.mp hcandidate
      obtain ⟨hquota, hpolicy, hcompatible⟩ :=
        rejections_eq_nil_iff.mp hrejections
      exact ⟨hquota, hpolicy, node, hnode, hcompatible⟩
    · rintro ⟨hquota, hpolicy, node, hnode, hcompatible⟩
      have hrejections :=
        rejections_eq_nil_iff.mpr ⟨hquota, hpolicy, hcompatible⟩
      exact List.ne_nil_of_mem (mem_placementCandidates_iff.mpr ⟨node, hnode, hrejections, rfl⟩)
  rw [← hcandidates]
  cases hselect : selectTaskPlacement (placementCandidates nodes request)
      (service.loadFor request) with
  | none =>
    have hnone := (firstLeast_eq_none_iff _).mp hselect
    rw [service.placeWorkflowTask_of_none hnone]
    simp [hnone]
  | some selected =>
    have hmem := (isLeast_of_firstLeast _ hselect).mem
    rw [service.placeWorkflowTask_of_some hselect]
    simp [List.ne_nil_of_mem hmem]

/-- The coordinator and the scheduler agree on the score, and on the message if
there is no placement. -/
theorem map_score_placeWorkflowTask (nodes : List NodeDescriptor) (request : PlacementRequest) :
    (service.placeWorkflowTask nodes request).map (·.score) =
      (DefaultScheduler.place nodes request).map (·.score) := by
  rw [place_eq_lastBest, ← placementCandidates_eq]
  cases hselect : selectTaskPlacement (placementCandidates nodes request)
      (service.loadFor request) with
  | none =>
    have hnone := (firstLeast_eq_none_iff _).mp hselect
    rw [service.placeWorkflowTask_of_none hnone, hnone]
    rfl
  | some selected =>
    have hleast := isLeast_of_firstLeast _ hselect
    rw [service.placeWorkflowTask_of_some hselect]
    cases hbest : DefaultScheduler.lastBest (placementCandidates nodes request) with
    | none =>
      have hnone := lastBest_eq_none_iff.mp hbest
      exact absurd hnone (List.ne_nil_of_mem hleast.mem)
    | some best =>
      have hle : selected.score ≤ best.score :=
        score_le_of_lastBest hbest selected hleast.mem
      have hge : best.score ≤ selected.score := by
        rcases preferred_of_isLE (hleast.le best (mem_of_lastBest hbest)) with
          hlt | ⟨heq, -⟩
        · exact hlt.le
        · exact heq.le
      exact congrArg Except.ok (le_antisymm hle hge)

theorem placeWorkflowTask_perm {nodes nodes' : List NodeDescriptor}
    (hdistinct : (nodes.map (·.id)).Nodup) (hperm : nodes.Perm nodes') :
    service.placeWorkflowTask nodes request = service.placeWorkflowTask nodes' request := by
  have hcandidates : (placementCandidates nodes request).Perm
      (placementCandidates nodes' request) := hperm.filterMap _
  cases hselect : selectTaskPlacement (placementCandidates nodes request)
      (service.loadFor request) with
  | none =>
    have hnone := (firstLeast_eq_none_iff _).mp hselect
    have hnone' : placementCandidates nodes' request = [] :=
      (hnone ▸ hcandidates).nil_eq.symm
    rw [service.placeWorkflowTask_of_none hnone, service.placeWorkflowTask_of_none hnone']
    exact congrArg Except.error (rejectionMessage_perm (hperm.flatMap_right _))
  | some selected =>
    have hleast := isLeast_of_firstLeast _ hselect
    cases hselect' : selectTaskPlacement (placementCandidates nodes' request)
        (service.loadFor request) with
    | none =>
      have hnone := (firstLeast_eq_none_iff _).mp hselect'
      exact absurd (hcandidates.mem_iff.mp hleast.mem) (by simp [hnone])
    | some selected' =>
      have heq : selected = selected' := hleast.unique _ hcandidates
        (fun _ hfirst _ hsecond => eq_of_comparePlacements hdistinct hfirst hsecond)
        (isLeast_of_firstLeast _ hselect')
      rw [service.placeWorkflowTask_of_some hselect,
        service.placeWorkflowTask_of_some hselect', ← heq]
      simp only [loadReasons, hcandidates.any_eq]

/-- Placement succeeds when the quota and the policy admit it and some node is
compatible.  The node is then the best of the compatible ones, whatever the order
of the list, and has the score the scheduler finds. -/
theorem placement_is_optimal (nodes : List NodeDescriptor) (request : PlacementRequest)
    (hdistinct : (nodes.map (·.id)).Nodup) :
    ((∃ placement, service.placeWorkflowTask nodes request = .ok placement) ↔
      request.quotaAvailable = true ∧ request.policyAllowed = true ∧
        ∃ node ∈ nodes, Compatible request node) ∧
    (∀ placement, service.placeWorkflowTask nodes request = .ok placement →
      ∃ node ∈ nodes, Compatible request node ∧ placement.node = node.id ∧
        placement.score = (DefaultScheduler.scoredPlacement node request).score ∧
        ∀ other ∈ nodes, Compatible request other → Preferred (service.loadFor request) placement
            (DefaultScheduler.scoredPlacement other request)) ∧
    (∀ nodes', nodes.Perm nodes' →
      service.placeWorkflowTask nodes request = service.placeWorkflowTask nodes' request) ∧
    (service.placeWorkflowTask nodes request).map (·.score) =
      (DefaultScheduler.place nodes request).map (·.score) := by
  refine ⟨service.exists_placeWorkflowTask_iff nodes request, ?_,
    fun nodes' hperm => service.placeWorkflowTask_perm hdistinct hperm,
    service.map_score_placeWorkflowTask nodes request⟩
  intro placement hplace
  obtain ⟨selected, hleast, rfl⟩ := service.exists_of_placeWorkflowTask hplace
  obtain ⟨node, hnode, hrejections, rfl⟩ := mem_placementCandidates_iff.mp hleast.mem
  obtain ⟨hquota, hpolicy, hcompatible⟩ := rejections_eq_nil_iff.mp hrejections
  refine ⟨node, hnode, hcompatible, rfl, rfl, ?_⟩
  intro other hother hcompatible'
  have hmem := mem_placementCandidates_iff.mpr
    ⟨other, hother, rejections_eq_nil_iff.mpr ⟨hquota, hpolicy, hcompatible'⟩, rfl⟩
  exact preferred_of_isLE (hleast.le _ hmem)

end CoordinatorService

end

/-! ## A node and its request -/

namespace PlacementSample

def tenant : TenantId := ⟨"tenant", tenant_valid⟩
def project : ProjectId := ⟨"project", project_valid⟩

def node (id : NodeId) : NodeDescriptor where
  id := id
  tenant := tenant
  project := project
  capabilities :=
    { os := .linux
      arch := "x86_64"
      capabilities := ∅
      environmentBackends := ∅
      sourceProviders := ∅
      workPolicy := .normal
      systemBundles := [] }
  cachedEnvironments := ∅
  dependencyCaches := ∅
  sourceSnapshots := ∅
  artifactLocations := ∅
  artifactConnectivity := {}
  online := true

/-- A task without any demand, under a quota that may be used up. -/
def request (quotaAvailable : Bool) : PlacementRequest where
  tenant := tenant
  project := project
  environment := none
  environmentDigest := none
  environmentCacheRequired := false
  requiredCapabilities := ∅
  dependencyCache := none
  sourceSnapshot := none
  requiredArtifacts := ∅
  quotaAvailable := quotaAvailable
  policyAllowed := true
  preferNode := none

def worker : NodeId := ⟨"worker", by decide⟩
def helper : NodeId := ⟨"helper", by decide⟩

theorem compatible (id : NodeId) (quotaAvailable : Bool) :
    Compatible (request quotaAvailable) (node id) where
  online := rfl
  tenant := rfl
  project := rfl
  processTasks := nofun
  capabilities := Finset.empty_subset _
  environment _ henvironment := by cases henvironment
  cachedEnvironment hrequired := by cases hrequired
  sourceSnapshot _ hsnapshot := by cases hsnapshot
  artifacts := Or.inl (Finset.empty_subset _)

end PlacementSample

open PlacementSample in
/-- Two idle nodes hold nothing for a task; the one with the smaller name gets it. -/
theorem smaller_idle_node_is_selected : ∃ placement, ({} : CoordinatorService).placeWorkflowTask
        [node worker, node helper]
        (request true) = .ok placement ∧
      placement.node = helper := by
  have hoptimal := ({} : CoordinatorService).placement_is_optimal [node worker, node helper]
    (request true) (by decide)
  obtain ⟨placement, hplace⟩ := hoptimal.1.mpr ⟨rfl, rfl, _, List.mem_cons_self, compatible _ _⟩
  refine ⟨placement, hplace, ?_⟩
  obtain ⟨node, hnode, -, hid, hscore, hpreferred⟩ := hoptimal.2.1 placement hplace
  obtain rfl | rfl := List.mem_pair.mp hnode
  · obtain hlt | ⟨-, hlt | ⟨-, hle⟩⟩ :=
      hpreferred (node helper) (by simp) (compatible _ _)
    · rw [hscore] at hlt
      exact absurd hlt (by decide)
    · rw [hid] at hlt
      exact absurd hlt (by decide)
    · rw [hid] at hle
      exact absurd hle (by decide)
  · exact hid

open PlacementSample in
/-- A compatible node gets nothing while the quota is used up. -/
theorem compatible_node_without_quota : Compatible (request false) (node worker) ∧
      ({} : CoordinatorService).placeWorkflowTask [node worker] (request false) =
        .error "quota unavailable for placement (1 node(s))" := by
  refine ⟨compatible _ _, ?_⟩
  have hreasons : [node worker].flatMap (DefaultScheduler.rejections · (request false)) =
        ["quota unavailable for placement"] := by decide
  rw [CoordinatorService.placeWorkflowTask_of_none _ (by rw [placementCandidates_eq]; rfl),
    hreasons]
  decide +kernel

end Clusterflux
