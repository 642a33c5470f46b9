import Clusterflux.Core.Execution

/-!
# Placement

The default scheduler rejects the nodes that cannot run a task and scores the
others by what they already hold.
-/

namespace Clusterflux

/-- What a task asks of the node it is placed on. -/
structure PlacementRequest where
  tenant : TenantId
  project : ProjectId
  environment : Option EnvironmentRequirements
  environmentDigest : Option Digest
  environmentCacheRequired : Bool
  requiredCapabilities : Finset Capability
  dependencyCache : Option Digest
  sourceSnapshot : Option Digest
  requiredArtifacts : Finset ArtifactId
  quotaAvailable : Bool
  policyAllowed : Bool
  preferNode : Option NodeId

/-- A node with its score and what the score is made of. -/
structure Placement where
  node : NodeId
  score : ℤ
  reasons : List String
  deriving DecidableEq

namespace DefaultScheduler

/-- A reason that applies only under a condition. -/
def reasonIf (condition : Bool) (reason : String) : List String :=
  if condition then [reason] else []

section

variable (node : NodeDescriptor)

def environmentReasons (environment : EnvironmentRequirements) : List String :=
  (match environment.os with
    | some os => reasonIf (node.capabilities.os != os) ("environment requires os " ++ os.debug)
    | none => []) ++
  (match environment.arch with
    | some arch => reasonIf (node.capabilities.arch != arch) ("environment requires arch " ++ arch)
    | none => []) ++
  ((Capability.ordered environment.capabilities).filter
      (· ∉ node.capabilities.capabilities)).map
    ("environment requires capability " ++ ·.name)

variable (request : PlacementRequest)

def environmentCacheReasons : List String :=
  if request.environmentCacheRequired then
    match request.environmentDigest with
    | some digest => reasonIf (digest ∉ node.cachedEnvironments)
        ("required named environment cache " ++ digest.text ++ " is unavailable")
    | none => ["required named environment cache digest is missing"]
  else []

def missingArtifacts : ℕ :=
  (request.requiredArtifacts \ node.artifactLocations).card

/-- Why the node cannot take the task; empty if it can. -/
def rejections : List String :=
  reasonIf (!node.online) "node offline" ++
  reasonIf (node.tenant != request.tenant) "tenant mismatch" ++
  reasonIf (node.project != request.project) "project mismatch" ++
  reasonIf (!request.quotaAvailable) "quota unavailable for placement" ++
  reasonIf (!request.policyAllowed) "policy denied placement" ++
  reasonIf (node.capabilities.workPolicy == .systemTasksOnly)
    "system-tasks-only node does not execute process tasks" ++
  ((Capability.ordered request.requiredCapabilities).filter
      (· ∉ node.capabilities.capabilities)).map ("missing capability " ++ ·.name) ++
  (match request.environment with
    | some environment => environmentReasons node environment
    | none => []) ++
  environmentCacheReasons node request ++
  (match request.sourceSnapshot with
    | some digest => reasonIf (digest ∉ node.sourceSnapshots)
        "required source snapshot is not local to this node"
    | none => []) ++
  reasonIf (0 < missingArtifacts node request &&
      !node.artifactConnectivity.endpointAdvertised)
    (toString (missingArtifacts node request) ++
      " required artifact(s) unavailable and peer data-plane endpoint unavailable")

/-- One entry of the score with the reason it is recorded under. -/
def scoreIf (condition : Bool) (score : ℤ) (reason : String) : List (ℤ × String) :=
  if condition then [(score, reason)] else []

def holds (digests : Finset Digest) (digest : Option Digest) : Bool :=
  match digest with
  | some digest => digest ∈ digests
  | none => false

def connectivityScores (facts : ArtifactConnectivityFacts) : List (ℤ × String) :=
  (match facts.recentPath with
    | .local => [(10, "recent local artifact cache hit")]
    | .direct => [(5, "recent direct artifact path")]
    | .relayed => scoreIf (facts.relayPolicy == .relayFallbackAllowed) (-10)
        "artifact transfer may use configured self-hosted relay"
    | .unknown => []) ++
  scoreIf facts.recentDirectFailure (-20) "recent direct artifact path failure"

/-- Points for what is already on the node or near it. -/
def localityScores : List (ℤ × String) :=
  let artifactHits := (request.requiredArtifacts ∩ node.artifactLocations).card
  scoreIf (request.preferNode == some node.id) 100 "preferred node" ++
  scoreIf (holds node.cachedEnvironments request.environmentDigest) 50
    "warm environment cache" ++
  scoreIf (holds node.sourceSnapshots request.sourceSnapshot) 40
    "source snapshot already local" ++
  scoreIf (holds node.dependencyCaches request.dependencyCache) 30
    "warm dependency cache" ++
  scoreIf (0 < artifactHits) (10 * artifactHits)
    (toString artifactHits ++ " required artifact(s) already local") ++
  (if 0 < request.requiredArtifacts.card - artifactHits &&
      node.artifactConnectivity.endpointAdvertised then
    connectivityScores node.artifactConnectivity
  else [])

def scoredPlacement : Placement where
  node := node.id
  score := ((localityScores node request).map Prod.fst).sum
  reasons := (localityScores node request).map Prod.snd

end

/-- Counts of equal reasons, in the order of the reasons. -/
def rejectionMessage (reasons : List String) : String :=
  "; ".intercalate (((reasons.dedup).mergeSort (fun left right => left ≤ right)).map fun reason =>
    reason ++ " (" ++ toString (reasons.count reason) ++ " node(s))")

/-- The last of the best elements, as `max_by_key` picks it. -/
def lastBest : List Placement → Option Placement
  | [] => none
  | placement :: placements =>
    match lastBest placements with
    | none => some placement
    | some best => if placement.score ≤ best.score then some best else some placement

/-- An error carries the message of the placement error. -/
def place (nodes : List NodeDescriptor) (request : PlacementRequest) : Except String Placement :=
  let compatible := nodes.filter fun node => rejections node request = []
  match lastBest (compatible.map (scoredPlacement · request)) with
  | some placement => .ok placement
  | none => .error (rejectionMessage (nodes.flatMap (rejections · request)))

/-! ## What a placement says about its node -/

theorem mem_of_lastBest {placements : List Placement} {placement : Placement}
    (hbest : lastBest placements = some placement) : placement ∈ placements := by
  induction placements with
  | nil => simp [lastBest] at hbest
  | cons head tail ih =>
    unfold lastBest at hbest
    cases hrest : lastBest tail with
    | none =>
      rw [hrest] at hbest
      simp_all
    | some best =>
      rw [hrest] at hbest
      by_cases hle : head.score ≤ best.score
      · simp only [hle, if_true, Option.some.injEq] at hbest
        exact List.mem_cons_of_mem _ (ih (hrest.trans (congrArg some hbest)))
      · simp_all

/-- A task is placed on one of the nodes offered, which is compatible with it. -/
theorem exists_of_place_eq_ok {nodes : List NodeDescriptor} {request : PlacementRequest}
    {placement : Placement} (hplace : place nodes request = .ok placement) :
    ∃ node ∈ nodes, node.id = placement.node ∧ rejections node request = [] := by
  unfold place at hplace
  simp only at hplace
  split at hplace
  next best hbest =>
    have hmem := mem_of_lastBest hbest
    simp only [List.mem_map, List.mem_filter, decide_eq_true_eq] at hmem
    obtain ⟨node, ⟨hnode, hcompatible⟩, hscored⟩ := hmem
    refine ⟨node, hnode, ?_, hcompatible⟩
    rw [← Except.ok.inj hplace, ← hscored]
    rfl
  next => cases hplace

end DefaultScheduler

end Clusterflux
