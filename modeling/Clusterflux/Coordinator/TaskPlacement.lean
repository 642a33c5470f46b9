import Clusterflux.Coordinator.Service
import Clusterflux.Foundation.Selection

/-!
# Placement of workflow tasks

A task is placed on the compatible node with the best locality score; among
equals the coordinator prefers the node with the fewest tasks of the project.
-/

namespace Clusterflux

open Selection

/-- A better score comes first, then a smaller load, then the smaller node. -/
def comparePlacements (load : NodeId → ℕ) (left right : Placement) : Ordering :=
  (compare right.score left.score).then
    ((compare (load left.node) (load right.node)).then (compare left.node right.node))

def selectTaskPlacement (candidates : List Placement) (load : NodeId → ℕ) : Option Placement :=
  firstLeast (comparePlacements load) candidates

/-- An immutable revision can be fetched by the node; a bare snapshot must be there. -/
def taskPlacementSourceSnapshot (spec : TaskSpec) : Option Digest :=
  if spec.sourceRevision.isSome then none else spec.sourceSnapshot

/-- The active tasks of a project on a node. -/
def TaskRegistry.activeOnNode (registry : TaskRegistry) (tenant : TenantId)
    (project : ProjectId) (node : NodeId) : ℕ :=
  (registry.activeTasks.filter fun task =>
    task.tenant = tenant ∧ task.project = project ∧ task.node = node).card

def leastActiveReason (load : ℕ) : String :=
  "least active equal-locality node (" ++ toString load ++ " active assignment(s))"

/-- The placements of the nodes that can take the task alone. -/
def placementCandidates (nodes : List NodeDescriptor) (request : PlacementRequest) :
    List Placement :=
  nodes.filterMap fun node => (DefaultScheduler.place [node] request).toOption

def CoordinatorService.placeWorkflowTask (service : CoordinatorService)
    (nodes : List NodeDescriptor) (request : PlacementRequest) : Except String Placement :=
  let load := service.taskRegistry.activeOnNode request.tenant request.project
  let candidates := placementCandidates nodes request
  match selectTaskPlacement candidates load with
  | none => DefaultScheduler.place nodes request
  | some selected =>
    if candidates.any fun candidate =>
        candidate.score = selected.score ∧ load selected.node < load candidate.node then
      .ok { selected with reasons := selected.reasons ++ [leastActiveReason (load selected.node)] }
    else .ok selected

/-- What a task asks of a node, as it is at the time of the request. -/
def CoordinatorService.placementRequest (service : CoordinatorService) (tenant : TenantId)
    (project : ProjectId) (spec : TaskSpec) (preferNode : Option NodeId) (now : ℕ) :
    PlacementRequest where
  tenant := tenant
  project := project
  environment := spec.environment
  environmentDigest := spec.environmentDigest
  environmentCacheRequired :=
    spec.environmentId.isSome && (spec.environment.isNone || spec.sourceRevision.isSome)
  requiredCapabilities := spec.requiredCapabilities
  dependencyCache := spec.dependencyCache
  sourceSnapshot := taskPlacementSourceSnapshot spec
  requiredArtifacts := spec.requiredArtifacts.toFinset
  quotaAvailable := (service.quota.canCharge tenant project .spawn 1 now).isOk
  policyAllowed := service.admission.workflowPlacementAllowed
  preferNode := preferNode

end Clusterflux
