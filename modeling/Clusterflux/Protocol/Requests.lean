import Clusterflux.Protocol.NodeRequests

/-!
# Signed requests

A node signs an envelope around one of its requests, or a heartbeat of its own.
An agent signs a request to start a process or to launch the main task of one.
-/

namespace Clusterflux

structure NodeHeartbeat extends NodeFields where
  nodeSignature : Option NodeSignedRequest

/-- The envelope of a node request names the node a second time. -/
structure SignedNode where
  node : String
  nodeSignature : NodeSignedRequest
  request : NodeRequest

/-- A user or an agent starts or restarts a process. -/
structure StartProcess where
  tenant : String
  project : String
  actorUser : Option String
  actorAgent : Option String
  agentPublicKeyFingerprint : Option Digest
  agentSignature : Option AgentSignedRequest
  process : String
  launchAttempt : Option String
  restart : Bool

/-- A user or an agent launches the main task of a process. -/
structure LaunchTask where
  tenant : String
  project : String
  actorUser : Option String
  actorAgent : Option String
  agentPublicKeyFingerprint : Option Digest
  agentSignature : Option AgentSignedRequest
  taskSpec : TaskSpec
  waitForNode : Bool
  artifactPath : String
  wasmModuleBase64 : String

end Clusterflux
