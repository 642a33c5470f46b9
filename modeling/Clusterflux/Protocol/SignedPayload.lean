import Clusterflux.Protocol.Encoding

/-!
# What a signature covers

The coordinator recomputes the signed message of a request from the decoded
request: a digest of its canonical payload, framed together with the scope, the
request kind, the nonce, the issue time and, for nodes, the assignment authority
and operation identifier.
-/

namespace Clusterflux

open JsonText LengthFraming

/-! ## Payload digests -/

/-- The signature fields, which are not covered by the signature. -/
def proofFields : List String := ["agent_signature", "node_signature"]

/-- The bytes that are hashed for a signed request. -/
def signedRequestPayload (value : Json) : Bytes :=
  utf8 (String.ofList (canonicalPayload proofFields value).text)

/-- The digest under which a request enters its signed message. -/
def signedRequestPayloadDigest [Primitives] (value : Json) : Digest :=
  Digest.sha256 (signedRequestPayload value)

/-- The hashed bytes determine the canonical form, and are determined by it. -/
theorem signedRequestPayload_eq_iff (left right : Json) :
    signedRequestPayload left = signedRequestPayload right ↔
      canonicalPayload proofFields left = canonicalPayload proofFields right := by
  constructor
  · intro heq
    exact Json.text_injective (String.ofList_injective (utf8_injective heq))
  · intro heq
    rw [signedRequestPayload, heq, signedRequestPayload]

/-! ## Encodings with their signature -/

def assignmentAuthorityCodec : WireCodec AssignmentAuthority :=
  (((textField "assignment_id").and <| (textField "attempt_id").and <|
    numberField "offer_epoch").congr
    { toFun value := (value.assignmentId, value.attemptId, value.offerEpoch)
      invFun := fun (a, b, c) => ⟨a, b, c⟩ }).object

instance : assignmentAuthorityCodec.NeverNull := ⟨fun _ => rfl⟩

def nodeSignedRequestCodec : WireCodec NodeSignedRequest :=
  (((textField "nonce").and <| (numberField "issued_at_epoch_seconds").and <|
    (textField "signature").and <|
    (FieldsCodec.optional "assignment_authority" assignmentAuthorityCodec true).and <|
    optionalText "operation_id" true).congr
    { toFun value := (value.nonce, value.issuedAtEpochSeconds, value.signature,
        value.assignmentAuthority, value.operationId)
      invFun := fun (a, b, c, d, e) => ⟨a, b, c, d, e⟩ }).object

def agentSignedRequestCodec : WireCodec AgentSignedRequest :=
  (((textField "nonce").and <| (numberField "issued_at_epoch_seconds").and <|
    textField "signature").congr
    { toFun value := (value.nonce, value.issuedAtEpochSeconds, value.signature)
      invFun := fun (a, b, c) => ⟨a, b, c⟩ }).object

instance : nodeSignedRequestCodec.NeverNull := ⟨fun _ => rfl⟩
instance : agentSignedRequestCodec.NeverNull := ⟨fun _ => rfl⟩

def nodeSignatureField : FieldsCodec (Option NodeSignedRequest) :=
  .optional "node_signature" nodeSignedRequestCodec false

def agentSignatureField : FieldsCodec (Option AgentSignedRequest) :=
  .optional "agent_signature" agentSignedRequestCodec true

/-- The fields of a start request other than the signature. -/
def StartProcess.body (request : StartProcess) :
    String × String × Option String × Option String × Option Digest × String ×
      Option String × Bool :=
  (request.tenant, request.project, request.actorUser, request.actorAgent,
    request.agentPublicKeyFingerprint, request.process, request.launchAttempt, request.restart)

def StartProcess.bodyCodec :
    FieldsCodec (String × String × Option String × Option String × Option Digest × String ×
      Option String × Bool) :=
  (textField "tenant").and <| (textField "project").and <| (optionalText "actor_user" true).and <|
    (optionalText "actor_agent" true).and <|
    (optionalDigest "agent_public_key_fingerprint" true).and <| (textField "process").and <|
    (optionalText "launch_attempt" true).and <| flagField "restart"

/-- The fields of a launch request other than the signature. -/
def LaunchTask.body (request : LaunchTask) :
    String × String × Option String × Option String × Option Digest × TaskSpec × Bool ×
      String × String :=
  (request.tenant, request.project, request.actorUser, request.actorAgent,
    request.agentPublicKeyFingerprint, request.taskSpec, request.waitForNode,
    request.artifactPath, request.wasmModuleBase64)

def LaunchTask.bodyCodec :
    FieldsCodec (String × String × Option String × Option String × Option Digest × TaskSpec ×
      Bool × String × String) :=
  (textField "tenant").and <| (textField "project").and <| (optionalText "actor_user" true).and <|
    (optionalText "actor_agent" true).and <|
    (optionalDigest "agent_public_key_fingerprint" true).and NodeRequest.launchCodec

def NodeHeartbeat.encode (request : NodeHeartbeat) : Json :=
  Json.ofFields (("type", .string "node_heartbeat") ::
    (nodeSignatureField.and nodeFieldsCodec).encode (request.nodeSignature, request.toNodeFields))

def StartProcess.encode (request : StartProcess) : Json :=
  Json.ofFields (("type", .string "start_process") ::
    (agentSignatureField.and StartProcess.bodyCodec).encode
      (request.agentSignature, request.body))

def LaunchTask.encode (request : LaunchTask) : Json :=
  Json.ofFields (("type", .string "launch_task") ::
    (agentSignatureField.and LaunchTask.bodyCodec).encode
      (request.agentSignature, request.body))

/-! ## Signed messages -/

/-- A request whose signature the coordinator checks. -/
inductive SignedRequest where
  | signedNode (envelope : SignedNode)
  | nodeHeartbeat (request : NodeHeartbeat)
  | startProcess (request : StartProcess)
  | launchTask (request : LaunchTask)

namespace SignedRequest

/-- The JSON whose canonical form is hashed. -/
def encode : SignedRequest → Json
  | signedNode envelope => NodeRequest.codec.encode envelope.request
  | nodeHeartbeat request => request.encode
  | startProcess request => request.encode
  | launchTask request => request.encode

variable [Primitives]

/-- The message of a node for the given scope, request kind and payload. -/
def nodeMessage (node kind : String) (payload : Json) (signature : NodeSignedRequest) :
    Option Bytes := do
  let node ← (Id.tryNew .node node).toOption
  some (nodeRequestSignatureMessage node kind (signedRequestPayloadDigest payload)
    signature.nonce signature.issuedAtEpochSeconds signature.assignmentAuthority
    signature.operationId)

/-- The message of an agent; a request without agent or signature has none. -/
def agentMessage (tenant project : String) (agent : Option String) (kind : String)
    (process : String) (task : Option TaskInstanceId) (payload : Json)
    (signature : Option AgentSignedRequest) : Option Bytes := do
  let tenant ← (Id.tryNew .tenant tenant).toOption
  let project ← (Id.tryNew .project project).toOption
  let process ← (Id.tryNew .process process).toOption
  let agent ← (Id.tryNew .agent (← agent)).toOption
  let signature ← signature
  some (agentWorkflowSignatureMessage
    { tenant, project, agent, requestKind := kind, process, task }
    (signedRequestPayloadDigest payload) signature.nonce signature.issuedAtEpochSeconds)

/-- The message the coordinator checks the signature of a request against, if it
gets as far as computing one. -/
def signedMessage : SignedRequest → Option Bytes
  | signedNode envelope =>
    -- the signing node must be the node the wrapped request names
    if envelope.request.fields.node = envelope.node then
      nodeMessage envelope.node envelope.request.kind.name
        (NodeRequest.codec.encode envelope.request) envelope.nodeSignature
    else none
  | nodeHeartbeat request =>
    request.nodeSignature.bind fun signature =>
      nodeMessage request.node "node_heartbeat" request.encode signature
  | startProcess request =>
    agentMessage request.tenant request.project request.actorAgent "start_process"
      request.process none request.encode request.agentSignature
  | launchTask request =>
    agentMessage request.tenant request.project request.actorAgent "launch_task"
      request.taskSpec.process.value (some request.taskSpec.taskInstance) request.encode
      request.agentSignature

end SignedRequest

end Clusterflux
