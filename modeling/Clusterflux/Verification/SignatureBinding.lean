import Clusterflux.Protocol.SignedPayload

/-!
# What the signature of a request binds

Two signed requests have the same signed message exactly when they are the same
request up to the signature text and up to null-valued object entries inside
free-form JSON (task arguments and task results).  Those entries are dropped
before hashing at every depth, so they are the one part of a request that can be
altered under a valid signature.

Hashing enters only through the assumption that the two canonical payloads do
not collide.
-/

namespace Clusterflux

open JsonText LengthFraming

/-! ## Framed parts -/

theorem framedTexts_injective :
    Function.Injective fun parts : List String => frames (parts.map utf8) :=
  frames_injective.comp (utf8_injective.list_map)

/-- The parts of a node message determine all that went into it. -/
theorem nodeRequestSignatureParts_inj {node node' : NodeId} {kind kind' : String}
    {digest digest' : Digest} {nonce nonce' : String} {issuedAt issuedAt' : ℕ}
    {authority authority' : Option AssignmentAuthority} {operation operation' : Option String}
    (heq : nodeRequestSignatureParts node kind digest nonce issuedAt authority operation =
      nodeRequestSignatureParts node' kind' digest' nonce' issuedAt' authority' operation') :
    node = node' ∧ kind = kind' ∧ digest = digest' ∧ nonce = nonce' ∧ issuedAt = issuedAt' ∧
      authority = authority' ∧ operation = operation' := by
  simp only [nodeRequestSignatureParts, List.cons_append, List.nil_append,
    List.cons.injEq] at heq
  obtain ⟨hversion, hnode, hkind, hdigest, hnonce, hissued, hrest⟩ := heq
  refine ⟨Id.value_injective hnode, hkind, ?_, hnonce, by simpa using hissued, ?_⟩
  · cases digest
    cases digest'
    simpa using hdigest
  -- the version tells which optional parts follow, and their number tells the rest
  rcases authority with _ | ⟨assignment, attempt, epoch⟩ <;>
    rcases authority' with _ | ⟨assignment', attempt', epoch'⟩ <;>
    cases operation <;> cases operation' <;>
    simp_all [AssignmentAuthority.parts]

/-- The parts of an agent message determine all that went into it. -/
theorem agentWorkflowSignatureParts_inj {scope scope' : AgentWorkflowScope}
    {digest digest' : Digest} {nonce nonce' : String} {issuedAt issuedAt' : ℕ}
    (heq : agentWorkflowSignatureParts scope digest nonce issuedAt =
      agentWorkflowSignatureParts scope' digest' nonce' issuedAt') :
    scope.requestKind = scope'.requestKind ∧ digest = digest' ∧ nonce = nonce' ∧
      issuedAt = issuedAt' := by
  simp only [agentWorkflowSignatureParts, List.cons.injEq, and_true, true_and] at heq
  obtain ⟨-, -, -, hkind, -, -, hdigest, hnonce, hissued⟩ := heq
  refine ⟨hkind, ?_, hnonce, by simpa using hissued⟩
  cases digest
  cases digest'
  simpa using hdigest

/-! ## Payloads -/

theorem NodeRequestKind.not_mem_proofFields (kind : NodeRequestKind) :
    ∀ key ∈ "type" :: kind.fieldsCodec.keys, key ∉ proofFields := by
  cases kind <;> decide

/-- A wrapped request has no signature field of its own. -/
theorem canonicalPayload_nodeRequest (request : NodeRequest) :
    canonicalPayload proofFields (NodeRequest.codec.encode request) =
      Json.stripNulls (NodeRequest.codec.encode request) := by
  have hsublist : (((("type", Json.string request.kind.name) ::
      request.kind.fieldsCodec.encode request.payload)).map Prod.fst).Sublist
        ("type" :: request.kind.fieldsCodec.keys) :=
    (request.kind.fieldsCodec.encode_keys request.payload).cons_cons "type"
  refine canonicalPayload_unsigned proofFields (request.kind.nodup_keys.sublist hsublist) ?_
  intro key hkey
  exact request.kind.not_mem_proofFields key (hsublist.subset hkey)

def nodeHeartbeatCodec : WireCodec (Unit × NodeFields) :=
  ((taggedField "type" "node_heartbeat").and nodeFieldsCodec).object

def startProcessCodec :=
  ((taggedField "type" "start_process").and StartProcess.bodyCodec).object

def launchTaskCodec :=
  ((taggedField "type" "launch_task").and LaunchTask.bodyCodec).object

theorem canonicalPayload_nodeHeartbeat (request : NodeHeartbeat) :
    canonicalPayload proofFields request.encode =
      Json.stripNulls (nodeHeartbeatCodec.encode ((), request.toNodeFields)) :=
  canonicalPayload_signed proofFields ("type", .string "node_heartbeat") nodeSignatureField
    nodeFieldsCodec (by decide) (by decide) (by decide) (by decide)
    (request.nodeSignature, request.toNodeFields)

theorem canonicalPayload_startProcess (request : StartProcess) :
    canonicalPayload proofFields request.encode =
      Json.stripNulls (startProcessCodec.encode ((), request.body)) :=
  canonicalPayload_signed proofFields ("type", .string "start_process") agentSignatureField
    StartProcess.bodyCodec (by decide) (by decide) (by decide) (by decide)
    (request.agentSignature, request.body)

theorem canonicalPayload_launchTask (request : LaunchTask) :
    canonicalPayload proofFields request.encode =
      Json.stripNulls (launchTaskCodec.encode ((), request.body)) :=
  canonicalPayload_signed proofFields ("type", .string "launch_task") agentSignatureField
    LaunchTask.bodyCodec (by decide) (by decide) (by decide) (by decide)
    (request.agentSignature, request.body)

def LaunchTask.withoutNulls (request : LaunchTask) : LaunchTask :=
  { request with taskSpec := request.taskSpec.withoutNulls }

instance : StartProcess.bodyCodec.Plain := by unfold StartProcess.bodyCodec; infer_instance

theorem LaunchTask.normalize_bodyCodec (request : LaunchTask) :
    LaunchTask.bodyCodec.normalize request.body = request.withoutNulls.body := by
  simp [bodyCodec, FieldsCodec.and, FieldsCodec.required, normalize_taskSpecCodec, body,
    withoutNulls]

theorem payload_nodeRequest_eq_iff (left right : NodeRequest) :
    signedRequestPayload (NodeRequest.codec.encode left) =
        signedRequestPayload (NodeRequest.codec.encode right) ↔
      left.withoutNulls = right.withoutNulls := by
  rw [signedRequestPayload_eq_iff, canonicalPayload_nodeRequest, canonicalPayload_nodeRequest,
    WireCodec.strip_encode_eq_iff, NodeRequest.normalize_codec]

theorem payload_nodeHeartbeat_eq_iff (left right : NodeHeartbeat) :
    signedRequestPayload left.encode = signedRequestPayload right.encode ↔
      left.toNodeFields = right.toNodeFields := by
  rw [signedRequestPayload_eq_iff, canonicalPayload_nodeHeartbeat,
    canonicalPayload_nodeHeartbeat, WireCodec.strip_encode_eq_iff]
  simp [nodeHeartbeatCodec, FieldsCodec.object]

theorem payload_startProcess_eq_iff (left right : StartProcess) :
    signedRequestPayload left.encode = signedRequestPayload right.encode ↔
      left.body = right.body := by
  rw [signedRequestPayload_eq_iff, canonicalPayload_startProcess,
    canonicalPayload_startProcess, WireCodec.strip_encode_eq_iff]
  simp [startProcessCodec, FieldsCodec.object]

theorem payload_launchTask_eq_iff (left right : LaunchTask) :
    signedRequestPayload left.encode = signedRequestPayload right.encode ↔
      left.withoutNulls.body = right.withoutNulls.body := by
  rw [signedRequestPayload_eq_iff, canonicalPayload_launchTask, canonicalPayload_launchTask,
    WireCodec.strip_encode_eq_iff]
  simp [launchTaskCodec, FieldsCodec.object, FieldsCodec.and, LaunchTask.normalize_bodyCodec]

/-! ## Requests up to what is not signed -/

/-- Everything of a node signature but its text. -/
def NodeSignedRequest.unsigned (signature : NodeSignedRequest) : NodeSignedRequest :=
  { signature with signature := "" }

/-- Everything of an agent signature but its text. -/
def AgentSignedRequest.unsigned (signature : AgentSignedRequest) : AgentSignedRequest :=
  { signature with signature := "" }

namespace SignedRequest

/-- The request without the null entries of its free-form JSON. -/
def withoutNulls : SignedRequest → SignedRequest
  | signedNode envelope => signedNode { envelope with request := envelope.request.withoutNulls }
  | launchTask request => launchTask request.withoutNulls
  | request => request

/-- The request without the text of its signature. -/
def withoutSignature : SignedRequest → SignedRequest
  | signedNode envelope =>
    signedNode { envelope with nodeSignature := envelope.nodeSignature.unsigned }
  | nodeHeartbeat request =>
    nodeHeartbeat
      { request with nodeSignature := request.nodeSignature.map NodeSignedRequest.unsigned }
  | startProcess request =>
    startProcess
      { request with agentSignature := request.agentSignature.map AgentSignedRequest.unsigned }
  | launchTask request =>
    launchTask
      { request with agentSignature := request.agentSignature.map AgentSignedRequest.unsigned }

def SameApartFromSignature (left right : SignedRequest) : Prop :=
  left.withoutSignature = right.withoutSignature

def AgreesUpToNulls (left right : SignedRequest) : Prop :=
  left.withoutNulls.SameApartFromSignature right.withoutNulls

/-- No free-form JSON of the request has a null-valued object entry. -/
def NullFree (request : SignedRequest) : Prop :=
  request.withoutNulls = request

/-! ## Messages determine requests -/

section Messages

variable [Primitives]

theorem nodeMessage_eq_some_iff {node kind : String} {payload : Json}
    {signature : NodeSignedRequest} {message : Bytes} :
    nodeMessage node kind payload signature = some message ↔
      ∃ id : NodeId, id.value = node ∧ nodeRequestSignatureMessage id kind
        (signedRequestPayloadDigest payload) signature.nonce signature.issuedAtEpochSeconds
        signature.assignmentAuthority signature.operationId = message := by
  simp [nodeMessage, Option.bind_eq_some_iff, Id.toOption_tryNew_eq_some_iff]

theorem exists_of_agentMessage_eq_some {tenant project : String} {agent : Option String}
    {kind process : String} {task : Option TaskInstanceId} {payload : Json}
    {signature : Option AgentSignedRequest} {message : Bytes}
    (heq : agentMessage tenant project agent kind process task payload signature =
      some message) :
    ∃ (scope : AgentWorkflowScope) (signed : AgentSignedRequest), scope.requestKind = kind ∧
      signature = some signed ∧ agentWorkflowSignatureMessage scope
        (signedRequestPayloadDigest payload) signed.nonce signed.issuedAtEpochSeconds =
          message := by
  simp only [agentMessage, Option.bind_eq_bind, Option.bind_eq_some_iff,
    Option.some.injEq] at heq
  obtain ⟨tenant, -, project, -, process, -, agent, -, agentId, -, signed, hsigned, rfl⟩ := heq
  exact ⟨_, signed, rfl, hsigned, rfl⟩

theorem nodeMessage_inj {node node' kind kind' : String} {payload payload' : Json}
    {signature signature' : NodeSignedRequest} {message : Bytes}
    (hleft : nodeMessage node kind payload signature = some message)
    (hright : nodeMessage node' kind' payload' signature' = some message) :
    node = node' ∧ kind = kind' ∧
      signedRequestPayloadDigest payload = signedRequestPayloadDigest payload' ∧
      signature.unsigned = signature'.unsigned := by
  obtain ⟨id, rfl, rfl⟩ := nodeMessage_eq_some_iff.mp hleft
  obtain ⟨id', rfl, hmessage⟩ := nodeMessage_eq_some_iff.mp hright
  obtain ⟨rfl, hkind, hdigest, hnonce, hissued, hauthority, hoperation⟩ :=
    nodeRequestSignatureParts_inj (framedTexts_injective hmessage)
  refine ⟨rfl, hkind.symm, hdigest.symm, ?_⟩
  simp [NodeSignedRequest.unsigned, hnonce, hissued, hauthority, hoperation]

theorem agentMessage_inj {tenant tenant' project project' : String}
    {agent agent' : Option String} {kind kind' process process' : String}
    {task task' : Option TaskInstanceId} {payload payload' : Json}
    {signature signature' : Option AgentSignedRequest} {message : Bytes}
    (hleft : agentMessage tenant project agent kind process task payload signature =
      some message)
    (hright : agentMessage tenant' project' agent' kind' process' task' payload' signature' =
      some message) :
    kind = kind' ∧
      signedRequestPayloadDigest payload = signedRequestPayloadDigest payload' ∧
      signature.map AgentSignedRequest.unsigned = signature'.map AgentSignedRequest.unsigned := by
  obtain ⟨scope, signed, rfl, rfl, rfl⟩ := exists_of_agentMessage_eq_some hleft
  obtain ⟨scope', signed', rfl, rfl, hmessage⟩ := exists_of_agentMessage_eq_some hright
  obtain ⟨hkind, hdigest, hnonce, hissued⟩ :=
    agentWorkflowSignatureParts_inj (framedTexts_injective hmessage)
  refine ⟨hkind.symm, hdigest.symm, ?_⟩
  simp [AgentSignedRequest.unsigned, hnonce, hissued]

/-- The first part of a message tells nodes and agents apart. -/
theorem nodeMessage_ne_agentMessage {node kind : String} {payload payload' : Json}
    {signature : NodeSignedRequest} {tenant project : String} {agent : Option String}
    {kind' process : String} {task : Option TaskInstanceId}
    {signature' : Option AgentSignedRequest} {message : Bytes}
    (hnode : nodeMessage node kind payload signature = some message) :
    agentMessage tenant project agent kind' process task payload' signature' ≠
      some message := by
  intro hagent
  obtain ⟨id, -, rfl⟩ := nodeMessage_eq_some_iff.mp hnode
  obtain ⟨scope, signed, -, -, hmessage⟩ := exists_of_agentMessage_eq_some hagent
  have hparts := framedTexts_injective hmessage
  simp only [agentWorkflowSignatureParts, nodeRequestSignatureParts, List.cons_append,
    List.cons.injEq] at hparts
  have hversion := hparts.1
  unfold nodeRequestSignatureVersion at hversion
  split_ifs at hversion <;> exact absurd hversion (by decide)

/-- The bytes whose hash stands for the request in its signed message. -/
def payload (request : SignedRequest) : Bytes := signedRequestPayload request.encode

omit [Primitives] in
theorem payload_withoutNulls (request : SignedRequest) :
    request.withoutNulls.payload = request.payload := by
  cases request with
  | signedNode envelope =>
    refine (payload_nodeRequest_eq_iff _ _).mpr ?_
    have hnormal := NodeRequest.codec.normalize_normalize envelope.request
    rwa [NodeRequest.normalize_codec] at hnormal
  | launchTask request =>
    refine (payload_launchTask_eq_iff _ _).mpr ?_
    have hnormal := taskSpecCodec.normalize_normalize request.taskSpec
    rw [normalize_taskSpecCodec] at hnormal
    simp only [LaunchTask.withoutNulls, hnormal]
  | nodeHeartbeat request => rfl
  | startProcess request => rfl

omit [Primitives] in
theorem payload_withoutSignature (request : SignedRequest) :
    request.withoutSignature.payload = request.payload := by
  cases request with
  | signedNode envelope => rfl
  | nodeHeartbeat request => exact (payload_nodeHeartbeat_eq_iff _ _).mpr rfl
  | startProcess request => exact (payload_startProcess_eq_iff _ _).mpr rfl
  | launchTask request => exact (payload_launchTask_eq_iff _ _).mpr rfl

/-- Null entries of free-form JSON do not show in the signed message. -/
theorem signedMessage_withoutNulls (request : SignedRequest) :
    request.withoutNulls.signedMessage = request.signedMessage := by
  have hpayload := payload_withoutNulls request
  cases request with
  | signedNode envelope =>
    simp only [payload, withoutNulls, encode] at hpayload
    simp only [withoutNulls, signedMessage, nodeMessage, signedRequestPayloadDigest, hpayload,
      NodeRequest.kind_withoutNulls, NodeRequest.fields_withoutNulls]
  | launchTask request =>
    simp only [payload, withoutNulls, encode] at hpayload
    simp only [withoutNulls, signedMessage, agentMessage, signedRequestPayloadDigest, hpayload]
    rfl
  | nodeHeartbeat request => rfl
  | startProcess request => rfl

theorem signedMessage_withoutSignature (request : SignedRequest) :
    request.withoutSignature.signedMessage = request.signedMessage := by
  have hpayload := payload_withoutSignature request
  cases request with
  | signedNode envelope => rfl
  | nodeHeartbeat request =>
    simp only [payload, withoutSignature, encode] at hpayload
    cases hsignature : request.nodeSignature <;>
      simp_all [withoutSignature, signedMessage, nodeMessage, signedRequestPayloadDigest,
        NodeSignedRequest.unsigned]
  | startProcess request =>
    simp only [payload, withoutSignature, encode] at hpayload
    cases hsignature : request.agentSignature <;>
      simp_all [withoutSignature, signedMessage, agentMessage, signedRequestPayloadDigest,
        AgentSignedRequest.unsigned]
  | launchTask request =>
    simp only [payload, withoutSignature, encode] at hpayload
    cases hsignature : request.agentSignature <;>
      simp_all [withoutSignature, signedMessage, agentMessage, signedRequestPayloadDigest,
        AgentSignedRequest.unsigned]

/-- The parts of a message determine all of the request that is hashed. -/
theorem agreesUpToNulls_of_message_eq {left right : SignedRequest} {message : Bytes}
    (hcollision : Primitives.sha256Hex left.payload = Primitives.sha256Hex right.payload →
      left.payload = right.payload)
    (hleft : left.signedMessage = some message) (hright : right.signedMessage = some message) :
    left.AgreesUpToNulls right := by
  have hpayload : signedRequestPayloadDigest left.encode =
      signedRequestPayloadDigest right.encode → left.payload = right.payload := by
    intro hdigest
    simp only [signedRequestPayloadDigest, Digest.sha256, Digest.mk.injEq,
      String.append_right_inj] at hdigest
    exact hcollision hdigest
  -- messages of different shapes differ in their first part or in the request kind
  cases left with
  | signedNode envelope =>
    simp only [signedMessage] at hleft
    split_ifs at hleft with hnode
    cases right with
    | signedNode envelope' =>
      simp only [signedMessage] at hright
      split_ifs at hright with hnode'
      obtain ⟨hnodes, -, hdigest, hsignature⟩ := nodeMessage_inj hleft hright
      have hrequest := (payload_nodeRequest_eq_iff _ _).mp (hpayload hdigest)
      simp [AgreesUpToNulls, SameApartFromSignature, withoutNulls, withoutSignature,
        hrequest, hsignature, hnodes]
    | nodeHeartbeat request =>
      obtain ⟨signature, -, hmessage⟩ := Option.bind_eq_some_iff.mp hright
      have hkind := (nodeMessage_inj hleft hmessage).2.1
      generalize envelope.request.kind = kind at hkind
      cases kind <;> exact absurd hkind (by decide)
    | startProcess request => exact absurd hright (nodeMessage_ne_agentMessage hleft)
    | launchTask request => exact absurd hright (nodeMessage_ne_agentMessage hleft)
  | nodeHeartbeat request =>
    obtain ⟨signature, hsigned, hmessage⟩ := Option.bind_eq_some_iff.mp hleft
    cases right with
    | signedNode envelope' =>
      simp only [signedMessage] at hright
      split_ifs at hright with hnode'
      have hkind := (nodeMessage_inj hmessage hright).2.1
      generalize envelope'.request.kind = kind at hkind
      cases kind <;> exact absurd hkind (by decide)
    | nodeHeartbeat request' =>
      obtain ⟨signature', hsigned', hmessage'⟩ := Option.bind_eq_some_iff.mp hright
      obtain ⟨-, -, hdigest, hsignature⟩ := nodeMessage_inj hmessage hmessage'
      have hfields := (payload_nodeHeartbeat_eq_iff _ _).mp (hpayload hdigest)
      simp [AgreesUpToNulls, SameApartFromSignature, withoutNulls, withoutSignature,
        hfields, hsigned, hsigned', hsignature]
    | startProcess request' => exact absurd hright (nodeMessage_ne_agentMessage hmessage)
    | launchTask request' => exact absurd hright (nodeMessage_ne_agentMessage hmessage)
  | startProcess request =>
    cases right with
    | signedNode envelope' =>
      simp only [signedMessage] at hright
      split_ifs at hright with hnode'
      exact absurd hleft (nodeMessage_ne_agentMessage hright)
    | nodeHeartbeat request' =>
      obtain ⟨signature', -, hmessage'⟩ := Option.bind_eq_some_iff.mp hright
      exact absurd hleft (nodeMessage_ne_agentMessage hmessage')
    | startProcess request' =>
      obtain ⟨-, hdigest, hsignature⟩ := agentMessage_inj hleft hright
      have hbody := (payload_startProcess_eq_iff _ _).mp (hpayload hdigest)
      simp only [StartProcess.body, Prod.mk.injEq] at hbody
      simp [AgreesUpToNulls, SameApartFromSignature, withoutNulls, withoutSignature,
        hbody, hsignature]
    | launchTask request' =>
      exact absurd (agentMessage_inj hleft hright).1 (by decide)
  | launchTask request =>
    cases right with
    | signedNode envelope' =>
      simp only [signedMessage] at hright
      split_ifs at hright with hnode'
      exact absurd hleft (nodeMessage_ne_agentMessage hright)
    | nodeHeartbeat request' =>
      obtain ⟨signature', -, hmessage'⟩ := Option.bind_eq_some_iff.mp hright
      exact absurd hleft (nodeMessage_ne_agentMessage hmessage')
    | startProcess request' =>
      exact absurd (agentMessage_inj hleft hright).1 (by decide)
    | launchTask request' =>
      obtain ⟨-, hdigest, hsignature⟩ := agentMessage_inj hleft hright
      have hbody := (payload_launchTask_eq_iff _ _).mp (hpayload hdigest)
      simp only [LaunchTask.body, LaunchTask.withoutNulls, Prod.mk.injEq] at hbody
      simp [AgreesUpToNulls, SameApartFromSignature, withoutNulls, withoutSignature,
        LaunchTask.withoutNulls, hbody, hsignature]

/-- Two requests have the same signed message exactly when they agree up to the
signature text and the null entries of their free-form JSON. -/
theorem signedMessage_eq_iff {left right : SignedRequest} (hleft : left.signedMessage.isSome)
    (hcollision : Primitives.sha256Hex left.payload = Primitives.sha256Hex right.payload →
      left.payload = right.payload) :
    left.signedMessage = right.signedMessage ↔ left.AgreesUpToNulls right := by
  constructor
  · intro heq
    obtain ⟨message, hmessage⟩ := Option.isSome_iff_exists.mp hleft
    exact agreesUpToNulls_of_message_eq hcollision hmessage (heq ▸ hmessage)
  · intro hagree
    calc left.signedMessage
        = left.withoutNulls.withoutSignature.signedMessage := by
          rw [signedMessage_withoutSignature, signedMessage_withoutNulls]
      _ = right.withoutNulls.withoutSignature.signedMessage := by
          rw [show left.withoutNulls.withoutSignature = right.withoutNulls.withoutSignature
            from hagree]
      _ = right.signedMessage := by
          rw [signedMessage_withoutSignature, signedMessage_withoutNulls]

/-- The requests are different but only in null entries of free-form JSON. -/
def DiffersOnlyInNulls (left right : SignedRequest) : Prop :=
  left.AgreesUpToNulls right ∧ ¬ left.SameApartFromSignature right

omit [Primitives] in
theorem nullFree_of_sameApartFromSignature {request : SignedRequest}
    (hsame : request.SameApartFromSignature request.withoutNulls) : request.NullFree := by
  cases request with
  | signedNode envelope =>
    simp only [SameApartFromSignature, withoutNulls, withoutSignature, signedNode.injEq,
      SignedNode.mk.injEq, true_and] at hsame
    simp [NullFree, withoutNulls, ← hsame]
  | launchTask request =>
    simp only [SameApartFromSignature, withoutNulls, withoutSignature, launchTask.injEq,
      LaunchTask.withoutNulls, LaunchTask.mk.injEq, true_and, and_true] at hsame
    simp [NullFree, withoutNulls, LaunchTask.withoutNulls, ← hsame]
  | nodeHeartbeat request => rfl
  | startProcess request => rfl

/-- A signed message determines the request up to the signature text, except that
null entries of free-form JSON are not bound: two requests are told apart by
their messages unless they differ only there, requests without such entries are
always told apart, and every request with one shares its message with the
request without it. -/
theorem signed_message_binds_request_iff (left right : SignedRequest)
    (hleft : left.signedMessage.isSome)
    (hcollision : Primitives.sha256Hex left.payload = Primitives.sha256Hex right.payload →
      left.payload = right.payload) :
    ((left.signedMessage = right.signedMessage → left.SameApartFromSignature right) ↔
        ¬ left.DiffersOnlyInNulls right) ∧
      (left.NullFree → right.NullFree →
        (left.signedMessage = right.signedMessage ↔ left.SameApartFromSignature right)) ∧
      (¬ left.NullFree →
        left.signedMessage = left.withoutNulls.signedMessage ∧
          ¬ left.SameApartFromSignature left.withoutNulls) := by
  refine ⟨?_, ?_, ?_⟩
  · rw [signedMessage_eq_iff hleft hcollision]
    constructor
    · rintro hbinds ⟨hagree, hdiffers⟩
      exact hdiffers (hbinds hagree)
    · intro hnot hagree
      by_contra hdiffers
      exact hnot ⟨hagree, hdiffers⟩
  · intro hnull hnull'
    rw [signedMessage_eq_iff hleft hcollision, AgreesUpToNulls, hnull, hnull']
  · intro hnull
    exact ⟨(signedMessage_withoutNulls left).symm,
      fun hsame => hnull (nullFree_of_sameApartFromSignature hsame)⟩

end Messages

/-- A signed completion report whose task result is the given JSON value. -/
def completionReport (result : Json) : SignedRequest :=
  signedNode
    { node := "node-1"
      nodeSignature :=
        { nonce := "nonce-1", issuedAtEpochSeconds := 1000, signature := "ed25519:AA=="
          assignmentAuthority := some ⟨"assignment-1", "ta-1", 1⟩
          operationId := some "operation-1" }
      request := ⟨.taskCompleted,
        ({ tenant := "tenant-1", project := "project-1", node := "node-1"
           process := "process-1", task := "task-1", terminalState := some .completed
           statusCode := some 0, stdoutBytes := 0, stderrBytes := 0, stdoutTail := ""
           stderrTail := "", stdoutTruncated := false, stderrTruncated := false
           artifactPath := none, artifactDigest := none, artifactSizeBytes := none
           result := some (.smallJson result) } : NodeRequest.TaskCompleted)⟩ }

theorem completionReport_inj {result result' : Json}
    (hsame : (completionReport result).SameApartFromSignature (completionReport result')) :
    result = result' := by
  have hresult : some (TaskBoundaryValue.smallJson result) = some (.smallJson result') :=
    congrArg (fun request => match request with
      | signedNode ⟨_, _, ⟨.taskCompleted, completed⟩⟩ =>
        NodeRequest.TaskCompleted.result completed
      | _ => none) hsame
  simpa using hresult

/-- The result `{"approved": null}` can be replaced by `{}` under the same
signature. -/
theorem completion_result_altered_under_signature :
    letI := Primitives.sample
    (completionReport (.object [("approved", .null)])).signedMessage.isSome ∧
      (completionReport (.object [("approved", .null)])).signedMessage =
        (completionReport (.object [])).signedMessage ∧
      ¬ (completionReport (.object [("approved", .null)])).SameApartFromSignature
        (completionReport (.object [])) := by
  let := Primitives.sample
  refine ⟨rfl, ?_, ?_⟩
  · exact (signedMessage_withoutNulls (completionReport (.object [("approved", .null)]))).symm
  · intro hsame
    simpa using completionReport_inj hsame

/-- A signed heartbeat in the given tenant. -/
def heartbeatFrom (tenant : String) : SignedRequest :=
  nodeHeartbeat
    { tenant, project := "p", node := "n"
      nodeSignature := some
        { nonce := "nonce-1", issuedAtEpochSeconds := 1000, signature := "ed25519:AA=="
          assignmentAuthority := none, operationId := none } }

/-- Heartbeats of equally named nodes of two tenants have different messages. -/
theorem heartbeat_tenants_bound :
    letI := Primitives.sample
    (heartbeatFrom "a").signedMessage ≠ (heartbeatFrom "b").signedMessage := by
  let := Primitives.sample
  intro heq
  have hbinds := (signed_message_binds_request_iff (heartbeatFrom "a") (heartbeatFrom "b") rfl
    (fun hhash => absurd hhash (by decide +kernel))).2.1 rfl rfl
  have hsame := hbinds.mp heq
  simp [SameApartFromSignature, withoutSignature, heartbeatFrom] at hsame

end SignedRequest

end Clusterflux
