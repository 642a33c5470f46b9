import Clusterflux.Coordinator.Credentials
import Clusterflux.Foundation.OrderedMaps

/-!
# Isolation of the credential index

Sessions, agents and nodes keep their credential records in one table keyed by
subject.  The subject of a session determines its secret and the subject of a
node determines its tenant, project and name; kinds never meet.  Agents are the
exception: their identifiers may contain the colon their subject is joined with,
so two agents of different tenants can have one subject, and then each of them
overwrites and removes the record of the other.
-/

namespace Clusterflux

open LengthFraming OrderedMaps

/-- Who a credential record is made for. -/
inductive CredentialPrincipal where
  | session (tenant : TenantId) (project : ProjectId) (user : UserId) (secret : String)
  | agent (tenant : TenantId) (project : ProjectId) (name : AgentId)
  | node (scope : NodeScopeKey)
  deriving DecidableEq

/-- The two principals use one session secret, or their agent identifiers read
the same once they are joined with colons. -/
def CredentialPrincipal.Clashes : CredentialPrincipal → CredentialPrincipal → Prop
  | .session _ _ _ secret, .session _ _ _ secret' => secret = secret'
  | .agent tenant project name, .agent tenant' project' name' =>
    tenant.value ++ ":" ++ project.value ++ ":" ++ name.value =
      tenant'.value ++ ":" ++ project'.value ++ ":" ++ name'.value
  | _, _ => False

instance (left right : CredentialPrincipal) : Decidable (left.Clashes right) := by
  cases left <;> cases right <;> unfold CredentialPrincipal.Clashes <;> infer_instance

theorem credentialSubject_eq (scope : NodeScopeKey) :
    scope.credentialSubject = "node:" ++ (prefixedText scope.tenant.value ++
      (":" ++ (prefixedText scope.project.value ++ (":" ++ (prefixedText scope.node.value ++
        ""))))) := by
  -- The equation lemma of a long text is expensive to generate.
  delta NodeScopeKey.credentialSubject
  simp only [prefixedText, String.append_assoc, String.append_empty]

theorem credentialSubject_injective : Function.Injective NodeScopeKey.credentialSubject := by
  rintro ⟨tenant, project, node⟩ ⟨tenant', project', node'⟩ heq
  rw [credentialSubject_eq, credentialSubject_eq, String.append_right_inj] at heq
  obtain ⟨htenant, hrest⟩ := prefixedText_append_inj heq
  rw [String.append_right_inj] at hrest
  obtain ⟨hproject, hrest⟩ := prefixedText_append_inj hrest
  rw [String.append_right_inj] at hrest
  obtain ⟨hnode, -⟩ := prefixedText_append_inj hrest
  obtain rfl : tenant = tenant' := Id.value_injective htenant
  obtain rfl : project = project' := Id.value_injective hproject
  obtain rfl : node = node' := Id.value_injective hnode
  rfl

theorem agentSubject_inj {tenant tenant' : TenantId} {project project' : ProjectId}
    {name name' : AgentId} :
    agentSubject tenant project name = agentSubject tenant' project' name' ↔
      tenant.value ++ ":" ++ project.value ++ ":" ++ name.value =
        tenant'.value ++ ":" ++ project'.value ++ ":" ++ name'.value := by
  simp only [agentSubject, String.append_assoc, String.append_right_inj]

/-- Revoking a key changes the record of the agent and removes its credential. -/
theorem Coordinator.revokeAgentPublicKey_eq_ok {coordinator : Coordinator}
    {context : AuthContext} {name : AgentId} {result : AgentPublicKeyRecord × Coordinator}
    (hok : coordinator.revokeAgentPublicKey context name = .ok result) :
    ∃ record, coordinator.durable.agentPublicKeys[(context.tenant, context.project, name)]? =
        some record ∧
      result.2.durable.agentPublicKeys = coordinator.durable.agentPublicKeys.insert
        (context.tenant, context.project, name) { record with revoked := true } ∧
      result.2.durable.credentials = coordinator.durable.credentials.erase
        (agentSubject context.tenant context.project record.agent) := by
  unfold Coordinator.revokeAgentPublicKey at hok
  cases hrecord : coordinator.durable.agentPublicKeys[(context.tenant, context.project, name)]? with
  | none => simp [hrecord] at hok
  | some record =>
    cases hactor : context.actor with
    | user user =>
      by_cases huser : record.user = user
      · subst huser
        simp only [hrecord, hactor, ne_eq, not_true_eq_false, if_false, Except.ok.injEq] at hok
        subst hok
        exact ⟨record, rfl, rfl, rfl⟩
      · simp [hrecord, hactor, huser] at hok
    | agent => simp [hrecord, hactor] at hok
    | node => simp [hrecord, hactor] at hok
    | task => simp [hrecord, hactor] at hok

section Subjects

variable [Primitives]

def CredentialPrincipal.subject : CredentialPrincipal → String
  | .session _ _ _ secret => cliSessionSubject (Digest.sha256 (utf8 secret))
  | .agent tenant project name => agentSubject tenant project name
  | .node scope => scope.credentialSubject

theorem cliSessionSubject_inj (hsha256 : Function.Injective Primitives.sha256Hex)
    {secret secret' : String} :
    cliSessionSubject (Digest.sha256 (utf8 secret)) =
      cliSessionSubject (Digest.sha256 (utf8 secret')) ↔ secret = secret' := by
  constructor
  · intro heq
    have hdigest : (Digest.sha256 (utf8 secret)).text = (Digest.sha256 (utf8 secret')).text :=
      (String.append_right_inj _).mp heq
    apply utf8_injective
    apply Digest.sha256_injective hsha256
    exact congrArg Digest.mk hdigest
  · rintro rfl
    rfl

/-- The first letter of a subject tells the kind of its principal. -/
theorem head_subject (principal : CredentialPrincipal) :
    principal.subject.toList.head? = match principal with
      | .session .. => some 'c'
      | .agent .. => some 'a'
      | .node _ => some 'n' := by
  cases principal <;>
    simp [CredentialPrincipal.subject, cliSessionSubject, agentSubject, credentialSubject_eq]

/-- Principals have one subject exactly when they are the same or clash. -/
theorem subject_eq_iff (hsha256 : Function.Injective Primitives.sha256Hex)
    {left right : CredentialPrincipal} :
    left.subject = right.subject ↔ left = right ∨ left.Clashes right := by
  have hkinds : left.subject = right.subject →
      left.subject.toList.head? = right.subject.toList.head? := fun heq => by rw [heq]
  rw [head_subject, head_subject] at hkinds
  cases left with
  | session tenant project user secret =>
    cases right with
    | session tenant' project' user' secret' =>
      simp only [CredentialPrincipal.subject, cliSessionSubject_inj hsha256,
        CredentialPrincipal.Clashes]
      grind
    | agent => grind [CredentialPrincipal.Clashes]
    | node => grind [CredentialPrincipal.Clashes]
  | agent tenant project name =>
    cases right with
    | session => grind [CredentialPrincipal.Clashes]
    | agent tenant' project' name' =>
      simp only [CredentialPrincipal.subject, agentSubject_inj, CredentialPrincipal.Clashes]
      grind
    | node => grind [CredentialPrincipal.Clashes]
  | node scope =>
    cases right with
    | session => grind [CredentialPrincipal.Clashes]
    | agent => grind [CredentialPrincipal.Clashes]
    | node scope' =>
      simp [CredentialPrincipal.subject, credentialSubject_injective.eq_iff,
        CredentialPrincipal.Clashes]

/-! ## Operations and runs -/

/-- The operations that enter or remove credential records.  Registering a key
again rotates it. -/
inductive CredentialOperation where
  | issueSession (tenant : TenantId) (project : ProjectId) (user : UserId) (secret : String)
      (expiresAtEpochSeconds : Option ℕ)
  | registerAgent (tenant : TenantId) (project : ProjectId) (user : UserId) (name : AgentId)
      (publicKey : String)
  | revokeAgent (context : AuthContext) (name : AgentId)
  | attachNode (scope : NodeScopeKey) (publicKey : String)
  | exchangeGrant (grant : EnrollmentGrant) (node : NodeId) (publicKey requestedScope : String)
      (nowEpochSeconds : ℕ)
  | revokeNode (context : AuthContext) (node : NodeId)

/-- Whom the operation is about. -/
def CredentialOperation.principal : CredentialOperation → CredentialPrincipal
  | .issueSession tenant project user secret _ => .session tenant project user secret
  | .registerAgent tenant project _ name _ => .agent tenant project name
  | .revokeAgent context name => .agent context.tenant context.project name
  | .attachNode scope _ => .node scope
  | .exchangeGrant grant node _ _ _ => .node ⟨grant.tenant, grant.project, node⟩
  | .revokeNode context node => .node ⟨context.tenant, context.project, node⟩

/-- The credential of an exchange is for the tenant and project of the grant. -/
theorem exchange_scope {grant : EnrollmentGrant} {node : NodeId}
    {publicKey requestedScope : String} {nowEpochSeconds : ℕ}
    {result : NodeCredential × EnrollmentGrant}
    (hok : grant.exchangeForNodeIdentity node publicKey requestedScope nowEpochSeconds =
      .ok result) :
    result.1.tenant = grant.tenant ∧ result.1.project = grant.project := by
  unfold EnrollmentGrant.exchangeForNodeIdentity at hok
  split at hok
  · cases hok
  split at hok
  · cases hok
  split at hok
  · cases hok
  cases hok
  exact ⟨rfl, rfl⟩

namespace Coordinator

/-- A refused operation leaves the coordinator as it is. -/
def performCredential (coordinator : Coordinator) : CredentialOperation → Coordinator
  | .issueSession tenant project user secret expiresAtEpochSeconds =>
    (coordinator.issueCliSession tenant project user secret expiresAtEpochSeconds).2
  | .registerAgent tenant project user name publicKey =>
    (coordinator.registerAgentPublicKey tenant project user name publicKey).2
  | .revokeAgent context name =>
    match coordinator.revokeAgentPublicKey context name with
    | .ok (_, coordinator) => coordinator
    | .error _ => coordinator
  | .attachNode scope publicKey => coordinator.enrollNode scope publicKey "node:attach"
  | .exchangeGrant grant node publicKey requestedScope nowEpochSeconds =>
    match coordinator.exchangeNodeEnrollmentGrant grant node publicKey requestedScope
        nowEpochSeconds with
    | .ok (_, coordinator) => coordinator
    | .error _ => coordinator
  | .revokeNode context node =>
    match coordinator.revokeNodeCredential context node with
    | .ok coordinator => coordinator
    | .error _ => coordinator

def performCredentials (coordinator : Coordinator) (operations : List CredentialOperation) :
    Coordinator :=
  operations.foldl performCredential coordinator

/-- Every registered key stands under the agent it is for. -/
def AgentKeysConsistent (coordinator : Coordinator) : Prop :=
  ∀ (key : TenantId × ProjectId × AgentId) record,
    coordinator.durable.agentPublicKeys[key]? = some record → record.agent = key.2.2

variable {coordinator : Coordinator}

omit [Primitives] in
theorem revokeNodeCredential_eq_ok {context : AuthContext} {node : NodeId} {next : Coordinator}
    (hok : coordinator.revokeNodeCredential context node = .ok next) :
    next.durable.agentPublicKeys = coordinator.durable.agentPublicKeys ∧
      next.durable.credentials = coordinator.durable.credentials.erase
        (NodeScopeKey.credentialSubject ⟨context.tenant, context.project, node⟩) := by
  simp only [revokeNodeCredential] at hok
  split_ifs at hok
  split at hok <;> cases hok
  exact ⟨rfl, rfl⟩

variable (hconsistent : coordinator.AgentKeysConsistent)
include hconsistent

theorem performCredential_consistent (operation : CredentialOperation) :
    (coordinator.performCredential operation).AgentKeysConsistent := by
  intro key record hafter
  cases operation with
  | issueSession => exact hconsistent key record hafter
  | registerAgent tenant project user name publicKey =>
    simp only [performCredential, registerAgentPublicKey, insertCredential] at hafter
    rcases getElem?_insert_eq_some_iff.mp hafter with ⟨rfl, rfl⟩ | ⟨-, hkept⟩
    · rfl
    · exact hconsistent key record hkept
  | revokeAgent context name =>
    simp only [performCredential] at hafter
    split at hafter
    · rename_i record' after hok
      obtain ⟨old, hold, hkeys, -⟩ := revokeAgentPublicKey_eq_ok hok
      rw [hkeys] at hafter
      rcases getElem?_insert_eq_some_iff.mp hafter with ⟨rfl, rfl⟩ | ⟨-, hkept⟩
      · exact hconsistent _ old hold
      · exact hconsistent key record hkept
    · exact hconsistent key record hafter
  | attachNode => exact hconsistent key record hafter
  | exchangeGrant grant node publicKey requestedScope nowEpochSeconds =>
    simp only [performCredential, exchangeNodeEnrollmentGrant] at hafter
    split at hafter
    · rename_i hok
      split at hok
      · cases hok
      · cases hok
        exact hconsistent key record hafter
    · exact hconsistent key record hafter
  | revokeNode context node =>
    simp only [performCredential] at hafter
    split at hafter
    · rename_i hok
      rw [(revokeNodeCredential_eq_ok hok).1] at hafter
      exact hconsistent key record hafter
    · exact hconsistent key record hafter

theorem performCredentials_consistent (operations : List CredentialOperation) :
    (coordinator.performCredentials operations).AgentKeysConsistent := by
  induction operations generalizing coordinator with
  | nil => exact hconsistent
  | cons operation operations ih => exact ih (performCredential_consistent hconsistent operation)

/-- One operation touches no record but the one under the subject of its
principal. -/
theorem credentials_performCredential (operation : CredentialOperation) {subject : String}
    (hsubject : operation.principal.subject ≠ subject) :
    (coordinator.performCredential operation).durable.credentials[subject]? =
      coordinator.durable.credentials[subject]? := by
  cases operation with
  | issueSession | registerAgent => exact getElem?_insert_of_ne hsubject
  | revokeAgent context name =>
    simp only [performCredential]
    split
    · rename_i record after hok
      obtain ⟨old, hold, -, hcredentials⟩ := revokeAgentPublicKey_eq_ok hok
      -- the subject is built from the agent in the record, which is the one revoked
      rw [hcredentials, hconsistent _ old hold]
      exact getElem?_erase_of_ne hsubject
    · rfl
  | attachNode => rfl
  | exchangeGrant grant node publicKey requestedScope nowEpochSeconds =>
    simp only [performCredential, exchangeNodeEnrollmentGrant]
    cases hexchange : grant.exchangeForNodeIdentity node publicKey requestedScope
        nowEpochSeconds with
    | error => rfl
    | ok result =>
      obtain ⟨htenant, hproject⟩ := exchange_scope hexchange
      simp only [insertCredential, htenant, hproject]
      exact getElem?_insert_of_ne hsubject
  | revokeNode context node =>
    simp only [performCredential]
    split
    · rename_i hok
      rw [(revokeNodeCredential_eq_ok hok).2]
      exact getElem?_erase_of_ne hsubject
    · rfl

end Coordinator

/-- Distinct principals have distinct subjects exactly when they do not clash,
and in a run in which no two principals clash, an operation leaves the record of
every other principal alone. -/
theorem credential_index_isolated_iff (hsha256 : Function.Injective Primitives.sha256Hex) :
    (∀ left right : CredentialPrincipal, left ≠ right →
      (left.subject ≠ right.subject ↔ ¬ left.Clashes right)) ∧
    ∀ coordinator : Coordinator, coordinator.AgentKeysConsistent →
      ∀ (before : List CredentialOperation) (operation : CredentialOperation),
        ((before ++ [operation]).Pairwise fun earlier later =>
          ¬ earlier.principal.Clashes later.principal ∨ earlier.principal = later.principal) →
        ∀ earlier ∈ before, earlier.principal ≠ operation.principal →
          (coordinator.performCredentials (before ++ [operation])).durable.credentials[
              earlier.principal.subject]? =
            (coordinator.performCredentials before).durable.credentials[
              earlier.principal.subject]? := by
  constructor
  · intro left right hne
    rw [ne_eq, subject_eq_iff hsha256]
    simp [hne]
  · intro coordinator hconsistent before operation hclash earlier hearlier hne
    have hpair := (List.pairwise_append.mp hclash).2.2 earlier hearlier operation
      (List.mem_singleton_self operation)
    have hsubject : operation.principal.subject ≠ earlier.principal.subject := by
      intro heq
      rcases (subject_eq_iff hsha256).mp heq.symm with hsame | hclashes
      · exact hne hsame
      · exact hpair.elim (fun hno => hno hclashes) hne
    rw [Coordinator.performCredentials, List.foldl_append, List.foldl_cons, List.foldl_nil]
    exact Coordinator.credentials_performCredential
      (Coordinator.performCredentials_consistent hconsistent before) operation hsubject

end Subjects

/-- Agent `d` of tenant `a`, project `b:c`, and agent `d` of tenant `a:b`, project
`c`, have one subject.  Registering the second replaces the record of the first,
and revoking the second leaves the first, whose key is still registered, without
a record. -/
theorem agent_record_overwritten_across_tenants :
    letI := Primitives.sample
    let first : CredentialOperation :=
      .registerAgent ⟨"a", by decide⟩ ⟨"b:c", by decide⟩ ⟨"u", by decide⟩ ⟨"d", by decide⟩ "k1"
    let second : CredentialOperation :=
      .registerAgent ⟨"a:b", by decide⟩ ⟨"c", by decide⟩ ⟨"v", by decide⟩ ⟨"d", by decide⟩ "k2"
    let revocation : CredentialOperation :=
      .revokeAgent ⟨⟨"a:b", by decide⟩, ⟨"c", by decide⟩, .user ⟨"v", by decide⟩⟩ ⟨"d", by decide⟩
    let tenantOf (coordinator : Coordinator) :=
      coordinator.durable.credentials[first.principal.subject]?.map (·.tenant.value)
    first.principal ≠ second.principal ∧
      tenantOf (({} : Coordinator).performCredentials [first]) = some "a" ∧
      tenantOf (({} : Coordinator).performCredentials [first, second]) = some "a:b" ∧
      tenantOf (({} : Coordinator).performCredentials [first, second, revocation]) = none := by
  decide +kernel

/-- Agents whose identifiers contain no colon keep their records apart. -/
theorem plain_agents_isolated :
    letI := Primitives.transparent
    let first : CredentialOperation :=
      .registerAgent ⟨"a", by decide⟩ ⟨"b", by decide⟩ ⟨"u", by decide⟩ ⟨"d", by decide⟩ "k1"
    let second : CredentialOperation :=
      .registerAgent ⟨"x", by decide⟩ ⟨"y", by decide⟩ ⟨"v", by decide⟩ ⟨"d", by decide⟩ "k2"
    (({} : Coordinator).performCredentials [first, second]).durable.credentials[
        first.principal.subject]? =
      (({} : Coordinator).performCredentials [first]).durable.credentials[
        first.principal.subject]? := by
  let := Primitives.transparent
  intro first second
  exact (credential_index_isolated_iff Primitives.transparent_injective).2 {}
    (by simp [Coordinator.AgentKeysConsistent]) [first] second
    (by simp only [List.singleton_append, List.pairwise_cons]; decide) first (by simp) (by decide)

end Clusterflux
