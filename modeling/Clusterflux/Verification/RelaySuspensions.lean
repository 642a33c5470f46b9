import Clusterflux.Foundation.Runs
import Clusterflux.Relay.Admission
import Clusterflux.Verification.RelayLedger

/-!
# Suspensions of the relay

While an endpoint or a tenant is suspended, none of its connections should be admitted.
The relay learns the tenant of an endpoint from a connection it has or from a cached
authorization; an endpoint that has neither passes the test of the suspensions.  So
does an attempt that was tested before the suspension.  When neither happens, the
suspension holds until its deadline.
-/

namespace Clusterflux.Relay

open LabelledRuns OrderedMaps SecondaryIndexes

variable {tenantOf : EndpointId → String} {capacity : ℕ} {reservation : ConnectionReservation}
  {connection : ConnectionId}

/-! ## Maps with deadlines -/

section Deadlines

variable {κ ν : Type} [Ord κ] [Std.TransOrd κ] [Std.LawfulEqOrd κ] {date : ν → Instant}
  {now : Instant} {entries : OrderedMap κ ν} {key : κ} {value : ν}

theorem lookup_retainLater : (retainLater date now entries)[key]? = some value ↔
    entries[key]? = some value ∧ now < date value := by
  rw [retainLater, getElem?_filter_eq_some_iff, decide_eq_true_eq]

theorem lookup_of_removeOldest (hlookup : (removeOldest date entries)[key]? = some value) :
    entries[key]? = some value := by
  unfold removeOldest at hlookup
  cases holdest : entries.toList.argmin fun entry => date entry.2 with
  | none => simpa only [holdest] using hlookup
  | some oldest =>
    simp only [holdest] at hlookup
    exact (getElem?_erase_eq_some_iff.mp hlookup).2

theorem lookup_of_makeRoom (hlookup : (makeRoom date capacity entries)[key]? = some value) :
    entries[key]? = some value := by
  unfold makeRoom at hlookup
  generalize entries.size + 1 - capacity = rounds at hlookup
  induction rounds generalizing entries with
  | zero => exact hlookup
  | succ rounds ih =>
    rw [Function.iterate_succ_apply] at hlookup
    exact lookup_of_removeOldest (ih hlookup)

omit [Std.LawfulEqOrd κ] in
/-- Nothing is removed while there is room. -/
theorem makeRoom_of_lt (hroom : entries.size < capacity) :
    makeRoom date capacity entries = entries := by
  rw [makeRoom, Nat.sub_eq_zero_of_le hroom, Function.iterate_zero_apply]

/-- A suspension that is not over stays, unless it is made anew. -/
theorem lookup_suspension {deadlines : OrderedMap κ Instant} {other : κ}
    {deadline limit renewed : Instant} (hdeadline : deadlines[key]? = some deadline)
    (hlimit : limit ≤ deadline) (hrenewed : limit ≤ renewed) (hnow : now < limit)
    (hroom : (retainLater id now deadlines).size < capacity) :
    ∃ later, ((pruneDeadlines capacity now deadlines).insert other renewed)[key]? = some later ∧
      limit ≤ later := by
  have hlater : now < id deadline := hnow.trans_le hlimit
  have hkept := lookup_retainLater.mpr ⟨hdeadline, hlater⟩
  rw [pruneDeadlines, makeRoom_of_lt (hroom.trans_le (le_max_left _ _))]
  by_cases hother : other = key
  · subst hother
    exact ⟨renewed, Std.ExtTreeMap.getElem?_insert_self, hrenewed⟩
  · exact ⟨deadline, getElem?_insert_eq_some_iff.mpr (.inr ⟨hother, hkept⟩), hlimit⟩

end Deadlines

/-! ## What the relay knows of tenants -/

/-- The callback attributes the endpoint to its tenant, if it grants anything. -/
def Attributes (tenantOf : EndpointId → String) (access : ClusterfluxRelayAccess)
    (endpoint : EndpointId) (body : CallbackBody) (now : Instant) : Prop :=
  ∀ grant ∈ parseCallbackAuthorization access.configuration.positiveCacheMillis now body,
    grant.tenant = tenantOf endpoint

instance {access : ClusterfluxRelayAccess} {endpoint : EndpointId} {body : CallbackBody}
    {now : Instant} :
    Decidable (Attributes tenantOf access endpoint body now) :=
  inferInstanceAs (Decidable (∀ grant ∈ _, _))

namespace ClusterfluxRelayAccess

/-- Only the attributed tenants are recorded. -/
structure Attributed (tenantOf : EndpointId → String) (access : ClusterfluxRelayAccess) :
    Prop where
  ledger : access.connections.Sound access.configuration
  reservations : ∀ (connection : ConnectionId) (reservation : ConnectionReservation),
    access.connections.byConnection[connection]? = some reservation →
      reservation.tenant = tenantOf reservation.endpoint
  cache : ∀ (endpoint : EndpointId) (grant : AuthorizationGrant),
    access.positiveCache[endpoint]? = some grant → grant.tenant = tenantOf endpoint

variable {access after : ClusterfluxRelayAccess}
  {endpoint : EndpointId} {tenant : String} {now : Instant} {body : CallbackBody}
  {grant : AuthorizationGrant}

theorem Attributed.of_tenantForEndpoint [HashOrder] (hattributed : access.Attributed tenantOf)
    (htenant : access.connections.tenantForEndpoint endpoint = some tenant) :
    tenant = tenantOf endpoint := by
  unfold ConnectionLedger.tenantForEndpoint at htenant
  simp only [Option.bind_eq_bind, Option.bind_eq_some_iff, Option.pure_def,
    Option.some.injEq] at htenant
  obtain ⟨connections, hconnections, connection, hfirst, reservation, hreservation, rfl⟩ := htenant
  have hfiled : connection ∈ filed access.connections.byEndpoint endpoint := by
    rw [filed, hconnections]
    exact HashOrder.first_mem _ _ hfirst
  obtain ⟨found, hfound, rfl⟩ := (hattributed.ledger.endpoints.exact _ _).mp hfiled
  rw [hreservation] at hfound
  cases hfound
  exact hattributed.reservations _ _ hreservation

/-- An endpoint with a connection has a tenant. -/
theorem Attributed.tenantForEndpoint_isSome [HashOrder] (hattributed : access.Attributed tenantOf)
    (hcontains : access.connections.byEndpoint.contains endpoint = true) :
    (access.connections.tenantForEndpoint endpoint).isSome := by
  rw [Std.ExtTreeMap.contains_eq_isSome_getElem?] at hcontains
  obtain ⟨connections, hconnections⟩ := Option.isSome_iff_exists.mp hcontains
  have hnonempty := hattributed.ledger.endpoints.nonempty _ _ hconnections
  obtain ⟨connection, hfirst⟩ :=
    Option.isSome_iff_exists.mp (HashOrder.first_of_nonempty _ hnonempty)
  have hfiled : connection ∈ filed access.connections.byEndpoint endpoint := by
    rw [filed, hconnections]
    exact HashOrder.first_mem _ _ hfirst
  obtain ⟨reservation, hreservation, -⟩ := (hattributed.ledger.endpoints.exact _ _).mp hfiled
  simp [ConnectionLedger.tenantForEndpoint, hconnections, hfirst, hreservation]

/-- The relay is never wrong about a tenant. -/
theorem Attributed.of_knownTenant [HashOrder] (hattributed : access.Attributed tenantOf)
    (htenant : access.knownTenant endpoint = some tenant) : tenant = tenantOf endpoint := by
  unfold knownTenant at htenant
  cases hconnected : access.connections.tenantForEndpoint endpoint with
  | some connected =>
    rw [hconnected] at htenant
    cases htenant
    exact hattributed.of_tenantForEndpoint hconnected
  | none =>
    simp only [hconnected, Option.orElse_eq_orElse, Option.orElse_eq_or, Option.none_or,
      Option.map_eq_some_iff] at htenant
    obtain ⟨grant, hgrant, rfl⟩ := htenant
    exact hattributed.cache _ _ hgrant

/-- The relay has a connection or a cached authorization of the endpoint. -/
def Knows (access : ClusterfluxRelayAccess) (endpoint : EndpointId) : Prop :=
  access.connections.byEndpoint.contains endpoint = true ∨
    access.positiveCache.contains endpoint = true

instance : Decidable (access.Knows endpoint) :=
  inferInstanceAs (Decidable (_ ∨ _))

theorem Attributed.knownTenant_of_knows [HashOrder] (hattributed : access.Attributed tenantOf)
    (hknows : access.Knows endpoint) : access.knownTenant endpoint = some (tenantOf endpoint) := by
  have hsome : (access.knownTenant endpoint).isSome := by
    rcases hknows with hconnected | hcached
    · have hfound := hattributed.tenantForEndpoint_isSome hconnected
      simp [knownTenant, hfound]
    · rw [Std.ExtTreeMap.contains_eq_isSome_getElem?] at hcached
      simp [knownTenant, hcached]
  obtain ⟨tenant, htenant⟩ := Option.isSome_iff_exists.mp hsome
  rw [htenant, hattributed.of_knownTenant htenant]

/-! ### Operations -/

theorem lookup_of_cachedAuthorization
    (hgrant : (access.cachedAuthorization endpoint now).1 = some grant) :
    access.positiveCache[endpoint]? = some grant :=
  (lookup_retainLater.mp (Option.filter_eq_some_iff.mp hgrant).1).1

theorem parsed_of_callbackAuthorization
    (hgrant : (access.callbackAuthorization endpoint body now).1 = some grant) :
    parseCallbackAuthorization access.configuration.positiveCacheMillis now body = some grant := by
  unfold callbackAuthorization at hgrant
  cases hparsed : parseCallbackAuthorization access.configuration.positiveCacheMillis now body with
  | none => simp [hparsed] at hgrant
  | some parsed =>
    simp only [hparsed] at hgrant
    split at hgrant
    · cases hgrant
    · exact hgrant

theorem Attributed.of_cache (hattributed : access.Attributed tenantOf)
    (hconfiguration : after.configuration = access.configuration)
    (hconnections : after.connections = access.connections)
    (hcache : ∀ (endpoint : EndpointId) (grant : AuthorizationGrant),
      after.positiveCache[endpoint]? = some grant →
        access.positiveCache[endpoint]? = some grant ∨ grant.tenant = tenantOf endpoint) :
    after.Attributed tenantOf where
  ledger := by
    rw [hconfiguration, hconnections]
    exact hattributed.ledger
  reservations := by
    rw [hconnections]
    exact hattributed.reservations
  cache endpoint grant hgrant :=
    (hcache endpoint grant hgrant).elim (hattributed.cache endpoint grant) id

/-- A test changes only the suspensions. -/
theorem suspendedAs_eq (access : ClusterfluxRelayAccess) (endpoint : EndpointId)
    (tenant : Option String) (now : Instant) :
    ∃ suspensions tenantSuspensions, (access.suspendedAs endpoint tenant now).2 =
      { access with suspensions, tenantSuspensions } := by
  unfold suspendedAs
  dsimp only
  split
  · exact ⟨_, access.tenantSuspensions, rfl⟩
  · exact ⟨_, _, rfl⟩

theorem Attributed.suspendedAs (hattributed : access.Attributed tenantOf) (endpoint : EndpointId)
    (tenant : Option String) (now : Instant) :
    (access.suspendedAs endpoint tenant now).2.Attributed tenantOf := by
  obtain ⟨suspensions, tenantSuspensions, htested⟩ := access.suspendedAs_eq endpoint tenant now
  rw [htested]
  exact ⟨hattributed.ledger, hattributed.reservations, hattributed.cache⟩

/-- An answer changes only the cache. -/
theorem callbackAuthorization_eq (access : ClusterfluxRelayAccess) (endpoint : EndpointId)
    (body : CallbackBody) (now : Instant) :
    ∃ positiveCache, (access.callbackAuthorization endpoint body now).2 =
      { access with positiveCache } := by
  unfold ClusterfluxRelayAccess.callbackAuthorization
  split
  · exact ⟨access.positiveCache, rfl⟩
  · split
    · exact ⟨access.positiveCache, rfl⟩
    · exact ⟨_, rfl⟩

section

variable (hattributed : access.Attributed tenantOf)
include hattributed

theorem Attributed.cachedAuthorization (endpoint : EndpointId) (now : Instant) :
    (access.cachedAuthorization endpoint now).2.Attributed tenantOf := by
  apply hattributed.of_cache
  · rfl
  · rfl
  · intro other grant hgrant
    exact .inl (lookup_retainLater.mp hgrant).1

theorem Attributed.callbackAuthorization (hbody : Attributes tenantOf access endpoint body now) :
    (access.callbackAuthorization endpoint body now).2.Attributed tenantOf := by
  unfold ClusterfluxRelayAccess.callbackAuthorization
  cases hparsed : parseCallbackAuthorization access.configuration.positiveCacheMillis now body with
  | none => exact hattributed
  | some parsed =>
    dsimp only
    split
    · exact hattributed
    · apply hattributed.of_cache
      · rfl
      · rfl
      · intro other grant hgrant
        rcases getElem?_insert_eq_some_iff.mp hgrant with ⟨rfl, rfl⟩ | ⟨-, hkept⟩
        · exact .inr (hbody _ hparsed)
        · exact .inl (lookup_retainLater.mp (lookup_of_makeRoom hkept)).1

theorem Attributed.suspend (now : Instant) (scope : AbuseScope) :
    (access.suspend now scope).Attributed tenantOf := by
  cases scope with
  | endpoint endpoint =>
    apply hattributed.of_cache
    · rfl
    · rfl
    · intro other grant hgrant
      exact .inl (getElem?_erase_eq_some_iff.mp hgrant).2
  | tenant tenant endpoints =>
    apply hattributed.of_cache
    · rfl
    · rfl
    · intro other grant hgrant
      exact .inl (getElem?_eraseAll_eq_some_iff.mp hgrant).2

/-- An admission records the connection it is asked for, or nothing. -/
theorem Attributed.lookup_of_reserve {connection other : ConnectionId}
    (hlookup : (access.reserve endpoint connection grant).2.connections.byConnection[other]? =
      some reservation) :
    reservation = ⟨endpoint, grant.tenant⟩ ∨
      access.connections.byConnection[other]? = some reservation := by
  change (access.connections.reserve access.configuration endpoint connection
    grant).2.byConnection[other]? = some reservation at hlookup
  rcases hattributed.ledger.reserve_cases endpoint connection grant with
    hrefused | ⟨-, -, hadmitted⟩
  · rw [hrefused] at hlookup
    exact .inr hlookup
  · rw [hadmitted] at hlookup
    rcases getElem?_insert_eq_some_iff.mp hlookup with ⟨-, rfl⟩ | ⟨-, hkept⟩
    · exact .inl rfl
    · exact .inr hkept

theorem Attributed.reserve
    (connection : ConnectionId) (htenant : grant.tenant = tenantOf endpoint) :
    (access.reserve endpoint connection grant).2.Attributed tenantOf where
  ledger := hattributed.ledger.reserve endpoint connection grant
  reservations other reservation hlookup := by
    rcases hattributed.lookup_of_reserve hlookup with rfl | hkept
    · exact htenant
    · exact hattributed.reservations other reservation hkept
  cache := hattributed.cache

end

theorem lookup_of_onDisconnect {connection other : ConnectionId}
    (hlookup : (access.onDisconnect endpoint connection).connections.byConnection[other]? =
      some reservation) :
    access.connections.byConnection[other]? = some reservation := by
  change (access.connections.release endpoint connection).byConnection[other]? =
    some reservation at hlookup
  rcases access.connections.release_cases endpoint connection with hsame | ⟨_, -, -, hdropped⟩
  · rwa [hsame] at hlookup
  · rw [hdropped] at hlookup
    exact (getElem?_erase_eq_some_iff.mp hlookup).2

theorem Attributed.onDisconnect (hattributed : access.Attributed tenantOf) (endpoint : EndpointId)
    (connection : ConnectionId) :
    (access.onDisconnect endpoint connection).Attributed tenantOf where
  ledger := hattributed.ledger.release endpoint connection
  reservations other reservation hlookup :=
    hattributed.reservations other reservation (lookup_of_onDisconnect hlookup)
  cache := hattributed.cache

end ClusterfluxRelayAccess

/-! ### Attempts and states -/

/-- What an attempt has learnt about its tenant is right. -/
def Attempt.Attributed (tenantOf : EndpointId → String) (attempt : Attempt) : Prop :=
  match attempt.stage with
  | .identified tenant => ∀ known ∈ tenant, known = tenantOf attempt.endpoint
  | .granted grant => grant.tenant = tenantOf attempt.endpoint
  | _ => True

namespace Attempt

/-- Everything a step of an attempt can do. -/
inductive Step (access : ClusterfluxRelayAccess) (now : Instant) (body : CallbackBody)
    (attempt : Attempt) : Option Attempt → ClusterfluxRelayAccess → Prop
  | refused (tenant : Option String) (hstage : attempt.stage = .identified tenant) :
      Step access now body attempt none (access.suspendedAs attempt.endpoint tenant now).2
  | cleared (tenant : Option String) (hstage : attempt.stage = .identified tenant)
      (hclear : (access.suspendedAs attempt.endpoint tenant now).1 = false) :
      Step access now body attempt (some { attempt with stage := .cleared })
        (access.suspendedAs attempt.endpoint tenant now).2
  | recalled (grant : AuthorizationGrant) (hstage : attempt.stage = .cleared)
      (hgrant : (access.cachedAuthorization attempt.endpoint now).1 = some grant) :
      Step access now body attempt (some { attempt with stage := .granted grant })
        (access.cachedAuthorization attempt.endpoint now).2
  | asked (hstage : attempt.stage = .cleared) :
      Step access now body attempt (some { attempt with stage := .asked })
        (access.cachedAuthorization attempt.endpoint now).2
  | answered (grant : AuthorizationGrant) (hstage : attempt.stage = .asked)
      (hgrant : (access.callbackAuthorization attempt.endpoint body now).1 = some grant) :
      Step access now body attempt (some { attempt with stage := .granted grant })
        (access.callbackAuthorization attempt.endpoint body now).2
  | denied (hstage : attempt.stage = .asked) :
      Step access now body attempt none (access.callbackAuthorization attempt.endpoint body now).2
  | decided (grant : AuthorizationGrant) (hstage : attempt.stage = .granted grant) :
      Step access now body attempt none (access.reserve attempt.endpoint attempt.connection grant).2

variable {access after : ClusterfluxRelayAccess}
  {attempt : Attempt} {now : Instant} {body : CallbackBody} {later : Option Attempt}

theorem step_advance (access : ClusterfluxRelayAccess) (now : Instant) (body : CallbackBody)
    (attempt : Attempt) : Step access now body attempt (attempt.advance access now body).1
      (attempt.advance access now body).2 := by
  unfold advance
  cases hstage : attempt.stage with
  | identified tenant =>
    dsimp only
    split
    case isTrue => exact .refused tenant hstage
    case isFalse hclear => exact .cleared tenant hstage (Bool.eq_false_iff.mpr hclear)
  | cleared =>
    dsimp only
    cases hcached : (access.cachedAuthorization attempt.endpoint now).1 with
    | none => exact .asked hstage
    | some grant => exact .recalled grant hstage hcached
  | asked =>
    dsimp only
    cases hanswered : (access.callbackAuthorization attempt.endpoint body now).1 with
    | none => exact .denied hstage
    | some grant => exact .answered grant hstage hanswered
  | granted grant => exact .decided grant hstage

theorem Attributed.step (hattempt : attempt.Attributed tenantOf)
    (haccess : access.Attributed tenantOf)
    (hbody : Attributes tenantOf access attempt.endpoint body now)
    (hstep : Step access now body attempt later after) :
    after.Attributed tenantOf ∧ ∀ next ∈ later, next.Attributed tenantOf := by
  cases hstep with
  | refused tenant hstage =>
    exact ⟨haccess.suspendedAs _ _ _, by rintro _ ⟨⟩⟩
  | cleared tenant hstage hclear =>
    exact ⟨haccess.suspendedAs _ _ _, by rintro _ ⟨⟩; trivial⟩
  | recalled grant hstage hgrant =>
    have hlookup := ClusterfluxRelayAccess.lookup_of_cachedAuthorization hgrant
    exact ⟨haccess.cachedAuthorization _ _, by rintro _ ⟨⟩; exact haccess.cache _ _ hlookup⟩
  | asked hstage => exact ⟨haccess.cachedAuthorization _ _, by rintro _ ⟨⟩; trivial⟩
  | answered grant hstage hgrant =>
    have hparsed := ClusterfluxRelayAccess.parsed_of_callbackAuthorization hgrant
    exact ⟨haccess.callbackAuthorization hbody, by rintro _ ⟨⟩; exact hbody _ hparsed⟩
  | denied hstage => exact ⟨haccess.callbackAuthorization hbody, by rintro _ ⟨⟩⟩
  | decided grant hstage =>
    simp only [Attempt.Attributed, hstage] at hattempt
    exact ⟨haccess.reserve _ hattempt, by rintro _ ⟨⟩⟩

end Attempt

namespace RelayState

structure Attributed (tenantOf : EndpointId → String) (state : RelayState) : Prop where
  access : state.access.Attributed tenantOf
  attempts : ∀ (number : ℕ) (attempt : Attempt), state.attempts[number]? = some attempt →
    attempt.Attributed tenantOf

/-- The callback attributes every endpoint to one tenant. -/
def Attributable (tenantOf : EndpointId → String) (state : RelayState) (now : Instant) :
    RelayEvent → Prop
  | .advance number body => ∀ attempt ∈ state.attempts[number]?,
      Attributes tenantOf state.access attempt.endpoint body now
  | .renew endpoint body => Attributes tenantOf state.access endpoint body now
  | _ => True

/-- There is room for one more suspension. -/
def HasRoom (state : RelayState) (now : Instant) : RelayEvent → Prop
  | .suspend (.endpoint _) =>
    (retainLater id now state.access.suspensions).size < state.access.maximumStateEntries
  | .suspend (.tenant ..) =>
    (retainLater id now state.access.tenantSuspensions).size < state.access.maximumStateEntries
  | _ => True

/-- What is taken for granted of an event. -/
structure Proper (tenantOf : EndpointId → String) (label : Instant × RelayEvent)
    (state : RelayState) : Prop where
  clock : state.clock ≤ label.1
  attributable : state.Attributable tenantOf label.1 label.2
  room : state.HasRoom label.1 label.2

variable [HashOrder] {state : RelayState}
  {now : Instant} {event : RelayEvent}

/-- The relay takes a step. -/
def Occurs (label : Instant × RelayEvent) (before after : RelayState) : Prop :=
  before.apply label.1 label.2 = after

@[simp]
theorem clock_apply (state : RelayState) (now : Instant) (event : RelayEvent) :
    (state.apply now event).clock = now := by
  cases event with
  | connect number endpoint connection =>
    rw [apply]
    split <;> rfl
  | advance number body =>
    rw [apply]
    split <;> rfl
  | _ => rfl

theorem Attributed.apply (hattributed : state.Attributed tenantOf)
    (hproper : state.Proper tenantOf (now, event)) :
    (state.apply now event).Attributed tenantOf := by
  cases event with
  | connect number endpoint connection =>
    rw [RelayState.apply]
    split
    · exact ⟨hattributed.access, hattributed.attempts⟩
    · refine ⟨hattributed.access, fun other attempt hlookup => ?_⟩
      rcases getElem?_insert_eq_some_iff.mp hlookup with ⟨-, rfl⟩ | ⟨-, hkept⟩
      · intro tenant htenant
        exact hattributed.access.of_knownTenant htenant
      · exact hattributed.attempts other attempt hkept
  | advance number body =>
    have hbody := hproper.attributable
    rw [RelayState.apply]
    cases hattempt : state.attempts[number]? with
    | none => exact ⟨hattributed.access, hattributed.attempts⟩
    | some attempt =>
      obtain ⟨haccess, hnext⟩ := (hattributed.attempts number attempt hattempt).step
        hattributed.access (hbody attempt hattempt)
        (attempt.step_advance state.access now body)
      refine ⟨haccess, fun other kept hlookup => ?_⟩
      dsimp only at hlookup
      cases hlater : (attempt.advance state.access now body).1 with
      | none =>
        rw [hlater] at hlookup
        exact hattributed.attempts other kept (getElem?_erase_eq_some_iff.mp hlookup).2
      | some later =>
        rw [hlater] at hlookup
        rcases getElem?_insert_eq_some_iff.mp hlookup with ⟨-, rfl⟩ | ⟨-, hkept⟩
        · exact hnext later hlater
        · exact hattributed.attempts other kept hkept
  | disconnect endpoint connection =>
    exact ⟨hattributed.access.onDisconnect endpoint connection, hattributed.attempts⟩
  | suspend scope => exact ⟨hattributed.access.suspend now scope, hattributed.attempts⟩
  | retest endpoint => exact ⟨hattributed.access.suspendedAs _ _ now, hattributed.attempts⟩
  | renew endpoint body =>
    exact ⟨hattributed.access.callbackAuthorization hproper.attributable, hattributed.attempts⟩

end RelayState

/-! ## Suspended scopes -/

namespace AbuseScope

/-- The endpoint, or the endpoints of the tenant. -/
def Covers (tenantOf : EndpointId → String) (scope : AbuseScope) (endpoint : EndpointId) : Prop :=
  match scope with
  | .endpoint suspended => endpoint = suspended
  | .tenant owner _ => tenantOf endpoint = owner

instance {scope : AbuseScope} {endpoint : EndpointId} :
    Decidable (scope.Covers tenantOf endpoint) :=
  match scope with
  | .endpoint suspended => inferInstanceAs (Decidable (endpoint = suspended))
  | .tenant owner _ => inferInstanceAs (Decidable (tenantOf endpoint = owner))

/-- What an attempt has to know for the test to find the suspension. -/
def RecognizedBy (tenant : Option String) : AbuseScope → Prop
  | .endpoint _ => True
  | .tenant suspended _ => tenant = some suspended

end AbuseScope

namespace ClusterfluxRelayAccess

variable {access : ClusterfluxRelayAccess}
  {endpoint : EndpointId} {tenant : Option String} {scope other : AbuseScope}
  {now limit : Instant}

/-- The deadline of a suspension. -/
def deadline (access : ClusterfluxRelayAccess) : AbuseScope → Option Instant
  | .endpoint endpoint => access.suspensions[endpoint]?
  | .tenant tenant _ => access.tenantSuspensions[tenant]?

/-- The scope is suspended at least so long. -/
def Bars (access : ClusterfluxRelayAccess) (scope : AbuseScope) (limit : Instant) : Prop :=
  ∃ deadline, access.deadline scope = some deadline ∧ limit ≤ deadline

/-- A test of the suspensions drops only those that are over. -/
theorem Bars.suspendedAs (hbars : access.Bars scope limit) (hnow : now < limit)
    (endpoint : EndpointId) (tenant : Option String) :
    (access.suspendedAs endpoint tenant now).2.Bars scope limit := by
  obtain ⟨deadline, hdeadline, hlimit⟩ := hbars
  refine ⟨deadline, ?_, hlimit⟩
  have hlater : now < id deadline := hnow.trans_le hlimit
  unfold ClusterfluxRelayAccess.suspendedAs
  cases scope with
  | endpoint suspended =>
    have hkept := lookup_retainLater.mpr ⟨hdeadline, hlater⟩
    dsimp only
    split <;> exact hkept
  | tenant suspended endpoints =>
    have hkept := lookup_retainLater.mpr ⟨hdeadline, hlater⟩
    dsimp only
    split
    · exact hdeadline
    · exact hkept

/-- The test finds the suspension of a scope that is recognized. -/
theorem Bars.suspended (hbars : access.Bars scope limit) (hnow : now < limit)
    (hcovers : scope.Covers tenantOf endpoint) (hrecognized : scope.RecognizedBy tenant) :
    (access.suspendedAs endpoint tenant now).1 = true := by
  obtain ⟨deadline, hdeadline, hlimit⟩ := hbars
  have hlater : now < id deadline := hnow.trans_le hlimit
  have hfound : now < deadline := hlater
  unfold ClusterfluxRelayAccess.suspendedAs
  dsimp only
  cases scope with
  | endpoint suspended =>
    have hkept := lookup_retainLater.mpr ⟨hdeadline, hlater⟩
    cases hcovers
    rw [hkept, if_pos (by simpa using hfound)]
  | tenant suspended endpoints =>
    have hkept := lookup_retainLater.mpr ⟨hdeadline, hlater⟩
    cases hrecognized
    split
    · rfl
    · simp [hkept, hfound]

/-- A later suspension does not shorten an earlier one. -/
theorem Bars.suspend (hbars : access.Bars scope limit) (hnow : now < limit)
    (hlimit : limit ≤ now + access.suspensionDuration)
    (hroom : match other with
      | .endpoint _ => (retainLater id now access.suspensions).size < access.maximumStateEntries
      | .tenant .. =>
        (retainLater id now access.tenantSuspensions).size < access.maximumStateEntries) :
    (access.suspend now other).Bars scope limit := by
  obtain ⟨deadline, hdeadline, hlater⟩ := hbars
  cases scope with
  | endpoint suspended =>
    cases other with
    | endpoint endpoint => exact lookup_suspension hdeadline hlater hlimit hnow hroom
    | tenant tenant endpoints => exact ⟨deadline, hdeadline, hlater⟩
  | tenant suspended covered =>
    cases other with
    | endpoint endpoint => exact ⟨deadline, hdeadline, hlater⟩
    | tenant tenant endpoints => exact lookup_suspension hdeadline hlater hlimit hnow hroom

theorem Bars.of_suspend (access : ClusterfluxRelayAccess) (now : Instant) (scope : AbuseScope) :
    (access.suspend now scope).Bars scope (now + access.suspensionDuration) := by
  cases scope with
  | endpoint endpoint => exact ⟨_, Std.ExtTreeMap.getElem?_insert_self, le_rfl⟩
  | tenant tenant endpoints => exact ⟨_, Std.ExtTreeMap.getElem?_insert_self, le_rfl⟩

end ClusterfluxRelayAccess

namespace Attempt.Step

variable {access after : ClusterfluxRelayAccess}
  {attempt : Attempt} {now limit : Instant} {body : CallbackBody} {later : Option Attempt}
  {scope : AbuseScope}

variable (hstep : Step access now body attempt later after)
include hstep

theorem configuration : after.configuration = access.configuration := by
  cases hstep with
  | refused tenant | cleared tenant =>
    obtain ⟨_, _, htested⟩ := access.suspendedAs_eq attempt.endpoint tenant now
    rw [htested]
  | answered | denied =>
    obtain ⟨_, hrenewed⟩ := access.callbackAuthorization_eq attempt.endpoint body now
    rw [hrenewed]
  | _ => rfl

theorem endpoint : ∀ next ∈ later, next.endpoint = attempt.endpoint := by
  cases hstep <;> rintro _ ⟨⟩ <;> rfl

theorem bars (hbars : access.Bars scope limit) (hnow : now < limit) : after.Bars scope limit := by
  cases hstep with
  | refused tenant | cleared tenant => exact hbars.suspendedAs hnow attempt.endpoint tenant
  | answered | denied =>
    obtain ⟨_, hrenewed⟩ := access.callbackAuthorization_eq attempt.endpoint body now
    rw [hrenewed]
    cases scope <;> exact hbars
  | _ => cases scope <;> exact hbars

/-- Only connections of the attempt's endpoint are recorded. -/
theorem lookup (haccess : access.Attributed tenantOf)
    (hlookup : after.connections.byConnection[connection]? = some reservation) :
    reservation.endpoint = attempt.endpoint ∨
      access.connections.byConnection[connection]? = some reservation := by
  cases hstep with
  | refused tenant | cleared tenant =>
    obtain ⟨_, _, htested⟩ := access.suspendedAs_eq attempt.endpoint tenant now
    rw [htested] at hlookup
    exact .inr hlookup
  | recalled | asked => exact .inr hlookup
  | answered | denied =>
    obtain ⟨_, hrenewed⟩ := access.callbackAuthorization_eq attempt.endpoint body now
    rw [hrenewed] at hlookup
    exact .inr hlookup
  | decided grant =>
    rcases haccess.lookup_of_reserve hlookup with rfl | hkept
    · exact .inl rfl
    · exact .inr hkept

/-- A recognized attempt of a suspended scope is refused. -/
theorem of_suspended (hbars : access.Bars scope limit) (hnow : now < limit)
    (hcovers : scope.Covers tenantOf attempt.endpoint) {tenant : Option String}
    (hstage : attempt.stage = .identified tenant) (hrecognized : scope.RecognizedBy tenant) :
    later = none ∧ after.connections = access.connections := by
  cases hstep with
  | refused =>
    obtain ⟨_, _, htested⟩ := access.suspendedAs_eq attempt.endpoint _ now
    rw [htested]
    exact ⟨rfl, rfl⟩
  | cleared other hidentified hclear =>
    rw [hstage] at hidentified
    cases hidentified
    rw [hbars.suspended hnow hcovers hrecognized] at hclear
    cases hclear
  | recalled _ hother | asked hother | answered _ hother | denied hother | decided _ hother =>
    rw [hstage] at hother
    cases hother

end Attempt.Step

namespace RelayState

/-- The scope is suspended, and its attempts will be found out. -/
structure Barred (tenantOf : EndpointId → String) (scope : AbuseScope) (limit : Instant)
    (state : RelayState) : Prop where
  bars : state.access.Bars scope limit
  recent : limit ≤ state.clock + state.access.suspensionDuration
  attempts : ∀ (number : ℕ) (attempt : Attempt), state.attempts[number]? = some attempt →
    scope.Covers tenantOf attempt.endpoint →
      ∃ tenant, attempt.stage = .identified tenant ∧ scope.RecognizedBy tenant

/-- A scope is suspended when none of its attempts is under way, and an endpoint of a
suspended tenant tries to connect only when the relay knows its tenant. -/
def Foreseen (tenantOf : EndpointId → String) (label : Instant × RelayEvent) (state : RelayState) :
    Prop :=
  match label.2 with
  | .suspend scope => ∀ attempt ∈ state.attempts.values, ¬ scope.Covers tenantOf attempt.endpoint
  | .connect _ endpoint _ =>
    ∀ deadline ∈ state.access.tenantSuspensions[tenantOf endpoint]?,
      label.1 < deadline → state.access.Knows endpoint
  | _ => True

variable [HashOrder] {state : RelayState}
  {scope : AbuseScope} {now limit : Instant} {event : RelayEvent}

theorem configuration_apply (state : RelayState) (now : Instant) (event : RelayEvent) :
    (state.apply now event).access.configuration = state.access.configuration := by
  cases event with
  | connect number endpoint connection =>
    rw [apply]
    split <;> rfl
  | advance number body =>
    rw [apply]
    split
    · rfl
    · exact (Attempt.step_advance _ _ _ _).configuration
  | disconnect endpoint connection => rfl
  | suspend scope => cases scope <;> rfl
  | retest endpoint =>
    obtain ⟨_, _, htested⟩ := state.access.suspendedAs_eq endpoint
      (state.access.knownTenant endpoint) now
    rw [apply, ClusterfluxRelayAccess.suspended, htested]
  | renew endpoint body =>
    obtain ⟨_, hrenewed⟩ := state.access.callbackAuthorization_eq endpoint body now
    rw [apply, hrenewed]

theorem suspensionDuration_apply (state : RelayState) (now : Instant) (event : RelayEvent) :
    (state.apply now event).access.suspensionDuration = state.access.suspensionDuration := by
  rw [ClusterfluxRelayAccess.suspensionDuration, configuration_apply,
    ClusterfluxRelayAccess.suspensionDuration]

section

variable (hbarred : state.Barred tenantOf scope limit)
include hbarred

theorem Barred.bars_apply (hproper : state.Proper tenantOf (now, event)) (hnow : now < limit) :
    (state.apply now event).access.Bars scope limit := by
  have hbars := hbarred.bars
  cases event with
  | connect number endpoint connection =>
    rw [RelayState.apply]
    split <;> exact hbars
  | advance number body =>
    rw [RelayState.apply]
    split
    · exact hbars
    · exact (Attempt.step_advance _ _ _ _).bars hbars hnow
  | disconnect endpoint connection => cases scope <;> exact hbars
  | suspend other =>
    have hlimit : limit ≤ now + state.access.suspensionDuration :=
      hbarred.recent.trans (Nat.add_le_add_right hproper.clock _)
    cases other <;> exact hbars.suspend hnow hlimit hproper.room
  | retest endpoint => exact hbars.suspendedAs hnow _ _
  | renew endpoint body =>
    obtain ⟨_, hrenewed⟩ := state.access.callbackAuthorization_eq endpoint body now
    rw [RelayState.apply, hrenewed]
    cases scope <;> exact hbars

variable (hattributed : state.Attributed tenantOf)
include hattributed

/-- An attempt that begins during the suspension will be found out. -/
theorem Barred.recognized {number : ℕ} {endpoint : EndpointId}
    (hforeseen : state.Foreseen tenantOf (now, .connect number endpoint connection))
    (hnow : now < limit) (hcovers : scope.Covers tenantOf endpoint) :
    scope.RecognizedBy (state.access.knownTenant endpoint) := by
  cases scope with
  | endpoint suspended => trivial
  | tenant suspended endpoints =>
    obtain ⟨deadline, hdeadline, hlimit⟩ := hbarred.bars
    cases hcovers
    exact hattributed.access.knownTenant_of_knows
      (hforeseen deadline hdeadline (hnow.trans_le hlimit))

/-- No proper event lifts a suspension before its limit. -/
theorem Barred.apply (hproper : state.Proper tenantOf (now, event))
    (hforeseen : state.Foreseen tenantOf (now, event)) (hnow : now < limit) :
    (state.apply now event).Barred tenantOf scope limit where
  bars := hbarred.bars_apply hproper hnow
  recent := by
    rw [clock_apply, suspensionDuration_apply]
    exact hbarred.recent.trans (Nat.add_le_add_right hproper.clock _)
  attempts := by
    have hattempts := hbarred.attempts
    cases event with
    | connect number endpoint connection =>
      rw [RelayState.apply]
      split
      · exact hattempts
      · intro other attempt hlookup hcovers
        rcases getElem?_insert_eq_some_iff.mp hlookup with ⟨-, rfl⟩ | ⟨-, hkept⟩
        · exact ⟨_, rfl, hbarred.recognized hattributed hforeseen hnow hcovers⟩
        · exact hattempts other attempt hkept hcovers
    | advance number body =>
      rw [RelayState.apply]
      cases hattempt : state.attempts[number]? with
      | none => exact hattempts
      | some attempt =>
        have hstep := attempt.step_advance state.access now body
        intro other kept hlookup hcovers
        dsimp only at hlookup
        cases hlater : (attempt.advance state.access now body).1 with
        | none =>
          rw [hlater] at hlookup
          exact hattempts other kept (getElem?_erase_eq_some_iff.mp hlookup).2 hcovers
        | some later =>
          rw [hlater] at hlookup hstep
          rcases getElem?_insert_eq_some_iff.mp hlookup with ⟨-, rfl⟩ | ⟨-, hkept⟩
          · -- An attempt that goes on is not one of the scope.
            rw [hstep.endpoint later rfl] at hcovers
            obtain ⟨tenant, hstage, hrecognized⟩ :=
              hattempts number attempt hattempt hcovers
            have hrefused := (hstep.of_suspended hbarred.bars hnow hcovers hstage hrecognized).1
            cases hrefused
          · exact hattempts other kept hkept hcovers
    | _ => exact hattempts

/-- No connection of a suspended scope is recorded. -/
theorem Barred.lookup_of_apply (hnow : now < limit)
    (hlookup : (state.apply now event).access.connections.byConnection[connection]? =
      some reservation)
    (hcovers : scope.Covers tenantOf reservation.endpoint) :
    state.access.connections.byConnection[connection]? = some reservation := by
  cases event with
  | connect number endpoint other =>
    rw [RelayState.apply] at hlookup
    split at hlookup <;> exact hlookup
  | advance number body =>
    rw [RelayState.apply] at hlookup
    cases hattempt : state.attempts[number]? with
    | none => simpa only [hattempt] using hlookup
    | some attempt =>
      simp only [hattempt] at hlookup
      have hstep := attempt.step_advance state.access now body
      rcases hstep.lookup hattributed.access hlookup with hendpoint | hkept
      · rw [hendpoint] at hcovers
        obtain ⟨tenant, hstage, hrecognized⟩ :=
          hbarred.attempts number attempt hattempt hcovers
        rw [(hstep.of_suspended hbarred.bars hnow hcovers hstage hrecognized).2] at hlookup
        exact hlookup
      · exact hkept
  | disconnect endpoint other => exact ClusterfluxRelayAccess.lookup_of_onDisconnect hlookup
  | suspend other => cases other <;> exact hlookup
  | retest endpoint =>
    obtain ⟨_, _, htested⟩ := state.access.suspendedAs_eq endpoint
      (state.access.knownTenant endpoint) now
    rw [RelayState.apply, ClusterfluxRelayAccess.suspended, htested] at hlookup
    exact hlookup
  | renew endpoint body =>
    obtain ⟨_, hrenewed⟩ := state.access.callbackAuthorization_eq endpoint body now
    rw [RelayState.apply, hrenewed] at hlookup
    exact hlookup

end

/-! ## Runs -/

/-- The relay as it starts. -/
def started (configuration : RelayStartupConfiguration) : RelayState :=
  { access := { configuration } }

omit [HashOrder] in
theorem Attributed.started (configuration : RelayStartupConfiguration) :
    (started configuration).Attributed tenantOf where
  access := ⟨.empty configuration, by simp [RelayState.started], by simp [RelayState.started]⟩
  attempts := by simp [RelayState.started]

/-- What holds from a suspension to its end. -/
structure Guarded (tenantOf : EndpointId → String) (scope : AbuseScope) (limit : Instant)
    (state : RelayState) : Prop where
  attributed : state.Attributed tenantOf
  barred : state.clock < limit → state.Barred tenantOf scope limit

theorem Guarded.apply (hguarded : state.Guarded tenantOf scope limit)
    (hproper : state.Proper tenantOf (now, event))
    (hforeseen : state.Foreseen tenantOf (now, event)) :
    (state.apply now event).Guarded tenantOf scope limit where
  attributed := hguarded.attributed.apply hproper
  barred hclock := by
    rw [clock_apply] at hclock
    exact (hguarded.barred (hproper.clock.trans_lt hclock)).apply hguarded.attributed hproper
      hforeseen hclock

theorem Guarded.suspend (hattributed : state.Attributed tenantOf)
    (hproper : state.Proper tenantOf (now, .suspend scope))
    (hforeseen : state.Foreseen tenantOf (now, .suspend scope)) :
    (state.apply now (.suspend scope)).Guarded tenantOf scope
      (now + state.access.suspensionDuration) where
  attributed := hattributed.apply hproper
  barred _ :=
    { bars := .of_suspend state.access now scope
      recent := by
        rw [clock_apply, suspensionDuration_apply]
      attempts := by
        intro number attempt hlookup hcovers
        have hmember : attempt ∈ state.attempts.values := (mem_values_iff _ _).mpr ⟨number, hlookup⟩
        exact absurd hcovers (hforeseen attempt hmember) }

end RelayState

open RelayState in
/-- From a suspension to its deadline no connection of the suspended endpoint, or of an
endpoint of the suspended tenant, is admitted: provided that no attempt of the scope was
under way at the suspension, and that the relay knows the tenant of an endpoint of a
suspended tenant when it tries to connect. -/
theorem suspended_scope_stays_out [HashOrder] (configuration : RelayStartupConfiguration)
    (tenantOf : EndpointId → String) {earlier later : List (Instant × RelayEvent)}
    {middle before : RelayState} {scope : AbuseScope} {now moment : Instant} {event : RelayEvent}
    (hearlier : Run Occurs (Proper tenantOf) (started configuration) earlier middle)
    (hsuspended : middle.Proper tenantOf (now, .suspend scope))
    (hidle : middle.Foreseen tenantOf (now, .suspend scope))
    (hlater : Run Occurs (fun label state => state.Proper tenantOf label ∧
      state.Foreseen tenantOf label) (middle.apply now (.suspend scope)) later before)
    (hproper : before.Proper tenantOf (moment, event))
    (hmoment : moment < now + middle.access.suspensionDuration)
    {connection : ConnectionId} {reservation : ConnectionReservation}
    (hlookup : (before.apply moment event).access.connections.byConnection[connection]? =
      some reservation)
    (hcovers : scope.Covers tenantOf reservation.endpoint) :
    before.access.connections.byConnection[connection]? = some reservation := by
  have hattributed : middle.Attributed tenantOf := by
    apply hearlier.invariant (Attributed.started configuration)
    rintro ⟨time, next⟩ old _ hold hallowed rfl
    exact hold.apply hallowed
  have hguarded : before.Guarded tenantOf scope (now + middle.access.suspensionDuration) := by
    apply hlater.invariant (Guarded.suspend hattributed hsuspended hidle)
    rintro ⟨time, next⟩ old _ hold ⟨hallowed, hforeseen⟩ rfl
    exact hold.apply hallowed hforeseen
  have hbarred := hguarded.barred (hproper.clock.trans_lt hmoment)
  exact hbarred.lookup_of_apply hguarded.attributed hmoment hlookup hcovers

/-! ## A tenant that comes back -/

section Samples

instance {state : RelayState} {now : Instant} {event : RelayEvent} :
    Decidable (state.Attributable tenantOf now event) :=
  match event with
  | .advance number body => inferInstanceAs (Decidable (∀ attempt ∈ state.attempts[number]?,
      Attributes tenantOf state.access attempt.endpoint body now))
  | .renew endpoint body =>
    inferInstanceAs (Decidable (Attributes tenantOf state.access endpoint body now))
  | .connect .. | .disconnect .. | .suspend _ | .retest _ => inferInstanceAs (Decidable True)

instance {state : RelayState} {now : Instant} {event : RelayEvent} :
    Decidable (state.HasRoom now event) :=
  match event with
  | .suspend (.endpoint _) => inferInstanceAs (Decidable (_ < _))
  | .suspend (.tenant ..) => inferInstanceAs (Decidable (_ < _))
  | .connect .. | .advance .. | .disconnect .. | .retest _ | .renew .. =>
    inferInstanceAs (Decidable True)

instance {label : Instant × RelayEvent} {state : RelayState} :
    Decidable (state.Proper tenantOf label) :=
  decidable_of_iff (state.clock ≤ label.1 ∧ state.Attributable tenantOf label.1 label.2 ∧
      state.HasRoom label.1 label.2)
    ⟨fun h => ⟨h.1, h.2.1, h.2.2⟩, fun h => ⟨h.clock, h.attributable, h.room⟩⟩

instance {label : Instant × RelayEvent} {state : RelayState} :
    Decidable (state.Foreseen tenantOf label) :=
  match label with
  | (_, .suspend scope) => inferInstanceAs (Decidable (∀ attempt ∈ state.attempts.values,
      ¬ scope.Covers tenantOf attempt.endpoint))
  | (now, .connect _ endpoint _) => inferInstanceAs (Decidable
      (∀ deadline ∈ state.access.tenantSuspensions[tenantOf endpoint]?,
        now < deadline → state.access.Knows endpoint))
  | (_, .advance ..) | (_, .disconnect ..) | (_, .retest _) | (_, .renew ..) =>
    inferInstanceAs (Decidable True)

/-- The least connection first. -/
@[reducible]
def leastFirst : HashOrder where
  first connections := (connections.sort (· ≤ ·)).head?
  first_mem connections connection hfirst :=
    (Finset.mem_sort _).mp (List.mem_of_mem_head? hfirst)
  first_of_nonempty connections hnonempty := by
    rw [List.isSome_head?, Ne, ← List.length_eq_zero_iff, Finset.length_sort]
    exact hnonempty.card_pos.ne'

/-- The values the relay starts with when nothing is set. -/
def sampleConfiguration : RelayStartupConfiguration where
  maximumGlobalConnections := ⟨4096, by decide⟩
  maximumConnectionsPerEndpoint := ⟨4, by decide⟩
  maximumConnectionsPerTenant := ⟨128, by decide⟩
  scopedConnections := by decide
  bytesPerSecond := ⟨128 * 1024 * 1024, by decide⟩
  burstBytes := ⟨8 * 1024 * 1024, by decide⟩
  maximumBytesPerSecondPerEndpoint := ⟨4 * 128 * 1024 * 1024, by decide⟩
  maximumBytesPerSecondPerTenant := ⟨128 * 128 * 1024 * 1024, by decide⟩
  maximumBurstBytesPerEndpoint := ⟨4 * 8 * 1024 * 1024, by decide⟩
  maximumBurstBytesPerTenant := ⟨128 * 8 * 1024 * 1024, by decide⟩
  oneConnection := by decide
  positiveCacheMillis := ⟨1000, by decide⟩
  suspensionSeconds := ⟨300, by decide⟩
  emergencyDisabled := false

/-- The callback grants the tenant a second. -/
def sampleAnswer : CallbackBody := .response true (some "tenant") (some 1000)

/-- The four steps of an attempt. -/
def sampleAttempt (now : Instant) (number : ℕ) : List (Instant × RelayEvent) :=
  (now, .connect number "endpoint" number) :: List.replicate 4 (now, .advance number sampleAnswer)

local instance : HashOrder := leastFirst

open RelayState

/-- Where some events lead. -/
def sampleAfter (state : RelayState) (events : List (Instant × RelayEvent)) : RelayState :=
  replay (fun label state => state.apply label.1 label.2) state events

/-- The endpoint has connected. -/
def sampleConnected : RelayState := sampleAfter (started sampleConfiguration) (sampleAttempt 0 0)

/-- Its tenant is suspended. -/
def sampleScope : AbuseScope := .tenant "tenant" ["endpoint"]

/-- The suspended tenant is disconnected, and tries to connect again at once. -/
def sampleReturn : List (Instant × RelayEvent) :=
  (2, .disconnect "endpoint" 0) :: (sampleAttempt 3 1).dropLast

/-- After the suspension nothing is left by which the relay knows the tenant, so the
connection is admitted again. -/
theorem suspended_tenant_comes_back :
    Run Occurs (Proper fun _ => "tenant") (started sampleConfiguration) (sampleAttempt 0 0)
        sampleConnected ∧
      sampleConnected.Proper (fun _ => "tenant") (1, .suspend sampleScope) ∧
      Run Occurs (Proper fun _ => "tenant") (sampleConnected.apply 1 (.suspend sampleScope))
        sampleReturn
        (sampleAfter (sampleConnected.apply 1 (.suspend sampleScope)) sampleReturn) ∧
      (let before := sampleAfter (sampleConnected.apply 1 (.suspend sampleScope)) sampleReturn
      before.Proper (fun _ => "tenant") (3, .advance 1 sampleAnswer) ∧
        3 < 1 + sampleConnected.access.suspensionDuration ∧
        before.access.connections.byConnection[1]? = none ∧
        (before.apply 3 (.advance 1 sampleAnswer)).access.connections.byConnection[1]? =
          some ⟨"endpoint", "tenant"⟩ ∧
        sampleScope.Covers (fun _ => "tenant") "endpoint") := by
  refine ⟨Run.of_follows ?_, ?_, Run.of_follows ?_, ?_⟩ <;> decide +kernel

/-- An endpoint that is still connected is recognized and refused. -/
theorem connected_endpoint_stays_out : (sampleAfter (sampleConnected.apply 1 (.suspend sampleScope))
        [(2, .connect 1 "endpoint" 1), (3, .advance 1 sampleAnswer)]).attempts[1]? = none ∧
      (sampleAfter (sampleConnected.apply 1 (.suspend sampleScope))
        [(2, .connect 1 "endpoint" 1)]).access.connections.byConnection[0]? =
          some ⟨"endpoint", "tenant"⟩ := by
  have hproper : (sampleAfter (sampleConnected.apply 1 (.suspend sampleScope))
      [(2, .connect 1 "endpoint" 1)]).Proper (fun _ => "tenant") (3, .advance 1 sampleAnswer) := by
    decide +kernel
  have hearlier : Run Occurs (Proper fun _ => "tenant") (started sampleConfiguration)
      (sampleAttempt 0 0) sampleConnected := by
    apply Run.of_follows
    decide +kernel
  have hlater : Run Occurs (fun label state => state.Proper (fun _ => "tenant") label ∧
      state.Foreseen (fun _ => "tenant") label) (sampleConnected.apply 1 (.suspend sampleScope))
      [(2, .connect 1 "endpoint" 1)] (sampleAfter (sampleConnected.apply 1 (.suspend sampleScope))
        [(2, .connect 1 "endpoint" 1)]) := by
    apply Run.of_follows
    decide +kernel
  refine ⟨by decide +kernel, ?_⟩
  exact suspended_scope_stays_out sampleConfiguration (fun _ => "tenant") hearlier
    (by decide +kernel) (by decide +kernel) hlater hproper (by decide +kernel) (by decide +kernel)
    (by decide +kernel : sampleScope.Covers _ "endpoint")

end Samples

end Clusterflux.Relay
