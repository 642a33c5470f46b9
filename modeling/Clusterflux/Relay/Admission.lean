import Clusterflux.Relay.Access

/-!
# Admission to the relay

A connection is admitted in several steps, between which the relay serves others: the
tenant of the endpoint is looked up, the suspensions are tested, the cache is asked,
the callback is asked, and a place in the ledger is taken.  Meanwhile the monitor of
the relay renews authorizations and suspends endpoints and tenants.
-/

namespace Clusterflux.Relay

/-- What sustained traffic is blamed on. -/
inductive AbuseScope where
  | endpoint (endpoint : EndpointId)
  | tenant (tenant : String) (endpoints : List EndpointId)

namespace ClusterfluxRelayAccess

variable (access : ClusterfluxRelayAccess)

/-- The suspension of what `monitor_relay_policy` blames. -/
def suspend (now : Instant) : AbuseScope → ClusterfluxRelayAccess
  | .endpoint endpoint => access.suspendEndpoint endpoint now
  | .tenant tenant endpoints => access.suspendTenant tenant endpoints now

end ClusterfluxRelayAccess

/-! ## Attempts -/

/-- How far an attempt to connect has come. -/
inductive Stage where
  | identified (tenant : Option String)
  | cleared
  | asked
  | granted (grant : AuthorizationGrant)

structure Attempt where
  endpoint : EndpointId
  connection : ConnectionId
  stage : Stage

namespace Attempt

/-- The next step of an attempt.  No attempt is left when it is decided. -/
def advance (access : ClusterfluxRelayAccess) (now : Instant) (body : CallbackBody)
    (attempt : Attempt) : Option Attempt × ClusterfluxRelayAccess :=
  match attempt.stage with
  | .identified tenant =>
    let test := access.suspendedAs attempt.endpoint tenant now
    (if test.1 then none else some { attempt with stage := .cleared }, test.2)
  | .cleared =>
    let cached := access.cachedAuthorization attempt.endpoint now
    (some { attempt with stage := cached.1.elim .asked .granted }, cached.2)
  | .asked =>
    let answer := access.callbackAuthorization attempt.endpoint body now
    (answer.1.map fun grant => { attempt with stage := .granted grant }, answer.2)
  | .granted grant => (none, (access.reserve attempt.endpoint attempt.connection grant).2)

end Attempt

/-! ## The relay and its events -/

structure RelayState where
  access : ClusterfluxRelayAccess
  attempts : OrderedMap ℕ Attempt := ∅
  clock : Instant := 0

inductive RelayEvent where
  | connect (attempt : ℕ) (endpoint : EndpointId) (connection : ConnectionId)
  | advance (attempt : ℕ) (body : CallbackBody)
  | disconnect (endpoint : EndpointId) (connection : ConnectionId)
  | suspend (scope : AbuseScope)
  /-- The first half of `reauthorize`. -/
  | retest (endpoint : EndpointId)
  /-- The second half of `reauthorize`. -/
  | renew (endpoint : EndpointId) (body : CallbackBody)

namespace RelayState

variable [HashOrder] (state : RelayState)

/-- What an event does at a moment. -/
def apply (now : Instant) : RelayEvent → RelayState
  | .connect number endpoint connection =>
    if state.access.configuration.emergencyDisabled then { state with clock := now }
    else
      { state with
        clock := now
        attempts := state.attempts.insert number
          ⟨endpoint, connection, .identified (state.access.knownTenant endpoint)⟩ }
  | .advance number body =>
    match state.attempts[number]? with
    | none => { state with clock := now }
    | some attempt =>
      let next := attempt.advance state.access now body
      { access := next.2
        attempts := next.1.elim (state.attempts.erase number) (state.attempts.insert number)
        clock := now }
  | .disconnect endpoint connection =>
    { state with clock := now, access := state.access.onDisconnect endpoint connection }
  | .suspend scope => { state with clock := now, access := state.access.suspend now scope }
  | .retest endpoint =>
    { state with clock := now, access := (state.access.suspended endpoint now).2 }
  | .renew endpoint body =>
    { state with
      clock := now
      access := (state.access.callbackAuthorization endpoint body now).2 }

end RelayState

end Clusterflux.Relay
