import Clusterflux.Foundation.SecondaryIndexes
import Clusterflux.Relay.Configuration

/-!
# Access to the relay

An endpoint that connects to the relay is tested for suspensions, authorized by a
callback or by what the callback said a moment ago, and given a place in the ledger
of connections.  The ledger has ceilings for all connections, for those of an
endpoint and for those of a tenant.
-/

namespace Clusterflux.Relay

open SecondaryIndexes

/-- Moments of the monotonic clock, in nanoseconds. -/
abbrev Instant := ℕ

abbrev EndpointId := String

abbrev ConnectionId := ℕ

structure AuthorizationGrant where
  tenant : String
  validUntil : Instant

/-! ## The ledger -/

structure ConnectionReservation where
  endpoint : EndpointId
  tenant : String
  deriving DecidableEq

structure ConnectionLedger where
  global : ℕ := 0
  byEndpoint : OrderedMap EndpointId (Finset ConnectionId) := ∅
  byTenant : OrderedMap String (Finset ConnectionId) := ∅
  byConnection : OrderedMap ConnectionId ConnectionReservation := ∅

/-- The product saturates. -/
def aggregateWithinLimit (count perConnection maximum : ℕ) : Bool :=
  min (count * perConnection) u64Max ≤ maximum

namespace ConnectionLedger

variable (configuration : RelayStartupConfiguration) (ledger : ConnectionLedger)

/-- One more connection of the endpoint and the tenant stays below every ceiling. -/
def hasRoom (endpoint : EndpointId) (tenant : String) : Bool :=
  let endpointCount := (filed ledger.byEndpoint endpoint).card
  let tenantCount := (filed ledger.byTenant tenant).card
  let nextEndpointCount := saturatingAdd endpointCount 1
  let nextTenantCount := saturatingAdd tenantCount 1
  ledger.global < configuration.maximumGlobalConnections &&
    endpointCount < configuration.maximumConnectionsPerEndpoint &&
    tenantCount < configuration.maximumConnectionsPerTenant &&
    aggregateWithinLimit nextEndpointCount configuration.bytesPerSecond
      configuration.maximumBytesPerSecondPerEndpoint &&
    aggregateWithinLimit nextTenantCount configuration.bytesPerSecond
      configuration.maximumBytesPerSecondPerTenant &&
    aggregateWithinLimit nextEndpointCount configuration.burstBytes
      configuration.maximumBurstBytesPerEndpoint &&
    aggregateWithinLimit nextTenantCount configuration.burstBytes
      configuration.maximumBurstBytesPerTenant

def reserve (endpoint : EndpointId) (connection : ConnectionId) (grant : AuthorizationGrant) :
    Bool × ConnectionLedger :=
  if ¬ ledger.hasRoom configuration endpoint grant.tenant then (false, ledger)
  else if ledger.byConnection.contains connection then (false, ledger)
  else
    let byEndpoint := add ledger.byEndpoint endpoint connection
    if connection ∈ filed ledger.byEndpoint endpoint then (false, { ledger with byEndpoint })
    else
      (true,
        { global := saturatingAdd ledger.global 1
          byEndpoint := byEndpoint
          byTenant := add ledger.byTenant grant.tenant connection
          byConnection := ledger.byConnection.insert connection ⟨endpoint, grant.tenant⟩ })

/-- A connection that was reserved for another endpoint is put back. -/
def release (endpoint : EndpointId) (connection : ConnectionId) : ConnectionLedger :=
  match ledger.byConnection[connection]? with
  | none => ledger
  | some reservation =>
    let byConnection := ledger.byConnection.erase connection
    if reservation.endpoint ≠ endpoint then
      { ledger with byConnection := byConnection.insert connection reservation }
    else
      { global := ledger.global - 1
        byEndpoint := remove ledger.byEndpoint endpoint connection
        byTenant := remove ledger.byTenant reservation.tenant connection
        byConnection := byConnection }

end ConnectionLedger

/-- Which element of a hash set an iterator yields first. -/
class HashOrder where
  first : Finset ConnectionId → Option ConnectionId
  first_mem : ∀ connections connection, first connections = some connection →
    connection ∈ connections
  first_of_nonempty : ∀ connections, connections.Nonempty → (first connections).isSome

/-- The tenant of the first connection of an endpoint. -/
def ConnectionLedger.tenantForEndpoint [HashOrder] (ledger : ConnectionLedger)
    (endpoint : EndpointId) : Option String := do
  let connections ← ledger.byEndpoint[endpoint]?
  let connection ← HashOrder.first connections
  let reservation ← ledger.byConnection[connection]?
  return reservation.tenant

/-! ## Maps with deadlines -/

section Deadlines

variable {κ ν : Type} [Ord κ] [Std.TransOrd κ] (date : ν → Instant)

def retainLater (now : Instant) (entries : OrderedMap κ ν) : OrderedMap κ ν :=
  entries.filter fun _ value => now < date value

def removeOldest (entries : OrderedMap κ ν) : OrderedMap κ ν :=
  match entries.toList.argmin fun entry => date entry.2 with
  | none => entries
  | some (oldest, _) => entries.erase oldest

/-- The oldest entries go until there is room for one more. -/
def makeRoom (capacity : ℕ) (entries : OrderedMap κ ν) : OrderedMap κ ν :=
  (removeOldest date)^[entries.size + 1 - capacity] entries

end Deadlines

def pruneDeadlines {κ : Type} [Ord κ] [Std.TransOrd κ] (capacity : ℕ) (now : Instant)
    (deadlines : OrderedMap κ Instant) : OrderedMap κ Instant :=
  makeRoom id (max capacity 1) (retainLater id now deadlines)

/-! ## Suspensions and authorization -/

structure ClusterfluxRelayAccess where
  configuration : RelayStartupConfiguration
  positiveCache : OrderedMap EndpointId AuthorizationGrant := ∅
  suspensions : OrderedMap EndpointId Instant := ∅
  tenantSuspensions : OrderedMap String Instant := ∅
  connections : ConnectionLedger := {}

/-- What the callback answers.  The bare word is an older form of the answer. -/
inductive CallbackBody where
  | bareTrue
  | response (allowed : Bool) (tenant : Option String) (validForMillis : Option ℕ)
  /-- No answer in time, or one that is not read. -/
  | unreadable

def parseCallbackAuthorization (maximumCacheMillis : ℕ) (now : Instant) :
    CallbackBody → Option AuthorizationGrant
  | .bareTrue => some ⟨"legacy-callback", now + maximumCacheMillis * 1000000⟩
  | .unreadable => none
  | .response allowed tenant validForMillis => do
      if ¬ allowed then none
      else
        let tenant := trim (← tenant)
        let millis := min (validForMillis.getD 0) maximumCacheMillis
        if tenant.isEmpty || tenant.utf8ByteSize > 255 || tenant.toList.any isControl then none
        else if millis = 0 then none
        else some ⟨tenant, now + millis * 1000000⟩

namespace ClusterfluxRelayAccess

variable (access : ClusterfluxRelayAccess)

def maximumStateEntries : ℕ :=
  max (min (access.configuration.maximumGlobalConnections * 2) u64Max) 1

def suspensionDuration : Instant := access.configuration.suspensionSeconds * 1000000000

/-- The tenant of an endpoint, as far as the relay knows it. -/
def knownTenant [HashOrder] (endpoint : EndpointId) : Option String :=
  access.connections.tenantForEndpoint endpoint <|>
    access.positiveCache[endpoint]?.map (·.tenant)

variable (endpoint : EndpointId)

/-- The second half of `suspended`, after the tenant was looked up. -/
def suspendedAs (tenant : Option String) (now : Instant) : Bool × ClusterfluxRelayAccess :=
  let suspensions := retainLater id now access.suspensions
  if suspensions[endpoint]?.any fun deadline => now < deadline then
    (true, { access with suspensions })
  else
    let tenantSuspensions := retainLater id now access.tenantSuspensions
    (tenant.any fun tenant => tenantSuspensions[tenant]?.any fun deadline => now < deadline,
      { access with suspensions, tenantSuspensions })

def suspended [HashOrder] (endpoint : EndpointId) (now : Instant) :
    Bool × ClusterfluxRelayAccess :=
  access.suspendedAs endpoint (access.knownTenant endpoint) now

def suspendEndpoint (now : Instant) : ClusterfluxRelayAccess :=
  { access with
    suspensions := (pruneDeadlines access.maximumStateEntries now access.suspensions).insert
      endpoint (now + access.suspensionDuration)
    positiveCache := access.positiveCache.erase endpoint }

def suspendTenant (tenant : String) (endpoints : List EndpointId) (now : Instant) :
    ClusterfluxRelayAccess :=
  { access with
    tenantSuspensions :=
      (pruneDeadlines access.maximumStateEntries now access.tenantSuspensions).insert tenant
        (now + access.suspensionDuration)
    positiveCache := endpoints.foldl (·.erase ·) access.positiveCache }

/-- What the callback said a moment ago. -/
def cachedAuthorization (now : Instant) : Option AuthorizationGrant × ClusterfluxRelayAccess :=
  let positiveCache := retainLater AuthorizationGrant.validUntil now access.positiveCache
  (positiveCache[endpoint]?.filter fun grant => now < grant.validUntil,
    { access with positiveCache })

/-- The answer of the callback, which is remembered. -/
def callbackAuthorization (body : CallbackBody) (now : Instant) :
    Option AuthorizationGrant × ClusterfluxRelayAccess :=
  match parseCallbackAuthorization access.configuration.positiveCacheMillis now body with
  | none => (none, access)
  | some grant =>
    if grant.validUntil ≤ now then (none, access)
    else
      (some grant,
        { access with
          positiveCache := (makeRoom AuthorizationGrant.validUntil access.maximumStateEntries
            (retainLater AuthorizationGrant.validUntil now access.positiveCache)).insert
              endpoint grant })

def reserve (connection : ConnectionId) (grant : AuthorizationGrant) :
    Bool × ClusterfluxRelayAccess :=
  let (admitted, connections) :=
    access.connections.reserve access.configuration endpoint connection grant
  (admitted, { access with connections })

def onDisconnect (connection : ConnectionId) : ClusterfluxRelayAccess :=
  { access with connections := access.connections.release endpoint connection }

end ClusterfluxRelayAccess

end Clusterflux.Relay
