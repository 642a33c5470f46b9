import Clusterflux.Core.Primitives

/-!
# Configuration of the relay

The relay reads its limits from its environment once, at startup.  What it starts
with has passed the checks made there, so the bounds that are checked stand in the
configuration.
-/

namespace Clusterflux.Relay

def maximumConnections : ℕ := 1000000

def maximumAggregateBytes : ℕ := 1024 * 1024 * 1024 * 1024

def maximumPositiveCacheMillis : ℕ := 5 * 60 * 1000

def maximumSuspensionSeconds : ℕ := 7 * 24 * 60 * 60

/-! ## Numbers -/

/-- A number from one to a maximum. -/
abbrev Bounded (maximum : ℕ) := { value : ℕ // 1 ≤ value ∧ value ≤ maximum }

/-! ## What the relay starts with -/

structure RelayStartupConfiguration where
  maximumGlobalConnections : Bounded maximumConnections
  maximumConnectionsPerEndpoint : Bounded maximumConnections
  maximumConnectionsPerTenant : Bounded maximumConnections
  scopedConnections : maximumConnectionsPerEndpoint.val ≤ maximumGlobalConnections.val ∧
    maximumConnectionsPerTenant.val ≤ maximumGlobalConnections.val
  bytesPerSecond : { value : ℕ // 0 < value }
  burstBytes : { value : ℕ // 0 < value }
  maximumBytesPerSecondPerEndpoint : Bounded maximumAggregateBytes
  maximumBytesPerSecondPerTenant : Bounded maximumAggregateBytes
  maximumBurstBytesPerEndpoint : Bounded maximumAggregateBytes
  maximumBurstBytesPerTenant : Bounded maximumAggregateBytes
  oneConnection : bytesPerSecond.val ≤ maximumBytesPerSecondPerEndpoint.val ∧
    bytesPerSecond.val ≤ maximumBytesPerSecondPerTenant.val ∧
    burstBytes.val ≤ maximumBurstBytesPerEndpoint.val ∧
    burstBytes.val ≤ maximumBurstBytesPerTenant.val
  positiveCacheMillis : Bounded maximumPositiveCacheMillis
  suspensionSeconds : Bounded maximumSuspensionSeconds
  emergencyDisabled : Bool

end Clusterflux.Relay
