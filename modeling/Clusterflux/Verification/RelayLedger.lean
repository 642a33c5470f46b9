import Clusterflux.Relay.Access

/-!
# The ledger of the relay

The ledger counts its connections and files them under their endpoints and their
tenants.  Whatever connects and disconnects, in whatever order, the count and both
indexes are exact and no ceiling is exceeded.
-/

namespace Clusterflux.Relay

open SecondaryIndexes Std

/-! ## Ceilings -/

/-- The ceilings of an endpoint or of a tenant. -/
structure ScopeLimits where
  connections : Bounded maximumConnections
  bytesPerSecond : Bounded maximumAggregateBytes
  burstBytes : Bounded maximumAggregateBytes

namespace RelayStartupConfiguration

variable (configuration : RelayStartupConfiguration)

def endpointLimits : ScopeLimits where
  connections := configuration.maximumConnectionsPerEndpoint
  bytesPerSecond := configuration.maximumBytesPerSecondPerEndpoint
  burstBytes := configuration.maximumBurstBytesPerEndpoint

def tenantLimits : ScopeLimits where
  connections := configuration.maximumConnectionsPerTenant
  bytesPerSecond := configuration.maximumBytesPerSecondPerTenant
  burstBytes := configuration.maximumBurstBytesPerTenant

/-- So many connections together stay below the ceilings of their scope. -/
structure Holds (limits : ScopeLimits) (count : ℕ) : Prop where
  connections : count ≤ limits.connections
  bytesPerSecond : count * configuration.bytesPerSecond ≤ limits.bytesPerSecond
  burstBytes : count * configuration.burstBytes ≤ limits.burstBytes

variable {configuration} {limits : ScopeLimits} {count fewer : ℕ}

theorem Holds.mono (hholds : configuration.Holds limits count) (hfewer : fewer ≤ count) :
    configuration.Holds limits fewer where
  connections := hfewer.trans hholds.connections
  bytesPerSecond := (Nat.mul_le_mul_right _ hfewer).trans hholds.bytesPerSecond
  burstBytes := (Nat.mul_le_mul_right _ hfewer).trans hholds.burstBytes

theorem Holds.zero : configuration.Holds limits 0 := by
  constructor <;> simp

/-- Adding to a set of an index keeps the ceilings if there is room for the key. -/
theorem Holds.add {ι : Type} [Ord ι] [TransOrd ι] [LawfulEqOrd ι] [DecidableEq ι]
    {index : OrderedMap ι (Finset ConnectionId)} {value : ι} {connection : ConnectionId}
    (hholds : ∀ other, configuration.Holds limits (filed index other).card)
    (hroom : configuration.Holds limits ((filed index value).card + 1)) (other : ι) :
    configuration.Holds limits (filed (add index value connection) other).card := by
  by_cases hother : value = other
  · subst hother
    rw [filed_add_self]
    exact hroom.mono (Finset.card_insert_le _ _)
  · rw [filed_add_of_ne hother]
    exact hholds other

theorem Holds.remove {ι : Type} [Ord ι] [TransOrd ι] [LawfulEqOrd ι] [DecidableEq ι]
    {index : OrderedMap ι (Finset ConnectionId)} {value : ι} {connection : ConnectionId}
    (hholds : ∀ other, configuration.Holds limits (filed index other).card) (other : ι) :
    configuration.Holds limits (filed (remove index value connection) other).card := by
  by_cases hother : value = other
  · subst hother
    rw [filed_remove_self]
    exact (hholds value).mono Finset.card_erase_le
  · rw [filed_remove_of_ne hother]
    exact hholds other

end RelayStartupConfiguration

/-- The saturated product is the product when it is below a ceiling of the relay. -/
theorem le_of_aggregateWithinLimit {count perConnection : ℕ}
    {maximum : Bounded maximumAggregateBytes}
    (hwithin : aggregateWithinLimit count perConnection maximum = true) :
    count * perConnection ≤ maximum := by
  have hwithin := of_decide_eq_true hwithin
  have hmaximum := maximum.property.2
  have hceiling : maximumAggregateBytes < u64Max := by decide
  omega

theorem saturatingAdd_one {count : ℕ} {maximum : Bounded maximumConnections}
    (hcount : count < maximum) : saturatingAdd count 1 = count + 1 := by
  have hmaximum := maximum.property.2
  have hceiling : maximumConnections < u64Max := by decide
  exact min_eq_left (by omega)

/-! ## The invariant -/

namespace ConnectionLedger

/-- The count and the indexes are exact, and every ceiling is kept. -/
structure Sound (configuration : RelayStartupConfiguration) (ledger : ConnectionLedger) :
    Prop where
  global : ledger.global = ledger.byConnection.size
  endpoints : Indexes ConnectionReservation.endpoint ledger.byConnection ledger.byEndpoint
  tenants : Indexes ConnectionReservation.tenant ledger.byConnection ledger.byTenant
  globalCeiling : ledger.global ≤ configuration.maximumGlobalConnections
  endpointCeilings : ∀ endpoint,
    configuration.Holds configuration.endpointLimits (filed ledger.byEndpoint endpoint).card
  tenantCeilings : ∀ tenant,
    configuration.Holds configuration.tenantLimits (filed ledger.byTenant tenant).card

variable {configuration : RelayStartupConfiguration} {ledger : ConnectionLedger}
  {endpoint : EndpointId} {tenant : String} {connection : ConnectionId}
  {grant : AuthorizationGrant}

theorem Sound.empty (configuration : RelayStartupConfiguration) : Sound configuration {} where
  global := rfl
  endpoints := .empty
  tenants := .empty
  globalCeiling := Nat.zero_le _
  endpointCeilings _ := .zero
  tenantCeilings _ := .zero

/-- What it means that there is room for one more connection. -/
structure Room (configuration : RelayStartupConfiguration) (ledger : ConnectionLedger)
    (endpoint : EndpointId) (tenant : String) : Prop where
  global : ledger.global < configuration.maximumGlobalConnections
  endpoint : configuration.Holds configuration.endpointLimits
    ((filed ledger.byEndpoint endpoint).card + 1)
  tenant : configuration.Holds configuration.tenantLimits ((filed ledger.byTenant tenant).card + 1)

theorem room_of_hasRoom (hroom : ledger.hasRoom configuration endpoint tenant = true) :
    ledger.Room configuration endpoint tenant := by
  unfold hasRoom at hroom
  simp only [Bool.and_eq_true, decide_eq_true_eq] at hroom
  obtain ⟨⟨⟨⟨⟨⟨hglobal, hendpoint⟩, htenant⟩, hendpointRate⟩, htenantRate⟩, hendpointBurst⟩,
    htenantBurst⟩ := hroom
  rw [saturatingAdd_one hendpoint] at hendpointRate hendpointBurst
  rw [saturatingAdd_one htenant] at htenantRate htenantBurst
  exact {
    global := hglobal
    endpoint := ⟨hendpoint, le_of_aggregateWithinLimit hendpointRate,
      le_of_aggregateWithinLimit hendpointBurst⟩
    tenant := ⟨htenant, le_of_aggregateWithinLimit htenantRate,
      le_of_aggregateWithinLimit htenantBurst⟩ }

/-- The ledger with one more connection. -/
def admitted (ledger : ConnectionLedger) (endpoint : EndpointId) (connection : ConnectionId)
    (tenant : String) : ConnectionLedger where
  global := ledger.global + 1
  byEndpoint := add ledger.byEndpoint endpoint connection
  byTenant := add ledger.byTenant tenant connection
  byConnection := ledger.byConnection.insert connection ⟨endpoint, tenant⟩

/-- An admission is refused and changes nothing, or there is room for it and it is new. -/
theorem Sound.reserve_cases (hsound : ledger.Sound configuration) (endpoint : EndpointId)
    (connection : ConnectionId) (grant : AuthorizationGrant) :
    ledger.reserve configuration endpoint connection grant = (false, ledger) ∨
      ledger.Room configuration endpoint grant.tenant ∧
      ledger.byConnection[connection]? = none ∧
      ledger.reserve configuration endpoint connection grant =
        (true, ledger.admitted endpoint connection grant.tenant) := by
  unfold reserve
  by_cases hroom : ledger.hasRoom configuration endpoint grant.tenant = true
  case neg => exact .inl (if_pos hroom)
  case pos =>
    rw [if_neg (not_not_intro hroom)]
    by_cases hknown : ledger.byConnection.contains connection = true
    case pos => exact .inl (if_pos hknown)
    case neg =>
      rw [if_neg hknown]
      have habsent : ledger.byConnection[connection]? = none := by
        rw [ExtTreeMap.contains_eq_isSome_getElem?] at hknown
        simpa using hknown
      -- An unknown connection is not filed either.
      have hunfiled : connection ∉ filed ledger.byEndpoint endpoint := by
        intro hfiled
        obtain ⟨reservation, hreservation, -⟩ := (hsound.endpoints.exact _ _).mp hfiled
        simp [habsent] at hreservation
      have hrange := (room_of_hasRoom hroom).global
      refine .inr ⟨room_of_hasRoom hroom, habsent, ?_⟩
      dsimp only
      rw [if_neg hunfiled, saturatingAdd_one hrange]
      rfl

theorem Sound.admitted (hsound : ledger.Sound configuration)
    (hroom : ledger.Room configuration endpoint tenant)
    (habsent : ledger.byConnection[connection]? = none) :
    (ledger.admitted endpoint connection tenant).Sound configuration where
  global := by
    have hnew : ¬ ledger.byConnection.contains connection = true := by
      rw [ExtTreeMap.contains_eq_isSome_getElem?, habsent]
      simp
    change ledger.global + 1 = (ledger.byConnection.insert connection _).size
    rw [ExtTreeMap.size_insert, if_neg hnew, hsound.global]
  endpoints := hsound.endpoints.insert habsent
  tenants := hsound.tenants.insert habsent
  globalCeiling := hroom.global
  endpointCeilings := .add hsound.endpointCeilings hroom.endpoint
  tenantCeilings := .add hsound.tenantCeilings hroom.tenant

/-- The ledger without one of its connections. -/
def dropped (ledger : ConnectionLedger) (connection : ConnectionId)
    (reservation : ConnectionReservation) : ConnectionLedger where
  global := ledger.global - 1
  byEndpoint := remove ledger.byEndpoint reservation.endpoint connection
  byTenant := remove ledger.byTenant reservation.tenant connection
  byConnection := ledger.byConnection.erase connection

/-- Only the endpoint of a connection can end it. -/
theorem release_cases (ledger : ConnectionLedger) (endpoint : EndpointId)
    (connection : ConnectionId) :
    ledger.release endpoint connection = ledger ∨
      ∃ reservation, ledger.byConnection[connection]? = some reservation ∧
        reservation.endpoint = endpoint ∧
        ledger.release endpoint connection = ledger.dropped connection reservation := by
  unfold release
  cases hfound : ledger.byConnection[connection]? with
  | none => exact .inl rfl
  | some reservation =>
    dsimp only
    by_cases hendpoint : reservation.endpoint = endpoint
    case pos =>
      rw [if_neg (not_not_intro hendpoint)]
      subst hendpoint
      exact .inr ⟨reservation, rfl, rfl, rfl⟩
    case neg =>
      rw [if_pos hendpoint]
      have hback : (ledger.byConnection.erase connection).insert connection reservation =
          ledger.byConnection := by
        apply ExtTreeMap.ext_getElem?
        intro other
        by_cases hother : connection = other
        · subst hother
          rw [ExtTreeMap.getElem?_insert_self, hfound]
        · have hcompare : compare connection other ≠ .eq := by
            rwa [Ne, LawfulEqCmp.compare_eq_iff_eq]
          rw [ExtTreeMap.getElem?_insert, if_neg hcompare, ExtTreeMap.getElem?_erase,
            if_neg hcompare]
      rw [hback]
      exact .inl rfl

theorem Sound.dropped (hsound : ledger.Sound configuration) {reservation : ConnectionReservation}
    (hfound : ledger.byConnection[connection]? = some reservation) :
    (ledger.dropped connection reservation).Sound configuration where
  global := by
    have hknown : ledger.byConnection.contains connection = true := by
      rw [ExtTreeMap.contains_eq_isSome_getElem?, hfound]
      rfl
    change ledger.global - 1 = (ledger.byConnection.erase connection).size
    rw [ExtTreeMap.size_erase, if_pos hknown, hsound.global]
  endpoints := hsound.endpoints.erase hfound
  tenants := hsound.tenants.erase hfound
  globalCeiling := (Nat.sub_le _ _).trans hsound.globalCeiling
  endpointCeilings := .remove hsound.endpointCeilings
  tenantCeilings := .remove hsound.tenantCeilings

/-! ## Steps -/

theorem Sound.reserve (hsound : ledger.Sound configuration) (endpoint : EndpointId)
    (connection : ConnectionId) (grant : AuthorizationGrant) :
    (ledger.reserve configuration endpoint connection grant).2.Sound configuration := by
  rcases hsound.reserve_cases endpoint connection grant with hrefused | ⟨hroom, habsent, hadmitted⟩
  · rw [hrefused]
    exact hsound
  · rw [hadmitted]
    exact hsound.admitted hroom habsent

theorem Sound.release (hsound : ledger.Sound configuration) (endpoint : EndpointId)
    (connection : ConnectionId) : (ledger.release endpoint connection).Sound configuration := by
  rcases ledger.release_cases endpoint connection with hsame | ⟨reservation, hfound, -, hdropped⟩
  · rw [hsame]
    exact hsound
  · rw [hdropped]
    exact hsound.dropped hfound

end ConnectionLedger

/-! ## Histories -/

inductive LedgerEvent where
  | connect (endpoint : EndpointId) (connection : ConnectionId) (grant : AuthorizationGrant)
  | disconnect (endpoint : EndpointId) (connection : ConnectionId)

namespace LedgerEvent

variable (configuration : RelayStartupConfiguration)

def apply (ledger : ConnectionLedger) : LedgerEvent → ConnectionLedger
  | .connect endpoint connection grant =>
    (ledger.reserve configuration endpoint connection grant).2
  | .disconnect endpoint connection => ledger.release endpoint connection

/-- The ledger after connections and disconnections, from the empty one. -/
def history (events : List LedgerEvent) : ConnectionLedger :=
  events.foldl (apply configuration) {}

variable {configuration} {ledger : ConnectionLedger}

theorem sound_apply (hsound : ledger.Sound configuration) (event : LedgerEvent) :
    (apply configuration ledger event).Sound configuration := by
  cases event with
  | connect endpoint connection grant => exact hsound.reserve endpoint connection grant
  | disconnect endpoint connection => exact hsound.release endpoint connection

theorem sound_history (configuration : RelayStartupConfiguration) (events : List LedgerEvent) :
    (history configuration events).Sound configuration := by
  induction events using List.reverseRecOn with
  | nil => exact .empty configuration
  | append_singleton events event ih =>
    rw [history, List.foldl_append]
    exact sound_apply ih event

end LedgerEvent

/-- After any connections and disconnections the count is that of the recorded
connections, the indexes file exactly these, no ceiling is exceeded, and an admission
that is refused changes nothing. -/
theorem relay_ledger_is_exact (configuration : RelayStartupConfiguration)
    (events : List LedgerEvent) :
    (LedgerEvent.history configuration events).Sound configuration ∧ ∀ endpoint connection grant,
        ((LedgerEvent.history configuration events).reserve configuration endpoint connection
            grant).1 = true ∨
          (LedgerEvent.history configuration events).reserve configuration endpoint connection
            grant = (false, LedgerEvent.history configuration events) := by
  have hsound := LedgerEvent.sound_history configuration events
  refine ⟨hsound, fun endpoint connection grant => ?_⟩
  rcases hsound.reserve_cases endpoint connection grant with hrefused | ⟨-, -, hadmitted⟩
  · exact .inr hrefused
  · rw [hadmitted]
    exact .inl rfl

end Clusterflux.Relay
