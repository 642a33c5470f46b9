import Clusterflux.Coordinator.NodeRegistry
import Clusterflux.Foundation.Runs
import Clusterflux.Foundation.SecondaryIndexes

/-!
# Endpoints and the nodes they belong to

The registry finds the endpoint of a node in one map and the node of an endpoint in
another.  Both are rewritten by registrations, expiries, changes of the policy,
releases and removals of nodes; they stay inverse to each other.
-/

namespace Clusterflux

open OrderedMaps SecondaryIndexes LabelledRuns

/-- The operations that concern endpoints; everything else in the registry may
change at any time and in any way, the moments nodes were seen included. -/
inductive EndpointOperation where
  | register (scope : NodeScopeKey) (advertisement : IrohEndpointAdvertisement)
  | clear
  | expire (nowEpochSeconds staleAfterSeconds : ℕ)
  | markReleased (scope : NodeScopeKey)
  | removeNode (scope : NodeScopeKey)
  | changeElsewhere (registry : NodeRegistry)

namespace NodeRegistry

variable {registry : NodeRegistry} {scope : NodeScopeKey}

/-- A refused registration changes nothing. -/
def perform : EndpointOperation → NodeRegistry → NodeRegistry
  | .register scope advertisement, registry =>
    match registry.registerAdvertisement scope advertisement with
    | .ok registered => registered
    | .error _ => registry
  | .clear, registry => registry.clearAdvertisements
  | .expire nowEpochSeconds staleAfterSeconds, registry =>
    registry.expireAdvertisements nowEpochSeconds staleAfterSeconds
  | .markReleased scope, registry => registry.markReleased scope
  | .removeNode scope, registry => registry.removeNode scope
  | .changeElsewhere changed, registry =>
    { changed with
      irohEndpointAdvertisements := registry.irohEndpointAdvertisements
      irohEndpointBindings := registry.irohEndpointBindings }

/-- An endpoint is bound to a scope exactly when the scope advertises it. -/
def EndpointsMatch (registry : NodeRegistry) : Prop :=
  Inverts IrohEndpointAdvertisement.endpointId registry.irohEndpointAdvertisements
    registry.irohEndpointBindings

/-- What an operation may do to an advertisement that stays: the endpoint is the
same and the generation does not go back. -/
def Renews (before after : NodeRegistry) : Prop :=
  ∀ scope first last, before.advertisement scope = some first →
    after.advertisement scope = some last →
      last.endpointId = first.endpointId ∧ first.generation ≤ last.generation

/-- The advertisement is stored for some node. -/
def Advertises (registry : NodeRegistry) (advertisement : IrohEndpointAdvertisement) : Prop :=
  ∃ scope, registry.advertisement scope = some advertisement

/-- Every advertisement that is stored has passed its checks. -/
def AdvertisesValid (registry : NodeRegistry) : Prop :=
  ∀ advertisement, registry.Advertises advertisement → advertisement.validateBounds = .ok ()

/-! ## One operation -/

theorem EndpointsMatch.removeEndpoint (hmatch : registry.EndpointsMatch) (scope : NodeScopeKey) :
    (registry.removeEndpoint scope).EndpointsMatch := by
  rw [NodeRegistry.removeEndpoint]
  split
  · exact hmatch
  · rename_i advertisement hadvertised
    exact Inverts.erase hmatch hadvertised

theorem advertisement_of_removeEndpoint {other : NodeScopeKey} {found : IrohEndpointAdvertisement}
    (hfound : (registry.removeEndpoint scope).advertisement other = some found) :
    registry.advertisement other = some found := by
  rw [removeEndpoint] at hfound
  split at hfound
  · exact hfound
  · exact (getElem?_erase_eq_some_iff.mp hfound).2

/-- The endpoints of several nodes are removed one after the other. -/
theorem EndpointsMatch.removeEndpoints (hmatch : registry.EndpointsMatch)
    (expired : List (NodeScopeKey × IrohEndpointAdvertisement)) :
    (expired.foldl (fun registry entry => registry.removeEndpoint entry.1)
      registry).EndpointsMatch := by
  induction expired generalizing registry with
  | nil => exact hmatch
  | cons entry expired ih => exact ih (hmatch.removeEndpoint entry.1)

theorem advertisement_of_removeEndpoints {found : IrohEndpointAdvertisement}
    {expired : List (NodeScopeKey × IrohEndpointAdvertisement)}
    (hfound : (expired.foldl (fun registry entry => registry.removeEndpoint entry.1)
      registry).advertisement scope = some found) :
    registry.advertisement scope = some found := by
  induction expired generalizing registry with
  | nil => exact hfound
  | cons entry expired ih => exact advertisement_of_removeEndpoint (ih hfound)

/-- A registration is accepted for an endpoint that no other scope has, from a
scope that has had no other endpoint and no later generation. -/
theorem registerAdvertisement_eq_ok {advertisement : IrohEndpointAdvertisement}
    {registered : NodeRegistry}
    (hregister : registry.registerAdvertisement scope advertisement = .ok registered) :
    (∀ bound, registry.irohEndpointBindings[advertisement.endpointId]? = some bound →
      bound = scope) ∧
    (∀ current, registry.advertisement scope = some current →
      current.endpointId = advertisement.endpointId ∧
        current.generation ≤ advertisement.generation) ∧
    registered = { registry with
      irohEndpointBindings := registry.irohEndpointBindings.insert advertisement.endpointId scope
      irohEndpointAdvertisements :=
        registry.irohEndpointAdvertisements.insert scope advertisement } := by
  simp only [registerAdvertisement] at hregister
  split_ifs at hregister with hbound hidentity hstale
  refine ⟨fun bound hlookup => ?_, fun current hcurrent => ?_, ?_⟩
  · simpa [hlookup] using hbound
  · have hlookup : registry.irohEndpointAdvertisements[scope]? = some current := hcurrent
    simp only [hlookup, Option.any_some, decide_eq_true_eq, not_not, not_lt] at hidentity hstale
    exact ⟨hidentity, hstale⟩
  · exact (Except.ok.inj hregister).symm

/-- One operation keeps bindings and advertisements inverse to each other. -/
theorem EndpointsMatch.perform (hmatch : registry.EndpointsMatch) (operation : EndpointOperation) :
    (perform operation registry).EndpointsMatch := by
  cases operation with
  | register scope advertisement =>
    rw [NodeRegistry.perform]
    split
    · rename_i registered hregister
      obtain ⟨hfree, hcurrent, rfl⟩ := registerAdvertisement_eq_ok hregister
      exact Inverts.insert hmatch hfree fun current hlookup => (hcurrent current hlookup).1
    · exact hmatch
  | clear =>
    intro _ _
    simp [NodeRegistry.perform, clearAdvertisements]
  | expire now stale => exact hmatch.removeEndpoints _
  | markReleased scope | removeNode scope =>
    refine EndpointsMatch.removeEndpoint ?_ scope
    exact hmatch
  | changeElsewhere changed => exact hmatch

/-- What is advertised after an operation was registered by it or has been advertised
before. -/
theorem advertisement_of_perform {operation : EndpointOperation} {found : IrohEndpointAdvertisement}
    (hfound : (perform operation registry).advertisement scope = some found) :
    registry.advertisement scope = some found ∨ operation = .register scope found := by
  cases operation with
  | register other registeredAdvertisement =>
    rw [perform] at hfound
    split at hfound
    · rename_i registered hregister
      obtain ⟨-, -, rfl⟩ := registerAdvertisement_eq_ok hregister
      rcases getElem?_insert_eq_some_iff.mp hfound with ⟨rfl, rfl⟩ | ⟨-, hother⟩
      · exact .inr rfl
      · exact .inl hother
    · exact .inl hfound
  | clear => simp [perform, clearAdvertisements, advertisement] at hfound
  | expire now stale => exact .inl (advertisement_of_removeEndpoints hfound)
  | markReleased other | removeNode other =>
    have hkept := advertisement_of_removeEndpoint hfound
    exact .inl hkept
  | changeElsewhere changed => exact .inl hfound

theorem renews_perform (operation : EndpointOperation) :
    registry.Renews (perform operation registry) := by
  intro scope first last hfirst hlast
  have hkept : registry.advertisement scope = some last →
      last.endpointId = first.endpointId ∧ first.generation ≤ last.generation := by
    intro hbefore
    obtain rfl := Option.some.inj (hfirst.symm.trans hbefore)
    exact ⟨rfl, le_rfl⟩
  obtain hbefore | rfl := advertisement_of_perform hlast
  · exact hkept hbefore
  · rw [perform] at hlast
    split at hlast
    · rename_i registered hregister
      obtain ⟨hendpoint, hgeneration⟩ := (registerAdvertisement_eq_ok hregister).2.1 first hfirst
      exact ⟨hendpoint.symm, hgeneration⟩
    · exact hkept hlast

/-- Stored advertisements stay valid when a valid one is registered. -/
theorem AdvertisesValid.perform (hvalid : registry.AdvertisesValid) (operation : EndpointOperation)
    (hchecked : ∀ scope advertisement, operation = .register scope advertisement →
      advertisement.validateBounds = .ok ()) :
    (perform operation registry).AdvertisesValid := by
  rintro found ⟨scope, hfound⟩
  obtain hbefore | hregistered := advertisement_of_perform hfound
  · exact hvalid found ⟨scope, hbefore⟩
  · exact hchecked scope found hregistered

/-! ## Runs -/

theorem endpointsMatch_replay (history : List EndpointOperation) :
    (replay perform {} history).EndpointsMatch := by
  suffices h : ∀ registry : NodeRegistry, registry.EndpointsMatch →
      (replay perform registry history).EndpointsMatch from h {} fun _ _ => by simp
  induction history with
  | nil => exact fun _ hmatch => hmatch
  | cons operation history ih =>
    intro registry hmatch
    exact ih _ (hmatch.perform operation)

/-- The scope has an advertisement before and after every operation. -/
def StaysAdvertised (registry : NodeRegistry) (scope : NodeScopeKey) :
    List EndpointOperation → Prop
  | [] => (registry.advertisement scope).isSome = true
  | operation :: operations => (registry.advertisement scope).isSome = true ∧
      (perform operation registry).StaysAdvertised scope operations

theorem renews_replay {later : List EndpointOperation}
    (hstays : registry.StaysAdvertised scope later) {first last : IrohEndpointAdvertisement}
    (hfirst : registry.advertisement scope = some first)
    (hlast : (replay perform registry later).advertisement scope = some last) :
    last.endpointId = first.endpointId ∧ first.generation ≤ last.generation := by
  induction later generalizing registry first with
  | nil =>
    obtain rfl := Option.some.inj (hfirst.symm.trans hlast)
    exact ⟨rfl, le_rfl⟩
  | cons operation later ih =>
    have hsome : ((perform operation registry).advertisement scope).isSome = true := by
      cases later with
      | nil => exact hstays.2
      | cons next later => exact hstays.2.1
    obtain ⟨middle, hmiddle⟩ := Option.isSome_iff_exists.mp hsome
    obtain ⟨hendpoint, hgeneration⟩ := renews_perform operation scope first middle hfirst hmiddle
    obtain ⟨hlastEndpoint, hlastGeneration⟩ := ih hstays.2 hmiddle hlast
    exact ⟨hlastEndpoint.trans hendpoint, hgeneration.trans hlastGeneration⟩

end NodeRegistry

/-- After any operations an endpoint is bound to a scope exactly when the scope
advertises it, so that no two scopes advertise one endpoint; and as long as a scope
stays advertised, through any further operations, its endpoint is the same and its
generation does not go back. -/
theorem endpoint_bindings_invert_advertisements (history : List EndpointOperation) :
    let registry := replay NodeRegistry.perform {} history
    (∀ (endpointId : String) scope, registry.irohEndpointBindings[endpointId]? = some scope ↔
      ∃ advertisement, registry.advertisement scope = some advertisement ∧
        advertisement.endpointId = endpointId) ∧
    (∀ scope other advertisement advertisement', registry.advertisement scope = some advertisement →
        registry.advertisement other = some advertisement' →
          advertisement.endpointId = advertisement'.endpointId → scope = other) ∧
    ∀ scope later, registry.StaysAdvertised scope later → ∀ first last,
      registry.advertisement scope = some first →
        (replay NodeRegistry.perform registry later).advertisement scope = some last →
          last.endpointId = first.endpointId ∧ first.generation ≤ last.generation := by
  intro registry
  have hmatch : registry.EndpointsMatch := NodeRegistry.endpointsMatch_replay history
  refine ⟨hmatch, fun _ _ _ _ => hmatch.unique, fun scope later hstays first last => ?_⟩
  exact NodeRegistry.renews_replay hstays

end Clusterflux
