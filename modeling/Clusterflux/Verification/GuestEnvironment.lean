import Clusterflux.Node.CommandRun

/-!
# Guest variables and the container runtime

The runtime gets the values of guest variables through its own environment.  So
a guest variable with a name that the runtime or the loader itself interprets
changes how the runtime runs on the host.  The runtime process sees the node's
values of all such names exactly when the guest sets each of them, if at all, to
the value the node has.
-/

namespace Clusterflux

open Checks Std

/-- Names the runtime or the loader interprets. -/
def interpretedByRuntime (name : String) : Bool :=
  ["PATH", "HOME", "TMPDIR"].contains name ||
    ["LD_", "XDG_", "CONTAINER", "PODMAN"].any fun start => startsWith name start

/-- The guest sets the variable, itself or through a secret it asks for. -/
def GuestSets (host : CommandHost) (request : WasmHostCommandRequest) (name value : String) :
    Prop :=
  request.environmentVariables[name]? = some value ∨
    ∃ secret, request.secretEnvironmentVariables[name]? = some secret ∧
      host.secretGrant secret = .ok value

/-! ## Inversion of the steps -/

/-- A valid request does not set a variable both itself and through a secret. -/
theorem WasmHostCommandRequest.secret_not_plain {request : WasmHostCommandRequest}
    (hvalid : request.validate = .ok ()) {name secret : String}
    (hsecret : request.secretEnvironmentVariables[name]? = some secret) :
    request.environmentVariables[name]? = none := by
  simp only [validate, bind_eq_ok, refuseIf_eq_ok, Bool.or_eq_false_iff,
    List.any_eq_false] at hvalid
  obtain ⟨-, -, -, -, -, -, -, -, -, -, -, ⟨-, hkeys⟩, -⟩ := hvalid
  have hmem : name ∈ request.secretEnvironmentVariables.keys := by
    rw [ExtTreeMap.mem_keys, ExtTreeMap.mem_iff_isSome_getElem?, hsecret]
    rfl
  have hkey := hkeys name hmem
  simp only [Bool.or_eq_true, Bool.not_eq_true', not_or, Bool.not_eq_false,
    ExtTreeMap.contains_iff_mem] at hkey
  exact ExtTreeMap.getElem?_eq_none hkey.2

/-- Injecting secrets sets each of their variables and leaves the others alone. -/
theorem injectSecrets_lookup {host : CommandHost} {secrets : List (String × String)}
    (hnodup : (secrets.map Prod.fst).Nodup) {configured : List String}
    {environment : OrderedMap String String} {result : List String × OrderedMap String String}
    (hok : injectSecrets host secrets configured environment = .ok result)
    (name value : String) :
    result.2[name]? = some value ↔
      (∃ secret, (name, secret) ∈ secrets ∧ host.secretGrant secret = .ok value) ∨
        (name ∉ secrets.map Prod.fst ∧ environment[name]? = some value) := by
  induction secrets generalizing configured environment with
  | nil =>
    cases hok
    simp
  | cons entry secrets ih =>
    obtain ⟨first, secret⟩ := entry
    simp only [List.map_cons, List.nodup_cons] at hnodup
    unfold injectSecrets at hok
    split at hok
    · obtain ⟨granted, hgrant, hrest⟩ := bind_eq_ok.mp hok
      rw [ih hnodup.2 hrest, ExtTreeMap.getElem?_insert]
      by_cases hname : first = name
      · subst hname
        have habsent : ∀ other, (first, other) ∉ secrets :=
          fun other hmem => hnodup.1 (List.mem_map.mpr ⟨_, hmem, rfl⟩)
        simp [habsent, hnodup.1, hgrant]
      · have hcompare : compare first name ≠ .eq :=
          fun heq => hname (LawfulEqCmp.compare_eq_iff_eq.mp heq)
        simp [hcompare, Ne.symm hname]
    · cases hok

/-- After injection the environment holds exactly the variables the guest sets. -/
theorem injected_lookup_iff {host : CommandHost} {request : WasmHostCommandRequest}
    (hvalid : request.validate = .ok ()) {result : List String × OrderedMap String String}
    (hok : injectSecrets host request.secretEnvironmentVariables.toList []
      request.environmentVariables = .ok result) (name value : String) :
    result.2[name]? = some value ↔ GuestSets host request name value := by
  have hnodup : (request.secretEnvironmentVariables.toList.map Prod.fst).Nodup := by
    rw [ExtTreeMap.map_fst_toList_eq_keys]
    exact ExtTreeMap.nodup_keys
  rw [injectSecrets_lookup hnodup hok, GuestSets, ExtTreeMap.map_fst_toList_eq_keys,
    ExtTreeMap.mem_keys]
  simp only [ExtTreeMap.mem_toList_iff_getElem?_eq_some]
  constructor
  · rintro (hsecret | ⟨-, hplain⟩)
    · exact .inr hsecret
    · exact .inl hplain
  · rintro (hplain | hsecret)
    · refine .inr ⟨?_, hplain⟩
      intro hmem
      rw [ExtTreeMap.mem_iff_isSome_getElem?, Option.isSome_iff_exists] at hmem
      obtain ⟨secret, hlookup⟩ := hmem
      rw [request.secret_not_plain hvalid hlookup] at hplain
      cases hplain
    · exact .inl hsecret

theorem planned_environment [Primitives] {process : ProcessId} {task : TaskInstanceId}
    {invocation : CommandInvocation} {paths : CommandPaths}
    {environment : MaterializedEnvironment} {policy : ContainerRunPolicy}
    {plan mounted : LinuxCommandRunPlan} {systemPackageDir : Option String}
    (hplan : planMaterializedLocalCheckoutRun process task invocation paths environment policy =
      .ok plan)
    (hmounted : mountSystemPackage plan systemPackageDir = .ok mounted) :
    mounted.run.environment = invocation.environmentVariables := by
  have hplanned : plan.run.environment = invocation.environmentVariables := by
    unfold planMaterializedLocalCheckoutRun at hplan
    split at hplan
    · cases hplan
    · cases hplan
      rfl
  rw [← hplanned]
  unfold mountSystemPackage at hmounted
  split at hmounted
  · cases hmounted
    rfl
  split at hmounted
  · cases hmounted
  split at hmounted
  · cases hmounted
  · cases hmounted
    rfl

theorem startProcess_eq_ok {node child : ProcessEnvironment} {command : PodmanCommand}
    (hok : startProcess node command = .ok child) (name : String) :
    child name = (command.environment[name]? <|> node name) := by
  simp only [startProcess] at hok
  split at hok
  · cases hok
  · cases hok
    rfl

section Run

variable [Primitives] {process : ProcessId} {task : TaskInstanceId} {host : CommandHost}
  {paths : CommandPaths} {environment : MaterializedEnvironment} {policy : ContainerRunPolicy}
  {node child : ProcessEnvironment} {request : WasmHostCommandRequest}

/-- The runtime sees what the guest sets, and the node's value elsewhere. -/
theorem child_environment
    (hrun : runCommand process task host paths environment policy node request = .ok child) :
    (∀ name value, GuestSets host request name value → child name = some value) ∧
      ∀ name, (∀ value, ¬ GuestSets host request name value) → child name = node name := by
  unfold runCommand at hrun
  simp only [bind_eq_ok, mapError_eq_ok, refuseIf_eq_ok] at hrun
  obtain ⟨_, hvalid, _, -, _, -, _, -, ⟨configured, guestVariables⟩, hinject, plan, hplan,
    mounted, hmounted, hstart⟩ := hrun
  have hlookup := injected_lookup_iff hvalid hinject
  have hchild : ∀ name, child name = (guestVariables[name]? <|> node name) := by
    intro name
    rw [startProcess_eq_ok hstart name, planned_environment hplan hmounted]
  constructor
  · intro name value hsets
    rw [hchild, (hlookup name value).mpr hsets]
    rfl
  · intro name hunset
    have hnone : guestVariables[name]? = none := by
      rw [Option.eq_none_iff_forall_ne_some]
      exact fun value hsome => hunset value ((hlookup name value).mp hsome)
    rw [hchild, hnone]
    rfl

/-- The runtime process has the node's value for every name it interprets
exactly when the guest sets such a name only to the value the node has. -/
theorem interpreted_variables_unchanged_iff
    (hrun : runCommand process task host paths environment policy node request = .ok child) :
    (∀ name, interpretedByRuntime name → child name = node name) ↔
      ∀ name value, interpretedByRuntime name → GuestSets host request name value →
        node name = some value := by
  obtain ⟨hset, hunset⟩ := child_environment hrun
  constructor
  · intro hsame name value hname hsets
    rw [← hsame name hname, hset name value hsets]
  · intro hguest name hname
    by_cases hsets : ∃ value, GuestSets host request name value
    · obtain ⟨value, hsets⟩ := hsets
      rw [hset name value hsets, hguest name value hname hsets]
    · exact hunset name (not_exists.mp hsets)

end Run

/-- A guest that only sets `MODE` leaves the runtime its own variables. -/
theorem plain_variable_stays_inside :
    letI := Primitives.sample
    let request : WasmHostCommandRequest :=
      { abiVersion := 1
        program := "true"
        args := []
        workingDirectory := "/workspace"
        environmentVariables := (∅ : OrderedMap String String).insert "MODE" "fast"
        secretEnvironmentVariables := ∅
        timeoutMs := 1000
        network := .disabled }
    let host : CommandHost := ⟨true, false, some "env", [], fun _ => .error "unavailable"⟩
    let node : ProcessEnvironment := fun name => if name = "PATH" then some "/usr/bin" else none
    ∃ child, runCommand ⟨"process", by decide⟩ ⟨"task", by decide⟩ host
        ⟨"/src", "/out", none⟩ ⟨.linuxRootlessPodman, "image"⟩ {} node request = .ok child ∧
      ∀ name, interpretedByRuntime name → child name = node name := by
  let := Primitives.sample
  intro request host node
  have hok : (runCommand ⟨"process", by decide⟩ ⟨"task", by decide⟩ host
      ⟨"/src", "/out", none⟩ ⟨.linuxRootlessPodman, "image"⟩ {} node request).isOk := by
    decide +kernel
  cases hrun : runCommand ⟨"process", by decide⟩ ⟨"task", by decide⟩ host
      ⟨"/src", "/out", none⟩ ⟨.linuxRootlessPodman, "image"⟩ {} node request with
  | error message =>
    rw [hrun] at hok
    cases hok
  | ok child =>
    refine ⟨child, rfl, (interpreted_variables_unchanged_iff hrun).mpr ?_⟩
    rintro name value hname (hplain | ⟨secret, hsecret, -⟩)
    · have hmode : name = "MODE" := by
        simp only [request, ExtTreeMap.getElem?_insert] at hplain
        split at hplain
        · rename_i hcompare
          exact (LawfulEqCmp.compare_eq_iff_eq.mp hcompare).symm
        · simp at hplain
      subst hmode
      exact absurd hname (by decide)
    · simp [request] at hsecret

/-- A guest that sets `LD_PRELOAD` sets it for the runtime process on the host. -/
theorem guest_sets_loader_variable :
    letI := Primitives.sample
    let request : WasmHostCommandRequest :=
      { abiVersion := 1
        program := "true"
        args := []
        workingDirectory := "/workspace"
        environmentVariables :=
          (∅ : OrderedMap String String).insert "LD_PRELOAD" "/workspace/evil.so"
        secretEnvironmentVariables := ∅
        timeoutMs := 1000
        network := .disabled }
    let host : CommandHost := ⟨true, false, some "env", [], fun _ => .error "unavailable"⟩
    let started := runCommand ⟨"process", by decide⟩ ⟨"task", by decide⟩ host
      ⟨"/src", "/out", none⟩ ⟨.linuxRootlessPodman, "image"⟩ {} (fun _ => none) request
    interpretedByRuntime "LD_PRELOAD" ∧ request.validate.isOk ∧
      (started.toOption.map fun child => child "LD_PRELOAD") =
        some (some "/workspace/evil.so") := by
  decide +kernel

end Clusterflux
