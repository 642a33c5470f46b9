import Clusterflux.Core.Encoding
import Clusterflux.Foundation.Checks

/-!
# Starting a guest command

A guest asks its node to run a command.  The request is checked, secrets are put
into its environment, the run is planned as one call of the container runtime,
and the runtime is started as a child process of the node.  The values of guest
variables do not stand on the command line: the plan names them there and hands
their values to the runtime in its own environment.
-/

namespace Clusterflux

open JsonText (Json)
open Checks LengthFraming

def wasmTaskAbiVersion : ℕ := 1

def maxWasmTaskEnvelopeBytes : ℕ := 64 * 1024

inductive CommandNetworkPolicy where
  | disabled
  | enabled
  deriving DecidableEq

inductive CommandBackendKind where
  | linuxRootlessPodman
  | windowsContainerdNerdctl
  | windowsCommandDev
  | stubbedWindowsSandbox
  deriving DecidableEq

structure WasmHostCommandRequest where
  abiVersion : ℕ
  program : String
  args : List String
  workingDirectory : String
  environmentVariables : OrderedMap String String
  /-- The task secret each environment variable is set to. -/
  secretEnvironmentVariables : OrderedMap String String
  timeoutMs : ℕ
  network : CommandNetworkPolicy

/-! ## Validation -/

/-- `path.split('/').any(|component| component == "..")`. -/
def hasParentComponent (path : String) : Bool :=
  (path.toList.splitOn '/').any (· == ['.', '.'])

def validateCommandWorkingDirectory (path : String) : Except String Unit :=
  if !(path == "/workspace" || startsWith path "/workspace/" ||
        path == "/clusterflux/output" || startsWith path "/clusterflux/output/") ||
      path.utf8ByteSize > 4096 || path.toList.contains '\x00' || path.toList.contains '\\' ||
      hasParentComponent path then
    .error "Wasm command working directory must stay under /workspace or /clusterflux/output"
  else .ok ()

def validEnvironmentName (name : String) : Bool :=
  match name.toList with
  | [] => false
  | first :: rest =>
    (first == '_' || first.isAlpha) && rest.all fun char => char == '_' || char.isAlphanum

def validSecretName (name : String) : Bool :=
  !name.isEmpty && name.utf8ByteSize ≤ 128 &&
    name.toList.all fun char => char.isAlphanum || char == '-' || char == '_' || char == '.'

def validateSecretNames (names : List String) : Except String Unit :=
  if names.length > 16 then .error "task requests more than 16 secrets"
  else if names.all validSecretName && names.Nodup then .ok ()
  else .error "task secret name is invalid or duplicated"

/-- The bytes of an environment, summed up variable by variable. -/
def environmentBytes : List (String × String) → ℕ → Except String ℕ
  | [], total => .ok total
  | (name, value) :: rest, total =>
    if !validEnvironmentName name || value.toList.contains '\x00' then
      .error "Wasm command environment contains an invalid variable"
    else if name.utf8ByteSize > 128 || value.utf8ByteSize > 16 * 1024 then
      .error "Wasm command environment variable exceeds ABI limits"
    else environmentBytes rest (total + name.utf8ByteSize + value.utf8ByteSize)

def CommandNetworkPolicy.name : CommandNetworkPolicy → String
  | .disabled => "disabled"
  | .enabled => "enabled"

/-- A map of texts as a JSON object. -/
def encodeTexts (texts : OrderedMap String String) : Json :=
  .object (texts.toList.map fun (name, value) => (name, .string value))

namespace WasmHostCommandRequest

def encode (request : WasmHostCommandRequest) : Json :=
  .object
    [("abi_version", .number (.integer request.abiVersion)),
      ("program", .string request.program),
      ("args", .array (request.args.map .string)),
      ("working_directory", .string request.workingDirectory),
      ("environment_variables", encodeTexts request.environmentVariables),
      ("secret_environment_variables", encodeTexts request.secretEnvironmentVariables),
      ("timeout_ms", .number (.integer request.timeoutMs)),
      ("network", .string request.network.name)]

def validate (request : WasmHostCommandRequest) : Except String Unit := do
  refuseIf (request.abiVersion ≠ wasmTaskAbiVersion)
    ("unsupported Wasm command ABI version " ++ toString request.abiVersion ++
      "; expected " ++ toString wasmTaskAbiVersion)
  refuseIf (isBlank request.program || request.program.utf8ByteSize > 4096)
    "Wasm command program is invalid"
  refuseIf (request.args.length > 1024 || request.args.any (·.utf8ByteSize > 16 * 1024))
    "Wasm command argument list exceeds ABI limits"
  validateCommandWorkingDirectory request.workingDirectory
  refuseIf (request.environmentVariables.size > 128)
    "Wasm command environment exceeds 128 variables"
  refuseIf (request.secretEnvironmentVariables.size > 16 ||
      request.secretEnvironmentVariables.keys.any fun name =>
        !validEnvironmentName name || request.environmentVariables.contains name)
    "Wasm command secret environment is invalid or too large"
  validateSecretNames request.secretEnvironmentVariables.values
  let bytes ← environmentBytes request.environmentVariables.toList 0
  refuseIf (bytes > 32 * 1024) "Wasm command environment exceeds the 32 KiB limit"
  refuseIf (¬ (1000 ≤ request.timeoutMs ∧ request.timeoutMs ≤ 60 * 60 * 1000))
    "Wasm command timeout must be between 1 second and 1 hour"
  refuseIf ((String.ofList request.encode.text).utf8ByteSize > maxWasmTaskEnvelopeBytes)
    "Wasm command request exceeds the task ABI limit"

end WasmHostCommandRequest

/-! ## Secrets -/

/-- What the node has at hand when a guest asks for a command. -/
structure CommandHost where
  allowCommand : Bool
  allowNetwork : Bool
  environmentId : Option String
  requestedSecrets : List String
  /-- The value of a secret as asked for, checked and decoded, or why it is not
  available. -/
  secretGrant : String → Except String String

/-- Puts the granted secrets into the environment, in the order of the variables
they are for, and collects their values. -/
def injectSecrets (host : CommandHost) :
    List (String × String) → List String → OrderedMap String String →
      Except String (List String × OrderedMap String String)
  | [], configured, environment => .ok (configured, environment)
  | (name, secret) :: rest, configured, environment =>
    if host.requestedSecrets.contains secret then do
      let value ← host.secretGrant secret
      injectSecrets host rest (configured ++ [value]) (environment.insert name value)
    else .error ("command requested undeclared task secret `" ++ secret ++ "`")

/-! ## The run plan -/

structure CommandInvocation where
  program : String
  args : List String
  workingDirectory : String
  environmentVariables : OrderedMap String String
  network : CommandNetworkPolicy

structure MaterializedEnvironment where
  backend : CommandBackendKind
  localReference : String

structure ContainerRunPolicy where
  cpuCount : ℕ := 2
  memoryBytes : ℕ := 2 * 1024 * 1024 * 1024
  pidsLimit : ℕ := 256
  immutableRoot : Bool := false
  pullNever : Bool := false
  keepId : Option (ℕ × ℕ) := none
  tmpfs : Option String := none
  fileSizeBytes : Option ℕ := none

/-- A command of the container runtime and the variables set for its process. -/
structure PodmanCommand where
  program : String
  args : List String
  environment : OrderedMap String String

structure LinuxCommandRunPlan where
  imageTag : String
  run : PodmanCommand

inductive BackendError where
  | command (message : String)
  | unsupportedEnvironment

def BackendError.text : BackendError → String
  | .command message => "command failed to execute: " ++ message
  | .unsupportedEnvironment => "unsupported environment kind for backend"

def podmanNetwork : CommandNetworkPolicy → String
  | .disabled => "none"
  | .enabled => "pasta"

/-- The name of the container: half of the digest of the process and the task. -/
def containerIdentity [Primitives] (process : ProcessId) (task : TaskInstanceId) : String :=
  "clusterflux-" ++ String.ofList
    ((Primitives.sha256Hex (utf8 process.value ++ 0 :: utf8 task.value)).toList.take 24)

/-- The arguments a policy puts right after `run --rm`.  Each is put in front of
those before it. -/
def ContainerRunPolicy.arguments (policy : ContainerRunPolicy) : List String :=
  (match policy.fileSizeBytes with
    | some size => ["--ulimit", "fsize=" ++ toString size ++ ":" ++ toString size]
    | none => []) ++
  (match policy.tmpfs with
    | some tmpfs => ["--tmpfs", tmpfs]
    | none => []) ++
  (match policy.keepId with
    | some (uid, gid) => ["--userns=keep-id:uid=" ++ toString uid ++ ",gid=" ++ toString gid]
    | none => []) ++
  (if policy.immutableRoot then ["--read-only"] else []) ++
  (if policy.pullNever then ["--pull=never"] else [])

/-- The checkout and the directory for results on the host. -/
structure CommandPaths where
  checkout : String
  outputRoot : String
  systemPackageDir : Option String

section Plan

variable [Primitives] (process : ProcessId) (task : TaskInstanceId)

def planMaterializedLocalCheckoutRun (invocation : CommandInvocation) (paths : CommandPaths)
    (environment : MaterializedEnvironment) (policy : ContainerRunPolicy) :
    Except BackendError LinuxCommandRunPlan :=
  if environment.backend ≠ .linuxRootlessPodman || isBlank environment.localReference then
    .error .unsupportedEnvironment
  else .ok
    { imageTag := environment.localReference
      run :=
        { program := "podman"
          args :=
            ["run", "--rm"] ++ policy.arguments ++
            ["--replace", "--name", containerIdentity process task,
              "--network", podmanNetwork invocation.network,
              "--cpus", toString policy.cpuCount,
              "--memory", toString policy.memoryBytes,
              "--pids-limit", toString policy.pidsLimit,
              "--security-opt", "no-new-privileges",
              "--cap-drop", "all",
              "--volume", paths.checkout ++ ":/workspace:ro,Z",
              "--volume", paths.outputRoot ++ ":/clusterflux/output:rw,Z",
              "--env", "CARGO_TARGET_DIR=/clusterflux/output/target",
              "--workdir", invocation.workingDirectory] ++
            invocation.environmentVariables.keys.flatMap (fun name => ["--env", name]) ++
            environment.localReference :: invocation.program :: invocation.args
          -- every variable named on the command line, with its value
          environment := invocation.environmentVariables } }

/-- The verified system package is mounted in front of the image. -/
def mountSystemPackage (plan : LinuxCommandRunPlan) (systemPackageDir : Option String) :
    Except BackendError LinuxCommandRunPlan :=
  match systemPackageDir with
  | none => .ok plan
  | some directory =>
    if ¬ startsWith directory "/" then
      .error (.command "verified system package path must be absolute")
    else
      match plan.run.args.findIdx? (· = plan.imageTag) with
      | none => .error (.command "Podman run plan omitted its image")
      | some index => .ok { plan with run := { plan.run with
          args := plan.run.args.take index ++
            ["--volume", directory ++ ":/clusterflux/system:ro",
              "--env", "CLUSTERFLUX_SYSTEM_PACKAGE_DIR=/clusterflux/system",
              "--env", "CLUSTERFLUX_SYSTEM_COMPILER_IMAGE_ARCHIVE=" ++
                "/clusterflux/system/system-compiler-image.oci.tar"] ++
            plan.run.args.drop index } }

/-! ## The child process -/

/-- An environment as a process sees it. -/
abbrev ProcessEnvironment := String → Option String

/-- The child inherits the environment of the node; the variables of the command
are set over it.  A NUL byte in an argument or a variable stops the start. -/
def startProcess (node : ProcessEnvironment) (command : PodmanCommand) :
    Except BackendError ProcessEnvironment :=
  let texts := command.args ++ command.environment.toList.flatMap fun (name, value) => [name, value]
  if texts.any (·.toList.contains '\x00') then
    .error (.command "nul byte found in provided data")
  else .ok fun name => command.environment[name]? <|> node name

/-- From the request of the guest to the environment of the runtime process. -/
def runCommand (host : CommandHost) (paths : CommandPaths)
    (environment : MaterializedEnvironment) (policy : ContainerRunPolicy)
    (node : ProcessEnvironment) (request : WasmHostCommandRequest) :
    Except String ProcessEnvironment := do
  request.validate
  refuseIf (!host.allowCommand)
    "Wasm task did not declare Command capability or the selected node did not grant it"
  refuseIf (request.network = .enabled && !host.allowNetwork)
    "Wasm task requested network access without an explicit granted Network capability"
  refuseIf host.environmentId.isNone
    ("native commands require an explicit command-capable environment; attach one with " ++
      ".env(clusterflux::env!(\"name\"))")
  let (_, guestVariables) ← injectSecrets host request.secretEnvironmentVariables.toList []
    request.environmentVariables
  let invocation : CommandInvocation :=
    { program := request.program
      args := request.args
      workingDirectory := request.workingDirectory
      environmentVariables := guestVariables
      network := request.network }
  let plan ← (planMaterializedLocalCheckoutRun process task invocation paths environment
    policy).mapError BackendError.text
  let plan ← (mountSystemPackage plan paths.systemPackageDir).mapError BackendError.text
  (startProcess node plan.run).mapError BackendError.text

end Plan

end Clusterflux
