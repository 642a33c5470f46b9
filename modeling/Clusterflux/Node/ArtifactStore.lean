import Clusterflux.Core.Digests
import Clusterflux.Foundation.Checks
import Clusterflux.Foundation.Program

/-!
# The artifact store of a node

A node keeps the outputs of its tasks as files of one directory, each named by the
identifier of its artifact.  Names that begin with a dot are its own: files that are
being written, and the directory of partial downloads.  The collector looks at the
others, the oldest first.

Calls of the file system succeed wherever the files are as they have to be.
-/

namespace Clusterflux.NodeArtifacts

open Checks LengthFraming StatefulProgram

def maxNodeArtifactBytes : ℕ := 64 * 1024 * 1024 * 1024

structure NodeArtifactRetentionLimits where
  maxBytes : ℕ
  maxCount : ℕ
  maxAgeSeconds : ℕ

structure NodeArtifactGcReport where
  retainedCount : ℕ
  retainedBytes : ℕ
  evicted : List ArtifactId
  limitsSatisfied : Bool

structure RetainedArtifact where
  id : ArtifactId
  digest : Digest
  sizeBytes : ℕ
  /-- Its name in the directory of the store. -/
  path : String

/-! ## Files -/

inductive Inode where
  | file (content : Bytes) (modified : Option ℕ)
  | directory
  | symbolicLink

def Inode.isFile : Inode → Bool
  | .file .. => true
  | _ => false

abbrev Directory := OrderedMap String Inode

inductive NodeFault where
  | error (message : String)
  | panicked (message : String)

/-- A failure keeps what was done before it. -/
abbrev Store := EStateM NodeFault Directory

/-! ## Names -/

def isComponentCharacter (character : Char) : Bool :=
  character.isAlphanum || "._-".toList.contains character

def components (path : String) : List (List Char) := path.toList.splitOn '/'

def validateRelativePath (path : String) : Except String Unit :=
  refuseIf (path.isEmpty || path.utf8ByteSize > 240 || startsWith path "/" ||
      startsWith path "\\" || (components path).any fun component =>
        component.isEmpty || component == ['.'] || component == ['.', '.'] ||
          !component.all isComponentCharacter)
    "task output path must be a safe relative path"

def validateArtifactComponent (value label : String) (maxLen : ℕ) : Except String Unit :=
  refuseIf (isBlank value || value.utf8ByteSize > maxLen || !value.toList.all isComponentCharacter)
    (label ++ " is invalid")

/-- `ArtifactId::new`. -/
def newArtifactId (value : String) : Except NodeFault ArtifactId :=
  (Id.tryNew .artifact value).mapError fun reason =>
    .panicked (IdKind.artifact.parseError reason)

/-- `relative_path.replace('/', "_")`. -/
def artifactName (relativePath : String) : String :=
  String.ofList (relativePath.toList.map fun character =>
    if character = '/' then '_' else character)

/-! ## Hashing -/

variable [Primitives]

def copyAndHash (content : Bytes) (limit : ℕ) : Except String (Digest × ℕ) :=
  if content.length > limit then
    .error ("artifact exceeds bounded size limit of " ++ toString limit ++ " bytes")
  else do
    let digest ← Digest.fromSha256Hex (Primitives.sha256Hex content)
    return (digest, content.length)

/-! ## Task outputs -/

/-- The files of a task, by their paths relative to its output root. -/
abbrev Outputs := String → Option Inode

/-- The path of each component, from the root down. -/
def componentPaths (path : String) : List String :=
  (List.range (components path).length).map fun depth =>
    String.ofList (['/'].intercalate ((components path).take (depth + 1)))

def rejectSymlinkComponents (outputs : Outputs) (path : String) : Except String Unit :=
  (componentPaths path).forM fun component =>
    match outputs component with
    | none => .error "No such file or directory (os error 2)"
    | some .symbolicLink => .error "task output path rejects symbolic-link components"
    | some _ => .ok ()

/-- No component of the path is a link, so it stays below its root. -/
def confinedOutputFile (outputs : Outputs) (relativePath : String) : Except String Unit := do
  validateRelativePath relativePath
  rejectSymlinkComponents outputs relativePath

def openRegularReadonly (inode : Option Inode) (label : String) : Except String Bytes :=
  match inode with
  | some (.file content _) => .ok content
  | some _ => .error (label ++ " must be a regular non-symlink file")
  | none => .error "No such file or directory (os error 2)"

/-! ## Looking up -/

/-- The name under which a downloaded artifact is installed. -/
def interchangeDestination (id : ArtifactId) : Except String String := do
  validateArtifactComponent id.value "artifact id" 256
  return id.value

def metadata (directory : Directory) (id : ArtifactId) :
    Except String (Option RetainedArtifact) := do
  validateArtifactComponent id.value "artifact id" 256
  match directory[id.value]? with
  | none => return none
  | some (.file content _) =>
    refuseIf (content.length > maxNodeArtifactBytes)
      ("retained artifact exceeds node artifact limit of " ++ toString maxNodeArtifactBytes ++
        " bytes")
    let (digest, sizeBytes) ← copyAndHash content maxNodeArtifactBytes
    return some ⟨id, digest, sizeBytes, id.value⟩
  | some _ => .error "retained artifact path is not a regular non-symlink file"

/-! ## Publication -/

/-- `create_new` refuses a name that is taken. -/
def createNewPrivateFile (name : String) (now : ℕ) : Store Unit := do
  let directory ← get
  ensure (directory[name]? = none) (.error "File exists (os error 17)")
  set (directory.insert name (.file [] (some now)))

/-- `let _ = fs::remove_file(name)`. -/
def removeFile (name : String) (directory : Directory) : Directory :=
  match directory[name]? with
  | some .directory => directory
  | _ => directory.erase name

/-- Links the written file to the name of the artifact. -/
def publish (temporary : String) (id : ArtifactId) (file : Inode) (digest : Digest) (size : ℕ) :
    Store RetainedArtifact := do
  let directory ← get
  match directory[id.value]? with
  | none =>
    set (removeFile temporary (directory.insert id.value file))
    return ⟨id, digest, size, id.value⟩
  | some _ =>
    let existing ← liftExcept (metadata directory id) .error
    let existing ← orFail existing (.error "retained artifact disappeared during flush")
    ensure (existing.digest = digest ∧ existing.sizeBytes = size)
      (.error "retained artifact path has conflicting bytes")
    return existing

def flush (outputs : Outputs) (relativePath temporary : String) (now : ℕ) :
    Store RetainedArtifact := do
  let content ← liftExcept (openRegularReadonly (outputs relativePath) "task output") .error
  ensure (content.length ≤ maxNodeArtifactBytes)
    (.error ("task output is " ++ toString content.length ++ " bytes; node artifact limit is " ++
      toString maxNodeArtifactBytes ++ " bytes"))
  createNewPrivateFile temporary now
  let (digest, size) ← liftExcept (copyAndHash content maxNodeArtifactBytes) .error
  modify fun directory => directory.insert temporary (.file content (some now))
  let hex ← orFail (stripStart digest.text "sha256:") (.error "task output digest is not SHA-256")
  let id ← liftExcept (newArtifactId (artifactName relativePath ++ "-" ++ hex)) fun fault => fault
  publish temporary id (.file content (some now)) digest size

/-- The temporary file is removed whatever the outcome, unless the action panics. -/
def removingTemporary {α : Type} (temporary : String) (action : Store α) : Store α :=
  fun directory =>
    match action directory with
    | .ok value after => .ok value (removeFile temporary after)
    | .error (.error message) after => .error (.error message) (removeFile temporary after)
    | .error (.panicked message) after => .error (.panicked message) after

/-- The name of the temporary file, from the process and a counter. -/
def temporaryName (processId counter : ℕ) : String :=
  ".flush." ++ toString processId ++ "." ++ toString counter ++ ".tmp"

def retainOutputFile (outputs : Outputs) (relativePath : String) (processId counter now : ℕ) :
    Store RetainedArtifact := do
  liftExcept (confinedOutputFile outputs relativePath) .error
  liftExcept (validateArtifactComponent (artifactName relativePath) "artifact name" 240) .error
  let temporary := temporaryName processId counter
  removingTemporary temporary (flush outputs relativePath temporary now)

omit [Primitives]

/-! ## Listing -/

/-- What a function finds in the entries of a directory; the first failure ends the scan. -/
def scan {α : Type} (find : String × Inode → Except NodeFault (Option α)) :
    List (String × Inode) → Except NodeFault (List α)
  | [] => .ok []
  | entry :: entries => do
      let found ← find entry
      let others ← scan find entries
      return found.toList ++ others

def listedId : String × Inode → Except NodeFault (Option ArtifactId)
  | (name, inode) =>
    if !inode.isFile then .ok none
    else if startsWith name "." then .ok none
    else do
      (validateArtifactComponent name "artifact id" 256).mapError .error
      return some (← newArtifactId name)

def artifactIds (directory : Directory) : Except NodeFault (List ArtifactId) := do
  let ids ← scan listedId directory.toList
  return ids.mergeSort fun left right => (compare left right).isLE

/-! ## Collection -/

structure StoredArtifactEntry where
  id : ArtifactId
  path : String
  sizeBytes : ℕ
  modifiedEpochSeconds : ℕ
  deriving DecidableEq

def storedEntry : String × Inode → Except NodeFault (Option StoredArtifactEntry)
  | (name, inode) =>
    if startsWith name "." then .ok none
    else do
      (validateArtifactComponent name "artifact id" 256).mapError .error
      match inode with
      | .file content modified =>
        let id ← newArtifactId name
        return some ⟨id, name, content.length, modified.getD 0⟩
      | _ => return none

def storedEntries (directory : Directory) : Except NodeFault (List StoredArtifactEntry) :=
  scan storedEntry directory.toList

/-- The oldest first, and then by identifier. -/
def StoredArtifactEntry.notAfter (left right : StoredArtifactEntry) : Bool :=
  ((compare left.modifiedEpochSeconds right.modifiedEpochSeconds).then
    (compare left.id right.id)).isLE

/-- `total.checked_add(size)` over all entries. -/
def checkedTotal (entries : List StoredArtifactEntry) : Option ℕ :=
  entries.foldlM (fun total entry =>
    if total + entry.sizeBytes ≤ u64Max then some (total + entry.sizeBytes) else none) 0

/-- What the collector has done so far. -/
structure Sweep where
  directory : Directory
  retainedCount : ℕ
  retainedBytes : ℕ
  evicted : List ArtifactId

def Sweep.step (limits : NodeArtifactRetentionLimits) (pinned : Finset ArtifactId)
    (ageCutoff : ℕ) (sweep : Sweep) (entry : StoredArtifactEntry) : Sweep :=
  let expired := entry.modifiedEpochSeconds ≤ ageCutoff
  let overCount := sweep.retainedCount > limits.maxCount
  let overBytes := sweep.retainedBytes > limits.maxBytes
  if ¬ (expired ∨ overCount ∨ overBytes) ∨ entry.id ∈ pinned then sweep
  else
    { directory := removeFile entry.path sweep.directory
      retainedCount := sweep.retainedCount - 1
      retainedBytes := sweep.retainedBytes - entry.sizeBytes
      evicted := sweep.evicted ++ [entry.id] }

def garbageCollect (limits : NodeArtifactRetentionLimits) (pinned : Finset ArtifactId)
    (nowEpochSeconds : ℕ) : Store NodeArtifactGcReport := do
  let directory ← get
  let entries ← liftExcept (storedEntries directory) fun fault => fault
  let entries := entries.mergeSort StoredArtifactEntry.notAfter
  let ageCutoff := nowEpochSeconds - limits.maxAgeSeconds
  let retainedBytes ← orFail (checkedTotal entries)
    (.error "node artifact byte accounting overflowed")
  let sweep := entries.foldl (Sweep.step limits pinned ageCutoff)
    ⟨directory, entries.length, retainedBytes, []⟩
  set sweep.directory
  let retainedIds ← liftExcept (artifactIds sweep.directory) fun fault => fault
  let retainedHasExpired := entries.any fun entry =>
    entry.id ∈ retainedIds && entry.modifiedEpochSeconds ≤ ageCutoff
  return {
    retainedCount := sweep.retainedCount
    retainedBytes := sweep.retainedBytes
    evicted := sweep.evicted
    limitsSatisfied := sweep.retainedCount ≤ limits.maxCount &&
      sweep.retainedBytes ≤ limits.maxBytes && !retainedHasExpired }

end Clusterflux.NodeArtifacts
