import Clusterflux.Core.Execution

/-!
# Virtual file system paths and restart checkpoints

A checked path names an object of the virtual file system.  A checkpoint keeps
the boundary a task was started from, so that a restart can be compared with it.
-/

namespace Clusterflux

def maxVfsPathBytes : ℕ := 4096

/-- The reason a path is refused, or nothing. -/
def vfsPathProblem (path : String) : Option String :=
  if !startsWith path "/vfs/" then some "path must start with /vfs/"
  else if path.utf8ByteSize > maxVfsPathBytes then
    some "path exceeds the 4096-byte protocol limit"
  else if path.toList.any isControl then some "control characters are forbidden"
  else if path.toList.contains '\\' then some "backslashes are forbidden"
  else if path.toList.length = 5 then some "path after /vfs/ must not be empty"
  else if ((path.toList.drop 5).splitOn '/').any
      (fun component => component = [] ∨ component = ['.'] ∨ component = ['.', '.']) then
    some "empty, '.', and '..' path components are forbidden"
  else none

structure VfsPath where
  path : String
  valid : vfsPathProblem path = none
  deriving DecidableEq

/-- An error carries the message `VfsError` prints. -/
def VfsPath.new (path : String) : Except String VfsPath :=
  match h : vfsPathProblem path with
  | none => .ok ⟨path, h⟩
  | some reason => .error ("invalid VFS path " ++ path.quote ++ ": " ++ reason)

/-- The artifact a path under `/vfs/artifacts/` names. -/
def artifactIdFromPath (path : VfsPath) : Except String ArtifactId :=
  match stripStart path.path "/vfs/artifacts/" with
  | none => .error "path must start with the exact /vfs/artifacts/ prefix"
  | some value =>
    if value.isEmpty then .error "path must name an artifact after /vfs/artifacts/"
    else
      match Id.tryNew .artifact
          (String.ofList (value.toList.map fun char => if char = '/' then ':' else char)) with
      | .ok artifact => .ok artifact
      | .error reason => .error ("mapped artifact identifier is invalid: " ++
          IdKind.artifact.parseError reason)

structure VfsObject where
  path : VfsPath
  digest : Digest
  size : ℕ
  producer : TaskInstanceId
  node : NodeId

/-- The objects are listed in the order of their paths. -/
structure VfsManifest where
  epoch : ℕ
  producer : TaskInstanceId
  node : NodeId
  objects : List VfsObject
  largeBytesUploaded : Bool

/-! ## Restart checkpoints -/

/-- What must be unchanged for a task to restart from a checkpoint. -/
structure CheckpointBoundary where
  taskEntrypoint : String
  serializedArgs : Digest
  environmentDigest : Digest
  vfsEpoch : ℕ
  taskAbi : Digest

structure TaskCheckpoint where
  task : TaskInstanceId
  boundary : CheckpointBoundary
  vfsManifest : VfsManifest
  dependsOnLiveStack : Bool
  dependsOnLiveSocket : Bool
  dependsOnEphemeralArtifactDurability : Bool

example : (VfsPath.new "/vfs/artifacts/app").isOk ∧ ¬ (VfsPath.new "/vfs/a/../b").isOk := by
  decide

end Clusterflux
