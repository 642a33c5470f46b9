import Clusterflux.Core.Encoding
import Clusterflux.Foundation.StableSorting

/-!
# Bundle identities

The identity of a bundle is the digest of a list of texts: those every bundle has
once, then the entrypoints, the environments and the selected inputs, each sorted.
-/

namespace Clusterflux

open LengthFraming StableSorting

inductive SourceTransferMode where
  | requiredContent
  | explicitSnapshotChunks
  deriving DecidableEq

/-- Which bytes of a source may leave the node that has them. -/
structure SourceTransferPolicy where
  localSourceBytesRemainNodeLocal : Bool
  coordinatorReceivesSourceBytesByDefault : Bool
  defaultFullRepoTarball : Bool
  allowedRemoteTransfer : Finset SourceTransferMode

/-- The `Debug` text of a set of modes, in the order in which they are declared. -/
def transferModesText (required explicit : Bool) : String :=
  ", ".intercalate ((if required then ["RequiredContent"] else []) ++
    if explicit then ["ExplicitSnapshotChunks"] else [])

/-- The derived `Debug` text. -/
def SourceTransferPolicy.debugText (policy : SourceTransferPolicy) : String :=
  "SourceTransferPolicy \x7b local_source_bytes_remain_node_local: " ++
    (toString policy.localSourceBytesRemainNodeLocal ++
    (", coordinator_receives_source_bytes_by_default: " ++
    (toString policy.coordinatorReceivesSourceBytesByDefault ++
    (", default_full_repo_tarball: " ++ (toString policy.defaultFullRepoTarball ++
    (", allowed_remote_transfer: \x7b" ++
    (transferModesText (.requiredContent ∈ policy.allowedRemoteTransfer)
      (.explicitSnapshotChunks ∈ policy.allowedRemoteTransfer) ++ "\x7d \x7d")))))))

structure SelectedInput where
  path : String
  digest : Digest

/-- What the identity of a bundle is computed from. -/
structure BundleIdentityInputs where
  wasmCode : Digest
  taskAbi : Digest
  entrypoints : List String
  defaultEntrypoint : String
  environments : List EnvironmentResource
  sourceProviderManifest : Digest
  sourceTransferPolicy : SourceTransferPolicy
  selectedInputs : List SelectedInput

namespace BundleIdentityInputs

variable (inputs : BundleIdentityInputs)

/-- The parts every bundle has once. -/
def fixedParts : List String :=
  [ "bundle:v1", inputs.wasmCode.text, inputs.taskAbi.text, inputs.sourceProviderManifest.text,
    inputs.defaultEntrypoint, inputs.sourceTransferPolicy.debugText ]

/-- The sorted lists, one after the other. -/
def listedParts : List String :=
  sortBy id inputs.entrypoints ++
    ((sortBy EnvironmentResource.name inputs.environments).flatMap
      (fun environment => [environment.name, environment.kind.name, environment.digest.text]) ++
    (sortBy SelectedInput.path inputs.selectedInputs).flatMap
      fun input => [input.path, input.digest.text])

def identity [Primitives] : Digest :=
  Digest.fromParts ((inputs.fixedParts ++ inputs.listedParts).map utf8)

end BundleIdentityInputs

end Clusterflux
