import Clusterflux.Core.Digests
import Clusterflux.Verification.ArtifactRetention

/-!
# Artifact paths and artifact ids

The id of an artifact is its path with colons for slashes.  Paths may have colons of
their own, so two paths can name one artifact.
-/

namespace Clusterflux

open OrderedMaps

/-- The paths differ at most in having a slash where the other has a colon. -/
def VfsPath.Alike (left right : VfsPath) : Prop :=
  List.Forall₂ (fun here there =>
    here = there ∨ here = '/' ∧ there = ':' ∨ here = ':' ∧ there = '/')
    left.path.toList right.path.toList

/-- How the characters of a path appear in an id. -/
def idCharacter (character : Char) : Char := if character = '/' then ':' else character

theorem idCharacter_eq_iff {here there : Char} : idCharacter here = idCharacter there ↔
    here = there ∨ here = '/' ∧ there = ':' ∨ here = ':' ∧ there = '/' := by
  unfold idCharacter
  split_ifs with hhere hthere hthere
  · simp [hhere, hthere]
  · have hne : ¬ '/' = there := fun heq => hthere heq.symm
    simp [hhere, hne, eq_comm]
  · simp [hhere, hthere]
  · simp [hhere, hthere]

theorem VfsPath.alike_iff {left right : VfsPath} : left.Alike right ↔
    left.path.toList.map idCharacter = right.path.toList.map idCharacter := by
  rw [← List.forall₂_eq_eq_eq, List.forall₂_map_left_iff, List.forall₂_map_right_iff, Alike]
  simp only [idCharacter_eq_iff]

theorem artifactIdFromPath_eq_ok {path : VfsPath} {artifact : ArtifactId}
    (hartifact : artifactIdFromPath path = .ok artifact) :
    path.path.toList.map idCharacter =
      "/vfs/artifacts/".toList.map idCharacter ++ artifact.value.toList := by
  rw [artifactIdFromPath] at hartifact
  split at hartifact
  · cases hartifact
  rename_i value hvalue
  split_ifs at hartifact
  split at hartifact
  swap
  · cases hartifact
  rename_i parsed hparsed
  obtain rfl := Except.ok.inj hartifact
  have hname : parsed.value.toList = value.toList.map idCharacter := by
    rw [Id.tryNew_eq_ok_iff.mp hparsed, String.toList_ofList]
    rfl
  rw [← append_of_stripStart hvalue, String.toList_append, List.map_append, hname]

theorem artifactIds_eq_iff {left right : VfsPath} {leftId rightId : ArtifactId}
    (hleft : artifactIdFromPath left = .ok leftId)
    (hright : artifactIdFromPath right = .ok rightId) :
    leftId = rightId ↔ left.Alike right := by
  rw [VfsPath.alike_iff, artifactIdFromPath_eq_ok hleft, artifactIdFromPath_eq_ok hright,
    List.append_cancel_left_eq, String.toList_inj, Id.value_injective.eq_iff]

/-- Publishing under one key replaces nothing that stands under the other: neither
the metadata with its locations nor the holds. -/
def ArtifactRegistry.PublishesBeside (published other : ArtifactScopeKey) : Prop :=
  ∀ (registry next : ArtifactRegistry) flush pinned protectedProcesses, flush.key = published →
    registry.flushMetadataWithProtectedProcesses flush pinned protectedProcesses = .ok next →
      (∀ metadata, next.artifacts[other]? = some metadata →
        registry.artifacts[other]? = some metadata) ∧
      ∀ holds, next.holds[other]? = some holds → registry.holds[other]? = some holds

theorem ArtifactRegistry.publishesBeside_of_ne {published other : ArtifactScopeKey}
    (hne : published ≠ other) : PublishesBeside published other := by
  rintro registry next flush pinned protectedProcesses rfl hflush
  obtain ⟨eviction, -, rfl⟩ := flushMetadata_eq_ok_iff.mp hflush
  constructor
  · intro metadata hlookup
    rw [storeFlush, artifacts_addHold] at hlookup
    rcases getElem?_insert_eq_some_iff.mp hlookup with ⟨heq, -⟩ | ⟨-, hlookup⟩
    · exact absurd heq hne
    · cases eviction with
      | none => exact hlookup
      | some key => exact (getElem?_erase_eq_some_iff.mp hlookup).2
  · intro holds hlookup
    rcases lookup_holds_addHold hlookup with hlookup | ⟨heq, -⟩
    · cases eviction with
      | none => exact hlookup
      | some key => exact (getElem?_erase_eq_some_iff.mp hlookup).2
    · exact absurd heq.symm hne

/-- Two different paths are published as different artifacts, beside each other, if
and only if they differ in more than slashes and colons. -/
theorem artifact_ids_unique_iff (tenant : TenantId) (project : ProjectId)
    {left right : VfsPath} {leftId rightId : ArtifactId}
    (hleft : artifactIdFromPath left = .ok leftId)
    (hright : artifactIdFromPath right = .ok rightId) :
    (leftId ≠ rightId ∧ ArtifactRegistry.PublishesBeside ⟨tenant, project, leftId⟩
      ⟨tenant, project, rightId⟩) ↔ ¬ left.Alike right := by
  rw [← artifactIds_eq_iff hleft hright]
  constructor
  · exact And.left
  · intro hne
    refine ⟨hne, ArtifactRegistry.publishesBeside_of_ne fun heq => hne ?_⟩
    exact congrArg ArtifactScopeKey.artifact heq

namespace ArtifactPathSample

def slash : VfsPath := ⟨"/vfs/artifacts/app/bin", by decide⟩

def colon : VfsPath := ⟨"/vfs/artifacts/app:bin", by decide⟩

def dot : VfsPath := ⟨"/vfs/artifacts/app.bin", by decide⟩

def artifact : ArtifactId := ⟨"app:bin", by decide⟩

def dotted : ArtifactId := ⟨"app.bin", by decide⟩

end ArtifactPathSample

open ArtifactPathSample in
theorem dotted_path_is_published_beside : artifact ≠ dotted ∧ ArtifactRegistry.PublishesBeside
      ⟨⟨"tenant", by decide⟩, ⟨"project", by decide⟩, artifact⟩
      ⟨⟨"tenant", by decide⟩, ⟨"project", by decide⟩, dotted⟩ := by
  have hslash : artifactIdFromPath slash = .ok artifact := by decide
  have hdot : artifactIdFromPath dot = .ok dotted := by decide
  apply (artifact_ids_unique_iff _ _ hslash hdot).mpr
  rw [VfsPath.alike_iff]
  decide

open ArtifactPathSample in
/-- Two different paths with one id. -/
theorem slash_and_colon_name_one_artifact :
    slash ≠ colon ∧ artifactIdFromPath slash = .ok artifact ∧
      artifactIdFromPath colon = .ok artifact := by
  decide

end Clusterflux
