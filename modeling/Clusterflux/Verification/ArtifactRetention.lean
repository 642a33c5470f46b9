import Clusterflux.Coordinator.ArtifactRegistry
import Clusterflux.Core.Digests
import Clusterflux.Foundation.OrderedMaps

/-!
# Artifact retention

Artifact metadata, holds and download links stand in three indexes.  A project
keeps a bounded number of entries, and a flush makes room by evicting one entry.
This module shows that whatever operations came before, the entry to go is one
that nothing refers to, so that holds and usable links always belong to a stored
artifact, and that no operation reaches into another project except to forget
links that have lapsed.
-/

namespace Clusterflux

open Checks LengthFraming OrderedMaps Std

/-! ## Token digests

The digest under which a link stands hashes the tenant and the project among the texts of
the download policy, and these only by their own digest. -/

theorem utf8ByteSize_toString_le {number : ℕ} (hnumber : number < 2 ^ 64) :
    (toString number).utf8ByteSize ≤ 20 := by
  rw [Nat.toString_eq_ofList_toDigits, String.utf8ByteSize_ofList, utf8Len_of_ascii]
  · exact Nat.toDigits_length 10 number 20 (by decide) (by omega)
  · intro digit hdigit
    have hrange := Nat.isDigit_of_mem_toDigits (by decide) (by decide) hdigit
    simp only [Char.isDigit, Bool.and_eq_true, decide_eq_true_eq] at hrange
    exact Char.utf8Size_eq_one_iff.mpr (UInt32.le_trans hrange.2 (by decide))

/-- No text of the entry is longer than an address space. -/
structure ArtifactMetadata.Addressable (metadata : ArtifactMetadata) : Prop where
  digest : metadata.digest.text.utf8ByteSize < 2 ^ 64
  size : metadata.size < 2 ^ 64

/-- What the token of a download link is made from. -/
structure DownloadToken where
  metadata : ArtifactMetadata
  source : StorageLocation
  actor : Actor
  policy : DownloadPolicy
  nonce : String
  expiresAtEpochSeconds : ℕ
  addressable : metadata.Addressable
  shortNonce : nonce.utf8ByteSize < 2 ^ 64
  expiry : expiresAtEpochSeconds < 2 ^ 64

namespace DownloadToken

variable [Primitives] (token : DownloadToken)

def digest : Digest :=
  downloadTokenDigest token.metadata
    ⟨token.metadata.id, token.source, token.metadata.scopedTokenSubject⟩ token.actor token.policy
    token.nonce token.expiresAtEpochSeconds

/-- The texts in front of the digest of the policy. -/
def texts : List String :=
  ["artifact-download-token:v2", token.metadata.scopedTokenSubject, token.actor.subject,
    token.nonce, token.metadata.digest.text, toString token.metadata.size]

def policyDigest : Digest :=
  downloadPolicyContextDigest token.metadata token.source token.policy

omit [Primitives] in
theorem texts_fit : ∀ part ∈ token.texts.map utf8, part.length < 2 ^ 64 := by
  have htenant := token.metadata.tenant.utf8ByteSize_le
  have hproject := token.metadata.project.utf8ByteSize_le
  have hprocess := token.metadata.process.utf8ByteSize_le
  have hid := token.metadata.id.utf8ByteSize_le
  have hactor : token.actor.subject.utf8ByteSize ≤ 6 + maxExternalIdBytes := by
    cases token.actor with
    | user id | agent id | node id | task id =>
      exact (String.utf8ByteSize_append ..).trans_le
        (Nat.add_le_add (by decide) id.utf8ByteSize_le)
  have hsize := utf8ByteSize_toString_le token.addressable.size
  have hslash : ("/" : String).utf8ByteSize = 1 := by decide
  have htag : ("artifact-download-token:v2" : String).utf8ByteSize = 26 := by decide
  simp only [texts, List.forall_mem_map, List.forall_mem_cons, length_utf8, htag, hslash,
    ArtifactMetadata.scopedTokenSubject, String.utf8ByteSize_append, maxExternalIdBytes] at *
  refine ⟨by omega, by omega, by omega, token.shortNonce, token.addressable.digest, by omega,
    nofun⟩

variable {token} {other : DownloadToken} (hsha256 : Function.Injective Primitives.sha256Hex)
include hsha256

theorem policyDigest_eq (hdigest : token.digest = other.digest) :
    token.policyDigest = other.policyDigest := by
  have hparts (token : DownloadToken) : token.digest = Digest.fromParts (token.texts.map utf8 ++
      [utf8 token.policyDigest.text, utf8 (toString token.expiresAtEpochSeconds)]) := rfl
  have hexpiry (token : DownloadToken) :
      (sizedPart (utf8 (toString token.expiresAtEpochSeconds)) ++ []).length < 2 ^ 64 := by
    have hdigits := utf8ByteSize_toString_le token.expiry
    have height (length : ℕ) : (lengthBytes length).length = 8 := rfl
    rw [List.append_nil, List.length_append, height, length_utf8]
    omega
  rw [hparts, hparts] at hdigest
  obtain ⟨-, hrest⟩ :=
    fromParts_append_inj hsha256 token.texts_fit other.texts_fit rfl hdigest
  -- the text of the hash may be of any length, so the short expiry behind it is what delimits it
  have htext := (sizedPart_append_inj (.inr ⟨hexpiry token, hexpiry other⟩) hrest).1
  exact congrArg Digest.mk (utf8_injective htext)

/-- Tokens of different projects have different digests. -/
theorem project_eq (hdigest : token.digest = other.digest) :
    token.metadata.tenant = other.metadata.tenant ∧
      token.metadata.project = other.metadata.project := by
  have hparts (token : DownloadToken) : ∃ others, token.policyDigest = Digest.fromParts
      ([ "artifact-download-policy-context:v1", token.metadata.tenant.value,
        token.metadata.project.value].map utf8 ++ others) := ⟨_, rfl⟩
  have hfits (token : DownloadToken) : ∀ part ∈ ["artifact-download-policy-context:v1",
      token.metadata.tenant.value, token.metadata.project.value].map utf8,
        part.length < 2 ^ 64 := by
    have htenant := token.metadata.tenant.utf8ByteSize_le
    have hproject := token.metadata.project.utf8ByteSize_le
    simp only [List.forall_mem_map, List.forall_mem_cons, length_utf8, maxExternalIdBytes] at *
    exact ⟨by decide, by omega, by omega, nofun⟩
  obtain ⟨others, htoken⟩ := hparts token
  obtain ⟨others', hother⟩ := hparts other
  have hpolicy := policyDigest_eq hsha256 hdigest
  rw [htoken, hother] at hpolicy
  have htexts := (fromParts_append_inj hsha256 (hfits token) (hfits other) rfl hpolicy).1
  have htexts := utf8_injective.list_map htexts
  simp only [List.cons.injEq, true_and, and_true] at htexts
  exact ⟨Id.value_injective htexts.1, Id.value_injective htexts.2⟩

end DownloadToken

section

variable {key held : ArtifactScopeKey} {metadata : ArtifactMetadata} {reason : ArtifactHoldReason}
  {now : ℕ} {holds : Finset ArtifactHold} {next : ArtifactRegistry}
  {eviction : Option ArtifactScopeKey} {otherTenant : TenantId} {otherProject : ProjectId}
  {hold : ArtifactHold}

namespace ArtifactRegistry

/-! ## Invariant -/

/-- Nothing refers to an artifact that is not stored, and no project is over its
limit. -/
structure Retains (registry : ArtifactRegistry) : Prop where
  keyed : ∀ (key : ArtifactScopeKey) metadata, registry.artifacts[key]? = some metadata →
    metadata.key = key
  bounded : ∀ tenant project, registry.projectCount tenant project ≤ maxArtifactMetadataPerProject
  held_nonempty : ∀ (key : ArtifactScopeKey) holds, registry.holds[key]? = some holds → holds ≠ ∅
  held_stored : ∀ (key : ArtifactScopeKey) holds, registry.holds[key]? = some holds →
    registry.artifacts.contains key = true
  linked_stored : ∀ (digest : Digest) issued, registry.issuedDownloadLinks[digest]? = some issued →
    issued.revoked = false → registry.artifacts.contains issued.key = true

theorem retains_empty : ({} : ArtifactRegistry).Retains where
  keyed _ _ hlookup := nomatch ExtTreeMap.getElem?_empty.symm.trans hlookup
  bounded _ _ := Nat.zero_le _
  held_nonempty _ _ hlookup := nomatch ExtTreeMap.getElem?_empty.symm.trans hlookup
  held_stored _ _ hlookup := nomatch ExtTreeMap.getElem?_empty.symm.trans hlookup
  linked_stored _ _ hlookup := nomatch ExtTreeMap.getElem?_empty.symm.trans hlookup

/-! ## Eviction candidates -/

/-- Nothing keeps the entry of the project from being evicted. -/
structure Evictable (registry : ArtifactRegistry) (tenant : TenantId) (project : ProjectId)
    (pinned : Finset ArtifactScopeKey) (protectedProcesses : Finset ProcessId)
    (metadata : ArtifactMetadata) : Prop where
  stored : registry.artifacts[metadata.key]? = some metadata
  same_tenant : metadata.tenant = tenant
  same_project : metadata.project = project
  not_pinned : metadata.key ∉ pinned
  not_protected : metadata.process ∉ protectedProcesses
  not_held : registry.holds[metadata.key]?.getD ∅ = ∅
  no_location : metadata.explicitLocations = []
  no_link : ∀ (digest : Digest) issued, registry.issuedDownloadLinks[digest]? = some issued →
    issued.key = metadata.key → issued.revoked = true

variable {registry : ArtifactRegistry} {tenant : TenantId} {project : ProjectId}
  {pinned : Finset ArtifactScopeKey} {protectedProcesses : Finset ProcessId}

theorem not_any_link_iff : (¬ registry.issuedDownloadLinks.values.any
        (fun issued => !issued.revoked && issued.key = key) = true) ↔
      ∀ (digest : Digest) issued, registry.issuedDownloadLinks[digest]? = some issued →
        issued.key = key → issued.revoked = true := by
  rw [List.any_eq_true]
  constructor
  · intro hnone digest issued hlookup hkey
    by_contra hlive
    refine hnone ⟨issued, (mem_values_iff _ _).mpr ⟨digest, hlookup⟩, ?_⟩
    simpa [hkey] using hlive
  · rintro hrevoked ⟨issued, hmem, hlive⟩
    obtain ⟨digest, hlookup⟩ := (mem_values_iff _ _).mp hmem
    simp only [Bool.and_eq_true, Bool.not_eq_true', decide_eq_true_eq] at hlive
    have hrevoked := hrevoked digest issued hlookup hlive.2
    rw [hlive.1] at hrevoked
    cases hrevoked

theorem mem_candidates_iff (hretains : registry.Retains) :
    (metadata ∈ registry.artifacts.values.filter fun metadata =>
        metadata.tenant = tenant ∧ metadata.project = project ∧ metadata.key ∉ pinned ∧
          metadata.process ∉ protectedProcesses ∧
          (registry.holds[metadata.key]?.getD ∅) = ∅ ∧ metadata.explicitLocations = [] ∧
          ¬ registry.issuedDownloadLinks.values.any fun issued =>
            !issued.revoked && issued.key = metadata.key) ↔
      Evictable registry tenant project pinned protectedProcesses metadata := by
  rw [List.mem_filter, mem_values_iff, decide_eq_true_eq, not_any_link_iff]
  constructor
  · rintro ⟨⟨key, hlookup⟩, htenant, hproject, hpinned, hprotected, hheld, hlocation, hlink⟩
    refine ⟨?_, htenant, hproject, hpinned, hprotected, hheld, hlocation, hlink⟩
    rwa [hretains.keyed key metadata hlookup]
  · rintro ⟨hstored, htenant, hproject, hpinned, hprotected, hheld, hlocation, hlink⟩
    exact ⟨⟨_, hstored⟩, htenant, hproject, hpinned, hprotected, hheld, hlocation, hlink⟩

/-- The candidate is an evictable entry with the smallest flush epoch. -/
theorem evictable_of_candidate (hretains : registry.Retains)
    (hcandidate : registry.projectMetadataEvictionCandidate tenant project pinned
      protectedProcesses = some key) :
    ∃ metadata, metadata.key = key ∧
      Evictable registry tenant project pinned protectedProcesses metadata ∧
      ∀ other, Evictable registry tenant project pinned protectedProcesses other →
        metadata.flushedEpoch ≤ other.flushedEpoch := by
  rw [projectMetadataEvictionCandidate, Option.map_eq_some_iff] at hcandidate
  obtain ⟨metadata, hargmin, hkey⟩ := hcandidate
  refine ⟨metadata, hkey, (mem_candidates_iff hretains).mp (List.argmin_mem hargmin), ?_⟩
  intro other hother
  exact List.le_of_mem_argmin ((mem_candidates_iff hretains).mpr hother) hargmin

/-! ## What the parts of an operation keep -/

theorem Retains.of_same_artifacts (hretains : registry.Retains) (next : ArtifactRegistry)
    (hartifacts : next.artifacts = registry.artifacts)
    (hnonempty : ∀ (key : ArtifactScopeKey) holds, next.holds[key]? = some holds → holds ≠ ∅)
    (hheld : ∀ (key : ArtifactScopeKey) holds, next.holds[key]? = some holds →
      registry.artifacts.contains key = true)
    (hlinked : ∀ (digest : Digest) issued, next.issuedDownloadLinks[digest]? = some issued →
      issued.revoked = false → registry.artifacts.contains issued.key = true) :
    next.Retains where
  keyed := by rw [hartifacts]; exact hretains.keyed
  bounded tenant project := by
    rw [projectCount, hartifacts]
    exact hretains.bounded tenant project
  held_nonempty := hnonempty
  held_stored := by rw [hartifacts]; exact hheld
  linked_stored := by rw [hartifacts]; exact hlinked

/-- New links may stand for stored artifacts. -/
theorem Retains.withLinks (hretains : registry.Retains)
    {links : OrderedMap Digest IssuedDownloadLink}
    (hlinked : ∀ (digest : Digest) issued, links[digest]? = some issued →
      issued.revoked = false → registry.artifacts.contains issued.key = true) :
    Retains { registry with issuedDownloadLinks := links } where
  keyed := hretains.keyed
  bounded := hretains.bounded
  held_nonempty := hretains.held_nonempty
  held_stored := hretains.held_stored
  linked_stored := hlinked

theorem lookup_holds_addHold
    (hlookup : (registry.addHold key reason now).holds[held]? = some holds) :
    registry.holds[held]? = some holds ∨
      (held = key ∧ registry.artifacts.contains key = true ∧ holds ≠ ∅) := by
  rw [addHold] at hlookup
  split at hlookup
  · exact Or.inl hlookup
  · rename_i hnew
    simp only [not_or, not_not] at hnew
    rcases getElem?_insert_eq_some_iff.mp hlookup with ⟨rfl, rfl⟩ | ⟨-, hold⟩
    · exact Or.inr ⟨rfl, hnew.1, Finset.insert_ne_empty _ _⟩
    · exact Or.inl hold

theorem artifacts_addHold : (registry.addHold key reason now).artifacts = registry.artifacts := by
  rw [addHold]
  split <;> rfl

theorem links_addHold :
    (registry.addHold key reason now).issuedDownloadLinks = registry.issuedDownloadLinks := by
  rw [addHold]
  split <;> rfl

theorem Retains.addHold (hretains : registry.Retains) (key : ArtifactScopeKey)
    (reason : ArtifactHoldReason) (now : ℕ) : (registry.addHold key reason now).Retains := by
  apply hretains.of_same_artifacts _ artifacts_addHold
  · intro held holds hlookup
    rcases lookup_holds_addHold hlookup with hold | ⟨-, -, hnonempty⟩
    · exact hretains.held_nonempty held holds hold
    · exact hnonempty
  · intro held holds hlookup
    rcases lookup_holds_addHold hlookup with hold | ⟨rfl, hknown, -⟩
    · exact hretains.held_stored held holds hold
    · exact hknown
  · rw [links_addHold]
    exact hretains.linked_stored

theorem lookup_holds_dropHolds {chosen : ArtifactScopeKey → Bool}
    {dropped : ArtifactHoldReason → Bool}
    (hlookup : (registry.dropHolds chosen dropped).holds[key]? = some holds) :
    holds ≠ ∅ ∧ ∃ old, registry.holds[key]? = some old := by
  change (registry.holds.filterMap _)[key]? = some holds at hlookup
  rw [ExtTreeMap.getElem?_filterMap', Option.bind_eq_some_iff] at hlookup
  obtain ⟨old, hold, hkept⟩ := hlookup
  refine ⟨?_, old, hold⟩
  dsimp only at hkept
  generalize (if chosen key then old.filter fun hold => !dropped hold.reason else old) = kept
    at hkept
  by_cases hkeeps : kept = ∅
  · rw [if_pos hkeeps] at hkept
    cases hkept
  · rw [if_neg hkeeps] at hkept
    rwa [← Option.some.inj hkept]

theorem Retains.dropHolds (hretains : registry.Retains) (chosen : ArtifactScopeKey → Bool)
    (dropped : ArtifactHoldReason → Bool) : (registry.dropHolds chosen dropped).Retains := by
  apply hretains.of_same_artifacts (registry.dropHolds chosen dropped) rfl
  · intro key holds hlookup
    exact (lookup_holds_dropHolds hlookup).1
  · intro key holds hlookup
    obtain ⟨-, old, hold⟩ := lookup_holds_dropHolds hlookup
    exact hretains.held_stored key old hold
  · exact hretains.linked_stored

theorem Retains.removeHold (hretains : registry.Retains) (key : ArtifactScopeKey)
    (reason : ArtifactHoldReason) : (registry.removeHold key reason).Retains :=
  hretains.dropHolds _ _

/-- Evicting an evictable entry leaves nothing that refers to it. -/
theorem Retains.removeEntry (hretains : registry.Retains)
    (hevictable : Evictable registry tenant project pinned protectedProcesses metadata) :
    (registry.removeEntry metadata.key).Retains where
  keyed key stored hlookup :=
    hretains.keyed key stored (getElem?_erase_eq_some_iff.mp hlookup).2
  bounded tenant project := countP_values_erase_le.trans (hretains.bounded tenant project)
  held_nonempty key holds hlookup :=
    hretains.held_nonempty key holds (getElem?_erase_eq_some_iff.mp hlookup).2
  held_stored key holds hlookup := by
    obtain ⟨hother, hold⟩ := getElem?_erase_eq_some_iff.mp hlookup
    have hstored := hretains.held_stored key holds hold
    change (registry.artifacts.erase metadata.key).contains key = true
    simp [ExtTreeMap.contains_erase, hother, hstored]
  linked_stored digest issued hlookup hlive := by
    have hother : metadata.key ≠ issued.key := by
      intro hkey
      have hrevoked := hevictable.no_link digest issued hlookup hkey.symm
      rw [hlive] at hrevoked
      cases hrevoked
    have hstored := hretains.linked_stored digest issued hlookup hlive
    change (registry.artifacts.erase metadata.key).contains issued.key = true
    simp [ExtTreeMap.contains_erase, hother, hstored]

theorem projectCount_removeEntry
    (hevictable : Evictable registry tenant project pinned protectedProcesses metadata) :
    (registry.removeEntry metadata.key).projectCount tenant project + 1 =
      registry.projectCount tenant project := by
  apply countP_values_erase_of_lookup hevictable.stored
  simp [hevictable.same_tenant, hevictable.same_project]

/-! ## Flushing -/

/-- The entry a flush stores. -/
def flushedMetadata (flush : ArtifactFlush) (epoch : ℕ) : ArtifactMetadata where
  id := flush.key.artifact
  tenant := flush.key.tenant
  project := flush.key.project
  process := flush.process
  producerTask := flush.producerTask
  producerNode := flush.retainingNode
  digest := flush.digest
  size := flush.size
  flushedEpoch := epoch
  retainingNodes := {flush.retainingNode}
  explicitLocations := []

/-- The registry with the entry stored and held for its process. -/
def storeFlush (registry : ArtifactRegistry) (flush : ArtifactFlush) (epoch : ℕ) :
    ArtifactRegistry :=
  addHold { registry with
      nextEpoch := epoch
      artifacts := registry.artifacts.insert flush.key (flushedMetadata flush epoch) }
    flush.key (.processRetention flush.process) epoch

/-- The registry without the entry that has to go, if any. -/
def evict (registry : ArtifactRegistry) : Option ArtifactScopeKey → ArtifactRegistry
  | some key => registry.removeEntry key
  | none => registry

variable {flush : ArtifactFlush}

theorem flushMetadata_eq_ok_iff :
    registry.flushMetadataWithProtectedProcesses flush pinned protectedProcesses = .ok next ↔
      ∃ eviction, registry.flushEviction flush pinned protectedProcesses = .ok eviction ∧
        next = (registry.evict eviction).storeFlush flush (saturatingAdd registry.nextEpoch 1) := by
  rw [flushMetadataWithProtectedProcesses]
  cases registry.flushEviction flush pinned protectedProcesses with
  | error message => simp [Except.map]
  | ok eviction =>
    simp only [Except.map, Except.ok.injEq, exists_eq_left']
    cases eviction <;> exact eq_comm

/-- What a flush evicts. -/
inductive FlushEvicts (registry : ArtifactRegistry) (flush : ArtifactFlush)
    (pinned : Finset ArtifactScopeKey) (protectedProcesses : Finset ProcessId) :
    Option ArtifactScopeKey → Prop where
  | room (hroom : registry.artifacts.contains flush.key = true ∨
      registry.projectCount flush.key.tenant flush.key.project < maxArtifactMetadataPerProject) :
      FlushEvicts registry flush pinned protectedProcesses none
  | oldest (metadata : ArtifactMetadata)
      (hnew : registry.artifacts.contains flush.key = false)
      (hevictable : Evictable registry flush.key.tenant flush.key.project pinned
        (insert flush.process protectedProcesses) metadata)
      (hleast : ∀ other, Evictable registry flush.key.tenant flush.key.project pinned
        (insert flush.process protectedProcesses) other →
          metadata.flushedEpoch ≤ other.flushedEpoch) :
      FlushEvicts registry flush pinned protectedProcesses (some metadata.key)

theorem flushEvicts_of_flushEviction (hretains : registry.Retains)
    (heviction : registry.flushEviction flush pinned protectedProcesses = .ok eviction) :
    FlushEvicts registry flush pinned protectedProcesses eviction := by
  rw [flushEviction] at heviction
  split at heviction
  · rename_i hroom
    cases heviction
    exact .room hroom
  · rename_i hfull
    split at heviction
    · rename_i key hcandidate
      cases heviction
      obtain ⟨metadata, rfl, hevictable, hleast⟩ := evictable_of_candidate hretains hcandidate
      rw [not_or, Bool.not_eq_true] at hfull
      exact .oldest metadata hfull.1 hevictable hleast
    · cases heviction

theorem FlushEvicts.retains
    (hevicts : FlushEvicts registry flush pinned protectedProcesses eviction)
    (hretains : registry.Retains) : (registry.evict eviction).Retains := by
  cases hevicts with
  | room hroom => exact hretains
  | oldest metadata hnew hevictable hleast => exact hretains.removeEntry hevictable

/-- After the eviction there is room for the entry. -/
theorem FlushEvicts.room_left
    (hevicts : FlushEvicts registry flush pinned protectedProcesses eviction)
    (hretains : registry.Retains) :
    (registry.evict eviction).artifacts.contains flush.key = true ∨
      (registry.evict eviction).projectCount flush.key.tenant flush.key.project <
        maxArtifactMetadataPerProject := by
  cases hevicts with
  | room hroom => exact hroom
  | oldest metadata hnew hevictable hleast =>
    right
    have hcount := projectCount_removeEntry hevictable
    have hbound := hretains.bounded flush.key.tenant flush.key.project
    change (registry.removeEntry metadata.key).projectCount _ _ < _
    omega

/-- Storing an entry where there is room keeps the invariant. -/
theorem Retains.storeFlush (hretains : registry.Retains) (epoch : ℕ)
    (hroom : registry.artifacts.contains flush.key = true ∨
      registry.projectCount flush.key.tenant flush.key.project < maxArtifactMetadataPerProject) :
    (registry.storeFlush flush epoch).Retains := by
  apply Retains.addHold
  have hkept : ∀ key : ArtifactScopeKey, registry.artifacts.contains key = true →
      (registry.artifacts.insert flush.key (flushedMetadata flush epoch)).contains key = true := by
    intro key hknown
    rw [ExtTreeMap.contains_insert, hknown, Bool.or_true]
  refine ⟨fun key metadata hlookup => ?_, fun tenant project => ?_, hretains.held_nonempty,
    fun key holds hlookup => hkept key (hretains.held_stored key holds hlookup),
    fun digest issued hlookup hlive => hkept _ (hretains.linked_stored digest issued hlookup hlive)⟩
  · rcases getElem?_insert_eq_some_iff.mp hlookup with ⟨rfl, rfl⟩ | ⟨-, hold⟩
    · rfl
    · exact hretains.keyed key metadata hold
  · by_cases hscope : flush.key.tenant = tenant ∧ flush.key.project = project
    · obtain ⟨rfl, rfl⟩ := hscope
      rcases hroom with hknown | hfew
      · -- The entry replaces one of the same project.
        obtain ⟨old, hold⟩ := Option.isSome_iff_exists.mp
          ((ExtTreeMap.contains_eq_isSome_getElem?).symm.trans hknown)
        have hkey := hretains.keyed flush.key old hold
        refine (countP_values_insert_of_lookup hold ?_).trans (hretains.bounded _ _)
        simp [← hkey, ArtifactMetadata.key]
      · exact countP_values_insert_le.trans hfew
    · refine (countP_values_insert_of_not ?_).trans (hretains.bounded tenant project)
      exact decide_eq_false hscope

theorem Retains.flushMetadata (hretains : registry.Retains)
    (hflush : registry.flushMetadataWithProtectedProcesses flush pinned protectedProcesses =
      .ok next) : next.Retains := by
  obtain ⟨eviction, heviction, rfl⟩ := flushMetadata_eq_ok_iff.mp hflush
  have hevicts := flushEvicts_of_flushEviction hretains heviction
  exact (hevicts.retains hretains).storeFlush _ (hevicts.room_left hretains)

/-! ## Links and limits -/

/-- The links that have expired. -/
def lapsedLinks (registry : ArtifactRegistry) (now : ℕ) : List IssuedDownloadLink :=
  registry.issuedDownloadLinks.values.filter fun issued => issued.expiresAtEpochSeconds < now

/-- The registry without the holds of the links. -/
def dropExports (registry : ArtifactRegistry) (links : List IssuedDownloadLink) :
    ArtifactRegistry :=
  links.foldl (fun registry issued => registry.removeHold issued.key
    (.downloadExport issued.scopedTokenDigest)) registry

theorem expireDownloadLinks_eq (now : ℕ) : registry.expireDownloadLinks now =
      { registry.dropExports (registry.lapsedLinks now) with
        issuedDownloadLinks :=
          (registry.dropExports (registry.lapsedLinks now)).issuedDownloadLinks.filter
            fun _ issued => now ≤
              saturatingAdd issued.expiresAtEpochSeconds downloadLinkTombstoneSeconds } := rfl

theorem artifacts_dropExports (links : List IssuedDownloadLink) :
    (registry.dropExports links).artifacts = registry.artifacts := by
  induction links generalizing registry with
  | nil => rfl
  | cons link links ih => exact ih

theorem links_dropExports (links : List IssuedDownloadLink) :
    (registry.dropExports links).issuedDownloadLinks = registry.issuedDownloadLinks := by
  induction links generalizing registry with
  | nil => rfl
  | cons link links ih => exact ih

theorem Retains.dropExports (hretains : registry.Retains) (links : List IssuedDownloadLink) :
    (registry.dropExports links).Retains := by
  induction links generalizing registry with
  | nil => exact hretains
  | cons link links ih => exact ih (hretains.dropHolds _ _)

theorem lookup_links_expireDownloadLinks {digest : Digest} {issued : IssuedDownloadLink} :
    (registry.expireDownloadLinks now).issuedDownloadLinks[digest]? = some issued ↔
      registry.issuedDownloadLinks[digest]? = some issued ∧
        now ≤ saturatingAdd issued.expiresAtEpochSeconds downloadLinkTombstoneSeconds := by
  rw [expireDownloadLinks_eq]
  dsimp only
  rw [links_dropExports, ExtTreeMap.getElem?_filter', Option.filter_eq_some_iff, decide_eq_true_eq]

theorem Retains.expireDownloadLinks (hretains : registry.Retains) (now : ℕ) :
    (registry.expireDownloadLinks now).Retains := by
  have hdropped := hretains.dropExports (registry.lapsedLinks now)
  apply hdropped.of_same_artifacts (registry.expireDownloadLinks now) rfl
  · exact hdropped.held_nonempty
  · exact hdropped.held_stored
  · intro digest issued hlookup hlive
    rw [artifacts_dropExports]
    exact hretains.linked_stored digest issued (lookup_links_expireDownloadLinks.mp hlookup).1 hlive

section Links

variable {context : AuthContext} {artifact : ArtifactId}

theorem scopedTokenSubject_of_downloadAction {policy : DownloadPolicy} {action : DownloadAction}
    (haction : registry.downloadAction context artifact policy = .ok action)
    (hstored : registry.artifacts[(⟨context.tenant, context.project, artifact⟩ :
      ArtifactScopeKey)]? = some metadata) :
    action.scopedTokenSubject = metadata.scopedTokenSubject := by
  rw [downloadAction, hstored] at haction
  obtain ⟨_, -, haction⟩ := bind_eq_ok.mp haction
  dsimp only at haction
  split at haction
  · cases haction
  · split at haction <;> cases haction
    rfl

variable (registry) in
/-- A link is issued only for a stored artifact. -/
theorem createDownloadLink_cases [Primitives] (policy : DownloadPolicy) (tokenNonce : String)
    (now ttlSeconds : ℕ) :
    let created := registry.createDownloadLink context artifact policy tokenNonce now ttlSeconds
    let expired := registry.expireDownloadLinks now
    (∃ error, created = (.error error, expired)) ∨
      ∃ issued metadata, created = (.ok issued, addHold { expired with
          issuedDownloadLinks :=
            expired.issuedDownloadLinks.insert issued.scopedTokenDigest issued }
          issued.key (.downloadExport issued.scopedTokenDigest) now) ∧
        expired.artifacts[(⟨context.tenant, context.project, artifact⟩ : ArtifactScopeKey)]? =
          some metadata ∧
        issued.key = ⟨metadata.tenant, metadata.project, artifact⟩ ∧
        (metadata.Addressable → tokenNonce.utf8ByteSize < 2 ^ 64 → ∃ token : DownloadToken,
          token.digest = issued.scopedTokenDigest ∧ token.metadata = metadata) := by
  intro created expired
  rw [show created = registry.createDownloadLink context artifact policy tokenNonce now ttlSeconds
    from rfl, createDownloadLink]
  dsimp only
  split
  · exact Or.inl ⟨_, rfl⟩
  · split
    · exact Or.inl ⟨_, rfl⟩
    · exact Or.inl ⟨_, rfl⟩
    · rename_i action metadata haction hstored
      refine Or.inr ⟨_, metadata, rfl, hstored, rfl, fun haddressable hnonce => ?_⟩
      have hsubject := scopedTokenSubject_of_downloadAction haction hstored
      refine ⟨⟨metadata, action.source, context.actor, policy, tokenNonce,
        saturatingAdd now ttlSeconds, haddressable, hnonce, ?_⟩, ?_, rfl⟩
      · exact (Nat.min_le_right _ _).trans_lt (by decide)
      · simp only [DownloadToken.digest, downloadTokenDigest, hsubject]

variable (registry) in
theorem revokeDownloadLink_cases (presentedTokenDigest : Digest) :
    let revoked := registry.revokeDownloadLink context artifact presentedTokenDigest
    (∃ error, revoked = (.error error, registry)) ∨
      ∃ issued, revoked = (.ok issued, removeHold { registry with
          issuedDownloadLinks := registry.issuedDownloadLinks.insert presentedTokenDigest
            { issued with revoked := true } }
          issued.key (.downloadExport issued.scopedTokenDigest)) ∧
        registry.issuedDownloadLinks[presentedTokenDigest]? = some issued ∧
        issued.key = ⟨context.tenant, context.project, artifact⟩ := by
  intro revoked
  rw [show revoked = registry.revokeDownloadLink context artifact presentedTokenDigest from rfl,
    revokeDownloadLink]
  split
  · exact Or.inl ⟨_, rfl⟩
  · rename_i issued hlookup
    split
    · exact Or.inl ⟨_, rfl⟩
    · rename_i hmatches
      rw [not_or, not_not] at hmatches
      split
      · exact Or.inl ⟨_, rfl⟩
      · exact Or.inr ⟨issued, rfl, hlookup, hmatches.1⟩

/-- The key of a link created in a context. -/
theorem key_eq_of_stored (hretains : registry.Retains)
    (hstored : registry.artifacts[(⟨context.tenant, context.project, artifact⟩ :
      ArtifactScopeKey)]? = some metadata) :
    (⟨metadata.tenant, metadata.project, artifact⟩ : ArtifactScopeKey) =
      ⟨context.tenant, context.project, artifact⟩ := by
  have hkey := hretains.keyed _ metadata hstored
  rw [ArtifactMetadata.key, ArtifactScopeKey.mk.injEq] at hkey
  rw [hkey.1, hkey.2.1]

theorem Retains.createDownloadLink [Primitives] (hretains : registry.Retains)
    (policy : DownloadPolicy) (tokenNonce : String) (now ttlSeconds : ℕ) :
    (registry.createDownloadLink context artifact policy tokenNonce now ttlSeconds).2.Retains := by
  have hexpired := hretains.expireDownloadLinks now
  rcases createDownloadLink_cases registry policy tokenNonce now ttlSeconds with
    ⟨error, hcreated⟩ | ⟨issued, metadata, hcreated, hstored, hkey, -⟩
  · rw [hcreated]
    exact hexpired
  · rw [hcreated]
    apply Retains.addHold
    apply hexpired.withLinks
    intro digest other hlookup hlive
    rcases getElem?_insert_eq_some_iff.mp hlookup with ⟨-, rfl⟩ | ⟨-, hold⟩
    · rw [hkey, key_eq_of_stored hexpired hstored, ExtTreeMap.contains_eq_isSome_getElem?,
        hstored, Option.isSome_some]
    · exact hexpired.linked_stored digest other hold hlive

theorem Retains.markRevoked (hretains : registry.Retains) (presentedTokenDigest : Digest)
    (issued : IssuedDownloadLink) :
    Retains { registry with
      issuedDownloadLinks := registry.issuedDownloadLinks.insert presentedTokenDigest
        { issued with revoked := true } } := by
  apply hretains.withLinks
  intro digest link hlink hlive
  rcases getElem?_insert_eq_some_iff.mp hlink with ⟨-, rfl⟩ | ⟨-, hold⟩
  · cases hlive
  · exact hretains.linked_stored digest link hold hlive

theorem Retains.revokeDownloadLink (hretains : registry.Retains) (presentedTokenDigest : Digest) :
    (registry.revokeDownloadLink context artifact presentedTokenDigest).2.Retains := by
  rcases revokeDownloadLink_cases registry presentedTokenDigest with
    ⟨error, hrevoked⟩ | ⟨issued, hrevoked, hlookup, hkey⟩
  · rw [hrevoked]
    exact hretains
  · rw [hrevoked]
    exact (hretains.markRevoked _ issued).removeHold _ _

end Links

/-- One round of the enforcement of a project's limit. -/
def evictCandidate (tenant : TenantId) (project : ProjectId) (pinned : Finset ArtifactScopeKey)
    (protectedProcesses : Finset ProcessId) (registry : ArtifactRegistry) : ArtifactRegistry :=
  match registry.projectMetadataEvictionCandidate tenant project pinned protectedProcesses with
  | some key => registry.removeEntry key
  | none => registry

theorem Retains.evictCandidate (hretains : registry.Retains) :
    (registry.evictCandidate tenant project pinned protectedProcesses).Retains := by
  rw [ArtifactRegistry.evictCandidate]
  split
  · rename_i key hcandidate
    obtain ⟨metadata, rfl, hevictable, -⟩ := evictable_of_candidate hretains hcandidate
    exact hretains.removeEntry hevictable
  · exact hretains

theorem Retains.enforceProjectMetadataLimit (hretains : registry.Retains) :
    (registry.enforceProjectMetadataLimit tenant project pinned protectedProcesses).Retains := by
  rw [ArtifactRegistry.enforceProjectMetadataLimit]
  generalize List.range _ = rounds
  induction rounds generalizing registry with
  | nil => exact hretains
  | cons round rounds ih => exact ih hretains.evictCandidate

/-! ## Links and their tokens -/

section Minted

variable [Primitives]

/-- The entries are addressable, and every link stands under a token of its project. -/
structure Minted (registry : ArtifactRegistry) : Prop where
  entries : ∀ (key : ArtifactScopeKey) metadata, registry.artifacts[key]? = some metadata →
    metadata.Addressable
  links : ∀ (digest : Digest) issued, registry.issuedDownloadLinks[digest]? = some issued →
    ∃ token : DownloadToken, token.digest = digest ∧
      token.metadata.tenant = issued.key.tenant ∧ token.metadata.project = issued.key.project

theorem minted_empty : ({} : ArtifactRegistry).Minted where
  entries _ _ hlookup := nomatch ExtTreeMap.getElem?_empty.symm.trans hlookup
  links _ _ hlookup := nomatch ExtTreeMap.getElem?_empty.symm.trans hlookup

variable (hminted : registry.Minted)
include hminted

theorem Minted.addHold (key : ArtifactScopeKey) (reason : ArtifactHoldReason) (now : ℕ) :
    (registry.addHold key reason now).Minted where
  entries := by
    rw [artifacts_addHold]
    exact hminted.entries
  links := by
    rw [links_addHold]
    exact hminted.links

theorem Minted.storeFlush (hdigest : flush.digest.text.utf8ByteSize < 2 ^ 64)
    (hsize : flush.size < 2 ^ 64) (epoch : ℕ) :
    ((registry.evict eviction).storeFlush flush epoch).Minted := by
  refine Minted.addHold ⟨fun key metadata hlookup => ?_, ?_⟩ _ _ _
  · rcases getElem?_insert_eq_some_iff.mp hlookup with ⟨-, rfl⟩ | ⟨-, hold⟩
    · exact ⟨hdigest, hsize⟩
    · cases eviction with
      | none => exact hminted.entries key metadata hold
      | some => exact hminted.entries key metadata (getElem?_erase_eq_some_iff.mp hold).2
  · cases eviction <;> exact hminted.links

theorem Minted.expireDownloadLinks (now : ℕ) : (registry.expireDownloadLinks now).Minted where
  entries := by
    rw [expireDownloadLinks_eq, artifacts_dropExports]
    exact hminted.entries
  links digest issued hlookup :=
    hminted.links digest issued (lookup_links_expireDownloadLinks.mp hlookup).1

theorem Minted.createDownloadLink {context : AuthContext} {artifact : ArtifactId}
    (policy : DownloadPolicy) {tokenNonce : String} (hnonce : tokenNonce.utf8ByteSize < 2 ^ 64)
    (now ttlSeconds : ℕ) :
    (registry.createDownloadLink context artifact policy tokenNonce now ttlSeconds).2.Minted := by
  have hexpired := hminted.expireDownloadLinks now
  rcases createDownloadLink_cases registry policy tokenNonce now ttlSeconds with
    ⟨error, hcreated⟩ | ⟨issued, metadata, hcreated, hstored, hkey, htoken⟩
  · rw [hcreated]
    exact hexpired
  · rw [hcreated]
    apply Minted.addHold
    refine ⟨hexpired.entries, fun digest link hlookup => ?_⟩
    rcases getElem?_insert_eq_some_iff.mp hlookup with ⟨rfl, rfl⟩ | ⟨-, hold⟩
    · obtain ⟨token, hdigest, rfl⟩ := htoken (hexpired.entries _ _ hstored) hnonce
      exact ⟨token, hdigest, by rw [hkey], by rw [hkey]⟩
    · exact hexpired.links digest link hold

theorem Minted.revokeDownloadLink {context : AuthContext} {artifact : ArtifactId}
    (presentedTokenDigest : Digest) :
    (registry.revokeDownloadLink context artifact presentedTokenDigest).2.Minted := by
  rcases revokeDownloadLink_cases registry presentedTokenDigest with
    ⟨error, hrevoked⟩ | ⟨issued, hrevoked, hlookup, -⟩
  · rw [hrevoked]
    exact hminted
  · rw [hrevoked]
    refine ⟨hminted.entries, fun digest link hlink => ?_⟩
    rcases getElem?_insert_eq_some_iff.mp hlink with ⟨rfl, rfl⟩ | ⟨-, hold⟩
    · exact hminted.links _ issued hlookup
    · exact hminted.links digest link hold

theorem Minted.enforceProjectMetadataLimit :
    (registry.enforceProjectMetadataLimit tenant project pinned protectedProcesses).Minted := by
  rw [ArtifactRegistry.enforceProjectMetadataLimit]
  generalize List.range _ = rounds
  induction rounds generalizing registry with
  | nil => exact hminted
  | cons round rounds ih =>
    refine ih ?_
    dsimp only
    split
    · exact ⟨fun key metadata hlookup =>
        hminted.entries key metadata (getElem?_erase_eq_some_iff.mp hlookup).2, hminted.links⟩
    · exact hminted

end Minted

/-! ## Other projects -/

/-- The entries, holds and links of a project are the same. -/
structure KeepsProject (registry next : ArtifactRegistry) (tenant : TenantId)
    (project : ProjectId) : Prop where
  artifacts : ∀ artifact, next.artifacts[(⟨tenant, project, artifact⟩ : ArtifactScopeKey)]? =
    registry.artifacts[(⟨tenant, project, artifact⟩ : ArtifactScopeKey)]?
  holds : ∀ artifact, next.holds[(⟨tenant, project, artifact⟩ : ArtifactScopeKey)]? =
    registry.holds[(⟨tenant, project, artifact⟩ : ArtifactScopeKey)]?
  links : ∀ (digest : Digest) issued, issued.key.tenant = tenant → issued.key.project = project →
    (next.issuedDownloadLinks[digest]? = some issued ↔
      registry.issuedDownloadLinks[digest]? = some issued)

theorem KeepsProject.refl (registry : ArtifactRegistry) :
    KeepsProject registry registry tenant project :=
  ⟨fun _ => rfl, fun _ => rfl, fun _ _ _ _ => Iff.rfl⟩

theorem KeepsProject.trans {middle next : ArtifactRegistry}
    (hfirst : KeepsProject registry middle tenant project)
    (hsecond : KeepsProject middle next tenant project) :
    KeepsProject registry next tenant project where
  artifacts artifact := (hsecond.artifacts artifact).trans (hfirst.artifacts artifact)
  holds artifact := (hsecond.holds artifact).trans (hfirst.holds artifact)
  links digest issued htenant hproject :=
    (hsecond.links digest issued htenant hproject).trans
      (hfirst.links digest issued htenant hproject)

/-- The key belongs to another project. -/
def Elsewhere (tenant : TenantId) (project : ProjectId) (key : ArtifactScopeKey) : Prop :=
  ¬ (key.tenant = tenant ∧ key.project = project)

theorem Elsewhere.ne (helsewhere : Elsewhere tenant project key)
    (artifact : ArtifactId) : key ≠ ⟨tenant, project, artifact⟩ := by
  rintro rfl
  exact helsewhere ⟨rfl, rfl⟩

theorem keepsProject_addHold (helsewhere : Elsewhere tenant project key)
    (reason : ArtifactHoldReason) (now : ℕ) :
    KeepsProject registry (registry.addHold key reason now) tenant project where
  artifacts artifact := by rw [artifacts_addHold]
  holds artifact := by
    rw [addHold]
    split
    · rfl
    · exact getElem?_insert_of_ne (helsewhere.ne artifact)
  links digest issued htenant hproject := by rw [links_addHold]

theorem keepsProject_dropHolds (hretains : registry.Retains) {chosen : ArtifactScopeKey → Bool}
    (hchosen : ∀ key, chosen key = true → Elsewhere tenant project key)
    (dropped : ArtifactHoldReason → Bool) :
    KeepsProject registry (registry.dropHolds chosen dropped) tenant project where
  artifacts artifact := rfl
  holds artifact := by
    have hnot : ¬ chosen ⟨tenant, project, artifact⟩ = true :=
      fun hchoice => (hchosen _ hchoice).ne artifact rfl
    change (registry.holds.filterMap _)[_]? = _
    rw [ExtTreeMap.getElem?_filterMap']
    cases hlookup : registry.holds[(⟨tenant, project, artifact⟩ : ArtifactScopeKey)]? with
    | none => rfl
    | some holds =>
      rw [Option.bind_some]
      dsimp only
      rw [if_neg hnot, if_neg (hretains.held_nonempty _ holds hlookup)]
  links digest issued htenant hproject := Iff.rfl

theorem keepsProject_removeHold (hretains : registry.Retains)
    (helsewhere : Elsewhere tenant project key) (reason : ArtifactHoldReason) :
    KeepsProject registry (registry.removeHold key reason) tenant project := by
  rw [removeHold]
  apply keepsProject_dropHolds hretains
  intro chosen hchosen
  rwa [of_decide_eq_true hchosen]

/-- Releasing the holds of a process or task of one project keeps another. -/
theorem keepsProject_dropProjectHolds (hretains : registry.Retains) {owner : TenantId}
    {owned : ProjectId} (hother : ¬ (owner = tenant ∧ owned = project))
    (dropped : ArtifactHoldReason → Bool) :
    KeepsProject registry
      (registry.dropHolds (fun held => held.tenant = owner ∧ held.project = owned) dropped)
      tenant project := by
  apply keepsProject_dropHolds hretains
  rintro key hchosen ⟨rfl, rfl⟩
  obtain ⟨htenant, hproject⟩ := of_decide_eq_true hchosen
  exact hother ⟨htenant.symm, hproject.symm⟩

theorem keepsProject_removeEntry (helsewhere : Elsewhere tenant project key) :
    KeepsProject registry (registry.removeEntry key) tenant project where
  artifacts artifact := getElem?_erase_of_ne (helsewhere.ne artifact)
  holds artifact := getElem?_erase_of_ne (helsewhere.ne artifact)
  links _ _ _ _ := Iff.rfl

theorem keepsProject_evict (hevicts : FlushEvicts registry flush pinned protectedProcesses eviction)
    (helsewhere : Elsewhere tenant project flush.key) :
    KeepsProject registry (registry.evict eviction) tenant project := by
  cases hevicts with
  | room hroom => exact KeepsProject.refl registry
  | oldest metadata hnew hevictable hleast =>
    apply keepsProject_removeEntry
    rintro ⟨htenant, hproject⟩
    exact helsewhere ⟨hevictable.same_tenant.symm.trans htenant,
      hevictable.same_project.symm.trans hproject⟩

theorem keepsProject_storeFlush (helsewhere : Elsewhere tenant project flush.key) (epoch : ℕ) :
    KeepsProject registry (registry.storeFlush flush epoch) tenant project := by
  have hinserted : KeepsProject registry { registry with
      nextEpoch := epoch
      artifacts := registry.artifacts.insert flush.key (flushedMetadata flush epoch) }
      tenant project :=
    ⟨fun artifact => getElem?_insert_of_ne (helsewhere.ne artifact), fun _ => rfl,
      fun _ _ _ _ => Iff.rfl⟩
  exact hinserted.trans (keepsProject_addHold helsewhere _ _)

theorem keepsProject_evictCandidate (hretains : registry.Retains)
    (hother : ¬ (tenant = otherTenant ∧ project = otherProject)) :
    KeepsProject registry (registry.evictCandidate tenant project pinned protectedProcesses)
      otherTenant otherProject := by
  rw [ArtifactRegistry.evictCandidate]
  split
  · rename_i key hcandidate
    obtain ⟨metadata, rfl, hevictable, -⟩ := evictable_of_candidate hretains hcandidate
    apply keepsProject_removeEntry
    rintro ⟨htenant, hproject⟩
    exact hother ⟨hevictable.same_tenant.symm.trans htenant,
      hevictable.same_project.symm.trans hproject⟩
  · exact KeepsProject.refl registry

theorem keepsProject_enforceProjectMetadataLimit (hretains : registry.Retains)
    (hother : ¬ (tenant = otherTenant ∧ project = otherProject)) :
    KeepsProject registry
      (registry.enforceProjectMetadataLimit tenant project pinned protectedProcesses)
      otherTenant otherProject := by
  rw [ArtifactRegistry.enforceProjectMetadataLimit]
  generalize List.range _ = rounds
  induction rounds generalizing registry with
  | nil => exact KeepsProject.refl registry
  | cons round rounds ih =>
    exact (keepsProject_evictCandidate hretains hother).trans (ih hretains.evictCandidate)

section Links

variable {context : AuthContext} {artifact : ArtifactId}

/-- A link elsewhere may replace one elsewhere. -/
theorem keepsProject_insertLink {digest : Digest} {issued : IssuedDownloadLink}
    (helsewhere : Elsewhere tenant project issued.key)
    (hreplaced : ∀ link, registry.issuedDownloadLinks[digest]? = some link →
      Elsewhere tenant project link.key) :
    KeepsProject registry { registry with
      issuedDownloadLinks := registry.issuedDownloadLinks.insert digest issued }
      tenant project := by
  refine ⟨fun _ => rfl, fun _ => rfl, fun other link htenant hproject => ?_⟩
  rw [getElem?_insert_eq_some_iff]
  constructor
  · rintro (⟨-, rfl⟩ | ⟨-, hold⟩)
    · exact absurd ⟨htenant, hproject⟩ helsewhere
    · exact hold
  · intro hold
    refine Or.inr ⟨?_, hold⟩
    rintro rfl
    exact hreplaced link hold ⟨htenant, hproject⟩

theorem keepsProject_revokeDownloadLink (hretains : registry.Retains)
    (hother : ¬ (context.tenant = tenant ∧ context.project = project))
    (presentedTokenDigest : Digest) :
    KeepsProject registry (registry.revokeDownloadLink context artifact presentedTokenDigest).2
      tenant project := by
  rcases revokeDownloadLink_cases registry presentedTokenDigest with
    ⟨error, hrevoked⟩ | ⟨issued, hrevoked, hlookup, hkey⟩
  · rw [hrevoked]
    exact KeepsProject.refl registry
  · rw [hrevoked]
    have helsewhere : Elsewhere tenant project issued.key := by
      rw [hkey]
      exact hother
    refine KeepsProject.trans ?_
      (keepsProject_removeHold (hretains.markRevoked _ issued) helsewhere _)
    refine keepsProject_insertLink helsewhere fun link hlink => ?_
    rwa [← Option.some.inj (hlookup.symm.trans hlink)]

/-- The digest of a created link is not that of a link of another project. -/
theorem keepsProject_createDownloadLink [Primitives]
    (hsha256 : Function.Injective Primitives.sha256Hex) (hretains : registry.Retains)
    (hminted : registry.Minted)
    (hother : ¬ (context.tenant = tenant ∧ context.project = project))
    (policy : DownloadPolicy) {tokenNonce : String} (hnonce : tokenNonce.utf8ByteSize < 2 ^ 64)
    (now ttlSeconds : ℕ) :
    KeepsProject (registry.expireDownloadLinks now)
      (registry.createDownloadLink context artifact policy tokenNonce now ttlSeconds).2
      tenant project := by
  have hexpired := hretains.expireDownloadLinks now
  have hminted := hminted.expireDownloadLinks now
  rcases createDownloadLink_cases registry policy tokenNonce now ttlSeconds with
    ⟨error, hcreated⟩ | ⟨issued, metadata, hcreated, hstored, hkey, htoken⟩
  · rw [hcreated]
    exact KeepsProject.refl _
  · rw [hcreated]
    have helsewhere : Elsewhere tenant project issued.key := by
      rw [hkey, key_eq_of_stored hexpired hstored]
      exact hother
    refine (keepsProject_insertLink helsewhere fun link hlink => ?_).trans
      (keepsProject_addHold helsewhere _ _)
    obtain ⟨token, hdigest, rfl⟩ := htoken (hminted.entries _ _ hstored) hnonce
    obtain ⟨other, hsame, htenant, hproject⟩ := hminted.links _ _ hlink
    obtain ⟨htenant', hproject'⟩ := other.project_eq hsha256 (hsame.trans hdigest.symm)
    rw [Elsewhere, ← htenant, ← hproject, htenant', hproject']
    rwa [hkey] at helsewhere

end Links

theorem mem_holds_removeHold : hold ∈ (registry.removeHold key reason).holds[held]?.getD ∅ ↔
      hold ∈ registry.holds[held]?.getD ∅ ∧ ¬ (key = held ∧ hold.reason = reason) := by
  change hold ∈ (registry.holds.filterMap _)[held]?.getD ∅ ↔ _
  rw [ExtTreeMap.getElem?_filterMap']
  cases registry.holds[held]? with
  | none => simp
  | some holds =>
    rw [Option.bind_some, Option.getD_some]
    dsimp only
    by_cases hkey : held = key
    · simp only [hkey, decide_true, if_true, true_and]
      split
      · rename_i hempty
        have hnone := Finset.filter_eq_empty_iff.mp hempty
        simp only [Option.getD_none, Finset.notMem_empty, false_iff, not_and, not_not]
        intro hmem
        simpa using hnone hmem
      · simp
    · simp only [hkey, decide_false, Bool.false_eq_true, if_false, Ne.symm hkey, false_and,
        not_false_eq_true, and_true]
      split
      · rename_i hempty
        simp [hempty]
      · simp

theorem mem_holds_dropExports (links : List IssuedDownloadLink) :
    hold ∈ (registry.dropExports links).holds[held]?.getD ∅ ↔ hold ∈ registry.holds[held]?.getD ∅ ∧
        ∀ issued ∈ links, issued.key = held →
          hold.reason ≠ .downloadExport issued.scopedTokenDigest := by
  induction links generalizing registry with
  | nil => simp [dropExports]
  | cons link links ih =>
    rw [dropExports, List.foldl_cons, ← dropExports, ih, mem_holds_removeHold]
    simp only [List.mem_cons, forall_eq_or_imp, not_and, and_assoc]

/-- What lapsing leaves of holds: all but the export holds of expired links. -/
theorem mem_holds_expireDownloadLinks :
    hold ∈ (registry.expireDownloadLinks now).holds[held]?.getD ∅ ↔
      hold ∈ registry.holds[held]?.getD ∅ ∧
        ∀ (digest : Digest) issued, registry.issuedDownloadLinks[digest]? = some issued →
          issued.expiresAtEpochSeconds < now → issued.key = held →
            hold.reason ≠ .downloadExport issued.scopedTokenDigest := by
  change hold ∈ (registry.dropExports (registry.lapsedLinks now)).holds[held]?.getD ∅ ↔ _
  rw [mem_holds_dropExports]
  refine and_congr_right fun _ => ?_
  constructor
  · intro hlapsed digest issued hlookup hexpired
    apply hlapsed issued
    rw [lapsedLinks, List.mem_filter, decide_eq_true_eq]
    exact ⟨(mem_values_iff _ _).mpr ⟨digest, hlookup⟩, hexpired⟩
  · intro hlapsed issued hmem
    rw [lapsedLinks, List.mem_filter, decide_eq_true_eq] at hmem
    obtain ⟨digest, hlookup⟩ := (mem_values_iff _ _).mp hmem.1
    exact hlapsed digest issued hlookup hmem.2

end ArtifactRegistry

/-! ## Runs -/

inductive ArtifactOperation where
  | flush (flush : ArtifactFlush) (pinned : Finset ArtifactScopeKey)
      (protectedProcesses : Finset ProcessId)
  | addHold (key : ArtifactScopeKey) (reason : ArtifactHoldReason) (now : ℕ)
  | removeHold (key : ArtifactScopeKey) (reason : ArtifactHoldReason)
  | releaseProcessHolds (process : ProcessControlKey)
  | releaseTaskHolds (task : TaskRestartKey)
  | releaseRestartCheckpointHolds (task : TaskRestartKey)
  | createLink (context : AuthContext) (artifact : ArtifactId) (policy : DownloadPolicy)
      (tokenNonce : String) (now ttlSeconds : ℕ)
  | revokeLink (context : AuthContext) (artifact : ArtifactId) (presentedTokenDigest : Digest)
  | expireLinks (now : ℕ)
  | enforceLimit (tenant : TenantId) (project : ProjectId) (pinned : Finset ArtifactScopeKey)
      (protectedProcesses : Finset ProcessId)

namespace ArtifactOperation

/-- The operation acts for the project. -/
def ActsOn (operation : ArtifactOperation) (tenant : TenantId) (project : ProjectId) : Prop :=
  match operation with
  | .flush request _ _ => request.key.tenant = tenant ∧ request.key.project = project
  | .addHold key _ _ | .removeHold key _ => key.tenant = tenant ∧ key.project = project
  | .releaseProcessHolds process => process.tenant = tenant ∧ process.project = project
  | .releaseTaskHolds task | .releaseRestartCheckpointHolds task =>
    task.tenant = tenant ∧ task.project = project
  | .createLink context _ _ _ _ _ | .revokeLink context _ _ =>
    context.tenant = tenant ∧ context.project = project
  | .expireLinks _ => False
  | .enforceLimit owner owned _ _ => owner = tenant ∧ owned = project

/-- No text that the operation stores is longer than an address space. -/
def Addressable : ArtifactOperation → Prop
  | .flush request _ _ => request.digest.text.utf8ByteSize < 2 ^ 64 ∧ request.size < 2 ^ 64
  | .createLink _ _ _ tokenNonce _ _ => tokenNonce.utf8ByteSize < 2 ^ 64
  | _ => True

end ArtifactOperation

namespace ArtifactRegistry

variable [Primitives] {registry : ArtifactRegistry}

def perform (registry : ArtifactRegistry) : ArtifactOperation → ArtifactRegistry
  | .flush request pinned protectedProcesses =>
    match registry.flushMetadataWithProtectedProcesses request pinned protectedProcesses with
    | .ok next => next
    | .error _ => registry
  | .addHold key reason now => registry.addHold key reason now
  | .removeHold key reason => registry.removeHold key reason
  | .releaseProcessHolds process => registry.releaseProcessHolds process
  | .releaseTaskHolds task => registry.releaseTaskHolds task
  | .releaseRestartCheckpointHolds task => registry.releaseRestartCheckpointHolds task
  | .createLink context artifact policy tokenNonce now ttlSeconds =>
    (registry.createDownloadLink context artifact policy tokenNonce now ttlSeconds).2
  | .revokeLink context artifact presentedTokenDigest =>
    (registry.revokeDownloadLink context artifact presentedTokenDigest).2
  | .expireLinks now => registry.expireDownloadLinks now
  | .enforceLimit tenant project pinned protectedProcesses =>
    registry.enforceProjectMetadataLimit tenant project pinned protectedProcesses

/-- The registry without what the operation lets lapse first. -/
def lapse (registry : ArtifactRegistry) : ArtifactOperation → ArtifactRegistry
  | .createLink _ _ _ _ now _ | .expireLinks now => registry.expireDownloadLinks now
  | _ => registry

/-- One operation keeps the entries, holds and links consistent. -/
theorem Retains.perform (hretains : registry.Retains) (operation : ArtifactOperation) :
    (registry.perform operation).Retains := by
  cases operation with
  | flush request pinned protectedProcesses =>
    rw [ArtifactRegistry.perform]
    split
    · rename_i next hflush
      exact hretains.flushMetadata hflush
    · exact hretains
  | addHold key reason now => exact hretains.addHold key reason now
  | removeHold key reason => exact hretains.removeHold key reason
  | releaseProcessHolds | releaseTaskHolds | releaseRestartCheckpointHolds =>
    rw [ArtifactRegistry.perform]
    exact hretains.dropHolds _ _
  | createLink context artifact policy tokenNonce now ttlSeconds =>
    exact hretains.createDownloadLink policy tokenNonce now ttlSeconds
  | revokeLink context artifact presentedTokenDigest =>
    exact hretains.revokeDownloadLink presentedTokenDigest
  | expireLinks now => exact hretains.expireDownloadLinks now
  | enforceLimit tenant project pinned protectedProcesses =>
    exact hretains.enforceProjectMetadataLimit

theorem Minted.perform (hminted : registry.Minted) {operation : ArtifactOperation}
    (haddressable : operation.Addressable) : (registry.perform operation).Minted := by
  cases operation with
  | flush request pinned protectedProcesses =>
    rw [ArtifactRegistry.perform]
    split
    · rename_i next hflush
      obtain ⟨eviction, -, rfl⟩ := flushMetadata_eq_ok_iff.mp hflush
      exact hminted.storeFlush haddressable.1 haddressable.2 _
    · exact hminted
  | addHold key reason now => exact hminted.addHold key reason now
  | removeHold | releaseProcessHolds | releaseTaskHolds | releaseRestartCheckpointHolds =>
    rw [ArtifactRegistry.perform]
    exact ⟨hminted.entries, hminted.links⟩
  | createLink context artifact policy tokenNonce now ttlSeconds =>
    exact hminted.createDownloadLink policy haddressable now ttlSeconds
  | revokeLink context artifact presentedTokenDigest =>
    exact hminted.revokeDownloadLink presentedTokenDigest
  | expireLinks now => exact hminted.expireDownloadLinks now
  | enforceLimit tenant project pinned protectedProcesses =>
    exact hminted.enforceProjectMetadataLimit

/-- An operation elsewhere does no more to a project than let its links lapse. -/
theorem keepsProject_perform (hsha256 : Function.Injective Primitives.sha256Hex)
    (hretains : registry.Retains) (hminted : registry.Minted) {operation : ArtifactOperation}
    (haddressable : operation.Addressable) {tenant : TenantId} {project : ProjectId}
    (hother : ¬ operation.ActsOn tenant project) :
    KeepsProject (registry.lapse operation) (registry.perform operation) tenant project := by
  cases operation with
  | flush request pinned protectedProcesses =>
    change KeepsProject registry (registry.perform _) tenant project
    rw [ArtifactRegistry.perform]
    split
    · rename_i next hflush
      obtain ⟨eviction, heviction, rfl⟩ := flushMetadata_eq_ok_iff.mp hflush
      have hevicts := flushEvicts_of_flushEviction hretains heviction
      exact (keepsProject_evict hevicts hother).trans (keepsProject_storeFlush hother _)
    · exact KeepsProject.refl registry
  | addHold key reason now => exact keepsProject_addHold hother reason now
  | removeHold key reason => exact keepsProject_removeHold hretains hother reason
  | releaseProcessHolds | releaseTaskHolds | releaseRestartCheckpointHolds =>
    rw [ArtifactRegistry.perform]
    exact keepsProject_dropProjectHolds hretains hother _
  | createLink context artifact policy tokenNonce now ttlSeconds =>
    exact keepsProject_createDownloadLink hsha256 hretains hminted hother policy haddressable now
      ttlSeconds
  | revokeLink context artifact presentedTokenDigest =>
    exact keepsProject_revokeDownloadLink hretains hother presentedTokenDigest
  | expireLinks now => exact KeepsProject.refl _
  | enforceLimit owner owned pinned protectedProcesses =>
    exact keepsProject_enforceProjectMetadataLimit hretains hother

omit [Primitives] in
/-- A flush changes no stored entry but its own and the evicted one. -/
theorem lookup_flushed {flush : ArtifactFlush} {epoch : ℕ} (hkey : key ≠ flush.key) :
    ((registry.evict eviction).storeFlush flush epoch).artifacts[key]? =
      if eviction = some key then none else registry.artifacts[key]? := by
  rw [storeFlush, artifacts_addHold]
  refine (getElem?_insert_of_ne hkey.symm).trans ?_
  cases eviction with
  | none => simp [evict]
  | some evicted =>
    refine ExtTreeMap.getElem?_erase.trans ?_
    simp [LawfulEqCmp.compare_eq_iff_eq]

/-- The registry after the operations, from the empty one. -/
def after (operations : List ArtifactOperation) : ArtifactRegistry :=
  operations.foldl perform {}

theorem retains_after (operations : List ArtifactOperation) : (after operations).Retains := by
  induction operations using List.reverseRecOn with
  | nil => exact retains_empty
  | append_singleton operations operation ih =>
    rw [after, List.foldl_append]
    exact ih.perform operation

theorem minted_after {operations : List ArtifactOperation}
    (haddressable : ∀ operation ∈ operations, operation.Addressable) :
    (after operations).Minted := by
  induction operations using List.reverseRecOn with
  | nil => exact minted_empty
  | append_singleton operations operation ih =>
    rw [List.forall_mem_append, List.forall_mem_singleton] at haddressable
    rw [after, List.foldl_append]
    exact (ih haddressable.1).perform haddressable.2

end ArtifactRegistry

open ArtifactRegistry in
/-- After any operations: no project is over its limit, every held key and every
usable link belongs to a stored artifact; a flush evicts nothing or the oldest
entry of its project that nothing keeps, and changes no other entry; a refused
flush changes nothing; an operation keeps entries, holds and links of other
projects, once lapsed links are forgotten, if the hash has no collisions and no text is
longer than an address space; and lapsing forgets no entry, the links
whose grace time is over, and the export holds of expired links. -/
theorem artifact_registry_retains [Primitives] (operations : List ArtifactOperation) :
    let registry := after operations
    (∀ tenant project, registry.projectCount tenant project ≤ maxArtifactMetadataPerProject) ∧
      (∀ (key : ArtifactScopeKey) holds, registry.holds[key]? = some holds →
        registry.artifacts.contains key = true) ∧
      (∀ (digest : Digest) issued, registry.issuedDownloadLinks[digest]? = some issued →
        issued.revoked = false → registry.artifacts.contains issued.key = true) ∧
      (∀ flush pinned protectedProcesses next,
        registry.flushMetadataWithProtectedProcesses flush pinned protectedProcesses = .ok next →
          ∃ eviction, FlushEvicts registry flush pinned protectedProcesses eviction ∧
            ∀ key, key ≠ flush.key → next.artifacts[key]? =
              if eviction = some key then none else registry.artifacts[key]?) ∧
      (∀ flush pinned protectedProcesses message,
        registry.flushMetadataWithProtectedProcesses flush pinned protectedProcesses =
          .error message → registry.perform (.flush flush pinned protectedProcesses) = registry) ∧
      (Function.Injective Primitives.sha256Hex →
        (∀ operation ∈ operations, operation.Addressable) →
          ∀ operation tenant project, operation.Addressable → ¬ operation.ActsOn tenant project →
            KeepsProject (registry.lapse operation) (registry.perform operation) tenant project) ∧
      ∀ now, (registry.expireDownloadLinks now).artifacts = registry.artifacts ∧
        (∀ (digest : Digest) issued,
          (registry.expireDownloadLinks now).issuedDownloadLinks[digest]? = some issued ↔
            registry.issuedDownloadLinks[digest]? = some issued ∧
              now ≤ saturatingAdd issued.expiresAtEpochSeconds downloadLinkTombstoneSeconds) ∧
        ∀ (key : ArtifactScopeKey) hold,
          hold ∈ (registry.expireDownloadLinks now).holds[key]?.getD ∅ ↔
            hold ∈ registry.holds[key]?.getD ∅ ∧
              ∀ (digest : Digest) issued, registry.issuedDownloadLinks[digest]? = some issued →
                issued.expiresAtEpochSeconds < now → issued.key = key →
                  hold.reason ≠ .downloadExport issued.scopedTokenDigest := by
  intro registry
  have hretains : registry.Retains := retains_after operations
  refine ⟨hretains.bounded, hretains.held_stored, hretains.linked_stored, ?_, ?_, ?_, ?_⟩
  · intro flush pinned protectedProcesses next hflush
    obtain ⟨eviction, heviction, rfl⟩ := flushMetadata_eq_ok_iff.mp hflush
    exact ⟨eviction, flushEvicts_of_flushEviction hretains heviction,
      fun key hkey => lookup_flushed hkey⟩
  · intro flush pinned protectedProcesses message hflush
    rw [perform, hflush]
  · intro hsha256 haddressable operation tenant project hlast hother
    exact keepsProject_perform hsha256 hretains (minted_after haddressable) hlast hother
  · intro now
    exact ⟨artifacts_dropExports _, fun _ _ => lookup_links_expireDownloadLinks,
      fun _ _ => mem_holds_expireDownloadLinks⟩

end

namespace ArtifactSample

def context (project : ProjectId) : AuthContext :=
  ⟨⟨"tenant", tenant_valid⟩, project, .user ⟨"user", user_valid⟩⟩

def first : ProjectId := ⟨"first", by decide⟩

def second : ProjectId := ⟨"second", by decide⟩

def artifact : ArtifactId := ⟨"artifact", artifact_valid⟩

def flush (project : ProjectId) : ArtifactOperation :=
  .flush { key := ⟨(context project).tenant, project, artifact⟩
           process := ⟨"process", process_valid⟩
           producerTask := ⟨"task", task_valid⟩
           retainingNode := ⟨"node", node_valid⟩
           digest := ⟨"sha256:bytes"⟩
           size := 10 } ∅ ∅

def link (project : ProjectId) (now : ℕ) : ArtifactOperation :=
  .createLink (context project) artifact ⟨10⟩ "nonce" now 60

end ArtifactSample

open ArtifactRegistry ArtifactSample in
/-- A link of the first project is gone after the second project asks for one. -/
theorem link_request_forgets_other_project :
    letI := Primitives.sample
    ((after [flush first, link first 5]).issuedDownloadLinks.values.map (·.key.project) = [first]) ∧
      (after [flush first, link first 5, link second 1000]).issuedDownloadLinks.values = [] := by
  decide +kernel

open ArtifactRegistry ArtifactSample in
/-- A link that the second project asks for with the nonce of the first keeps the link and
the holds of the first. -/
theorem link_keeps_other_project :
    letI := Primitives.transparent
    let registry := after [flush first, flush second, link first 5]
    (registry.createDownloadLink (context second) artifact ⟨10⟩ "nonce" 6 60).1.isOk = true ∧
      KeepsProject (registry.lapse (link second 6)) (registry.perform (link second 6))
        (context first).tenant first := by
  let := Primitives.transparent
  have haddressable : ∀ operation ∈ [flush first, flush second, link first 5],
      operation.Addressable := by
    simp only [List.forall_mem_cons, ArtifactOperation.Addressable, flush, link]
    exact ⟨by decide, by decide, by decide, List.forall_mem_nil _⟩
  have hother : ¬ (link second 6).ActsOn (context first).tenant first :=
    fun hsame => absurd hsame.2 (by decide)
  have hretains := artifact_registry_retains [flush first, flush second, link first 5]
  exact ⟨by decide +kernel, hretains.2.2.2.2.2.1 Primitives.transparent_injective haddressable
    (link second 6) _ _ (show "nonce".utf8ByteSize < 2 ^ 64 by decide) hother⟩

end Clusterflux
