import Clusterflux.Core.Bundles
import Clusterflux.Core.Digests

/-!
# What a bundle identity identifies

Every part of the hashed list is preceded by its length, so the digest determines
the list of parts.  The list does not say where the entrypoints, the environments
and the inputs end, and sorting by name or path leaves entries of one name or path
in the order in which they were given.
-/

namespace Clusterflux

open ByteReaders LengthFraming StableSorting

/-! ## Digests of part lists -/

/-- Records of one width can be told apart in their concatenation. -/
theorem records_inj {α β : Type} {code : α → List β} (hinjective : Function.Injective code)
    (width : ℕ) (hwidth : ∀ item, (code item).length = width + 1) {left right : List α}
    (heq : left.flatMap code = right.flatMap code) : left = right := by
  refine flatMap_inj (fun _ _ hcodes => ?_) (fun item hnil => ?_) (fun _ _ => trivial)
    (fun _ _ => trivial) heq
  · exact (List.append_inj hcodes (by rw [hwidth, hwidth])).imp_left (hinjective ·)
  · simpa [hnil] using hwidth item

theorem toString_append_inj {left right : Bool} {leftRest rightRest : String}
    (heq : toString left ++ leftRest = toString right ++ rightRest) :
    left = right ∧ leftRest = rightRest := by
  obtain rfl : left = right := by
    have hfirst := congrArg (·.toList.head?) heq
    simp only [String.toList_append, List.head?_append] at hfirst
    cases left <;> cases right <;> first | rfl | cases hfirst
  exact ⟨rfl, by simpa using heq⟩

theorem transferModesText_inj : ∀ required explicit required' explicit',
    transferModesText required explicit = transferModesText required' explicit' →
      required = required' ∧ explicit = explicit' := by
  decide

/-- The fields of the policy can be read off between the texts that do not vary. -/
theorem policyText_inj (start afterFirst afterSecond afterThird last : String)
    {first second third first' second' third' : Bool} {modes modes' : String}
    (heq : start ++ (toString first ++ (afterFirst ++ (toString second ++ (afterSecond ++
        (toString third ++ (afterThird ++ (modes ++ last))))))) =
      start ++ (toString first' ++ (afterFirst ++ (toString second' ++ (afterSecond ++
        (toString third' ++ (afterThird ++ (modes' ++ last)))))))) :
    first = first' ∧ second = second' ∧ third = third' ∧ modes = modes' := by
  obtain ⟨hfirst, heq⟩ := toString_append_inj ((String.append_right_inj _).mp heq)
  obtain ⟨hsecond, heq⟩ := toString_append_inj ((String.append_right_inj _).mp heq)
  obtain ⟨hthird, heq⟩ := toString_append_inj ((String.append_right_inj _).mp heq)
  exact ⟨hfirst, hsecond, hthird,
    (String.append_left_inj _).mp ((String.append_right_inj _).mp heq)⟩

theorem SourceTransferPolicy.debugText_injective : Function.Injective debugText := by
  rintro ⟨first, second, third, modes⟩ ⟨first', second', third', modes'⟩ heq
  obtain ⟨rfl, rfl, rfl, htexts⟩ := policyText_inj _ _ _ _ _ heq
  obtain ⟨hrequired, hexplicit⟩ := transferModesText_inj _ _ _ _ htexts
  have hmodes : modes = modes' := by
    ext mode
    cases mode with
    | requiredContent => exact decide_eq_decide.mp hrequired
    | explicitSnapshotChunks => exact decide_eq_decide.mp hexplicit
  rw [hmodes]

theorem EnvironmentKind.name_injective : Function.Injective EnvironmentKind.name := by
  intro left right heq
  cases left <;> cases right <;> simp_all [EnvironmentKind.name]

/-! ## The identity -/

/-- What the identity reads of an environment. -/
def EnvironmentResource.identified (environment : EnvironmentResource) :
    String × EnvironmentKind × Digest :=
  (environment.name, environment.kind, environment.digest)

namespace BundleIdentityInputs

/-- The bundles have the same code, interface, source provider, default entrypoint and
transfer policy. -/
structure SameFixed (left right : BundleIdentityInputs) : Prop where
  wasmCode : left.wasmCode = right.wasmCode
  taskAbi : left.taskAbi = right.taskAbi
  sourceProviderManifest : left.sourceProviderManifest = right.sourceProviderManifest
  defaultEntrypoint : left.defaultEntrypoint = right.defaultEntrypoint
  sourceTransferPolicy : left.sourceTransferPolicy = right.sourceTransferPolicy

/-- The bundles are the same up to the order of their lists. -/
structure SameBundle (left right : BundleIdentityInputs) : Prop extends SameFixed left right where
  entrypoints : left.entrypoints.Perm right.entrypoints
  environments : (left.environments.map (·.identified)).Perm (right.environments.map (·.identified))
  selectedInputs : left.selectedInputs.Perm right.selectedInputs

/-- Environments of one name and inputs of one path stand in the same order. -/
structure SameTies (left right : BundleIdentityInputs) : Prop where
  environments : ∀ name, itemsOf Prod.fst (left.environments.map (·.identified)) name =
    itemsOf Prod.fst (right.environments.map (·.identified)) name
  selectedInputs : ∀ path, itemsOf SelectedInput.path left.selectedInputs path =
    itemsOf SelectedInput.path right.selectedInputs path

/-- The bundles have as many entrypoints and environments. -/
def SameCounts (left right : BundleIdentityInputs) : Prop :=
  left.entrypoints.length = right.entrypoints.length ∧
    left.environments.length = right.environments.length

/-- No text is longer than an address space. -/
def Addressable (inputs : BundleIdentityInputs) : Prop :=
  ∀ part ∈ (inputs.fixedParts ++ inputs.listedParts).map utf8, part.length < 2 ^ 64

variable {left right : BundleIdentityInputs}

theorem fixedParts_eq_iff : left.fixedParts = right.fixedParts ↔ left.SameFixed right := by
  constructor
  · intro heq
    simp only [fixedParts, List.cons.injEq, true_and, and_true] at heq
    obtain ⟨hcode, habi, hmanifest, hdefault, hpolicy⟩ := heq
    exact ⟨congrArg Digest.mk hcode, congrArg Digest.mk habi, congrArg Digest.mk hmanifest,
      hdefault, SourceTransferPolicy.debugText_injective hpolicy⟩
  · rintro ⟨hcode, habi, hmanifest, hdefault, hpolicy⟩
    rw [fixedParts, fixedParts, hcode, habi, hmanifest, hdefault, hpolicy]

theorem identity_eq_iff [Primitives] (hsha256 : Function.Injective Primitives.sha256Hex)
    (hleft : left.Addressable) (hright : right.Addressable) :
    left.identity = right.identity ↔
      left.SameFixed right ∧ left.listedParts = right.listedParts := by
  rw [← fixedParts_eq_iff]
  constructor
  · intro heq
    exact List.append_inj (utf8_injective.list_map (fromParts_inj hsha256 hleft hright heq)) rfl
  · rintro ⟨hfixed, hlisted⟩
    rw [identity, identity, hfixed, hlisted]

def environmentParts : String × EnvironmentKind × Digest → List String
  | (name, kind, digest) => [name, kind.name, digest.text]

def inputParts (input : SelectedInput) : List String :=
  [input.path, input.digest.text]

theorem listedParts_eq (inputs : BundleIdentityInputs) :
    inputs.listedParts = sortBy id inputs.entrypoints ++
      ((sortBy Prod.fst (inputs.environments.map (·.identified))).flatMap environmentParts ++
        (sortBy SelectedInput.path inputs.selectedInputs).flatMap inputParts) := by
  rw [← map_sortBy, List.flatMap_map]
  rfl

theorem environmentParts_injective : Function.Injective environmentParts := by
  rintro ⟨name, kind, digest⟩ ⟨name', kind', digest'⟩ heq
  simp only [environmentParts, List.cons.injEq, and_true] at heq
  obtain ⟨rfl, hkind, hdigest⟩ := heq
  rw [EnvironmentKind.name_injective hkind, show digest = digest' from congrArg Digest.mk hdigest]

theorem inputParts_injective : Function.Injective inputParts := by
  rintro ⟨path, digest⟩ ⟨path', digest'⟩ heq
  simp only [inputParts, List.cons.injEq, and_true] at heq
  rw [heq.1, show digest = digest' from congrArg Digest.mk heq.2]

theorem listedParts_eq_iff (hcounts : left.SameCounts right) :
    left.listedParts = right.listedParts ↔
      left.entrypoints.Perm right.entrypoints ∧ left.SameTies right := by
  rw [listedParts_eq, listedParts_eq, ← sortBy_id_eq_sortBy_id_iff]
  constructor
  · intro heq
    obtain ⟨hentrypoints, heq⟩ := List.append_inj heq (by simpa [sortBy] using hcounts.1)
    obtain ⟨henvironments, hinputs⟩ := List.append_inj heq (by
      simpa [sortBy, List.length_flatMap, environmentParts] using hcounts.2)
    refine ⟨hentrypoints, ?_, ?_⟩
    · exact sortBy_eq_sortBy_iff.mp
        (records_inj environmentParts_injective 2 (fun _ => rfl) henvironments)
    · exact sortBy_eq_sortBy_iff.mp (records_inj inputParts_injective 1 (fun _ => rfl) hinputs)
  · rintro ⟨hentrypoints, henvironments, hinputs⟩
    rw [hentrypoints, sortBy_eq_sortBy_iff.mpr henvironments, sortBy_eq_sortBy_iff.mpr hinputs]

theorem SameBundle.sameCounts (hsame : left.SameBundle right) : left.SameCounts right :=
  ⟨hsame.entrypoints.length_eq, by simpa using hsame.environments.length_eq⟩

theorem sameBundle_of_sameTies (hfixed : left.SameFixed right)
    (hentrypoints : left.entrypoints.Perm right.entrypoints) (hties : left.SameTies right) :
    left.SameBundle right where
  toSameFixed := hfixed
  entrypoints := hentrypoints
  environments := perm_of_itemsOf_eq hties.environments
  selectedInputs := perm_of_itemsOf_eq hties.selectedInputs

/-- Bundles with as many entrypoints and environments, whose environments of one name
and inputs of one path stand in one order, have one identity exactly if they are the same. -/
theorem identity_eq_iff_sameBundle [Primitives] (hsha256 : Function.Injective Primitives.sha256Hex)
    (hleft : left.Addressable) (hright : right.Addressable) (hcounts : left.SameCounts right)
    (hties : left.SameBundle right → left.SameTies right) :
    left.identity = right.identity ↔ left.SameBundle right := by
  rw [identity_eq_iff hsha256 hleft hright, listedParts_eq_iff hcounts]
  constructor
  · rintro ⟨hfixed, hentrypoints, hties⟩
    exact sameBundle_of_sameTies hfixed hentrypoints hties
  · exact fun hsame => ⟨hsame.toSameFixed, hsame.entrypoints, hties hsame⟩

end BundleIdentityInputs

open BundleIdentityInputs in
/-- Bundles have one identity exactly if they are the same, provided that bundles whose
lists run together to the same texts have as many entrypoints and environments, and that
the same bundles list environments of one name and inputs of one path in one order. -/
theorem bundle_identity_faithful_iff [Primitives]
    (hsha256 : Function.Injective Primitives.sha256Hex) (left right : BundleIdentityInputs)
    (hleft : left.Addressable) (hright : right.Addressable) :
    (left.identity = right.identity ↔ left.SameBundle right) ↔
      (left.SameFixed right → left.listedParts = right.listedParts → left.SameCounts right) ∧
        (left.SameBundle right → left.SameTies right) := by
  rw [identity_eq_iff hsha256 hleft hright]
  constructor
  · intro hfaithful
    refine ⟨fun hfixed hlisted => (hfaithful.mp ⟨hfixed, hlisted⟩).sameCounts, fun hsame => ?_⟩
    exact ((listedParts_eq_iff hsame.sameCounts).mp (hfaithful.mpr hsame).2).2
  · rintro ⟨hcounts, hties⟩
    constructor
    · rintro ⟨hfixed, hlisted⟩
      obtain ⟨hentrypoints, hties⟩ := (listedParts_eq_iff (hcounts hfixed hlisted)).mp hlisted
      exact sameBundle_of_sameTies hfixed hentrypoints hties
    · intro hsame
      exact ⟨hsame.toSameFixed,
        (listedParts_eq_iff hsame.sameCounts).mpr ⟨hsame.entrypoints, hties hsame⟩⟩

namespace BundleSample

def digest : Digest :=
  ⟨"sha256:e3b0c44298fc1c149afbf4c8996fb92427ae41e4649b934ca495991b7852b855"⟩

/-- A bundle without environments. -/
def bundle (entrypoints : List String) (selectedInputs : List SelectedInput) :
    BundleIdentityInputs where
  wasmCode := digest
  taskAbi := digest
  entrypoints := entrypoints
  defaultEntrypoint := "build"
  environments := []
  sourceProviderManifest := digest
  sourceTransferPolicy := ⟨true, false, false, {.requiredContent, .explicitSnapshotChunks}⟩
  selectedInputs := selectedInputs

end BundleSample

open BundleSample BundleIdentityInputs in
theorem order_of_entrypoints_does_not_matter :
    @identity (bundle ["build", "lint"] []) Primitives.transparent =
      @identity (bundle ["lint", "build"] []) Primitives.transparent := by
  have hfits : ∀ part ∈ (bundle [] []).fixedParts ++ ["build", "lint"],
      (utf8 part).length < 2 ^ 64 := by decide +kernel
  have haddressable : ∀ entrypoints, entrypoints.Perm ["build", "lint"] →
      (bundle entrypoints []).Addressable := by
    intro entrypoints hperm
    refine List.forall_mem_map.mpr fun part hpart => hfits part ?_
    have hlisted : (bundle entrypoints []).listedParts = sortBy id entrypoints := by
      simp [listedParts, bundle, sortBy]
    rw [hlisted, List.mem_append, (sortBy_perm id _).mem_iff, hperm.mem_iff] at hpart
    exact List.mem_append.mpr hpart
  have hswap : ["lint", "build"].Perm ["build", "lint"] := .swap _ _ _
  refine ((@bundle_identity_faithful_iff Primitives.transparent Primitives.transparent_injective
    _ _ (haddressable _ (.refl _)) (haddressable _ hswap)).mpr ⟨?_, ?_⟩).mpr ?_
  · exact fun _ _ => ⟨rfl, rfl⟩
  · exact fun _ => ⟨fun _ => rfl, fun _ => rfl⟩
  · exact ⟨⟨rfl, rfl, rfl, rfl, rfl⟩, hswap.symm, .refl _, .refl _⟩

open BundleSample BundleIdentityInputs in
/-- An input is mistaken for two entrypoints, one of them called like its digest. -/
theorem input_and_entrypoints_share_identity :
    @identity (bundle ["build"] [⟨"notes", digest⟩]) Primitives.sample =
        @identity (bundle ["build", "notes", digest.text] []) Primitives.sample ∧
      ¬ SameBundle (bundle ["build"] [⟨"notes", digest⟩])
        (bundle ["build", "notes", digest.text] []) := by
  constructor
  · have hsorted : sortBy id ["build", "notes", digest.text] = ["build", "notes", digest.text] :=
      List.mergeSort_of_pairwise (by decide)
    have hlisted : (bundle ["build"] [⟨"notes", digest⟩]).listedParts =
        (bundle ["build", "notes", digest.text] []).listedParts := by
      rw [listedParts, listedParts, bundle, bundle, hsorted]
      simp [sortBy]
    rw [identity, identity, hlisted]
    rfl
  · intro hsame
    cases hsame.selectedInputs.length_eq

end Clusterflux
