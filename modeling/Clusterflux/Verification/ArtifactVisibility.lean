import Clusterflux.Foundation.Runs
import Clusterflux.Verification.ArtifactCollection

/-!
# Visibility of retained artifacts

An output of a task is published under a name made of its path and its digest.  The name
is looked at again by the listing, the lookup and the collector, each with its own rule.
They agree on the name if the path leaves room for the digest below the limit of
identifiers and does not begin with a dot; for every other path the store panics or the
artifact is never seen again.
-/

namespace Clusterflux.NodeArtifacts

open Checks LabelledRuns LengthFraming OrderedMaps StatefulProgram

variable {character : Char} {before middle after : Directory} {name : String} {id : ArtifactId}
  {artifact : RetainedArtifact} {inode : Inode}

/-! ## Characters -/

section

variable (hcharacter : isComponentCharacter character = true)
include hcharacter

/-- A character of a safe name is ASCII and printable. -/
theorem toNat_of_isComponentCharacter : 45 ≤ character.toNat ∧ character.toNat ≤ 122 := by
  simp only [isComponentCharacter, Char.isAlphanum, Char.isAlpha, Char.isUpper, Char.isLower,
    Char.isDigit, Bool.or_eq_true, Bool.and_eq_true, decide_eq_true_eq, ge_iff_le,
    UInt32.le_iff_toNat_le, List.contains_iff_mem] at hcharacter
  change 45 ≤ character.val.toNat ∧ character.val.toNat ≤ 122
  rcases hcharacter with ((hupper | hlower) | hdigit) | hother
  · exact ⟨Nat.le_trans (by decide) hupper.1, Nat.le_trans hupper.2 (by decide)⟩
  · exact ⟨Nat.le_trans (by decide) hlower.1, Nat.le_trans hlower.2 (by decide)⟩
  · exact ⟨Nat.le_trans (by decide) hdigit.1, Nat.le_trans hdigit.2 (by decide)⟩
  · have hcases : character = '.' ∨ character = '_' ∨ character = '-' := by simpa using hother
    rcases hcases with rfl | rfl | rfl <;> decide

theorem isIdCharacter_of_isComponentCharacter : isIdCharacter character = true := by
  simp only [isComponentCharacter, Bool.or_eq_true, List.contains_iff_mem] at hcharacter
  obtain halphanum | hother := hcharacter
  · simp [isIdCharacter, halphanum]
  · have hcases : character = '.' ∨ character = '_' ∨ character = '-' := by simpa using hother
    rcases hcases with rfl | rfl | rfl <;> decide

theorem isControl_of_isComponentCharacter : isControl character = false := by
  have hrange := toNat_of_isComponentCharacter hcharacter
  simp only [isControl, Bool.or_eq_false_iff, Bool.and_eq_false_iff, decide_eq_false_iff_not]
  omega

theorem isWhitespace_of_isComponentCharacter : isWhitespace character = false := by
  have hrange := toNat_of_isComponentCharacter hcharacter
  simp only [isWhitespace, Bool.or_eq_false_iff, Bool.and_eq_false_iff, decide_eq_false_iff_not,
    beq_eq_false_iff_ne]
  omega

end

/-- A digit of a SHA-256 may stand in a name. -/
theorem isComponentCharacter_of_hex {digit : Char}
    (hdigit : (digit.isDigit || ('a' ≤ digit && digit ≤ 'f')) = true) :
    isComponentCharacter digit = true := by
  have halphanum : digit.isAlphanum = true := by
    rw [Bool.or_eq_true] at hdigit
    obtain hdigit | hletter := hdigit
    · simp [Char.isAlphanum, hdigit]
    · simp only [Bool.and_eq_true, decide_eq_true_eq] at hletter
      have hlower : digit.isLower = true := by
        simp only [Char.isLower, Bool.and_eq_true, decide_eq_true_eq]
        exact ⟨hletter.1, le_trans hletter.2 (by decide : 'f' ≤ 'z')⟩
      simp [Char.isAlphanum, Char.isAlpha, hlower]
  simp [isComponentCharacter, halphanum]

/-! ## Names -/

theorem mem_intercalate {α : Type} {separator item : α} {parts : List (List α)}
    (hitem : item ∈ [separator].intercalate parts) :
    item = separator ∨ ∃ part ∈ parts, item ∈ part := by
  induction parts with
  | nil => simp at hitem
  | cons first parts ih =>
    cases parts with
    | nil => exact .inr ⟨first, by simp, by simpa using hitem⟩
    | cons second parts =>
      rw [List.intercalate_cons_cons] at hitem
      simp only [List.mem_append, List.mem_singleton] at hitem
      rcases hitem with (hfirst | hseparator) | hlater
      · exact .inr ⟨first, by simp, hfirst⟩
      · exact .inl hseparator
      · obtain hseparator | ⟨part, hpart, hitem⟩ := ih hlater
        · exact .inl hseparator
        · exact .inr ⟨part, List.mem_cons_of_mem _ hpart, hitem⟩

/-- What a safe relative path is. -/
structure SafePath (path : String) : Prop where
  nonempty : path.isEmpty = false
  bounded : path.utf8ByteSize ≤ 240
  characters : ∀ character ∈ path.toList, character = '/' ∨ isComponentCharacter character = true

theorem safePath_of_validateRelativePath {path : String}
    (hpath : validateRelativePath path = .ok ()) : SafePath path := by
  simp only [validateRelativePath, refuseIf_eq_ok, Bool.or_eq_false_iff, decide_eq_false_iff_not,
    not_lt, List.any_eq_false, Bool.not_eq_true, Bool.not_eq_false', List.all_eq_true] at hpath
  obtain ⟨⟨⟨⟨hnonempty, hbounded⟩, -⟩, -⟩, hcomponents⟩ := hpath
  refine ⟨hnonempty, hbounded, fun character hcharacter => ?_⟩
  have hjoined : ['/'].intercalate (components path) = path.toList := List.intercalate_splitOn '/'
  rw [← hjoined] at hcharacter
  obtain hseparator | ⟨component, hcomponent, hcharacter⟩ := mem_intercalate hcharacter
  · exact .inl hseparator
  · exact .inr ((hcomponents component hcomponent).2 character hcharacter)

theorem utf8ByteSize_artifactName (path : String) :
    (artifactName path).utf8ByteSize = path.utf8ByteSize := by
  have hkept : ∀ characters : List Char, String.utf8Len (characters.map fun character =>
      if character = '/' then '_' else character) = String.utf8Len characters := by
    intro characters
    induction characters with
    | nil => rfl
    | cons character characters ih =>
      rw [List.map_cons, String.utf8Len_cons, String.utf8Len_cons, ih]
      split
      case isTrue hslash =>
        subst hslash
        rfl
      case isFalse => rfl
  calc (artifactName path).utf8ByteSize
      = String.utf8Len path.toList := by rw [artifactName, String.utf8ByteSize_ofList, hkept]
    _ = path.utf8ByteSize := by rw [← String.utf8ByteSize_ofList, String.ofList_toList]

/-- Only a path that begins with a dot gets a hidden name. -/
theorem startsWith_artifactName (path : String) :
    startsWith (artifactName path) "." = startsWith path "." := by
  unfold startsWith artifactName
  simp only [String.toList_ofList]
  cases path.toList with
  | nil => rfl
  | cons first characters =>
    by_cases hslash : first = '/'
    · subst hslash
      rfl
    · rw [List.map_cons, if_neg hslash]
      simp [List.isPrefixOf]

theorem isComponentCharacter_artifactName {path : String} (hsafe : SafePath path)
    (hcharacter : character ∈ (artifactName path).toList) :
    isComponentCharacter character = true := by
  rw [artifactName, String.toList_ofList, List.mem_map] at hcharacter
  obtain ⟨original, horiginal, rfl⟩ := hcharacter
  split
  case isTrue => rfl
  case isFalse hslash => exact (hsafe.characters original horiginal).resolve_left hslash

theorem toList_artifactName_ne_nil {path : String} (hsafe : SafePath path) :
    (artifactName path).toList ≠ [] := by
  have hpath := hsafe.nonempty
  intro hempty
  rw [artifactName, String.toList_ofList, List.map_eq_nil_iff, String.toList_eq_nil_iff] at hempty
  subst hempty
  cases hpath

/-- A safe path gives a safe name, so the second check of a path never fails. -/
theorem validateArtifactComponent_artifactName {path : String} (hsafe : SafePath path) :
    validateArtifactComponent (artifactName path) "artifact name" 240 = .ok () := by
  have hcharacters : (artifactName path).toList.all isComponentCharacter = true :=
    List.all_eq_true.mpr fun character => isComponentCharacter_artifactName hsafe
  have hblank : isBlank (artifactName path) = false := by
    obtain ⟨first, hfirst⟩ := List.exists_mem_of_ne_nil _ (toList_artifactName_ne_nil hsafe)
    rw [isBlank, List.all_eq_false]
    refine ⟨first, hfirst, ?_⟩
    rw [isWhitespace_of_isComponentCharacter (isComponentCharacter_artifactName hsafe hfirst)]
    decide
  have hbounded := hsafe.bounded
  rw [validateArtifactComponent, refuseIf_eq_ok, hblank, hcharacters, utf8ByteSize_artifactName]
  simp only [Bool.false_or, Bool.not_true, Bool.or_false, decide_eq_false_iff_not]
  omega

section Identifiers

variable [Primitives] {path : String} {content : Bytes}

/-- The name under which an output is published. -/
def identifierText (path : String) (content : Bytes) : String :=
  artifactName path ++ "-" ++ Primitives.sha256Hex content

theorem sha256Hex_of_valid (hvalid : (Digest.sha256 content).isValidSha256 = true) :
    (Primitives.sha256Hex content).utf8ByteSize = 64 ∧
      ∀ digit ∈ (Primitives.sha256Hex content).toList, isComponentCharacter digit = true := by
  rw [Digest.isValidSha256_sha256_iff] at hvalid
  exact ⟨hvalid.1, fun digit hdigit => isComponentCharacter_of_hex (hvalid.2 digit hdigit)⟩

theorem utf8ByteSize_identifierText (path : String)
    (hvalid : (Digest.sha256 content).isValidSha256 = true) :
    (identifierText path content).utf8ByteSize = path.utf8ByteSize + 65 := by
  have hdash : ("-" : String).utf8ByteSize = 1 := by decide
  rw [identifierText, String.utf8ByteSize_append, String.utf8ByteSize_append,
    utf8ByteSize_artifactName, (sha256Hex_of_valid hvalid).1, hdash]

theorem isComponentCharacter_identifierText (hsafe : SafePath path)
    (hvalid : (Digest.sha256 content).isValidSha256 = true)
    (hcharacter : character ∈ (identifierText path content).toList) :
    isComponentCharacter character = true := by
  simp only [identifierText, String.toList_append, List.mem_append] at hcharacter
  rcases hcharacter with (hname | hdash) | hdigit
  · exact isComponentCharacter_artifactName hsafe hname
  · have hdash : character = '-' := by simpa using hdash
    subst hdash
    rfl
  · exact (sha256Hex_of_valid hvalid).2 character hdigit

theorem dash_mem_identifierText (path : String) (content : Bytes) :
    '-' ∈ (identifierText path content).toList := by
  simp [identifierText]

theorem isBlank_identifierText (path : String) (content : Bytes) :
    isBlank (identifierText path content) = false := by
  rw [isBlank, List.all_eq_false]
  exact ⟨'-', dash_mem_identifierText path content, by decide⟩

theorem hidden_identifierText_iff (hsafe : SafePath path) :
    Hidden (identifierText path content) ↔ startsWith path "." = true := by
  rw [← startsWith_artifactName]
  unfold Hidden startsWith identifierText
  rw [String.toList_append, String.toList_append]
  obtain ⟨first, characters, hname⟩ := List.exists_cons_of_ne_nil (toList_artifactName_ne_nil hsafe)
  rw [hname]
  simp [List.isPrefixOf]

/-- The name is an identifier if the path leaves room for the digest. -/
theorem validateId_identifierText_iff (hsafe : SafePath path)
    (hvalid : (Digest.sha256 content).isValidSha256 = true) :
    (validateId (identifierText path content)).isOk = true ↔ path.utf8ByteSize ≤ 190 := by
  have hcharacters : ∀ character ∈ (identifierText path content).toList,
      isComponentCharacter character = true :=
    fun character => isComponentCharacter_identifierText hsafe hvalid
  have hcontrol : (identifierText path content).toList.any isControl = false := by
    rw [List.any_eq_false]
    intro character hcharacter
    rw [isControl_of_isComponentCharacter (hcharacters character hcharacter)]
    decide
  have hallowed : (identifierText path content).toList.all isIdCharacter = true := by
    rw [List.all_eq_true]
    intro character hcharacter
    exact isIdCharacter_of_isComponentCharacter (hcharacters character hcharacter)
  have hempty : (identifierText path content).isEmpty = false := by
    rw [Bool.eq_false_iff, Ne, String.isEmpty_iff]
    intro hempty
    have hdash := dash_mem_identifierText path content
    rw [hempty] at hdash
    simp at hdash
  rw [validateId, hempty, isBlank_identifierText, hcontrol, hallowed,
    utf8ByteSize_identifierText path hvalid, maxExternalIdBytes]
  by_cases hfits : path.utf8ByteSize ≤ 190
  · have hroom : ¬ path.utf8ByteSize + 65 > 255 := by omega
    simp [hfits, hroom, Except.isOk, Except.toBool]
  · have hlong : path.utf8ByteSize + 65 > 255 := by omega
    simp [hfits, hlong, Except.isOk, Except.toBool]

theorem validateArtifactComponent_identifierText (hsafe : SafePath path)
    (hvalid : (Digest.sha256 content).isValidSha256 = true) (hfits : path.utf8ByteSize ≤ 190) :
    validateArtifactComponent (identifierText path content) "artifact id" 256 = .ok () := by
  have hcharacters : (identifierText path content).toList.all isComponentCharacter = true :=
    List.all_eq_true.mpr fun character => isComponentCharacter_identifierText hsafe hvalid
  rw [validateArtifactComponent, refuseIf_eq_ok, isBlank_identifierText, hcharacters,
    utf8ByteSize_identifierText path hvalid]
  simp only [Bool.false_or, Bool.not_true, Bool.or_false, decide_eq_false_iff_not]
  omega

end Identifiers

/-! ## What a publication does -/

theorem hidden_temporaryName (processId counter : ℕ) : Hidden
    (temporaryName processId counter) := by
  simp [Hidden, temporaryName, startsWith, String.toList_append, List.isPrefixOf]

/-- Two directories with the same visible entries. -/
def Alike (before after : Directory) : Prop :=
  ∀ name, ¬ Hidden name → after[name]? = before[name]?

theorem Alike.refl (directory : Directory) : Alike directory directory := fun _ _ => rfl

theorem Alike.trans (hfirst : Alike before middle)
    (hsecond : Alike middle after) : Alike before after := by
  intro name hvisible
  rw [hsecond name hvisible, hfirst name hvisible]

theorem compare_ne_of_hidden {name other : String} (hhidden : Hidden name)
    (hvisible : ¬ Hidden other) : compare name other ≠ .eq := by
  rw [Ne, Std.LawfulEqCmp.compare_eq_iff_eq]
  rintro rfl
  exact hvisible hhidden

theorem alike_insert (hhidden : Hidden name) (directory : Directory)
    (inode : Inode) : Alike directory (directory.insert name inode) := by
  intro other hvisible
  rw [Std.ExtTreeMap.getElem?_insert, if_neg (compare_ne_of_hidden hhidden hvisible)]

theorem alike_removeFile (hhidden : Hidden name) (directory : Directory) :
    Alike directory (removeFile name directory) := by
  intro other hvisible
  unfold removeFile
  split
  case h_1 => rfl
  case h_2 =>
    rw [Std.ExtTreeMap.getElem?_erase, if_neg (compare_ne_of_hidden hhidden hvisible)]

section Publication

variable [Primitives] {path : String} {content : Bytes} {directory : Directory}

theorem copyAndHash_eq_ok_iff {limit : ℕ} {result : Digest × ℕ} :
    copyAndHash content limit = .ok result ↔
      content.length ≤ limit ∧ (Digest.sha256 content).isValidSha256 = true ∧
        result = (Digest.sha256 content, content.length) := by
  unfold copyAndHash
  by_cases hlarge : content.length > limit
  · simp [hlarge]
  · rw [if_neg hlarge, bind_eq_ok]
    unfold Digest.fromSha256Hex
    dsimp only
    change (∃ digest, (if (Digest.sha256 content).isValidSha256 = true then
      Except.ok (Digest.sha256 content) else _) = .ok digest ∧ _) ↔ _
    by_cases hvalid : (Digest.sha256 content).isValidSha256 = true
    · simp [hvalid, not_lt.mp hlarge, pure, Except.pure, eq_comm]
    · simp [hvalid]

/-- What the lookup of an artifact returns. -/
structure Holds (directory : Directory) (artifact : RetainedArtifact) (content : Bytes) :
    Prop where
  component : validateArtifactComponent artifact.id.value "artifact id" 256 = .ok ()
  stored : ∃ modified, directory[artifact.id.value]? = some (.file content modified)
  fits : content.length ≤ maxNodeArtifactBytes
  valid : (Digest.sha256 content).isValidSha256 = true
  described : artifact = ⟨artifact.id, Digest.sha256 content, content.length, artifact.id.value⟩

theorem metadata_eq_some_iff : metadata directory id = .ok (some artifact) ↔
      artifact.id = id ∧ ∃ content, Holds directory artifact content := by
  unfold metadata
  rw [check_bind_eq_ok]
  constructor
  · rintro ⟨hcomponent, hrest⟩
    split at hrest
    case h_1 => cases hrest
    case h_2 content modified hlookup =>
      rw [check_bind_eq_ok, bind_eq_ok] at hrest
      obtain ⟨-, result, hresult, hartifact⟩ := hrest
      obtain ⟨hfits, hvalid, rfl⟩ := copyAndHash_eq_ok_iff.mp hresult
      cases hartifact
      exact ⟨rfl, content, hcomponent, ⟨modified, hlookup⟩, hfits, hvalid, rfl⟩
    case h_3 => cases hrest
  · rintro ⟨rfl, content, hcomponent, ⟨modified, hlookup⟩, hfits, hvalid, hdescribed⟩
    refine ⟨hcomponent, ?_⟩
    rw [hlookup]
    dsimp only
    rw [check_bind_eq_ok, bind_eq_ok]
    refine ⟨refuseIf_eq_ok.mpr (decide_eq_false (not_lt.mpr hfits)), _,
      copyAndHash_eq_ok_iff.mpr ⟨hfits, hvalid, rfl⟩, ?_⟩
    rw [hdescribed]
    rfl

omit [Primitives] in
theorem fault_of_newArtifactId {value : String} {fault : NodeFault}
    (hfault : newArtifactId value = .error fault) : ∃ message, fault = .panicked message := by
  unfold newArtifactId at hfault
  cases htried : Id.tryNew .artifact value with
  | ok id =>
    rw [htried] at hfault
    cases hfault
  | error reason =>
    rw [htried] at hfault
    cases hfault
    exact ⟨_, rfl⟩

/-- How the retention of an output ends. -/
inductive Outcome (path : String) (directory : Directory) :
    EStateM.Result NodeFault Directory RetainedArtifact → Prop
  | refused (message : String) {after : Directory} (halike : Alike directory after) :
      Outcome path directory (.error (.error message) after)
  | panicked (message : String) {after : Directory} (content : Bytes)
      (halike : Alike directory after)
      (hvalid : (Digest.sha256 content).isValidSha256 = true)
      (hidentifier : (validateId (identifierText path content)).isOk = false) :
      Outcome path directory (.error (.panicked message) after)
  | published (content : Bytes) {after middle : Directory} (id : ArtifactId) (now : ℕ)
      (hsafe : SafePath path) (hid : id.value = identifierText path content)
      (hvalid : (Digest.sha256 content).isValidSha256 = true)
      (hfits : content.length ≤ maxNodeArtifactBytes)
      (hbefore : Alike directory middle) (hfree : middle[id.value]? = none)
      (hafter : Alike (middle.insert id.value (.file content (some now))) after) :
      Outcome path directory (.ok ⟨id, Digest.sha256 content, content.length, id.value⟩ after)
  | found (content : Bytes) {after middle : Directory} (existing : RetainedArtifact)
      (hsafe : SafePath path) (hid : existing.id.value = identifierText path content)
      (hvalid : (Digest.sha256 content).isValidSha256 = true)
      (hbefore : Alike directory middle)
      (hfound : metadata middle existing.id = .ok (some existing)) (hafter : Alike middle after) :
      Outcome path directory (.ok existing after)

variable {outputs : Outputs} {temporary : String} {now : ℕ}

omit [Primitives] in
theorem createNewPrivateFile_of_free (now : ℕ) (hfree : directory[temporary]? = none) :
    createNewPrivateFile temporary now directory =
      .ok ⟨⟩ (directory.insert temporary (.file [] (some now))) := by
  rw [createNewPrivateFile, bind_of_ok (get_apply _), bind_of_ok (ensure_of hfree _ _)]
  rfl

omit [Primitives] in
theorem createNewPrivateFile_of_taken (now : ℕ) (htaken : directory[temporary]? ≠ none) :
    createNewPrivateFile temporary now directory =
      .error (.error "File exists (os error 17)") directory := by
  rw [createNewPrivateFile, bind_of_ok (get_apply _),
    bind_of_error (ensure_eq_error_iff.mpr ⟨htaken, rfl, rfl⟩)]

/-- The directory with the temporary file, first empty and then written. -/
def withTemporary (directory : Directory) (temporary : String) (content : Bytes) (now : ℕ) :
    Directory :=
  (directory.insert temporary (.file [] (some now))).insert temporary (.file content (some now))

omit [Primitives] in
theorem alike_withTemporary (hhidden : Hidden temporary) (directory : Directory)
    (content : Bytes) (now : ℕ) : Alike directory (withTemporary directory temporary content now) :=
  (alike_insert hhidden directory _).trans (alike_insert hhidden _ _)

/-- An output that is written goes on to its publication. -/
theorem flush_of_written (path : String)
    (hopened : openRegularReadonly (outputs path) "task output" = .ok content)
    (hfits : content.length ≤ maxNodeArtifactBytes) (hfree : directory[temporary]? = none)
    (hvalid : (Digest.sha256 content).isValidSha256 = true) :
    flush outputs path temporary now directory =
      (liftExcept (newArtifactId (identifierText path content)) (fun fault => fault) >>= fun id =>
        publish temporary id (.file content (some now)) (Digest.sha256 content) content.length)
          (withTemporary directory temporary content now) := by
  have hhashed := copyAndHash_eq_ok_iff.mpr ⟨hfits, hvalid, rfl⟩
  have hhex : stripStart (Digest.sha256 content).text "sha256:" =
      some (Primitives.sha256Hex content) := stripStart_append _ _
  rw [flush, bind_of_ok (liftExcept_eq_ok_iff.mpr ⟨hopened, rfl⟩), bind_of_ok (ensure_of hfits _ _),
    bind_of_ok (createNewPrivateFile_of_free now hfree),
    bind_of_ok (liftExcept_eq_ok_iff.mpr ⟨hhashed, rfl⟩)]
  apply (bind_of_ok (modify_apply _ _)).trans
  rw [bind_of_ok (orFail_eq_ok_iff.mpr ⟨hhex, rfl⟩)]
  rfl

/-- An output that is not written is refused. -/
theorem flush_of_unwritten (hhidden : Hidden temporary)
    (hunwritten : ∀ content, openRegularReadonly (outputs path) "task output" = .ok content →
      content.length ≤ maxNodeArtifactBytes → directory[temporary]? = none →
      ¬ (Digest.sha256 content).isValidSha256 = true) :
    Outcome path directory (flush outputs path temporary now directory) := by
  unfold flush
  cases hopened : openRegularReadonly (outputs path) "task output" with
  | error message =>
    rw [bind_of_error (liftExcept_eq_error_iff.mpr ⟨message, rfl, rfl, rfl⟩)]
    exact .refused _ (.refl _)
  | ok content =>
    rw [bind_of_ok (liftExcept_eq_ok_iff.mpr ⟨rfl, rfl⟩)]
    by_cases hfits : content.length ≤ maxNodeArtifactBytes
    case neg =>
      rw [bind_of_error (ensure_eq_error_iff.mpr ⟨hfits, rfl, rfl⟩)]
      exact .refused _ (.refl _)
    case pos =>
      rw [bind_of_ok (ensure_of hfits _ _)]
      by_cases hfree : directory[temporary]? = none
      case neg =>
        rw [bind_of_error (createNewPrivateFile_of_taken now hfree)]
        exact .refused _ (.refl _)
      case pos =>
        rw [bind_of_ok (createNewPrivateFile_of_free now hfree)]
        cases hhashed : copyAndHash content maxNodeArtifactBytes with
        | error message =>
          rw [bind_of_error (liftExcept_eq_error_iff.mpr ⟨message, rfl, rfl, rfl⟩)]
          exact .refused _ (alike_insert hhidden _ _)
        | ok result =>
          exact absurd (copyAndHash_eq_ok_iff.mp hhashed).2.1
            (hunwritten content hopened hfits hfree)

theorem outcome_publish (hhidden : Hidden temporary)
    (hsafe : SafePath path) (hid : id.value = identifierText path content)
    (hvalid : (Digest.sha256 content).isValidSha256 = true)
    (hfits : content.length ≤ maxNodeArtifactBytes) (hbefore : Alike directory middle) :
    Outcome path directory (publish temporary id (.file content (some now))
      (Digest.sha256 content) content.length middle) := by
  rw [publish, bind_of_ok (get_apply _)]
  cases hlookup : middle[id.value]? with
  | none =>
    exact .published content id now hsafe hid hvalid hfits hbefore hlookup
      (alike_removeFile hhidden _)
  | some inode =>
    dsimp only
    cases hmetadata : metadata middle id with
    | error message =>
      rw [bind_of_error (liftExcept_eq_error_iff.mpr ⟨message, rfl, rfl, rfl⟩)]
      exact .refused _ hbefore
    | ok artifact =>
      rw [bind_of_ok (liftExcept_eq_ok_iff.mpr ⟨rfl, rfl⟩)]
      cases artifact with
      | none =>
        rw [bind_of_error (orFail_eq_error_iff.mpr ⟨rfl, rfl, rfl⟩)]
        exact .refused _ hbefore
      | some existing =>
        rw [bind_of_ok (orFail_eq_ok_iff.mpr ⟨rfl, rfl⟩)]
        obtain ⟨rfl, -⟩ := metadata_eq_some_iff.mp hmetadata
        by_cases hsame : existing.digest = Digest.sha256 content ∧
            existing.sizeBytes = content.length
        case pos =>
          rw [bind_of_ok (ensure_of hsame _ _)]
          exact .found content existing hsafe hid hvalid hbefore hmetadata (.refl _)
        case neg =>
          rw [bind_of_error (ensure_eq_error_iff.mpr ⟨hsame, rfl, rfl⟩)]
          exact .refused _ hbefore

theorem outcome_flush (outputs : Outputs) (now : ℕ) (hhidden : Hidden temporary)
    (hsafe : SafePath path) :
    Outcome path directory (flush outputs path temporary now directory) := by
  by_cases hwritten : ∃ content, openRegularReadonly (outputs path) "task output" = .ok content ∧
      content.length ≤ maxNodeArtifactBytes ∧ directory[temporary]? = none ∧
      (Digest.sha256 content).isValidSha256 = true
  case neg =>
    apply flush_of_unwritten hhidden
    intro content hopened hfits hfree hvalid
    exact hwritten ⟨content, hopened, hfits, hfree, hvalid⟩
  case pos =>
    obtain ⟨content, hopened, hfits, hfree, hvalid⟩ := hwritten
    have halike := alike_withTemporary hhidden directory content now
    rw [flush_of_written path hopened hfits hfree hvalid]
    cases hnew : newArtifactId (identifierText path content) with
    | ok id =>
      rw [bind_of_ok (liftExcept_eq_ok_iff.mpr ⟨rfl, rfl⟩)]
      exact outcome_publish hhidden hsafe (newArtifactId_eq_ok_iff.mp hnew) hvalid hfits halike
    | error fault =>
      rw [bind_of_error (liftExcept_eq_error_iff.mpr ⟨fault, rfl, rfl, rfl⟩)]
      have hidentifier : (validateId (identifierText path content)).isOk = false := by
        rw [Bool.eq_false_iff]
        intro hok
        have hid : newArtifactId (identifierText path content) = .ok ⟨_, hok⟩ :=
          newArtifactId_eq_ok_iff.mpr rfl
        rw [hnew] at hid
        cases hid
      obtain ⟨message, rfl⟩ := fault_of_newArtifactId hnew
      exact .panicked message content halike hvalid hidentifier

theorem Outcome.removingTemporary {action : Store RetainedArtifact} (hhidden : Hidden temporary)
    (haction : Outcome path directory (action directory)) :
    Outcome path directory (removingTemporary temporary action directory) := by
  have hremoved := fun after => alike_removeFile hhidden after
  unfold NodeArtifacts.removingTemporary
  generalize action directory = result at haction
  cases haction with
  | refused message halike => exact .refused message (halike.trans (hremoved _))
  | panicked message content halike hvalid hidentifier =>
    exact .panicked message content halike hvalid hidentifier
  | published content id now hsafe hid hvalid hfits hbefore hfree hafter =>
    exact .published content id now hsafe hid hvalid hfits hbefore hfree (hafter.trans (hremoved _))
  | found content existing hsafe hid hvalid hbefore hfound hafter =>
    exact .found content existing hsafe hid hvalid hbefore hfound (hafter.trans (hremoved _))

theorem outcome_retainOutputFile (outputs : Outputs) (path : String)
    (processId counter now : ℕ) (directory : Directory) :
    Outcome path directory (retainOutputFile outputs path processId counter now directory) := by
  unfold retainOutputFile
  cases hconfined : confinedOutputFile outputs path with
  | error message =>
    rw [bind_of_error (liftExcept_eq_error_iff.mpr ⟨message, rfl, rfl, rfl⟩)]
    exact .refused _ (.refl _)
  | ok =>
    rw [bind_of_ok (liftExcept_eq_ok_iff.mpr ⟨rfl, rfl⟩)]
    cases hcomponent : validateArtifactComponent (artifactName path) "artifact name" 240 with
    | error message =>
      rw [bind_of_error (liftExcept_eq_error_iff.mpr ⟨message, rfl, rfl, rfl⟩)]
      exact .refused _ (.refl _)
    | ok =>
      rw [bind_of_ok (liftExcept_eq_ok_iff.mpr ⟨rfl, rfl⟩)]
      have hhidden := hidden_temporaryName processId counter
      have hsafe := safePath_of_validateRelativePath (check_bind_eq_ok.mp hconfined).1
      exact .removingTemporary hhidden (outcome_flush outputs now hhidden hsafe)

end Publication

/-! ## Runs of the store -/

/-- An entry that the listing, the lookup and the collector accept. -/
structure Proper (name : String) (inode : Inode) : Prop where
  file : inode.isFile = true
  component : validateArtifactComponent name "artifact id" 256 = .ok ()
  identifier : (validateId name).isOk = true

/-- Every visible entry is proper. -/
def Tidy (directory : Directory) : Prop :=
  ∀ name inode, ¬ Hidden name → directory[name]? = some inode → Proper name inode

theorem Tidy.alike (htidy : Tidy before) (halike : Alike before after) : Tidy after := by
  intro name inode hvisible hlookup
  rw [halike name hvisible] at hlookup
  exact htidy name inode hvisible hlookup

theorem Tidy.insert {directory : Directory} (htidy : Tidy directory)
    (hproper : ¬ Hidden name → Proper name inode) :
    Tidy (directory.insert name inode) := by
  intro other found hvisible hlookup
  obtain ⟨rfl, rfl⟩ | ⟨-, hlookup⟩ := getElem?_insert_eq_some_iff.mp hlookup
  · exact hproper hvisible
  · exact htidy other found hvisible hlookup

theorem tidy_empty : Tidy (∅ : Directory) := by
  intro name inode _ hlookup
  simp at hlookup

section Events

variable [Primitives] {directory : Directory}

/-- What happens to the store: outputs of tasks are retained, downloaded artifacts are
installed under names that are free, and artifacts are collected. -/
inductive StoreEvent where
  | retain (outputs : Outputs) (path : String) (processId counter now : ℕ)
  | install (id : ArtifactId) (content : Bytes) (modified : ℕ)
  | collect (limits : NodeArtifactRetentionLimits) (pinned : Finset ArtifactId) (now : ℕ)

def StoreEvent.apply (directory : Directory) : StoreEvent → Directory
  | .retain outputs path processId counter now =>
    finalState (retainOutputFile outputs path processId counter now directory)
  | .install id content modified =>
    match interchangeDestination id with
    | .error _ => directory
    | .ok name =>
      if directory[name]? = none then directory.insert name (.file content (some modified))
      else directory
  | .collect limits pinned now => finalState (garbageCollect limits pinned now directory)

def StoreEvent.Occurs (event : StoreEvent) (before after : Directory) : Prop :=
  event.apply before = after

/-- The event does not evict the artifact. -/
def StoreEvent.Spares (id : ArtifactId) (event : StoreEvent) (directory : Directory) : Prop :=
  match event with
  | .collect limits pinned now => ∀ report after,
      garbageCollect limits pinned now directory = .ok report after → id ∉ report.evicted
  | _ => True

variable {event : StoreEvent}

/-- The store before any of it. -/
def Reached (directory : Directory) : Prop :=
  ∃ events, Run StoreEvent.Occurs (fun _ _ => True) (∅ : Directory) events directory

/-- Every rule of the store sees the artifact, and with its size and digest. -/
structure Visible (directory : Directory) (artifact : RetainedArtifact) : Prop where
  listed : ∃ ids, artifactIds directory = .ok ids ∧ artifact.id ∈ ids
  counted : ∃ entries, storedEntries directory = .ok entries ∧
    ∃ entry ∈ entries, entry.id = artifact.id ∧ entry.sizeBytes = artifact.sizeBytes
  found : metadata directory artifact.id = .ok (some artifact)

omit [Primitives] in
theorem interchangeDestination_eq_ok_iff : interchangeDestination id = .ok name ↔
      validateArtifactComponent id.value "artifact id" 256 = .ok () ∧ name = id.value := by
  rw [interchangeDestination, check_bind_eq_ok]
  simp [pure, Except.pure, eq_comm]

omit [Primitives] in
theorem storedEntries_of_tidy (htidy : Tidy directory) :
    ∃ entries, storedEntries directory = .ok entries := by
  refine ⟨_, scan_eq_ok_iff.mpr ⟨?_, rfl⟩⟩
  rintro ⟨name, inode⟩ hlisted
  have hlookup := Std.ExtTreeMap.mem_toList_iff_getElem?_eq_some.mp hlisted
  by_cases hvisible : Hidden name
  · exact ⟨none, if_pos hvisible⟩
  · have hproper := htidy name inode hvisible hlookup
    have hfile := hproper.file
    cases inode with
    | file content modified =>
      let entry : StoredArtifactEntry :=
        ⟨⟨name, hproper.identifier⟩, name, content.length, modified.getD 0⟩
      have hdescribes : Describes entry name (.file content modified) :=
        ⟨hvisible, hproper.component, rfl, rfl, content, modified, rfl, rfl, rfl⟩
      exact ⟨some entry, storedEntry_eq_some_iff.mpr hdescribes⟩
    | directory => cases hfile
    | symbolicLink => cases hfile

/-- In a tidy store an artifact with a visible name is visible. -/
theorem visible_of_holds (htidy : Tidy directory) {content : Bytes}
    (hvisible : ¬ Hidden artifact.id.value) (hholds : Holds directory artifact content) :
    Visible directory artifact := by
  obtain ⟨entries, hentries⟩ := storedEntries_of_tidy htidy
  obtain ⟨modified, hlookup⟩ := hholds.stored
  let entry : StoredArtifactEntry :=
    ⟨artifact.id, artifact.id.value, content.length, modified.getD 0⟩
  have hentry : entry ∈ entries := (mem_storedEntries hentries).mpr ⟨_, hlookup, hvisible,
    hholds.component, rfl, rfl, content, modified, rfl, rfl, rfl⟩
  obtain ⟨ids, hids, hlisted⟩ := artifactIds_of_subset hentries fun _ _ => id
  constructor
  case listed => exact ⟨ids, hids, (hlisted entry hentry).mpr ⟨_, hlookup⟩⟩
  case counted =>
    have hsize := congrArg RetainedArtifact.sizeBytes hholds.described
    exact ⟨entries, hentries, entry, hentry, rfl, hsize.symm⟩
  case found => exact metadata_eq_some_iff.mpr ⟨rfl, content, hholds⟩

theorem proper_identifierText {path : String} {content : Bytes} (hsafe : SafePath path)
    (hvalid : (Digest.sha256 content).isValidSha256 = true)
    (hid : id.value = identifierText path content) (modified : Option ℕ) :
    Proper id.value (.file content modified) := by
  have hidentifier := id.valid
  rw [hid] at hidentifier
  have hroom := (validateId_identifierText_iff hsafe hvalid).mp hidentifier
  constructor
  case file => rfl
  case component =>
    rw [hid]
    exact validateArtifactComponent_identifierText hsafe hvalid hroom
  case identifier => exact id.valid

/-- A collection leaves the entries that it does not evict. -/
theorem lookup_collect (limits : NodeArtifactRetentionLimits) (pinned : Finset ArtifactId)
    (now : ℕ) (directory : Directory) (name : String) :
    ((StoreEvent.collect limits pinned now).apply directory)[name]? = directory[name]? ∨
      ((StoreEvent.collect limits pinned now).apply directory)[name]? = none ∧
      ∃ report after, garbageCollect limits pinned now directory = .ok report after ∧
        name ∈ report.evicted.map Id.value := by
  rw [StoreEvent.apply]
  cases hentries : storedEntries directory with
  | error fault =>
    rw [garbageCollect_of_fault limits pinned now hentries]
    exact .inl rfl
  | ok entries =>
    by_cases hfits : totalBytes entries ≤ u64Max
    case neg =>
      rw [garbageCollect_of_overflow limits pinned now hentries hfits]
      exact .inl rfl
    case pos =>
      obtain ⟨ids, hids, hcollected⟩ := garbageCollect_of_entries limits pinned now hentries hfits
      have hremoved := (collected_reported hentries hids).removed name
      rw [hcollected, finalState_ok, hremoved]
      split
      case isTrue hevicted => exact .inr ⟨rfl, _, _, rfl, hevicted⟩
      case isFalse => exact .inl rfl

/-- Every visible name stays a proper identifier. -/
theorem tidy_apply (htidy : Tidy directory) (event : StoreEvent) :
    Tidy (event.apply directory) := by
  cases event with
  | retain outputs path processId counter now =>
    have houtcome := outcome_retainOutputFile outputs path processId counter now directory
    rw [StoreEvent.apply]
    generalize retainOutputFile outputs path processId counter now directory = result at houtcome
    cases houtcome with
    | refused message halike => exact htidy.alike halike
    | panicked message content halike => exact htidy.alike halike
    | published content id now hsafe hid hvalid hfits hbefore hfree hafter =>
      exact ((htidy.alike hbefore).insert fun _ =>
        proper_identifierText hsafe hvalid hid _).alike hafter
    | found content existing hsafe hid hvalid hbefore hfound hafter =>
      exact (htidy.alike hbefore).alike hafter
  | install id content modified =>
    rw [StoreEvent.apply]
    split
    case h_1 => exact htidy
    case h_2 name hname =>
      obtain ⟨hcomponent, rfl⟩ := interchangeDestination_eq_ok_iff.mp hname
      split
      case isTrue => exact htidy.insert fun _ => ⟨rfl, hcomponent, id.valid⟩
      case isFalse => exact htidy
  | collect limits pinned now =>
    intro name inode hvisible hlookup
    obtain hsame | ⟨hgone, -⟩ := lookup_collect limits pinned now directory name
    · exact htidy name inode hvisible (hsame.symm.trans hlookup)
    · rw [hgone] at hlookup
      cases hlookup

/-- A visible file stays as it is until it is evicted. -/
theorem lookup_apply (hvisible : ¬ Hidden id.value) (hlookup : directory[id.value]? = some inode)
    (hspares : event.Spares id directory) : (event.apply directory)[id.value]? = some inode := by
  cases event with
  | retain outputs path processId counter now =>
    have houtcome := outcome_retainOutputFile outputs path processId counter now directory
    rw [StoreEvent.apply]
    generalize retainOutputFile outputs path processId counter now directory = result at houtcome
    cases houtcome with
    | refused message halike => exact (halike _ hvisible).trans hlookup
    | panicked message content halike => exact (halike _ hvisible).trans hlookup
    | published content published now hsafe hid hvalid hfits hbefore hfree hafter =>
      rw [← hbefore _ hvisible] at hlookup
      apply (hafter _ hvisible).trans
      apply getElem?_insert_eq_some_iff.mpr
      refine .inr ⟨?_, hlookup⟩
      intro hname
      rw [← hname, hfree] at hlookup
      cases hlookup
    | found content existing hsafe hid hvalid hbefore hfound hafter =>
      exact (hafter _ hvisible).trans ((hbefore _ hvisible).trans hlookup)
  | install installed content modified =>
    rw [StoreEvent.apply]
    split
    case h_1 => exact hlookup
    case h_2 name hname =>
      split
      case isTrue hfree =>
        apply getElem?_insert_eq_some_iff.mpr
        refine .inr ⟨?_, hlookup⟩
        rintro rfl
        rw [hfree] at hlookup
        cases hlookup
      case isFalse => exact hlookup
  | collect limits pinned now =>
    obtain hsame | ⟨-, report, after, hcollected, hevicted⟩ :=
      lookup_collect limits pinned now directory id.value
    · exact hsame.trans hlookup
    · rw [List.mem_map_of_injective Id.value_injective] at hevicted
      exact absurd hevicted (hspares report after hcollected)

theorem Holds.apply {content : Bytes}
    (hholds : Holds directory artifact content) (hvisible : ¬ Hidden artifact.id.value)
    (hspares : event.Spares artifact.id directory) :
    Holds (event.apply directory) artifact content := by
  obtain ⟨hcomponent, ⟨modified, hlookup⟩, hfits, hvalid, hdescribed⟩ := hholds
  exact ⟨hcomponent, ⟨modified, lookup_apply hvisible hlookup hspares⟩, hfits, hvalid, hdescribed⟩

theorem Reached.tidy (hreached : Reached directory) : Tidy directory := by
  obtain ⟨events, hrun⟩ := hreached
  apply hrun.invariant tidy_empty
  rintro event before after htidy - rfl
  exact tidy_apply htidy event

/-- A returned artifact is held under a name that is visible if its path is. -/
theorem holds_retained {outputs : Outputs} {path : String} {processId counter now : ℕ}
    (hretained : retainOutputFile outputs path processId counter now directory =
      .ok artifact after) (hpath : ¬ startsWith path "." = true) :
    ¬ Hidden artifact.id.value ∧ ∃ content, Holds after artifact content := by
  have houtcome := outcome_retainOutputFile outputs path processId counter now directory
  rw [hretained] at houtcome
  cases houtcome with
  | published content id now hsafe hid hvalid hfits hbefore hfree hafter =>
    have hvisible : ¬ Hidden id.value := by
      rwa [hid, hidden_identifierText_iff hsafe]
    refine ⟨hvisible, content, ?_⟩
    constructor
    case component => exact (proper_identifierText hsafe hvalid hid none).component
    case stored =>
      refine ⟨some now, (hafter _ hvisible).trans ?_⟩
      exact Std.ExtTreeMap.getElem?_insert_self
    case fits => exact hfits
    case valid => exact hvalid
    case described => rfl
  | found content existing hsafe hid hvalid hbefore hfound hafter =>
    have hvisible : ¬ Hidden artifact.id.value := by
      rwa [hid, hidden_identifierText_iff hsafe]
    obtain ⟨-, stored, hcomponent, ⟨modified, hlookup⟩, hfits, hvalid, hdescribed⟩ :=
      metadata_eq_some_iff.mp hfound
    exact ⟨hvisible, stored, hcomponent, ⟨modified, (hafter _ hvisible).trans hlookup⟩, hfits,
      hvalid, hdescribed⟩

theorem reached_retained {outputs : Outputs} {path : String} {processId counter now : ℕ}
    (hreached : Reached directory)
    (hretained : retainOutputFile outputs path processId counter now directory =
      .ok artifact after) : Reached after := by
  obtain ⟨events, hrun⟩ := hreached
  have hoccurs : (StoreEvent.retain outputs path processId counter now).Occurs directory after := by
    rw [StoreEvent.Occurs, StoreEvent.apply, hretained, finalState_ok]
  exact ⟨_, hrun.snoc trivial hoccurs⟩

/-- The store is tidy and has the artifact. -/
def Keeps (artifact : RetainedArtifact) (content : Bytes) (directory : Directory) : Prop :=
  Tidy directory ∧ Holds directory artifact content

/-- The retained artifact is visible until it is evicted. -/
theorem visible_of_run {events : List StoreEvent} {final : Directory}
    {content : Bytes} (htidy : Tidy directory) (hvisible : ¬ Hidden artifact.id.value)
    (hholds : Holds directory artifact content)
    (hrun : Run StoreEvent.Occurs (StoreEvent.Spares artifact.id) directory events final) :
    Visible final artifact := by
  have hkept : Keeps artifact content final := by
    apply hrun.invariant ⟨htidy, hholds⟩
    rintro event before after ⟨htidy, hholds⟩ hspares rfl
    exact ⟨tidy_apply htidy event, hholds.apply hvisible hspares⟩
  exact visible_of_holds hkept.1 hvisible hkept.2

end Events

/-! ## Paths that do not fit -/

section Paths

variable [Primitives] {path : String}

/-- One empty file at this path. -/
def bareOutputs (path : String) : Outputs := fun other =>
  some (if other = path then .file [] (some 0) else .directory)

omit [Primitives] in
theorem forM_eq_ok {ε : Type} {check : String → Except ε Unit}
    (hcheck : ∀ name, check name = .ok ())
    (names : List String) : names.forM check = .ok () := by
  induction names with
  | nil => rfl
  | cons name names ih =>
    change (check name >>= fun _ => names.forM check) = .ok ()
    rw [hcheck, ih]
    rfl

omit [Primitives] in
theorem confinedOutputFile_bareOutputs (hpath : validateRelativePath path = .ok ()) :
    confinedOutputFile (bareOutputs path) path = .ok () := by
  rw [confinedOutputFile, check_bind_eq_ok]
  refine ⟨hpath, forM_eq_ok (fun name => ?_) _⟩
  by_cases hname : name = path <;> simp [bareOutputs, hname]

omit [Primitives] in
/-- A listed identifier is not a hidden name. -/
theorem visible_of_listed {directory : Directory} {ids : List ArtifactId}
    (hids : artifactIds directory = .ok ids) (hlisted : id ∈ ids) : ¬ Hidden id.value := by
  rw [artifactIds, bind_eq_ok] at hids
  obtain ⟨found, hscan, hsorted⟩ := hids
  cases hsorted
  rw [List.mem_mergeSort, mem_scan hscan] at hlisted
  obtain ⟨⟨name, inode⟩, -, hid⟩ := hlisted
  obtain ⟨-, hvisible, -, rfl⟩ := listedId_eq_some_iff.mp hid
  exact hvisible

theorem flush_bareOutputs (hhash : Primitives.HashesToSha256) (path : String) :
    flush (bareOutputs path) path (temporaryName 0 0) 0 ∅ =
      (liftExcept (newArtifactId (identifierText path [])) (fun fault => fault) >>= fun id =>
        publish (temporaryName 0 0) id (.file [] (some 0)) (Digest.sha256 []) 0)
          (withTemporary ∅ (temporaryName 0 0) [] 0) := by
  have hopened : openRegularReadonly (bareOutputs path path) "task output" = .ok [] := by
    rw [bareOutputs, if_pos rfl]
    rfl
  exact flush_of_written path hopened (Nat.zero_le _) (by simp) (hhash [])

theorem retainOutputFile_bareOutputs (hpath : validateRelativePath path = .ok ()) :
    retainOutputFile (bareOutputs path) path 0 0 0 ∅ =
      removingTemporary (temporaryName 0 0) (flush (bareOutputs path) path (temporaryName 0 0) 0)
        ∅ := by
  have hcomponent := validateArtifactComponent_artifactName (safePath_of_validateRelativePath hpath)
  rw [retainOutputFile,
    bind_of_ok (liftExcept_eq_ok_iff.mpr ⟨confinedOutputFile_bareOutputs hpath, rfl⟩),
    bind_of_ok (liftExcept_eq_ok_iff.mpr ⟨hcomponent, rfl⟩)]

/-- A path without room for the digest makes the store panic. -/
theorem long_path_panics (hhash : Primitives.HashesToSha256)
    (hpath : validateRelativePath path = .ok ()) (hlong : 190 < path.utf8ByteSize) :
    ∃ message after, retainOutputFile (bareOutputs path) path 0 0 0 ∅ =
      .error (.panicked message) after := by
  have hsafe := safePath_of_validateRelativePath hpath
  rw [retainOutputFile_bareOutputs hpath, removingTemporary, flush_bareOutputs hhash]
  cases hnew : newArtifactId (identifierText path []) with
  | ok id =>
    have hidentifier := id.valid
    rw [newArtifactId_eq_ok_iff.mp hnew,
      validateId_identifierText_iff hsafe (hhash [])] at hidentifier
    omega
  | error fault =>
    obtain ⟨message, rfl⟩ := fault_of_newArtifactId hnew
    rw [bind_of_error (liftExcept_eq_error_iff.mpr ⟨_, rfl, rfl, rfl⟩)]
    exact ⟨message, _, rfl⟩

/-- A path that fits is published. -/
theorem short_path_returns (hhash : Primitives.HashesToSha256)
    (hpath : validateRelativePath path = .ok ()) (hfits : path.utf8ByteSize ≤ 190) :
    ∃ artifact after, retainOutputFile (bareOutputs path) path 0 0 0 ∅ = .ok artifact after ∧
      artifact.id.value = identifierText path [] := by
  have hsafe := safePath_of_validateRelativePath hpath
  have hidentifier := (validateId_identifierText_iff hsafe (hhash [])).mpr hfits
  have hnew : newArtifactId (identifierText path []) = .ok ⟨_, hidentifier⟩ :=
    newArtifactId_eq_ok_iff.mpr rfl
  have hfree : (withTemporary ∅ (temporaryName 0 0) [] 0)[identifierText path []]? = none := by
    have hdifferent : compare (temporaryName 0 0) (identifierText path []) ≠ .eq := by
      rw [Ne, Std.LawfulEqCmp.compare_eq_iff_eq]
      intro hsame
      have hsize := utf8ByteSize_identifierText path (hhash [])
      rw [← hsame] at hsize
      have htemporary : (temporaryName 0 0).utf8ByteSize = 14 := by decide
      omega
    simp [withTemporary, hdifferent]
  rw [retainOutputFile_bareOutputs hpath, removingTemporary, flush_bareOutputs hhash, hnew,
    bind_of_ok (liftExcept_eq_ok_iff.mpr ⟨rfl, rfl⟩), publish, bind_of_ok (get_apply _), hfree]
  exact ⟨_, _, rfl, rfl⟩

/-- The store never panics over this path, and what it retains is visible until it is
evicted. -/
def StaysVisible (path : String) : Prop :=
  ∀ (directory : Directory), Reached directory → ∀ (outputs : Outputs) (processId counter now : ℕ),
      (∀ message after, retainOutputFile outputs path processId counter now directory ≠
        .error (.panicked message) after) ∧
      ∀ artifact after,
        retainOutputFile outputs path processId counter now directory = .ok artifact after →
        ∀ events final, Run StoreEvent.Occurs (StoreEvent.Spares artifact.id) after events final →
            Visible final artifact

/-- An accepted path is safe to retain exactly if it leaves room for the digest and does
not begin with a dot. -/
theorem retained_output_stays_visible_iff (hhash : Primitives.HashesToSha256) (path : String)
    (hpath : validateRelativePath path = .ok ()) :
    StaysVisible path ↔ path.utf8ByteSize ≤ 190 ∧ ¬ startsWith path "." = true := by
  have hsafe := safePath_of_validateRelativePath hpath
  constructor
  · intro hstays
    obtain ⟨hquiet, hvisible⟩ := hstays ∅ ⟨[], .nil⟩ (bareOutputs path) 0 0 0
    have hfits : path.utf8ByteSize ≤ 190 := by
      by_contra hlong
      obtain ⟨message, after, hpanics⟩ := long_path_panics hhash hpath (not_le.mp hlong)
      exact hquiet message after hpanics
    refine ⟨hfits, fun hdot => ?_⟩
    obtain ⟨artifact, after, hretained, hid⟩ := short_path_returns hhash hpath hfits
    obtain ⟨ids, hids, hlisted⟩ := (hvisible artifact after hretained [] after .nil).listed
    apply visible_of_listed hids hlisted
    rwa [hid, hidden_identifierText_iff hsafe]
  · rintro ⟨hfits, hdot⟩ directory hreached outputs processId counter now
    constructor
    · intro message after hpanics
      have houtcome := outcome_retainOutputFile outputs path processId counter now directory
      rw [hpanics] at houtcome
      cases houtcome with
      | panicked message content halike hvalid hidentifier =>
        rw [(validateId_identifierText_iff hsafe hvalid).mpr hfits] at hidentifier
        cases hidentifier
    · intro artifact after hretained events final hrun
      obtain ⟨hvisible, content, hholds⟩ := holds_retained hretained hdot
      exact visible_of_run (reached_retained hreached hretained).tidy hvisible hholds hrun

end Paths

/-- An output with a hidden name is retained and not listed, and a long path makes the
store panic; both paths are accepted. -/
theorem hidden_output_is_not_listed :
    letI := Primitives.sample
    (validateRelativePath ".log" = .ok () ∧
      ∃ artifact after, retainOutputFile (bareOutputs ".log") ".log" 0 0 0 ∅ = .ok artifact after ∧
        ∀ ids, artifactIds after = .ok ids → artifact.id ∉ ids) ∧
    validateRelativePath (String.ofList (List.replicate 191 'a')) = .ok () ∧
      ∃ message after, retainOutputFile (bareOutputs (String.ofList (List.replicate 191 'a')))
        (String.ofList (List.replicate 191 'a')) 0 0 0 ∅ = .error (.panicked message) after := by
  let := Primitives.sample
  have hhidden : validateRelativePath ".log" = .ok () := by rfl
  have hlong : validateRelativePath (String.ofList (List.replicate 191 'a')) = .ok () :=
    refuseIf_eq_ok.mpr (by decide +kernel)
  have hsafe := safePath_of_validateRelativePath hhidden
  refine ⟨⟨hhidden, ?_⟩, hlong, ?_⟩
  · obtain ⟨artifact, after, hretained, hid⟩ :=
      short_path_returns Primitives.sample_hashesToSha256 hhidden (by decide)
    refine ⟨artifact, after, hretained, fun ids hids hlisted => visible_of_listed hids hlisted ?_⟩
    rw [hid, hidden_identifierText_iff hsafe]
    rfl
  · apply long_path_panics Primitives.sample_hashesToSha256 hlong
    decide +kernel

/-- The output `dist/app` stays visible. -/
theorem nested_output_stays_visible :
    letI := Primitives.sample
    validateRelativePath "dist/app" = .ok () ∧ StaysVisible "dist/app" := by
  let := Primitives.sample
  have hpath : validateRelativePath "dist/app" = .ok () := by rfl
  refine ⟨hpath, ?_⟩
  apply (retained_output_stays_visible_iff Primitives.sample_hashesToSha256 "dist/app" hpath).mpr
  decide

end Clusterflux.NodeArtifacts
