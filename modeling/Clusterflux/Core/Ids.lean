import Mathlib

/-!
# External identifiers

Every identifier type of the protocol is a checked string: `try_new` and
deserialization run the same validation, so a value of the type satisfies it.
The types differ only in what they name, so they are one structure indexed by
the kind of identifier, and the validity proof is a field.

Maps keyed by identifiers are ordered maps in the source.  The order instances
below give the same iteration order: identifiers compare as strings, tuples and
scope keys compare lexicographically.
-/

namespace Clusterflux

/-! ## Validation -/

def maxExternalIdBytes : ℕ := 255

/-- The characters with the Unicode `White_Space` property, which trimming
removes. -/
def isWhitespace (char : Char) : Bool :=
  let code := char.toNat
  (9 ≤ code && code ≤ 13) || code == 32 || code == 0x85 || code == 0xA0 ||
    code == 0x1680 || (0x2000 ≤ code && code ≤ 0x200A) || code == 0x2028 ||
    code == 0x2029 || code == 0x202F || code == 0x205F || code == 0x3000

/-- `value.trim().is_empty()`. -/
def isBlank (value : String) : Bool :=
  value.toList.all isWhitespace

/-- `value.trim()`. -/
def trim (value : String) : String :=
  String.ofList
    (((value.toList.dropWhile isWhitespace).reverse.dropWhile isWhitespace).reverse)

/-- The longest end of a text with at most so many bytes. -/
def suffixWithin (limit : ℕ) : List Char → List Char
  | [] => []
  | char :: rest =>
    if ((char :: rest).map Char.utf8Size).sum ≤ limit then char :: rest
    else suffixWithin limit rest

theorem utf8Size_suffixWithin (limit : ℕ) (chars : List Char) :
    ((suffixWithin limit chars).map Char.utf8Size).sum ≤ limit := by
  induction chars with
  | nil => exact Nat.zero_le _
  | cons char rest ih =>
    unfold suffixWithin
    split
    case isTrue hfits => exact hfits
    case isFalse => exact ih

/-- `value.starts_with(start)`. -/
def startsWith (value start : String) : Bool :=
  start.toList.isPrefixOf value.toList

/-- `value.strip_prefix(start)`. -/
def stripStart (value start : String) : Option String :=
  if startsWith value start then some (String.ofList (value.toList.drop start.length)) else none

/-- The characters of the Unicode category `Cc`. -/
def isControl (char : Char) : Bool :=
  char.toNat < 32 || (127 ≤ char.toNat && char.toNat < 160)

def isIdCharacter (char : Char) : Bool :=
  char.isAlphanum || char == '-' || char == '_' || char == '.' || char == ':' ||
    char == '/' || char == '@' || char == '+'

inductive IdParseReason where
  | blank
  | tooLong
  | controlCharacter
  | forbiddenCharacter

def IdParseReason.message : IdParseReason → String
  | .blank => "value must not be empty or whitespace-only"
  | .tooLong => "value exceeds the 255-byte limit"
  | .controlCharacter => "control characters are forbidden"
  | .forbiddenCharacter =>
    "only ASCII letters, digits, '-', '_', '.', ':', '/', '@', and '+' are allowed"

def validateId (value : String) : Except IdParseReason Unit :=
  if value.isEmpty || isBlank value then .error .blank
  else if value.utf8ByteSize > maxExternalIdBytes then .error .tooLong
  else if value.toList.any isControl then .error .controlCharacter
  else if !value.toList.all isIdCharacter then .error .forbiddenCharacter
  else .ok ()

/-! ## Identifier types -/

inductive IdKind where
  | agent
  | artifact
  | node
  | process
  | launchAttempt
  | project
  | repository
  | run
  | taskDefinition
  | taskInstance
  | tenant
  | trigger
  | user

def IdKind.typeName : IdKind → String
  | agent => "AgentId"
  | artifact => "ArtifactId"
  | node => "NodeId"
  | process => "ProcessId"
  | launchAttempt => "LaunchAttemptId"
  | project => "ProjectId"
  | repository => "RepositoryId"
  | run => "RunId"
  | taskDefinition => "TaskDefinitionId"
  | taskInstance => "TaskInstanceId"
  | tenant => "TenantId"
  | trigger => "TriggerId"
  | user => "UserId"

/-- The text of a failed parse. -/
def IdKind.parseError (kind : IdKind) (reason : IdParseReason) : String :=
  kind.typeName ++ " is invalid: " ++ reason.message

/-- An identifier is a string that passed `validateId`. -/
structure Id (kind : IdKind) where
  value : String
  valid : (validateId value).isOk
  deriving DecidableEq

abbrev AgentId := Id .agent
abbrev ArtifactId := Id .artifact
abbrev NodeId := Id .node
abbrev ProcessId := Id .process
abbrev LaunchAttemptId := Id .launchAttempt
abbrev ProjectId := Id .project
abbrev RepositoryId := Id .repository
abbrev RunId := Id .run
abbrev TaskDefinitionId := Id .taskDefinition
abbrev TaskInstanceId := Id .taskInstance
abbrev TenantId := Id .tenant
abbrev TriggerId := Id .trigger
abbrev UserId := Id .user

def Id.tryNew (kind : IdKind) (value : String) : Except IdParseReason (Id kind) :=
  match h : validateId value with
  | .ok () => .ok ⟨value, by simp [h, Except.isOk, Except.toBool]⟩
  | .error reason => .error reason

theorem Id.value_injective {kind : IdKind} : Function.Injective (Id.value : Id kind → String) := by
  intro left right hvalue
  cases left
  cases right
  simpa using hvalue

/-- Parsing succeeds with the identifier of that text. -/
theorem Id.tryNew_eq_ok_iff {kind : IdKind} {value : String} {id : Id kind} :
    Id.tryNew kind value = .ok id ↔ id.value = value := by
  constructor
  · intro heq
    unfold Id.tryNew at heq
    split at heq
    · rw [← Except.ok.inj heq]
    · cases heq
  · rintro rfl
    have hvalid := id.valid
    unfold Id.tryNew
    split
    · rfl
    · rename_i reason hreason
      rw [hreason] at hvalid
      cases hvalid

theorem Id.toOption_tryNew_eq_some_iff {kind : IdKind} {value : String} {id : Id kind} :
    (Id.tryNew kind value).toOption = some id ↔ id.value = value := by
  rw [← Id.tryNew_eq_ok_iff]
  cases Id.tryNew kind value <;> simp [Except.toOption]

/-! ## Order -/

open Std

instance {kind : IdKind} : Ord (Id kind) := ⟨compareOn Id.value⟩

instance {kind : IdKind} : TransOrd (Id kind) :=
  inferInstanceAs (TransCmp (compareOn Id.value))

instance {kind : IdKind} : LawfulEqOrd (Id kind) where
  eq_of_compare hcompare := Id.value_injective (LawfulEqOrd.eq_of_compare hcompare)

attribute [instance] lexOrd

instance : TransOrd (TenantId × ProjectId) := inferInstance

instance : TransOrd (TenantId × ProjectId × AgentId) := inferInstance

instance : TransOrd (TenantId × ProjectId × String) := inferInstance

instance {kind : IdKind} : LawfulBEq (Id kind) := inferInstance

/-- The ordered maps of the source. -/
abbrev OrderedMap (κ ν : Type) [Ord κ] := Std.ExtTreeMap κ ν compare

theorem Id.utf8ByteSize_le {kind : IdKind} (id : Id kind) :
    id.value.utf8ByteSize ≤ maxExternalIdBytes := by
  have hvalid := id.valid
  unfold validateId at hvalid
  split_ifs at hvalid with hblank hlong
  all_goals first
    | exact Nat.le_of_not_lt hlong
    | exact absurd hvalid (by simp [Except.isOk, Except.toBool])

section OrderedList

variable {κ : Type} [Ord κ] [TransOrd κ] [LawfulEqOrd κ]

/-- The order in which an ordered set lists its members. -/
def Precedes (left right : κ) : Prop := (compare left right).isLE

instance : DecidableRel (Precedes (κ := κ)) :=
  fun left right => inferInstanceAs (Decidable ((compare left right).isLE = true))

instance : IsTrans κ Precedes where
  trans _ _ _ hfirst hsecond := TransCmp.isLE_trans hfirst hsecond

instance : Std.Antisymm (Precedes (κ := κ)) where
  antisymm _ _ hfirst hsecond :=
    LawfulEqOrd.eq_of_compare (OrientedCmp.isLE_antisymm hfirst hsecond)

instance : Std.Total (Precedes (κ := κ)) where
  total left right := by
    have hswap : compare right left = (compare left right).swap := OrientedCmp.eq_swap
    unfold Precedes
    rw [hswap]
    cases compare left right <;> decide

/-- The members of a set in iteration order. -/
def orderedList (keys : Finset κ) : List κ := keys.sort Precedes

end OrderedList

/-- A node within its tenant and project. -/
structure NodeScopeKey where
  tenant : TenantId
  project : ProjectId
  node : NodeId
  deriving DecidableEq

/-- The fields of a scope key in comparison order. -/
def NodeScopeKey.toTuple (scope : NodeScopeKey) : TenantId × ProjectId × NodeId :=
  (scope.tenant, scope.project, scope.node)

theorem NodeScopeKey.toTuple_injective : Function.Injective NodeScopeKey.toTuple := by
  rintro ⟨tenant, project, node⟩ ⟨tenant', project', node'⟩ heq
  simpa [NodeScopeKey.toTuple] using heq

instance : Ord NodeScopeKey := ⟨compareOn NodeScopeKey.toTuple⟩

instance : TransOrd NodeScopeKey :=
  inferInstanceAs (TransCmp (compareOn NodeScopeKey.toTuple))

instance : LawfulEqOrd NodeScopeKey where
  eq_of_compare hcompare :=
    NodeScopeKey.toTuple_injective (LawfulEqOrd.eq_of_compare hcompare)

/-! ## Names of samples -/

theorem tenant_valid : (validateId "tenant").isOk := by decide
theorem project_valid : (validateId "project").isOk := by decide
theorem process_valid : (validateId "process").isOk := by decide
theorem task_valid : (validateId "task").isOk := by decide
theorem node_valid : (validateId "node").isOk := by decide
theorem user_valid : (validateId "user").isOk := by decide
theorem artifact_valid : (validateId "artifact").isOk := by decide

example : (Id.tryNew .node "node-1").isOk ∧ ¬ (Id.tryNew .node "node 1").isOk := by
  decide

end Clusterflux
