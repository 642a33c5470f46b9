import Clusterflux.Foundation.JsonPrinting

/-!
# Wire encodings up to null entries

A signed digest is computed from a JSON value from which null-valued object
entries have been removed.  A wire codec is an encoding together with the proof
of exactly what survives this removal: two values have the same stripped
encoding if and only if they have the same normal form.  For a type without
embedded free-form JSON the normal form is the value itself, so nothing is lost.

Codecs are built from combinators for the shapes a derived serializer produces:
scalars, lists, pairs, structures and tagged unions.  The proof for a type is
assembled by the combinators together with its encoder.
-/

namespace JsonText

open Json

/-- An encoding whose stripped result determines the normal form of the encoded
value and is determined by it. -/
structure WireCodec (α : Type) where
  encode : α → Json
  normalize : α → α
  strip_normalize : ∀ value,
    stripNulls (encode (normalize value)) = stripNulls (encode value)
  normalize_eq : ∀ left right,
    stripNulls (encode left) = stripNulls (encode right) → normalize left = normalize right

namespace WireCodec

variable {α β : Type}

/-- Two values are the same on the stripped wire exactly when their normal forms
agree. -/
theorem strip_encode_eq_iff (codec : WireCodec α) (left right : α) :
    stripNulls (codec.encode left) = stripNulls (codec.encode right) ↔
      codec.normalize left = codec.normalize right := by
  constructor
  · exact codec.normalize_eq left right
  · intro heq
    rw [← codec.strip_normalize left, ← codec.strip_normalize right, heq]

theorem normalize_normalize (codec : WireCodec α) (value : α) :
    codec.normalize (codec.normalize value) = codec.normalize value :=
  codec.normalize_eq _ _ (codec.strip_normalize value)

/-! ## Scalars -/

/-- A type whose encoding contains nothing that stripping could remove. -/
def ofInjective (encode : α → Json) (hinjective : Function.Injective encode)
    (hstrip : ∀ value, stripNulls (encode value) = encode value) : WireCodec α where
  encode := encode
  normalize := id
  strip_normalize _ := rfl
  normalize_eq left right heq := by
    rw [hstrip, hstrip] at heq
    exact hinjective heq

/-- A type that is sent as a text, such as an identifier or an enumeration. -/
def text (toText : α → String) (hinjective : Function.Injective toText := by
      intro left right heq
      cases left <;> cases right <;> first | rfl | exact absurd heq (by decide)) : WireCodec α :=
  ofInjective (fun value => .string (toText value))
    (fun _ _ heq => hinjective (Json.string.inj heq)) (fun _ => rfl)

def string : WireCodec String := text id Function.injective_id

def natural : WireCodec ℕ :=
  ofInjective (fun value => .number (.integer value))
    (fun left right heq => by simpa using heq) (fun _ => rfl)

def integer : WireCodec ℤ :=
  ofInjective (fun value => .number (.integer value))
    (fun left right heq => by simpa using heq) (fun _ => rfl)

def bool : WireCodec Bool :=
  ofInjective (fun value => .bool value) (fun left right heq => by simpa using heq)
    (fun _ => rfl)

/-- Free-form JSON: null entries are lost. -/
def json : WireCodec Json where
  encode := id
  normalize := stripNulls
  strip_normalize value := stripNulls_stripNulls value
  normalize_eq _ _ heq := heq

/-! ## Lists and pairs -/

def list (codec : WireCodec α) : WireCodec (List α) where
  encode values := .array (values.map codec.encode)
  normalize values := values.map codec.normalize
  strip_normalize values := by
    simp only [stripNulls, stripItems_eq_map, List.map_map, array.injEq]
    apply List.map_congr_left
    intro value _
    exact codec.strip_normalize value
  normalize_eq left right heq := by
    simp only [stripNulls, stripItems_eq_map, List.map_map, array.injEq] at heq
    induction left generalizing right with
    | nil => cases right <;> simp_all
    | cons value left ih =>
      cases right with
      | nil => simp at heq
      | cons value' right =>
        simp only [List.map_cons, List.cons.injEq, Function.comp_apply] at heq ⊢
        exact ⟨codec.normalize_eq _ _ heq.1, ih right heq.2⟩

def pair (first : WireCodec α) (second : WireCodec β) : WireCodec (α × β) where
  encode value := .array [first.encode value.1, second.encode value.2]
  normalize value := (first.normalize value.1, second.normalize value.2)
  strip_normalize value := by
    simp [stripNulls, stripItems, first.strip_normalize, second.strip_normalize]
  normalize_eq left right heq := by
    simp only [stripNulls, stripItems, array.injEq, List.cons.injEq, and_true] at heq
    rw [first.normalize_eq _ _ heq.1, second.normalize_eq _ _ heq.2]

/-- The codec of a type that has the same values as another. -/
def congr (codec : WireCodec α) (equiv : β ≃ α) : WireCodec β where
  encode value := codec.encode (equiv value)
  normalize value := equiv.symm (codec.normalize (equiv value))
  strip_normalize value := by
    rw [Equiv.apply_symm_apply, codec.strip_normalize]
  normalize_eq left right heq := by
    rw [codec.normalize_eq _ _ heq]

/-- The encoding is never the null value, so an absent value can be told apart. -/
class NeverNull (codec : WireCodec α) : Prop where
  isNull_encode : ∀ value, (codec.encode value).isNull = false

instance : string.NeverNull := ⟨fun _ => rfl⟩
instance : natural.NeverNull := ⟨fun _ => rfl⟩
instance : integer.NeverNull := ⟨fun _ => rfl⟩

end WireCodec

/-! ## Structures -/

/-- What an object shows under a key once null entries are removed. -/
def visible (fields : List (String × Json)) (key : String) : Option Json :=
  ((fields.lookup key).filter fun value => !value.isNull).map stripNulls

/-- The entries of a structure, with the keys they may use. -/
structure FieldsCodec (α : Type) where
  keys : List String
  encode : α → List (String × Json)
  encode_keys : ∀ value, ((encode value).map Prod.fst).Sublist keys
  normalize : α → α
  strip_normalize : ∀ value,
    stripFields (encode (normalize value)) = stripFields (encode value)
  normalize_eq : ∀ left right,
    (∀ key ∈ keys, visible (encode left) key = visible (encode right) key) →
      normalize left = normalize right

@[simp]
theorem visible_nil (key : String) : visible [] key = none := rfl

theorem visible_singleton (name key : String) (value : Json) :
    visible [(name, value)] key =
      if key = name ∧ value.isNull = false then some (stripNulls value) else none := by
  by_cases hkey : key = name
  · subst hkey
    cases hnull : value.isNull <;> simp [visible, List.lookup, Option.filter, hnull]
  · have hdiffers : (key == name) = false := by simpa using hkey
    simp [visible, List.lookup, hdiffers, hkey]

private theorem lookup_eq_none_of_not_mem {fields : List (String × Json)} {key : String}
    (hkey : key ∉ fields.map Prod.fst) : fields.lookup key = none := by
  rw [List.lookup_eq_none_iff]
  rintro entry hentry
  simp only [bne_iff_ne, ne_eq]
  rintro rfl
  exact hkey (List.mem_map_of_mem hentry)

theorem visible_append_left {first second : List (String × Json)} {key : String}
    (hkey : key ∉ second.map Prod.fst) : visible (first ++ second) key = visible first key := by
  rw [visible, List.lookup_append, lookup_eq_none_of_not_mem hkey, Option.or_none, visible]

theorem visible_append_right {first second : List (String × Json)} {key : String}
    (hkey : key ∉ first.map Prod.fst) : visible (first ++ second) key = visible second key := by
  rw [visible, List.lookup_append, lookup_eq_none_of_not_mem hkey, Option.none_or, visible]

theorem stripFields_append (first second : List (String × Json)) :
    stripFields (first ++ second) = stripFields first ++ stripFields second := by
  simp [stripFields_eq_filterMap]

namespace FieldsCodec

variable {α β : Type}

section

variable (codec : FieldsCodec α)

theorem not_mem_encode {key : String} (hkey : key ∉ codec.keys)
    (value : α) : key ∉ (codec.encode value).map Prod.fst :=
  fun hmem => hkey ((codec.encode_keys value).subset hmem)

/-- A field that is always written. -/
def required (key : String) (codec : WireCodec α) : FieldsCodec α where
  keys := [key]
  encode value := [(key, codec.encode value)]
  encode_keys _ := List.Sublist.refl _
  normalize := codec.normalize
  strip_normalize value := by
    have hnull : (codec.encode (codec.normalize value)).isNull = (codec.encode value).isNull := by
      rw [← isNull_stripNulls, codec.strip_normalize, isNull_stripNulls]
    simp only [stripFields, hnull, codec.strip_normalize]
  normalize_eq left right heq := by
    have hkey := heq key List.mem_cons_self
    rw [visible_singleton, visible_singleton] at hkey
    apply codec.normalize_eq
    -- an absent entry stands for a null value
    by_cases hleft : (codec.encode left).isNull = false
    · by_cases hright : (codec.encode right).isNull = false
      · simpa [hleft, hright] using hkey
      · simp [hleft, hright] at hkey
    · by_cases hright : (codec.encode right).isNull = false
      · simp [hleft, hright] at hkey
      · simp only [Bool.not_eq_false, isNull_eq_true_iff] at hleft hright
        rw [hleft, hright]

/-- A field that is written as null, or left out, when there is no value. -/
def optional (key : String) (codec : WireCodec α) [hnull : codec.NeverNull]
    (leftOut : Bool) : FieldsCodec (Option α) where
  keys := [key]
  encode value := match value with
    | some value => [(key, codec.encode value)]
    | none => if leftOut then [] else [(key, .null)]
  encode_keys value := by
    cases value <;> cases leftOut <;> simp
  normalize value := value.map codec.normalize
  strip_normalize value := by
    cases value with
    | none => rfl
    | some value =>
      simp [stripFields, hnull.isNull_encode, codec.strip_normalize]
  normalize_eq left right heq := by
    have hkey := heq key List.mem_cons_self
    have hnone : visible (if leftOut then [] else [(key, Json.null)]) key = none := by
      cases leftOut <;> simp [visible_singleton]
    cases left with
    | none =>
      cases right with
      | none => rfl
      | some right => simp [hnone, visible_singleton, hnull.isNull_encode] at hkey
    | some left =>
      cases right with
      | none => simp [hnone, visible_singleton, hnull.isNull_encode] at hkey
      | some right =>
        simp only [visible_singleton, hnull.isNull_encode, and_self, if_true,
          Option.some.injEq] at hkey
        simp [codec.normalize_eq left right hkey]

/-- A list field that is left out when the list is empty. -/
def listUnlessEmpty (key : String) (codec : WireCodec α) : FieldsCodec (List α) where
  keys := [key]
  encode values := if values.isEmpty then [] else [(key, codec.list.encode values)]
  encode_keys values := by
    cases values <;> simp
  normalize := codec.list.normalize
  strip_normalize values := by
    cases values with
    | nil => rfl
    | cons value values =>
      have hstrip := codec.list.strip_normalize (value :: values)
      simpa [WireCodec.list, stripFields, isNull] using hstrip
  normalize_eq left right heq := by
    have hkey := heq key List.mem_cons_self
    cases left with
    | nil =>
      cases right with
      | nil => rfl
      | cons value right => simp [visible_singleton, WireCodec.list, isNull] at hkey
    | cons value left =>
      cases right with
      | nil => simp [visible_singleton, WireCodec.list, isNull] at hkey
      | cons value' right =>
        apply codec.list.normalize_eq
        simpa [visible_singleton, WireCodec.list, isNull] using hkey

/-- The fields of two structures with different keys. -/
def and (first : FieldsCodec α) (second : FieldsCodec β)
    (hdisjoint : ∀ key ∈ first.keys, key ∉ second.keys := by decide) : FieldsCodec (α × β) where
  keys := first.keys ++ second.keys
  encode value := first.encode value.1 ++ second.encode value.2
  encode_keys value := by
    rw [List.map_append]
    exact (first.encode_keys _).append (second.encode_keys _)
  normalize value := (first.normalize value.1, second.normalize value.2)
  strip_normalize value := by
    rw [stripFields_append, stripFields_append, first.strip_normalize, second.strip_normalize]
  normalize_eq left right heq := by
    have hfirst : first.normalize left.1 = first.normalize right.1 := by
      apply first.normalize_eq
      intro key hkey
      have hother : key ∉ second.keys := hdisjoint key hkey
      have hvisible := heq key (List.mem_append_left _ hkey)
      rwa [visible_append_left (second.not_mem_encode hother _),
        visible_append_left (second.not_mem_encode hother _)] at hvisible
    have hsecond : second.normalize left.2 = second.normalize right.2 := by
      apply second.normalize_eq
      intro key hkey
      have hother : key ∉ first.keys := fun hmem => hdisjoint key hmem hkey
      have hvisible := heq key (List.mem_append_right _ hkey)
      rwa [visible_append_right (first.not_mem_encode hother _),
        visible_append_right (first.not_mem_encode hother _)] at hvisible
    rw [hfirst, hsecond]

def congr (equiv : β ≃ α) : FieldsCodec β where
  keys := codec.keys
  encode value := codec.encode (equiv value)
  encode_keys value := codec.encode_keys _
  normalize value := equiv.symm (codec.normalize (equiv value))
  strip_normalize value := by
    rw [Equiv.apply_symm_apply, codec.strip_normalize]
  normalize_eq left right heq := by
    rw [codec.normalize_eq _ _ heq]

theorem nodup_encode (hkeys : codec.keys.Nodup) (value : α) :
    ((codec.encode value).map Prod.fst).Nodup :=
  hkeys.sublist (codec.encode_keys value)

/-- A structure is sent as an object. -/
def object (hkeys : codec.keys.Nodup := by decide) : WireCodec α where
  encode value := ofFields (codec.encode value)
  normalize := codec.normalize
  strip_normalize value :=
    stripNulls_ofFields_congr (codec.nodup_encode hkeys _) (codec.strip_normalize value)
  normalize_eq left right heq := by
    apply codec.normalize_eq
    intro key _
    exact lookup_of_stripNulls_ofFields_eq (codec.nodup_encode hkeys left)
      (codec.nodup_encode hkeys right) heq key

end

end FieldsCodec

/-! ## Tagged unions -/

section Unions

variable {ι : Type} {Payload : ι → Type}

/-- A union whose variants are structures: the name of the variant is one more
entry of the object. -/
def internallyTagged (tag : String) (name : ι → String) (hname : Function.Injective name)
    (codec : ∀ index, FieldsCodec (Payload index))
    (hkeys : ∀ index, (tag :: (codec index).keys).Nodup) :
    WireCodec (Σ index, Payload index) where
  encode value := ofFields ((tag, .string (name value.1)) :: (codec value.1).encode value.2)
  normalize value := ⟨value.1, (codec value.1).normalize value.2⟩
  strip_normalize value := by
    have hnodup := ((hkeys value.1).sublist
      (((codec value.1).encode_keys ((codec value.1).normalize value.2)).cons_cons tag))
    refine stripNulls_ofFields_congr (by simpa using hnodup) ?_
    simp [stripFields, isNull, (codec value.1).strip_normalize]
  normalize_eq left right heq := by
    obtain ⟨index, left⟩ := left
    obtain ⟨index', right⟩ := right
    have hleft : (((tag, Json.string (name index)) :: (codec index).encode left).map
        Prod.fst).Nodup := by
      simpa using (hkeys index).sublist (((codec index).encode_keys left).cons_cons tag)
    have hright : (((tag, Json.string (name index')) :: (codec index').encode right).map
        Prod.fst).Nodup := by
      simpa using (hkeys index').sublist (((codec index').encode_keys right).cons_cons tag)
    have hvisible := lookup_of_stripNulls_ofFields_eq hleft hright heq
    obtain rfl : index = index' := by
      have htag := hvisible tag
      simp only [List.lookup, beq_self_eq_true, Option.filter, isNull, Bool.not_false,
        if_true, Option.map_some, stripNulls, Option.some.injEq, Json.string.injEq] at htag
      exact hname htag
    have hpayload : (codec index).normalize left = (codec index).normalize right := by
      apply (codec index).normalize_eq
      intro key hkey
      have hdiffers : (key == tag) = false := by
        simp only [beq_eq_false_iff_ne]
        rintro rfl
        exact (List.nodup_cons.mp (hkeys index)).1 hkey
      have hentry := hvisible key
      simpa only [visible, List.lookup, hdiffers] using hentry
    rw [hpayload]

/-- A union whose variants wrap one value: an object with a single entry under
the name of the variant.  At most one variant may wrap a null value. -/
def externallyTagged (name : ι → String) (hname : Function.Injective name)
    (codec : ∀ index, WireCodec (Payload index))
    (hnull : ∀ index index', ¬ (codec index).NeverNull → ¬ (codec index').NeverNull →
      index = index') :
    WireCodec (Σ index, Payload index) where
  encode value := ofFields [(name value.1, (codec value.1).encode value.2)]
  normalize value := ⟨value.1, (codec value.1).normalize value.2⟩
  strip_normalize value :=
    (FieldsCodec.required (name value.1) (codec value.1)).object
      (List.nodup_singleton _) |>.strip_normalize value.2
  normalize_eq left right heq := by
    obtain ⟨index, left⟩ := left
    obtain ⟨index', right⟩ := right
    have hvisible : ∀ key, visible [(name index, (codec index).encode left)] key =
        visible [(name index', (codec index').encode right)] key :=
      lookup_of_stripNulls_ofFields_eq (List.nodup_singleton _) (List.nodup_singleton _) heq
    obtain rfl : index = index' := by
      by_contra hindex
      have hnames : name index ≠ name index' := fun hsame => hindex (hname hsame)
      have hleft := hvisible (name index)
      have hright := hvisible (name index')
      simp only [visible_singleton, hnames, hnames.symm, false_and, if_false, true_and,
        ite_eq_right_iff, reduceCtorEq, imp_false] at hleft hright
      exact hindex (hnull index index' (fun hnever => hleft (hnever.isNull_encode left))
        (fun hnever => absurd hright (by simp [hnever.isNull_encode right])))
    have hpayload : (codec index).normalize left = (codec index).normalize right :=
      (FieldsCodec.required (name index) (codec index)).normalize_eq left right
        (fun key _ => hvisible key)
    rw [hpayload]

end Unions

/-! ## Plain codecs

A codec is plain when nothing of a value is lost: its normal form is the value.
Only free-form JSON is not plain.
-/

class WireCodec.Plain {α : Type} (codec : WireCodec α) : Prop where
  normalize_eq_id : codec.normalize = id

class FieldsCodec.Plain {α : Type} (codec : FieldsCodec α) : Prop where
  normalize_eq_id : codec.normalize = id

section Plain

variable {α β : Type}

@[simp]
theorem WireCodec.normalize_of_plain (codec : WireCodec α) [plain : codec.Plain] :
    codec.normalize = id :=
  plain.normalize_eq_id

@[simp]
theorem FieldsCodec.normalize_of_plain (codec : FieldsCodec α) [plain : codec.Plain] :
    codec.normalize = id :=
  plain.normalize_eq_id

instance (toText : α → String) (hinjective : Function.Injective toText) :
    (WireCodec.text toText hinjective).Plain :=
  ⟨rfl⟩

instance : WireCodec.string.Plain := ⟨rfl⟩
instance : WireCodec.natural.Plain := ⟨rfl⟩
instance : WireCodec.integer.Plain := ⟨rfl⟩
instance : WireCodec.bool.Plain := ⟨rfl⟩

instance (codec : WireCodec α) [codec.Plain] : codec.list.Plain :=
  ⟨funext fun values => by simp [WireCodec.list]⟩

instance (first : WireCodec α) (second : WireCodec β) [first.Plain] [second.Plain] :
    (first.pair second).Plain :=
  ⟨funext fun value => by simp [WireCodec.pair]⟩

instance (codec : WireCodec α) (equiv : β ≃ α) [codec.Plain] : (codec.congr equiv).Plain :=
  ⟨funext fun value => by simp [WireCodec.congr]⟩

instance (key : String) (codec : WireCodec α) [codec.Plain] :
    (FieldsCodec.required key codec).Plain :=
  ⟨funext fun value => by simp [FieldsCodec.required]⟩

instance (key : String) (codec : WireCodec α) [codec.NeverNull] (leftOut : Bool)
    [codec.Plain] : (FieldsCodec.optional key codec leftOut).Plain :=
  ⟨funext fun value => by cases value <;> simp [FieldsCodec.optional]⟩

instance (key : String) (codec : WireCodec α) [codec.Plain] :
    (FieldsCodec.listUnlessEmpty key codec).Plain :=
  ⟨funext fun values => by simp [FieldsCodec.listUnlessEmpty]⟩

instance (first : FieldsCodec α) (second : FieldsCodec β)
    (hdisjoint : ∀ key ∈ first.keys, key ∉ second.keys) [first.Plain] [second.Plain] :
    (first.and second hdisjoint).Plain :=
  ⟨funext fun value => by simp [FieldsCodec.and]⟩

instance (codec : FieldsCodec α) (equiv : β ≃ α) [codec.Plain] : (codec.congr equiv).Plain :=
  ⟨funext fun value => by simp [FieldsCodec.congr]⟩

instance (codec : FieldsCodec α) (hkeys : codec.keys.Nodup) [codec.Plain] :
    (codec.object hkeys).Plain :=
  ⟨funext fun value => by simp [FieldsCodec.object]⟩

instance {ι : Type} {Payload : ι → Type} (tag : String) (name : ι → String)
    (hname : Function.Injective name) (codec : ∀ index, FieldsCodec (Payload index))
    (hkeys : ∀ index, (tag :: (codec index).keys).Nodup) [∀ index, (codec index).Plain] :
    (internallyTagged tag name hname codec hkeys).Plain :=
  ⟨funext fun value => by simp [internallyTagged]⟩

end Plain

/-! ## Signed payloads -/

variable (excluded : List String)

/-- The canonical form of a payload: null entries are removed at every depth,
and the excluded keys at the top. -/
def canonicalPayload : Json → Json
  | .object fields =>
    .object (stripFields (fields.filter fun entry => !excluded.contains entry.1))
  | value => stripNulls value

/-- The canonical form of a structure is the canonical form of its other fields. -/
theorem canonicalPayload_ofFields {fields : List (String × Json)}
    (hkeys : (fields.map Prod.fst).Nodup) :
    canonicalPayload excluded (ofFields fields) =
      stripNulls (ofFields (fields.filter fun entry => !excluded.contains entry.1)) := by
  simp only [ofFields, canonicalPayload, stripNulls, object.injEq]
  rw [filter_sorted hkeys (fun key => !excluded.contains key)]

/-- A signature field whose keys are excluded leaves no trace in the canonical
form: it is the stripped encoding of the other fields. -/
theorem canonicalPayload_signed {σ β : Type} (entry : String × Json)
    (signature : FieldsCodec σ) (body : FieldsCodec β)
    (hdisjoint : ∀ key ∈ signature.keys, key ∉ body.keys)
    (hsignature : ∀ key ∈ signature.keys, key ∈ excluded)
    (hbody : ∀ key ∈ entry.1 :: body.keys, key ∉ excluded)
    (hkeys : (entry.1 :: (signature.keys ++ body.keys)).Nodup) (value : σ × β) :
    canonicalPayload excluded
        (ofFields (entry :: (signature.and body hdisjoint).encode value)) =
      stripNulls (ofFields (entry :: body.encode value.2)) := by
  have hencoded : ((entry :: (signature.and body hdisjoint).encode value).map
      Prod.fst).Nodup := by
    refine hkeys.sublist ?_
    exact ((signature.and body hdisjoint).encode_keys value).cons_cons entry.1
  rw [canonicalPayload_ofFields excluded hencoded]
  have hentry : (!excluded.contains entry.1) = true := by
    simpa using hbody entry.1 List.mem_cons_self
  have hdropped : (signature.encode value.1).filter (fun field => !excluded.contains field.1) =
      [] := by
    rw [List.filter_eq_nil_iff]
    intro field hfield
    have hkey := (signature.encode_keys value.1).subset (List.mem_map_of_mem hfield)
    simpa using hsignature field.1 hkey
  have hkept : (body.encode value.2).filter (fun field => !excluded.contains field.1) =
      body.encode value.2 := by
    rw [List.filter_eq_self]
    intro field hfield
    have hkey := (body.encode_keys value.2).subset (List.mem_map_of_mem hfield)
    simpa using hbody field.1 (List.mem_cons_of_mem _ hkey)
  simp only [FieldsCodec.and, List.filter_cons, hentry, if_true, List.filter_append,
    hdropped, hkept, List.nil_append]

/-- A payload without excluded keys at the top is only stripped. -/
theorem canonicalPayload_unsigned {fields : List (String × Json)}
    (hkeys : (fields.map Prod.fst).Nodup)
    (hfields : ∀ key ∈ fields.map Prod.fst, key ∉ excluded) :
    canonicalPayload excluded (ofFields fields) = stripNulls (ofFields fields) := by
  rw [canonicalPayload_ofFields excluded hkeys, List.filter_eq_self.mpr]
  intro field hfield
  simpa using hfields field.1 (List.mem_map_of_mem hfield)

end JsonText
