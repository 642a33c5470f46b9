import Clusterflux.Coordinator.Secrets

/-!
# Secrets and their owners

The associated data of a secret joins the tenant, the project, the name and the
version of the key with colons.  Names and versions have no colons, but tenants and
projects may.
-/

namespace Clusterflux

open LengthFraming

/-- A cipher in which the associated data follows the framed plaintext. -/
noncomputable instance : Inhabited AuthenticatedCipher where
  default :=
    { encrypt _ plaintext associated := frame plaintext ++ associated
      decrypt _ ciphertext associated := by
        classical
        exact if h : ∃ plaintext, ciphertext = frame plaintext ++ associated then some h.choose
          else none
      decrypt_encrypt nonce plaintext associated := by
        have h : ∃ found, frame plaintext ++ associated = frame found ++ associated :=
          ⟨plaintext, rfl⟩
        rw [dif_pos h]
        exact congrArg some (frame_append_inj h.choose_spec).1.symm
      authentic nonce plaintext associated presented hne := by
        apply dif_neg
        rintro ⟨found, hfound⟩
        exact hne (frame_append_inj hfound).2 }

/-- What a secret belongs to. -/
@[ext]
structure SecretOwner where
  tenant : TenantId
  project : ProjectId
  name : String
  keyVersion : ℕ
  valid : (validateSecretName name).isOk
  deriving DecidableEq

namespace SecretOwner

variable {left right : SecretOwner}

def aad (owner : SecretOwner) : String :=
  secretAad owner.tenant owner.project owner.name owner.keyVersion

/-- The owners differ only in a part that one has at the end of its tenant and the
other, with the colon on the other side, at the start of its project. -/
def Shifted (left right : SecretOwner) : Prop :=
  left.name = right.name ∧ left.keyVersion = right.keyVersion ∧
    ∃ middle, left.tenant.value = right.tenant.value ++ ":" ++ middle ∧
      right.project.value = middle ++ ":" ++ left.project.value

/-- Joined texts are the same if the parts are, or if the separator between them is
another one of the text. -/
theorem join_eq_join_iff {α : Type} {separator : α} {first second first' second' : List α} :
    first ++ separator :: second = first' ++ separator :: second' ↔
      first = first' ∧ second = second' ∨ (∃ middle, first = first' ++ separator :: middle ∧
          second' = middle ++ separator :: second) ∨
        ∃ middle, first' = first ++ separator :: middle ∧
          second = middle ++ separator :: second' := by
  rw [List.append_eq_append_iff]
  constructor
  · rintro (⟨_ | ⟨_, middle⟩, hfirst, hsecond⟩ | ⟨_ | ⟨_, middle⟩, hfirst, hsecond⟩)
    all_goals simp_all
  · rintro (⟨rfl, rfl⟩ | ⟨middle, rfl, rfl⟩ | ⟨middle, rfl, rfl⟩)
    · exact .inl ⟨[], by simp⟩
    · exact .inr ⟨separator :: middle, by simp⟩
    · exact .inl ⟨separator :: middle, by simp⟩

theorem colon_not_mem_name (owner : SecretOwner) : ':' ∉ owner.name.toList := by
  intro hmem
  have hvalid := owner.valid
  rw [validateSecretName] at hvalid
  split_ifs at hvalid with hrefused
  · cases hvalid
  · simp only [Bool.or_eq_true, not_or, Bool.not_eq_true', Bool.not_eq_false,
      List.all_eq_true] at hrefused
    exact absurd (hrefused.2 ':' hmem) (by decide)

theorem toList_join (start tenant project name version : String) :
    (start ++ tenant ++ ":" ++ project ++ ":" ++ name ++ ":" ++ version).toList =
      start.toList ++ (tenant.toList ++ ':' :: project.toList) ++ ':' :: name.toList ++
        ':' :: version.toList := by
  have hcolon : ":".toList = [':'] := rfl
  simp only [String.toList_append, hcolon, List.append_assoc, List.cons_append, List.nil_append]

theorem cancel_after_separator {α : Type} {separator : α} {left right rest rest' : List α}
    (hleft : separator ∉ left) (hright : separator ∉ right)
    (heq : rest ++ separator :: left = rest' ++ separator :: right) :
    rest = rest' ∧ left = right := by
  have hreverse := congrArg List.reverse heq
  simp only [List.reverse_append, List.reverse_cons, List.append_assoc, List.singleton_append]
    at hreverse
  obtain ⟨hparts, hrest⟩ := cancel_before_separator (by simpa using hleft) (by simpa using hright)
    hreverse
  exact ⟨List.reverse_injective hrest, List.reverse_injective hparts⟩

theorem Shifted.aad_eq (hshifted : left.Shifted right) : left.aad = right.aad := by
  obtain ⟨hname, hversion, middle, htenant, hproject⟩ := hshifted
  simp only [aad, secretAad, hname, hversion, htenant, hproject, String.append_assoc]

theorem aad_eq_iff :
    left.aad = right.aad ↔ left = right ∨ left.Shifted right ∨ right.Shifted left := by
  constructor
  · intro heq
    have heq := congrArg String.toList heq
    simp only [aad, secretAad, toList_join] at heq
    obtain ⟨heq, hversion⟩ := cancel_after_separator (colon_not_mem_toString _)
      (colon_not_mem_toString _) heq
    obtain ⟨heq, hname⟩ := cancel_after_separator left.colon_not_mem_name
      right.colon_not_mem_name heq
    have hrepr : toString left.keyVersion = toString right.keyVersion :=
      String.toList_injective hversion
    have hversion : left.keyVersion = right.keyVersion := Nat.repr_injective hrepr
    have hname : left.name = right.name := String.toList_injective hname
    rcases join_eq_join_iff.mp (List.append_cancel_left heq) with
      ⟨htenant, hproject⟩ | ⟨middle, hlonger, hproject⟩ | ⟨middle, hlonger, hproject⟩
    · left
      have htenant := Id.value_injective (String.toList_injective htenant)
      have hproject := Id.value_injective (String.toList_injective hproject)
      exact SecretOwner.ext htenant hproject hname hversion
    · refine .inr (.inl ⟨hname, hversion, String.ofList middle, ?_, ?_⟩)
      · simpa [← String.toList_inj] using hlonger
      · simpa [← String.toList_inj] using hproject
    · refine .inr (.inr ⟨hname.symm, hversion.symm, String.ofList middle, ?_, ?_⟩)
      · simpa [← String.toList_inj] using hlonger
      · simpa [← String.toList_inj] using hproject
  · rintro (rfl | hshifted | hshifted)
    · rfl
    · exact hshifted.aad_eq
    · exact hshifted.aad_eq.symm

theorem not_shifted_self (owner : SecretOwner) : ¬ owner.Shifted owner := by
  rintro ⟨-, -, middle, htenant, -⟩
  have hlength := congrArg String.length htenant
  have hcolon : ":".length = 1 := rfl
  rw [String.length_append, String.length_append] at hlength
  omega

/-- The record presented as one of the owner. -/
def presents (owner : SecretOwner) (record : EncryptedProjectSecretRecord) :
    EncryptedProjectSecretRecord :=
  { record with
    tenant := owner.tenant
    project := owner.project
    name := owner.name
    keyVersion := owner.keyVersion }

theorem aad_eq_of_decrypt [Primitives] {cipher : SecretCipher}
    {record : EncryptedProjectSecretRecord}
    (hencrypted : cipher.Encrypted (left.presents record))
    (hdecrypts : (cipher.decrypt (right.presents record)).isOk = true) :
    left.aad = right.aad := by
  obtain ⟨-, nonce, plaintext, -, hnonce, hciphertext⟩ := hencrypted
  by_contra hne
  have hrefused := cipher.cipher.authentic nonce plaintext _ _ fun h => hne (utf8_injective h)
  simp only [presents] at hnonce hciphertext
  simp only [SecretCipher.decrypt, presents, hnonce, hciphertext] at hdecrypts
  split_ifs at hdecrypts
  · cases hdecrypts
  · cases hdecrypts
  · split at hdecrypts
    · rename_i found hfound
      exact absurd (hrefused.symm.trans hfound) nofun
    · cases hdecrypts

end SecretOwner

/-- The associated data tells two owners apart, and what was encrypted for one does
not decrypt as the other's, if and only if neither is the other with the colon
between tenant and project shifted. -/
theorem secret_bound_to_owner_iff [Primitives] (left right : SecretOwner) :
    ((left.aad = right.aad → left = right) ∧
      ∀ (cipher : SecretCipher) record, cipher.Encrypted (left.presents record) →
        (cipher.decrypt (right.presents record)).isOk = true → left = right) ↔
      ¬ left.Shifted right ∧ ¬ right.Shifted left := by
  constructor
  · rintro ⟨hseparate, -⟩
    constructor
    · intro hshifted
      obtain rfl := hseparate (SecretOwner.aad_eq_iff.mpr (.inr (.inl hshifted)))
      exact left.not_shifted_self hshifted
    · intro hshifted
      obtain rfl := hseparate (SecretOwner.aad_eq_iff.mpr (.inr (.inr hshifted)))
      exact left.not_shifted_self hshifted
  · rintro ⟨hleft, hright⟩
    have hseparate : left.aad = right.aad → left = right := by
      intro heq
      rcases SecretOwner.aad_eq_iff.mp heq with heq | hshifted | hshifted
      · exact heq
      · exact absurd hshifted hleft
      · exact absurd hshifted hright
    refine ⟨hseparate, fun cipher record hencrypted hdecrypts => ?_⟩
    exact hseparate (SecretOwner.aad_eq_of_decrypt hencrypted hdecrypts)

/-- Two tenants with the same associated data. -/
theorem secrets_of_two_tenants_share_data : let left : SecretOwner :=
      ⟨⟨"acme:west", by decide⟩, ⟨"site", by decide⟩, "token", 1, by decide⟩
    let right : SecretOwner :=
      ⟨⟨"acme", by decide⟩, ⟨"west:site", by decide⟩, "token", 1, by decide⟩
    left ≠ right ∧ left.aad = right.aad := by
  decide +kernel

end Clusterflux
