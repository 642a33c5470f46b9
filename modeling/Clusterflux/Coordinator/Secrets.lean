import Clusterflux.Coordinator.Durable

/-!
# Encrypted project secrets

Secrets are stored encrypted under the root key.  The tenant, the project, the name
and the version of the key are not encrypted; they are authenticated as associated
data.
-/

namespace Clusterflux

open LengthFraming

def isSecretCharacter (character : Char) : Bool :=
  character.isAlphanum || character == '-' || character == '_' || character == '.'

def validateSecretName (name : String) : Except String Unit :=
  if name.isEmpty || name.utf8ByteSize > 128 || !name.toList.all isSecretCharacter then
    .error "project-secret name is invalid"
  else .ok ()

/-- Irreducible, so that proofs do not compare it byte by byte. -/
@[irreducible]
def secretAadDomain : String := "clusterflux-project-secret:v1:"

def secretAad (tenant : TenantId) (project : ProjectId) (name : String) (keyVersion : ℕ) : String :=
  secretAadDomain ++ tenant.value ++ ":" ++ project.value ++ ":" ++ name ++ ":" ++
    toString keyVersion

/-- A cipher with its key: it decrypts what it encrypted, with the same associated
data and no other. -/
structure AuthenticatedCipher where
  encrypt : (nonce plaintext associated : Bytes) → Bytes
  decrypt : (nonce ciphertext associated : Bytes) → Option Bytes
  decrypt_encrypt : ∀ nonce plaintext associated,
    decrypt nonce (encrypt nonce plaintext associated) associated = some plaintext
  authentic : ∀ nonce plaintext associated presented, associated ≠ presented →
    decrypt nonce (encrypt nonce plaintext associated) presented = none

structure SecretCipher where
  cipher : AuthenticatedCipher
  keyVersion : ℕ

namespace SecretCipher

variable [Primitives] (cipher : SecretCipher) (record : EncryptedProjectSecretRecord)

def aad (record : EncryptedProjectSecretRecord) : Bytes :=
  utf8 (secretAad record.tenant record.project record.name record.keyVersion)

/-- The record was made by encrypting a plaintext for the names in it, with a random
nonce of 12 bytes; both are stored in base64. -/
def Encrypted : Prop :=
  record.keyVersion = cipher.keyVersion ∧ ∃ nonce plaintext, nonce.length = 12 ∧
    Primitives.base64Decode record.nonceBase64 = .ok nonce ∧
    Primitives.base64Decode record.ciphertextBase64 =
      .ok (cipher.cipher.encrypt nonce plaintext (aad record))

def decrypt : Except String Bytes :=
  if record.keyVersion ≠ cipher.keyVersion then
    .error ("project secret uses unavailable key version " ++ toString record.keyVersion)
  else
    match Primitives.base64Decode record.ciphertextBase64,
        Primitives.base64Decode record.nonceBase64 with
    | .error _, _ => .error "project-secret ciphertext is malformed"
    | .ok _, .error _ => .error "project-secret nonce is malformed"
    | .ok ciphertext, .ok nonce =>
      if nonce.length ≠ 12 then .error "project-secret nonce has the wrong size"
      else
        match cipher.cipher.decrypt nonce ciphertext (aad record) with
        | some plaintext => .ok plaintext
        | none => .error "project-secret authentication failed"

end SecretCipher

end Clusterflux
