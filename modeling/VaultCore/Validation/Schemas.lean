import VaultCore.Crypto.AesGcm
import VaultCore.Kdf.Argon2id
import VaultCore.Text.JsValue

/-!
# Record schemas

The stored records and their schemas.  A schema accepts a record whose texts
and numbers are within their limits and returns it with its keys written in
the order of the schema.
-/

namespace VaultCore

inductive RecoveryPhraseWordCount where
  | twelve
  | twentyFour
deriving DecidableEq

namespace RecoveryPhraseWordCount

def toNat : RecoveryPhraseWordCount → Nat
  | .twelve => 12
  | .twentyFour => 24

/-- The number of words in the metadata. -/
def value (wordCount : RecoveryPhraseWordCount) : JsValue :=
  .number (.finite wordCount.toNat)

end RecoveryPhraseWordCount

/-- The vault key sealed under a password. -/
structure PasswordEnvelope where
  encryptedVaultKey : EncryptedVaultPayload
  kdfMetadata : Argon2idKdfMetadata
deriving DecidableEq

/-- The vault key sealed under a recovery phrase. -/
structure RecoveryPhraseEnvelope where
  encryptedVaultKey : EncryptedVaultPayload
  kdfMetadata : Argon2idKdfMetadata
  publicMetadata : Option JsMembers

/-- The vault key sealed under a PRF output. -/
structure PasskeyPrfEnvelope where
  encryptedVaultKey : EncryptedVaultPayload
deriving DecidableEq

/-- The decoy vault of a record. -/
structure VaultDecoyRecord where
  encryptedBlob : EncryptedVaultPayload
  passwordEnvelope : PasswordEnvelope
  recoveryEnvelope : RecoveryPhraseEnvelope
  passkeyPrfEnvelope : Option PasskeyPrfEnvelope

/-- The stored record of a vault, with a decoy it may have. -/
structure VaultSetupWithDecoy where
  encryptedBlob : EncryptedVaultPayload
  passwordEnvelope : PasswordEnvelope
  recoveryEnvelope : RecoveryPhraseEnvelope
  passkeyPrfEnvelope : Option PasskeyPrfEnvelope
  decoy : Option VaultDecoyRecord

/-- An envelope for one of several credentials. -/
structure VaultPasskeyEnvelopeVariant where
  envelopeVariantId : JsString
  credentialId : JsString
  envelope : PasskeyPrfEnvelope
deriving DecidableEq

def maxVaultIvBase64UrlLength : Nat :=
  maxBase64UrlEncodedLength maxVaultIvBytes

def maxVaultCiphertextBase64UrlLength : Nat :=
  maxBase64UrlEncodedLength maxVaultCiphertextBytes

def maxPasskeyOpaqueIdLength : Nat := 2048

/-- `z.string().min(min).max(max)` -/
def textWithin (text : JsString) (min max : Nat) : Bool :=
  min ≤ text.length && text.length ≤ max

/-- `z.number().int().min(min).max(max)` -/
def integerWithin (value : ℚ) (min max : Nat) : Bool :=
  value.isInt && decide ((min : ℚ) ≤ value) && decide (value ≤ (max : ℚ))

/-- The record with its keys in the order of the schema. -/
def EncryptedVaultPayload.inSchemaOrder (payload : EncryptedVaultPayload) :
    EncryptedVaultPayload :=
  { payload with aad := { payload.aad with order := .literal } }

section Schemas

variable (platform : Platform)

/-- The payload, when it parses. -/
def encryptedPayloadSchema (payload : EncryptedVaultPayload) :
    Option EncryptedVaultPayload :=
  if payload.version == encryptionVersion && payload.alg == encryptionAlg &&
      textWithin payload.iv 1 maxVaultIvBase64UrlLength &&
      textWithin payload.ciphertext 1 maxVaultCiphertextBase64UrlLength &&
      platform.isUuid payload.aad.userId &&
      platform.isUuid payload.aad.resourceId then
    some payload.inSchemaOrder
  else none

def argon2idKdfMetadataSchema (metadata : Argon2idKdfMetadata) :
    Option Argon2idKdfMetadata :=
  if metadata.kdf == argon2idName && textWithin metadata.salt 1 128 &&
      integerWithin metadata.memory 8192 262144 &&
      integerWithin metadata.iterations 1 10 &&
      integerWithin metadata.parallelism 1 4 then
    some metadata
  else none

def passwordEnvelopeSchema (envelope : PasswordEnvelope) :
    Option PasswordEnvelope := do
  let encryptedVaultKey ← encryptedPayloadSchema platform
    envelope.encryptedVaultKey
  let kdfMetadata ← argon2idKdfMetadataSchema envelope.kdfMetadata
  return { encryptedVaultKey, kdfMetadata }

def recoveryPhraseEnvelopeSchema (envelope : RecoveryPhraseEnvelope) :
    Option RecoveryPhraseEnvelope := do
  let encryptedVaultKey ← encryptedPayloadSchema platform
    envelope.encryptedVaultKey
  let kdfMetadata ← argon2idKdfMetadataSchema envelope.kdfMetadata
  return {
    encryptedVaultKey, kdfMetadata
    publicMetadata := envelope.publicMetadata }

def passkeyPrfEnvelopeSchema (envelope : PasskeyPrfEnvelope) :
    Option PasskeyPrfEnvelope := do
  let encryptedVaultKey ← encryptedPayloadSchema platform
    envelope.encryptedVaultKey
  return { encryptedVaultKey }

/-- The envelope or its absence, when it parses. -/
def nullablePasskeyPrfEnvelopeSchema :
    Option PasskeyPrfEnvelope → Option (Option PasskeyPrfEnvelope)
  | none => some none
  | some envelope => (passkeyPrfEnvelopeSchema platform envelope).map some

def vaultDecoyRecordSchema (decoy : VaultDecoyRecord) :
    Option VaultDecoyRecord := do
  let encryptedBlob ← encryptedPayloadSchema platform decoy.encryptedBlob
  let passwordEnvelope ← passwordEnvelopeSchema platform
    decoy.passwordEnvelope
  let recoveryEnvelope ← recoveryPhraseEnvelopeSchema platform
    decoy.recoveryEnvelope
  let passkeyPrfEnvelope ← nullablePasskeyPrfEnvelopeSchema platform
    decoy.passkeyPrfEnvelope
  return {
    encryptedBlob, passwordEnvelope, recoveryEnvelope, passkeyPrfEnvelope }

def vaultSetupWithDecoySchema (record : VaultSetupWithDecoy) :
    Option VaultSetupWithDecoy := do
  let encryptedBlob ← encryptedPayloadSchema platform record.encryptedBlob
  let passwordEnvelope ← passwordEnvelopeSchema platform
    record.passwordEnvelope
  let recoveryEnvelope ← recoveryPhraseEnvelopeSchema platform
    record.recoveryEnvelope
  let passkeyPrfEnvelope ← nullablePasskeyPrfEnvelopeSchema platform
    record.passkeyPrfEnvelope
  let decoy ←
    match record.decoy with
    | none => some none
    | some decoy => (vaultDecoyRecordSchema platform decoy).map some
  return {
    encryptedBlob, passwordEnvelope, recoveryEnvelope, passkeyPrfEnvelope
    decoy }

/-- An identifier of bounded length without blanks around it. -/
def vaultPasskeyOpaqueIdSchema (identifier : JsString) : Bool :=
  textWithin identifier 1 maxPasskeyOpaqueIdLength &&
    trim identifier == identifier

def vaultPasskeyEnvelopeVariantSchema
    (candidate : VaultPasskeyEnvelopeVariant) :
    Option VaultPasskeyEnvelopeVariant :=
  if vaultPasskeyOpaqueIdSchema candidate.envelopeVariantId &&
      vaultPasskeyOpaqueIdSchema candidate.credentialId then do
    let envelope ← passkeyPrfEnvelopeSchema platform candidate.envelope
    return { candidate with envelope := envelope }
  else none

end Schemas

section

variable {platform : Platform}

theorem encryptedPayloadSchema_eq_some_iff
    {payload parsed : EncryptedVaultPayload} :
    encryptedPayloadSchema platform payload = some parsed ↔
      parsed = payload.inSchemaOrder ∧
      payload.version = encryptionVersion ∧ payload.alg = encryptionAlg ∧
      (1 ≤ payload.iv.length ∧
        payload.iv.length ≤ maxVaultIvBase64UrlLength) ∧
      (1 ≤ payload.ciphertext.length ∧
        payload.ciphertext.length ≤ maxVaultCiphertextBase64UrlLength) ∧
      platform.isUuid payload.aad.userId = true ∧
      platform.isUuid payload.aad.resourceId = true := by
  unfold encryptedPayloadSchema
  simp only [textWithin, Bool.and_eq_true, beq_iff_eq, decide_eq_true_eq,
    and_assoc]
  split
  · rename_i accepted
    constructor
    · intro same
      cases same
      exact ⟨rfl, accepted⟩
    · rintro ⟨rfl, -⟩
      rfl
  · rename_i refused
    constructor
    · intro impossible
      cases impossible
    · rintro ⟨-, accepted⟩
      exact absurd accepted refused

theorem argon2idKdfMetadataSchema_eq_some
    {metadata parsed : Argon2idKdfMetadata}
    (accepted : argon2idKdfMetadataSchema metadata = some parsed) :
    parsed = metadata ∧ metadata.kdf = argon2idName := by
  unfold argon2idKdfMetadataSchema at accepted
  split at accepted
  · rename_i valid
    cases accepted
    simp only [Bool.and_eq_true, beq_iff_eq] at valid
    exact ⟨rfl, valid.1.1.1.1⟩
  · cases accepted

theorem passwordEnvelopeSchema_eq_some {envelope parsed : PasswordEnvelope}
    (accepted : passwordEnvelopeSchema platform envelope = some parsed) :
    parsed.encryptedVaultKey = envelope.encryptedVaultKey.inSchemaOrder ∧
      parsed.kdfMetadata = envelope.kdfMetadata ∧
      envelope.kdfMetadata.kdf = argon2idName := by
  obtain ⟨payload, schema, rest⟩ := Option.bind_eq_some_iff.mp accepted
  obtain ⟨metadata, kdf, built⟩ := Option.bind_eq_some_iff.mp rest
  cases built
  exact ⟨(encryptedPayloadSchema_eq_some_iff.mp schema).1,
    argon2idKdfMetadataSchema_eq_some kdf⟩

theorem recoveryPhraseEnvelopeSchema_eq_some
    {envelope parsed : RecoveryPhraseEnvelope}
    (accepted : recoveryPhraseEnvelopeSchema platform envelope =
      some parsed) :
    parsed.encryptedVaultKey = envelope.encryptedVaultKey.inSchemaOrder ∧
      parsed.kdfMetadata = envelope.kdfMetadata ∧
      envelope.kdfMetadata.kdf = argon2idName := by
  obtain ⟨payload, schema, rest⟩ := Option.bind_eq_some_iff.mp accepted
  obtain ⟨metadata, kdf, built⟩ := Option.bind_eq_some_iff.mp rest
  cases built
  exact ⟨(encryptedPayloadSchema_eq_some_iff.mp schema).1,
    argon2idKdfMetadataSchema_eq_some kdf⟩

theorem passkeyPrfEnvelopeSchema_eq_some
    {envelope parsed : PasskeyPrfEnvelope}
    (accepted : passkeyPrfEnvelopeSchema platform envelope = some parsed) :
    parsed.encryptedVaultKey = envelope.encryptedVaultKey.inSchemaOrder := by
  obtain ⟨payload, schema, built⟩ := Option.bind_eq_some_iff.mp accepted
  cases built
  exact (encryptedPayloadSchema_eq_some_iff.mp schema).1

theorem vaultPasskeyEnvelopeVariantSchema_eq_some
    {candidate parsed : VaultPasskeyEnvelopeVariant}
    (accepted : vaultPasskeyEnvelopeVariantSchema platform candidate =
      some parsed) :
    parsed.envelope.encryptedVaultKey =
      candidate.envelope.encryptedVaultKey.inSchemaOrder := by
  unfold vaultPasskeyEnvelopeVariantSchema at accepted
  split at accepted
  · obtain ⟨envelope, schema, built⟩ := Option.bind_eq_some_iff.mp accepted
    cases built
    exact passkeyPrfEnvelopeSchema_eq_some schema
  · cases accepted

theorem vaultPasskeyEnvelopeVariantSchema_credentialId
    {candidate parsed : VaultPasskeyEnvelopeVariant}
    (accepted : vaultPasskeyEnvelopeVariantSchema platform candidate =
      some parsed) :
    parsed.credentialId = candidate.credentialId := by
  unfold vaultPasskeyEnvelopeVariantSchema at accepted
  split at accepted
  · obtain ⟨envelope, -, built⟩ := Option.bind_eq_some_iff.mp accepted
    cases built
    rfl
  · cases accepted

theorem vaultPasskeyEnvelopeVariantSchema_envelopeVariantId
    {candidate parsed : VaultPasskeyEnvelopeVariant}
    (accepted : vaultPasskeyEnvelopeVariantSchema platform candidate =
      some parsed) :
    parsed.envelopeVariantId = candidate.envelopeVariantId := by
  unfold vaultPasskeyEnvelopeVariantSchema at accepted
  split at accepted
  · obtain ⟨envelope, -, built⟩ := Option.bind_eq_some_iff.mp accepted
    cases built
    rfl
  · cases accepted

theorem inSchemaOrder_of_literal {payload : EncryptedVaultPayload}
    (literal : payload.aad.order = .literal) :
    payload.inSchemaOrder = payload := by
  cases payload with
  | mk version alg iv ciphertext aad =>
      cases aad with
      | mk userId resourceId field context order =>
          simp only at literal
          simp only [EncryptedVaultPayload.inSchemaOrder, literal]

theorem encryptedPayloadSchema_literal {payload parsed : EncryptedVaultPayload}
    (literal : payload.aad.order = .literal)
    (accepted : encryptedPayloadSchema platform payload = some parsed) :
    parsed = payload := by
  rw [(encryptedPayloadSchema_eq_some_iff.mp accepted).1,
    inSchemaOrder_of_literal literal]

theorem encryptField_literal {iv : Iv} {plaintext : JsString}
    {key : CryptoKey} {scope : VaultAadScope} {profile : VaultCryptoProfile}
    {payload : EncryptedVaultPayload} (literal : scope.order = .literal)
    (encrypted : encryptField platform iv plaintext key scope profile =
      .ok payload) : payload.aad.order = .literal := by
  rw [(encryptField_ok encrypted).2]
  exact literal

/-- A field is accepted by its schema when its text has at most one byte more
than the reader's bound. -/
theorem encryptedPayloadSchema_encryptField (crypto : platform.Lawful)
    {iv : Iv} {plaintext : JsString} {key : CryptoKey} {scope : VaultAadScope}
    {profile : VaultCryptoProfile} {payload : EncryptedVaultPayload}
    (encrypted : encryptField platform iv plaintext key scope profile =
      .ok payload)
    (literal : scope.order = .literal)
    (user : platform.isUuid scope.userId = true)
    (resource : platform.isUuid scope.resourceId = true)
    (within : (stringToBytes plaintext).length ≤ maxVaultPlaintextBytes + 1) :
    encryptedPayloadSchema platform payload = some payload := by
  have ordered : payload.inSchemaOrder = payload :=
    inSchemaOrder_of_literal (encryptField_literal literal encrypted)
  apply encryptedPayloadSchema_eq_some_iff.mpr
  have stored := (encryptField_ok encrypted).2
  have ivLength : payload.iv.length = 16 := by
    rw [stored]
    simp only [length_bytesToBase64Url, iv.property]
    decide
  have ciphertextLength : payload.ciphertext.length =
      (bytesToBase64Url (platform.aesGcmSeal key.material iv.val
        (stringToBytes (canonicalAadString (aadWithContext scope profile)))
        (stringToBytes plaintext))).length := by
    rw [stored]
  rw [length_bytesToBase64Url, crypto.length_seal] at ciphertextLength
  refine ⟨ordered.symm, ?_, ?_, ⟨?_, ?_⟩, ⟨?_, ?_⟩, ?_, ?_⟩
  · rw [stored]
  · rw [stored]
  · omega
  · rw [ivLength]
    decide
  · rw [ciphertextLength]
    omega
  · rw [ciphertextLength]
    have bound : maxVaultCiphertextBase64UrlLength = 87404 := by decide
    have size : maxVaultPlaintextBytes = 65536 := by decide
    rw [bound]
    split <;> omega
  · rw [stored]
    exact user
  · rw [stored]
    exact resource

end

end VaultCore
