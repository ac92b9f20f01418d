import VaultCore.Crypto.AesGcm

/-!
# Password-based key derivation

Parameters and salt are checked before every derivation.  One hash yields two
handles of the same key material, one for the outer field and one for the
inner wrapping.
-/

namespace VaultCore

inductive KdfVersion where
  | kdfV1
  | kdfV2
deriving DecidableEq

/-- The metadata that an envelope keeps of its derivation. -/
structure Argon2idKdfMetadata where
  kdf : JsString
  version : KdfVersion
  salt : JsString
  memory : ℚ
  iterations : ℚ
  parallelism : ℚ
deriving DecidableEq

def argon2idName : JsString := js "argon2id"

def recommendedArgon2idParams : Argon2idParams :=
  { memory := 131072, iterations := 4, parallelism := 1 }

def argon2idSaltLength : Nat := 16

/-- A salt drawn from the random generator. -/
abbrev Argon2idSalt := { bytes : Bytes // bytes.length = argon2idSaltLength }

/-- A parameter is a whole number within its bounds. -/
def assertIntegerInRange (name : String) (value : ℚ) (min max : Nat) :
    Except VaultError Unit :=
  if value.isInt ∧ (min : ℚ) ≤ value ∧ value ≤ (max : ℚ) then .ok ()
  else .error (.error ("Argon2id " ++ name ++
    " must be an integer between " ++ toString min ++ " and " ++ toString max))

def assertSafeArgon2idParams (params : Argon2idParams) :
    Except VaultError Unit := do
  assertIntegerInRange "memory" params.memory 8192 262144
  assertIntegerInRange "iterations" params.iterations 1 10
  assertIntegerInRange "parallelism" params.parallelism 1 4

/-- A salt has 16 to 64 bytes. -/
def assertSafeArgon2idSalt (salt : Bytes) : Except VaultError Unit :=
  if salt.length < 16 ∨ 64 < salt.length then
    .error (.error "Argon2id salt length must be between 16 and 64 bytes")
  else .ok ()

def Argon2idKdfMetadata.params (metadata : Argon2idKdfMetadata) :
    Argon2idParams :=
  { memory := metadata.memory
    iterations := metadata.iterations
    parallelism := metadata.parallelism }

/-- The metadata of a derivation with the recommended parameters. -/
def serializeArgon2idMetadata (salt : Bytes) :
    Except VaultError Argon2idKdfMetadata := do
  assertSafeArgon2idSalt salt
  assertSafeArgon2idParams recommendedArgon2idParams
  return {
    kdf := argon2idName
    version := .kdfV2
    salt := bytesToBase64Url salt
    memory := recommendedArgon2idParams.memory
    iterations := recommendedArgon2idParams.iterations
    parallelism := recommendedArgon2idParams.parallelism }

/-- The salt and the parameters, when they are safe. -/
def parseArgon2idMetadata (metadata : Argon2idKdfMetadata) :
    Except VaultError (Bytes × Argon2idParams) := do
  if 128 < metadata.salt.length then
    throw (.error "Argon2id salt encoding is too large")
  assertSafeArgon2idParams metadata.params
  let salt ← base64UrlToBytes metadata.salt
  assertSafeArgon2idSalt salt
  return (salt, metadata.params)

/-- The key that seals the envelope and the key that wraps in it. -/
structure DerivedKeys where
  encryptionKey : CryptoKey
  wrappingKey : CryptoKey
deriving DecidableEq

/-- The two handles of one derived key. -/
def derivedKeys (material : Bytes32) : DerivedKeys :=
  { encryptionKey :=
      { algorithm := .aesGcm
        material := material.material
        extractable := false }
    wrappingKey :=
      { algorithm := .aesKw
        material := material.material
        extractable := false } }

section

variable (platform : Platform)

/-- The hash, with parameters and salt checked before. -/
def deriveArgon2idHash (passwordBytes salt : Bytes)
    (params : Argon2idParams) : Except VaultError Bytes32 := do
  assertSafeArgon2idParams params
  assertSafeArgon2idSalt salt
  return platform.argon2id passwordBytes salt params

def deriveArgon2idKeyPair (passwordBytes salt : Bytes)
    (params : Argon2idParams) : Except VaultError DerivedKeys := do
  let hash ← deriveArgon2idHash platform passwordBytes salt params
  let encryptionKey ← importKey .aesGcm hash.val false
  let wrappingKey ← importKey .aesKw hash.val false
  return { encryptionKey, wrappingKey }

/-- The key pair by the metadata of an envelope. -/
def deriveArgon2idKeyPairFromMetadata (passwordBytes : Bytes)
    (metadata : Argon2idKdfMetadata) : Except VaultError DerivedKeys := do
  let (salt, params) ← parseArgon2idMetadata metadata
  deriveArgon2idKeyPair platform passwordBytes salt params

/-- The bytes a vault password is derived from. -/
def vaultPasswordBytes (vaultPassword : JsString) : Bytes :=
  stringToBytes (platform.normalizeNfkc vaultPassword)

/-- Derive the keys of a password and the metadata to find them again. -/
def deriveVaultPasswordKey (vaultPassword : JsString) (salt : Bytes) :
    Except VaultError (DerivedKeys × Argon2idKdfMetadata) := do
  let keys ← deriveArgon2idKeyPair platform
    (vaultPasswordBytes platform vaultPassword) salt recommendedArgon2idParams
  let metadata ← serializeArgon2idMetadata salt
  return (keys, metadata)

/-- The key pair of a password by the metadata of its envelope. -/
def deriveVaultPasswordKeyPairFromMetadata (vaultPassword : JsString)
    (metadata : Argon2idKdfMetadata) : Except VaultError DerivedKeys :=
  deriveArgon2idKeyPairFromMetadata platform
    (vaultPasswordBytes platform vaultPassword) metadata

end

/-- Whether the derivation has the recommended parameters. -/
def isRecommendedArgon2idMetadata (metadata : Argon2idKdfMetadata) : Bool :=
  metadata.kdf == argon2idName && metadata.version == .kdfV2 &&
    (metadata.memory == recommendedArgon2idParams.memory &&
      metadata.iterations == recommendedArgon2idParams.iterations &&
      metadata.parallelism == recommendedArgon2idParams.parallelism)

/-- Whether an envelope should be derived anew. -/
def isEnvelopeKdfUpgradeRecommended (metadata : Argon2idKdfMetadata) : Bool :=
  !isRecommendedArgon2idMetadata metadata

section

variable {platform : Platform}

theorem assertSafeArgon2idParams_recommended :
    assertSafeArgon2idParams recommendedArgon2idParams = .ok () := by
  decide +kernel

theorem assertSafeArgon2idSalt_ok_iff {salt : Bytes} :
    assertSafeArgon2idSalt salt = .ok () ↔
      16 ≤ salt.length ∧ salt.length ≤ 64 := by
  unfold assertSafeArgon2idSalt
  split
  · rename_i outside
    constructor
    · intro accepted
      cases accepted
    · rintro ⟨least, most⟩
      omega
  · rename_i inside
    constructor
    · intro _
      omega
    · intro _
      rfl

theorem assertSafeArgon2idSalt_random (salt : Argon2idSalt) :
    assertSafeArgon2idSalt salt.val = .ok () := by
  apply assertSafeArgon2idSalt_ok_iff.mpr
  rw [salt.property, argon2idSaltLength]
  exact ⟨le_refl 16, by decide⟩

theorem deriveArgon2idKeyPair_eq {passwordBytes salt : Bytes}
    {params : Argon2idParams}
    (safeParams : assertSafeArgon2idParams params = .ok ())
    (safeSalt : assertSafeArgon2idSalt salt = .ok ()) :
    deriveArgon2idKeyPair platform passwordBytes salt params =
      .ok (derivedKeys (platform.argon2id passwordBytes salt params)) := by
  have gcm := importKey_material .aesGcm
    (platform.argon2id passwordBytes salt params).material false
  have kw := importKey_material .aesKw
    (platform.argon2id passwordBytes salt params).material false
  simp only [Bytes32.material] at gcm kw
  simp only [deriveArgon2idKeyPair, deriveArgon2idHash, safeParams, safeSalt,
    Outcome.ok_bind, Outcome.pure_eq_ok, gcm, kw]
  rfl

theorem deriveArgon2idKeyPair_ok {passwordBytes salt : Bytes}
    {params : Argon2idParams} {keys : DerivedKeys}
    (derived : deriveArgon2idKeyPair platform passwordBytes salt params =
      .ok keys) :
    keys = derivedKeys (platform.argon2id passwordBytes salt params) := by
  have checked := derived
  unfold deriveArgon2idKeyPair at checked
  obtain ⟨hash, hashed, -⟩ := Outcome.bind_eq_ok_iff.mp checked
  unfold deriveArgon2idHash at hashed
  obtain ⟨_, safeParams, rest⟩ := Outcome.bind_eq_ok_iff.mp hashed
  obtain ⟨_, safeSalt, -⟩ := Outcome.bind_eq_ok_iff.mp rest
  rw [deriveArgon2idKeyPair_eq safeParams safeSalt] at derived
  cases derived
  rfl

theorem deriveArgon2idKeyPairFromMetadata_ok {passwordBytes : Bytes}
    {metadata : Argon2idKdfMetadata} {keys : DerivedKeys}
    (derived : deriveArgon2idKeyPairFromMetadata platform passwordBytes
      metadata = .ok keys) :
    ∃ material, keys = derivedKeys material := by
  unfold deriveArgon2idKeyPairFromMetadata at derived
  obtain ⟨parsed, -, pair⟩ := Outcome.bind_eq_ok_iff.mp derived
  exact ⟨_, deriveArgon2idKeyPair_ok pair⟩

theorem serializeArgon2idMetadata_eq {salt : Bytes}
    (safeSalt : assertSafeArgon2idSalt salt = .ok ()) :
    serializeArgon2idMetadata salt =
      .ok
        { kdf := argon2idName
          version := .kdfV2
          salt := bytesToBase64Url salt
          memory := recommendedArgon2idParams.memory
          iterations := recommendedArgon2idParams.iterations
          parallelism := recommendedArgon2idParams.parallelism } := by
  simp only [serializeArgon2idMetadata, safeSalt,
    assertSafeArgon2idParams_recommended, Outcome.ok_bind]
  rfl

/-- Serialized metadata parses back to the salt it was made from. -/
theorem parse_serializeArgon2idMetadata {salt : Bytes}
    {metadata : Argon2idKdfMetadata}
    (safeSalt : assertSafeArgon2idSalt salt = .ok ())
    (serialized : serializeArgon2idMetadata salt = .ok metadata) :
    parseArgon2idMetadata metadata =
      .ok (salt, recommendedArgon2idParams) := by
  rw [serializeArgon2idMetadata_eq safeSalt] at serialized
  cases serialized
  have bounds := assertSafeArgon2idSalt_ok_iff.mp safeSalt
  have short : ¬ 128 < (bytesToBase64Url salt).length := by
    rw [length_bytesToBase64Url]
    split <;> omega
  have sameParams : assertSafeArgon2idParams
      { memory := recommendedArgon2idParams.memory
        iterations := recommendedArgon2idParams.iterations
        parallelism := recommendedArgon2idParams.parallelism } = .ok () :=
    assertSafeArgon2idParams_recommended
  simp only [parseArgon2idMetadata, short, ↓reduceIte,
    Argon2idKdfMetadata.params, sameParams, base64UrlToBytes_bytesToBase64Url,
    safeSalt, Outcome.ok_bind]
  rfl

theorem deriveArgon2idKeyPairFromMetadata_serialized {passwordBytes : Bytes}
    {salt : Bytes} {metadata : Argon2idKdfMetadata}
    (safeSalt : assertSafeArgon2idSalt salt = .ok ())
    (serialized : serializeArgon2idMetadata salt = .ok metadata) :
    deriveArgon2idKeyPairFromMetadata platform passwordBytes metadata =
      .ok (derivedKeys (platform.argon2id passwordBytes salt
        recommendedArgon2idParams)) := by
  unfold deriveArgon2idKeyPairFromMetadata
  rw [parse_serializeArgon2idMetadata safeSalt serialized, Outcome.ok_bind]
  exact deriveArgon2idKeyPair_eq assertSafeArgon2idParams_recommended safeSalt

/-- The keys a password derives with a random salt are found again from the
metadata. -/
theorem deriveVaultPasswordKey_random (vaultPassword : JsString)
    (salt : Argon2idSalt) :
    ∃ material metadata,
      deriveVaultPasswordKey platform vaultPassword salt.val =
        .ok (derivedKeys material, metadata) ∧
      metadata.kdf = argon2idName ∧
      deriveVaultPasswordKeyPairFromMetadata platform vaultPassword metadata =
        .ok (derivedKeys material) := by
  have safeSalt := assertSafeArgon2idSalt_random salt
  have serialized := serializeArgon2idMetadata_eq safeSalt
  refine ⟨platform.argon2id (vaultPasswordBytes platform vaultPassword)
    salt.val recommendedArgon2idParams, _, ?_, ?_,
    deriveArgon2idKeyPairFromMetadata_serialized safeSalt serialized⟩
  · simp only [deriveVaultPasswordKey, serialized, Outcome.ok_bind,
      deriveArgon2idKeyPair_eq assertSafeArgon2idParams_recommended safeSalt]
    rfl
  · rfl

theorem assertSafeArgon2idSalt_of_derived {passwordBytes salt : Bytes}
    {params : Argon2idParams} {keys : DerivedKeys}
    (derived : deriveArgon2idKeyPair platform passwordBytes salt params =
      .ok keys) : assertSafeArgon2idSalt salt = .ok () := by
  unfold deriveArgon2idKeyPair at derived
  obtain ⟨hash, hashed, -⟩ := Outcome.bind_eq_ok_iff.mp derived
  unfold deriveArgon2idHash at hashed
  obtain ⟨_, -, rest⟩ := Outcome.bind_eq_ok_iff.mp hashed
  obtain ⟨_, safeSalt, -⟩ := Outcome.bind_eq_ok_iff.mp rest
  exact safeSalt

/-- Metadata under which every password derives the keys of its hash with the
given salt. -/
structure Argon2idKdfMetadata.Derives (platform : Platform) (salt : Bytes)
    (metadata : Argon2idKdfMetadata) : Prop where
  kdf : metadata.kdf = argon2idName
  derives : ∀ passwordBytes,
    deriveArgon2idKeyPairFromMetadata platform passwordBytes metadata =
      .ok (derivedKeys (platform.argon2id passwordBytes salt
        recommendedArgon2idParams))

theorem serializeArgon2idMetadata_derives {salt : Bytes}
    {metadata : Argon2idKdfMetadata}
    (safeSalt : assertSafeArgon2idSalt salt = .ok ())
    (serialized : serializeArgon2idMetadata salt = .ok metadata) :
    metadata.Derives platform salt where
  kdf := by
    rw [serializeArgon2idMetadata_eq safeSalt] at serialized
    cases serialized
    rfl
  derives := fun _ =>
    deriveArgon2idKeyPairFromMetadata_serialized safeSalt serialized

theorem deriveVaultPasswordKey_ok {vaultPassword : JsString} {salt : Bytes}
    {keys : DerivedKeys} {metadata : Argon2idKdfMetadata}
    (derived : deriveVaultPasswordKey platform vaultPassword salt =
      .ok (keys, metadata)) :
    keys = derivedKeys (platform.argon2id
        (vaultPasswordBytes platform vaultPassword) salt
        recommendedArgon2idParams) ∧
      metadata.Derives platform salt := by
  obtain ⟨pair, pairDerived, rest⟩ := Outcome.bind_eq_ok_iff.mp derived
  obtain ⟨written, serialized, built⟩ := Outcome.bind_eq_ok_iff.mp rest
  cases built
  exact ⟨deriveArgon2idKeyPair_ok pairDerived,
    serializeArgon2idMetadata_derives
      (assertSafeArgon2idSalt_of_derived pairDerived) serialized⟩

end

end VaultCore
