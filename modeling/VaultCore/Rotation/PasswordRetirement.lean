import VaultCore.Rotation.Soundness

/-!
# Retiring the old password

A rotation refuses a new password that is the same string as the current one.
Keys are derived from the bytes of the normalized password, so two strings may
be different and still derive the same keys.  The old password is retired
exactly when the bytes differ.
-/

namespace VaultCore

/-- No spelling of the password opens the envelope, in any scope. -/
def PasswordRetired (platform : Platform) (vaultPassword : JsString)
    (envelope : PasswordEnvelope) : Prop :=
  ∀ spelling scope profile key,
    platform.normalizeNfkc spelling = platform.normalizeNfkc vaultPassword →
      unlockWithPasswordEnvelope platform spelling envelope scope profile ≠
        .ok key

section

variable {platform : Platform} {envelope : PasswordEnvelope}
  {scope otherScope : VaultScope} {profile otherProfile : VaultCryptoProfile}
  {key : CryptoKey}

/-- Only the bytes of the normalized password matter to an unlock. -/
theorem unlockWithPasswordEnvelope_congr {first second : JsString}
    (same : vaultPasswordBytes platform first =
      vaultPasswordBytes platform second) :
    unlockWithPasswordEnvelope platform first envelope scope profile =
      unlockWithPasswordEnvelope platform second envelope scope profile := by
  unfold unlockWithPasswordEnvelope deriveVaultPasswordKeyPairFromMetadata
  rw [same]

theorem sealingKey_of_routed {stored : EncryptedVaultPayload}
    {sealingKey : CryptoKey} {keys : DerivedKeys}
    (ideal : IdealSealing platform stored sealingKey)
    (opened : unlockVaultKeyEnvelopeWithAadRouting stored scope profile
      (fun candidate => unwrapUserVaultKeyWithDerivedKeys platform candidate
        keys) = .ok key) :
    keys.encryptionKey.material = sealingKey.material := by
  obtain ⟨candidate, unwrapped, readdressed, -⟩ :=
    unlockVaultKeyEnvelopeWithAadRouting_sound opened
  obtain ⟨inner, extracted, -⟩ :=
    unwrapUserVaultKeyWithDerivedKeys_ok_iff.mp unwrapped
  obtain ⟨text, decrypted, -⟩ := Outcome.bind_eq_ok_iff.mp extracted
  have carries : CarriesCiphertext candidate stored :=
    ⟨readdressed.iv, readdressed.ciphertext⟩
  exact (decryptField_binds ideal carries decrypted).1

/-- The metadata of an envelope determines what a password derives. -/
theorem argon2id_of_unlocked {salt : Bytes} {vaultPassword : JsString}
    {sealingKey : CryptoKey}
    (derives : envelope.kdfMetadata.Derives platform salt)
    (ideal : IdealSealing platform envelope.encryptedVaultKey sealingKey)
    (unlocked : unlockWithPasswordEnvelope platform vaultPassword envelope
      scope profile = .ok key) :
    (derivedKeys (platform.argon2id
        (vaultPasswordBytes platform vaultPassword) salt
        recommendedArgon2idParams)).encryptionKey.material =
      sealingKey.material := by
  obtain ⟨-, material, derived, routed⟩ :=
    unlockWithPasswordEnvelope_ok unlocked
  have determined := derives.derives
    (vaultPasswordBytes platform vaultPassword)
  have keys := Except.ok.inj (determined.symm.trans derived)
  rw [keys]
  exact sealingKey_of_routed ideal routed

/-- Two passwords that open one envelope have the same bytes. -/
theorem vaultPasswordBytes_of_unlocked {salt : Bytes}
    {first second : JsString} {otherKey : CryptoKey}
    (derives : envelope.kdfMetadata.Derives platform salt)
    (sealed : SealedForOneKey platform envelope.encryptedVaultKey)
    (separates : platform.SeparatesPasswords
      (vaultPasswordBytes platform first)
      (vaultPasswordBytes platform second))
    (firstUnlocked : unlockWithPasswordEnvelope platform first envelope scope
      profile = .ok key)
    (secondUnlocked : unlockWithPasswordEnvelope platform second envelope
      otherScope otherProfile = .ok otherKey) :
    vaultPasswordBytes platform first =
      vaultPasswordBytes platform second := by
  obtain ⟨sealingKey, ideal⟩ := sealed
  have firstMaterial := argon2id_of_unlocked derives ideal firstUnlocked
  have secondMaterial := argon2id_of_unlocked derives ideal secondUnlocked
  have same := derivedKeys_injective (firstMaterial.trans secondMaterial.symm)
  exact separates salt recommendedArgon2idParams same

theorem rewrapPasswordEnvelope_derives {iv : Iv} {salt : Argon2idSalt}
    {vaultKey : CryptoKey} {oldPassword newPassword : JsString}
    {renewed : PasswordEnvelope} {message : String}
    (success : rewrapPasswordEnvelope platform iv salt vaultKey oldPassword
      newPassword envelope scope profile message = .ok renewed) :
    renewed.kdfMetadata.Derives platform salt.val := by
  obtain ⟨_, -, rest⟩ := Outcome.bind_eq_ok_iff.mp success
  obtain ⟨_, -, rest⟩ := Outcome.bind_eq_ok_iff.mp rest
  obtain ⟨_, -, rest⟩ := Outcome.bind_eq_ok_iff.mp rest
  obtain ⟨⟨_, metadata⟩, derived, rest⟩ := Outcome.bind_eq_ok_iff.mp rest
  obtain ⟨payload, -, built⟩ := Outcome.bind_eq_ok_iff.mp rest
  obtain rfl := Except.ok.inj built
  exact (deriveVaultPasswordKey_ok derived).2

theorem rotateVaultPassword_ok {iv : Iv} {salt : Argon2idSalt}
    {options : RotateVaultPasswordOptions} {result : RotateVaultPasswordResult}
    (success : rotateVaultPassword platform iv salt options = .ok result) :
    options.currentPassword ≠ options.newPassword ∧
      rewrapPasswordEnvelope platform iv salt options.vaultKey
        options.currentPassword options.newPassword options.currentEnvelope
        options.scope options.profile "Current vault password is incorrect" =
          .ok result.envelope := by
  rw [rotateVaultPassword] at success
  split at success
  · cases success
  · rename_i different
    obtain ⟨renewed, rewrapped, built⟩ := Outcome.bind_eq_ok_iff.mp success
    obtain rfl := Except.ok.inj built
    exact ⟨different, rewrapped⟩

end

/-- A rotation retires the current password exactly when the new password
normalizes to other bytes. -/
theorem password_rotation_retires_iff {platform : Platform}
    (crypto : platform.Lawful) {iv : Iv} {salt : Argon2idSalt}
    {options : RotateVaultPasswordOptions} {result : RotateVaultPasswordResult}
    (probe : platform.IdealProbe options.vaultKey.material)
    (separates : platform.SeparatesPasswords
      (vaultPasswordBytes platform options.currentPassword)
      (vaultPasswordBytes platform options.newPassword))
    (success : rotateVaultPassword platform iv salt options = .ok result)
    (sealed : SealedForOneKey platform result.envelope.encryptedVaultKey) :
    PasswordRetired platform options.currentPassword result.envelope ↔
      vaultPasswordBytes platform options.currentPassword ≠
        vaultPasswordBytes platform options.newPassword := by
  obtain ⟨-, rewrapped⟩ := rotateVaultPassword_ok success
  obtain ⟨-, renews⟩ := rewrapPasswordEnvelope_sound crypto probe rewrapped
  have opens : unlockWithPasswordEnvelope platform options.newPassword
      result.envelope options.scope options.profile =
        .ok options.vaultKey.restored := renews.opens
  constructor
  · intro retired same
    apply retired options.currentPassword options.scope options.profile
      options.vaultKey.restored rfl
    rw [unlockWithPasswordEnvelope_congr same]
    exact opens
  · intro different spelling scope profile key spelled unlocked
    have bytes : vaultPasswordBytes platform spelling =
        vaultPasswordBytes platform options.currentPassword :=
      congrArg stringToBytes spelled
    rw [unlockWithPasswordEnvelope_congr bytes] at unlocked
    apply different
    exact vaultPasswordBytes_of_unlocked
      (rewrapPasswordEnvelope_derives rewrapped) sealed separates unlocked
      opens

namespace Reference

/-- The compatibility form of a full-width Latin code unit. -/
def narrowUnit (unit : UInt16) : UInt16 :=
  if 0xFF01 ≤ unit.toNat ∧ unit.toNat ≤ 0xFF5E then unit - 0xFEE0 else unit

/-- A platform that normalizes full-width Latin text. -/
def widePlatform (ledger : List Sealing) : Platform :=
  { platform ledger with normalizeNfkc := List.map narrowUnit }

/-- The bytes the new password of a rotation is derived from. -/
def narrowBytes (vaultPassword : JsString) : Bytes :=
  stringToBytes (vaultPassword.map narrowUnit)

def retirementLedger (newPassword : JsString) : List Sealing :=
  envelopeLedger (narrowBytes newPassword) (Reference.material 7)

/-- The platform on which a key is sealed under the new password. -/
def retirementPlatform (newPassword : JsString) : Platform :=
  widePlatform (retirementLedger newPassword)

def retirementEnvelope (newPassword secret : JsString) : PasswordEnvelope :=
  { encryptedVaultKey := vaultKeyPayload (retirementLedger newPassword)
      (narrowBytes secret) (Reference.material 7) referenceScope
      referenceProfile
    kdfMetadata := kdfMetadata }

def retirement (currentPassword newPassword : JsString) :
    RotateVaultPasswordOptions :=
  { vaultKey := openedVaultKey
    currentPassword
    newPassword
    currentEnvelope := retirementEnvelope newPassword currentPassword
    scope := referenceScope
    profile := referenceProfile }

section

variable (currentPassword newPassword : JsString)

theorem retirementPlatform_lawful :
    (retirementPlatform newPassword).Lawful :=
  (platform_lawful (retirementLedger newPassword)).of_ciphers rfl rfl rfl rfl

theorem retirementPlatform_idealProbe :
    (retirementPlatform newPassword).IdealProbe openedVaultKey.material := by
  have long : (Reference.material 7).val.length = 32 := List.length_replicate
  have ideal := @envelopeLedger_idealProbe (narrowBytes newPassword) _ long
  exact ⟨ideal.opens, ideal.opened⟩

theorem retirementEnvelope_sealedForOneKey :
    SealedForOneKey (retirementPlatform newPassword)
      (retirementEnvelope newPassword newPassword).encryptedVaultKey := by
  have long : (Reference.material 7).val.length = 32 := List.length_replicate
  obtain ⟨sealingKey, ideal⟩ :=
    @vaultKeyPayload_sealedForOneKey (narrowBytes newPassword) _
      referenceScope referenceProfile long
  exact ⟨sealingKey, ideal.written, ideal.only⟩

theorem unlock_retirementEnvelope :
    unlockWithPasswordEnvelope (retirementPlatform newPassword)
      currentPassword (retirementEnvelope newPassword currentPassword)
      referenceScope referenceProfile = .ok openedVaultKey := by
  have derived : deriveVaultPasswordKeyPairFromMetadata
      (retirementPlatform newPassword) currentPassword kdfMetadata =
        .ok (derivedKeys (derive (narrowBytes currentPassword))) :=
    @deriveFromMetadata (retirementLedger newPassword) _
  rw [unlockWithPasswordEnvelope_eq rfl derived,
    unlockVaultKeyEnvelopeWithAadRouting_canonical rfl]
  apply @unwrap_vaultKeyPayload (retirementLedger newPassword)
  · decide
  · rfl
  · rfl
  · rfl

theorem rotate_retirement (different : currentPassword ≠ newPassword) :
    rotateVaultPassword (retirementPlatform newPassword) referenceIv salt
      (retirement currentPassword newPassword) =
        .ok
          { envelope := retirementEnvelope newPassword newPassword
            replacedKdfVersion := .kdfV2 } := by
  have crypto := retirementPlatform_lawful newPassword
  have unlocked := unlock_retirementEnvelope currentPassword newPassword
  obtain ⟨-, material, derived, routed⟩ :=
    unlockWithPasswordEnvelope_ok unlocked
  rw [unlockVaultKeyEnvelopeWithAadRouting_canonical rfl] at routed
  obtain ⟨inner, extracted, restored⟩ :=
    unwrapUserVaultKeyWithDerivedKeys_ok_iff.mp routed
  have same : assertSameVaultKey (retirementPlatform newPassword)
      openedVaultKey openedVaultKey "Current vault password is incorrect" =
        .ok () := assertSameVaultKey_of_material crypto rfl rfl rfl
  have newDerived : deriveVaultPasswordKey (retirementPlatform newPassword)
      newPassword salt.val =
        .ok (keysOf (narrowBytes newPassword), kdfMetadata) :=
    @derive_password (retirementLedger newPassword)
      (newPassword.map narrowUnit)
  have rewrapped : rewrapInnerVaultKeyMaterialForWrappingKeys
      (retirementPlatform newPassword) inner
      (derivedKeys material).wrappingKey
      (keysOf (narrowBytes newPassword)).wrappingKey openedVaultKey =
        .ok (wrap (Reference.material 7).val) :=
    rewrapInnerVaultKeyMaterialForWrappingKeys_eq crypto restored rfl rfl rfl
  have encrypted : encryptInnerVaultKeyBlob (retirementPlatform newPassword)
      referenceIv (wrap (Reference.material 7).val)
      (keysOf (narrowBytes newPassword)).encryptionKey referenceScope
      referenceProfile =
        .ok (retirementEnvelope newPassword newPassword).encryptedVaultKey :=
    vaultKeyPayload_encrypted
  have sealedAgain : rewrapEncryptedVaultKeyForDerivedKeys
      (retirementPlatform newPassword) referenceIv
      (retirementEnvelope newPassword currentPassword).encryptedVaultKey
      (derivedKeys material) (keysOf (narrowBytes newPassword))
      openedVaultKey referenceScope referenceProfile =
        .ok (retirementEnvelope newPassword newPassword).encryptedVaultKey := by
    simp only [rewrapEncryptedVaultKeyForDerivedKeys, extracted, rewrapped,
      encrypted, Outcome.ok_bind]
  simp only [rotateVaultPassword, retirement, if_neg different,
    rewrapPasswordEnvelope, unlocked, same, derived, newDerived, sealedAgain,
    Outcome.ok_bind]
  rfl

end

/-- The full-width spelling of the reference secret. -/
def wideSecret : JsString := js "\uFF53\uFF45\uFF43\uFF52\uFF45\uFF54"

theorem narrowBytes_wideSecret :
    narrowBytes wideSecret = narrowBytes unlockSecret := by
  have narrowed : wideSecret.map narrowUnit =
      unlockSecret.map narrowUnit := by decide +kernel
  exact congrArg stringToBytes narrowed

end Reference

open Reference in
/-- Replacing a password by another one retires it. -/
theorem password_rotation_retires_iff_other :
    PasswordRetired (retirementPlatform (js "other")) unlockSecret
        (retirementEnvelope (js "other") (js "other")) ↔
      vaultPasswordBytes (retirementPlatform (js "other")) unlockSecret ≠
        vaultPasswordBytes (retirementPlatform (js "other")) (js "other") := by
  have different : unlockSecret ≠ js "other" := by decide +kernel
  have separates : (retirementPlatform (js "other")).SeparatesPasswords
      (narrowBytes unlockSecret) (narrowBytes (js "other")) := by
    have keys : derive (narrowBytes unlockSecret) ≠
        derive (narrowBytes (js "other")) := by decide +kernel
    intro salt params same
    exact absurd same keys
  exact password_rotation_retires_iff (retirementPlatform_lawful _)
    (retirementPlatform_idealProbe _) separates
    (rotate_retirement _ _ different)
    (retirementEnvelope_sealedForOneKey _)

open Reference in
/-- The full-width spelling of the current password is accepted as a new
password, and the current password opens the new envelope. -/
theorem respelled_password_not_retired :
    (retirementPlatform wideSecret).Lawful ∧
      (retirementPlatform wideSecret).IdealProbe openedVaultKey.material ∧
      ∃ result,
        rotateVaultPassword (retirementPlatform wideSecret) referenceIv salt
          (retirement unlockSecret wideSecret) = .ok result ∧
        SealedForOneKey (retirementPlatform wideSecret)
          result.envelope.encryptedVaultKey ∧
        unlockWithPasswordEnvelope (retirementPlatform wideSecret)
          unlockSecret result.envelope referenceScope referenceProfile =
            .ok openedVaultKey := by
  have different : unlockSecret ≠ wideSecret := by decide +kernel
  refine ⟨retirementPlatform_lawful _, retirementPlatform_idealProbe _, _,
    rotate_retirement _ _ different, retirementEnvelope_sealedForOneKey _, ?_⟩
  have same : vaultPasswordBytes (retirementPlatform wideSecret)
      unlockSecret = vaultPasswordBytes (retirementPlatform wideSecret)
        wideSecret := narrowBytes_wideSecret.symm
  rw [unlockWithPasswordEnvelope_congr same]
  exact unlock_retirementEnvelope wideSecret wideSecret

end VaultCore
