import VaultCore.Envelopes.LegacyVaultKeyUnlock
import VaultCore.Validation.Schemas

/-!
# Recovery phrase envelopes

A phrase is trimmed, lower-cased and joined with single spaces before it is
validated or derived from.
-/

namespace VaultCore

/-- The entropy of a phrase. -/
def strengthBits : RecoveryPhraseWordCount → Nat
  | .twelve => 128
  | .twentyFour => 256

section

variable (platform : Platform)

def createRecoveryPhrase (wordCount : RecoveryPhraseWordCount)
    (entropy : Bytes) : JsString :=
  platform.generateMnemonic (strengthBits wordCount) entropy

/-- Trimmed, in lower case and joined with single spaces. -/
def normalizeRecoveryPhrase (phrase : JsString) : JsString :=
  joinWords (splitWords (platform.toLowerCase (trim phrase)))

/-- `text.split(" ")` -/
def splitSpaces (text : JsString) : List JsString :=
  text.splitOnP fun unit => unit == spaceUnit

/-- Twelve or twenty-four words, or nothing. -/
def getRecoveryPhraseWordCount (phrase : JsString) :
    Option RecoveryPhraseWordCount :=
  let normalized := normalizeRecoveryPhrase platform phrase
  let count := ((splitSpaces normalized).filter fun word =>
    !word.isEmpty).length
  if count = 12 then some .twelve
  else if count = 24 then some .twentyFour
  else none

/-- So many words that the mnemonic library accepts. -/
def validateRecoveryPhraseFormat (phrase : JsString) : Bool :=
  let normalized := normalizeRecoveryPhrase platform phrase
  let words := splitSpaces normalized
  if normalized.isEmpty then false
  else if words.length ≠ 12 ∧ words.length ≠ 24 then false
  else platform.validateMnemonic normalized

/-- `publicMetadata?.[name]`, with `null` as absent. -/
def presentMember (publicMetadata : Option JsMembers) (name : JsString) :
    Option JsValue :=
  (publicMetadata.bind fun members => members.lookup name).filter
    fun value => !value.isNull

/-- `{ phraseLength }` -/
def phraseLengthMetadata (phraseLength : JsValue) : JsMembers :=
  [(js "phraseLength", phraseLength)]

/-- The length that public metadata states. -/
def parseRecoveryPhraseWordCount (publicMetadata : Option JsMembers) :
    Option RecoveryPhraseWordCount :=
  let raw := (presentMember publicMetadata (js "phraseLength")).or
    (presentMember publicMetadata (js "wordCount"))
  match raw with
  | some (.number (.finite value)) =>
      if value = 12 then some .twelve
      else if value = 24 then some .twentyFour
      else none
  | _ => none

/-- A valid phrase of the expected length. -/
def assertRecoveryPhraseUnlockInput (phrase : JsString)
    (expectedWordCount : Option RecoveryPhraseWordCount) :
    Except VaultError Unit :=
  let normalized := normalizeRecoveryPhrase platform phrase
  if !validateRecoveryPhraseFormat platform normalized then
    .error (.error "Enter a valid 12- or 24-word BIP39 recovery phrase.")
  else
    let actualCount := getRecoveryPhraseWordCount platform normalized
    match expectedWordCount with
    | none => .ok ()
    | some expected =>
        if actualCount = some expected then .ok ()
        else
          let entered :=
            match actualCount with
            | some count => toString count.toNat
            | none => "an invalid number of"
          .error (.error ("This vault uses a " ++ toString expected.toNat ++
            "-word recovery phrase. You entered " ++ entered ++ " words."))

/-- The phrase was repeated, and is valid. -/
def assertRecoveryPhraseConfirmation
    (originalPhrase confirmationPhrase : JsString) : Except VaultError Unit :=
  let a := normalizeRecoveryPhrase platform originalPhrase
  let b := normalizeRecoveryPhrase platform confirmationPhrase
  if a ≠ b then
    .error (.recoveryPhraseConfirmationError
      "Recovery phrase confirmation does not match")
  else if !validateRecoveryPhraseFormat platform a then
    .error (.recoveryPhraseConfirmationError "Recovery phrase is not valid")
  else .ok ()

/-- The keys of a phrase with their metadata. -/
def deriveRecoveryPhraseKey (phrase : JsString) (salt : Bytes) :
    Except VaultError (DerivedKeys × Argon2idKdfMetadata) :=
  let normalized := normalizeRecoveryPhrase platform phrase
  if !validateRecoveryPhraseFormat platform normalized then
    .error (.error "Invalid recovery phrase")
  else do
    let keys ← deriveArgon2idKeyPair platform (stringToBytes normalized) salt
      recommendedArgon2idParams
    let metadata ← serializeArgon2idMetadata salt
    return (keys, metadata)

/-- The keys of a valid phrase under stored metadata. -/
def deriveRecoveryPhraseKeyFromMetadata (phrase : JsString)
    (metadata : Argon2idKdfMetadata) : Except VaultError DerivedKeys :=
  let normalized := normalizeRecoveryPhrase platform phrase
  if !validateRecoveryPhraseFormat platform normalized then
    .error (.error "Invalid recovery phrase")
  else
    deriveArgon2idKeyPairFromMetadata platform (stringToBytes normalized)
      metadata

/-- An envelope of the vault key under a phrase. -/
def createRecoveryEnvelope (iv : Iv) (vaultKey : CryptoKey)
    (recoveryPhrase : JsString) (scope : VaultScope)
    (profile : VaultCryptoProfile)
    (phraseLength : Option RecoveryPhraseWordCount) (salt : Bytes)
    (innerVaultKeyBlob : Option Bytes) :
    Except VaultError RecoveryPhraseEnvelope := do
  let (keys, metadata) ← deriveRecoveryPhraseKey platform recoveryPhrase salt
  let encryptedVaultKey ← wrapUserVaultKeyWithDerivedKeys platform iv vaultKey
    keys scope profile innerVaultKeyBlob
  return {
    encryptedVaultKey
    kdfMetadata := metadata
    publicMetadata := phraseLength.map fun wordCount =>
      phraseLengthMetadata wordCount.value }

/-- The phrase is as long as expected, if that is known. -/
def assertExpectedWordCount (recoveryPhrase : JsString) :
    Option RecoveryPhraseWordCount → Except VaultError Unit
  | none => .ok ()
  | some expected =>
      assertRecoveryPhraseUnlockInput platform recoveryPhrase (some expected)

/-- The vault key from under a phrase. -/
def unlockWithRecoveryEnvelope (recoveryPhrase : JsString)
    (envelope : RecoveryPhraseEnvelope) (expectedScope : VaultScope)
    (profile : VaultCryptoProfile)
    (expectedWordCount : Option RecoveryPhraseWordCount) :
    Except VaultError CryptoKey := do
  assertExpectedWordCount platform recoveryPhrase expectedWordCount
  if envelope.kdfMetadata.kdf ≠ argon2idName then
    throw (.error "Recovery phrase envelope requires Argon2id metadata")
  let derivedKeys ← deriveRecoveryPhraseKeyFromMetadata platform
    recoveryPhrase envelope.kdfMetadata
  unlockVaultKeyEnvelopeWithAadRouting envelope.encryptedVaultKey
    expectedScope profile fun candidate =>
      unwrapUserVaultKeyWithDerivedKeys platform candidate derivedKeys

/-- Lower-casing changes nothing more in words that were lower-cased. -/
def Platform.LowerCaseStable : Prop :=
  ∀ text,
    platform.toLowerCase (joinWords (splitWords (platform.toLowerCase text))) =
      joinWords (splitWords (platform.toLowerCase text))

end

section

variable {platform : Platform} {phrase : JsString}

theorem parse_phraseLengthMetadata (wordCount : RecoveryPhraseWordCount) :
    parseRecoveryPhraseWordCount
      (some (phraseLengthMetadata wordCount.value)) = some wordCount := by
  cases wordCount <;> rfl

theorem normalizeRecoveryPhrase_idempotent (stable : platform.LowerCaseStable)
    (phrase : JsString) :
    normalizeRecoveryPhrase platform (normalizeRecoveryPhrase platform phrase) =
      normalizeRecoveryPhrase platform phrase := by
  have words : ∀ word ∈ splitWords (platform.toLowerCase (trim phrase)),
      IsWord word := by
    intro word member
    exact isWord_of_mem_splitWords member
  have lowered := stable (trim phrase)
  unfold normalizeRecoveryPhrase
  rw [trim_joinWords words, lowered, splitWords_joinWords words]

theorem validateRecoveryPhraseFormat_normalize
    (stable : platform.LowerCaseStable) (phrase : JsString) :
    validateRecoveryPhraseFormat platform
        (normalizeRecoveryPhrase platform phrase) =
      validateRecoveryPhraseFormat platform phrase := by
  unfold validateRecoveryPhraseFormat
  rw [normalizeRecoveryPhrase_idempotent stable]

theorem getRecoveryPhraseWordCount_normalize
    (stable : platform.LowerCaseStable) (phrase : JsString) :
    getRecoveryPhraseWordCount platform
        (normalizeRecoveryPhrase platform phrase) =
      getRecoveryPhraseWordCount platform phrase := by
  unfold getRecoveryPhraseWordCount
  rw [normalizeRecoveryPhrase_idempotent stable]

/-- The keys a valid phrase derives with a random salt are found again from
the metadata. -/
theorem deriveRecoveryPhraseKey_valid
    (valid : validateRecoveryPhraseFormat platform
      (normalizeRecoveryPhrase platform phrase) = true)
    (salt : Argon2idSalt) :
    ∃ material metadata,
      deriveRecoveryPhraseKey platform phrase salt.val =
        .ok (derivedKeys material, metadata) ∧
      metadata.kdf = argon2idName ∧
      parseArgon2idMetadata metadata =
        .ok (salt.val, recommendedArgon2idParams) ∧
      base64UrlToBytes metadata.salt = .ok salt.val ∧
      deriveRecoveryPhraseKeyFromMetadata platform phrase metadata =
        .ok (derivedKeys material) := by
  have safeSalt := assertSafeArgon2idSalt_random salt
  have serialized := serializeArgon2idMetadata_eq safeSalt
  refine ⟨platform.argon2id
      (stringToBytes (normalizeRecoveryPhrase platform phrase)) salt.val
      recommendedArgon2idParams, _, ?_, rfl,
    parse_serializeArgon2idMetadata safeSalt serialized,
    base64UrlToBytes_bytesToBase64Url _, ?_⟩
  · simp only [deriveRecoveryPhraseKey, valid, Bool.not_true,
      Bool.false_eq_true, if_false, serialized, Outcome.ok_bind,
      deriveArgon2idKeyPair_eq assertSafeArgon2idParams_recommended safeSalt]
    rfl
  · simp only [deriveRecoveryPhraseKeyFromMetadata, valid, Bool.not_true,
      Bool.false_eq_true, if_false]
    exact deriveArgon2idKeyPairFromMetadata_serialized safeSalt serialized

theorem deriveRecoveryPhraseKey_ok {salt : Bytes} {keys : DerivedKeys}
    {metadata : Argon2idKdfMetadata}
    (derived : deriveRecoveryPhraseKey platform phrase salt =
      .ok (keys, metadata)) :
    validateRecoveryPhraseFormat platform
        (normalizeRecoveryPhrase platform phrase) = true ∧
      keys = derivedKeys (platform.argon2id
        (stringToBytes (normalizeRecoveryPhrase platform phrase)) salt
        recommendedArgon2idParams) ∧
      metadata.Derives platform salt := by
  simp only [deriveRecoveryPhraseKey] at derived
  split at derived
  · cases derived
  · rename_i valid
    obtain ⟨pair, pairDerived, rest⟩ := Outcome.bind_eq_ok_iff.mp derived
    obtain ⟨written, serialized, built⟩ := Outcome.bind_eq_ok_iff.mp rest
    cases built
    exact ⟨by simpa using valid, deriveArgon2idKeyPair_ok pairDerived,
      serializeArgon2idMetadata_derives
        (assertSafeArgon2idSalt_of_derived pairDerived) serialized⟩

theorem deriveRecoveryPhraseKeyFromMetadata_ok {keys : DerivedKeys}
    {metadata : Argon2idKdfMetadata}
    (derived : deriveRecoveryPhraseKeyFromMetadata platform phrase metadata =
      .ok keys) :
    validateRecoveryPhraseFormat platform
        (normalizeRecoveryPhrase platform phrase) = true ∧
      ∃ material, keys = derivedKeys material := by
  simp only [deriveRecoveryPhraseKeyFromMetadata] at derived
  split at derived
  · cases derived
  · rename_i valid
    exact ⟨by simpa using valid, deriveArgon2idKeyPairFromMetadata_ok derived⟩

theorem deriveRecoveryPhraseKeyFromMetadata_ok_iff {salt : Bytes}
    {keys : DerivedKeys} {metadata : Argon2idKdfMetadata}
    (usable : metadata.Derives platform salt) :
    deriveRecoveryPhraseKeyFromMetadata platform phrase metadata = .ok keys ↔
      validateRecoveryPhraseFormat platform
          (normalizeRecoveryPhrase platform phrase) = true ∧
        keys = derivedKeys (platform.argon2id
          (stringToBytes (normalizeRecoveryPhrase platform phrase)) salt
          recommendedArgon2idParams) := by
  unfold deriveRecoveryPhraseKeyFromMetadata
  simp only [usable.derives]
  cases validateRecoveryPhraseFormat platform
      (normalizeRecoveryPhrase platform phrase) with
  | false => simp
  | true => simp [eq_comm]

/-- A generated phrase has the requested number of lower-case words, joined
with single spaces, and validates. -/
def Platform.GeneratesMnemonics (platform : Platform) : Prop :=
  ∀ wordCount entropy, ∃ words : List JsString,
    words.length = wordCount.toNat ∧ (∀ word ∈ words, IsWord word) ∧
    platform.generateMnemonic (strengthBits wordCount) entropy =
      joinWords words ∧
    platform.toLowerCase (joinWords words) = joinWords words ∧
    platform.validateMnemonic (joinWords words) = true

/-- What a phrase needs to unlock: it is its own normal form, valid, and of
the given length. -/
structure UsableRecoveryPhrase (platform : Platform)
    (wordCount : RecoveryPhraseWordCount) (phrase : JsString) : Prop where
  normalized : normalizeRecoveryPhrase platform phrase = phrase
  valid : validateRecoveryPhraseFormat platform phrase = true
  counted : getRecoveryPhraseWordCount platform phrase = some wordCount

theorem splitSpaces_joinWords {words : List JsString}
    (plain : ∀ word ∈ words, IsWord word) (nonempty : words ≠ []) :
    splitSpaces (joinWords words) = words := by
  apply List.splitOn_intercalate
  · intro word member space
    have blank := (plain word member).2 spaceUnit space
    rw [isWhitespaceUnit_space] at blank
    cases blank
  · exact nonempty

theorem createRecoveryPhrase_usable
    (generates : platform.GeneratesMnemonics)
    (wordCount : RecoveryPhraseWordCount) (entropy : Bytes) :
    UsableRecoveryPhrase platform wordCount
      (createRecoveryPhrase platform wordCount entropy) := by
  obtain ⟨words, count, plain, generated, lower, valid⟩ :=
    generates wordCount entropy
  have nonempty : words ≠ [] := by
    rintro rfl
    cases wordCount <;> cases count
  have normalized : normalizeRecoveryPhrase platform (joinWords words) =
      joinWords words := by
    rw [normalizeRecoveryPhrase, trim_joinWords plain, lower,
      splitWords_joinWords plain]
  have split := splitSpaces_joinWords plain nonempty
  have written : (joinWords words).isEmpty = false := by
    cases joined : joinWords words with
    | nil =>
        rw [joined] at split
        have singleton : words = [[]] := split.symm
        rw [singleton] at count
        cases wordCount <;> cases count
    | cons unit units => rfl
  have kept : words.filter (fun word => !word.isEmpty) = words := by
    apply List.filter_eq_self.mpr
    intro word member
    cases word with
    | nil => exact absurd rfl (plain [] member).1
    | cons unit units => rfl
  rw [createRecoveryPhrase, generated]
  refine ⟨normalized, ?_, ?_⟩
  · simp only [validateRecoveryPhraseFormat, normalized, written, split, count,
      valid]
    cases wordCount <;> rfl
  · simp only [getRecoveryPhraseWordCount, normalized, split, kept, count]
    cases wordCount <;> rfl

section Unlock

variable {envelope : RecoveryPhraseEnvelope} {expectedScope : VaultScope}
  {profile : VaultCryptoProfile}
  {expectedWordCount : Option RecoveryPhraseWordCount} {key : CryptoKey}

/-- An opened envelope has usable metadata, and routing opened it with the
keys derived from the phrase. -/
theorem unlockWithRecoveryEnvelope_ok
    (unlocked : unlockWithRecoveryEnvelope platform phrase envelope
      expectedScope profile expectedWordCount = .ok key) :
    assertExpectedWordCount platform phrase expectedWordCount = .ok () ∧
      envelope.kdfMetadata.kdf = argon2idName ∧
      validateRecoveryPhraseFormat platform
        (normalizeRecoveryPhrase platform phrase) = true ∧
      ∃ material,
        deriveRecoveryPhraseKeyFromMetadata platform phrase
          envelope.kdfMetadata = .ok (derivedKeys material) ∧
        unlockVaultKeyEnvelopeWithAadRouting envelope.encryptedVaultKey
          expectedScope profile (fun candidate =>
            unwrapUserVaultKeyWithDerivedKeys platform candidate
              (derivedKeys material)) = .ok key := by
  unfold unlockWithRecoveryEnvelope at unlocked
  obtain ⟨_, counted, rest⟩ := Outcome.bind_eq_ok_iff.mp unlocked
  by_cases kdf : envelope.kdfMetadata.kdf = argon2idName
  · rw [if_neg (not_not.mpr kdf)] at rest
    obtain ⟨keys, derived, opened⟩ := Outcome.bind_eq_ok_iff.mp rest
    obtain ⟨valid, material, rfl⟩ :=
      deriveRecoveryPhraseKeyFromMetadata_ok derived
    exact ⟨counted, kdf, valid, material, derived, opened⟩
  · rw [if_pos kdf] at rest
    cases rest

theorem unlockWithRecoveryEnvelope_eq {material : Bytes32}
    (counted : assertExpectedWordCount platform phrase expectedWordCount =
      .ok ())
    (kdf : envelope.kdfMetadata.kdf = argon2idName)
    (derived : deriveRecoveryPhraseKeyFromMetadata platform phrase
      envelope.kdfMetadata = .ok (derivedKeys material)) :
    unlockWithRecoveryEnvelope platform phrase envelope expectedScope profile
      expectedWordCount =
      unlockVaultKeyEnvelopeWithAadRouting envelope.encryptedVaultKey
        expectedScope profile (fun candidate =>
          unwrapUserVaultKeyWithDerivedKeys platform candidate
            (derivedKeys material)) := by
  simp only [unlockWithRecoveryEnvelope, counted, kdf, derived, ne_eq,
    not_true_eq_false, if_false, Outcome.ok_bind]

end Unlock

end

/-! ## The words of a phrase -/

section

variable {platform : Platform} {phrase : JsString}

/-- The words a phrase is entered with. -/
def phraseWords (platform : Platform) (phrase : JsString) : List JsString :=
  splitWords (platform.toLowerCase (trim phrase))

theorem normalizeRecoveryPhrase_eq (platform : Platform) (phrase : JsString) :
    normalizeRecoveryPhrase platform phrase =
      joinWords (phraseWords platform phrase) := rfl

theorem isWord_of_mem_phraseWords {word : JsString}
    (member : word ∈ phraseWords platform phrase) : IsWord word :=
  isWord_of_mem_splitWords member

theorem splitSpaces_normalized (nonempty : phraseWords platform phrase ≠ []) :
    splitSpaces (normalizeRecoveryPhrase platform phrase) =
      phraseWords platform phrase :=
  splitSpaces_joinWords (fun _ => isWord_of_mem_phraseWords) nonempty

private theorem splitSpaces_counted :
    (splitSpaces (normalizeRecoveryPhrase platform phrase)).filter
        (fun word => !word.isEmpty) = phraseWords platform phrase := by
  by_cases nonempty : phraseWords platform phrase = []
  · rw [normalizeRecoveryPhrase_eq, nonempty]
    rfl
  · rw [splitSpaces_normalized nonempty]
    apply List.filter_eq_self.mpr
    intro word member
    have filled := (isWord_of_mem_phraseWords member).1
    simpa using filled

theorem getRecoveryPhraseWordCount_eq_some_iff
    {wordCount : RecoveryPhraseWordCount} :
    getRecoveryPhraseWordCount platform phrase = some wordCount ↔
      (phraseWords platform phrase).length = wordCount.toNat := by
  simp only [getRecoveryPhraseWordCount, splitSpaces_counted]
  cases wordCount with
  | twelve =>
      simp only [RecoveryPhraseWordCount.toNat]
      split_ifs <;> simp_all
  | twentyFour =>
      simp only [RecoveryPhraseWordCount.toNat]
      split_ifs <;> simp_all

theorem phraseWords_ne_nil
    (valid : validateRecoveryPhraseFormat platform phrase = true) :
    phraseWords platform phrase ≠ [] := by
  intro none
  simp only [validateRecoveryPhraseFormat, normalizeRecoveryPhrase_eq, none]
    at valid
  cases valid

theorem getRecoveryPhraseWordCount_of_valid
    (valid : validateRecoveryPhraseFormat platform phrase = true) :
    ∃ wordCount,
      getRecoveryPhraseWordCount platform phrase = some wordCount := by
  have nonempty := phraseWords_ne_nil valid
  simp only [validateRecoveryPhraseFormat] at valid
  split_ifs at valid with empty outside
  rw [splitSpaces_normalized nonempty] at outside
  by_cases short : (phraseWords platform phrase).length = 12
  · exact ⟨.twelve, getRecoveryPhraseWordCount_eq_some_iff.mpr short⟩
  · have long : (phraseWords platform phrase).length = 24 := by omega
    exact ⟨.twentyFour, getRecoveryPhraseWordCount_eq_some_iff.mpr long⟩

theorem assertExpectedWordCount_ok_iff (stable : platform.LowerCaseStable)
    (valid : validateRecoveryPhraseFormat platform
      (normalizeRecoveryPhrase platform phrase) = true)
    {expectedWordCount : Option RecoveryPhraseWordCount} :
    assertExpectedWordCount platform phrase expectedWordCount = .ok () ↔
      ∀ wordCount, expectedWordCount = some wordCount →
        getRecoveryPhraseWordCount platform phrase = some wordCount := by
  rw [validateRecoveryPhraseFormat_normalize stable] at valid
  cases expectedWordCount with
  | none => simp [assertExpectedWordCount]
  | some expected =>
      simp only [assertExpectedWordCount, assertRecoveryPhraseUnlockInput,
        validateRecoveryPhraseFormat_normalize stable,
        getRecoveryPhraseWordCount_normalize stable, valid, Bool.not_true,
        Bool.false_eq_true, if_false, Option.some.injEq, forall_eq']
      split_ifs with counted
      · simp [counted]
      · simp [counted]

end

end VaultCore
