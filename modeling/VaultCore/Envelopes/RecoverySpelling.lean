import VaultCore.Rotation.PasswordRetirement

/-!
# Spellings of a recovery phrase

A mnemonic is validated after a compatibility decomposition, but the keys are
derived from the phrase as it was spelled, trimmed, lower-cased and joined
with single spaces.  Two spellings that validate derive the same keys exactly
when their lower-cased words are the same.
-/

namespace VaultCore

/-- The part of the mnemonic library the code relies on. -/
structure Bip39 where
  normalizeNfkd : JsString → JsString
  /-- the entropy of listed words with a matching checksum -/
  entropyOfWords : List JsString → Option Bytes

/-- The text is decomposed first, and split at its spaces. -/
def Bip39.mnemonicToEntropy (bip39 : Bip39) (mnemonic : JsString) :
    Option Bytes :=
  bip39.entropyOfWords (splitSpaces (bip39.normalizeNfkd mnemonic))

/-- Both spellings derive the same keys, and what is created with the first
is opened by the second. -/
structure SpellingsAgree (platform : Platform) (first second : JsString) :
    Prop where
  derives : ∀ metadata,
    deriveRecoveryPhraseKeyFromMetadata platform first metadata =
      deriveRecoveryPhraseKeyFromMetadata platform second metadata
  opens : ∀ iv vaultKey scope profile phraseLength salt supplied envelope,
    IsUserVaultKey vaultKey →
    supplied = none ∨ platform.IdealProbe vaultKey.material →
    createRecoveryEnvelope platform iv vaultKey first scope profile
      phraseLength salt supplied = .ok envelope →
    unlockWithRecoveryEnvelope platform second envelope scope profile none =
      .ok vaultKey.restored

section

variable {platform : Platform} {first second : JsString}

theorem phraseWords_eq_iff :
    phraseWords platform first = phraseWords platform second ↔
      normalizeRecoveryPhrase platform first =
        normalizeRecoveryPhrase platform second := by
  constructor
  · intro same
    rw [normalizeRecoveryPhrase_eq, normalizeRecoveryPhrase_eq, same]
  · intro same
    have split := congrArg splitWords same
    rw [normalizeRecoveryPhrase_eq, normalizeRecoveryPhrase_eq,
      splitWords_joinWords fun _ => isWord_of_mem_phraseWords,
      splitWords_joinWords fun _ => isWord_of_mem_phraseWords] at split
    exact split

theorem SpellingsAgree.of_words (crypto : platform.Lawful)
    (same : phraseWords platform first = phraseWords platform second) :
    SpellingsAgree platform first second := by
  have normalized := phraseWords_eq_iff.mp same
  have derives : ∀ metadata,
      deriveRecoveryPhraseKeyFromMetadata platform first metadata =
        deriveRecoveryPhraseKeyFromMetadata platform second metadata := by
    intro metadata
    unfold deriveRecoveryPhraseKeyFromMetadata
    rw [normalized]
  refine ⟨derives, ?_⟩
  intro iv vaultKey scope profile phraseLength salt supplied envelope user
    probe created
  have opened := createRecoveryEnvelope_opens crypto user probe created
  rw [← opened]
  unfold unlockWithRecoveryEnvelope assertExpectedWordCount
  rw [derives]

/-- Both spellings derive the same keys under metadata of some salt. -/
theorem normalized_of_derives (stable : platform.LowerCaseStable)
    (mnemonics : platform.WellFormedMnemonics)
    (firstValid : validateRecoveryPhraseFormat platform first = true)
    (secondValid : validateRecoveryPhraseFormat platform second = true)
    (separates : platform.SeparatesPasswords
      (stringToBytes (normalizeRecoveryPhrase platform first))
      (stringToBytes (normalizeRecoveryPhrase platform second)))
    (derives : ∀ metadata,
      deriveRecoveryPhraseKeyFromMetadata platform first metadata =
        deriveRecoveryPhraseKeyFromMetadata platform second metadata) :
    normalizeRecoveryPhrase platform first =
      normalizeRecoveryPhrase platform second := by
  rw [← validateRecoveryPhraseFormat_normalize stable]
    at firstValid secondValid
  let salt : Argon2idSalt := ⟨List.replicate 16 0, rfl⟩
  have safeSalt := assertSafeArgon2idSalt_random salt
  have usable := @serializeArgon2idMetadata_derives platform _ _ safeSalt
    (serializeArgon2idMetadata_eq safeSalt)
  have firstDerived := (deriveRecoveryPhraseKeyFromMetadata_ok_iff usable).mpr
    ⟨firstValid, rfl⟩
  have secondDerived :=
    (deriveRecoveryPhraseKeyFromMetadata_ok_iff usable).mpr
      ⟨secondValid, rfl⟩
  rw [derives, secondDerived] at firstDerived
  have keys := congrArg DerivedKeys.encryptionKey
    (Except.ok.inj firstDerived)
  have hashes := derivedKeys_injective (congrArg CryptoKey.material keys)
  have bytes := separates _ _ hashes.symm
  exact stringToBytes_mnemonic mnemonics
    (validateMnemonic_of_format stable firstValid)
    (validateMnemonic_of_format stable secondValid) bytes

end

/-- Two spellings that validate agree exactly when they have the same
lower-cased words. -/
theorem recovery_spellings_agree_iff {platform : Platform}
    (crypto : platform.Lawful) (stable : platform.LowerCaseStable)
    (mnemonics : platform.WellFormedMnemonics) {first second : JsString}
    (firstValid : validateRecoveryPhraseFormat platform first = true)
    (secondValid : validateRecoveryPhraseFormat platform second = true)
    (separates : platform.SeparatesPasswords
      (stringToBytes (normalizeRecoveryPhrase platform first))
      (stringToBytes (normalizeRecoveryPhrase platform second))) :
    SpellingsAgree platform first second ↔
      phraseWords platform first = phraseWords platform second := by
  constructor
  · intro agree
    apply phraseWords_eq_iff.mpr
    exact normalized_of_derives stable mnemonics firstValid secondValid
      separates agree.derives
  · exact SpellingsAgree.of_words crypto

namespace Reference

/-- The words of a mnemonic whose entropy is zero. -/
def zeroWords : List JsString :=
  List.replicate 11 (js "abandon") ++ [js "about"]

/-- A library that reads one mnemonic, in ASCII or in full-width letters. -/
def bip39 : Bip39 :=
  { normalizeNfkd := List.map narrowUnit
    entropyOfWords := fun words =>
      if words = zeroWords then some (List.replicate 16 0) else none }

def spellingPlatform : Platform :=
  { platform [] with
    validateMnemonic := fun text => (bip39.mnemonicToEntropy text).isSome }

def zeroPhrase : JsString := joinWords zeroWords

/-- The phrase in capitals, with more white space. -/
def capitalPhrase : JsString :=
  js "  ABANDON\tABANDON Abandon abandon abandon abandon " ++
    js "abandon abandon abandon abandon abandon  about\n"

/-- The phrase with its first letter in full width. -/
def widePhrase : JsString := 0xFF41 :: zeroPhrase.tail

theorem spellingPlatform_lawful : spellingPlatform.Lawful :=
  (platform_lawful []).of_ciphers rfl rfl rfl rfl

theorem spellingPlatform_lowerCaseStable :
    spellingPlatform.LowerCaseStable :=
  platform_lowerCaseStable []

private theorem narrowUnit_plain {unit : UInt16}
    (ascii : (narrowUnit unit).toNat < 0x80) :
    isSurrogate unit = false := by
  unfold narrowUnit at ascii
  split at ascii
  · rename_i wide
    simp only [isSurrogate, Bool.and_eq_false_iff, decide_eq_false_iff_not]
    omega
  · simp only [isSurrogate, Bool.and_eq_false_iff, decide_eq_false_iff_not]
    omega

theorem spellingPlatform_wellFormedMnemonics :
    spellingPlatform.WellFormedMnemonics := by
  intro text valid
  have listed : splitSpaces (text.map narrowUnit) = zeroWords := by
    have read : ((bip39.mnemonicToEntropy text).isSome) = true := valid
    by_contra unlisted
    simp [Bip39.mnemonicToEntropy, bip39, unlisted] at read
  have narrowed : text.map narrowUnit = zeroPhrase := by
    rw [zeroPhrase, ← listed]
    exact (List.intercalate_splitOn spaceUnit).symm
  have small : (zeroPhrase.all fun unit => decide (unit.toNat < 0x80)) =
      true := by decide +kernel
  apply Utf16.exists_chars_of_plain
  intro unit member
  have image : narrowUnit unit ∈ zeroPhrase := by
    rw [← narrowed]
    exact List.mem_map_of_mem member
  exact narrowUnit_plain
    (of_decide_eq_true (List.all_eq_true.mp small _ image))

theorem spelling_valid : ∀ phrase ∈ [zeroPhrase, capitalPhrase, widePhrase],
    validateRecoveryPhraseFormat spellingPlatform phrase = true := by
  decide +kernel

theorem spelling_entropy : ∀ phrase ∈ [zeroPhrase, capitalPhrase, widePhrase],
    bip39.mnemonicToEntropy
      (normalizeRecoveryPhrase spellingPlatform phrase) =
        some (List.replicate 16 0) := by
  decide +kernel

end Reference

/-- Capitals and white space make no difference. -/
theorem recovery_spellings_agree_iff_capitals :
    SpellingsAgree Reference.spellingPlatform Reference.zeroPhrase
      Reference.capitalPhrase := by
  apply (recovery_spellings_agree_iff Reference.spellingPlatform_lawful
    Reference.spellingPlatform_lowerCaseStable
    Reference.spellingPlatform_wellFormedMnemonics
    (Reference.spelling_valid _ (by simp))
    (Reference.spelling_valid _ (by simp)) ?_).mpr
  · decide +kernel
  · intro salt params _
    decide +kernel

/-- A full-width letter passes validation with the same entropy, and derives
other keys. -/
theorem wide_letter_derives_other_keys :
    validateRecoveryPhraseFormat Reference.spellingPlatform
        Reference.zeroPhrase = true ∧
      validateRecoveryPhraseFormat Reference.spellingPlatform
        Reference.widePhrase = true ∧
      Reference.bip39.mnemonicToEntropy
          (normalizeRecoveryPhrase Reference.spellingPlatform
            Reference.zeroPhrase) =
        Reference.bip39.mnemonicToEntropy
          (normalizeRecoveryPhrase Reference.spellingPlatform
            Reference.widePhrase) ∧
      ¬ ∀ metadata,
        deriveRecoveryPhraseKeyFromMetadata Reference.spellingPlatform
            Reference.zeroPhrase metadata =
          deriveRecoveryPhraseKeyFromMetadata Reference.spellingPlatform
            Reference.widePhrase metadata := by
  refine ⟨Reference.spelling_valid _ (by simp),
    Reference.spelling_valid _ (by simp), ?_, ?_⟩
  · rw [Reference.spelling_entropy _ (by simp),
      Reference.spelling_entropy _ (by simp)]
  · intro derives
    have same := normalized_of_derives
      Reference.spellingPlatform_lowerCaseStable
      Reference.spellingPlatform_wellFormedMnemonics
      (Reference.spelling_valid _ (by simp))
      (Reference.spelling_valid _ (by simp)) ?_ derives
    · exact absurd same (by decide +kernel)
    · have different : Reference.derive (stringToBytes
          (normalizeRecoveryPhrase Reference.spellingPlatform
            Reference.zeroPhrase)) ≠
          Reference.derive (stringToBytes
            (normalizeRecoveryPhrase Reference.spellingPlatform
              Reference.widePhrase)) := by decide +kernel
      intro salt params hashed
      exact absurd hashed different

end VaultCore
