import VaultCore.Rotation.Rewrap

/-!
# Caching the inner blob of an opened envelope

The cache extracts the blob of an envelope as the envelope is stored.  With
nothing interleaved it succeeds exactly when that extraction does, and the
cached entry then restores the key.
-/

namespace VaultCore

/-- The cached entry refers to a byte array of the session. -/
def SessionState.EntryAllocated (session : SessionState) : Prop :=
  ∀ entry, session.cachedEntry = some entry →
    entry.inner.index < session.buffers.length

/-- The program ends well, and the entry it leaves restores the key. -/
def CachesKey (platform : Platform) (program : SessionAsync Unit)
    (session : SessionState) (key : CryptoKey) : Prop :=
  ∃ finish entry,
    program.runAlone session = (.ok (), finish) ∧
    finish.cachedEntry = some entry ∧
    restoreInnerVaultKey platform (finish.buffer entry.inner)
      entry.wrappingKey false = .ok key

section

variable {platform : Platform} {session : SessionState}
  {operation : Option VaultSessionOperation} {key vaultKey : CryptoKey}
  {keys : DerivedKeys} {inner : Bytes}

theorem buffer_clearCachedEntry {reference : BufferRef}
    (other : ∀ entry, session.cachedEntry = some entry →
      entry.inner.index ≠ reference.index) :
    session.clearCachedEntry.buffer reference = session.buffer reference := by
  unfold SessionState.clearCachedEntry SessionState.buffer
  cases cached : session.cachedEntry with
  | none => rfl
  | some entry =>
      simp only [SessionState.zeroBuffer]
      rw [List.getElem?_modify_ne _ _ (other entry cached)]

theorem assertVaultSessionMutationAllowed_ok
    (allowed : session.mutationAllowed operation = .ok ()) :
    assertVaultSessionMutationAllowed operation session = (.ok (), session) := by
  rw [assertVaultSessionMutationAllowed, allowed]

theorem cacheVaultInnerKeyMaterialFromEnvelopeDecrypt_runAlone
    {reference : BufferRef} {wrappingKey : CryptoKey}
    (allowed : session.mutationAllowed operation = .ok ())
    (matching : assertInnerVaultKeyBlobMatchesVaultKey platform
      (session.buffer reference) vaultKey wrappingKey = .ok ()) :
    (cacheVaultInnerKeyMaterialFromEnvelopeDecrypt platform reference
      wrappingKey vaultKey operation).runAlone session =
        storeCachedEntry reference wrappingKey session := by
  have assertion := assertVaultSessionMutationAllowed_ok allowed
  simp only [cacheVaultInnerKeyMaterialFromEnvelopeDecrypt,
    Async.runAlone_bind, Async.runAlone_tryCatch, Async.runAlone_lift,
    Async.runAlone_awaitOutcome, Sync.bind_apply, Sync.tryCatch, assertion,
    Sync.get_apply, Sync.ofExcept_apply, matching]

theorem storeCachedEntry_apply (reference : BufferRef)
    (wrappingKey : CryptoKey) :
    storeCachedEntry reference wrappingKey session =
      (.ok (), session.clearCachedEntry.mapCore fun core =>
        { core with cachedEntry := some { inner := reference, wrappingKey } }) :=
  rfl

/-- Caching succeeds exactly when the blob is extracted. -/
theorem extractAndCache_iff (crypto : platform.Lawful)
    {stored : EncryptedVaultPayload}
    (allowed : session.mutationAllowed operation = .ok ())
    (allocated : session.EntryAllocated)
    (extractable : Extractable platform stored keys inner key)
    (same : SameVaultKey vaultKey key) :
    CachesKey platform
      (extractAndCache platform stored keys vaultKey operation) session key ↔
      extractInnerVaultKeyBlob platform stored keys.encryptionKey =
        .ok inner := by
  constructor
  · rintro ⟨finish, entry, success, -⟩
    cases extracted : extractInnerVaultKeyBlob platform stored
        keys.encryptionKey with
    | ok other => rw [extractable.only other extracted]
    | error error =>
        simp only [extractAndCache, Async.runAlone_bind,
          Async.runAlone_awaitOutcome, Sync.bind_apply, Sync.ofExcept_apply,
          extracted] at success
        cases success
  · intro extracted
    set grown : SessionState :=
      { session with buffers := session.buffers ++ [inner] } with grown_eq
    set fresh : BufferRef := { index := session.buffers.length } with fresh_eq
    have content : grown.buffer fresh = inner := by
      simp [SessionState.buffer, grown_eq, fresh_eq]
    have matching : assertInnerVaultKeyBlobMatchesVaultKey platform
        (grown.buffer fresh) vaultKey keys.wrappingKey = .ok () := by
      rw [content]
      exact assertInnerVaultKeyBlobMatchesVaultKey_ok crypto
        extractable.restored same.algorithm same.material
    have grownAllowed : grown.mutationAllowed operation = .ok () := allowed
    have cached := cacheVaultInnerKeyMaterialFromEnvelopeDecrypt_runAlone
      grownAllowed matching
    have ran : (extractAndCache platform stored keys vaultKey
        operation).runAlone session =
        storeCachedEntry fresh keys.wrappingKey grown := by
      rw [← cached]
      simp only [extractAndCache, Async.runAlone_bind,
        Async.runAlone_awaitOutcome, Async.runAlone_lift, Async.runAlone_await,
        Sync.bind_apply, Sync.ofExcept_apply, extracted, allocateBuffer,
        Sync.get_apply, Sync.modify_apply, Sync.pure_apply]
      rfl
    rw [storeCachedEntry_apply] at ran
    refine ⟨_, _, ran, rfl, ?_⟩
    have kept : grown.clearCachedEntry.buffer fresh = grown.buffer fresh := by
      apply buffer_clearCachedEntry
      intro entry held
      exact Nat.ne_of_lt (allocated entry held)
    change restoreInnerVaultKey platform (grown.clearCachedEntry.buffer fresh)
      keys.wrappingKey false = .ok key
    rw [kept, content]
    exact extractable.restored

theorem CachesKey.of_runAlone_eq {first second : SessionAsync Unit}
    (same : first.runAlone session = second.runAlone session) :
    CachesKey platform first session key ↔
      CachesKey platform second session key := by
  unfold CachesKey
  rw [same]

theorem cacheVaultInnerKeyMaterialAfterPasswordUnlock_runAlone
    {envelope : PasswordEnvelope} {vaultPassword : JsString}
    (allowed : session.mutationAllowed operation = .ok ())
    (kdf : envelope.kdfMetadata.kdf = argon2idName)
    (derived : deriveVaultPasswordKeyPairFromMetadata platform vaultPassword
      envelope.kdfMetadata = .ok keys) :
    (cacheVaultInnerKeyMaterialAfterPasswordUnlock platform vaultKey envelope
      vaultPassword operation).runAlone session =
        (extractAndCache platform envelope.encryptedVaultKey keys vaultKey
          operation).runAlone session := by
  have assertion := assertVaultSessionMutationAllowed_ok allowed
  have metadata : requireArgon2id envelope.kdfMetadata
      "Vault password envelope requires Argon2id metadata" = .ok () := by
    rw [requireArgon2id, if_neg (not_not.mpr kdf)]
  simp only [cacheVaultInnerKeyMaterialAfterPasswordUnlock,
    Async.runAlone_bind, Async.runAlone_lift, Async.runAlone_awaitOutcome,
    Sync.bind_apply, assertion, Sync.ofExcept_apply, metadata, derived]

theorem cacheVaultInnerKeyMaterialAfterRecoveryUnlock_runAlone
    {envelope : RecoveryPhraseEnvelope} {recoveryPhrase : JsString}
    (allowed : session.mutationAllowed operation = .ok ())
    (kdf : envelope.kdfMetadata.kdf = argon2idName)
    (derived : deriveRecoveryPhraseKeyFromMetadata platform recoveryPhrase
      envelope.kdfMetadata = .ok keys) :
    (cacheVaultInnerKeyMaterialAfterRecoveryUnlock platform vaultKey envelope
      recoveryPhrase operation).runAlone session =
        (extractAndCache platform envelope.encryptedVaultKey keys vaultKey
          operation).runAlone session := by
  have assertion := assertVaultSessionMutationAllowed_ok allowed
  have metadata : requireArgon2id envelope.kdfMetadata
      "Recovery phrase envelope requires Argon2id metadata" = .ok () := by
    rw [requireArgon2id, if_neg (not_not.mpr kdf)]
  simp only [cacheVaultInnerKeyMaterialAfterRecoveryUnlock,
    Async.runAlone_bind, Async.runAlone_lift, Async.runAlone_awaitOutcome,
    Sync.bind_apply, assertion, Sync.ofExcept_apply, metadata, derived]

theorem cacheVaultInnerKeyMaterialFromPasskeyUnlock_runAlone
    {envelope : PasskeyPrfEnvelope} {prfOutput : Bytes}
    (allowed : session.mutationAllowed operation = .ok ())
    (gcm : importPrfAesGcmKey prfOutput = .ok keys.encryptionKey)
    (kw : importPrfAesKwKey prfOutput = .ok keys.wrappingKey) :
    (cacheVaultInnerKeyMaterialFromPasskeyUnlock platform vaultKey envelope
      prfOutput operation).runAlone session =
        (extractAndCache platform envelope.encryptedVaultKey keys vaultKey
          operation).runAlone session := by
  have assertion := assertVaultSessionMutationAllowed_ok allowed
  simp only [cacheVaultInnerKeyMaterialFromPasskeyUnlock,
    cacheVaultInnerKeyMaterialFromPasskeyEnvelope, Async.runAlone_bind,
    Async.runAlone_lift, Async.runAlone_awaitOutcome, Async.runAlone_await,
    Sync.bind_apply, assertion, Sync.ofExcept_apply, gcm, kw]

end

end VaultCore
