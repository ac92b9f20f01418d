import VaultCore.Session.AutoLock
import VaultCore.Envelopes.Password
import VaultCore.Envelopes.Recovery
import VaultCore.Envelopes.PasskeyPrf

/-!
# The inner key cache

The inner blob of an opened envelope is kept in memory for later re-wraps.  An
entry is stored only after the blob has been compared with the session key,
and only while the operation that stores it is still allowed to.
-/

namespace VaultCore

def innerVaultKeyCacheMismatchMessage : String :=
  "Cached inner vault key material does not match the current session. " ++
    "Unlock again and retry."

/-- A fresh byte array with the given content. -/
def allocateBuffer (bytes : Bytes) : SessionSync BufferRef := do
  let state ← Sync.get
  Sync.modify fun state => { state with buffers := state.buffers ++ [bytes] }
  return { index := state.buffers.length }

/-- `bytes.fill(0)` -/
def zeroSensitiveBytes (reference : BufferRef) : SessionSync Unit :=
  Sync.modify (SessionState.zeroBuffer reference)

/-- Zero the cached blob and forget it. -/
def clearCachedEntry : SessionSync Unit :=
  Sync.modify SessionState.clearCachedEntry

def clearVaultInnerKeyMaterialCache
    (operation : Option VaultSessionOperation) : SessionSync Unit := do
  assertVaultSessionMutationAllowed operation
  clearCachedEntry

/-- The cached blob with its wrapping key, under a token. -/
def getCachedVaultInnerKeyMaterial
    (operation : Option VaultSessionOperation) :
    SessionSync (Option VaultInnerKeyMaterialCacheEntry) := do
  assertVaultSessionMutationAllowed operation
  let state ← Sync.get
  return state.cachedEntry

/-- Replace the cached entry. -/
def storeCachedEntry (inner : BufferRef) (wrappingKey : CryptoKey) :
    SessionSync Unit := do
  clearCachedEntry
  mutate fun core => { core with cachedEntry := some { inner, wrappingKey } }

section

variable (platform : Platform)

/-- Cache a blob that opens the key of the session. -/
def cacheVaultInnerKeyMaterialFromEnvelopeDecrypt (inner : BufferRef)
    (wrappingKey sessionVaultKey : CryptoKey)
    (operation : Option VaultSessionOperation) : SessionAsync Unit := do
  Async.tryCatch
    (do
      Async.lift (assertVaultSessionMutationAllowed operation)
      let state ← Async.lift Sync.get
      Async.awaitOutcome (assertInnerVaultKeyBlobMatchesVaultKey platform
        (state.buffer inner) sessionVaultKey wrappingKey)
      Async.lift (assertVaultSessionMutationAllowed operation))
    (fun error => do
      Async.lift (zeroSensitiveBytes inner)
      Async.throw error)
  Async.lift (storeCachedEntry inner wrappingKey)

/-- Extract the inner blob of an envelope and cache it. -/
def extractAndCache (encryptedVaultKey : EncryptedVaultPayload)
    (derivedKeys : DerivedKeys) (sessionVaultKey : CryptoKey)
    (operation : Option VaultSessionOperation) : SessionAsync Unit := do
  let bytes ← Async.awaitOutcome (extractInnerVaultKeyBlob platform
    encryptedVaultKey derivedKeys.encryptionKey)
  let inner ← Async.lift (allocateBuffer bytes)
  Async.await (cacheVaultInnerKeyMaterialFromEnvelopeDecrypt platform inner
    derivedKeys.wrappingKey sessionVaultKey operation)

/-- Decrypt the blob of a passkey envelope and cache it. -/
def cacheVaultInnerKeyMaterialFromPasskeyEnvelope
    (encryptedVaultKey : EncryptedVaultPayload) (prfOutput : Bytes)
    (prfEncryptionKey sessionVaultKey : CryptoKey)
    (operation : Option VaultSessionOperation) : SessionAsync Unit := do
  Async.lift (assertVaultSessionMutationAllowed operation)
  let wrappingKey ← Async.awaitOutcome (importPrfAesKwKey prfOutput)
  extractAndCache platform encryptedVaultKey
    { encryptionKey := prfEncryptionKey, wrappingKey } sessionVaultKey
    operation

/-- The blob to wrap with: the given one, else the cached one. -/
def resolveInnerVaultKeyBlobForWrap (sessionVaultKey : CryptoKey)
    (innerVaultKeyBlob : Option BufferRef)
    (operation : Option VaultSessionOperation) :
    SessionAsync (Option BufferRef) :=
  match innerVaultKeyBlob with
  | some inner => pure (some inner)
  | none => do
      let cached ← Async.lift (getCachedVaultInnerKeyMaterial operation)
      match cached with
      | none => pure none
      | some entry =>
          Async.tryCatch
            (do
              let state ← Async.lift Sync.get
              Async.awaitOutcome (assertInnerVaultKeyBlobMatchesVaultKey
                platform (state.buffer entry.inner) sessionVaultKey
                entry.wrappingKey)
              Async.lift (assertVaultSessionMutationAllowed operation)
              pure (some entry.inner))
            (fun _ => do
              Async.lift (assertVaultSessionMutationAllowed operation)
              Async.lift (clearVaultInnerKeyMaterialCache operation)
              Async.throw (.vaultAuthorizationError
                innerVaultKeyCacheMismatchMessage))

/-- The metadata names Argon2id. -/
def requireArgon2id (metadata : Argon2idKdfMetadata) (message : String) :
    Except VaultError Unit :=
  if metadata.kdf ≠ argon2idName then .error (.error message) else .ok ()

/-- Cache the blob of a password envelope. -/
def cacheVaultInnerKeyMaterialAfterPasswordUnlock
    (sessionVaultKey : CryptoKey) (envelope : PasswordEnvelope)
    (vaultPassword : JsString) (operation : Option VaultSessionOperation) :
    SessionAsync Unit := do
  Async.lift (assertVaultSessionMutationAllowed operation)
  Async.lift (Sync.ofExcept (requireArgon2id envelope.kdfMetadata
    "Vault password envelope requires Argon2id metadata"))
  let derivedKeys ← Async.awaitOutcome
    (deriveVaultPasswordKeyPairFromMetadata platform vaultPassword
      envelope.kdfMetadata)
  extractAndCache platform envelope.encryptedVaultKey derivedKeys
    sessionVaultKey operation

/-- Cache the blob of a recovery envelope. -/
def cacheVaultInnerKeyMaterialAfterRecoveryUnlock
    (sessionVaultKey : CryptoKey) (envelope : RecoveryPhraseEnvelope)
    (recoveryPhrase : JsString) (operation : Option VaultSessionOperation) :
    SessionAsync Unit := do
  Async.lift (assertVaultSessionMutationAllowed operation)
  Async.lift (Sync.ofExcept (requireArgon2id envelope.kdfMetadata
    "Recovery phrase envelope requires Argon2id metadata"))
  let derivedKeys ← Async.awaitOutcome
    (deriveRecoveryPhraseKeyFromMetadata platform recoveryPhrase
      envelope.kdfMetadata)
  extractAndCache platform envelope.encryptedVaultKey derivedKeys
    sessionVaultKey operation

/-- Cache the blob of a passkey envelope that was just opened. -/
def cacheVaultInnerKeyMaterialFromPasskeyUnlock
    (sessionVaultKey : CryptoKey) (envelope : PasskeyPrfEnvelope)
    (prfOutput : Bytes) (operation : Option VaultSessionOperation) :
    SessionAsync Unit := do
  Async.lift (assertVaultSessionMutationAllowed operation)
  let prfKey ← Async.awaitOutcome (importPrfAesGcmKey prfOutput)
  Async.await (cacheVaultInnerKeyMaterialFromPasskeyEnvelope platform
    envelope.encryptedVaultKey prfOutput prfKey sessionVaultKey operation)

end

end VaultCore
