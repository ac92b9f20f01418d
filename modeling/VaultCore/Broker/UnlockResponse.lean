import VaultCore.Broker.UnlockSession
import VaultCore.Session.Calls

/-!
# Unlocking with a broker response

The portable unlock on the arrays of the page, and the page as a machine: any
number of unlock sessions and unlocks, interleaved with each other and with
begin, lock and owner changes of the browser session.
-/

namespace VaultCore

/-- What the application hands to an unlock. -/
structure PortableVaultBrokerClientUnlockInput where
  /-- The response, unless it is not even a record of the response type. -/
  response : Option PortableVaultBrokerUnlockResponse
  session : PortableVaultBrokerUnlockSession
  expectedOpaqueScope : VaultScope
  profile : VaultCryptoProfile
  operation : Option VaultSessionOperation
  /-- How the promise of the verifier settles for a receipt. -/
  verifyAndConsumeCompletionReceipt :
    Option (JsString → Except VaultError Unit)

inductive PortableVaultBrokerClientUnlockResult where
  | unlocked (vaultKey : CryptoKey) (requestId completionReceipt : JsString)
  | malformedResponse (error : VaultError)
  | pukUnsealFailed (error : VaultError)
  | completionReceiptRejected (error : VaultError)
  | vaultKeyUnwrapFailed (error : VaultError)

/-- What an unwrap with inner material restores. -/
structure RestoredVaultKey where
  vaultKey : CryptoKey
  innerVaultKeyBlob : BufferRef
  wrappingKey : CryptoKey

namespace BrokerPage

section Envelope

variable (platform : BrokerPlatform)

/-- The vault key with its inner blob, in an array of its own. -/
def unwrapUserVaultKeyWithDerivedKeysAndInnerMaterial
    (encryptedVaultKey : EncryptedVaultPayload) (derivedKeys : DerivedKeys) :
    BrokerAsync (CryptoKey × BufferRef) := do
  let bytes ← Async.awaitOutcome (extractInnerVaultKeyBlob
    platform.toPlatform encryptedVaultKey derivedKeys.encryptionKey)
  let inner ← Async.lift (allocatePageBuffer bytes)
  Async.lift (recordEvent (.restored inner))
  Async.tryCatch
    (do
      let vaultKey ← Async.awaitOutcome (restoreInnerVaultKey
        platform.toPlatform bytes derivedKeys.wrappingKey false)
      return (vaultKey, inner))
    (fun error => do
      Async.lift (Sync.modify (zeroBuffer inner))
      Async.throw error)

/-- The vault key, whose inner blob is zeroed. -/
def unwrapUserVaultKeyWithDerivedKeys
    (encryptedVaultKey : EncryptedVaultPayload) (derivedKeys : DerivedKeys) :
    BrokerAsync CryptoKey := do
  let unwrapped ← Async.await
    (unwrapUserVaultKeyWithDerivedKeysAndInnerMaterial platform
      encryptedVaultKey derivedKeys)
  Async.tryFinally (return unwrapped.1) (zeroBuffer unwrapped.2)

/-- The two keys of the portable unlock key in an array. -/
def derivePortableVaultKeys (puk : BufferRef) : BrokerAsync DerivedKeys := do
  let page ← Async.lift Sync.get
  Async.awaitOutcome
    (VaultCore.derivePortableVaultKeys platform (page.buffer puk))

/-- The strict check of the scope, and the unwrapping with its inner blob. -/
def unlockPortableVaultBrokerEncryptedVaultKeyWithInnerMaterial
    (encryptedVaultKey : EncryptedVaultPayload) (puk : BufferRef)
    (expectedOpaqueScope : VaultScope) (profile : VaultCryptoProfile) :
    BrokerAsync RestoredVaultKey := do
  Async.lift (Sync.ofExcept (assertVaultKeyAad expectedOpaqueScope
    encryptedVaultKey profile))
  let derivedKeys ← Async.await (derivePortableVaultKeys platform puk)
  let unwrapped ← Async.await
    (unwrapUserVaultKeyWithDerivedKeysAndInnerMaterial platform
      encryptedVaultKey derivedKeys)
  return {
    vaultKey := unwrapped.1
    innerVaultKeyBlob := unwrapped.2
    wrappingKey := derivedKeys.wrappingKey }

/-- The strict check of the scope, and the unwrapping. -/
def unlockPortableVaultBrokerEncryptedVaultKey
    (encryptedVaultKey : EncryptedVaultPayload) (puk : BufferRef)
    (expectedOpaqueScope : VaultScope) (profile : VaultCryptoProfile) :
    BrokerAsync CryptoKey := do
  Async.lift (Sync.ofExcept (assertVaultKeyAad expectedOpaqueScope
    encryptedVaultKey profile))
  let derivedKeys ← Async.await (derivePortableVaultKeys platform puk)
  Async.await (unwrapUserVaultKeyWithDerivedKeys platform encryptedVaultKey
    derivedKeys)

end Envelope

/-- `assertVaultSessionMutationAllowed` for the session of the page. -/
def assertMutationAllowed (operation : Option VaultSessionOperation) :
    BrokerSync Unit :=
  (assertVaultSessionMutationAllowed operation).within sessionOfPage

end BrokerPage

/-- An unlock into the session cache needs a verifier of receipts. -/
def requireCompletionReceiptVerifier
    (input : PortableVaultBrokerClientUnlockInput) : Except VaultError Unit :=
  if input.operation.isSome &&
      input.verifyAndConsumeCompletionReceipt.isNone then
    .error (.typeError ("A completion receipt verifier is required when " ++
      "portable unlock populates the session cache."))
  else .ok ()

/-- Calling a verifier that is not there throws. -/
def callVerifier (verify : Option (JsString → Except VaultError Unit))
    (receipt : JsString) : Except VaultError Unit :=
  match verify with
  | some verify => verify receipt
  | none => .error (.typeError
      "input.verifyAndConsumeCompletionReceipt is not a function")

section

variable (platform : BrokerSessionPlatform)

/-- The response as its schema reads it. -/
def parseUnlockResponse
    (response : Option PortableVaultBrokerUnlockResponse) :
    Except VaultError PortableVaultBrokerUnlockResponse :=
  match response.bind (portableVaultBrokerUnlockResponseSchema
    platform.toPlatform) with
  | none => .error .zodError
  | some parsed =>
      match encryptedPayloadSchema platform.toPlatform
        parsed.encryptedVaultKey with
      | none => .error .zodError
      | some _ => .ok parsed

/-- The unlock under a token: the receipt is verified before the inner blob
reaches the cache, and the token is checked once more at the end. -/
def unlockIntoSessionCache (input : PortableVaultBrokerClientUnlockInput)
    (response : PortableVaultBrokerUnlockResponse)
    (operation : VaultSessionOperation) (puk : BufferRef) :
    BrokerAsync PortableVaultBrokerClientUnlockResult := do
  let restored ← Async.await
    (BrokerPage.unlockPortableVaultBrokerEncryptedVaultKeyWithInnerMaterial
      platform.toBrokerPlatform response.encryptedVaultKey puk
      input.expectedOpaqueScope input.profile)
  let verified ← Async.attempt (Async.awaitOutcome
    (callVerifier input.verifyAndConsumeCompletionReceipt
      response.completionReceipt))
  match verified with
  | .error error => do
      Async.lift (recordEvent (.receiptRejected response.completionReceipt))
      Async.lift (Sync.modify
        (BrokerPage.zeroBuffer restored.innerVaultKeyBlob))
      return .completionReceiptRejected error
  | .ok _ => do
      Async.lift (recordEvent (.receiptResolved response.completionReceipt))
      Async.await (Async.within sessionOfPage
        (cacheVaultInnerKeyMaterialFromEnvelopeDecrypt platform.toPlatform
          restored.innerVaultKeyBlob restored.wrappingKey restored.vaultKey
          (some operation)))
      Async.lift (BrokerPage.assertMutationAllowed (some operation))
      return .unlocked restored.vaultKey response.requestId
        response.completionReceipt

/-- The unlock that leaves no inner blob behind. -/
def unlockWithoutSessionCache (input : PortableVaultBrokerClientUnlockInput)
    (response : PortableVaultBrokerUnlockResponse) (puk : BufferRef) :
    BrokerAsync PortableVaultBrokerClientUnlockResult := do
  let vaultKey ← Async.await
    (BrokerPage.unlockPortableVaultBrokerEncryptedVaultKey
      platform.toBrokerPlatform response.encryptedVaultKey puk
      input.expectedOpaqueScope input.profile)
  Async.lift (BrokerPage.assertMutationAllowed none)
  return .unlocked vaultKey response.requestId response.completionReceipt

/-- The part that runs with the unsealed key. -/
def unlockWithPuk (input : PortableVaultBrokerClientUnlockInput)
    (response : PortableVaultBrokerUnlockResponse) (puk : BufferRef) :
    BrokerAsync PortableVaultBrokerClientUnlockResult :=
  Async.tryFinally
    (Async.tryCatch
      (match input.operation with
      | some operation =>
          unlockIntoSessionCache platform input response operation puk
      | none => unlockWithoutSessionCache platform input response puk)
      (fun error => return .vaultKeyUnwrapFailed error))
    (BrokerPage.zeroBuffer puk)

/-- A response is checked, its key is unsealed once, and the unlock goes on
with it. -/
def unlockPortableVaultBrokerResponse
    (input : PortableVaultBrokerClientUnlockInput) :
    BrokerAsync PortableVaultBrokerClientUnlockResult := do
  Async.lift (BrokerPage.assertMutationAllowed input.operation)
  Async.lift (Sync.ofExcept (requireCompletionReceiptVerifier input))
  match parseUnlockResponse platform input.response with
  | .error error => do
      Async.lift input.session.dispose
      return .malformedResponse error
  | .ok response => do
      let unsealed ← Async.attempt (Async.await
        (input.session.unseal platform response.sealedPuk))
      match unsealed with
      | .error error => return .pukUnsealFailed error
      | .ok puk => unlockWithPuk platform input response puk

inductive BrokerCall where
  | createPortableVaultBrokerUnlockSession (pair : EcdhKeyPair)
  | unsealSession (session : PortableVaultBrokerUnlockSession)
      (sealedPuk : PortableVaultBrokerSealedPuk)
  | dispose (session : PortableVaultBrokerUnlockSession)
  | unlockPortableVaultBrokerResponse
      (input : PortableVaultBrokerClientUnlockInput)
  | beginVaultSessionUnlock (ownerId : JsString)
  | lockVaultSession
  | clearVaultSessionOwner

/-- What a call resolves to. -/
inductive BrokerValue where
  | unit
  | unlockSession (created : CreatedUnlockSession)
  | puk (puk : BufferRef)
  | operation (operation : VaultSessionOperation)
  | result (result : PortableVaultBrokerClientUnlockResult)

def brokerProgram : BrokerCall → BrokerAsync BrokerValue
  | .createPortableVaultBrokerUnlockSession pair => do
      let created ← createPortableVaultBrokerUnlockSession platform pair
      return .unlockSession created
  | .unsealSession session sealedPuk => do
      let puk ← session.unseal platform sealedPuk
      return .puk puk
  | .dispose session => do
      Async.lift session.dispose
      return .unit
  | .unlockPortableVaultBrokerResponse input => do
      let result ← unlockPortableVaultBrokerResponse platform input
      return .result result
  | .beginVaultSessionUnlock ownerId => do
      let operation ← Async.lift
        ((beginVaultSessionUnlock ownerId).within sessionOfPage)
      return .operation operation
  | .lockVaultSession => do
      Async.lift (lockVaultSession.within sessionOfPage)
      return .unit
  | .clearVaultSessionOwner => do
      Async.lift (clearVaultSessionOwner.within sessionOfPage)
      return .unit

def brokerEnvironment (event : SessionEvent) (page : BrokerPage) :
    BrokerPage :=
  { page with session := sessionEnvironment event page.session }

/-- The calls of one page, in any interleaving. -/
def brokerMachine :
    Machine BrokerCall SessionEvent BrokerPage VaultError BrokerValue :=
  { program := brokerProgram platform
    environment := brokerEnvironment }

abbrev BrokerStep := PoolEvent BrokerCall SessionEvent

end

end VaultCore
