import VaultCore.Async.Component
import VaultCore.Crypto.PortableVaultBrokerEnvelope
import VaultCore.Session.Calls

/-!
# Creating envelopes from the inner key cache

The session key cannot be exported, so new envelopes re-wrap the cached inner
material.  A portable unlock key is an array of the page that its call alone
can reach until the package is returned; every rejection zeroes it.
-/

namespace VaultCore

/-- An array that one call has allocated and no other code refers to. -/
structure OwnArray where
  index : Nat
deriving DecidableEq

/-- The session, and the arrays that the creating calls made. -/
structure CreationPage where
  session : SessionState := {}
  arrays : List Bytes := []

/-- Code that runs without awaiting on such a page. -/
abbrev CreationSync (α : Type) := Sync CreationPage VaultError α

/-- Code that may await on such a page. -/
abbrev CreationAsync (α : Type) := Async CreationPage VaultError α

/-- The browser session of the page. -/
def sessionOfCreation : Component CreationPage SessionState :=
  { read := CreationPage.session
    write := fun session page => { page with session := session }
    read_write := fun _ _ => rfl }

/-- The content of an array after `bytes.fill(0)`. -/
def zeroFilled (bytes : Bytes) : Bytes := List.replicate bytes.length 0

namespace CreationPage

def array (page : CreationPage) (reference : OwnArray) : Bytes :=
  (page.arrays[reference.index]?).getD []

/-- `bytes.fill(0)` -/
def zeroArray (reference : OwnArray) (page : CreationPage) : CreationPage :=
  { page with arrays := page.arrays.modify reference.index zeroFilled }

def assertMutationAllowed (operation : Option VaultSessionOperation) :
    CreationSync Unit :=
  (assertVaultSessionMutationAllowed operation).within sessionOfCreation

end CreationPage

/-- Make an array with the given bytes. -/
def allocateArray (bytes : Bytes) : CreationSync OwnArray := do
  let page ← Sync.get
  Sync.modify fun page => { page with arrays := page.arrays ++ [bytes] }
  return { index := page.arrays.length }

/-- The error that a failure with cached material is reported as. -/
def cachedMaterialError : VaultError → VaultError
  | .vaultAuthorizationError _ =>
      .vaultAuthorizationError innerVaultKeyCacheMismatchMessage
  | error => error

/-- How both functions give up on the cached material. -/
def rejectCachedMaterial {α : Type} (operation : Option VaultSessionOperation)
    (error : VaultError) : SessionAsync α := do
  Async.lift (assertVaultSessionMutationAllowed operation)
  Async.lift (clearVaultInnerKeyMaterialCache operation)
  Async.throw (cachedMaterialError error)

/-- The arguments of a passkey enrolment, and the IV drawn for it. -/
structure PasskeyPrfEnvelopeInput where
  vaultKey : CryptoKey
  prfOutput : Bytes
  scope : VaultScope
  profile : VaultCryptoProfile
  innerVaultKeyBlob : Option Bytes := none
  operation : Option VaultSessionOperation
  iv : Iv

/-- The arguments of a broker enrolment, and the bytes drawn for it. -/
structure BrokerEnrollmentInput where
  vaultKey : CryptoKey
  opaqueScope : VaultScope
  profile : VaultCryptoProfile
  operation : Option VaultSessionOperation
  randomBytes : Bytes32
  iv : Iv

structure PortableVaultBrokerEnrollmentPackage where
  puk : OwnArray
  encryptedVaultKey : EncryptedVaultPayload

/-- Zero the unlock key of the package. -/
def PortableVaultBrokerEnrollmentPackage.dispose
    (package : PortableVaultBrokerEnrollmentPackage) : CreationSync Unit :=
  Sync.modify (CreationPage.zeroArray package.puk)

/-- An array with a new portable unlock key. -/
def generatePortableVaultUnlockKey (randomBytes : Bytes32) :
    CreationSync OwnArray :=
  allocateArray randomBytes.val

section

variable (platform : Platform)

/-- The branch for a cache entry: the material is read when the wrapping key
has been imported. -/
def createPasskeyPrfEnvelopeFromCachedMaterial
    (input : PasskeyPrfEnvelopeInput)
    (cached : VaultInnerKeyMaterialCacheEntry) :
    SessionAsync PasskeyPrfEnvelope :=
  Async.tryCatch
    (do
      let prfWrappingKey ← Async.awaitOutcome
        (importPrfAesKwKey input.prfOutput)
      let state ← Async.lift Sync.get
      let rewrappedInner ← Async.awaitOutcome
        (rewrapInnerVaultKeyMaterialForWrappingKeys platform
          (state.buffer cached.inner) cached.wrappingKey prfWrappingKey
          input.vaultKey)
      Async.lift (assertVaultSessionMutationAllowed input.operation)
      let envelope ← Async.awaitOutcome (createPasskeyPrfEnvelope platform
        input.iv input.vaultKey input.prfOutput input.scope input.profile
        (some rewrappedInner))
      Async.lift (assertVaultSessionMutationAllowed input.operation)
      return envelope)
    (rejectCachedMaterial input.operation)

/-- A passkey envelope made with the given inner blob, else with the cached
one. -/
def createPasskeyPrfEnvelopeWithSessionCache
    (input : PasskeyPrfEnvelopeInput) : SessionAsync PasskeyPrfEnvelope := do
  Async.lift (assertVaultSessionMutationAllowed input.operation)
  match input.innerVaultKeyBlob with
  | some inner => do
      let envelope ← Async.awaitOutcome (createPasskeyPrfEnvelope platform
        input.iv input.vaultKey input.prfOutput input.scope input.profile
        (some inner))
      Async.lift (assertVaultSessionMutationAllowed input.operation)
      return envelope
  | none => do
      let cached ← Async.lift (getCachedVaultInnerKeyMaterial input.operation)
      match cached with
      | some entry =>
          createPasskeyPrfEnvelopeFromCachedMaterial platform input entry
      | none => do
          let resolved ← Async.await (resolveInnerVaultKeyBlobForWrap
            platform input.vaultKey none input.operation)
          Async.lift (assertVaultSessionMutationAllowed input.operation)
          let state ← Async.lift Sync.get
          let envelope ← Async.awaitOutcome (createPasskeyPrfEnvelope platform
            input.iv input.vaultKey input.prfOutput input.scope input.profile
            (resolved.map state.buffer))
          Async.lift (assertVaultSessionMutationAllowed input.operation)
          return envelope

end

section

variable (platform : BrokerPlatform)

/-- A package with a new unlock key, which a failure zeroes. -/
def createPortableVaultBrokerEnrollmentPackage
    (input : BrokerEnrollmentInput) :
    CreationAsync PortableVaultBrokerEnrollmentPackage := do
  let puk ← Async.lift (generatePortableVaultUnlockKey input.randomBytes)
  Async.tryCatch
    (do
      let page ← Async.lift Sync.get
      let encryptedVaultKey ← Async.awaitOutcome
        (createPortableVaultBrokerEncryptedVaultKey platform input.iv
          input.vaultKey (page.array puk) input.opaqueScope input.profile none)
      return { puk, encryptedVaultKey })
    (fun error => do
      Async.lift (Sync.modify (CreationPage.zeroArray puk))
      Async.throw error)

/-- The re-wrapped material is an array of its own, zeroed in the end. -/
def createPortableVaultBrokerEncryptedVaultKeyFromCachedMaterial
    (input : BrokerEnrollmentInput) (puk : OwnArray)
    (cached : VaultInnerKeyMaterialCacheEntry) :
    CreationAsync EncryptedVaultPayload := do
  let page ← Async.lift Sync.get
  let derivedKeys ← Async.awaitOutcome
    (derivePortableVaultKeys platform (page.array puk))
  let page ← Async.lift Sync.get
  let bytes ← Async.awaitOutcome
    (rewrapInnerVaultKeyMaterialForWrappingKeys platform.toPlatform
      (page.session.buffer cached.inner) cached.wrappingKey
      derivedKeys.wrappingKey input.vaultKey)
  let rewrappedInner ← Async.lift (allocateArray bytes)
  Async.tryFinally
    (do
      let page ← Async.lift Sync.get
      Async.awaitOutcome (wrapUserVaultKeyWithDerivedKeys platform.toPlatform
        input.iv input.vaultKey derivedKeys input.opaqueScope input.profile
        (some (page.array rewrappedInner))))
    (CreationPage.zeroArray rewrappedInner)

/-- The same with the inner blob of the cache. -/
def createPortableVaultBrokerEnrollmentPackageWithSessionCache
    (input : BrokerEnrollmentInput) :
    CreationAsync PortableVaultBrokerEnrollmentPackage := do
  Async.lift (CreationPage.assertMutationAllowed input.operation)
  let cached ← Async.lift
    ((getCachedVaultInnerKeyMaterial input.operation).within
      sessionOfCreation)
  match cached with
  | none => do
      let enrollment ← Async.await
        (createPortableVaultBrokerEnrollmentPackage platform input)
      Async.tryCatch
        (do
          Async.lift (CreationPage.assertMutationAllowed input.operation)
          return enrollment)
        (fun error => do
          Async.lift enrollment.dispose
          Async.throw error)
  | some entry => do
      let puk ← Async.lift (generatePortableVaultUnlockKey input.randomBytes)
      Async.tryCatch
        (do
          let encryptedVaultKey ← Async.await
            (createPortableVaultBrokerEncryptedVaultKeyFromCachedMaterial
              platform input puk entry)
          Async.lift (CreationPage.assertMutationAllowed input.operation)
          return { puk, encryptedVaultKey })
        (fun error => do
          Async.lift (Sync.modify (CreationPage.zeroArray puk))
          (rejectCachedMaterial input.operation error).within
            sessionOfCreation)

end

/-- A call that creates an envelope of the session key. -/
inductive EnvelopeCreation where
  | passkeyPrf (input : PasskeyPrfEnvelopeInput)
  | brokerEnrollment (input : BrokerEnrollmentInput)

namespace EnvelopeCreation

def vaultKey : EnvelopeCreation → CryptoKey
  | .passkeyPrf input => input.vaultKey
  | .brokerEnrollment input => input.vaultKey

/-- The token the call was given. -/
def operation : EnvelopeCreation → Option VaultSessionOperation
  | .passkeyPrf input => input.operation
  | .brokerEnrollment input => input.operation

end EnvelopeCreation

/-- What a page can call: the session in every way, and the creation of
envelopes. -/
inductive CreationCall where
  | session (call : SessionCall)
  | create (creation : EnvelopeCreation)

inductive CreationValue where
  | session (value : SessionValue)
  | passkeyPrfEnvelope (envelope : PasskeyPrfEnvelope)
  | enrollmentPackage (package : PortableVaultBrokerEnrollmentPackage)

/-- What can happen next to the page. -/
abbrev CreationStep := PoolEvent CreationCall SessionEvent

section

variable (platform : BrokerPlatform)

def EnvelopeCreation.program : EnvelopeCreation → CreationAsync CreationValue
  | .passkeyPrf input => do
      let envelope ← (createPasskeyPrfEnvelopeWithSessionCache
        platform.toPlatform input).within sessionOfCreation
      return .passkeyPrfEnvelope envelope
  | .brokerEnrollment input => do
      let package ← createPortableVaultBrokerEnrollmentPackageWithSessionCache
        platform input
      return .enrollmentPackage package

def creationProgram : CreationCall → CreationAsync CreationValue
  | .session call => do
      let value ← (sessionProgram platform.toPlatform call).within
        sessionOfCreation
      return .session value
  | .create creation => creation.program platform

/-- The session together with the creating calls. -/
def creationMachine :
    Machine CreationCall SessionEvent CreationPage VaultError CreationValue :=
  { program := creationProgram platform
    environment := fun event page =>
      { page with session := sessionEnvironment event page.session } }

end

end VaultCore
