import VaultCore.Async.Component
import VaultCore.Crypto.PortableVaultBrokerEnvelope
import VaultCore.Session.InnerKeyCache
import VaultCore.Text.JsonText
import VaultCore.Validation.BrokerSchemas

/-!
# One-use unlock sessions

The page holds the browser session and the private keys of its unlock
sessions.  `unseal` takes the key out of its session before anything else and
derives one shared secret with it; every array it names on the way to the
portable unlock key is zeroed.  The copies that `toBufferSource` makes of them
for the calls of the cryptography are not modelled: nothing zeroes those.  The
trace records what becomes of keys, arrays and receipts, and no code reads it.
-/

namespace VaultCore

structure EcdhPrivateKey where
  secret : Bytes

structure EcdhPublicKey where
  point : Bytes

/-- What the browser generates for a session. -/
structure EcdhKeyPair where
  privateKey : EcdhPrivateKey
  publicKey : EcdhPublicKey

/-- An exported key as the browser writes it. -/
structure JsonWebKey where
  kty : Option JsString
  crv : Option JsString
  x : Option JsString
  y : Option JsString
  d : Option JsString

/-- The platform with SHA-256 and with ECDH over P-256. -/
structure BrokerSessionPlatform extends BrokerPlatform where
  sha256 : Bytes → Bytes32
  exportP256PublicKey : EcdhPublicKey → JsonWebKey
  importP256PublicKey :
    PortableVaultBrokerPublicJwk → Except VaultError EcdhPublicKey
  deriveEcdhBits :
    EcdhPublicKey → EcdhPrivateKey → Except VaultError Bytes32

/-- An unlock session, known by its place among the sessions of the page. -/
structure PortableVaultBrokerUnlockSession where
  index : Nat
deriving DecidableEq

/-- What the trace records. -/
inductive BrokerEvent where
  | taken (session : PortableVaultBrokerUnlockSession)
  | derived (session : PortableVaultBrokerUnlockSession)
  | unsealed (puk : BufferRef)
  | restored (inner : BufferRef)
  | receiptResolved (receipt : JsString)
  | receiptRejected (receipt : JsString)
deriving DecidableEq

/-- The browser session, the private keys by session, and the trace. -/
structure BrokerPage where
  session : SessionState := {}
  privateKeys : List (Option EcdhPrivateKey) := []
  trace : List BrokerEvent := []

abbrev BrokerSync (α : Type) := Sync BrokerPage VaultError α

abbrev BrokerAsync (α : Type) := Async BrokerPage VaultError α

/-- The browser session of the page. -/
def sessionOfPage : Component BrokerPage SessionState :=
  { read := BrokerPage.session
    write := fun session page => { page with session := session }
    read_write := fun _ _ => rfl }

namespace BrokerPage

def buffer (page : BrokerPage) (reference : BufferRef) : Bytes :=
  page.session.buffer reference

/-- `bytes.fill(0)` -/
def zeroBuffer (reference : BufferRef) (page : BrokerPage) : BrokerPage :=
  { page with session := page.session.zeroBuffer reference }

/-- The key of a session, unless it was taken or dropped. -/
def privateKey (page : BrokerPage)
    (session : PortableVaultBrokerUnlockSession) : Option EcdhPrivateKey :=
  (page.privateKeys[session.index]?).join

/-- The page with one more unlock session. -/
def addPrivateKey (key : EcdhPrivateKey) (page : BrokerPage) : BrokerPage :=
  { page with privateKeys := page.privateKeys ++ [some key] }

/-- `privateKey = null` -/
def dropPrivateKey (session : PortableVaultBrokerUnlockSession)
    (page : BrokerPage) : BrokerPage :=
  { page with privateKeys := page.privateKeys.set session.index none }

def record (event : BrokerEvent) (page : BrokerPage) : BrokerPage :=
  { page with trace := page.trace ++ [event] }

end BrokerPage

def pukBytes : Nat := 32

def ecdhSaltBytes : Nat := 32

def aesGcmIvBytes : Nat := 12

def sealedPukBytes : Nat := pukBytes + 16

def recordEvent (event : BrokerEvent) : BrokerSync Unit :=
  Sync.modify (BrokerPage.record event)

def allocatePageBuffer (bytes : Bytes) : BrokerSync BufferRef :=
  (allocateBuffer bytes).within sessionOfPage

/-- Work with an array that is zeroed however the work ends. -/
def withZeroedBuffer {α : Type} (create : BrokerSync BufferRef)
    (work : BufferRef → BrokerAsync α) : BrokerAsync α := do
  let buffer ← Async.lift create
  Async.tryFinally (work buffer) (BrokerPage.zeroBuffer buffer)

/-- A field of the sealed key, decoded into an array. -/
def decodeFieldBuffer (text : JsString) (maxBytes : Nat) :
    BrokerSync BufferRef := do
  let bytes ← Sync.ofExcept (decodeBoundedBase64Url text maxBytes)
  allocatePageBuffer bytes

/-- The key leaves its session before the first await. -/
def takePrivateKey (session : PortableVaultBrokerUnlockSession) :
    BrokerSync EcdhPrivateKey := do
  let page ← Sync.get
  match page.privateKey session with
  | none =>
      Sync.throw
        (.error "Portable broker unlock session has already been consumed")
  | some oneUseKey => do
      Sync.modify fun page =>
        (page.dropPrivateKey session).record (.taken session)
      return oneUseKey

/-- The exported public key has the members of a P-256 key, and no private
one. -/
def assertPublicJwk (value : JsonWebKey) :
    Except VaultError PortableVaultBrokerPublicJwk :=
  match value.kty, value.crv, value.x, value.y, value.d with
  | some kty, some crv, some x, some y, none =>
      if kty == js "EC" && crv == js "P-256" then
        .ok { kty := js "EC", crv := js "P-256", x, y }
      else .error (.error "Ephemeral public key must be a public P-256 JWK")
  | _, _, _, _, _ =>
      .error (.error "Ephemeral public key must be a public P-256 JWK")

/-- `JSON.stringify({ crv, kty, x, y })` -/
def canonicalPublicJwk (jwk : PortableVaultBrokerPublicJwk) : JsString :=
  Utf16.ofChars (JsonText.object
    [(js "crv", .string jwk.crv), (js "kty", .string jwk.kty),
      (js "x", .string jwk.x), (js "y", .string jwk.y)])

/-- What the caller of a new session gets. -/
structure CreatedUnlockSession where
  publicJwk : PortableVaultBrokerPublicJwk
  thumbprint : JsString
  session : PortableVaultBrokerUnlockSession

section

variable (platform : BrokerSessionPlatform)

/-- The digest of the canonical text of a public key. -/
def publicJwkThumbprint (jwk : PortableVaultBrokerPublicJwk) : JsString :=
  bytesToBase64Url
    (platform.sha256 (stringToBytes (canonicalPublicJwk jwk))).val

/-- The session object holds the private key from the end of this call on. -/
def createPortableVaultBrokerUnlockSession (pair : EcdhKeyPair) :
    BrokerAsync CreatedUnlockSession := do
  let generated ← Async.awaitOutcome (.ok pair)
  let exported ← Async.awaitOutcome
    (.ok (platform.exportP256PublicKey generated.publicKey))
  let publicJwk ← Async.lift (Sync.ofExcept (assertPublicJwk exported))
  let thumbprint ← Async.awaitOutcome
    (.ok (publicJwkThumbprint platform publicJwk))
  let page ← Async.lift Sync.get
  Async.lift (Sync.modify (BrokerPage.addPrivateKey generated.privateKey))
  return {
    publicJwk, thumbprint, session := { index := page.privateKeys.length } }

/-- What the seal of a portable unlock key is bound to. -/
def pukSealInfo (context : JsString) : Bytes :=
  stringToBytes (js "vault-broker:puk-seal:v1:" ++ context)

/-- Decrypt the sealed key under the shared secret. -/
def decryptSealedPuk (sharedBits salt iv ciphertext info : BufferRef) :
    BrokerAsync BufferRef := do
  let page ← Async.lift Sync.get
  let keyMaterial ← Async.awaitOutcome (.ok (page.buffer sharedBits))
  let page ← Async.lift Sync.get
  let encryptionKey ← Async.awaitOutcome (.ok
    ({ algorithm := .aesGcm
       material := (platform.hkdfSha256 keyMaterial (page.buffer salt)
         (page.buffer info)).material
       extractable := false } : CryptoKey))
  let page ← Async.lift Sync.get
  let bytes ← Async.awaitOutcome (subtleDecrypt platform.toPlatform
    encryptionKey (page.buffer iv) (page.buffer info)
    (page.buffer ciphertext))
  let plaintext ← Async.lift (allocatePageBuffer bytes)
  Async.lift (recordEvent (.unsealed plaintext))
  if bytes.length ≠ pukBytes then do
    Async.lift (Sync.modify (BrokerPage.zeroBuffer plaintext))
    Async.throw (.error "Broker returned an invalid portable unlock key")
  else return plaintext

/-- One shared secret, and the sealed key opened with what is derived from
it. -/
def unsealPuk (session : PortableVaultBrokerUnlockSession)
    (privateKey : EcdhPrivateKey)
    (sealedPuk : PortableVaultBrokerSealedPuk) : BrokerAsync BufferRef := do
  let brokerPublicKey ← Async.awaitOutcome
    (platform.importP256PublicKey sealedPuk.brokerPublicJwk)
  Async.lift (recordEvent (.derived session))
  let bits ← Async.awaitOutcome
    (platform.deriveEcdhBits brokerPublicKey privateKey)
  withZeroedBuffer (allocatePageBuffer bits.val) fun sharedBits =>
    withZeroedBuffer (decodeFieldBuffer sealedPuk.salt ecdhSaltBytes)
      fun salt =>
    withZeroedBuffer (decodeFieldBuffer sealedPuk.iv aesGcmIvBytes) fun iv =>
    withZeroedBuffer (decodeFieldBuffer sealedPuk.ciphertext sealedPukBytes)
      fun ciphertext => do
    let page ← Async.lift Sync.get
    if (page.buffer salt).length ≠ ecdhSaltBytes ∨
        (page.buffer iv).length ≠ aesGcmIvBytes ∨
        (page.buffer ciphertext).length ≠ sealedPukBytes then
      Async.throw
        (.error "Sealed portable unlock key has invalid field lengths")
    else
      withZeroedBuffer (allocatePageBuffer (pukSealInfo sealedPuk.context))
        (decryptSealedPuk platform sharedBits salt iv ciphertext)

/-- Takes the key out of the session first, so that there is no second time. -/
def PortableVaultBrokerUnlockSession.unseal
    (session : PortableVaultBrokerUnlockSession)
    (sealedPuk : PortableVaultBrokerSealedPuk) : BrokerAsync BufferRef := do
  let oneUseKey ← Async.lift (takePrivateKey session)
  Async.await (unsealPuk platform session oneUseKey sealedPuk)

end

def PortableVaultBrokerUnlockSession.dispose
    (session : PortableVaultBrokerUnlockSession) : BrokerSync Unit :=
  Sync.modify (BrokerPage.dropPrivateKey session)

end VaultCore
