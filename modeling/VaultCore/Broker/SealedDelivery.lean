import VaultCore.Async.Alone
import VaultCore.Broker.UnlockResponse

/-!
# Delivering a portable unlock key

The browser serializes its enrolment for the broker.  The broker seals the
unlock key to the public key of one unlock session, and that session alone
opens it again.
-/

namespace VaultCore

/-- What the page sends to the broker when it enrolls. -/
structure PortableVaultBrokerEnrollmentRequest where
  puk : JsString
  encryptedVaultKey : EncryptedVaultPayload

/-- A private key with its public key and the text of that key. -/
structure BrokerSessionPlatform.Generates (platform : BrokerSessionPlatform)
    (pair : EcdhKeyPair) (jwk : PortableVaultBrokerPublicJwk) : Prop where
  exported : platform.exportP256PublicKey pair.publicKey =
    { kty := some jwk.kty, crv := some jwk.crv, x := some jwk.x
      y := some jwk.y, d := none }
  accepted : portableVaultBrokerPublicJwkSchema jwk = some jwk
  imported : platform.importP256PublicKey jwk = .ok pair.publicKey

/-- Both sides of an exchange derive the same bits. -/
structure BrokerSessionPlatform.Agrees (platform : BrokerSessionPlatform)
    (browser broker : EcdhKeyPair) (bits : Bytes32) : Prop where
  derived : platform.deriveEcdhBits broker.publicKey browser.privateKey =
    .ok bits
  sealing : platform.deriveEcdhBits browser.publicKey broker.privateKey =
    .ok bits

section Operations

variable (platform : BrokerSessionPlatform)

def portableVaultBrokerEnrollmentRequestSchema
    (request : PortableVaultBrokerEnrollmentRequest) :
    Option PortableVaultBrokerEnrollmentRequest :=
  if textWithin request.puk 43 43 then do
    let encryptedVaultKey ← encryptedPayloadSchema platform.toPlatform
      request.encryptedVaultKey
    return { request with encryptedVaultKey := encryptedVaultKey }
  else none

/-- The request with the key as a text. -/
def serializePortableVaultBrokerEnrollmentPackage (puk : Bytes)
    (encryptedVaultKey : EncryptedVaultPayload) :
    Except VaultError PortableVaultBrokerEnrollmentRequest :=
  if puk.length ≠ pukBytes then
    .error (.error "Portable unlock key must be exactly 32 bytes")
  else
    match portableVaultBrokerEnrollmentRequestSchema platform
      { puk := bytesToBase64Url puk, encryptedVaultKey } with
    | some request => .ok request
    | none => .error .zodError

def isPortableVaultBrokerUnlockResponse
    (response : Option PortableVaultBrokerUnlockResponse) : Bool :=
  (response.bind (portableVaultBrokerUnlockResponseSchema
    platform.toPlatform)).isSome

/-- The key that both sides of an exchange make of their bits. -/
def pukSealKey (bits : Bytes32) (salt info : Bytes) : CryptoKey :=
  { algorithm := .aesGcm
    material := (platform.hkdfSha256 bits.val salt info).material
    extractable := false }

/-- What the broker does for an unlock grant: seal the key to the public key
of the session. -/
def sealForBrowser (broker : EcdhKeyPair) (salt : Bytes32) (iv : Iv)
    (puk : Bytes) (publicJwk : PortableVaultBrokerPublicJwk)
    (context : JsString) : Except VaultError PortableVaultBrokerSealedPuk := do
  let recipient ← platform.importP256PublicKey publicJwk
  let bits ← platform.deriveEcdhBits recipient broker.privateKey
  let info := pukSealInfo context
  let ciphertext ← subtleEncrypt platform.toPlatform
    (pukSealKey platform bits salt.val info) iv.val info puk
  let exported := platform.exportP256PublicKey broker.publicKey
  return {
    version := js "v1"
    algorithm := js "ECDH-P256-HKDF-SHA256-A256GCM"
    -- An exported public key has both coordinates.
    brokerPublicJwk :=
      { kty := js "EC"
        crv := js "P-256"
        x := exported.x.getD []
        y := exported.y.getD [] }
    salt := bytesToBase64Url salt.val
    iv := bytesToBase64Url iv.val
    ciphertext := bytesToBase64Url ciphertext
    context }

end Operations

section Texts

variable {platform : BrokerSessionPlatform} {puk : Bytes}
  {payload : EncryptedVaultPayload} {jwk : PortableVaultBrokerPublicJwk}

theorem portableVaultBrokerPublicJwkSchema_eq_some
    (accepted : portableVaultBrokerPublicJwkSchema jwk = some jwk) :
    jwk.kty = js "EC" ∧ jwk.crv = js "P-256" := by
  unfold portableVaultBrokerPublicJwkSchema at accepted
  split at accepted
  · rename_i valid
    simp only [Bool.and_eq_true, beq_iff_eq] at valid
    exact ⟨valid.1.1.1, valid.1.1.2⟩
  · cases accepted

theorem assertPublicJwk_exported {pair : EcdhKeyPair}
    (generates : platform.Generates pair jwk) :
    assertPublicJwk (platform.exportP256PublicKey pair.publicKey) =
      .ok jwk := by
  obtain ⟨kty, crv⟩ :=
    portableVaultBrokerPublicJwkSchema_eq_some generates.accepted
  rw [generates.exported, assertPublicJwk]
  simp only [kty, crv, beq_self_eq_true, Bool.and_self, if_true]
  rw [← kty, ← crv]

theorem length_base64Url_puk (full : puk.length = pukBytes) :
    (bytesToBase64Url puk).length = 43 := by
  rw [length_bytesToBase64Url, full]
  rfl

/-- A request carries the key and the envelope of its package. -/
theorem serializePortableVaultBrokerEnrollmentPackage_ok_iff
    {request : PortableVaultBrokerEnrollmentRequest} :
    serializePortableVaultBrokerEnrollmentPackage platform puk payload =
        .ok request ↔
      puk.length = pukBytes ∧ request.puk = bytesToBase64Url puk ∧
        encryptedPayloadSchema platform.toPlatform payload =
          some request.encryptedVaultKey := by
  unfold serializePortableVaultBrokerEnrollmentPackage
  by_cases full : puk.length = pukBytes
  · have sized : textWithin (bytesToBase64Url puk) 43 43 = true := by
      rw [textWithin, length_base64Url_puk full]
      rfl
    rw [if_neg (not_not.mpr full)]
    simp only [portableVaultBrokerEnrollmentRequestSchema, sized, if_true]
    cases parsed : encryptedPayloadSchema platform.toPlatform payload with
    | none =>
        constructor
        · intro impossible
          cases impossible
        · rintro ⟨-, -, impossible⟩
          cases impossible
    | some written =>
        constructor
        · intro serialized
          cases serialized
          exact ⟨full, rfl, rfl⟩
        · rintro ⟨-, same, found⟩
          cases request
          cases found
          cases same
          rfl
  · rw [if_pos full]
    constructor
    · intro impossible
      cases impossible
    · rintro ⟨exact, -⟩
      exact absurd exact full

end Texts

section Sealing

variable {platform : BrokerSessionPlatform} {browser broker : EcdhKeyPair}
  {jwk brokerJwk : PortableVaultBrokerPublicJwk} {bits salt : Bytes32}
  {iv : Iv} {puk : Bytes} {context : JsString}

/-- A sealed key with the given ciphertext. -/
def sealedPukWith (brokerPublicJwk : PortableVaultBrokerPublicJwk)
    (salt : Bytes32) (iv : Iv) (ciphertext : Bytes) (context : JsString) :
    PortableVaultBrokerSealedPuk :=
  { version := js "v1"
    algorithm := js "ECDH-P256-HKDF-SHA256-A256GCM"
    brokerPublicJwk
    salt := bytesToBase64Url salt.val
    iv := bytesToBase64Url iv.val
    ciphertext := bytesToBase64Url ciphertext
    context }

theorem sealForBrowser_eq (generates : platform.Generates browser jwk)
    (brokerGenerates : platform.Generates broker brokerJwk)
    (agrees : platform.Agrees browser broker bits) :
    sealForBrowser platform broker salt iv puk jwk context =
      .ok (sealedPukWith brokerJwk salt iv
        (platform.aesGcmSeal (pukSealKey platform bits salt.val
          (pukSealInfo context)).material iv.val (pukSealInfo context) puk)
        context) := by
  obtain ⟨kty, crv⟩ :=
    portableVaultBrokerPublicJwkSchema_eq_some brokerGenerates.accepted
  have sent : brokerJwk =
      { kty := js "EC", crv := js "P-256", x := brokerJwk.x
        y := brokerJwk.y } := by
    rw [← kty, ← crv]
  rw [sent]
  simp only [sealForBrowser, generates.imported, agrees.sealing,
    brokerGenerates.exported, Outcome.ok_bind, subtleEncrypt, pukSealKey,
    sealedPukWith, Option.getD_some]
  rfl

/-- What the broker sends passes the schema of the browser. -/
theorem portableVaultBrokerSealedPukSchema_sealed
    (crypto : platform.toPlatform.Lawful) {key : AesKeyMaterial}
    {aad : Bytes} (brokerGenerates : platform.Generates broker brokerJwk)
    (full : puk.length = pukBytes) (short : textWithin context 1 4096 = true) :
    portableVaultBrokerSealedPukSchema (sealedPukWith brokerJwk salt iv
        (platform.aesGcmSeal key iv.val aad puk) context) =
      some (sealedPukWith brokerJwk salt iv
        (platform.aesGcmSeal key iv.val aad puk) context) := by
  have saltText : textWithin (bytesToBase64Url salt.val) 1 128 = true := by
    rw [textWithin, length_bytesToBase64Url, salt.property]
    rfl
  have ivText : textWithin (bytesToBase64Url iv.val) 1 128 = true := by
    rw [textWithin, length_bytesToBase64Url, iv.property]
    rfl
  have ciphertext : textWithin (bytesToBase64Url
      (platform.aesGcmSeal key iv.val aad puk)) 1 128 = true := by
    rw [textWithin, length_bytesToBase64Url, crypto.length_seal, full]
    rfl
  simp only [portableVaultBrokerSealedPukSchema, sealedPukWith,
    beq_self_eq_true, saltText, ivText, ciphertext, short, Bool.and_self,
    if_true, brokerGenerates.accepted]
  rfl

end Sealing

end VaultCore
