import VaultCore.Validation.Schemas

/-!
# Broker response schemas

What a portable unlock accepts from the broker.  Every schema is strict; a
value with a missing, mistyped or additional key is not a record of these
types at all.
-/

namespace VaultCore

structure PortableVaultBrokerPublicJwk where
  kty : JsString
  crv : JsString
  x : JsString
  y : JsString

/-- A portable unlock key sealed for a page. -/
structure PortableVaultBrokerSealedPuk where
  version : JsString
  algorithm : JsString
  brokerPublicJwk : PortableVaultBrokerPublicJwk
  salt : JsString
  iv : JsString
  ciphertext : JsString
  context : JsString

structure PortableVaultBrokerUnlockResponse where
  encryptedVaultKey : EncryptedVaultPayload
  sealedPuk : PortableVaultBrokerSealedPuk
  requestId : JsString
  completionReceipt : JsString

def portableVaultBrokerPublicJwkSchema (jwk : PortableVaultBrokerPublicJwk) :
    Option PortableVaultBrokerPublicJwk :=
  if jwk.kty == js "EC" && jwk.crv == js "P-256" &&
      textWithin jwk.x 1 128 && textWithin jwk.y 1 128 then some jwk
  else none

def portableVaultBrokerSealedPukSchema
    (sealedPuk : PortableVaultBrokerSealedPuk) :
    Option PortableVaultBrokerSealedPuk :=
  if sealedPuk.version == js "v1" &&
      sealedPuk.algorithm == js "ECDH-P256-HKDF-SHA256-A256GCM" &&
      textWithin sealedPuk.salt 1 128 && textWithin sealedPuk.iv 1 128 &&
      textWithin sealedPuk.ciphertext 1 128 &&
      textWithin sealedPuk.context 1 4096 then do
    let brokerPublicJwk ← portableVaultBrokerPublicJwkSchema
      sealedPuk.brokerPublicJwk
    return { sealedPuk with brokerPublicJwk := brokerPublicJwk }
  else none

def portableVaultBrokerUnlockResponseSchema (platform : Platform)
    (response : PortableVaultBrokerUnlockResponse) :
    Option PortableVaultBrokerUnlockResponse :=
  if platform.isUuid response.requestId &&
      textWithin response.completionReceipt 1 16384 then do
    let encryptedVaultKey ← encryptedPayloadSchema platform
      response.encryptedVaultKey
    let sealedPuk ← portableVaultBrokerSealedPukSchema response.sealedPuk
    return {
      response with
      encryptedVaultKey := encryptedVaultKey
      sealedPuk := sealedPuk }
  else none

end VaultCore
