import VaultCore.Text.Utf8
import VaultCore.Errors

/-!
# The platform

The primitives the code takes from the browser and from its dependencies, on
raw bytes and on strings, and the key handles and operations of the Web
Crypto interface over them.  Every key of the package is created with all
usages of its algorithm, so a handle is an algorithm, its key material and
whether that material may be exported.
-/

namespace VaultCore

/-- The lengths of AES keys. -/
def isAesKeyLength (length : Nat) : Bool :=
  length == 16 || length == 24 || length == 32

/-- Bytes that AES accepts as a key. -/
abbrev AesKeyMaterial :=
  { bytes : Bytes // isAesKeyLength bytes.length = true }

abbrev Bytes32 := { bytes : Bytes // bytes.length = 32 }

/-- Thirty-two bytes as a key. -/
def Bytes32.material (bytes : Bytes32) : AesKeyMaterial :=
  ⟨bytes.val, by rw [bytes.property]; rfl⟩

/-- The cost parameters as the metadata has them. -/
structure Argon2idParams where
  memory : ℚ
  iterations : ℚ
  parallelism : ℚ

/-- The primitives of the browser and of the libraries. -/
structure Platform where
  aesGcmSeal : AesKeyMaterial → Bytes → Bytes → Bytes → Bytes
  aesGcmOpen : AesKeyMaterial → Bytes → Bytes → Bytes → Option Bytes
  aesKwWrap : AesKeyMaterial → Bytes → Bytes
  aesKwUnwrap : AesKeyMaterial → Bytes → Option Bytes
  argon2id : Bytes → Bytes → Argon2idParams → Bytes32
  normalizeNfkc : JsString → JsString
  toLowerCase : JsString → JsString
  validateMnemonic : JsString → Bool
  generateMnemonic : Nat → Bytes → JsString
  isUuid : JsString → Bool

/-- Decryption undoes encryption and unwrapping undoes wrapping, with the
lengths of AES-GCM with a full tag and of AES-KW. -/
structure Platform.Lawful (platform : Platform) : Prop where
  open_seal : ∀ key iv aad plaintext,
    platform.aesGcmOpen key iv aad
      (platform.aesGcmSeal key iv aad plaintext) = some plaintext
  length_seal : ∀ key iv aad plaintext,
    (platform.aesGcmSeal key iv aad plaintext).length =
      plaintext.length + 16
  unwrap_wrap : ∀ key material,
    platform.aesKwUnwrap key (platform.aesKwWrap key material) =
      some material
  length_wrap : ∀ key material,
    (platform.aesKwWrap key material).length = material.length + 8
  length_unwrap : ∀ key wrapped material,
    platform.aesKwUnwrap key wrapped = some material →
      wrapped.length = material.length + 8

/-- The laws are about the ciphers only. -/
theorem Platform.Lawful.of_ciphers {platform other : Platform}
    (crypto : platform.Lawful)
    (sealing : other.aesGcmSeal = platform.aesGcmSeal)
    (opening : other.aesGcmOpen = platform.aesGcmOpen)
    (wrapping : other.aesKwWrap = platform.aesKwWrap)
    (unwrapping : other.aesKwUnwrap = platform.aesKwUnwrap) :
    other.Lawful := by
  obtain ⟨open_seal, length_seal, unwrap_wrap, length_wrap, length_unwrap⟩ :=
    crypto
  constructor
  · rw [sealing, opening]
    exact open_seal
  · rw [sealing]
    exact length_seal
  · rw [wrapping, unwrapping]
    exact unwrap_wrap
  · rw [wrapping]
    exact length_wrap
  · rw [unwrapping]
    exact length_unwrap

/-- What a key may be used for. -/
inductive KeyAlgorithm where
  | aesGcm
  | aesKw
deriving DecidableEq

/-- A key of the browser, with its bytes. -/
structure CryptoKey where
  algorithm : KeyAlgorithm
  material : AesKeyMaterial
  extractable : Bool
deriving DecidableEq

/-- `crypto.subtle.importKey("raw", ..)` -/
def importKey (algorithm : KeyAlgorithm) (raw : Bytes)
    (extractable : Bool) : Except VaultError CryptoKey :=
  if valid : isAesKeyLength raw.length = true then
    .ok { algorithm, material := ⟨raw, valid⟩, extractable }
  else .error (.domException "DataError")

/-- `crypto.subtle.exportKey("raw", ..)` -/
def exportKey (key : CryptoKey) : Except VaultError Bytes :=
  if key.extractable then .ok key.material.val
  else .error (.domException "InvalidAccessError")

section Subtle

variable (platform : Platform)

/-- `crypto.subtle.encrypt` -/
def subtleEncrypt (key : CryptoKey) (iv aad plaintext : Bytes) :
    Except VaultError Bytes :=
  match key.algorithm with
  | .aesGcm => .ok (platform.aesGcmSeal key.material iv aad plaintext)
  | .aesKw => .error (.domException "InvalidAccessError")

/-- `crypto.subtle.decrypt` -/
def subtleDecrypt (key : CryptoKey) (iv aad ciphertext : Bytes) :
    Except VaultError Bytes :=
  match key.algorithm with
  | .aesKw => .error (.domException "InvalidAccessError")
  | .aesGcm =>
      match platform.aesGcmOpen key.material iv aad ciphertext with
      | some plaintext => .ok plaintext
      | none => .error (.domException "OperationError")

/-- `crypto.subtle.wrapKey` -/
def subtleWrapKey (key wrappingKey : CryptoKey) : Except VaultError Bytes :=
  match wrappingKey.algorithm with
  | .aesGcm => .error (.domException "InvalidAccessError")
  | .aesKw =>
      if key.extractable then
        .ok (platform.aesKwWrap wrappingKey.material key.material.val)
      else .error (.domException "InvalidAccessError")

/-- `crypto.subtle.unwrapKey` -/
def subtleUnwrapKey (wrapped : Bytes) (unwrappingKey : CryptoKey)
    (extractable : Bool) : Except VaultError CryptoKey :=
  match unwrappingKey.algorithm with
  | .aesGcm => .error (.domException "InvalidAccessError")
  | .aesKw =>
      match platform.aesKwUnwrap unwrappingKey.material wrapped with
      | some raw => importKey .aesGcm raw extractable
      | none => .error (.domException "OperationError")

end Subtle

@[simp] theorem importKey_material (algorithm : KeyAlgorithm)
    (material : AesKeyMaterial) (extractable : Bool) :
    importKey algorithm material.val extractable =
      .ok { algorithm, material, extractable } := by
  simp [importKey, material.property]

theorem importKey_ok {algorithm : KeyAlgorithm} {raw : Bytes}
    {extractable : Bool} {key : CryptoKey}
    (imported : importKey algorithm raw extractable = .ok key) :
    key.material.val = raw ∧ key.algorithm = algorithm ∧
      key.extractable = extractable := by
  unfold importKey at imported
  split at imported
  · cases imported
    exact ⟨rfl, rfl, rfl⟩
  · cases imported

theorem subtleUnwrapKey_ok {platform : Platform} {wrapped : Bytes}
    {unwrappingKey key : CryptoKey} {extractable : Bool}
    (unwrapped : subtleUnwrapKey platform wrapped unwrappingKey extractable =
      .ok key) :
    unwrappingKey.algorithm = .aesKw ∧
      platform.aesKwUnwrap unwrappingKey.material wrapped =
        some key.material.val ∧
      key.algorithm = .aesGcm ∧ key.extractable = extractable := by
  unfold subtleUnwrapKey at unwrapped
  split at unwrapped
  · cases unwrapped
  · rename_i algorithm
    split at unwrapped
    · rename_i raw opened
      obtain ⟨material, gcm, exportable⟩ := importKey_ok unwrapped
      exact ⟨algorithm, by rw [opened, material], gcm, exportable⟩
    · cases unwrapped

end VaultCore
