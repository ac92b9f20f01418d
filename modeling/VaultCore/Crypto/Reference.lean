import VaultCore.Crypto.Platform

/-!
# A reference platform

A platform that satisfies the laws, so that they are not contradictory.  The
cipher adds a tag to the plaintext: sealings listed in the ledger get a tag of
their own and therefore open under nothing else, which is how an ideal cipher
treats every sealing.  Key derivation pads or cuts its password to the length
of a key.
-/

namespace VaultCore

/-- One sealing of an authenticated cipher. -/
structure Sealing where
  key : AesKeyMaterial
  iv : Bytes
  aad : Bytes
  plaintext : Bytes
deriving DecidableEq

namespace Reference

def tag (ledger : List Sealing) (sealing : Sealing) : Bytes :=
  List.replicate 16 (if sealing ∈ ledger then 1 else 0)

def sealed (ledger : List Sealing) (sealing : Sealing) : Bytes :=
  sealing.plaintext ++ tag ledger sealing

def openSealed (ledger : List Sealing) (key : AesKeyMaterial)
    (iv aad ciphertext : Bytes) : Option Bytes :=
  let plaintext := ciphertext.take (ciphertext.length - 16)
  if ciphertext = sealed ledger { key, iv, aad, plaintext } then some plaintext
  else none

def wrap (material : Bytes) : Bytes := material ++ List.replicate 8 0

def unwrap (wrapped : Bytes) : Option Bytes :=
  let material := wrapped.take (wrapped.length - 8)
  if wrapped = wrap material then some material else none

def derive (password : Bytes) : Bytes32 :=
  ⟨(password ++ List.replicate 32 0).take 32, by simp⟩

def lowerUnit (unit : UInt16) : UInt16 :=
  if 65 ≤ unit.toNat ∧ unit.toNat ≤ 90 then unit + 32 else unit

/-- The phrase of the given strength that repeats one word. -/
def phrase (strength : Nat) : JsString :=
  ((List.replicate (strength * 3 / 32) (js "abandon")).intersperse
    (js " ")).flatten

def platform (ledger : List Sealing) : Platform :=
  { aesGcmSeal := fun key iv aad plaintext =>
      sealed ledger { key, iv, aad, plaintext }
    aesGcmOpen := openSealed ledger
    aesKwWrap := fun _ material => wrap material
    aesKwUnwrap := fun _ wrapped => unwrap wrapped
    argon2id := fun password _ _ => derive password
    normalizeNfkc := id
    toLowerCase := List.map lowerUnit
    validateMnemonic := fun text => text == phrase 128 || text == phrase 256
    generateMnemonic := fun strength _ => phrase strength
    isUuid := fun _ => true }

theorem length_tag (ledger : List Sealing) (sealing : Sealing) :
    (tag ledger sealing).length = 16 :=
  List.length_replicate

theorem openSealed_eq_some_iff {ledger : List Sealing} {key : AesKeyMaterial}
    {iv aad ciphertext plaintext : Bytes} :
    openSealed ledger key iv aad ciphertext = some plaintext ↔
      ciphertext = sealed ledger { key, iv, aad, plaintext } := by
  unfold openSealed
  constructor
  · intro opened
    simp only at opened
    split at opened
    · rename_i same
      cases opened
      exact same
    · cases opened
  · intro same
    have length : ciphertext.length - 16 = plaintext.length := by
      rw [same, sealed, List.length_append, length_tag, Nat.add_sub_cancel]
    have body : ciphertext.take (ciphertext.length - 16) = plaintext := by
      rw [length, same]
      exact List.take_left
    simp only [body]
    rw [if_pos same]

theorem open_sealed {ledger : List Sealing} {sealing : Sealing}
    {key : AesKeyMaterial} {iv aad plaintext : Bytes}
    (opened : openSealed ledger key iv aad (sealed ledger sealing) =
      some plaintext) :
    plaintext = sealing.plaintext ∧
      tag ledger { key, iv, aad, plaintext } = tag ledger sealing := by
  have same := openSealed_eq_some_iff.mp opened
  have lengths : sealing.plaintext.length = plaintext.length := by
    have total := congrArg List.length same
    simp only [sealed, List.length_append, length_tag] at total
    omega
  obtain ⟨bodies, tags⟩ := List.append_inj same lengths
  exact ⟨bodies.symm, tags.symm⟩

theorem mem_ledger_of_open {ledger : List Sealing} {sealing : Sealing}
    {key : AesKeyMaterial} {iv aad plaintext : Bytes}
    (listed : sealing ∈ ledger)
    (opened : openSealed ledger key iv aad (sealed ledger sealing) =
      some plaintext) :
    plaintext = sealing.plaintext ∧
      { key, iv, aad, plaintext } ∈ ledger := by
  obtain ⟨body, tags⟩ := open_sealed opened
  refine ⟨body, ?_⟩
  by_contra unlisted
  rw [tag, tag, if_pos listed, if_neg unlisted] at tags
  cases tags

theorem unwrap_eq_some_iff {wrapped material : Bytes} :
    unwrap wrapped = some material ↔ wrapped = wrap material := by
  unfold unwrap
  constructor
  · intro unwrapped
    simp only at unwrapped
    split at unwrapped
    · rename_i same
      cases unwrapped
      exact same
    · cases unwrapped
  · intro same
    have length : wrapped.length - 8 = material.length := by
      rw [same, wrap, List.length_append, List.length_replicate,
        Nat.add_sub_cancel]
    have body : wrapped.take (wrapped.length - 8) = material := by
      rw [length, same]
      exact List.take_left
    simp only [body]
    rw [if_pos same]

theorem platform_lawful (ledger : List Sealing) :
    (platform ledger).Lawful where
  open_seal := by
    intro key iv aad plaintext
    exact openSealed_eq_some_iff.mpr rfl
  length_seal := by
    intro key iv aad plaintext
    simp [platform, sealed, length_tag]
  unwrap_wrap := by
    intro key material
    exact unwrap_eq_some_iff.mpr rfl
  length_wrap := by
    intro key material
    simp [platform, wrap]
  length_unwrap := by
    intro key wrapped material unwrapped
    rw [unwrap_eq_some_iff.mp unwrapped]
    simp [wrap]

def material (byte : UInt8) : AesKeyMaterial :=
  ⟨List.replicate 32 byte, by rw [List.length_replicate]; rfl⟩

/-- The extractable key a vault is created with. -/
def vaultKey : CryptoKey :=
  { algorithm := .aesGcm, material := material 7, extractable := true }

end Reference

end VaultCore
