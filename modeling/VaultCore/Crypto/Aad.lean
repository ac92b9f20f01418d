import VaultCore.Crypto.Encoding
import VaultCore.Text.JsonText
import Mathlib.Data.List.Perm.Basic

/-!
# Additional authenticated data

The authenticated record is serialized with its keys in one canonical order.
Decryption also accepts the two other orders that older releases wrote: the
literal order of the encrypting call and the order in which the record was
stored.  A missing context is not written at all, so it differs from a null
context and from every string.
-/

namespace VaultCore

/-- What a ciphertext is the field of. -/
inductive VaultAadField where
  | vaultKey
  | vaultPayload
  | vaultIndex
deriving DecidableEq

namespace VaultAadField

/-- The field as the record spells it. -/
def name : VaultAadField → JsString
  | .vaultKey => js "vault_key"
  | .vaultPayload => js "vault_payload"
  | .vaultIndex => js "vault_index"

theorem name_injective : Function.Injective name := by
  intro left right
  cases left <;> cases right <;> decide

end VaultAadField

/-- The context of a record: absent, null or a text. -/
inductive AadContext where
  | missing
  | null
  | text (context : JsString)
deriving DecidableEq

/-- The keys of a record. -/
inductive AadKey where
  | userId
  | resourceId
  | field
  | context
deriving DecidableEq

/-- The key as the record spells it. -/
def AadKey.name : AadKey → JsString
  | .userId => js "userId"
  | .resourceId => js "resourceId"
  | .field => js "field"
  | .context => js "context"

/-- The order in which the keys of a record were written. -/
structure AadOrder where
  keys : List AadKey
  complete : keys.Perm [.userId, .resourceId, .field, .context]
deriving DecidableEq

namespace AadOrder

/-- The order of an object literal that names the context last. -/
def literal : AadOrder :=
  { keys := [.userId, .resourceId, .field, .context]
    complete := List.Perm.refl _ }

/-- The order of the alphabet. -/
def canonical : AadOrder :=
  { keys := [.context, .field, .resourceId, .userId]
    complete := by decide }

/-- Removing the context and writing it again puts it last. -/
def contextLast (order : AadOrder) : AadOrder :=
  { keys := order.keys.erase AadKey.context ++ [AadKey.context]
    complete := by
      have member : AadKey.context ∈ order.keys :=
        order.complete.mem_iff.mpr (by decide)
      have rotated : (order.keys.erase AadKey.context ++ [AadKey.context]).Perm
          (AadKey.context :: order.keys.erase AadKey.context) :=
        List.perm_append_singleton _ _
      exact (rotated.trans (List.perm_cons_erase member).symm).trans
        order.complete }

theorem mem_keys (order : AadOrder) (key : AadKey) : key ∈ order.keys := by
  apply order.complete.mem_iff.mpr
  cases key <;> decide

end AadOrder

/-- A record of associated data, with the order in which its keys were
written. -/
structure VaultAad where
  userId : JsString
  resourceId : JsString
  field : VaultAadField
  context : AadContext
  order : AadOrder
deriving DecidableEq

namespace VaultAad

/-- What the record authenticates, whatever the order of its keys. -/
def scope (aad : VaultAad) :
    JsString × JsString × VaultAadField × AadContext :=
  (aad.userId, aad.resourceId, aad.field, aad.context)

/-- The value written under a key; a missing value is not written. -/
def value (aad : VaultAad) : AadKey → Option JsonText.Scalar
  | .userId => some (.string aad.userId)
  | .resourceId => some (.string aad.resourceId)
  | .field => some (.string aad.field.name)
  | .context =>
      match aad.context with
      | .missing => none
      | .null => some .null
      | .text context => some (.string context)

/-- The members of a record in an order, without those that are absent. -/
def entries (order : AadOrder) (aad : VaultAad) :
    List (JsString × JsonText.Scalar) :=
  order.keys.filterMap fun key => (aad.value key).map (key.name, ·)

/-- `JSON.stringify` of the record with its keys in the given order. -/
def stringify (order : AadOrder) (aad : VaultAad) : JsString :=
  Utf16.ofChars (JsonText.object (entries order aad))

end VaultAad

/-- The text that ciphertexts are sealed with. -/
def canonicalAadString (aad : VaultAad) : JsString :=
  aad.stringify .canonical

/-- The texts that a stored ciphertext may have been sealed with, without
repetitions. -/
def aadByteCandidates (aad : VaultAad) : List Bytes :=
  ([canonicalAadString aad, aad.stringify .literal,
    aad.stringify aad.order].eraseDups).map stringToBytes

theorem AadKey.name_injective : Function.Injective AadKey.name := by
  intro left right
  cases left <;> cases right <;> decide

theorem mem_aadByteCandidates_iff {aad : VaultAad} {bytes : Bytes} :
    bytes ∈ aadByteCandidates aad ↔
      bytes = stringToBytes (canonicalAadString aad) ∨
        bytes = stringToBytes (aad.stringify .literal) ∨
          bytes = stringToBytes (aad.stringify aad.order) := by
  simp only [aadByteCandidates, List.mem_map, List.mem_eraseDups,
    List.mem_cons, List.not_mem_nil, or_false]
  constructor
  · rintro ⟨text, rfl | rfl | rfl, rfl⟩
    · exact .inl rfl
    · exact .inr (.inl rfl)
    · exact .inr (.inr rfl)
  · rintro (rfl | rfl | rfl)
    · exact ⟨_, .inl rfl, rfl⟩
    · exact ⟨_, .inr (.inl rfl), rfl⟩
    · exact ⟨_, .inr (.inr rfl), rfl⟩

theorem canonical_mem_aadByteCandidates (aad : VaultAad) :
    stringToBytes (canonicalAadString aad) ∈ aadByteCandidates aad :=
  mem_aadByteCandidates_iff.mpr (.inl rfl)

theorem VaultAad.stringify_congr {left right : VaultAad}
    (same : left.scope = right.scope) (order : AadOrder) :
    left.stringify order = right.stringify order := by
  simp only [VaultAad.scope, Prod.mk.injEq] at same
  obtain ⟨user, resource, field, context⟩ := same
  have value : left.value = right.value := by
    funext key
    cases key <;> simp only [VaultAad.value, user, resource, field, context]
  simp only [VaultAad.stringify, VaultAad.entries, value]

/-- The canonical serialization does not depend on the stored order. -/
theorem canonicalAadString_eq_of_scope {left right : VaultAad}
    (same : left.scope = right.scope) :
    canonicalAadString left = canonicalAadString right :=
  VaultAad.stringify_congr same .canonical

theorem exists_order_of_mem_candidates {aad : VaultAad} {bytes : Bytes}
    (member : bytes ∈ aadByteCandidates aad) :
    ∃ order, bytes = stringToBytes (aad.stringify order) := by
  rcases mem_aadByteCandidates_iff.mp member with same | same | same
  · exact ⟨.canonical, same⟩
  · exact ⟨.literal, same⟩
  · exact ⟨aad.order, same⟩

private theorem mem_entries_iff {order : AadOrder} {aad : VaultAad}
    {key : AadKey} {written : JsonText.Scalar} :
    (key.name, written) ∈ aad.entries order ↔
      aad.value key = some written := by
  simp only [VaultAad.entries, List.mem_filterMap, Option.map_eq_some_iff,
    Prod.mk.injEq]
  constructor
  · rintro ⟨other, -, found, value, sameName, rfl⟩
    rw [← AadKey.name_injective sameName]
    exact value
  · intro value
    exact ⟨key, order.mem_keys key, written, value, rfl, rfl⟩

private theorem value_eq_of_stringify_eq {left right : VaultAad}
    {leftOrder rightOrder : AadOrder}
    (equal : stringToBytes (left.stringify leftOrder) =
      stringToBytes (right.stringify rightOrder)) (key : AadKey) :
    left.value key = right.value key := by
  have sameText := Utf8.encode_ofChars_injective equal
  have sameEntries := JsonText.object_injective sameText
  apply Option.ext
  intro written
  rw [← @mem_entries_iff leftOrder, sameEntries, mem_entries_iff]

/-- Serializations of two records, whatever the orders of their keys, agree
only when the records authenticate the same scope. -/
theorem scope_eq_of_stringify_eq {left right : VaultAad}
    {leftOrder rightOrder : AadOrder}
    (equal : stringToBytes (left.stringify leftOrder) =
      stringToBytes (right.stringify rightOrder)) :
    left.scope = right.scope := by
  have sameUser := value_eq_of_stringify_eq equal .userId
  have sameResource := value_eq_of_stringify_eq equal .resourceId
  have sameField := value_eq_of_stringify_eq equal .field
  have sameContext := value_eq_of_stringify_eq equal .context
  simp only [VaultAad.value, Option.some.injEq,
    JsonText.Scalar.string.injEq] at sameUser sameResource sameField
  have field := VaultAadField.name_injective sameField
  have context : left.context = right.context := by
    unfold VaultAad.value at sameContext
    cases leftContext : left.context <;> cases rightContext : right.context <;>
      simp_all
  simp only [VaultAad.scope, sameUser, sameResource, field, context]

/-- Two records that share a candidate byte string authenticate the same
scope. -/
theorem scope_eq_of_shared_candidate {left right : VaultAad} {bytes : Bytes}
    (leftMember : bytes ∈ aadByteCandidates left)
    (rightMember : bytes ∈ aadByteCandidates right) :
    left.scope = right.scope := by
  obtain ⟨leftOrder, leftBytes⟩ := exists_order_of_mem_candidates leftMember
  obtain ⟨rightOrder, rightBytes⟩ :=
    exists_order_of_mem_candidates rightMember
  exact scope_eq_of_stringify_eq (leftBytes.symm.trans rightBytes)

end VaultCore
