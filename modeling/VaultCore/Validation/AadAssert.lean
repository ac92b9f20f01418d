import VaultCore.Crypto.AesGcm

/-!
# Scope assertions

Both assertions compare the stored record with the expected scope, the field
of their purpose and the profile's context for it, in this order.
-/

namespace VaultCore

/-- The messages of one assertion. -/
structure AadMismatchMessages where
  userId : String
  resourceId : String
  field : String
  context : String

/-- Compare the associated data with what is expected, member by member. -/
def assertAad (messages : AadMismatchMessages) (scope : VaultScope)
    (field : VaultAadField) (context : JsString) (aad : VaultAad) :
    Except VaultError Unit :=
  if aad.userId ≠ scope.userId then .error (.error messages.userId)
  else if aad.resourceId ≠ scope.resourceId then
    .error (.error messages.resourceId)
  else if aad.field ≠ field then .error (.error messages.field)
  else if aad.context ≠ .text context then .error (.error messages.context)
  else .ok ()

def vaultKeyMismatch : AadMismatchMessages :=
  { userId := "Vault key AAD userId mismatch"
    resourceId := "Vault key AAD resourceId mismatch"
    field := "Vault key AAD field mismatch"
    context := "Vault key AAD context mismatch" }

def vaultPayloadMismatch : AadMismatchMessages :=
  { userId := "Vault payload AAD userId mismatch"
    resourceId := "Vault payload AAD resourceId mismatch"
    field := "Vault payload AAD field mismatch"
    context := "Vault payload AAD context mismatch" }

/-- The associated data of a key envelope is that of the scope. -/
def assertVaultKeyAad (expectedScope : VaultScope)
    (payload : EncryptedVaultPayload) (profile : VaultCryptoProfile) :
    Except VaultError Unit :=
  assertAad vaultKeyMismatch expectedScope .vaultKey
    profile.aadContextEnvelope payload.aad

/-- The associated data of a payload is that of the scope. -/
def assertVaultPayloadAad (expectedScope : VaultScope)
    (payload : EncryptedVaultPayload) (profile : VaultCryptoProfile) :
    Except VaultError Unit :=
  assertAad vaultPayloadMismatch expectedScope .vaultPayload
    profile.aadContextVault payload.aad

theorem assertAad_ok_iff {messages : AadMismatchMessages}
    {scope : VaultScope} {field : VaultAadField} {context : JsString}
    {aad : VaultAad} :
    assertAad messages scope field context aad = .ok () ↔
      aad.scope = (scope.userId, scope.resourceId, field, .text context) := by
  simp only [VaultAad.scope, Prod.mk.injEq, assertAad]
  constructor
  · intro accepted
    split_ifs at accepted with user resource sameField sameContext
    exact ⟨not_not.mp user, not_not.mp resource, not_not.mp sameField,
      not_not.mp sameContext⟩
  · rintro ⟨user, resource, sameField, sameContext⟩
    simp [user, resource, sameField, sameContext]

end VaultCore
