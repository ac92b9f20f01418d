import VaultCore.Crypto.Aad

/-!
# Profiles and scopes
-/

namespace VaultCore

/-- The contexts of the associated data that an application uses. -/
structure VaultCryptoProfile where
  aadContextVault : JsString
  aadContextEnvelope : JsString
  legacyVaultKeyUnlock : Option Bool := none
  legacyVaultKeyAadContexts : Option (List JsString) := none

/-- The account and the vault a record belongs to. -/
structure VaultScope where
  userId : JsString
  resourceId : JsString
deriving DecidableEq

/-- The scope of one encrypted field, with the order in which the caller
wrote its keys. -/
structure VaultAadScope where
  userId : JsString
  resourceId : JsString
  field : VaultAadField
  context : Option JsString := none
  order : AadOrder := .literal

/-- The scope of one field of a vault. -/
def VaultScope.withField (scope : VaultScope) (field : VaultAadField) :
    VaultAadScope :=
  { userId := scope.userId, resourceId := scope.resourceId, field := field }

/-- The scope's own context, else that of the profile for its field. -/
def resolveAadContext (scope : VaultAadScope) (profile : VaultCryptoProfile) :
    JsString :=
  match scope.context with
  | some context => context
  | none =>
      if scope.field = .vaultKey then profile.aadContextEnvelope
      else profile.aadContextVault

end VaultCore
