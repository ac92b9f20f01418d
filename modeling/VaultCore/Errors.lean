import VaultCore.Text.Utf16
import Mathlib.Data.Rat.Defs

/-!
# Errors

The error classes the modelled code throws, each with its message.  A DOM
exception is known by its name only: its message is left to the platform.
-/

namespace VaultCore

inductive VaultSessionOperationCancellationReason where
  | missingOperation
  | staleOperation
deriving DecidableEq

/-- Why a credential is out of scope. -/
inductive PasskeyCredentialScopeFailureCode where
  | invalidCredentialId
  | conflictingCredentialSelection
  | discoverableCredentialsNotAllowed
  | invalidCredentialDescriptor
  | duplicateCredentialDescriptor
  | credentialNotFound
deriving DecidableEq

/-- What the vault throws, and what the platform throws in it. -/
inductive VaultError where
  | error (message : String)
  | typeError (message : String)
  | syntaxError
  | domException (name : String)
  | zodError
  | vaultAuthorizationError (message : String)
  | vaultPasswordUnchangedError (message : String)
  | vaultRateLimitError (message : String) (retryAfterMs resetAtMs : ℚ)
  | vaultKeyNotExtractableError (message : String)
  | vaultPayloadSizeError (message : String)
  | vaultPayloadValidationError (message : String)
  | vaultPlaintextRejectionError (message : JsString)
  | vaultEmergencyDecryptError (message : String)
  | duressPasswordMissingSequenceError (message : String)
  | passkeyPrfRequiredError (message : String)
  | passkeyUnlockError (message : String)
  | passkeyCredentialScopeError (code : PasskeyCredentialScopeFailureCode)
      (message : String) (descriptorIndex : Option Nat)
  | recoveryPhraseConfirmationError (message : String)
  | vaultSessionOperationCancelledError
      (reason : VaultSessionOperationCancellationReason)
deriving DecidableEq

namespace VaultError

/-- `error instanceof VaultRateLimitError` -/
def isVaultRateLimitError : VaultError → Bool
  | .vaultRateLimitError _ _ _ => true
  | _ => false

end VaultError

namespace VaultSessionOperationCancellationReason

def message : VaultSessionOperationCancellationReason → String
  | .missingOperation =>
      "A current vault session operation is required for this mutation."
  | .staleOperation =>
      "This vault session operation was cancelled by a newer operation or lock."

end VaultSessionOperationCancellationReason

end VaultCore
