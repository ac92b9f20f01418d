import VaultCore.Session.State
import VaultCore.Validation.Schemas

/-!
# Choosing the vault to unlock

A duress signal, a duress sequence inside the password or the emergency mode
itself selects the decoy vault.
-/

namespace VaultCore

/-- Longer passwords are not searched. -/
def maxDuressPasswordLength : Nat := 256

/-- Whether the sequence stands at the head of the text. -/
def matchesAt : List CodePoint → List CodePoint → Bool
  | [], _ => true
  | _ :: _, [] => false
  | expected :: sequence, char :: password =>
      char == expected && matchesAt sequence password

/-- The comparison at every start that leaves room for the sequence. -/
def foundFrom (sequenceChars : List CodePoint) :
    List CodePoint → Nat → Bool
  | _, 0 => false
  | [], _ + 1 => matchesAt sequenceChars []
  | char :: rest, starts + 1 =>
      matchesAt sequenceChars (char :: rest) ||
        foundFrom sequenceChars rest starts

/-- Whether the sequence stands anywhere in the password, by code points. -/
def containsDuressSequence (password sequence : JsString) : Bool :=
  if sequence.length = 0 then false
  else if maxDuressPasswordLength < password.length then false
  else if maxDuressPasswordLength < sequence.length then false
  else if password.length < sequence.length then false
  else
    let passwordChars := Utf16.toCodePoints password
    let sequenceChars := Utf16.toCodePoints sequence
    foundFrom sequenceChars passwordChars
      (passwordChars.length + 1 - sequenceChars.length)

/-- What the target of an unlock depends on. -/
structure ResolveVaultUnlockTargetInput where
  password : Option JsString := none
  duressSequence : Option JsString := none
  duressSignaled : Bool := false
  emergencyModeActive : Bool

/-- The vault an unlock is routed to: its key gets this role. -/
abbrev VaultUnlockTarget := VaultSessionKeyRole

/-- The decoy in emergency mode, under duress or with the sequence in the
password. -/
def resolveVaultUnlockTarget (input : ResolveVaultUnlockTargetInput) :
    VaultUnlockTarget :=
  if input.emergencyModeActive then .decoy
  else if input.duressSignaled then .decoy
  else
    match input.password, input.duressSequence with
    | some password, some sequence =>
        if !sequence.isEmpty && containsDuressSequence password sequence then
          .decoy
        else .primary
    | _, _ => .primary

def resolveSessionEncryptedBlob (mode : VaultSessionMode)
    (primaryBlob : EncryptedVaultPayload)
    (decoyBlob : Option EncryptedVaultPayload) :
    Except VaultError EncryptedVaultPayload :=
  match mode, decoyBlob with
  | .emergency, none => .error (.vaultEmergencyDecryptError
      "Emergency mode is active but no decoy encrypted blob is configured.")
  | .emergency, some blob => .ok blob
  | .normal, _ => .ok primaryBlob

/-- The two blobs are spelled alike. -/
def blobsReferentiallyEqual (a b : EncryptedVaultPayload) : Bool :=
  a.ciphertext == b.ciphertext && a.iv == b.iv && a.version == b.version &&
    a.alg == b.alg

/-- Refuses the primary blob in emergency mode. -/
def assertSessionPayloadDecryptAllowed (mode : VaultSessionMode)
    (targetBlob primaryBlob : EncryptedVaultPayload) :
    Except VaultError Unit :=
  match mode with
  | .normal => .ok ()
  | .emergency =>
      if blobsReferentiallyEqual targetBlob primaryBlob then
        .error (.vaultEmergencyDecryptError
          ("Primary vault payload cannot be decrypted while emergency mode " ++
            "is active."))
      else .ok ()

end VaultCore
