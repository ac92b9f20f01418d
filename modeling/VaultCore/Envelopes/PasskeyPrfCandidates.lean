import VaultCore.Envelopes.PasskeyPrf

/-!
# Passkey envelope candidates

A verified credential may own several envelopes.  All of them are validated
before the first is tried; then they are tried in order, and only a failure of
the cipher moves on to the next.
-/

namespace VaultCore

def maxPasskeyPrfEnvelopeCandidates : Nat := 5

/-- Why the candidates are refused before any is tried. -/
inductive PasskeyPrfEnvelopeCandidateMalformedReason where
  | candidateLimitExceeded
  | invalidCandidate
  | duplicateVariantId
  | credentialMismatch
  | scopeMismatch
deriving DecidableEq

/-- What ends the search other than a mismatch. -/
inductive CryptoFailureReason where
  | cryptoUnavailable
  | unexpectedCryptoError
deriving DecidableEq

inductive UnlockPasskeyPrfEnvelopeCandidatesResult where
  | matched (envelopeVariantId : JsString) (vaultKey : CryptoKey)
  | noMatch (attemptedCandidateCount : Nat)
  | prfUnavailable
  | malformedCandidate (reason : PasskeyPrfEnvelopeCandidateMalformedReason)
      (candidateIndex : Option Nat)
  | cryptoFailure (reason : CryptoFailureReason) (candidateIndex : Option Nat)
deriving DecidableEq

/-- A candidate as the caller received it: not even a record of the right
shape, or a record still to be checked. -/
abbrev UnknownCandidate := Option VaultPasskeyEnvelopeVariant

/-- The errors of the cipher, after which the next candidate is tried. -/
def isCandidateCryptoMismatch : VaultError → Bool
  | .domException name => name == "OperationError" || name == "DataError"
  | _ => false

section

variable (platform : Platform)

/-- Both encoded fields decode within their bounds. -/
def fieldsDecode (payload : EncryptedVaultPayload) : Bool :=
  match decodeBoundedBase64Url payload.iv maxVaultIvBytes,
      decodeBoundedBase64Url payload.ciphertext maxVaultCiphertextBytes with
  | .ok _, .ok _ => true
  | _, _ => false

/-- The checks of one candidate, in the order of the loop body. -/
def checkCandidate (verifiedCredentialId : JsString)
    (expectedScope : VaultScope) (profile : VaultCryptoProfile)
    (variantIds : List JsString) (unknown : UnknownCandidate) :
    Except PasskeyPrfEnvelopeCandidateMalformedReason
      VaultPasskeyEnvelopeVariant :=
  match unknown.bind (vaultPasskeyEnvelopeVariantSchema platform) with
  | none => .error .invalidCandidate
  | some candidate =>
      let aad := candidate.envelope.encryptedVaultKey.aad
      if variantIds.contains candidate.envelopeVariantId then
        .error .duplicateVariantId
      else if candidate.credentialId ≠ verifiedCredentialId then
        .error .credentialMismatch
      else if aad.userId ≠ expectedScope.userId ∨
          aad.resourceId ≠ expectedScope.resourceId ∨
          aad.field ≠ .vaultKey ∨
          isVaultKeyAadContextAllowed aad.context profile = false then
        .error .scopeMismatch
      else if !fieldsDecode candidate.envelope.encryptedVaultKey then
        .error .invalidCandidate
      else .ok candidate

/-- Every candidate is checked before any is tried. -/
def parseCandidates (verifiedCredentialId : JsString)
    (expectedScope : VaultScope) (profile : VaultCryptoProfile) :
    List UnknownCandidate → Nat → List JsString →
      Except (PasskeyPrfEnvelopeCandidateMalformedReason × Nat)
        (List VaultPasskeyEnvelopeVariant)
  | [], _, _ => .ok []
  | unknown :: rest, index, variantIds =>
      match checkCandidate platform verifiedCredentialId expectedScope profile
          variantIds unknown with
      | .error reason => .error (reason, index)
      | .ok candidate => do
          let others ← parseCandidates verifiedCredentialId expectedScope
            profile rest (index + 1)
            (candidate.envelopeVariantId :: variantIds)
          return candidate :: others

/-- The loop over the checked candidates. -/
def tryCandidates (prfOutput : Bytes) (expectedScope : VaultScope)
    (profile : VaultCryptoProfile) (candidateCount : Nat) :
    List VaultPasskeyEnvelopeVariant → Nat →
      UnlockPasskeyPrfEnvelopeCandidatesResult
  | [], _ => .noMatch candidateCount
  | candidate :: rest, index =>
      match unwrapVaultKeyFromPasskey platform
          candidate.envelope.encryptedVaultKey prfOutput expectedScope profile
          false with
      | .ok vaultKey => .matched candidate.envelopeVariantId vaultKey
      | .error error =>
          if isCandidateCryptoMismatch error then
            tryCandidates prfOutput expectedScope profile candidateCount rest
              (index + 1)
          else
            .cryptoFailure
              (match error with
                | .typeError _ => .cryptoUnavailable
                | _ => .unexpectedCryptoError)
              (some index)

/-- The checks, and the search for a candidate that opens. -/
def unlockWithPasskeyPrfEnvelopeCandidates (verifiedCredentialId : JsString)
    (candidates : List UnknownCandidate) (prfOutput : Option Bytes)
    (expectedScope : VaultScope) (profile : VaultCryptoProfile) :
    UnlockPasskeyPrfEnvelopeCandidatesResult :=
  match prfOutput with
  | none => .prfUnavailable
  | some output =>
      if output.length < 32 then .prfUnavailable
      else if maxPasskeyPrfEnvelopeCandidates < candidates.length then
        .malformedCandidate .candidateLimitExceeded none
      else
        match parseCandidates platform verifiedCredentialId expectedScope
            profile candidates 0 [] with
        | .error (reason, index) => .malformedCandidate reason (some index)
        | .ok parsed =>
            tryCandidates platform output expectedScope profile parsed.length
              parsed 0

end

section

variable {platform : Platform} {verifiedCredentialId : JsString}
  {expectedScope : VaultScope} {profile : VaultCryptoProfile}

/-- An accepted candidate is what the schema made of a given one, under an
identifier that no earlier one has. -/
theorem checkCandidate_ok {variantIds : List JsString}
    {unknown : UnknownCandidate} {candidate : VaultPasskeyEnvelopeVariant}
    (accepted : checkCandidate platform verifiedCredentialId expectedScope
      profile variantIds unknown = .ok candidate) :
    unknown.bind (vaultPasskeyEnvelopeVariantSchema platform) =
        some candidate ∧
      candidate.envelopeVariantId ∉ variantIds := by
  unfold checkCandidate at accepted
  split at accepted
  · cases accepted
  · rename_i parsed schema
    simp only at accepted
    split_ifs at accepted with duplicate
    cases accepted
    refine ⟨schema, ?_⟩
    intro member
    exact duplicate (List.contains_iff_mem.mpr member)

/-- Accepted candidates are what the schema made of the given ones, one by
one, and have identifiers of their own. -/
theorem parseCandidates_ok {candidates : List UnknownCandidate} {index : Nat}
    {variantIds : List JsString} {parsed : List VaultPasskeyEnvelopeVariant}
    (accepted : parseCandidates platform verifiedCredentialId expectedScope
      profile candidates index variantIds = .ok parsed) :
    candidates.map (·.bind (vaultPasskeyEnvelopeVariantSchema platform)) =
        parsed.map some ∧
      (parsed.map (·.envelopeVariantId)).Nodup ∧
      ∀ candidate ∈ parsed, candidate.envelopeVariantId ∉ variantIds := by
  induction candidates generalizing index variantIds parsed with
  | nil =>
      cases accepted
      exact ⟨rfl, List.nodup_nil, by simp⟩
  | cons unknown rest ih =>
      rw [parseCandidates] at accepted
      split at accepted
      · cases accepted
      · rename_i first checked
        obtain ⟨others, later, built⟩ := Outcome.bind_eq_ok_iff.mp accepted
        cases built
        obtain ⟨schema, new⟩ := checkCandidate_ok checked
        obtain ⟨read, distinct, apart⟩ := ih later
        have firstApart : first.envelopeVariantId ∉
            others.map (·.envelopeVariantId) := by
          intro member
          obtain ⟨other, listed, same⟩ := List.mem_map.mp member
          exact apart other listed (by rw [same]; exact List.mem_cons_self)
        refine ⟨?_, List.nodup_cons.mpr ⟨firstApart, distinct⟩, ?_⟩
        · rw [List.map_cons, List.map_cons, schema, read]
        · intro candidate member
          rcases List.mem_cons.mp member with same | deeper
          · rw [same]
            exact new
          · intro earlier
            exact apart candidate deeper (List.mem_cons_of_mem _ earlier)

theorem tryCandidates_matched {prfOutput : Bytes} {count index : Nat}
    {parsed : List VaultPasskeyEnvelopeVariant} {identifier : JsString}
    {key : CryptoKey}
    (found : tryCandidates platform prfOutput expectedScope profile count
      parsed index = .matched identifier key) :
    ∃ candidate ∈ parsed, candidate.envelopeVariantId = identifier ∧
      unwrapVaultKeyFromPasskey platform
        candidate.envelope.encryptedVaultKey prfOutput expectedScope profile
        false = .ok key := by
  induction parsed generalizing index with
  | nil => cases found
  | cons candidate rest ih =>
      rw [tryCandidates] at found
      split at found
      · rename_i opened
        cases found
        exact ⟨candidate, List.mem_cons_self, rfl, opened⟩
      · split at found
        · obtain ⟨other, member, same, opened⟩ := ih found
          exact ⟨other, List.mem_cons_of_mem _ member, same, opened⟩
        · cases found

/-- A match names one of the given candidates, all of which the schema reads
and no other of which has its identifier, and the PRF output has opened it. -/
theorem unlockWithPasskeyPrfEnvelopeCandidates_matched
    {candidates : List UnknownCandidate} {prfOutput : Option Bytes}
    {identifier : JsString} {key : CryptoKey}
    (found : unlockWithPasskeyPrfEnvelopeCandidates platform
      verifiedCredentialId candidates prfOutput expectedScope profile =
        .matched identifier key) :
    ∃ output, prfOutput = some output ∧
      ∃ candidate : VaultPasskeyEnvelopeVariant,
        candidate.envelopeVariantId = identifier ∧
        (∃ unknown ∈ candidates,
          unknown.bind (vaultPasskeyEnvelopeVariantSchema platform) =
            some candidate) ∧
        (∀ unknown ∈ candidates, ∃ read,
          unknown.bind (vaultPasskeyEnvelopeVariantSchema platform) =
              some read ∧
            (read.envelopeVariantId = identifier → read = candidate)) ∧
        unwrapVaultKeyFromPasskey platform
          candidate.envelope.encryptedVaultKey output expectedScope profile
          false = .ok key := by
  unfold unlockWithPasskeyPrfEnvelopeCandidates at found
  split at found
  · cases found
  · rename_i output
    refine ⟨output, rfl, ?_⟩
    split_ifs at found
    split at found
    · cases found
    · rename_i parsed accepted
      obtain ⟨candidate, member, named, opened⟩ := tryCandidates_matched found
      obtain ⟨read, distinct, -⟩ := parseCandidates_ok accepted
      refine ⟨candidate, named, ?_, ?_, opened⟩
      · have listed : some candidate ∈ candidates.map
            (·.bind (vaultPasskeyEnvelopeVariantSchema platform)) := by
          rw [read]
          exact List.mem_map_of_mem member
        exact List.mem_map.mp listed
      · intro unknown given
        have listed : unknown.bind
            (vaultPasskeyEnvelopeVariantSchema platform) ∈
              parsed.map some := by
          rw [← read]
          exact List.mem_map_of_mem given
        obtain ⟨other, otherMember, schema⟩ := List.mem_map.mp listed
        refine ⟨other, schema.symm, ?_⟩
        intro sameName
        exact List.inj_on_of_nodup_map distinct otherMember member
          (sameName.trans named.symm)

end

end VaultCore
