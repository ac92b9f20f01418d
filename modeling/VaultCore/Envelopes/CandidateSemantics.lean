import VaultCore.Envelopes.AadRouting
import VaultCore.Envelopes.PasskeyPrfCandidates

/-!
# Relational specification of the candidate unlock

`CandidateSemantics` says in one place which answer a list of candidates must
get and which candidates are decrypted on the way.  The unlock with its
decryptions recorded is shown to follow it and to leave no other answer.
-/

namespace VaultCore

/-- What a failure is reported as. -/
def CryptoFailureReason.ofError : VaultError → CryptoFailureReason
  | .typeError _ => .cryptoUnavailable
  | _ => .unexpectedCryptoError

namespace Stateful

variable {σ : Type} (unwrapFn :
  EncryptedVaultPayload → Stateful σ VaultError CryptoKey)

/-- The loop of `tryCandidates` for a decryption function with a state. -/
def tryCandidates (candidateCount : Nat) :
    List VaultPasskeyEnvelopeVariant → Nat →
      Stateful σ VaultError UnlockPasskeyPrfEnvelopeCandidatesResult
  | [], _ => pure (.noMatch candidateCount)
  | candidate :: rest, index =>
      tryCatch
        (do
          let vaultKey ← unwrapFn candidate.envelope.encryptedVaultKey
          return .matched candidate.envelopeVariantId vaultKey)
        (fun error =>
          if isCandidateCryptoMismatch error then
            tryCandidates candidateCount rest (index + 1)
          else
            pure (.cryptoFailure (.ofError error) (some index)))

/-- The unlock for decryption functions with a state, one for each PRF
output. -/
def unlockWithPasskeyPrfEnvelopeCandidates (platform : Platform)
    (unwrapFn : Bytes → EncryptedVaultPayload →
      Stateful σ VaultError CryptoKey)
    (verifiedCredentialId : JsString) (candidates : List UnknownCandidate)
    (prfOutput : Option Bytes) (expectedScope : VaultScope)
    (profile : VaultCryptoProfile) :
    Stateful σ VaultError UnlockPasskeyPrfEnvelopeCandidatesResult :=
  match prfOutput with
  | none => pure .prfUnavailable
  | some output =>
      if output.length < 32 then pure .prfUnavailable
      else if maxPasskeyPrfEnvelopeCandidates < candidates.length then
        pure (.malformedCandidate .candidateLimitExceeded none)
      else
        match parseCandidates platform verifiedCredentialId expectedScope
            profile candidates 0 [] with
        | .error (reason, index) =>
            pure (.malformedCandidate reason (some index))
        | .ok parsed =>
            tryCandidates (unwrapFn output) parsed.length parsed 0

end Stateful

abbrev UnwrapCall := RecordedCall EncryptedVaultPayload VaultError CryptoKey

/-- Both encoded fields decode and stay within their bounds. -/
structure FieldsDecode (payload : EncryptedVaultPayload) : Prop where
  iv : ∃ bytes, decodeBoundedBase64Url payload.iv maxVaultIvBytes = .ok bytes
  ciphertext : ∃ bytes, decodeBoundedBase64Url payload.ciphertext
    maxVaultCiphertextBytes = .ok bytes

/-- What an unlock answered and the decryptions it made, in their order. -/
structure CandidateTrace where
  result : UnlockPasskeyPrfEnvelopeCandidatesResult
  calls : List UnwrapCall

section

variable (platform : Platform) (verifiedCredentialId : JsString)
  (expectedScope : VaultScope) (profile : VaultCryptoProfile)

/-- The unlock as the code runs it, with every decryption written down. -/
def recordedCandidateUnlock (candidates : List UnknownCandidate)
    (prfOutput : Option Bytes) :
    Except VaultError UnlockPasskeyPrfEnvelopeCandidatesResult ×
      Unit × List UnwrapCall :=
  Stateful.unlockWithPasskeyPrfEnvelopeCandidates platform
    (fun output => Stateful.recorded fun payload =>
      Stateful.liftExcept (unwrapVaultKeyFromPasskey platform payload output
        expectedScope profile false))
    verifiedCredentialId candidates prfOutput expectedScope profile ((), [])

/-- The schema reads a candidate of the verified credential, for the expected
account and vault, in a permitted context, with fields that decode. -/
structure Accepts (unknown : UnknownCandidate)
    (candidate : VaultPasskeyEnvelopeVariant) : Prop where
  reads : unknown.bind (vaultPasskeyEnvelopeVariantSchema platform) =
    some candidate
  credentialId : candidate.credentialId = verifiedCredentialId
  addressed : AddressedTo expectedScope candidate.envelope.encryptedVaultKey
  permitted : PermittedContext profile
    candidate.envelope.encryptedVaultKey.aad.context
  decodes : FieldsDecode candidate.envelope.encryptedVaultKey

/-- All candidates pass and no variant occurs twice. -/
structure Validated (candidates : List UnknownCandidate)
    (parsed : List VaultPasskeyEnvelopeVariant) : Prop where
  each : List.Forall₂
    (Accepts platform verifiedCredentialId expectedScope profile)
    candidates parsed
  distinct : (parsed.map fun candidate => candidate.envelopeVariantId).Nodup

/-- What is wrong with a candidate that follows the given variants.  The
first defect in this order is the one that is reported. -/
inductive Offends (variantIds : List JsString) (unknown : UnknownCandidate) :
    PasskeyPrfEnvelopeCandidateMalformedReason → Prop where
  | unread :
      unknown.bind (vaultPasskeyEnvelopeVariantSchema platform) = none →
      Offends variantIds unknown .invalidCandidate
  | duplicate {candidate : VaultPasskeyEnvelopeVariant} :
      unknown.bind (vaultPasskeyEnvelopeVariantSchema platform) =
        some candidate →
      candidate.envelopeVariantId ∈ variantIds →
      Offends variantIds unknown .duplicateVariantId
  | credential {candidate : VaultPasskeyEnvelopeVariant} :
      unknown.bind (vaultPasskeyEnvelopeVariantSchema platform) =
        some candidate →
      candidate.envelopeVariantId ∉ variantIds →
      candidate.credentialId ≠ verifiedCredentialId →
      Offends variantIds unknown .credentialMismatch
  | scope {candidate : VaultPasskeyEnvelopeVariant} :
      unknown.bind (vaultPasskeyEnvelopeVariantSchema platform) =
        some candidate →
      candidate.envelopeVariantId ∉ variantIds →
      candidate.credentialId = verifiedCredentialId →
      ¬ (AddressedTo expectedScope candidate.envelope.encryptedVaultKey ∧
        PermittedContext profile
          candidate.envelope.encryptedVaultKey.aad.context) →
      Offends variantIds unknown .scopeMismatch
  | undecodable {candidate : VaultPasskeyEnvelopeVariant} :
      unknown.bind (vaultPasskeyEnvelopeVariantSchema platform) =
        some candidate →
      candidate.envelopeVariantId ∉ variantIds →
      candidate.credentialId = verifiedCredentialId →
      AddressedTo expectedScope candidate.envelope.encryptedVaultKey →
      PermittedContext profile
        candidate.envelope.encryptedVaultKey.aad.context →
      ¬ FieldsDecode candidate.envelope.encryptedVaultKey →
      Offends variantIds unknown .invalidCandidate

/-- The decryption of one candidate and its answer. -/
def attemptedUnwrap (output : Bytes)
    (candidate : VaultPasskeyEnvelopeVariant) : UnwrapCall :=
  { argument := candidate.envelope.encryptedVaultKey
    answer := unwrapVaultKeyFromPasskey platform
      candidate.envelope.encryptedVaultKey output expectedScope profile false }

/-- The cipher rejects the candidate, as it does for another PRF output. -/
inductive CipherMismatch : Except VaultError CryptoKey → Prop where
  | operation : CipherMismatch (.error (.domException "OperationError"))
  | data : CipherMismatch (.error (.domException "DataError"))

/-- The answer to a list of candidates and the decryptions made for it. -/
inductive CandidateSemantics (candidates : List UnknownCandidate) :
    Option Bytes → CandidateTrace → Prop where
  | prfMissing : CandidateSemantics candidates none
      { result := .prfUnavailable, calls := [] }
  | prfShort {output : Bytes} :
      output.length < 32 →
      CandidateSemantics candidates (some output)
        { result := .prfUnavailable, calls := [] }
  | limitExceeded {output : Bytes} :
      32 ≤ output.length →
      maxPasskeyPrfEnvelopeCandidates < candidates.length →
      CandidateSemantics candidates (some output)
        { result := .malformedCandidate .candidateLimitExceeded none
          calls := [] }
  | malformed {output : Bytes} {before after : List UnknownCandidate}
      {offender : UnknownCandidate}
      {parsed : List VaultPasskeyEnvelopeVariant}
      {reason : PasskeyPrfEnvelopeCandidateMalformedReason} :
      32 ≤ output.length →
      candidates.length ≤ maxPasskeyPrfEnvelopeCandidates →
      candidates = before ++ offender :: after →
      Validated platform verifiedCredentialId expectedScope profile before
        parsed →
      Offends platform verifiedCredentialId expectedScope profile
        (parsed.map fun candidate => candidate.envelopeVariantId) offender
        reason →
      CandidateSemantics candidates (some output)
        { result := .malformedCandidate reason (some before.length)
          calls := [] }
  | matched {output : Bytes} {key : CryptoKey}
      {earlier later : List VaultPasskeyEnvelopeVariant}
      {found : VaultPasskeyEnvelopeVariant} :
      32 ≤ output.length →
      candidates.length ≤ maxPasskeyPrfEnvelopeCandidates →
      Validated platform verifiedCredentialId expectedScope profile candidates
        (earlier ++ found :: later) →
      (∀ candidate ∈ earlier, CipherMismatch
        (attemptedUnwrap platform expectedScope profile output
          candidate).answer) →
      (attemptedUnwrap platform expectedScope profile output found).answer =
        .ok key →
      CandidateSemantics candidates (some output)
        { result := .matched found.envelopeVariantId key
          calls := (earlier ++ [found]).map
            (attemptedUnwrap platform expectedScope profile output) }
  | noMatch {output : Bytes} {parsed : List VaultPasskeyEnvelopeVariant} :
      32 ≤ output.length →
      candidates.length ≤ maxPasskeyPrfEnvelopeCandidates →
      Validated platform verifiedCredentialId expectedScope profile candidates
        parsed →
      (∀ candidate ∈ parsed, CipherMismatch
        (attemptedUnwrap platform expectedScope profile output
          candidate).answer) →
      CandidateSemantics candidates (some output)
        { result := .noMatch candidates.length
          calls := parsed.map
            (attemptedUnwrap platform expectedScope profile output) }
  | cryptoFailure {output : Bytes} {error : VaultError}
      {earlier later : List VaultPasskeyEnvelopeVariant}
      {failing : VaultPasskeyEnvelopeVariant} :
      32 ≤ output.length →
      candidates.length ≤ maxPasskeyPrfEnvelopeCandidates →
      Validated platform verifiedCredentialId expectedScope profile candidates
        (earlier ++ failing :: later) →
      (∀ candidate ∈ earlier, CipherMismatch
        (attemptedUnwrap platform expectedScope profile output
          candidate).answer) →
      (attemptedUnwrap platform expectedScope profile output failing).answer =
        .error error →
      ¬ CipherMismatch (.error error) →
      CandidateSemantics candidates (some output)
        { result := .cryptoFailure (.ofError error) (some earlier.length)
          calls := (earlier ++ [failing]).map
            (attemptedUnwrap platform expectedScope profile output) }

end

/-! ## Validation -/

section

variable {platform : Platform} {verifiedCredentialId : JsString}
  {expectedScope : VaultScope} {profile : VaultCryptoProfile}

theorem fieldsDecode_iff {payload : EncryptedVaultPayload} :
    fieldsDecode payload = true ↔ FieldsDecode payload := by
  unfold fieldsDecode
  cases iv : decodeBoundedBase64Url payload.iv maxVaultIvBytes with
  | error error =>
      constructor
      · intro decoded
        cases decoded
      · intro decodes
        obtain ⟨bytes, decoded⟩ := decodes.iv
        rw [iv] at decoded
        cases decoded
  | ok ivBytes =>
      cases ciphertext : decodeBoundedBase64Url payload.ciphertext
          maxVaultCiphertextBytes with
      | error error =>
          constructor
          · intro decoded
            cases decoded
          · intro decodes
            obtain ⟨bytes, decoded⟩ := decodes.ciphertext
            rw [ciphertext] at decoded
            cases decoded
      | ok bytes =>
          constructor
          · intro _
            exact { iv := ⟨ivBytes, iv⟩, ciphertext := ⟨bytes, ciphertext⟩ }
          · intro _
            rfl

/-- The scope test of the loop body refuses what `Accepts` does not allow. -/
theorem scope_refused_iff {payload : EncryptedVaultPayload} :
    (payload.aad.userId ≠ expectedScope.userId ∨
      payload.aad.resourceId ≠ expectedScope.resourceId ∨
      payload.aad.field ≠ .vaultKey ∨
      isVaultKeyAadContextAllowed payload.aad.context profile = false) ↔
      ¬ (AddressedTo expectedScope payload ∧
        PermittedContext profile payload.aad.context) := by
  rw [← isVaultKeyAadContextAllowed_iff, ← Bool.not_eq_true]
  constructor
  · intro refused accepted
    obtain ⟨addressed, allowed⟩ := accepted
    rcases refused with user | resource | field | forbidden
    · exact user addressed.userId
    · exact resource addressed.resourceId
    · exact field addressed.field
    · exact forbidden allowed
  · intro refused
    by_contra passed
    simp only [not_or, not_not] at passed
    obtain ⟨user, resource, field, allowed⟩ := passed
    exact refused ⟨⟨user, resource, field⟩, allowed⟩

/-- Every candidate passes or has a first defect. -/
theorem accepts_or_offends (variantIds : List JsString)
    (unknown : UnknownCandidate) :
    (∃ candidate,
      Accepts platform verifiedCredentialId expectedScope profile unknown
        candidate ∧ candidate.envelopeVariantId ∉ variantIds) ∨
    ∃ reason, Offends platform verifiedCredentialId expectedScope profile
      variantIds unknown reason := by
  cases reads : unknown.bind
      (vaultPasskeyEnvelopeVariantSchema platform) with
  | none => exact .inr ⟨_, .unread reads⟩
  | some candidate =>
      by_cases duplicate : candidate.envelopeVariantId ∈ variantIds
      · exact .inr ⟨_, .duplicate reads duplicate⟩
      by_cases credentialId : candidate.credentialId = verifiedCredentialId
      case neg => exact .inr ⟨_, .credential reads duplicate credentialId⟩
      by_cases scope :
        AddressedTo expectedScope candidate.envelope.encryptedVaultKey ∧
          PermittedContext profile
            candidate.envelope.encryptedVaultKey.aad.context
      case neg => exact .inr ⟨_, .scope reads duplicate credentialId scope⟩
      obtain ⟨addressed, permitted⟩ := scope
      by_cases decodes : FieldsDecode candidate.envelope.encryptedVaultKey
      · exact .inl ⟨candidate,
          ⟨reads, credentialId, addressed, permitted, decodes⟩, duplicate⟩
      · exact .inr ⟨_, .undecodable reads duplicate credentialId addressed
          permitted decodes⟩

theorem checkCandidate_accepts {variantIds : List JsString}
    {unknown : UnknownCandidate} {candidate : VaultPasskeyEnvelopeVariant}
    (accepted : Accepts platform verifiedCredentialId expectedScope profile
      unknown candidate)
    (new : candidate.envelopeVariantId ∉ variantIds) :
    checkCandidate platform verifiedCredentialId expectedScope profile
      variantIds unknown = .ok candidate := by
  have inScope := mt scope_refused_iff.mp
    (not_not.mpr ⟨accepted.addressed, accepted.permitted⟩)
  have decoded := fieldsDecode_iff.mpr accepted.decodes
  unfold checkCandidate
  simp only [accepted.reads]
  rw [if_neg (by simpa using new), if_neg (not_not.mpr accepted.credentialId),
    if_neg inScope, decoded]
  rfl

theorem checkCandidate_offends {variantIds : List JsString}
    {unknown : UnknownCandidate}
    {reason : PasskeyPrfEnvelopeCandidateMalformedReason}
    (offends : Offends platform verifiedCredentialId expectedScope profile
      variantIds unknown reason) :
    checkCandidate platform verifiedCredentialId expectedScope profile
      variantIds unknown = .error reason := by
  unfold checkCandidate
  cases offends with
  | unread reads => simp only [reads]
  | duplicate reads repeated =>
      simp only [reads]
      rw [if_pos (by simpa using repeated)]
  | credential reads new other =>
      simp only [reads]
      rw [if_neg (by simpa using new), if_pos other]
  | scope reads new credentialId refused =>
      simp only [reads]
      rw [if_neg (by simpa using new), if_neg (not_not.mpr credentialId),
        if_pos (scope_refused_iff.mpr refused)]
  | undecodable reads new credentialId addressed permitted garbled =>
      have inScope := mt scope_refused_iff.mp
        (not_not.mpr ⟨addressed, permitted⟩)
      have undecoded := mt fieldsDecode_iff.mp garbled
      simp only [reads]
      rw [if_neg (by simpa using new), if_neg (not_not.mpr credentialId),
        if_neg inScope, if_pos (by simpa using undecoded)]

/-- Which variants came before matters, not their order. -/
theorem Offends.congr {left right : List JsString}
    {unknown : UnknownCandidate}
    {reason : PasskeyPrfEnvelopeCandidateMalformedReason}
    (same : ∀ identifier, identifier ∈ left ↔ identifier ∈ right)
    (offends : Offends platform verifiedCredentialId expectedScope profile
      left unknown reason) :
    Offends platform verifiedCredentialId expectedScope profile right unknown
      reason := by
  cases offends with
  | unread reads => exact .unread reads
  | duplicate reads repeated => exact .duplicate reads ((same _).mp repeated)
  | credential reads new other =>
      exact .credential reads (mt (same _).mpr new) other
  | scope reads new credentialId refused =>
      exact .scope reads (mt (same _).mpr new) credentialId refused
  | undecodable reads new credentialId addressed permitted garbled =>
      exact .undecodable reads (mt (same _).mpr new) credentialId addressed
        permitted garbled

/-- Validation after some variants: the candidates pass, and no variant
occurs twice or occurred before. -/
structure ValidatedAfter (platform : Platform)
    (verifiedCredentialId : JsString) (expectedScope : VaultScope)
    (profile : VaultCryptoProfile) (variantIds : List JsString)
    (candidates : List UnknownCandidate)
    (parsed : List VaultPasskeyEnvelopeVariant) : Prop where
  validated : Validated platform verifiedCredentialId expectedScope profile
    candidates parsed
  fresh : ∀ candidate ∈ parsed, candidate.envelopeVariantId ∉ variantIds

theorem ValidatedAfter.nil {variantIds : List JsString} :
    ValidatedAfter platform verifiedCredentialId expectedScope profile
      variantIds [] [] :=
  { validated := { each := .nil, distinct := List.nodup_nil }
    fresh := by
      intro candidate member
      cases member }

theorem ValidatedAfter.cons {variantIds : List JsString}
    {unknown : UnknownCandidate} {rest : List UnknownCandidate}
    {candidate : VaultPasskeyEnvelopeVariant}
    {others : List VaultPasskeyEnvelopeVariant}
    (accepted : Accepts platform verifiedCredentialId expectedScope profile
      unknown candidate)
    (new : candidate.envelopeVariantId ∉ variantIds)
    (later : ValidatedAfter platform verifiedCredentialId expectedScope profile
      (candidate.envelopeVariantId :: variantIds) rest others) :
    ValidatedAfter platform verifiedCredentialId expectedScope profile
      variantIds (unknown :: rest) (candidate :: others) := by
  have unused : ∀ other ∈ others,
      other.envelopeVariantId ≠ candidate.envelopeVariantId ∧
        other.envelopeVariantId ∉ variantIds := by
    intro other member
    simpa using later.fresh other member
  constructor
  · constructor
    · exact .cons accepted later.validated.each
    · rw [List.map_cons, List.nodup_cons]
      refine ⟨?_, later.validated.distinct⟩
      intro repeated
      obtain ⟨other, member, same⟩ := List.mem_map.mp repeated
      exact (unused other member).1 same
  · intro other member
    rcases List.mem_cons.mp member with same | deeper
    · rw [same]
      exact new
    · exact (unused other deeper).2

theorem ValidatedAfter.cons_inv {variantIds : List JsString}
    {unknown : UnknownCandidate} {rest : List UnknownCandidate}
    {parsed : List VaultPasskeyEnvelopeVariant}
    (accepted : ValidatedAfter platform verifiedCredentialId expectedScope
      profile variantIds (unknown :: rest) parsed) :
    ∃ candidate others, parsed = candidate :: others ∧
      Accepts platform verifiedCredentialId expectedScope profile unknown
        candidate ∧
      candidate.envelopeVariantId ∉ variantIds ∧
      ValidatedAfter platform verifiedCredentialId expectedScope profile
        (candidate.envelopeVariantId :: variantIds) rest others := by
  obtain ⟨⟨each, distinct⟩, fresh⟩ := accepted
  cases each with
  | @cons _ candidate _ others first each =>
      rw [List.map_cons, List.nodup_cons] at distinct
      refine ⟨candidate, others, rfl, first,
        fresh candidate List.mem_cons_self, ⟨each, distinct.2⟩, ?_⟩
      intro other member
      rw [List.mem_cons, not_or]
      constructor
      · intro same
        apply distinct.1
        rw [← same]
        exact List.mem_map_of_mem member
      · exact fresh other (List.mem_cons_of_mem _ member)

/-- The variants the loop has collected after some candidates. -/
def collectedVariants (parsed : List VaultPasskeyEnvelopeVariant)
    (variantIds : List JsString) : List JsString :=
  (parsed.map fun candidate => candidate.envelopeVariantId).reverse ++
    variantIds

theorem collectedVariants_cons (candidate : VaultPasskeyEnvelopeVariant)
    (others : List VaultPasskeyEnvelopeVariant) (variantIds : List JsString) :
    collectedVariants (candidate :: others) variantIds =
      collectedVariants others (candidate.envelopeVariantId :: variantIds) := by
  simp [collectedVariants]

theorem validated_or_offends (candidates : List UnknownCandidate)
    (variantIds : List JsString) :
    (∃ parsed, ValidatedAfter platform verifiedCredentialId expectedScope
      profile variantIds candidates parsed) ∨
    ∃ before offender after parsed reason,
      candidates = before ++ offender :: after ∧
      ValidatedAfter platform verifiedCredentialId expectedScope profile
        variantIds before parsed ∧
      Offends platform verifiedCredentialId expectedScope profile
        (collectedVariants parsed variantIds) offender reason := by
  induction candidates generalizing variantIds with
  | nil => exact .inl ⟨[], .nil⟩
  | cons unknown rest ih =>
      rcases @accepts_or_offends platform verifiedCredentialId expectedScope
        profile variantIds unknown with passed | offends
      · obtain ⟨candidate, accepted, new⟩ := passed
        rcases ih (candidate.envelopeVariantId :: variantIds) with
          all | ⟨before, offender, after, parsed, reason, split, valid,
            offends⟩
        · obtain ⟨others, valid⟩ := all
          exact .inl ⟨candidate :: others, .cons accepted new valid⟩
        · refine .inr ⟨unknown :: before, offender, after,
            candidate :: parsed, reason, by rw [split]; rfl,
            .cons accepted new valid, ?_⟩
          rw [collectedVariants_cons]
          exact offends
      · obtain ⟨reason, offends⟩ := offends
        exact .inr ⟨[], unknown, rest, [], reason, rfl, .nil, offends⟩

theorem parseCandidates_validated {candidates : List UnknownCandidate}
    {variantIds : List JsString} {parsed : List VaultPasskeyEnvelopeVariant}
    (valid : ValidatedAfter platform verifiedCredentialId expectedScope profile
      variantIds candidates parsed) (index : Nat) :
    parseCandidates platform verifiedCredentialId expectedScope profile
      candidates index variantIds = .ok parsed := by
  induction candidates generalizing variantIds parsed index with
  | nil =>
      cases valid.validated.each
      rfl
  | cons unknown rest ih =>
      obtain ⟨candidate, others, rfl, accepted, new, later⟩ := valid.cons_inv
      simp only [parseCandidates, checkCandidate_accepts accepted new,
        ih later (index + 1)]
      rfl

theorem parseCandidates_offends {before : List UnknownCandidate}
    {offender : UnknownCandidate} {variantIds : List JsString}
    {parsed : List VaultPasskeyEnvelopeVariant}
    {reason : PasskeyPrfEnvelopeCandidateMalformedReason}
    (valid : ValidatedAfter platform verifiedCredentialId expectedScope profile
      variantIds before parsed)
    (offends : Offends platform verifiedCredentialId expectedScope profile
      (collectedVariants parsed variantIds) offender reason) (index : Nat)
    (after : List UnknownCandidate) :
    parseCandidates platform verifiedCredentialId expectedScope profile
      (before ++ offender :: after) index variantIds =
        .error (reason, index + before.length) := by
  induction before generalizing variantIds parsed index with
  | nil =>
      cases valid.validated.each
      have first : checkCandidate platform verifiedCredentialId expectedScope
          profile variantIds offender = .error reason :=
        checkCandidate_offends offends
      simp only [List.nil_append, parseCandidates, first, List.length_nil,
        Nat.add_zero]
  | cons unknown rest ih =>
      obtain ⟨candidate, others, rfl, accepted, new, later⟩ := valid.cons_inv
      rw [collectedVariants_cons] at offends
      simp only [List.cons_append, parseCandidates,
        checkCandidate_accepts accepted new, ih later offends (index + 1),
        Outcome.error_bind, List.length_cons, Except.error.injEq,
        Prod.mk.injEq, true_and]
      omega

theorem validatedAfter_nil_iff {candidates : List UnknownCandidate}
    {parsed : List VaultPasskeyEnvelopeVariant} :
    ValidatedAfter platform verifiedCredentialId expectedScope profile []
        candidates parsed ↔
      Validated platform verifiedCredentialId expectedScope profile candidates
        parsed := by
  constructor
  · intro valid
    exact valid.validated
  · intro valid
    exact { validated := valid, fresh := fun _ _ => List.not_mem_nil }

theorem Validated.origin {candidates : List UnknownCandidate}
    {parsed : List VaultPasskeyEnvelopeVariant}
    (valid : Validated platform verifiedCredentialId expectedScope profile
      candidates parsed) {candidate : VaultPasskeyEnvelopeVariant}
    (member : candidate ∈ parsed) :
    ∃ unknown ∈ candidates,
      Accepts platform verifiedCredentialId expectedScope profile unknown
        candidate := by
  obtain ⟨each, -⟩ := valid
  induction each with
  | nil => cases member
  | @cons unknown first rest others accepted _ ih =>
      rcases List.mem_cons.mp member with same | later
      · rw [same]
        exact ⟨unknown, List.mem_cons_self, accepted⟩
      · obtain ⟨origin, given, passed⟩ := ih later
        exact ⟨origin, List.mem_cons_of_mem _ given, passed⟩

theorem mem_collectedVariants_nil
    {parsed : List VaultPasskeyEnvelopeVariant} (identifier : JsString) :
    identifier ∈ collectedVariants parsed [] ↔
      identifier ∈ parsed.map fun candidate => candidate.envelopeVariantId := by
  simp only [collectedVariants, List.append_nil, List.mem_reverse]

end

/-! ## Trials -/

section

variable {platform : Platform} {expectedScope : VaultScope}
  {profile : VaultCryptoProfile} {output : Bytes} {count : Nat}

theorem isCandidateCryptoMismatch_iff {error : VaultError} :
    isCandidateCryptoMismatch error = true ↔ CipherMismatch (.error error) := by
  constructor
  · intro mismatch
    cases error with
    | domException name =>
        simp only [isCandidateCryptoMismatch, Bool.or_eq_true, beq_iff_eq]
          at mismatch
        rcases mismatch with rfl | rfl
        · exact .operation
        · exact .data
    | _ => cases mismatch
  · intro mismatch
    cases mismatch with
    | operation => rfl
    | data => rfl

/-- The decryptions of one PRF output, written down. -/
abbrev recordedUnwrap (platform : Platform) (expectedScope : VaultScope)
    (profile : VaultCryptoProfile) (output : Bytes) :
    EncryptedVaultPayload →
      Stateful (Unit × List UnwrapCall) VaultError CryptoKey :=
  Stateful.recorded fun payload => Stateful.liftExcept
    (unwrapVaultKeyFromPasskey platform payload output expectedScope profile
      false)

theorem recordedUnwrap_apply (candidate : VaultPasskeyEnvelopeVariant)
    (calls : List UnwrapCall) :
    recordedUnwrap platform expectedScope profile output
        candidate.envelope.encryptedVaultKey ((), calls) =
      ((attemptedUnwrap platform expectedScope profile output
          candidate).answer, (), calls ++ [attemptedUnwrap platform
            expectedScope profile output candidate]) := rfl

namespace Stateful

theorem tryCandidates_found {candidate : VaultPasskeyEnvelopeVariant}
    {rest : List VaultPasskeyEnvelopeVariant} {key : CryptoKey}
    (opened : (attemptedUnwrap platform expectedScope profile output
      candidate).answer = .ok key) (index : Nat) (calls : List UnwrapCall) :
    tryCandidates (recordedUnwrap platform expectedScope profile output) count
        (candidate :: rest) index ((), calls) =
      (.ok (.matched candidate.envelopeVariantId key), (),
        calls ++ [attemptedUnwrap platform expectedScope profile output
          candidate]) := by
  rw [tryCandidates, tryCatch_apply,
    bind_apply_ok ((recordedUnwrap_apply candidate calls).trans
      (by rw [opened]))]
  rfl

theorem tryCandidates_failed {candidate : VaultPasskeyEnvelopeVariant}
    {rest : List VaultPasskeyEnvelopeVariant} {error : VaultError}
    (failed : (attemptedUnwrap platform expectedScope profile output
      candidate).answer = .error error) (index : Nat)
    (calls : List UnwrapCall) :
    tryCandidates (recordedUnwrap platform expectedScope profile output) count
        (candidate :: rest) index ((), calls) =
      (if isCandidateCryptoMismatch error then
        tryCandidates (recordedUnwrap platform expectedScope profile output)
          count rest (index + 1)
      else pure (.cryptoFailure (.ofError error) (some index)))
        ((), calls ++ [attemptedUnwrap platform expectedScope profile output
          candidate]) := by
  rw [tryCandidates, tryCatch_apply,
    bind_apply_error ((recordedUnwrap_apply candidate calls).trans
      (by rw [failed]))]

theorem tryCandidates_mismatches
    {earlier rest : List VaultPasskeyEnvelopeVariant}
    (mismatches : ∀ candidate ∈ earlier, CipherMismatch
      (attemptedUnwrap platform expectedScope profile output
        candidate).answer) (index : Nat) (calls : List UnwrapCall) :
    tryCandidates (recordedUnwrap platform expectedScope profile output) count
        (earlier ++ rest) index ((), calls) =
      tryCandidates (recordedUnwrap platform expectedScope profile output)
        count rest (index + earlier.length)
        ((), calls ++ earlier.map
          (attemptedUnwrap platform expectedScope profile output)) := by
  induction earlier generalizing index calls with
  | nil => simp only [List.nil_append, List.length_nil, Nat.add_zero,
      List.map_nil, List.append_nil]
  | cons candidate earlier ih =>
      have mismatch := mismatches candidate List.mem_cons_self
      generalize answered : (attemptedUnwrap platform expectedScope profile
        output candidate).answer = answer at mismatch
      have failed : ∃ error, answer = .error error ∧
          isCandidateCryptoMismatch error = true := by
        cases mismatch with
        | operation => exact ⟨_, rfl, rfl⟩
        | data => exact ⟨_, rfl, rfl⟩
      obtain ⟨error, rfl, skipped⟩ := failed
      rw [List.cons_append, tryCandidates_failed answered, if_pos skipped,
        ih (fun other member =>
          mismatches other (List.mem_cons_of_mem _ member)),
        List.length_cons, List.map_cons, List.append_assoc,
        List.singleton_append, Nat.add_right_comm, Nat.add_assoc]

/-- Writing the decryptions down does not change the answer. -/
theorem tryCandidates_recorded (parsed : List VaultPasskeyEnvelopeVariant)
    (index : Nat) (calls : List UnwrapCall) :
    (tryCandidates (recordedUnwrap platform expectedScope profile output) count
        parsed index ((), calls)).1 =
      .ok (VaultCore.tryCandidates platform output expectedScope profile count
        parsed index) := by
  induction parsed generalizing index calls with
  | nil => rfl
  | cons candidate rest ih =>
      rw [VaultCore.tryCandidates]
      cases answered : unwrapVaultKeyFromPasskey platform
          candidate.envelope.encryptedVaultKey output expectedScope profile
          false with
      | ok key =>
          have opened : (attemptedUnwrap platform expectedScope profile output
              candidate).answer = .ok key := answered
          rw [tryCandidates_found opened]
      | error error =>
          have failed : (attemptedUnwrap platform expectedScope profile output
              candidate).answer = .error error := answered
          rw [tryCandidates_failed failed]
          by_cases mismatch : isCandidateCryptoMismatch error = true
          · simp only [if_pos mismatch]
            exact ih _ _
          · simp only [if_neg mismatch]
            cases error <;> rfl

end Stateful

end

/-! ## Adequacy -/

section

variable {platform : Platform} {verifiedCredentialId : JsString}
  {expectedScope : VaultScope} {profile : VaultCryptoProfile}
  {candidates : List UnknownCandidate}

private theorem all_or_first_exception {α : Type} (expected : α → Prop)
    (values : List α) :
    (∀ value ∈ values, expected value) ∨
      ∃ earlier exception later, values = earlier ++ exception :: later ∧
        (∀ value ∈ earlier, expected value) ∧ ¬ expected exception := by
  induction values with
  | nil =>
      refine .inl ?_
      intro value member
      cases member
  | cons first rest ih =>
      by_cases fits : expected first
      · rcases ih with all | ⟨earlier, exception, later, split, before, other⟩
        · exact .inl (List.forall_mem_cons.mpr ⟨fits, all⟩)
        · exact .inr ⟨first :: earlier, exception, later, by rw [split]; rfl,
            List.forall_mem_cons.mpr ⟨fits, before⟩, other⟩
      · refine .inr ⟨[], first, rest, rfl, ?_, fits⟩
        intro value member
        cases member

theorem recordedCandidateUnlock_validated {output : Bytes}
    {parsed : List VaultPasskeyEnvelopeVariant}
    (long : 32 ≤ output.length)
    (bounded : candidates.length ≤ maxPasskeyPrfEnvelopeCandidates)
    (valid : Validated platform verifiedCredentialId expectedScope profile
      candidates parsed) :
    recordedCandidateUnlock platform verifiedCredentialId expectedScope profile
        candidates (some output) =
      Stateful.tryCandidates
        (recordedUnwrap platform expectedScope profile output) parsed.length
        parsed 0 ((), []) := by
  have read := parseCandidates_validated (validatedAfter_nil_iff.mpr valid) 0
  simp only [recordedCandidateUnlock,
    Stateful.unlockWithPasskeyPrfEnvelopeCandidates, read,
    if_neg (Nat.not_lt.mpr long), if_neg (Nat.not_lt.mpr bounded)]

/-- The unlock follows the specification. -/
theorem CandidateSemantics.run {prfOutput : Option Bytes}
    {trace : CandidateTrace}
    (specified : CandidateSemantics platform verifiedCredentialId expectedScope
      profile candidates prfOutput trace) :
    recordedCandidateUnlock platform verifiedCredentialId expectedScope profile
      candidates prfOutput = (.ok trace.result, (), trace.calls) := by
  cases specified with
  | prfMissing => rfl
  | prfShort short =>
      simp only [recordedCandidateUnlock,
        Stateful.unlockWithPasskeyPrfEnvelopeCandidates, if_pos short]
      rfl
  | limitExceeded long exceeded =>
      simp only [recordedCandidateUnlock,
        Stateful.unlockWithPasskeyPrfEnvelopeCandidates,
        if_neg (Nat.not_lt.mpr long), if_pos exceeded]
      rfl
  | @malformed output before after offender parsed reason long bounded split
      valid offends =>
      have offends : Offends platform verifiedCredentialId expectedScope
          profile (collectedVariants parsed []) offender reason :=
        offends.congr fun identifier =>
          (mem_collectedVariants_nil identifier).symm
      have refused := parseCandidates_offends
        (validatedAfter_nil_iff.mpr valid) offends 0 after
      rw [Nat.zero_add] at refused
      subst split
      simp only [recordedCandidateUnlock,
        Stateful.unlockWithPasskeyPrfEnvelopeCandidates, refused,
        if_neg (Nat.not_lt.mpr long), if_neg (Nat.not_lt.mpr bounded)]
      rfl
  | matched long bounded valid mismatches opened =>
      rw [recordedCandidateUnlock_validated long bounded valid,
        Stateful.tryCandidates_mismatches mismatches,
        Stateful.tryCandidates_found opened, List.map_append]
      rfl
  | @noMatch output parsed long bounded valid mismatches =>
      rw [recordedCandidateUnlock_validated long bounded valid,
        ← List.append_nil parsed,
        Stateful.tryCandidates_mismatches mismatches, List.append_nil,
        valid.each.length_eq]
      rfl
  | @cryptoFailure output error earlier later failing long bounded valid
      mismatches failed other =>
      have reported : isCandidateCryptoMismatch error ≠ true :=
        mt isCandidateCryptoMismatch_iff.mp other
      rw [recordedCandidateUnlock_validated long bounded valid,
        Stateful.tryCandidates_mismatches mismatches,
        Stateful.tryCandidates_failed failed, if_neg reported,
        List.map_append, Nat.zero_add]
      rfl

/-- The specification has an answer for every input. -/
theorem exists_candidateSemantics (prfOutput : Option Bytes) :
    ∃ trace, CandidateSemantics platform verifiedCredentialId expectedScope
      profile candidates prfOutput trace := by
  cases prfOutput with
  | none => exact ⟨_, .prfMissing⟩
  | some output =>
      rcases Nat.lt_or_ge output.length 32 with short | long
      · exact ⟨_, .prfShort short⟩
      rcases Nat.lt_or_ge maxPasskeyPrfEnvelopeCandidates candidates.length
        with exceeded | bounded
      · exact ⟨_, .limitExceeded long exceeded⟩
      rcases @validated_or_offends platform verifiedCredentialId expectedScope
        profile candidates [] with
        valid | ⟨before, offender, after, parsed, reason, split, valid,
          offends⟩
      · obtain ⟨parsed, valid⟩ := valid
        rw [validatedAfter_nil_iff] at valid
        rcases all_or_first_exception (fun candidate => CipherMismatch
          (attemptedUnwrap platform expectedScope profile output
            candidate).answer) parsed with
          mismatches | ⟨earlier, decisive, later, split, mismatches, other⟩
        · exact ⟨_, .noMatch long bounded valid mismatches⟩
        · rw [split] at valid
          cases answered : (attemptedUnwrap platform expectedScope profile
            output decisive).answer with
          | ok key => exact ⟨_, .matched long bounded valid mismatches answered⟩
          | error error =>
              rw [answered] at other
              exact ⟨_, .cryptoFailure long bounded valid mismatches answered
                other⟩
      · exact ⟨_, .malformed long bounded split
          (validatedAfter_nil_iff.mp valid)
          (offends.congr mem_collectedVariants_nil)⟩

theorem recordedCandidateUnlock_result (prfOutput : Option Bytes) :
    (recordedCandidateUnlock platform verifiedCredentialId expectedScope
        profile candidates prfOutput).1 =
      .ok (unlockWithPasskeyPrfEnvelopeCandidates platform verifiedCredentialId
        candidates prfOutput expectedScope profile) := by
  unfold recordedCandidateUnlock
    Stateful.unlockWithPasskeyPrfEnvelopeCandidates
    unlockWithPasskeyPrfEnvelopeCandidates
  cases prfOutput with
  | none => rfl
  | some output =>
      simp only
      split_ifs
      · rfl
      · rfl
      · cases parseCandidates platform verifiedCredentialId expectedScope
          profile candidates 0 [] with
        | error refusal => rfl
        | ok parsed => exact Stateful.tryCandidates_recorded parsed 0 []

/-- A match is a validated candidate of the verified credential. -/
theorem CandidateSemantics.of_matched {prfOutput : Option Bytes}
    {trace : CandidateTrace} {identifier : JsString} {key : CryptoKey}
    (specified : CandidateSemantics platform verifiedCredentialId expectedScope
      profile candidates prfOutput trace)
    (found : trace.result = .matched identifier key) :
    ∃ unknown ∈ candidates, ∃ candidate,
      unknown.bind (vaultPasskeyEnvelopeVariantSchema platform) =
        some candidate ∧
      candidate.envelopeVariantId = identifier ∧
      candidate.credentialId = verifiedCredentialId := by
  cases specified with
  | @matched output opened earlier later candidate long bounded valid _ _ =>
      cases found
      have member : candidate ∈ earlier ++ candidate :: later := by simp
      obtain ⟨unknown, given, accepted⟩ := valid.origin member
      exact ⟨unknown, given, candidate, accepted.reads, rfl,
        accepted.credentialId⟩
  | _ => cases found

end

/-- The candidate unlock gives the one answer the specification has, after
exactly the decryptions it names, and matches the verified credential only. -/
theorem candidate_unlock_semantics (platform : Platform)
    (verifiedCredentialId : JsString) (candidates : List UnknownCandidate)
    (prfOutput : Option Bytes) (expectedScope : VaultScope)
    (profile : VaultCryptoProfile) :
    ∃ trace : CandidateTrace,
      recordedCandidateUnlock platform verifiedCredentialId expectedScope
        profile candidates prfOutput = (.ok trace.result, (), trace.calls) ∧
      unlockWithPasskeyPrfEnvelopeCandidates platform verifiedCredentialId
        candidates prfOutput expectedScope profile = trace.result ∧
      (∀ other, CandidateSemantics platform verifiedCredentialId expectedScope
        profile candidates prfOutput other ↔ other = trace) ∧
      ∀ identifier key, trace.result = .matched identifier key →
        ∃ unknown ∈ candidates, ∃ candidate,
          unknown.bind (vaultPasskeyEnvelopeVariantSchema platform) =
            some candidate ∧
          candidate.envelopeVariantId = identifier ∧
          candidate.credentialId = verifiedCredentialId := by
  obtain ⟨trace, specified⟩ := @exists_candidateSemantics platform
    verifiedCredentialId expectedScope profile candidates prfOutput
  have ran := specified.run
  refine ⟨trace, ran, ?_, ?_, ?_⟩
  · have result := @recordedCandidateUnlock_result platform
      verifiedCredentialId expectedScope profile candidates prfOutput
    rw [ran] at result
    exact (Except.ok.inj result).symm
  · intro other
    constructor
    · intro alternative
      have same := alternative.run
      rw [ran] at same
      cases trace
      cases other
      cases same
      rfl
    · intro same
      rw [same]
      exact specified
  · intro identifier key found
    exact specified.of_matched found

end VaultCore
