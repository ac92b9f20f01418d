import VaultCore.Browser.ScopeAuthOptions
import VaultCore.Envelopes.PrfOutput

/-!
# PRF capability of a credential

An authentication confirms the capability when an output can be extracted
from results that have been narrowed to the verified credential.  Its output
is then extracted from the results as they are, and must be the same one.
-/

namespace VaultCore

/-- What a statement about the PRF rests on. -/
inductive PrfCapabilitySource where
  | heuristic
  | registration
  | authentication
deriving DecidableEq

inductive PrfUnavailableReason where
  | heuristicUnavailable
  | credentialPrfDisabled
deriving DecidableEq

inductive PrfIncompatibleReason where
  | missingRegistrationConfirmation
  | missingVerifiedCredentialId
  | missingAuthenticationResult
  | invalidAuthenticationResult
deriving DecidableEq

/-- What is known about the PRF of a credential. -/
inductive PasskeyPrfCapability where
  | unavailable (source : PrfCapabilitySource) (reason : PrfUnavailableReason)
  | heuristic
  | confirmedRegistration
  | confirmedAuthentication
  | incompatible (source : PrfCapabilitySource)
      (reason : PrfIncompatibleReason)
deriving DecidableEq

/-- The ceremony of an input; the id is missing when it is no text. -/
inductive PrfCeremony where
  | unspecified
  | registration
  | authentication (verifiedCredentialId : Option JsString)

section

variable {β : Type}

/-- `"first" in entry` of an object -/
def hasFirst (given : β → Bytes) (entry : BrowserValue β) : Bool :=
  entry.isObject && (entry.own given (js "first")).isSome

/-- The results have a PRF output in some place. -/
def hasAuthenticationResultValue (given : β → Bytes)
    (results : BrowserValue β) : Bool :=
  let prf := results.get given (js "prf")
  if !prf.isObject then false
  else
    let byCredential := prf.get given (js "evalByCredential")
    hasFirst given (prf.get given (js "results")) ||
      (byCredential.isObject &&
        (byCredential.entries given).any fun entry =>
          hasFirst given entry.2)

/-- The entries of one credential. -/
def entriesOfCredential (given : β → Bytes) (byCredential : BrowserValue β)
    (credentialId : JsString) : BrowserMembers β :=
  match byCredential.own given credentialId with
  | some entry => [(credentialId, entry)]
  | none => []

/-- The results, with those by credential cut down to one. -/
def scopeAuthenticationResultsToCredential (given : β → Bytes)
    (results : BrowserValue β) (credentialId : JsString) : BrowserValue β :=
  let prf := results.get given (js "prf")
  let byCredential := prf.get given (js "evalByCredential")
  if credentialId.isEmpty || !prf.isObject || !byCredential.isObject then
    results
  else
    .object (withMember (results.entries given) (js "prf")
      (.object (withMember (prf.entries given) (js "evalByCredential")
        (.object (entriesOfCredential given byCredential credentialId)))))

def registrationCapability (given : β → Bytes) (results : BrowserValue β) :
    PasskeyPrfCapability :=
  let prf := results.get given (js "prf")
  let enabled :=
    if prf.isObject then prf.get given (js "enabled") else .undefined
  match enabled with
  | .boolean true => .confirmedRegistration
  | .boolean false => .unavailable .registration .credentialPrfDisabled
  | _ => .incompatible .registration .missingRegistrationConfirmation

variable [DecidableEq β]

/-- What an authentication says, with the heap after its output was read. -/
def authenticationCapability (heap : ByteHeap β) (results : BrowserValue β)
    (verifiedCredentialId : Option JsString) :
    PasskeyPrfCapability × ByteHeap β :=
  let credentialId := verifiedCredentialId.getD []
  if !isOpaqueId credentialId then
    (.incompatible .authentication .missingVerifiedCredentialId, heap)
  else
    match extractPasskeyPrfOutput heap
        (scopeAuthenticationResultsToCredential heap.given results
          credentialId) (some credentialId) with
    | (some extracted, after) =>
        (.confirmedAuthentication, after.clear extracted)
    | (none, after) =>
        (.incompatible .authentication
          (if hasAuthenticationResultValue heap.given results then
            .invalidAuthenticationResult
          else .missingAuthenticationResult), after)

/-- `heuristicallyAvailable` is the answer of the preliminary check. -/
def resolvePasskeyPrfCapability (heuristicallyAvailable : Bool)
    (heap : ByteHeap β) (clientExtensionResults : BrowserValue β) :
    PrfCeremony → PasskeyPrfCapability × ByteHeap β
  | .registration =>
      (registrationCapability heap.given
        (if clientExtensionResults.isNullish then .object []
        else clientExtensionResults), heap)
  | .authentication verifiedCredentialId =>
      authenticationCapability heap
        (if clientExtensionResults.isNullish then .object []
        else clientExtensionResults) verifiedCredentialId
  | .unspecified =>
      (if heuristicallyAvailable then .heuristic
        else .unavailable .heuristic .heuristicUnavailable, heap)

end

/-! ## The output of one credential -/

section

variable {β : Type}

/-- The entry under the id itself. -/
def filedEntry (given : β → Bytes) (results : BrowserValue β)
    (credentialId : JsString) : Option (BrowserValue β) :=
  let byCredential := (results.get given (js "prf")).get given
    (js "evalByCredential")
  if byCredential.isObject then byCredential.own given credentialId
  else none

/-- The output of the entry under the id, and otherwise of the results. -/
def ownOutput (given : β → Bytes) (results : BrowserValue β)
    (credentialId : JsString) : Option Bytes :=
  ((filedEntry given results credentialId).bind (usableOutput given)).or
    (usableOutput given
      ((results.get given (js "prf")).get given (js "results")))

variable {given : β → Bytes} {results : BrowserValue β}
  {credentialId : JsString} {bytes : Bytes}

theorem ownOutput_length
    (own : ownOutput given results credentialId = some bytes) :
    bytes.length = 32 := by
  unfold ownOutput at own
  rcases Option.or_eq_some_iff.mp own with filed | ⟨-, standard⟩
  · obtain ⟨entry, -, usable⟩ := Option.bind_eq_some_iff.mp filed
    exact usableOutput_length usable
  · exact usableOutput_length standard

theorem usableOutput_inherited (key : JsString) :
    usableOutput given (BrowserValue.inherited key) = none := by
  have shapes : (BrowserValue.inherited key : BrowserValue β) = .object [] ∨
      _ := BrowserValue.inherited_cases key
  rcases shapes with same | same | same
  · rw [same]
    rfl
  · rw [same]
    rfl
  · rw [same]
    rfl

private theorem credentialOutput_eq {byCredential : BrowserValue β}
    (nonempty : credentialId.isEmpty = false)
    (object : byCredential.isObject = true) :
    credentialOutput given byCredential credentialId =
      (byCredential.own given credentialId).bind (usableOutput given) := by
  rw [credentialOutput, nonempty, object,
    BrowserValue.get_of_isObject object]
  cases byCredential.own given credentialId with
  | some entry => rfl
  | none => exact usableOutput_inherited credentialId

/-- Of the entries of one credential, there is no other output. -/
private theorem outputs_entriesOfCredential (given : β → Bytes)
    (byCredential : BrowserValue β)
    (nonempty : credentialId.isEmpty = false) :
    credentialOutput given (.object
        (entriesOfCredential given byCredential credentialId)) credentialId =
      (byCredential.own given credentialId).bind (usableOutput given) ∧
    anyOutput given (.object
        (entriesOfCredential given byCredential credentialId)) =
      (byCredential.own given credentialId).bind (usableOutput given) := by
  rw [credentialOutput_eq nonempty rfl]
  unfold entriesOfCredential
  cases byCredential.own given credentialId with
  | none => exact ⟨rfl, rfl⟩
  | some entry =>
      constructor
      · simp [BrowserValue.own, BrowserValue.entries]
      · simp [anyOutput, BrowserValue.isObject, BrowserValue.entries]

private theorem filedEntry_of_object
    (object : ((results.get given (js "prf")).get given
      (js "evalByCredential")).isObject = true) :
    filedEntry given results credentialId =
      ((results.get given (js "prf")).get given
        (js "evalByCredential")).own given credentialId := by
  simp only [filedEntry, object, ↓reduceIte]

private theorem filedEntry_of_not_object
    (other : ((results.get given (js "prf")).get given
      (js "evalByCredential")).isObject = false) :
    filedEntry given results credentialId = none := by
  simp only [filedEntry, other, Bool.false_eq_true, ↓reduceIte]

private theorem scopeAuthenticationResultsToCredential_of_not_object
    (other : ((results.get given (js "prf")).get given
      (js "evalByCredential")).isObject = false) :
    scopeAuthenticationResultsToCredential given results credentialId =
      results := by
  simp [scopeAuthenticationResultsToCredential, other]

/-- What is read of the narrowed results. -/
private theorem scopeAuthenticationResultsToCredential_reads
    (nonempty : credentialId.isEmpty = false)
    (object : (results.get given (js "prf")).isObject = true)
    (shape : ((results.get given (js "prf")).get given
      (js "evalByCredential")).isObject = true) :
    ∃ prf, (scopeAuthenticationResultsToCredential given results
        credentialId).get given (js "prf") = .object prf ∧
      BrowserValue.get given (.object prf) (js "evalByCredential") =
        .object (entriesOfCredential given
          ((results.get given (js "prf")).get given
            (js "evalByCredential")) credentialId) ∧
      BrowserValue.get given (.object prf) (js "results") =
        (results.get given (js "prf")).get given (js "results") := by
  refine ⟨withMember ((results.get given (js "prf")).entries given)
    (js "evalByCredential") (.object (entriesOfCredential given
      ((results.get given (js "prf")).get given (js "evalByCredential"))
      credentialId)), ?_, ?_, ?_⟩
  · simp only [scopeAuthenticationResultsToCredential, nonempty, object,
      shape, Bool.not_true, Bool.or_self, Bool.false_eq_true, ↓reduceIte]
    exact BrowserValue.get_object lookup_withMember_self
  · exact BrowserValue.get_object lookup_withMember_self
  · rw [BrowserValue.get_congr (lookup_withMember_of_ne (by decide)),
      BrowserValue.get_object_entries object (by decide)]

private theorem extractedOutput_of_not_object
    (object : (results.get given (js "prf")).isObject = true)
    (other : ((results.get given (js "prf")).get given
      (js "evalByCredential")).isObject = false) :
    extractedOutput given results credentialId =
      ownOutput given results credentialId := by
  simp [extractedOutput, ownOutput, credentialOutput, anyOutput, object,
    other, filedEntry_of_not_object other]

/-- The narrowed results have the output of the credential, or none. -/
theorem extractedOutput_narrowed (nonempty : credentialId.isEmpty = false)
    (object : (results.get given (js "prf")).isObject = true) :
    extractedOutput given (scopeAuthenticationResultsToCredential given
      results credentialId) credentialId =
        ownOutput given results credentialId := by
  cases shape : ((results.get given (js "prf")).get given
      (js "evalByCredential")).isObject with
  | false =>
      rw [scopeAuthenticationResultsToCredential_of_not_object shape,
        extractedOutput_of_not_object object shape]
  | true =>
      obtain ⟨prf, narrowed, evalByCredential, kept⟩ :=
        scopeAuthenticationResultsToCredential_reads nonempty object shape
      obtain ⟨own, any⟩ := outputs_entriesOfCredential given
        ((results.get given (js "prf")).get given (js "evalByCredential"))
        nonempty
      unfold extractedOutput ownOutput
      rw [narrowed, filedEntry_of_object shape]
      simp only [evalByCredential, kept, own, any, BrowserValue.isObject,
        Bool.not_true, Bool.false_eq_true, ↓reduceIte]
      cases (((results.get given (js "prf")).get given
          (js "evalByCredential")).own given credentialId).bind
            (usableOutput given) with
      | some bytes => rfl
      | none => rw [Option.none_or, Option.none_or, Option.or_none]

/-- The results as they are have the same output. -/
theorem extractedOutput_of_ownOutput
    (nonempty : credentialId.isEmpty = false)
    (object : (results.get given (js "prf")).isObject = true)
    (own : ownOutput given results credentialId = some bytes) :
    extractedOutput given results credentialId = some bytes := by
  cases shape : ((results.get given (js "prf")).get given
      (js "evalByCredential")).isObject with
  | false => rw [extractedOutput_of_not_object object shape, own]
  | true =>
      simp only [extractedOutput, object, Bool.not_true, Bool.false_eq_true,
        ↓reduceIte]
      rw [credentialOutput_eq nonempty shape, ← Option.or_assoc,
        ← filedEntry_of_object shape]
      unfold ownOutput at own
      rw [own]
      rfl

private theorem isObject_of_extracted
    (extracted : extractedOutput given (scopeAuthenticationResultsToCredential
      given results credentialId) credentialId = some bytes) :
    (results.get given (js "prf")).isObject = true := by
  cases object : (results.get given (js "prf")).isObject with
  | true => rfl
  | false =>
      have unscoped : scopeAuthenticationResultsToCredential given results
          credentialId = results := by
        simp [scopeAuthenticationResultsToCredential, object]
      rw [unscoped] at extracted
      simp [extractedOutput, object] at extracted

variable [DecidableEq β] {heap : ByteHeap β}

/-- A confirmation has found the output of the credential, and has cleared
its copy. -/
private theorem authenticationCapability_confirmed
    (confirmed : (authenticationCapability heap results
      (some credentialId)).1 = .confirmedAuthentication) :
    heap.Grows (authenticationCapability heap results
        (some credentialId)).2 ∧
      credentialId.isEmpty = false ∧
      (results.get heap.given (js "prf")).isObject = true ∧
      ∃ bytes, ownOutput heap.given results credentialId = some bytes := by
  simp only [authenticationCapability, Option.getD_some] at confirmed ⊢
  cases valid : isOpaqueId credentialId with
  | false =>
      rw [valid] at confirmed
      cases confirmed
  | true =>
      have nonempty : credentialId.isEmpty = false := by
        cases credentialId with
        | nil => cases valid
        | cons unit units => rfl
      rw [valid] at confirmed
      simp only [Bool.not_true, Bool.false_eq_true, ↓reduceIte]
        at confirmed ⊢
      have picks := extractPasskeyPrfOutput_spec (Eq.refl heap.given)
        (scopeAuthenticationResultsToCredential heap.given results
          credentialId) (some credentialId)
      rcases outcome : extractPasskeyPrfOutput heap
        (scopeAuthenticationResultsToCredential heap.given results
          credentialId) (some credentialId) with ⟨_ | extracted, after⟩
      · rw [outcome] at confirmed
        cases confirmed
      · rw [outcome] at picks
        have found := picks.picked.symm
        have object := isObject_of_extracted found
        rw [Option.getD_some, extractedOutput_narrowed nonempty object]
          at found
        exact ⟨picks.grows.clear (picks.fresh extracted rfl), nonempty,
          object, _, found⟩

/-- When an authentication confirms the capability, the extraction from the
same results finds the output of the verified credential, in a buffer of its
own. -/
theorem confirmed_capability_extracts_own_output
    {heuristicallyAvailable : Bool}
    (confirmed : (resolvePasskeyPrfCapability heuristicallyAvailable heap
      results (.authentication (some credentialId))).1 =
        .confirmedAuthentication) :
    heap.Grows (resolvePasskeyPrfCapability heuristicallyAvailable heap
        results (.authentication (some credentialId))).2 ∧
      ∀ later : ByteHeap β, later.given = heap.given →
        ∃ view bytes after,
          extractPasskeyPrfOutput later results (some credentialId) =
              (some view, after) ∧
            after.contents view = bytes ∧ bytes.length = 32 ∧
            ownOutput heap.given results credentialId = some bytes ∧
            later.IsNew view ∧ later.Grows (after.clear view) := by
  cases nullish : results.isNullish with
  | true =>
      simp only [resolvePasskeyPrfCapability, nullish, ↓reduceIte]
        at confirmed
      obtain ⟨-, -, object, -⟩ :=
        authenticationCapability_confirmed confirmed
      cases object
  | false =>
      simp only [resolvePasskeyPrfCapability, nullish, Bool.false_eq_true,
        ↓reduceIte] at confirmed ⊢
      obtain ⟨grows, nonempty, object, bytes, own⟩ :=
        authenticationCapability_confirmed confirmed
      refine ⟨grows, ?_⟩
      intro later same
      have picks := extractPasskeyPrfOutput_spec same results
        (some credentialId)
      rw [Option.getD_some,
        extractedOutput_of_ownOutput nonempty object own] at picks
      obtain ⟨view, picked, shown⟩ := Option.map_eq_some_iff.mp picks.picked
      have fresh := picks.fresh view picked
      exact ⟨view, bytes, _, Prod.ext picked rfl, shown,
        ownOutput_length own, own, fresh, picks.grows.clear fresh⟩

end

private def ceremonyBuffers (buffer : Nat) : Bytes :=
  if buffer = 0 then List.replicate 8 1 ++ List.replicate 40 9
  else List.replicate 32 2

/-- An output among the results, one of another credential, and an entry of
the credential itself that is too short. -/
private def mixedResults : BrowserValue Nat :=
  .object [(js "prf", .object
    [(js "results", .object [(js "first", .view 0 8 40)]),
      (js "evalByCredential", .object
        [(js "other", .object [(js "first", .arrayBuffer 1)]),
          (js "mine", .object [(js "first", .string (js "AAAA"))])])])]

theorem mixed_results_extract_own_output :
    ∃ view after, extractPasskeyPrfOutput ⟨ceremonyBuffers, []⟩ mixedResults
        (some (js "mine")) = (some view, after) ∧
      after.contents view = List.replicate 32 9 := by
  have confirmed : (resolvePasskeyPrfCapability false ⟨ceremonyBuffers, []⟩
      mixedResults (.authentication (some (js "mine")))).1 =
        .confirmedAuthentication := by
    decide +kernel
  have expected : ownOutput ceremonyBuffers mixedResults (js "mine") =
      some (List.replicate 32 9) := by
    decide +kernel
  obtain ⟨-, extracts⟩ := confirmed_capability_extracts_own_output confirmed
  obtain ⟨view, bytes, after, extracted, shown, -, own, -⟩ :=
    extracts ⟨ceremonyBuffers, []⟩ rfl
  rw [expected] at own
  exact ⟨view, after, extracted, shown.trans (Option.some.inj own).symm⟩

end VaultCore
