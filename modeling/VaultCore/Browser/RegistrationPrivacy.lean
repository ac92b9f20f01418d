import VaultCore.Data.HeapResidue
import VaultCore.Envelopes.PrfCapability

/-!
# What a registration lets out

A registration may come with a PRF output, which no server may see and which
is no output to seal under.  The response is sent without its PRF results, and
the resolution of the next step reads the output only to see that there is one:
every buffer it creates on the way is zeroed.
-/

namespace VaultCore

/-! ## The response for the server -/

section

variable {β : Type}

/-- A value that is an object and no array. -/
def BrowserValue.isRecord (value : BrowserValue β) : Bool :=
  match value with
  | .array _ => false
  | value => value.isObject

/-- `none` is the TypeError: WebAuthn response must be an object. -/
def sanitizeWebAuthnResponseForServer (given : β → Bytes)
    (response : BrowserValue β) : Option (BrowserMembers β) :=
  if !response.isRecord then none
  else
    let extensionResults :=
      response.get given (js "clientExtensionResults")
    let sanitizedExtensionResults :=
      if extensionResults.isRecord then
        withoutMember (extensionResults.entries given) (js "prf")
      else []
    some (withMember (response.entries given) (js "clientExtensionResults")
      (.object sanitizedExtensionResults))

end

/-! ## The step after a registration -/

/-- Why a registration is refused. -/
inductive RegistrationRejection where
  | invalidRegistrationCredentialId
  | invalidVerifiedCredentialId
  | credentialIdMismatch
deriving DecidableEq

/-- Why a further ceremony is needed. -/
inductive AuthenticationRequirement where
  | registrationPrfOutputUnavailable
  | authenticationPrfConfirmationRequired
deriving DecidableEq

/-- Why there is no PRF to enroll. -/
inductive EnrollmentUnavailableReason where
  | credentialPrfDisabled
  | registrationConfirmationMissing
deriving DecidableEq

/-- The credential to authenticate is selected exactly, by its id. -/
inductive PasskeyPrfEnrollmentAfterRegistrationResult where
  | authenticationRequired (credentialId selected : JsString)
      (reason : AuthenticationRequirement)
  | unavailable (credentialId : JsString)
      (reason : EnrollmentUnavailableReason)
  | rejected (reason : RegistrationRejection)
deriving DecidableEq

section

variable {β : Type} [DecidableEq β]

/-- Of the results of a registration, those that are looked into. -/
def registrationOnlyResults (given : β → Bytes) (results : BrowserValue β) :
    BrowserValue β :=
  .object [(js "prf", .object [(js "results",
    (results.get given (js "prf")).get given (js "results"))])]

/-- The next step after a registration, with the heap that the reading of the
output leaves. -/
def resolvePasskeyPrfEnrollmentAfterRegistration (heap : ByteHeap β)
    (registrationCredentialId verifiedCredentialId : JsString)
    (clientExtensionResults : BrowserValue β) :
    PasskeyPrfEnrollmentAfterRegistrationResult × ByteHeap β :=
  if !isOpaqueId registrationCredentialId then
    (.rejected .invalidRegistrationCredentialId, heap)
  else if !isOpaqueId verifiedCredentialId then
    (.rejected .invalidVerifiedCredentialId, heap)
  else if registrationCredentialId != verifiedCredentialId then
    (.rejected .credentialIdMismatch, heap)
  else
    let results :=
      if clientExtensionResults.isNullish then .object []
      else clientExtensionResults
    match resolvePasskeyPrfCapability false heap results .registration with
    | (.unavailable _ _, after) =>
        (.unavailable verifiedCredentialId .credentialPrfDisabled, after)
    | (.confirmedRegistration, after) =>
        match extractPasskeyPrfOutput after
            (registrationOnlyResults after.given results) none with
        | (none, extracted) =>
            (.authenticationRequired verifiedCredentialId
              verifiedCredentialId .registrationPrfOutputUnavailable,
              extracted)
        | (some prfOutput, extracted) =>
            (.authenticationRequired verifiedCredentialId
              verifiedCredentialId .authenticationPrfConfirmationRequired,
              extracted.clear prfOutput)
    | (_, after) =>
        (.unavailable verifiedCredentialId .registrationConfirmationMissing,
          after)

end

/-! ## What an extraction leaves -/

section

variable {β : Type}

/-- A conversion finds nothing, a view of what was given, or a new buffer of
its own. -/
theorem coerceExtensionBytesToUint8Array_cases (heap : ByteHeap β)
    (value : BrowserValue β) :
    coerceExtensionBytesToUint8Array heap value = (none, heap) ∨
      (∃ view, coerceExtensionBytesToUint8Array heap value =
        (some (view, false), heap)) ∨
      ∃ bytes, coerceExtensionBytesToUint8Array heap value =
        (some ((heap.create bytes).1, true), (heap.create bytes).2) := by
  cases value with
  | arrayBuffer buffer => exact .inr (.inl ⟨_, rfl⟩)
  | view buffer byteOffset byteLength => exact .inr (.inl ⟨_, rfl⟩)
  | string text =>
      simp only [coerceExtensionBytesToUint8Array]
      cases base64UrlToBytes text with
      | ok bytes => exact .inr (.inr ⟨bytes, rfl⟩)
      | error error => exact .inl rfl
  | array items =>
      simp only [coerceExtensionBytesToUint8Array]
      by_cases short : items.length < 32
      · exact .inl (if_pos short)
      · rw [if_neg short]
        cases items.mapM BrowserValue.asNumber with
        | some numbers => exact .inr (.inr ⟨_, rfl⟩)
        | none => exact .inl rfl
  | _ => exact .inl rfl

/-- Only the picked output is left, in a buffer of its own. -/
structure LeavesPicked (heap : ByteHeap β)
    (outcome : Option (ByteView β) × ByteHeap β) : Prop where
  nothing : outcome.1 = none → LeavesOnly heap outcome.2 []
  picked : ∀ view, outcome.1 = some view → ∃ index,
    heap.created.length ≤ index ∧ WholeView outcome.2 view index ∧
      LeavesOnly heap outcome.2 [index]

namespace LeavesPicked

variable {heap : ByteHeap β}

theorem unchanged (heap : ByteHeap β) : LeavesPicked heap (none, heap) where
  nothing := fun _ => .refl heap
  picked := nofun

theorem returnPicked {outcome : Option (ByteView β) × ByteHeap β}
    {next : ByteHeap β → Option (ByteView β) × ByteHeap β}
    (leaves : LeavesPicked heap outcome)
    (later : LeavesPicked outcome.2 (next outcome.2)) :
    LeavesPicked heap (returnPicked outcome next) := by
  obtain ⟨found, after⟩ := outcome
  cases found with
  | some view => exact leaves
  | none =>
      have first := leaves.nothing rfl
      constructor
      · intro nothing
        exact first.trans (later.nothing nothing)
      · intro view found
        obtain ⟨index, fresh, whole, left⟩ := later.picked view found
        exact ⟨index, first.grows.length.trans fresh, whole,
          first.trans left⟩

variable [DecidableEq β]

theorem clear {view : ByteView β} {after : ByteHeap β}
    (leaves : LeavesPicked heap (some view, after)) :
    LeavesOnly heap (after.clear view) [] := by
  obtain ⟨index, fresh, whole, left⟩ := leaves.picked view rfl
  apply left.clear whole fresh
  intro other member
  exact .inl (List.mem_singleton.mp member)

end LeavesPicked

private theorem leavesPicked_create (heap : ByteHeap β) (bytes : Bytes) :
    LeavesPicked heap (some (heap.create bytes).1, (heap.create bytes).2) := by
  refine ⟨nofun, ?_⟩
  intro view found
  cases found
  exact ⟨_, le_rfl, .of_create heap bytes, (LeavesOnly.refl heap).create bytes⟩

variable [DecidableEq β]

/-- A conversion of its own, copied and cleared or only cleared. -/
private theorem leavesPicked_owned (heap : ByteHeap β) (bytes : Bytes) :
    LeavesOnly heap
        ((heap.create bytes).2.clear (heap.create bytes).1) [] ∧
      ∀ copy, LeavesPicked heap
        (some ((heap.create bytes).2.create copy).1,
          ((heap.create bytes).2.create copy).2.clear
            (heap.create bytes).1) := by
  have created := (LeavesOnly.refl heap).create bytes
  have whole := WholeView.of_create heap bytes
  constructor
  · apply created.clear whole le_rfl
    intro other member
    exact .inl (List.mem_singleton.mp member)
  · intro copy
    refine ⟨nofun, ?_⟩
    intro view found
    cases found
    have copied := created.create copy
    have wholeCopy := WholeView.of_create (heap.create bytes).2 copy
    refine ⟨(heap.create bytes).2.created.length, created.grows.length,
      wholeCopy.clear (heap.create bytes).1, ?_⟩
    apply copied.clear (whole.create copy) le_rfl
    intro other member
    rcases List.mem_cons.mp member with same | same
    · exact .inr (List.mem_singleton.mpr same)
    · exact .inl (List.mem_singleton.mp same)

theorem pickPrfResultFirst_leaves (heap : ByteHeap β)
    (entry : BrowserValue β) :
    LeavesPicked heap (pickPrfResultFirst heap entry) := by
  unfold pickPrfResultFirst
  cases entry.isObject with
  | false => exact .unchanged heap
  | true =>
      simp only [Bool.not_true, Bool.false_eq_true, ↓reduceIte]
      rcases coerceExtensionBytesToUint8Array_cases heap
        (entry.get heap.given (js "first")) with
        coerced | ⟨view, coerced⟩ | ⟨bytes, coerced⟩
      · rw [coerced]
        exact .unchanged heap
      · rw [coerced]
        dsimp only
        split_ifs with short
        · exact .unchanged heap
        · exact leavesPicked_create heap _
      · rw [coerced]
        obtain ⟨cleared, copied⟩ := leavesPicked_owned heap bytes
        dsimp only
        split_ifs with short
        · exact ⟨fun _ => cleared, nofun⟩
        · exact copied _

theorem pickFirstOf_leaves (heap : ByteHeap β)
    (entries : List (BrowserValue β)) :
    LeavesPicked heap (pickFirstOf heap entries) := by
  induction entries generalizing heap with
  | nil => exact .unchanged heap
  | cons entry entries ih =>
      exact (pickPrfResultFirst_leaves heap entry).returnPicked (ih _)

/-- An extraction leaves only what it has picked. -/
theorem extractPasskeyPrfOutput_leaves (heap : ByteHeap β)
    (results : BrowserValue β) (credentialId : Option JsString) :
    LeavesPicked heap (extractPasskeyPrfOutput heap results credentialId) := by
  unfold extractPasskeyPrfOutput
  dsimp only
  split_ifs
  · exact .unchanged heap
  · have ofCredential : LeavesPicked heap (pickOfCredential heap
        ((results.get heap.given (js "prf")).get heap.given
          (js "evalByCredential")) (credentialId.getD [])) := by
      unfold pickOfCredential
      split_ifs
      · exact .unchanged heap
      · exact pickPrfResultFirst_leaves heap _
    apply ofCredential.returnPicked
    apply (pickPrfResultFirst_leaves _ _).returnPicked
    unfold pickFirstInEvalByCredentialMap
    split_ifs
    · exact .unchanged _
    · exact pickFirstOf_leaves _ _

end

/-! ## What the next step depends on -/

/-- The next step, of what may be known about the output: whether there is
one. -/
def enrollmentStep (registrationCredentialId verifiedCredentialId : JsString)
    (capability : PasskeyPrfCapability) (usable : Bool) :
    PasskeyPrfEnrollmentAfterRegistrationResult :=
  if !isOpaqueId registrationCredentialId then
    .rejected .invalidRegistrationCredentialId
  else if !isOpaqueId verifiedCredentialId then
    .rejected .invalidVerifiedCredentialId
  else if registrationCredentialId != verifiedCredentialId then
    .rejected .credentialIdMismatch
  else
    match capability with
    | .unavailable _ _ =>
        .unavailable verifiedCredentialId .credentialPrfDisabled
    | .confirmedRegistration =>
        .authenticationRequired verifiedCredentialId verifiedCredentialId
          (if usable then .authenticationPrfConfirmationRequired
          else .registrationPrfOutputUnavailable)
    | _ => .unavailable verifiedCredentialId .registrationConfirmationMissing

section

variable {β : Type} {given : β → Bytes}

private theorem anyOutput_inherited (key : JsString) :
    anyOutput given (BrowserValue.inherited key) = none := by
  have shapes : (BrowserValue.inherited key : BrowserValue β) = .object [] ∨
      _ := BrowserValue.inherited_cases key
  rcases shapes with same | same | same
  · rw [same]
    rfl
  · rw [same]
    rfl
  · rw [same]
    rfl

private theorem get_single_of_ne {key other : JsString}
    (different : other ≠ key) (value : BrowserValue β) :
    BrowserValue.get given (.object [(key, value)]) other =
      BrowserValue.inherited other := by
  have absent : List.lookup other [(key, value)] = none := by
    rw [List.lookup_cons, beq_false_of_ne different, List.lookup_nil]
  simp only [BrowserValue.get, BrowserValue.own, BrowserValue.entries,
    absent, Option.getD_none]

theorem extractedOutput_registrationOnlyResults
    (results : BrowserValue β) :
    extractedOutput given (registrationOnlyResults given results) [] =
      usableOutput given ((results.get given (js "prf")).get given
        (js "results")) := by
  unfold extractedOutput registrationOnlyResults
  generalize (results.get given (js "prf")).get given (js "results") = value
  rw [BrowserValue.get_object List.lookup_cons_self]
  dsimp only
  rw [BrowserValue.get_object List.lookup_cons_self,
    get_single_of_ne (by decide), anyOutput_inherited]
  simp [credentialOutput, BrowserValue.isObject]

variable [DecidableEq β]

/-- The next step depends on the ids, the capability and whether there is an
output.  What is created on the way is zeroed. -/
theorem resolvePasskeyPrfEnrollmentAfterRegistration_spec
    (heap : ByteHeap β)
    (registrationCredentialId verifiedCredentialId : JsString)
    {results : BrowserValue β} (present : results.isNullish = false) :
    (resolvePasskeyPrfEnrollmentAfterRegistration heap
        registrationCredentialId verifiedCredentialId results).1 =
      enrollmentStep registrationCredentialId verifiedCredentialId
        (registrationCapability heap.given results)
        (usableOutput heap.given ((results.get heap.given (js "prf")).get
          heap.given (js "results"))).isSome ∧
    LeavesOnly heap (resolvePasskeyPrfEnrollmentAfterRegistration heap
      registrationCredentialId verifiedCredentialId results).2 [] := by
  unfold resolvePasskeyPrfEnrollmentAfterRegistration enrollmentStep
  simp only [present, Bool.false_eq_true, ↓reduceIte,
    resolvePasskeyPrfCapability]
  by_cases registered : (!isOpaqueId registrationCredentialId) = true
  · rw [if_pos registered, if_pos registered]
    exact ⟨rfl, .refl heap⟩
  rw [if_neg registered, if_neg registered]
  by_cases verified : (!isOpaqueId verifiedCredentialId) = true
  · rw [if_pos verified, if_pos verified]
    exact ⟨rfl, .refl heap⟩
  rw [if_neg verified, if_neg verified]
  by_cases mismatch :
      (registrationCredentialId != verifiedCredentialId) = true
  · rw [if_pos mismatch, if_pos mismatch]
    exact ⟨rfl, .refl heap⟩
  rw [if_neg mismatch, if_neg mismatch]
  cases registrationCapability heap.given results with
  | confirmedRegistration =>
      dsimp only
      have picks := extractPasskeyPrfOutput_spec (Eq.refl heap.given)
        (registrationOnlyResults heap.given results) none
      have leaves := extractPasskeyPrfOutput_leaves heap
        (registrationOnlyResults heap.given results) none
      have output := picks.picked
      rw [Option.getD_none,
        extractedOutput_registrationOnlyResults] at output
      rw [← output]
      rcases outcome : extractPasskeyPrfOutput heap
        (registrationOnlyResults heap.given results) none with
        ⟨_ | prfOutput, extracted⟩
      · rw [outcome] at leaves
        exact ⟨rfl, leaves.nothing rfl⟩
      · rw [outcome] at leaves
        exact ⟨rfl, leaves.clear⟩
  | _ => exact ⟨rfl, .refl heap⟩

end

/-! ## What is sent -/

section

variable {β : Type} {members : BrowserMembers β} {key : JsString}

theorem withMember_withMember (first second : BrowserValue β) :
    withMember (withMember members key first) key second =
      withMember members key second := by
  unfold withMember
  induction members with
  | nil => simp [OrderedMap.setEntry]
  | cons member members ih =>
      by_cases same : member.1 = key
      · simp [OrderedMap.setEntry, same]
      · simp only [OrderedMap.setEntry, if_neg same]
        rw [ih]

theorem withoutMember_withMember (value : BrowserValue β) :
    withoutMember (withMember members key value) key =
      withoutMember members key := by
  unfold withMember withoutMember
  induction members with
  | nil => simp [OrderedMap.setEntry]
  | cons member members ih =>
      by_cases same : member.1 = key
      · simp [OrderedMap.setEntry, same]
      · simp only [OrderedMap.setEntry, if_neg same, List.filter_cons]
        rw [ih]

theorem lookup_withoutMember_self :
    (withoutMember members key).lookup key = none := by
  induction members with
  | nil => rfl
  | cons member members ih =>
      obtain ⟨held, value⟩ := member
      unfold withoutMember at ih ⊢
      by_cases same : held = key
      · rw [List.filter_cons_of_neg (by simpa using same)]
        exact ih
      · rw [List.filter_cons_of_pos (by simpa using same), List.lookup_cons,
          beq_false_of_ne (Ne.symm same)]
        exact ih

theorem agreeOutside_withoutMember :
    AgreeOutside [key] members (withoutMember members key) := by
  intro other outside
  have different : other ≠ key := by simpa using outside
  induction members with
  | nil => rfl
  | cons member members ih =>
      obtain ⟨held, value⟩ := member
      unfold withoutMember at ih ⊢
      by_cases same : held = key
      · rw [List.filter_cons_of_neg (by simpa using same), List.lookup_cons,
          same, beq_false_of_ne different]
        exact ih
      · rw [List.filter_cons_of_pos (by simpa using same), List.lookup_cons,
          List.lookup_cons, ih]

/-- The results of a registration with these extension results beside the
PRF results. -/
def registrationResults (extensions : BrowserMembers β)
    (prf : BrowserValue β) : BrowserValue β :=
  .object (withMember extensions (js "prf") prf)

theorem isNullish_registrationResults (extensions : BrowserMembers β)
    (prf : BrowserValue β) :
    (registrationResults extensions prf).isNullish = false := rfl

/-- A response with these results. -/
def registrationResponse (response extensions : BrowserMembers β)
    (prf : BrowserValue β) : BrowserValue β :=
  .object (withMember response (js "clientExtensionResults")
    (registrationResults extensions prf))

theorem sanitizeWebAuthnResponseForServer_registrationResponse
    (given : β → Bytes) (response extensions : BrowserMembers β)
    (prf : BrowserValue β) :
    sanitizeWebAuthnResponseForServer given
        (registrationResponse response extensions prf) =
      some (withMember response (js "clientExtensionResults")
        (.object (withoutMember extensions (js "prf")))) := by
  unfold sanitizeWebAuthnResponseForServer registrationResponse
    registrationResults
  rw [BrowserValue.get_object lookup_withMember_self]
  simp only [BrowserValue.isRecord, BrowserValue.isObject, Bool.not_true,
    Bool.false_eq_true, ↓reduceIte, BrowserValue.entries]
  rw [withMember_withMember, withoutMember_withMember]

/-- What is sent has no PRF results, and is otherwise as it was. -/
structure SentWithoutPrf (response extensions sent : BrowserMembers β) :
    Prop where
  response : AgreeOutside [js "clientExtensionResults"] response sent
  extensions : ∃ kept, sent.lookup (js "clientExtensionResults") =
      some (.object kept) ∧
    kept.lookup (js "prf") = none ∧
    AgreeOutside [js "prf"] extensions kept

variable [DecidableEq β]

/-- Two registrations that differ in their PRF results send the same, and go
on in the same way, if the results confirm the same and both have an output or
neither has.  The resolution leaves no copy of it. -/
theorem registration_keeps_prf_local
    (registrationCredentialId verifiedCredentialId : JsString)
    (response extensions : BrowserMembers β) (first second : BrowserValue β)
    (heap other : ByteHeap β)
    (capability : registrationCapability heap.given
        (registrationResults extensions first) =
      registrationCapability other.given
        (registrationResults extensions second))
    (usable : (usableOutput heap.given
        (first.get heap.given (js "results"))).isSome =
      (usableOutput other.given
        (second.get other.given (js "results"))).isSome) :
    (∃ sent, sanitizeWebAuthnResponseForServer heap.given
          (registrationResponse response extensions first) = some sent ∧
        sanitizeWebAuthnResponseForServer other.given
          (registrationResponse response extensions second) = some sent ∧
        SentWithoutPrf response extensions sent) ∧
      (resolvePasskeyPrfEnrollmentAfterRegistration heap
          registrationCredentialId verifiedCredentialId
          (registrationResults extensions first)).1 =
        (resolvePasskeyPrfEnrollmentAfterRegistration other
          registrationCredentialId verifiedCredentialId
          (registrationResults extensions second)).1 ∧
      LeavesOnly heap (resolvePasskeyPrfEnrollmentAfterRegistration heap
        registrationCredentialId verifiedCredentialId
        (registrationResults extensions first)).2 [] := by
  have reads (given : β → Bytes) (prf : BrowserValue β) :
      (registrationResults extensions prf).get given (js "prf") = prf :=
    BrowserValue.get_object lookup_withMember_self
  obtain ⟨step, leaves⟩ := resolvePasskeyPrfEnrollmentAfterRegistration_spec
    heap registrationCredentialId verifiedCredentialId
    (isNullish_registrationResults extensions first)
  obtain ⟨otherStep, -⟩ := resolvePasskeyPrfEnrollmentAfterRegistration_spec
    other registrationCredentialId verifiedCredentialId
    (isNullish_registrationResults extensions second)
  rw [reads] at step otherStep
  refine ⟨⟨_, sanitizeWebAuthnResponseForServer_registrationResponse ..,
    sanitizeWebAuthnResponseForServer_registrationResponse .., ?_⟩, ?_,
    leaves⟩
  · exact ⟨agreeOutside_withMember List.mem_cons_self, _,
      lookup_withMember_self, lookup_withoutMember_self,
      agreeOutside_withoutMember⟩
  · rw [step, otherStep, capability, usable]

end

private def confirmedPrf (output : BrowserValue Nat) : BrowserValue Nat :=
  .object [(js "enabled", .boolean true),
    (js "results", .object [(js "first", output)])]

private def secretHeap (byte : UInt8) : ByteHeap Nat where
  given := fun _ => List.replicate 40 byte
  created := []

/-- A buffer of ones and a view of twos are not told apart. -/
theorem registration_keeps_prf_local_onesTwos :
    (resolvePasskeyPrfEnrollmentAfterRegistration (secretHeap 1) (js "key")
        (js "key") (registrationResults [(js "credProps", .object [])]
          (confirmedPrf (.arrayBuffer 0)))).1 =
      (resolvePasskeyPrfEnrollmentAfterRegistration (secretHeap 2) (js "key")
        (js "key") (registrationResults [(js "credProps", .object [])]
          (confirmedPrf (.view 0 4 36)))).1 ∧
    LeavesOnly (secretHeap 1) (resolvePasskeyPrfEnrollmentAfterRegistration
      (secretHeap 1) (js "key") (js "key")
      (registrationResults [(js "credProps", .object [])]
        (confirmedPrf (.arrayBuffer 0)))).2 [] :=
  (registration_keeps_prf_local (js "key") (js "key") []
    [(js "credProps", .object [])] (confirmedPrf (.arrayBuffer 0))
    (confirmedPrf (.view 0 4 36)) (secretHeap 1) (secretHeap 2)
    (by decide +kernel) (by decide +kernel)).2

end VaultCore
