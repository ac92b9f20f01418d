import VaultCore.Passkey.CredentialState

/-!
# Plans for a passkey unlock

A quick unlock is bound to one credential by a stored binding; an explicit
one leaves the choice to the allow-list.  A missing or malformed binding never
widens a quick unlock.
-/

namespace VaultCore

def deviceBindingPrefix : JsString := js "v1."

/-- `raw.startsWith(prefix) ? raw.slice(prefix.length).trim() : raw` -/
def withoutBindingPrefix (trimmed : JsString) : JsString :=
  if deviceBindingPrefix.isPrefixOf trimmed then
    trim (trimmed.drop deviceBindingPrefix.length)
  else trimmed

/-- The identifier of a binding, when it is well formed. -/
def parsePasskeyBindingId (raw : Option JsString) : Option JsString :=
  match raw with
  | none => none
  | some raw =>
      let trimmed := trim raw
      if trimmed.isEmpty then none
      else
        let bindingId := withoutBindingPrefix trimmed
        if bindingId.isEmpty then none else some bindingId

/-- Whether the user asked for the passkey or the page did. -/
inductive PasskeyUnlockIntent where
  | quick
  | explicit
deriving DecidableEq

/-- The credential and the variant that a binding selects. -/
structure VaultPasskeyBindingTarget where
  credentialId : JsString
  selectedEnvelopeVariantId : Option JsString
deriving DecidableEq

/-- How an explicit unlock selects its credential. -/
inductive ExplicitSelectionMode where
  | allowList
  | discoverable
deriving DecidableEq

structure ResolvePasskeyUnlockPlanInput where
  intent : PasskeyUnlockIntent
  hasPasskeyPrfEnvelope : Bool
  preliminaryPrfAvailable : Bool
  bindingTarget : Option VaultPasskeyBindingTarget
  explicitSelectionMode : Option ExplicitSelectionMode

inductive PasskeyUnlockUnavailableReason where
  | noEnvelope
  | prfUnavailable
  | bindingRequired
deriving DecidableEq

/-- The passkey unlock that the page starts. -/
inductive PasskeyUnlockPlan where
  | unavailable (reason : PasskeyUnlockUnavailableReason)
  | quick (credentialSelection : PasskeyCredentialSelection)
      (selectedEnvelopeVariantId : Option JsString)
  | explicit (credentialSelection : PasskeyCredentialSelection)
deriving DecidableEq

/-- The target, when its identifiers are well formed. -/
def parseBindingTarget (value : Option VaultPasskeyBindingTarget) :
    Option VaultPasskeyBindingTarget :=
  match value with
  | none => none
  | some target =>
      if !vaultPasskeyOpaqueIdSchema target.credentialId then none
      else
        match target.selectedEnvelopeVariantId with
        | none =>
            some
              { credentialId := target.credentialId
                selectedEnvelopeVariantId := none }
        | some selected =>
            if !vaultPasskeyOpaqueIdSchema selected then none
            else
              some
                { credentialId := target.credentialId
                  selectedEnvelopeVariantId := some selected }

/-- The plan for the intent, the envelope and the binding. -/
def resolvePasskeyUnlockPlan (input : ResolvePasskeyUnlockPlanInput) :
    PasskeyUnlockPlan :=
  if !input.hasPasskeyPrfEnvelope then .unavailable .noEnvelope
  else if !input.preliminaryPrfAvailable then .unavailable .prfUnavailable
  else
    match input.intent with
    | .explicit =>
        .explicit
          (if input.explicitSelectionMode = some .discoverable then
            .discoverable
          else .allowList)
    | .quick =>
        match parseBindingTarget input.bindingTarget with
        | none => .unavailable .bindingRequired
        | some target =>
            .quick (.exact target.credentialId)
              (target.selectedEnvelopeVariantId.filter fun selected =>
                !selected.isEmpty)

/-- A stored binding is a target. -/
def VaultPasskeyBindingMetadata.target
    (binding : VaultPasskeyBindingMetadata) : VaultPasskeyBindingTarget :=
  { credentialId := binding.credentialId
    selectedEnvelopeVariantId := binding.selectedEnvelopeVariantId }

section

variable {binding : VaultPasskeyBindingMetadata}
  {input : ResolvePasskeyUnlockPlanInput}

theorem opaqueId_nonEmpty {id : JsString}
    (accepted : vaultPasskeyOpaqueIdSchema id = true) : id ≠ [] := by
  rintro rfl
  cases accepted

theorem opaqueId_trim {id : JsString}
    (accepted : vaultPasskeyOpaqueIdSchema id = true) : trim id = id := by
  simp only [vaultPasskeyOpaqueIdSchema, Bool.and_eq_true, beq_iff_eq]
    at accepted
  exact accepted.2

theorem parseBindingTarget_binding
    (accepted : vaultPasskeyBindingMetadataSchema binding = true) :
    parseBindingTarget (some binding.target) = some binding.target := by
  simp only [vaultPasskeyBindingMetadataSchema, Bool.and_eq_true]
    at accepted
  obtain ⟨⟨-, credential⟩, selection⟩ := accepted
  cases chosen : binding.selectedEnvelopeVariantId with
  | none =>
      simp [parseBindingTarget, VaultPasskeyBindingMetadata.target, chosen,
        credential]
  | some selected =>
      rw [chosen] at selection
      have valid : vaultPasskeyOpaqueIdSchema selected = true := selection
      simp [parseBindingTarget, VaultPasskeyBindingMetadata.target, chosen,
        credential, valid]

theorem selected_filter
    (accepted : vaultPasskeyBindingMetadataSchema binding = true) :
    (binding.selectedEnvelopeVariantId.filter fun selected =>
      !selected.isEmpty) = binding.selectedEnvelopeVariantId := by
  simp only [vaultPasskeyBindingMetadataSchema, Bool.and_eq_true]
    at accepted
  cases chosen : binding.selectedEnvelopeVariantId with
  | none => rfl
  | some selected =>
      rw [chosen] at accepted
      have given := opaqueId_nonEmpty accepted.2
      simp [Option.filter, given]

theorem quickPlan_binding
    (accepted : vaultPasskeyBindingMetadataSchema binding = true)
    (quick : input.intent = .quick)
    (envelope : input.hasPasskeyPrfEnvelope = true)
    (prf : input.preliminaryPrfAvailable = true)
    (bound : input.bindingTarget = some binding.target) :
    resolvePasskeyUnlockPlan input =
      .quick (.exact binding.credentialId)
        binding.selectedEnvelopeVariantId := by
  simp only [resolvePasskeyUnlockPlan, envelope, prf, quick, bound,
    parseBindingTarget_binding accepted, Bool.not_true, Bool.false_eq_true,
    ↓reduceIte]
  have kept := selected_filter accepted
  exact congrArg (PasskeyUnlockPlan.quick (.exact binding.credentialId)) kept

/-- A text without surrounding white space stays so behind a prefix that
starts with no white space. -/
theorem trim_append {front text : JsString} (given : text ≠ [])
    (same : trim text = text)
    (starts : ∃ unit units, front = unit :: units ∧
      isWhitespaceUnit unit = false) :
    trim (front ++ text) = front ++ text := by
  obtain ⟨unit, units, rfl, visible⟩ := starts
  have shorter := (List.rdropWhile_prefix isWhitespaceUnit
    (text.dropWhile isWhitespaceUnit)).length_le
  have longer : text.length ≤ (text.dropWhile isWhitespaceUnit).length := by
    calc
      text.length = (trim text).length := by rw [same]
      _ ≤ (text.dropWhile isWhitespaceUnit).length := shorter
  have front : text.dropWhile isWhitespaceUnit = text :=
    (List.dropWhile_suffix isWhitespaceUnit).eq_of_length_le longer
  have back : text.rdropWhile isWhitespaceUnit = text := by
    rw [trim, front] at same
    exact same
  have last := List.rdropWhile_eq_self_iff.mp back given
  rw [trim, List.cons_append, List.dropWhile_cons_of_neg (by simp [visible]),
    List.rdropWhile_eq_self_iff]
  intro nonempty
  have ends : (unit :: (units ++ text)).getLast nonempty =
      text.getLast given :=
    List.getLast_append_of_ne_nil (l := unit :: units) nonempty given
  rw [ends]
  exact last

/-- The cookie text of an opaque id, with the version prefix. -/
theorem parsePasskeyBindingId_prefixed {bindingId : JsString}
    (accepted : vaultPasskeyOpaqueIdSchema bindingId = true) :
    parsePasskeyBindingId (some (deviceBindingPrefix ++ bindingId)) =
      some bindingId := by
  have given := opaqueId_nonEmpty accepted
  have same := opaqueId_trim accepted
  have whole : trim (deviceBindingPrefix ++ bindingId) =
      deviceBindingPrefix ++ bindingId :=
    trim_append given same ⟨118, [49, 46], rfl, by decide⟩
  have stripped : withoutBindingPrefix (deviceBindingPrefix ++ bindingId) =
      bindingId := by
    have begins : deviceBindingPrefix.isPrefixOf
        (deviceBindingPrefix ++ bindingId) = true :=
      List.isPrefixOf_iff_prefix.mpr (List.prefix_append _ _)
    rw [withoutBindingPrefix, if_pos begins, List.drop_left, same]
  have shown : (deviceBindingPrefix ++ bindingId).isEmpty = false := by
    simp [given]
  simp only [parsePasskeyBindingId, whole, shown, stripped]
  simp [given]

end

end VaultCore
