import VaultCore.Browser.ScopeAuthOptions

/-!
# Options of an unlock ceremony

The credentials are selected first, then the PRF input is converted and
aligned, and a first input that became a buffer replaces every other one.
The transport policy comes last.
-/

namespace VaultCore

/-- What an unlock does about the transports of its options. -/
inductive VaultUnlockTransportPolicy where
  | preserve
  | platformOnly
  | discoverable
  | appleMobileInternalWorkaround
deriving DecidableEq

/-- The lower case of a letter, for the letters of the pattern. -/
def asciiLowerUnit (unit : UInt16) : UInt16 :=
  if 65 ≤ unit.toNat ∧ unit.toNat ≤ 90 then unit + 32 else unit

/-- `/iPhone|iPod|iPad/i.test(userAgent)` -/
def isAppleMobileUserAgent (userAgent : JsString) : Bool :=
  ["iphone", "ipod", "ipad"].any fun device =>
    decide (js device <:+: userAgent.map asciiLowerUnit)

/-- `navigatorUserAgent` is the text of the platform, if it has one. -/
def resolveVaultUnlockUserAgent (navigatorUserAgent : Option JsString)
    (userAgent : Option JsString) : JsString :=
  let userAgent := userAgent.getD []
  if !userAgent.isEmpty then userAgent
  else navigatorUserAgent.getD []

/-- `{ ...descriptor, transports: ["internal"] }` -/
def withInternalTransport (descriptor : OptionsValue) : OptionsValue :=
  .object (withMember descriptor.spread (js "transports")
    (.array [.string (js "internal")]))

/-- A list of descriptors is left with the transport of the platform alone;
anything else goes through as the language has it. -/
def restrictToPlatformTransport (options : OptionsMembers) :
    Except VaultError OptionsMembers :=
  match OptionsValue.get (.object options) "allowCredentials" with
  | .array [] => .ok options
  | .array items =>
      .ok (withMember options (js "allowCredentials")
        (.array (items.map withInternalTransport)))
  | .view _ _ 0 => .ok options
  -- an object is no number, and is stored in a typed array as a zero
  | .view _ _ byteLength =>
      .ok (withMember options (js "allowCredentials")
        (.view (List.replicate byteLength 0) 0 byteLength))
  | allowCredentials =>
      if !(allowCredentials.get "length").truthy then .ok options
      else
        .error (.typeError
          "options.allowCredentials.map is not a function")

def applyVaultUnlockTransportPolicy (navigatorUserAgent : Option JsString)
    (options : OptionsMembers) (userAgent : Option JsString) :
    VaultUnlockTransportPolicy → Except VaultError OptionsMembers
  | .preserve => .ok options
  | .discoverable =>
      .ok (withMember options (js "allowCredentials") (.array []))
  | .platformOnly => restrictToPlatformTransport options
  | .appleMobileInternalWorkaround =>
      if isAppleMobileUserAgent
          (resolveVaultUnlockUserAgent navigatorUserAgent userAgent) then
        restrictToPlatformTransport options
      else .ok options

/-- What the caller of an unlock says about its ceremony. -/
structure UnlockAuthenticationContext where
  credentialId : Option JsString
  userAgent : Option JsString
  filterSingleCredential : Option Bool
  transportPolicy : Option VaultUnlockTransportPolicy
  credentialSelection : Option PasskeyCredentialSelection

/-- Two arguments that say different things about the credential. -/
def conflictingSelectionError (message : String) : VaultError :=
  scopeError .conflictingCredentialSelection message none

/-- An explicit selection stands alone, and discovers credentials exactly
with a policy that allows it. -/
def assertCredentialSelection
    (credentialSelection : Option PasskeyCredentialSelection)
    (legacyFields : Bool) (transportPolicy : VaultUnlockTransportPolicy) :
    Except VaultError Unit :=
  match credentialSelection with
  | none => .ok ()
  | some selection =>
      if legacyFields then
        .error (conflictingSelectionError
          ("Explicit credential selection cannot be combined with legacy " ++
            "scoping fields"))
      else if (transportPolicy = .discoverable ∧
            selection ≠ .discoverable) ∨
          (selection = .discoverable ∧ transportPolicy ≠ .preserve ∧
            transportPolicy ≠ .discoverable) then
        .error (conflictingSelectionError
          ("Credential selection conflicts with the requested transport " ++
            "policy"))
      else .ok ()

/-- The credentials of the prepared options. -/
def selectPreparedCredentials (options : OptionsMembers)
    (context : UnlockAuthenticationContext) (discoverable : Bool) :
    Except VaultError OptionsMembers :=
  let credentialId := context.credentialId.getD []
  let filterSingleCredential := context.filterSingleCredential.getD false
  match context.credentialSelection with
  | some selection => selectAuthenticationCredentials options selection
  | none =>
      if filterSingleCredential && credentialId.isEmpty && !discoverable then
        .error (scopeError .invalidCredentialId
          "Strict WebAuthn credential filtering requires a credential id"
          none)
      else if filterSingleCredential && !credentialId.isEmpty &&
          !discoverable then
        scopeAuthenticationOptionsToCredential options credentialId
      else .ok options

/-- The options that require user verification and evaluate one salt. -/
def withCanonicalPrf (options : OptionsMembers) (salt : Bytes) :
    OptionsMembers :=
  let extensions := OptionsValue.get (.object options) "extensions"
  withMember
    (withMember options (js "userVerification") (.string (js "required")))
    (js "extensions")
    (.object (withMember extensions.spread (js "prf")
      (canonicalPrf (.arrayBuffer salt))))

/-- `options.extensions?.prf?.eval?.first` -/
def prfEvalFirst (options : OptionsMembers) : OptionsValue :=
  (((OptionsValue.get (.object options) "extensions").get "prf").get
    "eval").get "first"

/-- The PRF inputs as buffers. -/
def convertPrfInput (options : OptionsMembers) : OptionsMembers :=
  let extensions := OptionsValue.get (.object options) "extensions"
  if extensions.truthy then
    withMember options (js "extensions")
      (prepareWebAuthnPrfExtensions extensions)
  else options

/-- A first input that is a buffer replaces every other input. -/
def canonicalizePrfInput (options : OptionsMembers) : OptionsMembers :=
  match asArrayBuffer (prfEvalFirst options) with
  | some canonicalPrfFirst => withCanonicalPrf options canonicalPrfFirst
  | none => options

/-- The PRF inputs aligned with the credential, in their canonical form. -/
def preparePrfInput (options : OptionsMembers)
    (credentialId : Option JsString) : OptionsMembers :=
  canonicalizePrfInput
    (alignPrfExtensionsForCredential (convertPrfInput options) credentialId)

/-- The credential to whose input the others give way. -/
def UnlockAuthenticationContext.alignedCredentialId
    (context : UnlockAuthenticationContext) (discoverable : Bool) :
    Option JsString :=
  if discoverable then none
  else
    match context.credentialSelection with
    | some (.exact credentialId) => some credentialId
    | _ => context.credentialId

def prepareVaultUnlockAuthenticationOptions
    (navigatorUserAgent : Option JsString) (options : OptionsMembers)
    (context : UnlockAuthenticationContext) :
    Except VaultError OptionsMembers := do
  let transportPolicy := context.transportPolicy.getD .preserve
  let discoverable := transportPolicy == .discoverable
  assertCredentialSelection context.credentialSelection
    (context.credentialId.isSome || context.filterSingleCredential.isSome)
    transportPolicy
  let prepared ← selectPreparedCredentials options context discoverable
  applyVaultUnlockTransportPolicy navigatorUserAgent
    (preparePrfInput prepared (context.alignedCredentialId discoverable))
    context.userAgent transportPolicy

/-! ## What the browser is asked -/

/-- The keys that a preparation may change. -/
def preparedKeys : List JsString :=
  ["userVerification", "extensions", "allowCredentials"].map js

/-- One salt is evaluated for a verified user, and nothing else of the
options has changed. -/
structure EvaluatesOnly (salt : Bytes) (options prepared : OptionsMembers) :
    Prop where
  extensions : ∃ extensions,
    prepared.lookup (js "extensions") = some (.object extensions) ∧
      extensions.lookup (js "prf") =
        some (canonicalPrf (.arrayBuffer salt)) ∧
      AgreeOutside [js "prf"]
        (OptionsValue.get (.object options) "extensions").spread extensions
  userVerification : prepared.lookup (js "userVerification") =
    some (.string (js "required"))
  others : AgreeOutside preparedKeys options prepared

section

variable {salt other : Bytes} {options middle prepared : OptionsMembers}

theorem withCanonicalPrf_evaluates :
    EvaluatesOnly salt options (withCanonicalPrf options salt) := by
  constructor
  · exact ⟨_, lookup_withMember_self, lookup_withMember_self,
      agreeOutside_withMember (by simp)⟩
  · unfold withCanonicalPrf
    rw [lookup_withMember_of_ne (by decide), lookup_withMember_self]
  · have verified : AgreeOutside preparedKeys options (withMember options
        (js "userVerification") (.string (js "required"))) :=
      agreeOutside_withMember (by simp [preparedKeys])
    exact verified.trans (agreeOutside_withMember (by simp [preparedKeys]))

theorem withCanonicalPrf_allowCredentials :
    (withCanonicalPrf options salt).lookup (js "allowCredentials") =
      options.lookup (js "allowCredentials") := by
  unfold withCanonicalPrf
  rw [lookup_withMember_of_ne (by decide),
    lookup_withMember_of_ne (by decide)]

namespace EvaluatesOnly

theorem prf (evaluates : EvaluatesOnly salt options prepared) :
    (OptionsValue.get (.object prepared) "extensions").get "prf" =
      canonicalPrf (.arrayBuffer salt) := by
  obtain ⟨extensions, found, input, -⟩ := evaluates.extensions
  rw [OptionsValue.get_of_lookup found, OptionsValue.get_of_lookup input]

theorem evalFirst (evaluates : EvaluatesOnly salt options prepared) :
    prfEvalFirst prepared = .arrayBuffer salt := by
  rw [prfEvalFirst, evaluates.prf, canonicalPrf_evalFirst]

theorem trans (first : EvaluatesOnly salt options middle)
    (second : EvaluatesOnly other middle prepared) :
    EvaluatesOnly other options prepared := by
  obtain ⟨extensions, found, -, agree⟩ := first.extensions
  obtain ⟨later, foundLater, input, agreeLater⟩ := second.extensions
  rw [OptionsValue.get_of_lookup found] at agreeLater
  exact ⟨⟨later, foundLater, input, agree.trans agreeLater⟩,
    second.userVerification, first.others.trans second.others⟩

theorem of_selected
    (selected : AgreeOutside [js "allowCredentials"] options middle)
    (evaluates : EvaluatesOnly salt middle prepared) :
    EvaluatesOnly salt options prepared := by
  have extensions := evaluates.extensions
  rw [OptionsValue.get_of_agreeOutside selected (by decide)] at extensions
  exact ⟨extensions, evaluates.userVerification,
    (selected.mono (by simp [preparedKeys])).trans evaluates.others⟩

theorem of_transported (evaluates : EvaluatesOnly salt options middle)
    (transported : AgreeOutside [js "allowCredentials"] middle prepared) :
    EvaluatesOnly salt options prepared := by
  have extensions := evaluates.extensions
  rw [← transported (js "extensions") (by decide)] at extensions
  have verified := evaluates.userVerification
  rw [← transported (js "userVerification") (by decide)] at verified
  exact ⟨extensions, verified,
    evaluates.others.trans (transported.mono (by simp [preparedKeys]))⟩

end EvaluatesOnly

private theorem get_prf_of_falsy {value : OptionsValue}
    (falsy : value.truthy = false) : value.get "prf" = .undefined := by
  cases value with
  | string text =>
      cases text with
      | nil => rfl
      | cons unit units => cases falsy
  | arrayBuffer buffer => cases falsy
  | view buffer byteOffset byteLength => cases falsy
  | array items => cases falsy
  | object members => cases falsy
  | _ => rfl

private theorem convertPrfInput_canonical {value : OptionsValue}
    (prf : (OptionsValue.get (.object options) "extensions").get "prf" =
      canonicalPrf value)
    (first : coercePrfSaltToArrayBuffer value = .arrayBuffer salt) :
    convertPrfInput options = withMember options (js "extensions")
      (.object (withMember
        (OptionsValue.get (.object options) "extensions").spread (js "prf")
        (canonicalPrf (.arrayBuffer salt)))) := by
  have present :
      (OptionsValue.get (.object options) "extensions").truthy = true := by
    by_contra falsy
    have absent := get_prf_of_falsy (eq_false_of_ne_true falsy)
    rw [prf] at absent
    cases absent
  simp only [convertPrfInput, present, ↓reduceIte,
    prepareWebAuthnPrfExtensions_canonical prf first]

/-- The one input of the options, however it is written. -/
theorem preparePrfInput_evaluates {value : OptionsValue}
    (credentialId : Option JsString)
    (prf : (OptionsValue.get (.object options) "extensions").get "prf" =
      canonicalPrf value)
    (first : coercePrfSaltToArrayBuffer value = .arrayBuffer salt) :
    EvaluatesOnly salt options (preparePrfInput options credentialId) ∧
      (preparePrfInput options credentialId).lookup
        (js "allowCredentials") =
          options.lookup (js "allowCredentials") := by
  have converted := convertPrfInput_canonical prf first
  have input : (OptionsValue.get (.object (convertPrfInput options))
      "extensions").get "prf" = canonicalPrf (.arrayBuffer salt) := by
    rw [converted, OptionsValue.get_withMember_self,
      OptionsValue.get_withMember_self]
  have read : asArrayBuffer (prfEvalFirst (convertPrfInput options)) =
      some salt := by
    rw [prfEvalFirst, input, canonicalPrf_evalFirst]
    rfl
  rw [preparePrfInput, alignPrfExtensionsForCredential_canonical input,
    canonicalizePrfInput, read]
  have evaluates : EvaluatesOnly salt (convertPrfInput options)
      (withCanonicalPrf (convertPrfInput options) salt) :=
    withCanonicalPrf_evaluates
  refine ⟨⟨?_, evaluates.userVerification, ?_⟩, ?_⟩
  · obtain ⟨extensions, found, evaluated, agree⟩ := evaluates.extensions
    rw [converted, OptionsValue.get_withMember_self] at agree
    exact ⟨extensions, found, evaluated,
      (agreeOutside_withMember (by simp)).trans agree⟩
  · rw [converted] at evaluates ⊢
    exact (agreeOutside_withMember (by simp [preparedKeys])).trans
      evaluates.others
  · rw [withCanonicalPrf_allowCredentials, converted]
    exact lookup_withMember_of_ne (by decide)

theorem selectPreparedCredentials_agree
    {context : UnlockAuthenticationContext} {discoverable : Bool}
    {selected : OptionsMembers}
    (success : selectPreparedCredentials options context discoverable =
      .ok selected) :
    AgreeOutside [js "allowCredentials"] options selected := by
  unfold selectPreparedCredentials at success
  split at success
  · obtain ⟨chosen, -, rfl⟩ :=
      selectAuthenticationCredentials_ok_iff.mp success
    exact agreeOutside_withMember (by simp)
  · dsimp only at success
    split_ifs at success
    · obtain ⟨chosen, -, rfl⟩ :=
        scopeAuthenticationOptionsToCredential_ok_iff.mp success
      exact agreeOutside_withMember (by simp)
    · cases success
      exact .refl _ _

variable {navigatorUserAgent userAgent : Option JsString}
  {transportPolicy : VaultUnlockTransportPolicy}
  {transported : OptionsMembers}

theorem restrictToPlatformTransport_agree
    (success : restrictToPlatformTransport options = .ok transported) :
    AgreeOutside [js "allowCredentials"] options transported := by
  unfold restrictToPlatformTransport at success
  split at success
  · cases success
    exact .refl _ _
  · cases success
    exact agreeOutside_withMember (by simp)
  · cases success
    exact .refl _ _
  · cases success
    exact agreeOutside_withMember (by simp)
  · split_ifs at success
    cases success
    exact .refl _ _

theorem applyVaultUnlockTransportPolicy_agree
    (success : applyVaultUnlockTransportPolicy navigatorUserAgent options
      userAgent transportPolicy = .ok transported) :
    AgreeOutside [js "allowCredentials"] options transported := by
  cases transportPolicy with
  | preserve =>
      cases success
      exact .refl _ _
  | discoverable =>
      cases success
      exact agreeOutside_withMember (by simp)
  | platformOnly => exact restrictToPlatformTransport_agree success
  | appleMobileInternalWorkaround =>
      rw [applyVaultUnlockTransportPolicy] at success
      split_ifs at success
      · exact restrictToPlatformTransport_agree success
      · cases success
        exact .refl _ _

/-- The preparation of options with one input asks for that input, whatever
the context is. -/
theorem prepareVaultUnlockAuthenticationOptions_evaluates
    {context : UnlockAuthenticationContext} {value : OptionsValue}
    (prf : (OptionsValue.get (.object options) "extensions").get "prf" =
      canonicalPrf value)
    (first : coercePrfSaltToArrayBuffer value = .arrayBuffer salt)
    (success : prepareVaultUnlockAuthenticationOptions navigatorUserAgent
      options context = .ok prepared) :
    EvaluatesOnly salt options prepared := by
  simp only [prepareVaultUnlockAuthenticationOptions,
    Outcome.bind_eq_ok_iff] at success
  obtain ⟨-, -, selected, selection, transport⟩ := success
  have agree := selectPreparedCredentials_agree selection
  rw [← OptionsValue.get_of_agreeOutside agree (by decide)] at prf
  have transported := applyVaultUnlockTransportPolicy_agree transport
  exact .of_selected agree
    ((preparePrfInput_evaluates _ prf first).1.of_transported transported)

/-! ## Transports -/

/-- The descriptors that a policy leaves. -/
def VaultUnlockTransportPolicy.transport
    (navigatorUserAgent userAgent : Option JsString)
    (descriptors : List OptionsValue) :
    VaultUnlockTransportPolicy → List OptionsValue
  | preserve => descriptors
  | discoverable => []
  | platformOnly => descriptors.map withInternalTransport
  | appleMobileInternalWorkaround =>
      if isAppleMobileUserAgent
          (resolveVaultUnlockUserAgent navigatorUserAgent userAgent) then
        descriptors.map withInternalTransport
      else descriptors

private theorem restrictToPlatformTransport_array
    {descriptors : List OptionsValue}
    (listed : options.lookup (js "allowCredentials") =
      some (.array descriptors))
    (success : restrictToPlatformTransport options = .ok transported) :
    transported.lookup (js "allowCredentials") =
      some (.array (descriptors.map withInternalTransport)) := by
  rw [restrictToPlatformTransport, OptionsValue.get_of_lookup listed]
    at success
  cases descriptors with
  | nil =>
      cases success
      exact listed
  | cons descriptor descriptors =>
      cases success
      exact lookup_withMember_self

theorem applyVaultUnlockTransportPolicy_array
    {descriptors : List OptionsValue}
    (listed : options.lookup (js "allowCredentials") =
      some (.array descriptors))
    (success : applyVaultUnlockTransportPolicy navigatorUserAgent options
      userAgent transportPolicy = .ok transported) :
    transported.lookup (js "allowCredentials") =
      some (.array (transportPolicy.transport navigatorUserAgent userAgent
        descriptors)) := by
  cases transportPolicy with
  | preserve =>
      cases success
      exact listed
  | discoverable =>
      cases success
      exact lookup_withMember_self
  | platformOnly => exact restrictToPlatformTransport_array listed success
  | appleMobileInternalWorkaround =>
      simp only [applyVaultUnlockTransportPolicy] at success
      simp only [VaultUnlockTransportPolicy.transport]
      split_ifs at success ⊢
      · exact restrictToPlatformTransport_array listed success
      · cases success
        exact listed

/-- A list of descriptors passes every policy. -/
theorem applyVaultUnlockTransportPolicy_resolves
    {descriptors : List OptionsValue}
    (listed : options.lookup (js "allowCredentials") =
      some (.array descriptors)) :
    ∃ transported, applyVaultUnlockTransportPolicy navigatorUserAgent
      options userAgent transportPolicy = .ok transported := by
  have restricted : ∃ transported,
      restrictToPlatformTransport options = .ok transported := by
    rw [restrictToPlatformTransport, OptionsValue.get_of_lookup listed]
    cases descriptors with
    | nil => exact ⟨_, rfl⟩
    | cons descriptor descriptors => exact ⟨_, rfl⟩
  cases transportPolicy with
  | preserve => exact ⟨_, rfl⟩
  | discoverable => exact ⟨_, rfl⟩
  | platformOnly => exact restricted
  | appleMobileInternalWorkaround =>
      rw [applyVaultUnlockTransportPolicy]
      split_ifs
      · exact restricted
      · exact ⟨_, rfl⟩

theorem credentialId_withInternalTransport (descriptor : OptionsValue) :
    (withInternalTransport descriptor).credentialId =
      descriptor.credentialId := by
  have read : (withInternalTransport descriptor).get "id" =
      descriptor.get "id" := by
    rw [withInternalTransport,
      OptionsValue.get_withMember_of_ne (by decide)]
    cases descriptor <;> rfl
  rw [OptionsValue.credentialId, read, OptionsValue.credentialId]

end

end VaultCore
