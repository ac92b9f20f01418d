import VaultCore.Browser.VaultUnlockAuthOptions
import VaultCore.Crypto.Platform

/-!
# Options of a PRF authentication

The salt of the user replaces every PRF input the server sent, and only then
are the credentials selected.  With an explicit selection the ceremony asks
for nothing the server did not list.
-/

namespace VaultCore

/-- The hash of the platform, and the text by which it names itself. -/
structure CeremonyPlatform where
  sha256 : Bytes → Bytes32
  navigatorUserAgent : Option JsString

/-- The salt of a user: the digest of the prefix and the id. -/
def buildPrfSaltBytes (platform : CeremonyPlatform)
    (prfSaltPrefix userId : JsString) : Bytes :=
  (platform.sha256 (stringToBytes (prfSaltPrefix ++ userId))).val

/-- The options with the salt as their only PRF input. -/
def mergePrfSaltExtensions (options : OptionsMembers) (salt : Bytes) :
    OptionsMembers :=
  withCanonicalPrf options salt

/-- `prepareJson ? prepareJson(serverOptions) : { ...serverOptions }` -/
def preparedJson
    (prepareJson : Option (OptionsMembers → Except VaultError OptionsMembers))
    (serverOptions : OptionsMembers) : Except VaultError OptionsMembers :=
  match prepareJson with
  | some prepareJson => prepareJson serverOptions
  | none => .ok serverOptions

/-- What a caller asks the options of a ceremony for. -/
structure PasskeyPrfAuthenticationInput where
  userId : JsString
  prfSaltPrefix : JsString
  serverOptions : OptionsMembers
  credentialId : Option JsString
  userAgent : Option JsString
  filterSingleCredential : Option Bool
  scopeToCredential : Option Bool
  scopeToDevice : Option Bool
  transportPolicy : Option VaultUnlockTransportPolicy
  credentialSelection : Option PasskeyCredentialSelection
  prepareJson : Option (OptionsMembers → Except VaultError OptionsMembers)

namespace PasskeyPrfAuthenticationInput

variable (input : PasskeyPrfAuthenticationInput)

/-- The transport policy, which preserves unless it is given. -/
def policy : VaultUnlockTransportPolicy :=
  input.transportPolicy.getD .preserve

/-- One of the older fields for the credential is given. -/
def usesLegacySelectionFields : Bool :=
  input.credentialId.isSome || input.scopeToCredential.isSome ||
    input.scopeToDevice.isSome || input.filterSingleCredential.isSome

/-- The ceremony names no credential. -/
def discoverable : Bool :=
  input.policy == .discoverable ||
    input.credentialSelection == some .discoverable

/-- The credential that the input names, by the selection or by the older
fields. -/
def effectiveCredentialId : Option JsString :=
  if input.discoverable then none
  else
    match input.credentialSelection with
    | some (.exact credentialId) => some credentialId
    | _ => input.credentialId

/-- `scopeToCredential ?? scopeToDevice` -/
def shouldScope : Bool :=
  (input.scopeToCredential.or input.scopeToDevice).getD false

/-- An id that is missing or empty. -/
def lacksCredentialId : Bool :=
  (input.effectiveCredentialId.getD []).isEmpty

/-- The input as the older preparation takes it. -/
def unlockContext : UnlockAuthenticationContext :=
  { credentialId := input.effectiveCredentialId
    userAgent := input.userAgent
    filterSingleCredential :=
      if input.credentialSelection.isSome then none
      else if input.discoverable || input.lacksCredentialId then some false
      else some (input.filterSingleCredential.getD true)
    transportPolicy := some input.policy
    credentialSelection := none }

/-- The selection, if one is given, on the options. -/
def selectExplicitly (options : OptionsMembers) :
    Except VaultError OptionsMembers :=
  match input.credentialSelection with
  | some selection => selectAuthenticationCredentials options selection
  | none => .ok options

/-- The explicit selection, and then the strict scope of the older fields. -/
def selectOptions (options : OptionsMembers) :
    Except VaultError OptionsMembers := do
  let selected ← input.selectExplicitly options
  if input.shouldScope then
    if input.lacksCredentialId then
      throw (scopeError .invalidCredentialId
        "Strict WebAuthn credential scoping requires a credential id" none)
    else
      scopeAuthenticationOptionsToCredential selected
        (input.effectiveCredentialId.getD [])
  else return selected

end PasskeyPrfAuthenticationInput

/-- The salt, the selection, and then the older preparation. -/
def prepareVaultPasskeyPrfAuthenticationOptions
    (platform : CeremonyPlatform) (input : PasskeyPrfAuthenticationInput) :
    Except VaultError OptionsMembers := do
  let options ← preparedJson input.prepareJson input.serverOptions
  let salt := buildPrfSaltBytes platform input.prfSaltPrefix input.userId
  assertCredentialSelection input.credentialSelection
    input.usesLegacySelectionFields input.policy
  let selected ← input.selectOptions (mergePrfSaltExtensions options salt)
  prepareVaultUnlockAuthenticationOptions platform.navigatorUserAgent
    selected input.unlockContext

theorem selectOptions_agree {input : PasskeyPrfAuthenticationInput}
    {options selected : OptionsMembers}
    (success : input.selectOptions options = .ok selected) :
    AgreeOutside [js "allowCredentials"] options selected := by
  simp only [PasskeyPrfAuthenticationInput.selectOptions,
    Outcome.bind_eq_ok_iff] at success
  obtain ⟨chosen, selection, scope⟩ := success
  have first : AgreeOutside [js "allowCredentials"] options chosen := by
    unfold PasskeyPrfAuthenticationInput.selectExplicitly at selection
    split at selection
    · obtain ⟨credentials, -, rfl⟩ :=
        selectAuthenticationCredentials_ok_iff.mp selection
      exact agreeOutside_withMember (by simp)
    · cases selection
      exact .refl _ _
  split_ifs at scope
  · obtain ⟨credentials, -, rfl⟩ :=
      scopeAuthenticationOptionsToCredential_ok_iff.mp scope
    exact first.trans (agreeOutside_withMember (by simp))
  · cases scope
    exact first

/-- Every preparation evaluates the salt of the user, with an explicit
selection or without one. -/
theorem prepareVaultPasskeyPrfAuthenticationOptions_evaluates
    {platform : CeremonyPlatform} {input : PasskeyPrfAuthenticationInput}
    {prepared : OptionsMembers}
    (success : prepareVaultPasskeyPrfAuthenticationOptions platform input =
      .ok prepared) :
    ∃ options, EvaluatesOnly
      (buildPrfSaltBytes platform input.prfSaltPrefix input.userId) options
      prepared := by
  simp only [prepareVaultPasskeyPrfAuthenticationOptions,
    Outcome.bind_eq_ok_iff] at success
  obtain ⟨options, -, -, -, selected, selection, unlocked⟩ := success
  have merged : EvaluatesOnly
      (buildPrfSaltBytes platform input.prfSaltPrefix input.userId) options
      selected :=
    withCanonicalPrf_evaluates.of_transported
      (selectOptions_agree selection)
  have evaluates := prepareVaultUnlockAuthenticationOptions_evaluates
    merged.prf rfl unlocked
  exact ⟨selected, evaluates⟩

/-! ## Explicit selections -/

/-- A policy that does not contradict the selection. -/
def PasskeyCredentialSelection.Compatible
    (transportPolicy : VaultUnlockTransportPolicy)
    (selection : PasskeyCredentialSelection) : Prop :=
  (transportPolicy = .discoverable → selection = .discoverable) ∧
    (selection = .discoverable →
      transportPolicy = .preserve ∨ transportPolicy = .discoverable)

theorem assertCredentialSelection_ok_iff
    {selection : PasskeyCredentialSelection} {legacyFields : Bool}
    {transportPolicy : VaultUnlockTransportPolicy} {done : Unit} :
    assertCredentialSelection (some selection) legacyFields
        transportPolicy = .ok done ↔
      legacyFields = false ∧ selection.Compatible transportPolicy := by
  unfold assertCredentialSelection PasskeyCredentialSelection.Compatible
  cases legacyFields with
  | true => simp
  | false =>
      simp only [Bool.false_eq_true, ↓reduceIte, true_and]
      split_ifs with conflict
      · simp only [false_iff]
        tauto
      · simp only [true_iff]
        tauto

section

variable {platform : CeremonyPlatform}
  {input : PasskeyPrfAuthenticationInput}
  {selection : PasskeyCredentialSelection} {prepared : OptionsMembers}

private theorem selectOptions_explicit {options selected : OptionsMembers}
    (explicit : input.credentialSelection = some selection)
    (modern : input.usesLegacySelectionFields = false) :
    input.selectOptions options = .ok selected ↔
      selectAuthenticationCredentials options selection = .ok selected := by
  have unscoped : input.shouldScope = false := by
    simp only [PasskeyPrfAuthenticationInput.usesLegacySelectionFields,
      Bool.or_eq_false_iff, Option.isSome_eq_false_iff,
      Option.isNone_iff_eq_none] at modern
    simp [PasskeyPrfAuthenticationInput.shouldScope, modern]
  simp [PasskeyPrfAuthenticationInput.selectOptions,
    PasskeyPrfAuthenticationInput.selectExplicitly, explicit, unscoped,
    Outcome.bind_eq_ok_iff]

/-- The stages of a preparation with an explicit selection. -/
theorem prepareVaultPasskeyPrfAuthenticationOptions_explicit
    (explicit : input.credentialSelection = some selection)
    (unprepared : input.prepareJson = none) :
    prepareVaultPasskeyPrfAuthenticationOptions platform input =
        .ok prepared ↔
      input.usesLegacySelectionFields = false ∧
        selection.Compatible input.policy ∧
        ∃ chosen, selection.Selects (OptionsValue.get
            (.object input.serverOptions) "allowCredentials") chosen ∧
          applyVaultUnlockTransportPolicy platform.navigatorUserAgent
            (preparePrfInput
              (withMember (mergePrfSaltExtensions input.serverOptions
                  (buildPrfSaltBytes platform input.prfSaltPrefix
                    input.userId))
                (js "allowCredentials") (.array chosen))
              (input.unlockContext.alignedCredentialId
                (input.policy == .discoverable)))
            input.userAgent input.policy = .ok prepared := by
  have unlocked : ∀ options : OptionsMembers,
      prepareVaultUnlockAuthenticationOptions platform.navigatorUserAgent
          options input.unlockContext =
        applyVaultUnlockTransportPolicy platform.navigatorUserAgent
          (preparePrfInput options (input.unlockContext.alignedCredentialId
            (input.policy == .discoverable)))
          input.userAgent input.policy := by
    intro options
    simp [prepareVaultUnlockAuthenticationOptions,
      PasskeyPrfAuthenticationInput.unlockContext, explicit,
      assertCredentialSelection, selectPreparedCredentials]
  simp only [prepareVaultPasskeyPrfAuthenticationOptions, preparedJson,
    unprepared, explicit, Outcome.ok_bind, Outcome.bind_eq_ok_iff,
    assertCredentialSelection_ok_iff, unlocked]
  have listed : OptionsValue.get (.object (mergePrfSaltExtensions
      input.serverOptions (buildPrfSaltBytes platform input.prfSaltPrefix
        input.userId))) "allowCredentials" =
      OptionsValue.get (.object input.serverOptions) "allowCredentials" :=
    OptionsValue.get_congr withCanonicalPrf_allowCredentials
  constructor
  · rintro ⟨-, ⟨modern, compatible⟩, selected, selection, transports⟩
    rw [selectOptions_explicit explicit modern,
      selectAuthenticationCredentials_ok_iff, listed] at selection
    obtain ⟨chosen, selects, rfl⟩ := selection
    exact ⟨modern, compatible, chosen, selects, transports⟩
  · rintro ⟨modern, compatible, chosen, selects, transports⟩
    refine ⟨(), ⟨modern, compatible⟩, _, ?_, transports⟩
    rw [selectOptions_explicit explicit modern,
      selectAuthenticationCredentials_ok_iff, listed]
    exact ⟨chosen, selects, rfl⟩

private theorem mergePrfSaltExtensions_evaluates
    (options : OptionsMembers) (chosen : List OptionsValue)
    (salt : Bytes) :
    EvaluatesOnly salt options
      (withMember (mergePrfSaltExtensions options salt)
        (js "allowCredentials") (.array chosen)) :=
  withCanonicalPrf_evaluates.of_transported
    (agreeOutside_withMember (by simp))

/-- A policy that is compatible with the selection keeps the chosen ids. -/
theorem transport_credentialIds {server : OptionsValue}
    {chosen : List OptionsValue}
    {navigatorUserAgent userAgent : Option JsString}
    {transportPolicy : VaultUnlockTransportPolicy}
    (compatible : selection.Compatible transportPolicy)
    (selects : selection.Selects server chosen) :
    (transportPolicy.transport navigatorUserAgent userAgent chosen).map
        OptionsValue.credentialId =
      chosen.map OptionsValue.credentialId := by
  have internal : (chosen.map withInternalTransport).map
      OptionsValue.credentialId = chosen.map OptionsValue.credentialId := by
    rw [List.map_map]
    apply List.map_congr_left
    intro descriptor _
    exact credentialId_withInternalTransport descriptor
  cases transportPolicy with
  | preserve => rfl
  | platformOnly => exact internal
  | discoverable =>
      rw [compatible.1 rfl] at selects
      rw [selects]
      rfl
  | appleMobileInternalWorkaround =>
      rw [VaultUnlockTransportPolicy.transport]
      split_ifs
      · exact internal
      · rfl

/-- What a ceremony with an explicit selection asks for: the salt of the
user, and no credential but those the selection takes from the server. -/
structure StaysScoped (platform : CeremonyPlatform)
    (input : PasskeyPrfAuthenticationInput)
    (selection : PasskeyCredentialSelection) (prepared : OptionsMembers) :
    Prop where
  evaluates : EvaluatesOnly
    (buildPrfSaltBytes platform input.prfSaltPrefix input.userId)
    input.serverOptions prepared
  credentials : ∃ chosen delivered : List OptionsValue,
    selection.Selects (OptionsValue.get (.object input.serverOptions)
        "allowCredentials") chosen ∧
      prepared.lookup (js "allowCredentials") = some (.array delivered) ∧
      delivered = input.policy.transport platform.navigatorUserAgent
        input.userAgent chosen ∧
      delivered.map OptionsValue.credentialId =
        chosen.map OptionsValue.credentialId

theorem prepared_staysScoped
    (explicit : input.credentialSelection = some selection)
    (unprepared : input.prepareJson = none)
    (success : prepareVaultPasskeyPrfAuthenticationOptions platform input =
      .ok prepared) :
    StaysScoped platform input selection prepared := by
  obtain ⟨-, compatible, chosen, selects, transports⟩ :=
    (prepareVaultPasskeyPrfAuthenticationOptions_explicit explicit
      unprepared).mp success
  have requested := mergePrfSaltExtensions_evaluates
    input.serverOptions chosen
    (buildPrfSaltBytes platform input.prfSaltPrefix input.userId)
  obtain ⟨converted, listed⟩ := preparePrfInput_evaluates
    (input.unlockContext.alignedCredentialId
      (input.policy == .discoverable)) requested.prf rfl
  have delivered := applyVaultUnlockTransportPolicy_array
    (listed.trans lookup_withMember_self) transports
  have transported := applyVaultUnlockTransportPolicy_agree transports
  exact ⟨requested.trans (converted.of_transported transported),
    chosen, _, selects, delivered, rfl,
    transport_credentialIds compatible selects⟩

/-- What is accepted: a selection of its own, with a policy that fits it and
a list it can select from. -/
theorem prepareVaultPasskeyPrfAuthenticationOptions_resolves_iff
    (explicit : input.credentialSelection = some selection)
    (unprepared : input.prepareJson = none) :
    (∃ prepared, prepareVaultPasskeyPrfAuthenticationOptions platform
        input = .ok prepared) ↔
      input.usesLegacySelectionFields = false ∧
        selection.Compatible input.policy ∧
        ∃ chosen, selection.Selects (OptionsValue.get
          (.object input.serverOptions) "allowCredentials") chosen := by
  simp only [prepareVaultPasskeyPrfAuthenticationOptions_explicit explicit
    unprepared]
  constructor
  · rintro ⟨prepared, modern, compatible, chosen, selects, -⟩
    exact ⟨modern, compatible, chosen, selects⟩
  · rintro ⟨modern, compatible, chosen, selects⟩
    have requested := mergePrfSaltExtensions_evaluates
      input.serverOptions chosen
      (buildPrfSaltBytes platform input.prfSaltPrefix input.userId)
    have listed := (preparePrfInput_evaluates
      (input.unlockContext.alignedCredentialId
        (input.policy == .discoverable)) requested.prf rfl).2
    obtain ⟨prepared, transports⟩ :=
      applyVaultUnlockTransportPolicy_resolves
        (listed.trans lookup_withMember_self)
    exact ⟨prepared, modern, compatible, chosen, selects, transports⟩

private theorem rejects_unless_scoped
    (explicit : input.credentialSelection = some selection)
    (unprepared : input.prepareJson = none)
    (never : ∀ prepared, ¬ StaysScoped platform input selection prepared) :
    ∃ error, prepareVaultPasskeyPrfAuthenticationOptions platform input =
      .error error := by
  cases outcome : prepareVaultPasskeyPrfAuthenticationOptions platform
      input with
  | error error => exact ⟨error, rfl⟩
  | ok prepared =>
      exact absurd (prepared_staysScoped explicit unprepared outcome)
        (never prepared)

/-- An explicit selection is refused, or answered with a request for the
salt of the user and for the selected credentials of the server. -/
theorem prf_authentication_never_widens
    (explicit : input.credentialSelection = some selection)
    (unprepared : input.prepareJson = none) :
    ((∃ error, prepareVaultPasskeyPrfAuthenticationOptions platform input =
        .error error) ∨
      ∃ prepared, prepareVaultPasskeyPrfAuthenticationOptions platform
          input = .ok prepared ∧
        StaysScoped platform input selection prepared) ∧
    (selection ≠ .discoverable →
      (∀ descriptors, OptionsValue.get (.object input.serverOptions)
          "allowCredentials" = .array descriptors →
        ¬ IsAllowList descriptors) →
      ∃ error, prepareVaultPasskeyPrfAuthenticationOptions platform input =
        .error error) ∧
    (∀ credentialId, selection = .exact credentialId →
      (∀ descriptors, OptionsValue.get (.object input.serverOptions)
          "allowCredentials" = .array descriptors →
        credentialId ∉ descriptors.map OptionsValue.credentialId) →
      ∃ error, prepareVaultPasskeyPrfAuthenticationOptions platform input =
        .error error) := by
  refine ⟨?_, ?_, ?_⟩
  · cases outcome : prepareVaultPasskeyPrfAuthenticationOptions platform
        input with
    | error error => exact .inl ⟨error, rfl⟩
    | ok prepared =>
        exact .inr ⟨prepared, rfl,
          prepared_staysScoped explicit unprepared outcome⟩
  · intro strict unlisted
    apply rejects_unless_scoped explicit unprepared
    intro prepared stays
    obtain ⟨chosen, -, selects, -⟩ := stays.credentials
    cases selection with
    | exact credentialId =>
        obtain ⟨descriptors, listed, allowed, -⟩ := selects
        exact unlisted descriptors listed allowed
    | allowList => exact unlisted chosen selects.1 selects.2
    | discoverable => exact strict rfl
  · rintro credentialId rfl absent
    apply rejects_unless_scoped explicit unprepared
    intro prepared stays
    obtain ⟨chosen, -, ⟨descriptors, listed, -, descriptor, member, named,
      -⟩, -⟩ := stays.credentials
    apply absent descriptors listed
    rw [← named]
    exact List.mem_map_of_mem member

end

private def listedDescriptor (id : String) : OptionsValue :=
  .object [(js "type", .string (js "public-key")),
    (js "id", .string (js id)),
    (js "transports", .array [.string (js "hybrid")])]

/-- A server that asks for a second salt and for salts of its own. -/
private def hostileInput : PasskeyPrfAuthenticationInput :=
  { userId := js "user-1"
    prfSaltPrefix := js "vault:"
    serverOptions :=
      [(js "userVerification", .string (js "discouraged")),
        (js "extensions", .object
          [(js "appid", .boolean true),
            (js "prf", .object
              [(js "eval", .object [(js "first", .string (js "AAAA")),
                  (js "second", .string (js "AAAA"))]),
                (js "evalByCredential", .object [(js "b", .object
                  [(js "first", .string (js "AAAA"))])])])]),
        (js "allowCredentials", .array
          [listedDescriptor "a", listedDescriptor "b"])]
    credentialId := none
    userAgent := none
    filterSingleCredential := none
    scopeToCredential := none
    scopeToDevice := none
    transportPolicy := some .platformOnly
    credentialSelection := some (.exact (js "b"))
    prepareJson := none }

private def constantPlatform : CeremonyPlatform :=
  { sha256 := fun _ => ⟨List.replicate 32 7, rfl⟩
    navigatorUserAgent := none }

theorem hostile_options_stay_scoped :
    ∃ prepared, prepareVaultPasskeyPrfAuthenticationOptions constantPlatform
        hostileInput = .ok prepared ∧
      StaysScoped constantPlatform hostileInput (.exact (js "b"))
        prepared := by
  have resolves : (prepareVaultPasskeyPrfAuthenticationOptions
      constantPlatform hostileInput).isOk = true := by
    decide +kernel
  have widens := @prf_authentication_never_widens constantPlatform
    hostileInput (.exact (js "b")) rfl rfl
  rcases widens.1 with ⟨error, refused⟩ | prepared
  · rw [refused] at resolves
    cases resolves
  · exact prepared

end VaultCore
