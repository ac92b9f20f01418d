import VaultCore.Browser.PasskeyPrfAuthOptions

/-!
# Routes of the PRF salt

A server can write the salt into its options, an authentication can put it
in, and a registration can.  All three evaluate the same bytes, or an
envelope made after one could never be opened after another.
-/

namespace VaultCore

/-- The extensions with the salt as a text. -/
def buildPasskeyPrfAuthenticationExtensionsJson
    (platform : CeremonyPlatform) (prfSaltPrefix userId : JsString) :
    OptionsMembers :=
  [(js "prf", canonicalPrf (.string (bytesToBase64Url
    (buildPrfSaltBytes platform prfSaltPrefix userId))))]

/-- What a caller asks the options of a registration for. -/
structure PasskeyPrfRegistrationInput where
  userId : JsString
  prfSaltPrefix : JsString
  serverOptions : OptionsMembers
  prepareJson : Option (OptionsMembers → Except VaultError OptionsMembers)

/-- The PRF input of a registration: what the server sent, without inputs of
single credentials and with the salt as the first input. -/
def registrationPrf (existingPrf : OptionsValue) (salt : Bytes) :
    OptionsMembers :=
  let registrationPrf := withoutMember existingPrf.spread
    (js "evalByCredential")
  let evalInput := OptionsValue.get (.object registrationPrf) "eval"
  withMember registrationPrf (js "eval")
    (.object (withMember evalInput.spread (js "first") (.arrayBuffer salt)))

/-- The options of a registration that asks for the PRF. -/
def prepareVaultPasskeyPrfRegistrationOptions
    (platform : CeremonyPlatform) (input : PasskeyPrfRegistrationInput) :
    Except VaultError OptionsMembers := do
  let options ← preparedJson input.prepareJson input.serverOptions
  let salt := buildPrfSaltBytes platform input.prfSaltPrefix input.userId
  let extensions := OptionsValue.get (.object options) "extensions"
  return withMember options (js "extensions")
    (prepareWebAuthnPrfExtensions (.object (withMember extensions.spread
      (js "prf") (.object
        (registrationPrf (extensions.get "prf") salt)))))

section

variable {platform : CeremonyPlatform} {prfSaltPrefix userId : JsString}

theorem registrationPrf_eval (existingPrf : OptionsValue) (salt : Bytes) :
    ∃ members, OptionsValue.get
        (.object (registrationPrf existingPrf salt)) "eval" =
          .object members ∧
      OptionsValue.get (.object members) "first" = .arrayBuffer salt :=
  ⟨_, OptionsValue.get_withMember_self, OptionsValue.get_withMember_self⟩

theorem preparePrfEval_first {members : OptionsMembers} {salt : Bytes}
    (first : OptionsValue.get (.object members) "first" =
      .arrayBuffer salt) :
    ∃ prepared, preparePrfEval (.object members) = some prepared ∧
      OptionsValue.get prepared "first" = .arrayBuffer salt := by
  have salted : preparedSalt (.object members) "first" =
      [(js "first", .arrayBuffer salt)] := by
    simp [preparedSalt, first, BrowserValue.isUndefined,
      coercePrfSaltToArrayBuffer, asArrayBuffer]
  refine ⟨.object (preparedSalt (.object members) "first" ++
    preparedSalt (.object members) "second"), ?_, ?_⟩
  · simp [preparePrfEval, salted]
  · apply OptionsValue.get_of_lookup
    rw [salted]
    rfl

/-- A conversion keeps a first input that is a buffer. -/
theorem prepareWebAuthnPrfExtensions_first {extensions : OptionsValue}
    {members prf : OptionsMembers} {salt : Bytes}
    (given : extensions.get "prf" = .object prf)
    (evalInput : OptionsValue.get (.object prf) "eval" = .object members)
    (first : OptionsValue.get (.object members) "first" =
      .arrayBuffer salt) :
    (((prepareWebAuthnPrfExtensions extensions).get "prf").get "eval").get
      "first" = .arrayBuffer salt := by
  obtain ⟨prepared, converted, kept⟩ := preparePrfEval_first first
  simp only [prepareWebAuthnPrfExtensions, given, evalInput, converted,
    BrowserValue.truthy_object, Bool.not_true, Bool.false_eq_true,
    ↓reduceIte, OptionsValue.get_withMember_self]
  generalize (if (OptionsValue.get (.object prf) "evalByCredential").truthy
    then _ else _ : OptionsMembers) = evalByCredential
  cases evalByCredential with
  | nil =>
      simp only [List.isEmpty_nil, ↓reduceIte,
        OptionsValue.get_withMember_self, kept]
  | cons entry entries =>
      simp only [List.isEmpty_cons, Bool.false_eq_true, ↓reduceIte]
      rw [OptionsValue.get_withMember_of_ne (by decide),
        OptionsValue.get_withMember_self, kept]

/-- A registration is prepared whenever its options are. -/
theorem prepareVaultPasskeyPrfRegistrationOptions_evalFirst
    {input : PasskeyPrfRegistrationInput} {options : OptionsMembers}
    (json : preparedJson input.prepareJson input.serverOptions =
      .ok options) :
    ∃ prepared, prepareVaultPasskeyPrfRegistrationOptions platform input =
        .ok prepared ∧
      prfEvalFirst prepared = .arrayBuffer
        (buildPrfSaltBytes platform input.prfSaltPrefix input.userId) := by
  rw [prepareVaultPasskeyPrfRegistrationOptions, json]
  refine ⟨_, rfl, ?_⟩
  obtain ⟨members, evalInput, first⟩ := registrationPrf_eval
    ((OptionsValue.get (.object options) "extensions").get "prf")
    (buildPrfSaltBytes platform input.prfSaltPrefix input.userId)
  rw [prfEvalFirst, OptionsValue.get_withMember_self]
  exact prepareWebAuthnPrfExtensions_first
    OptionsValue.get_withMember_self evalInput first

theorem coercePrfSaltToArrayBuffer_bytesToBase64Url (salt : Bytes) :
    coercePrfSaltToArrayBuffer (.string (bytesToBase64Url salt)) =
      .arrayBuffer salt := by
  rw [coercePrfSaltToArrayBuffer, base64UrlToBytes_bytesToBase64Url]

/-- The salt of a user is the same on every route: written into the options
by a server, put in for an authentication, put in for a registration. -/
theorem prf_routes_evaluate_one_salt (platform : CeremonyPlatform)
    (prfSaltPrefix userId : JsString) :
    (∀ options context prepared,
      (OptionsValue.get (.object options) "extensions").get "prf" =
        OptionsValue.get (.object
          (buildPasskeyPrfAuthenticationExtensionsJson platform prfSaltPrefix
            userId)) "prf" →
      prepareVaultUnlockAuthenticationOptions platform.navigatorUserAgent
        options context = .ok prepared →
      prfEvalFirst prepared = .arrayBuffer
        (platform.sha256 (stringToBytes (prfSaltPrefix ++ userId))).val) ∧
    (∀ (input : PasskeyPrfAuthenticationInput) (prepared : OptionsMembers),
      prepareVaultPasskeyPrfAuthenticationOptions platform
        { input with userId := userId, prfSaltPrefix := prfSaltPrefix } =
          .ok prepared →
      prfEvalFirst prepared = .arrayBuffer
        (platform.sha256 (stringToBytes (prfSaltPrefix ++ userId))).val) ∧
    (∀ (input : PasskeyPrfRegistrationInput) (options : OptionsMembers),
      preparedJson input.prepareJson input.serverOptions = .ok options →
      ∃ prepared, prepareVaultPasskeyPrfRegistrationOptions platform
          { input with userId := userId, prfSaltPrefix := prfSaltPrefix } =
            .ok prepared ∧
        prfEvalFirst prepared = .arrayBuffer
          (platform.sha256
            (stringToBytes (prfSaltPrefix ++ userId))).val) := by
  refine ⟨?_, ?_, ?_⟩
  · intro options context prepared spliced success
    have prf : (OptionsValue.get (.object options) "extensions").get "prf" =
        canonicalPrf (.string (bytesToBase64Url
          (buildPrfSaltBytes platform prfSaltPrefix userId))) := by
      rw [spliced]
      exact OptionsValue.get_of_lookup rfl
    have evaluates := prepareVaultUnlockAuthenticationOptions_evaluates prf
      (coercePrfSaltToArrayBuffer_bytesToBase64Url _) success
    exact evaluates.evalFirst
  · intro input prepared success
    obtain ⟨options, evaluates⟩ :=
      prepareVaultPasskeyPrfAuthenticationOptions_evaluates success
    exact evaluates.evalFirst
  · intro input options json
    exact prepareVaultPasskeyPrfRegistrationOptions_evalFirst json

end

private def sampleCeremony : CeremonyPlatform :=
  { sha256 := fun _ => ⟨List.replicate 32 251, rfl⟩
    navigatorUserAgent := some (js "iPhone") }

/-- PRF inputs of a server that are not the salt of the user. -/
private def foreignPrfOptions : OptionsMembers :=
  [(js "extensions", .object [(js "prf", .object
    [(js "eval", .object [(js "first", .string (js "AAAA")),
        (js "second", .array [.number (.finite 1)])]),
      (js "evalByCredential", .object [(js "a", .object
        [(js "first", .arrayBuffer [1, 2, 3])])])])])]

/-- The extensions of the server beside another one. -/
private def splicedOptions : OptionsMembers :=
  [(js "extensions", .object ((js "appid", .boolean true) ::
    buildPasskeyPrfAuthenticationExtensionsJson sampleCeremony
      (js "vault:") (js "user-1")))]

private def deviceContext : UnlockAuthenticationContext :=
  { credentialId := some (js "a")
    userAgent := none
    filterSingleCredential := none
    transportPolicy := some .appleMobileInternalWorkaround
    credentialSelection := none }

private def authenticationInput : PasskeyPrfAuthenticationInput :=
  { userId := js "user-1"
    prfSaltPrefix := js "vault:"
    serverOptions := foreignPrfOptions
    credentialId := some (js "a")
    userAgent := none
    filterSingleCredential := some false
    scopeToCredential := none
    scopeToDevice := none
    transportPolicy := none
    credentialSelection := none
    prepareJson := none }

private def registrationInput : PasskeyPrfRegistrationInput :=
  { userId := js "user-1"
    prfSaltPrefix := js "vault:"
    serverOptions := foreignPrfOptions
    prepareJson := none }

theorem sample_routes_evaluate_one_salt :
    (∃ prepared, prepareVaultUnlockAuthenticationOptions
        (some (js "iPhone")) splicedOptions deviceContext = .ok prepared ∧
      prfEvalFirst prepared = .arrayBuffer (List.replicate 32 251)) ∧
    (∃ prepared, prepareVaultPasskeyPrfAuthenticationOptions sampleCeremony
        authenticationInput = .ok prepared ∧
      prfEvalFirst prepared = .arrayBuffer (List.replicate 32 251)) ∧
    ∃ prepared, prepareVaultPasskeyPrfRegistrationOptions sampleCeremony
        registrationInput = .ok prepared ∧
      prfEvalFirst prepared = .arrayBuffer (List.replicate 32 251) := by
  obtain ⟨spliced, authenticated, registered⟩ :=
    prf_routes_evaluate_one_salt sampleCeremony (js "vault:") (js "user-1")
  refine ⟨?_, ?_, registered registrationInput foreignPrfOptions rfl⟩
  · have unlocks : (prepareVaultUnlockAuthenticationOptions
        (some (js "iPhone")) splicedOptions deviceContext).isOk = true := by
      decide +kernel
    cases outcome : prepareVaultUnlockAuthenticationOptions
        (some (js "iPhone")) splicedOptions deviceContext with
    | error error =>
        rw [outcome] at unlocks
        cases unlocks
    | ok prepared =>
        exact ⟨prepared, rfl, spliced _ _ _ rfl outcome⟩
  · have authenticates : (prepareVaultPasskeyPrfAuthenticationOptions
        sampleCeremony authenticationInput).isOk = true := by
      decide +kernel
    cases outcome : prepareVaultPasskeyPrfAuthenticationOptions
        sampleCeremony authenticationInput with
    | error error =>
        rw [outcome] at authenticates
        cases authenticates
    | ok prepared =>
        exact ⟨prepared, rfl,
          authenticated authenticationInput prepared outcome⟩

end VaultCore
