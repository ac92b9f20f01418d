import VaultCore.Browser.WebAuthnPrfOptions
import VaultCore.Errors
import VaultCore.Data.Outcome
import VaultCore.Text.Words
import VaultCore.Validation.Schemas

/-!
# Selecting the credentials of a ceremony

An exact selection and an allow-list are read strictly from the list the
server sent.  What is selected are descriptors of that list, and a list that
is missing, empty, malformed or repeats a credential is refused.
-/

namespace VaultCore

/-- How many transports a descriptor may list. -/
def maxPasskeyTransports : Nat := 8

/-- `webAuthnTransportSchema` -/
def webAuthnTransports : List JsString :=
  ["ble", "cable", "hybrid", "internal", "nfc", "smart-card", "usb"].map js

/-- Which credentials a ceremony may use. -/
inductive PasskeyCredentialSelection where
  | exact (credentialId : JsString)
  | allowList
  | discoverable
deriving DecidableEq

/-- A scope error with its code, text and descriptor. -/
def scopeError (code : PasskeyCredentialScopeFailureCode) (message : String)
    (descriptorIndex : Option Nat) : VaultError :=
  .passkeyCredentialScopeError code message descriptorIndex

/-- An opaque id: a text of bounded length without surrounding white space. -/
def isOpaqueId (id : JsString) : Bool :=
  id.length != 0 && id.length ≤ maxPasskeyOpaqueIdLength && trim id == id

namespace OptionsValue

/-- A value that is a text. -/
def asText : OptionsValue → Option JsString
  | .string text => some text
  | _ => none

/-- `Array.isArray` -/
def isArray : OptionsValue → Bool
  | .array _ => true
  | _ => false

/-- The id of a descriptor, empty if it is no text. -/
def credentialId (descriptor : OptionsValue) : JsString :=
  (descriptor.get "id").asText.getD []

/-- A list of at most eight distinct transports. -/
def areTransports (value : OptionsValue) : Bool :=
  match value with
  | .array items =>
      items.length ≤ maxPasskeyTransports &&
        match items.mapM asText with
        | some texts =>
            texts.all webAuthnTransports.contains && decide texts.Nodup
        | none => false
  | _ => false

end OptionsValue

/-- One descriptor of the allow-list, refused with its index. -/
def parseDescriptor (value : OptionsValue) (index : Nat) :
    Except VaultError OptionsValue :=
  if !value.isObject || value.isArray then
    .error (scopeError .invalidCredentialDescriptor
      "WebAuthn credential descriptor must be an object" (some index))
  else if !isOpaqueId value.credentialId ||
      (value.get "type").asText != some (js "public-key") then
    .error (scopeError .invalidCredentialDescriptor
      "WebAuthn credential descriptor has an invalid id or type" (some index))
  else if !(value.get "transports").isUndefined &&
      !(value.get "transports").areTransports then
    .error (scopeError .invalidCredentialDescriptor
      "WebAuthn credential descriptor has invalid transports" (some index))
  else .ok value

/-- The loop over the descriptors. -/
def parseDescriptors (index : Nat) :
    List OptionsValue → Except VaultError (List OptionsValue)
  | [] => .ok []
  | value :: values => do
      let descriptor ← parseDescriptor value index
      let descriptors ← parseDescriptors (index + 1) values
      return descriptor :: descriptors

/-- The loop that refuses the second descriptor of a credential. -/
def assertDistinct (seen : List JsString) (index : Nat) :
    List OptionsValue → Except VaultError Unit
  | [] => .ok ()
  | descriptor :: descriptors =>
      if seen.contains descriptor.credentialId then
        .error (scopeError .duplicateCredentialDescriptor
          "WebAuthn allowCredentials contains a duplicate credential"
          (some index))
      else
        assertDistinct (descriptor.credentialId :: seen) (index + 1)
          descriptors

/-- The allow-list, which must not be empty where it is given. -/
def parseAllowList (allowCredentials : OptionsValue) :
    Except VaultError (List OptionsValue) :=
  match allowCredentials with
  | .array [] =>
      .error (scopeError .discoverableCredentialsNotAllowed
        "A non-empty WebAuthn allow-list is required" none)
  | .array items => do
      let parsed ← parseDescriptors 0 items
      assertDistinct [] 0 parsed
      return parsed
  | _ =>
      .error (scopeError .invalidCredentialDescriptor
        "WebAuthn allowCredentials must be an array" none)

/-- The strict part, on a list that is there and not empty. -/
def scopeToListed (options : OptionsMembers) (credentialId : JsString)
    (allowCredentials : OptionsValue) : Except VaultError OptionsMembers := do
  let parsed ← parseAllowList allowCredentials
  match parsed.find? fun descriptor =>
      descriptor.credentialId == credentialId with
  | none =>
      throw (scopeError .credentialNotFound
        "Requested WebAuthn credential is not present in allowCredentials"
        none)
  | some matched =>
      return withMember options (js "allowCredentials") (.array [matched])

/-- The options with the one descriptor of the credential. -/
def scopeAuthenticationOptionsToCredential (options : OptionsMembers)
    (credentialId : JsString) : Except VaultError OptionsMembers :=
  if !isOpaqueId credentialId then
    .error (scopeError .invalidCredentialId
      "Requested WebAuthn credential id is invalid" none)
  else
    match OptionsValue.get (.object options) "allowCredentials" with
    | .undefined =>
        .error (scopeError .discoverableCredentialsNotAllowed
          ("Exact credential selection cannot use a discoverable " ++
            "credential flow") none)
    | .array [] =>
        .error (scopeError .discoverableCredentialsNotAllowed
          ("Exact credential selection cannot use a discoverable " ++
            "credential flow") none)
    | allowCredentials =>
        scopeToListed options credentialId allowCredentials

def selectAuthenticationCredentials (options : OptionsMembers) :
    PasskeyCredentialSelection → Except VaultError OptionsMembers
  | .exact credentialId =>
      scopeAuthenticationOptionsToCredential options credentialId
  | .discoverable =>
      .ok (withMember options (js "allowCredentials") (.array []))
  | .allowList => do
      let parsed ← parseAllowList
        (OptionsValue.get (.object options) "allowCredentials")
      return withMember options (js "allowCredentials") (.array parsed)

/-! ## What is selected -/

/-- A descriptor that may stand in an allow-list. -/
structure IsDescriptor (value : OptionsValue) : Prop where
  object : value.isObject = true ∧ value.isArray = false
  id : isOpaqueId value.credentialId = true
  type : (value.get "type").asText = some (js "public-key")
  transports : (value.get "transports").isUndefined = true ∨
    (value.get "transports").areTransports = true

/-- A list that may be selected from. -/
structure IsAllowList (descriptors : List OptionsValue) : Prop where
  nonempty : descriptors ≠ []
  valid : ∀ descriptor ∈ descriptors, IsDescriptor descriptor
  distinct : (descriptors.map OptionsValue.credentialId).Nodup

theorem parseDescriptor_ok_iff {value descriptor : OptionsValue}
    {index : Nat} :
    parseDescriptor value index = .ok descriptor ↔
      IsDescriptor value ∧ descriptor = value := by
  unfold parseDescriptor
  split_ifs with shape named transports
  · simp only [false_iff, not_and]
    intro valid
    simp [valid.object] at shape
  · simp only [false_iff, not_and]
    intro valid
    simp [valid.id, valid.type] at named
  · simp only [false_iff, not_and]
    intro valid
    rcases valid.transports with absent | listed
    · simp [absent] at transports
    · simp [listed] at transports
  · have valid : IsDescriptor value := by
      constructor
      · simpa using shape
      · simp only [Bool.or_eq_true, not_or] at named
        simpa using named.1
      · simp only [Bool.or_eq_true, not_or] at named
        simpa using named.2
      · rw [Bool.and_eq_true, not_and_or] at transports
        simpa using transports
    constructor
    · intro success
      cases success
      exact ⟨valid, rfl⟩
    · rintro ⟨-, rfl⟩
      rfl

theorem parseDescriptors_ok_iff {values descriptors : List OptionsValue}
    {index : Nat} :
    parseDescriptors index values = .ok descriptors ↔
      (∀ value ∈ values, IsDescriptor value) ∧ descriptors = values := by
  induction values generalizing index descriptors with
  | nil => simp [parseDescriptors, eq_comm]
  | cons value values ih =>
      simp only [parseDescriptors, Outcome.bind_eq_ok_iff, ih,
        parseDescriptor_ok_iff, Outcome.pure_eq_ok, Except.ok.injEq,
        List.forall_mem_cons]
      constructor
      · rintro ⟨_, ⟨first, rfl⟩, _, ⟨rest, rfl⟩, rfl⟩
        exact ⟨⟨first, rest⟩, rfl⟩
      · rintro ⟨⟨first, rest⟩, rfl⟩
        exact ⟨value, ⟨first, rfl⟩, values, ⟨rest, rfl⟩, rfl⟩

theorem assertDistinct_ok_iff {seen : List JsString}
    {descriptors : List OptionsValue} {index : Nat} {done : Unit} :
    assertDistinct seen index descriptors = .ok done ↔
      (descriptors.map OptionsValue.credentialId).Nodup ∧
        ∀ descriptor ∈ descriptors, descriptor.credentialId ∉ seen := by
  induction descriptors generalizing seen index with
  | nil => simp [assertDistinct]
  | cons descriptor descriptors ih =>
      rw [assertDistinct]
      split_ifs with repeated
      · have known : descriptor.credentialId ∈ seen := by
          simpa using repeated
        simp [known]
      · have fresh : descriptor.credentialId ∉ seen := by
          simpa using repeated
        rw [ih, List.map_cons, List.nodup_cons, List.forall_mem_cons]
        constructor
        · rintro ⟨distinct, unseen⟩
          refine ⟨⟨?_, distinct⟩, fresh, ?_⟩
          · intro member
            obtain ⟨other, listed, same⟩ := List.mem_map.mp member
            exact unseen other listed (by simp [same])
          · intro other listed known
            exact unseen other listed (List.mem_cons_of_mem _ known)
        · rintro ⟨⟨alone, distinct⟩, -, unseen⟩
          refine ⟨distinct, ?_⟩
          intro other listed known
          rcases List.mem_cons.mp known with same | earlier
          · exact alone (List.mem_map.mpr ⟨other, listed, same⟩)
          · exact unseen other listed earlier

theorem parseAllowList_ok_iff {allowCredentials : OptionsValue}
    {descriptors : List OptionsValue} :
    parseAllowList allowCredentials = .ok descriptors ↔
      allowCredentials = .array descriptors ∧ IsAllowList descriptors := by
  unfold parseAllowList
  split
  · constructor
    · intro success
      cases success
    · rintro ⟨same, allowed⟩
      cases same
      exact absurd rfl allowed.nonempty
  · rename_i items nonempty
    simp only [Outcome.bind_eq_ok_iff, parseDescriptors_ok_iff,
      assertDistinct_ok_iff, Outcome.pure_eq_ok, Except.ok.injEq,
      BrowserValue.array.injEq]
    constructor
    · rintro ⟨_, ⟨valid, rfl⟩, _, ⟨distinct, -⟩, rfl⟩
      refine ⟨rfl, ?_, valid, distinct⟩
      rintro rfl
      exact nonempty rfl
    · rintro ⟨rfl, allowed⟩
      exact ⟨items, ⟨allowed.valid, rfl⟩, (), ⟨allowed.distinct, by simp⟩,
        rfl⟩
  · rename_i _ other
    constructor
    · intro success
      cases success
    · rintro ⟨same, -⟩
      exact absurd same (other descriptors)

/-- What a selection takes from the list of the server. -/
def PasskeyCredentialSelection.Selects (server : OptionsValue)
    (chosen : List OptionsValue) : PasskeyCredentialSelection → Prop
  | exact credentialId =>
      ∃ descriptors : List OptionsValue, server = .array descriptors ∧
        IsAllowList descriptors ∧
          ∃ descriptor : OptionsValue, descriptor ∈ descriptors ∧
            descriptor.credentialId = credentialId ∧ chosen = [descriptor]
  | allowList => server = .array chosen ∧ IsAllowList chosen
  | discoverable => chosen = []

section

variable {options selected : OptionsMembers} {credentialId : JsString}
  {selection : PasskeyCredentialSelection}

theorem scopeToListed_ok_iff {server : OptionsValue} :
    scopeToListed options credentialId server = .ok selected ↔
      ∃ chosen, (PasskeyCredentialSelection.exact credentialId).Selects
          server chosen ∧
        selected = withMember options (js "allowCredentials")
          (.array chosen) := by
  simp only [scopeToListed, Outcome.bind_eq_ok_iff, parseAllowList_ok_iff,
    PasskeyCredentialSelection.Selects]
  constructor
  · rintro ⟨descriptors, ⟨listed, allowed⟩, found⟩
    split at found
    · cases found
    · rename_i matched search
      cases found
      have same := List.find?_some search
      exact ⟨[matched], ⟨descriptors, listed, allowed, matched,
        List.mem_of_find?_eq_some search, beq_iff_eq.mp same, rfl⟩, rfl⟩
  · rintro ⟨chosen, ⟨descriptors, listed, allowed, descriptor, member, named,
      rfl⟩, rfl⟩
    refine ⟨descriptors, ⟨listed, allowed⟩, ?_⟩
    -- the ids are distinct, so the search stops at the named descriptor
    have search : descriptors.find? (fun descriptor =>
        descriptor.credentialId == credentialId) = some descriptor := by
      cases search : descriptors.find? (fun descriptor =>
          descriptor.credentialId == credentialId) with
      | none =>
          have different := List.find?_eq_none.mp search descriptor member
          exact absurd (beq_iff_eq.mpr named) different
      | some matched =>
          have found := List.mem_of_find?_eq_some search
          have same := List.find?_some search
          rw [List.inj_on_of_nodup_map allowed.distinct found member
            ((beq_iff_eq.mp same).trans named.symm)]
    rw [search]
    rfl

theorem scopeAuthenticationOptionsToCredential_ok_iff :
    scopeAuthenticationOptionsToCredential options credentialId =
        .ok selected ↔
      ∃ chosen, (PasskeyCredentialSelection.exact credentialId).Selects
          (OptionsValue.get (.object options) "allowCredentials") chosen ∧
        selected = withMember options (js "allowCredentials")
          (.array chosen) := by
  rw [← scopeToListed_ok_iff]
  unfold scopeAuthenticationOptionsToCredential
  split_ifs with invalid
  · simp only [false_iff, scopeToListed_ok_iff]
    rintro ⟨chosen, ⟨descriptors, listed, allowed, descriptor, member, named,
      -⟩, -⟩
    have valid := (allowed.valid descriptor member).id
    rw [named] at valid
    simp [valid] at invalid
  · split
    · rename_i missing
      rw [missing]
      exact ⟨nofun, nofun⟩
    · rename_i empty
      rw [empty]
      exact ⟨nofun, nofun⟩
    · exact Iff.rfl

theorem selectAuthenticationCredentials_ok_iff :
    selectAuthenticationCredentials options selection = .ok selected ↔
      ∃ chosen, selection.Selects
          (OptionsValue.get (.object options) "allowCredentials") chosen ∧
        selected = withMember options (js "allowCredentials")
          (.array chosen) := by
  cases selection with
  | exact credentialId =>
      exact scopeAuthenticationOptionsToCredential_ok_iff
  | allowList =>
      simp only [selectAuthenticationCredentials, Outcome.bind_eq_ok_iff,
        parseAllowList_ok_iff, Outcome.pure_eq_ok, Except.ok.injEq,
        PasskeyCredentialSelection.Selects, eq_comm (b := selected)]
  | discoverable =>
      simp only [selectAuthenticationCredentials, Except.ok.injEq,
        PasskeyCredentialSelection.Selects, exists_eq_left]
      exact eq_comm

end

end VaultCore
