import VaultCore.Async.Yields
import VaultCore.Broker.PortableUnlock
import VaultCore.Session.CreationSoundness

/-!
# The portable unlock from end to end

An enrolment from the cache seals the vault key under a portable unlock key.
The browser serializes both for the broker, the broker delivers the key to one
unlock session, and that session restores the vault key of the enrolment.
-/

namespace VaultCore

section Enrollment

variable {platform : Platform} {inner : Bytes} {iv : Iv}
  {key vaultKey wrappingKey : CryptoKey} {extractable : Bool}
  {keys : DerivedKeys} {scope : VaultScope} {profile : VaultCryptoProfile}
  {supplied : Option Bytes} {payload : EncryptedVaultPayload}

theorem restoreInnerVaultKey_length_le (crypto : platform.Lawful)
    (restored : restoreInnerVaultKey platform inner wrappingKey extractable =
      .ok key) : inner.length ≤ 40 := by
  unfold restoreInnerVaultKey isLegacyRawVaultKeyMaterial at restored
  split at restored
  · rename_i legacy
    have raw := beq_iff_eq.mp legacy
    omega
  · obtain ⟨-, opened, -⟩ := subtleUnwrapKey_ok restored
    have length := crypto.length_unwrap _ _ _ opened
    have bound := key.material.property
    simp only [isAesKeyLength, Bool.or_eq_true, beq_iff_eq] at bound
    omega

theorem materializeInnerVaultKeyBlob_length_le (crypto : platform.Lawful)
    (materialized : materializeInnerVaultKeyBlob platform vaultKey wrappingKey
      supplied = .ok inner) : inner.length ≤ 40 := by
  cases supplied with
  | some blob =>
      rw [materializeInnerVaultKeyBlob, Outcome.bind_eq_ok_iff] at materialized
      obtain ⟨_, matching, same⟩ := materialized
      obtain ⟨restored, found, -⟩ := Outcome.bind_eq_ok_iff.mp matching
      cases same
      exact restoreInnerVaultKey_length_le crypto found
  | none =>
      cases wrapped : subtleWrapKey platform vaultKey wrappingKey with
      | error error =>
          simp only [materializeInnerVaultKeyBlob, wrapped] at materialized
          cases materialized
      | ok blob =>
          simp only [materializeInnerVaultKeyBlob, wrapped] at materialized
          cases materialized
          unfold subtleWrapKey at wrapped
          split at wrapped
          · cases wrapped
          · split_ifs at wrapped
            cases wrapped
            exact length_wrap_le crypto vaultKey.material

theorem encryptedPayloadSchema_wrapped (crypto : platform.Lawful)
    (user : platform.isUuid scope.userId = true)
    (resource : platform.isUuid scope.resourceId = true)
    (wrapped : wrapUserVaultKeyWithDerivedKeys platform iv vaultKey keys scope
      profile supplied = .ok payload) :
    encryptedPayloadSchema platform payload = some payload := by
  obtain ⟨blob, materialized, encrypted⟩ := Outcome.bind_eq_ok_iff.mp wrapped
  have short := materializeInnerVaultKeyBlob_length_le crypto materialized
  apply encryptedPayloadSchema_encryptField crypto encrypted rfl user resource
  rw [stringToBytes, Utf8.length_encode_ascii (bytesToBase64Url_ascii blob),
    length_bytesToBase64Url, maxVaultPlaintextBytes]
  split <;> omega

end Enrollment

section Packages

variable {platform : BrokerPlatform} {input : BrokerEnrollmentInput}

/-- The envelope of an enrolment wraps its vault key. -/
def BrokerEnrollmentInput.Wraps (platform : Platform)
    (input : BrokerEnrollmentInput) (payload : EncryptedVaultPayload) : Prop :=
  ∃ keys supplied, wrapUserVaultKeyWithDerivedKeys platform input.iv
    input.vaultKey keys input.opaqueScope input.profile supplied = .ok payload

theorem createPortableVaultBrokerEnrollmentPackage_wraps :
    (createPortableVaultBrokerEnrollmentPackage platform input).Returns
      fun package => input.Wraps platform.toPlatform
        package.encryptedVaultKey := by
  apply Async.Returns.after
  intro puk
  apply Async.Returns.tryCatch
  · apply Async.Returns.after
    intro page
    apply Async.Returns.bind (.awaitOutcome fun _ created => created)
    intro payload created
    obtain ⟨keys, -, wrapped⟩ := Outcome.bind_eq_ok_iff.mp created
    exact .done ⟨keys, none, wrapped⟩
  · intro error
    apply Async.Returns.after
    exact fun _ => .throw error

theorem createPortableVaultBrokerEncryptedVaultKey_wraps (puk : OwnArray)
    (cached : VaultInnerKeyMaterialCacheEntry) :
    (createPortableVaultBrokerEncryptedVaultKeyFromCachedMaterial platform
      input puk cached).Returns (input.Wraps platform.toPlatform) := by
  apply Async.Returns.after
  intro page
  apply Async.Returns.after
  intro keys
  apply Async.Returns.after
  intro later
  apply Async.Returns.after
  intro bytes
  apply Async.Returns.after
  intro rewrapped
  apply Async.Yields.tryFinally
  apply Async.Returns.after
  intro last
  exact .awaitOutcome fun _ wrapped => ⟨keys, _, wrapped⟩

theorem enrollmentPackage_wraps :
    (createPortableVaultBrokerEnrollmentPackageWithSessionCache platform
      input).Returns fun package => input.Wraps platform.toPlatform
        package.encryptedVaultKey := by
  apply Async.Returns.after
  intro _
  apply Async.Returns.after
  intro cached
  cases cached with
  | none =>
      apply Async.Returns.bind
        (Async.Yields.await createPortableVaultBrokerEnrollmentPackage_wraps)
      intro package wraps
      apply Async.Returns.tryCatch
      · apply Async.Returns.after
        exact fun _ => .done wraps
      · intro error
        apply Async.Returns.after
        exact fun _ => .throw error
  | some entry =>
      apply Async.Returns.after
      intro puk
      apply Async.Returns.tryCatch
      · apply Async.Returns.bind (Async.Yields.await
          (createPortableVaultBrokerEncryptedVaultKey_wraps puk entry))
        intro payload wraps
        apply Async.Returns.after
        exact fun _ => .done wraps
      · intro error
        apply Async.Returns.after
        intro _
        apply Async.Yields.within
        apply Async.Returns.after
        intro _
        apply Async.Returns.after
        exact fun _ => .throw _

/-- In every run the package of an enrolment wraps its vault key. -/
theorem package_wraps {initial : CreationPage} {events : List CreationStep}
    {task : Nat} {package : PortableVaultBrokerEnrollmentPackage}
    (found : ((creationMachine platform).run (Pool.initial initial)
      events).tasks[task]? = some (.create (.brokerEnrollment input),
        .done (.ok (.enrollmentPackage package)))) :
    input.Wraps platform.toPlatform package.encryptedVaultKey := by
  have yields : ∀ call, (creationProgram platform call).Yields
      fun outcome => ∀ input package,
        call = .create (.brokerEnrollment input) →
        outcome = .ok (.enrollmentPackage package) →
        input.Wraps platform.toPlatform package.encryptedVaultKey := by
    intro call
    cases call with
    | session call =>
        exact (Async.Yields.anything _).mono fun _ _ _ _ => nofun
    | create creation =>
        cases creation with
        | passkeyPrf input =>
            exact (Async.Yields.anything _).mono fun _ _ _ _ => nofun
        | brokerEnrollment input =>
            apply Async.Yields.bind (@enrollmentPackage_wraps platform input)
            · intro package wraps other created same given
              cases same
              cases given
              exact wraps package rfl
            · intro error _ other package _
              exact nofun
  have ended := @Machine.yields_of_run _ _ _ _ _ (creationMachine platform) _
    yields _ _ _ _ _ found
  exact ended input package rfl rfl

end Packages

/-- What the broker brings to an unlock grant. -/
structure BrokerGrant where
  broker : EcdhKeyPair
  salt : Bytes32
  iv : Iv
  context : JsString
  requestId : JsString
  completionReceipt : JsString

/-- The broker answers from the enrolment request that it has stored. -/
def BrokerGrant.respond (platform : BrokerSessionPlatform)
    (grant : BrokerGrant) (request : PortableVaultBrokerEnrollmentRequest)
    (publicJwk : PortableVaultBrokerPublicJwk) :
    Except VaultError PortableVaultBrokerUnlockResponse := do
  let puk ← base64UrlToBytes request.puk
  let sealedPuk ← sealForBrowser platform grant.broker grant.salt grant.iv
    puk publicJwk grant.context
  return {
    encryptedVaultKey := request.encryptedVaultKey
    sealedPuk
    requestId := grant.requestId
    completionReceipt := grant.completionReceipt }

/-- The texts of the grant are within the limits of the response. -/
structure BrokerGrant.WellFormed (platform : Platform) (grant : BrokerGrant) :
    Prop where
  context : textWithin grant.context 1 4096 = true
  requestId : platform.isUuid grant.requestId = true
  completionReceipt : textWithin grant.completionReceipt 1 16384 = true

section Delivery

variable {platform : BrokerSessionPlatform} {browser : EcdhKeyPair}
  {jwk brokerJwk : PortableVaultBrokerPublicJwk} {bits : Bytes32}
  {grant : BrokerGrant} {puk : Bytes} {payload : EncryptedVaultPayload}

theorem createPortableVaultBrokerUnlockSession_runAlone
    (generates : platform.Generates browser jwk) (origin : BrokerPage) :
    (createPortableVaultBrokerUnlockSession platform browser).runAlone
        origin =
      (.ok { publicJwk := jwk
             thumbprint := publicJwkThumbprint platform jwk
             session := { index := origin.privateKeys.length } },
        origin.addPrivateKey browser.privateKey) := by
  simp only [createPortableVaultBrokerUnlockSession, Async.runAlone_bind,
    Async.runAlone_awaitOutcome, Async.runAlone_lift, Sync.bind_apply,
    Sync.ofExcept_apply, assertPublicJwk_exported generates, Sync.get_apply,
    Sync.modify_apply, Async.runAlone_pure]
  rfl

theorem BrokerPage.privateKey_addPrivateKey (page : BrokerPage)
    (key : EcdhPrivateKey) :
    (page.addPrivateKey key).privateKey
      { index := page.privateKeys.length } = some key := by
  simp [BrokerPage.privateKey, BrokerPage.addPrivateKey]

theorem BrokerPage.privateKey_dropPrivateKey (page : BrokerPage)
    (session : PortableVaultBrokerUnlockSession) :
    (page.dropPrivateKey session).privateKey session = none := by
  simp only [BrokerPage.privateKey, BrokerPage.dropPrivateKey,
    List.getElem?_set_self']
  cases page.privateKeys[session.index]? with
  | none => rfl
  | some _ => rfl

/-- The response to a grant. -/
def BrokerGrant.response (platform : BrokerSessionPlatform)
    (grant : BrokerGrant) (brokerJwk : PortableVaultBrokerPublicJwk)
    (bits : Bytes32) (puk : Bytes) (payload : EncryptedVaultPayload) :
    PortableVaultBrokerUnlockResponse :=
  { encryptedVaultKey := payload
    sealedPuk := sealedPukWith brokerJwk grant.salt grant.iv
      (platform.aesGcmSeal (pukSealKey platform bits grant.salt.val
        (pukSealInfo grant.context)).material grant.iv.val
        (pukSealInfo grant.context) puk) grant.context
    requestId := grant.requestId
    completionReceipt := grant.completionReceipt }

theorem BrokerGrant.respond_eq (generates : platform.Generates browser jwk)
    (brokerGenerates : platform.Generates grant.broker brokerJwk)
    (agrees : platform.Agrees browser grant.broker bits) :
    grant.respond platform
        { puk := bytesToBase64Url puk, encryptedVaultKey := payload } jwk =
      .ok (grant.response platform brokerJwk bits puk payload) := by
  simp only [BrokerGrant.respond, base64UrlToBytes_bytesToBase64Url,
    Outcome.ok_bind, sealForBrowser_eq generates brokerGenerates agrees]
  rfl

theorem BrokerGrant.response_accepted (crypto : platform.toPlatform.Lawful)
    (wellFormed : grant.WellFormed platform.toPlatform)
    (brokerGenerates : platform.Generates grant.broker brokerJwk)
    (full : puk.length = pukBytes)
    (accepted : encryptedPayloadSchema platform.toPlatform payload =
      some payload) :
    portableVaultBrokerUnlockResponseSchema platform.toPlatform
        (grant.response platform brokerJwk bits puk payload) =
      some (grant.response platform brokerJwk bits puk payload) := by
  have sealedPuk := @portableVaultBrokerSealedPukSchema_sealed platform
    grant.broker brokerJwk grant.salt grant.iv puk grant.context crypto
    (pukSealKey platform bits grant.salt.val
      (pukSealInfo grant.context)).material (pukSealInfo grant.context)
    brokerGenerates full wellFormed.context
  simp only [portableVaultBrokerUnlockResponseSchema, BrokerGrant.response,
    wellFormed.requestId, wellFormed.completionReceipt, Bool.and_self,
    if_true, accepted, sealedPuk]
  rfl

theorem parseUnlockResponse_accepted
    {response : PortableVaultBrokerUnlockResponse}
    (accepted : portableVaultBrokerUnlockResponseSchema platform.toPlatform
      response = some response)
    (envelope : encryptedPayloadSchema platform.toPlatform
      response.encryptedVaultKey = some response.encryptedVaultKey) :
    parseUnlockResponse platform (some response) = .ok response := by
  simp only [parseUnlockResponse, Option.bind_some, accepted, envelope]

end Delivery

/-- A grant for a session of the browser restores the vault key: whatever page
the session is used on, it can be used there once. -/
def BrokerGrant.Restores (platform : BrokerSessionPlatform)
    (grant : BrokerGrant) (request : PortableVaultBrokerEnrollmentRequest)
    (browser : EcdhKeyPair) (scope : VaultScope)
    (profile : VaultCryptoProfile) (key : CryptoKey) : Prop :=
  ∀ origin created opened,
    (createPortableVaultBrokerUnlockSession platform browser).runAlone
      origin = (.ok created, opened) →
    opened.privateKey created.session = some browser.privateKey ∧
    ∃ response, grant.respond platform request created.publicJwk =
        .ok response ∧
      isPortableVaultBrokerUnlockResponse platform (some response) = true ∧
      ∀ (page : BrokerPage) (unlock : PortableVaultBrokerClientUnlockInput),
        unlock.response = some response → unlock.session = created.session →
        unlock.expectedOpaqueScope = scope → unlock.profile = profile →
        page.privateKey created.session = some browser.privateKey →
        unlock.Permitted response.completionReceipt page →
        PortableUnlocked platform.toPlatform unlock response key
            (page.dropPrivateKey created.session)
            ((unlockPortableVaultBrokerResponse platform unlock).runAlone
              page) ∧
          ((unlockPortableVaultBrokerResponse platform unlock).runAlone
            page).2.privateKey created.session = none

/-- In every run of the enrolling page a package serializes for the broker,
and any grant for any session of any page restores the enrolled vault key. -/
theorem portable_unlock_round_trip (platform : BrokerSessionPlatform)
    {initial : CreationPage} {events : List CreationStep} {task : Nat}
    {input : BrokerEnrollmentInput}
    {package : PortableVaultBrokerEnrollmentPackage}
    {browser : EcdhKeyPair} {grant : BrokerGrant}
    {jwk brokerJwk : PortableVaultBrokerPublicJwk} {bits : Bytes32}
    (key : RestorableKey platform.toPlatform input.vaultKey)
    (user : platform.isUuid input.opaqueScope.userId = true)
    (resource : platform.isUuid input.opaqueScope.resourceId = true)
    (generates : platform.Generates browser jwk)
    (brokerGenerates : platform.Generates grant.broker brokerJwk)
    (agrees : platform.Agrees browser grant.broker bits)
    (wellFormed : grant.WellFormed platform.toPlatform)
    (found : ((creationMachine platform.toBrokerPlatform).run
      (Pool.initial initial) events).tasks[task]? =
        some (.create (.brokerEnrollment input),
          .done (.ok (.enrollmentPackage package)))) :
    ∃ earlier start finish request,
      (creationMachine platform.toBrokerPlatform).segments task
        (Pool.initial initial) events = earlier ++ [(start, finish)] ∧
      serializePortableVaultBrokerEnrollmentPackage platform
        (finish.array package.puk) package.encryptedVaultKey =
          .ok request ∧
      grant.Restores platform request browser input.opaqueScope
        input.profile input.vaultKey.restored := by
  obtain ⟨earlier, start, finish, now, segments, concluded, -, -⟩ :=
    concluded_of_ended found
  obtain ⟨keys, supplied, wrapped⟩ := package_wraps found
  have opens : unlockPortableVaultBrokerEncryptedVaultKey
      platform.toBrokerPlatform package.encryptedVaultKey
      (finish.array package.puk) input.opaqueScope input.profile =
        .ok input.vaultKey.restored := concluded.opens key _ rfl
  generalize content : finish.array package.puk = puk at opens
  have full : puk.length = pukBytes :=
    (derivePortableVaultKeys_ok_iff.mp (portable_opened opens).2.1).1
  have accepted : encryptedPayloadSchema platform.toPlatform
      package.encryptedVaultKey = some package.encryptedVaultKey :=
    encryptedPayloadSchema_wrapped key.crypto user resource wrapped
  refine ⟨earlier, start, finish,
    { puk := bytesToBase64Url puk
      encryptedVaultKey := package.encryptedVaultKey }, segments, ?_, ?_⟩
  · rw [content]
    exact serializePortableVaultBrokerEnrollmentPackage_ok_iff.mpr
      ⟨full, rfl, accepted⟩
  · intro origin created opened creates
    rw [createPortableVaultBrokerUnlockSession_runAlone generates] at creates
    cases creates
    have schema := @BrokerGrant.response_accepted platform brokerJwk bits
      grant puk package.encryptedVaultKey key.crypto wellFormed
      brokerGenerates full accepted
    refine ⟨origin.privateKey_addPrivateKey _, _,
      BrokerGrant.respond_eq generates brokerGenerates agrees, ?_, ?_⟩
    · simp only [isPortableVaultBrokerUnlockResponse, Option.bind_some,
        schema, Option.isSome_some]
    · intro page unlock responded session scope profile unused permitted
      have parsed := parseUnlockResponse_accepted schema accepted
      rw [← responded] at parsed
      rw [← session] at unused ⊢
      have delivers := @unseal_delivers platform browser grant.broker
        brokerJwk bits grant.salt grant.iv puk grant.context page key.crypto
        unlock.session unused brokerGenerates agrees full
      rw [← scope, ← profile] at opens
      have unlocked := unlockPortableVaultBrokerResponse_runAlone key.crypto
        permitted parsed delivers opens
      refine ⟨unlocked, ?_⟩
      rw [BrokerPage.privateKey, unlocked.privateKeys]
      exact BrokerPage.privateKey_dropPrivateKey page unlock.session

namespace Reference

/-- Diffie-Hellman in the additive group of the bytes, with a generator of its
own, beside the ciphers of the enrolment. -/
def exchangePlatform : BrokerSessionPlatform :=
  { envelopePlatform puk with
    sha256 := derive
    exportP256PublicKey := fun key =>
      { kty := some (js "EC")
        crv := some (js "P-256")
        x := some (bytesToBase64Url key.point)
        y := some (bytesToBase64Url key.point)
        d := none }
    importP256PublicKey := fun jwk => do
      let point ← base64UrlToBytes jwk.x
      return { point }
    deriveEcdhBits := fun publicKey privateKey =>
      .ok (derive (List.zipWith (· * ·) publicKey.point privateKey.secret)) }

def generatedPair (secret : UInt8) : EcdhKeyPair :=
  { privateKey := { secret := [secret] }
    publicKey := { point := [secret * 3] } }

def generatedJwk (secret : UInt8) : PortableVaultBrokerPublicJwk :=
  { kty := js "EC"
    crv := js "P-256"
    x := bytesToBase64Url [secret * 3]
    y := bytesToBase64Url [secret * 3] }

theorem exchangePlatform_generates (secret : UInt8) :
    exchangePlatform.Generates (generatedPair secret)
      (generatedJwk secret) where
  exported := rfl
  accepted := by
    have within : textWithin (bytesToBase64Url [secret * 3]) 1 128 = true := by
      have one : [secret * 3].length = 1 := rfl
      rw [textWithin, length_bytesToBase64Url, one]
      rfl
    simp only [portableVaultBrokerPublicJwkSchema, generatedJwk,
      beq_self_eq_true, within, Bool.and_self, if_true]
  imported := by
    simp only [exchangePlatform, generatedJwk,
      base64UrlToBytes_bytesToBase64Url, Outcome.ok_bind]
    rfl

theorem exchangePlatform_agrees (browser broker : UInt8) :
    exchangePlatform.Agrees (generatedPair browser) (generatedPair broker)
      (derive [broker * 3 * browser]) where
  derived := rfl
  sealing := by
    have commutes : browser * 3 * broker = broker * 3 * browser := by
      rw [UInt8.mul_comm browser 3, UInt8.mul_assoc, UInt8.mul_comm browser,
        ← UInt8.mul_assoc, UInt8.mul_comm 3]
    change Except.ok (derive [browser * 3 * broker]) = _
    rw [commutes]

theorem puk_length : puk.length = 32 := List.length_replicate

def enrolledInput : BrokerEnrollmentInput :=
  { vaultKey := sessionKey
    opaqueScope := referenceScope
    profile := referenceProfile
    operation := some { id := 0 }
    randomBytes := ⟨puk, puk_length⟩
    iv := referenceIv }

/-- The enrolment, resumed to its end. -/
def enrolledRun : List CreationStep :=
  .start (.create (.brokerEnrollment enrolledInput)) ::
    List.replicate 4 (.resume 0)

def referenceGrant : BrokerGrant :=
  { broker := generatedPair 11
    salt := ⟨List.replicate 32 1, List.length_replicate⟩
    iv := referenceIv
    context := js "grant"
    requestId := js "request"
    completionReceipt := js "receipt" }

end Reference

/-- The enrolment from the cache of the reference page. -/
theorem portable_unlock_round_trip_enrolled :
    ∃ earlier start finish request,
      (creationMachine Reference.exchangePlatform.toBrokerPlatform).segments 0
        (Pool.initial Reference.enrollingPage) Reference.enrolledRun =
          earlier ++ [(start, finish)] ∧
      serializePortableVaultBrokerEnrollmentPackage Reference.exchangePlatform
        (finish.array { index := 0 })
        (Reference.createdEnvelope Reference.puk) = .ok request ∧
      Reference.referenceGrant.Restores Reference.exchangePlatform request
        (Reference.generatedPair 5) referenceScope referenceProfile
        Reference.sessionKey.restored := by
  have key : RestorableKey Reference.exchangePlatform.toPlatform
      Reference.sessionKey :=
    ⟨Reference.platform_lawful _, ⟨rfl, List.length_replicate⟩,
      @Reference.envelopeLedger_idealProbe Reference.puk
        (Reference.material 7) List.length_replicate⟩
  exact @portable_unlock_round_trip Reference.exchangePlatform
    Reference.enrollingPage Reference.enrolledRun 0 Reference.enrolledInput
    { puk := { index := 0 }
      encryptedVaultKey := Reference.createdEnvelope Reference.puk }
    (Reference.generatedPair 5) Reference.referenceGrant
    (Reference.generatedJwk 5) (Reference.generatedJwk 11) _ key rfl rfl
    (Reference.exchangePlatform_generates 5)
    (Reference.exchangePlatform_generates 11)
    (Reference.exchangePlatform_agrees 5 11)
    ⟨by decide, rfl, by decide⟩ rfl

end VaultCore
