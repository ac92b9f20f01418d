import VaultCore.Broker.SealedDelivery
import VaultCore.Rotation.CacheReuse
import VaultCore.Session.Effects

/-!
# A portable unlock that runs alone

Alone, an unlock only adds arrays to its page, so what it has read stays
readable: the sealed key reaches its session, the envelope opens, and the
cache is written with what the envelope holds.
-/

namespace VaultCore

/-- The page with more arrays, and otherwise the same session and keys. -/
structure BrokerPage.Extended (start finish : BrokerPage) : Prop where
  session : ∃ added, finish.session =
    { start.session with buffers := start.session.buffers ++ added }
  privateKeys : finish.privateKeys = start.privateKeys

namespace BrokerPage.Extended

variable {start middle finish : BrokerPage}

theorem refl (page : BrokerPage) : page.Extended page where
  session := ⟨[], by rw [List.append_nil]⟩
  privateKeys := rfl

theorem trans (first : start.Extended middle)
    (second : middle.Extended finish) : start.Extended finish := by
  obtain ⟨earlier, firstSame⟩ := first.session
  obtain ⟨later, secondSame⟩ := second.session
  constructor
  case session =>
    refine ⟨earlier ++ later, ?_⟩
    rw [secondSame, firstSame]
    simp only [List.append_assoc]
  case privateKeys => exact second.privateKeys.trans first.privateKeys

theorem length_le (extended : start.Extended finish) :
    start.session.buffers.length ≤ finish.session.buffers.length := by
  obtain ⟨added, same⟩ := extended.session
  rw [same]
  simp only [List.length_append]
  exact Nat.le_add_right _ _

theorem core (extended : start.Extended finish) :
    finish.session.toSessionCore = start.session.toSessionCore := by
  obtain ⟨added, same⟩ := extended.session
  rw [same]

theorem buffer (extended : start.Extended finish) {reference : BufferRef}
    (held : reference.index < start.session.buffers.length) :
    finish.buffer reference = start.buffer reference := by
  obtain ⟨added, same⟩ := extended.session
  simp only [BrokerPage.buffer, SessionState.buffer, same,
    List.getElem?_append_left held]

theorem record (event : BrokerEvent) (page : BrokerPage) :
    page.Extended (page.record event) where
  session := ⟨[], by rw [List.append_nil]; rfl⟩
  privateKeys := rfl

end BrokerPage.Extended

theorem List.modify_append_of_le {α : Type} {start added : List α}
    {index : Nat} (update : α → α) (beyond : start.length ≤ index) :
    (start ++ added).modify index update =
      start ++ added.modify (index - start.length) update := by
  apply List.ext_getElem?
  intro place
  by_cases inside : place < start.length
  · rw [List.getElem?_modify_ne _ _ (by omega),
      List.getElem?_append_left inside, List.getElem?_append_left inside]
  · have above := not_lt.mp inside
    rw [List.getElem?_append_right above, List.getElem?_modify,
      List.getElem?_modify, List.getElem?_append_right above]
    have same : index = place ↔
        index - start.length = place - start.length := by omega
    simp only [same]

theorem BrokerPage.Extended.zeroBuffer {start finish : BrokerPage}
    (extended : start.Extended finish) {reference : BufferRef}
    (added : start.session.buffers.length ≤ reference.index) :
    start.Extended (finish.zeroBuffer reference) := by
  obtain ⟨arrays, same⟩ := extended.session
  constructor
  case session =>
    refine ⟨arrays.modify (reference.index - start.session.buffers.length)
      fun bytes => List.replicate bytes.length 0, ?_⟩
    simp only [BrokerPage.zeroBuffer, SessionState.zeroBuffer, same,
      List.modify_append_of_le _ added]
  case privateKeys => exact extended.privateKeys

/-- The page holds an array with the content. -/
structure BrokerPage.Has (page : BrokerPage) (reference : BufferRef)
    (content : Bytes) : Prop where
  present : reference.index < page.session.buffers.length
  same : page.buffer reference = content

theorem BrokerPage.buffer_zeroBuffer {page : BrokerPage}
    {reference other : BufferRef} (apart : other.index ≠ reference.index) :
    (page.zeroBuffer other).buffer reference = page.buffer reference := by
  simp only [BrokerPage.buffer, SessionState.buffer, BrokerPage.zeroBuffer,
    SessionState.zeroBuffer]
  rw [List.getElem?_modify_ne _ _ apart]

theorem BrokerPage.Has.zeroBuffer {page : BrokerPage}
    {reference other : BufferRef} {content : Bytes}
    (has : page.Has reference content) (apart : other.index ≠ reference.index) :
    (page.zeroBuffer other).Has reference content where
  present := by
    simp only [BrokerPage.zeroBuffer, SessionState.zeroBuffer,
      List.length_modify]
    exact has.present
  same := (BrokerPage.buffer_zeroBuffer apart).trans has.same

/-- The code gives an array of its own with the content. -/
structure BrokerPage.Delivers (start : BrokerPage) (content : Bytes)
    (ran : Except VaultError BufferRef × BrokerPage) : Prop where
  extended : start.Extended ran.2
  delivered : ∃ reference, ran.1 = .ok reference ∧
    start.session.buffers.length ≤ reference.index ∧
    ran.2.Has reference content

/-- The page after an allocation. -/
def BrokerPage.allocated (bytes : Bytes) (page : BrokerPage) : BrokerPage :=
  { page with session :=
      { page.session with buffers := page.session.buffers ++ [bytes] } }

/-- The reference that the next array gets. -/
def BrokerPage.nextBuffer (page : BrokerPage) : BufferRef :=
  { index := page.session.buffers.length }

section Allocation

variable {page : BrokerPage} {bytes : Bytes}

theorem allocatePageBuffer_apply (bytes : Bytes) (page : BrokerPage) :
    allocatePageBuffer bytes page =
      (.ok page.nextBuffer, page.allocated bytes) := rfl

theorem BrokerPage.extended_allocated (bytes : Bytes) (page : BrokerPage) :
    page.Extended (page.allocated bytes) where
  session := ⟨[bytes], rfl⟩
  privateKeys := rfl

@[simp] theorem BrokerPage.buffer_allocated :
    (page.allocated bytes).buffer page.nextBuffer = bytes := by
  simp [BrokerPage.buffer, SessionState.buffer, BrokerPage.allocated,
    BrokerPage.nextBuffer]

theorem BrokerPage.nextBuffer_lt :
    page.nextBuffer.index < (page.allocated bytes).session.buffers.length := by
  simp [BrokerPage.allocated, BrokerPage.nextBuffer]

theorem decodeFieldBuffer_written {maxBytes : Nat}
    (within : bytes.length ≤ maxBytes) :
    decodeFieldBuffer (bytesToBase64Url bytes) maxBytes page =
      (.ok page.nextBuffer, page.allocated bytes) := by
  simp only [decodeFieldBuffer, decodeBoundedBase64Url_of_le within]
  rfl

/-- An array of the work is zeroed at its end, and what the work delivers is
another one. -/
theorem withZeroedBuffer_delivers {create : BrokerSync BufferRef}
    {work : BufferRef → BrokerAsync BufferRef} {content : Bytes}
    (created : create page = (.ok page.nextBuffer, page.allocated bytes))
    (delivers : (page.allocated bytes).Delivers content
      ((work page.nextBuffer).runAlone (page.allocated bytes))) :
    page.Delivers content ((withZeroedBuffer create work).runAlone page) := by
  have ran : (withZeroedBuffer create work).runAlone page =
      (((work page.nextBuffer).runAlone (page.allocated bytes)).1,
        BrokerPage.zeroBuffer page.nextBuffer
          ((work page.nextBuffer).runAlone (page.allocated bytes)).2) := by
    rw [withZeroedBuffer, Async.runAlone_bind_ok
      (by rw [Async.runAlone_lift]; exact created), Async.runAlone_tryFinally]
  obtain ⟨reference, given, beyond, has⟩ := delivers.delivered
  have fresh := Nat.lt_of_lt_of_le BrokerPage.nextBuffer_lt beyond
  rw [ran]
  constructor
  case extended =>
    apply BrokerPage.Extended.zeroBuffer _ (Nat.le_refl _)
    exact (BrokerPage.extended_allocated bytes page).trans delivers.extended
  case delivered =>
    exact ⟨reference, given, Nat.le_of_lt fresh,
      has.zeroBuffer (Nat.ne_of_lt fresh)⟩

end Allocation

namespace BrokerPage.Has

variable {page later : BrokerPage} {reference : BufferRef}
  {content bytes : Bytes}

theorem extended (has : page.Has reference content)
    (grown : page.Extended later) : later.Has reference content where
  present := Nat.lt_of_lt_of_le has.present grown.length_le
  same := (grown.buffer has.present).trans has.same

theorem allocated (has : page.Has reference content) (bytes : Bytes) :
    (page.allocated bytes).Has reference content :=
  has.extended (extended_allocated bytes page)

theorem next (bytes : Bytes) (page : BrokerPage) :
    (page.allocated bytes).Has page.nextBuffer bytes where
  present := nextBuffer_lt
  same := buffer_allocated

end BrokerPage.Has

section Unsealing

variable {platform : BrokerSessionPlatform} {browser broker : EcdhKeyPair}
  {jwk brokerJwk : PortableVaultBrokerPublicJwk} {bits salt : Bytes32}
  {iv : Iv} {puk : Bytes} {context : JsString} {page : BrokerPage}

/-- The shared secret opens what was sealed under it. -/
theorem decryptSealedPuk_delivers (crypto : platform.toPlatform.Lawful)
    {sharedBits saltBytes ivBytes ciphertext info : BufferRef}
    (full : puk.length = pukBytes)
    (secret : page.Has sharedBits bits.val)
    (salted : page.Has saltBytes salt.val) (vector : page.Has ivBytes iv.val)
    (purpose : page.Has info (pukSealInfo context))
    (body : page.Has ciphertext (platform.aesGcmSeal
      (pukSealKey platform bits salt.val (pukSealInfo context)).material
      iv.val (pukSealInfo context) puk)) :
    page.Delivers puk ((decryptSealedPuk platform sharedBits saltBytes ivBytes
      ciphertext info).runAlone page) := by
  have opened : subtleDecrypt platform.toPlatform
      (pukSealKey platform bits salt.val (pukSealInfo context)) iv.val
      (pukSealInfo context) (platform.aesGcmSeal
        (pukSealKey platform bits salt.val (pukSealInfo context)).material
        iv.val (pukSealInfo context) puk) = .ok puk := by
    simp only [subtleDecrypt, pukSealKey, crypto.open_seal]
  have ran : (decryptSealedPuk platform sharedBits saltBytes ivBytes
      ciphertext info).runAlone page =
      (.ok page.nextBuffer,
        (page.allocated puk).record (.unsealed page.nextBuffer)) := by
    simp only [pukSealKey] at opened body
    simp only [decryptSealedPuk, Async.runAlone_bind, Async.runAlone_lift,
      Async.runAlone_awaitOutcome, Sync.bind_apply, Sync.get_apply,
      Sync.ofExcept_apply, secret.same, salted.same, vector.same,
      purpose.same, body.same, opened, allocatePageBuffer_apply, recordEvent,
      Sync.modify_apply, full, ne_eq, not_true_eq_false, if_false,
      Async.runAlone_pure]
    rfl
  rw [ran]
  constructor
  case extended =>
    exact (BrokerPage.extended_allocated puk page).trans (.record _ _)
  case delivered =>
    exact ⟨page.nextBuffer, rfl, Nat.le_refl _,
      (BrokerPage.Has.next puk page).extended (.record _ _)⟩

theorem unsealPuk_delivers (crypto : platform.toPlatform.Lawful)
    (session : PortableVaultBrokerUnlockSession)
    (brokerGenerates : platform.Generates broker brokerJwk)
    (agrees : platform.Agrees browser broker bits)
    (full : puk.length = pukBytes) :
    page.Delivers puk ((unsealPuk platform session browser.privateKey
      (sealedPukWith brokerJwk salt iv (platform.aesGcmSeal
        (pukSealKey platform bits salt.val (pukSealInfo context)).material
        iv.val (pukSealInfo context) puk) context)).runAlone page) := by
  generalize sealed : platform.aesGcmSeal
    (pukSealKey platform bits salt.val (pukSealInfo context)).material
    iv.val (pukSealInfo context) puk = ciphertext
  have ciphertextLength : ciphertext.length = sealedPukBytes := by
    rw [← sealed, crypto.length_seal, full]
    rfl
  have begun : (unsealPuk platform session browser.privateKey
      (sealedPukWith brokerJwk salt iv ciphertext context)).runAlone page =
      (withZeroedBuffer (allocatePageBuffer bits.val) fun sharedBits =>
        withZeroedBuffer
          (decodeFieldBuffer (bytesToBase64Url salt.val) ecdhSaltBytes)
          fun salt =>
        withZeroedBuffer
          (decodeFieldBuffer (bytesToBase64Url iv.val) aesGcmIvBytes)
          fun iv =>
        withZeroedBuffer
          (decodeFieldBuffer (bytesToBase64Url ciphertext) sealedPukBytes)
          fun ciphertext => do
        let page ← Async.lift Sync.get
        if (page.buffer salt).length ≠ ecdhSaltBytes ∨
            (page.buffer iv).length ≠ aesGcmIvBytes ∨
            (page.buffer ciphertext).length ≠ sealedPukBytes then
          Async.throw
            (.error "Sealed portable unlock key has invalid field lengths")
        else
          withZeroedBuffer (allocatePageBuffer (pukSealInfo context))
            (decryptSealedPuk platform sharedBits salt iv
              ciphertext)).runAlone (page.record (.derived session)) := by
    simp only [unsealPuk, sealedPukWith, Async.runAlone_bind,
      Async.runAlone_lift, Async.runAlone_awaitOutcome, Sync.bind_apply,
      Sync.ofExcept_apply, brokerGenerates.imported, recordEvent,
      Sync.modify_apply, agrees.derived]
  rw [begun]
  have recorded := BrokerPage.Extended.record (.derived session) page
  generalize page.record (.derived session) = start at recorded
  suffices delivers : start.Delivers puk _ by
    obtain ⟨reference, given, beyond, has⟩ := delivers.delivered
    exact
      { extended := recorded.trans delivers.extended
        delivered := ⟨reference, given,
          Nat.le_trans recorded.length_le beyond, has⟩ }
  apply withZeroedBuffer_delivers (allocatePageBuffer_apply _ _)
  apply withZeroedBuffer_delivers
    (decodeFieldBuffer_written (Nat.le_of_eq salt.property))
  apply withZeroedBuffer_delivers
    (decodeFieldBuffer_written (Nat.le_of_eq iv.property))
  apply withZeroedBuffer_delivers
    (decodeFieldBuffer_written (Nat.le_of_eq ciphertextLength))
  set one := start.allocated bits.val with one_eq
  set two := one.allocated salt.val with two_eq
  set three := two.allocated iv.val with three_eq
  set four := three.allocated ciphertext with four_eq
  have secret : four.Has start.nextBuffer bits.val :=
    (((BrokerPage.Has.next _ _).allocated _).allocated _).allocated _
  have salted : four.Has one.nextBuffer salt.val :=
    ((BrokerPage.Has.next _ _).allocated _).allocated _
  have vector : four.Has two.nextBuffer iv.val :=
    (BrokerPage.Has.next _ _).allocated _
  have body : four.Has three.nextBuffer ciphertext := .next _ _
  rw [Async.runAlone_bind_ok (by rw [Async.runAlone_lift]; rfl), if_neg]
  case hnc =>
    simp only [salted.same, vector.same, body.same, salt.property,
      iv.property, ciphertextLength, ecdhSaltBytes, aesGcmIvBytes,
      maxVaultIvBytes, ne_eq, not_true_eq_false, or_self, not_false_eq_true]
  case _ =>
    apply withZeroedBuffer_delivers (allocatePageBuffer_apply _ _)
    rw [← sealed] at body
    exact decryptSealedPuk_delivers crypto full (secret.allocated _)
      (salted.allocated _) (vector.allocated _) (.next _ _)
      (body.allocated _)

/-- An unused session opens what was sealed to it, and has been used then. -/
theorem unseal_delivers (crypto : platform.toPlatform.Lawful)
    {session : PortableVaultBrokerUnlockSession}
    (unused : page.privateKey session = some browser.privateKey)
    (brokerGenerates : platform.Generates broker brokerJwk)
    (agrees : platform.Agrees browser broker bits)
    (full : puk.length = pukBytes) :
    ((page.dropPrivateKey session).record (.taken session)).Delivers puk
      ((session.unseal platform (sealedPukWith brokerJwk salt iv
        (platform.aesGcmSeal
          (pukSealKey platform bits salt.val (pukSealInfo context)).material
          iv.val (pukSealInfo context) puk) context)).runAlone page) := by
  have taken : takePrivateKey session page =
      (.ok browser.privateKey,
        (page.dropPrivateKey session).record (.taken session)) := by
    simp only [takePrivateKey, Sync.bind_apply, Sync.get_apply, unused,
      Sync.modify_apply, Sync.pure_apply]
  rw [PortableVaultBrokerUnlockSession.unseal,
    Async.runAlone_bind_ok (by rw [Async.runAlone_lift]; exact taken),
    Async.runAlone_await]
  exact unsealPuk_delivers crypto session brokerGenerates agrees full

end Unsealing

section Opening

variable {platform : BrokerSessionPlatform} {page : BrokerPage}
  {payload : EncryptedVaultPayload} {puk : BufferRef} {bytes : Bytes}
  {scope : VaultScope} {profile : VaultCryptoProfile} {key : CryptoKey}

theorem sessionOfPage_settled : sessionOfPage.Settled where
  write_write := fun _ _ _ => rfl
  write_read := fun _ => rfl

theorem BrokerPage.assertMutationAllowed_ok
    {operation : Option VaultSessionOperation}
    (allowed : page.session.mutationAllowed operation = .ok ()) :
    BrokerPage.assertMutationAllowed operation page = (.ok (), page) := by
  simp only [BrokerPage.assertMutationAllowed, Sync.within, sessionOfPage,
    assertVaultSessionMutationAllowed_ok allowed]

/-- What an envelope that the key opens consists of. -/
theorem portable_opened {content : Bytes}
    (opens : unlockPortableVaultBrokerEncryptedVaultKey
      platform.toBrokerPlatform payload content scope profile = .ok key) :
    assertVaultKeyAad scope payload profile = .ok () ∧
      derivePortableVaultKeys platform.toBrokerPlatform content =
        .ok (portableVaultKeys platform.toBrokerPlatform content) ∧
      ∃ inner,
        extractInnerVaultKeyBlob platform.toPlatform payload
          (portableVaultKeys platform.toBrokerPlatform
            content).encryptionKey = .ok inner ∧
        restoreInnerVaultKey platform.toPlatform inner
          (portableVaultKeys platform.toBrokerPlatform content).wrappingKey
          false = .ok key := by
  obtain ⟨⟨⟩, asserted, rest⟩ := Outcome.bind_eq_ok_iff.mp opens
  obtain ⟨keys, derived, unwrapped⟩ := Outcome.bind_eq_ok_iff.mp rest
  have same := (derivePortableVaultKeys_ok_iff.mp derived).2
  subst same
  exact ⟨asserted, derived,
    unwrapUserVaultKeyWithDerivedKeys_ok_iff.mp unwrapped⟩

/-- The page after the inner blob of an envelope has been restored. -/
def BrokerPage.restoring (inner : Bytes) (page : BrokerPage) : BrokerPage :=
  (page.allocated inner).record (.restored page.nextBuffer)

theorem unwrapInnerMaterial_runAlone {keys : DerivedKeys} {inner : Bytes}
    (extracted : extractInnerVaultKeyBlob platform.toPlatform payload
      keys.encryptionKey = .ok inner)
    (restored : restoreInnerVaultKey platform.toPlatform inner
      keys.wrappingKey false = .ok key) :
    (BrokerPage.unwrapUserVaultKeyWithDerivedKeysAndInnerMaterial
      platform.toBrokerPlatform payload keys).runAlone page =
        (.ok (key, page.nextBuffer), page.restoring inner) := by
  simp only [BrokerPage.unwrapUserVaultKeyWithDerivedKeysAndInnerMaterial,
    Async.runAlone_bind, Async.runAlone_tryCatch, Async.runAlone_lift,
    Async.runAlone_awaitOutcome, Sync.bind_apply, Sync.tryCatch,
    Sync.ofExcept_apply, extracted, restored, allocatePageBuffer_apply,
    recordEvent, Sync.modify_apply]
  rfl

theorem derivePortableVaultKeys_runAlone {keys : DerivedKeys}
    (holds : page.buffer puk = bytes)
    (derived : derivePortableVaultKeys platform.toBrokerPlatform bytes =
      .ok keys) :
    (BrokerPage.derivePortableVaultKeys platform.toBrokerPlatform
      puk).runAlone page = (.ok keys, page) := by
  simp only [BrokerPage.derivePortableVaultKeys, Async.runAlone_bind,
    Async.runAlone_lift, Async.runAlone_awaitOutcome, Sync.bind_apply,
    Sync.get_apply, Sync.ofExcept_apply, holds, derived]

variable {input : PortableVaultBrokerClientUnlockInput}
  {response : PortableVaultBrokerUnlockResponse}

/-- The unlock has its result and has left the other keys of the page. -/
structure UnlockedAlone (response : PortableVaultBrokerUnlockResponse)
    (key : CryptoKey) (page : BrokerPage)
    (ran : Except VaultError PortableVaultBrokerClientUnlockResult ×
      BrokerPage) : Prop where
  unlocked : ran.1 =
    .ok (.unlocked key response.requestId response.completionReceipt)
  privateKeys : ran.2.privateKeys = page.privateKeys

/-- The session with another cache entry. -/
def SessionState.storing (inner : BufferRef) (wrappingKey : CryptoKey)
    (session : SessionState) : SessionState :=
  session.clearCachedEntry.mapCore fun core =>
    { core with cachedEntry := some { inner, wrappingKey } }

/-- The cache entry is a new array that restores the key. -/
def CachesPortableKey (platform : Platform) (key : CryptoKey)
    (page finish : BrokerPage) : Prop :=
  ∃ entry, finish.session.cachedEntry = some entry ∧
    page.session.buffers.length ≤ entry.inner.index ∧
    restoreInnerVaultKey platform (finish.buffer entry.inner)
      entry.wrappingKey false = .ok key

theorem unlockWithoutSessionCache_runAlone
    (held : page.buffer puk = bytes)
    (allowed : page.session.mutationAllowed none = .ok ())
    (opens : unlockPortableVaultBrokerEncryptedVaultKey
      platform.toBrokerPlatform response.encryptedVaultKey bytes
      input.expectedOpaqueScope input.profile = .ok key) :
    UnlockedAlone response key page
      ((unlockWithoutSessionCache platform input response puk).runAlone
        page) := by
  obtain ⟨asserted, derived, inner, extracted, restored⟩ :=
    portable_opened opens
  have later : ((page.restoring inner).zeroBuffer
      page.nextBuffer).session.mutationAllowed none = .ok () := allowed
  have opened : (BrokerPage.unlockPortableVaultBrokerEncryptedVaultKey
      platform.toBrokerPlatform response.encryptedVaultKey puk
      input.expectedOpaqueScope input.profile).runAlone page =
        (.ok key, (page.restoring inner).zeroBuffer page.nextBuffer) := by
    simp only [BrokerPage.unlockPortableVaultBrokerEncryptedVaultKey,
      BrokerPage.unwrapUserVaultKeyWithDerivedKeys, Async.runAlone_bind,
      Async.runAlone_lift, Async.runAlone_await, Sync.bind_apply,
      Sync.ofExcept_apply, asserted,
      derivePortableVaultKeys_runAlone held derived,
      unwrapInnerMaterial_runAlone extracted restored,
      Async.runAlone_tryFinally, Async.runAlone_pure]
    rfl
  have ran : (unlockWithoutSessionCache platform input response
      puk).runAlone page =
        (.ok (.unlocked key response.requestId response.completionReceipt),
          (page.restoring inner).zeroBuffer page.nextBuffer) := by
    simp only [unlockWithoutSessionCache, Async.runAlone_bind,
      Async.runAlone_await, Async.runAlone_lift, Sync.bind_apply, opened,
      BrokerPage.assertMutationAllowed_ok later, Async.runAlone_pure]
    rfl
  rw [ran]
  exact ⟨rfl, rfl⟩

/-- The opened inner blob is left in a new array of the page. -/
theorem unlockWithInnerMaterial_runAlone (held : page.buffer puk = bytes)
    (opens : unlockPortableVaultBrokerEncryptedVaultKey
      platform.toBrokerPlatform response.encryptedVaultKey bytes
      input.expectedOpaqueScope input.profile = .ok key) :
    ∃ inner wrappingKey,
      (BrokerPage.unlockPortableVaultBrokerEncryptedVaultKeyWithInnerMaterial
        platform.toBrokerPlatform response.encryptedVaultKey puk
        input.expectedOpaqueScope input.profile).runAlone page =
          (.ok { vaultKey := key, innerVaultKeyBlob := page.nextBuffer
                 wrappingKey }, page.restoring inner) ∧
      restoreInnerVaultKey platform.toPlatform inner wrappingKey false =
        .ok key := by
  obtain ⟨asserted, derived, inner, extracted, restored⟩ :=
    portable_opened opens
  refine ⟨inner, _, ?_, restored⟩
  simp only [
    BrokerPage.unlockPortableVaultBrokerEncryptedVaultKeyWithInnerMaterial,
    Async.runAlone_bind, Async.runAlone_lift, Async.runAlone_await,
    Sync.bind_apply, Sync.ofExcept_apply, asserted,
    derivePortableVaultKeys_runAlone held derived,
    unwrapInnerMaterial_runAlone extracted restored]
  rfl

theorem unlockIntoSessionCache_runAlone (crypto : platform.toPlatform.Lawful)
    {operation : VaultSessionOperation}
    {verify : JsString → Except VaultError Unit}
    (held : page.buffer puk = bytes)
    (allocated : page.session.EntryAllocated)
    (allowed : page.session.mutationAllowed (some operation) = .ok ())
    (verifier : input.verifyAndConsumeCompletionReceipt = some verify)
    (accepted : verify response.completionReceipt = .ok ())
    (opens : unlockPortableVaultBrokerEncryptedVaultKey
      platform.toBrokerPlatform response.encryptedVaultKey bytes
      input.expectedOpaqueScope input.profile = .ok key) :
    UnlockedAlone response key page
        ((unlockIntoSessionCache platform input response operation
          puk).runAlone page) ∧
      CachesPortableKey platform.toPlatform key page
        ((unlockIntoSessionCache platform input response operation
          puk).runAlone page).2 := by
  obtain ⟨inner, wrappingKey, opened, restored⟩ :=
    unlockWithInnerMaterial_runAlone held opens
  set verified := (page.restoring inner).record
    (.receiptResolved response.completionReceipt) with verified_eq
  have content : verified.session.buffer page.nextBuffer = inner :=
    BrokerPage.buffer_allocated
  have matching : assertInnerVaultKeyBlobMatchesVaultKey platform.toPlatform
      (verified.session.buffer page.nextBuffer) key wrappingKey =
        .ok () := by
    rw [content]
    exact assertInnerVaultKeyBlobMatchesVaultKey_ok crypto restored
      (restoreInnerVaultKey_ok restored).1 rfl
  have cached : (cacheVaultInnerKeyMaterialFromEnvelopeDecrypt
      platform.toPlatform page.nextBuffer wrappingKey key
      (some operation)).runAlone verified.session =
        (.ok (), verified.session.storing page.nextBuffer wrappingKey) :=
    cacheVaultInnerKeyMaterialFromEnvelopeDecrypt_runAlone allowed matching
  set stored := verified.session.storing page.nextBuffer wrappingKey
    with stored_eq
  have later : BrokerPage.assertMutationAllowed (some operation)
      { verified with session := stored } =
        (.ok (), { verified with session := stored }) := by
    apply BrokerPage.assertMutationAllowed_ok
    rw [← allowed]
    simp only [stored_eq, SessionState.storing, SessionState.mapCore,
      clearCachedEntry_core]
    rfl
  have ran : (unlockIntoSessionCache platform input response operation
      puk).runAlone page =
        (.ok (.unlocked key response.requestId response.completionReceipt),
          { verified with session := stored }) := by
    simp only [unlockIntoSessionCache, Async.runAlone_bind,
      Async.runAlone_await, Async.runAlone_lift, Async.runAlone_attempt,
      Async.runAlone_awaitOutcome, Sync.bind_apply, opened, callVerifier,
      verifier, Sync.ofExcept_apply, accepted, recordEvent,
      Sync.modify_apply, Async.runAlone_within sessionOfPage_settled]
    simp only [sessionOfPage, ← verified_eq, cached]
    simp only [later]
    rfl
  rw [ran]
  refine ⟨⟨rfl, rfl⟩, _, rfl, Nat.le_refl _, ?_⟩
  have kept : verified.session.clearCachedEntry.buffer page.nextBuffer =
      verified.session.buffer page.nextBuffer := by
    apply buffer_clearCachedEntry
    intro entry found
    exact Nat.ne_of_lt (allocated entry found)
  change restoreInnerVaultKey platform.toPlatform
    (verified.session.clearCachedEntry.buffer page.nextBuffer) wrappingKey
    false = .ok key
  rw [kept, content]
  exact restored

end Opening

/-- The caller may unlock, and its verifier accepts the receipt. -/
structure PortableVaultBrokerClientUnlockInput.Permitted
    (input : PortableVaultBrokerClientUnlockInput) (receipt : JsString)
    (page : BrokerPage) : Prop where
  allocated : page.session.EntryAllocated
  allowed : page.session.mutationAllowed input.operation = .ok ()
  verified : ∀ operation, input.operation = some operation →
    ∃ verify, input.verifyAndConsumeCompletionReceipt = some verify ∧
      verify receipt = .ok ()

section Response

variable {platform : BrokerSessionPlatform} {page later : BrokerPage}
  {input : PortableVaultBrokerClientUnlockInput}
  {response : PortableVaultBrokerUnlockResponse} {puk : BufferRef}
  {bytes : Bytes} {key : CryptoKey} {receipt : JsString}

theorem PortableVaultBrokerClientUnlockInput.Permitted.extended
    (permitted : input.Permitted receipt page)
    (grown : page.Extended later) : input.Permitted receipt later where
  allocated := by
    intro entry cached
    rw [grown.core] at cached
    exact Nat.lt_of_lt_of_le (permitted.allocated entry cached)
      grown.length_le
  allowed := by
    rw [grown.core]
    exact permitted.allowed
  verified := permitted.verified

/-- A portable unlock that has gone well. -/
structure PortableUnlocked (platform : Platform)
    (input : PortableVaultBrokerClientUnlockInput)
    (response : PortableVaultBrokerUnlockResponse) (key : CryptoKey)
    (page : BrokerPage)
    (ran : Except VaultError PortableVaultBrokerClientUnlockResult ×
      BrokerPage) : Prop extends UnlockedAlone response key page ran where
  cached : input.operation.isSome = true →
    CachesPortableKey platform key page ran.2

theorem CachesPortableKey.zeroBuffer {crypto : Platform}
    (caches : CachesPortableKey crypto key page later)
    (older : puk.index < page.session.buffers.length) :
    CachesPortableKey crypto key page (later.zeroBuffer puk) := by
  obtain ⟨entry, found, beyond, restores⟩ := caches
  refine ⟨entry, found, beyond, ?_⟩
  have other : puk.index ≠ entry.inner.index := by omega
  rw [BrokerPage.buffer_zeroBuffer other]
  exact restores

theorem unlockWithPuk_runAlone (crypto : platform.toPlatform.Lawful)
    (held : page.Has puk bytes)
    (permitted : input.Permitted response.completionReceipt page)
    (opens : unlockPortableVaultBrokerEncryptedVaultKey
      platform.toBrokerPlatform response.encryptedVaultKey bytes
      input.expectedOpaqueScope input.profile = .ok key) :
    PortableUnlocked platform.toPlatform input response key page
      ((unlockWithPuk platform input response puk).runAlone page) := by
  obtain ⟨allocated, allowed, verified⟩ := permitted
  rw [unlockWithPuk, Async.runAlone_tryFinally]
  cases token : input.operation with
  | none =>
      rw [token] at allowed
      obtain ⟨unlocked, privateKeys⟩ :=
        unlockWithoutSessionCache_runAlone held.same allowed opens
      simp only [Async.runAlone_tryCatch, Sync.tryCatch]
      generalize (unlockWithoutSessionCache platform input response
        puk).runAlone page = ran at *
      obtain ⟨outcome, finish⟩ := ran
      cases unlocked
      constructor
      case toUnlockedAlone => exact ⟨rfl, privateKeys⟩
      case cached =>
        intro present
        rw [token] at present
        cases present
  | some operation =>
      rw [token] at allowed
      obtain ⟨verify, verifier, accepted⟩ := verified operation token
      obtain ⟨⟨unlocked, privateKeys⟩, caches⟩ :=
        unlockIntoSessionCache_runAlone crypto held.same allocated allowed
          verifier accepted opens
      simp only [Async.runAlone_tryCatch, Sync.tryCatch]
      generalize (unlockIntoSessionCache platform input response operation
        puk).runAlone page = ran at *
      obtain ⟨outcome, finish⟩ := ran
      cases unlocked
      constructor
      case toUnlockedAlone => exact ⟨rfl, privateKeys⟩
      case cached => exact fun _ => caches.zeroBuffer held.present

/-- A response whose key reaches the session opens its envelope. -/
theorem unlockPortableVaultBrokerResponse_runAlone
    (crypto : platform.toPlatform.Lawful)
    (permitted : input.Permitted response.completionReceipt page)
    (parsed : parseUnlockResponse platform input.response = .ok response)
    (delivers : ((page.dropPrivateKey input.session).record
      (.taken input.session)).Delivers bytes
        ((input.session.unseal platform response.sealedPuk).runAlone page))
    (opens : unlockPortableVaultBrokerEncryptedVaultKey
      platform.toBrokerPlatform response.encryptedVaultKey bytes
      input.expectedOpaqueScope input.profile = .ok key) :
    PortableUnlocked platform.toPlatform input response key
      (page.dropPrivateKey input.session)
      ((unlockPortableVaultBrokerResponse platform input).runAlone page) := by
  have required : requireCompletionReceiptVerifier input = .ok () := by
    rw [requireCompletionReceiptVerifier, if_neg]
    intro missing
    simp only [Bool.and_eq_true, Option.isSome_iff_exists,
      Option.isNone_iff_eq_none] at missing
    obtain ⟨⟨operation, token⟩, absent⟩ := missing
    obtain ⟨verify, present, -⟩ := permitted.verified operation token
    rw [absent] at present
    cases present
  obtain ⟨puk, given, beyond, held⟩ := delivers.delivered
  set taken := (page.dropPrivateKey input.session).record
    (.taken input.session) with taken_eq
  set unsealed := ((input.session.unseal platform
    response.sealedPuk).runAlone page).2 with unsealed_eq
  have ran : (unlockPortableVaultBrokerResponse platform input).runAlone
      page = (unlockWithPuk platform input response puk).runAlone
        unsealed := by
    simp only [unlockPortableVaultBrokerResponse, Async.runAlone_bind,
      Async.runAlone_lift, Async.runAlone_attempt, Async.runAlone_await,
      Sync.bind_apply, BrokerPage.assertMutationAllowed_ok permitted.allowed,
      Sync.ofExcept_apply, required, parsed, given, ← unsealed_eq]
  have grown : taken.Extended unsealed := delivers.extended
  have started : input.Permitted response.completionReceipt taken :=
    ⟨permitted.allocated, permitted.allowed, permitted.verified⟩
  obtain ⟨⟨unlocked, privateKeys⟩, cached⟩ :=
    unlockWithPuk_runAlone crypto held (started.extended grown) opens
  rw [ran]
  constructor
  case toUnlockedAlone =>
    exact ⟨unlocked, privateKeys.trans grown.privateKeys⟩
  case cached =>
    intro token
    obtain ⟨entry, found, beyond, restores⟩ := cached token
    exact ⟨entry, found, Nat.le_trans grown.length_le beyond, restores⟩

end Response

end VaultCore
