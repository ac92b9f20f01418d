import VaultCore.Envelopes.PasskeyPrf
import VaultCore.Envelopes.Password
import VaultCore.Envelopes.Recovery
import VaultCore.Envelopes.RoutedOpening
import VaultCore.Validation.PublicMetadata

/-!
# A passkey envelope after independent authorization

A further passkey envelope is created only after a password or a recovery
phrase opened an envelope of the vault.  The inner blob of that envelope is
captured by the decryption callback of routing and re-wrapped under the PRF
output, of which the call takes a copy before its first await.  Every buffer
of its own with key bytes is registered when it is made and zeroed when the
call ends; the copies that `toBufferSource` makes for the calls of the
cryptography are not modelled, and nothing zeroes those.
-/

namespace VaultCore

inductive PasskeyVariantIndependentAuthorization where
  | password (password : JsString) (envelope : PasswordEnvelope)
  | recoveryPhrase (recoveryPhrase : JsString)
      (envelope : RecoveryPhraseEnvelope)
      (expectedWordCount : Option RecoveryPhraseWordCount)
  /-- any other `kind` -/
  | other

/-- The input of one call.  The caller keeps its PRF array and may write to it
while the call waits: `prfOutput n` is what it holds after the `n`-th await. -/
structure IndependentAuthorizationInput where
  authorization : PasskeyVariantIndependentAuthorization
  verifiedCredentialId : JsString
  prfOutput : Nat → Bytes
  expectedScope : VaultScope
  profile : VaultCryptoProfile
  publicMetadata : Option MetadataValue

/-- An envelope with the metadata that is published beside it. -/
structure PublishedPasskeyPrfEnvelope extends PasskeyPrfEnvelope where
  publicMetadata : MetadataMembers

structure IndependentAuthorizationResult where
  vaultKey : CryptoKey
  envelope : PublishedPasskeyPrfEnvelope

/-- The keys of an authorization and the envelope they open. -/
structure DerivedAuthorization where
  keys : DerivedKeys
  encryptedVaultKey : EncryptedVaultPayload

/-- The local state of one call: how often it has awaited, the key buffers it
made, the indices of those it registered and the captured one. -/
structure AuthorizationCall where
  awaited : Nat
  buffers : List Bytes
  sensitiveBuffers : List Nat
  /-- `none` is the empty array the variable starts with. -/
  sourceInner : Option Nat

namespace AuthorizationCall

def start : AuthorizationCall :=
  { awaited := 0, buffers := [], sensitiveBuffers := [], sourceInner := none }

/-- The bytes in a buffer of the call. -/
def buffer (call : AuthorizationCall) (index : Nat) : Bytes :=
  (call.buffers[index]?).getD []

/-- The bytes of the captured inner blob. -/
def source (call : AuthorizationCall) : Bytes :=
  match call.sourceInner with
  | some index => call.buffer index
  | none => []

/-- The call has awaited once more. -/
def resume (call : AuthorizationCall) : AuthorizationCall :=
  { call with awaited := call.awaited + 1 }

def allocate (call : AuthorizationCall) (bytes : Bytes) : AuthorizationCall :=
  { call with buffers := call.buffers ++ [bytes] }

/-- `sensitiveBuffers.push(buffer)` -/
def register (call : AuthorizationCall) (index : Nat) : AuthorizationCall :=
  { call with sensitiveBuffers := call.sensitiveBuffers ++ [index] }

/-- The inner blob is in this buffer. -/
def capture (call : AuthorizationCall) (index : Nat) : AuthorizationCall :=
  { call with sourceInner := some index }

/-- `buffer.fill(0)` -/
def zeroBuffer (buffers : List Bytes) (index : Nat) : List Bytes :=
  buffers.modify index fun bytes => List.replicate bytes.length 0

/-- Every registered buffer is zeroed. -/
def zeroSensitive (call : AuthorizationCall) : AuthorizationCall :=
  { call with
    buffers := call.sensitiveBuffers.foldl zeroBuffer call.buffers }

end AuthorizationCall

section Operations

variable {α : Type}

/-- Await a result: the caller may have run meanwhile. -/
def awaitResult (result : Except VaultError α) :
    Stateful AuthorizationCall VaultError α :=
  fun call => (result, call.resume)

def newBuffer (bytes : Bytes) : Stateful AuthorizationCall VaultError Nat :=
  fun call => (.ok call.buffers.length, call.allocate bytes)

/-- Await bytes, which arrive in a buffer of their own. -/
def awaitBuffer (result : Except VaultError Bytes) :
    Stateful AuthorizationCall VaultError Nat := do
  let bytes ← awaitResult result
  newBuffer bytes

def readBuffer (index : Nat) : Stateful AuthorizationCall VaultError Bytes :=
  fun call => (.ok (call.buffer index), call)

def readSource : Stateful AuthorizationCall VaultError Bytes :=
  fun call => (.ok call.source, call)

def registerSensitive (index : Nat) :
    Stateful AuthorizationCall VaultError Unit :=
  fun call => (.ok (), call.register index)

def captureSource (index : Nat) : Stateful AuthorizationCall VaultError Unit :=
  fun call => (.ok (), call.capture index)

end Operations

section

variable (platform : Platform)

/-- `schema.parse` throws where `safeParse` has no value. -/
def schemaParse {α : Type} : Option α → Except VaultError α
  | some value => .ok value
  | none => .error .zodError

/-- The keys of the password or the phrase, with the envelope to open. -/
def deriveAuthorization :
    PasskeyVariantIndependentAuthorization →
      Except VaultError DerivedAuthorization
  | .password password supplied => do
      let envelope ← schemaParse (passwordEnvelopeSchema platform supplied)
      let keys ← deriveVaultPasswordKeyPairFromMetadata platform password
        envelope.kdfMetadata
      return { keys, encryptedVaultKey := envelope.encryptedVaultKey }
  | .recoveryPhrase recoveryPhrase supplied expectedWordCount => do
      let envelope ← schemaParse (recoveryPhraseEnvelopeSchema platform supplied)
      assertExpectedWordCount platform recoveryPhrase expectedWordCount
      let keys ← deriveRecoveryPhraseKeyFromMetadata platform recoveryPhrase
        envelope.kdfMetadata
      return { keys, encryptedVaultKey := envelope.encryptedVaultKey }
  | .other => .error (.typeError
      "Independent authorization must use password or recovery phrase")

/-- The decryption callback: it registers the blob it extracts and captures
it when it restores a key. -/
def authorizeCandidate (keys : DerivedKeys)
    (candidate : EncryptedVaultPayload) :
    Stateful AuthorizationCall VaultError CryptoKey := do
  let candidateInner ← awaitBuffer (extractInnerVaultKeyBlob platform candidate
    keys.encryptionKey)
  registerSensitive candidateInner
  let inner ← readBuffer candidateInner
  let candidateVaultKey ← awaitResult (restoreInnerVaultKey platform inner
    keys.wrappingKey false)
  captureSource candidateInner
  return candidateVaultKey

/-- The check of the metadata that the caller passes. -/
def assertPassedMetadata : Option MetadataValue → Except VaultError Unit
  | some metadata => assertSafeVaultPublicMetadata platform metadata
  | none => .ok ()

/-- The checks before the first await, and the metadata to publish. -/
def checkedPublicMetadata (input : IndependentAuthorizationInput)
    (prfOutput : Bytes) : Except VaultError MetadataMembers :=
  if !vaultPasskeyOpaqueIdSchema input.verifiedCredentialId then
    .error (.typeError "Verified passkey credential ID is invalid")
  else if prfOutput.length < 32 then
    .error (.vaultAuthorizationError "PRF output must be at least 32 bytes")
  else do
    assertPassedMetadata platform input.publicMetadata
    let publicMetadata :=
      withFixedFields input.publicMetadata input.verifiedCredentialId
    assertSafeVaultPublicMetadata platform (.object publicMetadata)
    return publicMetadata

/-- What the call does between its checks and its `finally`. -/
def authorizeAndRewrap (iv : Iv) (input : IndependentAuthorizationInput)
    (publicMetadata : MetadataMembers) (prfSnapshot : Nat) :
    Stateful AuthorizationCall VaultError IndependentAuthorizationResult := do
  let derived ← awaitResult (deriveAuthorization platform input.authorization)
  let vaultKey ← Stateful.unlockVaultKeyEnvelopeWithAadRouting
    derived.encryptedVaultKey input.expectedScope input.profile
    (authorizeCandidate platform derived.keys)
  let snapshot ← readBuffer prfSnapshot
  let prfWrappingKey ← awaitResult (importPrfAesKwKey snapshot)
  let sourceInner ← readSource
  let rewrappedInner ← awaitBuffer
    (rewrapInnerVaultKeyMaterialForWrappingKeys platform sourceInner
      derived.keys.wrappingKey prfWrappingKey vaultKey)
  registerSensitive rewrappedInner
  let snapshot ← readBuffer prfSnapshot
  let innerVaultKeyBlob ← readBuffer rewrappedInner
  let envelope ← awaitResult (createPasskeyPrfEnvelope platform iv vaultKey
    snapshot input.expectedScope input.profile (some innerVaultKeyBlob))
  return {
    vaultKey
    envelope := { toPasskeyPrfEnvelope := envelope, publicMetadata } }

/-- The metadata is checked first, and the buffers are zeroed however the call
ends. -/
def createPasskeyPrfEnvelopeAfterIndependentAuthorization (iv : Iv)
    (input : IndependentAuthorizationInput) :
    Stateful AuthorizationCall VaultError IndependentAuthorizationResult := do
  let call ← get
  let prfOutput := input.prfOutput call.awaited
  let publicMetadata ← Stateful.liftExcept
    (checkedPublicMetadata platform input prfOutput)
  let prfSnapshot ← newBuffer (prfOutput.take 32)
  registerSensitive prfSnapshot
  Stateful.tryFinally
    (authorizeAndRewrap platform iv input publicMetadata prfSnapshot)
    AuthorizationCall.zeroSensitive

end

/-! ## The buffers of a call -/

/-- Between two candidates every buffer is registered, and the first one holds
the copy of the PRF output. -/
structure AuthorizationCall.Custody (snapshot : Bytes)
    (call : AuthorizationCall) : Prop where
  registered : ∀ index < call.buffers.length, index ∈ call.sensitiveBuffers
  snapshot : call.buffers[0]? = some snapshot

/-- The captured blob restores this key. -/
def AuthorizationCall.Captured (platform : Platform) (keys : DerivedKeys)
    (key : CryptoKey) (call : AuthorizationCall) : Prop :=
  restoreInnerVaultKey platform call.source keys.wrappingKey false = .ok key

section

variable {platform : Platform} {keys : DerivedKeys}
  {candidate : EncryptedVaultPayload} {call : AuthorizationCall}
  {snapshot inner : Bytes} {key : CryptoKey} {error : VaultError}

namespace AuthorizationCall

@[simp] theorem buffer_allocate (bytes : Bytes) :
    (call.allocate bytes).buffer call.buffers.length = bytes := by
  simp [buffer, allocate]

@[simp] theorem buffer_register (index other : Nat) :
    (call.register index).buffer other = call.buffer other := rfl

@[simp] theorem buffer_resume (index : Nat) :
    call.resume.buffer index = call.buffer index := rfl

theorem Custody.resume (custody : call.Custody snapshot) :
    call.resume.Custody snapshot :=
  ⟨custody.registered, custody.snapshot⟩

theorem Custody.capture (custody : call.Custody snapshot) (index : Nat) :
    (call.capture index).Custody snapshot :=
  ⟨custody.registered, custody.snapshot⟩

theorem Custody.store (custody : call.Custody snapshot) (bytes : Bytes) :
    ((call.allocate bytes).register call.buffers.length).Custody snapshot := by
  constructor
  · intro index bound
    have within : index < call.buffers.length + 1 := by
      simpa [allocate, register] using bound
    apply List.mem_append.mpr
    rcases Nat.lt_succ_iff_lt_or_eq.mp within with earlier | last
    · exact .inl (custody.registered index earlier)
    · exact .inr (List.mem_singleton.mpr last)
  · have held := custody.snapshot
    have nonempty : 0 < call.buffers.length := by
      obtain ⟨bound, -⟩ := List.getElem?_eq_some_iff.mp held
      exact bound
    exact (List.getElem?_append_left nonempty).trans held

theorem Custody.buffer_zero (custody : call.Custody snapshot) :
    call.buffer 0 = snapshot := by
  rw [buffer, custody.snapshot, Option.getD_some]

theorem foldl_zeroBuffer (indices : List Nat) (buffers : List Bytes)
    (index : Nat) :
    (indices.foldl zeroBuffer buffers)[index]? =
      if index ∈ indices then
        buffers[index]?.map fun bytes => List.replicate bytes.length 0
      else buffers[index]? := by
  induction indices generalizing buffers with
  | nil => simp
  | cons first rest ih =>
      rw [List.foldl_cons, ih, zeroBuffer, List.getElem?_modify]
      by_cases same : first = index
      · cases buffers[index]? <;> simp [same]
      · have different : ¬ index = first := fun equal => same equal.symm
        simp [same, different]

theorem Custody.zeroSensitive (custody : call.Custody snapshot) :
    ∀ bytes ∈ call.zeroSensitive.buffers, ∀ byte ∈ bytes, byte = 0 := by
  intro bytes member byte inside
  obtain ⟨index, found⟩ := List.mem_iff_getElem?.mp member
  rw [AuthorizationCall.zeroSensitive, foldl_zeroBuffer] at found
  have bound : index < call.buffers.length := by
    by_contra beyond
    have missing : call.buffers[index]? = none :=
      List.getElem?_eq_none (not_lt.mp beyond)
    simp [missing] at found
  rw [if_pos (custody.registered index bound), Option.map_eq_some_iff] at found
  obtain ⟨held, -, zeros⟩ := found
  rw [← zeros] at inside
  exact List.eq_of_mem_replicate inside

end AuthorizationCall

/-! ## The decryption callback -/

/-- The state after a blob was extracted and registered. -/
def AuthorizationCall.received (call : AuthorizationCall) (inner : Bytes) :
    AuthorizationCall :=
  (call.resume.allocate inner).register call.buffers.length

theorem awaitBuffer_ok (bytes : Bytes) :
    awaitBuffer (.ok bytes) call =
      (.ok call.buffers.length, call.resume.allocate bytes) := rfl

theorem awaitBuffer_error (error : VaultError) :
    awaitBuffer (.error error) call = (.error error, call.resume) := rfl

theorem readBuffer_received (inner : Bytes) :
    readBuffer call.buffers.length (call.received inner) =
      (.ok inner, call.received inner) := by
  have held : (call.received inner).buffer call.buffers.length = inner :=
    AuthorizationCall.buffer_allocate inner
  rw [readBuffer, held]

theorem readBuffer_zero (custody : call.Custody snapshot) :
    readBuffer 0 call = (.ok snapshot, call) := by
  rw [readBuffer, custody.buffer_zero]

/-- One candidate is answered as without a state.  It keeps the custody of the
buffers, and a restored key leaves its blob captured. -/
theorem authorizeCandidate_step (custody : call.Custody snapshot) :
    (authorizeCandidate platform keys candidate call).2.Custody snapshot ∧
      ∀ key, (authorizeCandidate platform keys candidate call).1 = .ok key →
        (authorizeCandidate platform keys candidate call).2.Captured platform
          keys key := by
  unfold authorizeCandidate
  cases extracted : extractInnerVaultKeyBlob platform candidate
      keys.encryptionKey with
  | error error =>
      rw [Stateful.bind_apply_error (awaitBuffer_error error)]
      refine ⟨custody.resume, ?_⟩
      intro key impossible
      cases impossible
  | ok inner =>
      have stored : (call.received inner).Custody snapshot :=
        custody.resume.store inner
      have registers : registerSensitive call.buffers.length
          (call.resume.allocate inner) = (.ok (), call.received inner) := rfl
      rw [Stateful.bind_apply_ok (awaitBuffer_ok inner),
        Stateful.bind_apply_ok registers,
        Stateful.bind_apply_ok (readBuffer_received inner)]
      cases restored : restoreInnerVaultKey platform inner keys.wrappingKey
          false with
      | error error =>
          have fails : awaitResult (.error error : Except VaultError CryptoKey)
              (call.received inner) =
                (.error error, (call.received inner).resume) := rfl
          rw [Stateful.bind_apply_error fails]
          refine ⟨stored.resume, ?_⟩
          intro key impossible
          cases impossible
      | ok restoredKey =>
          have answers : awaitResult (.ok restoredKey) (call.received inner) =
              (.ok restoredKey, (call.received inner).resume) := rfl
          have captures : captureSource call.buffers.length
              (call.received inner).resume =
                (.ok (), (call.received inner).resume.capture
                  call.buffers.length) := rfl
          rw [Stateful.bind_apply_ok answers, Stateful.bind_apply_ok captures]
          refine ⟨stored.resume.capture _, ?_⟩
          intro key answered
          cases answered
          have source : ((call.received inner).resume.capture
              call.buffers.length).source = inner :=
            AuthorizationCall.buffer_allocate inner
          exact (congrArg (fun blob => restoreInnerVaultKey platform blob
            keys.wrappingKey false) source).trans restored

theorem authorizeCandidate_answer (keys : DerivedKeys)
    (candidate : EncryptedVaultPayload) (call : AuthorizationCall) :
    (authorizeCandidate platform keys candidate call).1 =
      unwrapUserVaultKeyWithDerivedKeys platform candidate keys := by
  unfold authorizeCandidate unwrapUserVaultKeyWithDerivedKeys
    unwrapUserVaultKeyWithDerivedKeysAndInnerMaterial
  cases extractInnerVaultKeyBlob platform candidate keys.encryptionKey with
  | error error => rfl
  | ok inner =>
      have registers : registerSensitive call.buffers.length
          (call.resume.allocate inner) = (.ok (), call.received inner) := rfl
      rw [Stateful.bind_apply_ok (awaitBuffer_ok inner),
        Stateful.bind_apply_ok registers,
        Stateful.bind_apply_ok (readBuffer_received inner), Outcome.ok_bind]
      cases restoreInnerVaultKey platform inner keys.wrappingKey false with
      | error error => rfl
      | ok key => rfl

/-! ## The whole call -/

variable {iv : Iv} {input : IndependentAuthorizationInput}
  {publicMetadata : MetadataMembers} {derived : DerivedAuthorization}

theorem preserves_awaitResult {α : Type} (result : Except VaultError α) :
    Stateful.Preserves (AuthorizationCall.Custody snapshot)
      (awaitResult result) := by
  intro call custody
  exact custody.resume

theorem preserves_readBuffer (index : Nat) :
    Stateful.Preserves (AuthorizationCall.Custody snapshot)
      (readBuffer index) :=
  Stateful.Preserves.of_unchanged fun _ => rfl

theorem preserves_readSource :
    Stateful.Preserves (AuthorizationCall.Custody snapshot) readSource :=
  Stateful.Preserves.of_unchanged fun _ => rfl

/-- A buffer that is registered as soon as it arrives stays in custody. -/
theorem preserves_awaitBuffer {α : Type} (result : Except VaultError Bytes)
    {next : Nat → Stateful AuthorizationCall VaultError α}
    (later : ∀ index, Stateful.Preserves
      (AuthorizationCall.Custody snapshot) (next index)) :
    Stateful.Preserves (AuthorizationCall.Custody snapshot) (do
      let index ← awaitBuffer result
      registerSensitive index
      next index) := by
  intro call custody
  cases result with
  | error error =>
      rw [Stateful.bind_apply_error (awaitBuffer_error error)]
      exact custody.resume
  | ok bytes =>
      have registers : registerSensitive call.buffers.length
          (call.resume.allocate bytes) = (.ok (), call.received bytes) := rfl
      rw [Stateful.bind_apply_ok (awaitBuffer_ok bytes),
        Stateful.bind_apply_ok registers]
      exact later _ _ (custody.resume.store bytes)

theorem routing_captures (custody : call.Custody snapshot) :
    (Stateful.unlockVaultKeyEnvelopeWithAadRouting derived.encryptedVaultKey
        input.expectedScope input.profile
        (authorizeCandidate platform derived.keys) call).2.Custody snapshot ∧
      ∀ key,
        (Stateful.unlockVaultKeyEnvelopeWithAadRouting
          derived.encryptedVaultKey input.expectedScope input.profile
          (authorizeCandidate platform derived.keys) call).1 = .ok key →
        (Stateful.unlockVaultKeyEnvelopeWithAadRouting
          derived.encryptedVaultKey input.expectedScope input.profile
          (authorizeCandidate platform derived.keys) call).2.Captured platform
            derived.keys key := by
  apply Stateful.unlockVaultKeyEnvelopeWithAadRouting_invariant
  · intro candidate state held
    exact authorizeCandidate_step held
  · exact custody

theorem authorizeAndRewrap_custody :
    Stateful.Preserves (AuthorizationCall.Custody snapshot)
      (authorizeAndRewrap platform iv input publicMetadata 0) := by
  unfold authorizeAndRewrap
  apply (preserves_awaitResult _).bind
  intro derived
  apply Stateful.Preserves.bind
  · intro call custody
    exact (routing_captures custody).1
  intro vaultKey
  apply (preserves_readBuffer 0).bind
  intro prfBytes
  apply (preserves_awaitResult _).bind
  intro prfWrappingKey
  apply preserves_readSource.bind
  intro sourceInner
  apply preserves_awaitBuffer
  intro rewrappedInner
  apply (preserves_readBuffer 0).bind
  intro prfBytes
  apply (preserves_readBuffer rewrappedInner).bind
  intro innerVaultKeyBlob
  apply (preserves_awaitResult _).bind
  intro envelope
  exact Stateful.Preserves.of_unchanged fun _ => rfl

theorem authorizeCandidate_routed (call : AuthorizationCall) :
    (Stateful.unlockVaultKeyEnvelopeWithAadRouting derived.encryptedVaultKey
        input.expectedScope input.profile
        (authorizeCandidate platform derived.keys) call).1 =
      unlockVaultKeyEnvelopeWithAadRouting derived.encryptedVaultKey
        input.expectedScope input.profile (fun candidate =>
          unwrapUserVaultKeyWithDerivedKeys platform candidate
            derived.keys) :=
  Stateful.unlockVaultKeyEnvelopeWithAadRouting_answer
    (authorizeCandidate_answer derived.keys) call

/-- A call that answers with a result derived keys that opened the envelope. -/
theorem authorizeAndRewrap_ok {result : IndependentAuthorizationResult}
    (answered : (authorizeAndRewrap platform iv input publicMetadata 0
      call).1 = .ok result) :
    ∃ derived key, deriveAuthorization platform input.authorization =
        .ok derived ∧
      unlockVaultKeyEnvelopeWithAadRouting derived.encryptedVaultKey
        input.expectedScope input.profile (fun candidate =>
          unwrapUserVaultKeyWithDerivedKeys platform candidate derived.keys) =
        .ok key := by
  unfold authorizeAndRewrap at answered
  cases authorized : deriveAuthorization platform input.authorization with
  | error error =>
      rw [authorized] at answered
      cases answered
  | ok derived =>
      refine ⟨derived, ?_⟩
      have answers : awaitResult (.ok derived) call =
          (.ok derived, call.resume) := rfl
      rw [authorized, Stateful.bind_apply_ok answers] at answered
      have routed := @authorizeCandidate_routed platform input derived
        call.resume
      cases ran : Stateful.unlockVaultKeyEnvelopeWithAadRouting
          derived.encryptedVaultKey input.expectedScope input.profile
          (authorizeCandidate platform derived.keys) call.resume with
      | mk answer next =>
          rw [ran] at routed
          cases answer with
          | error error =>
              rw [Stateful.bind_apply_error ran] at answered
              cases answered
          | ok key => exact ⟨key, rfl, routed.symm⟩

/-- Authorized keys that open the envelope to a key give that key and an
envelope that opens to it with the copy of the PRF output. -/
theorem authorizeAndRewrap_eq (crypto : platform.Lawful)
    (custody : call.Custody snapshot) (long : 32 ≤ snapshot.length)
    (authorized : deriveAuthorization platform input.authorization =
      .ok derived)
    (unlocked : unlockVaultKeyEnvelopeWithAadRouting derived.encryptedVaultKey
      input.expectedScope input.profile (fun candidate =>
        unwrapUserVaultKeyWithDerivedKeys platform candidate derived.keys) =
      .ok key) :
    ∃ envelope : PasskeyPrfEnvelope,
      (authorizeAndRewrap platform iv input publicMetadata 0 call).1 =
        .ok { vaultKey := key
              envelope := { toPasskeyPrfEnvelope := envelope
                            publicMetadata } } ∧
      key.extractable = false ∧
      ∀ prfRequired, unlockWithPasskeyPrfEnvelope platform envelope
        (some snapshot) input.expectedScope input.profile prfRequired =
          .ok key := by
  obtain ⟨routedCustody, captures⟩ := @routing_captures platform call.resume
    snapshot input derived custody.resume
  have routed := @authorizeCandidate_routed platform input derived call.resume
  cases ran : Stateful.unlockVaultKeyEnvelopeWithAadRouting
      derived.encryptedVaultKey input.expectedScope input.profile
      (authorizeCandidate platform derived.keys) call.resume with
  | mk answer next =>
      rw [ran] at routed routedCustody captures
      rw [unlocked] at routed
      have restored : restoreInnerVaultKey platform next.source
          derived.keys.wrappingKey false = .ok key := captures key routed
      obtain ⟨algorithm, handle, -⟩ := restoreInnerVaultKey_ok restored
      obtain ⟨envelope, created, opens⟩ := @createPasskeyPrfEnvelope_wrapped
        platform snapshot input.expectedScope input.profile key crypto iv _ _
        long restored
      have rewraps := rewrapInnerVaultKeyMaterialForWrappingKeys_eq crypto
        restored algorithm rfl
        (rfl : (prfKeys snapshot long).wrappingKey.algorithm = .aesKw)
      refine ⟨envelope, ?_, handle, opens⟩
      have derives : awaitResult (.ok derived) call =
          (.ok derived, call.resume) := rfl
      have routes : Stateful.unlockVaultKeyEnvelopeWithAadRouting
          derived.encryptedVaultKey input.expectedScope input.profile
          (authorizeCandidate platform derived.keys) call.resume =
            (.ok key, next) := by
        rw [ran, ← routed]
      have imports : awaitResult (importPrfAesKwKey snapshot) next =
          (.ok (prfKeys snapshot long).wrappingKey, next.resume) := by
        rw [(importPrfAesKey_prfKeys long).2]
        rfl
      have sources : readSource next.resume =
          (.ok next.source, next.resume) := rfl
      generalize platform.aesKwWrap (prfKeys snapshot long).wrappingKey.material
        key.material.val = wrapped at created rewraps
      have registers : registerSensitive next.resume.buffers.length
          (next.resume.resume.allocate wrapped) =
            (.ok (), next.resume.received wrapped) := rfl
      have stored : (next.resume.received wrapped).Custody snapshot :=
        AuthorizationCall.Custody.store routedCustody.resume.resume wrapped
      unfold authorizeAndRewrap
      rw [authorized, Stateful.bind_apply_ok derives,
        Stateful.bind_apply_ok routes,
        Stateful.bind_apply_ok (readBuffer_zero routedCustody),
        Stateful.bind_apply_ok imports, Stateful.bind_apply_ok sources,
        rewraps, Stateful.bind_apply_ok (awaitBuffer_ok _),
        Stateful.bind_apply_ok registers,
        Stateful.bind_apply_ok (readBuffer_zero stored),
        Stateful.bind_apply_ok (readBuffer_received _), created]
      rfl

end

end VaultCore
