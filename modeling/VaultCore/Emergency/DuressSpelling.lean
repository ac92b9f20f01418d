import VaultCore.Emergency.DecoyEnrollment
import VaultCore.Rotation.PasswordRetirement

/-!
# Spellings of a duress password

Keys are derived from the normalized password, but the duress sequence is
looked for in the code points that were typed.  Two spellings of one password
are routed alike unless exactly one of them spells the sequence out.
-/

namespace VaultCore

/-- The sequence is typed out in a password that is short enough to be
searched. -/
def OccursWithin (sequence password : JsString) : Prop :=
  sequence ≠ [] ∧ password.length ≤ maxDuressPasswordLength ∧
    Utf16.toCodePoints sequence <:+: Utf16.toCodePoints password

section Search

variable {sequence password : JsString}

theorem matchesAt_iff {sequenceChars chars : List CodePoint} :
    matchesAt sequenceChars chars = true ↔ sequenceChars <+: chars := by
  induction sequenceChars generalizing chars with
  | nil => simp [matchesAt]
  | cons expected sequenceChars ih =>
      cases chars with
      | nil => simp [matchesAt]
      | cons char chars =>
          simp only [matchesAt, Bool.and_eq_true, beq_iff_eq, ih,
            List.cons_prefix_cons]
          exact and_congr_left fun _ => eq_comm

theorem foundFrom_iff {sequenceChars chars : List CodePoint} {starts : Nat} :
    foundFrom sequenceChars chars starts = true ↔
      ∃ start < starts, sequenceChars <+: chars.drop start := by
  induction starts generalizing chars with
  | zero => simp [foundFrom]
  | succ starts ih =>
      cases chars with
      | nil =>
          simp only [foundFrom, matchesAt_iff, List.drop_nil]
          exact ⟨fun found => ⟨0, Nat.succ_pos starts, found⟩,
            fun ⟨_, _, found⟩ => found⟩
      | cons char chars =>
          simp only [foundFrom, Bool.or_eq_true, matchesAt_iff, ih]
          constructor
          · rintro (here | ⟨start, bound, later⟩)
            · exact ⟨0, Nat.succ_pos starts, here⟩
            · exact ⟨start + 1, Nat.succ_lt_succ bound, later⟩
          · rintro ⟨start, bound, found⟩
            cases start with
            | zero => exact .inl found
            | succ start =>
                exact .inr ⟨start, Nat.lt_of_succ_lt_succ bound, found⟩

theorem foundFrom_all_iff {sequenceChars chars : List CodePoint} :
    foundFrom sequenceChars chars (chars.length + 1 - sequenceChars.length) =
        true ↔ sequenceChars <:+: chars := by
  rw [foundFrom_iff]
  constructor
  · rintro ⟨start, -, found⟩
    exact found.isInfix.trans (List.drop_suffix start chars).isInfix
  · rintro ⟨before, after, rfl⟩
    refine ⟨before.length, ?_, ?_⟩
    · simp only [List.length_append]
      omega
    · simp [List.append_assoc]

theorem length_le_of_infix
    (infixed : Utf16.toCodePoints sequence <:+: Utf16.toCodePoints password) :
    sequence.length ≤ password.length := by
  obtain ⟨before, after, written⟩ := infixed
  have units := congrArg Utf16.ofCodePoints written
  rw [Utf16.ofCodePoints_toCodePoints] at units
  have split : Utf16.ofCodePoints
      (before ++ Utf16.toCodePoints sequence ++ after) =
        Utf16.ofCodePoints before ++ sequence ++
          Utf16.ofCodePoints after := by
    conv_rhs => rw [← Utf16.ofCodePoints_toCodePoints sequence]
    simp only [Utf16.ofCodePoints, List.flatMap_append]
  rw [← units, split, List.length_append, List.length_append]
  omega

theorem containsDuressSequence_iff :
    containsDuressSequence password sequence = true ↔
      OccursWithin sequence password := by
  unfold containsDuressSequence OccursWithin
  by_cases empty : sequence.length = 0
  · rw [if_pos empty]
    simp [List.length_eq_zero_iff.mp empty]
  · have filled : sequence ≠ [] := fun none => empty (by rw [none]; rfl)
    rw [if_neg empty]
    simp only [filled, ne_eq, not_false_eq_true, true_and]
    by_cases long : maxDuressPasswordLength < password.length
    · rw [if_pos long]
      simp [not_le.mpr long]
    · rw [if_neg long]
      simp only [not_lt.mp long, true_and]
      split_ifs with longSequence longer
      · simp only [false_iff]
        intro infixed
        have shorter := length_le_of_infix infixed
        omega
      · simp only [false_iff]
        intro infixed
        have shorter := length_le_of_infix infixed
        omega
      · exact foundFrom_all_iff

theorem resolveVaultUnlockTarget_password {signaled active : Bool}
    {duressSequence : Option JsString} :
    resolveVaultUnlockTarget {
        password := some password
        duressSequence
        duressSignaled := signaled
        emergencyModeActive := active } = .decoy ↔
      active = true ∨ signaled = true ∨
        ∃ sequence, duressSequence = some sequence ∧
          OccursWithin sequence password := by
  unfold resolveVaultUnlockTarget
  cases active with
  | true => simp
  | false =>
      cases signaled with
      | true => simp
      | false =>
          cases duressSequence with
          | none => simp
          | some sequence =>
              simp only [Bool.false_eq_true, if_false, false_or,
                Option.some.injEq, exists_eq_left',
                ← containsDuressSequence_iff]
              cases sequence with
              | nil => simp [containsDuressSequence]
              | cons unit units =>
                  cases containsDuressSequence password (unit :: units) with
                  | true => simp
                  | false => simp

private theorem target_eq_iff {first second : VaultUnlockTarget} :
    first = second ↔ (first = .decoy ↔ second = .decoy) := by
  cases first <;> cases second <;> simp

/-- Emergency mode or a signal routes every password, and otherwise the
sequence does. -/
theorem resolveVaultUnlockTarget_eq_iff {signaled active : Bool}
    {duressSequence : Option JsString} {first second : JsString} :
    resolveVaultUnlockTarget {
        password := some first
        duressSequence
        duressSignaled := signaled
        emergencyModeActive := active } =
      resolveVaultUnlockTarget {
        password := some second
        duressSequence
        duressSignaled := signaled
        emergencyModeActive := active } ↔
      active = true ∨ signaled = true ∨
        ∀ typed, duressSequence = some typed →
          (OccursWithin typed first ↔ OccursWithin typed second) := by
  rw [target_eq_iff, resolveVaultUnlockTarget_password,
    resolveVaultUnlockTarget_password]
  cases active with
  | true => simp
  | false =>
      cases signaled with
      | true => simp
      | false => cases duressSequence <;> simp

end Search

/-- Typing the second spelling unlocks what was enrolled with the first. -/
def UnlocksEnrolledDecoy (platform : Platform) (sequence : Option JsString)
    (active : Bool) (first second : JsString) : Prop :=
  ∀ (Value : Type) (codec : JsonCodec Value) random
      (enrollment : CreateDecoyVaultSetupInput Value) result record session
      pressed callback operation,
    enrollment.duressPassword = first →
    sequence = some enrollment.duressSequence →
    createDecoyVaultSetup platform codec random enrollment = .ok result →
    record.decoy = some result.decoy →
    SessionState.Quiet session →
    (pressed || session.isVaultEmergencyMode) = active →
    session.mutationAllowed operation = .ok () →
    callback.getD (.ok ()) = .ok () →
    let decoyKey := (createUserVaultKey random.vaultKey).restored
    let unlock := duressUnlock { enrollment with duressPassword := second }
      record pressed callback operation
    ∃ finish,
      (unlockVaultWithPasswordRouting platform unlock).runAlone session =
        (.ok decoyKey, finish) ∧
      finish.sessionVaultKey = some decoyKey ∧
      finish.sessionKeyRole = some .decoy

/-- Two spellings of a password are routed alike: to one target, by programs
that are the same from their first suspension on, and to an enrolled decoy.
A password unlock carries no signal. -/
structure RespectsSpelling (platform : Platform) (sequence : Option JsString)
    (signaled active : Bool) (first second : JsString) : Prop where
  target : resolveVaultUnlockTarget {
      password := some first
      duressSequence := sequence
      duressSignaled := signaled
      emergencyModeActive := active } =
    resolveVaultUnlockTarget {
      password := some second
      duressSequence := sequence
      duressSignaled := signaled
      emergencyModeActive := active }
  unlock : signaled = false →
    ∀ (input : EmergencyUnlockPasswordInput) (session : SessionState),
      input.duressSequence = sequence →
      (input.emergencyModeActive || session.isVaultEmergencyMode) = active →
      (unlockVaultWithPasswordRouting platform
        { input with password := first }).runSegment session =
      (unlockVaultWithPasswordRouting platform
        { input with password := second }).runSegment session
  enrolled : signaled = false →
    UnlocksEnrolledDecoy platform sequence active first second

section Routing

variable {platform : Platform} {sequence : Option JsString}
  {active : Bool} {first second : JsString}

/-- Spellings with one target that open the same envelopes run the same
first segment and leave the same program to run. -/
theorem unlockVaultWithPasswordRouting_congr
    {input : EmergencyUnlockPasswordInput} {session : SessionState}
    (target : EmergencyUnlockPasswordInput.target
        { input with password := first } session.toSessionCore =
      EmergencyUnlockPasswordInput.target { input with password := second }
        session.toSessionCore)
    (opens : ∀ envelope scope profile,
      unlockWithPasswordEnvelope platform first envelope scope profile =
        unlockWithPasswordEnvelope platform second envelope scope profile) :
    (unlockVaultWithPasswordRouting platform
        { input with password := first }).runSegment session =
      (unlockVaultWithPasswordRouting platform
        { input with password := second }).runSegment session := by
  simp only [unlockVaultWithPasswordRouting, opens,
    Async.runSegment_lift_bind, assertVaultSessionMutationAllowed,
    Sync.get_apply]
  cases session.mutationAllowed input.operation with
  | error error => rfl
  | ok allowed => simp only [target]

end Routing

/-- Spellings of one password are routed alike exactly when emergency mode or
a signal routes every password, or both or neither type the sequence out. -/
theorem duress_routing_respects_spelling_iff {platform : Platform}
    (crypto : platform.Lawful) {sequence : Option JsString}
    {signaled active : Bool} {first second : JsString}
    (same : platform.normalizeNfkc first = platform.normalizeNfkc second) :
    RespectsSpelling platform sequence signaled active first second ↔
      active = true ∨ signaled = true ∨
        ∀ typed, sequence = some typed →
          (OccursWithin typed first ↔ OccursWithin typed second) := by
  have opens : ∀ envelope scope profile,
      unlockWithPasswordEnvelope platform first envelope scope profile =
        unlockWithPasswordEnvelope platform second envelope scope profile := by
    intro envelope scope profile
    apply unlockWithPasswordEnvelope_congr
    rw [vaultPasswordBytes, vaultPasswordBytes, same]
  rw [← resolveVaultUnlockTarget_eq_iff]
  constructor
  · exact RespectsSpelling.target
  · intro target
    refine ⟨target, ?_, ?_⟩
    · rintro rfl input session rfl rfl
      exact unlockVaultWithPasswordRouting_congr target opens
    · rintro rfl Value codec random enrollment result record session pressed
        callback operation rfl rfl enrolled configured quiet rfl allowed
        returns
      have created := createDecoyVaultSetup_ok enrolled
      have typed := containsDuressSequence_iff.mp created.duress
      have decoy := target.symm.trans
        (resolveVaultUnlockTarget_password.mpr (.inr (.inr ⟨_, rfl, typed⟩)))
      obtain ⟨finish, ran, held, role, -⟩ := duressUnlock_runs crypto
        created configured quiet allowed returns opens decoy
      exact ⟨finish, ran, held, role⟩

namespace Reference

/-- Canonical composition of an "e" with an acute accent. -/
def composeAcute : JsString → JsString
  | 0x65 :: 0x301 :: rest => 0xE9 :: composeAcute rest
  | unit :: rest => unit :: composeAcute rest
  | [] => []

def composingPlatform : Platform :=
  { platform [] with normalizeNfkc := composeAcute }

theorem composingPlatform_lawful : composingPlatform.Lawful :=
  (platform_lawful []).of_ciphers rfl rfl rfl rfl

def composedCafe : JsString := js "caf" ++ [0xE9] ++ js "-help"

def decomposedCafe : JsString := js "caf" ++ [0x65, 0x301] ++ js "-help"

end Reference

/-- A sequence of plain letters is found in either spelling. -/
theorem duress_routing_respects_spelling_iff_plain :
    RespectsSpelling Reference.composingPlatform (some (js "help")) false
      false Reference.composedCafe Reference.decomposedCafe := by
  apply (duress_routing_respects_spelling_iff
    Reference.composingPlatform_lawful (by decide +kernel)).mpr
  refine .inr (.inr ?_)
  rintro typed ⟨⟩
  rw [← containsDuressSequence_iff, ← containsDuressSequence_iff]
  decide +kernel

/-- An accented sequence is found in the composed spelling only. -/
theorem decomposed_spelling_routed_to_primary :
    Reference.composingPlatform.normalizeNfkc Reference.composedCafe =
        Reference.composingPlatform.normalizeNfkc
          Reference.decomposedCafe ∧
      resolveVaultUnlockTarget {
          password := some Reference.composedCafe
          duressSequence := some (js "f" ++ [0xE9])
          emergencyModeActive := false } = .decoy ∧
      resolveVaultUnlockTarget {
          password := some Reference.decomposedCafe
          duressSequence := some (js "f" ++ [0xE9])
          emergencyModeActive := false } = .primary := by
  refine ⟨?_, ?_, ?_⟩
  · decide +kernel
  · decide +kernel
  · decide +kernel

end VaultCore
