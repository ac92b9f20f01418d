import VaultCore.Envelopes.ConfirmationIndices
import VaultCore.Envelopes.RecoverySpelling

/-!
# Confirming single words

A user who has written a recovery phrase down repeats some of its words.  The
positions are drawn for the length of the phrase unless the caller gives them,
and the first answer that is wrong is named.
-/

namespace VaultCore

open Collecting

/-- How many words of a phrase are asked for. -/
def getRecoveryConfirmationPromptCount (wordCount : Nat) : Nat :=
  if wordCount = 12 then 3 else 4

def recoveryPhraseInvalid : VaultError :=
  .recoveryPhraseConfirmationError "Recovery phrase is not valid"

def confirmationIndicesInvalid : VaultError :=
  .recoveryPhraseConfirmationError "Recovery confirmation indices are invalid"

def confirmationWordWrong (position : Nat) : VaultError :=
  .recoveryPhraseConfirmationError
    ("Word #" ++ toString position ++ " does not match your recovery phrase")

section

variable (platform : Platform)

/-- One turn of the loop over the indices.  Answers that are not texts are
absent. -/
def confirmWord (words : List JsString) (answers : Nat → Option JsString)
    (index : JsNumber) : Except VaultError Unit :=
  match index with
  | .finite value =>
      if !value.isInt || value < 1 || (words.length : ℚ) < value then
        .error confirmationIndicesInvalid
      else
        let position := value.num.toNat
        let expected := words[position - 1]?
        let given :=
          match answers position with
          | some answer => normalizeRecoveryPhrase platform answer
          | none => []
        if some given ≠ expected then .error (confirmationWordWrong position)
        else .ok ()
  | _ => .error confirmationIndicesInvalid

/-- The loop over the indices. -/
def confirmWords (words : List JsString) (answers : Nat → Option JsString) :
    List JsNumber → Except VaultError Unit
  | [] => .ok ()
  | index :: rest => do
      confirmWord platform words answers index
      confirmWords words answers rest

/-- The answer if the indices are found in the given number of turns. -/
def assertRecoveryPhraseWordConfirmation (turns : Nat)
    (originalPhrase : JsString) (answers : Nat → Option JsString)
    (requiredIndices : Option (List JsNumber)) :
    Option (Except VaultError Unit) :=
  let words := splitSpaces (normalizeRecoveryPhrase platform originalPhrase)
  if !validateRecoveryPhraseFormat platform originalPhrase then
    some (.error recoveryPhraseInvalid)
  else
    let picked : Option (Except VaultError (List JsNumber)) :=
      match requiredIndices with
      | some indices => some (.ok indices)
      | none =>
          (pickRecoveryConfirmationIndices turns words.length
            (getRecoveryConfirmationPromptCount words.length)).map fun drawn =>
              drawn.map (List.map fun (index : Nat) => .finite index)
    picked.map fun drawn => do
      let indices ← drawn
      -- a set has as many members as there are different indices
      if indices = [] ∨ indices.dedup.length ≠ indices.length then
        .error confirmationIndicesInvalid
      else confirmWords platform words answers indices

end

/-! ## Single answers -/

/-- The position is one of the phrase, and its word was repeated. -/
def Answered (platform : Platform) (words : List JsString)
    (answers : Nat → Option JsString) (index : JsNumber) : Prop :=
  ∃ (position : Nat) (word answer : JsString),
    index = .finite position ∧ 1 ≤ position ∧
      words[position - 1]? = some word ∧ answers position = some answer ∧
      phraseWords platform answer = [word]

/-- What is said about an index that was not answered. -/
def confirmationFault (count : Nat) (index : JsNumber) : VaultError :=
  match index with
  | .finite value =>
      if value.isInt ∧ 1 ≤ value ∧ value ≤ count then
        confirmationWordWrong value.num.toNat
      else confirmationIndicesInvalid
  | _ => confirmationIndicesInvalid

section Words

variable {platform : Platform} {answers : Nat → Option JsString}
  {words : List JsString}

/-- A word is the normal form of a text exactly if it is its only word. -/
theorem normalizeRecoveryPhrase_eq_word {word : JsString} (plain : IsWord word)
    (answer : JsString) :
    normalizeRecoveryPhrase platform answer = word ↔
      phraseWords platform answer = [word] := by
  have joined : word = joinWords [word] := by
    simp [joinWords]
  rw [normalizeRecoveryPhrase_eq]
  constructor
  · intro same
    have split := congrArg splitWords (same.trans joined)
    rwa [splitWords_joinWords fun _ => isWord_of_mem_phraseWords,
      splitWords_joinWords] at split
    intro other member
    rw [List.mem_singleton.mp member]
    exact plain
  · intro same
    rw [same, ← joined]

theorem confirmWord_position (plain : ∀ word ∈ words, IsWord word)
    {position : Nat} (first : 1 ≤ position) (last : position ≤ words.length) :
    (Answered platform words answers (.finite position) ∧
        confirmWord platform words answers (.finite position) = .ok ()) ∨
      (¬ Answered platform words answers (.finite position) ∧
        confirmWord platform words answers (.finite position) =
          .error (confirmationWordWrong position)) := by
  have inside : position - 1 < words.length := by omega
  have expected := List.getElem?_eq_getElem inside
  have word := plain _ (List.getElem_mem inside)
  have below : ¬ (position : ℚ) < 1 := by
    rw [not_lt]
    exact_mod_cast first
  have above : ¬ (words.length : ℚ) < position := by
    rw [not_lt]
    exact_mod_cast last
  have whole : ((position : ℚ)).isInt = true := by
    simp [Rat.isInt]
  have number : ((position : ℚ)).num.toNat = position := by
    simp
  have answered : Answered platform words answers (.finite position) ↔
      ∃ answer, answers position = some answer ∧
        phraseWords platform answer = [words[position - 1]] := by
    constructor
    · intro known
      obtain ⟨other, found, answer, same, _, there, said, only⟩ := known
      have equal : position = other := by
        exact_mod_cast JsNumber.finite.inj same
      subst equal
      rw [expected] at there
      exact ⟨answer, said, by rw [only, Option.some.inj there]⟩
    · intro known
      obtain ⟨answer, said, only⟩ := known
      exact ⟨position, _, answer, rfl, first, expected, said, only⟩
  rw [answered]
  simp only [confirmWord, whole, below, above, number, expected,
    Bool.not_true, decide_false, Bool.or_false, Bool.false_eq_true, if_false]
  cases said : answers position with
  | none =>
      apply Or.inr
      have empty : ([] : JsString) ≠ words[position - 1] := word.1.symm
      simp [empty]
  | some answer =>
      by_cases only : phraseWords platform answer = [words[position - 1]]
      · have same := (normalizeRecoveryPhrase_eq_word word answer).mpr only
        exact .inl ⟨⟨answer, rfl, only⟩, by simp [same]⟩
      · have other := mt (normalizeRecoveryPhrase_eq_word word answer).mp only
        refine .inr ⟨?_, by simp [other]⟩
        intro known
        obtain ⟨same, said, matched⟩ := known
        rw [← Option.some.inj said] at matched
        exact only matched

theorem confirmWord_cases (plain : ∀ word ∈ words, IsWord word)
    (index : JsNumber) :
    (Answered platform words answers index ∧
        confirmWord platform words answers index = .ok ()) ∨
      (¬ Answered platform words answers index ∧
        confirmWord platform words answers index =
          .error (confirmationFault words.length index)) := by
  cases index with
  | infinite | nan =>
      refine .inr ⟨?_, rfl⟩
      intro known
      obtain ⟨_, _, _, impossible, _⟩ := known
      cases impossible
  | finite value =>
      by_cases outside : value.isInt ∧ 1 ≤ value ∧ value ≤ words.length
      · obtain ⟨whole, first, last⟩ := outside
        have positive : 0 ≤ value.num :=
          Rat.num_nonneg.mpr (le_trans rfl.le (le_trans (by decide) first))
        have exact : value = (value.num.toNat : ℚ) := by
          have denominator : value.den = 1 := by
            simpa [Rat.isInt] using whole
          have natural : ((value.num.toNat : ℕ) : ℤ) = value.num :=
            Int.toNat_of_nonneg positive
          rw [← Int.cast_natCast, natural]
          exact (Rat.den_eq_one_iff value).mp denominator |>.symm
        have fault : confirmationFault words.length (.finite value) =
            confirmationWordWrong value.num.toNat :=
          if_pos ⟨whole, first, last⟩
        rw [fault]
        generalize value.num.toNat = position at exact
        subst exact
        exact confirmWord_position plain (by exact_mod_cast first)
          (by exact_mod_cast last)
      · have fault : confirmationFault words.length (.finite value) =
            confirmationIndicesInvalid := if_neg outside
        refine .inr ⟨?_, ?_⟩
        · intro known
          obtain ⟨position, word, answer, same, first, there, _⟩ := known
          obtain ⟨inside, -⟩ := List.getElem?_eq_some_iff.mp there
          apply outside
          rw [JsNumber.finite.inj same]
          refine ⟨by simp [Rat.isInt], ?_, ?_⟩
          · exact_mod_cast first
          · have last : position ≤ words.length := by omega
            exact_mod_cast last
        · rw [fault, confirmWord, if_pos]
          by_contra inside
          apply outside
          simpa [not_lt, and_assoc] using inside

private theorem error_ne_ok {fault : VaultError} :
    (Except.error fault : Except VaultError Unit) ≠ .ok () := by
  intro impossible
  cases impossible

theorem confirmWord_ok_iff (plain : ∀ word ∈ words, IsWord word)
    (index : JsNumber) :
    confirmWord platform words answers index = .ok () ↔
      Answered platform words answers index := by
  rcases @confirmWord_cases _ answers _ plain index with
    ⟨answered, passed⟩ | ⟨wrong, failed⟩
  · exact iff_of_true passed answered
  · rw [failed]
    exact iff_of_false error_ne_ok wrong

theorem confirmWords_ok_iff (plain : ∀ word ∈ words, IsWord word)
    (indices : List JsNumber) :
    confirmWords platform words answers indices = .ok () ↔
      ∀ index ∈ indices, Answered platform words answers index := by
  induction indices with
  | nil => simp [confirmWords]
  | cons index rest ih =>
      rw [List.forall_mem_cons, ← ih, ← confirmWord_ok_iff plain, confirmWords]
      cases confirmWord platform words answers index with
      | error fault =>
          exact iff_of_false error_ne_ok fun both =>
            error_ne_ok both.1
      | ok => exact (and_iff_right rfl).symm

/-- The loop fails over the first index that was not answered. -/
theorem confirmWords_error_iff (plain : ∀ word ∈ words, IsWord word)
    {indices : List JsNumber} {fault : VaultError} :
    confirmWords platform words answers indices = .error fault ↔
      ∃ before index after, indices = before ++ index :: after ∧
        (∀ earlier ∈ before, Answered platform words answers earlier) ∧
        ¬ Answered platform words answers index ∧
        fault = confirmationFault words.length index := by
  induction indices with
  | nil =>
      apply iff_of_false
      · rw [confirmWords]
        exact error_ne_ok.symm
      · rintro ⟨before, index, after, impossible, -⟩
        exact List.append_ne_nil_of_right_ne_nil _ (List.cons_ne_nil _ _)
          impossible.symm
  | cons first rest ih =>
      rcases @confirmWord_cases _ answers _ plain first with
        ⟨right, passed⟩ | ⟨wrong, failed⟩
      · have later : confirmWords platform words answers (first :: rest) =
            confirmWords platform words answers rest := by
          rw [confirmWords, passed]
          rfl
        rw [later, ih]
        constructor
        · rintro ⟨before, index, after, rfl, answered, wrong, same⟩
          exact ⟨first :: before, index, after, rfl,
            List.forall_mem_cons.mpr ⟨right, answered⟩, wrong, same⟩
        · rintro ⟨before, index, after, split, answered, wrong, same⟩
          cases before with
          | nil =>
              obtain ⟨rfl, rfl⟩ := List.cons.inj split
              exact absurd right wrong
          | cons other before =>
              obtain ⟨rfl, rfl⟩ := List.cons.inj split
              exact ⟨before, index, after, rfl,
                (List.forall_mem_cons.mp answered).2, wrong, same⟩
      · have here : confirmWords platform words answers (first :: rest) =
            .error (confirmationFault words.length first) := by
          rw [confirmWords, failed]
          rfl
        rw [here, Except.error.injEq]
        constructor
        · intro same
          exact ⟨[], first, rest, rfl, List.forall_mem_nil _, wrong,
            same.symm⟩
        · rintro ⟨before, index, after, split, answered, -, same⟩
          cases before with
          | nil =>
              obtain ⟨rfl, rfl⟩ := List.cons.inj split
              exact same.symm
          | cons other before =>
              obtain ⟨rfl, rfl⟩ := List.cons.inj split
              exact absurd (List.forall_mem_cons.mp answered).1 wrong

end Words

/-! ## The whole confirmation -/

/-- The positions asked for when the caller names none. -/
def defaultPrompts (wordCount : Nat) : List JsNumber :=
  if wordCount = 12 then [.finite 1, .finite 5, .finite 9]
  else [.finite 1, .finite 9, .finite 14, .finite 17]

theorem pickRecoveryConfirmationIndices_twelve {turns : Nat}
    (enough : 9 ≤ turns) :
    pickRecoveryConfirmationIndices turns 12 3 = some (.ok [1, 5, 9]) := by
  have drawn : collect nextSeed (candidateIndex 12) 3 9 (firstSeed 12 3) [] =
      some [5, 1, 9] := by
    decide +kernel
  rw [pickRecoveryConfirmationIndices, if_neg (by decide),
    collect_more enough drawn]
  rfl

theorem pickRecoveryConfirmationIndices_twentyFour {turns : Nat}
    (enough : 9 ≤ turns) :
    pickRecoveryConfirmationIndices turns 24 4 =
      some (.ok [1, 9, 14, 17]) := by
  have drawn : collect nextSeed (candidateIndex 24) 4 9 (firstSeed 24 4) [] =
      some [14, 17, 9, 1] := by
    decide +kernel
  rw [pickRecoveryConfirmationIndices, if_neg (by decide),
    collect_more enough drawn]
  rfl

/-- The indices that a confirmation goes through. -/
def confirmationPrompts (platform : Platform) (originalPhrase : JsString)
    (requiredIndices : Option (List JsNumber)) : List JsNumber :=
  requiredIndices.getD
    (defaultPrompts (phraseWords platform originalPhrase).length)

/-- The phrase is valid, different words are asked for, and each of them was
repeated. -/
structure WordsConfirmed (platform : Platform) (originalPhrase : JsString)
    (answers : Nat → Option JsString)
    (requiredIndices : Option (List JsNumber)) : Prop where
  valid : validateRecoveryPhraseFormat platform originalPhrase = true
  asked : confirmationPrompts platform originalPhrase requiredIndices ≠ []
  different :
    (confirmationPrompts platform originalPhrase requiredIndices).Nodup
  answered : ∀ index ∈
      confirmationPrompts platform originalPhrase requiredIndices,
    Answered platform (phraseWords platform originalPhrase) answers index

/-- What a confirmation is refused with: the phrase, the positions asked for,
or the first of them that was not answered. -/
inductive ConfirmationRefused (platform : Platform) (originalPhrase : JsString)
    (answers : Nat → Option JsString)
    (requiredIndices : Option (List JsNumber)) : VaultError → Prop where
  | phrase (invalid : validateRecoveryPhraseFormat platform originalPhrase =
        false) :
      ConfirmationRefused platform originalPhrase answers requiredIndices
        recoveryPhraseInvalid
  | positions (valid : validateRecoveryPhraseFormat platform originalPhrase =
        true)
      (malformed :
        confirmationPrompts platform originalPhrase requiredIndices = [] ∨
        ¬ (confirmationPrompts platform originalPhrase requiredIndices).Nodup) :
      ConfirmationRefused platform originalPhrase answers requiredIndices
        confirmationIndicesInvalid
  | unanswered (valid : validateRecoveryPhraseFormat platform originalPhrase =
        true)
      (different :
        (confirmationPrompts platform originalPhrase requiredIndices).Nodup)
      (before : List JsNumber) (index : JsNumber) (after : List JsNumber)
      (asked : confirmationPrompts platform originalPhrase requiredIndices =
        before ++ index :: after)
      (answered : ∀ earlier ∈ before,
        Answered platform (phraseWords platform originalPhrase) answers
          earlier)
      (wrong : ¬ Answered platform (phraseWords platform originalPhrase)
        answers index) :
      ConfirmationRefused platform originalPhrase answers requiredIndices
        (confirmationFault (phraseWords platform originalPhrase).length index)

section Confirmation

variable {platform : Platform} {turns : Nat} {originalPhrase : JsString}
  {answers : Nat → Option JsString} {requiredIndices : Option (List JsNumber)}

theorem length_phraseWords_of_valid
    (valid : validateRecoveryPhraseFormat platform originalPhrase = true) :
    (phraseWords platform originalPhrase).length = 12 ∨
      (phraseWords platform originalPhrase).length = 24 := by
  obtain ⟨wordCount, counted⟩ := getRecoveryPhraseWordCount_of_valid valid
  have length := getRecoveryPhraseWordCount_eq_some_iff.mp counted
  cases wordCount with
  | twelve => exact .inl length
  | twentyFour => exact .inr length

theorem dedup_length_iff (indices : List JsNumber) :
    indices.dedup.length = indices.length ↔ indices.Nodup := by
  rw [← List.dedup_eq_self]
  constructor
  · intro same
    exact (List.dedup_sublist indices).eq_of_length same
  · intro same
    rw [same]

/-- What is left of a confirmation once the prompts are known. -/
theorem assertRecoveryPhraseWordConfirmation_eq (enough : 9 ≤ turns)
    (valid : validateRecoveryPhraseFormat platform originalPhrase = true) :
    assertRecoveryPhraseWordConfirmation platform turns originalPhrase answers
        requiredIndices =
      some (if confirmationPrompts platform originalPhrase
            requiredIndices = [] ∨
          ¬ (confirmationPrompts platform originalPhrase
            requiredIndices).Nodup then
        .error confirmationIndicesInvalid
      else confirmWords platform (phraseWords platform originalPhrase) answers
        (confirmationPrompts platform originalPhrase requiredIndices)) := by
  have words := splitSpaces_normalized (phraseWords_ne_nil valid)
  simp only [assertRecoveryPhraseWordConfirmation, words, valid,
    Bool.not_true, Bool.false_eq_true, if_false, ne_eq, dedup_length_iff]
  cases requiredIndices with
  | some indices => rfl
  | none =>
      rcases length_phraseWords_of_valid valid with length | length
      · simp only [length, getRecoveryConfirmationPromptCount, if_true,
          pickRecoveryConfirmationIndices_twelve enough, confirmationPrompts,
          defaultPrompts, Option.getD_none]
        rfl
      · simp only [length, getRecoveryConfirmationPromptCount,
          show ¬ (24 = 12) by decide, if_false,
          pickRecoveryConfirmationIndices_twentyFour enough,
          confirmationPrompts, defaultPrompts, Option.getD_none]
        rfl

theorem wordConfirmation_of_invalid
    (invalid : validateRecoveryPhraseFormat platform originalPhrase = false) :
    assertRecoveryPhraseWordConfirmation platform turns originalPhrase answers
        requiredIndices =
      some (.error recoveryPhraseInvalid) := by
  simp only [assertRecoveryPhraseWordConfirmation, invalid, Bool.not_false,
    if_true]

theorem wordConfirmation_isSome (enough : 9 ≤ turns) :
    (assertRecoveryPhraseWordConfirmation platform turns originalPhrase answers
      requiredIndices).isSome := by
  cases valid : validateRecoveryPhraseFormat platform originalPhrase with
  | false =>
      rw [wordConfirmation_of_invalid valid]
      rfl
  | true =>
      rw [assertRecoveryPhraseWordConfirmation_eq enough valid]
      rfl

theorem wordConfirmation_ok_iff (enough : 9 ≤ turns) :
    assertRecoveryPhraseWordConfirmation platform turns originalPhrase answers
        requiredIndices = some (.ok ()) ↔
      WordsConfirmed platform originalPhrase answers requiredIndices := by
  cases valid : validateRecoveryPhraseFormat platform originalPhrase with
  | false =>
      rw [wordConfirmation_of_invalid valid]
      apply iff_of_false
      · intro impossible
        exact error_ne_ok (Option.some.inj impossible)
      · intro confirmed
        rw [confirmed.valid] at valid
        cases valid
  | true =>
      rw [assertRecoveryPhraseWordConfirmation_eq enough valid,
        Option.some.injEq]
      split_ifs with malformed
      · refine iff_of_false id ?_
        intro confirmed
        rcases malformed with none | twice
        · exact confirmed.asked none
        · exact twice confirmed.different
      · obtain ⟨asked, different⟩ := not_or.mp malformed
        rw [confirmWords_ok_iff fun _ => isWord_of_mem_phraseWords]
        constructor
        · intro answered
          exact ⟨valid, asked, not_not.mp different, answered⟩
        · exact WordsConfirmed.answered

theorem wordConfirmation_error_iff (enough : 9 ≤ turns) {fault : VaultError} :
    assertRecoveryPhraseWordConfirmation platform turns originalPhrase answers
        requiredIndices = some (.error fault) ↔
      ConfirmationRefused platform originalPhrase answers requiredIndices
        fault := by
  cases valid : validateRecoveryPhraseFormat platform originalPhrase with
  | false =>
      rw [wordConfirmation_of_invalid valid, Option.some.injEq,
        Except.error.injEq]
      constructor
      · rintro rfl
        exact .phrase valid
      · intro refused
        cases refused with
        | phrase => rfl
        | positions accepted | unanswered accepted =>
            rw [accepted] at valid
            cases valid
  | true =>
      rw [assertRecoveryPhraseWordConfirmation_eq enough valid,
        Option.some.injEq]
      have valid' : validateRecoveryPhraseFormat platform originalPhrase ≠
          false := by
        rw [valid]
        decide
      split_ifs with malformed
      · rw [Except.error.injEq]
        constructor
        · rintro rfl
          exact .positions valid malformed
        · intro refused
          cases refused with
          | phrase invalid => exact absurd invalid valid'
          | positions => rfl
          | unanswered _ different before index after asked =>
              rcases malformed with none | twice
              · rw [asked] at none
                exact absurd none
                  (List.append_ne_nil_of_right_ne_nil _
                    (List.cons_ne_nil _ _))
              · exact absurd different twice
      · obtain ⟨asked, different⟩ := not_or.mp malformed
        rw [confirmWords_error_iff fun _ => isWord_of_mem_phraseWords]
        constructor
        · rintro ⟨before, index, after, prompts, answered, wrong, rfl⟩
          exact .unanswered valid (not_not.mp different) before index after
            prompts answered wrong
        · intro refused
          cases refused with
          | phrase invalid => exact absurd invalid valid'
          | positions _ other => exact absurd other malformed
          | unanswered _ _ before index after prompts answered wrong =>
              exact ⟨before, index, after, prompts, answered, wrong, rfl⟩

end Confirmation

/-- The confirmation of single words always comes to an end.  It passes exactly
if the phrase is valid and each of the different words asked for was repeated,
and otherwise says what was wrong first. -/
theorem recovery_words_confirmed_exact {turns : Nat} (enough : 9 ≤ turns)
    (platform : Platform) (originalPhrase : JsString)
    (answers : Nat → Option JsString)
    (requiredIndices : Option (List JsNumber)) :
    (assertRecoveryPhraseWordConfirmation platform turns originalPhrase answers
        requiredIndices).isSome ∧
      (assertRecoveryPhraseWordConfirmation platform turns originalPhrase
          answers requiredIndices = some (.ok ()) ↔
        WordsConfirmed platform originalPhrase answers requiredIndices) ∧
      ∀ fault,
        assertRecoveryPhraseWordConfirmation platform turns originalPhrase
            answers requiredIndices = some (.error fault) ↔
          ConfirmationRefused platform originalPhrase answers requiredIndices
            fault :=
  ⟨wordConfirmation_isSome enough, wordConfirmation_ok_iff enough,
    fun _ => wordConfirmation_error_iff enough⟩

/-- A word may be repeated with capitals and white space. -/
theorem recovery_words_confirmed_exact_capitals :
    assertRecoveryPhraseWordConfirmation Reference.spellingPlatform 9
        Reference.zeroPhrase (fun _ => some (js " Abandon\t")) none =
      some (.ok ()) := by
  have words : phraseWords Reference.spellingPlatform Reference.zeroPhrase =
      Reference.zeroWords := by
    decide +kernel
  have prompts : confirmationPrompts Reference.spellingPlatform
      Reference.zeroPhrase none = [.finite 1, .finite 5, .finite 9] := by
    rw [confirmationPrompts, words]
    rfl
  have only : phraseWords Reference.spellingPlatform (js " Abandon\t") =
      [js "abandon"] := by
    decide +kernel
  apply (recovery_words_confirmed_exact le_rfl _ _ _ _).2.1.mpr
  refine ⟨Reference.spelling_valid _ (by simp), ?_, ?_, ?_⟩
  · rw [prompts]
    exact List.cons_ne_nil _ _
  · rw [prompts]
    decide
  · rw [prompts, words]
    intro index member
    simp only [List.mem_cons, List.not_mem_nil, or_false] at member
    rcases member with rfl | rfl | rfl
    · exact ⟨1, _, _, by norm_num, by decide, rfl, rfl, only⟩
    · exact ⟨5, _, _, by norm_num, by decide, rfl, rfl, only⟩
    · exact ⟨9, _, _, by norm_num, by decide, rfl, rfl, only⟩

end VaultCore
