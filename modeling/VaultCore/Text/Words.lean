import VaultCore.Text.Utf16
import Mathlib.Data.List.DropRight

/-!
# Words of a string

`trim` and the splits at whitespace, with the whitespace of the language.
Joining words with single spaces and splitting again gives the words back.
-/

namespace VaultCore

def spaceUnit : UInt16 := 32

/-- White space and line terminators. -/
def isWhitespaceUnit (unit : UInt16) : Bool :=
  let code := unit.toNat
  (9 ≤ code && code ≤ 13) || code == 0x20 || code == 0xA0 || code == 0x1680 ||
    (0x2000 ≤ code && code ≤ 0x200A) || code == 0x2028 || code == 0x2029 ||
    code == 0x202F || code == 0x205F || code == 0x3000 || code == 0xFEFF

/-- `text.trim()` -/
def trim (text : JsString) : JsString :=
  (text.dropWhile isWhitespaceUnit).rdropWhile isWhitespaceUnit

/-- `text.split(/\s+/).filter(Boolean)`: a run of white space adds empty
pieces only. -/
def splitWords (text : JsString) : List JsString :=
  (text.splitOnP isWhitespaceUnit).filter fun word => !word.isEmpty

/-- `words.join(" ")` -/
def joinWords (words : List JsString) : JsString :=
  [spaceUnit].intercalate words

/-- A piece between white space. -/
def IsWord (word : JsString) : Prop :=
  word ≠ [] ∧ ∀ unit ∈ word, isWhitespaceUnit unit = false

private theorem splitOnP_units (text : JsString) :
    ∀ piece ∈ text.splitOnP isWhitespaceUnit, ∀ unit ∈ piece,
      isWhitespaceUnit unit = false ∧ unit ∈ text := by
  induction text with
  | nil =>
      intro piece member unit inside
      simp at member
      rw [member] at inside
      cases inside
  | cons head text ih =>
      intro piece member unit inside
      rw [List.splitOnP_cons_eq_if_modifyHead] at member
      by_cases blank : isWhitespaceUnit head = true
      · rw [if_pos blank] at member
        rcases List.mem_cons.mp member with first | later
        · rw [first] at inside
          cases inside
        · obtain ⟨plain, found⟩ := ih piece later unit inside
          exact ⟨plain, List.mem_cons_of_mem _ found⟩
      · rw [if_neg blank] at member
        cases pieces : text.splitOnP isWhitespaceUnit with
        | nil => exact absurd pieces (List.splitOnP_ne_nil _ _)
        | cons first rest =>
            rw [pieces] at ih member
            rw [List.modifyHead_cons] at member
            rcases List.mem_cons.mp member with front | later
            · rw [front] at inside
              rcases List.mem_cons.mp inside with same | deeper
              · rw [same]
                exact ⟨eq_false_of_ne_true blank, List.mem_cons_self⟩
              · obtain ⟨plain, found⟩ :=
                  ih first List.mem_cons_self unit deeper
                exact ⟨plain, List.mem_cons_of_mem _ found⟩
            · obtain ⟨plain, found⟩ :=
                ih piece (List.mem_cons_of_mem _ later) unit inside
              exact ⟨plain, List.mem_cons_of_mem _ found⟩

theorem isWord_of_mem_splitWords {text word : JsString}
    (member : word ∈ splitWords text) : IsWord word := by
  obtain ⟨piece, nonempty⟩ := List.mem_filter.mp member
  refine ⟨?_, ?_⟩
  · intro empty
    rw [empty] at nonempty
    cases nonempty
  · intro unit inside
    exact (splitOnP_units text word piece unit inside).1

theorem mem_of_mem_splitWords {text word : JsString} {unit : UInt16}
    (member : word ∈ splitWords text) (inside : unit ∈ word) :
    unit ∈ text :=
  (splitOnP_units text word (List.mem_filter.mp member).1 unit inside).2

theorem isWhitespaceUnit_space : isWhitespaceUnit spaceUnit = true := by
  decide

theorem splitWords_joinWords {words : List JsString}
    (plain : ∀ word ∈ words, IsWord word) :
    splitWords (joinWords words) = words := by
  induction words with
  | nil => rfl
  | cons word words ih =>
      have first := plain word List.mem_cons_self
      have rest : ∀ other ∈ words, IsWord other := by
        intro other member
        exact plain other (List.mem_cons_of_mem _ member)
      have kept : ∀ others : List JsString,
          (word :: others).filter (fun piece => !piece.isEmpty) =
            word :: others.filter fun piece => !piece.isEmpty := by
        intro others
        cases word with
        | nil => exact absurd rfl first.1
        | cons unit units => rfl
      have again := ih rest
      unfold splitWords joinWords at again ⊢
      cases words with
      | nil =>
          rw [List.intercalate_singleton,
            List.splitOnP_eq_singleton first.2, kept]
          rfl
      | cons next words =>
          rw [List.intercalate_cons_cons, List.append_assoc,
            List.singleton_append,
            List.splitOnP_append_cons_of_forall_mem first.2 spaceUnit
              isWhitespaceUnit_space,
            kept, again]

/-- Joining words adds nothing but spaces. -/
theorem mem_joinWords {words : List JsString} {unit : UInt16}
    (member : unit ∈ joinWords words) :
    unit = spaceUnit ∨ ∃ word ∈ words, unit ∈ word := by
  induction words with
  | nil => cases member
  | cons word words ih =>
      cases words with
      | nil =>
          rw [joinWords, List.intercalate_singleton] at member
          exact .inr ⟨word, List.mem_cons_self, member⟩
      | cons next words =>
          rw [joinWords, List.intercalate_cons_cons, List.append_assoc]
            at member
          rcases List.mem_append.mp member with first | rest
          · exact .inr ⟨word, List.mem_cons_self, first⟩
          · rcases List.mem_append.mp rest with space | later
            · exact .inl (List.mem_singleton.mp space)
            · rcases ih later with blank | ⟨other, listed, inside⟩
              · exact .inl blank
              · exact .inr ⟨other, List.mem_cons_of_mem _ listed, inside⟩

theorem trim_eq_self {text : JsString}
    (first : ∀ unit, text.head? = some unit → isWhitespaceUnit unit = false)
    (last : ∀ unit, text.getLast? = some unit →
      isWhitespaceUnit unit = false) :
    trim text = text := by
  have front : text.dropWhile isWhitespaceUnit = text := by
    cases text with
    | nil => rfl
    | cons unit units =>
        apply List.dropWhile_cons_of_neg
        rw [first unit rfl]
        decide
  rw [trim, front]
  apply List.rdropWhile_eq_self_iff.mpr
  intro nonempty
  rw [last _ (List.getLast?_eq_some_getLast nonempty)]
  decide

theorem length_trim_le (text : JsString) :
    (trim text).length ≤ text.length := by
  have first := (List.rdropWhile_prefix isWhitespaceUnit
    (text.dropWhile isWhitespaceUnit)).length_le
  have second := (List.dropWhile_suffix (l := text)
    isWhitespaceUnit).length_le
  exact first.trans second

theorem trim_trim (text : JsString) : trim (trim text) = trim text := by
  apply trim_eq_self
  · intro unit head
    have start := List.head?_dropWhile_not isWhitespaceUnit text
    obtain ⟨rest, written⟩ := List.rdropWhile_prefix isWhitespaceUnit
      (text.dropWhile isWhitespaceUnit)
    have sameHead : (text.dropWhile isWhitespaceUnit).head? = some unit := by
      rw [← written]
      unfold trim at head
      rw [List.head?_append, head]
      rfl
    rw [sameHead] at start
    exact start
  · intro unit last
    have nonempty : trim text ≠ [] := by
      intro empty
      rw [empty] at last
      cases last
    have final := List.rdropWhile_last_not isWhitespaceUnit
      (text.dropWhile isWhitespaceUnit) nonempty
    rw [List.getLast?_eq_some_getLast nonempty] at last
    rw [← Option.some.inj last]
    exact eq_false_of_ne_true final

private theorem head_joinWords {words : List JsString}
    (plain : ∀ word ∈ words, IsWord word) (unit : UInt16)
    (head : (joinWords words).head? = some unit) :
    isWhitespaceUnit unit = false := by
  cases words with
  | nil => cases head
  | cons word words =>
      have first := plain word List.mem_cons_self
      apply first.2
      cases word with
      | nil => exact absurd rfl first.1
      | cons start rest =>
          cases words with
          | nil =>
              rw [joinWords, List.intercalate_singleton] at head
              cases head
              exact List.mem_cons_self
          | cons next words =>
              rw [joinWords, List.intercalate_cons_cons] at head
              cases head
              exact List.mem_cons_self

private theorem getLast_joinWords {words : List JsString}
    (plain : ∀ word ∈ words, IsWord word) (unit : UInt16)
    (last : (joinWords words).getLast? = some unit) :
    isWhitespaceUnit unit = false := by
  induction words with
  | nil => cases last
  | cons word words ih =>
      have first := plain word List.mem_cons_self
      cases words with
      | nil =>
          rw [joinWords, List.intercalate_singleton] at last
          exact first.2 unit (List.mem_of_getLast? last)
      | cons next words =>
          have rest : ∀ other ∈ next :: words, IsWord other := by
            intro other member
            exact plain other (List.mem_cons_of_mem _ member)
          have nonempty : joinWords (next :: words) ≠ [] := by
            intro empty
            have again := splitWords_joinWords rest
            rw [empty] at again
            cases again
          apply ih rest
          rw [← last]
          unfold joinWords at nonempty ⊢
          rw [List.intercalate_cons_cons,
            List.getLast?_append_of_ne_nil _ nonempty]

theorem trim_joinWords {words : List JsString}
    (plain : ∀ word ∈ words, IsWord word) :
    trim (joinWords words) = joinWords words :=
  trim_eq_self (head_joinWords plain) (getLast_joinWords plain)

end VaultCore
