import Mathlib.Data.List.Basic
import Mathlib.Tactic.Common

/-!
# Reporting on a list with the keys seen so far

A loop visits the items of a list in order, keeps the keys it has met and
reports on every item, knowing its position and whether its key has been met.
What it reports is what the items deserve by their positions alone.
-/

namespace VaultCore

namespace SeenScan

variable {α κ ι : Type}

/-- The reports from a position on, after some keys. -/
def scan [DecidableEq κ] (key : α → κ) (report : Nat → Bool → α → List ι) :
    Nat → List κ → List α → List ι
  | _, _, [] => []
  | position, seen, item :: items =>
      report position (decide (key item ∈ seen)) item ++
        scan key report (position + 1) (key item :: seen) items

/-- The key of the item at a position is that of an earlier item. -/
def Repeats (key : α → κ) (items : List α) (position : Nat) (item : α) :
    Prop :=
  ∃ earlier first, earlier < position ∧ items[earlier]? = some first ∧
    key first = key item

variable {key : α → κ} {report : Nat → Bool → α → List ι}

theorem repeats_cons_zero {head item : α} {items : List α} :
    ¬ Repeats key (head :: items) 0 item := by
  rintro ⟨earlier, first, before, -⟩
  exact absurd before (Nat.not_lt_zero earlier)

theorem repeats_cons_succ {head item : α} {items : List α} {position : Nat} :
    Repeats key (head :: items) (position + 1) item ↔
      key head = key item ∨ Repeats key items position item := by
  constructor
  · rintro ⟨earlier, first, before, found, same⟩
    cases earlier with
    | zero =>
        left
        rw [List.getElem?_cons_zero] at found
        rw [Option.some.inj found]
        exact same
    | succ earlier =>
        right
        exact ⟨earlier, first, Nat.lt_of_succ_lt_succ before,
          by rwa [List.getElem?_cons_succ] at found, same⟩
  · intro repeated
    rcases repeated with here | ⟨earlier, first, before, found, same⟩
    · exact ⟨0, head, Nat.succ_pos position, rfl, here⟩
    · exact ⟨earlier + 1, first, Nat.succ_lt_succ before,
        by rwa [List.getElem?_cons_succ], same⟩

theorem seen_cons {head item : α} {items : List α} {seen : List κ}
    {position : Nat} :
    (key item ∈ key head :: seen ∨ Repeats key items position item) ↔
      key item ∈ seen ∨ Repeats key (head :: items) (position + 1) item := by
  rw [repeats_cons_succ, List.mem_cons, eq_comm, or_right_comm, or_comm]

/-- What is reported, item by item. -/
theorem mem_scan [DecidableEq κ] {start : Nat} {seen : List κ} {items : List α} {issue : ι} :
    issue ∈ scan key report start seen items ↔
      ∃ position item repeated, items[position]? = some item ∧
        (repeated = true ↔ key item ∈ seen ∨
          Repeats key items position item) ∧
        issue ∈ report (start + position) repeated item := by
  induction items generalizing start seen with
  | nil => simp [scan]
  | cons head items ih =>
      rw [scan, List.mem_append, ih]
      constructor
      · intro found
        rcases found with here | ⟨position, item, repeated, found, known, there⟩
        · refine ⟨0, head, _, rfl, ?_, here⟩
          simp [repeats_cons_zero]
        · refine ⟨position + 1, item, repeated, ?_, ?_, ?_⟩
          · rwa [List.getElem?_cons_succ]
          · rw [known, seen_cons]
          · rwa [Nat.add_assoc, Nat.add_comm 1 position] at there
      · rintro ⟨position, item, repeated, found, known, there⟩
        cases position with
        | zero =>
            left
            rw [List.getElem?_cons_zero] at found
            obtain rfl := Option.some.inj found
            have same : repeated = decide (key head ∈ seen) := by
              rw [Bool.eq_iff_iff, known, decide_eq_true_iff]
              simp [repeats_cons_zero]
            rwa [same] at there
        | succ position =>
            right
            refine ⟨position, item, repeated, ?_, ?_, ?_⟩
            · rwa [List.getElem?_cons_succ] at found
            · rw [known, seen_cons]
            · rwa [Nat.add_assoc, Nat.add_comm 1 position]

theorem mem_scan_of_found [DecidableEq κ] {items : List α} {issue : ι}
    {position : Nat} {item : α} (found : items[position]? = some item)
    (always : ∀ repeated, issue ∈ report position repeated item) :
    issue ∈ scan key report 0 [] items := by
  rw [mem_scan]
  by_cases repeats : Repeats key items position item
  · refine ⟨position, item, true, found, iff_of_true rfl (.inr repeats), ?_⟩
    rw [Nat.zero_add]
    exact always true
  · refine ⟨position, item, false, found, ?_, ?_⟩
    · exact iff_of_false Bool.false_ne_true (not_or.mpr
        ⟨List.not_mem_nil, repeats⟩)
    · rw [Nat.zero_add]
      exact always false

theorem mem_scan_of_repeats [DecidableEq κ] {items : List α} {issue : ι}
    {position : Nat} {item : α} (found : items[position]? = some item)
    (repeats : Repeats key items position item)
    (reported : issue ∈ report position true item) :
    issue ∈ scan key report 0 [] items := by
  rw [mem_scan]
  refine ⟨position, item, true, found, iff_of_true rfl (.inr repeats), ?_⟩
  rw [Nat.zero_add]
  exact reported

/-- Nothing repeats in a list of distinct keys, and only there. -/
theorem nodup_iff {items : List α} :
    (items.map key).Nodup ↔ ∀ position item,
      items[position]? = some item → ¬ Repeats key items position item := by
  induction items with
  | nil => simp
  | cons head items ih =>
      rw [List.map_cons, List.nodup_cons, ih]
      constructor
      · rintro ⟨fresh, rest⟩ position item found
        cases position with
        | zero => exact repeats_cons_zero
        | succ position =>
            rw [List.getElem?_cons_succ] at found
            rw [repeats_cons_succ]
            rintro (same | later)
            · apply fresh
              rw [same]
              exact List.mem_map_of_mem (List.mem_of_getElem? found)
            · exact rest position item found later
      · intro none
        constructor
        · intro member
          obtain ⟨item, here, same⟩ := List.mem_map.mp member
          obtain ⟨position, found⟩ := List.mem_iff_getElem?.mp here
          apply none (position + 1) item (by rwa [List.getElem?_cons_succ])
          exact repeats_cons_succ.mpr (.inl same.symm)
        · intro position item found repeated
          apply none (position + 1) item (by rwa [List.getElem?_cons_succ])
          exact repeats_cons_succ.mpr (.inr repeated)

end SeenScan

end VaultCore
