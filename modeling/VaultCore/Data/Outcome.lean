import Mathlib.Tactic.Common

/-!
# Outcomes

Rules for taking apart computations that end with a value or an error.
-/

namespace VaultCore

namespace Outcome

variable {ε α β : Type}

theorem bind_eq_ok_iff {first : Except ε α} {next : α → Except ε β}
    {result : β} :
    (first >>= next) = .ok result ↔
      ∃ value, first = .ok value ∧ next value = .ok result := by
  cases first with
  | ok value =>
      constructor
      · intro success
        exact ⟨value, rfl, success⟩
      · rintro ⟨other, same, success⟩
        cases same
        exact success
  | error error =>
      constructor
      · intro success
        cases success
      · rintro ⟨other, same, -⟩
        cases same

theorem then_eq_ok_iff {first : Except ε Unit} {next : Except ε α}
    {result : α} :
    (first >>= fun _ => next) = .ok result ↔
      first = .ok () ∧ next = .ok result := by
  rw [bind_eq_ok_iff]
  constructor
  · rintro ⟨done, ran, rest⟩
    exact ⟨ran, rest⟩
  · rintro ⟨ran, rest⟩
    exact ⟨(), ran, rest⟩

@[simp] theorem ok_bind (value : α) (next : α → Except ε β) :
    ((Except.ok value : Except ε α) >>= next) = next value := rfl

@[simp] theorem error_bind (error : ε) (next : α → Except ε β) :
    ((Except.error error : Except ε α) >>= next) = .error error := rfl

@[simp] theorem pure_eq_ok (value : α) :
    (pure value : Except ε α) = .ok value := rfl

@[simp] theorem throw_eq_error (error : ε) :
    (throw error : Except ε α) = .error error := rfl

/-- The first attempt that succeeds, or the error of the last one. -/
def firstSuccess (attempt : β → Except ε α) : List β → ε → Except ε α
  | [], lastError => .error lastError
  | candidate :: rest, _ =>
      match attempt candidate with
      | .ok value => .ok value
      | .error error => firstSuccess attempt rest error

variable {attempt : β → Except ε α} {candidates : List β} {lastError : ε}

theorem firstSuccess_sound {value : α}
    (success : firstSuccess attempt candidates lastError = .ok value) :
    ∃ candidate ∈ candidates, attempt candidate = .ok value := by
  induction candidates generalizing lastError with
  | nil => cases success
  | cons candidate rest ih =>
      rw [firstSuccess] at success
      cases tried : attempt candidate with
      | ok found =>
          rw [tried] at success
          cases success
          exact ⟨candidate, List.mem_cons_self, tried⟩
      | error error =>
          rw [tried] at success
          obtain ⟨other, member, found⟩ := ih success
          exact ⟨other, List.mem_cons_of_mem _ member, found⟩

theorem firstSuccess_head {candidate : β} {rest : List β} {value : α}
    (success : attempt candidate = .ok value) :
    firstSuccess attempt (candidate :: rest) lastError = .ok value := by
  simp only [firstSuccess, success]

/-- When every success gives the same value, the search finds it exactly when
some candidate does. -/
theorem firstSuccess_eq_ok_iff {value : α}
    (unique : ∀ candidate ∈ candidates, ∀ other,
      attempt candidate = .ok other → other = value) :
    firstSuccess attempt candidates lastError = .ok value ↔
      ∃ candidate ∈ candidates, attempt candidate = .ok value := by
  constructor
  · exact firstSuccess_sound
  · induction candidates generalizing lastError with
    | nil =>
        rintro ⟨candidate, member, -⟩
        cases member
    | cons candidate rest ih =>
        rintro ⟨found, member, success⟩
        rw [firstSuccess]
        cases tried : attempt candidate with
        | ok other =>
            rw [unique candidate List.mem_cons_self other tried]
        | error error =>
            apply ih
            · intro later laterMember
              exact unique later (List.mem_cons_of_mem _ laterMember)
            · rcases List.mem_cons.mp member with same | later
              · rw [same, tried] at success
                cases success
              · exact ⟨found, later, success⟩

theorem firstSuccess_of_success
    (success : ∃ candidate ∈ candidates, ∃ value,
      attempt candidate = .ok value) :
    ∃ value, firstSuccess attempt candidates lastError = .ok value := by
  induction candidates generalizing lastError with
  | nil =>
      obtain ⟨candidate, member, -⟩ := success
      cases member
  | cons candidate rest ih =>
      rw [firstSuccess]
      cases tried : attempt candidate with
      | ok value => exact ⟨value, rfl⟩
      | error error =>
          apply ih
          obtain ⟨found, member, value, succeeds⟩ := success
          rcases List.mem_cons.mp member with same | later
          · rw [same, tried] at succeeds
            cases succeeds
          · exact ⟨found, later, value, succeeds⟩

theorem firstSuccess_append {value : α} (later : List β)
    (success : firstSuccess attempt candidates lastError = .ok value) :
    firstSuccess attempt (candidates ++ later) lastError = .ok value := by
  induction candidates generalizing lastError with
  | nil => cases success
  | cons candidate rest ih =>
      rw [List.cons_append, firstSuccess]
      rw [firstSuccess] at success
      cases tried : attempt candidate with
      | ok found =>
          rw [tried] at success
          exact success
      | error error =>
          rw [tried] at success
          exact ih success

end Outcome

end VaultCore
