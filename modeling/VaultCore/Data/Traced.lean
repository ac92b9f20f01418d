import Mathlib.Data.List.Basic
import Mathlib.Tactic.Common

/-!
# Computations and what they let be seen

A traced computation has a value and the list of the events seen while it was
found.  A loop whose steps show the same whatever has been accumulated shows
a trace that its indices alone decide.
-/

namespace VaultCore

/-- A value with what was observed on the way to it. -/
structure Traced (δ α : Type) where
  value : α
  trace : List δ

namespace Traced

variable {δ α β ι : Type}

/-- Nothing is observed. -/
protected def pure (value : α) : Traced δ α :=
  { value, trace := [] }

/-- What is observed, one after the other. -/
protected def bind (first : Traced δ α) (next : α → Traced δ β) :
    Traced δ β :=
  { value := (next first.value).value
    trace := first.trace ++ (next first.value).trace }

instance : Monad (Traced δ) where
  pure := Traced.pure
  bind := Traced.bind

/-- A value found by way of one event. -/
def observe (event : δ) (value : α) : Traced δ α :=
  { value, trace := [event] }

@[simp] theorem pure_value (value : α) :
    (pure value : Traced δ α).value = value := rfl

@[simp] theorem pure_trace (value : α) :
    (pure value : Traced δ α).trace = [] := rfl

@[simp] theorem bind_value (first : Traced δ α) (next : α → Traced δ β) :
    (first >>= next).value = (next first.value).value := rfl

@[simp] theorem bind_trace (first : Traced δ α) (next : α → Traced δ β) :
    (first >>= next).trace = first.trace ++ (next first.value).trace := rfl

@[simp] theorem observe_value (event : δ) (value : α) :
    (observe event value).value = value := rfl

@[simp] theorem observe_trace (event : δ) (value : α) :
    (observe event value).trace = [event] := rfl

theorem value_foldlM (step : β → ι → Traced δ β) (indices : List ι)
    (start : β) :
    (indices.foldlM step start).value =
      indices.foldl (fun found index => (step found index).value) start := by
  induction indices generalizing start with
  | nil => rfl
  | cons index indices ih =>
      rw [List.foldlM_cons, bind_value, ih, List.foldl_cons]

theorem trace_foldlM {step : β → ι → Traced δ β} {seen : ι → List δ}
    (same : ∀ found index, (step found index).trace = seen index)
    (indices : List ι) (start : β) :
    (indices.foldlM step start).trace = indices.flatMap seen := by
  induction indices generalizing start with
  | nil => rfl
  | cons index indices ih =>
      rw [List.foldlM_cons, bind_trace, same, ih, List.flatMap_cons]

end Traced

end VaultCore
