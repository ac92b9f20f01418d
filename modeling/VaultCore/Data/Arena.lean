import Mathlib.Logic.Function.Basic
import Mathlib.Order.Basic
import Mathlib.Order.Nat
import Mathlib.Tactic.Common

/-!
# Arenas

The objects of one kind, by the order of their creation.  Code that writes to
the objects it has created itself keeps all those that were there before.
-/

namespace VaultCore

/-- The references below `size` are those of created objects. -/
structure Arena (ω : Type) where
  contents : Nat → ω
  size : Nat

namespace Arena

variable {ω : Type}

/-- A new object; its reference is the size before. -/
def create (arena : Arena ω) (object : ω) : Arena ω :=
  { contents := Function.update arena.contents arena.size object
    size := arena.size + 1 }

/-- The object at a reference is replaced. -/
def write (arena : Arena ω) (reference : Nat) (object : ω) : Arena ω :=
  { arena with contents := Function.update arena.contents reference object }

/-- Every object that was there before is as it was. -/
structure Keeps (start arena : Arena ω) : Prop where
  size : start.size ≤ arena.size
  contents : ∀ reference < start.size,
    arena.contents reference = start.contents reference

variable {start arena : Arena ω} {reference : Nat} {object : ω}

@[simp] theorem contents_create :
    (arena.create object).contents arena.size = object :=
  Function.update_self _ _ _

@[simp] theorem contents_write :
    (arena.write reference object).contents reference = object :=
  Function.update_self _ _ _

theorem Keeps.refl (arena : Arena ω) : Keeps arena arena :=
  ⟨le_rfl, fun _ _ => rfl⟩

theorem Keeps.create (keeps : start.Keeps arena) :
    start.Keeps (arena.create object) where
  size := Nat.le_succ_of_le keeps.size
  contents := fun reference old => by
    have different : reference ≠ arena.size :=
      (Nat.lt_of_lt_of_le old keeps.size).ne
    have same := Function.update_of_ne different object arena.contents
    exact same.trans (keeps.contents reference old)

theorem Keeps.write (keeps : start.Keeps arena)
    (created : start.size ≤ reference) :
    start.Keeps (arena.write reference object) where
  size := keeps.size
  contents := fun other old => by
    have different : other ≠ reference :=
      (Nat.lt_of_lt_of_le old created).ne
    have same := Function.update_of_ne different object arena.contents
    exact same.trans (keeps.contents other old)

end Arena

end VaultCore
