import VaultCore.Data.ByteHeap

/-!
# What a computation leaves in a heap

A computation that clears its copies leaves what was there as it was, and
nothing but zeros in the buffers it has created.
-/

namespace VaultCore

section

variable {β : Type} {heap middle after : ByteHeap β} {kept : List Nat}

/-- What was there is as it was, and every buffer created since then is zero,
but for the kept ones. -/
structure LeavesOnly (heap after : ByteHeap β) (kept : List Nat) : Prop where
  grows : heap.Grows after
  zero : ∀ index, heap.created.length ≤ index → index ∉ kept →
    ∀ bytes, after.created[index]? = some bytes → ∀ byte ∈ bytes, byte = 0

namespace LeavesOnly

theorem refl (heap : ByteHeap β) : LeavesOnly heap heap [] where
  grows := .refl heap
  zero := by
    intro index beyond _ bytes found
    rw [List.getElem?_eq_none beyond] at found
    cases found

theorem trans (first : LeavesOnly heap middle [])
    (second : LeavesOnly middle after kept) : LeavesOnly heap after kept where
  grows := first.grows.trans second.grows
  zero := by
    intro index beyond others bytes found
    by_cases known : index < middle.created.length
    · rw [second.grows.created index known] at found
      exact first.zero index beyond List.not_mem_nil bytes found
    · exact second.zero index (not_lt.mp known) others bytes found

theorem create (leaves : LeavesOnly heap after kept) (bytes : Bytes) :
    LeavesOnly heap (after.create bytes).2
      (after.created.length :: kept) where
  grows := leaves.grows.trans (after.grows_create bytes)
  zero := by
    intro index beyond others held found
    have notKept : index ∉ kept := fun member =>
      others (List.mem_cons_of_mem _ member)
    simp only [ByteHeap.create] at found
    rcases Nat.lt_or_ge index after.created.length with earlier | later
    · rw [List.getElem?_append_left earlier] at found
      exact leaves.zero index beyond notKept held found
    · rw [List.getElem?_append_right later] at found
      have other : index ≠ after.created.length := by
        intro same
        exact others (same ▸ List.mem_cons_self)
      have past : 1 ≤ index - after.created.length := by omega
      rw [List.getElem?_eq_none (by simpa using past)] at found
      cases found

end LeavesOnly

theorem clearRange_zero {byteLength : Nat} {bytes : Bytes}
    (whole : bytes.length ≤ byteLength) :
    ∀ byte ∈ clearRange 0 byteLength bytes, byte = 0 := by
  intro byte member
  obtain ⟨index, bound, rfl⟩ := List.mem_mapIdx.mp member
  rw [if_pos]
  omega

/-- The view of all of a created buffer. -/
structure WholeView (heap : ByteHeap β) (view : ByteView β) (index : Nat) :
    Prop where
  buffer : view.buffer = .inr index
  begins : view.byteOffset = 0
  known : index < heap.created.length
  covers : ∀ bytes, heap.created[index]? = some bytes →
    bytes.length ≤ view.byteLength

namespace WholeView

variable {view : ByteView β} {index : Nat}

theorem of_create (heap : ByteHeap β) (bytes : Bytes) :
    WholeView (heap.create bytes).2 (heap.create bytes).1
      heap.created.length where
  buffer := rfl
  begins := rfl
  known := by simp [ByteHeap.create]
  covers := by
    intro held found
    simp only [ByteHeap.create, List.getElem?_concat_length,
      Option.some.injEq] at found
    rw [← found]
    exact le_rfl

theorem create (whole : WholeView heap view index) (bytes : Bytes) :
    WholeView (heap.create bytes).2 view index where
  buffer := whole.buffer
  begins := whole.begins
  known := whole.known.trans_le (heap.grows_create bytes).length
  covers := by
    intro held found
    rw [(heap.grows_create bytes).created index whole.known] at found
    exact whole.covers held found

variable [DecidableEq β]

/-- A cleared buffer keeps its length. -/
theorem clear (whole : WholeView heap view index) (other : ByteView β) :
    WholeView (heap.clear other) view index where
  buffer := whole.buffer
  begins := whole.begins
  known := by
    unfold ByteHeap.clear
    cases other.buffer with
    | inl buffer => exact whole.known
    | inr target => simpa using whole.known
  covers := by
    unfold ByteHeap.clear
    intro held found
    cases cleared : other.buffer with
    | inl buffer =>
        rw [cleared] at found
        exact whole.covers held found
    | inr target =>
        rw [cleared] at found
        dsimp only at found
        rw [List.getElem?_modify] at found
        obtain ⟨bytes, here, rfl⟩ := Option.map_eq_some_iff.mp found
        have covers := whole.covers bytes here
        split_ifs
        · simpa [clearRange] using covers
        · exact covers

end WholeView

variable [DecidableEq β]

/-- Clearing all of a kept buffer. -/
theorem LeavesOnly.clear {view : ByteView β} {index : Nat} {left : List Nat}
    (leaves : LeavesOnly heap after kept)
    (whole : WholeView after view index) (fresh : heap.created.length ≤ index)
    (rest : ∀ other ∈ kept, other = index ∨ other ∈ left) :
    LeavesOnly heap (after.clear view) left where
  grows := leaves.grows.clear ⟨index, whole.buffer, fresh⟩
  zero := by
    intro other beyond others bytes found
    simp only [ByteHeap.clear, whole.buffer, whole.begins] at found
    by_cases same : other = index
    · subst same
      rw [List.getElem?_modify_eq] at found
      obtain ⟨held, here, rfl⟩ := Option.map_eq_some_iff.mp found
      exact clearRange_zero (whole.covers held here)
    · rw [List.getElem?_modify_ne _ _ (Ne.symm same)] at found
      apply leaves.zero other beyond _ bytes found
      intro member
      exact (rest other member).elim same others

end

end VaultCore
