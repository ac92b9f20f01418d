import VaultCore.Text.Utf8

/-!
# Buffers and views

A heap has the buffers that were there when a computation began and those it
has created since.  A view is a range of one buffer.  What a computation
creates is apart from everything that was there before, so clearing it leaves
the rest as it was.
-/

namespace VaultCore

/-- The buffers given to a computation, of any kind of names, and those it has
created, by their numbers. -/
structure ByteHeap (β : Type) where
  given : β → Bytes
  created : List Bytes

/-- A range of a buffer. -/
structure ByteView (β : Type) where
  buffer : β ⊕ Nat
  byteOffset : Nat
  byteLength : Nat

/-- A range of the bytes becomes zero. -/
def clearRange (byteOffset byteLength : Nat) (bytes : Bytes) : Bytes :=
  bytes.mapIdx fun index byte =>
    if byteOffset ≤ index ∧ index < byteOffset + byteLength then 0 else byte

namespace ByteHeap

variable {β : Type}

/-- The bytes of a given or a created buffer. -/
def read (heap : ByteHeap β) : β ⊕ Nat → Bytes
  | .inl buffer => heap.given buffer
  | .inr index => heap.created.getD index []

/-- The bytes of a view, as far as its buffer has them. -/
def contents (heap : ByteHeap β) (view : ByteView β) : Bytes :=
  ((heap.read view.buffer).drop view.byteOffset).take view.byteLength

/-- A new buffer with these bytes, and the view of all of it. -/
def create (heap : ByteHeap β) (bytes : Bytes) :
    ByteView β × ByteHeap β :=
  ({ buffer := .inr heap.created.length
     byteOffset := 0
     byteLength := bytes.length },
    { heap with created := heap.created ++ [bytes] })

/-- `view.fill(0)` -/
def clear [DecidableEq β] (heap : ByteHeap β) (view : ByteView β) :
    ByteHeap β :=
  match view.buffer with
  | .inl buffer =>
      { heap with
        given := Function.update heap.given buffer
          (clearRange view.byteOffset view.byteLength (heap.given buffer)) }
  | .inr index =>
      { heap with
        created := heap.created.modify index
          (clearRange view.byteOffset view.byteLength) }

/-- A view of a buffer that the heap does not have yet. -/
def IsNew (heap : ByteHeap β) (view : ByteView β) : Prop :=
  ∃ index, view.buffer = .inr index ∧ heap.created.length ≤ index

/-- The heap has grown, and what it had is as it was. -/
structure Grows (heap after : ByteHeap β) : Prop where
  given : after.given = heap.given
  length : heap.created.length ≤ after.created.length
  created : ∀ index < heap.created.length,
    after.created[index]? = heap.created[index]?

section

variable {heap middle after : ByteHeap β} {view : ByteView β}

theorem Grows.refl (heap : ByteHeap β) : Grows heap heap :=
  ⟨rfl, le_rfl, fun _ _ => rfl⟩

theorem Grows.trans (first : Grows heap middle)
    (second : Grows middle after) : Grows heap after := by
  refine ⟨second.given.trans first.given, first.length.trans second.length,
    ?_⟩
  intro index bound
  rw [second.created index (bound.trans_le first.length),
    first.created index bound]

theorem IsNew.of_grows (grows : Grows heap middle)
    (fresh : middle.IsNew view) : heap.IsNew view := by
  obtain ⟨index, buffer, beyond⟩ := fresh
  exact ⟨index, buffer, grows.length.trans beyond⟩

theorem grows_create (heap : ByteHeap β) (bytes : Bytes) :
    Grows heap (heap.create bytes).2 := by
  refine ⟨rfl, by simp [create], ?_⟩
  intro index bound
  exact List.getElem?_append_left bound

theorem isNew_create (heap : ByteHeap β) (bytes : Bytes) :
    heap.IsNew (heap.create bytes).1 :=
  ⟨heap.created.length, rfl, le_rfl⟩

@[simp] theorem contents_create (heap : ByteHeap β) (bytes : Bytes) :
    (heap.create bytes).2.contents (heap.create bytes).1 = bytes := by
  simp [create, contents, read]

theorem not_isNew_create (heap : ByteHeap β) (bytes : Bytes) :
    ¬ (heap.create bytes).2.IsNew (heap.create bytes).1 := by
  rintro ⟨index, buffer, beyond⟩
  cases buffer
  simp only [create, List.length_append, List.length_singleton] at beyond
  omega

theorem buffer_create_ne {bytes : Bytes} (known : ¬ heap.IsNew view) :
    (heap.create bytes).1.buffer ≠ view.buffer := by
  intro same
  obtain ⟨index, buffer, beyond⟩ := isNew_create heap bytes
  exact known ⟨index, same.symm.trans buffer, beyond⟩

variable [DecidableEq β]

theorem Grows.clear (grows : Grows heap after) (fresh : heap.IsNew view) :
    Grows heap (after.clear view) := by
  obtain ⟨position, buffer, beyond⟩ := fresh
  simp only [ByteHeap.clear, buffer]
  refine ⟨grows.given, by simpa using grows.length, ?_⟩
  intro index bound
  have apart : position ≠ index := by omega
  rw [List.getElem?_modify_ne _ _ apart, grows.created index bound]

/-- Clearing one buffer leaves the others. -/
theorem read_clear_of_ne {buffer : β ⊕ Nat}
    (different : buffer ≠ view.buffer) :
    (heap.clear view).read buffer = heap.read buffer := by
  cases cleared : view.buffer with
  | inl target =>
      simp only [ByteHeap.clear, cleared]
      cases buffer with
      | inl other =>
          have apart : other ≠ target := by
            rintro rfl
            exact different cleared.symm
          exact Function.update_of_ne apart _ _
      | inr index => rfl
  | inr target =>
      simp only [ByteHeap.clear, cleared]
      cases buffer with
      | inl other => rfl
      | inr index =>
          have apart : target ≠ index := by
            rintro rfl
            exact different cleared.symm
          simp only [read, List.getD_eq_getElem?_getD,
            List.getElem?_modify_ne _ _ apart]

theorem contents_clear_of_ne {other : ByteView β}
    (different : other.buffer ≠ view.buffer) :
    (heap.clear view).contents other = heap.contents other := by
  rw [contents, read_clear_of_ne different, contents]

end

end ByteHeap

end VaultCore
