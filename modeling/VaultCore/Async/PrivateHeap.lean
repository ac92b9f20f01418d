import VaultCore.Async.Conduct

/-!
# Cells that one task alone can reach

Tasks add cells to a heap, and the task that has added a cell is the only one
that writes to it.  In every interleaving a task finds its cells as it has
left them, whatever the other tasks do to theirs.
-/

namespace VaultCore

/-- Cells of a heap, each with its place and its content. -/
structure Cells (γ : Type) where
  entries : List (Nat × γ) := []

namespace Cells

variable {γ : Type}

def indices (cells : Cells γ) : List Nat := cells.entries.map Prod.fst

/-- The heap has these contents at these places. -/
def Held (cells : Cells γ) (heap : List γ) : Prop :=
  ∀ cell ∈ cells.entries, heap[cell.1]? = some cell.2

/-- One more cell, at the given place. -/
def add (cells : Cells γ) (index : Nat) (content : γ) : Cells γ :=
  { entries := cells.entries ++ [(index, content)] }

/-- The cells after a write to one of them. -/
def modify (cells : Cells γ) (index : Nat) (update : γ → γ) : Cells γ :=
  { entries := cells.entries.map fun cell =>
      if cell.1 = index then (cell.1, update cell.2) else cell }

theorem mem_indices {cells : Cells γ} {index : Nat} :
    index ∈ cells.indices ↔ ∃ content, (index, content) ∈ cells.entries := by
  simp [indices]

@[simp] theorem indices_add (cells : Cells γ) (index : Nat) (content : γ) :
    (cells.add index content).indices = cells.indices ++ [index] := by
  simp [indices, add]

@[simp] theorem indices_modify (cells : Cells γ) (index : Nat)
    (update : γ → γ) :
    (cells.modify index update).indices = cells.indices := by
  simp only [indices, modify, List.map_map]
  apply List.map_congr_left
  intro cell _
  simp only [Function.comp_apply]
  split
  · rfl
  · rfl

theorem Held.lt_length {cells : Cells γ} {heap : List γ} {index : Nat}
    (held : cells.Held heap) (listed : index ∈ cells.indices) :
    index < heap.length := by
  obtain ⟨content, member⟩ := mem_indices.mp listed
  obtain ⟨bound, -⟩ := List.getElem?_eq_some_iff.mp (held _ member)
  exact bound

theorem Held.transfer {cells other : Cells γ} {heap later : List γ}
    (held : cells.Held heap) (otherHeld : other.Held heap)
    (indices : ∀ index ∈ cells.indices, index ∈ other.indices)
    (found : other.Held later) : cells.Held later := by
  intro cell member
  obtain ⟨content, listed⟩ := mem_indices.mp
    (indices cell.1 (mem_indices.mpr ⟨cell.2, member⟩))
  have same : some cell.2 = some content :=
    (held cell member).symm.trans (otherHeld (cell.1, content) listed)
  rw [same]
  exact found (cell.1, content) listed

/-- How a segment of a task changes the heap: it writes to the cells that the
task holds, and the task comes to hold what the segment adds. -/
structure Change (held kept : Cells γ) (start finish : List γ) : Prop where
  contents : kept.Held finish
  indices : ∀ index, index ∈ kept.indices ↔
    index ∈ held.indices ∨ start.length ≤ index ∧ index < finish.length
  grows : start.length ≤ finish.length
  others : ∀ index, index < start.length → index ∉ held.indices →
    finish[index]? = start[index]?

namespace Change

variable {held now kept : Cells γ} {start heap finish : List γ}

theorem refl (valid : held.Held heap) : Change held held heap heap where
  contents := valid
  indices := by
    intro index
    constructor
    · exact .inl
    · rintro (listed | ⟨above, below⟩)
      · exact listed
      · omega
  grows := Nat.le_refl _
  others := fun _ _ _ => rfl

theorem add (changed : Change held now start heap) (content : γ) :
    Change held (now.add heap.length content) start (heap ++ [content]) where
  contents := by
    intro cell member
    cases List.mem_append.mp member with
    | inl earlier =>
        have found := changed.contents cell earlier
        obtain ⟨bound, -⟩ := List.getElem?_eq_some_iff.mp found
        rw [List.getElem?_append_left bound]
        exact found
    | inr last =>
        rw [List.mem_singleton.mp last]
        exact List.getElem?_concat_length
  indices := by
    intro index
    have grows := changed.grows
    rw [indices_add, List.mem_append, changed.indices, List.mem_singleton,
      List.length_append, List.length_singleton, or_assoc]
    apply or_congr_right
    omega
  grows := by
    rw [List.length_append]
    exact Nat.le_add_right_of_le changed.grows
  others := by
    intro index below unlisted
    rw [List.getElem?_append_left (Nat.lt_of_lt_of_le below changed.grows)]
    exact changed.others index below unlisted

theorem modify (changed : Change held now start heap) {index : Nat}
    (listed : index ∈ now.indices) (update : γ → γ) :
    Change held (now.modify index update) start (heap.modify index update)
    where
  contents := by
    intro cell member
    obtain ⟨earlier, present, written⟩ := List.mem_map.mp member
    have found := changed.contents earlier present
    subst written
    by_cases same : earlier.1 = index
    · rw [if_pos same]
      rw [same] at found ⊢
      rw [List.getElem?_modify_eq, found]
      rfl
    · rw [if_neg same, List.getElem?_modify_ne _ _ (Ne.symm same)]
      exact found
  indices := by
    intro other
    rw [indices_modify, List.length_modify]
    exact changed.indices other
  grows := by
    rw [List.length_modify]
    exact changed.grows
  others := by
    intro other below unlisted
    have different : index ≠ other := by
      rintro rfl
      cases (changed.indices index).mp listed with
      | inl earlier => exact unlisted earlier
      | inr added => omega
    rw [List.getElem?_modify_ne _ _ different]
    exact changed.others other below unlisted

end Change

/-- The cells that the first `count` tasks hold, each its own. -/
structure Apart (owned : Nat → Cells γ) (count : Nat) (heap : List γ) : Prop
    where
  held : ∀ task, task < count → (owned task).Held heap
  disjoint : ∀ task other, task < count → other < count → task ≠ other →
    ∀ index ∈ (owned task).indices, index ∉ (owned other).indices

/-- A segment of one task leaves the cells of all tasks apart. -/
theorem Apart.change {owned : Nat → Cells γ} {count more task : Nat}
    {held kept : Cells γ} {start finish : List γ}
    (apart : Apart owned count start)
    (changed : Change held kept start finish)
    (others : ∀ other, other < count → other ≠ task →
      ∀ index ∈ (owned other).indices, index ∉ held.indices)
    (tasks : ∀ other, other < more → other ≠ task → other < count) :
    Apart (Function.update owned task kept) more finish := by
  -- What the task comes to hold is held by no other task.
  have separate : ∀ other, other < more → other ≠ task →
      ∀ index ∈ (owned other).indices, index ∉ kept.indices := by
    intro other bound different index listed held
    have before := tasks other bound different
    cases (changed.indices index).mp held with
    | inl earlier => exact others other before different index listed earlier
    | inr added =>
        have below := (apart.held other before).lt_length listed
        omega
  constructor
  case held =>
    intro other bound
    by_cases same : other = task
    · rw [same, Function.update_self]
      exact changed.contents
    · have before := tasks other bound same
      rw [Function.update_of_ne same]
      intro cell member
      have listed := mem_indices.mpr ⟨cell.2, member⟩
      rw [changed.others cell.1 ((apart.held other before).lt_length listed)
        (others other before same cell.1 listed)]
      exact apart.held other before cell member
  case disjoint =>
    intro first second firstBound secondBound different index listed
    by_cases firstIs : first = task
    · subst firstIs
      rw [Function.update_self] at listed
      rw [Function.update_of_ne (Ne.symm different)]
      intro again
      exact separate second secondBound (Ne.symm different) index again listed
    · rw [Function.update_of_ne firstIs] at listed
      by_cases secondIs : second = task
      · subst secondIs
        rw [Function.update_self]
        exact separate first firstBound firstIs index listed
      · rw [Function.update_of_ne secondIs]
        exact apart.disjoint first second (tasks first firstBound firstIs)
          (tasks second secondBound secondIs) different index listed

end Cells

namespace Machine

variable {κ ω σ ε α γ : Type}

theorem RunsWith.of_forall
    {condition : List (PoolEvent κ ω) → PoolEvent κ ω → Prop}
    (always : ∀ before event, condition before event)
    (events : List (PoolEvent κ ω)) : RunsWith condition events := by
  induction events using List.reverseRecOn with
  | nil => exact .nil
  | append_singleton events event ih => exact .snoc event ih (always _ _)

/-- The tasks of the machine write to cells of their own only, and the
environment writes to none. -/
structure PrivateHeap (machine : Machine κ ω σ ε α) (heap : σ → List γ)
    (change : κ → Cells γ → Cells γ → σ → σ → Prop)
    (post : κ → Except ε α → Cells γ → σ → σ → Prop) : Prop where
  owns : ∀ call origin, (machine.program call).Owns
    (fun cells state => cells.Held (heap state)) (change call) (post call)
    {} origin origin
  confined : ∀ call held kept start finish,
    change call held kept start finish →
    Cells.Change held kept (heap start) (heap finish)
  ends : ∀ call outcome held start finish,
    post call outcome held start finish →
    ∃ kept, change call held kept start finish
  environment : ∀ event state, heap (machine.environment event state) =
    heap state

namespace PrivateHeap

variable {machine : Machine κ ω σ ε α} {heap : σ → List γ}
  {change : κ → Cells γ → Cells γ → σ → σ → Prop}
  {post : κ → Except ε α → Cells γ → σ → σ → Prop}

def ownership (keeps : machine.PrivateHeap heap change post) :
    machine.Ownership (Cells γ) :=
  { nothing := {}
    valid := fun cells state => cells.Held (heap state)
    change
    respects := by
      intro call origin
      exact (keeps.owns call origin).mono (keeps.ends call) }

theorem preserved (keeps : machine.PrivateHeap heap change post)
    (initial : σ) :
    keeps.ownership.Preserved (fun _ _ => True) initial fun _ ledger =>
      Cells.Apart ledger.owned ledger.calls.length (heap ledger.state) := by
  constructor
  case valid =>
    intro events ledger apart
    exact apart.held
  case start =>
    intro events ledger apart _ call kept finish _ changed _
    apply apart.change (keeps.confined call _ _ _ _ changed)
    · intro other _ _ index _ impossible
      cases impossible
    · intro other bound different
      simp only [Ledger.begin, Ledger.advance, List.length_append,
        List.length_singleton] at bound
      omega
  case resume =>
    intro events ledger apart _ task call kept finish listed changed _
    obtain ⟨bound, -⟩ := List.getElem?_eq_some_iff.mp listed
    apply apart.change (keeps.confined call _ _ _ _ changed)
    · intro other within different
      exact apart.disjoint other task within bound different
    · intro other within _
      exact within
  case idle =>
    intro events ledger apart task _ _
    exact apart
  case environment =>
    intro events ledger apart _ event _
    rw [keeps.environment]
    exact apart

/-- In every run every task is tracked by the cells it holds, and the heap
still has them. -/
theorem tracked (keeps : machine.PrivateHeap heap change post) {initial : σ}
    {events : List (PoolEvent κ ω)} {task : Nat} {call : κ}
    {rest : Async σ ε α}
    (found : (machine.run (Pool.initial initial) events).tasks[task]? =
      some (call, rest)) :
    ∃ kept, kept.Held (heap (machine.run (Pool.initial initial)
        events).state) ∧
      Async.Tracked (fun cells state => cells.Held (heap state))
        (change call) (post call) {}
        (machine.segments task (Pool.initial initial) events) kept rest := by
  obtain ⟨ledger, agrees, apart, follows⟩ :=
    Ownership.run_tracked (keeps.preserved initial)
      { held := fun _ bound => absurd bound (Nat.not_lt_zero _)
        disjoint := fun _ _ bound => absurd bound (Nat.not_lt_zero _) }
      (.of_forall (fun _ _ => trivial) events) keeps.owns keeps.ends
  have tracked := follows task call rest found
  have listed : task < ledger.calls.length := by
    obtain ⟨bound, -⟩ := List.getElem?_eq_some_iff.mp found
    rw [agrees.calls, List.length_map]
    exact bound
  have held := apart.held task listed
  rw [agrees.state] at held
  rw [agrees.ran] at tracked
  exact ⟨ledger.owned task, held, tracked⟩

/-- A task still holds every cell that its segments have added. -/
theorem listed_of_added (keeps : machine.PrivateHeap heap change post)
    {call : κ} {kept : Cells γ} {ran : List (σ × σ)}
    (history : Async.Ran (change call) {} ran kept) :
    ∀ segment ∈ ran, ∀ index, (heap segment.1).length ≤ index →
      index < (heap segment.2).length → index ∈ kept.indices := by
  induction history with
  | nil =>
      intro segment member
      cases member
  | snoc _ changed ih =>
      have indices := (keeps.confined call _ _ _ _ changed).indices
      intro segment member index above below
      cases List.mem_append.mp member with
      | inl earlier =>
          exact (indices index).mpr (.inl (ih segment earlier index above
            below))
      | inr last =>
          rw [List.mem_singleton.mp last] at above below
          exact (indices index).mpr (.inr ⟨above, below⟩)

/-- Every segment of every task is a change of its call. -/
theorem change_of_mem (keeps : machine.PrivateHeap heap change post)
    {initial : σ} {events : List (PoolEvent κ ω)} {task : Nat}
    {segment : σ × σ}
    (member : segment ∈ machine.segments task (Pool.initial initial) events) :
    ∃ call held kept, change call held kept segment.1 segment.2 := by
  cases found : (machine.run (Pool.initial initial) events).tasks[task]? with
  | none =>
      have nothing := (run_recorded initial events).unstarted task
        (List.getElem?_eq_none_iff.mp found)
      rw [nothing] at member
      cases member
  | some entry =>
      obtain ⟨call, rest⟩ := entry
      obtain ⟨kept, -, tracked⟩ := keeps.tracked found
      obtain ⟨before, after, changed⟩ :=
        tracked.history.change_of_mem segment member
      exact ⟨call, before, after, changed⟩

end PrivateHeap

end Machine

end VaultCore
