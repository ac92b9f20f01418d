import VaultCore.Async.History
import Mathlib.Logic.Function.Basic

/-!
# Tasks that own something between their segments

`Async.Owns` is the proof rule for programs that keep something to themselves
across a suspension point, such as a byte array that no other program writes.
A segment changes what its task owns together with the shared state; while the
task is suspended the state may change, but what it owns stays valid.

A ledger lists what every task of a run owns.  An invariant of the ledger that
every change keeps holds after every run.
-/

namespace VaultCore

namespace Async

variable {σ ε α β ρ : Type}

/-- Every segment of the program changes what its task owns in a listed way,
and the last one ends in `post`.  `start` is the state in which the current
segment began. -/
def Owns (valid : ρ → σ → Prop) (change : ρ → ρ → σ → σ → Prop)
    (post : Except ε α → ρ → σ → σ → Prop) :
    Async σ ε α → ρ → σ → σ → Prop
  | .done outcome, owned, start, state => post outcome owned start state
  | .sync update rest, owned, start, state =>
      (rest state).Owns valid change post owned start (update state)
  | .pause rest, owned, start, state =>
      ∃ kept, change owned kept start state ∧
        ∀ later, valid kept later →
          rest.Owns valid change post kept later later

section Rules

variable {valid : ρ → σ → Prop} {change : ρ → ρ → σ → σ → Prop}

theorem Owns.mono {program : Async σ ε α}
    {post weaker : Except ε α → ρ → σ → σ → Prop} {owned : ρ}
    {start state : σ}
    (owns : program.Owns valid change post owned start state)
    (implied : ∀ outcome held begun finish, post outcome held begun finish →
      weaker outcome held begun finish) :
    program.Owns valid change weaker owned start state := by
  induction program generalizing owned start state with
  | done outcome => exact implied _ _ _ _ owns
  | sync update rest ih => exact ih state owns
  | pause rest ih =>
      obtain ⟨kept, changed, continues⟩ := owns
      exact ⟨kept, changed, fun later holds => ih (continues later holds)⟩

theorem Owns.weaken {weaker : ρ → ρ → σ → σ → Prop} {program : Async σ ε α}
    {post : Except ε α → ρ → σ → σ → Prop} {owned : ρ} {start state : σ}
    (owns : program.Owns valid change post owned start state)
    (implied : ∀ held kept begun finish, change held kept begun finish →
      weaker held kept begun finish) :
    program.Owns valid weaker post owned start state := by
  induction program generalizing owned start state with
  | done outcome => exact owns
  | sync update rest ih => exact ih state owns
  | pause rest ih =>
      obtain ⟨kept, changed, continues⟩ := owns
      exact ⟨kept, implied _ _ _ _ changed,
        fun later holds => ih (continues later holds)⟩

theorem Owns.unrestricted {program : Async σ ε α}
    {post : Except ε α → ρ → σ → σ → Prop} {owned : ρ} {start state : σ}
    (anyChange : ∀ held kept begun finish, change held kept begun finish)
    (anyEnd : ∀ outcome held begun finish, post outcome held begun finish) :
    program.Owns valid change post owned start state := by
  induction program generalizing owned start state with
  | done outcome => exact anyEnd outcome owned start state
  | sync update rest ih => exact ih state
  | pause rest ih =>
      exact ⟨owned, anyChange _ _ _ _, fun later _ => ih⟩

theorem Owns.bind {program : Async σ ε α} {next : α → Async σ ε β}
    {post : Except ε β → ρ → σ → σ → Prop} {owned : ρ} {start state : σ}
    (owns : program.Owns valid change
      (fun outcome held begun finish =>
        match outcome with
        | .ok value => (next value).Owns valid change post held begun finish
        | .error error => post (.error error) held begun finish)
      owned start state) :
    (program >>= next).Owns valid change post owned start state := by
  induction program generalizing owned start state with
  | done outcome =>
      cases outcome with
      | ok value => exact owns
      | error error => exact owns
  | sync update rest ih => exact ih state owns
  | pause rest ih =>
      obtain ⟨kept, changed, continues⟩ := owns
      exact ⟨kept, changed, fun later holds => ih (continues later holds)⟩

theorem Owns.tryCatch {program : Async σ ε α} {handler : ε → Async σ ε α}
    {post : Except ε α → ρ → σ → σ → Prop} {owned : ρ} {start state : σ}
    (owns : program.Owns valid change
      (fun outcome held begun finish =>
        match outcome with
        | .ok value => post (.ok value) held begun finish
        | .error error =>
            (handler error).Owns valid change post held begun finish)
      owned start state) :
    (program.tryCatch handler).Owns valid change post owned start state := by
  induction program generalizing owned start state with
  | done outcome =>
      cases outcome with
      | ok value => exact owns
      | error error => exact owns
  | sync update rest ih => exact ih state owns
  | pause rest ih =>
      obtain ⟨kept, changed, continues⟩ := owns
      exact ⟨kept, changed, fun later holds => ih (continues later holds)⟩

theorem Owns.await {program : Async σ ε α}
    {post : Except ε α → ρ → σ → σ → Prop} {owned : ρ} {start state : σ}
    (owns : program.Owns valid change
      (fun outcome held begun finish =>
        ∃ kept, change held kept begun finish ∧
          ∀ later, valid kept later → post outcome kept later later)
      owned start state) :
    program.await.Owns valid change post owned start state := by
  induction program generalizing owned start state with
  | done outcome => exact owns
  | sync update rest ih => exact ih state owns
  | pause rest ih =>
      obtain ⟨kept, changed, continues⟩ := owns
      exact ⟨kept, changed, fun later holds => ih (continues later holds)⟩

theorem Owns.bind_awaitOutcome {outcome : Except ε α}
    {next : α → Async σ ε β} {post : Except ε β → ρ → σ → σ → Prop}
    {owned kept : ρ} {start state : σ}
    (changed : change owned kept start state)
    (continues : ∀ value later, outcome = .ok value → valid kept later →
      (next value).Owns valid change post kept later later)
    (fails : ∀ error later, outcome = .error error → valid kept later →
      post (.error error) kept later later) :
    (Async.awaitOutcome outcome >>= next).Owns valid change post owned start
      state := by
  refine ⟨kept, changed, ?_⟩
  intro later holds
  cases outcome with
  | ok value => exact continues value later rfl holds
  | error error => exact fails error later rfl holds

theorem Owns.lift {code : Sync σ ε α}
    {post : Except ε α → ρ → σ → σ → Prop} {owned : ρ} {start state : σ}
    (holds : post (code state).1 owned start (code state).2) :
    (Async.lift code).Owns valid change post owned start state :=
  holds

theorem Owns.bind_lift {code : Sync σ ε α} {next : α → Async σ ε β}
    {post : Except ε β → ρ → σ → σ → Prop} {owned : ρ} {start state : σ}
    (continues : ∀ value middle, code state = (.ok value, middle) →
      (next value).Owns valid change post owned start middle)
    (fails : ∀ error middle, code state = (.error error, middle) →
      post (.error error) owned start middle) :
    (Async.lift code >>= next).Owns valid change post owned start state := by
  change ((Async.done (code state).1 : Async σ ε α) >>= next).Owns _ _ _ _ _
    (code state).2
  cases ran : code state with
  | mk outcome middle =>
      cases outcome with
      | ok value => exact continues value middle ran
      | error error => exact fails error middle ran

/-- What a program that has settled still promises for what its task owns. -/
def Keeps (valid : ρ → σ → Prop) (change : ρ → ρ → σ → σ → Prop) :
    Async σ ε α → ρ → Prop
  | .done _, _ => True
  | .sync _ _, _ => False
  | .pause rest, owned => ∀ later, valid owned later →
      rest.Owns valid change
        (fun _ held begun finish => ∃ kept, change held kept begun finish)
        owned later later

/-- The segments a task has run, each of which changed what it owns. -/
inductive Ran (change : ρ → ρ → σ → σ → Prop) (origin : ρ) :
    List (σ × σ) → ρ → Prop where
  | nil : Ran change origin [] origin
  | snoc {ran : List (σ × σ)} {held kept : ρ} {start finish : σ} :
      Ran change origin ran held → change held kept start finish →
      Ran change origin (ran ++ [(start, finish)]) kept

/-- A segment ends with the program, in its postcondition, or at a suspension
point, with what the task owns from there on. -/
theorem runSegment_outcome
    {post : Except ε α → ρ → σ → σ → Prop} {program : Async σ ε α}
    {owned : ρ} {start state : σ}
    (owns : program.Owns valid change post owned start state) :
    (∃ outcome, (program.runSegment state).1 = .done outcome ∧
      post outcome owned start (program.runSegment state).2) ∨
    ∃ next kept, (program.runSegment state).1 = .pause next ∧
      change owned kept start (program.runSegment state).2 ∧
      ∀ later, valid kept later →
        next.Owns valid change post kept later later := by
  induction program generalizing owned start state with
  | done outcome => exact .inl ⟨outcome, rfl, owns⟩
  | sync update rest ih => exact ih state owns
  | pause rest _ =>
      obtain ⟨kept, changed, continues⟩ := owns
      exact .inr ⟨rest, kept, rfl, changed, continues⟩

/-- The segments that a task has run, what it owns, and what it still has to do
or how it ended. -/
inductive Tracked (valid : ρ → σ → Prop) (change : ρ → ρ → σ → σ → Prop)
    (post : Except ε α → ρ → σ → σ → Prop) (origin : ρ) :
    List (σ × σ) → ρ → Async σ ε α → Prop where
  | ended {earlier : List (σ × σ)} {held kept : ρ} {start finish : σ}
      {outcome : Except ε α} :
      Ran change origin earlier held → post outcome held start finish →
      change held kept start finish →
      Tracked valid change post origin (earlier ++ [(start, finish)]) kept
        (.done outcome)
  | suspended {ran : List (σ × σ)} {kept : ρ} {next : Async σ ε α} :
      Ran change origin ran kept →
      (∀ later, valid kept later →
        next.Owns valid change post kept later later) →
      Tracked valid change post origin ran kept (.pause next)

section Segments

variable {post : Except ε α → ρ → σ → σ → Prop} {origin held kept : ρ}
  {past : List (σ × σ)} {program : Async σ ε α} {state : σ}

theorem Tracked.segment (before : Ran change origin past held)
    (owns : program.Owns valid change post held state state)
    (ends : ∀ outcome held start finish, post outcome held start finish →
      ∃ kept, change held kept start finish) :
    ∃ kept, change held kept state (program.runSegment state).2 ∧
      Tracked valid change post origin
        (past ++ [(state, (program.runSegment state).2)]) kept
        (program.runSegment state).1 := by
  obtain ⟨outcome, ended, holds⟩ | ⟨next, kept, paused, changed, continues⟩ :=
    runSegment_outcome owns
  · obtain ⟨kept, changed⟩ := ends _ _ _ _ holds
    rw [ended]
    exact ⟨kept, changed, .ended before holds changed⟩
  · rw [paused]
    exact ⟨kept, changed, .suspended (.snoc before changed) continues⟩

theorem Tracked.history (tracked : Tracked valid change post origin past kept
    program) : Ran change origin past kept := by
  cases tracked with
  | ended before _ changed => exact .snoc before changed
  | suspended before _ => exact before

theorem Ran.change_of_mem (history : Ran change origin past kept) :
    ∀ segment ∈ past, ∃ held kept, change held kept segment.1 segment.2 := by
  induction history with
  | nil =>
      intro segment member
      cases member
  | snoc _ changed ih =>
      intro segment member
      cases List.mem_append.mp member with
      | inl earlier => exact ih segment earlier
      | inr last =>
          rw [List.mem_singleton.mp last]
          exact ⟨_, _, changed⟩

theorem Tracked.keeps
    (tracked : Tracked valid change
      (fun _ held start finish => ∃ kept, change held kept start finish)
      origin past kept program) :
    program.Keeps valid change kept := by
  cases tracked with
  | ended _ _ _ => trivial
  | suspended _ continues => exact continues

end Segments

end Rules

end Async

namespace Machine

variable {κ ω σ ε α : Type}

/-- A run each of whose steps meets a condition on the steps before it. -/
inductive RunsWith (condition : List (PoolEvent κ ω) → PoolEvent κ ω → Prop) :
    List (PoolEvent κ ω) → Prop where
  | nil : RunsWith condition []
  | snoc {events : List (PoolEvent κ ω)} (event : PoolEvent κ ω) :
      RunsWith condition events → condition events event →
      RunsWith condition (events ++ [event])

/-- The shared state, the calls started so far, what the task of each of them
owns and the segments that it has run. -/
structure Ledger (κ ρ σ : Type) where
  state : σ
  calls : List κ
  owned : Nat → ρ
  ran : Nat → List (σ × σ)

namespace Ledger

variable {ρ : Type}

/-- The ledger after a segment of one task. -/
def advance (ledger : Ledger κ ρ σ) (task : Nat) (kept : ρ) (finish : σ) :
    Ledger κ ρ σ :=
  { ledger with
    state := finish
    owned := Function.update ledger.owned task kept
    ran := Function.update ledger.ran task
      (ledger.ran task ++ [(ledger.state, finish)]) }

/-- The ledger after the first segment of a new task. -/
def begin (ledger : Ledger κ ρ σ) (call : κ) (kept : ρ) (finish : σ) :
    Ledger κ ρ σ :=
  { ledger.advance ledger.calls.length kept finish with
    calls := ledger.calls ++ [call] }

end Ledger

/-- What the tasks of a machine may own, and how the segments of each call
change it. -/
structure Ownership (machine : Machine κ ω σ ε α) (ρ : Type) where
  nothing : ρ
  valid : ρ → σ → Prop
  change : κ → ρ → ρ → σ → σ → Prop
  respects : ∀ call origin, (machine.program call).Owns valid (change call)
    (fun _ held start finish => ∃ kept, change call held kept start finish)
    nothing origin origin

namespace Ownership

variable {machine : Machine κ ω σ ε α} {ρ : Type}
  (ownership : machine.Ownership ρ)

variable (machine) in
/-- The ledger of a run. -/
structure Agrees (initial : σ) (events : List (PoolEvent κ ω))
    (ledger : Ledger κ ρ σ) : Prop where
  state : ledger.state = (machine.run (Pool.initial initial) events).state
  calls : ledger.calls =
    (machine.run (Pool.initial initial) events).tasks.map Prod.fst
  ran : ledger.ran = fun task =>
    machine.segments task (Pool.initial initial) events

/-- An invariant of the ledger, kept by every step of a run that meets the
condition. -/
structure Preserved
    (condition : List (PoolEvent κ ω) → PoolEvent κ ω → Prop) (initial : σ)
    (invariant : List (PoolEvent κ ω) → Ledger κ ρ σ → Prop) : Prop where
  valid : ∀ events ledger, invariant events ledger →
    ∀ task, task < ledger.calls.length →
      ownership.valid (ledger.owned task) ledger.state
  start : ∀ events ledger, invariant events ledger →
    Agrees machine initial events ledger →
    ∀ call kept finish, condition events (.start call) →
      ownership.change call ownership.nothing kept ledger.state finish →
      Agrees machine initial (events ++ [.start call])
        (ledger.begin call kept finish) →
      invariant (events ++ [.start call]) (ledger.begin call kept finish)
  resume : ∀ events ledger, invariant events ledger →
    Agrees machine initial events ledger →
    ∀ task call kept finish, ledger.calls[task]? = some call →
      ownership.change call (ledger.owned task) kept ledger.state finish →
      Agrees machine initial (events ++ [.resume task])
        (ledger.advance task kept finish) →
      invariant (events ++ [.resume task]) (ledger.advance task kept finish)
  idle : ∀ events ledger, invariant events ledger →
    ∀ task, Agrees machine initial (events ++ [.resume task]) ledger →
      Agrees machine initial events ledger →
      invariant (events ++ [.resume task]) ledger
  environment : ∀ events ledger, invariant events ledger →
    Agrees machine initial events ledger →
    ∀ event, condition events (.environment event) →
      invariant (events ++ [.environment event])
        { ledger with state := machine.environment event ledger.state }

variable {ownership}
  {condition : List (PoolEvent κ ω) → PoolEvent κ ω → Prop} {initial : σ}
  {invariant : List (PoolEvent κ ω) → Ledger κ ρ σ → Prop}
  {events : List (PoolEvent κ ω)} {ledger : Ledger κ ρ σ}

private theorem update_append {task : Nat} {ran : Nat → List (σ × σ)}
    {segment : σ × σ} :
    Function.update ran task (ran task ++ [segment]) =
      fun other => ran other ++ if some task = some other then [segment]
        else [] := by
  funext other
  by_cases same : other = task
  · subst same
    rw [Function.update_self, if_pos rfl]
  · have different : some task ≠ some other := by
      intro equal
      exact same (Option.some.inj equal).symm
    rw [Function.update_of_ne same, if_neg different, List.append_nil]

theorem Agrees.start (agrees : Agrees machine initial events ledger)
    (call : κ) (kept : ρ) :
    Agrees machine initial (events ++ [.start call])
      (ledger.begin call kept
        ((machine.program call).runSegment ledger.state).2) := by
  have length : ledger.calls.length =
      (machine.run (Pool.initial initial) events).tasks.length := by
    rw [agrees.calls, List.length_map]
  constructor
  case state =>
    rw [run_append]
    simp only [Ledger.begin, Ledger.advance, run_cons, run_nil, Machine.step,
      agrees.state]
  case calls =>
    rw [run_append]
    simp only [Ledger.begin, Ledger.advance, run_cons, run_nil, Machine.step,
      agrees.calls, List.map_append, List.map_cons, List.map_nil]
  case ran =>
    simp only [Ledger.begin, Ledger.advance, update_append, segments_append,
      segments_single, runningTask, length, agrees.ran, agrees.state,
      Machine.step]
    rfl

theorem Agrees.resume (agrees : Agrees machine initial events ledger)
    {task : Nat} {call : κ} {rest : Async σ ε α}
    (found : (machine.run (Pool.initial initial) events).tasks[task]? =
      some (call, .pause rest)) (kept : ρ) :
    Agrees machine initial (events ++ [.resume task])
      (ledger.advance task kept (rest.runSegment ledger.state).2) := by
  have stepped : machine.step (machine.run (Pool.initial initial) events)
      (.resume task) =
      { state := (rest.runSegment ledger.state).2
        tasks := (machine.run (Pool.initial initial) events).tasks.set task
          (call, (rest.runSegment ledger.state).1) } := by
    simp only [Machine.step, found, Async.wake, agrees.state]
  have running : runningTask (machine.run (Pool.initial initial) events)
      (.resume task : PoolEvent κ ω) = some task := by
    simp only [runningTask, found]
  constructor
  case state =>
    rw [run_append, run_cons, run_nil, stepped]
    rfl
  case calls =>
    rw [run_append, run_cons, run_nil, stepped, List.map_set]
    have kept : ((machine.run (Pool.initial initial) events).tasks.map
        Prod.fst)[task]? = some call := by
      rw [List.getElem?_map, found]
      rfl
    obtain ⟨bound, element⟩ := List.getElem?_eq_some_iff.mp kept
    simp only [Ledger.advance, agrees.calls]
    rw [← element, List.set_getElem_self]
  case ran =>
    simp only [Ledger.advance, update_append, segments_append,
      segments_single, running, agrees.ran, agrees.state, stepped]

theorem Agrees.idle (agrees : Agrees machine initial events ledger)
    {task : Nat}
    (running : runningTask (machine.run (Pool.initial initial) events)
      (.resume task : PoolEvent κ ω) = none)
    (unchanged : machine.step (machine.run (Pool.initial initial) events)
      (.resume task) = machine.run (Pool.initial initial) events) :
    Agrees machine initial (events ++ [.resume task]) ledger := by
  have same : machine.run (Pool.initial initial) (events ++ [.resume task]) =
      machine.run (Pool.initial initial) events := by
    rw [run_append, run_cons, run_nil, unchanged]
  constructor
  case state => rw [same, agrees.state]
  case calls => rw [same, agrees.calls]
  case ran =>
    rw [agrees.ran]
    funext other
    rw [segments_append, segments_single, running, if_neg nofun,
      List.append_nil]

section Tasks

variable {post : κ → Except ε α → ρ → σ → σ → Prop}

variable (ownership post) in
/-- The ledger tells how far every task of the run has come. -/
def Follows (initial : σ) (events : List (PoolEvent κ ω))
    (ledger : Ledger κ ρ σ) : Prop :=
  ∀ task call rest,
    (machine.run (Pool.initial initial) events).tasks[task]? =
      some (call, rest) →
    Async.Tracked ownership.valid (ownership.change call) (post call)
      ownership.nothing (ledger.ran task) (ledger.owned task) rest

theorem Agrees.unstarted (agrees : Agrees machine initial events ledger) :
    ledger.ran ledger.calls.length = [] := by
  rw [agrees.ran]
  apply (run_recorded initial events).unstarted
  apply Nat.le_of_eq
  rw [agrees.calls, List.length_map]

theorem Follows.start {call : κ} {kept : ρ}
    (follows : Follows ownership post initial events ledger)
    (agrees : Agrees machine initial events ledger)
    (tracked : Async.Tracked ownership.valid (ownership.change call)
      (post call) ownership.nothing
      [(ledger.state, ((machine.program call).runSegment ledger.state).2)]
      kept ((machine.program call).runSegment ledger.state).1) :
    Follows ownership post initial (events ++ [.start call])
      (ledger.begin call kept
        ((machine.program call).runSegment ledger.state).2) := by
  intro task other rest found
  rw [run_append, run_cons, run_nil] at found
  simp only [Machine.step] at found
  have length : ledger.calls.length =
      (machine.run (Pool.initial initial) events).tasks.length := by
    rw [agrees.calls, List.length_map]
  by_cases new : task = ledger.calls.length
  · rw [new, length, List.getElem?_concat_length, Option.some.injEq,
      Prod.mk.injEq, ← agrees.state] at found
    obtain ⟨rfl, rfl⟩ := found
    simp only [Ledger.begin, Ledger.advance, new, Function.update_self,
      agrees.unstarted, List.nil_append]
    exact tracked
  · have bound : task <
        (machine.run (Pool.initial initial) events).tasks.length := by
      obtain ⟨within, -⟩ := List.getElem?_eq_some_iff.mp found
      rw [List.length_append, List.length_singleton] at within
      omega
    rw [List.getElem?_append_left bound] at found
    simp only [Ledger.begin, Ledger.advance, Function.update_of_ne new]
    exact follows task other rest found

theorem Follows.resume {task : Nat} {call : κ} {next : Async σ ε α} {kept : ρ}
    (follows : Follows ownership post initial events ledger)
    (agrees : Agrees machine initial events ledger)
    (found : (machine.run (Pool.initial initial) events).tasks[task]? =
      some (call, .pause next))
    (tracked : Async.Tracked ownership.valid (ownership.change call)
      (post call) ownership.nothing
      (ledger.ran task ++ [(ledger.state, (next.runSegment ledger.state).2)])
      kept (next.runSegment ledger.state).1) :
    Follows ownership post initial (events ++ [.resume task])
      (ledger.advance task kept (next.runSegment ledger.state).2) := by
  intro other otherCall rest present
  rw [run_append, run_cons, run_nil] at present
  simp only [Machine.step, found, Async.wake] at present
  by_cases same : task = other
  · subst same
    obtain ⟨bound, -⟩ := List.getElem?_eq_some_iff.mp found
    rw [List.getElem?_set_self bound, Option.some.injEq, Prod.mk.injEq,
      ← agrees.state] at present
    obtain ⟨rfl, rfl⟩ := present
    simp only [Ledger.advance, Function.update_self]
    exact tracked
  · rw [List.getElem?_set_ne same] at present
    simp only [Ledger.advance, Function.update_of_ne (Ne.symm same)]
    exact follows other otherCall rest present

theorem Follows.idle {event : PoolEvent κ ω}
    (follows : Follows ownership post initial events ledger)
    (unchanged : (machine.step (machine.run (Pool.initial initial) events)
      event).tasks = (machine.run (Pool.initial initial) events).tasks)
    (state : σ) :
    Follows ownership post initial (events ++ [event])
      { ledger with state := state } := by
  intro task call rest found
  rw [run_append, run_cons, run_nil, unchanged] at found
  exact follows task call rest found

theorem Agrees.environment (agrees : Agrees machine initial events ledger)
    (event : ω) :
    Agrees machine initial (events ++ [.environment event])
      { ledger with state := machine.environment event ledger.state } := by
  constructor
  case state =>
    rw [run_append, run_cons, run_nil]
    simp only [Machine.step, agrees.state]
  case calls =>
    rw [run_append, run_cons, run_nil]
    exact agrees.calls
  case ran =>
    simp only [segments_append, segments_single, runningTask, reduceCtorEq,
      if_false, List.append_nil, agrees.ran]

/-- An invariant that holds of the empty ledger and is preserved holds of the
ledger of every run that meets the condition. -/
theorem run_tracked
    (preserved : ownership.Preserved condition initial invariant)
    (base : invariant []
      { state := initial
        calls := []
        owned := fun _ => ownership.nothing
        ran := fun _ => [] })
    (runs : RunsWith condition events)
    (owns : ∀ call origin, (machine.program call).Owns ownership.valid
      (ownership.change call) (post call) ownership.nothing origin origin)
    (ends : ∀ call outcome held start finish,
      post call outcome held start finish →
      ∃ kept, ownership.change call held kept start finish) :
    ∃ ledger, Agrees machine initial events ledger ∧
      invariant events ledger ∧
      Follows ownership post initial events ledger := by
  induction runs with
  | nil =>
      refine ⟨_, ⟨rfl, rfl, rfl⟩, base, ?_⟩
      intro task call rest found
      cases found
  | @snoc events event _ met ih =>
      obtain ⟨ledger, agrees, holds, follows⟩ := ih
      cases event with
      | start call =>
          obtain ⟨kept, changed, tracked⟩ := Async.Tracked.segment .nil
            (owns call ledger.state) (ends call)
          have begun := agrees.start call kept
          exact ⟨_, begun, preserved.start events ledger holds agrees call
            kept _ met changed begun, follows.start agrees tracked⟩
      | resume task =>
          -- Only a task that is suspended runs a segment.
          have resting (idle : runningTask
              (machine.run (Pool.initial initial) events)
              (.resume task : PoolEvent κ ω) = none)
              (unchanged : machine.step
                (machine.run (Pool.initial initial) events) (.resume task) =
                machine.run (Pool.initial initial) events) :
              ∃ ledger, Agrees machine initial (events ++ [.resume task])
                  ledger ∧
                invariant (events ++ [.resume task]) ledger ∧
                Follows ownership post initial (events ++ [.resume task])
                  ledger := by
            have rested := agrees.idle idle unchanged
            exact ⟨ledger, rested,
              preserved.idle events ledger holds task rested agrees,
              follows.idle (congrArg Pool.tasks unchanged) ledger.state⟩
          cases found : (machine.run (Pool.initial initial)
            events).tasks[task]? with
          | none =>
              apply resting
              · simp only [runningTask, found]
              · exact machine.step_resume_none found
          | some entry =>
              obtain ⟨call, program⟩ := entry
              have tracked := follows task call program found
              generalize owned : ledger.owned task = held at tracked
              generalize earlier : ledger.ran task = ran at tracked
              cases tracked with
              | ended _ _ _ =>
                  apply resting
                  · simp only [runningTask, found]
                  · exact step_resume_done found
              | suspended before continues =>
                  have listed : ledger.calls[task]? = some call := by
                    rw [agrees.calls, List.getElem?_map, found]
                    rfl
                  obtain ⟨bound, -⟩ := List.getElem?_eq_some_iff.mp listed
                  have valid := preserved.valid events ledger holds task bound
                  rw [owned] at valid
                  obtain ⟨kept, changed, next⟩ := Async.Tracked.segment before
                    (continues ledger.state valid) (ends call)
                  rw [← owned] at changed
                  rw [← earlier] at next
                  have resumed := agrees.resume found kept
                  exact ⟨_, resumed, preserved.resume events ledger holds
                    agrees task call kept _ listed changed resumed,
                    follows.resume agrees found next⟩
      | environment event =>
          exact ⟨_, agrees.environment event,
            preserved.environment events ledger holds agrees event met,
            follows.idle rfl _⟩

/-- The same for what the tasks own alone. -/
theorem run_preserved
    (preserved : ownership.Preserved condition initial invariant)
    (base : invariant []
      { state := initial
        calls := []
        owned := fun _ => ownership.nothing
        ran := fun _ => [] })
    (runs : RunsWith condition events) :
    ∃ ledger, Agrees machine initial events ledger ∧
      invariant events ledger ∧
      ∀ task call (rest : Async σ ε α),
        (machine.run (Pool.initial initial) events).tasks[task]? =
          some (call, rest) →
        rest.Keeps ownership.valid (ownership.change call)
          (ledger.owned task) := by
  obtain ⟨ledger, agrees, holds, follows⟩ := run_tracked preserved base runs
    ownership.respects fun _ _ _ _ _ changed => changed
  refine ⟨ledger, agrees, holds, ?_⟩
  intro task call rest found
  exact (follows task call rest found).keeps

end Tasks

end Ownership

end Machine

end VaultCore
