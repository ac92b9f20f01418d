import Mathlib.Data.List.Forall2
import VaultCore.Async.Program

/-!
# Interleavings of asynchronous programs

A pool holds one shared state and the programs started so far, each standing
at a suspension point or finished.  One event starts a call, resumes a
suspended program, or lets the environment act; every other program keeps its
place.  A run is any list of events.

`Async.Meets` is the proof rule: between two suspension points a program
guarantees a relation `guarantee` from the state at the start of the segment
to the state at its end, and at a suspension point it relies on nothing but
the shared invariant.
-/

namespace VaultCore

namespace Async

variable {σ ε α β : Type}

/-- Every segment of the program, started in a state satisfying `invariant`,
is related by `guarantee`, and the last one ends in `post`.  `start` is the
state in which the current segment began. -/
def Meets (invariant : σ → Prop) (guarantee : σ → σ → Prop)
    (post : Except ε α → σ → σ → Prop) : Async σ ε α → σ → σ → Prop
  | .done outcome, start, state => post outcome start state
  | .sync update rest, start, state =>
      (rest state).Meets invariant guarantee post start (update state)
  | .pause rest, start, state =>
      guarantee start state ∧
        ∀ later, invariant later →
          rest.Meets invariant guarantee post later later

section Rules

variable {invariant : σ → Prop} {guarantee : σ → σ → Prop}

theorem Meets.mono {program : Async σ ε α}
    {post weaker : Except ε α → σ → σ → Prop} {start state : σ}
    (meets : program.Meets invariant guarantee post start state)
    (implied : ∀ outcome begun finish, post outcome begun finish →
      weaker outcome begun finish) :
    program.Meets invariant guarantee weaker start state := by
  induction program generalizing start state with
  | done outcome => exact implied _ _ _ meets
  | sync update rest induction => exact induction state meets
  | pause rest induction =>
      exact ⟨meets.1, fun later holds => induction (meets.2 later holds)⟩

theorem Meets.bind {program : Async σ ε α} {next : α → Async σ ε β}
    {post : Except ε β → σ → σ → Prop} {start state : σ}
    (meets : program.Meets invariant guarantee
      (fun outcome begun finish =>
        match outcome with
        | .ok value =>
            (next value).Meets invariant guarantee post begun finish
        | .error error => post (.error error) begun finish) start state) :
    (program >>= next).Meets invariant guarantee post start state := by
  induction program generalizing start state with
  | done outcome =>
      cases outcome with
      | ok value => exact meets
      | error error => exact meets
  | sync update rest induction => exact induction state meets
  | pause rest induction =>
      exact ⟨meets.1, fun later holds => induction (meets.2 later holds)⟩

theorem Meets.tryCatch {program : Async σ ε α}
    {handler : ε → Async σ ε α}
    {post : Except ε α → σ → σ → Prop} {start state : σ}
    (meets : program.Meets invariant guarantee
      (fun outcome begun finish =>
        match outcome with
        | .ok value => post (.ok value) begun finish
        | .error error =>
            (handler error).Meets invariant guarantee post begun finish)
      start state) :
    (program.tryCatch handler).Meets invariant guarantee post start state := by
  induction program generalizing start state with
  | done outcome =>
      cases outcome with
      | ok value => exact meets
      | error error => exact meets
  | sync update rest induction => exact induction state meets
  | pause rest induction =>
      exact ⟨meets.1, fun later holds => induction (meets.2 later holds)⟩

/-- Awaiting ends the segment in which the callee settles, and the caller
continues in a later state. -/
theorem Meets.await {program : Async σ ε α}
    {post : Except ε α → σ → σ → Prop} {start state : σ}
    (meets : program.Meets invariant guarantee
      (fun outcome begun finish => guarantee begun finish ∧
        ∀ later, invariant later → post outcome later later) start state) :
    program.await.Meets invariant guarantee post start state := by
  induction program generalizing start state with
  | done outcome => exact meets
  | sync update rest induction => exact induction state meets
  | pause rest induction =>
      exact ⟨meets.1, fun later holds => induction (meets.2 later holds)⟩

theorem Meets.awaitOutcome {outcome : Except ε α}
    {post : Except ε α → σ → σ → Prop} {start state : σ}
    (segment : guarantee start state)
    (continues : ∀ later, invariant later → post outcome later later) :
    (Async.awaitOutcome outcome : Async σ ε α).Meets
      invariant guarantee post start state :=
  ⟨segment, continues⟩

theorem Meets.lift {code : Sync σ ε α}
    {post : Except ε α → σ → σ → Prop} {start state : σ}
    (holds : post (code state).1 start (code state).2) :
    (Async.lift code).Meets invariant guarantee post start state :=
  holds

theorem Meets.bind_lift {code : Sync σ ε α} {next : α → Async σ ε β}
    {post : Except ε β → σ → σ → Prop} {start state : σ}
    (continues : ∀ value middle, code state = (.ok value, middle) →
      (next value).Meets invariant guarantee post start middle)
    (fails : ∀ error middle, code state = (.error error, middle) →
      post (.error error) start middle) :
    (Async.lift code >>= next).Meets invariant guarantee post start state := by
  apply Meets.bind
  apply Meets.lift
  cases result : code state with
  | mk outcome middle =>
      cases outcome with
      | ok value => exact continues value middle result
      | error error => exact fails error middle result

theorem Meets.bind_awaitOutcome {outcome : Except ε α}
    {next : α → Async σ ε β} {post : Except ε β → σ → σ → Prop}
    {start state : σ} (segment : guarantee start state)
    (continues : ∀ value later, outcome = .ok value → invariant later →
      (next value).Meets invariant guarantee post later later)
    (fails : ∀ error later, outcome = .error error → invariant later →
      post (.error error) later later) :
    (Async.awaitOutcome outcome >>= next).Meets
      invariant guarantee post start state := by
  apply Meets.bind
  apply Meets.awaitOutcome segment
  intro later holds
  cases outcome with
  | ok value => exact continues value later rfl holds
  | error error => exact fails error later rfl holds

/-- A caller that awaits a callee keeps the guarantee in the callee's segments
and then continues in any later state. -/
theorem Meets.bind_await {program : Async σ ε α} {next : α → Async σ ε β}
    {post : Except ε β → σ → σ → Prop} {start state : σ}
    (meets : program.Meets invariant guarantee
      (fun _ begun finish => guarantee begun finish) start state)
    (continues : ∀ value later, invariant later →
      (next value).Meets invariant guarantee post later later)
    (fails : ∀ error later, invariant later →
      post (.error error) later later) :
    (program.await >>= next).Meets invariant guarantee post start state := by
  apply Meets.bind
  apply Meets.await
  apply Meets.mono meets
  intro outcome begun finish segment
  refine ⟨segment, ?_⟩
  intro later holds
  cases outcome with
  | ok value => exact continues value later holds
  | error error => exact fails error later holds

theorem Meets.await_last {program : Async σ ε α} {start state : σ}
    (reflexive : ∀ later, guarantee later later)
    (meets : program.Meets invariant guarantee
      (fun _ begun finish => guarantee begun finish) start state) :
    program.await.Meets invariant guarantee
      (fun _ begun finish => guarantee begun finish) start state := by
  apply Meets.await
  apply Meets.mono meets
  intro outcome begun finish segment
  exact ⟨segment, fun later _ => reflexive later⟩

theorem Meets.weaken {stronger : σ → Prop} {weaker : σ → σ → Prop}
    {program : Async σ ε α} {post : Except ε α → σ → σ → Prop}
    {start state : σ}
    (meets : program.Meets invariant guarantee post start state)
    (invariantImplied : ∀ later, stronger later → invariant later)
    (guaranteeImplied : ∀ begun finish, guarantee begun finish →
      weaker begun finish) :
    program.Meets stronger weaker post start state := by
  induction program generalizing start state with
  | done outcome => exact meets
  | sync update rest induction => exact induction state meets
  | pause rest induction =>
      refine ⟨guaranteeImplied _ _ meets.1, ?_⟩
      intro later holds
      exact induction (meets.2 later (invariantImplied later holds))

/-- What a suspended program still promises. -/
def Standing (invariant : σ → Prop) (guarantee : σ → σ → Prop)
    (program : Async σ ε α) : Prop :=
  ∀ later, invariant later →
    program.wake.Meets invariant guarantee
      (fun _ start finish => guarantee start finish) later later

theorem runSegment_meets {program : Async σ ε α} {start state : σ}
    (meets : program.Meets invariant guarantee
      (fun _ begun finish => guarantee begun finish) start state)
    (reflexive : ∀ later, guarantee later later) :
    guarantee start (program.runSegment state).2 ∧
      (program.runSegment state).1.Standing invariant guarantee := by
  induction program generalizing start state with
  | done outcome =>
      exact ⟨meets, fun later _ => reflexive later⟩
  | sync update rest induction => exact induction state meets
  | pause rest induction => exact ⟨meets.1, meets.2⟩

end Rules

end Async

/-- One shared state and the programs started in it, each under the call that
started it. -/
structure Pool (κ σ ε α : Type) where
  state : σ
  tasks : List (κ × Async σ ε α)

/-- The pool in which nothing has been started. -/
def Pool.initial {κ σ ε α : Type} (state : σ) : Pool κ σ ε α :=
  { state := state, tasks := [] }

/-- What can happen next. -/
inductive PoolEvent (κ ω : Type) where
  | start (call : κ)
  | resume (task : Nat)
  | environment (event : ω)

/-- The call whose program an event runs a segment of. -/
def Pool.actor {κ ω σ ε α : Type} (pool : Pool κ σ ε α) :
    PoolEvent κ ω → Option κ
  | .start call => some call
  | .resume task => (pool.tasks[task]?).map Prod.fst
  | .environment _ => none

/-- The calls a pool can start, the program each of them runs, and what the
environment does to the shared state. -/
structure Machine (κ ω σ ε α : Type) where
  program : κ → Async σ ε α
  environment : ω → σ → σ

namespace Machine

variable {κ ω σ ε α : Type} (machine : Machine κ ω σ ε α)

/-- A call starts with its first segment, a task runs its next one, and the
environment changes the state. -/
def step (pool : Pool κ σ ε α) : PoolEvent κ ω → Pool κ σ ε α
  | .start call =>
      let segment := (machine.program call).runSegment pool.state
      { state := segment.2, tasks := pool.tasks ++ [(call, segment.1)] }
  | .resume task =>
      match pool.tasks[task]? with
      | none => pool
      | some (call, program) =>
          let segment := program.wake.runSegment pool.state
          { state := segment.2
            tasks := pool.tasks.set task (call, segment.1) }
  | .environment event =>
      { pool with state := machine.environment event pool.state }

def run (pool : Pool κ σ ε α) (events : List (PoolEvent κ ω)) :
    Pool κ σ ε α :=
  events.foldl machine.step pool

@[simp] theorem run_nil (pool : Pool κ σ ε α) :
    machine.run pool [] = pool := rfl

@[simp] theorem run_cons (pool : Pool κ σ ε α) (event : PoolEvent κ ω)
    (events : List (PoolEvent κ ω)) :
    machine.run pool (event :: events) =
      machine.run (machine.step pool event) events := rfl

theorem run_append (pool : Pool κ σ ε α)
    (first second : List (PoolEvent κ ω)) :
    machine.run pool (first ++ second) =
      machine.run (machine.run pool first) second :=
  List.foldl_append

theorem step_resume_none {pool : Pool κ σ ε α} {task : Nat}
    (missing : pool.tasks[task]? = none) :
    machine.step pool (.resume task) = pool := by
  simp [step, missing]

/-- Resuming a task runs one segment of it and leaves every other task. -/
theorem step_resume_some {pool : Pool κ σ ε α} {task : Nat} {call : κ}
    {program : Async σ ε α}
    (found : pool.tasks[task]? = some (call, program)) :
    ∃ before after,
      pool.tasks = before ++ (call, program) :: after ∧
      machine.step pool (.resume task) =
        { state := (program.wake.runSegment pool.state).2
          tasks := before ++
            (call, (program.wake.runSegment pool.state).1) :: after } := by
  obtain ⟨bound, element⟩ := List.getElem?_eq_some_iff.mp found
  refine ⟨pool.tasks.take task, pool.tasks.drop (task + 1), ?_, ?_⟩
  · have split : pool.tasks.drop task =
        pool.tasks[task] :: pool.tasks.drop (task + 1) :=
      List.drop_eq_getElem_cons bound
    rw [← element, ← split, List.take_append_drop]
  · simp only [step, found]
    rw [List.set_eq_take_append_cons_drop, if_pos bound]

/-- Every task of a run was started in it. -/
theorem started_of_mem_tasks {pool : Pool κ σ ε α}
    {events : List (PoolEvent κ ω)} {started : κ → Prop}
    (before : ∀ task ∈ pool.tasks, started task.1)
    (starts : ∀ call, PoolEvent.start call ∈ events → started call) :
    ∀ task ∈ (machine.run pool events).tasks, started task.1 := by
  induction events generalizing pool with
  | nil => exact before
  | cons event events ih =>
      rw [run_cons]
      apply ih
      · intro task member
        cases event with
        | start call =>
            rcases List.mem_append.mp member with earlier | new
            · exact before task earlier
            · rw [List.mem_singleton.mp new]
              exact starts call List.mem_cons_self
        | resume index =>
            cases found : pool.tasks[index]? with
            | none =>
                rw [machine.step_resume_none found] at member
                exact before task member
            | some entry =>
                obtain ⟨call, program⟩ := entry
                have listed := before _ (List.mem_of_getElem? found)
                simp only [step, found] at member
                rcases List.mem_or_eq_of_mem_set member with earlier | new
                · exact before task earlier
                · rw [new]
                  exact listed
        | environment occurrence => exact before task member
      · intro call member
        exact starts call (List.mem_cons_of_mem _ member)

/-- The states in which the calls of a run began, in the order in which they
began. -/
def origins (pool : Pool κ σ ε α) : List (PoolEvent κ ω) → List σ
  | [] => []
  | .start call :: events =>
      pool.state :: origins (machine.step pool (.start call)) events
  | .resume task :: events =>
      origins (machine.step pool (.resume task)) events
  | .environment event :: events =>
      origins (machine.step pool (.environment event)) events

/-- The origins that one event adds. -/
def begun (pool : Pool κ σ ε α) : PoolEvent κ ω → List σ
  | .start _ => [pool.state]
  | .resume _ => []
  | .environment _ => []

theorem origins_cons (pool : Pool κ σ ε α) (event : PoolEvent κ ω)
    (events : List (PoolEvent κ ω)) :
    machine.origins pool (event :: events) =
      begun pool event ++ machine.origins (machine.step pool event) events := by
  cases event <;> rfl

/-- A shared invariant and, for each call and the state in which it began, the
relation its segments guarantee. -/
structure Discipline where
  invariant : σ → Prop
  guarantee : κ → σ → σ → σ → Prop
  effect : ω → σ → σ → Prop
  reflexive : ∀ call origin state, guarantee call origin state state
  keeps : ∀ call origin state finish, invariant state →
    guarantee call origin state finish → invariant finish
  keepsEffect : ∀ event state finish, invariant state →
    effect event state finish → invariant finish
  respects : ∀ call origin, invariant origin →
    (machine.program call).Meets invariant (guarantee call origin)
      (fun _ start finish => guarantee call origin start finish) origin origin
  environment : ∀ event state, invariant state →
    effect event state (machine.environment event state)

namespace Discipline

variable {machine}
variable (discipline : machine.Discipline)

/-- The invariant of the shared state together with what every suspended
program still promises. -/
def Holds (pool : Pool κ σ ε α) (origins : List σ) : Prop :=
  discipline.invariant pool.state ∧
    List.Forall₂ (fun task origin => task.2.Standing discipline.invariant
      (discipline.guarantee task.1 origin)) pool.tasks origins

theorem holds_initial {state : σ} (holds : discipline.invariant state) :
    discipline.Holds (Pool.initial state) [] :=
  ⟨holds, .nil⟩

/-- What one event does to the shared state: the guarantee of the call that
acts, or the environment's own effect. -/
def Transition (pool : Pool κ σ ε α) (origins : List σ)
    (event : PoolEvent κ ω) (finish : σ) : Prop :=
  match event with
  | .start call => discipline.guarantee call pool.state pool.state finish
  | .resume task =>
      match pool.tasks[task]?, origins[task]? with
      | some (call, _), some origin =>
          discipline.guarantee call origin pool.state finish
      | _, _ => finish = pool.state
  | .environment occurrence => discipline.effect occurrence pool.state finish

private theorem forall₂_set {A B : Type} {related : A → B → Prop}
    {lefts : List A} {rights : List B}
    (all : List.Forall₂ related lefts rights) {index : Nat} {left : A}
    {right : B} (found : rights[index]? = some right)
    (holds : related left right) :
    List.Forall₂ related (lefts.set index left) rights := by
  induction all generalizing index with
  | nil => exact .nil
  | cons head tail ih =>
      cases index with
      | zero =>
          simp only [List.getElem?_cons_zero, Option.some.injEq] at found
          subst found
          exact .cons holds tail
      | succ index => exact .cons head (ih found)

private theorem forall₂_getElem? {A B : Type} {related : A → B → Prop}
    {lefts : List A} {rights : List B}
    (all : List.Forall₂ related lefts rights) {index : Nat} {left : A}
    (found : lefts[index]? = some left) :
    ∃ right, rights[index]? = some right ∧ related left right := by
  induction all generalizing index with
  | nil => simp at found
  | cons head tail ih =>
      cases index with
      | zero =>
          simp only [List.getElem?_cons_zero, Option.some.injEq] at found
          subst found
          exact ⟨_, rfl, head⟩
      | succ index => exact ih found

theorem step_transition {pool : Pool κ σ ε α} {origins : List σ}
    (holds : discipline.Holds pool origins) (event : PoolEvent κ ω) :
    discipline.Transition pool origins event (machine.step pool event).state ∧
      discipline.Holds (machine.step pool event)
        (origins ++ begun pool event) := by
  obtain ⟨stateHolds, tasksStand⟩ := holds
  cases event with
  | start call =>
      obtain ⟨segment, standing⟩ := Async.runSegment_meets
        (discipline.respects call pool.state stateHolds)
        (discipline.reflexive call pool.state)
      refine ⟨segment, discipline.keeps call _ _ _ stateHolds segment, ?_⟩
      apply List.rel_append tasksStand
      exact .cons standing .nil
  | resume task =>
      cases found : pool.tasks[task]? with
      | none =>
          rw [machine.step_resume_none found]
          refine ⟨?_, stateHolds, ?_⟩
          · simp [Transition, found]
          · simpa [begun] using tasksStand
      | some entry =>
          obtain ⟨call, program⟩ := entry
          obtain ⟨origin, origin_found, stands⟩ :=
            forall₂_getElem? tasksStand found
          obtain ⟨segment, standing⟩ := Async.runSegment_meets
            (stands pool.state stateHolds) (discipline.reflexive call origin)
          have stepped : machine.step pool (.resume task) =
              { state := (program.wake.runSegment pool.state).2
                tasks := pool.tasks.set task
                  (call, (program.wake.runSegment pool.state).1) } := by
            simp [step, found]
          rw [stepped]
          refine ⟨?_, discipline.keeps call _ _ _ stateHolds segment, ?_⟩
          · simpa [Transition, found, origin_found] using segment
          · rw [begun, List.append_nil]
            exact forall₂_set tasksStand origin_found standing
  | environment event =>
      have effect := discipline.environment event pool.state stateHolds
      refine ⟨effect, discipline.keepsEffect event _ _ stateHolds effect, ?_⟩
      rw [begun, List.append_nil]
      exact tasksStand

/-- The invariant holds after every run that starts in it. -/
theorem run_holds {pool : Pool κ σ ε α} {origins : List σ}
    (holds : discipline.Holds pool origins)
    (events : List (PoolEvent κ ω)) :
    discipline.Holds (machine.run pool events)
      (origins ++ machine.origins pool events) := by
  induction events generalizing pool origins with
  | nil => simpa [Machine.origins] using holds
  | cons event events induction =>
      rw [run_cons, origins_cons, ← List.append_assoc]
      exact induction (discipline.step_transition holds event).2

/-- Every event of every run is a transition of the discipline. -/
theorem run_transition {state : σ} (holds : discipline.invariant state)
    (events : List (PoolEvent κ ω)) (event : PoolEvent κ ω) :
    discipline.Transition (machine.run (Pool.initial state) events)
      (machine.origins (Pool.initial state) events) event
      (machine.step (machine.run (Pool.initial state) events) event).state :=
  (discipline.step_transition
    (discipline.run_holds (discipline.holds_initial holds) events) event).1

end Discipline

end Machine

end VaultCore
