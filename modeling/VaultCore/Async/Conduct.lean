import VaultCore.Async.Component

/-!
# What a task may rely on between its segments

Programs all of whose updates respect a reflexive and transitive relation move
the shared state along that relation only.  A task that relies on nothing else
of the others is described by its own segments: what it owns, step by step,
and how it ended.
-/

namespace VaultCore

namespace Sync

variable {σ ε α β : Type}

/-- However it ends, the code moves the state along the relation. -/
def Respects (relation : σ → σ → Prop) (code : Sync σ ε α) : Prop :=
  ∀ state, relation state (code state).2

namespace Respects

variable {relation : σ → σ → Prop}

theorem modify {update : σ → σ}
    (moves : ∀ state, relation state (update state)) :
    (Sync.modify update : Sync σ ε Unit).Respects relation :=
  moves

theorem of_unchanged [Std.Refl relation] {code : Sync σ ε α}
    (unchanged : ∀ state, (code state).2 = state) :
    code.Respects relation := by
  intro state
  rw [unchanged]
  exact refl_of relation state

theorem bind [IsTrans σ relation] {first : Sync σ ε α}
    {next : α → Sync σ ε β} (begins : first.Respects relation)
    (continues : ∀ value, (next value).Respects relation) :
    (first >>= next).Respects relation := by
  intro state
  have moved := begins state
  rw [Sync.bind_apply]
  cases ran : first state with
  | mk outcome middle =>
      rw [ran] at moved
      cases outcome with
      | ok value => exact trans_of relation moved (continues value middle)
      | error error => exact moved

end Respects

end Sync

namespace Async

variable {σ τ ε α β ρ : Type}

/-- Every update of the program respects the relation. -/
def Respects (relation : σ → σ → Prop) : Async σ ε α → Prop
  | .done _ => True
  | .sync update rest => ∀ state,
      relation state (update state) ∧ (rest state).Respects relation
  | .pause rest => rest.Respects relation

namespace Respects

variable {relation : σ → σ → Prop}

theorem lift {code : Sync σ ε α} (respects : code.Respects relation) :
    (Async.lift code).Respects relation :=
  fun state => ⟨respects state, trivial⟩

theorem awaitOutcome (outcome : Except ε α) :
    (Async.awaitOutcome outcome : Async σ ε α).Respects relation :=
  trivial

theorem bind {program : Async σ ε α} {next : α → Async σ ε β}
    (first : program.Respects relation)
    (continues : ∀ value, (next value).Respects relation) :
    (program >>= next).Respects relation := by
  induction program with
  | done outcome =>
      cases outcome with
      | ok value => exact continues value
      | error error => trivial
  | sync update rest ih =>
      intro state
      exact ⟨(first state).1, ih state (first state).2⟩
  | pause rest ih => exact ih first

theorem tryCatch {program : Async σ ε α} {handler : ε → Async σ ε α}
    (body : program.Respects relation)
    (handles : ∀ error, (handler error).Respects relation) :
    (program.tryCatch handler).Respects relation := by
  induction program with
  | done outcome =>
      cases outcome with
      | ok value => trivial
      | error error => exact handles error
  | sync update rest ih =>
      intro state
      exact ⟨(body state).1, ih state (body state).2⟩
  | pause rest ih => exact ih body

theorem await {program : Async σ ε α} (body : program.Respects relation) :
    program.await.Respects relation := by
  induction program with
  | done outcome => trivial
  | sync update rest ih =>
      intro state
      exact ⟨(body state).1, ih state (body state).2⟩
  | pause rest ih => exact ih body

theorem tryFinally {program : Async σ ε α} {cleanUp : σ → σ}
    (body : program.Respects relation)
    (cleans : ∀ state, relation state (cleanUp state)) :
    (program.tryFinally cleanUp).Respects relation := by
  induction program with
  | done outcome =>
      intro state
      exact ⟨cleans state, trivial⟩
  | sync update rest ih =>
      intro state
      exact ⟨(body state).1, ih state (body state).2⟩
  | pause rest ih => exact ih body

theorem attempt {program : Async σ ε α} (body : program.Respects relation) :
    program.attempt.Respects relation := by
  induction program with
  | done outcome => trivial
  | sync update rest ih =>
      intro state
      exact ⟨(body state).1, ih state (body state).2⟩
  | pause rest ih => exact ih body

theorem within {component : Component τ σ} {whole : τ → τ → Prop}
    {program : Async σ ε α} (body : program.Respects relation)
    (carries : ∀ state part, relation (component.read state) part →
      whole state (component.write part state)) :
    (program.within component).Respects whole := by
  induction program with
  | done outcome => trivial
  | sync update rest ih =>
      intro state
      obtain ⟨moved, remaining⟩ := body (component.read state)
      exact ⟨carries state _ moved, ih _ remaining⟩
  | pause rest ih => exact ih body

theorem wake {program : Async σ ε α} (body : program.Respects relation) :
    program.wake.Respects relation := by
  cases program with
  | done outcome => exact body
  | sync update rest => exact body
  | pause rest => exact body

theorem runSegment [Std.Refl relation] [IsTrans σ relation]
    {program : Async σ ε α} (body : program.Respects relation) (state : σ) :
    relation state (program.runSegment state).2 ∧
      (program.runSegment state).1.Respects relation := by
  induction program generalizing state with
  | done outcome => exact ⟨refl_of relation state, trivial⟩
  | sync update rest ih =>
      obtain ⟨moved, remaining⟩ := body state
      obtain ⟨later, respects⟩ := ih state remaining (update state)
      exact ⟨trans_of relation moved later, respects⟩
  | pause rest _ => exact ⟨refl_of relation state, body⟩

end Respects

end Async

namespace Machine

variable {κ ω σ ε α ρ : Type} {machine : Machine κ ω σ ε α}

/-- Every program of the machine and its environment respect the relation. -/
structure Conduct (machine : Machine κ ω σ ε α) (relation : σ → σ → Prop) :
    Prop where
  programs : ∀ call, (machine.program call).Respects relation
  environment : ∀ event state,
    relation state (machine.environment event state)

section Runs

variable {relation : σ → σ → Prop} [Std.Refl relation] [IsTrans σ relation]

theorem Conduct.step (conduct : machine.Conduct relation)
    {pool : Pool κ σ ε α}
    (tasks : ∀ task ∈ pool.tasks, task.2.Respects relation)
    (event : PoolEvent κ ω) :
    relation pool.state (machine.step pool event).state ∧
      ∀ task ∈ (machine.step pool event).tasks, task.2.Respects relation := by
  cases event with
  | start call =>
      obtain ⟨moved, respects⟩ :=
        (conduct.programs call).runSegment pool.state
      refine ⟨moved, ?_⟩
      intro task member
      cases List.mem_append.mp member with
      | inl earlier => exact tasks task earlier
      | inr new =>
          rw [List.mem_singleton.mp new]
          exact respects
  | resume index =>
      cases found : pool.tasks[index]? with
      | none =>
          rw [machine.step_resume_none found]
          exact ⟨refl_of relation pool.state, tasks⟩
      | some entry =>
          obtain ⟨call, program⟩ := entry
          have suspended := tasks _ (List.mem_of_getElem? found)
          obtain ⟨moved, respects⟩ :=
            (Async.Respects.wake suspended).runSegment pool.state
          simp only [Machine.step, found]
          refine ⟨moved, ?_⟩
          intro task member
          cases List.mem_or_eq_of_mem_set member with
          | inl earlier => exact tasks task earlier
          | inr new =>
              rw [new]
              exact respects
  | environment event =>
      exact ⟨conduct.environment event pool.state, tasks⟩

theorem Conduct.run (conduct : machine.Conduct relation)
    {pool : Pool κ σ ε α}
    (tasks : ∀ task ∈ pool.tasks, task.2.Respects relation)
    (events : List (PoolEvent κ ω)) :
    relation pool.state (machine.run pool events).state ∧
      ∀ task ∈ (machine.run pool events).tasks, task.2.Respects relation := by
  induction events generalizing pool with
  | nil => exact ⟨refl_of relation pool.state, tasks⟩
  | cons event events ih =>
      obtain ⟨moved, respects⟩ := conduct.step tasks event
      obtain ⟨later, remain⟩ := ih respects
      exact ⟨trans_of relation moved later, remain⟩

/-- Every step of every run from the pool respects the relation. -/
def MovesAlong (machine : Machine κ ω σ ε α) (relation : σ → σ → Prop)
    (pool : Pool κ σ ε α) : Prop :=
  ∀ before event, relation (machine.run pool before).state
    (machine.step (machine.run pool before) event).state

/-- The segments of a task respect the relation, and so does whatever lies
before, between and after them. -/
structure SegmentsFollow (relation : σ → σ → Prop) (start finish : σ)
    (ran : List (σ × σ)) : Prop where
  within : ∀ segment ∈ ran, relation segment.1 segment.2
  after : ∀ segment ∈ ran, relation start segment.1
  ordered : ran.Pairwise fun earlier later => relation earlier.2 later.1
  before : ∀ segment ∈ ran, relation segment.2 finish

namespace MovesAlong

variable {pool : Pool κ σ ε α}

omit [Std.Refl relation] [IsTrans σ relation] in
theorem later (moves : machine.MovesAlong relation pool)
    (events : List (PoolEvent κ ω)) :
    machine.MovesAlong relation (machine.run pool events) := by
  intro before event
  rw [← run_append]
  exact moves (events ++ before) event

theorem run (moves : machine.MovesAlong relation pool)
    (events : List (PoolEvent κ ω)) :
    relation pool.state (machine.run pool events).state := by
  induction events generalizing pool with
  | nil => exact refl_of relation pool.state
  | cons event events ih =>
      exact trans_of relation (moves [] event) (ih (moves.later [event]))

theorem segments (moves : machine.MovesAlong relation pool) (task : Nat)
    (events : List (PoolEvent κ ω)) :
    SegmentsFollow relation pool.state (machine.run pool events).state
      (machine.segments task pool events) := by
  induction events generalizing pool with
  | nil =>
      exact
        { within := fun _ member => absurd member List.not_mem_nil
          after := fun _ member => absurd member List.not_mem_nil
          ordered := .nil
          before := fun _ member => absurd member List.not_mem_nil }
  | cons event events ih =>
      have moved := moves [] event
      have remaining := moves.later [event]
      have rest := ih remaining
      have earlier : ∀ segment ∈ machine.segments task
          (machine.step pool event) events,
          relation pool.state segment.1 := by
        intro segment member
        exact trans_of relation moved (rest.after segment member)
      simp only [Machine.segments, run_cons]
      split
      · constructor
        case within =>
          intro segment member
          cases List.mem_cons.mp member with
          | inl first =>
              rw [first]
              exact moved
          | inr later => exact rest.within segment later
        case after =>
          intro segment member
          cases List.mem_cons.mp member with
          | inl first =>
              rw [first]
              exact refl_of relation pool.state
          | inr later => exact earlier segment later
        case ordered => exact .cons rest.after rest.ordered
        case before =>
          intro segment member
          cases List.mem_cons.mp member with
          | inl first =>
              rw [first]
              exact remaining.run events
          | inr later => exact rest.before segment later
      · exact
          { within := rest.within
            after := earlier
            ordered := rest.ordered
            before := rest.before }

omit [IsTrans σ relation] in
/-- Steps of the tasks are segments of them. -/
theorem of_segments (initial : σ)
    (segments : ∀ events task, ∀ segment ∈ machine.segments task
      (Pool.initial initial) events, relation segment.1 segment.2)
    (environment : ∀ event state,
      relation state (machine.environment event state)) :
    machine.MovesAlong relation (Pool.initial initial) := by
  intro before event
  have runs (task : Nat)
      (running : runningTask (machine.run (Pool.initial initial) before)
        event = some task) :
      relation (machine.run (Pool.initial initial) before).state
        (machine.step (machine.run (Pool.initial initial) before)
          event).state := by
    have member := segments (before ++ [event]) task
      ((machine.run (Pool.initial initial) before).state,
        (machine.step (machine.run (Pool.initial initial) before)
          event).state)
    apply member
    rw [segments_append, segments_single, if_pos running]
    exact List.mem_append_right _ List.mem_cons_self
  cases event with
  | start call => exact runs _ rfl
  | environment event => exact environment event _
  | resume task =>
      cases found : (machine.run (Pool.initial initial)
        before).tasks[task]? with
      | none =>
          rw [machine.step_resume_none found]
          exact refl_of relation _
      | some entry =>
          obtain ⟨call, program⟩ := entry
          have history := (run_recorded initial before).started task call
            program found
          obtain ⟨outcome, rfl⟩ | ⟨next, rfl⟩ := history.settled
          · rw [step_resume_done found]
            exact refl_of relation _
          · apply runs task
            simp only [runningTask, found]

end MovesAlong

theorem Conduct.moves (conduct : machine.Conduct relation)
    {pool : Pool κ σ ε α}
    (tasks : ∀ task ∈ pool.tasks, task.2.Respects relation) :
    machine.MovesAlong relation pool := by
  intro before event
  exact (conduct.step (conduct.run tasks before).2 event).1

theorem Conduct.segments (conduct : machine.Conduct relation)
    {pool : Pool κ σ ε α}
    (tasks : ∀ task ∈ pool.tasks, task.2.Respects relation) (task : Nat)
    (events : List (PoolEvent κ ω)) :
    SegmentsFollow relation pool.state (machine.run pool events).state
      (machine.segments task pool events) :=
  (conduct.moves tasks).segments task events

end Runs

section Tasks

variable {relation : σ → σ → Prop} {valid : ρ → σ → Prop}
  {change : ρ → ρ → σ → σ → Prop}
  {post : Except ε α → ρ → σ → σ → Prop} {origin : ρ}

/-- What a task with the given segments still has to do, or how it ended. -/
inductive Accounted (valid : ρ → σ → Prop) (change : ρ → ρ → σ → σ → Prop)
    (post : Except ε α → ρ → σ → σ → Prop) (origin : ρ) :
    List (σ × σ) → Async σ ε α → Prop where
  | ended {earlier : List (σ × σ)} {held : ρ} {start finish : σ}
      {outcome : Except ε α} :
      Async.Ran change origin earlier held → post outcome held start finish →
      Accounted valid change post origin (earlier ++ [(start, finish)])
        (.done outcome)
  | suspended {ran : List (σ × σ)} {kept : ρ} {next : Async σ ε α} :
      Async.Ran change origin ran kept →
      (∀ later, valid kept later →
        next.Owns valid change post kept later later) →
      Accounted valid change post origin ran (.pause next)

theorem Accounted.segment {program : Async σ ε α} {held : ρ}
    {earlier : List (σ × σ)} {state : σ}
    (ran : Async.Ran change origin earlier held)
    (owns : program.Owns valid change post held state state) :
    Accounted valid change post origin
      (earlier ++ [(state, (program.runSegment state).2)])
      (program.runSegment state).1 := by
  obtain ⟨outcome, ended, holds⟩ | ⟨next, kept, paused, changed, continues⟩ :=
    Async.runSegment_outcome owns
  · rw [ended]
    exact .ended ran holds
  · rw [paused]
    exact .suspended (.snoc ran changed) continues

theorem History.ne_nil {program rest : Async σ ε α} {ran : List (σ × σ)}
    (history : History program ran rest) : ran ≠ [] := by
  cases history with
  | started state => exact List.cons_ne_nil _ _
  | resumed state _ =>
      exact List.append_ne_nil_of_right_ne_nil _ (List.cons_ne_nil _ _)

/-- A program that relies on nothing but the relation is accounted for by its
own segments. -/
theorem History.accounted {program rest : Async σ ε α}
    {ran : List (σ × σ)} (history : History program ran rest)
    (owns : ∀ state, program.Owns valid change post origin state state)
    (establishes : ∀ held kept start finish,
      change held kept start finish → valid kept finish)
    (stable : ∀ held start finish, valid held start →
      relation start finish → valid held finish)
    (ordered : ran.Pairwise fun earlier later => relation earlier.2 later.1) :
    Accounted valid change post origin ran rest := by
  induction history with
  | started state => exact Accounted.segment .nil (owns state)
  | @resumed earlier rest state history ih =>
      obtain ⟨past, -, links⟩ := List.pairwise_append.mp ordered
      have account := ih past
      cases account with
      | suspended ran continues =>
          apply Accounted.segment ran
          apply continues
          cases ran with
          | nil => exact absurd rfl history.ne_nil
          | @snoc before held kept start finish _ changed =>
              apply stable _ finish _ (establishes _ _ _ _ changed)
              exact links _ (List.mem_append_right _ List.mem_cons_self) _
                List.mem_cons_self

/-- So is every task of a run whose segments follow each other along the
relation. -/
theorem accounted {initial final : σ}
    {events : List (PoolEvent κ ω)} {task : Nat} {call : κ}
    {rest : Async σ ε α}
    (found : (machine.run (Pool.initial initial) events).tasks[task]? =
      some (call, rest))
    (follow : SegmentsFollow relation initial final
      (machine.segments task (Pool.initial initial) events))
    (owns : ∀ state,
      (machine.program call).Owns valid change post origin state state)
    (establishes : ∀ held kept start finish,
      change held kept start finish → valid kept finish)
    (stable : ∀ held start finish, valid held start →
      relation start finish → valid held finish) :
    Accounted valid change post origin
      (machine.segments task (Pool.initial initial) events) rest := by
  have history := (run_recorded initial events).started task call rest found
  exact history.accounted owns establishes stable follow.ordered

end Tasks

end Machine

end VaultCore
