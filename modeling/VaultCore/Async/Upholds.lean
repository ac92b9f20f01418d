import VaultCore.Async.Alone
import VaultCore.Async.Interleaving

/-!
# Programs that uphold an invariant

A program upholds a shared invariant when it finds it in every segment it
begins, whatever ran before, and leaves it in every segment it ends.  What it
reads under the invariant may be used later, and what it returns is good.
-/

namespace VaultCore

namespace Async

variable {σ τ ε α β : Type} {invariant : σ → Prop}

/-- Begun in a good state, the program suspends and ends in good states only
and returns good values; it may fail with anything. -/
def Upholds (invariant : σ → Prop) (good : α → Prop)
    (program : Async σ ε α) : Prop :=
  ∀ start state, invariant state →
    program.Meets invariant (fun _ finish => invariant finish)
      (fun outcome _ finish =>
        invariant finish ∧ ∀ value, outcome = .ok value → good value)
      start state

namespace Upholds

variable {program : Async σ ε α} {good : α → Prop}

theorem restart {begun start state : σ}
    (meets : program.Meets invariant (fun _ finish => invariant finish)
      (fun outcome _ finish =>
        invariant finish ∧ ∀ value, outcome = .ok value → good value)
      begun state) :
    program.Meets invariant (fun _ finish => invariant finish)
      (fun outcome _ finish =>
        invariant finish ∧ ∀ value, outcome = .ok value → good value)
      start state := by
  induction program generalizing state with
  | done outcome => exact meets
  | sync update rest ih => exact ih state meets
  | pause rest _ => exact meets

theorem done {outcome : Except ε α}
    (holds : ∀ value, outcome = .ok value → good value) :
    Upholds invariant good (.done outcome : Async σ ε α) :=
  fun _ _ sound => ⟨sound, holds⟩

theorem pure {value : α} (holds : good value) :
    Upholds invariant good (Pure.pure value : Async σ ε α) := by
  apply done
  intro other same
  cases same
  exact holds

theorem throw (error : ε) :
    Upholds invariant good (Async.throw error : Async σ ε α) := by
  apply done
  intro value impossible
  cases impossible

theorem awaitOutcome {outcome : Except ε α}
    (holds : ∀ value, outcome = .ok value → good value) :
    Upholds invariant good (Async.awaitOutcome outcome : Async σ ε α) :=
  fun _ _ sound => ⟨sound, fun _ laterSound => ⟨laterSound, holds⟩⟩

theorem lift {code : Sync σ ε α}
    (runs : ∀ state, invariant state → invariant (code state).2 ∧
      ∀ value, (code state).1 = .ok value → good value) :
    Upholds invariant good (Async.lift code) :=
  fun _ state sound => runs state sound

/-- Code that runs in one go. -/
theorem lift_bind {first : Sync σ ε α} {next : α → Sync σ ε β}
    {last : β → Prop} (begins : Upholds invariant good (Async.lift first))
    (continues : ∀ value, good value →
      Upholds invariant last (Async.lift (next value))) :
    Upholds invariant last (Async.lift (first >>= next)) := by
  apply lift
  intro state sound
  obtain ⟨middleSound, holds⟩ : invariant (first state).2 ∧
      ∀ value, (first state).1 = .ok value → good value :=
    begins state state sound
  rw [Sync.bind_apply]
  cases ran : first state with
  | mk outcome middle =>
      rw [ran] at middleSound holds
      cases outcome with
      | ok value =>
          exact continues value (holds value rfl) middle middle middleSound
      | error error =>
          refine ⟨middleSound, ?_⟩
          intro value impossible
          cases impossible

theorem get :
    Upholds invariant invariant (Async.lift Sync.get : Async σ ε σ) := by
  apply lift
  intro state sound
  refine ⟨sound, ?_⟩
  intro value same
  cases same
  exact sound

theorem ofExcept {outcome : Except ε α}
    (holds : ∀ value, outcome = .ok value → good value) :
    Upholds invariant good
      (Async.lift (Sync.ofExcept outcome) : Async σ ε α) :=
  lift fun _ sound => ⟨sound, holds⟩

theorem bind {next : α → Async σ ε β} {last : β → Prop}
    (first : Upholds invariant good program)
    (continues : ∀ value, good value → Upholds invariant last (next value)) :
    Upholds invariant last (program >>= next) := by
  intro start state sound
  apply Meets.bind
  apply (first start state sound).mono
  intro outcome begun finish ended
  obtain ⟨finishSound, holds⟩ := ended
  cases outcome with
  | ok value =>
      exact continues value (holds value rfl) begun finish finishSound
  | error error =>
      refine ⟨finishSound, ?_⟩
      intro value impossible
      cases impossible

theorem bind_pure {wrap : α → β} {last : β → Prop}
    (first : Upholds invariant good program)
    (wraps : ∀ value, good value → last (wrap value)) :
    Upholds invariant last
      (program >>= fun value => Pure.pure (wrap value)) := by
  apply bind first
  intro value holds
  exact pure (wraps value holds)

theorem tryCatch {handler : ε → Async σ ε α}
    (body : Upholds invariant good program)
    (handles : ∀ error, Upholds invariant good (handler error)) :
    Upholds invariant good (program.tryCatch handler) := by
  intro start state sound
  apply Meets.tryCatch
  apply (body start state sound).mono
  intro outcome begun finish ended
  cases outcome with
  | ok value => exact ended
  | error error => exact handles error begun finish ended.1

theorem await (body : Upholds invariant good program) :
    Upholds invariant good program.await := by
  intro start state sound
  apply Meets.await
  apply (body start state sound).mono
  intro outcome begun finish ended
  exact ⟨ended.1, fun later laterSound => ⟨laterSound, ended.2⟩⟩

theorem mono {better : α → Prop} (upholds : Upholds invariant better program)
    (implies : ∀ value, better value → good value) :
    Upholds invariant good program := by
  intro start state sound
  apply (upholds start state sound).mono
  intro outcome begun finish ended
  exact ⟨ended.1, fun value same => implies value (ended.2 value same)⟩

/-- A program that relies on less and moves the state along a relation that
keeps the invariant. -/
theorem of_meets {guarantee : σ → σ → Prop}
    (meets : ∀ state, invariant state →
      program.Meets (fun _ => True) guarantee
        (fun _ begun finish => guarantee begun finish) state state)
    (moves : ∀ begun finish, invariant begun → guarantee begun finish →
      invariant finish) :
    Upholds invariant (fun _ => True) program := by
  intro start state sound
  suffices relayed : ∀ (begun start current : σ), invariant begun →
      program.Meets (fun _ => True) guarantee
        (fun _ begun finish => guarantee begun finish) begun current →
      program.Meets invariant (fun _ finish => invariant finish)
        (fun outcome _ finish =>
          invariant finish ∧ ∀ value, outcome = .ok value → True)
        start current from
    relayed state start state sound (meets state sound)
  clear meets sound
  induction program with
  | done outcome =>
      intro begun start current begunSound ran
      exact ⟨moves begun current begunSound ran, fun _ _ => trivial⟩
  | sync update rest ih =>
      intro begun start current begunSound ran
      exact ih current begun start (update current) begunSound ran
  | pause rest ih =>
      intro begun start current begunSound ran
      refine ⟨moves begun current begunSound ran.1, ?_⟩
      intro later laterSound
      exact ih later later later laterSound (ran.2 later trivial)

/-- A program over a component upholds what the component's own invariant
allows. -/
theorem within {component : Component τ σ} (settled : component.Settled)
    {whole : τ → Prop} (body : Upholds invariant good program)
    (read : ∀ state, whole state → invariant (component.read state))
    (write : ∀ state part, whole state → invariant part →
      whole (component.write part state)) :
    Upholds whole good (program.within component) := by
  intro start state sound
  have ran := body (component.read state) (component.read state)
    (read state sound)
  -- within a segment the whole is a good state with another component
  suffices inside : ∀ (begun part : σ) (base start : τ), whole base →
      program.Meets invariant (fun _ finish => invariant finish)
        (fun outcome _ finish =>
          invariant finish ∧ ∀ value, outcome = .ok value → good value)
        begun part →
      (program.within component).Meets whole (fun _ finish => whole finish)
        (fun outcome _ finish =>
          whole finish ∧ ∀ value, outcome = .ok value → good value)
        start (component.write part base) by
    have met := inside _ _ state start sound ran
    rwa [settled.write_read] at met
  clear ran body
  induction program with
  | done outcome =>
      intro begun part base start sound ran
      exact ⟨write base part sound ran.1, ran.2⟩
  | sync update rest ih =>
      intro begun part base start sound ran
      have met := ih part begun (update part) base start sound ran
      simpa only [Async.within, Meets, component.read_write,
        settled.write_write] using met
  | pause rest ih =>
      intro begun part base start sound ran
      refine ⟨write base part sound ran.1, ?_⟩
      intro later laterSound
      have met := ih _ _ later later laterSound
        (ran.2 (component.read later) (read later laterSound))
      rwa [settled.write_read] at met

end Upholds

/-- What a started program still promises, what it returns included. -/
def Upholding (invariant : σ → Prop) (good : α → Prop)
    (program : Async σ ε α) : Prop :=
  Upholds invariant good program.wake

theorem Upholds.runSegment {program : Async σ ε α} {good : α → Prop}
    {state : σ} (upholds : Upholds invariant good program)
    (sound : invariant state) :
    invariant (program.runSegment state).2 ∧
      (program.runSegment state).1.Upholding invariant good := by
  have ran := upholds state state sound
  clear upholds
  suffices runs : ∀ begun state : σ,
      program.Meets invariant (fun _ finish => invariant finish)
        (fun outcome _ finish =>
          invariant finish ∧ ∀ value, outcome = .ok value → good value)
        begun state →
      invariant (program.runSegment state).2 ∧
        (program.runSegment state).1.Upholding invariant good from
    runs state state ran
  clear ran sound
  induction program with
  | done outcome =>
      intro begun state ran
      exact ⟨ran.1, .done ran.2⟩
  | sync update rest ih =>
      intro begun current ran
      exact ih current begun (update current) ran
  | pause rest _ =>
      intro begun current ran
      refine ⟨ran.1, ?_⟩
      intro start later sound
      exact Upholds.restart (ran.2 later sound)

end Async

namespace Machine

variable {κ ω σ ε α : Type} {machine : Machine κ ω σ ε α}
  {invariant : σ → Prop} {allowed : κ → Prop} {good : κ → α → Prop}

/-- The invariant, with the promise of every program that was started. -/
structure Upholds (invariant : σ → Prop) (good : κ → α → Prop)
    (pool : Pool κ σ ε α) : Prop where
  state : invariant pool.state
  tasks : ∀ task ∈ pool.tasks, task.2.Upholding invariant (good task.1)

/-- Every step of an allowed call leaves the pool as it has to be. -/
theorem step_upholds {pool : Pool κ σ ε α}
    (programs : ∀ call, allowed call →
      Async.Upholds invariant (good call) (machine.program call))
    (environment : ∀ event state, invariant state →
      invariant (machine.environment event state))
    (event : PoolEvent κ ω)
    (started : ∀ call, event = .start call → allowed call)
    (upholds : Upholds invariant good pool) :
    Upholds invariant good (machine.step pool event) := by
  cases event with
  | start call =>
      obtain ⟨sound, standing⟩ :=
        (programs call (started call rfl)).runSegment upholds.state
      refine ⟨sound, ?_⟩
      intro task member
      rcases List.mem_append.mp member with earlier | new
      · exact upholds.tasks task earlier
      · rw [List.mem_singleton.mp new]
        exact standing
  | resume task =>
      cases found : pool.tasks[task]? with
      | none =>
          rw [machine.step_resume_none found]
          exact upholds
      | some entry =>
          obtain ⟨call, program⟩ := entry
          have standing := upholds.tasks _ (List.mem_of_getElem? found)
          obtain ⟨sound, later⟩ :=
            Async.Upholds.runSegment standing upholds.state
          have stepped : machine.step pool (.resume task) =
              { state := (program.wake.runSegment pool.state).2
                tasks := pool.tasks.set task
                  (call, (program.wake.runSegment pool.state).1) } := by
            simp [step, found]
          rw [stepped]
          refine ⟨sound, ?_⟩
          intro other member
          rcases List.mem_or_eq_of_mem_set member with earlier | new
          · exact upholds.tasks other earlier
          · rw [new]
            exact later
  | environment event =>
      exact ⟨environment event _ upholds.state, upholds.tasks⟩

/-- What every allowed call upholds, every interleaving of them does. -/
theorem run_upholds {pool : Pool κ σ ε α}
    (programs : ∀ call, allowed call →
      Async.Upholds invariant (good call) (machine.program call))
    (environment : ∀ event state, invariant state →
      invariant (machine.environment event state))
    (upholds : Upholds invariant good pool)
    (events : List (PoolEvent κ ω))
    (started : ∀ call, .start call ∈ events → allowed call) :
    Upholds invariant good (machine.run pool events) := by
  induction events generalizing pool with
  | nil => exact upholds
  | cons event events ih =>
      rw [run_cons]
      apply ih
      · apply step_upholds programs environment event _ upholds
        rintro call rfl
        exact started call List.mem_cons_self
      · intro call member
        exact started call (List.mem_cons_of_mem _ member)

theorem Upholds.initial {state : σ} (sound : invariant state) :
    Upholds invariant good (Pool.initial state : Pool κ σ ε α) where
  state := sound
  tasks := by
    intro task impossible
    cases impossible

theorem Upholds.returned {pool : Pool κ σ ε α} {call : κ} {value : α}
    (upholds : Upholds invariant good pool)
    (ended : (call, .done (.ok value)) ∈ pool.tasks) : good call value :=
  (upholds.tasks _ ended pool.state pool.state upholds.state).2 value rfl

end Machine

end VaultCore
