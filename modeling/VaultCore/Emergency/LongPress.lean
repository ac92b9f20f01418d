import VaultCore.Text.Utf16
import VaultCore.Timing.Timeouts

/-!
# The long press

A press that is held long enough signals duress.  The press sets a timeout,
and its end clears it; what the timeout has signaled stays until it is reset.
A run is any sequence of presses, releases, resets and waits in which a timeout
fires at its deadline or later.
-/

namespace VaultCore

/-- How long a press has to be. -/
def defaultDuressLongPressMs : Nat := 1000

/-- The options of the render that the handlers come from. -/
structure UseLongPressDuressSignalOptions where
  thresholdMs : Nat := defaultDuressLongPressMs
  disabled : Bool := false
deriving DecidableEq

/-- What a handler reads of a pointer event. -/
structure PointerPress where
  button : Int
  pointerType : JsString
deriving DecidableEq

/-- The state, the refs and the event loop they refer to. -/
structure LongPress where
  duressSignaled : Bool := false
  timerRef : Option Nat := none
  activeRef : Bool := false
  now : Nat := 0
  timeouts : Timeouts Nat := .initial

namespace LongPress

/-- Clears the timeout that the ref holds. -/
def clearTimer (state : LongPress) : LongPress :=
  { state with
    timerRef := none
    timeouts := state.timeouts.clear state.timerRef }

def resetDuressSignal (state : LongPress) : LongPress :=
  let cleared := clearTimer { state with duressSignaled := false }
  { cleared with activeRef := false }

/-- A press starts the timeout; a disabled hook and another mouse button do
not. -/
def onPointerDown (options : UseLongPressDuressSignalOptions)
    (event : PointerPress) (state : LongPress) : LongPress :=
  if options.disabled then state
  else if event.button != 0 && event.pointerType = js "mouse" then state
  else
    let cleared := clearTimer { state with activeRef := true }
    let (handle, timeouts) := cleared.timeouts.set
      (state.now + timeoutDelay options.thresholdMs)
    { cleared with timerRef := some handle, timeouts }

/-- A press that ends before its timeout. -/
def cancelPress (state : LongPress) : LongPress :=
  clearTimer { state with activeRef := false }

/-- What the timeout of a press does. -/
def onTimeout (state : LongPress) : LongPress :=
  if state.activeRef then { state with duressSignaled := true } else state

end LongPress

/-- A release is a pointer up, leave or cancel. -/
inductive LongPressEvent where
  | down (options : UseLongPressDuressSignalOptions) (event : PointerPress)
  | release
  | reset
  | wait (ms : Nat)
  | fire (handle : Nat)
deriving DecidableEq

/-- A timeout fires only when it is due. -/
def LongPress.step (state : LongPress) : LongPressEvent → Option LongPress
  | .down options event => some (state.onPointerDown options event)
  | .release => some state.cancelPress
  | .reset => some state.resetDuressSignal
  | .wait ms => some { state with now := state.now + ms }
  | .fire handle =>
      (state.timeouts.fire state.now handle).map fun timeouts =>
        LongPress.onTimeout { state with timeouts }

/-- The states that the hook gets to from its first render. -/
inductive LongPressRun : List LongPressEvent → LongPress → Prop where
  | nil : LongPressRun [] {}
  | snoc {events : List LongPressEvent} {state after : LongPress}
      (event : LongPressEvent) :
      LongPressRun events state → state.step event = some after →
      LongPressRun (events ++ [event]) after

/-! ## What a press is -/

/-- A press that the handler takes up. -/
def takesUp (options : UseLongPressDuressSignalOptions)
    (event : PointerPress) : Bool :=
  !options.disabled &&
    !(event.button != 0 && decide (event.pointerType = js "mouse"))

namespace LongPressEvent

/-- An event with which a press that was taken up ends. -/
def interrupts : LongPressEvent → Bool
  | down options event => takesUp options event
  | release => true
  | reset => true
  | _ => false

/-- How long the event lets pass. -/
def waited : LongPressEvent → Nat
  | wait ms => ms
  | _ => 0

end LongPressEvent

/-- The time that passes with these events. -/
def waitedMs (events : List LongPressEvent) : Nat :=
  (events.map LongPressEvent.waited).sum

@[simp] theorem waitedMs_snoc (events : List LongPressEvent)
    (event : LongPressEvent) :
    waitedMs (events ++ [event]) = waitedMs events + event.waited := by
  simp [waitedMs]

/-- The last press that was taken up, and what came since. -/
structure HoldsPress (events : List LongPressEvent)
    (options : UseLongPressDuressSignalOptions)
    (middle : List LongPressEvent) : Prop where
  split : ∃ before event,
    events = before ++ .down options event :: middle ∧
      takesUp options event = true
  held : ∀ event ∈ middle, event.interrupts = false

theorem HoldsPress.snoc {events middle : List LongPressEvent}
    {options : UseLongPressDuressSignalOptions}
    (holds : HoldsPress events options middle) {event : LongPressEvent}
    (goes : event.interrupts = false) :
    HoldsPress (events ++ [event]) options (middle ++ [event]) := by
  obtain ⟨⟨before, press, rfl, taken⟩, held⟩ := holds
  refine ⟨⟨before, press, by simp, taken⟩, ?_⟩
  intro other member
  rcases List.mem_append.mp member with earlier | last
  · exact held other earlier
  · rw [List.mem_singleton.mp last]
    exact goes

/-- A press was held for as long as its timeout, the timeout fired, and there
was no reset since. -/
def SignaledBy (events : List LongPressEvent) : Prop :=
  ∃ earlier options middle handle after,
    events = earlier ++ .fire handle :: after ∧
      HoldsPress earlier options middle ∧
      timeoutDelay options.thresholdMs ≤ waitedMs middle ∧
      ∀ event ∈ after, event ≠ .reset

theorem SignaledBy.snoc {events : List LongPressEvent}
    (signaled : SignaledBy events) {event : LongPressEvent}
    (goes : event ≠ .reset) : SignaledBy (events ++ [event]) := by
  obtain ⟨earlier, options, middle, handle, after, rfl, holds, long, kept⟩ :=
    signaled
  refine ⟨earlier, options, middle, handle, after ++ [event], by simp, holds,
    long, ?_⟩
  intro other member
  rcases List.mem_append.mp member with known | last
  · exact kept other known
  · rw [List.mem_singleton.mp last]
    exact goes

/-! ## What holds of every run -/

/-- Only the timeout of the press that is held is pending. -/
structure LongPressHolds (events : List LongPressEvent)
    (state : LongPress) : Prop where
  only : state.timeouts.HeldBy state.timerRef
  pressed : ∀ timeout ∈ state.timeouts.pending, state.activeRef = true ∧
    ∃ options middle, HoldsPress events options middle ∧
      timeout.deadline + waitedMs middle =
        state.now + timeoutDelay options.thresholdMs
  signaled : state.duressSignaled = true → SignaledBy events

namespace LongPress

variable {state after : LongPress}

theorem clearTimer_pending (only : state.timeouts.HeldBy state.timerRef) :
    state.clearTimer.timeouts.pending = [] :=
  only.clear_pending

theorem cancelPress_pending (only : state.timeouts.HeldBy state.timerRef) :
    state.cancelPress.timeouts.pending = [] :=
  clearTimer_pending only

theorem resetDuressSignal_pending
    (only : state.timeouts.HeldBy state.timerRef) :
    state.resetDuressSignal.timeouts.pending = [] :=
  clearTimer_pending only

theorem onPointerDown_of_not_takesUp
    {options : UseLongPressDuressSignalOptions} {event : PointerPress}
    (ignored : takesUp options event = false) :
    state.onPointerDown options event = state := by
  unfold onPointerDown
  unfold takesUp at ignored
  split_ifs with disabled secondary
  · rfl
  · rfl
  · simp_all

theorem onPointerDown_of_takesUp
    {options : UseLongPressDuressSignalOptions} {event : PointerPress}
    (taken : takesUp options event = true) :
    state.onPointerDown options event =
      let cleared := clearTimer { state with activeRef := true }
      let set := cleared.timeouts.set
        (state.now + timeoutDelay options.thresholdMs)
      { cleared with timerRef := some set.1, timeouts := set.2 } := by
  unfold takesUp at taken
  obtain ⟨enabled, primary⟩ := Bool.and_eq_true_iff.mp taken
  unfold onPointerDown
  have goesOn : ¬ (event.button != 0 &&
      decide (event.pointerType = js "mouse")) = true := by
    rw [Bool.not_eq_true, ← Bool.not_eq_true']
    exact primary
  rw [if_neg (by simpa using enabled), if_neg goesOn]

end LongPress

namespace LongPressHolds

variable {events : List LongPressEvent} {state after : LongPress}

theorem initial : LongPressHolds [] {} where
  only := .empty rfl _
  pressed := nofun
  signaled := nofun

theorem of_pending_nil {event : LongPressEvent}
    (holds : LongPressHolds events state)
    (nothing : after.timeouts.pending = [])
    (signaled : after.duressSignaled = true →
      state.duressSignaled = true ∧ event ≠ .reset) :
    LongPressHolds (events ++ [event]) after where
  only := .empty nothing _
  pressed := by
    rw [nothing]
    exact nofun
  signaled := by
    intro now
    obtain ⟨already, goes⟩ := signaled now
    exact (holds.signaled already).snoc goes

theorem elapse (holds : LongPressHolds events state)
    (event : LongPressEvent) (goes : event.interrupts = false) (other : event ≠ .reset) :
    LongPressHolds (events ++ [event])
      { state with now := state.now + event.waited } where
  only := holds.only
  pressed := by
    intro timeout member
    obtain ⟨active, options, middle, press, deadline⟩ :=
      holds.pressed timeout member
    refine ⟨active, options, middle ++ [event], press.snoc goes, ?_⟩
    rw [waitedMs_snoc]
    dsimp only
    omega
  signaled := fun already => (holds.signaled already).snoc other

theorem down (holds : LongPressHolds events state)
    (options : UseLongPressDuressSignalOptions) (event : PointerPress) :
    LongPressHolds (events ++ [.down options event])
      (state.onPointerDown options event) := by
  cases taken : takesUp options event with
  | false =>
      rw [LongPress.onPointerDown_of_not_takesUp taken]
      exact holds.elapse (.down options event) taken nofun
  | true =>
      rw [LongPress.onPointerDown_of_takesUp taken]
      have only := @Timeouts.HeldBy.clear_set_pending _ _
        (state.now + timeoutDelay options.thresholdMs) _ holds.only
      refine ⟨.of_pending only, ?_, ?_⟩
      · intro timeout member
        have same := List.mem_singleton.mp (only ▸ member)
        refine ⟨rfl, options, [], ⟨⟨events, event, rfl, taken⟩, nofun⟩, ?_⟩
        rw [same]
        exact Nat.add_zero _
      · intro already
        exact (holds.signaled already).snoc nofun

/-- What fires is the timeout of the press that is held, and it signals. -/
theorem fire (holds : LongPressHolds events state) {handle : Nat}
    {timeouts : Timeouts Nat}
    (fired : state.timeouts.fire state.now handle = some timeouts) :
    LongPressHolds (events ++ [.fire handle])
        (LongPress.onTimeout { state with timeouts }) ∧
      (LongPress.onTimeout { state with timeouts }).duressSignaled = true := by
  obtain ⟨-, nothing⟩ := holds.only.fire fired
  obtain ⟨-, timeout, member, -, due⟩ := Timeouts.fire_eq_some fired
  obtain ⟨active, options, middle, press, deadline⟩ :=
    holds.pressed timeout member
  have signals : LongPress.onTimeout { state with timeouts } =
      { state with timeouts, duressSignaled := true } := by
    rw [LongPress.onTimeout, if_pos active]
  rw [signals]
  refine ⟨⟨.empty nothing _, ?_, ?_⟩, rfl⟩
  · rw [nothing]
    exact nofun
  · intro _
    refine ⟨events, options, middle, handle, [], rfl, press, ?_, nofun⟩
    omega

theorem step {event : LongPressEvent} (holds : LongPressHolds events state)
    (steps : state.step event = some after) :
    LongPressHolds (events ++ [event]) after := by
  cases event with
  | down options press =>
      obtain rfl := Option.some.inj steps
      exact holds.down options press
  | release =>
      obtain rfl := Option.some.inj steps
      apply holds.of_pending_nil (LongPress.cancelPress_pending holds.only)
      intro already
      exact ⟨already, nofun⟩
  | reset =>
      obtain rfl := Option.some.inj steps
      apply holds.of_pending_nil
        (LongPress.resetDuressSignal_pending holds.only)
      intro already
      cases already
  | wait ms =>
      obtain rfl := Option.some.inj steps
      exact holds.elapse (.wait ms) rfl nofun
  | fire handle =>
      obtain ⟨timeouts, fired, rfl⟩ := Option.map_eq_some_iff.mp steps
      exact (holds.fire fired).1

theorem run (runs : LongPressRun events state) :
    LongPressHolds events state := by
  induction runs with
  | nil => exact .initial
  | snoc event _ steps ih => exact ih.step steps

end LongPressHolds

/-! ## The signal -/

section

variable {events : List LongPressEvent} {state after : LongPress}

/-- Only a reset takes the signal back. -/
theorem LongPress.step_signaled {event : LongPressEvent}
    (steps : state.step event = some after) (goes : event ≠ .reset)
    (signaled : state.duressSignaled = true) :
    after.duressSignaled = true := by
  cases event with
  | down options press =>
      obtain rfl := Option.some.inj steps
      cases taken : takesUp options press with
      | false =>
          rw [LongPress.onPointerDown_of_not_takesUp taken]
          exact signaled
      | true =>
          rw [LongPress.onPointerDown_of_takesUp taken]
          exact signaled
  | release =>
      obtain rfl := Option.some.inj steps
      exact signaled
  | reset => exact absurd rfl goes
  | wait ms =>
      obtain rfl := Option.some.inj steps
      exact signaled
  | fire handle =>
      obtain ⟨timeouts, -, rfl⟩ := Option.map_eq_some_iff.mp steps
      unfold LongPress.onTimeout
      split_ifs
      · rfl
      · exact signaled

/-- After a timeout has fired, and until a reset, the signal is there. -/
theorem LongPressRun.signaled_of_fire (runs : LongPressRun events state)
    {earlier later : List LongPressEvent} {handle : Nat}
    (split : events = earlier ++ .fire handle :: later)
    (kept : ∀ event ∈ later, event ≠ .reset) :
    state.duressSignaled = true := by
  induction runs generalizing later with
  | nil => simp at split
  | snoc event runs steps ih =>
      rcases later.eq_nil_or_concat with rfl | ⟨before, last, rfl⟩
      · obtain ⟨-, lasts⟩ := List.append_inj' split rfl
        obtain rfl := List.singleton_inj.mp lasts
        obtain ⟨timeouts, fired, rfl⟩ := Option.map_eq_some_iff.mp steps
        exact ((LongPressHolds.run runs).fire fired).2
      · rw [List.concat_eq_append, ← List.cons_append,
          ← List.append_assoc] at split
        obtain ⟨same, lasts⟩ := List.append_inj' split rfl
        obtain rfl := List.singleton_inj.mp lasts
        apply LongPress.step_signaled steps
        · exact kept _ (by simp)
        · apply ih same
          intro other member
          exact kept other (by simp [member])

end

/-- In every run, duress is signaled exactly when a press was held at least for
the threshold, its timeout fired while it was held, and no reset came since. -/
theorem duress_signaled_iff_held {events : List LongPressEvent}
    {state : LongPress} (runs : LongPressRun events state) :
    state.duressSignaled = true ↔ SignaledBy events := by
  constructor
  · exact (LongPressHolds.run runs).signaled
  · intro signaled
    obtain ⟨earlier, options, middle, handle, later, split, -, -, kept⟩ :=
      signaled
    exact runs.signaled_of_fire split kept

/-- A touch that is held for a second. -/
private def heldTouch : List LongPressEvent :=
  [.down {} ⟨0, js "touch"⟩, .wait 1000, .fire 1]

private theorem heldTouch_runs : LongPressRun heldTouch
    { duressSignaled := true
      timerRef := some 1
      activeRef := true
      now := 1000
      timeouts := { issued := 1 } } := by
  have pressed : LongPressRun [.down {} ⟨0, js "touch"⟩] _ :=
    @LongPressRun.snoc [] _ _ _ .nil rfl
  have waited : LongPressRun [.down {} ⟨0, js "touch"⟩, .wait 1000] _ :=
    .snoc _ pressed rfl
  exact .snoc _ waited rfl

theorem duress_signaled_iff_held_touch : SignaledBy heldTouch :=
  (duress_signaled_iff_held heldTouch_runs).mp rfl

end VaultCore
