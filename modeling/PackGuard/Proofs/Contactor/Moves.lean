import PackGuard.Contactor

/-!
# What a call can do to a contactor

The contactor is called in two ways, to step and to be forced open. `Moves` lists what such a call
can do, with the conditions under which it does it:

* it commands open (`CommandsOpen`), which is applied (`opens`) or refused (`failsToOpen`);
* it commands closed at the end of a hold, which is applied (`closes`) or refused (`failsToClose`);
* it begins a hold, breaks it, or leaves the contactor where it is.

`perform_moves` says that the list is complete. All that is said of contactors elsewhere is read off
it, one case for each of its lines.
-/

namespace PackGuard

/-! ## 1. Calls -/

/-- A call of a contactor. -/
inductive ContactorCall where
  | step (blocking : Option Cause)
  | forceOpen (cause : Cause)
deriving DecidableEq, Repr

/-- The state once it is decided to open and before the command is applied. -/
def ContactorState.left : ContactorState → ContactorState
  | engaged => disengaging
  | disengaging => disengaging
  | disengaged => disengaged
  | reengageHold => disengaged

namespace Contactor

def perform (c : Contactor) (now : Nat) : ContactorCall → ContactorMove
  | .step blocking => c.step now blocking
  | .forceOpen cause => c.forceOpen now cause

/-- **The calls that command the contactor open**, and the cause each gives for it. -/
inductive CommandsOpen (c : Contactor) (now : Nat) : ContactorCall → Cause → Prop where
  | forced (cause : Cause) : CommandsOpen c now (.forceOpen cause) cause
  | blocked {cause : Cause} (engaged : c.state = .engaged)
      (due : cause.isSafety = true ∨ elapsed c.lastClosed c.settings.minOn now = true) :
      CommandsOpen c now (.step (some cause)) cause
  | again (blocking : Option Cause) (disengaging : c.state = .disengaging) :
      CommandsOpen c now (.step blocking) c.cause

/-! ## 2. Moves -/

/-- **What a call at a time makes of a contactor.** -/
inductive Moves (c : Contactor) (now : Nat) : ContactorCall → Contactor → Prop where
  | opens {call : ContactorCall} {cause : Cause} (commanded : c.CommandsOpen now call cause)
      (applied : c.output.next = none) :
      Moves c now call { c with
        output := (c.output.command .opened).2
        state := .disengaged
        position := some .opened
        cause := cause
        holdUntil := none
        lastOpened := some now }
  | failsToOpen {call : ContactorCall} {cause : Cause} {fault : LinkFault}
      (commanded : c.CommandsOpen now call cause) (refused : c.output.next = some fault) :
      Moves c now call { c with
        output := (c.output.command .opened).2
        state := c.state.left
        cause := cause
        holdUntil := none }
  | staysEngaged {blocking : Option Cause} (engaged : c.state = .engaged)
      (early : ∀ cause, blocking = some cause →
        cause.isSafety = false ∧ elapsed c.lastClosed c.settings.minOn now = false) :
      Moves c now (.step blocking) c
  | staysOpen {cause : Cause} (disengaged : c.state = .disengaged) :
      Moves c now (.step (some cause)) { c with cause := cause }
  | beginsHold (disengaged : c.state = .disengaged) :
      Moves c now (.step none) { c with
        state := .reengageHold
        holdUntil := some (c.holdEnd now)
        cause := .faultsCleared }
  | breaksHold {cause : Cause} (holding : c.state = .reengageHold) :
      Moves c now (.step (some cause)) { c with
        state := .disengaged
        holdUntil := none
        cause := cause }
  | waits (holding : c.state = .reengageHold) (early : ∀ finish, c.holdUntil = some finish →
        now < finish) :
      Moves c now (.step none) c
  | closes {finish : Nat} (holding : c.state = .reengageHold) (ends : c.holdUntil = some finish)
      (ended : finish ≤ now) (applied : c.output.next = none) :
      Moves c now (.step none) { c with
        output := (c.output.command .closed).2
        state := .engaged
        position := some .closed
        cause := .holdElapsed
        holdUntil := none
        everEngaged := true
        lastClosed := some now }
  | failsToClose {finish : Nat} {fault : LinkFault} (holding : c.state = .reengageHold)
      (ends : c.holdUntil = some finish) (ended : finish ≤ now)
      (refused : c.output.next = some fault) :
      Moves c now (.step none) { c with output := (c.output.command .closed).2 }

/-! ## 3. The list is complete -/

/-- Forcing open fails exactly if the command is refused. -/
theorem forceOpen_failure (c : Contactor) (now : Nat) (cause : Cause) :
    (c.forceOpen now cause).failure = c.output.next.map Failure.ofOutput := by
  cases hs : c.state <;> cases hn : c.output.next <;>
    simp [forceOpen, leave, enter, hs, Actuator.command_fault, hn]

theorem forceOpen_of_applied {c : Contactor} (now : Nat) (cause : Cause)
    (applied : c.output.next = none) :
    (c.forceOpen now cause).contactor = { c with
      output := (c.output.command .opened).2
      state := .disengaged
      position := some .opened
      cause := cause
      holdUntil := none
      lastOpened := some now } := by
  cases hs : c.state <;>
    simp [forceOpen, leave, opened, enter, hs, Actuator.command_fault, applied]

theorem forceOpen_of_refused {c : Contactor} (now : Nat) (cause : Cause) {fault : LinkFault}
    (refused : c.output.next = some fault) :
    (c.forceOpen now cause).contactor = { c with
      output := (c.output.command .opened).2
      state := c.state.left
      cause := cause
      holdUntil := none } := by
  cases hs : c.state <;>
    simp [forceOpen, leave, enter, ContactorState.left, hs, Actuator.command_fault, refused]

/-- Forcing open sends one command. -/
theorem forceOpen_since (c : Contactor) (now : Nat) (cause : Cause) :
    (c.forceOpen now cause).contactor.output.since c.output = [⟨.opened, c.output.next⟩] := by
  cases next : c.output.next with
  | some fault => simp [forceOpen_of_refused now cause next, next]
  | none => simp [forceOpen_of_applied now cause next, next]

theorem close_of_applied {c : Contactor} (now : Nat) (applied : c.output.next = none) :
    (c.close now).contactor = { c with
      output := (c.output.command .closed).2
      state := .engaged
      position := some .closed
      cause := .holdElapsed
      holdUntil := none
      everEngaged := true
      lastClosed := some now } := by
  simp [close, enter, Actuator.command_fault, applied]

theorem close_of_refused {c : Contactor} (now : Nat) {fault : LinkFault}
    (refused : c.output.next = some fault) :
    (c.close now).contactor = { c with output := (c.output.command .closed).2 } := by
  simp [close, Actuator.command_fault, refused]

/-- A call that commands open forces open. -/
theorem perform_of_commandsOpen {c : Contactor} {now : Nat} {call : ContactorCall} {cause : Cause}
    (h : c.CommandsOpen now call cause) : c.perform now call = c.forceOpen now cause := by
  cases h with
  | forced => rfl
  | blocked engaged due =>
      rcases due with due | due <;> simp [perform, step, engaged, due]
  | again blocking disengaging => simp [perform, step, disengaging]

theorem moves_of_commandsOpen {c : Contactor} {now : Nat} {call : ContactorCall} {cause : Cause}
    (h : c.CommandsOpen now call cause) : c.Moves now call (c.perform now call).contactor := by
  rw [perform_of_commandsOpen h]
  cases hn : c.output.next with
  | none => rw [forceOpen_of_applied now cause hn]; exact .opens h hn
  | some fault => rw [forceOpen_of_refused now cause hn]; exact .failsToOpen h hn

/-- A contactor that is engaged opens or stays as it is. -/
theorem moves_of_engaged {c : Contactor} (now : Nat) (blocking : Option Cause)
    (engaged : c.state = .engaged) :
    c.Moves now (.step blocking) (c.perform now (.step blocking)).contactor := by
  cases blocking with
  | none =>
      simp only [perform, step, engaged]
      exact .staysEngaged engaged fun _ h => by cases h
  | some cause =>
      by_cases due : cause.isSafety = true ∨ elapsed c.lastClosed c.settings.minOn now = true
      · exact moves_of_commandsOpen (.blocked engaged due)
      · simp only [not_or, Bool.not_eq_true] at due
        simp only [perform, step, engaged, due, Bool.or_self, Bool.false_eq_true, if_false]
        exact .staysEngaged engaged fun _ h => by cases h; exact due

/-- A contactor that holds closes once the hold is over, unless it is blocked. -/
theorem moves_of_holding {c : Contactor} (now : Nat) (blocking : Option Cause)
    (holding : c.state = .reengageHold) :
    c.Moves now (.step blocking) (c.perform now (.step blocking)).contactor := by
  simp only [perform, step, holding]
  cases blocking with
  | some cause => exact .breaksHold holding
  | none =>
      dsimp only
      split
      · next ended =>
          obtain ⟨finish, ends, ended⟩ := (Option.any_eq_true _ _).1 ended
          have ended : finish ≤ now := by simpa using ended
          cases hn : c.output.next with
          | none => rw [close_of_applied now hn]; exact .closes holding ends ended hn
          | some fault => rw [close_of_refused now hn]; exact .failsToClose holding ends ended hn
      · next early =>
          refine .waits holding fun finish ends => ?_
          rw [ends] at early
          simpa using early

/-- **Every call of a contactor is one of the moves.** -/
theorem perform_moves (c : Contactor) (now : Nat) (call : ContactorCall) :
    c.Moves now call (c.perform now call).contactor := by
  cases call with
  | forceOpen cause => exact moves_of_commandsOpen (.forced cause)
  | step blocking =>
      cases hs : c.state with
      | engaged => exact moves_of_engaged now blocking hs
      | disengaging => exact moves_of_commandsOpen (.again blocking hs)
      | reengageHold => exact moves_of_holding now blocking hs
      | disengaged =>
          cases blocking with
          | none => simp only [perform, step, hs]; exact .beginsHold hs
          | some cause =>
              have stays : (c.perform now (.step (some cause))).contactor =
                  { c with cause := cause } := by simp [perform, step, hs]
              rw [stays]
              exact .staysOpen hs

end Contactor

end PackGuard
