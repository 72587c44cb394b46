import PackGuard.Proofs.Contactor.Moves

/-!
# The record of what was sent

A contactor keeps the position it believes in and the times at which it last opened and last closed.
What really went out is the record of its output, each command with the time of the call that sent
it. Two invariants tie one to the other over any calls at any times, whichever of the commands are
refused:

* `Steady`: the position is the one the output took last, and it is closed exactly in the states
  `engaged` and `disengaging` (`moves_steady`);
* `Dated`: the times are those of the record (`moves_dated`).
-/

namespace PackGuard

/-! ## 1. Records -/

/-- A command to the output of a contactor, with the time of the call that sent it. -/
structure Sent where
  time : Nat
  attempt : Attempt Position
deriving DecidableEq, Repr

/-- Whether this command brought the output to a position. -/
def Sent.applies (s : Sent) (p : Position) : Bool := s.attempt.applied && s.attempt.value == p

/-- When a position was applied last, in a record with the latest command first. -/
def lastApplied (p : Position) (record : List Sent) : Option Nat :=
  (record.find? (·.applies p)).map (·.time)

@[simp] theorem lastApplied_nil (p : Position) : lastApplied p [] = none := rfl

@[simp] theorem lastApplied_cons (p : Position) (s : Sent) (record : List Sent) :
    lastApplied p (s :: record) = if s.applies p then some s.time else lastApplied p record := by
  by_cases h : s.applies p <;> simp [lastApplied, h]

/-- The time of the last application is the time of an application. -/
theorem exists_of_lastApplied {p : Position} {record : List Sent} {t : Nat}
    (h : lastApplied p record = some t) : ∃ s ∈ record, s.applies p = true ∧ s.time = t := by
  obtain ⟨s, hs, rfl⟩ := Option.map_eq_some_iff.1 h
  have applies := List.find?_some hs
  exact ⟨s, List.mem_of_find?_eq_some hs, applies, rfl⟩

namespace Contactor

/-- What was sent since a former state of the same contactor, in a call at a time. -/
def sentSince (c before : Contactor) (now : Nat) : List Sent :=
  (c.output.since before.output).map (⟨now, ·⟩)

@[simp] theorem sentSince_self (c : Contactor) (now : Nat) : c.sentSince c now = [] := by
  simp [sentSince]

/-! ## 2. Position and output -/

theorem moves_settings {c c' : Contactor} {now : Nat} {call : ContactorCall}
    (m : c.Moves now call c') : c'.settings = c.settings := by
  cases m <;> rfl

/-- Nothing, or the latest command, is in front of what the output had logged. -/
theorem moves_log {c c' : Contactor} {now : Nat} {call : ContactorCall}
    (m : c.Moves now call c') : c'.output.log = c'.output.since c.output ++ c.output.log := by
  cases m <;> simp [Actuator.command_log]

/-- **The position is the output's, and the states say whether it is closed.** -/
structure Steady (c : Contactor) : Prop where
  current : ∀ p, c.position = some p → c.output.current = some p
  closed_iff : c.position = some .closed ↔ c.state = .engaged ∨ c.state = .disengaging
  hold_iff : c.holdUntil.isSome = true ↔ c.state = .reengageHold

/-- A new contactor, on any output. -/
theorem steady_new (s : ContactorSettings) (output : Actuator Position) :
    Steady { settings := s, output := output } where
  current _ h := by cases h
  closed_iff := by simp
  hold_iff := by simp

theorem moves_steady {c c' : Contactor} {now : Nat} {call : ContactorCall}
    (m : c.Moves now call c') (h : c.Steady) : c'.Steady := by
  obtain ⟨current, closed, hold⟩ := h
  cases m with
  | opens commanded applied =>
      refine ⟨fun p hp => ?_, by simp, by simp⟩
      cases hp
      exact Actuator.current_command_of_applied applied _
  | failsToOpen commanded refused =>
      refine ⟨fun p hp => ?_, ?_, ?_⟩
      · exact (Actuator.current_command_of_refused refused _).trans (current p hp)
      · cases hs : c.state <;> simp [hs, ContactorState.left] at closed ⊢ <;> exact closed
      · cases hs : c.state <;> simp [ContactorState.left]
  | staysEngaged => exact ⟨current, closed, hold⟩
  | staysOpen disengaged => exact ⟨current, closed, hold⟩
  | beginsHold disengaged =>
      refine ⟨current, ?_, by simp⟩
      simpa [disengaged] using closed
  | breaksHold holding =>
      refine ⟨current, ?_, by simp⟩
      simpa [holding] using closed
  | waits => exact ⟨current, closed, hold⟩
  | closes holding ends ended applied =>
      refine ⟨fun p hp => ?_, by simp, by simp⟩
      cases hp
      exact Actuator.current_command_of_applied applied _
  | failsToClose holding ends ended refused =>
      exact ⟨fun p hp => (Actuator.current_command_of_refused refused _).trans (current p hp),
        closed, hold⟩

/-! ## 3. Times -/

/-- **The times that a contactor keeps are those of a record.** -/
structure Dated (c : Contactor) (record : List Sent) : Prop where
  opened : c.lastOpened = lastApplied .opened record
  closed : c.lastClosed = lastApplied .closed record
  ever : c.everEngaged = c.lastClosed.isSome
  engaged : c.position = some .closed → c.lastClosed.isSome = true

theorem dated_new (s : ContactorSettings) (output : Actuator Position) :
    Dated { settings := s, output := output } [] where
  opened := rfl
  closed := rfl
  ever := rfl
  engaged h := by cases h

/-- A command that is applied is dated; one that is refused changes no date. -/
theorem moves_dated {c c' : Contactor} {now : Nat} {call : ContactorCall} {record : List Sent}
    (m : c.Moves now call c') (h : c.Dated record) :
    c'.Dated (c'.sentSince c now ++ record) := by
  obtain ⟨opened, closed, ever, engaged⟩ := h
  cases m with
  | opens commanded applied =>
      refine ⟨?_, ?_, ever, by simp⟩ <;>
        simp [sentSince, Sent.applies, Attempt.applied, applied, closed]
  | failsToOpen commanded refused =>
      refine ⟨?_, ?_, ever, engaged⟩ <;>
        simp [sentSince, Sent.applies, Attempt.applied, refused, opened, closed]
  | closes holding ends ended applied =>
      refine ⟨?_, ?_, rfl, fun _ => rfl⟩ <;>
        simp [sentSince, Sent.applies, Attempt.applied, applied, opened]
  | failsToClose holding ends ended refused =>
      refine ⟨?_, ?_, ever, engaged⟩ <;>
        simp [sentSince, Sent.applies, Attempt.applied, refused, opened, closed]
  | staysEngaged => exact ⟨by simpa using opened, by simpa using closed, ever, engaged⟩
  | waits => exact ⟨by simpa using opened, by simpa using closed, ever, engaged⟩
  | staysOpen | beginsHold | breaksHold =>
      refine ⟨?_, ?_, ever, engaged⟩ <;> simp [sentSince, opened, closed]

end Contactor

end PackGuard
