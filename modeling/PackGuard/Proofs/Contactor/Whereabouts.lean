import PackGuard.Proofs.Contactor.Timing

/-!
# Where a contactor really is

A command that is refused may have moved the contactor all the same. `moved` says which refused
commands did, counted from the first command sent; nobody but the contactor knows it. The machine
goes by the commands that were applied, so where it believes the contactor to be and where the
contactor is may differ.

* `whereabouts`: where the contactor is, read off the log of its output.
* `Strayed`: a refused command to close was the last to move it.
* `placed_of_runs`: **a machine that believes its contactor open is right, or it has strayed.**
* `open_unless_strayed`: so after a step for a safety cause in which nothing was refused. A contactor
  that has strayed is not commanded in such a step (`stays_closed_after_refusal`).
-/

namespace PackGuard

/-! ## 1. Commands that moved an output -/

namespace Actuator

variable {α : Type}

/-- The latest command that moved an output, with `moved` for the refused ones. -/
def mover (moved : Nat → Bool) : List (Attempt α) → Option (Attempt α)
  | [] => none
  | a :: log => if a.applied || moved log.length then some a else mover moved log

/-- Where an output really is. -/
def whereabouts (a : Actuator α) (moved : Nat → Bool) : Option α :=
  (mover moved a.log).map (·.value)

/-- A command that is applied moves the output. -/
theorem mover_command_of_applied {a : Actuator α} (applied : a.next = none) (v : α)
    (moved : Nat → Bool) : mover moved (a.command v).2.log = some ⟨v, none⟩ := by
  simp [command_log, mover, Attempt.applied, applied]

/-- A command that is refused moves the output or leaves the one before it the latest that did. -/
theorem mover_command_of_refused {a : Actuator α} {fault : LinkFault} (refused : a.next = some fault)
    (v : α) (moved : Nat → Bool) :
    mover moved (a.command v).2.log =
      if moved a.sent then some ⟨v, some fault⟩ else mover moved a.log := by
  rw [command_log, mover, refused]
  rfl

end Actuator

namespace Contactor

open Actuator

/-! ## 2. Contactors that have strayed -/

/-- A refused command to close was the last to move the contactor. -/
def Strayed (c : Contactor) (moved : Nat → Bool) : Prop :=
  ∃ fault, mover moved c.output.log = some ⟨.closed, some fault⟩

theorem whereabouts_of_strayed {c : Contactor} {moved : Nat → Bool} (h : c.Strayed moved) :
    c.output.whereabouts moved = some .closed := by
  obtain ⟨fault, h⟩ := h
  simp [whereabouts, h]

/-- **Believed open, the contactor is open or has strayed.** -/
def Placed (c : Contactor) (moved : Nat → Bool) : Prop :=
  c.state = .disengaged ∨ c.state = .reengageHold →
    c.output.whereabouts moved = some .opened ∨ c.Strayed moved

section Moves

variable {c c' : Contactor} {now : Nat} {call : ContactorCall} {moved : Nat → Bool}

/-- A command to open that is refused moves the contactor where it should be, if it moves it. -/
theorem placed_of_refused_open (h : c.Placed moved) {fault : LinkFault}
    (refused : c.output.next = some fault) {next : Contactor}
    (output : next.output = (c.output.command .opened).2) (state : next.state = c.state.left) :
    next.Placed moved := by
  intro believed
  have before : c.state = .disengaged ∨ c.state = .reengageHold := by
    rw [state] at believed
    cases hs : c.state <;> simp [hs, ContactorState.left] at believed ⊢
  simp only [Strayed, whereabouts, output, mover_command_of_refused refused]
  by_cases did : moved c.output.sent = true
  · simp [did]
  · simp only [did, Bool.false_eq_true, if_false]
    exact h before

/-- Every call keeps a contactor placed. -/
theorem moves_placed (m : c.Moves now call c') (h : c.Placed moved) : c'.Placed moved := by
  cases m with
  | opens commanded applied =>
      refine fun _ => .inl ?_
      simp [whereabouts, mover_command_of_applied applied]
  | failsToOpen commanded refused => exact placed_of_refused_open h refused rfl rfl
  | staysEngaged => exact h
  | staysOpen disengaged => exact fun _ => h (.inl disengaged)
  | beginsHold disengaged => exact fun _ => h (.inl disengaged)
  | breaksHold holding => exact fun _ => h (.inr holding)
  | waits => exact h
  | closes => exact fun believed => by simp at believed
  | @failsToClose finish fault holding ends ended refused =>
      intro _
      simp only [Strayed, whereabouts, mover_command_of_refused refused]
      by_cases did : moved c.output.sent = true
      · exact .inr ⟨fault, by simp [did]⟩
      · simp only [did, Bool.false_eq_true, if_false]
        exact h (.inr holding)

/-- A step for a safety cause in which nothing is refused opens the contactor, or finds it believed
    open and sends nothing. -/
theorem opens_or_idle (moved : Nat → Bool) {cause : Cause} (m : c.Moves now (.step (some cause)) c')
    (safety : cause.isSafety = true)
    (clean : ∀ a ∈ c'.output.since c.output, a.applied = true) :
    mover moved c'.output.log = some ⟨.opened, none⟩ ∨
      c'.state = .disengaged ∧ c'.output.since c.output = [] := by
  cases m with
  | opens commanded applied => exact .inl (mover_command_of_applied applied _ _)
  | failsToOpen commanded refused =>
      have applied := clean ⟨.opened, c.output.next⟩ (by simp)
      simp [Attempt.applied, refused] at applied
  | staysEngaged engaged early => rw [(early cause rfl).1] at safety; cases safety
  | staysOpen disengaged => exact .inr ⟨disengaged, by simp⟩
  | breaksHold holding => exact .inr ⟨rfl, by simp⟩

end Moves

/-! ## 3. Runs -/

/-- A contactor that was opened first. -/
def openedFirst (s : ContactorSettings) (output : Actuator Position) (now : Nat) (cause : Cause) :
    Contactor :=
  (forceOpen { settings := s, output := output } now cause).contactor

/-- **After every run of a contactor that was opened first**, the machine is right in believing it
    open unless it has strayed. -/
theorem placed_of_runs {s : ContactorSettings} {output : Actuator Position} {began : Nat}
    {first : Cause} (applied : output.next = none) (moved : Nat → Bool)
    {history : List ContactorEntry} {c : Contactor}
    (run : Runs (openedFirst s output began first) history c) : c.Placed moved := by
  induction run with
  | start =>
      refine fun _ => .inl ?_
      rw [openedFirst, forceOpen_of_applied began first applied]
      simp [whereabouts, mover_command_of_applied applied]
  | call now call run later ih => exact moves_placed (perform_moves _ now call) ih

/-- **Where a contactor is after a step for a safety cause.** It was opened first and called in any
    way since, whichever commands were refused and whichever of these moved it. If nothing was
    refused in the step, it is open, unless a refused command to close was the last to move it. Then
    it is closed, and the step sent nothing. -/
theorem open_unless_strayed {s : ContactorSettings} {output : Actuator Position} {began : Nat}
    {first : Cause} (applied : output.next = none) (moved : Nat → Bool) {e : ContactorEntry}
    {history : List ContactorEntry} {c : Contactor}
    (run : Runs (openedFirst s output began first) (e :: history) c) {cause : Cause}
    (blocked : e.call = .step (some cause)) (safety : cause.isSafety = true)
    (clean : ∀ a ∈ e.sent, a.applied = true) :
    (c.output.whereabouts moved = some .opened ↔ ¬ c.Strayed moved) ∧
      (c.Strayed moved → e.sent = [] ∧ c.output.whereabouts moved = some .closed) := by
  have placed := placed_of_runs applied moved run
  have strayed : c.Strayed moved → c.output.whereabouts moved = some .closed :=
    whereabouts_of_strayed
  cases run with
  | @call _ c now call run later =>
      subst blocked
      rcases opens_or_idle moved (perform_moves c now _) safety clean with
        opened | ⟨disengaged, idle⟩
      · have opening : (c.perform now (.step (some cause))).contactor.output.whereabouts moved =
            some .opened := by simp [whereabouts, opened]
        have never : ¬ (c.perform now (.step (some cause))).contactor.Strayed moved := by
          intro h
          rw [opening] at strayed
          cases strayed h
        exact ⟨iff_of_true opening never, fun h => absurd h never⟩
      · refine ⟨⟨fun opening h => ?_, fun never => ?_⟩, fun h => ⟨idle, strayed h⟩⟩
        · rw [opening] at strayed
          cases strayed h
        · exact (placed (.inl disengaged)).resolve_right never

/-- The refusals of an output whose second command is refused. -/
def refusingSecond : Actuator Position where
  plan k := if k = 1 then some (.device .linkDown) else none

/-- Opened at 0, closed at 200 in spite of the refusal, closed once more at 300 and blocked by a
    fault at 400, the contactor is open. -/
theorem opens_after_second_closing :
    ∃ e history c, Runs (openedFirst { firstHold := 200 } refusingSecond 0 .startup)
        (e :: history) c ∧
      e.call = .step (some (.fault .pack .overvoltage)) ∧
      c.output.applied = [.opened, .closed, .opened] ∧
      c.output.whereabouts (fun _ => true) = some .opened := by
  have held : Runs (openedFirst { firstHold := 200 } refusingSecond 0 .startup) _ _ :=
    .call 0 (.step none) .start (by simp)
  have refused := held.call 200 (.step none) (by simp [entry, entryTo])
  have closed := refused.call 300 (.step none) (by simp [entry, entryTo])
  have run := closed.call 400 (.step (some (.fault .pack .overvoltage)))
    (by simp [entry, entryTo])
  have known := open_unless_strayed (by decide) (fun _ => true) run rfl (by decide) (by decide)
  refine ⟨_, _, _, run, rfl, by decide, known.1.2 fun strayed => ?_⟩
  exact absurd (known.2 strayed).1 (by decide)

/-- **A contactor that stays closed under a fault.** Opened at 0 and closed at 200 in spite of the
    refusal, it is blocked by a fault at 300. Nothing is sent, so nothing is refused, and the
    contactor is closed. -/
theorem stays_closed_after_refusal :
    ∃ e history c, Runs (openedFirst { firstHold := 200 } refusingSecond 0 .startup)
        (e :: history) c ∧
      e.call = .step (some (.fault .pack .overvoltage)) ∧ (∀ a ∈ e.sent, a.applied = true) ∧
      c.output.whereabouts (fun _ => true) = some .closed := by
  have held : Runs (openedFirst { firstHold := 200 } refusingSecond 0 .startup) _ _ :=
    .call 0 (.step none) .start (by simp)
  have refused := held.call 200 (.step none) (by simp [entry, entryTo])
  have run := refused.call 300 (.step (some (.fault .pack .overvoltage)))
    (by simp [entry, entryTo])
  exact ⟨_, _, _, run, rfl, by decide, by decide⟩

end Contactor

end PackGuard
