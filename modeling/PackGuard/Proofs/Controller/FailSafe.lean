import PackGuard.Proofs.Controller.Runs

/-!
# The fail-safe tick

A tick of an armed controller always has an outcome. **If there is a fault or the keep-alive has
expired, the output was opened last, or it was told to open in this very tick and refused.** A
lockout alone may wait for `minOn`. Whatever blocks the contactor, nothing is closed.

`tick_fails_safe` is this for every tick of every run. It comes from the moves of the contactor
under a block (`safe_of_blocked`) and the causes that the controller hands to it
(`blockingCause_safety`).
-/

namespace PackGuard

/-! ## 1. A contactor under a block -/

namespace Contactor

section Blocked

variable {c c' : Contactor} {now : Nat} {cause : Cause}

/-- A commanded contactor that is neither engaged nor disengaging is open. -/
theorem current_of_open (steady : c.Steady) (commanded : c.position.isSome = true)
    (state : c.state = .disengaged ∨ c.state = .reengageHold) :
    c.output.current = some .opened := by
  obtain ⟨p, hp⟩ := Option.isSome_iff_exists.1 commanded
  cases p with
  | opened => exact steady.current _ hp
  | closed =>
      have closed := steady.closed_iff.1 hp
      rcases state with state | state <;> simp [state] at closed

/-- **Blocked by a safety cause a contactor opens**, or is refused and stays on the way to it. -/
theorem safe_of_blocked (m : c.Moves now (.step (some cause)) c') (safety : cause.isSafety = true)
    (steady : c.Steady) (commanded : c.position.isSome = true) :
    c'.state = .disengaged ∧ c'.output.current = some .opened ∨
      c'.state = .disengaging ∧ ∃ a ∈ c'.output.since c.output,
        a.value = .opened ∧ a.applied = false := by
  cases m with
  | opens _ applied => exact .inl ⟨rfl, Actuator.current_command_of_applied applied _⟩
  | failsToOpen ordered refused =>
      refine .inr ⟨?_, ?_⟩
      · cases ordered with
        | blocked engaged => simp [engaged, ContactorState.left]
        | again _ disengaging => simp [disengaging, ContactorState.left]
      · exact ⟨⟨.opened, c.output.next⟩, by simp, rfl, by simp [Attempt.applied, refused]⟩
  | staysEngaged _ early => rw [(early cause rfl).1] at safety; cases safety
  | staysOpen state =>
      have opened := current_of_open steady commanded (.inl state)
      exact .inl ⟨state, opened⟩
  | breaksHold state =>
      have opened := current_of_open steady commanded (.inr state)
      exact .inl ⟨rfl, opened⟩

/-- Blocked by a safety cause a contactor that is closed is commanded open. -/
theorem opens_of_blocked (m : c.Moves now (.step (some cause)) c') (safety : cause.isSafety = true)
    (closed : c.state = .engaged ∨ c.state = .disengaging) :
    ∃ a ∈ c'.output.since c.output, a.value = .opened := by
  cases m with
  | opens | failsToOpen => exact ⟨⟨.opened, c.output.next⟩, by simp, rfl⟩
  | staysEngaged _ early => rw [(early cause rfl).1] at safety; cases safety
  | staysOpen state | breaksHold state => simp [state] at closed

/-- Blocked by anything a contactor sends no command to close. -/
theorem not_closed_of_blocked (m : c.Moves now (.step (some cause)) c') :
    ∀ a ∈ c'.output.since c.output, a.value ≠ .closed := by
  cases m <;> simp

/-- A contactor stays engaged under a block only as long as it has not been closed for `minOn`. -/
theorem engaged_of_blocked (m : c.Moves now (.step (some cause)) c') (engaged : c'.state = .engaged)
    (steady : c'.Steady) {record : List Sent} (dated : c'.Dated record) :
    ∃ since, lastApplied .closed record = some since ∧ now < since + c'.settings.minOn := by
  cases m with
  | staysEngaged state early =>
      obtain ⟨since, closed⟩ := Option.isSome_iff_exists.1
        (dated.engaged (steady.closed_iff.2 (.inl engaged)))
      have short := (early cause rfl).2
      refine ⟨since, dated.closed.symm.trans closed, ?_⟩
      simp only [elapsed, closed, Option.all_some, decide_eq_false_iff_not] at short
      omega
  | failsToOpen => cases hs : c.state <;> simp [hs, ContactorState.left] at engaged
  | staysOpen state => rw [show _ = c.state from rfl, state] at engaged; cases engaged
  | opens | breaksHold => cases engaged

end Blocked

end Contactor

/-! ## 2. The cause a controller hands on -/

namespace Controller

theorem first?_isSome {faults : FaultSet} (h : faults.isEmpty = false) :
    ∃ k, faults.first? = some k := by
  unfold RankedMap.isEmpty at h
  unfold FaultSet.first? RankedMap.keys
  cases he : faults.entries with
  | nil => simp [he] at h
  | cons e es => exact ⟨e.1, rfl⟩

/-- An expired keep-alive and a fault give a safety cause. -/
theorem blockingCause_safety {c : Controller}
    (h : c.faults.isEmpty = false ∨ c.expired = true) :
    ∃ cause, c.blockingCause = some cause ∧ cause.isSafety = true := by
  unfold blockingCause
  cases he : c.expired with
  | true => exact ⟨_, rfl, rfl⟩
  | false =>
      obtain ⟨k, hk⟩ := first?_isSome (h.resolve_right (by simp [he]))
      rw [hk]
      exact ⟨_, rfl, rfl⟩

/-- What blocks gives a cause. -/
theorem blockingCause_isSome {c : Controller}
    (h : c.faults.isEmpty = false ∨ c.expired = true ∨ c.lockout = true) :
    ∃ cause, c.blockingCause = some cause := by
  by_cases safety : c.faults.isEmpty = false ∨ c.expired = true
  · obtain ⟨cause, e, -⟩ := blockingCause_safety safety
    exact ⟨cause, e⟩
  · have lockout : c.lockout = true := by
      rcases h with h | h | h
      · exact absurd (.inl h) safety
      · exact absurd (.inr h) safety
      · exact h
    simp only [blockingCause, lockout, if_true]
    split
    · exact ⟨_, rfl⟩
    · split <;> exact ⟨_, rfl⟩

/-! ## 3. The tick -/

variable {σ : Type} [SensorLink σ]

/-- A tick of an armed controller moves the contactor once, under the cause that blocks it. -/
theorem tickArmed_moves (c : Controller) (t : Moment) (fs : Files) :
    c.contactor.Moves t.now (.step (c.prepare t fs).blockingCause)
      (c.tickArmed t fs).2.contactor := by
  rw [tickArmed_contactor]
  exact Contactor.perform_moves _ _ _

/-- With a fault or an expired keep-alive the tick opens the contactor, or fails to. -/
theorem tickArmed_safe {c : Controller} (steady : c.contactor.Steady)
    (commanded : c.contactor.position.isSome = true) (t : Moment) (fs : Files)
    (threat : (c.prepare t fs).faults.isEmpty = false ∨ (c.prepare t fs).expired = true) :
    (c.tickArmed t fs).2.contactor.state = .disengaged ∧
        (c.tickArmed t fs).2.contactor.output.current = some .opened ∨
      (c.tickArmed t fs).2.contactor.state = .disengaging ∧
        ∃ a ∈ (c.tickArmed t fs).2.contactor.output.since c.contactor.output,
          a.value = .opened ∧ a.applied = false := by
  obtain ⟨cause, e, safety⟩ := blockingCause_safety threat
  have m := tickArmed_moves c t fs
  rw [e] at m
  exact Contactor.safe_of_blocked m safety steady commanded

/-- **Every tick fails safe.** After any run of a controller as it was built, whatever sensors,
    files and outputs do, a tick of the armed controller has an outcome. With a fault or an expired
    keep-alive the contactor is disengaged and its output was opened last, or an open command failed
    in this tick and the contactor is disengaging. Locked out with no such cause it is engaged only
    while less than `minOn` has passed since the output was closed last. Whatever blocks, no closed
    command is sent. -/
theorem tick_fails_safe {s : Settings} {relay : Actuator Position}
    {bank : Actuator (List CellIndex)} {wall : Nat} {stored : Files} {c : Controller}
    (built : build (some s) (some relay) (some bank) wall stored = .ok c)
    (deeds : List (Deed σ)) (armed : (c.after deeds).armed = true)
    (running : (c.after deeds).stopped = false) (t : Moment) (fs : Files) :
    ∃ outcome next, (c.after deeds).tick t fs = (.ok outcome, next) ∧
      (outcome.faults.isEmpty = false ∨ outcome.expired = true →
        next.contactor.state = .disengaged ∧ next.contactor.output.current = some .opened ∨
        next.contactor.state = .disengaging ∧
          ∃ a ∈ next.contactor.output.since (c.after deeds).contactor.output,
            a.value = .opened ∧ a.applied = false) ∧
      (outcome.faults.isEmpty = true → outcome.expired = false → next.lockout = true →
        next.contactor.state = .engaged →
          ∃ since, lastApplied .closed (c.commands (⟨t, .tick fs⟩ :: deeds)) = some since ∧
            t.now < since + s.contactor.minOn) ∧
      (outcome.faults.isEmpty = false ∨ outcome.expired = true ∨ next.lockout = true →
        ∀ a ∈ next.contactor.output.since (c.after deeds).contactor.output,
          a.value ≠ .closed) := by
  have before := sound_after built deeds
  have after := sound_after built (⟨t, .tick fs⟩ :: deeds)
  have result := tick_of_armed armed running t fs
  have next : (c.after (⟨t, .tick fs⟩ :: deeds)) = ((c.after deeds).tickArmed t fs).2 :=
    congrArg Prod.snd result
  have m := tickArmed_moves (c.after deeds) t fs
  rw [next] at after
  refine ⟨_, _, result, fun threat => ?_, fun clean fresh lockout engaged => ?_, fun blocked => ?_⟩
  · exact tickArmed_safe before.steady (before.ready armed) t fs threat
  · obtain ⟨cause, e⟩ := blockingCause_isSome (c := (c.after deeds).prepare t fs)
      (.inr (.inr lockout))
    rw [e] at m
    rw [← after.settings]
    exact Contactor.engaged_of_blocked m engaged after.steady after.dated
  · obtain ⟨cause, e⟩ := blockingCause_isSome (c := (c.after deeds).prepare t fs) blocked
    rw [e] at m
    exact Contactor.not_closed_of_blocked m

/-- Closed at 300 and locked out, the contactor is still engaged at 700. -/
theorem tick_waits_for_lockout :
    ∃ c outcome next since,
      build (some (plainSettings {})) (some {}) (some {}) 0 {} = .ok c ∧
      (c.after [⟨⟨700, 700⟩, .setLockout true⟩, ⟨⟨300, 300⟩, .tick {}⟩, ⟨⟨0, 0⟩, .tick {}⟩,
        ⟨⟨0, 0⟩, .pollOnce ({ counts := [(.packCurrent, 20)] } : SimulatedSensor)⟩]).tick
        ⟨700, 700⟩ {} = (.ok outcome, next) ∧
      next.contactor.state = .engaged ∧ outcome.faults.isEmpty = true ∧ next.lockout = true ∧
      since = 300 ∧ 700 < since + 500 := by
  have built := build_of_sound (s := plainSettings {}) (by decide) {} {} 0 {}
  obtain ⟨outcome, next, result, -, waits, -⟩ := tick_fails_safe built
    [⟨⟨700, 700⟩, .setLockout true⟩, ⟨⟨300, 300⟩, .tick {}⟩, ⟨⟨0, 0⟩, .tick {}⟩,
      ⟨⟨0, 0⟩, .pollOnce ({ counts := [(.packCurrent, 20)] } : SimulatedSensor)⟩]
    (by decide +kernel) (by decide +kernel) ⟨700, 700⟩ {}
  have answered : ((Except.ok outcome : Except Failure TickOutcome), next) = _ := result.symm
  have engaged : next.contactor.state = .engaged :=
    (congrArg (·.2.contactor.state) answered).trans (by decide +kernel)
  have lockout : next.lockout = true :=
    (congrArg (·.2.lockout) answered).trans (by decide +kernel)
  have clean : outcome.faults.isEmpty = true :=
    (congrArg (fun r => r.1.toOption.all (·.faults.isEmpty)) answered).trans (by decide +kernel)
  have fresh : outcome.expired = false :=
    (congrArg (fun r => r.1.toOption.any (·.expired)) answered).trans (by decide +kernel)
  obtain ⟨since, last, short⟩ := waits clean fresh lockout engaged
  have closed : some since = some 300 := last.symm.trans (by decide +kernel)
  exact ⟨_, outcome, next, since, built, result, engaged, clean, lockout, Option.some.inj closed,
    short⟩

end Controller

end PackGuard
