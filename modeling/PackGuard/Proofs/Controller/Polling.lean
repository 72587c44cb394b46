import PackGuard.Proofs.Controller.Shutdown

/-!
# What a shutdown says about polling

The first shutdown of a controller lets its scheduler go. Starting does not ask whether the
controller has been shut down: **a stopped controller that can still be armed starts polling anew,
and every later shutdown leaves it polling**, since it does nothing.

* `scheduler_of_stopped`: a call gives a stopped controller a scheduler only by starting, and takes
  none from it.
* `polls_after_shutdown_iff`: after a shutdown the workers poll exactly if a start has succeeded
  since an earlier shutdown.
* `polls_on`: a second shutdown that succeeds while the workers poll on.
-/

namespace PackGuard

namespace Controller

section Calls

variable {c : Controller} {t : Moment}

/-! ## 1. Starting and stopping -/

/-- Starting gives a scheduler exactly if it succeeds, and leaves the one there was otherwise. -/
theorem start_scheduler (c : Controller) (t : Moment) :
    (c.start t).1 = none ∧ (c.start t).2.scheduler.isSome = true ∨
      (c.start t).1 ≠ none ∧ (c.start t).2.scheduler = c.scheduler := by
  have same : (c.arm t).2.scheduler = c.scheduler := by
    rcases c.arm_cases t with ⟨-, e⟩ | ⟨fault, log, -, -, e⟩ | ⟨log, -, -, e⟩ <;> rw [e]
  unfold start
  split
  · exact .inr ⟨nofun, rfl⟩
  · generalize c.arm t = armed at same
    obtain ⟨_ | f, next⟩ := armed
    · exact .inl ⟨rfl, rfl⟩
    · exact .inr ⟨nofun, same⟩

/-- The first shutdown lets the scheduler go, also if its command is refused. -/
theorem scheduler_of_first_shutdown (running : c.stopped = false) :
    (c.shutdown t).2.scheduler = none := by
  simp [shutdown, running]

variable {σ : Type} [SensorLink σ]

theorem worked_scheduler (c : Controller) (now : Nat) (link : σ) :
    (c.worked now link).scheduler.isSome = c.scheduler.isSome := by
  unfold worked
  split
  · rfl
  · next scheduler running => rw [running]; rfl

/-- The call that stops a controller leaves it without a scheduler. -/
theorem scheduler_of_stop {d : Deed σ} (running : c.stopped = false)
    (stopped : (c.perform d).stopped = true) : (c.perform d).scheduler = none := by
  rw [perform_of_stop running stopped]
  exact scheduler_of_first_shutdown running

/-- **A call gives a stopped controller a scheduler only by starting**, and takes none from it. -/
theorem scheduler_of_stopped (stopped : c.stopped = true) (d : Deed σ) :
    (c.perform d).scheduler.isSome = true ↔
      c.scheduler.isSome = true ∨ d.call = .start ∧ (c.start d.moment).1 = none := by
  have kept : (c.shutdown d.moment).2 = c := congrArg (·.2) (shutdown_of_stopped stopped _)
  obtain ⟨t, call⟩ := d
  cases call with
  | start =>
      rcases c.start_scheduler t with ⟨ok, polls⟩ | ⟨failed, same⟩
      · simp [perform, ok, polls]
      · simp [perform, failed, same]
  | arm =>
      rcases c.arm_cases t with ⟨-, e⟩ | ⟨fault, log, -, -, e⟩ | ⟨log, -, -, e⟩ <;> simp [perform, e]
  | tick files => simp [perform, tick, stopped]
  | work link => simp [perform, worked_scheduler]
  | pollOnce link =>
      obtain ⟨pack, e⟩ := c.pollOnce_eq t.now link
      simp [perform, e]
  | shutdown => simp [perform, kept]
  | drop => simp [perform, drop, kept]
  | setLockout | renew | renewUntil | addWork | status =>
      simp [perform, setLockout, renew, renewUntil, addWork]

end Calls

/-! ## 2. Runs -/

section Runs

variable {σ : Type} [SensorLink σ] {s : Settings} {relay : Actuator Position}
  {bank : Actuator (List CellIndex)} {wall : Nat} {stored : Files} {c : Controller}

/-- **A stopped controller polls exactly if a start has succeeded since it was stopped.** -/
theorem polls_iff (running : c.stopped = false) {deeds : List (Deed σ)}
    (stopped : (c.after deeds).stopped = true) :
    (c.after deeds).scheduler.isSome = true ↔
      ∃ t earlier, ⟨t, .start⟩ :: earlier <:+ deeds ∧ (c.after earlier).stopped = true ∧
        ((c.after earlier).start t).1 = none := by
  induction deeds with
  | nil => rw [after, running] at stopped; cases stopped
  | cons d deeds ih =>
      simp only [List.suffix_cons_iff]
      cases before : (c.after deeds).stopped with
      | false =>
          rw [after, scheduler_of_stop before stopped]
          refine iff_of_false Bool.false_ne_true ?_
          rintro ⟨t, earlier, same | part, ended, -⟩
          · rw [(List.cons.inj same).2, before] at ended; cases ended
          · rw [stopped_of_suffix ((List.suffix_cons _ _).trans part) ended] at before
            cases before
      | true =>
          rw [after, scheduler_of_stopped before, ih before]
          constructor
          · rintro (⟨t, earlier, part, restarted⟩ | ⟨call, ok⟩)
            · exact ⟨t, earlier, .inr part, restarted⟩
            · obtain ⟨t, call⟩ := d
              subst call
              exact ⟨t, deeds, .inl rfl, before, ok⟩
          · rintro ⟨t, earlier, same | part, restarted⟩
            · obtain ⟨rfl, rfl⟩ := List.cons.inj same
              exact .inr ⟨rfl, restarted.2⟩
            · exact .inl ⟨t, earlier, part, restarted⟩

/-- **What a shutdown says about polling.** After any run of a controller as it was built, whichever
    commands are refused, a shutdown leaves the workers polling, fail or not, exactly if a start has
    succeeded when the controller had been stopped already. So the first shutdown always stops
    them. -/
theorem polls_after_shutdown_iff
    (built : build (some s) (some relay) (some bank) wall stored = .ok c)
    (deeds : List (Deed σ)) (t : Moment) :
    ((c.after deeds).shutdown t).2.scheduler.isSome = true ↔
      ∃ t' earlier, ⟨t', .start⟩ :: earlier <:+ deeds ∧ (c.after earlier).stopped = true ∧
        ((c.after earlier).start t').1 = none := by
  have running : c.stopped = false := by rw [build_eq built]; rfl
  have ended : (c.after (⟨t, .shutdown⟩ :: deeds)).stopped = true := shutdown_stopped _ t
  have known := polls_iff running ended
  simpa [List.suffix_cons_iff, after, perform] using known

end Runs

/-- Refused twice, in a first shutdown and in a start, the contactor is opened by a second start.
    After the shutdown at 40 the workers poll. -/
theorem polls_after_refused_start :
    ∃ c, build (some (plainSettings {}))
        (some { plan := fun k => if k < 2 then some (.device .linkDown) else none }) (some {}) 0 {} =
          .ok c ∧
      (c.shutdown ⟨10, 10⟩).1.isSome = true ∧
      ((c.after [⟨⟨20, 20⟩, .start⟩, (⟨⟨10, 10⟩, .shutdown⟩ : Deed SimulatedSensor)]).start
        ⟨30, 30⟩).1 = none ∧
      ((c.after [⟨⟨30, 30⟩, .start⟩, ⟨⟨20, 20⟩, .start⟩,
        (⟨⟨10, 10⟩, .shutdown⟩ : Deed SimulatedSensor)]).shutdown ⟨40, 40⟩).2.scheduler.isSome =
          true := by
  have built := build_of_sound (s := plainSettings {}) (by decide)
    { plan := fun k => if k < 2 then some (.device .linkDown) else none } {} 0 {}
  have known := polls_after_shutdown_iff built
    [⟨⟨30, 30⟩, .start⟩, ⟨⟨20, 20⟩, .start⟩, (⟨⟨10, 10⟩, .shutdown⟩ : Deed SimulatedSensor)] ⟨40, 40⟩
  refine ⟨_, built, by decide +kernel, by decide +kernel, known.2 ?_⟩
  exact ⟨⟨30, 30⟩, _, List.suffix_refl _, by decide +kernel, by decide +kernel⟩

/-- **A shutdown that succeeds while the workers poll on.** Started on a controller that has been
    shut down, they go on through the second shutdown: by 2500 they have made three more cycles of
    the pack's cadence. -/
theorem polls_on :
    ∃ c stopped, build (some (plainSettings {})) (some {}) (some {}) 0 {} = .ok c ∧
      (c.after [⟨⟨10, 10⟩, .start⟩, (⟨⟨0, 0⟩, .shutdown⟩ : Deed SimulatedSensor)]).shutdown ⟨20, 20⟩ =
        (none, stopped) ∧
      stopped.scheduler.isSome = true ∧ stopped.pack.cycles.pack = 0 ∧
      (stopped.worked 2500 ({ counts := [(.packCurrent, 20)] } : SimulatedSensor)).pack.cycles.pack =
        3 :=
  ⟨_, _, build_of_sound (s := plainSettings {}) (by decide) _ _ _ _, rfl, by decide +kernel,
    by decide +kernel, by decide +kernel⟩

end Controller

end PackGuard
