import PackGuard.Proofs.Controller.Runs

/-!
# What a shutdown says about the contactor

The first shutdown of a controller commands the contactor open and fails if the command is refused.
The controller is stopped from then on, also if it failed, and **every later shutdown succeeds
without sending anything**.

* `sendsOnly_perform`: a call that leaves a controller stopped sends nothing but commands to open.
* `after_stop_keeps`: what every call keeps of a stopped controller holds from the stop on.
* `open_after_shutdown_iff`: after a shutdown that succeeds the contactor is open exactly if it was
  open already when the controller was stopped, or a command to open has been applied since.
* `succeeds_while_closed`: a second shutdown that succeeds while the contactor is closed.
-/

namespace PackGuard

/-! ## 1. Outputs to which one command alone is sent -/

namespace Actuator

variable {α : Type}

/-- Nothing but one command was sent from the one output to the other. -/
def SendsOnly (v : α) (before after : Actuator α) : Prop :=
  ∃ sent, after.log = sent ++ before.log ∧ ∀ a ∈ sent, a.value = v

namespace SendsOnly

variable {v : α} {a b c : Actuator α}

theorem refl (v : α) (a : Actuator α) : SendsOnly v a a := ⟨[], rfl, by simp⟩

theorem trans (first : SendsOnly v a b) (second : SendsOnly v b c) : SendsOnly v a c := by
  obtain ⟨early, hb, onlyEarly⟩ := first
  obtain ⟨late, hc, onlyLate⟩ := second
  refine ⟨late ++ early, by rw [hc, hb, List.append_assoc], fun x hx => ?_⟩
  exact (List.mem_append.1 hx).elim (onlyLate x) (onlyEarly x)

theorem command (a : Actuator α) (v : α) : SendsOnly v a (a.command v).2 :=
  ⟨[⟨v, a.next⟩], rfl, by simp⟩

/-- Where the command stands that alone was sent: there already, or brought by one that was
    applied. -/
theorem current_iff (h : SendsOnly v a b) :
    b.current = some v ↔ a.current = some v ∨ ∃ x ∈ b.since a, x.applied = true := by
  obtain ⟨sent, log, only⟩ := h
  rw [since_eq log, current, log, List.find?_append]
  cases found : sent.find? (·.applied) with
  | none =>
      have refused : ¬ ∃ x ∈ sent, x.applied = true := by
        simpa using List.find?_eq_none.1 found
      simp [refused, current]
  | some x =>
      have mem := List.mem_of_find?_eq_some found
      have applied := List.find?_some found
      simp only [Option.some_or, Option.map_some, only x mem, true_iff]
      exact .inr ⟨x, mem, applied⟩

end SendsOnly

end Actuator

namespace Contactor

theorem forceOpen_output (c : Contactor) (now : Nat) (cause : Cause) :
    (c.forceOpen now cause).contactor.output = (c.output.command .opened).2 := by
  cases next : c.output.next with
  | some fault => rw [forceOpen_of_refused now cause next]
  | none => rw [forceOpen_of_applied now cause next]

end Contactor

namespace Controller

open Actuator

variable {σ : Type} [SensorLink σ]

/-! ## 2. Stopped controllers -/

theorem tickArmed_stopped (c : Controller) (t : Moment) (fs : Files) :
    (c.tickArmed t fs).2.stopped = c.stopped := (prepared_prepare c t fs).stopped

theorem shutdown_stopped (c : Controller) (t : Moment) : (c.shutdown t).2.stopped = true := by
  unfold shutdown
  split
  · next stopped => exact stopped
  · rfl

/-- A second shutdown does nothing. -/
theorem shutdown_of_stopped {c : Controller} (stopped : c.stopped = true) (t : Moment) :
    c.shutdown t = (none, c) := by
  simp [shutdown, stopped]

/-- No call stops a controller but a shutdown. -/
theorem stopped_cases (c : Controller) (d : Deed σ) :
    (c.perform d).stopped = c.stopped ∨ c.perform d = (c.shutdown d.moment).2 := by
  obtain ⟨t, call⟩ := d
  cases call with
  | shutdown => exact .inr rfl
  | drop =>
      simp only [perform, drop]
      split
      · exact .inr rfl
      · exact .inl rfl
  | arm => exact .inl (c.arm_stopped t)
  | start =>
      rcases c.start_cases t with e | ⟨scheduler, e⟩
      · exact .inl (congrArg (·.stopped) e)
      · exact .inl ((congrArg (·.stopped) e).trans (c.arm_stopped t))
  | tick files =>
      rcases c.tick_cases t files with ⟨-, e⟩ | ⟨-, ⟨f, -, e⟩ | ⟨-, e⟩⟩
      · exact .inl (congrArg (·.2.stopped) e)
      · exact .inl ((congrArg (·.2.stopped) e).trans (c.arm_stopped t))
      · exact .inl ((congrArg (·.2.stopped) e).trans
          (((c.arm t).2.tickArmed_stopped t files).trans (c.arm_stopped t)))
  | work link =>
      obtain ⟨pack, scheduler, e⟩ := c.worked_eq t.now link
      exact .inl (congrArg (·.stopped) e)
  | pollOnce link =>
      obtain ⟨pack, e⟩ := c.pollOnce_eq t.now link
      exact .inl (congrArg (·.stopped) e)
  | setLockout | renew | renewUntil | addWork | status => exact .inl rfl

/-- The call that stops a controller is a shutdown. -/
theorem perform_of_stop {c : Controller} {d : Deed σ} (running : c.stopped = false)
    (stopped : (c.perform d).stopped = true) : c.perform d = (c.shutdown d.moment).2 := by
  rcases c.stopped_cases d with same | ends
  · rw [same, running] at stopped; cases stopped
  · exact ends

/-- **A stopped controller stays stopped.** -/
theorem perform_stopped {c : Controller} (h : c.stopped = true) (d : Deed σ) :
    (c.perform d).stopped = true := by
  refine perform_cases (P := fun next => next.stopped = true) h ?_ ?_ ?_ ?_
  · exact (c.arm_stopped d.moment).trans h
  · intro fs _ running
    rw [h] at running
    cases running
  · exact c.shutdown_stopped d.moment
  · intro next _ _ _ _ _ stopped
    exact stopped

theorem sendsOnly_arm (c : Controller) (t : Moment) :
    SendsOnly .opened c.contactor.output (c.arm t).2.contactor.output := by
  have forced : ∀ cause, SendsOnly .opened c.contactor.output
      (c.contactor.forceOpen t.now cause).contactor.output := by
    intro cause
    rw [Contactor.forceOpen_output]
    exact .command _ _
  rcases c.arm_cases t with ⟨-, e⟩ | ⟨fault, log, -, -, e⟩ | ⟨log, -, -, e⟩
  · rw [e]; exact .refl _ _
  · rw [e]; exact forced _
  · rw [e]; exact forced _

theorem sendsOnly_shutdown (c : Controller) (t : Moment) :
    SendsOnly .opened c.contactor.output (c.shutdown t).2.contactor.output := by
  rcases c.shutdown_cases t with e | ⟨log, e⟩
  · rw [e]; exact .refl _ _
  · rw [e]
    show SendsOnly .opened _ (c.contactor.forceOpen t.now .shutdown).contactor.output
    rw [Contactor.forceOpen_output]
    exact .command _ _

/-- **A call that leaves a controller stopped commands nothing but open.** A tick does not stop. -/
theorem sendsOnly_perform {c : Controller} {d : Deed σ} (stopped : (c.perform d).stopped = true) :
    SendsOnly .opened c.contactor.output (c.perform d).contactor.output := by
  refine perform_cases (d := d) (P := fun next => next.stopped = true →
    SendsOnly .opened c.contactor.output next.contactor.output) ?_ ?_ ?_ ?_ ?_ stopped
  · exact fun _ => .refl _ _
  · exact fun _ => sendsOnly_arm c d.moment
  · intro fs _ running ticked
    rw [tickArmed_stopped, arm_stopped, running] at ticked
    cases ticked
  · exact fun _ => sendsOnly_shutdown c d.moment
  · intro next _ _ _ _ _ before
    exact before

/-! ## 3. Runs -/

/-- **What every call keeps of a stopped controller holds from the stop on.** -/
theorem after_stop_keeps {P : Controller → Prop} {c : Controller} {earlier : List (Deed σ)}
    (stopped : (c.after earlier).stopped = true) (h : P (c.after earlier))
    (keeps : ∀ k (d : Deed σ), k.stopped = true → P k → P (k.perform d))
    (later : List (Deed σ)) :
    (c.after (later ++ earlier)).stopped = true ∧ P (c.after (later ++ earlier)) := by
  induction later with
  | nil => exact ⟨stopped, h⟩
  | cons d later ih => exact ⟨perform_stopped ih.1 d, keeps _ d ih.1 ih.2⟩

/-- A controller that was stopped during a run is stopped after it. -/
theorem stopped_of_suffix {c : Controller} {earlier deeds : List (Deed σ)} (part : earlier <:+ deeds)
    (stopped : (c.after earlier).stopped = true) : (c.after deeds).stopped = true := by
  obtain ⟨later, rfl⟩ := part
  exact (after_stop_keeps (P := fun _ => True) stopped trivial (fun _ _ _ _ => trivial) later).1

/-- From a call that leaves the controller stopped, nothing but open is commanded. -/
theorem sendsOnly_after {c : Controller} {d : Deed σ} {earlier : List (Deed σ)}
    (stopped : (c.after (d :: earlier)).stopped = true) (later : List (Deed σ)) :
    (c.after (later ++ d :: earlier)).stopped = true ∧
      SendsOnly .opened (c.after earlier).contactor.output
        (c.after (later ++ d :: earlier)).contactor.output := by
  refine after_stop_keeps
    (P := fun k => SendsOnly .opened (c.after earlier).contactor.output k.contactor.output)
    stopped (sendsOnly_perform stopped) (fun k x still only => ?_) later
  exact only.trans (sendsOnly_perform (perform_stopped still x))

/-- A controller that is stopped at the end of a run was stopped by one of its calls. -/
theorem exists_stop {c : Controller} (running : c.stopped = false) {deeds : List (Deed σ)}
    (stopped : (c.after deeds).stopped = true) :
    ∃ later d earlier, deeds = later ++ d :: earlier ∧ (c.after earlier).stopped = false ∧
      (c.after (d :: earlier)).stopped = true := by
  induction deeds with
  | nil => rw [after, running] at stopped; cases stopped
  | cons d deeds ih =>
      cases before : (c.after deeds).stopped with
      | false => exact ⟨[], d, deeds, rfl, before, stopped⟩
      | true =>
          obtain ⟨later, x, earlier, rfl, first, behind⟩ := ih before
          exact ⟨d :: later, x, earlier, rfl, first, behind⟩

/-- A shutdown fails exactly if it is the first and its command is refused. -/
theorem shutdown_eq_none_iff (c : Controller) (t : Moment) :
    (c.shutdown t).1 = none ↔ c.stopped = true ∨ c.contactor.output.next = none := by
  cases stopped : c.stopped with
  | true => simp [shutdown, stopped]
  | false => simp [shutdown, stopped, Contactor.forceOpen_failure]

/-- A first shutdown that succeeds opens the contactor. -/
theorem open_of_first_shutdown {c : Controller} (running : c.stopped = false) {t : Moment}
    (ok : (c.shutdown t).1 = none) :
    (c.shutdown t).2.contactor.output.current = some .opened := by
  have applied : c.contactor.output.next = none :=
    ((shutdown_eq_none_iff c t).1 ok).resolve_left (by simp [running])
  simp only [shutdown, running, Bool.false_eq_true, if_false, publish, take]
  rw [Contactor.forceOpen_output]
  exact current_command_of_applied applied _

/-- **What a shutdown that succeeds says about the contactor.** After any run of a controller as it
    was built, whichever commands are refused, a shutdown succeeds exactly if the controller has been
    stopped before or its command to open is applied. The output was then opened last exactly if it
    had been when the controller was first stopped, or a command to open has been applied since. -/
theorem open_after_shutdown_iff {s : Settings} {relay : Actuator Position}
    {bank : Actuator (List CellIndex)} {wall : Nat} {fs : Files} {c : Controller}
    (built : build (some s) (some relay) (some bank) wall fs = .ok c) (deeds : List (Deed σ))
    (t : Moment) :
    (((c.after deeds).shutdown t).1 = none ↔
      (c.after deeds).stopped = true ∨ (c.after deeds).contactor.output.next = none) ∧
    (((c.after deeds).shutdown t).1 = none →
      (((c.after deeds).shutdown t).2.contactor.output.current = some .opened ↔
        ∀ later d earlier, deeds = later ++ d :: earlier → (c.after earlier).stopped = false →
          (c.after (d :: earlier)).stopped = true →
          (c.after earlier).contactor.output.current = some .opened ∨
            ∃ a ∈ (c.after deeds).contactor.output.since (c.after earlier).contactor.output,
              a.applied = true)) := by
  have running : c.stopped = false := by rw [build_eq built]; rfl
  refine ⟨shutdown_eq_none_iff _ t, fun ok => ?_⟩
  cases stopped : (c.after deeds).stopped with
  | false =>
      refine iff_of_true (open_of_first_shutdown stopped ok) fun later d earlier split _ now => ?_
      subst split
      rw [(sendsOnly_after now later).1] at stopped
      cases stopped
  | true =>
      have same : ((c.after deeds).shutdown t).2 = c.after deeds := by simp [shutdown, stopped]
      rw [same]
      constructor
      · rintro opened later d earlier rfl _ now
        exact (sendsOnly_after now later).2.current_iff.1 opened
      · intro opens
        obtain ⟨later, d, earlier, rfl, before, now⟩ := exists_stop running stopped
        exact (sendsOnly_after now later).2.current_iff.2 (opens later d earlier rfl before now)

/-- Refused in a first shutdown, opened by arming, the contactor is open after a second shutdown. -/
theorem open_after_late_arming :
    ∃ c, build (some (plainSettings {}))
        (some { plan := fun k => if k = 0 then some (.device .linkDown) else none }) (some {}) 0 {} =
          .ok c ∧
      (c.shutdown ⟨0, 0⟩).1.isSome = true ∧
      ((c.after [⟨⟨10, 10⟩, .arm⟩, (⟨⟨0, 0⟩, .shutdown⟩ : Deed SimulatedSensor)]).shutdown
        ⟨20, 20⟩).1 = none ∧
      ∃ a ∈ (c.after [⟨⟨10, 10⟩, .arm⟩,
          (⟨⟨0, 0⟩, .shutdown⟩ : Deed SimulatedSensor)]).contactor.output.since c.contactor.output,
        a.applied = true := by
  have built := build_of_sound (s := plainSettings {}) (by decide)
    { plan := fun k => if k = 0 then some (.device .linkDown) else none } {} 0 {}
  have known := open_after_shutdown_iff built
    [⟨⟨10, 10⟩, .arm⟩, (⟨⟨0, 0⟩, .shutdown⟩ : Deed SimulatedSensor)] ⟨20, 20⟩
  have ok := known.1.2 (.inl (by decide +kernel))
  have opened := (known.2 ok).1 (by decide +kernel) [⟨⟨10, 10⟩, .arm⟩] ⟨⟨0, 0⟩, .shutdown⟩ [] rfl
    rfl (by decide +kernel)
  exact ⟨_, built, by decide +kernel, ok, opened.resolve_left (by decide +kernel)⟩

/-- **A shutdown that succeeds while the contactor is closed.** Opened at 0 and closed at 300, the
    contactor refuses the command of a first shutdown. The second shutdown succeeds, and the output
    was closed last. -/
theorem succeeds_while_closed :
    ∃ c, build (some (plainSettings {}))
        (some { plan := fun k => if k = 2 then some (.device .linkDown) else none }) (some {}) 0 {} =
          .ok c ∧
      ((c.after [(⟨⟨400, 400⟩, .shutdown⟩ : Deed SimulatedSensor), ⟨⟨300, 300⟩, .tick {}⟩,
          ⟨⟨0, 0⟩, .tick {}⟩,
          ⟨⟨0, 0⟩, .pollOnce ({ counts := [(.packCurrent, 20)] } : SimulatedSensor)⟩]).shutdown
        ⟨500, 500⟩).1 = none ∧
      ((c.after [(⟨⟨400, 400⟩, .shutdown⟩ : Deed SimulatedSensor), ⟨⟨300, 300⟩, .tick {}⟩,
          ⟨⟨0, 0⟩, .tick {}⟩,
          ⟨⟨0, 0⟩, .pollOnce ({ counts := [(.packCurrent, 20)] } : SimulatedSensor)⟩]).shutdown
        ⟨500, 500⟩).2.contactor.output.current = some .closed :=
  ⟨_, build_of_sound (s := plainSettings {}) (by decide) _ _ _ _, by decide +kernel,
    by decide +kernel⟩

end Controller

end PackGuard
