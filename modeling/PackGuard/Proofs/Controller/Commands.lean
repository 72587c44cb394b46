import PackGuard.Command.Session
import PackGuard.Proofs.Controller.Causes

/-!
# What a controller sends to its contactor over its life

The calls of a controller come in any order: it may be armed by name, by starting or by a tick,
arming may fail and be tried again, and any call may follow a shutdown. Over all of this

* `commands_in_order`: **the first command is to open, and none is to close before one to open was
  applied. Only a tick that steps the contactor closes it, never the first such tick, and none after
  a shutdown.** So a self-check, which ticks once, commands nothing but open.

`forces_of_not_steps` says what all other calls do: they force the contactor open, some number of
times. A contactor that was only forced open is disengaged, and from there no step closes.
-/

namespace PackGuard

open Actuator

/-! ## 1. The contactor -/

/-- What was sent is the one command that alone was sent. -/
theorem Actuator.SendsOnly.value_eq {α : Type} {v : α} {a b : Actuator α} (h : SendsOnly v a b) :
    ∀ x ∈ b.since a, x.value = v := by
  obtain ⟨sent, log, only⟩ := h
  rw [since_eq log]
  exact only

namespace Contactor

variable {c c' : Contactor} {now : Nat} {call : ContactorCall}

/-- A command to close comes at the end of a hold, and is all that is sent then. -/
theorem since_of_closed (m : c.Moves now call c')
    (closed : ∃ a ∈ c'.output.since c.output, a.value = .closed) :
    c.state = .reengageHold ∧ c'.output.since c.output = [⟨.closed, c.output.next⟩] := by
  obtain ⟨a, ha, closed⟩ := closed
  cases m with
  | closes holding | failsToClose holding => exact ⟨holding, since_command _ _⟩
  | opens | failsToOpen =>
      rw [since_command, List.mem_singleton] at ha
      rw [ha] at closed
      cases closed
  | staysEngaged | staysOpen | beginsHold | breaksHold | waits =>
      rw [since_self] at ha
      cases ha

theorem sendsOnly_of_not_holding (m : c.Moves now call c') (other : c.state ≠ .reengageHold) :
    SendsOnly .opened c.output c'.output := by
  refine ⟨_, moves_log m, fun a ha => ?_⟩
  cases value : a.value with
  | opened => rfl
  | closed => exact absurd (since_of_closed m ⟨a, ha, value⟩).1 other

/-- A contactor that was opened last keeps the time. -/
theorem moves_lastOpened (m : c.Moves now call c')
    (h : c.position = some .opened → c.lastOpened.isSome = true) :
    c'.position = some .opened → c'.lastOpened.isSome = true := by
  cases m with
  | opens => exact fun _ => rfl
  | closes => exact nofun
  | _ => exact h

/-- Forced open any number of times, the contactor is sent nothing else. -/
theorem sendsOnly_performAll (c : Contactor) (now : Nat) (causes : List Cause) :
    SendsOnly .opened c.output (c.performAll now (causes.map .forceOpen)).output := by
  induction causes generalizing c with
  | nil => exact .refl _ _
  | cons cause causes ih =>
      have first : SendsOnly .opened c.output (c.forceOpen now cause).contactor.output := by
        rw [forceOpen_output]
        exact .command _ _
      exact first.trans (ih _)

/-- A contactor that is disengaged stays so, however often it is forced open. -/
theorem performAll_disengaged (disengaged : c.state = .disengaged) (now : Nat)
    (causes : List Cause) : (c.performAll now (causes.map .forceOpen)).state = .disengaged := by
  induction causes generalizing c with
  | nil => exact disengaged
  | cons cause causes ih => exact ih (forceOpen_of_disengaged disengaged now cause)

end Contactor

namespace Controller

section Calls

variable {σ : Type} {c : Controller} {d : Deed σ}

/-! ## 2. Calls that step the contactor -/

/-- The call is a tick that gets as far as to step the contactor. -/
def Steps (c : Controller) (d : Deed σ) : Prop :=
  ∃ files outcome next, d.call = .tick files ∧ c.tick d.moment files = (.ok outcome, next)

/-- A stopped controller does not step its contactor. -/
theorem not_steps_of_stopped (stopped : c.stopped = true) : ¬ c.Steps d := by
  rintro ⟨files, outcome, next, -, e⟩
  simp [tick, stopped] at e

theorem forces_arm (c : Controller) (t : Moment) :
    ∃ causes : List Cause,
      (c.arm t).2.contactor = c.contactor.performAll t.now (causes.map .forceOpen) := by
  rcases c.arm_cases t with ⟨-, e⟩ | ⟨fault, log, -, -, e⟩ | ⟨log, -, -, e⟩
  · exact ⟨[], by rw [e]; rfl⟩
  · exact ⟨[_], by rw [e]; rfl⟩
  · exact ⟨[_], by rw [e]; rfl⟩

theorem forces_shutdown (c : Controller) (t : Moment) :
    ∃ causes : List Cause,
      (c.shutdown t).2.contactor = c.contactor.performAll t.now (causes.map .forceOpen) := by
  rcases c.shutdown_cases t with e | ⟨log, e⟩
  · exact ⟨[], by rw [e]; rfl⟩
  · exact ⟨[.shutdown], by rw [e]; rfl⟩

variable [SensorLink σ]

/-- **A call that does not step the contactor forces it open**, some number of times. -/
theorem forces_of_not_steps (other : ¬ c.Steps d) :
    ∃ causes : List Cause, (c.perform d).contactor =
      c.contactor.performAll d.moment.now (causes.map .forceOpen) := by
  obtain ⟨t, call⟩ := d
  cases call with
  | arm => exact c.forces_arm t
  | start =>
      rcases c.start_cases t with e | ⟨scheduler, e⟩
      · exact ⟨[], congrArg (·.contactor) e⟩
      · obtain ⟨causes, armed⟩ := c.forces_arm t
        exact ⟨causes, (congrArg (·.contactor) e).trans armed⟩
  | tick files =>
      rcases c.tick_cases t files with ⟨-, e⟩ | ⟨-, ⟨f, -, e⟩ | ⟨-, e⟩⟩
      · exact ⟨[], congrArg (·.2.contactor) e⟩
      · obtain ⟨causes, armed⟩ := c.forces_arm t
        exact ⟨causes, (congrArg (·.2.contactor) e).trans armed⟩
      · exact absurd ⟨files, _, _, rfl, e⟩ other
  | shutdown => exact c.forces_shutdown t
  | drop =>
      simp only [perform, drop]
      split
      · exact c.forces_shutdown t
      · exact ⟨[], rfl⟩
  | work link =>
      obtain ⟨pack, scheduler, e⟩ := c.worked_eq t.now link
      exact ⟨[], congrArg (·.contactor) e⟩
  | pollOnce link =>
      obtain ⟨pack, e⟩ := c.pollOnce_eq t.now link
      exact ⟨[], congrArg (·.contactor) e⟩
  | setLockout | renew | renewUntil | addWork | status => exact ⟨[], rfl⟩

theorem sendsOnly_of_not_steps (other : ¬ c.Steps d) :
    SendsOnly .opened c.contactor.output (c.perform d).contactor.output := by
  obtain ⟨causes, e⟩ := forces_of_not_steps other
  rw [e]
  exact c.contactor.sendsOnly_performAll _ causes

/-- From a disengaged contactor no call closes it, also not a tick that arms first. -/
theorem sendsOnly_of_disengaged (disengaged : c.contactor.state = .disengaged) (d : Deed σ) :
    SendsOnly .opened c.contactor.output (c.perform d).contactor.output := by
  by_cases steps : c.Steps d
  · obtain ⟨t, call⟩ := d
    obtain ⟨files, outcome, next, rfl, e⟩ := steps
    rcases c.tick_cases t files with ⟨-, e'⟩ | ⟨-, ⟨f, -, e'⟩ | ⟨-, e'⟩⟩
    · rw [e'] at e; cases e
    · rw [e'] at e; cases e
    · simp only [perform, e']
      have stepped : (c.arm t).2.contactor.state ≠ .reengageHold := by
        simp [arm_disengaged disengaged t]
      exact (c.sendsOnly_arm t).trans
        (Contactor.sendsOnly_of_not_holding (tickArmed_moves _ t files) stepped)
  · exact sendsOnly_of_not_steps steps

/-- **A call that sends a command to close steps a contactor in a hold, and sends nothing else.** -/
theorem steps_of_closed (idle : c.armed = false → c.contactor.state = .disengaged)
    (closed : ∃ a ∈ (c.perform d).contactor.output.since c.contactor.output, a.value = .closed) :
    c.Steps d ∧ c.armed = true ∧ c.contactor.state = .reengageHold ∧
      (c.perform d).contactor.output.since c.contactor.output =
        [⟨.closed, c.contactor.output.next⟩] := by
  have other : ¬ SendsOnly .opened c.contactor.output (c.perform d).contactor.output := by
    intro only
    obtain ⟨a, ha, closed⟩ := closed
    rw [only.value_eq a ha] at closed
    cases closed
  have steps : c.Steps d :=
    Classical.byContradiction fun idles => other (sendsOnly_of_not_steps idles)
  have armed : c.armed = true := by
    cases h : c.armed with
    | true => rfl
    | false => exact absurd (sendsOnly_of_disengaged (idle h) d) other
  have running : c.stopped = false :=
    Bool.eq_false_iff.2 fun stopped => not_steps_of_stopped stopped steps
  obtain ⟨t, call⟩ := d
  have ⟨files, _, _, ticks, _⟩ := steps
  obtain rfl : call = .tick files := ticks
  simp only [perform, tick_of_armed armed running] at closed ⊢
  exact ⟨steps, armed, Contactor.since_of_closed (tickArmed_moves c t files) closed⟩

end Calls

/-! ## 3. Runs -/

section Runs

variable {σ : Type} [SensorLink σ] {s : Settings} {relay : Actuator Position}
  {bank : Actuator (List CellIndex)} {wall : Nat} {stored : Files} {c : Controller}

/-- What every call of a contactor keeps, a run keeps. -/
theorem contactor_after_keeps {P : Contactor → Prop}
    (keeps : ∀ c c' now call, Contactor.Moves c now call c' → P c → P c') (h : P c.contactor)
    (deeds : List (Deed σ)) : P (c.after deeds).contactor := by
  induction deeds with
  | nil => exact h
  | cons d deeds ih =>
      obtain ⟨calls, e⟩ := perform_contactor (c.after deeds) d
      rw [after, e]
      exact Contactor.performAll_keeps (fun c c' call => keeps c c' d.moment.now call) calls ih

/-- **Until a tick has stepped it the contactor is disengaged.** -/
theorem exists_steps (built : build (some s) (some relay) (some bank) wall stored = .ok c)
    {deeds : List (Deed σ)} (moved : (c.after deeds).contactor.state ≠ .disengaged) :
    ∃ d earlier, d :: earlier <:+ deeds ∧ (c.after earlier).Steps d := by
  induction deeds with
  | nil =>
      rw [after, build_eq built] at moved
      exact absurd rfl moved
  | cons d deeds ih =>
      by_cases steps : (c.after deeds).Steps d
      · exact ⟨d, deeds, List.suffix_refl _, steps⟩
      · obtain ⟨causes, e⟩ := forces_of_not_steps steps
        have before : (c.after deeds).contactor.state ≠ .disengaged := by
          intro disengaged
          rw [after, e] at moved
          exact moved (Contactor.performAll_disengaged disengaged _ causes)
        obtain ⟨first, earlier, split, steps⟩ := ih before
        exact ⟨first, earlier, split.trans (List.suffix_cons _ _), steps⟩

/-- A controller is stopped once it was shut down. -/
theorem stopped_of_shutdown {deeds : List (Deed σ)} {d : Deed σ} (mem : d ∈ deeds)
    (ends : d.call = .shutdown) : (c.after deeds).stopped = true := by
  obtain ⟨later, earlier, rfl⟩ := List.append_of_mem mem
  obtain ⟨t, call⟩ := d
  subst ends
  have ended : (c.after (⟨t, .shutdown⟩ :: earlier)).stopped = true := shutdown_stopped _ t
  exact stopped_of_suffix ⟨later, rfl⟩ ended

/-- An armed contactor in a hold was opened before. -/
theorem exists_opened (built : build (some s) (some relay) (some bank) wall stored = .ok c)
    {deeds : List (Deed σ)} (armed : (c.after deeds).armed = true)
    (holding : (c.after deeds).contactor.state = .reengageHold) :
    ∃ x ∈ c.commands deeds, x.applies .opened = true := by
  have sound := sound_after built deeds
  have timed : (c.after deeds).contactor.position = some .opened →
      (c.after deeds).contactor.lastOpened.isSome = true := by
    refine contactor_after_keeps
      (P := fun k => k.position = some .opened → k.lastOpened.isSome = true)
      (fun _ _ _ _ m h => Contactor.moves_lastOpened m h) ?_ deeds
    rw [build_eq built]
    exact nofun
  obtain ⟨p, hp⟩ := Option.isSome_iff_exists.1 (sound.ready armed)
  cases p with
  | closed =>
      have engaged := sound.steady.closed_iff.1 hp
      rw [holding] at engaged
      simp at engaged
  | opened =>
      obtain ⟨since, last⟩ := Option.isSome_iff_exists.1 (timed hp)
      obtain ⟨x, hx, applies, -⟩ := exists_of_lastApplied (sound.dated.opened.symm.trans last)
      exact ⟨x, hx, applies⟩

/-- What ends at an entry of a list behind others is among these or ends in the list. -/
theorem mem_or_suffix {α : Type} {x : α} {earlier front rest : List α}
    (h : x :: earlier <:+ front ++ rest) : x ∈ front ∨ x :: earlier <:+ rest := by
  induction front with
  | nil => exact .inr h
  | cons y front ih =>
      rcases List.suffix_cons_iff.1 h with same | later
      · exact .inl (List.mem_cons.2 (.inl (List.cons.inj same).1))
      · exact (ih later).imp_left (List.mem_cons_of_mem _)

/-- **Every command to close comes after one to open that was applied.** -/
theorem opened_before_closed (built : build (some s) (some relay) (some bank) wall stored = .ok c)
    {deeds : List (Deed σ)} {x : Sent} {earlier : List Sent}
    (sent : x :: earlier <:+ c.commands deeds) (closed : x.attempt.value = .closed) :
    ∃ y ∈ earlier, y.applies .opened = true := by
  induction deeds with
  | nil => rw [commands, List.suffix_nil] at sent; cases sent
  | cons d deeds ih =>
      rcases mem_or_suffix sent with new | old
      · obtain ⟨a, ha, rfl⟩ := List.mem_map.1 new
        obtain ⟨-, armed, holding, alone⟩ :=
          steps_of_closed (logged_after built deeds).idle ⟨a, ha, closed⟩
        rw [commands, Contactor.sentSince, alone, List.map_singleton, List.singleton_append,
          List.suffix_cons_iff] at sent
        rcases sent with same | old
        · rw [(List.cons.inj same).2]
          exact exists_opened built armed holding
        · exact ih old
      · exact ih old

end Runs

/-! ## 4. A self-check -/

theorem sendsOnly_drop (c : Controller) (t : Moment) :
    SendsOnly .opened c.contactor.output (c.drop t).contactor.output := by
  unfold drop
  split
  · exact c.sendsOnly_shutdown t
  · exact .refl _ _

/-- **A self-check of a contactor that is disengaged commands nothing but open**, however it ends. -/
theorem sendsOnly_checkOnce {system : System SimulatedSensor}
    (disengaged : system.controller.contactor.state = .disengaged) :
    SendsOnly .opened system.controller.contactor.output
      (Surroundings.checkOnce system).2.controller.contactor.output := by
  have polled : system.pollOnce.2.controller.contactor = system.controller.contactor := by
    obtain ⟨pack, e⟩ := system.controller.pollOnce_eq system.clock.elapsed system.link
    exact congrArg (·.contactor) e
  unfold Surroundings.checkOnce
  rw [← polled] at disengaged ⊢
  generalize system.pollOnce = polling at disengaged ⊢
  obtain ⟨_ | _, s⟩ := polling
  · exact sendsOnly_drop s.controller _
  · have ticked : SendsOnly .opened s.controller.contactor.output
        s.tick.2.controller.contactor.output :=
      sendsOnly_of_disengaged disengaged ⟨s.moment, .tick (σ := SimulatedSensor) s.files⟩
    dsimp only
    generalize s.tick = ticking at ticked ⊢
    obtain ⟨_ | _, s⟩ := ticking
    · exact ticked.trans (sendsOnly_drop s.controller _)
    · have closed := ticked.trans (s.controller.sendsOnly_shutdown s.moment)
      dsimp only
      change SendsOnly .opened _ s.shutdown.2.controller.contactor.output at closed
      generalize s.shutdown = closing at closed ⊢
      obtain ⟨_ | _, s⟩ := closing
      · exact closed.trans (sendsOnly_drop s.controller _)
      · exact closed.trans (sendsOnly_drop s.controller _)

/-! ## 5. The log of commands -/

/-- **What a controller sends to its contactor over any run**, whichever of the commands are refused:
    * the first command is to open, and each to close comes after one to open that was applied;
    * a call that sends one to close is a tick that steps the contactor, after another tick that has
      stepped it and before any shutdown;
    * a self-check sends none to close, whatever its sensor delivers and its files hold. -/
theorem commands_in_order {σ : Type} [SensorLink σ] {s : Settings} {relay : Actuator Position}
    {bank : Actuator (List CellIndex)} {wall : Nat} {stored : Files} {c : Controller}
    (built : build (some s) (some relay) (some bank) wall stored = .ok c)
    (deeds : List (Deed σ)) :
    (∀ first, (c.commands deeds).getLast? = some first → first.attempt.value = .opened) ∧
    (∀ x earlier, x :: earlier <:+ c.commands deeds → x.attempt.value = .closed →
      ∃ y ∈ earlier, y.applies .opened = true) ∧
    (∀ d earlier, d :: earlier <:+ deeds →
      (∃ a ∈ (c.after (d :: earlier)).contactor.output.since (c.after earlier).contactor.output,
        a.value = .closed) →
      (c.after earlier).Steps d ∧
        (∃ first before, first :: before <:+ earlier ∧ (c.after before).Steps first) ∧
        ∀ x ∈ earlier, x.call ≠ .shutdown) ∧
    ∀ system : System SimulatedSensor, system.controller = c →
      ∀ a ∈ (Surroundings.checkOnce system).2.controller.contactor.output.since relay,
        a.value = .opened := by
  refine ⟨fun first last => ?_, fun x earlier sent closed => opened_before_closed built sent closed,
    fun d earlier split closed => ?_, fun system fresh => ?_⟩
  · cases value : first.attempt.value with
    | opened => rfl
    | closed =>
        obtain ⟨front, split⟩ := List.getLast?_eq_some_iff.1 last
        obtain ⟨y, hy, -⟩ := opened_before_closed built ⟨front, split.symm⟩ value
        cases hy
  · obtain ⟨steps, -, holding, -⟩ := steps_of_closed (logged_after built earlier).idle closed
    refine ⟨steps, exists_steps built (by rw [holding]; exact nofun), fun x hx ends => ?_⟩
    exact not_steps_of_stopped (stopped_of_shutdown hx ends) steps
  · subst fresh
    have new := build_eq built
    have unmoved : system.controller.contactor.state = .disengaged := by rw [new]; rfl
    have only := sendsOnly_checkOnce unmoved
    rw [show system.controller.contactor.output = relay by rw [new]; rfl] at only
    exact only.value_eq

/-- The settings of a contactor that waits for nothing. -/
def promptSettings : Settings :=
  { plainSettings {} with contactor := { hold := 0, firstHold := 0 } }

/-- Refused by a first tick that arms, the contactor is opened by the second tick and closed by the
    third, all at one time. A tick before the third has stepped it. -/
theorem closes_after_failed_arming :
    ∃ c earlier,
      build (some promptSettings)
        (some { plan := fun k => if k = 0 then some (.device .linkDown) else none }) (some {}) 0 {} =
          .ok c ∧
      earlier = [⟨⟨0, 0⟩, .tick {}⟩, ⟨⟨0, 0⟩, .tick {}⟩,
        (⟨⟨0, 0⟩, .pollOnce { counts := [(.packCurrent, 20)] }⟩ : Deed SimulatedSensor)] ∧
      (c.after (⟨⟨0, 0⟩, .tick {}⟩ :: earlier)).contactor.output.applied = [.opened, .closed] ∧
      ∃ first before, first :: before <:+ earlier ∧ (c.after before).Steps first := by
  have built := build_of_sound (s := promptSettings) (by decide)
    { plan := fun k => if k = 0 then some (.device .linkDown) else none } {} 0 {}
  have known := commands_in_order built
    [⟨⟨0, 0⟩, .tick {}⟩, ⟨⟨0, 0⟩, .tick {}⟩, ⟨⟨0, 0⟩, .tick {}⟩,
      (⟨⟨0, 0⟩, .pollOnce { counts := [(.packCurrent, 20)] }⟩ : Deed SimulatedSensor)]
  have closes := known.2.2.1 ⟨⟨0, 0⟩, .tick {}⟩ [⟨⟨0, 0⟩, .tick {}⟩, ⟨⟨0, 0⟩, .tick {}⟩,
    ⟨⟨0, 0⟩, .pollOnce { counts := [(.packCurrent, 20)] }⟩] (List.suffix_refl _) (by decide +kernel)
  exact ⟨_, _, built, rfl, by decide +kernel, closes.2.1⟩

end Controller

end PackGuard
