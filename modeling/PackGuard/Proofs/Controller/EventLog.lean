import PackGuard.Proofs.Contactor.Transitions
import PackGuard.Proofs.Controller.Runs
import PackGuard.Proofs.Engine.Current
import PackGuard.Proofs.Events.Replay
import PackGuard.Proofs.Settings.Sound

/-!
# The event log tells the state

Who replays the events of a controller from the start knows its faults, its advisories, the state of
its contactor and the cells that bleed, and the allowed current but for what is not worth an event.

* `Tells`: what was published between two controllers leads from what is known of the one to what is
  known of the other. Every part of a tick tells, and so do arming and the shutdown.
* `limit_publishLimit`: the allowed current that was published last stands for the present one.
* `replay_of_run`: **after every call of every run the replayed events give the state.**
-/

namespace PackGuard

namespace Controller

/-! ## 1. What is to be known -/

/-- What the events of a controller should tell of it. -/
def replica (c : Controller) : Replica where
  faults := c.faults.contains
  advisories := c.advisories.contains
  contactor := c.contactor.state
  balancing := c.balancing
  limit := c.publishedLimit

/-- **What was published from one controller to the next tells how they differ.** -/
def Tells (c next : Controller) : Prop :=
  ∃ es, next.log = es.reverse ++ c.log ∧ c.replica.replay es = some next.replica

namespace Tells

variable {a b c : Controller}

/-- Nothing needs to be told where nothing changes. -/
theorem of_same (log : b.log = a.log) (same : b.replica = a.replica) : Tells a b :=
  ⟨[], by simpa using log, by rw [same]; rfl⟩

theorem refl (a : Controller) : Tells a a := of_same rfl rfl

theorem trans (first : Tells a b) (second : Tells b c) : Tells a c := by
  obtain ⟨es, logb, toldb⟩ := first
  obtain ⟨fs, logc, toldc⟩ := second
  refine ⟨es ++ fs, by rw [logc, logb, List.reverse_append, List.append_assoc], ?_⟩
  rw [Replica.replay_append, toldb, Option.bind_some, toldc]

/-- Who knew the one controller from all its events knows the next. -/
theorem replayed (h : Tells a b) (known : Replica.replay {} a.log.reverse = some a.replica) :
    Replica.replay {} b.log.reverse = some b.replica := by
  obtain ⟨es, log, told⟩ := h
  rw [log, List.reverse_append, List.reverse_reverse, Replica.replay_append, known,
    Option.bind_some, told]

end Tells

/-! ## 2. The parts of a tick -/

theorem replay_faultEvents (wall : Nat) {before : FaultSet} (after : FaultSet) {r : Replica}
    (h : r.faults = before.contains) :
    r.replay (faultEvents wall before after) = some { r with faults := after.contains } := by
  have same : (faultEvents wall before after).map Event.fault? =
      (((after.since before).map fun e => (e.1, true)) ++
        (before.since after).map fun e => (e.1, false)).map some := by
    simp [faultEvents, Event.fault?, Function.comp_def]
  rw [Replica.replay_faults same, h, RankedMap.marks_since]
  rfl

theorem replay_advisoryEvents (wall : Nat) {before : AdvisorySet} (after : AdvisorySet) {r : Replica}
    (h : r.advisories = before.contains) :
    r.replay (advisoryEvents wall before after) = some { r with advisories := after.contains } := by
  have same : (advisoryEvents wall before after).map Event.advisory? =
      (((after.since before).map fun e => (e.1, true)) ++
        (before.since after).map fun e => (e.1, false)).map some := by
    simp [advisoryEvents, Event.advisory?, Function.comp_def]
  rw [Replica.replay_advisories same, h, RankedMap.marks_since]
  rfl

theorem replay_transitionEvents (wall : Nat) {ts : List Transition} {target : ContactorState}
    {r : Replica} (h : Leads r.contactor ts target) :
    r.replay (transitionEvents wall ts) = some { r with contactor := target } := by
  induction ts generalizing r with
  | nil => cases h; rfl
  | cons t ts ih =>
      obtain ⟨source, rest⟩ := h
      rw [transitionEvents, List.map_cons, Replica.replay_cons]
      simp only [Replica.hear?, source, if_true, Option.bind_some]
      exact ih rest

/-- Publishing the allowed current changes what was published last, and tells it. -/
theorem publishLimit_tells (c : Controller) (wall : Nat) (limit : Float32) :
    ∃ published es, c.publishLimit wall limit =
        { c with publishedLimit := published, log := es.reverse ++ c.log } ∧
      ∀ r : Replica, r.limit = c.publishedLimit →
        r.replay es = some { r with limit := published } := by
  unfold publishLimit
  split
  · exact ⟨_, [_], rfl, fun r _ => rfl⟩
  · exact ⟨c.publishedLimit, [], rfl, fun r same => by rw [← same]; rfl⟩

theorem tells_updateKeepAlive (c : Controller) (t : Moment) (fs : Files) :
    Tells c (c.updateKeepAlive t fs) := by
  refine ⟨_, rfl, ?_⟩
  split
  · rfl
  · split <;> rfl

theorem tells_assess (c : Controller) (t : Moment) (snap : Snapshot) :
    Tells c (c.assess t snap) := by
  obtain ⟨published, es, e, told⟩ := publishLimit_tells
    (publish { c with engine := (c.engine.evaluate snap).2 }
      (faultEvents t.wall c.faults (c.engine.evaluate snap).1.faults ++
        advisoryEvents t.wall c.advisories (c.engine.evaluate snap).1.advisories))
    t.wall (c.engine.evaluate snap).1.limit
  refine ⟨faultEvents t.wall c.faults (c.engine.evaluate snap).1.faults ++
    advisoryEvents t.wall c.advisories (c.engine.evaluate snap).1.advisories ++ es, ?_, ?_⟩
  · unfold assess
    dsimp only
    rw [e]
    simp [publish]
  · rw [Replica.replay_append, Replica.replay_append, replay_faultEvents t.wall _ rfl,
      Option.bind_some, replay_advisoryEvents t.wall _ rfl, Option.bind_some, told _ rfl]
    unfold assess
    dsimp only
    rw [e]
    rfl

/-- A change of the cells that bleed is told, and so is nothing else. -/
theorem tells_commandBank (c : Controller) (t : Moment) (selected : List CellIndex) :
    Tells c (c.commandBank t selected) := by
  unfold commandBank
  dsimp only
  split
  · exact .of_same rfl rfl
  · refine ⟨_, rfl, ?_⟩
    by_cases changed : selected = c.balancing
    · subst changed
      simp [Replica.replay, replica, publish]
    · simp [Replica.replay, Replica.hear?, replica, publish, changed]

theorem tells_updateBalance (c : Controller) (t : Moment) (snap : Snapshot) :
    Tells c (c.updateBalance t snap) := by
  unfold updateBalance
  dsimp only
  split
  · have commanded := c.tells_commandBank t
      (Balance.select c.settings.balance (candidates c.settings.pack c.faults snap))
    split
    · exact commanded
    · exact commanded.trans (.of_same rfl rfl)
  · exact .of_same rfl rfl

theorem tells_rebalance (c : Controller) (t : Moment) (snap : Snapshot) (before : FaultSet) :
    Tells c (c.rebalance t snap before) := by
  unfold rebalance
  dsimp only
  split
  · exact (Tells.of_same rfl rfl).trans (tells_updateBalance _ t snap)
  · exact .refl c

theorem tells_stepContactor (c : Controller) (t : Moment) : Tells c (c.stepContactor t).2 :=
  ⟨_, rfl, replay_transitionEvents t.wall (c.contactor.leads_step t.now c.blockingCause)⟩

theorem tells_tickArmed (c : Controller) (t : Moment) (fs : Files) :
    Tells c (c.tickArmed t fs).2 :=
  (((c.tells_updateKeepAlive t fs).trans (tells_assess _ t _)).trans
    (tells_rebalance _ t _ _)).trans (tells_stepContactor _ t)

/-! ## 3. Arming and the shutdown -/

/-- Arming tells what it does to a contactor that was not commanded yet. If it fails it publishes no
    transitions, and there are none. -/
theorem tells_arm {c : Controller} (idle : c.armed = false → c.contactor.state = .disengaged)
    (t : Moment) : Tells c (c.arm t).2 := by
  cases armed : c.armed with
  | true => rw [arm_of_armed armed]; exact .refl c
  | false =>
      have announced : Tells c (publish { c with expired := c.keepAlive.expired t.wall }
          (if c.keepAlive.expired t.wall = true then [expiredEvent t.wall] else [])) := by
        refine ⟨_, rfl, ?_⟩
        split <;> rfl
      cases next : c.contactor.output.next with
      | some fault =>
          refine announced.trans (.of_same ?_ ?_)
          · unfold arm
            simp only [armed, Bool.false_eq_true, if_false, publish, take,
              Contactor.forceOpen_failure, next, Option.map_some]
          · obtain ⟨log, e⟩ := arm_of_refused armed t next
            rw [e]
            simp only [replica, publish, armingCall, Contactor.perform, idle armed,
              Contactor.forceOpen_of_disengaged (idle armed)]
      | none =>
          obtain ⟨cause, named⟩ : ∃ cause, cause = if c.keepAlive.expired t.wall = true then
            Cause.keepAliveExpired else .startup := ⟨_, rfl⟩
          refine announced.trans
            ⟨transitionEvents t.wall (c.contactor.forceOpen t.now cause).transitions ++
              [{ entity := .relay, kind := .relayForcedOpen cause, time := t.wall }], ?_, ?_⟩
          · unfold arm
            simp only [armed, Bool.false_eq_true, if_false, publish, take,
              Contactor.forceOpen_failure, next, Option.map_none, named]
          · obtain ⟨log, e⟩ := arm_of_applied armed t next
            rw [Replica.replay_append, replay_transitionEvents t.wall
              (c.contactor.leads_forceOpen t.now cause), Option.bind_some, e, armingCall, ← named]
            rfl

theorem tells_shutdown (c : Controller) (t : Moment) : Tells c (c.shutdown t).2 := by
  unfold shutdown
  split
  · exact .refl c
  · refine ⟨_, rfl, ?_⟩
    rw [Replica.replay_append, replay_transitionEvents t.wall
      (c.contactor.leads_forceOpen t.now .shutdown), Option.bind_some]
    split <;> rfl

/-! ## 4. The allowed current -/

/-- A published current stands for another: both are equal, or less than a step apart and both zero
    or neither. -/
def StandsFor (s : PackSettings) (published limit : Float32) : Prop :=
  (published == limit) = true ∨
    (published - limit).abs < s.maxCurrent * limitStep ∧ (published == 0) = (limit == 0)

/-- What is not worth an event is less than a step. A difference that is no number is that of two
    equal infinities. -/
theorem standsFor_of_unchanged {s : PackSettings} (finite : s.maxCurrent.isFinite = true)
    (positive : 0 < s.maxCurrent) {published limit : Float32} (before : published.isNaN = false)
    (number : limit.isNaN = false) (unchanged : limitChanged s (some published) limit = false) :
    StandsFor s published limit := by
  simp only [limitChanged, Bool.or_eq_false_iff, decide_eq_false_iff_not, bne_eq_false_iff_eq]
    at unchanged
  rcases Binary.isNaN_sub before number with difference | same
  · refine .inr ⟨Binary.lt_of_not_le ?_ (Binary.isNaN_abs difference) unchanged.1, unchanged.2⟩
    exact Binary.isNaN_mul finite positive rfl
  · exact .inl same

/-- **The allowed current that was published last stands for the present one.** -/
theorem limit_publishLimit {c : Controller}
    (finite : c.settings.pack.maxCurrent.isFinite = true) (positive : 0 < c.settings.pack.maxCurrent)
    (wall : Nat) {limit : Float32} (number : limit.isNaN = false)
    (before : ∀ p, c.publishedLimit = some p → p.isNaN = false) :
    ∃ p, (c.publishLimit wall limit).publishedLimit = some p ∧ p.isNaN = false ∧
      StandsFor c.settings.pack p limit := by
  unfold publishLimit
  split
  · exact ⟨limit, rfl, number, .inl (by simpa using number)⟩
  · next unchanged =>
      cases last : c.publishedLimit with
      | none => rw [last] at unchanged; exact absurd rfl unchanged
      | some p =>
          rw [last] at unchanged
          exact ⟨p, rfl, before p last, standsFor_of_unchanged finite positive (before p last) number
            (by simpa using unchanged)⟩

/-! ## 5. Runs -/

/-- **What the log of a controller with settings `s` tells**, and what keeps it so. -/
structure Logged (s : Settings) (c : Controller) : Prop where
  replayed : Replica.replay {} c.log.reverse = some c.replica
  settings : c.settings = s
  engine : c.engine.settings = s.pack
  idle : c.armed = false → c.contactor.state = .disengaged
  limit : ∀ p, c.publishedLimit = some p → p.isNaN = false ∧ StandsFor s.pack p c.limit

/-- What a tick of an armed controller leaves of the allowed current. -/
theorem tickArmed_limits (c : Controller) (t : Moment) (fs : Files) :
    (c.tickArmed t fs).2.publishedLimit =
        ((c.updateKeepAlive t fs).assess t c.pack.snapshot).publishedLimit ∧
      (c.tickArmed t fs).2.limit = (c.engine.evaluate c.pack.snapshot).1.limit := by
  obtain ⟨published, log, assessed⟩ := assess_eq (c.updateKeepAlive t fs) t c.pack.snapshot
  obtain ⟨bank, pack, pending, balancing, cycle, log', rebalanced⟩ :=
    rebalance_eq ((c.updateKeepAlive t fs).assess t c.pack.snapshot) t c.pack.snapshot c.faults
  constructor
  · exact congrArg (·.publishedLimit) rebalanced
  · exact (congrArg (·.limit) rebalanced).trans (congrArg (·.limit) assessed)

section Keeps

variable {s : Settings} {c : Controller}

/-- After a tick of an armed controller an allowed current has been published and stands for the
    present one. -/
theorem limit_tickArmed (sound : s.defect? = none) (h : Logged s c) (t : Moment) (fs : Files) :
    ∃ p, (c.tickArmed t fs).2.publishedLimit = some p ∧ p.isNaN = false ∧
      StandsFor s.pack p (c.tickArmed t fs).2.limit := by
  obtain ⟨finite, positive⟩ := Settings.maxCurrent_of_sound sound
  have number : (c.engine.evaluate c.pack.snapshot).1.limit.isNaN = false := by
    refine Engine.isNaN_limit ?_ ?_ _
    · rw [h.engine]; exact finite
    · rw [h.engine]; exact positive
  obtain ⟨published, limit⟩ := c.tickArmed_limits t fs
  rw [published, limit, ← h.settings]
  rw [← h.settings] at finite positive
  exact limit_publishLimit (c := publish { c.updateKeepAlive t fs with
      engine := (c.engine.evaluate c.pack.snapshot).2 } _) finite positive t.wall number
    fun p last => (h.limit p last).1

theorem logged_arm (h : Logged s c) (t : Moment) : Logged s (c.arm t).2 := by
  have replayed := (tells_arm h.idle t).replayed h.replayed
  rcases c.arm_cases t with ⟨-, e⟩ | ⟨fault, log, unarmed, -, e⟩ | ⟨log, -, -, e⟩
  · rw [e]; exact h
  · rw [e] at replayed ⊢
    exact ⟨replayed, h.settings, h.engine,
      fun _ => Contactor.forceOpen_of_disengaged (h.idle unarmed) t.now _, h.limit⟩
  · rw [e] at replayed ⊢
    exact ⟨replayed, h.settings, h.engine, nofun, h.limit⟩

theorem logged_tickArmed (sound : s.defect? = none) (h : Logged s c) (armed : c.armed = true)
    (t : Moment) (fs : Files) : Logged s (c.tickArmed t fs).2 where
  replayed := (c.tells_tickArmed t fs).replayed h.replayed
  settings := (prepared_prepare c t fs).settings.trans h.settings
  engine := (prepared_prepare c t fs).engine.trans h.engine
  idle unarmed := by rw [tickArmed_armed, armed] at unarmed; cases unarmed
  limit p last := by
    obtain ⟨p', last', stands⟩ := limit_tickArmed sound h t fs
    rw [last] at last'
    cases last'
    exact stands

theorem logged_shutdown (h : Logged s c) (t : Moment) : Logged s (c.shutdown t).2 := by
  have replayed := (c.tells_shutdown t).replayed h.replayed
  rcases c.shutdown_cases t with e | ⟨log, e⟩
  · rw [e]; exact h
  · rw [e] at replayed ⊢
    exact ⟨replayed, h.settings, h.engine,
      fun unarmed => Contactor.forceOpen_of_disengaged (h.idle unarmed) t.now .shutdown, h.limit⟩

end Keeps

variable {s : Settings} {relay : Actuator Position} {bank : Actuator (List CellIndex)} {wall : Nat}
  {stored : Files} {c : Controller}

theorem logged_build (built : build (some s) (some relay) (some bank) wall stored = .ok c) :
    Logged s c := by
  rw [build_eq built]
  exact ⟨rfl, rfl, rfl, fun _ => rfl, nofun⟩

variable {σ : Type} [SensorLink σ]

/-- **The log tells the state after every run.** -/
theorem logged_after (built : build (some s) (some relay) (some bank) wall stored = .ok c)
    (deeds : List (Deed σ)) : Logged s (c.after deeds) := by
  induction deeds with
  | nil => exact logged_build built
  | cons d deeds ih =>
      have armed := logged_arm ih d.moment
      exact perform_cases ih armed
        (fun fs ready _ => logged_tickArmed (sound_of_build built) armed ready d.moment fs)
        (logged_shutdown ih d.moment)
        (fun _ _ _ _ _ _ h => ⟨h.replayed, h.settings, h.engine, h.idle, h.limit⟩)

/-- **Who replays the events knows the state.** After every run of a controller as it was built,
    whatever the sensors answer and whichever files, commands and renewals fail, its events replay
    from the start: faults are raised and cleared in turn, advisories come and go in turn, each
    transition starts where the last one ended, and the cells that bleed change with every event about
    them. The faults that are up at the end are those of the controller, and so are the advisories, the
    state of the contactor and the cells that bleed. The allowed current that was published last stands
    for the present one, and after a tick that succeeds there is one. -/
theorem replay_of_run (built : build (some s) (some relay) (some bank) wall stored = .ok c)
    (deeds : List (Deed σ)) :
    (∃ r, Replica.replay {} (c.after deeds).log.reverse = some r ∧
      (∀ k, r.faults k = (c.after deeds).faults.contains k) ∧
      (∀ k, r.advisories k = (c.after deeds).advisories.contains k) ∧
      r.contactor = (c.after deeds).contactor.state ∧
      r.balancing = (c.after deeds).balancing ∧
      ∀ p, r.limit = some p → StandsFor s.pack p (c.after deeds).limit) ∧
    ∀ t fs outcome next, (c.after deeds).tick t fs = (.ok outcome, next) →
      ∃ r p, Replica.replay {} next.log.reverse = some r ∧ r.limit = some p ∧
        StandsFor s.pack p outcome.limit := by
  have logged := logged_after built deeds
  refine ⟨⟨_, logged.replayed, fun _ => rfl, fun _ => rfl, rfl, rfl,
    fun p last => (logged.limit p last).2⟩, fun t fs outcome next ticked => ?_⟩
  rcases (c.after deeds).tick_cases t fs with ⟨-, e⟩ | ⟨-, ⟨f, -, e⟩ | ⟨ok, e⟩⟩
  · rw [e] at ticked; cases ticked
  · rw [e] at ticked; cases ticked
  · rw [e] at ticked
    cases ticked
    have sound := sound_of_build built
    have armed := logged_arm logged t
    obtain ⟨p, last, -, stands⟩ := limit_tickArmed sound armed t fs
    exact ⟨_, p, (logged_tickArmed sound armed (arm_armed ok) t fs).replayed, last, stands⟩

/-- A run in which an overcurrent comes at 0 and goes at 100, the latest call first. -/
def overcurrentRun : List (Deed SimulatedSensor) :=
  [⟨⟨100, 100⟩, .tick {}⟩, ⟨⟨100, 100⟩, .pollOnce { counts := [(.packCurrent, 20)] }⟩,
    ⟨⟨0, 0⟩, .tick {}⟩, ⟨⟨0, 0⟩, .pollOnce { counts := [(.packCurrent, 200)] }⟩]

/-- The contactor holds after an overcurrent that came and went, and closes at 400. The events tell
    this, and that the nominal maximum is allowed. -/
theorem replay_of_overcurrentRun :
    ∃ c outcome next,
      build (some (plainSettings {})) (some {}) (some {}) 0 {} = .ok c ∧
      (c.after overcurrentRun).tick ⟨400, 400⟩ {} = (.ok outcome, next) ∧
      (∃ r, Replica.replay {} (c.after overcurrentRun).log.reverse = some r ∧
        r.faults ⟨.pack, .overcurrent⟩ = false ∧ r.contactor = .reengageHold) ∧
      ∃ r p, Replica.replay {} next.log.reverse = some r ∧ r.limit = some p ∧
        StandsFor (plainSettings {}).pack p 100 := by
  have built := build_of_sound (s := plainSettings {}) (by decide) {} {} 0 {}
  have known := replay_of_run built overcurrentRun
  have ticked := tick_of_armed
    (c := (assembled (plainSettings {}) {} {} 0 {}).after overcurrentRun) (by decide +kernel)
    (by decide +kernel) ⟨400, 400⟩ {}
  obtain ⟨⟨r, replayed, faults, -, contactor, -, -⟩, after⟩ := known
  obtain ⟨r', p, replayed', last, stands⟩ := after _ _ _ _ ticked
  refine ⟨_, _, _, built, ticked, ⟨r, replayed, ?_, ?_⟩, r', p, replayed', last, ?_⟩
  · exact (faults _).trans (by decide +kernel)
  · exact contactor.trans (by decide +kernel)
  · rwa [show (((assembled (plainSettings {}) {} {} 0 {}).after overcurrentRun).tickArmed
      ⟨400, 400⟩ {}).1.limit = 100 by decide +kernel] at stands

end Controller

end PackGuard
