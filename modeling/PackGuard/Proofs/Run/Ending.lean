import Mathlib.Algebra.GroupWithZero.Nat
import PackGuard.Proofs.Controller.Shutdown
import PackGuard.Run

/-!
# How a run ends

A run ends in one of six ways: it cannot start, it cannot renew the keep-alive, a tick fails, it is
told to stop, it has made its number of ticks, or the contactor refuses the last command. `Course` is
a run with all that may happen around it: while the controller does nothing, the poll workers write
what they like to the pack, the files change, the clock goes on, and other commands to the outputs
will be refused (`Meanwhile`). The word to stop may come before any tick.

* `course_runLoop`: every run over a history is such a course.
* `Goes.summary`: **the summary counts the ticks that were made**, as `tally` counts them afterwards.
* `Goes.ticks_le`: no more ticks than allowed.
* `Goes.succeeds`: once polling has started, no tick fails.
* `run_ends_open`: **however a run ends, the last command to the contactor is to open it**, and
  further ticks are refused.
-/

namespace PackGuard

variable {σ : Type}

/-! ## 1. What happens meanwhile -/

/-- What may become of a system while its controller does nothing: the pack, the poll workers, the
    sensor link, the clock and the files are others, and other commands to the outputs will be
    refused. -/
def Meanwhile (before after : System σ) : Prop :=
  ∃ (pack : Pack) (scheduler : Option Scheduler) (relay bank : Nat → Option LinkFault),
    after.controller = { before.controller with
      pack := pack
      scheduler := scheduler
      contactor := { before.controller.contactor with
        output := { before.controller.contactor.output with plan := relay } }
      bank := { before.controller.bank with plan := bank } }

namespace Meanwhile

theorem refl (s : System σ) : Meanwhile s s := ⟨_, _, _, _, rfl⟩

theorem trans {a b c : System σ} (first : Meanwhile a b) (second : Meanwhile b c) :
    Meanwhile a c := by
  obtain ⟨_, _, _, _, hb⟩ := first
  obtain ⟨_, _, _, _, hc⟩ := second
  rw [hb] at hc
  exact ⟨_, _, _, _, hc⟩

theorem elapse [SensorLink σ] (s : System σ) (ms : Nat) : Meanwhile s (s.elapse ms) := by
  unfold System.elapse
  split
  · exact ⟨_, _, _, _, rfl⟩
  · exact ⟨_, _, _, _, rfl⟩

theorem round (round : Round σ) (s : System σ) : Meanwhile s (round.apply s) := by
  unfold Round.apply
  split
  · exact ⟨_, _, _, _, rfl⟩
  · exact ⟨_, _, _, _, rfl⟩

variable {before after : System σ}

theorem stopped (h : Meanwhile before after) :
    after.controller.stopped = before.controller.stopped := by
  obtain ⟨_, _, _, _, e⟩ := h
  rw [e]

theorem armed (h : Meanwhile before after) :
    after.controller.armed = before.controller.armed := by
  obtain ⟨_, _, _, _, e⟩ := h
  rw [e]

end Meanwhile

/-! ## 2. Ticks that were made -/

/-- A tick that was made: what came of it, and the state of the contactor behind it. -/
structure Ticked where
  result : Except Failure TickOutcome
  state : ContactorState

/-- The tick that a system makes now. -/
def System.ticked (s : System σ) : Ticked := ⟨s.tick.1, s.tick.2.controller.contactor.state⟩

/-- What there is to say about ticks once they are made: how many succeeded, how many transitions
    they made, behind how many the contactor was engaged, and the most faults that any found. -/
def tally (ticks : List Ticked) : RunSummary :=
  let outcomes := ticks.filterMap (·.result.toOption)
  { ticks := outcomes.length
    transitions := (outcomes.map (·.transitions.length)).sum
    ticksEngaged := ticks.countP fun t => t.result.isOk && t.state == .engaged
    peakFaults := (outcomes.map (·.faults.size)).foldr max 0 }

namespace RunSummary

/-- Two summaries in one. -/
def join (a b : RunSummary) : RunSummary where
  ticks := a.ticks + b.ticks
  transitions := a.transitions + b.transitions
  ticksEngaged := a.ticksEngaged + b.ticksEngaged
  peakFaults := max a.peakFaults b.peakFaults

theorem join_tally_nil (r : RunSummary) : r.join (tally []) = r := by
  simp [join, tally]

theorem empty_join (r : RunSummary) : join {} r = r := by
  simp [join]

/-- A tick that succeeded is counted as the loop counts it. -/
theorem join_tally_ok (r : RunSummary) (o : TickOutcome) (state : ContactorState)
    (ticks : List Ticked) :
    r.join (tally (⟨.ok o, state⟩ :: ticks)) =
      (r.add o (state == .engaged)).join (tally ticks) := by
  have outcome : ((Except.ok o : Except Failure TickOutcome)).toOption = some o := rfl
  have counted : (Except.ok o : Except Failure TickOutcome).isOk = true := rfl
  simp only [join, tally, add, List.filterMap_cons, outcome, counted, List.length_cons,
    List.map_cons, List.sum_cons, List.foldr_cons, List.countP_cons, Bool.true_and, mk.injEq]
  exact ⟨by omega, by omega, by omega, (Nat.max_assoc _ _ _).symm⟩

/-- A tick that failed counts for nothing. -/
theorem join_tally_error (r : RunSummary) (f : Failure) (state : ContactorState)
    (ticks : List Ticked) :
    r.join (tally (⟨.error f, state⟩ :: ticks)) = r.join (tally ticks) := by
  have outcome : ((Except.error f : Except Failure TickOutcome)).toOption = none := rfl
  have uncounted : (Except.error f : Except Failure TickOutcome).isOk = false := rfl
  simp [tally, outcome, uncounted]

end RunSummary

/-! ## 3. Courses -/

/-- The ways a loop goes on from a state, with the ticks it makes, the first one first, the failure
    that ends it, if any does, and the state in which it leaves the run. -/
inductive Goes (o : RunOptions) :
    RunState σ → List Ticked → Option Failure → RunState σ → Prop where
  | ends {r : RunState σ} {stop : Bool} (finished : r.finished o stop = true) : Goes o r [] none r
  | unrenewed {r next : RunState σ} {f : Failure} (unfinished : r.finished o false = false)
      (renewal : r.renew o = (some f, next)) : Goes o r [] (some f) next
  | unticked {r renewed next : RunState σ} {s : System σ} {f : Failure}
      (unfinished : r.finished o false = false) (renewal : r.renew o = (none, renewed))
      (pause : Meanwhile renewed.system s)
      (tick : RunState.tick { renewed with system := s } = (some f, next)) :
      Goes o r [s.ticked] (some f) next
  | ticked {r renewed next last : RunState σ} {s woken : System σ} {ticks : List Ticked}
      {failure : Option Failure} (unfinished : r.finished o false = false)
      (renewal : r.renew o = (none, renewed)) (pause : Meanwhile renewed.system s)
      (tick : RunState.tick { renewed with system := s } = (none, next))
      (sleep : Meanwhile next.system woken)
      (rest : Goes o { next.mark with system := woken } ticks failure last) :
      Goes o r (s.ticked :: ticks) failure last

/-- The courses of a run up to its shutdown, with the ticks, the failure and the state in which the
    shutdown finds it. -/
inductive Course (o : RunOptions) (s : System σ) :
    List Ticked → Option Failure → RunState σ → Prop where
  | unstarted {next closing : System σ} {f : Failure} (start : s.start = (some f, next))
      (pause : Meanwhile next closing) : Course o s [] (some f) { system := closing }
  | started {next begun closing : System σ} {ticks : List Ticked} {failure : Option Failure}
      {last : RunState σ} (start : s.start = (none, next)) (pause : Meanwhile next begun)
      (loop : Goes o { system := begun } ticks failure last)
      (close : Meanwhile last.system closing) :
      Course o s ticks failure { last with system := closing }

namespace RunState

theorem unfinished_unless_told {o : RunOptions} {stop : Bool} {r : RunState σ}
    (h : r.finished o stop = false) : r.finished o false = false := by
  simp only [finished, Bool.or_eq_false_iff] at h ⊢
  exact ⟨trivial, h.2⟩

theorem ticks_lt_of_unfinished {o : RunOptions} {r : RunState σ} {most : Nat}
    (h : r.finished o false = false) (limit : o.maxTicks = some most) : r.summary.ticks < most := by
  simp only [finished, limit, Option.any_some, Bool.false_or, decide_eq_false_iff_not] at h
  omega

/-- A pass of a loop that is not at its end fails and ends it, or is one tick of it. -/
theorem goes_pass {o : RunOptions} {r : RunState σ} (unfinished : r.finished o false = false) :
    (∃ f next ticks, r.pass o = (some f, next) ∧ Goes o r ticks (some f) next) ∨
      ∃ next tick, r.pass o = (none, next) ∧
        ∀ {woken ticks failure last}, Meanwhile next.system woken →
          Goes o { next.mark with system := woken } ticks failure last →
          Goes o r (tick :: ticks) failure last := by
  unfold pass
  rcases renewal : r.renew o with ⟨_ | f, renewed⟩
  · rcases tick : renewed.tick with ⟨_ | f, next⟩
    · exact .inr ⟨next, _, tick, fun sleep rest =>
        .ticked unfinished renewal (.refl _) tick sleep rest⟩
    · exact .inl ⟨f, next, _, tick, .unticked unfinished renewal (.refl _) tick⟩
  · exact .inl ⟨f, renewed, [], rfl, .unrenewed unfinished renewal⟩

variable [SensorLink σ]

/-- **Every loop over a history goes one of these ways.** -/
theorem goes_loop (o : RunOptions) (rounds : List (Round σ)) (stop : Bool) (r : RunState σ) :
    ∃ ticks, Goes o r ticks (r.loop o stop rounds).1 (r.loop o stop rounds).2 := by
  induction rounds generalizing stop r with
  | nil =>
      unfold loop
      cases finished : r.finished o stop with
      | true => exact ⟨[], .ends finished⟩
      | false =>
          obtain ⟨f, next, ticks, pass, goes⟩ | ⟨next, tick, pass, goes⟩ :=
            goes_pass (unfinished_unless_told finished)
          · rw [pass]
            exact ⟨ticks, goes⟩
          · rw [pass]
            -- where the history ends the loop is told to stop
            have told : next.mark.finished o true = true := rfl
            exact ⟨[tick], goes (.refl _) (.ends told)⟩
  | cons round rest ih =>
      unfold loop
      cases finished : r.finished o stop with
      | true => exact ⟨[], .ends finished⟩
      | false =>
          obtain ⟨f, next, ticks, pass, goes⟩ | ⟨next, tick, pass, goes⟩ :=
            goes_pass (unfinished_unless_told finished)
          · rw [pass]
            exact ⟨ticks, goes⟩
          · rw [pass]
            obtain ⟨ticks, later⟩ := ih round.stop (next.mark.sleep round)
            exact ⟨tick :: ticks, goes ((Meanwhile.elapse _ _).trans (.round _ _)) later⟩

end RunState

/-- **Every run over a history has such a course.** -/
theorem course_runLoop [SensorLink σ] (o : RunOptions) (stop : Bool) (rounds : List (Round σ))
    (s : System σ) :
    ∃ ticks, Course o s ticks (runLoop o stop rounds s).1 (runLoop o stop rounds s).2 := by
  unfold runLoop
  rcases start : s.start with ⟨_ | f, next⟩
  · obtain ⟨ticks, goes⟩ := RunState.goes_loop o rounds stop { system := next.elapse 0 }
    exact ⟨ticks, .started start (.elapse _ _) goes (.refl _)⟩
  · exact ⟨[], .unstarted start (.refl _)⟩

/-! ## 4. What a loop keeps -/

namespace Controller

theorem start_stopped (c : Controller) (t : Moment) : (c.start t).2.stopped = c.stopped := by
  rcases c.start_cases t with e | ⟨scheduler, e⟩
  · rw [e]
  · rw [e]
    exact c.arm_stopped t

/-- The controller is armed once starting has not failed. -/
theorem start_armed {c : Controller} {t : Moment} (h : (c.start t).1 = none) :
    (c.start t).2.armed = true := by
  unfold start at h ⊢
  split at h
  · cases h
  · next idle =>
      rw [if_neg idle]
      rcases e : c.arm t with ⟨_ | f, next⟩
      · have armed := arm_armed (congrArg Prod.fst e)
        rw [e] at armed
        exact armed
      · rw [e] at h
        cases h

end Controller

/-- A controller that was armed and not shut down. -/
structure System.Running (s : System σ) : Prop where
  armed : s.controller.armed = true
  unstopped : s.controller.stopped = false

theorem Meanwhile.running {before after : System σ} (h : Meanwhile before after)
    (running : before.Running) : after.Running :=
  ⟨h.armed.trans running.armed, h.stopped.trans running.unstopped⟩

/-- **A tick of a running controller succeeds**, and the controller runs on. -/
theorem System.Running.tick {s : System σ} (running : s.Running) :
    ∃ outcome next, s.tick = (.ok outcome, next) ∧ next.Running := by
  let c := s.controller
  refine ⟨(c.tickArmed s.moment s.files).1,
    { s with controller := (c.tickArmed s.moment s.files).2 }, ?_, ?_, ?_⟩
  · simp only [System.tick, Controller.tick_of_armed running.armed running.unstopped]
    rfl
  · exact (c.tickArmed_armed s.moment s.files).trans running.armed
  · exact (c.tickArmed_stopped s.moment s.files).trans running.unstopped

namespace RunState

/-- To renew the keep-alive stops nothing and counts for nothing, also if it fails. -/
theorem renew_keeps {o : RunOptions} {r next : RunState σ} {failure : Option Failure}
    (h : r.renew o = (failure, next)) :
    next.summary = r.summary ∧ (r.system.Running → next.system.Running) := by
  have renewed : r.system.Running → r.system.renew.2.Running :=
    fun running => ⟨running.armed, running.unstopped⟩
  unfold renew at h
  split at h
  · rcases e : r.system.renew with ⟨_ | _, s⟩
    · rw [e] at h renewed
      cases h
      exact ⟨rfl, renewed⟩
    · rw [e] at h renewed
      cases h
      exact ⟨rfl, renewed⟩
  · cases h
    exact ⟨rfl, id⟩

/-- A tick fails with the controller's failure and counts for nothing, -/
theorem tick_failed {r next : RunState σ} {f : Failure} (h : r.tick = (some f, next)) :
    r.system.tick = (.error f, next.system) ∧ next.summary = r.summary := by
  unfold tick at h
  rcases e : r.system.tick with ⟨_ | _, s⟩
  · rw [e] at h
    cases h
    exact ⟨rfl, rfl⟩
  · rw [e] at h
    cases h

/-- or succeeds and is counted. -/
theorem tick_made {r next : RunState σ} (h : r.tick = (none, next)) :
    ∃ outcome, r.system.tick = (.ok outcome, next.system) ∧
      next.summary =
        r.summary.add outcome (next.system.controller.contactor.state == .engaged) := by
  unfold tick at h
  rcases e : r.system.tick with ⟨_ | outcome, s⟩
  · rw [e] at h
    cases h
  · rw [e] at h
    cases h
    exact ⟨outcome, rfl, rfl⟩

/-- **No tick of a running controller fails.** -/
theorem tick_running {r next : RunState σ} {failure : Option Failure}
    (h : r.tick = (failure, next)) (running : r.system.Running) :
    failure = none ∧ next.system.Running := by
  obtain ⟨outcome, s, made, runs⟩ := running.tick
  unfold tick at h
  rw [made] at h
  cases h
  exact ⟨rfl, runs⟩

end RunState

namespace Goes

variable {o : RunOptions} {r last : RunState σ} {ticks : List Ticked} {failure : Option Failure}

/-- **The summary counts what was ticked.** -/
theorem summary (h : Goes o r ticks failure last) :
    last.summary = r.summary.join (tally ticks) := by
  induction h with
  | ends => exact (RunSummary.join_tally_nil _).symm
  | unrenewed _ renewal =>
      rw [RunSummary.join_tally_nil]
      exact (RunState.renew_keeps renewal).1
  | unticked _ renewal _ tick =>
      obtain ⟨made, same⟩ := RunState.tick_failed tick
      rw [System.ticked, made, RunSummary.join_tally_error, RunSummary.join_tally_nil, same]
      exact (RunState.renew_keeps renewal).1
  | ticked _ renewal _ tick _ _ ih =>
      obtain ⟨outcome, made, counted⟩ := RunState.tick_made tick
      rw [ih, System.ticked, made, RunSummary.join_tally_ok, ← (RunState.renew_keeps renewal).1]
      exact congrArg (RunSummary.join · _) counted

/-- **No more ticks are made than allowed.** -/
theorem ticks_le (h : Goes o r ticks failure last) {most : Nat} (limit : o.maxTicks = some most)
    (room : r.summary.ticks ≤ most) : r.summary.ticks + ticks.length ≤ most := by
  induction h with
  | ends => exact room
  | unrenewed => exact room
  | unticked unfinished => exact RunState.ticks_lt_of_unfinished unfinished limit
  | @ticked r renewed next last s woken ticks _ unfinished renewal _ tick _ _ ih =>
      have below : r.summary.ticks + 1 ≤ most :=
        RunState.ticks_lt_of_unfinished unfinished limit
      obtain ⟨outcome, -, counted⟩ := RunState.tick_made tick
      have one : next.summary.ticks = r.summary.ticks + 1 := by
        rw [counted, ← (RunState.renew_keeps renewal).1]
        rfl
      have rest : next.summary.ticks + ticks.length ≤ most := ih (one ▸ below)
      rw [List.length_cons]
      omega

/-- A loop shuts nothing down. -/
theorem running (h : Goes o r ticks failure last) (started : r.system.Running) :
    last.system.Running := by
  induction h with
  | ends => exact started
  | unrenewed _ renewal => exact (RunState.renew_keeps renewal).2 started
  | unticked _ renewal pause tick =>
      exact (RunState.tick_running tick
        (pause.running ((RunState.renew_keeps renewal).2 started))).2
  | ticked _ renewal pause tick sleep _ ih =>
      refine ih (sleep.running (RunState.tick_running tick ?_).2)
      exact pause.running ((RunState.renew_keeps renewal).2 started)

/-- Once polling has started, **no tick fails**: the loop is ended by a renewal, or by no failure. -/
theorem succeeds (h : Goes o r ticks failure last) (started : r.system.Running) :
    ∀ t ∈ ticks, t.result.isOk = true := by
  induction h with
  | ends | unrenewed => simp
  | unticked _ renewal pause tick =>
      cases (RunState.tick_running tick
        (pause.running ((RunState.renew_keeps renewal).2 started))).1
  | ticked _ renewal pause tick sleep _ ih =>
      have ready := pause.running ((RunState.renew_keeps renewal).2 started)
      obtain ⟨outcome, made, _⟩ := RunState.tick_made tick
      have later := ih (sleep.running (RunState.tick_running tick ready).2)
      intro t mem
      rcases List.mem_cons.1 mem with rfl | mem
      · rw [System.ticked, made]
        rfl
      · exact later t mem

end Goes

namespace Course

variable {o : RunOptions} {s : System σ} {ticks : List Ticked} {failure : Option Failure}
  {r : RunState σ}

/-- The shutdown of a run is the first one. -/
theorem unstopped (h : Course o s ticks failure r) (unstopped : s.controller.stopped = false) :
    r.system.controller.stopped = false := by
  have kept : s.start.2.controller.stopped = false :=
    (s.controller.start_stopped s.moment).trans unstopped
  cases h with
  | unstarted start pause =>
      rw [start] at kept
      exact pause.stopped.trans kept
  | started start pause loop close =>
      have armed : s.start.2.controller.armed = true :=
        Controller.start_armed (congrArg Prod.fst start)
      rw [start] at kept armed
      exact close.stopped.trans (loop.running (pause.running ⟨armed, kept⟩)).unstopped

theorem ticks_le (h : Course o s ticks failure r) {most : Nat} (limit : o.maxTicks = some most) :
    ticks.length ≤ most := by
  cases h with
  | unstarted => exact Nat.zero_le most
  | started _ _ loop _ =>
      have made := loop.ticks_le limit (Nat.zero_le most)
      rwa [Nat.zero_add] at made

/-- The summary of a run counts all its ticks. -/
theorem summary (h : Course o s ticks failure r) : r.summary = tally ticks := by
  cases h with
  | unstarted => rfl
  | started _ _ loop _ => exact loop.summary.trans (RunSummary.empty_join _)

end Course

/-! ## 5. The shutdown behind the loop -/

/-- **A first shutdown is one command to open**, and fails if that is refused. -/
theorem Controller.first_shutdown {c : Controller} (unstopped : c.stopped = false) (t : Moment) :
    (c.shutdown t).1 = c.contactor.output.next.map .ofOutput ∧
      (c.shutdown t).2.contactor.output = (c.contactor.output.command .opened).2 := by
  simp only [shutdown, unstopped, Bool.false_eq_true, if_false, publish, take]
  exact ⟨c.contactor.forceOpen_failure t.now .shutdown, c.contactor.forceOpen_output t.now .shutdown⟩

theorem RunState.conclude_result (failure : Option Failure) (r : RunState σ) :
    (r.conclude failure).result =
      match failure, (r.system.controller.shutdown r.system.moment).1 with
      | some f, _ => .error f
      | none, some f => .error f
      | none, none => .ok r.summary := rfl

/-- **However a run ends, the contactor is commanded open behind it.** The run is of a controller that
    was not shut down; the word to stop may be given before any tick, and whatever happens meanwhile,
    the run is one of its courses. It makes no more ticks than allowed. After it a tick is refused,
    and the last command to the contactor was to open it, behind all that the loop had sent. Its
    result is the failure of the loop, or else that of the last command, or else the tally of its
    ticks. -/
theorem run_ends_open [SensorLink σ] (o : RunOptions) {s : System σ}
    (unstopped : s.controller.stopped = false) :
    (∀ stop rounds, ∃ ticks failure r, Course o s ticks failure r ∧
      run o stop rounds s = r.conclude failure) ∧
    ∀ {ticks failure r}, Course o s ticks failure r →
      let output := r.system.controller.contactor.output
      let after := (r.conclude failure).system.controller
      (∀ most ∈ o.maxTicks, ticks.length ≤ most) ∧
      (∀ t fs, after.tick t fs = (.error Controller.shutDown, after)) ∧
      after.contactor.output.log = ⟨.opened, output.next⟩ :: output.log ∧
      (r.conclude failure).result = match failure, output.next with
        | some f, _ => .error f
        | none, some fault => .error (.ofOutput fault)
        | none, none => .ok (tally ticks) := by
  refine ⟨fun stop rounds => ?_, fun {ticks failure r} course => ?_⟩
  · obtain ⟨ticks, course⟩ := course_runLoop o stop rounds s
    exact ⟨ticks, _, _, course, rfl⟩
  · have closed := Controller.first_shutdown (course.unstopped unstopped) r.system.moment
    have stopped := r.system.controller.shutdown_stopped r.system.moment
    refine ⟨fun most limit => course.ticks_le limit, fun t fs => if_pos stopped, ?_, ?_⟩
    · show (r.system.controller.shutdown r.system.moment).2.contactor.output.log = _
      rw [closed.2, Actuator.command_log]
    · rw [RunState.conclude_result, closed.1, course.summary]
      cases failure with
      | some f => rfl
      | none => cases r.system.controller.contactor.output.next <;> rfl

/-- A pack of one cell through which a current flows, with outputs that refuse nothing. -/
def quietSystem : System SimulatedSensor where
  controller := Controller.assembled (Controller.plainSettings {}) {} {} 0 {}
  link := { counts := [(.packCurrent, 20)] }

/-- Of five ticks, the fourth closes the contactor; behind the fifth it is commanded open. -/
theorem quiet_run_ends_open :
    quietSystem.controller.stopped = false ∧
      ∃ ticks r, Course { maxTicks := some 5 } quietSystem ticks none r ∧
        run { maxTicks := some 5 } false (List.replicate 8 {}) quietSystem = r.conclude none ∧
        ticks.length ≤ 5 ∧
        (r.conclude none).system.controller.contactor.output.log.head? = some ⟨.opened, none⟩ ∧
        tally ticks = { ticks := 5, transitions := 2, ticksEngaged := 2 } := by
  have known := run_ends_open { maxTicks := some 5 } (s := quietSystem) rfl
  obtain ⟨ticks, failure, r, course, same⟩ := known.1 false (List.replicate 8 {})
  obtain ⟨few, -, opened, result⟩ := known.2 course
  have returned : (run { maxTicks := some 5 } false (List.replicate 8 {}) quietSystem).result.toOption =
      some { ticks := 5, transitions := 2, ticksEngaged := 2 } := by
    decide +kernel
  rw [same, result] at returned
  cases failure with
  | some f => cases returned
  | none =>
      cases next : r.system.controller.contactor.output.next with
      | some fault => rw [next] at returned; cases returned
      | none =>
          rw [next] at returned opened
          exact ⟨rfl, ticks, r, course, same, few 5 rfl, congrArg List.head? opened,
            Option.some.inj returned⟩

end PackGuard
