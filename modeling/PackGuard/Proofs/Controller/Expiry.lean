import Mathlib.Data.List.Chain
import PackGuard.Proofs.Controller.Runs

/-!
# What the events say of the keep-alive

A controller says that its keep-alive has expired, or that it was renewed, when that changes from one
tick to the next. Arming is the exception: it looks at the keep-alive for the first time, and says
that it has expired **without regard to what was said before**. Where the command to open is refused,
arming is tried again and says it again.

* `Announced`: the events about the keep-alive alternate, expired first, and the last one is what the
  controller acts on.
* `announced_updateKeepAlive`: a tick keeps this as it was, in both directions.
* `announced_after_iff`: **it holds after a run exactly if no arming but the last found the keep-alive
  expired**.
* `expired_twice`: a run on which both halves of it fail.
-/

namespace PackGuard

/-! ## 1. Events about the keep-alive -/

/-- Whether an event says that the keep-alive has expired, or that it was renewed. -/
def Event.expiry? (e : Event) : Option Bool :=
  match e.kind with
  | .keepAliveExpired => some true
  | .keepAliveRenewed => some false
  | _ => none

/-- What a log says of the keep-alive, the latest first. -/
def expiries (log : List Event) : List Bool := log.filterMap Event.expiry?

@[simp] theorem expiries_append (late early : List Event) :
    expiries (late ++ early) = expiries late ++ expiries early :=
  List.filterMap_append

/-- Events of which none is about the keep-alive. -/
theorem expiries_reverse {es : List Event} (h : ∀ e ∈ es, e.expiry? = none) :
    expiries es.reverse = [] :=
  List.filterMap_eq_nil_iff.2 fun e he => h e (List.mem_reverse.1 he)

namespace Controller

/-- **The events about the keep-alive alternate**, behind a keep-alive that has not expired, and the
    last one is what the controller acts on. -/
structure Announced (c : Controller) : Prop where
  alternate : (expiries c.log ++ [false]).IsChain (· ≠ ·)
  last : (expiries c.log).headD false = c.expired

/-! ## 2. Where nothing is said -/

/-- From one controller to the next nothing was said of the keep-alive, and it counts for what it
    did. -/
structure Quiet (c next : Controller) : Prop where
  log : expiries next.log = expiries c.log
  expired : next.expired = c.expired

namespace Quiet

variable {a b c : Controller}

theorem refl (a : Controller) : Quiet a a := ⟨rfl, rfl⟩

theorem trans (first : Quiet a b) (second : Quiet b c) : Quiet a c :=
  ⟨second.log.trans first.log, second.expired.trans first.expired⟩

theorem announced_iff (h : Quiet a b) : b.Announced ↔ a.Announced := by
  constructor
  · rintro ⟨alternate, last⟩
    rw [h.log] at alternate last
    exact ⟨alternate, last.trans h.expired⟩
  · rintro ⟨alternate, last⟩
    refine ⟨?_, ?_⟩ <;> rw [h.log]
    · exact alternate
    · exact last.trans h.expired.symm

end Quiet

/-- Events that were published and are not about the keep-alive say nothing of it. -/
theorem quiet_of_log {c next : Controller} {es : List Event} (log : next.log = es.reverse ++ c.log)
    (expired : next.expired = c.expired) (others : ∀ e ∈ es, e.expiry? = none) : Quiet c next := by
  refine ⟨?_, expired⟩
  rw [log, expiries_append, expiries_reverse others, List.nil_append]

theorem expiry?_transitionEvents (wall : Nat) (ts : List Transition) :
    ∀ e ∈ transitionEvents wall ts, e.expiry? = none := by
  intro e he
  obtain ⟨t, -, rfl⟩ := List.mem_map.1 he
  rfl

theorem quiet_publishLimit (c : Controller) (wall : Nat) (limit : Float32) :
    Quiet c (c.publishLimit wall limit) := by
  unfold publishLimit
  split
  · exact quiet_of_log rfl rfl (List.forall_mem_singleton.2 rfl)
  · exact .refl c

theorem quiet_assess (c : Controller) (t : Moment) (snap : Snapshot) :
    Quiet c (c.assess t snap) := by
  have findings : Quiet c (publish { c with engine := (c.engine.evaluate snap).2 }
      (faultEvents t.wall c.faults (c.engine.evaluate snap).1.faults ++
        advisoryEvents t.wall c.advisories (c.engine.evaluate snap).1.advisories)) := by
    refine quiet_of_log rfl rfl ?_
    simp only [faultEvents, advisoryEvents, List.mem_append, List.mem_map]
    rintro e ((⟨_, _, rfl⟩ | ⟨_, _, rfl⟩) | ⟨_, _, rfl⟩ | ⟨_, _, rfl⟩) <;> rfl
  have limit := findings.trans (quiet_publishLimit _ t.wall (c.engine.evaluate snap).1.limit)
  exact ⟨limit.log, limit.expired⟩

theorem quiet_commandBank (c : Controller) (t : Moment) (selected : List CellIndex) :
    Quiet c (c.commandBank t selected) := by
  unfold commandBank
  dsimp only
  split
  · exact ⟨rfl, rfl⟩
  · refine quiet_of_log rfl rfl fun e he => ?_
    split at he
    · rw [List.mem_singleton.1 he]; rfl
    · cases he

theorem quiet_rebalance (c : Controller) (t : Moment) (snap : Snapshot) (before : FaultSet) :
    Quiet c (c.rebalance t snap before) := by
  have commanded := quiet_commandBank { c with lastCellCycle := snap.cycles.cellVoltage } t
  unfold rebalance updateBalance
  dsimp only
  split
  · split
    · split <;> exact ⟨(commanded _).log, (commanded _).expired⟩
    · exact ⟨rfl, rfl⟩
  · exact .refl c

theorem quiet_stepContactor (c : Controller) (t : Moment) : Quiet c (c.stepContactor t).2 :=
  quiet_of_log rfl rfl (expiry?_transitionEvents _ _)

theorem quiet_shutdown (c : Controller) (t : Moment) : Quiet c (c.shutdown t).2 := by
  unfold shutdown
  split
  · exact .refl c
  · refine quiet_of_log rfl rfl fun e he => ?_
    rcases List.mem_append.1 he with he | he
    · exact expiry?_transitionEvents _ _ e he
    · split at he
      · rw [List.mem_singleton.1 he]; rfl
      · cases he

/-! ## 3. Where something is said -/

/-- **A look for a renewal says what changed.** What is said fits what the controller acts on exactly
    if it did before. -/
theorem announced_updateKeepAlive (c : Controller) (t : Moment) (fs : Files) :
    (c.updateKeepAlive t fs).Announced ↔ c.Announced := by
  obtain ⟨found, finds⟩ : ∃ b, b = (c.keepAlive.refresh fs t.wall).2.expired t.wall := ⟨_, rfl⟩
  have acts : (c.updateKeepAlive t fs).expired = found := finds.symm
  by_cases same : found = c.expired
  · have silent : Quiet c (c.updateKeepAlive t fs) := by
      refine ⟨?_, acts.trans same⟩
      simp only [updateKeepAlive, publish, ← finds, same]
      cases c.expired <;> rfl
    exact silent.announced_iff
  · have said : expiries (c.updateKeepAlive t fs).log = found :: expiries c.log := by
      simp only [updateKeepAlive, publish, ← finds]
      cases hf : found <;> cases he : c.expired
      · exact absurd (hf.trans he.symm) same
      · rfl
      · rfl
      · exact absurd (hf.trans he.symm) same
    have differs :
        found ≠ (expiries c.log).headD false ↔ (expiries c.log).headD false = c.expired := by
      cases found <;> cases (expiries c.log).headD false <;> cases h : c.expired <;> simp_all
    have chain : (found :: (expiries c.log ++ [false])).IsChain (· ≠ ·) ↔
        found ≠ (expiries c.log).headD false ∧ (expiries c.log ++ [false]).IsChain (· ≠ ·) := by
      cases expiries c.log with
      | nil => simp
      | cons e es => simp [List.isChain_cons_cons]
    constructor
    · rintro ⟨alternate, -⟩
      rw [said, List.cons_append, chain] at alternate
      exact ⟨alternate.2, differs.1 alternate.1⟩
    · rintro ⟨alternate, last⟩
      refine ⟨?_, by rw [said, acts]; rfl⟩
      rw [said, List.cons_append, chain]
      exact ⟨differs.2 last, alternate⟩

theorem announced_tickArmed (c : Controller) (t : Moment) (fs : Files) :
    (c.tickArmed t fs).2.Announced ↔ c.Announced := by
  have quiet : Quiet (c.updateKeepAlive t fs) (c.tickArmed t fs).2 :=
    ((quiet_assess _ t _).trans (quiet_rebalance _ t _ _)).trans (quiet_stepContactor _ t)
  exact quiet.announced_iff.trans (announced_updateKeepAlive c t fs)

/-- **Arming says that the keep-alive has expired whenever it finds it so**, and says nothing else of
    it. -/
theorem expiries_arm {c : Controller} (unarmed : c.armed = false) (t : Moment) :
    expiries (c.arm t).2.log =
        [c.keepAlive.expired t.wall].filter id ++ expiries c.log ∧
      (c.arm t).2.expired = c.keepAlive.expired t.wall := by
  have found : expiries (publish { c with expired := c.keepAlive.expired t.wall }
      (if c.keepAlive.expired t.wall = true then [expiredEvent t.wall] else [])).log =
        [c.keepAlive.expired t.wall].filter id ++ expiries c.log := by
    cases c.keepAlive.expired t.wall <;> rfl
  unfold arm
  simp only [unarmed, Bool.false_eq_true, if_false]
  split
  · exact ⟨found, rfl⟩
  · refine ⟨Eq.trans (Quiet.log (quiet_of_log rfl rfl fun e he => ?_)) found, rfl⟩
    rcases List.mem_append.1 he with he | he
    · exact expiry?_transitionEvents _ _ e he
    · rw [List.mem_singleton.1 he]; rfl

/-! ## 4. Armings -/

variable {σ : Type} [SensorLink σ]

/-- Whether a call tries to arm: a tick of a stopped controller and a second start do not get so
    far. -/
def triesToArm (c : Controller) : Call σ → Bool
  | .arm => !c.armed
  | .start => !c.armed && c.scheduler.isNone
  | .tick _ => !c.armed && !c.stopped
  | _ => false

/-- What each arming of a run found of the keep-alive, expired or not, the latest first. -/
def armings (c : Controller) : List (Deed σ) → List Bool
  | [] => []
  | d :: deeds =>
    if (c.after deeds).triesToArm d.call then
      (c.after deeds).keepAlive.expired d.moment.wall :: c.armings deeds
    else c.armings deeds

/-- **What armings leave behind.** As long as none succeeded, each that found the keep-alive expired
    has said so, and the controller acts on what the last one found. -/
structure Heard (c : Controller) (found : List Bool) : Prop where
  unarmed : c.armed = false → expiries c.log = found.filter id ∧ c.expired = found.headD false
  announced_iff : c.Announced ↔ ∀ f ∈ found.tail, f = false

/-- Where nothing was said but by armings, they said it once if it was the last that said it. -/
theorem announced_of_armings {c : Controller} {found : List Bool}
    (said : expiries c.log = found.filter id) (acts : c.expired = found.headD false) :
    c.Announced ↔ ∀ f ∈ found.tail, f = false := by
  cases found with
  | nil => exact iff_of_true ⟨by rw [said]; exact .singleton _, by rw [said, acts]; rfl⟩ (by simp)
  | cons f earlier =>
      cases before : earlier.filter id with
      | nil =>
          refine iff_of_true ?_ (by simpa [List.filter_eq_nil_iff] using before)
          constructor
          · rw [said, List.filter_cons, before]
            cases f <;> simp
          · rw [said, acts, List.filter_cons, before]
            cases f <;> rfl
      | cons x xs =>
          -- an earlier one said it already: the last one says it again, or finds it renewed
          have again : x = true := (List.mem_filter.1 (before ▸ List.mem_cons_self)).2
          have earlier' : ¬ ∀ f ∈ earlier, f = false := by
            intro quiet
            have mem : x ∈ earlier := (List.mem_filter.1 (before ▸ List.mem_cons_self)).1
            rw [quiet x mem] at again
            cases again
          refine iff_of_false ?_ earlier'
          rintro ⟨alternate, last⟩
          rw [said, List.filter_cons, before, again] at alternate last
          cases f with
          | true => simp at alternate
          | false => rw [acts] at last; simp at last

theorem heard_quiet {c next : Controller} {found : List Bool} (h : Heard c found)
    (quiet : Quiet c next) (armed : next.armed = c.armed) : Heard next found where
  unarmed unarmed := by
    rw [quiet.log, quiet.expired]
    exact h.unarmed (armed ▸ unarmed)
  announced_iff := quiet.announced_iff.trans h.announced_iff

/-- An arming adds what it found. -/
theorem heard_arm {c : Controller} {found : List Bool} (h : Heard c found)
    (unarmed : c.armed = false) (t : Moment) :
    Heard (c.arm t).2 (c.keepAlive.expired t.wall :: found) := by
  obtain ⟨said, acts⟩ := expiries_arm unarmed t
  have all : expiries (c.arm t).2.log = (c.keepAlive.expired t.wall :: found).filter id := by
    rw [said, (h.unarmed unarmed).1, ← List.filter_append]
    rfl
  exact ⟨fun _ => ⟨all, acts⟩, announced_of_armings all acts⟩

theorem heard_tickArmed {c : Controller} {found : List Bool} (h : Heard c found)
    (armed : c.armed = true) (t : Moment) (fs : Files) : Heard (c.tickArmed t fs).2 found where
  unarmed unarmed := by rw [tickArmed_armed, armed] at unarmed; cases unarmed
  announced_iff := (announced_tickArmed c t fs).trans h.announced_iff

omit [SensorLink σ] in
theorem heard_start {c : Controller} {found : List Bool} (h : Heard c found) (t : Moment) :
    Heard (c.start t).2
      (if c.triesToArm (.start : Call σ) then c.keepAlive.expired t.wall :: found else found) := by
  unfold start triesToArm
  by_cases free : c.scheduler = none
  · rcases Bool.eq_false_or_eq_true c.armed with armed | unarmed
    · simp only [free, armed, arm_of_armed]
      exact heard_quiet h ⟨rfl, rfl⟩ armed.symm
    · have tried := heard_arm h unarmed t
      simp only [free, unarmed]
      generalize c.arm t = result at tried ⊢
      obtain ⟨_ | f, next⟩ := result
      · exact heard_quiet tried ⟨rfl, rfl⟩ rfl
      · exact tried
  · obtain ⟨_, started⟩ := Option.ne_none_iff_exists'.1 free
    simpa [started] using h

omit [SensorLink σ] in
theorem heard_tick {c : Controller} {found : List Bool} (h : Heard c found) (t : Moment)
    (fs : Files) :
    Heard (c.tick t fs).2
      (if c.triesToArm (.tick fs : Call σ) then c.keepAlive.expired t.wall :: found else found) := by
  unfold triesToArm
  rcases c.tick_cases t fs with ⟨stopped, e⟩ | ⟨running, ticked⟩
  · simpa [stopped, e] using h
  · rcases Bool.eq_false_or_eq_true c.armed with armed | unarmed
    · rw [tick_of_armed armed running]
      simpa [armed] using heard_tickArmed h armed t fs
    · have tried := heard_arm h unarmed t
      rcases ticked with ⟨f, -, e⟩ | ⟨passed, e⟩
      · simpa [running, unarmed, e] using tried
      · simpa [running, unarmed, e] using heard_tickArmed tried (arm_armed passed) t fs

/-! ## 5. Runs -/

theorem heard_shutdown {c : Controller} {found : List Bool} (h : Heard c found) (t : Moment) :
    Heard (c.shutdown t).2 found := by
  refine heard_quiet h (quiet_shutdown c t) ?_
  rcases c.shutdown_cases t with e | ⟨log, e⟩ <;> rw [e]

/-- **Every call adds what its arming found**, if it tries to arm. -/
theorem heard_perform {c : Controller} {found : List Bool} (h : Heard c found) (d : Deed σ) :
    Heard (c.perform d)
      (if c.triesToArm d.call then c.keepAlive.expired d.moment.wall :: found else found) := by
  obtain ⟨t, call⟩ := d
  cases call with
  | arm =>
      simp only [perform, triesToArm]
      rcases Bool.eq_false_or_eq_true c.armed with armed | unarmed
      · simpa [armed, arm_of_armed] using h
      · simpa [unarmed] using heard_arm h unarmed t
  | start => exact heard_start h t
  | tick fs => exact heard_tick h t fs
  | shutdown => exact heard_shutdown h t
  | drop =>
      simp only [perform, drop]
      split
      · exact heard_shutdown h t
      · exact h
  | work link =>
      obtain ⟨pack, scheduler, e⟩ := c.worked_eq t.now link
      simp only [perform, e]
      exact heard_quiet h ⟨rfl, rfl⟩ rfl
  | pollOnce link =>
      obtain ⟨pack, e⟩ := c.pollOnce_eq t.now link
      simp only [perform, e]
      exact heard_quiet h ⟨rfl, rfl⟩ rfl
  | setLockout | renew | renewUntil | addWork | status => exact heard_quiet h ⟨rfl, rfl⟩ rfl

section Run

variable {s : Settings} {relay : Actuator Position} {bank : Actuator (List CellIndex)} {wall : Nat}
  {stored : Files} {c : Controller}

theorem heard_after (built : build (some s) (some relay) (some bank) wall stored = .ok c)
    (deeds : List (Deed σ)) : Heard (c.after deeds) (c.armings deeds) := by
  induction deeds with
  | nil =>
      rw [build_eq built]
      exact ⟨fun _ => ⟨rfl, rfl⟩, announced_of_armings rfl rfl⟩
  | cons d deeds ih => exact heard_perform ih d

/-- **When the events about the keep-alive tell what the controller acts on.** After any run of a
    controller as it was built, whatever becomes of the store and whichever commands are refused, the
    events about the keep-alive alternate, the first of them says that it has expired, and the
    controller acts on the last one, exactly if no arming but the last found the keep-alive expired.
    Only an arming whose command was refused is followed by another. -/
theorem announced_after_iff
    (built : build (some s) (some relay) (some bank) wall stored = .ok c)
    (deeds : List (Deed σ)) :
    ((expiries (c.after deeds).log ++ [false]).IsChain (· ≠ ·) ∧
        (expiries (c.after deeds).log).headD false = (c.after deeds).expired) ↔
      ∀ found ∈ (c.armings deeds).tail, found = false := by
  rw [← (heard_after built deeds).announced_iff]
  exact ⟨fun ⟨alternate, last⟩ => ⟨alternate, last⟩, fun h => ⟨h.alternate, h.last⟩⟩

end Run

/-- A relay that refuses its first commands. -/
def refusingFirst (n : Nat) : Actuator Position :=
  { plan := fun k => if k < n then some (.device .linkDown) else none }

/-- A run that lets the keep-alive lapse and renews it, behind an arming that was refused while it
    was valid. -/
def lapsedRun : List (Deed SimulatedSensor) :=
  [⟨⟨1600, 1600⟩, .tick {}⟩, ⟨⟨1600, 1600⟩, .renew {}⟩, ⟨⟨1500, 1500⟩, .tick {}⟩, ⟨⟨10, 10⟩, .arm⟩,
    ⟨⟨0, 0⟩, .renew {}⟩]

/-- Armed a second time by the tick that finds the keep-alive expired, the controller says it once,
    and says that it was renewed. -/
theorem lapse_announced_once :
    ∃ c, build (some (plainSettings { period := 1000 })) (some (refusingFirst 1)) (some {}) 0 {} =
          .ok c ∧
      c.armings lapsedRun = [true, false] ∧
      expiries (c.after lapsedRun).log = [false, true] ∧
      (expiries (c.after lapsedRun).log).headD false = (c.after lapsedRun).expired := by
  have built := build_of_sound (s := plainSettings { period := 1000 }) (by decide) (refusingFirst 1)
    {} 0 {}
  have tried : (assembled (plainSettings { period := 1000 }) (refusingFirst 1) {} 0 {}).armings
      lapsedRun = [true, false] := by decide +kernel
  obtain ⟨-, last⟩ := (announced_after_iff built lapsedRun).2 (by rw [tried]; decide)
  exact ⟨_, built, tried, by decide +kernel, last⟩

/-- **The same expiry, said twice, and a renewal that is not said.** Without a deadline, two armings
    whose commands are refused both say that the keep-alive has expired. It is then renewed, and a
    third arming finds it valid: the last event about it still says that it has expired. -/
theorem expired_twice :
    ∃ c, build (some (plainSettings { period := 1000 })) (some (refusingFirst 2)) (some {}) 0 {} =
          .ok c ∧
      expiries (c.after [⟨⟨20, 20⟩, .arm⟩, ⟨⟨20, 20⟩, .renew {}⟩, ⟨⟨10, 10⟩, .arm⟩,
        (⟨⟨0, 0⟩, .arm⟩ : Deed SimulatedSensor)]).log = [true, true] ∧
      (c.after [⟨⟨20, 20⟩, .arm⟩, ⟨⟨20, 20⟩, .renew {}⟩, ⟨⟨10, 10⟩, .arm⟩,
        (⟨⟨0, 0⟩, .arm⟩ : Deed SimulatedSensor)]).expired = false :=
  ⟨_, build_of_sound (s := plainSettings { period := 1000 }) (by decide) _ _ _ _, by decide +kernel,
    by decide +kernel⟩

end Controller

end PackGuard
