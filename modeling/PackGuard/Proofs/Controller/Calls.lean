import PackGuard.Controller
import PackGuard.Proofs.Contactor.Record

/-!
# What a call does to a controller

The calls of a controller, each with what it finds around it: the sensor link at which it polls, the
files in which it looks for the stored deadline. Files and links are given anew with every call, so
whatever others do to them in between is allowed for.

* `prepare` is a tick up to its last step, the one of the contactor. `prepared_prepare` lists what
  it leaves alone.
* `arm_cases`: arming is one command to open.
* `perform_contactor`: **all that a call does to the contactor is to call it**, at the time of the
  call; so what every call of a contactor keeps, every call of a controller keeps.
* `perform_cases`: what holds after every call is what holds after arming, after the tick of an armed
  controller and after the shutdown.
-/

namespace PackGuard

/-! ## 1. Calls -/

/-- A call of a controller. `work` is no call from outside but what the poll workers do up to now,
    if they are running. -/
inductive Call (σ : Type) where
  | arm
  | start
  | work (link : σ)
  | pollOnce (link : σ)
  | tick (files : Files)
  | setLockout (on : Bool)
  | renew (files : Files)
  | renewUntil (files : Files) (deadline : Nat)
  | addWork (ws ampereSeconds : Float)
  | status
  | shutdown
  | drop

/-- Whether a call may write the tracks of the pack. -/
def Call.polls {σ : Type} : Call σ → Bool
  | .work _ => true
  | .pollOnce _ => true
  | _ => false

/-- A call at its moment. -/
structure Deed (σ : Type) where
  moment : Moment
  call : Call σ

namespace Contactor

/-- Several calls at one time. -/
def performAll (c : Contactor) (now : Nat) (calls : List ContactorCall) : Contactor :=
  calls.foldl (fun c call => (c.perform now call).contactor) c

/-- What every call keeps, several calls keep. -/
theorem performAll_keeps {P : Contactor → Prop} {now : Nat}
    (keeps : ∀ c c' call, Moves c now call c' → P c → P c') (calls : List ContactorCall)
    {c : Contactor} (h : P c) : P (c.performAll now calls) := by
  induction calls generalizing c with
  | nil => exact h
  | cons call calls ih => exact ih (keeps _ _ _ (perform_moves c now call) h)

/-- A contactor that was ever commanded with success stays so. -/
theorem moves_position {c c' : Contactor} {now : Nat} {call : ContactorCall}
    (m : c.Moves now call c') (h : c.position.isSome = true) : c'.position.isSome = true := by
  cases m with
  | opens | closes => rfl
  | _ => exact h

/-- Several calls at one time are dated like one. -/
theorem performAll_dated {c : Contactor} {now : Nat} {record : List Sent}
    (calls : List ContactorCall) (h : c.Dated record) :
    (c.performAll now calls).Dated ((c.performAll now calls).sentSince c now ++ record) := by
  -- the log grows in front with every call, so that what was sent since the first contactor is
  -- what was sent since any later one, and then what was sent before
  have grown : ∀ (c' : Contactor) (calls : List ContactorCall) (sent : List (Attempt Position)),
      c'.output.log = sent ++ c.output.log → c'.Dated (sent.map (⟨now, ·⟩) ++ record) →
      (c'.performAll now calls).Dated
        ((c'.performAll now calls).sentSince c now ++ record) := by
    intro c' calls
    induction calls generalizing c' with
    | nil =>
        intro sent log dated
        rwa [performAll, List.foldl_nil, sentSince, Actuator.since_eq log]
    | cons call calls ih =>
        intro sent log dated
        have m := perform_moves c' now call
        refine ih _ ((c'.perform now call).contactor.output.since c'.output ++ sent) ?_ ?_
        · rw [List.append_assoc, ← log]; exact moves_log m
        · have next := moves_dated m dated
          rwa [sentSince, ← List.append_assoc, ← List.map_append] at next
  exact grown c calls [] rfl h

end Contactor

namespace Controller

variable {σ : Type} [SensorLink σ]

/-- The controller after its poll workers have worked up to a time. -/
def worked (c : Controller) (now : Nat) (link : σ) : Controller :=
  match c.scheduler with
  | none => c
  | some scheduler =>
    let (scheduler, st) := scheduler.runUntil now ⟨link, c.pack⟩
    { c with pack := st.pack, scheduler := some scheduler }

/-- The controller after a call. -/
def perform (c : Controller) (d : Deed σ) : Controller :=
  match d.call with
  | .arm => (c.arm d.moment).2
  | .start => (c.start d.moment).2
  | .work link => c.worked d.moment.now link
  | .pollOnce link => (c.pollOnce d.moment.now link).2.2.1
  | .tick files => (c.tick d.moment files).2
  | .setLockout on => c.setLockout on
  | .renew files => (c.renew d.moment files).2.1
  | .renewUntil files deadline => (c.renewUntil d.moment files deadline).2.1
  | .addWork ws ampereSeconds => c.addWork ws ampereSeconds
  | .status => c
  | .shutdown => (c.shutdown d.moment).2
  | .drop => c.drop d.moment

/-! ## 2. The tick up to the contactor -/

/-- A tick up to its last step. -/
def prepare (c : Controller) (t : Moment) (fs : Files) : Controller :=
  ((c.updateKeepAlive t fs).assess t c.pack.snapshot).rebalance t c.pack.snapshot c.faults

/-- **What a tick leaves alone until it steps the contactor**, and what it makes of the
    keep-alive. -/
structure Prepared (c : Controller) (t : Moment) (fs : Files) (next : Controller) : Prop where
  settings : next.settings = c.settings
  engine : next.engine.settings = c.engine.settings
  contactor : next.contactor = c.contactor
  lockout : next.lockout = c.lockout
  armed : next.armed = c.armed
  stopped : next.stopped = c.stopped
  scheduler : next.scheduler = c.scheduler
  keepAlive : next.keepAlive = (c.keepAlive.refresh fs t.wall).2
  expired : next.expired = (c.keepAlive.refresh fs t.wall).2.expired t.wall

theorem publishLimit_eq (c : Controller) (wall : Nat) (limit : Float32) :
    ∃ published log, c.publishLimit wall limit =
      { c with publishedLimit := published, log := log } := by
  unfold publishLimit
  split
  · exact ⟨_, _, rfl⟩
  · exact ⟨_, _, rfl⟩

theorem commandBank_eq (c : Controller) (t : Moment) (selected : List CellIndex) :
    ∃ bank pending balancing log, c.commandBank t selected =
      { c with bank := bank, balancePending := pending, balancing := balancing, log := log } := by
  unfold commandBank
  dsimp only
  split
  · exact ⟨_, _, _, _, rfl⟩
  · exact ⟨_, _, _, _, rfl⟩

theorem updateBalance_eq (c : Controller) (t : Moment) (snap : Snapshot) :
    ∃ bank pack pending balancing log, c.updateBalance t snap =
      { c with bank := bank, pack := pack, balancePending := pending, balancing := balancing
               log := log } := by
  unfold updateBalance
  dsimp only
  split
  · obtain ⟨bank, pending, balancing, log, e⟩ := c.commandBank_eq t
      (Balance.select c.settings.balance (candidates c.settings.pack c.faults snap))
    rw [e]
    split
    · exact ⟨_, _, _, _, _, rfl⟩
    · exact ⟨_, _, _, _, _, rfl⟩
  · exact ⟨_, _, _, _, _, rfl⟩

theorem rebalance_eq (c : Controller) (t : Moment) (snap : Snapshot) (before : FaultSet) :
    ∃ bank pack pending balancing cycle log, c.rebalance t snap before =
      { c with bank := bank, pack := pack, balancePending := pending, balancing := balancing
               lastCellCycle := cycle, log := log } := by
  unfold rebalance
  dsimp only
  split
  · obtain ⟨bank, pack, pending, balancing, log, e⟩ :=
      updateBalance_eq { c with lastCellCycle := snap.cycles.cellVoltage } t snap
    exact ⟨_, _, _, _, _, _, e⟩
  · exact ⟨_, _, _, _, _, _, rfl⟩

theorem assess_eq (c : Controller) (t : Moment) (snap : Snapshot) :
    ∃ published log, c.assess t snap =
      { c with
        engine := (c.engine.evaluate snap).2
        publishedLimit := published
        log := log
        faults := (c.engine.evaluate snap).1.faults
        advisories := (c.engine.evaluate snap).1.advisories
        limit := (c.engine.evaluate snap).1.limit } := by
  obtain ⟨published, log, e⟩ := publishLimit_eq
    (publish { c with engine := (c.engine.evaluate snap).2 }
      (faultEvents t.wall c.faults (c.engine.evaluate snap).1.faults ++
        advisoryEvents t.wall c.advisories (c.engine.evaluate snap).1.advisories))
    t.wall (c.engine.evaluate snap).1.limit
  unfold assess
  dsimp only
  rw [e]
  exact ⟨_, _, rfl⟩

theorem prepared_prepare (c : Controller) (t : Moment) (fs : Files) :
    Prepared c t fs (c.prepare t fs) := by
  unfold prepare
  obtain ⟨published, log, e⟩ := assess_eq (c.updateKeepAlive t fs) t c.pack.snapshot
  obtain ⟨bank, pack, pending, balancing, cycle, log', e'⟩ :=
    rebalance_eq ((c.updateKeepAlive t fs).assess t c.pack.snapshot) t c.pack.snapshot c.faults
  rw [e', e]
  constructor <;> rfl

/-- The last step of a tick steps the contactor, with the cause that blocks it by then. -/
theorem tickArmed_contactor (c : Controller) (t : Moment) (fs : Files) :
    (c.tickArmed t fs).2.contactor =
      (c.contactor.perform t.now (.step (c.prepare t fs).blockingCause)).contactor := by
  rw [← (prepared_prepare c t fs).contactor]
  rfl

/-! ## 3. Arming, starting, shutting down -/

theorem arm_of_armed {c : Controller} (h : c.armed = true) (t : Moment) : c.arm t = (none, c) := by
  simp [arm, h]

/-- The command with which a controller arms. -/
def armingCall (c : Controller) (t : Moment) : ContactorCall :=
  .forceOpen (if c.keepAlive.expired t.wall then .keepAliveExpired else .startup)

theorem arm_of_refused {c : Controller} (unarmed : c.armed = false) (t : Moment) {fault : LinkFault}
    (refused : c.contactor.output.next = some fault) :
    ∃ log, c.arm t = (some (.ofOutput fault), { c with
      contactor := (c.contactor.perform t.now (c.armingCall t)).contactor
      expired := c.keepAlive.expired t.wall
      log := log }) := by
  have failure := c.contactor.forceOpen_failure t.now
  rw [refused] at failure
  simp only [arm, unarmed, publish, take, failure, Option.map_some, Bool.false_eq_true, if_false]
  exact ⟨_, rfl⟩

theorem arm_of_applied {c : Controller} (unarmed : c.armed = false) (t : Moment)
    (applied : c.contactor.output.next = none) :
    ∃ log, c.arm t = (none, { c with
      contactor := (c.contactor.perform t.now (c.armingCall t)).contactor
      expired := c.keepAlive.expired t.wall
      armed := true
      log := log }) := by
  have failure := c.contactor.forceOpen_failure t.now
  rw [applied] at failure
  simp only [arm, unarmed, publish, take, failure, Option.map_none, Bool.false_eq_true, if_false]
  exact ⟨_, rfl⟩

/-- **Arming is one command to open**, which is refused or applied. A controller that is armed
    already is left alone. -/
theorem arm_cases (c : Controller) (t : Moment) :
    c.armed = true ∧ c.arm t = (none, c) ∨
      (∃ fault log, c.armed = false ∧ c.contactor.output.next = some fault ∧
        c.arm t = (some (.ofOutput fault), { c with
          contactor := (c.contactor.perform t.now (c.armingCall t)).contactor
          expired := c.keepAlive.expired t.wall
          log := log })) ∨
      ∃ log, c.armed = false ∧ c.contactor.output.next = none ∧
        c.arm t = (none, { c with
          contactor := (c.contactor.perform t.now (c.armingCall t)).contactor
          expired := c.keepAlive.expired t.wall
          armed := true
          log := log }) := by
  rcases Bool.eq_false_or_eq_true c.armed with armed | unarmed
  · exact .inl ⟨armed, arm_of_armed armed t⟩
  · cases next : c.contactor.output.next with
    | some fault =>
        obtain ⟨log, e⟩ := arm_of_refused unarmed t next
        exact .inr (.inl ⟨fault, log, unarmed, rfl, e⟩)
    | none =>
        obtain ⟨log, e⟩ := arm_of_applied unarmed t next
        exact .inr (.inr ⟨log, unarmed, rfl, e⟩)

theorem start_cases (c : Controller) (t : Moment) :
    (c.start t).2 = c ∨
      ∃ scheduler, (c.start t).2 = { (c.arm t).2 with scheduler := scheduler } := by
  unfold start
  split
  · exact .inl rfl
  · generalize c.arm t = result
    obtain ⟨_ | f, next⟩ := result
    · exact .inr ⟨_, rfl⟩
    · exact .inr ⟨next.scheduler, rfl⟩

theorem shutdown_cases (c : Controller) (t : Moment) :
    (c.shutdown t).2 = c ∨ ∃ log, (c.shutdown t).2 = { c with
      contactor := (c.contactor.perform t.now (.forceOpen .shutdown)).contactor
      stopped := true
      bank := (c.bank.command []).2
      scheduler := none
      log := log } := by
  unfold shutdown
  split
  · exact .inl rfl
  · exact .inr ⟨_, rfl⟩

theorem worked_eq (c : Controller) (now : Nat) (link : σ) :
    ∃ pack scheduler, c.worked now link = { c with pack := pack, scheduler := scheduler } := by
  unfold worked
  split
  · exact ⟨_, _, rfl⟩
  · exact ⟨_, _, rfl⟩

theorem pollOnce_eq (c : Controller) (now : Nat) (link : σ) :
    ∃ pack, (c.pollOnce now link).2.2.1 = { c with pack := pack } := by
  unfold pollOnce
  split
  · exact ⟨_, rfl⟩
  · exact ⟨_, rfl⟩

/-! ## 4. What a call does to the contactor -/

theorem arm_contactor (c : Controller) (t : Moment) :
    ∃ calls, (c.arm t).2.contactor = c.contactor.performAll t.now calls := by
  rcases c.arm_cases t with ⟨-, e⟩ | ⟨fault, log, -, -, e⟩ | ⟨log, -, -, e⟩
  · exact ⟨[], by rw [e]; rfl⟩
  · exact ⟨[c.armingCall t], by rw [e]; rfl⟩
  · exact ⟨[c.armingCall t], by rw [e]; rfl⟩

/-- A tick is refused after a shutdown, fails with the arming, or is the tick of the armed
    controller. -/
theorem tick_cases (c : Controller) (t : Moment) (fs : Files) :
    c.stopped = true ∧ c.tick t fs = (.error shutDown, c) ∨
      c.stopped = false ∧ ((∃ f, (c.arm t).1 = some f ∧ c.tick t fs = (.error f, (c.arm t).2)) ∨
        (c.arm t).1 = none ∧ c.tick t fs =
          (.ok ((c.arm t).2.tickArmed t fs).1, ((c.arm t).2.tickArmed t fs).2)) := by
  cases hs : c.stopped with
  | true => exact .inl ⟨rfl, by simp [tick, hs]⟩
  | false =>
      refine .inr ⟨rfl, ?_⟩
      unfold tick
      rw [hs]
      generalize c.arm t = armed
      obtain ⟨_ | f, next⟩ := armed
      · exact .inr ⟨rfl, rfl⟩
      · exact .inl ⟨f, rfl, rfl⟩

/-- The tick of a controller that is armed and was not shut down. -/
theorem tick_of_armed {c : Controller} (armed : c.armed = true) (running : c.stopped = false)
    (t : Moment) (fs : Files) :
    c.tick t fs = (.ok (c.tickArmed t fs).1, (c.tickArmed t fs).2) := by
  unfold tick
  rw [running, arm_of_armed armed]
  rfl

theorem tick_contactor (c : Controller) (t : Moment) (fs : Files) :
    ∃ calls, (c.tick t fs).2.contactor = c.contactor.performAll t.now calls := by
  obtain ⟨calls, armed⟩ := c.arm_contactor t
  rcases c.tick_cases t fs with ⟨-, e⟩ | ⟨-, ⟨f, -, e⟩ | ⟨-, e⟩⟩
  · exact ⟨[], by rw [e]; rfl⟩
  · exact ⟨calls, by rw [e]; exact armed⟩
  · refine ⟨calls ++ [.step ((c.arm t).2.prepare t fs).blockingCause], ?_⟩
    rw [e, tickArmed_contactor, armed]
    simp [Contactor.performAll]

theorem start_contactor (c : Controller) (t : Moment) :
    ∃ calls, (c.start t).2.contactor = c.contactor.performAll t.now calls := by
  rcases c.start_cases t with e | ⟨scheduler, e⟩
  · exact ⟨[], by rw [e]; rfl⟩
  · obtain ⟨calls, armed⟩ := c.arm_contactor t
    exact ⟨calls, by rw [e]; exact armed⟩

theorem shutdown_contactor (c : Controller) (t : Moment) :
    ∃ calls, (c.shutdown t).2.contactor = c.contactor.performAll t.now calls := by
  rcases c.shutdown_cases t with e | ⟨log, e⟩
  · exact ⟨[], by rw [e]; rfl⟩
  · exact ⟨[.forceOpen .shutdown], by rw [e]; rfl⟩

/-- **All that a call does to the contactor is to call it, at the time of the call.** -/
theorem perform_contactor (c : Controller) (d : Deed σ) :
    ∃ calls, (c.perform d).contactor = c.contactor.performAll d.moment.now calls := by
  obtain ⟨t, call⟩ := d
  cases call with
  | arm => exact c.arm_contactor t
  | start => exact c.start_contactor t
  | tick files => exact c.tick_contactor t files
  | shutdown => exact c.shutdown_contactor t
  | drop =>
      simp only [perform, drop]
      split
      · exact c.shutdown_contactor t
      · exact ⟨[], rfl⟩
  | work link =>
      obtain ⟨pack, scheduler, e⟩ := c.worked_eq t.now link
      exact ⟨[], by simp only [perform, e]; rfl⟩
  | pollOnce link =>
      obtain ⟨pack, e⟩ := c.pollOnce_eq t.now link
      exact ⟨[], by simp only [perform, e]; rfl⟩
  | setLockout | renew | renewUntil | addWork | status => exact ⟨[], rfl⟩

/-! ## 5. Calls by what they are made of -/

/-- The controller is armed once arming has not failed. -/
theorem arm_armed {c : Controller} {t : Moment} (h : (c.arm t).1 = none) :
    (c.arm t).2.armed = true := by
  rcases c.arm_cases t with ⟨armed, e⟩ | ⟨fault, log, -, -, e⟩ | ⟨log, -, -, e⟩
  · rw [e]; exact armed
  · rw [e] at h; cases h
  · rw [e]

theorem arm_stopped (c : Controller) (t : Moment) : (c.arm t).2.stopped = c.stopped := by
  rcases c.arm_cases t with ⟨-, e⟩ | ⟨fault, log, -, -, e⟩ | ⟨log, -, -, e⟩ <;> rw [e]

theorem renew_eq (c : Controller) (t : Moment) (fs : Files) :
    ∃ keepAlive, (c.renew t fs).2.1 = { c with keepAlive := keepAlive } :=
  ⟨(c.keepAlive.renew fs t.wall).2.1, rfl⟩

theorem renewUntil_eq (c : Controller) (t : Moment) (fs : Files) (deadline : Nat) :
    ∃ keepAlive, (c.renewUntil t fs deadline).2.1 = { c with keepAlive := keepAlive } :=
  ⟨(c.keepAlive.renewUntil fs t.wall deadline).2.1, rfl⟩

/-- **What holds of a controller after a call**: it is enough to look at arming, at the tick once it
    is armed, and at the shutdown. All other calls change no more than the pack, the scheduler, the
    lockout and the keep-alive, and only polling changes what is seen of the pack. -/
theorem perform_cases {P : Controller → Prop} {c : Controller} {d : Deed σ} (same : P c)
    (arm : P (c.arm d.moment).2)
    (tick : ∀ fs : Files, (c.arm d.moment).2.armed = true → c.stopped = false →
      P ((c.arm d.moment).2.tickArmed d.moment fs).2)
    (shutdown : P (c.shutdown d.moment).2)
    (idle : ∀ (next : Controller) (pack : Pack) (scheduler : Option Scheduler) (lockout : Bool)
      (keepAlive : KeepAlive), (d.call.polls = false → pack.snapshot = next.pack.snapshot) →
      P next → P { next with
        pack := pack, scheduler := scheduler, lockout := lockout, keepAlive := keepAlive }) :
    P (c.perform d) := by
  obtain ⟨t, call⟩ := d
  cases call with
  | arm => exact arm
  | start =>
      simp only [perform]
      rcases c.start_cases t with e | ⟨scheduler, e⟩
      · rw [e]; exact same
      · rw [e]; exact idle (c.arm t).2 _ scheduler _ _ (fun _ => rfl) arm
  | tick files =>
      simp only [perform]
      rcases c.tick_cases t files with ⟨-, e⟩ | ⟨running, ⟨f, -, e⟩ | ⟨ok, e⟩⟩
      · rw [e]; exact same
      · rw [e]; exact arm
      · rw [e]; exact tick files (arm_armed ok) running
  | shutdown => exact shutdown
  | drop =>
      simp only [perform, drop]
      split
      · exact shutdown
      · exact same
  | work link =>
      obtain ⟨pack, scheduler, e⟩ := c.worked_eq t.now link
      simp only [perform, e]
      exact idle c pack scheduler _ _ nofun same
  | pollOnce link =>
      obtain ⟨pack, e⟩ := c.pollOnce_eq t.now link
      simp only [perform, e]
      exact idle c pack _ _ _ nofun same
  | renew files =>
      obtain ⟨keepAlive, e⟩ := c.renew_eq t files
      simp only [perform, e]
      exact idle c _ _ _ keepAlive (fun _ => rfl) same
  | renewUntil files deadline =>
      obtain ⟨keepAlive, e⟩ := c.renewUntil_eq t files deadline
      simp only [perform, e]
      exact idle c _ _ _ keepAlive (fun _ => rfl) same
  | setLockout on => exact idle c _ _ on _ (fun _ => rfl) same
  | addWork ws ampereSeconds =>
      exact idle c (c.addWork ws ampereSeconds).pack _ _ _ (fun _ => rfl) same
  | status => exact same

end Controller

end PackGuard
