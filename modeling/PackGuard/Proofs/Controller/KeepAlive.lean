import PackGuard.Proofs.Controller.FailSafe
import PackGuard.Proofs.KeepAlive.Sightings

/-!
# The contactor is closed only on time that was granted

A controller looks into the store of its keep-alive when it is built and in every tick that gets
past arming, and it is renewed from outside. `sightings` is all that it has seen so over a run, with
the files given anew to every call.

`closed_only_when_granted`: **a tick that leaves the contactor closed, with no command of it
refused, comes less than one period after a renewal, or after a stored deadline was seen that had
not been left there.** The bound on the deadline is carried over the run by `bounded_after`, and is
brought to the contactor by the tick that opens it for an expired keep-alive.
-/

namespace PackGuard

namespace Contactor

/-- Several calls at one time only add to what was sent. -/
theorem performAll_log (c : Contactor) (now : Nat) (calls : List ContactorCall) :
    c.output.log <:+ (c.performAll now calls).output.log :=
  performAll_keeps (P := fun c' => c.output.log <:+ c'.output.log)
    (fun _ _ _ m h => h.trans ⟨_, (moves_log m).symm⟩) calls (List.suffix_refl _)

end Contactor

namespace Controller

open Sighting

variable {σ : Type}

/-! ## 1. What a run sees -/

/-- What a call sees of renewals and of the store. A tick looks into the store once it is past
    arming. -/
def sighted (c : Controller) (d : Deed σ) : List Sighting :=
  match d.call with
  | .tick files =>
    if c.stopped || (c.arm d.moment).1.isSome then []
    else c.keepAlive.sighted files d.moment.wall
  | .renew files => ofRenewal d.moment.wall (c.renew d.moment files).1
  | .renewUntil files deadline =>
    ofRenewal d.moment.wall (c.renewUntil d.moment files deadline).1
  | _ => []

variable [SensorLink σ]

/-- What was seen over a run of a controller that was built at a time with these files, the latest
    first. -/
def sightings (c : Controller) (wall : Nat) (stored : Files) : List (Deed σ) → List Sighting
  | [] => (KeepAlive.new c.settings.keepAlive).sighted stored wall
  | d :: deeds => (c.after deeds).sighted d ++ c.sightings wall stored deeds

/-! ## 2. The bound over a run -/

theorem arm_keepAlive (c : Controller) (t : Moment) : (c.arm t).2.keepAlive = c.keepAlive := by
  rcases c.arm_cases t with ⟨-, e⟩ | ⟨fault, log, -, -, e⟩ | ⟨log, -, -, e⟩ <;> rw [e]

theorem start_keepAlive (c : Controller) (t : Moment) :
    (c.start t).2.keepAlive = c.keepAlive := by
  rcases c.start_cases t with e | ⟨scheduler, e⟩
  · rw [e]
  · rw [e]; exact c.arm_keepAlive t

theorem shutdown_keepAlive (c : Controller) (t : Moment) :
    (c.shutdown t).2.keepAlive = c.keepAlive := by
  rcases c.shutdown_cases t with e | ⟨log, e⟩ <;> rw [e]

theorem tickArmed_keepAlive (c : Controller) (t : Moment) (fs : Files) :
    (c.tickArmed t fs).2.keepAlive = (c.keepAlive.refresh fs t.wall).2 :=
  (prepared_prepare c t fs).keepAlive

omit [SensorLink σ] in
theorem bounded_tick {s : KeepAliveSettings} {c : Controller} {seen : List Sighting} {t : Moment}
    (h : KeepAlive.Bounded s c.keepAlive seen t.wall) (fs : Files) :
    KeepAlive.Bounded s (c.tick t fs).2.keepAlive
      (c.sighted (σ := σ) ⟨t, .tick fs⟩ ++ seen) t.wall := by
  rcases c.tick_cases t fs with ⟨stopped, e⟩ | ⟨running, ⟨f, failed, e⟩ | ⟨passed, e⟩⟩
  · rw [e]
    simpa [sighted, stopped] using h
  · rw [e, arm_keepAlive]
    simpa [sighted, failed] using h
  · rw [e, tickArmed_keepAlive, arm_keepAlive]
    simpa [sighted, running, passed] using KeepAlive.bounded_refresh h fs

/-- **Every call keeps the bound.** -/
theorem bounded_perform {s : KeepAliveSettings} {c : Controller} {seen : List Sighting} {d : Deed σ}
    (h : KeepAlive.Bounded s c.keepAlive seen d.moment.wall) :
    KeepAlive.Bounded s (c.perform d).keepAlive (c.sighted d ++ seen) d.moment.wall := by
  obtain ⟨t, call⟩ := d
  cases call with
  | tick files => exact bounded_tick h files
  | renew files =>
      simp only [perform, sighted, renew, KeepAlive.renew]
      exact KeepAlive.bounded_renewUntil h files _
  | renewUntil files deadline =>
      simp only [perform, sighted, renewUntil]
      exact KeepAlive.bounded_renewUntil h files deadline
  | arm => simpa [perform, sighted, arm_keepAlive] using h
  | start => simpa [perform, sighted, start_keepAlive] using h
  | shutdown => simpa [perform, sighted, shutdown_keepAlive] using h
  | drop =>
      simp only [perform, sighted, drop]
      split
      · simpa [shutdown_keepAlive] using h
      · exact h
  | work link =>
      obtain ⟨pack, scheduler, e⟩ := c.worked_eq t.now link
      simp only [perform, e]
      exact h
  | pollOnce link =>
      obtain ⟨pack, e⟩ := c.pollOnce_eq t.now link
      simp only [perform, e]
      exact h
  | setLockout | addWork | status => exact h

/-! ## 3. What a tick sends -/

/-- What arming sends is among what the tick sends. -/
theorem tickArmed_since (c : Controller) (t : Moment) (fs : Files) :
    ((c.arm t).2.tickArmed t fs).2.contactor.output.since c.contactor.output =
      ((c.arm t).2.tickArmed t fs).2.contactor.output.since (c.arm t).2.contactor.output ++
        (c.arm t).2.contactor.output.since c.contactor.output := by
  obtain ⟨calls, e⟩ := c.arm_contactor t
  refine Actuator.since_append ?_ ?_
  · exact ⟨_, (Contactor.moves_log (tickArmed_moves (c.arm t).2 t fs)).symm⟩
  · rw [e]; exact Contactor.performAll_log _ _ _

/-- Arming sends a command to open, and fails only if it is refused. -/
theorem arm_sends {c : Controller} (unarmed : c.armed = false) (t : Moment) :
    ∃ a ∈ (c.arm t).2.contactor.output.since c.contactor.output, a.value = .opened ∧
      ((c.arm t).1.isSome = true → a.applied = false) := by
  have mem : ∀ cause, ⟨.opened, c.contactor.output.next⟩ ∈
      (c.contactor.forceOpen t.now cause).contactor.output.since c.contactor.output := by
    intro cause
    rw [Contactor.forceOpen_since]
    exact List.mem_singleton_self _
  rcases c.arm_cases t with ⟨armed, -⟩ | ⟨fault, log, -, refused, e⟩ | ⟨log, -, -, e⟩
  · rw [unarmed] at armed; cases armed
  · rw [e]
    exact ⟨_, mem _, rfl, fun _ => by simp [Attempt.applied, refused]⟩
  · rw [e]
    exact ⟨_, mem _, rfl, fun failed => by cases failed⟩

/-- A tick that leaves the contactor closed, with no command refused, has a keep-alive that is not
    expired. -/
theorem valid_of_closed {c : Controller} (steady : c.contactor.Steady)
    (commanded : c.contactor.position.isSome = true) {t : Moment} {fs : Files}
    (applied : ∀ a ∈ (c.tickArmed t fs).2.contactor.output.since c.contactor.output,
      a.applied = true)
    (closed : (c.tickArmed t fs).2.contactor.output.current = some .closed) :
    (c.prepare t fs).expired = false := by
  cases expired : (c.prepare t fs).expired with
  | false => rfl
  | true =>
      rcases tickArmed_safe steady commanded t fs (.inr expired) with
        ⟨-, opened⟩ | ⟨-, a, ha, -, refused⟩
      · rw [opened] at closed; cases closed
      · rw [applied a ha] at refused; cases refused

/-- With an expired keep-alive a tick commands the contactor open, unless it is open. -/
theorem opens_of_expired {c : Controller} (steady : c.contactor.Steady) (ready : c.Ready)
    {t : Moment} {fs : Files} (expired : ((c.arm t).2.prepare t fs).expired = true)
    (closed : c.armed = false ∨ c.contactor.output.current = some .closed) :
    ∃ a ∈ ((c.arm t).2.tickArmed t fs).2.contactor.output.since c.contactor.output,
      a.value = .opened := by
  rw [tickArmed_since]
  cases armed : c.armed with
  | false =>
      obtain ⟨a, ha, opened, -⟩ := arm_sends armed t
      exact ⟨a, List.mem_append_right _ ha, opened⟩
  | true =>
      have last := closed.resolve_left (by simp [armed])
      obtain ⟨p, hp⟩ := Option.isSome_iff_exists.1 (ready armed)
      have position : c.contactor.position = some .closed :=
        hp.trans ((steady.current p hp).symm.trans last)
      rw [arm_of_armed armed] at expired ⊢
      obtain ⟨cause, e, safety⟩ := blockingCause_safety (.inr expired)
      have m := tickArmed_moves c t fs
      rw [e] at m
      obtain ⟨a, ha, opened⟩ := Contactor.opens_of_blocked m safety (steady.closed_iff.1 position)
      exact ⟨a, List.mem_append_left _ ha, opened⟩

/-! ## 4. The tick and the bound -/

section Tick

variable {s : Settings} {c : Controller} {record : List Sent} {seen : List Sighting} {t : Moment}
  {fs : Files}

/-- A tick that leaves the contactor closed, with no command refused, comes less than one period
    after the last grant. -/
theorem granted_of_closed (sound : Sound s c record)
    (h : KeepAlive.Bounded s.keepAlive c.keepAlive seen t.wall) (on : 0 < s.keepAlive.period)
    (running : c.stopped = false)
    (applied : ∀ a ∈ (c.tick t fs).2.contactor.output.since c.contactor.output, a.applied = true)
    (closed : (c.tick t fs).2.contactor.output.current = some .closed) :
    ∃ since, granted (c.sighted (σ := σ) ⟨t, .tick fs⟩ ++ seen) = some since ∧ since ≤ t.wall ∧
      t.wall < since + s.keepAlive.period := by
  have looked := bounded_tick (σ := σ) h fs
  rcases c.tick_cases t fs with ⟨stopped, -⟩ | ⟨-, ⟨f, failed, e⟩ | ⟨passed, e⟩⟩
  · rw [running] at stopped; cases stopped
  · -- arming is one command, and it was refused
    have unarmed : c.armed = false := by
      cases armed : c.armed with
      | false => rfl
      | true => rw [arm_of_armed armed] at failed; cases failed
    obtain ⟨a, ha, -, refused⟩ := arm_sends unarmed t
    rw [e] at applied
    have contrary := (applied a ha).symm.trans (refused (by rw [failed]; rfl))
    cases contrary
  · have armed : Sound s (c.arm t).2 _ := sound_perform (σ := σ) sound ⟨t, .arm⟩
    rw [e] at looked applied closed
    rw [tickArmed_since] at applied
    have valid := valid_of_closed armed.steady (armed.ready (arm_armed passed))
      (fun a ha => applied a (List.mem_append_left _ ha)) closed
    rw [(prepared_prepare _ t fs).expired, ← tickArmed_keepAlive] at valid
    exact KeepAlive.granted_of_not_expired looked on valid

/-- No tick extends the deadline for a store that is gone, cannot be read or stands as it was
    left. -/
theorem tick_no_later (h : KeepAlive.Bounded s.keepAlive c.keepAlive seen t.wall) {path : String}
    (hp : s.keepAlive.path = some path)
    (old : ∀ found, Deadline.read fs path = .ok found → found = none ∨ found = left seen) {d : Nat}
    (hd : (c.tick t fs).2.keepAlive.deadline = some d) :
    ∃ d₀, c.keepAlive.deadline = some d₀ ∧ d ≤ d₀ := by
  rcases c.tick_cases t fs with ⟨-, e⟩ | ⟨-, ⟨f, -, e⟩ | ⟨-, e⟩⟩
  · rw [e] at hd
    exact ⟨d, hd, Nat.le_refl _⟩
  · rw [e, arm_keepAlive] at hd
    exact ⟨d, hd, Nat.le_refl _⟩
  · rw [e, tickArmed_keepAlive, arm_keepAlive] at hd
    exact KeepAlive.refresh_no_later h hp old t.wall hd

/-- The tick that sees a stored deadline which is reached, and was not left there, opens the
    contactor, or fails to. -/
theorem tick_opens (sound : Sound s c record)
    (h : KeepAlive.Bounded s.keepAlive c.keepAlive seen t.wall) (on : 0 < s.keepAlive.period)
    {path : String} (hp : s.keepAlive.path = some path) {outcome : TickOutcome}
    (ok : (c.tick t fs).1 = .ok outcome) {d : Nat} (found : Deadline.read fs path = .ok (some d))
    (new : some d ≠ left seen) (reached : d ≤ t.wall) :
    outcome.expired = true ∧
    ((c.tick t fs).2.contactor.state = .disengaged ∧
        (c.tick t fs).2.contactor.output.current = some .opened ∨
      (c.tick t fs).2.contactor.state = .disengaging ∧
        ∃ a ∈ (c.tick t fs).2.contactor.output.since c.contactor.output,
          a.value = .opened ∧ a.applied = false) ∧
    (c.armed = false ∨ c.contactor.output.current = some .closed →
      ∃ a ∈ (c.tick t fs).2.contactor.output.since c.contactor.output, a.value = .opened) := by
  rcases c.tick_cases t fs with ⟨-, e⟩ | ⟨-, ⟨f, -, e⟩ | ⟨passed, e⟩⟩
  · rw [e] at ok; cases ok
  · rw [e] at ok; cases ok
  · have armed : Sound s (c.arm t).2 _ := sound_perform (σ := SimulatedSensor) sound ⟨t, .arm⟩
    rw [e] at ok ⊢
    obtain rfl := Except.ok.inj ok
    have expired : ((c.arm t).2.prepare t fs).expired = true := by
      rw [(prepared_prepare _ t fs).expired, arm_keepAlive]
      exact KeepAlive.expired_of_reached h on hp found new reached
    refine ⟨expired, ?_, opens_of_expired sound.steady sound.ready expired⟩
    rw [tickArmed_since]
    rcases tickArmed_safe armed.steady (armed.ready (arm_armed passed)) t fs (.inr expired) with
      opened | ⟨state, a, ha, refused⟩
    · exact .inl opened
    · exact .inr ⟨state, a, List.mem_append_left _ ha, refused⟩

end Tick

/-! ## 5. The contactor over a run -/

section Run

variable {s : Settings} {relay : Actuator Position} {bank : Actuator (List CellIndex)} {wall : Nat}
  {stored : Files} {c : Controller}

theorem bounded_build (built : build (some s) (some relay) (some bank) wall stored = .ok c) :
    KeepAlive.Bounded s.keepAlive c.keepAlive
      ((KeepAlive.new c.settings.keepAlive).sighted stored wall) wall := by
  rw [build_eq built]
  have h := KeepAlive.bounded_refresh (KeepAlive.bounded_new s.keepAlive wall) stored
  rwa [List.append_nil] at h

/-- **The bound on the deadline holds after every run** on which the wall clock does not go back. -/
theorem bounded_after (built : build (some s) (some relay) (some bank) wall stored = .ok c)
    (deeds : List (Deed σ)) (ordered : Chronological wall deeds) :
    KeepAlive.Bounded s.keepAlive (c.after deeds).keepAlive (c.sightings wall stored deeds)
      (clock wall deeds) := by
  induction deeds with
  | nil => exact bounded_build built
  | cons d deeds ih => exact bounded_perform ((ih ordered.2).later ordered.1)

/-- **Closed only on granted time.** For a keep-alive that is on and any run on which the wall clock
    does not go back, whatever becomes of the store and whatever is refused: no deadline is later
    than one period after the last grant. A tick after which the output was closed last, and of
    which no command was refused, comes less than one period after the last grant, its own look at
    the store included. A store that is gone, cannot be read or stands as it was left does not
    extend the deadline. A stored deadline that had not been left there and is already reached opens
    the contactor in the tick that sees it, with a command to open unless it is open. -/
theorem closed_only_when_granted
    (built : build (some s) (some relay) (some bank) wall stored = .ok c)
    (on : 0 < s.keepAlive.period) (deeds : List (Deed σ)) (ordered : Chronological wall deeds) :
    (∀ d, (c.after deeds).keepAlive.deadline = some d →
      ∃ since, granted (c.sightings wall stored deeds) = some since ∧
        d ≤ since + s.keepAlive.period) ∧
    ∀ t fs result next, clock wall deeds ≤ t.wall → (c.after deeds).stopped = false →
      (c.after deeds).tick t fs = (result, next) →
      ((∀ a ∈ next.contactor.output.since (c.after deeds).contactor.output, a.applied = true) →
        next.contactor.output.current = some .closed →
          ∃ since, granted (c.sightings wall stored (⟨t, .tick fs⟩ :: deeds)) = some since ∧
            since ≤ t.wall ∧ t.wall < since + s.keepAlive.period) ∧
      ∀ path, s.keepAlive.path = some path →
        ((∀ found, Deadline.read fs path = .ok found →
            found = none ∨ found = left (c.sightings wall stored deeds)) →
          ∀ d, next.keepAlive.deadline = some d →
            ∃ d₀, (c.after deeds).keepAlive.deadline = some d₀ ∧ d ≤ d₀) ∧
        ∀ outcome d, result = .ok outcome → Deadline.read fs path = .ok (some d) →
          some d ≠ left (c.sightings wall stored deeds) → d ≤ t.wall →
            outcome.expired = true ∧
            (next.contactor.state = .disengaged ∧ next.contactor.output.current = some .opened ∨
              next.contactor.state = .disengaging ∧
                ∃ a ∈ next.contactor.output.since (c.after deeds).contactor.output,
                  a.value = .opened ∧ a.applied = false) ∧
            ((c.after deeds).armed = false ∨
                (c.after deeds).contactor.output.current = some .closed →
              ∃ a ∈ next.contactor.output.since (c.after deeds).contactor.output,
                a.value = .opened) := by
  have bounded := bounded_after built deeds ordered
  have sound := sound_after built deeds
  refine ⟨bounded.deadline, ?_⟩
  intro t fs result next late running ticked
  obtain rfl : ((c.after deeds).tick t fs).1 = result := congrArg Prod.fst ticked
  obtain rfl : ((c.after deeds).tick t fs).2 = next := congrArg Prod.snd ticked
  have now := bounded.later late
  refine ⟨granted_of_closed sound now on running, fun path hp => ⟨fun old d => ?_, ?_⟩⟩
  · exact tick_no_later now hp old
  · intro outcome d ok found new reached
    exact tick_opens sound now on hp ok found new reached

end Run

/-- A pack whose keep-alive has a store. -/
def storedSettings : Settings := plainSettings { period := 1000, path := some "/deadline" }

/-- A run that closes the contactor at 300, on a deadline that was first seen at 100. -/
def closingRun : List (Deed SimulatedSensor) :=
  [⟨⟨300, 300⟩, .tick (.storing 5000)⟩, ⟨⟨100, 100⟩, .tick (.storing 5000)⟩, ⟨⟨0, 0⟩, .tick {}⟩,
    ⟨⟨0, 0⟩, .pollOnce { counts := [(.packCurrent, 20)] }⟩]

/-- At 400 the contactor of that run is still closed, and it is opened if the store then holds a
    deadline of 350. -/
theorem opens_when_reached :
    ∃ c since next,
      build (some storedSettings) (some {}) (some {}) 0 {} = .ok c ∧
      ((c.after closingRun).tick ⟨400, 400⟩ (.storing 5000)).2.contactor.output.current =
        some .closed ∧
      since = 100 ∧ 400 < since + 1000 ∧
      next = ((c.after closingRun).tick ⟨400, 400⟩ (.storing 350)).2 ∧
      ∃ a ∈ next.contactor.output.since (c.after closingRun).contactor.output,
        a.value = .opened := by
  have built := build_of_sound (s := storedSettings) (by decide) {} {} 0 {}
  have ticked := tick_of_armed (c := (assembled storedSettings {} {} 0 {}).after closingRun)
    (by decide +kernel) (by decide +kernel) ⟨400, 400⟩ (.storing 350)
  have found : Deadline.read (.storing 350) "/deadline" = .ok (some 350) := by
    have e : (Deadline.read (.storing 350) "/deadline").toOption = some (some 350) := by
      decide +kernel
    generalize Deadline.read (.storing 350) "/deadline" = answer at e ⊢
    cases answer with
    | error f => cases e
    | ok stored => exact congrArg Except.ok (Option.some.inj e)
  obtain ⟨-, tick⟩ := closed_only_when_granted built (by decide) closingRun
    (by simp [Chronological, clock, closingRun])
  obtain ⟨closed, -⟩ := tick ⟨400, 400⟩ (.storing 5000) _ _ (by decide) (by decide +kernel)
    (Prod.eta _).symm
  obtain ⟨since, last, -, short⟩ := closed (by decide +kernel) (by decide +kernel)
  have first : some since = some 100 := last.symm.trans (by decide +kernel)
  obtain ⟨-, reached⟩ := tick ⟨400, 400⟩ (.storing 350) _ _ (by decide) (by decide +kernel) ticked
  obtain ⟨-, opened⟩ := reached "/deadline" rfl
  refine ⟨_, since, _, built, by decide +kernel, Option.some.inj first, short, rfl, ?_⟩
  rw [ticked]
  exact (opened _ 350 rfl found (by decide +kernel) (by decide)).2.2 (.inr (by decide +kernel))

end Controller

end PackGuard
