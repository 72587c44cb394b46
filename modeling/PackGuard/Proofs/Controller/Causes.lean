import PackGuard.Proofs.Controller.EventLog
import PackGuard.Proofs.Controller.FailSafe
import PackGuard.Proofs.Controller.Shutdown

/-!
# The cause that is reported

What blocks the contactor is reported by priority: an expired keep-alive before the first fault, a
fault before the lockout. A contactor that is held open takes the foremost cause over in every tick.
One that is on its way to open does not: it **tries again for the cause it began with**, and reports
that one when the command is applied, whatever has come up or gone since.

* `Foremost`: the foremost cause, in terms of what a tick found.
* `cause_of_blocked`: the cause that a contactor reports under a block.
* `disengaging_perform`: a contactor is on its way to open since a tick that was refused.
* `reports_foremost_iff`: **an open contactor reports the foremost cause of the tick, unless it was on
  its way to open for another**.
* `reports_past_cause`: a run on which it was.
-/

namespace PackGuard

/-! ## 1. The foremost cause -/

/-- **The foremost of the causes that hold at a tick**, with a lockout or without. -/
inductive Foremost (o : TickOutcome) (lockout : Bool) : Cause → Prop where
  | expired (expired : o.expired = true) : Foremost o lockout .keepAliveExpired
  | fault {k : FaultKey} (valid : o.expired = false) (active : k ∈ o.faults.keys)
      (first : ∀ other ∈ o.faults.keys, Ranked.rank k ≤ Ranked.rank other) :
      Foremost o lockout (.fault k.entity k.kind)
  | lockout (valid : o.expired = false) (clean : o.faults.isEmpty = true)
      (locked : lockout = true) : Foremost o lockout .lockout

/-- The first key is the one of the least rank. -/
theorem FaultSet.first?_eq_some_iff {faults : FaultSet} {k : FaultKey} :
    faults.first? = some k ↔
      k ∈ faults.keys ∧ ∀ other ∈ faults.keys, Ranked.rank k ≤ Ranked.rank other := by
  have ascending : faults.keys.Pairwise (fun a b => Ranked.rank a < Ranked.rank b) :=
    List.pairwise_map.2 faults.ordered
  unfold FaultSet.first?
  cases keys : faults.keys with
  | nil => simp
  | cons first rest =>
      rw [keys] at ascending
      have before := (List.pairwise_cons.1 ascending).1
      constructor
      · rintro e
        obtain rfl : first = k := Option.some.inj e
        refine ⟨List.mem_cons_self, fun other mem => ?_⟩
        rcases List.mem_cons.1 mem with rfl | later
        · exact Nat.le_refl _
        · exact (before other later).le
      · rintro ⟨mem, least⟩
        rcases List.mem_cons.1 mem with rfl | later
        · rfl
        · exact absurd (before k later) (Nat.not_lt.2 (least first List.mem_cons_self))

theorem FaultSet.first?_eq_none_iff {faults : FaultSet} :
    faults.first? = none ↔ faults.isEmpty = true := by
  simp [FaultSet.first?, RankedMap.keys, RankedMap.isEmpty]

/-- No two causes are foremost. -/
theorem Foremost.unique {o : TickOutcome} {lockout : Bool} {a b : Cause} (ha : Foremost o lockout a)
    (hb : Foremost o lockout b) : a = b := by
  have empty {k : FaultKey} (active : k ∈ o.faults.keys) : o.faults.isEmpty ≠ true := by
    intro clean
    simp [RankedMap.keys, List.isEmpty_iff.1 clean] at active
  cases ha with
  | expired lapsed =>
      cases hb with
      | expired => rfl
      | fault valid | lockout valid => rw [lapsed] at valid; cases valid
  | fault valid active first =>
      cases hb with
      | expired lapsed => rw [lapsed] at valid; cases valid
      | fault _ active' first' =>
          rw [Ranked.rank_inj (Nat.le_antisymm (first _ active') (first' _ active))]
      | lockout _ clean => exact absurd clean (empty active)
  | lockout valid clean =>
      cases hb with
      | expired lapsed => rw [lapsed] at valid; cases valid
      | fault _ active => exact absurd clean (empty active)
      | lockout => rfl

namespace Controller

/-- **A controller hands on the foremost cause**, and none only if there is none. -/
theorem blockingCause_eq_some_iff {c : Controller} {o : TickOutcome} {cause : Cause}
    (faults : o.faults = c.faults) (expired : o.expired = c.expired) :
    c.blockingCause = some cause ↔ Foremost o c.lockout cause := by
  constructor
  · intro blocks
    unfold blockingCause at blocks
    split at blocks
    · next lapsed =>
        obtain rfl := Option.some.inj blocks
        exact .expired (expired.trans lapsed)
    · next valid =>
        have valid := expired.trans (Bool.eq_false_iff.2 valid)
        split at blocks
        · next k first =>
            obtain rfl := Option.some.inj blocks
            rw [← faults, FaultSet.first?_eq_some_iff] at first
            exact .fault valid first.1 first.2
        · next clean =>
            rw [← faults, FaultSet.first?_eq_none_iff] at clean
            split at blocks
            · next locked =>
                obtain rfl := Option.some.inj blocks
                exact .lockout valid clean locked
            · cases blocks
  · intro foremost
    unfold blockingCause
    rw [← faults, ← expired]
    cases foremost with
    | expired lapsed => simp [lapsed]
    | fault valid active first =>
        simp [valid, FaultSet.first?_eq_some_iff.2 ⟨active, first⟩]
    | lockout valid clean locked =>
        simp [valid, FaultSet.first?_eq_none_iff.2 clean, locked]

end Controller

/-! ## 2. What a contactor reports under a block -/

namespace Contactor

variable {c c' : Contactor} {now : Nat}

/-- A step leaves a contactor on its way to open only if it was on it already, for the same cause, or
    was engaged and has begun with the cause of the step. -/
theorem disengaging_of_step {blocking : Option Cause} (m : c.Moves now (.step blocking) c')
    (leaving : c'.state = .disengaging) :
    c.state = .disengaging ∧ c'.cause = c.cause ∨
      c.state = .engaged ∧ blocking = some c'.cause := by
  cases m with
  | failsToOpen commanded =>
      cases commanded with
      | blocked engaged => exact .inr ⟨engaged, rfl⟩
      | again _ disengaging => exact .inl ⟨disengaging, rfl⟩
  | staysEngaged state => simp [state] at leaving
  | staysOpen state => rw [show _ = c.state from rfl, state] at leaving; cases leaving
  | waits state => simp [state] at leaving
  | failsToClose state => rw [show _ = c.state from rfl, state] at leaving; cases leaving
  | opens | beginsHold | breaksHold | closes => cases leaving

/-- A command to open that is refused leaves a closed contactor closed. -/
theorem not_opened_of_refused (steady : c.Steady) (closed : c.position = some .closed)
    {fault : LinkFault} (refused : c.output.next = some fault) :
    (c.output.command .opened).2.current ≠ some .opened := by
  rw [Actuator.current_command_of_refused refused, steady.current _ closed]
  exact nofun

/-- **What a contactor reports that is open after a step under a block**: the cause of the step,
    unless it was on its way to open. -/
theorem cause_of_blocked {cause : Cause} (m : c.Moves now (.step (some cause)) c') (steady : c.Steady)
    (opened : c'.output.current = some .opened) :
    c'.cause = if c.state = .disengaging then c.cause else cause := by
  cases m with
  | opens commanded =>
      cases commanded with
      | blocked engaged => simp [engaged]
      | again _ disengaging => simp [disengaging]
  | failsToOpen commanded refused =>
      have closed : c.position = some .closed := by
        cases commanded with
        | blocked engaged => exact steady.closed_iff.2 (.inl engaged)
        | again _ disengaging => exact steady.closed_iff.2 (.inr disengaging)
      exact absurd opened (not_opened_of_refused steady closed refused)
  | staysEngaged engaged =>
      rw [steady.current _ (steady.closed_iff.2 (.inl engaged))] at opened
      cases opened
  | staysOpen disengaged => simp [disengaged]
  | breaksHold holding => simp [holding]

end Contactor

/-! ## 3. On the way to open -/

namespace Controller

variable {σ : Type} [SensorLink σ]

/-- **The contactor has been on its way to open since a tick that found a cause foremost.** That tick
    found it engaged, and its command was refused. -/
inductive Opening (c : Controller) : List (Deed σ) → Cause → Prop where
  | begins {t : Moment} {fs : Files} {earlier : List (Deed σ)} {outcome : TickOutcome}
      {next : Controller} {cause : Cause} (engaged : (c.after earlier).contactor.state = .engaged)
      (ticked : (c.after earlier).tick t fs = (.ok outcome, next))
      (foremost : Foremost outcome next.lockout cause)
      (refused : next.contactor.state = .disengaging) : Opening c (⟨t, .tick fs⟩ :: earlier) cause
  | continues {d : Deed σ} {deeds : List (Deed σ)} {cause : Cause} (since : Opening c deeds cause)
      (still : (c.after (d :: deeds)).contactor.state = .disengaging) : Opening c (d :: deeds) cause

/-- The tick of an armed controller steps the contactor under the foremost cause of what it found. -/
theorem blockingCause_prepare_iff (c : Controller) (t : Moment) (fs : Files) {cause : Cause} :
    (c.prepare t fs).blockingCause = some cause ↔
      Foremost (c.tickArmed t fs).1 (c.tickArmed t fs).2.lockout cause :=
  blockingCause_eq_some_iff rfl rfl

/-- Arming leaves a contactor disengaged. -/
theorem arm_disengaged {c : Controller} (disengaged : c.contactor.state = .disengaged) (t : Moment) :
    (c.arm t).2.contactor.state = .disengaged := by
  rcases c.arm_cases t with ⟨-, e⟩ | ⟨fault, log, -, -, e⟩ | ⟨log, -, -, e⟩
  · rw [e]; exact disengaged
  all_goals
    rw [e]
    exact Contactor.forceOpen_of_disengaged disengaged _ _

/-- What it takes for a tick to leave the contactor on its way to open. -/
theorem disengaging_tick {c : Controller} (idle : c.armed = false → c.contactor.state = .disengaged)
    {t : Moment} {fs : Files} (running : c.stopped = false)
    (leaving : (c.tick t fs).2.contactor.state = .disengaging) :
    c.contactor.state = .disengaging ∧ (c.tick t fs).2.contactor.cause = c.contactor.cause ∨
      ∃ outcome next, c.contactor.state = .engaged ∧ c.tick t fs = (.ok outcome, next) ∧
        Foremost outcome next.lockout next.contactor.cause := by
  rcases Bool.eq_false_or_eq_true c.armed with armed | unarmed
  · rw [tick_of_armed armed running] at leaving ⊢
    rcases Contactor.disengaging_of_step (tickArmed_moves c t fs) leaving with
      began | ⟨engaged, blocked⟩
    · exact .inl began
    · exact .inr ⟨_, _, engaged, rfl, (blockingCause_prepare_iff c t fs).1 blocked⟩
  · -- armed in this very tick the contactor is disengaged, and no step brings it on its way from there
    exfalso
    have disengaged := arm_disengaged (idle unarmed) t
    rcases c.tick_cases t fs with ⟨stopped, -⟩ | ⟨-, ⟨f, -, e⟩ | ⟨-, e⟩⟩
    · rw [running] at stopped; cases stopped
    · rw [e, disengaged] at leaving; cases leaving
    · rw [e] at leaving
      rcases Contactor.disengaging_of_step (tickArmed_moves (c.arm t).2 t fs) leaving with
        ⟨state, -⟩ | ⟨state, -⟩ <;> rw [disengaged] at state <;> cases state

/-- **A contactor that is on its way to open after a call** was on it before the call, for the same
    cause, or the call is a tick that began it. -/
theorem disengaging_perform {c : Controller}
    (idle : c.armed = false → c.contactor.state = .disengaged) {d : Deed σ}
    (running : (c.perform d).stopped = false)
    (leaving : (c.perform d).contactor.state = .disengaging) :
    c.contactor.state = .disengaging ∧ (c.perform d).contactor.cause = c.contactor.cause ∨
      ∃ fs outcome next, d.call = .tick fs ∧ c.contactor.state = .engaged ∧
        c.tick d.moment fs = (.ok outcome, next) ∧
        Foremost outcome next.lockout next.contactor.cause := by
  have before : c.stopped = false := by
    refine Bool.eq_false_iff.2 fun stopped => ?_
    rw [perform_stopped stopped d] at running
    cases running
  have same {next : Controller} (e : next.contactor = c.contactor)
      (leaving : next.contactor.state = .disengaging) :
      c.contactor.state = .disengaging ∧ next.contactor.cause = c.contactor.cause := by
    rw [e] at leaving ⊢
    exact ⟨leaving, rfl⟩
  have armed (leaving : (c.arm d.moment).2.contactor.state = .disengaging) :
      (c.arm d.moment).2 = c := by
    rcases Bool.eq_false_or_eq_true c.armed with armed | unarmed
    · rw [arm_of_armed armed]
    · rw [arm_disengaged (idle unarmed)] at leaving; cases leaving
  obtain ⟨t, call⟩ := d
  cases call with
  | arm => exact .inl (same (congrArg _ (armed leaving)) leaving)
  | start =>
      rcases c.start_cases t with e | ⟨scheduler, e⟩
      · exact .inl (same (congrArg _ e) leaving)
      · have taken : (c.start t).2.contactor = (c.arm t).2.contactor := congrArg (·.contactor) e
        have unchanged := armed ((congrArg (·.state) taken).symm.trans leaving)
        exact .inl (same (taken.trans (congrArg (·.contactor) unchanged)) leaving)
  | tick fs =>
      rcases disengaging_tick idle before leaving with began | ⟨outcome, next, engaged, ticked, h⟩
      · exact .inl began
      · exact .inr ⟨fs, outcome, next, rfl, engaged, ticked, h⟩
  | shutdown => rw [perform, shutdown_stopped] at running; cases running
  | drop =>
      simp only [perform, drop] at running leaving ⊢
      split at running
      · rw [shutdown_stopped] at running; cases running
      · next unarmed =>
          rw [if_neg unarmed] at leaving ⊢
          exact .inl ⟨leaving, rfl⟩
  | work link =>
      obtain ⟨pack, scheduler, e⟩ := c.worked_eq t.now link
      exact .inl (same (congrArg (·.contactor) e) leaving)
  | pollOnce link =>
      obtain ⟨pack, e⟩ := c.pollOnce_eq t.now link
      exact .inl (same (congrArg (·.contactor) e) leaving)
  | setLockout | renew | renewUntil | addWork | status => exact .inl (same rfl leaving)

/-! ## 4. Runs -/

section Run

variable {s : Settings} {relay : Actuator Position} {bank : Actuator (List CellIndex)} {wall : Nat}
  {stored : Files} {c : Controller}

/-- **The contactor of a running controller is on its way to open exactly since a tick that found the
    cause foremost which the contactor has.** -/
theorem opening_iff (built : build (some s) (some relay) (some bank) wall stored = .ok c)
    {deeds : List (Deed σ)} (running : (c.after deeds).stopped = false) {cause : Cause} :
    Opening c deeds cause ↔
      (c.after deeds).contactor.state = .disengaging ∧ (c.after deeds).contactor.cause = cause := by
  induction deeds with
  | nil =>
      constructor
      · intro opening; cases opening
      · rintro ⟨leaving, -⟩
        rw [after, build_eq built] at leaving
        cases leaving
  | cons d deeds ih =>
      have before : (c.after deeds).stopped = false := by
        refine Bool.eq_false_iff.2 fun stopped => ?_
        rw [after, perform_stopped stopped d] at running
        cases running
      have step := disengaging_perform (logged_after built deeds).idle running
      constructor
      · intro opening
        cases opening with
        | @begins t fs _ outcome next _ engaged ticked foremost refused =>
            obtain rfl : ((c.after deeds).tick t fs).2 = next := congrArg (·.2) ticked
            rcases step refused with ⟨began, -⟩ | ⟨_, outcome', next', call, -, ticked', foremost'⟩
            · rw [engaged] at began; cases began
            · obtain rfl := Call.tick.inj call
              obtain ⟨rfl, rfl⟩ : outcome = outcome' ∧ ((c.after deeds).tick t fs).2 = next' := by
                simpa using ticked.symm.trans ticked'
              exact ⟨refused, foremost'.unique foremost⟩
        | continues since still =>
            obtain ⟨began, rfl⟩ := (ih before).1 since
            rcases step still with ⟨-, same⟩ | ⟨_, _, _, -, engaged, -⟩
            · exact ⟨still, same⟩
            · rw [began] at engaged; cases engaged
      · rintro ⟨leaving, rfl⟩
        rcases step leaving with ⟨began, same⟩ | ⟨fs, outcome, next, call, engaged, ticked, h⟩
        · exact .continues ((ih before).2 ⟨began, same.symm⟩) leaving
        · obtain ⟨t, _⟩ := d
          obtain rfl := call
          obtain rfl : ((c.after deeds).tick t fs).2 = next := congrArg (·.2) ticked
          exact .begins engaged ticked h leaving

/-- **What an open contactor reports while something blocks it.** After any run of a controller as it
    was built, whichever commands are refused, a tick of the armed controller that is not shut down
    has an outcome. If anything blocks the contactor there is a foremost cause. With the output opened
    last, this cause is reported exactly if the contactor was not on its way to open for another one.
    If it was on its way, the cause that it began with is reported. -/
theorem reports_foremost_iff
    (built : build (some s) (some relay) (some bank) wall stored = .ok c) (deeds : List (Deed σ))
    (armed : (c.after deeds).armed = true) (running : (c.after deeds).stopped = false) (t : Moment)
    (fs : Files) :
    ∃ outcome next, (c.after deeds).tick t fs = (.ok outcome, next) ∧
      (outcome.faults.isEmpty = false ∨ outcome.expired = true ∨ next.lockout = true →
        ∃ cause, Foremost outcome next.lockout cause) ∧
      ∀ cause, Foremost outcome next.lockout cause →
        next.contactor.output.current = some .opened →
          (next.contactor.cause = cause ↔ ∀ begun, Opening c deeds begun → begun = cause) ∧
          ∀ begun, Opening c deeds begun → next.contactor.cause = begun := by
  refine ⟨_, _, tick_of_armed armed running t fs, fun blocked => ?_, fun cause foremost opened => ?_⟩
  · obtain ⟨cause, e⟩ := blockingCause_isSome (c := (c.after deeds).prepare t fs) blocked
    exact ⟨cause, (blockingCause_prepare_iff _ t fs).1 e⟩
  have m := tickArmed_moves (c.after deeds) t fs
  rw [(blockingCause_prepare_iff _ t fs).2 foremost] at m
  have reported := Contactor.cause_of_blocked m (sound_after built deeds).steady opened
  simp only [opening_iff built running]
  rw [reported]
  by_cases leaving : (c.after deeds).contactor.state = .disengaging
  · simp [leaving]
  · simp [leaving]

end Run

/-- A relay that refuses its third command. -/
def refusingThird : Actuator Position :=
  { plan := fun k => if k = 2 then some (.device .linkDown) else none }

/-- A run that closes the contactor at 300 and locks it out at 900. -/
def lockedRun : List (Deed SimulatedSensor) :=
  [⟨⟨900, 900⟩, .tick {}⟩, ⟨⟨900, 900⟩, .setLockout true⟩, ⟨⟨300, 300⟩, .tick {}⟩,
    ⟨⟨0, 0⟩, .tick {}⟩, ⟨⟨0, 0⟩, .pollOnce { counts := [(.packCurrent, 20)] }⟩]

/-- Refused at 900, the lockout opens the contactor at 1000 and is reported. -/
theorem reports_lockout_late :
    ∃ c next, build (some (plainSettings {})) (some refusingThird) (some {}) 0 {} = .ok c ∧
      (c.after lockedRun).contactor.state = .disengaging ∧
      next = ((c.after lockedRun).tick ⟨1000, 1000⟩ {}).2 ∧
      next.contactor.output.current = some .opened ∧ next.contactor.cause = .lockout := by
  have built := build_of_sound (s := plainSettings {}) (by decide) refusingThird {} 0 {}
  have running : ((assembled (plainSettings {}) refusingThird {} 0 {}).after lockedRun).stopped =
      false := by decide +kernel
  have began := (opening_iff built running).2 ⟨by decide +kernel, rfl⟩
  obtain ⟨outcome, next, ticked, foremost, reports⟩ := reports_foremost_iff built lockedRun
    (by decide +kernel) running ⟨1000, 1000⟩ {}
  obtain rfl : (((assembled (plainSettings {}) refusingThird {} 0 {}).after lockedRun).tick
    ⟨1000, 1000⟩ {}).2 = next := congrArg (·.2) ticked
  obtain ⟨cause, h⟩ := foremost (.inr (.inr (by decide +kernel)))
  have opened : (((assembled (plainSettings {}) refusingThird {} 0 {}).after lockedRun).tick
    ⟨1000, 1000⟩ {}).2.contactor.output.current = some .opened := by decide +kernel
  exact ⟨_, _, built, by decide +kernel, rfl, opened,
    ((reports cause h opened).2 _ began).trans (by decide +kernel)⟩

/-- **A fault that is not reported.** The lockout of that run is followed by an overcurrent. The tick
    at 1000 finds it and opens the contactor, and still reports the lockout. -/
theorem reports_past_cause :
    ∃ c outcome next, build (some (plainSettings {})) (some refusingThird) (some {}) 0 {} = .ok c ∧
      (c.after (⟨⟨1000, 1000⟩, .pollOnce { counts := [(.packCurrent, 200)] }⟩ :: lockedRun)).tick
        ⟨1000, 1000⟩ {} = (.ok outcome, next) ∧
      next.contactor.output.current = some .opened ∧
      Foremost outcome next.lockout (.fault .pack .overcurrent) ∧
      next.contactor.cause = .lockout :=
  ⟨_, _, _, build_of_sound (s := plainSettings {}) (by decide) _ _ _ _,
    tick_of_armed (by decide +kernel) (by decide +kernel) _ _, by decide +kernel,
    (blockingCause_prepare_iff _ _ _).1 (by decide +kernel), by decide +kernel⟩

end Controller

end PackGuard
