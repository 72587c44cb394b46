import PackGuard.Proofs.Controller.Calls

/-!
# Runs of a controller

A run is any sequence of calls at any moments, from a controller as it was built. Its deeds stand
with the latest first, and `commands` is the record of all that it sent to the contactor's output.

`sound_after`: **over every run the position is the output's, the dates are those of the record, and
an armed controller knows where its contactor is.**
-/

namespace PackGuard

namespace Controller

variable {σ : Type} [SensorLink σ]

/-! ## 1. Runs and their records -/

/-- The controller after a run, the latest deed first. -/
def after (c : Controller) : List (Deed σ) → Controller
  | [] => c
  | d :: deeds => (c.after deeds).perform d

/-- What was sent to the contactor's output over a run, the latest first. -/
def commands (c : Controller) : List (Deed σ) → List Sent
  | [] => []
  | d :: deeds =>
    ((c.after deeds).perform d).contactor.sentSince (c.after deeds).contactor d.moment.now ++
      c.commands deeds

/-- The wall clock after a run that began at a time. -/
def clock (wall : Nat) : List (Deed σ) → Nat
  | [] => wall
  | d :: _ => d.moment.wall

/-- From a time on the wall clock does not go back over a run. -/
def Chronological (wall : Nat) : List (Deed σ) → Prop
  | [] => True
  | d :: deeds => clock wall deeds ≤ d.moment.wall ∧ Chronological wall deeds

/-- The settings of a pack of one cell that watches nothing but its current. -/
def plainSettings (keepAlive : KeepAliveSettings) : Settings where
  pack := .uniform 1 {} { limit := { max := some 100 } } {}
  contactor := { hold := 1000, firstHold := 200, minOn := 500, minOff := 300 }
  keepAlive := keepAlive

/-! ## 2. An armed contactor has a position -/

/-- An armed controller has commanded its contactor with success. -/
def Ready (c : Controller) : Prop := c.armed = true → c.contactor.position.isSome = true

theorem arm_ready {c : Controller} (h : c.Ready) (t : Moment) : (c.arm t).2.Ready := by
  rcases c.arm_cases t with ⟨-, e⟩ | ⟨fault, log, unarmed, -, e⟩ | ⟨log, -, applied, e⟩
  · rw [e]; exact h
  · rw [e]
    intro armed
    rw [show _ = c.armed from rfl, unarmed] at armed
    cases armed
  · rw [e]
    intro _
    show (c.contactor.forceOpen t.now _).contactor.position.isSome = true
    rw [Contactor.forceOpen_of_applied _ _ applied]
    rfl

theorem tickArmed_armed (c : Controller) (t : Moment) (fs : Files) :
    (c.tickArmed t fs).2.armed = c.armed := (prepared_prepare c t fs).armed

theorem tickArmed_ready {c : Controller} (h : c.Ready) (t : Moment) (fs : Files) :
    (c.tickArmed t fs).2.Ready := by
  intro armed
  rw [tickArmed_armed] at armed
  rw [tickArmed_contactor]
  exact Contactor.moves_position (Contactor.perform_moves _ _ _) (h armed)

theorem shutdown_ready {c : Controller} (h : c.Ready) (t : Moment) : (c.shutdown t).2.Ready := by
  rcases c.shutdown_cases t with e | ⟨log, e⟩
  · rw [e]; exact h
  · rw [e]
    intro armed
    exact Contactor.moves_position (Contactor.perform_moves _ _ _) (h armed)

theorem perform_ready {c : Controller} (h : c.Ready) (d : Deed σ) : (c.perform d).Ready :=
  perform_cases h (arm_ready h d.moment)
    (fun fs _ _ => tickArmed_ready (arm_ready h d.moment) d.moment fs)
    (shutdown_ready h d.moment) (fun _ _ _ _ _ _ ready => ready)

/-! ## 3. The invariant of a run -/

/-- **What holds of a controller with settings `s` over every run**, with the record of what it has
    sent. -/
structure Sound (s : Settings) (c : Controller) (record : List Sent) : Prop where
  settings : c.contactor.settings = s.contactor
  steady : c.contactor.Steady
  dated : c.contactor.Dated record
  ready : c.Ready

/-- A controller as it is built. -/
def assembled (s : Settings) (relay : Actuator Position) (bank : Actuator (List CellIndex))
    (wall : Nat) (fs : Files) : Controller where
  settings := s
  pack := .new s.pack s.poll.staleAfter
  engine := { settings := s.pack }
  contactor := { settings := s.contactor, output := relay }
  bank := bank
  keepAlive := .load s.keepAlive fs wall

/-- Settings without a defect are enough for an assembly. -/
theorem build_of_sound {s : Settings} (h : s.defect? = none) (relay : Actuator Position)
    (bank : Actuator (List CellIndex)) (wall : Nat) (fs : Files) :
    build (some s) (some relay) (some bank) wall fs = .ok (assembled s relay bank wall fs) := by
  simp only [build, h, assembled]

/-- Only settings without a defect are assembled. -/
theorem sound_of_build {s : Settings} {relay : Actuator Position}
    {bank : Actuator (List CellIndex)} {wall : Nat} {fs : Files} {c : Controller}
    (built : build (some s) (some relay) (some bank) wall fs = .ok c) : s.defect? = none := by
  cases h : s.defect? with
  | some defect => simp only [build, h] at built; cases built
  | none => rfl

/-- What a successful assembly gives. -/
theorem build_eq {s : Settings} {relay : Actuator Position} {bank : Actuator (List CellIndex)}
    {wall : Nat} {fs : Files} {c : Controller}
    (built : build (some s) (some relay) (some bank) wall fs = .ok c) :
    c = assembled s relay bank wall fs := by
  rw [build_of_sound (sound_of_build built)] at built
  exact (Except.ok.inj built).symm

theorem sound_build {s : Settings} {relay : Actuator Position} {bank : Actuator (List CellIndex)}
    {wall : Nat} {fs : Files} {c : Controller}
    (built : build (some s) (some relay) (some bank) wall fs = .ok c) : Sound s c [] := by
  rw [build_eq built]
  exact ⟨rfl, Contactor.steady_new _ _, Contactor.dated_new _ _, fun h => by cases h⟩

theorem sound_perform {s : Settings} {c : Controller} {record : List Sent} (h : Sound s c record)
    (d : Deed σ) :
    Sound s (c.perform d)
      ((c.perform d).contactor.sentSince c.contactor d.moment.now ++ record) := by
  obtain ⟨calls, e⟩ := perform_contactor c d
  refine ⟨?_, ?_, ?_, perform_ready h.ready d⟩
  · rw [e]
    exact Contactor.performAll_keeps
      (fun _ _ _ m same => (Contactor.moves_settings m).trans same) calls h.settings
  · rw [e]
    exact Contactor.performAll_keeps (fun _ _ _ m => Contactor.moves_steady m) calls h.steady
  · rw [e]
    exact Contactor.performAll_dated calls h.dated

/-- **The invariant holds after every run.** -/
theorem sound_after {s : Settings} {relay : Actuator Position}
    {bank : Actuator (List CellIndex)} {wall : Nat} {fs : Files} {c : Controller}
    (built : build (some s) (some relay) (some bank) wall fs = .ok c) (deeds : List (Deed σ)) :
    Sound s (c.after deeds) (c.commands deeds) := by
  induction deeds with
  | nil => exact sound_build built
  | cons d deeds ih => exact sound_perform ih d

end Controller

end PackGuard
