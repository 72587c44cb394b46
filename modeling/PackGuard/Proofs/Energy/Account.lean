import PackGuard.Energy
import PackGuard.Proofs.Number.Double
import PackGuard.Proofs.Number.Order

/-!
# The energy account stays a number

Charge and work may grow beyond all numbers, but what a call adds to them is finite, and so neither
becomes a NaN. The capacity is finite and greater than zero, so that the charge over it is a number too.

* `gain?`, `observe_eq`: **what an observation adds**. `gain_finite`: it is finite.
* `Sound`: what every call keeps (`sound_observe`, `sound_addWork`).
* `stateOfCharge_fraction`: **after any calls the state of charge is between none and one**.
-/

namespace PackGuard

open Binary

/-! ## 1. Durations -/

/-- A running time in nanoseconds, of 64 bits of whole seconds. -/
abbrev Instant := Fin (2 ^ 64 * 1000000000)

/-- A duration between two running times has at most 65 bits of seconds. -/
theorem within_secondsOf {ns : ℕ} (range : ns < 2 ^ 64 * 1000000000) : Within 65 (secondsOf ns) := by
  have seconds : ns / 1000000000 ≤ 2 ^ 64 := by omega
  have nanoseconds : ns % 1000000000 ≤ 1000000000 := by omega
  have whole : Within 64 (.ofNat (ns / 1000000000)) :=
    .of_stored (stored_ofNat _) (by decide) (by rw [Nat.abs_cast]; exact_mod_cast seconds)
  obtain ⟨finite, numerator⟩ := toRat64_ofNat (n := ns % 1000000000) (by omega)
  obtain ⟨finite', denominator⟩ := toRat64_ofNat (n := 1000000000) (by decide)
  have nonzero : toRat64 1000000000 ≠ 0 := ne_of_eq_of_ne denominator (by norm_num)
  have fraction : Within 0 (.ofNat (ns % 1000000000) / 1000000000) := by
    refine .of_stored (stored_div finite finite' nonzero) (by decide) ?_
    have quotient : toRat64 (.ofNat (ns % 1000000000)) / toRat64 1000000000 =
        (ns % 1000000000 : ℕ) / (1000000000 : ℕ) := congrArg₂ (· / ·) numerator denominator
    rw [quotient, abs_of_nonneg (by positivity), pow_zero, div_le_one (by norm_num)]
    exact_mod_cast nanoseconds
  exact whole.add (fraction.mono (by decide)) (by decide)

namespace Energy

/-! ## 2. What an observation adds -/

/-- The charge and the work that an observation adds, unless it counts for nothing. -/
def gain? (e : Energy) (now : Nat) (sample : Option (Float32 × Float32)) : Option (Float × Float) :=
  match e.last, sample with
  | some before, some (u, i) =>
    let dt := secondsOf (now - before)
    if dt.isFinite && 0 < dt && u.isFinite && i.isFinite then
      some (widen i * dt, (widen u * widen i - widen i * widen i * e.resistance) * dt)
    else none
  | _, _ => none

/-- **An observation adds its gain** and moves the time along. -/
theorem observe_eq (e : Energy) (now : Nat) (sample : Option (Float32 × Float32)) :
    e.observe now sample =
      match e.gain? now sample with
      | none => { e with last := some now }
      | some (charge, work) =>
        { e with last := some now, charge := e.charge + charge, work := e.work + work } := by
  obtain ⟨capacity, resistance, charge, work, last⟩ := e
  cases last with
  | none => rfl
  | some before =>
      cases sample with
      | none => rfl
      | some s =>
          simp only [observe, integrate, gain?]
          split <;> rfl

/-- **What every call keeps**: a capacity to divide by, a resistance that was a 32-bit number, and numbers
    for charge and work. -/
structure Sound (e : Energy) : Prop where
  capacity : e.capacity.isFinite = true
  nonzero : toRat64 e.capacity ≠ 0
  resistance : Within 128 e.resistance
  charge : e.charge.isNaN = false
  work : e.work.isNaN = false

variable {e : Energy}

/-- **What an observation adds is finite.** The greatest value on the way is the power lost in the
    resistance, and it is at most `2 ^ 384`. -/
theorem gain_finite (resistance : Within 128 e.resistance) {now : Nat}
    (range : now < 2 ^ 64 * 1000000000) {sample : Option (Float32 × Float32)} {charge work : Float}
    (gained : e.gain? now sample = some (charge, work)) :
    charge.isFinite = true ∧ work.isFinite = true := by
  unfold gain? at gained
  split at gained
  · next before u i _ =>
      dsimp only at gained
      split at gained
      · next counts =>
          simp only [Bool.and_eq_true] at counts
          obtain ⟨⟨-, hu⟩, hi⟩ := counts
          cases gained
          have elapsed : now - before < 2 ^ 64 * 1000000000 := by omega
          have dt := within_secondsOf elapsed
          have voltage := within_widen hu
          have current := within_widen hi
          have power := (voltage.mul current (by decide)).mono (k := 384) (by decide)
          have loss := (current.mul current (by decide)).mul resistance (by decide)
          exact ⟨(current.mul dt (by decide)).finite,
            ((power.sub loss (by decide)).mul dt (by decide)).finite⟩
      · cases gained
  · cases gained

/-! ## 3. Runs -/

/-- A call on the account. -/
inductive Call where
  | observe (now : Instant) (sample : Option (Float32 × Float32))
  | addWork (ws ampereSeconds : Float)

def perform (e : Energy) : Call → Energy
  | .observe now sample => e.observe now sample
  | .addWork ws ampereSeconds => e.addWork ws ampereSeconds

/-- The account after calls, the first one first. -/
def after (e : Energy) (calls : List Call) : Energy := calls.foldl perform e

/-- A finite number that is not negative is what is left of it above zero. -/
theorem greater_zero {x : Float32} (finite : x.isFinite = true) (nonneg : 0 ≤ x) :
    greater x 0 = x := by
  have notLess : ¬ x < 0 := fun less => not_le_of_lt less nonneg
  simp only [greater, isNaN_of_isFinite finite, isNaN_zero, notLess, Bool.false_eq_true, if_false]

theorem sound_new {ampereHours ohms : Float32} (finite : ampereHours.isFinite = true)
    (positive : 0 < ampereHours) (finite' : ohms.isFinite = true) (nonneg : 0 ≤ ohms) :
    (Energy.new ampereHours ohms).Sound := by
  have parts : Energy.new ampereHours ohms =
      { capacity := widen ampereHours * 3600, resistance := widen ohms } := by
    rw [Energy.new, greater_zero finite (le_of_lt positive), greater_zero finite' nonneg]
  obtain ⟨wide, same⟩ := toRat64_widen finite
  obtain ⟨-, seconds⟩ := toRat64_ofNat (n := 3600) (by decide)
  change toRat64 3600 = (3600 : ℕ) at seconds
  have capacity : Within 140 (widen ampereHours * 3600) :=
    (within_widen finite).mul (k := 12) ⟨rfl, by rw [seconds]; norm_num⟩ (by decide)
  have pos := toRat_pos finite positive
  have le : toRat ampereHours ≤ toRat64 (widen ampereHours) * toRat64 3600 := by
    rw [same, seconds]
    push_cast
    linarith
  -- the exact product is no less than a number that fits, and so is what it is rounded to
  have above : toRat ampereHours ≤ toRat64 (widen ampereHours * 3600) :=
    (fits_toRat ampereHours).rounds.mono ((stored_mul wide rfl).rounds_value capacity.finite) le
  have zero : (0 : Float).isNaN = false := isNaN64_of_isFinite rfl
  rw [parts]
  exact ⟨capacity.finite, (pos.trans_le above).ne', within_widen finite', zero, zero⟩

theorem sound_observe (sound : e.Sound) (now : Instant) (sample : Option (Float32 × Float32)) :
    (e.observe now sample).Sound := by
  rw [observe_eq]
  split
  · exact { sound with }
  · next charge work gained =>
      obtain ⟨finite, finite'⟩ := gain_finite sound.resistance now.isLt gained
      exact { sound with
        charge := isNaN64_add sound.charge (isNaN64_of_isFinite finite) (.inr finite)
        work := isNaN64_add sound.work (isNaN64_of_isFinite finite') (.inr finite') }

theorem sound_addWork (sound : e.Sound) (ws ampereSeconds : Float) :
    (e.addWork ws ampereSeconds).Sound := by
  have added {x y : Float} (number : x.isNaN = false) :
      (if y.isFinite then x + y else x).isNaN = false := by
    split
    · next finite => exact isNaN64_add number (isNaN64_of_isFinite finite) (.inr finite)
    · exact number
  exact { sound with charge := added sound.charge, work := added sound.work }

theorem sound_after (sound : e.Sound) (calls : List Call) : (e.after calls).Sound := by
  induction calls generalizing e with
  | nil => exact sound
  | cons call calls ih =>
      cases call with
      | observe now sample => exact ih (sound_observe sound now sample)
      | addWork ws ampereSeconds => exact ih (sound_addWork sound ws ampereSeconds)

/-- **With numbers for charge and capacity the state of charge is between none and one.** -/
theorem stateOfCharge_mem (sound : e.Sound) :
    e.stateOfCharge.isFinite = true ∧ 0 ≤ toRat e.stateOfCharge ∧ toRat e.stateOfCharge ≤ 1 := by
  unfold stateOfCharge
  split
  · exact ⟨rfl, by rw [toRat_zero], by rw [toRat_zero]; norm_num⟩
  · have number : (1 + e.charge / e.capacity).isNaN = false :=
      isNaN64_add rfl (isNaN64_div sound.charge sound.capacity sound.nonzero) (.inl rfl)
    have ordered : toRat64 0 ≤ toRat64 1 := by
      rw [toRat64_one]
      exact zero_le_one
    obtain ⟨finite, low, high⟩ := clamp64_mem rfl rfl number ordered
    rw [toRat64_one] at high
    exact (stores_narrow finite).mem writable_zero (writable_natCast (n := 1) (by decide)) low
      (by exact_mod_cast high)

/-- **The account stays a number and the state of charge a fraction.** With a finite capacity above zero
    and a finite resistance, after any calls, at any times and with any values, NaNs and infinities among
    them: charge and work are no NaNs, the state of charge is a number from zero to one, and a further
    observation only moves the time along or adds a charge and a work that are finite. -/
theorem stateOfCharge_fraction {ampereHours ohms : Float32} (finite : ampereHours.isFinite = true)
    (positive : 0 < ampereHours) (finite' : ohms.isFinite = true) (nonneg : 0 ≤ ohms)
    (calls : List Call) :
    let e := (Energy.new ampereHours ohms).after calls
    e.charge.isNaN = false ∧ e.work.isNaN = false ∧
    e.stateOfCharge.isNaN = false ∧ 0 ≤ e.stateOfCharge ∧ e.stateOfCharge ≤ 1 ∧
    ∀ (now : Instant) (sample : Option (Float32 × Float32)),
      match e.gain? now sample with
      | none => e.observe now sample = { e with last := some now }
      | some (charge, work) =>
        charge.isFinite = true ∧ work.isFinite = true ∧
        e.observe now sample =
          { e with last := some now, charge := e.charge + charge, work := e.work + work } := by
  intro e
  have sound : e.Sound := sound_after (sound_new finite positive finite' nonneg) calls
  obtain ⟨number, low, high⟩ := stateOfCharge_mem sound
  refine ⟨sound.charge, sound.work, isNaN_of_isFinite number, ?_, ?_, fun now sample => ?_⟩
  · exact (le_iff_toRat rfl number).2 (by rwa [toRat_zero])
  · exact (le_iff_toRat number rfl).2 (by rwa [toRat_one])
  · have moved := e.observe_eq now sample
    split
    · next idle => rwa [idle] at moved
    · next charge work gained =>
        obtain ⟨chargeFinite, workFinite⟩ := gain_finite sound.resistance now.isLt gained
        rw [gained] at moved
        exact ⟨chargeFinite, workFinite, moved⟩

/-- Calls that put in more charge than there are numbers for, and then discharge for an hour. -/
def overfilling : List Call :=
  [.addWork 1 1.7e308, .addWork (1 / 0) 1.7e308, .observe 0 (some (50, -5)),
    .observe 3600000000000 (some (50, -5))]

/-- After them the charge is infinite, and the pack of 10 ampere-hours counts as full. -/
theorem stateOfCharge_overfilled :
    ((Energy.new 10 0.125).after overfilling).charge.isInf = true ∧
    ((Energy.new 10 0.125).after overfilling).charge.isNaN = false ∧
    ((Energy.new 10 0.125).after overfilling).stateOfCharge = 1 ∧
    ((Energy.new 10 0.125).after overfilling).stateOfCharge ≤ 1 := by
  have capacity : (10 : Float32).isFinite = true ∧ (0 : Float32) < 10 := by decide +kernel
  have resistance : (0.125 : Float32).isFinite = true ∧ (0 : Float32) ≤ 0.125 := by decide +kernel
  obtain ⟨charge, -, -, -, most, -⟩ :=
    stateOfCharge_fraction capacity.1 capacity.2 resistance.1 resistance.2 overfilling
  exact ⟨by decide +kernel, charge, by decide +kernel, most⟩

end Energy

end PackGuard
