import PackGuard.Nominal
import PackGuard.Proofs.Engine.Limit
import PackGuard.Proofs.Number.Middle
import PackGuard.Proofs.Number.Order

/-!
# Where nominal values lie

The nominal value of a quantity is its idle value or, where the limits do not admit that, one that is
meant to lie inside them: the middle of two bounds, or a margin away from a single one.

* `Limit.inner`: the bounds that count for it, those of the band `lim` before the hard ones.
* `nominalMargin_mem`: a margin is never too small beside its bound.
* `Limit.Misses`: **the ways in which the nominal value misses the hard band**. With two bounds an idle
  value that is one of them counts as admitted, although nothing is allowed on a hard bound; and bounds
  can be so far apart, so near to each other or so great that no number is found between or behind them.
* `Limit.eases_nominal`: in every other case all of the nominal current is allowed.
* `QuantityConfig.nominal_exact`: both, for limits that pass their check.
* `nominal_on_bound`: an idle value of zero on a lower bound of zero.
-/

namespace PackGuard

open Binary

/-! ## 1. The margin -/

theorem toRat_twentieth : toRat 0.05 = 13421773 / 2 ^ 28 := by
  rw [toRat_of_unpack (s := .positive) (m := 13421773) (e := -28) (h := by decide) rfl]
  norm_num [signed]

theorem toRat_tenth : toRat 0.1 = 13421773 / 2 ^ 27 := by
  rw [toRat_of_unpack (s := .positive) (m := 13421773) (e := -27) (h := by decide) rfl]
  norm_num [signed]

/-- Some way off zero a thirty-second part of a number needs no rounding. -/
theorem writable_part {x : Float32} (far : 2 < toRat x) : Writable (toRat x / 32) := by
  obtain ⟨m, e, format, most, written⟩ := toRat_of_pos (x := x) (by linarith)
  have short : m < 2 ^ 24 := format.mantissa
  have least : -144 ≤ e := by
    by_contra less
    have tiny : toRat x ≤ 2 ^ (24 : ℕ) * 2 ^ (-145 : ℤ) := by
      rw [written]
      have exponent : (2 : ℚ) ^ e ≤ 2 ^ (-145 : ℤ) := zpow_le_zpow_right₀ (by norm_num) (by omega)
      have mantissa : (m : ℚ) ≤ 2 ^ 24 := by exact_mod_cast short.le
      gcongr
    norm_num at tiny
    linarith
  have part : toRat x / 32 = m * 2 ^ (e - 5) := by
    rw [written, zpow_sub₀ (by norm_num), mul_div_assoc]
    norm_num
  rw [part]
  exact writable_of_mantissa short (by omega) (by omega)

/-- **The margin of a bound is a number above zero, and not too small beside the bound.** -/
theorem nominalMargin_mem {x : Float32} (finite : x.isFinite = true) :
    (nominalMargin x).isFinite = true ∧ 0 < toRat (nominalMargin x) ∧
      |toRat x| ≤ 2 ^ 22 * toRat (nominalMargin x) := by
  obtain ⟨finiteSize, size⟩ := toRat_abs finite
  have product := stores_mul finiteSize (y := 0.05) (by decide)
  rw [size, toRat_twentieth] at product
  have nonneg := abs_nonneg (toRat x)
  have most : |toRat x| * (13421773 / 2 ^ 28) ≤ |toRat x| := by linarith
  have bound : Writable |toRat x| := size ▸ writable_toRat x.abs
  obtain ⟨finiteProduct, -, -⟩ := product.mem writable_zero bound (by positivity) most
  obtain ⟨finiteMargin, margin⟩ := toRat_greater finiteProduct (y := 0.1) (by decide)
  change (nominalMargin x).isFinite = true at finiteMargin
  change toRat (nominalMargin x) = _ at margin
  have least : 13421773 / 2 ^ 27 ≤ toRat (nominalMargin x) := by
    rw [margin, ← toRat_tenth]
    exact le_max_right _ _
  refine ⟨finiteMargin, by linarith, ?_⟩
  by_cases far : 2 < |toRat x|
  · have part : Writable (|toRat x| / 32) := by
      rw [← size] at far ⊢
      exact writable_part far
    obtain ⟨-, above, -⟩ := product.mem part bound (by linarith) most
    have factor : |toRat x| / 32 ≤ toRat (nominalMargin x) := by
      rw [margin]
      exact above.trans (le_max_left _ _)
    linarith
  · linarith

/-- At and beyond the hard bounds nothing is allowed. -/
theorem derating_of_not_allows {l : Limit} (wf : l.WellFormed) {v : Float32} (out : ¬ l.Allows v) :
    derating v l = 0 := by
  by_cases finite : v.isFinite = true
  · by_cases above : ∀ bound ∈ l.min, bound < v
    · have below : ¬ ∀ bound ∈ l.max, v < bound := fun below => out ⟨finite, above, below⟩
      push Not at below
      obtain ⟨bound, set, beyond⟩ := below
      exact derating_at_max wf finite set
        (le_of_not_lt (isNaN_of_isFinite finite) (isNaN_of_isFinite (wf.finite.2 bound set)) beyond)
    · push Not at above
      obtain ⟨bound, set, beyond⟩ := above
      exact derating_at_min wf finite set
        (le_of_not_lt (isNaN_of_isFinite (wf.finite.1 bound set)) (isNaN_of_isFinite finite) beyond)
  · rw [derating, if_neg finite]

/-! ## 2. The bounds that count -/

namespace Limit

/-- **The bounds that count for the nominal value**: on either side that of the band `lim`, or the hard
    one where the band has none. -/
def inner (l : Limit) : Band where
  min := l.lim.min <|> l.min
  max := l.lim.max <|> l.max

/-- A value beyond neither of the bounds that count. -/
structure Within (l : Limit) (v : Float32) : Prop where
  low : ∀ bound ∈ l.inner.min, bound ≤ v
  high : ∀ bound ∈ l.inner.max, v ≤ bound

/-- A value on a bound that counts and is a hard one. -/
def OnHard (l : Limit) (v : Float32) : Prop :=
  (l.lim.min = none ∧ ∃ bound ∈ l.min, v == bound) ∨ l.lim.max = none ∧ ∃ bound ∈ l.max, v == bound

/-- **The ways in which the nominal value misses the hard band.** -/
inductive Misses (l : Limit) (idle : Float32) : Prop
  /-- There are two bounds, and the idle value is a hard one of them. -/
  | onBound {low high : Float32} (lower : l.inner.min = some low) (upper : l.inner.max = some high)
      (on : l.OnHard idle)
  /-- The idle value is beyond one of two bounds whose sum cannot be stored. -/
  | spread {low high : Float32} (lower : l.inner.min = some low) (upper : l.inner.max = some high)
      (beyond : idle < low ∨ high < idle) (lost : (low + high).isFinite = false)
  /-- The idle value is beyond one of two bounds with no number between them, of which rounding takes
      a hard one for the middle. -/
  | narrow {low high : Float32} (lower : l.inner.min = some low) (upper : l.inner.max = some high)
      (beyond : idle < low ∨ high < idle) (neighbours : ∀ z, ¬ (low < z ∧ z < high))
      (on : l.OnHard ((low + high) / 2))
  /-- The idle value is not above the only bound, and the margin leads out of the format. -/
  | lower {low : Float32} (lower : l.inner.min = some low) (upper : l.inner.max = none)
      (beyond : idle ≤ low) (lost : (low + nominalMargin low).isFinite = false)
  /-- The idle value is not below the only bound, and the margin leads out of the format. -/
  | upper {high : Float32} (lower : l.inner.min = none) (upper : l.inner.max = some high)
      (beyond : high ≤ idle) (lost : (high - nominalMargin high).isFinite = false)

variable {l : Limit} {v idle low high : Float32}

theorem inner_min_cases (lower : l.inner.min = some low) :
    l.lim.min = some low ∨ l.lim.min = none ∧ l.min = some low := by
  change (l.lim.min <|> l.min) = some low at lower
  cases soft : l.lim.min with
  | some bound =>
      rw [soft] at lower
      exact .inl lower
  | none =>
      rw [soft] at lower
      exact .inr ⟨rfl, lower⟩

theorem inner_max_cases (upper : l.inner.max = some high) :
    l.lim.max = some high ∨ l.lim.max = none ∧ l.max = some high := by
  change (l.lim.max <|> l.max) = some high at upper
  cases soft : l.lim.max with
  | some bound =>
      rw [soft] at upper
      exact .inl upper
  | none =>
      rw [soft] at upper
      exact .inr ⟨rfl, upper⟩

/-- A bound of the band counts, -/
theorem inner_min_of_soft (soft : l.lim.min = some low) : l.inner.min = some low := by
  change (l.lim.min <|> l.min) = _
  rw [soft]
  rfl

theorem inner_max_of_soft (soft : l.lim.max = some high) : l.inner.max = some high := by
  change (l.lim.max <|> l.max) = _
  rw [soft]
  rfl

/-- and a hard one where the band has none. -/
theorem inner_min_of_hard (unset : l.lim.min = none) : l.inner.min = l.min := by
  change (l.lim.min <|> l.min) = l.min
  rw [unset]
  rfl

theorem inner_max_of_hard (unset : l.lim.max = none) : l.inner.max = l.max := by
  change (l.lim.max <|> l.max) = l.max
  rw [unset]
  rfl

/-- On a hard bound nothing is allowed. -/
theorem OnHard.not_allows (on : l.OnHard v) : ¬ l.Allows v := by
  intro allows
  rcases on with ⟨-, bound, set, same⟩ | ⟨-, bound, set, same⟩
  · have above := allows.above bound set
    rw [lt_iff] at above
    rw [beq_iff, compare_swap, above] at same
    cases same
  · have below := allows.below bound set
    rw [lt_iff] at below
    rw [beq_iff, below] at same
    cases same

section WellFormed

variable (wf : l.WellFormed)
include wf

theorem finite_lower (lower : l.inner.min = some low) : low.isFinite = true := by
  rcases inner_min_cases lower with soft | ⟨-, hard⟩
  · exact wf.lim.finite.1 low soft
  · exact wf.finite.1 low hard

theorem finite_upper (upper : l.inner.max = some high) : high.isFinite = true := by
  rcases inner_max_cases upper with soft | ⟨-, hard⟩
  · exact wf.lim.finite.2 high soft
  · exact wf.finite.2 high hard

/-- The bounds that count are in order. -/
theorem inner_ordered (lower : l.inner.min = some low) (upper : l.inner.max = some high) :
    low ≤ high := by
  rcases inner_min_cases lower with softLow | ⟨-, hardLow⟩
  · rcases inner_max_cases upper with softHigh | ⟨-, hardHigh⟩
    · exact wf.lim.ordered low softLow high softHigh
    · exact le_of_lt ((wf.lim.below high hardHigh).1 low softLow)
  · rcases inner_max_cases upper with softHigh | ⟨-, hardHigh⟩
    · exact le_of_lt ((wf.lim.above low hardLow).2 high softHigh)
    · exact le_of_lt (wf.ordered low hardLow high hardHigh)

variable (finite : v.isFinite = true)
include finite

/-- **Between the bounds that count, and on no hard one, nothing tapers off.** -/
theorem eases_of_within (within : l.Within v) (off : ¬ l.OnHard v) : l.Eases v := by
  have softLow : ∀ soft ∈ l.lim.min, soft ≤ v := fun soft set =>
    within.low soft (inner_min_of_soft set)
  have softHigh : ∀ soft ∈ l.lim.max, v ≤ soft := fun soft set =>
    within.high soft (inner_max_of_soft set)
  refine ⟨⟨finite, fun bound set => ?_, fun bound set => ?_⟩, fun _ _ => softLow, fun _ _ => softHigh⟩
  · cases soft : l.lim.min with
    | some inside => exact lt_le_trans ((wf.lim.above bound set).1 inside soft) (softLow inside soft)
    | none =>
        have least := within.low bound ((inner_min_of_hard soft).trans set)
        have finiteBound := wf.finite.1 bound set
        have apart : toRat v ≠ toRat bound := fun same =>
          off (.inl ⟨soft, bound, set, (beq_iff_toRat finite finiteBound).2 same⟩)
        rw [le_iff_toRat finiteBound finite] at least
        exact (lt_iff_toRat finiteBound finite).2 (lt_of_le_of_ne least apart.symm)
  · cases soft : l.lim.max with
    | some inside => exact le_lt_trans (softHigh inside soft) ((wf.lim.below bound set).2 inside soft)
    | none =>
        have most := within.high bound ((inner_max_of_hard soft).trans set)
        have finiteBound := wf.finite.2 bound set
        have apart : toRat v ≠ toRat bound := fun same =>
          off (.inr ⟨soft, bound, set, (beq_iff_toRat finite finiteBound).2 same⟩)
        rw [le_iff_toRat finite finiteBound] at most
        exact (lt_iff_toRat finite finiteBound).2 (lt_of_le_of_ne most apart)

/-- Inside bounds that count, whichever of them there are, nothing tapers off. -/
theorem eases_of_inside (above : ∀ bound ∈ l.inner.min, bound < v)
    (below : ∀ bound ∈ l.inner.max, v < bound) : l.Eases v := by
  refine eases_of_within wf finite ⟨fun b set => le_of_lt (above b set), fun b set => le_of_lt (below b set)⟩
    fun on => ?_
  rcases on with ⟨unset, bound, set, same⟩ | ⟨unset, bound, set, same⟩
  · have apart := (lt_iff_toRat (wf.finite.1 bound set) finite).1
      (above bound ((inner_min_of_hard unset).trans set))
    exact apart.ne' ((beq_iff_toRat finite (wf.finite.1 bound set)).1 same)
  · have apart := (lt_iff_toRat finite (wf.finite.2 bound set)).1
      (below bound ((inner_max_of_hard unset).trans set))
    exact apart.ne ((beq_iff_toRat finite (wf.finite.2 bound set)).1 same)

end WellFormed

/-- What is inside the hard bounds and the band `lim` is inside the bounds that count. -/
theorem above_inner (allows : l.Allows v) (above : ∀ soft ∈ l.lim.min, soft < v) :
    ∀ bound ∈ l.inner.min, bound < v := by
  intro bound set
  rcases inner_min_cases set with soft | ⟨-, hard⟩
  · exact above bound soft
  · exact allows.above bound hard

theorem below_inner (allows : l.Allows v) (below : ∀ soft ∈ l.lim.max, v < soft) :
    ∀ bound ∈ l.inner.max, v < bound := by
  intro bound set
  rcases inner_max_cases set with soft | ⟨-, hard⟩
  · exact below bound soft
  · exact allows.below bound hard

/-! ## 3. The nominal value -/

theorem nominal_within (lower : l.inner.min = some low) (upper : l.inner.max = some high)
    (least : low ≤ idle) (most : idle ≤ high) : l.nominal idle = idle := by
  change (l.lim.min <|> l.min) = _ at lower
  change (l.lim.max <|> l.max) = _ at upper
  simp [nominal, lower, upper, least, most]

theorem nominal_beyond (lower : l.inner.min = some low) (upper : l.inner.max = some high)
    (beyond : idle < low ∨ high < idle) : l.nominal idle = (low + high) / 2 := by
  change (l.lim.min <|> l.min) = _ at lower
  change (l.lim.max <|> l.max) = _ at upper
  rcases beyond with below | above
  · simp [nominal, lower, upper, not_le_of_lt below]
  · simp [nominal, lower, upper, not_le_of_lt above]

theorem nominal_lower (lower : l.inner.min = some low) (upper : l.inner.max = none) :
    l.nominal idle = if idle ≤ low then low + nominalMargin low else idle := by
  change (l.lim.min <|> l.min) = _ at lower
  change (l.lim.max <|> l.max) = _ at upper
  simp only [nominal, lower, upper]

theorem nominal_upper (lower : l.inner.min = none) (upper : l.inner.max = some high) :
    l.nominal idle = if high ≤ idle then high - nominalMargin high else idle := by
  change (l.lim.min <|> l.min) = _ at lower
  change (l.lim.max <|> l.max) = _ at upper
  simp only [nominal, lower, upper]

theorem nominal_unbounded (lower : l.inner.min = none) (upper : l.inner.max = none) :
    l.nominal idle = idle := by
  change (l.lim.min <|> l.min) = _ at lower
  change (l.lim.max <|> l.max) = _ at upper
  simp only [nominal, lower, upper]

/-- **An idle value inside the bounds that count is kept**, whichever of them there are. -/
theorem nominal_inside (above : ∀ bound ∈ l.inner.min, bound < idle)
    (below : ∀ bound ∈ l.inner.max, idle < bound) : l.nominal idle = idle := by
  cases lower : l.inner.min with
  | some low =>
      have least := above low lower
      cases upper : l.inner.max with
      | some high => exact nominal_within lower upper (le_of_lt least) (le_of_lt (below high upper))
      | none => rw [nominal_lower lower upper, if_neg (not_le_of_lt least)]
  | none =>
      cases upper : l.inner.max with
      | some high => rw [nominal_upper lower upper, if_neg (not_le_of_lt (below high upper))]
      | none => exact nominal_unbounded lower upper

section Idle

variable (wf : l.WellFormed) (finite : idle.isFinite = true)
include wf finite

/-- An idle value on a hard bound is admitted. -/
theorem within_of_onHard (lower : l.inner.min = some low) (upper : l.inner.max = some high)
    (on : l.OnHard idle) : low ≤ idle ∧ idle ≤ high := by
  have finiteLow := finite_lower wf lower
  have finiteHigh := finite_upper wf upper
  have ordered := (le_iff_toRat finiteLow finiteHigh).1 (inner_ordered wf lower upper)
  rw [le_iff_toRat finiteLow finite, le_iff_toRat finite finiteHigh]
  rcases on with ⟨unset, bound, set, same⟩ | ⟨unset, bound, set, same⟩
  · obtain rfl := Option.some.inj (lower.symm.trans ((inner_min_of_hard unset).trans set))
    rw [beq_iff_toRat finite finiteLow] at same
    exact ⟨same.ge, same.trans_le ordered⟩
  · obtain rfl := Option.some.inj (upper.symm.trans ((inner_max_of_hard unset).trans set))
    rw [beq_iff_toRat finite finiteHigh] at same
    exact ⟨ordered.trans same.ge, same.le⟩

theorem Misses.not_allows (misses : l.Misses idle) : ¬ l.Allows (l.nominal idle) := by
  have infinite {v : Float32} (lost : v.isFinite = false) : ¬ l.Allows v := fun allows => by
    rw [allows.finite] at lost
    cases lost
  cases misses with
  | onBound lower upper on =>
      obtain ⟨least, most⟩ := within_of_onHard wf finite lower upper on
      rw [nominal_within lower upper least most]
      exact on.not_allows
  | spread lower upper beyond lost =>
      rw [nominal_beyond lower upper beyond]
      refine infinite (Bool.eq_false_iff.2 fun half => ?_)
      rw [isFinite_of_half half] at lost
      cases lost
  | narrow lower upper beyond _ on =>
      rw [nominal_beyond lower upper beyond]
      exact on.not_allows
  | lower lower upper beyond lost =>
      rw [nominal_lower lower upper, if_pos beyond]
      exact infinite lost
  | upper lower upper beyond lost =>
      rw [nominal_upper lower upper, if_pos beyond]
      exact infinite lost

/-- With two bounds the nominal value is the idle value or the middle. -/
theorem eases_nominal_both (lower : l.inner.min = some low) (upper : l.inner.max = some high)
    (hits : ¬ l.Misses idle) : l.Eases (l.nominal idle) := by
  have finiteLow := finite_lower wf lower
  have finiteHigh := finite_upper wf upper
  have between {v : Float32} (least : low ≤ v) (most : v ≤ high) : l.Within v :=
    ⟨by simpa [lower] using least, by simpa [upper] using most⟩
  by_cases admitted : low ≤ idle ∧ idle ≤ high
  · rw [nominal_within lower upper admitted.1 admitted.2]
    exact eases_of_within wf finite (between admitted.1 admitted.2) fun on => hits (.onBound lower upper on)
  · have beyond : idle < low ∨ high < idle := by
      rcases not_and_or.1 admitted with below | above
      · exact .inl (lt_of_not_le (isNaN_of_isFinite finiteLow) (isNaN_of_isFinite finite) below)
      · exact .inr (lt_of_not_le (isNaN_of_isFinite finite) (isNaN_of_isFinite finiteHigh) above)
    have sum : (low + high).isFinite = true := by
      by_contra lost
      exact hits (.spread lower upper beyond (Bool.not_eq_true _ ▸ lost))
    have half := isFinite_half sum
    obtain ⟨least, most⟩ := middle_mem finiteLow finiteHigh
      ((le_iff_toRat finiteLow finiteHigh).1 (inner_ordered wf lower upper)) sum
    rw [nominal_beyond lower upper beyond]
    refine eases_of_within wf half (between ((le_iff_toRat finiteLow half).2 least)
      ((le_iff_toRat half finiteHigh).2 most)) fun on => ?_
    refine hits (.narrow lower upper beyond (fun z room => ?_) on)
    -- a number between the bounds would keep the middle off both of them
    have finiteZ := isFinite_of_between finiteLow finiteHigh (le_of_lt room.1) (le_of_lt room.2)
    obtain ⟨above, below⟩ := middle_inside finiteLow finiteHigh
      ((lt_iff_toRat finiteLow finiteZ).1 room.1) ((lt_iff_toRat finiteZ finiteHigh).1 room.2) sum
    rw [← lt_iff_toRat finiteLow half] at above
    rw [← lt_iff_toRat half finiteHigh] at below
    have inside := eases_of_inside wf half (by simpa [lower] using above) (by simpa [upper] using below)
    exact on.not_allows inside.toAllows

/-- With a lower bound alone the nominal value is above it. -/
theorem eases_nominal_lower (lower : l.inner.min = some low) (upper : l.inner.max = none)
    (hits : ¬ l.Misses idle) : l.Eases (l.nominal idle) := by
  have finiteLow := finite_lower wf lower
  have inside {v : Float32} (finite : v.isFinite = true) (above : low < v) : l.Eases v :=
    eases_of_inside wf finite (by simpa [lower] using above) (by simp [upper])
  rw [nominal_lower lower upper]
  by_cases beyond : idle ≤ low
  · rw [if_pos beyond]
    obtain ⟨finiteMargin, pos, near⟩ := nominalMargin_mem finiteLow
    have sum : (low + nominalMargin low).isFinite = true := by
      by_contra lost
      exact hits (.lower lower upper beyond (Bool.not_eq_true _ ▸ lost))
    exact inside sum
      ((lt_iff_toRat finiteLow sum).2 (lt_add_of_near finiteLow finiteMargin pos near sum))
  · rw [if_neg beyond]
    exact inside finite (lt_of_not_le (isNaN_of_isFinite finite) (isNaN_of_isFinite finiteLow) beyond)

/-- With an upper bound alone it is below that. -/
theorem eases_nominal_upper (lower : l.inner.min = none) (upper : l.inner.max = some high)
    (hits : ¬ l.Misses idle) : l.Eases (l.nominal idle) := by
  have finiteHigh := finite_upper wf upper
  have inside {v : Float32} (finite : v.isFinite = true) (below : v < high) : l.Eases v :=
    eases_of_inside wf finite (by simp [lower]) (by simpa [upper] using below)
  rw [nominal_upper lower upper]
  by_cases beyond : high ≤ idle
  · rw [if_pos beyond]
    obtain ⟨finiteMargin, pos, near⟩ := nominalMargin_mem finiteHigh
    have difference : (high - nominalMargin high).isFinite = true := by
      by_contra lost
      exact hits (.upper lower upper beyond (Bool.not_eq_true _ ▸ lost))
    exact inside difference
      ((lt_iff_toRat difference finiteHigh).2 (sub_lt_of_near finiteHigh finiteMargin pos near difference))
  · rw [if_neg beyond]
    exact inside finite (lt_of_not_le (isNaN_of_isFinite finiteHigh) (isNaN_of_isFinite finite) beyond)

/-- **Where it misses the hard band in none of these ways, the nominal value allows all of the current.** -/
theorem eases_nominal (hits : ¬ l.Misses idle) : l.Eases (l.nominal idle) := by
  cases lower : l.inner.min with
  | some low =>
      cases upper : l.inner.max with
      | some high => exact eases_nominal_both wf finite lower upper hits
      | none => exact eases_nominal_lower wf finite lower upper hits
  | none =>
      cases upper : l.inner.max with
      | some high => exact eases_nominal_upper wf finite lower upper hits
      | none =>
          rw [nominal_unbounded lower upper]
          exact eases_of_inside wf finite (by simp [lower]) (by simp [upper])

end Idle

end Limit

/-! ## 4. Limits that pass their check -/

namespace QuantityConfig

/-- **Where nominal values lie.** Under the limits of a quantity that passes its check, whichever bounds
    are set, and for every finite idle value:

    * the nominal value is finite and strictly inside the hard bounds exactly if it misses them in none
      of the ways of `Limit.Misses`;
    * then all of the nominal current is allowed at it, and otherwise none;
    * it is the idle value wherever that is strictly inside the hard bounds and the band `lim`. -/
theorem nominal_exact {q : QuantityConfig} (sound : q.defect? = none) {idle : Float32}
    (finite : idle.isFinite = true) :
    (q.resolve.limit.Allows (q.resolve.limit.nominal idle) ↔ ¬ q.resolve.limit.Misses idle) ∧
    (¬ q.resolve.limit.Misses idle → derating (q.resolve.limit.nominal idle) q.resolve.limit = 1) ∧
    (q.resolve.limit.Misses idle → derating (q.resolve.limit.nominal idle) q.resolve.limit = 0) ∧
    (q.resolve.limit.Allows idle → (∀ soft ∈ q.resolve.limit.lim.min, soft < idle) →
      (∀ soft ∈ q.resolve.limit.lim.max, idle < soft) → q.resolve.limit.nominal idle = idle) := by
  have wf := wellFormed_of_sound sound
  refine ⟨⟨fun allows misses => misses.not_allows wf finite allows, fun hits =>
    (Limit.eases_nominal wf finite hits).toAllows⟩, fun hits => ?_, fun misses => ?_, ?_⟩
  · exact derating_one (Limit.eases_nominal wf finite hits)
  · exact derating_of_not_allows wf (misses.not_allows wf finite)
  · intro allows above below
    exact Limit.nominal_inside (Limit.above_inner allows above) (Limit.below_inner allows below)

/-- A quantity with a band of its own inside a lower bound. -/
def bandedQuantity : QuantityConfig where
  min := some 0
  lim := some { min := some 10, max := some 40 }

/-- Its nominal value for an idle value below all bounds is the middle of the band, and one inside the
    band is kept. -/
theorem nominal_bandedQuantity :
    bandedQuantity.defect? = none ∧ bandedQuantity.resolve.limit.nominal (-5) = 25 ∧
    derating (bandedQuantity.resolve.limit.nominal (-5)) bandedQuantity.resolve.limit = 1 ∧
    bandedQuantity.resolve.limit.nominal 20 = 20 := by
  have sound : bandedQuantity.defect? = none := by decide +kernel
  obtain ⟨insideIff, one, -, -⟩ := nominal_exact sound (show (-5 : Float32).isFinite = true by decide +kernel)
  obtain ⟨-, -, -, kept⟩ := nominal_exact sound (show (20 : Float32).isFinite = true by decide +kernel)
  refine ⟨sound, by decide +kernel, one (insideIff.1 ?_), kept ?_ ?_ ?_⟩
  · constructor <;> decide +kernel
  · constructor <;> decide +kernel
  · decide +kernel
  · decide +kernel

/-- A current that must not go below zero. -/
def chargedOnly : QuantityConfig where
  min := some 0
  max := some 100

/-- **A nominal value on a hard bound.** The idle current of zero is not strictly inside the bounds from
    zero to a hundred, and is kept all the same: nothing is allowed at it, although half way between
    them everything would be. -/
theorem nominal_on_bound :
    chargedOnly.defect? = none ∧ (0 : Float32).isFinite = true ∧ chargedOnly.resolve.limit.nominal 0 = 0 ∧
    ¬ chargedOnly.resolve.limit.Allows (chargedOnly.resolve.limit.nominal 0) ∧
    derating (chargedOnly.resolve.limit.nominal 0) chargedOnly.resolve.limit = 0 ∧
    derating 50 chargedOnly.resolve.limit = 1 := by
  refine ⟨by decide +kernel, by decide, by decide +kernel, fun allows => ?_, by decide +kernel,
    by decide +kernel⟩
  have above : (0 : Float32) < chargedOnly.resolve.limit.nominal 0 := allows.above 0 rfl
  revert above
  decide +kernel

end QuantityConfig

end PackGuard
