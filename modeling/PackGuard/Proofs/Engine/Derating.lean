import PackGuard.Proofs.Engine.Limit
import PackGuard.Proofs.Number.Order

/-!
# The shape of the derating

Between the band `lim` and a hard bound the allowed fraction of the current falls from one to zero. It
is a quotient of two differences, each of them rounded, and bounds may lie so far apart that a difference
cannot be stored.

* `Part`: what a quotient of two such differences comes to, a NaN where neither can be stored.
* `Part.orOne_le`: **it respects the order of the exact differences**, if a NaN counts for one.
* `toRat_clamp_lesser`: and that is what a NaN counts for.
* `Limit.PastLower`, `Limit.BeforeUpper`: the values for which the lower or the upper bounds take nothing
  away.
* `derating_le_of_pastLower`, `derating_le_of_beforeUpper`: **the fraction falls towards the bounds of
  either side**.
* `QuantityConfig.derating_shape`: **the shape of the derating under limits that pass their check**.
-/

namespace PackGuard

open Binary
open Float.Model (UnpackedFloat)

namespace Binary

/-! ## 1. Quotients of differences -/

/-- Beside an infinity what is finite is nothing. -/
theorem div_infinite {x y : Float32} (finite : x.isFinite = true) (infinite : y.isInf = true) :
    (x / y).isFinite = true ∧ toRat (x / y) = 0 := by
  change x.toModel.unpack.isFinite = true at finite
  change y.toModel.unpack.isInf = true at infinite
  obtain ⟨s, nothing⟩ :
      ∃ s, UnpackedFloat.div .binary32 x.toModel.unpack y.toModel.unpack = .zero s := by
    generalize x.toModel.unpack = u at *
    generalize y.toModel.unpack = v at *
    cases v with
    | notANumber | zero | finite => cases infinite
    | infinity t =>
        cases u with
        | infinity | notANumber => cases finite
        | zero | finite => exact ⟨_, rfl⟩
  have stored : (x / y).toModel.unpack = .zero s := by
    show UnpackedFloat.unpack .binary32 (UnpackedFloat.pack .binary32 (UnpackedFloat.div _ _ _)) = _
    rw [nothing]
    exact unpack_pack (by decide) trivial rfl (by simp [value])
  refine ⟨?_, by rw [toRat, stored]; rfl⟩
  show (x / y).toModel.unpack.isFinite = true
  rw [stored]
  rfl

/-- Two infinities have no quotient. -/
theorem isNaN_div_infinite {x y : Float32} (hx : x.isInf = true) (hy : y.isInf = true) :
    (x / y).isNaN = true := by
  change x.toModel.unpack.isInf = true at hx
  change y.toModel.unpack.isInf = true at hy
  have lost : UnpackedFloat.div .binary32 x.toModel.unpack y.toModel.unpack = .notANumber := by
    generalize x.toModel.unpack = u at *
    generalize y.toModel.unpack = v at *
    cases u with
    | notANumber | zero | finite => cases hx
    | infinity s =>
        cases v with
        | notANumber | zero | finite => cases hy
        | infinity t => rfl
  show (UnpackedFloat.unpack .binary32 (UnpackedFloat.pack .binary32 (UnpackedFloat.div _ _ _))).isNaN = true
  rw [lost, unpack_pack_notANumber (by decide)]
  rfl

/-- **What a quotient counts for beside one**: itself, and a NaN for one. -/
def orOne (q : Float32) : ℚ := if q.isNaN then 1 else toRat q

theorem orOne_of_proportion {q : Float32} (h : Proportion q) : orOne q = toRat q := by
  rw [orOne, isNaN_of_isFinite h.finite]
  rfl

theorem orOne_of_isNaN {q : Float32} (lost : q.isNaN = true) : orOne q = 1 := by
  rw [orOne, if_pos lost]

/-- **What a quotient of two rounded differences comes to**, the first within the second. -/
inductive Part (d w : Float32) : Prop
  /-- If both can be stored, to the fraction, rounded once more. -/
  | fraction (divisor : w.isFinite = true) (positive : 0 < toRat w) (dividend : d.isFinite = true)
      (stored : Stores (d / w) (toRat d / toRat w)) (proportion : Proportion (d / w))
  /-- If the second cannot, to nothing. -/
  | nothing (divisor : w.isInf = true) (dividend : d.isFinite = true) (proportion : Proportion (d / w))
      (zero : toRat (d / w) = 0)
  /-- And if neither can, to no number. -/
  | lost (divisor : w.isInf = true) (dividend : d.isInf = true) (lost : (d / w).isNaN = true)

section Parts

variable {d d' w : Float32} {x x' y : ℚ}

theorem part_of_stores (hd : Stores d x) (hw : Stores w y) (nonneg : 0 ≤ x) (within : x ≤ y)
    (positive : w.isFinite = true → 0 < toRat w) : Part d w := by
  cases hw with
  | finite finite rounds =>
      have stored : Stores w y := .finite finite rounds
      have least := positive finite
      obtain ⟨finite', small⟩ := hd.abs_le_of_abs_le stored finite
        (by rwa [abs_of_nonneg nonneg, abs_of_nonneg (nonneg.trans within)])
      have nonneg' : 0 ≤ toRat d := Rounds.zero.mono (hd.rounds_toRat finite') nonneg
      rw [abs_of_nonneg nonneg', abs_of_pos least] at small
      have divided := stores_div finite' finite least.ne'
      obtain ⟨kept, low, high⟩ := divided.mem writable_zero (toRat_one ▸ writable_toRat 1)
        (div_nonneg nonneg' least.le) ((div_le_one least).2 small)
      exact .fraction finite least finite' divided ⟨kept, low, high⟩
  | infinite infinite =>
      cases hd with
      | finite finite =>
          obtain ⟨kept, zero⟩ := div_infinite finite infinite
          exact .nothing infinite finite ⟨kept, zero.ge, zero.trans_le (by norm_num)⟩ zero
      | infinite infinite' => exact .lost infinite infinite' (isNaN_div_infinite infinite' infinite)

/-- What a part counts for is a fraction, and beside one it counts for that. -/
theorem Part.proportion_or_isNaN (h : Part d w) : Proportion (d / w) ∨ (d / w).isNaN = true := by
  cases h with
  | fraction _ _ _ _ proportion => exact .inl proportion
  | nothing _ _ proportion => exact .inl proportion
  | lost _ _ lost => exact .inr lost

theorem Part.orOne_nonneg (h : Part d w) : 0 ≤ orOne (d / w) := by
  rcases h.proportion_or_isNaN with proportion | lost
  · rw [orOne_of_proportion proportion]
    exact proportion.nonneg
  · rw [orOne_of_isNaN lost]
    norm_num

/-- **Parts respect the order of the exact differences.** A greater one may be lost where a lesser one is
    not, but then it counts for one. -/
theorem Part.orOne_le (first : Part d w) (second : Part d' w) (hd : Stores d x) (hd' : Stores d' x')
    (nonneg : 0 ≤ x') (ordered : x' ≤ x) : orOne (d' / w) ≤ orOne (d / w) := by
  cases second with
  | fraction divisor positive dividend' stored' proportion' =>
      cases first with
      | fraction _ _ dividend stored proportion =>
          have dividends := (hd'.rounds_toRat dividend').mono (hd.rounds_toRat dividend) ordered
          rw [orOne_of_proportion proportion, orOne_of_proportion proportion']
          exact (stored'.rounds_toRat proportion'.finite).mono (stored.rounds_toRat proportion.finite)
            (div_le_div_of_nonneg_right dividends positive.le)
      | nothing infinite | lost infinite =>
          rw [not_finite_of_isInf infinite] at divisor
          cases divisor
  | nothing _ _ proportion zero =>
      rw [orOne_of_proportion proportion, zero]
      exact first.orOne_nonneg
  | lost _ infinite lost =>
      have unstored := not_finite_of_isInf infinite
      cases first with
      | fraction _ _ finite | nothing _ finite =>
          rw [(hd'.abs_le_of_abs_le hd finite (abs_le_abs_of_nonneg nonneg ordered)).1] at unstored
          cases unstored
      | lost _ _ lost' => rw [orOne_of_isNaN lost, orOne_of_isNaN lost']

end Parts

/-! ## 2. A part of one -/

theorem clamp_of_proportion {x : Float32} (h : Proportion x) : clamp 0 1 x = x := by
  have low : ¬ x < 0 := by
    rw [lt_iff_toRat h.finite (by decide), toRat_zero]
    exact not_lt.2 h.nonneg
  have high : ¬ 1 < x := by
    rw [lt_iff_toRat (by decide) h.finite, toRat_one]
    exact not_lt.2 h.le_one
  rw [clamp, if_neg low, if_neg high]

/-- **Beside one the lesser of the two is what counts**, on either side. -/
theorem toRat_clamp_lesser {q : Float32} (h : Proportion q ∨ q.isNaN = true) :
    toRat (clamp 0 1 (lesser q 1)) = orOne q ∧ toRat (clamp 0 1 (lesser 1 q)) = orOne q := by
  rcases h with proportion | lost
  · obtain ⟨-, left⟩ := toRat_lesser proportion.finite proportion_one.finite
    obtain ⟨-, right⟩ := toRat_lesser proportion_one.finite proportion.finite
    rw [clamp_of_proportion (proportion.lesser proportion_one),
      clamp_of_proportion (proportion_one.lesser proportion), orOne_of_proportion proportion, left, right,
      toRat_one]
    exact ⟨min_eq_left proportion.le_one, min_eq_right proportion.le_one⟩
  · have left : lesser q 1 = 1 := if_pos lost
    have right : lesser 1 q = 1 := (if_neg (by decide)).trans (if_pos lost)
    rw [left, right, orOne_of_isNaN lost, clamp_of_proportion proportion_one, toRat_one]
    exact ⟨rfl, rfl⟩

end Binary

/-! ## 3. Towards the bounds -/

/-- **A value past the lower side**: not below the band `lim`, if that has a lower bound and a hard one
    comes with it; else above the hard bound, if there is one. -/
structure Limit.PastLower (l : Limit) (v : Float32) : Prop where
  soft : ∀ hard ∈ l.min, ∀ soft ∈ l.lim.min, soft ≤ v
  hard : l.lim.min = none → ∀ hard ∈ l.min, hard < v

/-- **A value before the upper side**, likewise. -/
structure Limit.BeforeUpper (l : Limit) (v : Float32) : Prop where
  soft : ∀ hard ∈ l.max, ∀ soft ∈ l.lim.max, v ≤ soft
  hard : l.lim.max = none → ∀ hard ∈ l.max, v < hard

section Sides

variable {l : Limit} {v w : Float32}

theorem Limit.PastLower.mono (past : l.PastLower v) (le : v ≤ w) : l.PastLower w where
  soft hard setHard soft setSoft := Binary.le_trans (past.soft hard setHard soft setSoft) le
  hard none hard set := lt_le_trans (past.hard none hard set) le

theorem Limit.BeforeUpper.mono (before : l.BeforeUpper w) (le : v ≤ w) : l.BeforeUpper v where
  soft hard setHard soft setSoft := Binary.le_trans le (before.soft hard setHard soft setSoft)
  hard none hard set := le_lt_trans le (before.hard none hard set)

variable (wf : l.WellFormed)
include wf

/-- A value past the lower side is above the lower bound. -/
theorem Limit.PastLower.above (past : l.PastLower v) : ∀ bound ∈ l.min, bound < v := by
  intro bound set
  cases soft : l.lim.min with
  | none => exact past.hard soft bound set
  | some soft' =>
      exact lt_le_trans ((wf.lim.above bound set).1 soft' soft) (past.soft bound set soft' soft)

/-- A value before the upper side is below the upper bound. -/
theorem Limit.BeforeUpper.below (before : l.BeforeUpper v) : ∀ bound ∈ l.max, v < bound := by
  intro bound set
  cases soft : l.lim.max with
  | none => exact before.hard soft bound set
  | some soft' =>
      exact le_lt_trans (before.soft bound set soft' soft) ((wf.lim.below bound set).2 soft' soft)

/-- Past the lower side the lower bounds take nothing away. -/
theorem Limit.PastLower.deratingBelow (past : l.PastLower v) : deratingBelow v l = 1 :=
  deratingBelow_one (past.above wf) past.soft

theorem Limit.BeforeUpper.deratingAbove (before : l.BeforeUpper v) : deratingAbove v l = 1 :=
  deratingAbove_one (before.below wf) before.soft

variable (hv : v.isFinite = true)
include hv

/-- Between the band and the upper bound a part of one is left, if the lower bounds take nothing away. -/
theorem derating_above (past : l.PastLower v) {hard soft : Float32} (setHard : hard ∈ l.max)
    (setSoft : soft ∈ l.lim.max) (beyond : soft < v) (inside : v < hard) :
    Part (hard - v) (hard - soft) ∧ toRat (derating v l) = orOne ((hard - v) / (hard - soft)) := by
  have finiteHard := wf.finite.2 hard setHard
  have finiteSoft := wf.lim.finite.2 soft setSoft
  have ordered := (wf.lim.below hard setHard).2 soft setSoft
  have quotient : deratingAbove v l = (hard - v) / (hard - soft) := by
    unfold PackGuard.deratingAbove
    rw [Option.mem_def.1 setHard, Option.mem_def.1 setSoft]
    simp [taper, not_le_of_lt inside, beyond, ordered]
  have reached := (lt_iff_toRat finiteSoft hv).1 beyond
  have left := (lt_iff_toRat hv finiteHard).1 inside
  have part : Part (hard - v) (hard - soft) :=
    part_of_stores (stores_sub finiteHard hv) (stores_sub finiteHard finiteSoft) (by linarith)
      (by linarith) (toRat_sub_pos finiteHard finiteSoft (by linarith))
  refine ⟨part, ?_⟩
  rw [derating, if_pos hv, quotient, past.deratingBelow wf]
  exact (toRat_clamp_lesser part.proportion_or_isNaN).1

/-- Between the lower bound and the band likewise. -/
theorem derating_below (before : l.BeforeUpper v) {hard soft : Float32} (setHard : hard ∈ l.min)
    (setSoft : soft ∈ l.lim.min) (beyond : v < soft) (inside : hard < v) :
    Part (v - hard) (soft - hard) ∧ toRat (derating v l) = orOne ((v - hard) / (soft - hard)) := by
  have finiteHard := wf.finite.1 hard setHard
  have finiteSoft := wf.lim.finite.1 soft setSoft
  have ordered := (wf.lim.above hard setHard).1 soft setSoft
  have quotient : deratingBelow v l = (v - hard) / (soft - hard) := by
    unfold PackGuard.deratingBelow
    rw [Option.mem_def.1 setHard, Option.mem_def.1 setSoft]
    simp [taper, not_le_of_lt inside, beyond, ordered]
  have reached := (lt_iff_toRat hv finiteSoft).1 beyond
  have left := (lt_iff_toRat finiteHard hv).1 inside
  have part : Part (v - hard) (soft - hard) :=
    part_of_stores (stores_sub hv finiteHard) (stores_sub finiteSoft finiteHard) (by linarith)
      (by linarith) (toRat_sub_pos finiteSoft finiteHard (by linarith))
  refine ⟨part, ?_⟩
  rw [derating, if_pos hv, quotient, before.deratingAbove wf]
  exact (toRat_clamp_lesser part.proportion_or_isNaN).2

variable (hw : w.isFinite = true) (le : v ≤ w)
include hw le

/-- There the fraction falls. -/
theorem derating_above_le (past : l.PastLower v) {hard soft : Float32} (setHard : hard ∈ l.max)
    (setSoft : soft ∈ l.lim.max) (beyond : soft < v) (inside : w < hard) :
    toRat (derating w l) ≤ toRat (derating v l) := by
  obtain ⟨first, left⟩ := derating_above wf hv past setHard setSoft beyond (le_lt_trans le inside)
  obtain ⟨second, right⟩ := derating_above wf hw (past.mono le) setHard setSoft (lt_le_trans beyond le)
    inside
  have finite := wf.finite.2 hard setHard
  have ordered := (le_iff_toRat hv hw).1 le
  have room := (lt_iff_toRat hw finite).1 inside
  rw [left, right]
  exact first.orOne_le second (stores_sub finite hv) (stores_sub finite hw) (by linarith) (by linarith)

/-- Between the lower bound and the band it rises. -/
theorem derating_below_le (before : l.BeforeUpper w) {hard soft : Float32} (setHard : hard ∈ l.min)
    (setSoft : soft ∈ l.lim.min) (beyond : w < soft) (inside : hard < v) :
    toRat (derating v l) ≤ toRat (derating w l) := by
  obtain ⟨first, left⟩ := derating_below wf hw before setHard setSoft beyond (lt_le_trans inside le)
  obtain ⟨second, right⟩ := derating_below wf hv (before.mono le) setHard setSoft (le_lt_trans le beyond)
    inside
  have finite := wf.finite.1 hard setHard
  have ordered := (le_iff_toRat hv hw).1 le
  have room := (lt_iff_toRat finite hv).1 inside
  rw [left, right]
  exact first.orOne_le second (stores_sub hw finite) (stores_sub hv finite) (by linarith) (by linarith)

/-- **Past the lower side the fraction falls.** From one below the upper side it becomes a part of one,
    and nothing at the upper bound. -/
theorem derating_le_of_pastLower (past : l.PastLower v) :
    toRat (derating w l) ≤ toRat (derating v l) := by
  by_cases inside : ∀ bound ∈ l.max, w < bound
  · by_cases eased : ∀ hard ∈ l.max, ∀ soft ∈ l.lim.max, v ≤ soft
    · have allowed : l.Allows v :=
        ⟨hv, past.above wf, fun bound set => le_lt_trans le (inside bound set)⟩
      rw [derating_one ⟨allowed, past.soft, eased⟩, toRat_one]
      exact (proportion_derating wf).le_one
    · push Not at eased
      obtain ⟨hard, setHard, soft, setSoft, above⟩ := eased
      have finite := wf.lim.finite.2 soft setSoft
      have beyond := lt_of_not_le (isNaN_of_isFinite hv) (isNaN_of_isFinite finite) above
      exact derating_above_le wf hv hw le past setHard setSoft beyond (inside hard setHard)
  · push Not at inside
    obtain ⟨bound, set, out⟩ := inside
    have beyond := le_of_not_lt (isNaN_of_isFinite hw) (isNaN_of_isFinite (wf.finite.2 bound set)) out
    rw [derating_at_max wf hw set beyond, toRat_zero]
    exact (proportion_derating wf).nonneg

/-- **Before the upper side it rises.** -/
theorem derating_le_of_beforeUpper (before : l.BeforeUpper w) :
    toRat (derating v l) ≤ toRat (derating w l) := by
  by_cases inside : ∀ bound ∈ l.min, bound < v
  · by_cases eased : ∀ hard ∈ l.min, ∀ soft ∈ l.lim.min, soft ≤ w
    · have allowed : l.Allows w :=
        ⟨hw, fun bound set => lt_le_trans (inside bound set) le, before.below wf⟩
      rw [derating_one ⟨allowed, eased, before.soft⟩, toRat_one]
      exact (proportion_derating wf).le_one
    · push Not at eased
      obtain ⟨hard, setHard, soft, setSoft, below⟩ := eased
      have finite := wf.lim.finite.1 soft setSoft
      have beyond := lt_of_not_le (isNaN_of_isFinite finite) (isNaN_of_isFinite hw) below
      exact derating_below_le wf hv hw le before setHard setSoft beyond (inside hard setHard)
  · push Not at inside
    obtain ⟨bound, set, out⟩ := inside
    have beyond := le_of_not_lt (isNaN_of_isFinite (wf.finite.1 bound set)) (isNaN_of_isFinite hv) out
    rw [derating_at_min wf hv set beyond, toRat_zero]
    exact (proportion_derating wf).nonneg

end Sides

/-! ## 4. Limits that pass their check -/

namespace QuantityConfig

/-- **The shape of the derating.** Under the limits of a quantity that passes its check, whichever bounds
    are set and however far apart they are:

    * for every value, a NaN among them, the fraction is a number from zero to one;
    * it is zero for what is not finite and for every value at or beyond a hard bound;
    * it is one strictly inside the hard bounds wherever no bound of the band `lim` that comes with a hard
      bound is passed;
    * from a finite value past the lower side to a greater one it does not rise, and to a finite value
      before the upper side from a lesser one it does not fall. -/
theorem derating_shape {q : QuantityConfig} (sound : q.defect? = none) :
    (∀ v, (derating v q.resolve.limit).isNaN = false ∧ 0 ≤ derating v q.resolve.limit ∧
      derating v q.resolve.limit ≤ 1) ∧
    (∀ v, v.isFinite = false ∨ (∃ bound ∈ q.resolve.limit.max, bound ≤ v) ∨
        (∃ bound ∈ q.resolve.limit.min, v ≤ bound) →
      derating v q.resolve.limit = 0) ∧
    (∀ v, q.resolve.limit.Eases v → derating v q.resolve.limit = 1) ∧
    (∀ v w, v.isFinite = true → w.isFinite = true → v ≤ w →
      (q.resolve.limit.PastLower v → derating w q.resolve.limit ≤ derating v q.resolve.limit) ∧
      (q.resolve.limit.BeforeUpper w → derating v q.resolve.limit ≤ derating w q.resolve.limit)) := by
  have wf := wellFormed_of_sound sound
  have proportion (v : Float32) : Proportion (derating v q.resolve.limit) := proportion_derating wf
  refine ⟨fun v => ?_, fun v out => ?_, fun v eases => derating_one eases, fun v w hv hw le => ?_⟩
  · refine ⟨isNaN_of_isFinite (proportion v).finite, ?_, ?_⟩
    · exact (le_iff_toRat proportion_zero.finite (proportion v).finite).2 (proportion v).nonneg
    · rw [le_iff_toRat (proportion v).finite proportion_one.finite, toRat_one]
      exact (proportion v).le_one
  · cases finite : v.isFinite with
    | false => rw [derating, if_neg (by simp [finite])]
    | true =>
        rcases out with infinite | ⟨bound, set, beyond⟩ | ⟨bound, set, beyond⟩
        · rw [finite] at infinite
          cases infinite
        · exact derating_at_max wf finite set beyond
        · exact derating_at_min wf finite set beyond
  · rw [le_iff_toRat (proportion w).finite (proportion v).finite,
      le_iff_toRat (proportion v).finite (proportion w).finite]
    exact ⟨derating_le_of_pastLower wf hv hw le, derating_le_of_beforeUpper wf hv hw le⟩

/-- A quantity with bounds so far apart that their difference cannot be stored. -/
def wideQuantity : QuantityConfig where
  min := some (-3e38)
  max := some 3e38
  lim := some { max := some (-2.5e38) }

/-- Near the band neither difference can be stored and the whole current is allowed; further up only the
    second one cannot, and nothing is allowed. The fraction falls all the same. -/
theorem derating_wideQuantity :
    wideQuantity.defect? = none ∧ (3e38 - (-2.5e38) : Float32).isFinite = false ∧
    derating (-2e38) wideQuantity.resolve.limit = 1 ∧ derating 1e38 wideQuantity.resolve.limit = 0 ∧
    derating 1e38 wideQuantity.resolve.limit ≤ derating (-2e38) wideQuantity.resolve.limit ∧
    derating 3e38 wideQuantity.resolve.limit = 0 ∧ derating (-2.75e38) wideQuantity.resolve.limit = 1 := by
  have sound : wideQuantity.defect? = none := by decide +kernel
  obtain ⟨-, zero, one, falls⟩ := derating_shape sound
  refine ⟨sound, by decide +kernel, by decide +kernel, by decide +kernel, ?_, ?_, ?_⟩
  · have past : wideQuantity.resolve.limit.PastLower (-2e38) := by constructor <;> decide +kernel
    exact (falls (-2e38) 1e38 (by decide +kernel) (by decide +kernel) (by decide +kernel)).1 past
  · exact zero 3e38 (.inr (.inl ⟨3e38, rfl, by decide +kernel⟩))
  · refine one _ ⟨⟨?_, ?_, ?_⟩, ?_, ?_⟩ <;> decide +kernel

end QuantityConfig

end PackGuard
