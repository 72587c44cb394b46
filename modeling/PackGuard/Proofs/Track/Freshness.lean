import PackGuard.Proofs.Track.Steps

/-!
# What a channel shows after a history of readings and failures

A channel takes in raw values and counts failed cycles. Its average is a number or there is none, and
there being none is shown as no data.

* `Track.after`: a channel after a history. `Track.Regular`: what holds all along of one that is
  calibrated with finite numbers.
* `Track.isNaN_next_iff`: **a new average fails to be a number exactly if the one before is infinite**.
* `Track.reading_exact`: **what a channel shows, from the last raw value and the failures after it**.
  Between a raw value that meets an infinite average and the next one that is no data.
* `Track.loses_value`: large calibrated values do lead there.
-/

namespace PackGuard

open Binary

/-! ## 1. Histories -/

/-- What a cycle brings to a channel: a raw value, or a failure. -/
inductive Intake where
  | value (raw : Float32)
  | failure
deriving DecidableEq, Repr

namespace Track

/-- Take in what a cycle brings. -/
def take (t : Track) : Intake → Track
  | .value raw => t.applyRaw raw
  | .failure => t.recordFailure

/-- The channel after a history. -/
def after (t : Track) (history : List Intake) : Track := history.foldl take t

theorem after_append (t : Track) (early late : List Intake) :
    t.after (early ++ late) = (t.after early).after late := List.foldl_append

/-- What a channel is set to is not changed by what it takes in. -/
theorem settings_after (t : Track) (history : List Intake) :
    (t.after history).calibration = t.calibration ∧ (t.after history).weight = t.weight ∧
      (t.after history).staleAfter = t.staleAfter := by
  induction history using List.reverseRecOn with
  | nil => exact ⟨rfl, rfl, rfl⟩
  | append_singleton history i ih =>
      rw [after_append]
      cases i with
      | value raw => exact ih
      | failure => exact ih

/-- The count that makes a channel stale can be reached. -/
theorem staleAfter_new_le (channel : Channel) (a : Acquisition) (staleAfter : UInt32) :
    (new channel a staleAfter).staleAfter ≤ mostFailures := by
  have := staleAfter.toNat_lt
  show max staleAfter.toNat 1 ≤ UInt32.size - 1
  simp only [UInt32.size]
  omega

/-- Failures are counted up to the greatest count that is kept, and leave the average alone. -/
theorem after_failures (t : Track) (counted : t.failures ≤ mostFailures) (n : Nat) :
    t.after (List.replicate n .failure) = { t with failures := min (t.failures + n) mostFailures } := by
  induction n with
  | zero =>
      rw [Nat.add_zero, Nat.min_eq_left counted]
      rfl
  | succ n ih =>
      rw [List.replicate_succ', after_append, ih]
      show recordFailure _ = _
      simp only [recordFailure]
      congr 1
      omega

/-- As long as nothing but failures comes there is no average. -/
theorem average_of_failures {t : Track} {history : List Intake} (only : ∀ raw, .value raw ∉ history) :
    (t.after history).average = t.average := by
  induction history using List.reverseRecOn with
  | nil => rfl
  | append_singleton history i ih =>
      rw [after_append]
      cases i with
      | value raw => exact absurd (List.mem_append_right _ (List.mem_singleton.2 rfl)) (only raw)
      | failure => exact ih fun raw mem => only raw (List.mem_append_left _ mem)

/-- A new average that is a number is kept. -/
theorem average_applyRaw {t : Track} {raw : Float32} (number : (t.next raw).isNaN = false) :
    (t.applyRaw raw).average = some (t.next raw) := by
  rw [applyRaw, number]
  rfl

section Kept

variable {t : Track} {fit kept : Float32 → Prop} (seed : ∀ p, fit p → kept p)
  (step : ∀ a p, kept a → fit p → kept (smooth a p t.weight))
include seed step

/-- What holds of the average and is kept by every step holds of the next one. -/
theorem next_of_kept (before : ∀ v ∈ t.average, kept v) {raw : Float32}
    (physical : fit (t.calibration.toPhysical raw)) : kept (t.next raw) := by
  unfold next
  cases average : t.average with
  | none => exact seed _ physical
  | some a => exact step a _ (before a average) physical

variable (empty : t.average = none) {history : List Intake}
  (fed : ∀ raw, .value raw ∈ history → fit (t.calibration.toPhysical raw))
include empty fed

/-- **What holds of every physical value and is kept by every step holds of the average.** -/
theorem average_after : ∀ v ∈ (t.after history).average, kept v := by
  induction history using List.reverseRecOn with
  | nil =>
      intro v set
      rw [show (t.after []).average = none from empty] at set
      cases set
  | append_singleton history i ih =>
      have before := ih fun raw mem => fed raw (List.mem_append_left _ mem)
      obtain ⟨calibration, weight, -⟩ := settings_after t history
      rw [after_append]
      generalize t.after history = u at *
      cases i with
      | failure => exact before
      | value raw =>
          have physical := fed raw (List.mem_append_right _ (List.mem_singleton.2 rfl))
          rw [← calibration] at physical
          have last := next_of_kept seed (weight.symm ▸ step) before physical
          intro v set
          change v ∈ (if (u.next raw).isNaN then none else some (u.next raw)) at set
          split at set
          · cases set
          · exact Option.some.inj set ▸ last

/-- **If it holds of numbers only, the average is there** from the first raw value on. -/
theorem exists_average (number : ∀ v, kept v → v.isNaN = false)
    (produced : ∃ raw, .value raw ∈ history) : ∃ v, (t.after history).average = some v ∧ kept v := by
  have present : ∃ v, (t.after history).average = some v := by
    induction history using List.reverseRecOn with
    | nil =>
        obtain ⟨raw, mem⟩ := produced
        cases mem
    | append_singleton history i ih =>
        have earlier : ∀ raw, .value raw ∈ history → fit (t.calibration.toPhysical raw) :=
          fun raw mem => fed raw (List.mem_append_left _ mem)
        rw [after_append]
        cases i with
        | failure =>
            obtain ⟨raw, mem⟩ := produced
            exact ih earlier ⟨raw, by simpa using mem⟩
        | value raw =>
            have physical := fed raw (List.mem_append_right _ (List.mem_singleton.2 rfl))
            obtain ⟨calibration, weight, -⟩ := settings_after t history
            rw [← calibration] at physical
            have last := next_of_kept seed (weight.symm ▸ step)
              (average_after seed step empty earlier) physical
            exact ⟨_, average_applyRaw (number _ last)⟩
  obtain ⟨v, shown⟩ := present
  exact ⟨v, shown, average_after seed step empty fed v shown⟩

end Kept

/-! ## 2. Numbers -/

/-- **A channel that is calibrated with finite numbers**: its weight is a fraction above zero, one or
    clearly below one, and its average, if there is one, is a number. -/
structure Regular (t : Track) : Prop where
  scale : t.calibration.scale.isFinite = true
  offset : t.calibration.offset.isFinite = true
  finite : t.weight.isFinite = true
  positive : 0 < t.weight
  weight : t.weight = 1 ∨ toRat t.weight ≤ 1023 / 1024
  average : ∀ v ∈ t.average, v.isNaN = false

theorem regular_new {a : Acquisition} (scale : a.calibration.scale.isFinite = true)
    (offset : a.calibration.offset.isFinite = true) (channel : Channel) (staleAfter : UInt32) :
    (new channel a staleAfter).Regular := by
  obtain ⟨finite, positive, weight⟩ := isWeight_smoothingWeight a.samples a.decay
  exact ⟨scale, offset, finite, positive, weight, nofun⟩

theorem Regular.isWeight {t : Track} (regular : t.Regular) : IsWeight t.weight :=
  ⟨regular.finite, regular.positive, regular.weight⟩

theorem Regular.take {t : Track} (regular : t.Regular) (i : Intake) : (t.take i).Regular := by
  cases i with
  | failure => exact ⟨regular.1, regular.2, regular.3, regular.4, regular.5, regular.6⟩
  | value raw =>
      refine ⟨regular.1, regular.2, regular.3, regular.4, regular.5, fun v set => ?_⟩
      change v ∈ (if (t.next raw).isNaN then none else some (t.next raw)) at set
      split at set
      · cases set
      · next number =>
          cases set
          simpa using number

theorem Regular.after {t : Track} (regular : t.Regular) (history : List Intake) :
    (t.after history).Regular := by
  induction history generalizing t with
  | nil => exact regular
  | cons i history ih => exact ih (regular.take i)

/-- Raw values are calibrated to numbers. -/
theorem Regular.isNaN_toPhysical {t : Track} (regular : t.Regular) {raw : Float32}
    (finite : raw.isFinite = true) : (t.calibration.toPhysical raw).isNaN = false :=
  isNaN_add (stores_mul finite regular.scale).isNaN (isNaN_of_isFinite regular.offset)
    (.inr regular.offset)

/-- An average that is infinite, and takes every value after it along. -/
def Overflown (t : Track) : Prop := ∃ v ∈ t.average, v.isInf = true

/-- **A new average fails to be a number exactly if the one before is infinite.** -/
theorem isNaN_next_iff {t : Track} (regular : t.Regular) {raw : Float32}
    (finite : raw.isFinite = true) : (t.next raw).isNaN = true ↔ t.Overflown := by
  have number := regular.isNaN_toPhysical finite
  unfold next Overflown
  cases average : t.average with
  | none =>
      refine iff_of_false (fun lost => ?_) (by rintro ⟨v, set, -⟩; cases set)
      change (t.calibration.toPhysical raw).isNaN = true at lost
      rw [number] at lost
      cases lost
  | some a =>
      constructor
      · intro lost
        refine ⟨a, rfl, by_contra fun bounded => ?_⟩
        have finite := isFinite_of_not_isInf (regular.average a average) bounded
        have kept := isNaN_smooth finite number regular.finite regular.positive
        rw [kept] at lost
        cases lost
      · rintro ⟨v, set, infinite⟩
        cases set
        exact isNaN_smooth_of_isInf infinite number regular.finite regular.positive

/-! ## 3. Readings -/

/-- **A channel that is fed moderate values never has an infinite average.** -/
theorem not_overflown_of_moderate {t : Track} (regular : t.Regular) (empty : t.average = none)
    {history : List Intake}
    (moderate : ∀ raw, .value raw ∈ history → Moderate (t.calibration.toPhysical raw)) :
    ¬ (t.after history).Overflown := by
  have bounded : ∀ v ∈ (t.after history).average, v.isFinite = true ∧ |toRat v| ≤ 2 ^ 127 := by
    refine average_after (fun p (physical : Moderate p) => ?_) (fun a p before physical => ?_) empty
      moderate
    · exact ⟨physical.finite, physical.small.trans (by norm_num)⟩
    · exact smooth_moderate before.1 before.2 physical regular.isWeight
  rintro ⟨v, set, infinite⟩
  have lost := not_finite_of_isInf infinite
  rw [(bounded v set).1] at lost
  cases lost

/-- What a channel shows after a raw value and some failures. -/
theorem reading_after_value {t : Track} (possible : t.staleAfter ≤ mostFailures) (raw : Float32)
    (n : Nat) :
    (t.after (.value raw :: List.replicate n .failure)).reading =
      if (t.next raw).isNaN then .noData
      else if t.staleAfter ≤ n then .stale (t.next raw) else .fresh (t.next raw) := by
  show ((t.applyRaw raw).after (List.replicate n .failure)).reading = _
  rw [after_failures _ (Nat.zero_le _)]
  have counted : t.staleAfter ≤ min (0 + n) mostFailures ↔ t.staleAfter ≤ n := by omega
  unfold reading applyRaw isStale
  dsimp only
  cases (t.next raw).isNaN with
  | true => rfl
  | false => simp only [Bool.false_eq_true, if_false, counted, decide_eq_true_eq]

/-- The first value is the average. -/
theorem average_seeded {t : Track} (empty : t.average = none) {raw : Float32}
    (number : (t.calibration.toPhysical raw).isNaN = false) :
    (t.applyRaw raw).average = some (t.calibration.toPhysical raw) := by
  have seed : t.next raw = t.calibration.toPhysical raw := by rw [next, empty]
  rw [average_applyRaw (seed ▸ number), seed]

theorem next_of_average {t : Track} {a : Float32} (average : t.average = some a) (raw : Float32) :
    t.next raw = smooth a (t.calibration.toPhysical raw) t.weight := by
  rw [next, average]

/-- A new average that is a number is shown. -/
theorem shown_of_number {t : Track} (possible : t.staleAfter ≤ mostFailures) {raw : Float32}
    (number : (t.next raw).isNaN = false) :
    (t.after [.value raw]).reading.last? = some (t.next raw) := by
  have shown := reading_after_value possible raw 0
  rw [number] at shown
  refine (congrArg Reading.last? shown).trans ?_
  simp only [Bool.false_eq_true, if_false]
  split <;> rfl

/-- **What a channel shows.** For a channel that is calibrated with finite numbers, with any weight and
    any count that makes it stale, after any history of finite raw values and failures:

    * without any raw value it has no data;
    * after the last raw value and `n` failures it shows the average that this value led to, stale
      exactly if the count is reached, unless that average is not a number;
    * and this happens exactly if the average before was infinite,
    * to which moderate values never lead. -/
theorem reading_exact {a : Acquisition} (scale : a.calibration.scale.isFinite = true)
    (offset : a.calibration.offset.isFinite = true) (channel : Channel) (staleAfter : UInt32)
    {history : List Intake} (finite : ∀ raw, .value raw ∈ history → raw.isFinite = true) :
    ((∀ raw, .value raw ∉ history) →
      ((new channel a staleAfter).after history).reading = .noData) ∧
    ∀ before raw n, history = before ++ .value raw :: List.replicate n .failure →
      ((new channel a staleAfter).after history).reading =
        (if (((new channel a staleAfter).after before).next raw).isNaN then .noData
        else if max staleAfter.toNat 1 ≤ n then
          .stale (((new channel a staleAfter).after before).next raw)
        else .fresh (((new channel a staleAfter).after before).next raw)) ∧
      ((((new channel a staleAfter).after before).next raw).isNaN = true ↔
        ((new channel a staleAfter).after before).Overflown) ∧
      ((∀ raw, .value raw ∈ before → Moderate (a.calibration.toPhysical raw)) →
        ¬ ((new channel a staleAfter).after before).Overflown) := by
  have regular := regular_new scale offset channel staleAfter
  refine ⟨fun only => ?_, ?_⟩
  · unfold reading
    rw [average_of_failures only]
    rfl
  · rintro before raw n rfl
    have possible := staleAfter_new_le channel a staleAfter
    obtain ⟨-, -, count⟩ := settings_after (new channel a staleAfter) before
    refine ⟨?_, isNaN_next_iff (regular.after before) ?_, not_overflown_of_moderate regular rfl⟩
    · rw [after_append, reading_after_value (count ▸ possible), count]
      rfl
    · exact finite raw (List.mem_append_right _ List.mem_cons_self)

/-- A quarter of each new value counts, at half a volt a count and one volt at zero. -/
def quarterChannel : Acquisition where
  calibration := { scale := 0.5, offset := 1 }
  samples := 4

/-- After two failures its last average is shown as stale. -/
theorem stale_after_two_failures :
    ((new .packVoltage quarterChannel 2).after
      [.value 4, .failure, .value 8, .failure, .failure]).reading = .stale 3.5 ∧
    ¬ ((new .packVoltage quarterChannel 2).after [.value 4, .failure]).Overflown := by
  have raws : ∀ raw, .value raw ∈ [Intake.value 4, .failure, .value 8, .failure, .failure] →
      raw.isFinite = true := by
    intro raw mem
    simp only [List.mem_cons, Intake.value.injEq, reduceCtorEq, List.not_mem_nil, or_false, false_or]
      at mem
    rcases mem with rfl | rfl <;> decide
  obtain ⟨-, last⟩ := reading_exact (a := quarterChannel) (by decide) (by decide) .packVoltage 2 raws
  obtain ⟨reading, lost, -⟩ := last [.value 4, .failure] 8 2 rfl
  have average : ((new .packVoltage quarterChannel 2).after [.value 4, .failure]).next 8 = 3.5 := by
    decide +kernel
  rw [average] at reading lost
  exact ⟨reading, fun overflown => absurd (lost.2 overflown) (by decide)⟩

/-- **A channel with a usable calibration loses its value again.** Both raw values are calibrated to an
    infinity; the first one is shown, and with the second there is no data. -/
theorem loses_value :
    (3e38 : Float32).isFinite = true ∧ ((3e38 : Float32) == 0) = false ∧
    ((new .packVoltage { calibration := { scale := 3e38 } } 3).after [.value 2]).reading =
      .fresh infinity ∧
    ((new .packVoltage { calibration := { scale := 3e38 } } 3).after [.value 2, .value 2]).reading =
      .noData := by
  refine ⟨?_, ?_, ?_, ?_⟩ <;> decide +kernel

end Track

end PackGuard
