import PackGuard.Calibration
import PackGuard.Proofs.Number.Double
import PackGuard.Proofs.Poll.Independence

/-!
# Averages of readings

A channel is read several times with a gap between the readings. Whatever the link answers, the next
reading is taken, and only the counts among the answers are averaged.

* `answersOf`: what a link answers to so many readings of a channel.
* `readAveraged_eq`: **as many readings as asked for, one gap fewer, and the average of the answers.**
* `average_of_failed`, `average_of_counts`: an average fails if all readings do.
* `foldl_ofInt`: **counts of 32 bits are summed without rounding**, if there are no more than `2^22`.
  So the mean is rounded twice (`roundedMean_mean`), first to 64 bits and then to 32, and neither takes
  it beyond the least or the greatest of the counts (`RoundedMean.between`).
* `readAveraged_mean`: all of this about one call.
-/

namespace PackGuard

open Binary

variable {σ : Type} [SensorLink σ]

/-! ## 1. The readings -/

/-- What a link answers when a channel is read so many times. -/
def answersOf (link : σ) (ch : Channel) (n : Nat) : List (Except LinkFault Int) :=
  (List.range n).map fun i => answerAfter link (List.replicate i ch) ch

theorem answersOf_succ (link : σ) (ch : Channel) (n : Nat) :
    answersOf link ch (n + 1) =
      (SensorLink.read link ch).1 :: answersOf (SensorLink.read link ch).2 ch n := by
  rw [answersOf, List.range_succ_eq_map, List.map_cons, List.map_map]
  rfl

@[simp] theorem length_answersOf (link : σ) (ch : Channel) (n : Nat) :
    (answersOf link ch n).length = n := by
  rw [answersOf, List.length_map, List.length_range]

/-- How many readings are taken of a channel, at least one. -/
def PollSettings.taken (s : PollSettings) : Nat := max s.readings.toNat 1

/-- The first reading and the others. -/
theorem PollSettings.taken_eq (s : PollSettings) : s.taken = s.readings.toNat - 1 + 1 := by
  unfold PollSettings.taken
  omega

/-- **The readings of a channel stand with a gap between each two**, if a gap takes any time. -/
theorem readSteps_eq (s : PollSettings) (slot : Slot) :
    readSteps s slot =
      if s.gap = 0 then List.replicate s.taken (.read slot)
      else (List.replicate s.taken (.read slot)).intersperse (.pause s.gap) := by
  have spaced (n : Nat) : (List.replicate (n + 1) (PollStep.read slot)).intersperse (.pause s.gap) =
      .read slot :: (List.replicate n [.pause s.gap, .read slot]).flatten := by
    induction n with
    | zero => rfl
    | succ n ih =>
        rw [List.replicate_succ, List.replicate_succ, List.intersperse_cons_cons,
          ← List.replicate_succ, ih]
        rfl
  rw [s.taken_eq]
  unfold readSteps pauseSteps
  by_cases zero : s.gap = 0
  · simp [zero, List.replicate_succ]
  · simp [zero, spaced]

/-- A pause moves the time along, also one that takes no time. -/
theorem runSteps_pauseSteps (ms : Nat) (rest : List PollStep) (now : Nat) (r : PollRun)
    (w : Station σ) : runSteps (pauseSteps ms ++ rest) now r w = runSteps rest (now + ms) r w := by
  unfold pauseSteps
  by_cases zero : ms = 0
  · simp [zero]
  · simp only [zero, beq_iff_eq, if_false]
    rfl

section Run

variable {w : Station σ} {slot : Slot} {t : Track} (track : w.pack.track? slot = some t)
include track

/-- A reading notes the answer and leaves the pack alone. -/
theorem runSteps_read (rest : List PollStep) (now : Nat) (r : PollRun) :
    runSteps (.read slot :: rest) now r w =
      runSteps rest now
        { r with readings := (SensorLink.read w.link t.channel).1 :: r.readings }
        ⟨(SensorLink.read w.link t.channel).2, w.pack⟩ := by
  simp only [runSteps, PollRun.perform, PollRun.take, track]

/-- **Readings, each behind a gap**, one after the other. -/
theorem runSteps_readings (gap n now : Nat) (r : PollRun) :
    runSteps (List.replicate n (pauseSteps gap ++ [.read slot])).flatten now r w =
      (now + n * gap, { r with readings := (answersOf w.link t.channel n).reverse ++ r.readings },
        ⟨afterReadings w.link (List.replicate n t.channel), w.pack⟩) := by
  induction n generalizing now r w with
  | zero => simp [runSteps, answersOf, afterReadings]
  | succ n ih =>
      rw [List.replicate_succ, List.flatten_cons, List.append_assoc, runSteps_pauseSteps]
      rw [List.singleton_append, runSteps_read track,
        ih (w := ⟨(SensorLink.read w.link t.channel).2, w.pack⟩) track, answersOf_succ,
        List.reverse_cons, List.append_assoc, Nat.add_assoc, Nat.succ_mul, Nat.add_comm gap]
      rfl

/-- **One call**: as many readings as asked for, one gap fewer, and the average of the answers. -/
theorem readAveraged_eq (s : PollSettings) (now : Nat) :
    readAveraged s slot now w =
      (average t.channel (answersOf w.link t.channel s.taken), now + (s.taken - 1) * s.gap,
        ⟨afterReadings w.link (List.replicate s.taken t.channel), w.pack⟩) := by
  have run : runSteps (readSteps s slot) now { cadence := .pack } w =
      (now + (s.readings.toNat - 1) * s.gap,
        { cadence := .pack, readings := (answersOf w.link t.channel s.taken).reverse },
        ⟨afterReadings w.link (List.replicate s.taken t.channel), w.pack⟩) := by
    rw [readSteps, runSteps_read track,
      runSteps_readings (w := ⟨(SensorLink.read w.link t.channel).2, w.pack⟩) track,
      s.taken_eq, answersOf_succ, List.reverse_cons]
    rfl
  unfold readAveraged
  rw [run, s.taken_eq]
  simp [track]

end Run

/-! ## 2. When there is no average -/

/-- There is no count if every reading failed. -/
theorem goodCounts_eq_nil_iff {answers : List (Except LinkFault Int)} :
    goodCounts answers = [] ↔ ∀ a ∈ answers, ∃ f, a = .error f := by
  rw [goodCounts, List.filterMap_eq_nil_iff]
  refine forall₂_congr fun a _ => ?_
  cases a <;> simp

theorem mem_goodCounts {answers : List (Except LinkFault Int)} {n : Int} :
    n ∈ goodCounts answers ↔ .ok n ∈ answers := by
  rw [goodCounts, List.mem_filterMap]
  constructor
  · rintro ⟨a, there, found⟩
    cases a with
    | ok m => cases found; exact there
    | error f => cases found
  · exact fun there => ⟨_, there, rfl⟩

/-- What fails last is the last fault. -/
theorem lastFault?_of_getLast? {answers : List (Except LinkFault Int)} {f : LinkFault}
    (last : answers.getLast? = some (.error f)) : lastFault? answers = some f := by
  obtain ⟨earlier, rfl⟩ := List.getLast?_eq_some_iff.1 last
  simp [lastFault?, List.filterMap_append]

/-- **An average fails if all readings do**, with what the last of them becomes. -/
theorem average_of_failed (ch : Channel) {answers : List (Except LinkFault Int)}
    (nonempty : answers ≠ []) (failed : ∀ a ∈ answers, ∃ f, a = .error f) :
    ∃ f, answers.getLast? = some (.error f) ∧ average ch answers = .error (.ofSensor f) := by
  obtain ⟨f, last⟩ := failed _ (List.getLast_mem nonempty)
  have last' : answers.getLast? = some (.error f) := by
    rw [List.getLast?_eq_some_getLast nonempty, last]
  refine ⟨f, last', ?_⟩
  simp only [average, goodCounts_eq_nil_iff.2 failed, lastFault?_of_getLast? last']

/-- **Otherwise it is the mean of the counts.** -/
theorem average_of_counts (ch : Channel) {answers : List (Except LinkFault Int)}
    (nonempty : goodCounts answers ≠ []) : average ch answers = .ok (mean (goodCounts answers)) := by
  unfold average
  split
  · next empty => exact absurd empty nonempty
  · rfl

/-! ## 3. The mean -/

/-- A count of 32 bits. -/
def IsCount (n : Int) : Prop := Calibration.leastRaw ≤ n ∧ n ≤ Calibration.greatestRaw

instance (n : Int) : Decidable (IsCount n) := inferInstanceAs (Decidable (_ ∧ _))

theorem IsCount.natAbs_le {n : Int} (h : IsCount n) : n.natAbs ≤ 2 ^ 31 := by
  obtain ⟨least, greatest⟩ := h
  unfold Calibration.leastRaw at least
  unfold Calibration.greatestRaw at greatest
  omega

/-- **Whole numbers are summed without rounding**, if all of them together are small enough. -/
theorem foldl_ofInt (counts : List Int) (a : Int)
    (small : a.natAbs + (counts.map Int.natAbs).sum ≤ 2 ^ 53) :
    counts.foldl (fun sum n => sum + Float.ofInt n) (.ofInt a) = .ofInt (a + counts.sum) := by
  induction counts generalizing a with
  | nil => simp
  | cons n counts ih =>
      rw [List.map_cons, List.sum_cons] at small
      rw [List.foldl_cons, ofInt_add (by omega), ih (a + n) (by omega), List.sum_cons, add_assoc]

/-- Bounds on whole numbers are bounds on their mean. -/
theorem quotient_mem {counts : List Int} (nonempty : counts ≠ []) {lo hi : Int}
    (bounds : ∀ n ∈ counts, lo ≤ n ∧ n ≤ hi) :
    (lo : ℚ) ≤ counts.sum / counts.length ∧ (counts.sum / counts.length : ℚ) ≤ hi := by
  have length : (0 : ℚ) < counts.length := by exact_mod_cast List.length_pos_iff.2 nonempty
  have least := List.card_nsmul_le_sum counts lo fun n there => (bounds n there).1
  have greatest := List.sum_le_card_nsmul counts hi fun n there => (bounds n there).2
  rw [nsmul_eq_mul, mul_comm] at least greatest
  rw [le_div_iff₀ length, div_le_iff₀ length]
  exact ⟨by exact_mod_cast least, by exact_mod_cast greatest⟩

/-- **The mean of counts, rounded to 64 bits and then to 32.** -/
structure RoundedMean (counts : List Int) (v : Float32) : Prop where
  finite : v.isFinite = true
  rounds : ∃ q, Rounds .binary64 (counts.sum / counts.length : ℚ) q ∧ Rounds .binary32 q (toRat v)

section Mean

variable {counts : List Int} (narrow : ∀ n ∈ counts, IsCount n) (few : counts.length ≤ 2 ^ 22)
include narrow few

theorem sum_natAbs_le : (counts.map Int.natAbs).sum ≤ 2 ^ 53 := by
  have each : ∀ k ∈ counts.map Int.natAbs, k ≤ 2 ^ 31 := by
    intro k there
    obtain ⟨n, counted, rfl⟩ := List.mem_map.1 there
    exact (narrow n counted).natAbs_le
  have total := List.sum_le_card_nsmul _ _ each
  rw [List.length_map, smul_eq_mul] at total
  omega

/-- The sum of the counts is divided once. -/
theorem mean_eq : mean counts = Binary.narrow (.ofInt counts.sum / .ofNat counts.length) := by
  have summed := foldl_ofInt counts 0 (by simpa using sum_natAbs_le narrow few)
  rw [zero_add] at summed
  rw [← summed]
  rfl

/-- The division of the sum is rounded once. -/
theorem stored_mean (nonempty : counts ≠ []) :
    Stored .binary64 (Float.ofInt counts.sum / Float.ofNat counts.length).toModel.unpack
      (counts.sum / counts.length : ℚ) := by
  have small : counts.sum.natAbs ≤ 2 ^ 53 :=
    (List.le_sum_of_subadditive Int.natAbs le_rfl Int.natAbs_add_le counts).trans
      (sum_natAbs_le narrow few)
  obtain ⟨finite, total⟩ := toRat64_ofInt small
  obtain ⟨finite', length⟩ := toRat64_ofNat (n := counts.length) (by omega)
  have positive : (counts.length : ℚ) ≠ 0 := by
    exact_mod_cast (List.length_pos_iff.2 nonempty).ne'
  exact (stored_div finite finite' (by rwa [length])).of_eq (by rw [total, length])

/-- **The mean is rounded twice.** It is not greater than the counts, so it is finite. -/
theorem roundedMean_mean (nonempty : counts ≠ []) : RoundedMean counts (mean counts) := by
  have size : |(counts.sum / counts.length : ℚ)| ≤ 2 ^ (31 : ℤ) := by
    obtain ⟨lower, upper⟩ := quotient_mem nonempty narrow
    rw [abs_le]
    norm_num [Calibration.leastRaw, Calibration.greatestRaw] at lower upper ⊢
    exact ⟨lower, by linarith⟩
  have stored := stored_mean narrow few nonempty
  obtain ⟨finite, bound⟩ := stored.bounded (by decide) (by decide) size
  have stores := stores_iff_stored.1 (stores_narrow finite)
  rw [mean_eq narrow few]
  have finite' := (stores.bounded (by decide) (by decide) bound).1
  exact ⟨finite', _, stored.rounds_value finite, stores.rounds_value finite'⟩

end Mean

/-- **Neither rounding takes a mean beyond the least or the greatest of the counts.** -/
theorem RoundedMean.between {counts : List Int} {v : Float32} (h : RoundedMean counts v)
    (narrow : ∀ n ∈ counts, IsCount n) {lo hi : Int} (least : counts.min? = some lo)
    (greatest : counts.max? = some hi) : Float32.ofInt lo ≤ v ∧ v ≤ Float32.ofInt hi := by
  obtain ⟨low, below⟩ := List.min?_eq_some_iff.1 least
  obtain ⟨high, above⟩ := List.max?_eq_some_iff.1 greatest
  obtain ⟨q, first, second⟩ := h.rounds
  -- a count is its own rounding to 64 bits
  have whole {n : Int} (there : n ∈ counts) : Rounds .binary64 n n := by
    have fits := fits_toRat64 (Float.ofInt n)
    rw [(toRat64_ofInt ((narrow n there).natAbs_le.trans (by norm_num))).2] at fits
    exact fits.rounds
  have single {n : Int} (there : n ∈ counts) :=
    rounds_ofInt ((narrow n there).natAbs_le.trans (by norm_num : 2 ^ 31 ≤ 2 ^ 127))
  obtain ⟨lower, upper⟩ := quotient_mem (List.ne_nil_of_mem low)
    fun n there => ⟨below n there, above n there⟩
  constructor
  · rw [le_iff_toRat (single low).1 h.finite]
    exact (single low).2.mono second ((whole low).mono first lower)
  · rw [le_iff_toRat h.finite (single high).1]
    exact second.mono (single high).2 (first.mono (whole high) upper)

/-- **The order of the counts does not matter.** -/
theorem mean_perm {counts counts' : List Int} (narrow : ∀ n ∈ counts, IsCount n)
    (few : counts.length ≤ 2 ^ 22) (order : counts'.Perm counts) : mean counts' = mean counts := by
  have narrow' : ∀ n ∈ counts', IsCount n := fun n there => narrow n (order.mem_iff.1 there)
  have few' : counts'.length ≤ 2 ^ 22 := order.length_eq.trans_le few
  rw [mean_eq narrow few, mean_eq narrow' few', order.sum_eq, order.length_eq]

/-- Nor do the faults among them. -/
theorem average_perm (ch ch' : Channel) {answers answers' : List (Except LinkFault Int)}
    (narrow : ∀ n ∈ goodCounts answers, IsCount n) (few : (goodCounts answers).length ≤ 2 ^ 22)
    (nonempty : goodCounts answers ≠ []) (order : (goodCounts answers').Perm (goodCounts answers)) :
    average ch' answers' = average ch answers := by
  have nonempty' : goodCounts answers' ≠ [] := by
    rintro empty
    rw [empty] at order
    exact nonempty order.nil_eq.symm
  rw [average_of_counts ch nonempty, average_of_counts ch' nonempty', mean_perm narrow few order]

/-! ## 4. One call -/

/-- **An averaged reading.** As many readings are taken of the channel as asked for, at least one, with
    the gap between each two, and nothing else happens to the station. The call fails if and only if
    all readings do, and then with what the last fault becomes. Otherwise it returns the mean of the
    counts among the answers, rounded to 64 bits and then to 32, which lies between the conversions of
    the least and of the greatest count; and any other call that meets the same counts, in whatever
    order and among whatever faults, returns the same number. -/
theorem readAveraged_mean (s : PollSettings) {slot : Slot} {t : Track} (now : Nat) {w : Station σ}
    (track : w.pack.track? slot = some t) (few : s.readings.toNat ≤ 2 ^ 22)
    (narrow : ∀ n, .ok n ∈ answersOf w.link t.channel s.taken → IsCount n) :
    let answers := answersOf w.link t.channel s.taken
    let counts := goodCounts answers
    let result := (readAveraged s slot now w).1
    readSteps s slot =
      (if s.gap = 0 then List.replicate s.taken (.read slot)
        else (List.replicate s.taken (.read slot)).intersperse (.pause s.gap)) ∧
    (readAveraged s slot now w).2 =
      (now + (s.taken - 1) * s.gap,
        ⟨afterReadings w.link (List.replicate s.taken t.channel), w.pack⟩) ∧
    ((∃ e, result = .error e) ↔ ∀ a ∈ answers, ∃ f, a = .error f) ∧
    (∀ e, result = .error e → ∃ f, answers.getLast? = some (.error f) ∧ e = .ofSensor f) ∧
    (∀ v, result = .ok v → RoundedMean counts v ∧
      ∃ lo hi, counts.min? = some lo ∧ counts.max? = some hi ∧
        Float32.ofInt lo ≤ v ∧ v ≤ Float32.ofInt hi) ∧
    ∀ (τ : Type) [SensorLink τ] (s' : PollSettings) (slot' : Slot) (t' : Track) (now' : Nat)
      (w' : Station τ), w'.pack.track? slot' = some t' → counts ≠ [] →
        (goodCounts (answersOf w'.link t'.channel s'.taken)).Perm counts →
          (readAveraged s' slot' now' w').1 = result := by
  intro answers counts result
  have call := readAveraged_eq track s now
  have returned : result = average t.channel answers := congrArg Prod.fst call
  have taken : answers.length = s.taken := length_answersOf ..
  have nonempty : answers ≠ [] := by
    rw [← List.length_pos_iff, taken, s.taken_eq]
    exact Nat.succ_pos _
  have counted : ∀ n ∈ counts, IsCount n := fun n there => narrow n (mem_goodCounts.1 there)
  have most : counts.length ≤ 2 ^ 22 :=
    (List.length_filterMap_le ..).trans (taken.trans_le (max_le few (by norm_num)))
  refine ⟨readSteps_eq s slot, congrArg Prod.snd call, ?_⟩
  rw [returned]
  by_cases empty : counts = []
  · have failed := goodCounts_eq_nil_iff.1 empty
    obtain ⟨f, last, error⟩ := average_of_failed t.channel nonempty failed
    rw [error]
    refine ⟨by simpa using failed, ?_, by simp, fun _ _ _ _ _ _ _ _ nonempty' => absurd empty nonempty'⟩
    rintro e ⟨⟩
    exact ⟨f, last, rfl⟩
  · have rounded := roundedMean_mean counted most empty
    obtain ⟨lo, least⟩ := Option.isSome_iff_exists.1 (List.isSome_min?_of_ne_nil empty)
    obtain ⟨hi, greatest⟩ := Option.isSome_iff_exists.1 (List.isSome_max?_of_ne_nil empty)
    have mean := average_of_counts t.channel empty
    refine ⟨by simpa [mean] using (goodCounts_eq_nil_iff.not.1 empty), by simp [mean], ?_, ?_⟩
    · intro v answer
      cases mean.symm.trans answer
      exact ⟨rounded, lo, hi, least, greatest, rounded.between counted least greatest⟩
    · intro τ _ s' slot' t' now' w' track' _ order
      rw [readAveraged_eq track']
      exact average_perm t.channel t'.channel counted most empty order

/-- Three readings with a gap between each two. -/
def threeReadings : PollSettings where
  readings := 3
  gap := 5

/-- The same station with a link that answers the good readings the other way round. -/
def swappedStation : Station ScriptedLink where
  link := ⟨[(.cellVoltage 1, [.ok 4, .ok 3])]⟩
  pack := flakyStation.pack

/-- Of three readings the second fails: two gaps pass and the others are averaged, as they are where
    they come the other way round. -/
theorem readAveraged_flaky :
    (readAveraged threeReadings (.cellVoltage 0) 10 flakyStation).2.1 = 20 ∧
    ∃ v, (readAveraged threeReadings (.cellVoltage 0) 10 flakyStation).1 = .ok v ∧
      RoundedMean [3, 4] v ∧ Float32.ofInt 3 ≤ v ∧ v ≤ Float32.ofInt 4 ∧
      (readAveraged { readings := 2 } (.cellVoltage 0) 0 swappedStation).1 = .ok v := by
  obtain ⟨t, track, channel⟩ : ∃ t, flakyStation.pack.track? (.cellVoltage 0) = some t ∧
      t.channel = .cellVoltage 1 := ⟨_, rfl, rfl⟩
  have counts : goodCounts (answersOf flakyStation.link t.channel threeReadings.taken) = [3, 4] := by
    rw [channel]
    decide +kernel
  have swapped : goodCounts (answersOf swappedStation.link t.channel 2) = [4, 3] := by
    rw [channel]
    decide +kernel
  have narrow : ∀ n, .ok n ∈ answersOf flakyStation.link t.channel threeReadings.taken →
      IsCount n := by
    intro n there
    have counted := mem_goodCounts.2 there
    rw [counts] at counted
    exact (show ∀ n ∈ [3, 4], IsCount n by decide) n counted
  obtain ⟨-, after, fails, -, averaged, order⟩ :=
    readAveraged_mean threeReadings 10 track (by decide) narrow
  refine ⟨congrArg Prod.fst after, ?_⟩
  rw [counts] at averaged order
  cases result : (readAveraged threeReadings (.cellVoltage 0) 10 flakyStation).1 with
  | error e =>
      have empty := goodCounts_eq_nil_iff.2 (fails.1 ⟨e, result⟩)
      rw [counts] at empty
      cases empty
  | ok v =>
      obtain ⟨rounded, lo, hi, least, greatest, below, above⟩ := averaged v result
      cases least
      cases greatest
      refine ⟨v, rfl, rounded, below, above, ?_⟩
      rw [← result]
      refine order _ { readings := 2 } (.cellVoltage 0) t 0 swappedStation track (by decide) ?_
      show (goodCounts (answersOf swappedStation.link t.channel 2)).Perm [3, 4]
      rw [swapped]
      exact .swap ..

end PackGuard
