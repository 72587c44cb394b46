import PackGuard.Proofs.Balance.Selection
import PackGuard.Proofs.Number.TotalOrder

/-!
# The selection is the head of a ranking

The lowest and the highest voltage are taken over all candidates (`Lowest`, `Highest`). They are one
number each, but for the sign of a zero, and the sign of a zero makes no candidate eligible
(`eligible?_congr`). Eligible candidates with different numbers have a strict ranking (`Outranks`), so
there is one way only to rank them.

* `exists_span`: where a voltage is a number, there are a lowest and a highest one.
* `select_eq`: **the selection is the head of the ranking, by ascending number.**
* `select_perm`: **it does not depend on the order of the candidates.**
-/

namespace PackGuard.Balance

open Binary

variable {s : BalanceSettings} {cs cs' : List Candidate} {low low' high high' v : Float32}

/-! ## 1. The span of the voltages -/

/-- The lowest number among all voltages, those of excluded candidates too. -/
def Lowest (cs : List Candidate) (low : Float32) : Prop := Extreme (· ≤ ·) (voltages cs) low

/-- The highest number among all voltages, those of excluded candidates too. -/
def Highest (cs : List Candidate) (high : Float32) : Prop :=
  Extreme (fun x y => y ≤ x) (voltages cs) high

/-- Whether a voltage is a number. -/
def HasNumber (cs : List Candidate) : Prop := ∃ v ∈ voltages cs, v.isNaN = false

/-- **Where a voltage is a number, the span is from the lowest one to the highest one.** -/
theorem exists_span (numbered : HasNumber cs) :
    ∃ low high, span? cs = some (low, high) ∧ Lowest cs low ∧ Highest cs high := by
  unfold HasNumber at numbered
  unfold span? Lowest Highest
  cases fresh : voltages cs with
  | nil =>
      obtain ⟨v, hv, -⟩ := numbered
      rw [fresh] at hv
      cases hv
  | cons v vs =>
      rw [fresh] at numbered
      have low := extreme_foldl picks_lesser numbered
      -- the choice of the highest begins with the lowest, which is among the voltages
      have high : Extreme (fun x y => y ≤ x) (vs.foldl lesser v :: v :: vs) _ :=
        extreme_foldl picks_greater ⟨_, List.mem_cons_self, low.number⟩
      refine ⟨_, _, rfl, low, ?_, high.number, fun x hx => high.first x (List.mem_cons_of_mem _ hx)⟩
      rcases List.mem_cons.1 high.among with e | among
      · rw [e]
        exact low.among
      · exact among

theorem Lowest.alike (h : Lowest cs low) (h' : Lowest cs low') : Alike low low' :=
  alike_of_le (h.both h').1 (h.both h').2

theorem Highest.alike (h : Highest cs high) (h' : Highest cs high') : Alike high high' :=
  alike_of_le (h.both h').2 (h.both h').1

/-! ## 2. Eligible candidates -/

/-- **A candidate that may bleed**, with its voltage. -/
structure Eligible (s : BalanceSettings) (low high : Float32) (c : Candidate) (v : Float32) :
    Prop where
  included : c.excluded = false
  fresh : c.voltage = some v
  enough : s.min ≤ v
  apart : low + s.delta ≤ v
  above : s.ratio ≤ 0 ∨ 0 < high - low ∧ s.ratio ≤ (v - low) / (high - low)

theorem highEnough_iff :
    highEnough s low high v = true ↔ s.min ≤ v ∧ low + s.delta ≤ v ∧
      (s.ratio ≤ 0 ∨ 0 < high - low ∧ s.ratio ≤ (v - low) / (high - low)) := by
  simp [highEnough, and_assoc]

theorem eligible?_eq_some_iff {c : Candidate} {e : CellIndex × Float32} :
    eligible? s low high c = some e ↔ c.index = e.1 ∧ Eligible s low high c e.2 := by
  constructor
  · intro h
    obtain ⟨included, fresh, index⟩ := eligible?_eq_some h
    have enough : highEnough s low high e.2 = true := by
      by_contra less
      simp [eligible?, included, fresh, less] at h
    obtain ⟨enough, apart, above⟩ := highEnough_iff.1 enough
    exact ⟨index, included, fresh, enough, apart, above⟩
  · rintro ⟨index, h⟩
    have enough := highEnough_iff.2 ⟨h.enough, h.apart, h.above⟩
    simp [eligible?, h.included, h.fresh, enough, index]

/-- **The sign of a zero makes no candidate eligible.** -/
theorem highEnough_congr (hl : Alike low low') (hh : Alike high high') :
    highEnough s low high v = highEnough s low' high' v := by
  have span := alike_sub hh hl
  have share (positive : 0 < high - low) : s.ratio ≤ (v - low) / (high - low) ↔
      s.ratio ≤ (v - low') / (high' - low') :=
    le_congr (.refl _) (alike_div (alike_sub (.refl v) hl) span positive)
  rw [Bool.eq_iff_iff, highEnough_iff, highEnough_iff]
  refine and_congr .rfl (and_congr (le_congr (alike_add hl _) (.refl v)) (or_congr .rfl ?_))
  rw [← lt_congr (.refl 0) span]
  exact and_congr_right share

theorem eligible?_congr (hl : Alike low low') (hh : Alike high high') :
    eligible? s low high = eligible? s low' high' := by
  funext c
  simp only [eligible?, highEnough_congr hl hh]

/-! ## 3. The ranking -/

/-- The order of the ranking: a higher voltage comes first, and of two equal ones the lower
    number. -/
def Outranks (a b : CellIndex × Float32) : Prop :=
  totalKey b.2 < totalKey a.2 ∨ totalKey a.2 = totalKey b.2 ∧ a.1 < b.1

/-- **A higher voltage outranks a lower one.** -/
theorem outranks_of_lt {a b : CellIndex × Float32} (h : b.2 < a.2) : Outranks a b :=
  .inl (totalKey_lt h)

theorem Outranks.asymm {a b : CellIndex × Float32} (h : Outranks a b) : ¬ Outranks b a := by
  unfold Outranks at *
  grind

theorem ranksBefore_iff {a b : CellIndex × Float32} :
    ranksBefore a b = true ↔
      totalKey b.2 < totalKey a.2 ∨ totalKey a.2 = totalKey b.2 ∧ a.1 ≤ b.1 := by
  simp [ranksBefore]

theorem ranksBefore_trans (a b c : CellIndex × Float32) (h : ranksBefore a b = true)
    (h' : ranksBefore b c = true) : ranksBefore a c = true := by
  rw [ranksBefore_iff] at *
  grind

theorem ranksBefore_total (a b : CellIndex × Float32) :
    (ranksBefore a b || ranksBefore b a) = true := by
  rw [Bool.or_eq_true, ranksBefore_iff, ranksBefore_iff]
  grind

/-- The eligible candidates in the order of the ranking. -/
def ranking (s : BalanceSettings) (low high : Float32) (cs : List Candidate) :
    List (CellIndex × Float32) :=
  (cs.filterMap (eligible? s low high)).mergeSort ranksBefore

theorem mem_ranking {e : CellIndex × Float32} :
    e ∈ ranking s low high cs ↔ ∃ c ∈ cs, c.index = e.1 ∧ Eligible s low high c e.2 := by
  simp [ranking, List.mem_filterMap, eligible?_eq_some_iff]

/-- The numbers of the eligible candidates stand among the numbers of all. -/
theorem indices_sublist (s : BalanceSettings) (low high : Float32) (cs : List Candidate) :
    ((cs.filterMap (eligible? s low high)).map (·.1)).Sublist (cs.map (·.index)) := by
  induction cs with
  | nil => exact .slnil
  | cons c cs ih =>
      cases h : eligible? s low high c with
      | none =>
          rw [List.filterMap_cons_none h]
          exact ih.cons _
      | some e =>
          rw [List.filterMap_cons_some h, List.map_cons, List.map_cons,
            (eligible?_eq_some_iff.1 h).1]
          exact ih.cons_cons _

section Distinct

variable (distinct : (cs.map (·.index)).Nodup)
include distinct

theorem nodup_ranking : ((ranking s low high cs).map (·.1)).Nodup :=
  (((List.mergeSort_perm _ _).map _).nodup_iff).2 (distinct.sublist (indices_sublist ..))

/-- **Candidates with different numbers have a strict ranking.** -/
theorem pairwise_ranking : (ranking s low high cs).Pairwise Outranks := by
  have ordered : (ranking s low high cs).Pairwise fun a b => ranksBefore a b = true :=
    List.pairwise_mergeSort ranksBefore_trans ranksBefore_total _
  have different : (ranking s low high cs).Pairwise fun a b => a.1 ≠ b.1 :=
    List.pairwise_map.1 (nodup_ranking distinct)
  refine (ordered.and different).imp fun {a b} h => ?_
  rcases ranksBefore_iff.1 h.1 with above | ⟨same, le⟩
  · exact .inl above
  · exact .inr ⟨same, by grind⟩

/-- **There is one way only to rank them.** -/
theorem ranking_perm (same : cs'.Perm cs) : ranking s low high cs' = ranking s low high cs := by
  have distinct' : (cs'.map (·.index)).Nodup := ((same.map _).nodup_iff).2 distinct
  have perm : (ranking s low high cs').Perm (ranking s low high cs) :=
    ((List.mergeSort_perm _ _).trans (same.filterMap _)).trans (List.mergeSort_perm _ _).symm
  exact perm.eq_of_pairwise (fun a b _ _ h h' => absurd h' h.asymm) (pairwise_ranking distinct')
    (pairwise_ranking distinct)

/-! ## 4. The selection -/

/-- **The selection ascends.** -/
theorem select_ascending : (select s cs).Pairwise (· < ·) := by
  unfold select
  split
  · exact .nil
  · next low high _ =>
      have ordered : (((firstOf s.most (ranking s low high cs)).map (·.1)).mergeSort
          fun a b => a ≤ b).Pairwise fun a b => decide (a ≤ b) = true :=
        List.pairwise_mergeSort (by grind) (by grind) _
      have different : (((firstOf s.most (ranking s low high cs)).map (·.1)).mergeSort
          fun a b => a ≤ b).Nodup := by
        refine (List.mergeSort_perm _ _).nodup_iff.2 ?_
        exact (nodup_ranking distinct).sublist ((firstOf_sublist _ _).map _)
      refine (ordered.and different).imp fun {a b} h => ?_
      have le : a ≤ b := by simpa using h.1
      grind

end Distinct

/-- Where no voltage is a number, nothing is selected. -/
theorem select_of_no_number (unnumbered : ¬ HasNumber cs) : select s cs = [] := by
  have nobody (low high : Float32) : cs.filterMap (eligible? s low high) = [] := by
    refine List.eq_nil_iff_forall_not_mem.2 fun e he => unnumbered ?_
    obtain ⟨c, hc, h⟩ := List.mem_filterMap.1 he
    have eligible := (eligible?_eq_some_iff.1 h).2
    exact ⟨e.2, List.mem_filterMap.2 ⟨c, hc, eligible.fresh⟩, (isNaN_of_le eligible.enough).2⟩
  unfold select
  split
  · rfl
  · next low high _ => simp [nobody, firstOf]

/-- **The selection is the head of the ranking, by ascending number**, whichever zero is taken for
    the lowest or the highest voltage. -/
theorem select_eq (hl : Lowest cs low) (hh : Highest cs high) :
    select s cs = ((firstOf s.most (ranking s low high cs)).map (·.1)).mergeSort fun a b => a ≤ b := by
  obtain ⟨low', high', span, hl', hh'⟩ := exists_span ⟨low, hl.among, hl.number⟩
  have same := eligible?_congr (s := s) (hl.alike hl') (hh.alike hh')
  simp only [select, span, ranking, same]

theorem voltages_perm (same : cs'.Perm cs) : (voltages cs').Perm (voltages cs) :=
  same.filterMap _

/-- **The selection does not depend on the order of the candidates.** -/
theorem select_perm (distinct : (cs.map (·.index)).Nodup) (same : cs'.Perm cs) :
    select s cs' = select s cs := by
  have fresh := voltages_perm same
  by_cases numbered : HasNumber cs
  · obtain ⟨low, high, -, hl, hh⟩ := exists_span numbered
    have hl' : Lowest cs' low := hl.of_perm fresh.symm
    have hh' : Highest cs' high := hh.of_perm fresh.symm
    rw [select_eq hl hh, select_eq hl' hh', ranking_perm distinct same]
  · have unnumbered : ¬ HasNumber cs' :=
      fun ⟨v, hv, number⟩ => numbered ⟨v, fresh.mem_iff.1 hv, number⟩
    rw [select_of_no_number numbered, select_of_no_number unnumbered]

/-- **The selection is the first cells of the ranking, by ascending number.** The ranking holds the
    eligible candidates, each with its voltage, the higher voltage first and of two equal ones the
    lower number. The span is from the lowest to the highest number among all voltages; where there
    is none, nothing is selected. The order of the candidates does not matter. -/
theorem selects_first_of_ranking (s : BalanceSettings) {cs : List Candidate}
    (distinct : (cs.map (·.index)).Nodup) :
    (select s cs).Pairwise (· < ·) ∧
    (∀ low high, Lowest cs low → Highest cs high → ∃ ranked : List (CellIndex × Float32),
      (∀ e, e ∈ ranked ↔ ∃ c ∈ cs, c.index = e.1 ∧ Eligible s low high c e.2) ∧
      ranked.Pairwise Outranks ∧ (select s cs).Perm ((firstOf s.most ranked).map (·.1))) ∧
    (HasNumber cs ↔ ∃ low high, Lowest cs low ∧ Highest cs high) ∧
    (¬ HasNumber cs → select s cs = []) ∧
    (∀ a b : CellIndex × Float32, b.2 < a.2 → Outranks a b) ∧
    ∀ cs' : List Candidate, cs'.Perm cs → select s cs' = select s cs := by
  refine ⟨select_ascending distinct, fun low high hl hh => ?_, ?_, select_of_no_number,
    fun _ _ => outranks_of_lt, fun _ => select_perm distinct⟩
  · refine ⟨ranking s low high cs, fun _ => mem_ranking, pairwise_ranking distinct, ?_⟩
    rw [select_eq hl hh]
    exact List.mergeSort_perm _ _
  · constructor
    · intro numbered
      obtain ⟨low, high, -, span⟩ := exists_span numbered
      exact ⟨low, high, span⟩
    · rintro ⟨low, -, hl, -⟩
      exact ⟨low, hl.among, hl.number⟩

/-- Five cells. Two stand out above the lowest one, and one of these is excluded; of the others one
    has no voltage and one is not a number. -/
def fiveCells : List Candidate :=
  [⟨3, some 3.5, true⟩, ⟨1, some 3, false⟩, ⟨4, none, false⟩, ⟨2, some 3.25, false⟩,
    ⟨5, some nan, false⟩]

theorem selects_second_of_five_cells :
    select {} fiveCells = [2] ∧ (select {} fiveCells).Pairwise (· < ·) ∧
      (∃ low high, Lowest fiveCells low ∧ Highest fiveCells high ∧
        ∃ ranked, ranked.Pairwise Outranks ∧
          (select {} fiveCells).Perm ((firstOf 0 ranked).map (·.1))) ∧
      select {} fiveCells.reverse = select {} fiveCells := by
  obtain ⟨ascending, ranks, number, -, -, same⟩ :=
    @selects_first_of_ranking {} fiveCells (by decide)
  obtain ⟨low, high, hl, hh⟩ := number.1 ⟨3, by simp [voltages, fiveCells], by decide +kernel⟩
  obtain ⟨ranked, -, ordered, selected⟩ := ranks low high hl hh
  exact ⟨by decide +kernel, ascending, ⟨low, high, hl, hh, ranked, ordered, selected⟩,
    same _ fiveCells.reverse_perm⟩

end PackGuard.Balance
