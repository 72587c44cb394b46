import PackGuard.Config.Check
import PackGuard.Config.Resolve
import PackGuard.Proofs.Number.NotANumber

/-!
# What a configuration without a defect stands for

The check looks at what is written; a controller runs on what that resolves to. Each check is read
back as what it rules out, for the quantity as it is merged, so that no cell escapes.

* `firstPresent_eq_none_iff`: no defect is found exactly if no check has found one.
* `Limit.WellFormed`: finite bounds in order, and both bands strictly inside them.
* `QuantityConfig.wellFormed_of_sound`: a quantity without a defect has such limits.
* `Config.wellFormed_resolve`: **a configuration without a defect resolves to settings without one,
  and all limits in them are well-formed**.
-/

namespace PackGuard

/-! ## 1. Checks -/

section Checks

variable {δ : Type}

theorem firstPresent_eq_none_iff {checks : List (δ × Bool)} :
    firstPresent checks = none ↔ ∀ c ∈ checks, c.2 = false := by
  simp [firstPresent, List.find?_eq_none]

theorem finiteIfSet_iff {x : Option Float32} :
    finiteIfSet x = true ↔ ∀ a ∈ x, a.isFinite = true := by
  cases x <;> simp [finiteIfSet]

theorem bothSet_eq_false_iff {x y : Option Float32} {r : Float32 → Float32 → Bool} :
    bothSet x y r = false ↔ ∀ a ∈ x, ∀ b ∈ y, r a b = false := by
  cases x <;> cases y <;> simp [bothSet]

end Checks

/-! ## 2. Limits -/

/-- A band strictly inside hard bounds, as far as there are any. -/
structure Band.Inside (b : Band) (min max : Option Float32) : Prop where
  finite : (∀ x ∈ b.min, x.isFinite = true) ∧ ∀ x ∈ b.max, x.isFinite = true
  above : ∀ low ∈ min, (∀ x ∈ b.min, low < x) ∧ ∀ x ∈ b.max, low < x
  below : ∀ high ∈ max, (∀ x ∈ b.min, x < high) ∧ ∀ x ∈ b.max, x < high
  ordered : ∀ low ∈ b.min, ∀ high ∈ b.max, low ≤ high

/-- **Limits that make sense together.** -/
structure Limit.WellFormed (l : Limit) : Prop where
  finite : (∀ x ∈ l.min, x.isFinite = true) ∧ ∀ x ∈ l.max, x.isFinite = true
  ordered : ∀ low ∈ l.min, ∀ high ∈ l.max, low < high
  ext : l.ext.Inside l.min l.max
  lim : l.lim.Inside l.min l.max

/-- A band without sides is inside any bounds. -/
theorem Band.inside_empty (min max : Option Float32) : ({} : Band).Inside min max where
  finite := ⟨nofun, nofun⟩
  above _ _ := ⟨nofun, nofun⟩
  below _ _ := ⟨nofun, nofun⟩
  ordered := nofun

/-! ## 3. Quantities -/

/-- Of two finite bounds that are checked not to be the other way round, one is below the other. -/
theorem lt_of_apart {a b : Float32} (ha : a.isFinite = true) (hb : b.isFinite = true)
    (apart : decide (b ≤ a) = false) : a < b :=
  Binary.lt_of_not_le (Binary.isNaN_of_isFinite hb) (Binary.isNaN_of_isFinite ha)
    (of_decide_eq_false apart)

namespace QuantityConfig

variable {q : QuantityConfig}

/-- **A band in which no check has found anything is strictly inside the hard bounds.** -/
theorem inside_of_sound (bounds : (∀ x ∈ q.min, x.isFinite = true) ∧ ∀ x ∈ q.max, x.isFinite = true)
    {name : BandName} {band : Option Band} (sound : ∀ c ∈ q.bandChecks name band, c.2 = false) :
    (band.getD {}).Inside q.min q.max := by
  cases band with
  | none => exact Band.inside_empty _ _
  | some b =>
      simp only [bandChecks, List.forall_mem_cons, Bool.not_eq_false', Bool.and_eq_true,
        finiteIfSet_iff, bothSet_eq_false_iff] at sound
      obtain ⟨⟨hmin, hmax⟩, maxBelow, maxAbove, minAbove, minBelow, ordered, -⟩ := sound
      constructor
      · exact ⟨hmin, hmax⟩
      · intro low h
        exact ⟨fun x hx => lt_of_apart (bounds.1 low h) (hmin x hx) (minAbove x hx low h),
          fun x hx => lt_of_apart (bounds.1 low h) (hmax x hx) (maxAbove x hx low h)⟩
      · intro high h
        exact ⟨fun x hx => lt_of_apart (hmin x hx) (bounds.2 high h) (minBelow x hx high h),
          fun x hx => lt_of_apart (hmax x hx) (bounds.2 high h) (maxBelow x hx high h)⟩
      · intro low hl high hh
        exact Binary.le_of_not_lt (Binary.isNaN_of_isFinite (hmax high hh))
          (Binary.isNaN_of_isFinite (hmin low hl)) (of_decide_eq_false (ordered low hl high hh))

/-- **A quantity without a defect resolves to well-formed limits.** -/
theorem wellFormed_of_sound (sound : q.defect? = none) : q.resolve.limit.WellFormed := by
  have checks := firstPresent_eq_none_iff.1 sound
  simp only [QuantityConfig.checks, List.forall_mem_append, List.forall_mem_cons,
    Bool.not_eq_false', Bool.and_eq_true, finiteIfSet_iff, bothSet_eq_false_iff] at checks
  obtain ⟨⟨⟨⟨bounds, ordered, -⟩, lim⟩, ext⟩, -⟩ := checks
  refine ⟨bounds, fun low hl high hh => ?_, inside_of_sound bounds ext, inside_of_sound bounds lim⟩
  exact lt_of_apart (bounds.1 low hl) (bounds.2 high hh) (ordered low hl high hh)

end QuantityConfig

/-! ## 4. Single cells -/

/-- **Entries that are taken one by one, each of them new, are those that are apart from all before and
    from each other.** -/
theorem unseen_cons_iff {α κ : Type} {key : α → κ} {x : α} {xs : List α} {seen : List κ} :
    (key x ∉ seen ∧ (∀ y ∈ xs, key y ∉ key x :: seen) ∧ (xs.map key).Nodup) ↔
      (∀ y ∈ x :: xs, key y ∉ seen) ∧ ((x :: xs).map key).Nodup := by
  rw [List.forall_mem_cons, List.map_cons, List.nodup_cons, List.mem_map]
  constructor
  · rintro ⟨fresh, later, nodup⟩
    refine ⟨⟨fresh, fun y there seen => later y there (List.mem_cons_of_mem _ seen)⟩, ?_, nodup⟩
    rintro ⟨y, there, same⟩
    exact later y there (same ▸ List.mem_cons_self)
  · rintro ⟨⟨fresh, later⟩, once, nodup⟩
    refine ⟨fresh, fun y there => ?_, nodup⟩
    rw [List.mem_cons, not_or]
    exact ⟨fun same => once ⟨y, there, same⟩, later y there⟩

namespace Config

/-- What the check admits for a single cell: a number that the pack has, and quantities without a
    defect over those of its class. -/
structure Admits (c : Config) (o : CellOverride) : Prop where
  range : o.index ≠ 0 ∧ o.index ≤ c.pack.cells
  voltage : ∀ q ∈ o.voltage, (q.or c.cellVoltage).defect? = none
  temperature : ∀ q ∈ o.temperature, (q.or c.cellTemperature).defect? = none
  scale : badScale o.scale = false

theorem quantityDefect?_eq_none_iff {name : String} {q : QuantityConfig} :
    quantityDefect? name q = none ↔ q.defect? = none := by
  simp [quantityDefect?]

variable {c : Config}

theorem cellDefect?_eq_none_iff {seen : List UInt16} {o : CellOverride} :
    c.cellDefect? seen o = none ↔ c.Admits o ∧ o.index ∉ seen := by
  simp only [cellDefect?, Option.orElse_eq_none, firstPresent_eq_none_iff, List.forall_mem_cons,
    Option.bind_eq_none_iff, quantityDefect?_eq_none_iff, Bool.or_eq_false_iff]
  constructor
  · rintro ⟨⟨⟨zero, above⟩, fresh, -⟩, voltage, temperature, scale, -⟩
    exact ⟨⟨⟨by simpa using zero, by simpa using above⟩, voltage, temperature, scale⟩,
      by simpa using fresh⟩
  · rintro ⟨⟨range, voltage, temperature, scale⟩, fresh⟩
    refine ⟨⟨⟨by simpa using range.1, by simpa using range.2⟩, by simpa using fresh, nofun⟩, voltage,
      temperature, scale, nofun⟩

/-- **There is no defect among the single cells exactly if all of them are admitted, none was seen yet,
    and no two are one cell.** -/
theorem cellsDefect?_eq_none_iff {seen : List UInt16} {os : List CellOverride} :
    c.cellsDefect? seen os = none ↔
      (∀ o ∈ os, c.Admits o) ∧ (∀ o ∈ os, o.index ∉ seen) ∧ (os.map (·.index)).Nodup := by
  induction os generalizing seen with
  | nil => simp [cellsDefect?]
  | cons o os ih =>
      rw [cellsDefect?, Option.orElse_eq_none, cellDefect?_eq_none_iff, ih, List.forall_mem_cons,
        ← unseen_cons_iff]
      constructor
      · rintro ⟨⟨first, fresh⟩, rest, apart⟩
        exact ⟨⟨first, rest⟩, fresh, apart⟩
      · rintro ⟨⟨first, rest⟩, fresh, apart⟩
        exact ⟨⟨first, fresh⟩, rest, apart⟩

/-- **Single cells as the check admits them**: each for itself, and no two for one cell. -/
structure AdmitsAll (c : Config) (os : List CellOverride) : Prop where
  each : ∀ o ∈ os, c.Admits o
  distinct : (os.map (·.index)).Nodup

theorem cellsDefect?_nil_eq_none_iff {os : List CellOverride} :
    c.cellsDefect? [] os = none ↔ c.AdmitsAll os := by
  rw [cellsDefect?_eq_none_iff]
  constructor
  · rintro ⟨each, -, distinct⟩
    exact ⟨each, distinct⟩
  · rintro ⟨each, distinct⟩
    exact ⟨each, fun _ _ => List.not_mem_nil, distinct⟩

theorem cells_of_sound {os : List CellOverride} (sound : c.cellsDefect? [] os = none) :
    c.AdmitsAll os :=
  cellsDefect?_nil_eq_none_iff.1 sound

/-! ## 5. The whole -/

theorem parts_of_sound (sound : c.defect? = none) :
    c.basicDefect? = none ∧ c.quantitiesDefect? = none ∧ c.deviceDefect? = none ∧
      c.cellsDefect? [] c.cells = none := by
  simp only [defect?, Option.orElse_eq_none] at sound
  exact ⟨sound.1, sound.2.1, sound.2.2.1, sound.2.2.2.1⟩

theorem quantities_of_sound (sound : c.defect? = none) :
    c.voltage.defect? = none ∧ c.current.defect? = none ∧ c.cellVoltage.defect? = none ∧
      c.cellTemperature.defect? = none := by
  have parts := (parts_of_sound sound).2.1
  simpa only [quantitiesDefect?, Option.orElse_eq_none, quantityDefect?_eq_none_iff] using parts

/-- What is set apart for a cell is admitted. -/
theorem admits_override (sound : c.defect? = none) {index : UInt16} {o : CellOverride}
    (found : c.override? index = some o) : c.Admits o :=
  (cells_of_sound (parts_of_sound sound).2.2.2).each o (List.mem_of_find?_eq_some found)

/-- **A quantity that a cell has over its class has no defect.** -/
theorem merged_of_sound {own : Option QuantityConfig} {defaults : QuantityConfig}
    (merged : ∀ q ∈ own, (q.or defaults).defect? = none) (sound : defaults.defect? = none) :
    (own.elim defaults (·.or defaults)).defect? = none := by
  cases own with
  | none => exact sound
  | some q => exact merged q rfl

theorem voltage_of_sound (sound : c.defect? = none) (index : UInt16) :
    (((c.override? index).bind (·.voltage)).elim c.cellVoltage (·.or c.cellVoltage)).defect? =
      none := by
  refine merged_of_sound (fun q hq => ?_) (quantities_of_sound sound).2.2.1
  obtain ⟨o, found, own⟩ := Option.bind_eq_some_iff.1 hq
  exact (admits_override sound found).voltage q own

theorem temperature_of_sound (sound : c.defect? = none) (index : UInt16) :
    (((c.override? index).bind (·.temperature)).elim c.cellTemperature
      (·.or c.cellTemperature)).defect? = none := by
  refine merged_of_sound (fun q hq => ?_) (quantities_of_sound sound).2.2.2
  obtain ⟨o, found, own⟩ := Option.bind_eq_some_iff.1 hq
  exact (admits_override sound found).temperature q own

/-! ## 6. The settings -/

/-- A cell's settings carry the cell's number. -/
theorem index_resolveCell (c : Config) (index : UInt16) : (c.resolveCell index).index = index := rfl

/-- The cells are resolved in the order of their numbers, none left out. -/
theorem cells_resolvePack (c : Config) :
    c.resolvePack.cells.map (·.index.toNat) = List.range' 1 c.pack.cells.toNat := by
  rw [resolvePack, List.map_map, List.range'_eq_map_range]
  refine List.map_congr_left fun k hk => ?_
  have small := c.pack.cells.toNat_lt
  have below := List.mem_range.1 hk
  simp only [Function.comp_apply, index_resolveCell, Nat.toUInt16_eq, UInt16.toNat_ofNat']
  omega

/-- Cells that carry the numbers from one on are in order. -/
theorem inOrder_of_range' {first : Nat} {cells : List CellSettings}
    (numbered : cells.map (·.index.toNat) = List.range' first cells.length) :
    Settings.inOrder first cells = true := by
  induction cells generalizing first with
  | nil => rfl
  | cons cell cells ih =>
      rw [List.map_cons, List.length_cons, List.range'_succ, List.cons.injEq] at numbered
      simp only [Settings.inOrder, numbered.1, ih numbered.2, beq_self_eq_true, Bool.and_self]

theorem periodOfSeconds_pos (seconds : Float32) : 0 < periodOfSeconds seconds := by
  unfold periodOfSeconds
  split
  · exact Nat.lt_of_lt_of_le Nat.zero_lt_one (Nat.le_max_left 1 _)
  · exact Nat.zero_lt_one

theorem cells_ne_zero (sound : c.defect? = none) : c.pack.cells.toNat ≠ 0 := by
  obtain ⟨basic, -⟩ := parts_of_sound sound
  simp only [basicDefect?, firstPresent_eq_none_iff, List.forall_mem_cons] at basic
  obtain ⟨-, -, -, -, -, -, cells, -⟩ := basic
  intro empty
  have zero : c.pack.cells = 0 := UInt16.toNat_inj.1 empty
  rw [zero] at cells
  cases cells

/-- The nominal maximum current is a positive number. -/
theorem maxCurrent_of_sound (sound : c.defect? = none) :
    c.resolve.pack.maxCurrent.isFinite = true ∧ 0 < c.resolve.pack.maxCurrent := by
  obtain ⟨-, -, device, -⟩ := parts_of_sound sound
  have finite := (QuantityConfig.wellFormed_of_sound (quantities_of_sound sound).2.1).finite.2
  simp only [deviceDefect?, firstPresent_eq_none_iff, List.forall_mem_cons] at device
  obtain ⟨positive, -⟩ := device
  show (c.current.max.getD 0).isFinite = true ∧ 0 < c.current.max.getD 0
  change ∀ x ∈ c.current.max, x.isFinite = true at finite
  cases max : c.current.max with
  | none => simp [max] at positive
  | some x =>
      rw [max] at finite positive
      exact ⟨finite x rfl, by simpa using positive⟩

/-- **A configuration without a defect resolves to settings without one.** -/
theorem settings_of_sound (sound : c.defect? = none) : c.resolve.defect? = none := by
  obtain ⟨basic, -, device, -⟩ := parts_of_sound sound
  simp only [basicDefect?, deviceDefect?, firstPresent_eq_none_iff,
    List.forall_mem_cons] at basic device
  obtain ⟨-, -, -, readings, stale, -⟩ := basic
  obtain ⟨-, -, -, -, -, ratio, -, -, tick, -⟩ := device
  obtain ⟨finite, positive⟩ := maxCurrent_of_sound sound
  have numbered := cells_resolvePack c
  have count : c.resolvePack.cells.length = c.pack.cells.toNat := by
    simpa using congrArg List.length numbered
  refine firstPresent_eq_none_iff.2 ?_
  simp only [Settings.checks, List.forall_mem_cons]
  refine ⟨?_, ?_, ?_, ?_, tick, ?_, ratio, nofun⟩
  · have nonempty : c.resolvePack.cells.length ≠ 0 := count ▸ cells_ne_zero sound
    show c.resolvePack.cells.isEmpty = false
    simpa [List.isEmpty_iff, List.length_eq_zero_iff] using nonempty
  · rw [Bool.not_eq_false']
    exact inOrder_of_range' (count.symm ▸ numbered)
  · rw [finite, decide_eq_true positive]; rfl
  · rw [Bool.or_eq_false_iff]
    exact ⟨readings, stale⟩
  · have positive (seconds : Float32) : (periodOfSeconds seconds == 0) = false :=
      beq_eq_false_iff_ne.2 (periodOfSeconds_pos seconds).ne'
    simp only [resolve, positive, Bool.or_self]

/-- **A configuration that passes its check stands for settings that can be run with.** Whatever its
    values, NaNs and infinities among them, the settings it resolves to have no defect, its cells are
    numbered from one on, and the limits of pack voltage and current and of both quantities of every
    cell are well-formed, with what is set apart for a cell over the class of all cells. -/
theorem wellFormed_resolve (sound : c.defect? = none) :
    c.resolve.defect? = none ∧
    c.resolve.pack.voltage.limit.WellFormed ∧ c.resolve.pack.current.limit.WellFormed ∧
    c.resolve.pack.cells.map (·.index.toNat) = List.range' 1 c.pack.cells.toNat ∧
    ∀ cell ∈ c.resolve.pack.cells,
      cell.voltage.limit.WellFormed ∧ cell.temperature.limit.WellFormed := by
  obtain ⟨voltage, current, -⟩ := quantities_of_sound sound
  refine ⟨settings_of_sound sound, QuantityConfig.wellFormed_of_sound voltage,
    QuantityConfig.wellFormed_of_sound current, cells_resolvePack c, fun cell mem => ?_⟩
  obtain ⟨k, -, rfl⟩ := List.mem_map.1 mem
  exact ⟨QuantityConfig.wellFormed_of_sound (voltage_of_sound sound _),
    QuantityConfig.wellFormed_of_sound (temperature_of_sound sound _)⟩

/-- A pack of two cells, of which the second has a lower bound of its own. -/
def twoCellConfig : Config where
  pack := { cells := 2 }
  voltage := { min := some 5, max := some 8, lim := some { min := some 6 } }
  current := { max := some 100, ext := some { max := some 50 } }
  cellVoltage := { min := some 2.5, max := some 4, lim := some { max := some 3.5 } }
  cells := [{ index := 2, voltage := some { min := some 3 } }]

/-- In that pack the second cell keeps the upper bound and the band of its class, inside its own lower
    bound. -/
theorem wellFormed_twoCellConfig :
    twoCellConfig.defect? = none ∧ twoCellConfig.resolve.defect? = none ∧
    ∃ cell ∈ twoCellConfig.resolve.pack.cells, cell.index = 2 ∧
      cell.voltage.limit.min = some 3 ∧ cell.voltage.limit.lim.max = some 3.5 ∧
      (3 : Float32) < 3.5 ∧ (3.5 : Float32) < 4 := by
  have sound : twoCellConfig.defect? = none := by decide +kernel
  obtain ⟨settings, -, -, -, cells⟩ := wellFormed_resolve sound
  have mem : twoCellConfig.resolveCell 2 ∈ twoCellConfig.resolve.pack.cells := by decide +kernel
  obtain ⟨limits, -⟩ := cells _ mem
  exact ⟨sound, settings, _, mem, rfl, by decide +kernel, by decide +kernel,
    (limits.lim.above 3 (by decide +kernel)).2 3.5 (by decide +kernel),
    (limits.lim.below 4 (by decide +kernel)).2 3.5 (by decide +kernel)⟩

end Config

end PackGuard
