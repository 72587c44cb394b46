import PackGuard.Proofs.Config.Sound
import PackGuard.Proofs.Config.Table
import PackGuard.Proofs.Track.Smoothing

/-!
# Channels that can be read

A raw value becomes a physical one by a scale and an offset, and is then weighed against the average
so far. For a cell the scale and the offset come from the table of calibrations, else from the cell
itself, else from its voltage, else from the class of all cells.

* `Acquisition.Usable`: a scale that can be divided by, a finite offset, a weight above zero and at
  most one.
* `QuantityConfig.usable_of_sound`: a quantity without a defect gives all of them.
* `Config.usable_resolve_iff`: **every channel of a configuration without a defect is usable, apart
  from the voltage of a cell whose own offset is not finite and which has no row in the table**. That
  offset is the only value among these that nothing checks.
* `Config.infinite_offset_passes`: there are such configurations.
-/

namespace PackGuard

/-! ## 1. Usable acquisition -/

/-- **A channel whose raw values can be made use of**: its scale can be divided by, its offset is
    finite, and a new value counts with a fraction that is not zero. -/
structure Acquisition.Usable (a : Acquisition) : Prop where
  scale : UsableScale a.calibration.scale
  offset : a.calibration.offset.isFinite = true
  weight : (smoothingWeight a.samples a.decay).isFinite = true ∧
    0 < smoothingWeight a.samples a.decay ∧ smoothingWeight a.samples a.decay ≤ 1

theorem badScale_eq_false_iff {x : Option Float32} :
    badScale x = false ↔ ∀ s ∈ x, UsableScale s := by
  cases x <;> simp [badScale, UsableScale]

/-- What holds of the value that is set and of the default holds of what they resolve to. -/
theorem getD_of_forall {p : Float32 → Prop} {x : Option Float32} {default : Float32}
    (set : ∀ a ∈ x, p a) (unset : p default) : p (x.getD default) := by
  cases x with
  | none => exact unset
  | some a => exact set a rfl

/-- **A quantity without a defect resolves to a usable channel.** -/
theorem QuantityConfig.usable_of_sound {q : QuantityConfig} (sound : q.defect? = none) :
    q.resolve.channel.Usable := by
  have checks := firstPresent_eq_none_iff.1 sound
  simp only [QuantityConfig.checks, List.forall_mem_append, List.forall_mem_cons,
    Bool.not_eq_false', finiteIfSet_iff, badScale_eq_false_iff] at checks
  obtain ⟨-, scale, offset, -⟩ := checks
  exact ⟨getD_of_forall scale (by decide), getD_of_forall offset (by decide),
    smoothingWeight_mem _ _⟩

namespace Config

/-! ## 2. Single cells -/

/-- The calibration of a cell on its own: its scale is checked, and so everything turns on its
    offset. -/
theorem usable_calibrated_iff {q : QuantitySettings} (usable : q.channel.Usable)
    {o : Option CellOverride} (scale : ∀ p ∈ o, badScale p.scale = false) :
    (calibrated q o).channel.Usable ↔ ∀ x ∈ o.bind (·.offset), x.isFinite = true := by
  constructor
  · intro h x set
    have finite := h.offset
    simp only [calibrated, Option.mem_def.1 set, Option.getD_some] at finite
    exact finite
  · intro offset
    refine ⟨getD_of_forall (fun s set => ?_) usable.scale, getD_of_forall offset usable.offset,
      smoothingWeight_mem _ _⟩
    obtain ⟨p, found, own⟩ := Option.bind_eq_some_iff.1 set
    exact badScale_eq_false_iff.1 (scale p found) s own

variable {c : Config} {rows : List CalibrationRow}

/-- A row replaces the offset of its cell by a finite one; without a row the cell keeps its own. -/
theorem isFinite_offset_iff (nodup : (c.cells.map (·.index)).Nodup) (loaded : ∀ r ∈ rows, r.Sound)
    (index : CellIndex) :
    (∀ x ∈ ((c.calibrate rows).override? index).bind (·.offset), x.isFinite = true) ↔
      ((∀ r ∈ rows, r.cell ≠ index) →
        ∀ o ∈ c.cells, o.index = index → ∀ x ∈ o.offset, x.isFinite = true) := by
  rw [override?_calibrate]
  cases last : rows.reverse.find? (·.cell == index) with
  | none =>
      have absent : ∀ r ∈ rows, r.cell ≠ index := by
        simpa using last
      constructor
      · intro h _ o mem same x set
        have found := (override?_eq_some_iff nodup).2 ⟨mem, same⟩
        exact h x (Option.bind_eq_some_iff.2 ⟨o, found, set⟩)
      · intro h x set
        obtain ⟨o, found, own⟩ := Option.bind_eq_some_iff.1 set
        obtain ⟨mem, same⟩ := (override?_eq_some_iff nodup).1 found
        exact h absent o mem same x own
  | some r =>
      have mem : r ∈ rows := by simpa using List.mem_of_find?_eq_some last
      have here : r.cell = index := by simpa using List.find?_some last
      constructor
      · intro _ absent
        exact absurd here (absent r mem)
      · intro _ x set
        cases set
        exact (loaded r mem).offset

/-! ## 3. The pack -/

/-- **What passes the check can be read, but for the offset of a cell on its own.** Under the rows
    of a table, or under none, the channels of the pack and the temperatures of all cells are usable,
    the cells being numbered from one on; the voltage of a cell is usable exactly if the cell has a
    row or no offset of its own that is not finite. -/
theorem usable_resolve_iff
    (table : rows = [] ∨ ∃ fs path, CalibrationTable.load fs path = .ok rows)
    (sound : (c.calibrate rows).defect? = none) :
    (c.calibrate rows).resolve.pack.voltage.channel.Usable ∧
    (c.calibrate rows).resolve.pack.current.channel.Usable ∧
    (c.calibrate rows).resolve.pack.cells.map (·.index.toNat) =
      List.range' 1 c.pack.cells.toNat ∧
    ∀ cell ∈ (c.calibrate rows).resolve.pack.cells,
      cell.temperature.channel.Usable ∧
      (cell.voltage.channel.Usable ↔
        ((∀ r ∈ rows, r.cell ≠ cell.index) →
          ∀ o ∈ c.cells, o.index = cell.index → ∀ x ∈ o.offset, x.isFinite = true)) := by
  have loaded : ∀ r ∈ rows, r.Sound := by
    rcases table with rfl | ⟨fs, path, read⟩
    · exact nofun
    · exact CalibrationTable.rows_of_load read
  obtain ⟨voltage, current, -⟩ := quantities_of_sound sound
  obtain ⟨-, nodup⟩ := cells_of_sound (parts_of_sound sound).2.2.2
  have own := nodup.sublist (map_index_calibrate c rows).sublist
  refine ⟨QuantityConfig.usable_of_sound voltage, QuantityConfig.usable_of_sound current,
    cells_resolvePack (c.calibrate rows), fun cell mem => ?_⟩
  obtain ⟨k, -, rfl⟩ := List.mem_map.1 mem
  refine ⟨QuantityConfig.usable_of_sound (temperature_of_sound sound _), ?_⟩
  have merged := QuantityConfig.usable_of_sound (voltage_of_sound sound (k + 1).toUInt16)
  refine (usable_calibrated_iff merged fun p found => (admits_override sound found).scale).trans ?_
  exact isFinite_offset_iff own loaded _

/-- A pack of two cells with offsets of their own, the first one's without end. -/
def offsetConfig : Config where
  pack := { cells := 2 }
  current := { max := some 50 }
  cells := [{ index := 1, offset := some (1 / 0) }, { index := 2, offset := some 0.125 }]

/-- A table with a row for the first cell. -/
def offsetTable : Files where
  entries := [(["cells.csv"], .file "cell,scale,offset\n1,0.5,0.25\n".toUTF8)]

/-- Under that table every cell of the pack can be read. -/
theorem usable_offsetConfig :
    CalibrationTable.load offsetTable "cells.csv" = .ok [⟨1, 0.5, 0.25⟩] ∧
    (offsetConfig.calibrate [⟨1, 0.5, 0.25⟩]).defect? = none ∧
    ∀ cell ∈ (offsetConfig.calibrate [⟨1, 0.5, 0.25⟩]).resolve.pack.cells,
      cell.voltage.channel.Usable := by
  have loaded : CalibrationTable.load offsetTable "cells.csv" = .ok [⟨1, 0.5, 0.25⟩] := by
    decide +kernel
  have sound : (offsetConfig.calibrate [⟨1, 0.5, 0.25⟩]).defect? = none := by decide +kernel
  obtain ⟨-, -, -, cells⟩ := usable_resolve_iff (.inr ⟨_, _, loaded⟩) sound
  refine ⟨loaded, sound, fun cell mem => (cells cell mem).2.2 fun absent => ?_⟩
  have other : 1 ≠ cell.index := absent _ List.mem_cons_self
  refine List.forall_mem_cons.2 ⟨fun same => absurd same other, List.forall_mem_singleton.2 ?_⟩
  rintro - x set
  cases set
  decide

/-- **A configuration passes the check with an infinite offset.** Without the table the first cell of
    that pack is read with it. -/
theorem infinite_offset_passes :
    offsetConfig.defect? = none ∧
    ∃ cell ∈ offsetConfig.resolve.pack.cells, cell.index = 1 ∧
      cell.voltage.channel.calibration.offset.isFinite = false := by
  refine ⟨by decide +kernel, offsetConfig.resolveCell 1, ?_, rfl, ?_⟩ <;> decide +kernel

end Config

end PackGuard
