import PackGuard.Proofs.Config.Acquisition

/-!
# Configurations under a calibration table

The rows of a table are laid over what is set apart for single cells, one after the other. What
comes out passes the check if the configuration did, and resolves to the same settings but for the
calibration of the listed cells.

* `Config.AdmitsAll.place`: **a sound row for a cell of the pack keeps the single cells admitted**, and
  so the check finds nothing (`Config.defect?_calibrate`).
* `CellSettings.calibrate`, `Settings.calibrate`: the settings of a cell, and of all, with the rows.
* `Config.resolve_calibrate`: **this is all that the rows change in the settings**. So neither their
  order nor their number of times matters.
* `Config.calibrated_from_table`: from the records of a table to the settings.
-/

namespace PackGuard

/-! ## 1. The check -/

namespace Config

variable {c : Config} {r : CalibrationRow} {rows : List CalibrationRow}

/-- What is set apart for a cell is admitted with the calibration of a sound row. -/
theorem Admits.calibrate {o : CellOverride} (h : c.Admits o) (sound : r.Sound) :
    c.Admits (o.calibrate r) where
  range := h.range
  voltage := h.voltage
  temperature := h.temperature
  scale := badScale_eq_false_iff.2 fun _ set => Option.some.inj set ▸ sound.scale

/-- Nothing but its number is needed of a cell of the pack. -/
theorem admits_index {index : UInt16} (range : index ≠ 0 ∧ index ≤ c.pack.cells) :
    c.Admits { index := index } where
  range := range
  voltage q own := by cases own
  temperature q own := by cases own
  scale := rfl

/-- **A sound row for a cell of the pack keeps the single cells admitted.** -/
theorem AdmitsAll.place {os : List CellOverride} (h : c.AdmitsAll os) (sound : r.Sound)
    (inside : r.cell ≤ c.pack.cells) : c.AdmitsAll (CellOverride.place r os) where
  each p there := by
    rcases CellOverride.mem_place there with before | ⟨o, before | rfl, rfl⟩
    · exact h.each p before
    · exact (h.each o before).calibrate sound
    · exact (admits_index ⟨sound.cell, inside⟩).calibrate sound
  distinct := by
    rw [CellOverride.map_index_place]
    split
    · exact h.distinct
    · next fresh => exact List.nodup_append_comm.1 (List.nodup_cons.2 ⟨fresh, h.distinct⟩)

/-- So do all rows of a table. -/
theorem AdmitsAll.calibrate (h : c.AdmitsAll c.cells) (sound : ∀ r ∈ rows, r.Sound)
    (inside : ∀ r ∈ rows, r.cell ≤ c.pack.cells) : c.AdmitsAll (c.calibrate rows).cells := by
  induction rows using List.reverseRecOn with
  | nil => exact h
  | append_singleton rows r ih =>
      rw [List.forall_mem_append, List.forall_mem_singleton] at sound inside
      rw [cells_calibrate_append]
      exact (ih sound.1 inside.1).place sound.2 inside.2

/-- **A configuration that passes the check passes it under the rows of a table** for its cells. -/
theorem defect?_calibrate (sound : c.defect? = none) (rows' : ∀ r ∈ rows, r.Sound)
    (inside : ∀ r ∈ rows, r.cell ≤ c.pack.cells) : (c.calibrate rows).defect? = none := by
  have own := cells_of_sound (parts_of_sound sound).2.2.2
  obtain ⟨each, distinct⟩ := own.calibrate rows' inside
  -- what is admitted does not depend on the single cells
  have admitted : ∀ o ∈ (c.calibrate rows).cells, (c.calibrate rows).Admits o := fun o mem =>
    ⟨(each o mem).range, (each o mem).voltage, (each o mem).temperature, (each o mem).scale⟩
  have cells := cellsDefect?_nil_eq_none_iff.2 ⟨admitted, distinct⟩
  simp only [defect?, Option.orElse_eq_none] at sound ⊢
  exact ⟨sound.1, sound.2.1, sound.2.2.1, cells, sound.2.2.2.2⟩

end Config

/-! ## 2. The settings -/

/-- The settings of a cell with the calibration of the row for it, if there is one. -/
def CellSettings.calibrate (rows : List CalibrationRow) (cell : CellSettings) : CellSettings :=
  match rows.find? (·.cell == cell.index) with
  | none => cell
  | some r =>
    let channel := { cell.voltage.channel with calibration := ⟨r.scale, r.offset⟩ }
    { cell with voltage := { cell.voltage with channel := channel } }

/-- Settings with the rows for their cells. -/
def Settings.calibrate (rows : List CalibrationRow) (s : Settings) : Settings :=
  { s with pack := { s.pack with cells := s.pack.cells.map (CellSettings.calibrate rows) } }

/-- Rows for different cells are found in any order. -/
theorem find?_cell_perm {rows rows' : List CalibrationRow} (distinct : (rows.map (·.cell)).Nodup)
    (order : rows'.Perm rows) (index : CellIndex) :
    rows'.find? (·.cell == index) = rows.find? (·.cell == index) := by
  have distinct' : (rows'.map (·.cell)).Nodup := (order.map _).nodup_iff.2 distinct
  refine Option.ext fun r => ?_
  rw [find?_key_eq_some_iff distinct, find?_key_eq_some_iff distinct', order.mem_iff]

namespace CellSettings

variable {rows rows' : List CalibrationRow}

theorem calibrate_perm (distinct : (rows.map (·.cell)).Nodup) (order : rows'.Perm rows) :
    calibrate rows' = calibrate rows := by
  funext cell
  rw [calibrate, calibrate, find?_cell_perm distinct order]

/-- **Once is as good as twice.** -/
theorem calibrate_calibrate (rows : List CalibrationRow) (cell : CellSettings) :
    (cell.calibrate rows).calibrate rows = cell.calibrate rows := by
  have index : (cell.calibrate rows).index = cell.index := by
    unfold calibrate
    split <;> rfl
  rw [calibrate, index]
  cases found : rows.find? (·.cell == cell.index) with
  | none => rfl
  | some r => simp only [calibrate, found]

end CellSettings

theorem Settings.calibrate_calibrate (rows : List CalibrationRow) (s : Settings) :
    (s.calibrate rows).calibrate rows = s.calibrate rows := by
  have cells : (s.pack.cells.map (CellSettings.calibrate rows)).map (CellSettings.calibrate rows) =
      s.pack.cells.map (CellSettings.calibrate rows) := by
    rw [List.map_map]
    exact List.map_congr_left fun cell _ => CellSettings.calibrate_calibrate rows cell
  exact congrArg (fun cells => { s with pack := { s.pack with cells := cells } }) cells

namespace Config

variable {c : Config} {rows : List CalibrationRow} (distinct : (rows.map (·.cell)).Nodup)
include distinct

/-- **A cell is resolved as before, but for the calibration of its voltage.** -/
theorem resolveCell_calibrate (index : CellIndex) :
    (c.calibrate rows).resolveCell index = (c.resolveCell index).calibrate rows := by
  unfold resolveCell CellSettings.calibrate
  rw [override?_calibrate, find?_cell_perm distinct rows.reverse_perm]
  cases rows.find? (·.cell == index) with
  | none => rfl
  | some r => cases c.override? index <;> rfl

/-- **This is all that the rows change.** -/
theorem resolve_calibrate : (c.calibrate rows).resolve = c.resolve.calibrate rows := by
  have cells : (c.calibrate rows).resolve.pack.cells =
      c.resolve.pack.cells.map (CellSettings.calibrate rows) := by
    show (List.range _).map _ = ((List.range _).map _).map _
    rw [List.map_map]
    exact List.map_congr_left fun k _ => resolveCell_calibrate distinct _
  rw [Settings.calibrate, ← cells]
  rfl

omit distinct in
/-- A cell of the pack is among those that are resolved. -/
theorem resolveCell_mem {index : CellIndex} (range : index ≠ 0 ∧ index ≤ c.pack.cells) :
    c.resolveCell index ∈ c.resolve.pack.cells := by
  have positive : index.toNat ≠ 0 := fun zero => range.1 (UInt16.toNat_inj.1 zero)
  have inside : index.toNat ≤ c.pack.cells.toNat := UInt16.le_iff_toNat_le.1 range.2
  refine List.mem_map.2 ⟨index.toNat - 1, List.mem_range.2 (by omega), ?_⟩
  rw [Nat.sub_add_cancel (Nat.pos_of_ne_zero positive), Nat.toUInt16_eq, UInt16.ofNat_toNat]

/-- **A listed cell is read with the calibration of its row**, whatever else is set for it. -/
theorem exists_calibrated {r : CalibrationRow} (listed : r ∈ rows) (cell : r.cell ≠ 0)
    (inside : r.cell ≤ c.pack.cells) :
    ∃ x ∈ (c.calibrate rows).resolve.pack.cells, x.index = r.cell ∧
      x.voltage.channel.calibration = ⟨r.scale, r.offset⟩ := by
  refine ⟨_, resolveCell_mem (c := c.calibrate rows) ⟨cell, inside⟩, rfl, ?_⟩
  have found : rows.find? (·.cell == r.cell) = some r :=
    (find?_key_eq_some_iff distinct).2 ⟨listed, rfl⟩
  rw [resolveCell_calibrate distinct, CellSettings.calibrate, index_resolveCell, found]

end Config

/-! ## 3. From records to settings -/

namespace Config

/-- **From a table to the settings.** Records are accepted if and only if they are those of a table, and
    the result is its rows. Under the rows of a table for cells of the pack, a configuration that
    passes the check passes it still. Its settings are those before with the scale and the offset of
    each listed cell's voltage replaced by those of the row; nothing else in them changes, and nothing
    in the configuration but what is set apart for single cells. The rows may come in any order, and
    any number of times. -/
theorem calibrated_from_table :
    (∀ path records rows,
      CalibrationTable.ofRecords path records = .ok rows ↔ CalibrationTable.IsTable records rows) ∧
    (∀ fs path rows, CalibrationTable.load fs path = .ok rows ↔
      ∃ content, fs.read path = .ok content ∧
        CalibrationTable.IsTable (Separated.records content) rows) ∧
    ∀ records rows (c : Config), CalibrationTable.IsTable records rows → c.defect? = none →
      (∀ r ∈ rows, r.cell ≤ c.pack.cells) →
        (c.calibrate rows).defect? = none ∧
        (∀ rows', rows'.Perm rows →
          (c.calibrate rows').resolve = (c.calibrate rows).resolve ∧
          ((c.calibrate rows).calibrate rows').resolve = (c.calibrate rows).resolve) ∧
        (∀ r ∈ rows, ∃ cell ∈ (c.calibrate rows).resolve.pack.cells, cell.index = r.cell ∧
          cell.voltage.channel.calibration = ⟨r.scale, r.offset⟩) ∧
        (c.calibrate rows).resolve = c.resolve.calibrate rows ∧
        { c.calibrate rows with cells := c.cells } = c := by
  refine ⟨fun path records rows => CalibrationTable.ofRecords_eq_ok_iff,
    fun fs path rows => CalibrationTable.load_eq_ok_iff, ?_⟩
  intro records rows c table sound inside
  have rows' := table.sound
  obtain ⟨_, _, _, -, -, -, -, -, distinct⟩ := table
  refine ⟨defect?_calibrate sound rows' inside, fun other order => ?_,
    fun r listed => exists_calibrated distinct listed (rows' r listed).cell (inside r listed),
    resolve_calibrate distinct, rfl⟩
  have distinct' : (other.map (·.cell)).Nodup := (order.map _).nodup_iff.2 distinct
  have same : (c.calibrate other).resolve = (c.calibrate rows).resolve := by
    rw [resolve_calibrate distinct, resolve_calibrate distinct', Settings.calibrate,
      CellSettings.calibrate_perm distinct order]
    rfl
  refine ⟨same, ?_⟩
  rw [resolve_calibrate distinct', ← same, resolve_calibrate distinct',
    Settings.calibrate_calibrate]

/-- A pack of four cells, of which the second is calibrated on its own and in its voltage. -/
def overriddenConfig : Config where
  pack := { cells := 4 }
  current := { max := some 100 }
  cellVoltage := { scale := some 2 }
  cells := [{ index := 2, voltage := some { min := some 3, scale := some 4 }, scale := some 8
              balance := some false }]

/-- A table with rows for the second cell and for the last. -/
def pairTable : Files where
  entries := [(["cells.csv"], .file "cell,scale,offset\n4,0.25,0\n2,0.5,-1\n".toUTF8)]

/-- Both rows take effect, also the other way round, and the second cell keeps its bound and its
    resistor. -/
theorem calibrated_overriddenConfig :
    CalibrationTable.load pairTable "cells.csv" = .ok [⟨4, 0.25, 0⟩, ⟨2, 0.5, -1⟩] ∧
    (overriddenConfig.calibrate [⟨4, 0.25, 0⟩, ⟨2, 0.5, -1⟩]).defect? = none ∧
    (overriddenConfig.calibrate [⟨2, 0.5, -1⟩, ⟨4, 0.25, 0⟩]).resolve =
      (overriddenConfig.calibrate [⟨4, 0.25, 0⟩, ⟨2, 0.5, -1⟩]).resolve ∧
    (overriddenConfig.calibrate [⟨4, 0.25, 0⟩, ⟨2, 0.5, -1⟩]).resolve.pack.cells.map
      (fun cell => (cell.voltage.channel.calibration, cell.voltage.limit.min, cell.balance)) =
        [(⟨2, 0⟩, none, true), (⟨0.5, -1⟩, some 3, false), (⟨2, 0⟩, none, true),
          (⟨0.25, 0⟩, none, true)] := by
  obtain ⟨-, load, calibrated⟩ := calibrated_from_table
  have loaded : CalibrationTable.load pairTable "cells.csv" =
      .ok [⟨4, 0.25, 0⟩, ⟨2, 0.5, -1⟩] := by
    decide +kernel
  obtain ⟨_, -, table⟩ := (load _ _ _).1 loaded
  obtain ⟨sound, order, -, settings, -⟩ := calibrated _ _ overriddenConfig table
    (by decide +kernel) (by decide +kernel)
  refine ⟨loaded, sound, (order _ (.swap ..)).1, ?_⟩
  rw [settings]
  decide +kernel

end Config

end PackGuard
