import Mathlib.Data.List.Induction
import Mathlib.Data.List.Nodup
import PackGuard.Config.CalibrationTable
import PackGuard.Proofs.Config.Sound

/-!
# Calibration tables over a configuration

What a table that was read holds, and what laying it over a configuration does to the single cells.

* `CalibrationRow.Sound`: a row that counts from one, with a scale to divide by and a finite offset.
* `CalibrationTable.IsTable`: the records of a table, with its rows. `CalibrationTable.load_eq_ok_iff`:
  **exactly these are read**, and so all rows that are read are sound (`CalibrationTable.rows_of_load`).
* `Config.override?_calibrate`: **the last row for a cell gives the cell its calibration**, and a cell
  without a row keeps what is set apart for it.
-/

namespace PackGuard

/-! ## 1. Rows that are read -/

/-- A scale that can be divided by. -/
def UsableScale (s : Float32) : Prop := s.isFinite = true ∧ (s == 0) = false

instance (s : Float32) : Decidable (UsableScale s) := inferInstanceAs (Decidable (_ ∧ _))

/-- A row that calibrates a cell. -/
structure CalibrationRow.Sound (r : CalibrationRow) : Prop where
  cell : r.cell ≠ 0
  scale : UsableScale r.scale
  offset : r.offset.isFinite = true

theorem CalibrationRow.defect?_eq_none_iff {r : CalibrationRow} : r.defect? = none ↔ r.Sound := by
  unfold CalibrationRow.defect?
  constructor
  · intro sound
    split at sound
    · cases sound
    · next cell =>
        split at sound
        · cases sound
        · next scale =>
            split at sound
            · cases sound
            · next offset =>
                exact ⟨by simpa using cell, by simpa [UsableScale] using scale, by simpa using offset⟩
  · rintro ⟨cell, ⟨finite, nonzero⟩, offset⟩
    simp [cell, finite, nonzero, offset]

/-- **A record that denotes a row**: its fields are texts, and these, but for the blanks around them,
    are the numbers of a sound row. -/
def CalibrationRow.DenotedBy (record : Separated.Record) (r : CalibrationRow) : Prop :=
  ∃ fields, Separated.texts? record = some fields ∧
    CalibrationRow.ofFields? (fields.map trimBlanks) = some r ∧ r.Sound

/-- Only three fields can denote a row. -/
theorem CalibrationRow.length_of_ofFields? {fields : List String} {r : CalibrationRow}
    (denotes : CalibrationRow.ofFields? fields = some r) : fields.length = 3 := by
  unfold CalibrationRow.ofFields? at denotes
  split at denotes
  · rfl
  · cases denotes

/-- A record is read as the row that it denotes. -/
theorem CalibrationRow.ofRecord_eq_ok_iff {record : Separated.Record} {r : CalibrationRow} :
    CalibrationRow.ofRecord record = .ok r ↔ CalibrationRow.DenotedBy record r := by
  unfold CalibrationRow.ofRecord
  constructor
  · intro read
    split at read
    · cases read
    · next fields texts =>
        split at read
        · cases read
        · split at read
          · cases read
          · next row numbers =>
              split at read
              · cases read
              · next sound =>
                  cases read
                  exact ⟨fields, texts, numbers, CalibrationRow.defect?_eq_none_iff.1 sound⟩
  · rintro ⟨fields, texts, numbers, sound⟩
    have three : fields.length = 3 := by
      simpa using CalibrationRow.length_of_ofFields? numbers
    simp only [texts, numbers, CalibrationRow.defect?_eq_none_iff.2 sound, three, bne_self_eq_false,
      if_false, Bool.false_eq_true]

namespace CalibrationTable

/-- **The records of a table with these rows**: the header, and in order a record for each row. There
    is a row, and no two are for one cell. -/
def IsTable (records : List Separated.Record) (rows : List CalibrationRow) : Prop :=
  ∃ head body names, records = head :: body ∧
    Separated.texts? head = some names ∧ names.map trimBlanks = header ∧
    body ≠ [] ∧ List.Forall₂ CalibrationRow.DenotedBy body rows ∧ (rows.map (·.cell)).Nodup

/-- **One more record is read** if it denotes a row for a cell that was not seen yet, and the records
    behind it are read with that cell among those seen. -/
theorem rowsFrom_cons_eq_ok_iff {number : Nat} {seen : List CellIndex} {record : Separated.Record}
    {records : List Separated.Record} {rows : List CalibrationRow} :
    rowsFrom number seen (record :: records) = .ok rows ↔
      ∃ row rest, rows = row :: rest ∧ CalibrationRow.DenotedBy record row ∧ row.cell ∉ seen ∧
        rowsFrom (number + 1) (row.cell :: seen) records = .ok rest := by
  constructor
  · intro read
    unfold rowsFrom at read
    split at read
    · cases read
    · next row first =>
        split at read
        · cases read
        · next fresh =>
            cases tail : rowsFrom (number + 1) (row.cell :: seen) records with
            | error d =>
                rw [tail] at read
                cases read
            | ok rest =>
                rw [tail] at read
                cases read
                exact ⟨row, rest, rfl, CalibrationRow.ofRecord_eq_ok_iff.1 first,
                  by simpa using fresh, tail⟩
  · rintro ⟨row, rest, rfl, first, fresh, tail⟩
    have fresh' : seen.contains row.cell = false := by simpa using fresh
    simp only [rowsFrom, CalibrationRow.ofRecord_eq_ok_iff.2 first, fresh', tail, Except.map,
      if_false, Bool.false_eq_true]

/-- **Records below the header are read if each denotes a row**, and the rows are for different cells
    that were not seen yet. -/
theorem rowsFrom_eq_ok_iff {number : Nat} {seen : List CellIndex}
    {records : List Separated.Record} {rows : List CalibrationRow} :
    rowsFrom number seen records = .ok rows ↔
      List.Forall₂ CalibrationRow.DenotedBy records rows ∧
        (∀ r ∈ rows, r.cell ∉ seen) ∧ (rows.map (·.cell)).Nodup := by
  induction records generalizing number seen rows with
  | nil =>
      rw [rowsFrom, List.forall₂_nil_left_iff]
      constructor
      · rintro ⟨⟩
        exact ⟨rfl, nofun, List.nodup_nil⟩
      · rintro ⟨rfl, -⟩
        rfl
  | cons record records ih =>
      rw [rowsFrom_cons_eq_ok_iff]
      constructor
      · rintro ⟨row, rest, rfl, first, fresh, tail⟩
        obtain ⟨denoted, apart⟩ := ih.1 tail
        exact ⟨.cons first denoted, unseen_cons_iff.1 ⟨fresh, apart⟩⟩
      · rintro ⟨denoted, apart⟩
        cases denoted with
        | @cons _ row _ rest first denoted =>
            obtain ⟨fresh, apart⟩ := unseen_cons_iff.2 apart
            exact ⟨row, rest, rfl, first, fresh, ih.2 ⟨denoted, apart⟩⟩

/-- **The records that are accepted are those of a table**, with the rows of that table. -/
theorem ofRecords_eq_ok_iff {path : String} {records : List Separated.Record}
    {rows : List CalibrationRow} : ofRecords path records = .ok rows ↔ IsTable records rows := by
  constructor
  · intro read
    unfold ofRecords at read
    split at read
    · cases read
    · next head body =>
        split at read
        · cases read
        · next names texts =>
            simp only [CalibrationTable.body] at read
            split at read
            · cases read
            · next named =>
                split at read
                · cases read
                · next nonempty =>
                    obtain ⟨denoted, -, distinct⟩ := rowsFrom_eq_ok_iff.1 read
                    exact ⟨head, body, names, rfl, texts, by simpa using named,
                      by simpa using nonempty, denoted, distinct⟩
  · rintro ⟨head, body, names, rfl, texts, named, nonempty, denoted, distinct⟩
    have read : rowsFrom 2 [] body = .ok rows :=
      rowsFrom_eq_ok_iff.2 ⟨denoted, fun _ _ => List.not_mem_nil, distinct⟩
    have body' : body.isEmpty = false := by simpa using nonempty
    simp only [ofRecords, texts, named, CalibrationTable.body, body', read, bne_self_eq_false,
      if_false, Bool.false_eq_true]

/-- **A file is accepted if it can be read and holds the records of a table.** -/
theorem load_eq_ok_iff {fs : Files} {path : String} {rows : List CalibrationRow} :
    load fs path = .ok rows ↔
      ∃ content, fs.read path = .ok content ∧ IsTable (Separated.records content) rows := by
  unfold load
  split
  · next fault => simp [fault]
  · next fault => simp [fault]
  · next content found => simp [found, ofRecords_eq_ok_iff]

/-- The rows of a table are sound. -/
theorem IsTable.sound {records : List Separated.Record} {rows : List CalibrationRow}
    (table : IsTable records rows) : ∀ r ∈ rows, r.Sound := by
  obtain ⟨_, _, _, -, -, -, -, denoted, -⟩ := table
  induction denoted with
  | nil => exact nofun
  | cons first _ ih =>
      obtain ⟨-, -, -, sound⟩ := first
      exact List.forall_mem_cons.2 ⟨sound, ih⟩

/-- **A table that can be loaded holds sound rows only.** -/
theorem rows_of_load {fs : Files} {path : String} {rows : List CalibrationRow}
    (read : load fs path = .ok rows) : ∀ r ∈ rows, r.Sound := by
  obtain ⟨_, -, table⟩ := load_eq_ok_iff.1 read
  exact table.sound

end CalibrationTable

/-! ## 2. Rows over what is set apart -/

/-- Among entries for different cells, what is found for a cell is the entry for it. -/
theorem find?_key_eq_some_iff {α : Type} {key : α → CellIndex} {xs : List α}
    (nodup : (xs.map key).Nodup) {index : CellIndex} {x : α} :
    xs.find? (key · == index) = some x ↔ x ∈ xs ∧ key x = index := by
  constructor
  · intro found
    exact ⟨List.mem_of_find?_eq_some found, by simpa using List.find?_some found⟩
  · rintro ⟨mem, rfl⟩
    cases found : xs.find? (key · == key x) with
    | none =>
        have absent := List.find?_eq_none.1 found x mem
        simp at absent
    | some y =>
        have same : key y = key x := by simpa using List.find?_some found
        rw [List.inj_on_of_nodup_map nodup (List.mem_of_find?_eq_some found) mem same]

namespace CellOverride

/-- A row is found again under its cell; under any other cell nothing changes. -/
theorem find?_place (r : CalibrationRow) (os : List CellOverride) (index : CellIndex) :
    (place r os).find? (·.index == index) =
      if r.cell = index then
        some (((os.find? (·.index == index)).getD { index := index }).calibrate r)
      else os.find? (·.index == index) := by
  induction os with
  | nil =>
      simp only [place, List.find?_nil, Option.getD_none]
      split
      · next same => simp [same, calibrate]
      · next other => simp [other, calibrate]
  | cons o os ih =>
      unfold place
      split
      · next here =>
          have found : (o.calibrate r).index = o.index := rfl
          rw [beq_iff_eq] at here
          rw [List.find?_cons, List.find?_cons, found, here]
          by_cases same : r.cell = index
          · simp [same]
          · rw [beq_eq_false_iff_ne.2 same, if_neg same]
      · next there =>
          rw [List.find?_cons, List.find?_cons, ih]
          by_cases same : o.index = index
          · have other : r.cell ≠ index := fun h => there (by simp [same, h])
            simp [same, other]
          · rw [beq_eq_false_iff_ne.2 same]

/-- **Laying a row over overrides keeps their order** and adds one behind them if there is none for its
    cell. -/
theorem map_index_place (r : CalibrationRow) (os : List CellOverride) :
    (place r os).map (·.index) =
      if r.cell ∈ os.map (·.index) then os.map (·.index) else os.map (·.index) ++ [r.cell] := by
  induction os with
  | nil => rfl
  | cons o os ih =>
      unfold place
      by_cases here : o.index = r.cell
      · simp [here, calibrate]
      · have other : r.cell ≠ o.index := Ne.symm here
        rw [if_neg (by simpa using here), List.map_cons, ih, List.map_cons]
        by_cases later : r.cell ∈ os.map (·.index)
        · rw [if_pos later, if_pos (List.mem_cons_of_mem _ later)]
        · rw [if_neg later, if_neg (List.not_mem_cons_of_ne_of_not_mem other later), List.cons_append]

/-- An override is one of those before, or one that took the calibration of the row. -/
theorem mem_place {r : CalibrationRow} {os : List CellOverride} {p : CellOverride}
    (there : p ∈ place r os) :
    p ∈ os ∨ ∃ o, (o ∈ os ∨ o = { index := r.cell }) ∧ p = o.calibrate r := by
  induction os with
  | nil => exact .inr ⟨_, .inr rfl, List.mem_singleton.1 there⟩
  | cons o os ih =>
      unfold place at there
      split at there
      · rcases List.mem_cons.1 there with rfl | there
        · exact .inr ⟨o, .inl List.mem_cons_self, rfl⟩
        · exact .inl (List.mem_cons_of_mem _ there)
      · rcases List.mem_cons.1 there with rfl | there
        · exact .inl List.mem_cons_self
        · rcases ih there with before | ⟨q, before | rfl, rfl⟩
          · exact .inl (List.mem_cons_of_mem _ before)
          · exact .inr ⟨q, .inl (List.mem_cons_of_mem _ before), rfl⟩
          · exact .inr ⟨_, .inr rfl, rfl⟩

end CellOverride

namespace Config

theorem cells_calibrate_append (c : Config) (rows : List CalibrationRow) (r : CalibrationRow) :
    (c.calibrate (rows ++ [r])).cells = CellOverride.place r (c.calibrate rows).cells := by
  simp only [calibrate, List.foldl_append, List.foldl_cons, List.foldl_nil]

/-- **The last row for a cell decides its calibration**; a cell without a row keeps what it has. -/
theorem override?_calibrate (c : Config) (rows : List CalibrationRow) (index : CellIndex) :
    (c.calibrate rows).override? index =
      match rows.reverse.find? (·.cell == index) with
      | none => c.override? index
      | some r => some (((c.override? index).getD { index := index }).calibrate r) := by
  induction rows using List.reverseRecOn with
  | nil => rfl
  | append_singleton rows r ih =>
      rw [override?, cells_calibrate_append, CellOverride.find?_place, List.reverse_append,
        List.reverse_singleton, List.singleton_append, List.find?_cons]
      change (if r.cell = index then
        some ((((c.calibrate rows).override? index).getD { index := index }).calibrate r)
        else (c.calibrate rows).override? index) = _
      rw [ih]
      by_cases here : r.cell = index
      · -- an earlier row for the cell is lost, as this one sets both values
        rw [if_pos here, beq_iff_eq.2 here]
        cases rows.reverse.find? (·.cell == index) <;> rfl
      · rw [if_neg here, beq_eq_false_iff_ne.2 here]

/-- What is set apart stays where it is under a table. -/
theorem map_index_calibrate (c : Config) (rows : List CalibrationRow) :
    c.cells.map (·.index) <+: (c.calibrate rows).cells.map (·.index) := by
  induction rows using List.reverseRecOn with
  | nil => exact List.prefix_rfl
  | append_singleton rows r ih =>
      rw [cells_calibrate_append, CellOverride.map_index_place]
      split
      · exact ih
      · exact ih.trans (List.prefix_append _ _)

/-- If no cell is set apart twice, what is set apart for a cell is what is found for it. -/
theorem override?_eq_some_iff {c : Config} (nodup : (c.cells.map (·.index)).Nodup)
    {index : CellIndex} {o : CellOverride} :
    c.override? index = some o ↔ o ∈ c.cells ∧ o.index = index :=
  find?_key_eq_some_iff nodup

end Config

end PackGuard
