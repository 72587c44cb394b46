import PackGuard.Proofs.Engine.Findings
import PackGuard.Proofs.Poll.Cycles

/-!
# Slots and their cadences

Every slot of a pack belongs to one cadence, and so does the channel of its track. Which slots a
cadence polls depends on what lasts of the cells, which no change of a track touches.

* `track?_modifyTrack`: **a change of a track is seen in its slot alone.**
* `slots_of_lasting`, `cadence_of_mem_slots`: what a cadence polls.
* `Pack.Arises`: the packs there are, from the settings they were built with. Each of their tracks is
  of the channel of its slot (`Arises.wired`), and their cells are the configured ones
  (`Arises.fits`).
* `Stands`: the slot of a quantity; `exists_slot`: **every quantity that is monitored has a slot that
  exactly one cadence polls**, and a channel that exactly one cadence lists.
-/

namespace PackGuard

/-! ## 1. Cadences -/

/-- The cadence a slot belongs to. -/
def Slot.cadence : Slot → Cadence
  | packVoltage => .pack
  | packCurrent => .pack
  | cellVoltage _ => .cellVoltage
  | cellTemperature _ => .cellTemperature

/-- The cadence a channel belongs to. -/
def Channel.cadence : Channel → Cadence
  | packVoltage => .pack
  | packCurrent => .pack
  | cellVoltage _ => .cellVoltage
  | cellTemperature _ => .cellTemperature

/-- What lasts of a cell while its tracks are written. -/
def Cell.lasting (c : Cell) : CellIndex × Bool × Option Nat :=
  (c.index, c.temperatureMonitored, c.lastBalanced)

namespace Pack

variable {p q : Pack} {slot : Slot} {c : Cadence}

/-! ## 2. Tracks -/

/-- What is seen of a list in which one entry was changed. -/
theorem map_getElem?_modify {α β : Type} {f : α → α} {g : α → β} {h : β → β}
    (seen : ∀ x, g (f x) = h (g x)) (l : List α) (k j : Nat) :
    ((l.modify k f)[j]?).map g = if j = k then ((l[j]?).map g).map h else (l[j]?).map g := by
  rw [List.getElem?_modify]
  cases l[j]? with
  | none => simp
  | some x => by_cases same : k = j <;> simp [same, seen, eq_comm]

/-- **A change of a track is seen in its slot alone.** -/
theorem track?_modifyTrack (p : Pack) (slot : Slot) (f : Track → Track) (other : Slot) :
    (p.modifyTrack slot f).track? other =
      if other = slot then (p.track? other).map f else p.track? other := by
  cases slot with
  | packVoltage | packCurrent => cases other <;> rfl
  | cellVoltage k =>
      cases other with
      | packVoltage | packCurrent => rfl
      | cellVoltage j =>
          have change := map_getElem?_modify (f := fun c : Cell => { c with voltage := f c.voltage })
            (g := Cell.voltage) (h := f) (by intro _; rfl) p.cells k j
          simpa [modifyTrack, track?] using change
      | cellTemperature j =>
          have same := map_modify_of_same (f := fun c : Cell => { c with voltage := f c.voltage })
            (g := Cell.temperature) (by intro _; rfl) p.cells k
          simpa [modifyTrack, track?] using congrArg (·[j]?) same
  | cellTemperature k =>
      cases other with
      | packVoltage | packCurrent => rfl
      | cellTemperature j =>
          have change := map_getElem?_modify
            (f := fun c : Cell => { c with temperature := f c.temperature })
            (g := Cell.temperature) (h := f) (by intro _; rfl) p.cells k j
          simpa [modifyTrack, track?] using change
      | cellVoltage j =>
          have same := map_modify_of_same
            (f := fun c : Cell => { c with temperature := f c.temperature })
            (g := Cell.voltage) (by intro _; rfl) p.cells k
          simpa [modifyTrack, track?] using congrArg (·[j]?) same

/-- The cells, but for their tracks. -/
def lasting (p : Pack) : List (CellIndex × Bool × Option Nat) := p.cells.map Cell.lasting

theorem lasting_modifyTrack (p : Pack) (slot : Slot) (f : Track → Track) :
    (p.modifyTrack slot f).lasting = p.lasting := by
  cases slot with
  | packVoltage | packCurrent => rfl
  | cellVoltage k => exact map_modify_of_same (by intro _; rfl) p.cells k
  | cellTemperature k => exact map_modify_of_same (by intro _; rfl) p.cells k

theorem energy_modifyTrack (p : Pack) (slot : Slot) (f : Track → Track) :
    (p.modifyTrack slot f).energy = p.energy := by
  cases slot <;> rfl

/-! ## 3. Slots -/

/-- Which cells have a temperature that is monitored. -/
def monitored (p : Pack) : List Bool := p.cells.map (·.temperatureMonitored)

theorem monitored_of_lasting (same : p.lasting = q.lasting) : p.monitored = q.monitored := by
  have second := congrArg (List.map fun x => x.2.1) same
  simpa [lasting, monitored, Function.comp_def, Cell.lasting] using second

/-- **What a cadence polls** depends on nothing but the number of cells and which of their
    temperatures are monitored. -/
theorem slots_eq (p : Pack) : p.slots c = match c with
    | .pack => [.packVoltage, .packCurrent]
    | .cellVoltage => (List.range p.monitored.length).map .cellVoltage
    | .cellTemperature =>
      (p.monitored.zipIdx.filter (·.1)).map fun x => .cellTemperature x.2 := by
  cases c with
  | pack => rfl
  | cellVoltage => simp [slots, monitored]
  | cellTemperature =>
      simp only [slots, monitored, List.zipIdx_map, List.filter_map, List.map_map]
      rfl

theorem slots_of_lasting (same : p.lasting = q.lasting) (c : Cadence) : p.slots c = q.slots c := by
  rw [slots_eq, slots_eq, monitored_of_lasting same]

/-- **A cadence polls slots that belong to it.** -/
theorem cadence_of_mem_slots (h : slot ∈ p.slots c) : slot.cadence = c := by
  cases c with
  | pack =>
      simp only [slots, List.mem_cons, List.not_mem_nil, or_false] at h
      rcases h with rfl | rfl <;> rfl
  | cellVoltage =>
      obtain ⟨k, -, rfl⟩ := List.mem_map.1 h
      rfl
  | cellTemperature =>
      obtain ⟨x, -, rfl⟩ := List.mem_map.1 h
      rfl

/-- What is polled has a track. -/
theorem track?_of_mem_slots (h : slot ∈ p.slots c) : (p.track? slot).isSome = true := by
  cases c with
  | pack =>
      simp only [slots, List.mem_cons, List.not_mem_nil, or_false] at h
      rcases h with rfl | rfl <;> rfl
  | cellVoltage =>
      obtain ⟨k, inside, rfl⟩ := List.mem_map.1 h
      simpa [track?] using List.mem_range.1 inside
  | cellTemperature =>
      obtain ⟨⟨cell, k⟩, inside, rfl⟩ := List.mem_map.1 h
      have there := (List.mk_mem_zipIdx_iff_getElem?).1 (List.mem_of_mem_filter inside)
      simp [track?, there]

/-- As many channels are polled as slots. -/
theorem length_channels (p : Pack) (c : Cadence) : (p.channels c).length = (p.slots c).length := by
  have all : ∀ l : List Slot, (∀ slot ∈ l, (p.track? slot).isSome = true) →
      (l.filterMap fun s => (p.track? s).map (·.channel)).length = l.length := by
    intro l
    induction l with
    | nil => intro _; rfl
    | cons slot l ih =>
        intro polled
        rw [List.forall_mem_cons] at polled
        obtain ⟨t, ht⟩ := Option.isSome_iff_exists.1 polled.1
        simp [ht, ih polled.2]
  exact all _ fun slot h => track?_of_mem_slots h

/-! ## 4. The packs there are -/

/-- **The packs there are with these settings**: a pack is built, and then tracks are written,
    cells are noted as chosen to bleed, cycles are counted, and the energy account is written. -/
inductive Arises (s : PackSettings) : Pack → Prop
  | new (staleAfter : UInt32) : Arises s (.new s staleAfter)
  | modifyTrack {p : Pack} (before : Arises s p) (slot : Slot) {f : Track → Track}
      (keeps : ∀ t, (f t).channel = t.channel) : Arises s (p.modifyTrack slot f)
  | markBalanced {p : Pack} (before : Arises s p) (now : Nat) (n : CellIndex) :
      Arises s (p.markBalanced now n)
  | finishCycle {p : Pack} (before : Arises s p) (c : Cadence) : Arises s (p.finishCycle c)
  | energy {p : Pack} (before : Arises s p) (energy : Energy) :
      Arises s { p with energy := energy }

/-- **Each track is of the channel of its slot.** -/
structure Wired (p : Pack) : Prop where
  voltage : p.voltage.channel = .packVoltage
  current : p.current.channel = .packCurrent
  cells : ∀ c ∈ p.cells,
    c.voltage.channel = .cellVoltage c.index ∧ c.temperature.channel = .cellTemperature c.index

theorem forall_mem_modify {α : Type} {f : α → α} {P : α → Prop} (keeps : ∀ x, P x → P (f x))
    {l : List α} (all : ∀ x ∈ l, P x) (k : Nat) : ∀ x ∈ l.modify k f, P x := by
  intro x hx
  obtain ⟨i, there⟩ := List.mem_iff_getElem?.1 hx
  rw [List.getElem?_modify, Option.map_eq_map, Option.map_eq_some_iff] at there
  obtain ⟨y, there, rfl⟩ := there
  have known := all y (List.mem_of_getElem? there)
  split
  · exact keeps y known
  · exact known

theorem wired_new (s : PackSettings) (staleAfter : UInt32) : (Pack.new s staleAfter).Wired where
  voltage := rfl
  current := rfl
  cells c hc := by
    obtain ⟨settings, -, rfl⟩ := List.mem_map.1 hc
    exact ⟨rfl, rfl⟩

theorem Wired.modifyTrack (wired : p.Wired) {f : Track → Track}
    (keeps : ∀ t, (f t).channel = t.channel) (slot : Slot) : (p.modifyTrack slot f).Wired := by
  cases slot with
  | packVoltage => exact { wired with voltage := (keeps _).trans wired.voltage }
  | packCurrent => exact { wired with current := (keeps _).trans wired.current }
  | cellVoltage k =>
      exact { wired with
        cells := forall_mem_modify (fun c h => ⟨(keeps _).trans h.1, h.2⟩) wired.cells k }
  | cellTemperature k =>
      exact { wired with
        cells := forall_mem_modify (fun c h => ⟨h.1, (keeps _).trans h.2⟩) wired.cells k }

theorem Wired.markBalanced (wired : p.Wired) (now : Nat) (n : CellIndex) :
    (p.markBalanced now n).Wired := by
  unfold Pack.markBalanced
  split
  · exact wired
  · exact { wired with
      cells := forall_mem_modify (f := (·.markBalanced now)) (fun c h => h) wired.cells _ }

theorem Arises.wired {s : PackSettings} (h : p.Arises s) : p.Wired := by
  induction h with
  | new staleAfter => exact wired_new s staleAfter
  | modifyTrack _ slot keeps ih => exact ih.modifyTrack keeps slot
  | markBalanced _ now n ih => exact ih.markBalanced now n
  | finishCycle _ c ih => exact { ih with }
  | energy _ e ih => exact { ih with }

/-- **A channel belongs to the cadence of its slot.** -/
theorem Wired.cadence (wired : p.Wired) {t : Track} (h : p.track? slot = some t) :
    t.channel.cadence = slot.cadence := by
  cases slot with
  | packVoltage =>
      obtain rfl := Option.some.inj h
      rw [wired.voltage]
      rfl
  | packCurrent =>
      obtain rfl := Option.some.inj h
      rw [wired.current]
      rfl
  | cellVoltage k =>
      obtain ⟨cell, there, rfl⟩ := Option.map_eq_some_iff.1 h
      rw [(wired.cells cell (List.mem_of_getElem? there)).1]
      rfl
  | cellTemperature k =>
      obtain ⟨cell, there, rfl⟩ := Option.map_eq_some_iff.1 h
      rw [(wired.cells cell (List.mem_of_getElem? there)).2]
      rfl

/-- **A pack with these settings**: its cells are the configured ones, in their order, and those
    temperatures are monitored that have a limit. -/
def Fits (p : Pack) (s : PackSettings) : Prop :=
  p.cells.map (fun c => (c.index, c.temperatureMonitored)) =
    s.cells.map fun c => (c.index, c.temperature.limit.monitored)

theorem fits_new (s : PackSettings) (staleAfter : UInt32) : (Pack.new s staleAfter).Fits s := by
  simp [Fits, new, Cell.new, Function.comp_def]

theorem Fits.modifyTrack {s : PackSettings} (fits : p.Fits s) (slot : Slot) (f : Track → Track) :
    (p.modifyTrack slot f).Fits s := by
  have same := congrArg (List.map fun x => (x.1, x.2.1)) (lasting_modifyTrack p slot f)
  simp only [lasting, List.map_map] at same
  exact Eq.trans same fits

theorem Fits.markBalanced {s : PackSettings} (fits : p.Fits s) (now : Nat) (n : CellIndex) :
    (p.markBalanced now n).Fits s := by
  unfold Pack.markBalanced
  split
  · exact fits
  · exact (map_modify_of_same (by intro _; rfl) p.cells _).trans fits

theorem Arises.fits {s : PackSettings} (h : p.Arises s) : p.Fits s := by
  induction h with
  | new staleAfter => exact fits_new s staleAfter
  | @modifyTrack p _ slot f keeps ih => exact ih.modifyTrack slot f
  | markBalanced _ now n ih => exact ih.markBalanced now n
  | finishCycle _ c ih => exact ih
  | energy _ e ih => exact ih

/-- The cell of a pack that a snapshot shows at a place. -/
theorem exists_cell {k : Nat} {read : CellReading} (shown : p.snapshot.cells[k]? = some read) :
    ∃ cell, p.cells[k]? = some cell ∧
      read = ⟨cell.index, cell.voltage.reading, cell.temperature.reading⟩ := by
  simp only [snapshot, List.getElem?_map, Option.map_eq_some_iff] at shown
  obtain ⟨cell, there, rfl⟩ := shown
  exact ⟨cell, there, rfl⟩

/-- A cell carries the number that is configured for its place. -/
theorem Fits.index {s : PackSettings} (fits : p.Fits s) {k : Nat} {cell : Cell}
    {settings : CellSettings} (there : p.cells[k]? = some cell)
    (configured : s.cells[k]? = some settings) : cell.index = settings.index := by
  have same := congrArg (·[k]?) fits
  simp only [List.getElem?_map, there, configured, Option.map_some, Option.some.injEq] at same
  exact congrArg Prod.fst same

theorem Fits.monitored {s : PackSettings} (fits : p.Fits s) {k : Nat} {cell : Cell}
    {settings : CellSettings} (there : p.cells[k]? = some cell)
    (configured : s.cells[k]? = some settings) :
    cell.temperatureMonitored = settings.temperature.limit.monitored := by
  have same := congrArg (·[k]?) fits
  simp only [List.getElem?_map, there, configured, Option.map_some, Option.some.injEq] at same
  exact congrArg Prod.snd same

/-- **The slot of a quantity**: those of the pack are its own, and a cell has those at its place in
    the chain. -/
inductive Stands (p : Pack) : Entity → Quantity → Slot → Prop
  | voltage : Stands p .pack .voltage .packVoltage
  | current : Stands p .pack .current .packCurrent
  | cellVoltage {k : Nat} {cell : Cell} (there : p.cells[k]? = some cell) :
      Stands p (.cell cell.index) .voltage (.cellVoltage k)
  | cellTemperature {k : Nat} {cell : Cell} (there : p.cells[k]? = some cell) :
      Stands p (.cell cell.index) .temperature (.cellTemperature k)

/-- Every voltage and current, and every temperature that is monitored, is polled in its slot. -/
theorem exists_polled {s : PackSettings} (arises : p.Arises s) {e : Entity} {quantity : Quantity}
    {x : QuantitySettings} {r : Reading} (measured : Measures s p.snapshot e quantity x r)
    (monitored : quantity = .temperature → x.limit.monitored = true) :
    ∃ slot t, p.Stands e quantity slot ∧ p.track? slot = some t ∧ t.reading = r ∧
      slot ∈ p.slots slot.cadence := by
  cases measured with
  | voltage => exact ⟨.packVoltage, p.voltage, .voltage, rfl, rfl, List.mem_cons_self⟩
  | current =>
      exact ⟨.packCurrent, p.current, .current, rfl, rfl, List.mem_cons_of_mem _ List.mem_cons_self⟩
  | @cellVoltage k _ _ configured reading =>
      obtain ⟨cell, there, rfl⟩ := exists_cell reading
      have inside := (List.getElem?_eq_some_iff.1 there).1
      refine ⟨.cellVoltage k, cell.voltage, ?_, by simp [track?, there], rfl,
        List.mem_map_of_mem (List.mem_range.2 inside)⟩
      exact arises.fits.index there configured ▸ .cellVoltage there
  | @cellTemperature k _ _ configured reading =>
      obtain ⟨cell, there, rfl⟩ := exists_cell reading
      have polled : (cell, k) ∈ p.cells.zipIdx.filter fun c => c.1.temperatureMonitored := by
        refine List.mem_filter.2 ⟨List.mk_mem_zipIdx_iff_getElem?.2 there, ?_⟩
        rw [arises.fits.monitored there configured, monitored rfl]
      refine ⟨.cellTemperature k, cell.temperature, ?_, by simp [track?, there], rfl,
        List.mem_map.2 ⟨(cell, k), polled, rfl⟩⟩
      exact arises.fits.index there configured ▸ .cellTemperature there

theorem existsUnique_cadence (h : slot ∈ p.slots slot.cadence) : ∃! c, slot ∈ p.slots c :=
  ⟨slot.cadence, h, fun _ other => (cadence_of_mem_slots other).symm⟩

/-- A channel that is polled is among the channels of one cadence. -/
theorem Wired.existsUnique_channels (wired : p.Wired) {t : Track} (track : p.track? slot = some t)
    (h : slot ∈ p.slots slot.cadence) : ∃! c, t.channel ∈ p.channels c := by
  refine ⟨slot.cadence, List.mem_filterMap.2 ⟨slot, h, by simp [track]⟩, fun c other => ?_⟩
  obtain ⟨slot', h', found⟩ := List.mem_filterMap.1 other
  obtain ⟨t', track', same⟩ := Option.map_eq_some_iff.1 found
  rw [← cadence_of_mem_slots h', ← wired.cadence track', same, wired.cadence track]

/-- **Every voltage and current, and every temperature that is monitored, has a slot that exactly
    one cadence polls**, with a channel that exactly one cadence lists. -/
theorem exists_slot {s : PackSettings} (arises : p.Arises s) {e : Entity} {quantity : Quantity}
    {x : QuantitySettings} {r : Reading} (measured : Measures s p.snapshot e quantity x r)
    (monitored : quantity = .temperature → x.limit.monitored = true) :
    ∃ slot t, p.Stands e quantity slot ∧ p.track? slot = some t ∧ t.reading = r ∧
      (∃! c, slot ∈ p.slots c) ∧ ∃! c, t.channel ∈ p.channels c := by
  obtain ⟨slot, t, stands, track, reading, polled⟩ := exists_polled arises measured monitored
  exact ⟨slot, t, stands, track, reading, existsUnique_cadence polled,
    arises.wired.existsUnique_channels track polled⟩

end Pack

end PackGuard
