import PackGuard.Settings

/-!
# Which cells bleed

Cells whose voltage stands out above the lowest one are discharged through a resistor. A cell is
**eligible** if nothing excludes it, its voltage is fresh, at least the minimum, at least `delta`
above the lowest voltage, and high enough in the span from the lowest to the highest. The eligible
cells are ranked by voltage, the highest first and equal ones by number, and the first `most` of
them bleed. Lowest and highest are taken over all fresh voltages, of excluded cells too.
-/

namespace PackGuard

/-- A cell as the selection sees it: its number, its voltage if it is fresh, and whether something
    excludes it from bleeding. -/
structure Candidate where
  index : CellIndex
  voltage : Option Float32
  excluded : Bool := false
deriving DecidableEq, Repr

namespace Balance

/-- The fresh voltages of all candidates. -/
def voltages (cs : List Candidate) : List Float32 := cs.filterMap (·.voltage)

/-- The lowest and the highest fresh voltage, if there is any. -/
def span? (cs : List Candidate) : Option (Float32 × Float32) :=
  match voltages cs with
  | [] => none
  | v :: vs =>
    let low := vs.foldl Binary.lesser v
    some (low, (v :: vs).foldl Binary.greater low)

/-- Whether a voltage is high enough to bleed, between the lowest and the highest of the pack. -/
def highEnough (s : BalanceSettings) (low high v : Float32) : Bool :=
  s.min ≤ v && low + s.delta ≤ v &&
    (s.ratio ≤ 0 || (0 < high - low && s.ratio ≤ (v - low) / (high - low)))

/-- The voltage of a candidate that is eligible. -/
def eligible? (s : BalanceSettings) (low high : Float32) (c : Candidate) :
    Option (CellIndex × Float32) :=
  if c.excluded then none
  else c.voltage.bind fun v => if highEnough s low high v then some (c.index, v) else none

/-- The order of the ranking: higher voltages first, equal ones by number. -/
def ranksBefore (a b : CellIndex × Float32) : Bool :=
  let x := Binary.totalKey a.2
  let y := Binary.totalKey b.2
  y < x || (x == y && a.1 ≤ b.1)

/-- The first `most` of a list, all of it for 0. -/
def firstOf (most : UInt16) (xs : List α) : List α :=
  if most == 0 then xs else xs.take most.toNat

/-- The cells to bleed, by ascending number. -/
def select (s : BalanceSettings) (cs : List Candidate) : List CellIndex :=
  match span? cs with
  | none => []
  | some (low, high) =>
    let ranked := (cs.filterMap (eligible? s low high)).mergeSort ranksBefore
    ((firstOf s.most ranked).map (·.1)).mergeSort fun a b => a ≤ b

end Balance

end PackGuard
