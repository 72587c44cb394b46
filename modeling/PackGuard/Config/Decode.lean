import PackGuard.Config.Schema
import PackGuard.Toml.Document

/-!
# Configurations read from TOML

Every part of a configuration is a table whose unknown keys are ignored. It may also be written as
an array: the fields in their order, those missing at the end taking their defaults. Two things
differ: a band written as an array needs both sides, and the pack voltage must be a table, inside
which a band written as an array has exactly two elements. A moment counts as a table without any
known key.

A fractional field takes whole numbers too; a whole field takes whole numbers in its range.
-/

namespace PackGuard.Config

namespace Decode

open Toml (Value)

/-- Reads a value as something. -/
abbrev Decoder (α : Type) := Value → Option α

/-! ## 1. Scalars -/

def float32 : Decoder Float32
  | .float x => some (Binary.narrow x)
  | .integer n => some (.ofInt n)
  | _ => none

/-- A whole number from 0 up to below a bound. -/
def below (bound : Nat) : Decoder Nat
  | .integer n => if 0 ≤ n ∧ n < bound then some n.toNat else none
  | _ => none

def uint8 : Decoder UInt8 := fun v => (below UInt8.size v).map (·.toUInt8)

def uint16 : Decoder UInt16 := fun v => (below UInt16.size v).map (·.toUInt16)

def uint32 : Decoder UInt32 := fun v => (below UInt32.size v).map (·.toUInt32)

def milliseconds : Decoder Nat := below UInt64.size

def boolean : Decoder Bool
  | .boolean b => some b
  | _ => none

def text : Decoder String
  | .string s => some s
  | _ => none

def list (item : Decoder α) : Decoder (List α)
  | .array items => items.mapM item
  | _ => none

/-! ## 2. Structures -/

/-- The fields of a structure, by name. -/
abbrev Fields := String → Option Value

/-- The fields of a value that is to be a structure with these fields. -/
def fields? (names : List String) : Value → Option Fields
  | .table entries => some fun n => entries.lookup n
  | .array items => some fun n => (names.zip items).lookup n
  | .moment => some fun _ => none
  | _ => none

/-- A field, or its default if it is not there. -/
def Fields.get (fs : Fields) (name : String) (d : Decoder α) (default : α) : Option α :=
  match fs name with
  | none => some default
  | some v => d v

/-- A field that may be left out. -/
def Fields.get? (fs : Fields) (name : String) (d : Decoder α) : Option (Option α) :=
  match fs name with
  | none => some none
  | some v => (d v).map some

/-- A band; `exact` forbids further elements of an array. -/
def band (exact : Bool) : Decoder Band := fun v => do
  let enough := match v with
    | .array items => if exact then items.length == 2 else 2 ≤ items.length
    | _ => true
  if enough then
    let fs ← fields? ["min", "max"] v
    some { min := ← fs.get? "min" float32, max := ← fs.get? "max" float32 }
  else none

/-- The names of a quantity's fields in their order. -/
def quantityNames : List String :=
  ["min", "max", "ext", "lim", "scale", "offset", "samples", "decay"]

def quantityOf (exact : Bool) (fs : Fields) : Option QuantityConfig := do
  some
    { min := ← fs.get? "min" float32
      max := ← fs.get? "max" float32
      ext := ← fs.get? "ext" (band exact)
      lim := ← fs.get? "lim" (band exact)
      scale := ← fs.get? "scale" float32
      offset := ← fs.get? "offset" float32
      samples := ← fs.get? "samples" uint32
      decay := ← fs.get? "decay" uint32 }

def quantity : Decoder QuantityConfig := fun v => (fields? quantityNames v).bind (quantityOf false)

/-- The pack voltage: a quantity and the cross-check side by side in one table. -/
def packVoltage : Decoder (QuantityConfig × CrossCheck)
  | .array _ => none
  | v => do
    let fs ← fields? [] v
    let q ← quantityOf true fs
    let default : CrossCheck := {}
    some (q,
      { correction := ← fs.get "corr" float32 default.correction
        tolerance := ← fs.get "corr_tol" float32 default.tolerance
        cycles := ← fs.get "corr_cycles" uint32 default.cycles })

def periods : Decoder PeriodConfig := fun v => do
  let fs ← fields? ["voltage", "cellvoltage", "celltemperature"] v
  let default : PeriodConfig := {}
  some
    { voltage := ← fs.get "voltage" float32 default.voltage
      cellVoltage := ← fs.get "cellvoltage" float32 default.cellVoltage
      cellTemperature := ← fs.get "celltemperature" float32 default.cellTemperature }

def poll : Decoder PollConfig := fun v => do
  let fs ← fields? ["n", "t", "d", "k", "stale"] v
  let default : PollConfig := {}
  some
    { readings := ← fs.get "n" uint32 default.readings
      gap := ← fs.get "t" milliseconds default.gap
      settle := ← fs.get "d" milliseconds default.settle
      keepAlive := ← fs.get "k" milliseconds default.keepAlive
      stale := ← fs.get "stale" uint32 default.stale }

def pack : Decoder PackConfig := fun v => do
  let fs ← fields? ["n", "ah", "r"] v
  let default : PackConfig := {}
  some
    { cells := ← fs.get "n" uint16 default.cells
      capacity := ← fs.get "ah" float32 default.capacity
      resistance := ← fs.get "r" float32 default.resistance }

/-- The class of all cells: voltage and temperature. -/
def cellClass : Decoder (QuantityConfig × QuantityConfig) := fun v => do
  let fs ← fields? ["u", "temp"] v
  some (← fs.get "u" quantity {}, ← fs.get "temp" quantity {})

def balance : Decoder BalanceConfig := fun v => do
  let fs ← fields? ["min", "d", "n", "r", "pins"] v
  let default : BalanceConfig := {}
  some
    { min := ← fs.get "min" float32 default.min
      delta := ← fs.get "d" float32 default.delta
      most := ← fs.get "n" uint16 default.most
      ratio := ← fs.get "r" float32 default.ratio
      pins := ← fs.get "pins" (list uint8) default.pins }

def relay : Decoder RelayConfig := fun v => do
  let fs ← fields? ["pin", "active_high", "t", "t1", "t_on", "t_off", "tick_ms"] v
  let default : RelayConfig := {}
  some
    { pin := ← fs.get? "pin" uint8
      activeHigh := ← fs.get "active_high" boolean default.activeHigh
      hold := ← fs.get "t" milliseconds default.hold
      firstHold := ← fs.get "t1" milliseconds default.firstHold
      minOn := ← fs.get "t_on" milliseconds default.minOn
      minOff := ← fs.get "t_off" milliseconds default.minOff
      tick := ← fs.get "tick_ms" milliseconds default.tick }

def cellOverride : Decoder CellOverride := fun v => do
  let fs ← fields? ["index", "u", "temp", "scale", "offset", "balance"] v
  some
    { index := ← fs.get "index" uint16 0
      voltage := ← fs.get? "u" quantity
      temperature := ← fs.get? "temp" quantity
      scale := ← fs.get? "scale" float32
      offset := ← fs.get? "offset" float32
      balance := ← fs.get? "balance" boolean }

def keepAlivePath : Decoder (Option String) := fun v => do
  let fs ← fields? ["path"] v
  fs.get? "path" text

def logging : Decoder LoggingConfig := fun v => do
  let fs ← fields? ["file", "level", "rotation", "events"] v
  some
    { file := ← fs.get? "file" text
      level := ← fs.get? "level" text
      rotation := ← fs.get? "rotation" text
      events := ← fs.get? "events" text }

end Decode

/-! ## 3. Configurations -/

open Toml (Value)

/-- The configuration that a document is. -/
def ofDocument? (document : Value) : Option Config := do
  let fs ← Decode.fields? [] document
  let (voltage, cross) ← fs.get "u" Decode.packVoltage ({}, {})
  let (cellVoltage, cellTemperature) ← fs.get "cell" Decode.cellClass ({}, {})
  some
    { periods := ← fs.get "t" Decode.periods {}
      poll := ← fs.get "poll" Decode.poll {}
      pack := ← fs.get "pack" Decode.pack {}
      voltage := voltage
      cross := cross
      current := ← fs.get "i" Decode.quantity {}
      cellVoltage := cellVoltage
      cellTemperature := cellTemperature
      balance := ← fs.get "balance" Decode.balance {}
      relay := ← fs.get "relay" Decode.relay {}
      cells := ← fs.get "cells" (Decode.list Decode.cellOverride) []
      keepAlivePath := ← fs.get "keepalive" Decode.keepAlivePath none
      logging := ← fs.get "logging" Decode.logging {} }

/-- The configuration that a text denotes, if it denotes one. -/
def ofText? (text : String) : Option Config := (Toml.document? text).bind ofDocument?

end PackGuard.Config
