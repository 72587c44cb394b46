import PackGuard.Failure

/-!
# Outputs that take commands and may refuse them

An actuator takes one command after the other. Its `plan` says which of them fail, counted from the
first; a failed command leaves the output where it was. The log keeps every attempt, so that what
was sent and what was applied can both be read off it.
-/

namespace PackGuard

/-- One command to an output, with the fault if it was refused. -/
structure Attempt (α : Type) where
  value : α
  fault : Option LinkFault
deriving DecidableEq, Repr

/-- A command that was applied. -/
def Attempt.applied {α : Type} (a : Attempt α) : Bool := a.fault.isNone

/-- An output: which of its commands fail, and what was sent, the latest first. -/
structure Actuator (α : Type) where
  plan : Nat → Option LinkFault := fun _ => none
  log : List (Attempt α) := []

namespace Actuator

variable {α : Type}

/-- The command that was applied last, if any was. -/
def current (a : Actuator α) : Option α := (a.log.find? (·.applied)).map (·.value)

/-- The commands that were applied, the first one first. -/
def applied (a : Actuator α) : List α := (a.log.filter (·.applied)).reverse.map (·.value)

/-- How many commands were sent. -/
def sent (a : Actuator α) : Nat := a.log.length

/-- Send a command. -/
def command (a : Actuator α) (v : α) : Option LinkFault × Actuator α :=
  let fault := a.plan a.sent
  (fault, { a with log := ⟨v, fault⟩ :: a.log })

/-- The fault with which the next command will be refused, if it will be. -/
def next (a : Actuator α) : Option LinkFault := a.plan a.sent

/-- What was sent beyond what had been sent before, the latest first. -/
def since (a before : Actuator α) : List (Attempt α) :=
  a.log.take (a.log.length - before.log.length)

/-- The same output, whose next `n` commands fail and no others. -/
def failNext (a : Actuator α) (n : Nat) (fault : LinkFault) : Actuator α :=
  let first := a.sent
  { a with plan := fun k => if first ≤ k ∧ k < first + n then some fault else none }

/-! ### What a command does -/

theorem command_fault (a : Actuator α) (v : α) : (a.command v).1 = a.next := rfl

theorem command_log (a : Actuator α) (v : α) : (a.command v).2.log = ⟨v, a.next⟩ :: a.log := rfl

/-- A command that is not refused is the one applied last. -/
theorem current_command_of_applied {a : Actuator α} (h : a.next = none) (v : α) :
    (a.command v).2.current = some v := by
  simp [current, command_log, Attempt.applied, h]

/-- A refused command leaves the output where it was. -/
theorem current_command_of_refused {a : Actuator α} {f : LinkFault} (h : a.next = some f) (v : α) :
    (a.command v).2.current = a.current := by
  simp [current, command_log, Attempt.applied, h]

theorem since_eq {a before : Actuator α} {sent : List (Attempt α)}
    (h : a.log = sent ++ before.log) : a.since before = sent := by
  simp [since, h]

/-- What was sent since an earlier output came after what had been sent by a later one. -/
theorem since_append {a b before : Actuator α} (late : b.log <:+ a.log)
    (early : before.log <:+ b.log) : a.since before = a.since b ++ b.since before := by
  obtain ⟨x, hx⟩ := late
  obtain ⟨y, hy⟩ := early
  rw [since_eq hx.symm, since_eq hy.symm]
  exact since_eq (by rw [← hx, ← hy, List.append_assoc])

@[simp] theorem since_self (a : Actuator α) : a.since a = [] := since_eq rfl

@[simp] theorem since_command (a : Actuator α) (v : α) :
    (a.command v).2.since a = [⟨v, a.next⟩] := since_eq rfl

end Actuator

end PackGuard
