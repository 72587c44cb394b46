import PackGuard.Contactor

/-!
# Transitions join up

The transitions that an operation of the contactor reports, also one that fails, lead from the state
in which it found the contactor to the state in which it left it (`leads_forceOpen`, `leads_step`).
-/

namespace PackGuard

/-- Transitions that lead from a state to a state, each starting where the last one ended. -/
def Leads : ContactorState → List Transition → ContactorState → Prop
  | source, [], target => source = target
  | source, t :: ts, target => t.source = source ∧ Leads t.target ts target

namespace Contactor

/-- Forcing open reports what leads to the state it ends in, whether the command is applied or
    refused. -/
theorem leads_forceOpen (c : Contactor) (now : Nat) (cause : Cause) :
    Leads c.state (c.forceOpen now cause).transitions (c.forceOpen now cause).contactor.state := by
  cases hs : c.state <;> cases hn : c.output.next <;>
    simp [forceOpen, leave, opened, enter, Leads, hs, Actuator.command_fault, hn]

/-- A contactor that is disengaged stays so when it is forced open. -/
theorem forceOpen_of_disengaged {c : Contactor} (disengaged : c.state = .disengaged) (now : Nat)
    (cause : Cause) : (c.forceOpen now cause).contactor.state = .disengaged := by
  cases hn : c.output.next <;>
    simp [forceOpen, leave, opened, disengaged, Actuator.command_fault, hn]

theorem leads_close (c : Contactor) (now : Nat) :
    Leads c.state (c.close now).transitions (c.close now).contactor.state := by
  unfold close
  dsimp only
  cases (c.output.command .closed).1 with
  | some fault => rfl
  | none => exact ⟨rfl, rfl⟩

/-- **A step reports what leads to the state it ends in.** -/
theorem leads_step (c : Contactor) (now : Nat) (blocking : Option Cause) :
    Leads c.state (c.step now blocking).transitions (c.step now blocking).contactor.state := by
  unfold step
  split
  · split
    · exact c.leads_forceOpen now _
    · rfl
  · rfl
  · exact c.leads_forceOpen now _
  · rfl
  · exact ⟨rfl, rfl⟩
  · exact ⟨rfl, rfl⟩
  · split
    · exact c.leads_close now
    · rfl

end Contactor

end PackGuard
