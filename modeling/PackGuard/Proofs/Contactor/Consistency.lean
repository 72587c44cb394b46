import PackGuard.Proofs.Contactor.Record
import PackGuard.Proofs.Contactor.Transitions

/-!
# What a contactor shows and what it did

A contactor is stepped and forced open any number of times, at times that may also go back, and any
of its commands may be refused. What can be asked of it then is fixed by what it has sent and
reported since it was new:

* `Consistent`: the position is the one applied last and says whether the contactor is engaged or on
  its way to open; time is left in a hold and only there; the cause fits the state; the transitions
  are one path along the edges of the machine (`ContactorState.successors`).
* `consistent_after`: **this holds after all calls**, half-finished openings included. One call keeps
  it (`kept_step` for what is sent, `leads_perform` and `edges_perform` for what is reported).
-/

namespace PackGuard

/-! ## 1. The edges of the machine -/

/-- The states to which a contactor can change from a state. -/
def ContactorState.successors : ContactorState → List ContactorState
  | engaged => [disengaging]
  | disengaging => [disengaged]
  | disengaged => [reengageHold]
  | reengageHold => [disengaged, engaged]

/-- Transitions that lead to a state go on with those that lead on from there. -/
theorem Leads.append {a b c : ContactorState} {before after : List Transition}
    (first : Leads a before b) (second : Leads b after c) : Leads a (before ++ after) c := by
  induction before generalizing a with
  | nil => cases first; exact second
  | cons t before ih => exact ⟨first.1, ih first.2⟩

namespace Contactor

theorem leads_perform (c : Contactor) (now : Nat) (call : ContactorCall) :
    Leads c.state (c.perform now call).transitions (c.perform now call).contactor.state := by
  cases call with
  | step blocking => exact c.leads_step now blocking
  | forceOpen cause => exact c.leads_forceOpen now cause

theorem edges_forceOpen (c : Contactor) (now : Nat) (cause : Cause) :
    ∀ t ∈ (c.forceOpen now cause).transitions, t.target ∈ t.source.successors := by
  cases hs : c.state <;> cases hn : c.output.next <;>
    simp [forceOpen, leave, opened, enter, ContactorState.successors, hs, Actuator.command_fault, hn]

theorem edges_close {c : Contactor} (holding : c.state = .reengageHold) (now : Nat) :
    ∀ t ∈ (c.close now).transitions, t.target ∈ t.source.successors := by
  cases hn : c.output.next <;>
    simp [close, enter, ContactorState.successors, holding, Actuator.command_fault, hn]

/-- **A call reports edges of the machine only**, also when its command is refused. -/
theorem edges_perform (c : Contactor) (now : Nat) (call : ContactorCall) :
    ∀ t ∈ (c.perform now call).transitions, t.target ∈ t.source.successors := by
  cases call with
  | forceOpen cause => exact c.edges_forceOpen now cause
  | step blocking =>
      cases hs : c.state with
      | engaged =>
          cases blocking with
          | none => simp [perform, step, hs]
          | some cause =>
              simp only [perform, step, hs]
              split
              · exact c.edges_forceOpen now cause
              · simp
      | disengaging => simpa only [perform, step, hs] using c.edges_forceOpen now c.cause
      | disengaged =>
          cases blocking <;>
            simp [perform, step, hs, beginHold, enter, ContactorState.successors]
      | reengageHold =>
          cases blocking with
          | some cause => simp [perform, step, hs, breakHold, enter, ContactorState.successors]
          | none =>
              simp only [perform, step, hs]
              split
              · exact edges_close hs now
              · simp

/-! ## 2. What was sent -/

/-- **What a contactor keeps of all that it sent**, the latest command first. -/
structure Kept (c : Contactor) (sent : List (Attempt Position)) : Prop where
  position : c.position = (sent.find? (·.applied)).map (·.value)
  ever : c.everEngaged = true ↔ ∃ a ∈ sent, a.applied = true ∧ a.value = .closed
  holding : c.state = .reengageHold → c.cause = .faultsCleared
  engaged : c.state = .engaged → c.cause = .holdElapsed

theorem kept_new (s : ContactorSettings) (output : Actuator Position) :
    Kept { settings := s, output := output } [] where
  position := rfl
  ever := by simp
  holding h := by cases h
  engaged h := by cases h

theorem kept_step {c c' : Contactor} {now : Nat} {call : ContactorCall}
    {sent : List (Attempt Position)} (m : c.Moves now call c') (h : c.Kept sent) :
    c'.Kept (c'.output.since c.output ++ sent) := by
  obtain ⟨position, ever, holding, engaged⟩ := h
  cases m with
  | opens commanded applied =>
      refine ⟨?_, ?_, fun state => ?_, fun state => ?_⟩
      · simp [Attempt.applied, applied]
      · simpa using ever
      · cases state
      · cases state
  | failsToOpen commanded refused =>
      refine ⟨?_, ?_, fun state => ?_, fun state => ?_⟩
      · simpa [Attempt.applied, refused] using position
      · simpa using ever
      all_goals cases hs : c.state <;> simp [hs, ContactorState.left] at state
  | closes held ends ended applied =>
      refine ⟨?_, ?_, fun state => ?_, fun _ => rfl⟩
      · simp [Attempt.applied, applied]
      · simp [Attempt.applied, applied]
      · cases state
  | failsToClose held ends ended refused =>
      refine ⟨?_, ?_, holding, engaged⟩
      · simpa [Attempt.applied, refused] using position
      · simpa [Attempt.applied, refused] using ever
  | staysEngaged => exact ⟨by simpa using position, by simpa using ever, holding, engaged⟩
  | waits => exact ⟨by simpa using position, by simpa using ever, holding, engaged⟩
  | staysOpen disengaged =>
      refine ⟨by simpa using position, by simpa using ever, fun state => ?_, fun state => ?_⟩
      all_goals rw [show _ = c.state from rfl, disengaged] at state; cases state
  | beginsHold =>
      refine ⟨by simpa using position, by simpa using ever, fun _ => rfl, fun state => ?_⟩
      cases state
  | breaksHold =>
      refine ⟨by simpa using position, by simpa using ever, fun state => ?_, fun state => ?_⟩
      · cases state
      · cases state

end Contactor

/-! ## 3. Runs -/

/-- A call of a contactor at its time. -/
structure ContactorDeed where
  time : Nat
  call : ContactorCall
deriving DecidableEq, Repr

namespace Contactor

/-- The contactor after calls at any times, the latest first. -/
def after (c : Contactor) : List ContactorDeed → Contactor
  | [] => c
  | d :: deeds => ((c.after deeds).perform d.time d.call).contactor

/-- All transitions that calls have reported, the first one first. -/
def reported (c : Contactor) : List ContactorDeed → List Transition
  | [] => []
  | d :: deeds => c.reported deeds ++ ((c.after deeds).perform d.time d.call).transitions

/-- Calls only add to what was sent. -/
theorem log_after (c : Contactor) (deeds : List ContactorDeed) :
    c.output.log <:+ (c.after deeds).output.log := by
  induction deeds with
  | nil => exact List.suffix_refl _
  | cons d deeds ih => exact ih.trans ⟨_, (moves_log (perform_moves _ d.time d.call)).symm⟩

theorem kept_after (s : ContactorSettings) (output : Actuator Position)
    (deeds : List ContactorDeed) :
    Kept (after { settings := s, output := output } deeds)
      ((after { settings := s, output := output } deeds).output.since output) := by
  induction deeds with
  | nil => simpa [after] using kept_new s output
  | cons d deeds ih =>
      have m := perform_moves (after { settings := s, output := output } deeds) d.time d.call
      rw [after, Actuator.since_append ⟨_, (moves_log m).symm⟩ (log_after _ deeds)]
      exact kept_step m ih

theorem steady_after (s : ContactorSettings) (output : Actuator Position)
    (deeds : List ContactorDeed) : Steady (after { settings := s, output := output } deeds) := by
  induction deeds with
  | nil => exact steady_new s output
  | cons d deeds ih => exact moves_steady (perform_moves _ d.time d.call) ih

theorem leads_after (c : Contactor) (deeds : List ContactorDeed) :
    Leads c.state (c.reported deeds) (c.after deeds).state := by
  induction deeds with
  | nil => rfl
  | cons d deeds ih => exact ih.append ((c.after deeds).leads_perform d.time d.call)

theorem edges_after (c : Contactor) (deeds : List ContactorDeed) :
    ∀ t ∈ c.reported deeds, t.target ∈ t.source.successors := by
  induction deeds with
  | nil => simp [reported]
  | cons d deeds ih =>
      intro t ht
      rcases List.mem_append.1 ht with old | new
      · exact ih t old
      · exact edges_perform _ d.time d.call t new

/-- **What a contactor shows fits what it has sent**, the latest command first, **and the transitions
    it has reported**, the first one first. -/
structure Consistent (shown : ContactorStatus) (sent : List (Attempt Position))
    (reported : List Transition) : Prop where
  /-- The position is the one that was applied last. -/
  position : shown.position = (sent.find? (·.applied)).map (·.value)
  closed_iff : shown.position = some .closed ↔ shown.state = .engaged ∨ shown.state = .disengaging
  hold_iff : shown.holdLeft.isSome = true ↔ shown.state = .reengageHold
  ever_iff : shown.everEngaged = true ↔ ∃ a ∈ sent, a.applied = true ∧ a.value = .closed
  holding : shown.state = .reengageHold → shown.cause = .faultsCleared
  engaged : shown.state = .engaged → shown.cause = .holdElapsed
  path : Leads .disengaged reported shown.state
  edges : ∀ t ∈ reported, t.target ∈ t.source.successors

/-- **A new contactor on any output stays consistent.** Whatever it is called to do, at whichever
    times, and whichever of its commands are refused, it shows at any time what fits all that was
    sent and reported. -/
theorem consistent_after (s : ContactorSettings) (output : Actuator Position)
    (deeds : List ContactorDeed) (now : Nat) :
    Consistent ((after { settings := s, output := output } deeds).status now)
      ((after { settings := s, output := output } deeds).output.since output)
      (reported { settings := s, output := output } deeds) := by
  have kept := kept_after s output deeds
  have steady := steady_after s output deeds
  exact {
    position := kept.position
    closed_iff := steady.closed_iff
    hold_iff := by simpa [status] using steady.hold_iff
    ever_iff := kept.ever
    holding := kept.holding
    engaged := kept.engaged
    path := leads_after { settings := s, output := output } deeds
    edges := edges_after _ deeds }

/-- Opened, held and closed, the contactor is refused to open for a fault. -/
example : reported
    { settings := { firstHold := 200 }
      output := { plan := fun k => if k = 2 then some (.device .linkDown) else none } }
    [⟨300, .step (some (.fault .pack .overvoltage))⟩, ⟨200, .step none⟩, ⟨0, .step none⟩,
      ⟨0, .forceOpen .startup⟩] =
    [⟨.disengaged, .reengageHold, .faultsCleared⟩, ⟨.reengageHold, .engaged, .holdElapsed⟩,
      ⟨.engaged, .disengaging, .fault .pack .overvoltage⟩] := by decide

end Contactor

end PackGuard
