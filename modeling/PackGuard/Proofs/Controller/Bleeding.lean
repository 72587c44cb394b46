import PackGuard.Proofs.Controller.Balancing
import PackGuard.Proofs.Controller.Shutdown

/-!
# What the reported list says about the bleed resistors

A controller reports the cells that it takes to bleed. Until it is shut down this list is what was
applied to the bleed resistors last, whichever commands are refused. The shutdown commands no cell
and **leaves the list as it is**: if cells bleed and this command is applied, the list is out of date
from then on.

* `bleeds_tickArmed`: a tick rests, or sends the selection and takes it over if it is applied.
* `Mirrored`: the list is the output's, and a command is due exactly if the last one was refused. It
  is kept by every call that does not stop.
* `reports_bleeding_iff`: after a run the list is what was applied last exactly if the controller was
  not stopped with cells bleeding and its command applied. After every tick it is.
* `reports_after_shutdown`: a list of cells that bleed no longer.
-/

namespace PackGuard

namespace Actuator

variable {α : Type} {a before : Actuator α}

/-- Commands were sent beyond what had been sent before, and the last of them was refused. -/
def Refused (a before : Actuator α) : Prop :=
  ∃ x, (a.since before).head? = some x ∧ x.applied = false

theorem not_refused_self (a : Actuator α) : ¬ a.Refused a := by
  rintro ⟨x, sent, -⟩
  rw [since_self] at sent
  cases sent

/-- The command just sent is the last one. -/
theorem refused_command (grown : before.log <:+ a.log) (v : α) :
    (a.command v).2.Refused before ↔ a.next ≠ none := by
  have sent : (a.command v).2.since before = ⟨v, a.next⟩ :: a.since before := by
    rw [since_append (List.suffix_cons _ _) grown, since_command, List.singleton_append]
  simp [Refused, sent, Attempt.applied, Option.isSome_iff_ne_none]

end Actuator

namespace Controller

/-! ## 1. One tick -/

/-- **What a tick makes of the bleed resistors**, with the cells it selects: it rests, or its command
    is applied, or refused. -/
inductive Bleeds (c : Controller) (selected : List CellIndex) (next : Controller) : Prop
  | rests (bank : next.bank = c.bank) (balancing : next.balancing = c.balancing)
      (pending : next.balancePending = c.balancePending)
  | applies (due : selected ≠ c.balancing ∨ c.balancePending = true) (free : c.bank.next = none)
      (bank : next.bank = (c.bank.command selected).2) (balancing : next.balancing = selected)
      (pending : next.balancePending = false)
  | refuses (due : selected ≠ c.balancing ∨ c.balancePending = true) {fault : LinkFault}
      (refused : c.bank.next = some fault) (bank : next.bank = (c.bank.command selected).2)
      (balancing : next.balancing = c.balancing) (pending : next.balancePending = true)

/-- Arming is nothing to the bleed resistors. -/
theorem arm_bank (c : Controller) (t : Moment) :
    (c.arm t).2.bank = c.bank ∧ (c.arm t).2.balancing = c.balancing ∧
      (c.arm t).2.balancePending = c.balancePending := by
  rcases c.arm_cases t with ⟨-, e⟩ | ⟨fault, log, -, -, e⟩ | ⟨log, -, -, e⟩ <;> rw [e] <;>
    exact ⟨rfl, rfl, rfl⟩

theorem bleeds_commandBank {c : Controller} {selected : List CellIndex} (t : Moment)
    (due : selected ≠ c.balancing ∨ c.balancePending = true) :
    Bleeds c selected (c.commandBank t selected) := by
  cases next : c.bank.next with
  | none =>
      refine .applies due next ?_ ?_ ?_ <;>
        simp [commandBank, Actuator.command_fault, next, publish]
  | some fault =>
      refine .refuses due next ?_ ?_ ?_ <;> simp [commandBank, Actuator.command_fault, next]

/-- Nothing else of a controller bears on its bleed resistors. -/
theorem Bleeds.of_same {c next : Controller} {selected : List CellIndex} (h : Bleeds c selected next)
    {c' next' : Controller} (bank : c'.bank = c.bank) (balancing : c'.balancing = c.balancing)
    (pending : c'.balancePending = c.balancePending) (bank' : next'.bank = next.bank)
    (balancing' : next'.balancing = next.balancing)
    (pending' : next'.balancePending = next.balancePending) : Bleeds c' selected next' := by
  cases h with
  | rests b l p =>
      exact .rests (by rw [bank', b, bank]) (by rw [balancing', l, balancing])
        (by rw [pending', p, pending])
  | applies due free b l p =>
      exact .applies (by rwa [balancing, pending]) (by rwa [bank]) (by rw [bank', b, bank])
        (balancing'.trans l) (pending'.trans p)
  | refuses due refused b l p =>
      exact .refuses (by rwa [balancing, pending]) (by rwa [bank]) (by rw [bank', b, bank])
        (by rw [balancing', l, balancing]) (pending'.trans p)

theorem bleeds_updateBalance (c : Controller) (t : Moment) (snap : Snapshot) :
    Bleeds c (Balance.select c.settings.balance (candidates c.settings.pack c.faults snap))
      (c.updateBalance t snap) := by
  unfold updateBalance
  dsimp only
  split
  · next due =>
      have sent := bleeds_commandBank (c := c) t (by simpa using due)
      split
      · exact sent
      · exact sent.of_same rfl rfl rfl rfl rfl rfl
  · exact .rests rfl rfl rfl

theorem faults_updateBalance (c : Controller) (t : Moment) (snap : Snapshot) :
    (c.updateBalance t snap).faults = c.faults := by
  obtain ⟨bank, pack, pending, balancing, log, e⟩ := c.updateBalance_eq t snap
  rw [e]

/-- **A tick sends nothing but the selection**, and only if it differs from the list or a command is
    due. -/
theorem bleeds_tickArmed (c : Controller) (t : Moment) (fs : Files) :
    Bleeds c (c.tickArmed t fs).2.selection (c.tickArmed t fs).2 := by
  obtain ⟨settings, seen, -⟩ := tickArmed_synced c t fs
  obtain ⟨keepAlive, expired, engine, published, log, e⟩ := assessed_eq c t fs
  unfold selection
  rw [settings, seen]
  -- the step of the contactor leaves faults, output, list and flag to the preparation
  suffices prepared : Bleeds c (Balance.select c.settings.balance
      (candidates c.settings.pack (c.prepare t fs).faults c.pack.snapshot)) (c.prepare t fs) from
    prepared.of_same rfl rfl rfl rfl rfl rfl
  unfold prepare
  rcases rebalance_cases ((c.updateKeepAlive t fs).assess t c.pack.snapshot) t c.pack.snapshot
    c.faults with reselects | ⟨-, -, -, idles⟩
  · rw [reselects, faults_updateBalance, e]
    exact (bleeds_updateBalance _ t _).of_same rfl rfl rfl rfl rfl rfl
  · rw [idles, e]
    exact .rests rfl rfl rfl

/-! ## 2. Until the shutdown -/

/-- **What holds of a controller until it is shut down**, built with an output: its list is what was
    applied last, and a command is due exactly if the last one was refused. -/
structure Mirrored (bank : Actuator (List CellIndex)) (c : Controller) : Prop where
  shown : c.balancing = c.bleeding
  grown : bank.log <:+ c.bank.log
  due : c.balancePending = true ↔ c.bank.Refused bank

section Keeps

variable {bank : Actuator (List CellIndex)} {c : Controller}

theorem Mirrored.of_same (h : Mirrored bank c) {next : Controller} (output : next.bank = c.bank)
    (balancing : next.balancing = c.balancing)
    (pending : next.balancePending = c.balancePending) : Mirrored bank next := by
  obtain ⟨shown, grown, due⟩ := h
  refine ⟨?_, by rwa [output], by rwa [output, pending]⟩
  rw [balancing, shown, bleeding, bleeding, output]

theorem Mirrored.of_bleeds (h : Mirrored bank c) {selected : List CellIndex} {next : Controller}
    (tick : Bleeds c selected next) : Mirrored bank next := by
  cases tick with
  | rests output balancing pending => exact h.of_same output balancing pending
  | applies due free output balancing pending =>
      refine ⟨?_, ?_, ?_⟩
      · rw [balancing, bleeding, output, Actuator.current_command_of_applied free]
        rfl
      · rw [output]; exact h.grown.trans (List.suffix_cons _ _)
      · rw [output, Actuator.refused_command h.grown, pending, free]
        simp
  | refuses due refused output balancing pending =>
      refine ⟨?_, ?_, ?_⟩
      · rw [balancing, h.shown, bleeding, bleeding, output,
          Actuator.current_command_of_refused refused]
      · rw [output]; exact h.grown.trans (List.suffix_cons _ _)
      · rw [output, Actuator.refused_command h.grown, pending, refused]
        simp

theorem mirrored_arm (h : Mirrored bank c) (t : Moment) : Mirrored bank (c.arm t).2 := by
  obtain ⟨output, balancing, pending⟩ := c.arm_bank t
  exact h.of_same output balancing pending

variable {σ : Type} [SensorLink σ]

/-- Every call that leaves the controller running keeps the list in step with the output. -/
theorem mirrored_perform (h : Mirrored bank c) {d : Deed σ}
    (running : (c.perform d).stopped = false) : Mirrored bank (c.perform d) := by
  refine perform_cases (P := fun next => next.stopped = false → Mirrored bank next)
    (fun _ => h) (fun _ => mirrored_arm h _) ?_ ?_ ?_ running
  · exact fun fs _ _ _ => (mirrored_arm h _).of_bleeds (bleeds_tickArmed _ _ fs)
  · intro ended
    rw [shutdown_stopped] at ended
    cases ended
  · exact fun next _ _ _ _ _ before still => (before still).of_same rfl rfl rfl

/-- A tick of a running controller sends its selection if it differs from what was applied last or
    the last command was refused, and nothing else. -/
theorem Mirrored.sends (h : Mirrored bank c) {selected : List CellIndex} {next : Controller}
    (tick : Bleeds c selected next) :
    next.bank = c.bank ∨ next.bank = (c.bank.command selected).2 ∧
      (selected ≠ c.bleeding ∨ c.bank.Refused bank) := by
  rw [← h.shown, ← h.due]
  cases tick with
  | rests output _ _ => exact .inl output
  | applies due _ output _ _ => exact .inr ⟨output, due⟩
  | refuses due _ output _ _ => exact .inr ⟨output, due⟩

/-- A stopped controller sends nothing to the bleed resistors and keeps its list. -/
theorem kept_of_stopped (stopped : c.stopped = true) (d : Deed σ) :
    (c.perform d).bank = c.bank ∧ (c.perform d).balancing = c.balancing := by
  refine perform_cases (P := fun next => next.bank = c.bank ∧ next.balancing = c.balancing)
    ⟨rfl, rfl⟩ ?_ ?_ ?_ ?_
  · exact ⟨(c.arm_bank d.moment).1, (c.arm_bank d.moment).2.1⟩
  · intro fs _ running
    rw [stopped] at running
    cases running
  · rw [shutdown_of_stopped stopped]
    exact ⟨rfl, rfl⟩
  · exact fun next _ _ _ _ _ kept => kept

/-- The call that stops a controller commands that no cell bleeds, and leaves the list. -/
theorem commanded_of_stop {d : Deed σ} (running : c.stopped = false)
    (stopped : (c.perform d).stopped = true) :
    (c.perform d).bank = (c.bank.command []).2 ∧ (c.perform d).balancing = c.balancing := by
  rw [perform_of_stop running stopped]
  simp [shutdown, running, publish, take]

end Keeps

/-! ## 3. Runs -/

section Runs

variable {σ : Type} [SensorLink σ] {s : Settings} {relay : Actuator Position}
  {bank : Actuator (List CellIndex)} {wall : Nat} {stored : Files} {c : Controller}

theorem mirrored_after (built : build (some s) (some relay) (some bank) wall stored = .ok c)
    (idle : c.bleeding = []) {deeds : List (Deed σ)} (running : (c.after deeds).stopped = false) :
    Mirrored bank (c.after deeds) := by
  induction deeds with
  | nil =>
      obtain rfl := build_eq built
      exact ⟨idle.symm, List.suffix_refl _, iff_of_false nofun bank.not_refused_self⟩
  | cons d deeds ih =>
      have before : (c.after deeds).stopped = false := by
        by_contra stopped
        rw [after, perform_stopped (by simpa using stopped)] at running
        cases running
      exact mirrored_perform (ih before) running

/-- From the call on that stops a controller its list stays, and the output has but the one command
    more that no cell bleeds. -/
theorem left_after_stop {d : Deed σ} {earlier : List (Deed σ)}
    (running : (c.after earlier).stopped = false)
    (stopped : (c.after (d :: earlier)).stopped = true) (later : List (Deed σ)) :
    (c.after (later ++ d :: earlier)).stopped = true ∧
      (c.after (later ++ d :: earlier)).bank = ((c.after earlier).bank.command []).2 ∧
      (c.after (later ++ d :: earlier)).balancing = (c.after earlier).balancing := by
  refine after_stop_keeps (P := fun k => k.bank = ((c.after earlier).bank.command []).2 ∧
    k.balancing = (c.after earlier).balancing) stopped (commanded_of_stop running stopped)
    (fun k x still left => ?_) later
  obtain ⟨same, kept⟩ := kept_of_stopped still x
  exact ⟨same.trans left.1, kept.trans left.2⟩

/-- A list that was right when its controller was stopped is right from then on unless cells bled
    and the command to stop it is applied. -/
theorem shown_after_stop_iff {d : Deed σ} {earlier : List (Deed σ)}
    (running : (c.after earlier).stopped = false)
    (stopped : (c.after (d :: earlier)).stopped = true)
    (before : (c.after earlier).balancing = (c.after earlier).bleeding) (later : List (Deed σ)) :
    (c.after (later ++ d :: earlier)).balancing = (c.after (later ++ d :: earlier)).bleeding ↔
      (c.after earlier).bleeding = [] ∨ (c.after earlier).bank.next ≠ none := by
  obtain ⟨-, output, shown⟩ := left_after_stop running stopped later
  rw [shown, before]
  cases next : (c.after earlier).bank.next with
  | none => simp [bleeding, output, Actuator.current_command_of_applied next]
  | some fault => simp [bleeding, output, Actuator.current_command_of_refused next]

/-- **What the reported list says about the bleed resistors.** After any run of a controller as it was
    built, with an output at which no cell bleeds, whichever commands are refused, the list is what
    was applied last exactly if no call stopped the controller while cells bled and with its command
    to the bleed resistors applied. After a tick that does not fail the list is always what was
    applied last, in the outcome and in the status. A tick sends nothing to the bleed resistors, or
    the cells that it selects; these then differ from what was applied last, or the last command was
    refused. -/
theorem reports_bleeding_iff
    (built : build (some s) (some relay) (some bank) wall stored = .ok c) (idle : c.bleeding = [])
    (deeds : List (Deed σ)) (t : Moment) :
    (((c.after deeds).status t).balancing = (c.after deeds).bleeding ↔
      ∀ later d earlier, deeds = later ++ d :: earlier → (c.after earlier).stopped = false →
        (c.after (d :: earlier)).stopped = true →
        (c.after earlier).bleeding = [] ∨ (c.after earlier).bank.next ≠ none) ∧
    ∀ files answer next, (c.after deeds).tick t files = (answer, next) →
      (∀ outcome, answer = .ok outcome →
        outcome.balancing = next.bleeding ∧ (next.status t).balancing = next.bleeding) ∧
      (next.bank = (c.after deeds).bank ∨
        next.bank = ((c.after deeds).bank.command next.selection).2 ∧
          (next.selection ≠ (c.after deeds).bleeding ∨ (c.after deeds).bank.Refused bank)) := by
  have unstopped : c.stopped = false := by rw [build_eq built]; rfl
  constructor
  · show (c.after deeds).balancing = _ ↔ _
    cases stopped : (c.after deeds).stopped with
    | false =>
        refine iff_of_true (mirrored_after built idle stopped).shown
          fun later d earlier split running ended => ?_
        subst split
        rw [(left_after_stop running ended later).1] at stopped
        cases stopped
    | true =>
        constructor
        · rintro shown later d earlier rfl running ended
          exact (shown_after_stop_iff running ended (mirrored_after built idle running).shown
            later).1 shown
        · intro known
          obtain ⟨later, d, earlier, rfl, running, ended⟩ := exists_stop unstopped stopped
          exact (shown_after_stop_iff running ended (mirrored_after built idle running).shown
            later).2 (known later d earlier rfl running ended)
  · intro files answer next ticked
    rcases (c.after deeds).tick_cases t files with ⟨-, e⟩ | ⟨running, ⟨f, -, e⟩ | ⟨-, e⟩⟩ <;>
      rw [e] at ticked <;> cases ticked
    · exact ⟨nofun, .inl rfl⟩
    · exact ⟨nofun, .inl ((c.after deeds).arm_bank t).1⟩
    · have armed := mirrored_arm (mirrored_after built idle running) t
      have ticks := bleeds_tickArmed ((c.after deeds).arm t).2 t files
      have shown := (armed.of_bleeds ticks).shown
      have sends := armed.sends ticks
      rw [bleeding, ((c.after deeds).arm_bank t).1] at sends
      refine ⟨?_, sends⟩
      rintro outcome ⟨⟩
      exact ⟨shown, shown⟩

end Runs

/-- A run at whose end the second of two cells bleeds. -/
def bleedsSecond : List (Deed SimulatedSensor) :=
  [⟨⟨0, 0⟩, .tick {}⟩, ⟨⟨0, 0⟩, .pollOnce (sensorOf 3 5)⟩]

/-- The second cell was bleeding when the commands to bleed the first and, with the shutdown, to
    bleed none were refused. The outcome of the tick at 100 and the list after the shutdown have the
    second cell, which bleeds on. -/
theorem reports_after_refused_stop :
    ∃ c outcome next, build (some twoCells) (some {})
        (some { plan := fun k => if 1 ≤ k then some (.device .linkDown) else none }) 0 {} = .ok c ∧
      (c.after (⟨⟨50, 50⟩, .pollOnce (sensorOf 9 5)⟩ :: bleedsSecond)).tick ⟨100, 100⟩ {} =
        (.ok outcome, next) ∧
      next.bleeding = [2] ∧ outcome.balancing = next.bleeding ∧
      ((c.after (⟨⟨200, 200⟩, .shutdown⟩ :: bleedsSecond)).status ⟨200, 200⟩).balancing =
        (c.after (⟨⟨200, 200⟩, .shutdown⟩ :: bleedsSecond)).bleeding := by
  have built := build_of_sound (s := twoCells) (by decide) {}
    { plan := fun k => if 1 ≤ k then some (.device .linkDown) else none } 0 {}
  obtain ⟨outcome, next, result⟩ : ∃ outcome next, ((assembled twoCells {}
      { plan := fun k => if 1 ≤ k then some (.device .linkDown) else none } 0 {}).after
      (⟨⟨50, 50⟩, .pollOnce (sensorOf 9 5)⟩ :: bleedsSecond)).tick ⟨100, 100⟩ {} =
        (.ok outcome, next) :=
    ⟨_, _, tick_of_armed (by decide +kernel) (by decide +kernel) _ _⟩
  have bleeds : next.bleeding = [2] :=
    (congrArg (·.2.bleeding) result.symm).trans (by decide +kernel)
  have ticked := (reports_bleeding_iff built rfl _ ⟨100, 100⟩).2 {} _ _ result
  have ended := reports_bleeding_iff built rfl (⟨⟨200, 200⟩, .shutdown⟩ :: bleedsSecond) ⟨200, 200⟩
  refine ⟨_, outcome, next, built, result, bleeds, (ticked.1 outcome rfl).1, ended.1.2 ?_⟩
  rintro (_ | ⟨x, later⟩) d earlier split - stopped
  · cases split
    exact .inr (by decide +kernel)
  · -- no call before the last one stops
    obtain ⟨-, rest⟩ := List.cons.inj split
    exact absurd (stopped_of_suffix ⟨later, rest.symm⟩ stopped) (by decide +kernel)

/-- **A list of cells that bleed no longer.** The second cell bleeds, and the shutdown at 10 commands
    with success that none does. The list still has the second cell. -/
theorem reports_after_shutdown :
    ∃ c, build (some twoCells) (some {}) (some {}) 0 {} = .ok c ∧ c.bleeding = [] ∧
      ((c.after (⟨⟨10, 10⟩, .shutdown⟩ :: bleedsSecond)).status ⟨20, 20⟩).balancing = [2] ∧
      (c.after (⟨⟨10, 10⟩, .shutdown⟩ :: bleedsSecond)).bleeding = [] :=
  ⟨_, build_of_sound (s := twoCells) (by decide) _ _ _ _, rfl, by decide +kernel,
    by decide +kernel⟩

end Controller

end PackGuard
