import PackGuard.Proofs.Contactor.Record

/-!
# When a contactor closes and opens

A run of a contactor is a history of calls at times that do not go back, each with the states before
and after it and what it sent. The times at which the contactor may close are read off the history
alone (`holdBegan`, `HoldOver`), not off the fields of the machine.

* `timed_of_runs`: **on every run the machine's hold ends when the history says so.**
* `closes_exactly_when_due`: a call sends closed exactly when it is a step without a block at the
  end of a hold; between two closings the output was opened, and every closing keeps its distance
  from every opening before it; an engaged contactor opens at once for a safety cause and otherwise
  exactly when it has been closed long enough.
-/

namespace PackGuard

/-! ## 1. Histories -/

/-- A call as it went: when, which, from which state to which, and what it sent, the latest
    first. -/
structure ContactorEntry where
  time : Nat
  call : ContactorCall
  source : ContactorState
  target : ContactorState
  sent : List (Attempt Position)
deriving DecidableEq, Repr

namespace ContactorEntry

/-- Whether the call commanded a position, with success or without. -/
def sends (e : ContactorEntry) (p : Position) : Bool := e.sent.any (·.value == p)

/-- Whether the call brought the output to a position. -/
def applies (e : ContactorEntry) (p : Position) : Bool :=
  e.sent.any fun a => a.applied && a.value == p

theorem sends_of_applies {e : ContactorEntry} {p : Position} (h : e.applies p = true) :
    e.sends p = true := by
  simp only [applies, sends, List.any_eq_true, Bool.and_eq_true] at h ⊢
  obtain ⟨a, ha, -, value⟩ := h
  exact ⟨a, ha, value⟩

/-- What was sent over a history, the latest first. -/
def record (history : List ContactorEntry) : List Sent :=
  history.flatMap fun e => e.sent.map (⟨e.time, ·⟩)

/-- When the hold began that is on at the end of a history, if one is. -/
def holdBegan : List ContactorEntry → Option Nat
  | [] => none
  | e :: history =>
    if e.target ≠ .reengageHold then none
    else if e.source = .reengageHold then holdBegan history
    else some e.time

/-- How long a hold lasts: less before the output was ever closed. -/
def holdTime (s : ContactorSettings) (history : List ContactorEntry) : Nat :=
  if (lastApplied .closed (record history)).isSome then s.hold else s.firstHold

/-- **A hold that began at a time is over now**, and the output has been open long enough. -/
def HoldOver (s : ContactorSettings) (history : List ContactorEntry) (began now : Nat) : Prop :=
  began + holdTime s history ≤ now ∧
    ∀ t, lastApplied .opened (record history) = some t → t + s.minOff ≤ now

/-! ### What one more call adds -/

theorem record_cons (e : ContactorEntry) (history : List ContactorEntry) :
    record (e :: history) = e.sent.map (⟨e.time, ·⟩) ++ record history := rfl

theorem lastApplied_record_cons (p : Position) (e : ContactorEntry)
    (history : List ContactorEntry) :
    lastApplied p (record (e :: history)) =
      if e.applies p then some e.time else lastApplied p (record history) := by
  rw [record_cons, applies]
  induction e.sent with
  | nil => rfl
  | cons a sent ih =>
      simp only [List.map_cons, List.cons_append, lastApplied_cons, ih, List.any_cons, Sent.applies]
      by_cases h : (a.applied && a.value == p) = true <;> simp [h]

/-- A call that brings the output nowhere leaves the end of a hold where it was. -/
theorem holdOver_cons {e : ContactorEntry} (idle : ∀ p, e.applies p = false)
    (s : ContactorSettings) (history : List ContactorEntry) (began now : Nat) :
    HoldOver s (e :: history) began now ↔ HoldOver s history began now := by
  simp [HoldOver, holdTime, lastApplied_record_cons, idle]

end ContactorEntry

namespace Contactor

open ContactorEntry

/-- The entry of a call that makes one contactor of another. -/
def entryTo (c : Contactor) (now : Nat) (call : ContactorCall) (next : Contactor) :
    ContactorEntry :=
  ⟨now, call, c.state, next.state, next.output.since c.output⟩

/-- The entry of a call. -/
def entry (c : Contactor) (now : Nat) (call : ContactorCall) : ContactorEntry :=
  c.entryTo now call (c.perform now call).contactor

/-- **The runs of a contactor**: calls at times that do not go back, the latest first in the
    history, and the contactor after them. -/
inductive Runs (start : Contactor) : List ContactorEntry → Contactor → Prop where
  | start : Runs start [] start
  | call {history : List ContactorEntry} {c : Contactor} (now : Nat) (call : ContactorCall)
      (run : Runs start history c) (later : ∀ e ∈ history, e.time ≤ now) :
      Runs start (c.entry now call :: history) (c.perform now call).contactor

/-! ## 2. What a move sends -/

section Moves

variable {c c' : Contactor} {now : Nat} {call : ContactorCall}

/-- Closed is sent at the end of a hold and at no other time. -/
theorem sends_closed_iff (m : c.Moves now call c') :
    (c.entryTo now call c').sends .closed = true ↔
      call = .step none ∧ c.state = .reengageHold ∧
        ∃ finish, c.holdUntil = some finish ∧ finish ≤ now := by
  cases m with
  | opens commanded | failsToOpen commanded =>
      refine ⟨fun h => by simp [sends, entryTo] at h, fun ⟨step, holding, _⟩ => ?_⟩
      cases commanded with
      | forced => cases step
      | blocked engaged => rw [engaged] at holding; cases holding
      | again _ disengaging => rw [disengaging] at holding; cases holding
  | staysEngaged engaged => simp [sends, entryTo, engaged]
  | staysOpen disengaged | beginsHold disengaged => simp [sends, entryTo, disengaged]
  | breaksHold => simp [sends, entryTo]
  | waits holding early =>
      refine ⟨fun h => by simp [sends, entryTo] at h, fun ⟨_, _, finish, ends, ended⟩ => ?_⟩
      exact absurd ended (Nat.not_le_of_lt (early finish ends))
  | closes holding ends ended | failsToClose holding ends ended =>
      refine ⟨fun _ => ⟨rfl, holding, _, ends, ended⟩, fun _ => by simp [sends, entryTo]⟩

/-- Opened is sent by the calls that command open. -/
theorem sends_opened_iff (m : c.Moves now call c') :
    (c.entryTo now call c').sends .opened = true ↔ ∃ cause, c.CommandsOpen now call cause := by
  cases m with
  | opens commanded | failsToOpen commanded =>
      exact ⟨fun _ => ⟨_, commanded⟩, fun _ => by simp [sends, entryTo]⟩
  | staysEngaged engaged early =>
      refine ⟨fun h => by simp [sends, entryTo] at h, fun ⟨cause, commanded⟩ => ?_⟩
      cases commanded with
      | blocked _ due =>
          obtain ⟨noSafetyCause, notYet⟩ := early cause rfl
          simp [noSafetyCause, notYet] at due
      | again _ disengaging => rw [engaged] at disengaging; cases disengaging
  | staysOpen state | breaksHold state =>
      refine ⟨fun h => by simp [sends, entryTo] at h, fun ⟨cause, commanded⟩ => ?_⟩
      cases commanded with
      | blocked engaged => rw [state] at engaged; cases engaged
      | again _ disengaging => rw [state] at disengaging; cases disengaging
  | beginsHold state | waits state | closes state | failsToClose state =>
      refine ⟨fun h => by simp [sends, entryTo] at h, fun ⟨cause, commanded⟩ => ?_⟩
      cases commanded with
      | again _ disengaging => rw [state] at disengaging; cases disengaging

/-- An output that was closed leaves the contactor engaged. -/
theorem target_of_applies_closed (m : c.Moves now call c')
    (h : (c.entryTo now call c').applies .closed = true) : c'.state = .engaged := by
  cases m <;> simp_all [applies, entryTo, Attempt.applied]

/-- A call that brings the output nowhere opens nothing: what is closed stays closed. -/
theorem closed_of_not_opened (m : c.Moves now call c')
    (closed : c.state = .engaged ∨ c.state = .disengaging)
    (h : (c.entryTo now call c').applies .opened = false) :
    c'.state = .engaged ∨ c'.state = .disengaging := by
  cases m with
  | opens commanded applied => simp [applies, entryTo, Attempt.applied, applied] at h
  | failsToOpen => rcases closed with closed | closed <;> simp [closed, ContactorState.left]
  | closes => exact .inl rfl
  | staysEngaged | waits | failsToClose => exact closed
  | staysOpen state | beginsHold state | breaksHold state => rw [state] at closed; simp at closed

/-- **A call after which a hold is on began it or waited in it**, and brought the output nowhere. -/
theorem hold_cases (m : c.Moves now call c') (holding : c'.state = .reengageHold) :
    call = .step none ∧ (∀ p, (c.entryTo now call c').applies p = false) ∧
      (c.state = .disengaged ∧ c'.holdUntil = some (c.holdEnd now) ∨
        c.state = .reengageHold ∧ c'.holdUntil = c.holdUntil) := by
  cases m with
  | opens | breaksHold | closes => cases holding
  | failsToOpen => cases hs : c.state <;> simp [hs, ContactorState.left] at holding
  | staysEngaged state | staysOpen state => rw [holding] at state; cases state
  | beginsHold state =>
      exact ⟨rfl, fun p => by simp [applies, entryTo], .inl ⟨state, rfl⟩⟩
  | waits state => exact ⟨rfl, fun p => by simp [applies, entryTo], .inr ⟨state, rfl⟩⟩
  | failsToClose state ends ended refused =>
      refine ⟨rfl, fun p => ?_, .inr ⟨state, rfl⟩⟩
      simp [applies, entryTo, Attempt.applied, refused]

/-- The history knows of a hold as long as it is on. -/
theorem holdBegan_entryTo (holding : c'.state = .reengageHold) (history : List ContactorEntry) :
    holdBegan (c.entryTo now call c' :: history) =
      if c.state = .reengageHold then holdBegan history else some now := by
  simp [holdBegan, entryTo, holding]

end Moves

/-! ## 3. The machine keeps the times of its history -/

/-- The end of the hold that a contactor would begin is the one that its record asks for. -/
theorem holdEnd_le_iff {c : Contactor} {history : List ContactorEntry}
    (d : c.Dated (record history)) (began now : Nat) :
    c.holdEnd began ≤ now ↔ HoldOver c.settings history began now := by
  have ever : c.everEngaged = (lastApplied .closed (record history)).isSome :=
    d.ever.trans (congrArg Option.isSome d.closed)
  simp only [holdEnd, HoldOver, holdTime, d.opened, ever]
  cases lastApplied .opened (record history) with
  | none => simp
  | some t => simp only [Nat.max_le, Option.some.injEq, forall_eq']

/-- **What a contactor keeps over a run from a new one.** Its hold ends when the history says that
    the hold is over, and it began after all that was opened before. -/
structure Timed (s : ContactorSettings) (history : List ContactorEntry) (c : Contactor) : Prop where
  settings : c.settings = s
  steady : c.Steady
  dated : c.Dated (record history)
  hold : ∀ finish, c.holdUntil = some finish → ∃ began, holdBegan history = some began ∧
    ∀ now, finish ≤ now ↔ HoldOver s history began now
  before : c.state = .reengageHold → ∀ began, holdBegan history = some began →
    ∀ e ∈ history, e.applies .opened = true → e.time ≤ began

theorem timed_new (s : ContactorSettings) (output : Actuator Position) :
    Timed s [] { settings := s, output := output } where
  settings := rfl
  steady := steady_new s output
  dated := dated_new s output
  hold _ h := by cases h
  before _ _ h := by cases h

theorem timed_step {s : ContactorSettings} {history : List ContactorEntry} {c c' : Contactor}
    {now : Nat} {call : ContactorCall} (m : c.Moves now call c') (t : Timed s history c)
    (later : ∀ e ∈ history, e.time ≤ now) :
    Timed s (c.entryTo now call c' :: history) c' := by
  have steady := moves_steady m t.steady
  refine ⟨(moves_settings m).trans t.settings, steady, moves_dated m t.dated, ?_, ?_⟩
  · intro finish ends
    have holding : c'.state = .reengageHold := steady.hold_iff.1 (by simp [ends])
    obtain ⟨-, idle, ⟨state, begins⟩ | ⟨state, waits⟩⟩ := hold_cases m holding
    · refine ⟨now, by simp [holdBegan_entryTo holding, state], fun n => ?_⟩
      obtain rfl : c.holdEnd now = finish := Option.some.inj (begins.symm.trans ends)
      rw [holdEnd_le_iff t.dated, t.settings, holdOver_cons idle]
    · obtain ⟨began, hb, ended⟩ := t.hold finish (waits.symm.trans ends)
      refine ⟨began, by simp [holdBegan_entryTo holding, state, hb], fun n => ?_⟩
      rw [ended n, holdOver_cons idle]
  · intro holding began hb e he opened
    obtain ⟨-, idle, ⟨state, -⟩ | ⟨state, -⟩⟩ := hold_cases m holding
    · obtain rfl : now = began := by
        simpa [holdBegan_entryTo holding, state] using hb
      rcases List.mem_cons.1 he with rfl | he
      · exact Nat.le_refl _
      · exact later e he
    · rw [holdBegan_entryTo holding, if_pos state] at hb
      rcases List.mem_cons.1 he with rfl | he
      · rw [idle] at opened; cases opened
      · exact t.before state began hb e he opened

/-- **On every run from a new contactor the machine keeps the times of its history.** -/
theorem timed_of_runs {s : ContactorSettings} {output : Actuator Position}
    {history : List ContactorEntry} {c : Contactor}
    (run : Runs { settings := s, output := output } history c) : Timed s history c := by
  induction run with
  | start => exact timed_new s output
  | call now call _ later ih => exact timed_step (perform_moves _ now call) ih later

/-! ## 4. Facts about whole histories -/

section Histories

variable {start c : Contactor} {history : List ContactorEntry}

/-- Since the step that began the hold no call was blocked and none forced open. -/
theorem calm_of_holdBegan (run : Runs start history c) {began : Nat}
    (h : holdBegan history = some began) :
    ∃ later first earlier, history = later ++ first :: earlier ∧ first.time = began ∧
      first.call = .step none ∧ first.source = .disengaged ∧
      ∀ e ∈ later, e.call = .step none ∧ e.source = .reengageHold := by
  induction run with
  | start => cases h
  | @call history c now call run _ ih =>
      have m := perform_moves c now call
      have holding : (c.perform now call).contactor.state = .reengageHold :=
        Decidable.byContradiction fun other => by simp [holdBegan, entry, entryTo, other] at h
      obtain ⟨rfl, -, ⟨state, -⟩ | ⟨state, -⟩⟩ := hold_cases m holding
      · refine ⟨[], _, history, rfl, ?_, rfl, state, by simp⟩
        have time : now = began := by simpa [entry, holdBegan_entryTo holding, state] using h
        exact time
      · rw [entry, holdBegan_entryTo holding, if_pos state] at h
        obtain ⟨later, first, earlier, rfl, time, step, source, calm⟩ := ih h
        refine ⟨_ :: later, first, earlier, rfl, time, step, source, fun e he => ?_⟩
        rcases List.mem_cons.1 he with rfl | he
        · exact ⟨rfl, state⟩
        · exact calm e he

/-- The last application of a position is not earlier than any other. -/
theorem le_lastApplied (run : Runs start history c) {p : Position} {e : ContactorEntry}
    (he : e ∈ history) (applies : e.applies p = true) :
    ∃ t, lastApplied p (record history) = some t ∧ e.time ≤ t := by
  induction run with
  | start => cases he
  | call now call _ later ih =>
      rw [lastApplied_record_cons]
      split
      · refine ⟨_, rfl, ?_⟩
        rcases List.mem_cons.1 he with rfl | he
        · exact Nat.le_refl _
        · exact later e he
      · next other =>
          rcases List.mem_cons.1 he with rfl | he
          · exact absurd applies other
          · exact ih he

/-- An output that was closed stays closed until it is opened. -/
theorem closed_until_opened {later earlier : List ContactorEntry} {e : ContactorEntry}
    (run : Runs start (later ++ e :: earlier) c) (closed : e.applies .closed = true)
    (unopened : ∀ x ∈ later, x.applies .opened = false) :
    c.state = .engaged ∨ c.state = .disengaging := by
  induction later generalizing c with
  | nil =>
      cases run with
      | call now call => exact .inl (target_of_applies_closed (perform_moves _ now call) closed)
  | cons x later ih =>
      cases run with
      | call now call run =>
          have before := ih run fun y hy => unopened y (List.mem_cons_of_mem _ hy)
          exact closed_of_not_opened (perform_moves _ now call) before
            (unopened _ List.mem_cons_self)

/-- What is on the record was sent in one of the calls. -/
theorem exists_of_mem_record {x : Sent} (h : x ∈ record history) :
    ∃ e ∈ history, e.time = x.time := by
  simp only [record, List.mem_flatMap, List.mem_map] at h
  obtain ⟨e, he, a, -, rfl⟩ := h
  exact ⟨e, he, rfl⟩

end Histories

/-! ## 5. Closing and opening -/

section Due

variable {s : ContactorSettings} {history : List ContactorEntry} {c : Contactor} {now : Nat}

/-- In a hold, the machine finds the hold over exactly when the history says so. -/
theorem finish_le_iff (t : Timed s history c) (holding : c.state = .reengageHold) :
    (∃ finish, c.holdUntil = some finish ∧ finish ≤ now) ↔
      ∃ began, holdBegan history = some began ∧ HoldOver s history began now := by
  obtain ⟨finish, ends⟩ := Option.isSome_iff_exists.1 (t.steady.hold_iff.2 holding)
  obtain ⟨began, hb, ended⟩ := t.hold finish ends
  simp [ends, hb, ended now]

/-- An engaged contactor has been closed for a time, which the record knows. -/
theorem elapsed_iff (t : Timed s history c) (engaged : c.state = .engaged)
    (later : ∀ e ∈ history, e.time ≤ now) :
    elapsed c.lastClosed c.settings.minOn now = true ↔
      ∃ since, lastApplied .closed (record history) = some since ∧ since + s.minOn ≤ now := by
  obtain ⟨since, closed⟩ := Option.isSome_iff_exists.1
    (t.dated.engaged (t.steady.closed_iff.2 (.inl engaged)))
  have last : lastApplied .closed (record history) = some since := t.dated.closed.symm.trans closed
  have past : since ≤ now := by
    obtain ⟨x, hx, -, rfl⟩ := exists_of_lastApplied last
    obtain ⟨e, he, time⟩ := exists_of_mem_record hx
    exact time ▸ later e he
  simp only [elapsed, closed, Option.all_some, decide_eq_true_eq, t.settings, last,
    Option.some.injEq, exists_eq_left']
  omega

/-- An engaged contactor that is blocked opens for a safety cause, or once it has been closed long
    enough. -/
theorem commandsOpen_iff (t : Timed s history c) (engaged : c.state = .engaged)
    (later : ∀ e ∈ history, e.time ≤ now) (blocking : Option Cause) :
    (∃ cause, c.CommandsOpen now (.step blocking) cause) ↔
      ∃ cause, blocking = some cause ∧ (cause.isSafety = true ∨
        ∃ since, lastApplied .closed (record history) = some since ∧ since + s.minOn ≤ now) := by
  rw [← elapsed_iff t engaged later]
  constructor
  · rintro ⟨cause, commanded⟩
    cases commanded with
    | blocked _ due => exact ⟨cause, rfl, due⟩
    | again _ disengaging => rw [engaged] at disengaging; cases disengaging
  · rintro ⟨cause, rfl, due⟩
    exact ⟨cause, .blocked engaged due⟩

end Due

/-- **The exact times of a contactor.** Over any calls at times that do not go back, whichever
    commands are refused, the latest call `e`
    * sends closed exactly when it is a step without a block in a hold that is over, and since the
      step that began the hold nothing blocked and nothing forced open;
    * closes only a hold's time and `minOff` after everything that was opened before, and not twice
      without the output being opened in between;
    * as a step of an engaged contactor, sends open exactly when it is blocked by a safety cause, or
      by any other once `minOn` has passed since the output was closed last. -/
theorem closes_exactly_when_due (s : ContactorSettings) (output : Actuator Position)
    {e : ContactorEntry} {history : List ContactorEntry} {c : Contactor}
    (run : Runs { settings := s, output := output } (e :: history) c) :
    (e.sends .closed = true ↔ e.call = .step none ∧ e.source = .reengageHold ∧
      ∃ began, holdBegan history = some began ∧ HoldOver s history began e.time) ∧
    (∀ began, holdBegan history = some began →
      ∃ later first earlier, history = later ++ first :: earlier ∧ first.time = began ∧
        first.call = .step none ∧ first.source = .disengaged ∧
        ∀ x ∈ later, x.call = .step none ∧ x.source = .reengageHold) ∧
    (e.applies .closed = true →
      (∀ x ∈ history, x.applies .opened = true →
        x.time + holdTime s history ≤ e.time ∧ x.time + s.minOff ≤ e.time) ∧
      ∀ later x earlier, history = later ++ x :: earlier → x.applies .closed = true →
        ∃ y ∈ later, y.applies .opened = true) ∧
    (e.source = .engaged → ∀ blocking, e.call = .step blocking →
      (e.sends .opened = true ↔ ∃ cause, blocking = some cause ∧ (cause.isSafety = true ∨
        ∃ since, lastApplied .closed (record history) = some since ∧
          since + s.minOn ≤ e.time))) := by
  cases run with
  | @call _ c now call run later =>
      have t := timed_of_runs run
      have m := perform_moves c now call
      have closing : (c.entry now call).sends .closed = true ↔
          call = .step none ∧ c.state = .reengageHold ∧
            ∃ began, holdBegan history = some began ∧ HoldOver s history began now := by
        rw [entry, sends_closed_iff m]
        exact and_congr_right fun _ => and_congr_right fun holding => finish_le_iff t holding
      refine ⟨closing, fun began => calm_of_holdBegan run, fun applies => ?_, fun engaged => ?_⟩
      · obtain ⟨-, holding, began, hb, ended, off⟩ := closing.1 (sends_of_applies applies)
        refine ⟨fun x hx opened => ?_, fun later x earlier split closed => ?_⟩
        · have first : x.time ≤ began := t.before holding began hb x hx opened
          obtain ⟨last, hlast, le⟩ := le_lastApplied run hx opened
          have apart : last + s.minOff ≤ now := off last hlast
          have held : began + holdTime s history ≤ now := ended
          show x.time + _ ≤ now ∧ x.time + _ ≤ now
          omega
        · subst split
          refine Decidable.byContradiction fun unopened => ?_
          have still := closed_until_opened run closed fun y hy => by
            simpa using fun opened => unopened ⟨y, hy, opened⟩
          rw [holding] at still
          simp at still
      · rintro blocking rfl
        rw [entry, sends_opened_iff m]
        exact commandsOpen_iff t engaged later blocking

/-- Opened and held from 0 on, refused to close at 300, and closed at 310. -/
theorem closes_after_refusal :
    ∃ e history c, Runs
        { settings := { hold := 1000, firstHold := 200, minOff := 300 }
          output := { plan := fun k => if k = 1 then some (.device .linkDown) else none } }
        (e :: history) c ∧
      e.applies .closed = true ∧ e.time = 310 ∧ e.source = .reengageHold ∧
      ∀ x ∈ history, x.applies .opened = true → x.time + 200 ≤ 310 ∧ x.time + 300 ≤ 310 := by
  have opened : Runs
      { settings := { hold := 1000, firstHold := 200, minOff := 300 }
        output := { plan := fun k => if k = 1 then some (.device .linkDown) else none } } _ _ :=
    .call 0 (.forceOpen .startup) .start (by simp)
  have held := opened.call 0 (.step none) (by simp [entry, entryTo])
  have refused := held.call 300 (.step none) (by simp [entry, entryTo])
  have run := refused.call 310 (.step none) (by simp [entry, entryTo])
  have timing := closes_exactly_when_due _ _ run
  have closing := timing.2.2.1 (by decide)
  exact ⟨_, _, _, run, by decide, by decide, by decide, closing.1⟩

end Contactor

end PackGuard
