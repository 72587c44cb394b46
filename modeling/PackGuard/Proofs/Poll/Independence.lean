import PackGuard.Proofs.Poll.Slots

/-!
# Cadences are independent

Two stations agree on a cadence if its tracks, its counter and the answers to its channels are the
same (`Agree`). A cycle of another cadence is not seen there (`Agree.runCycle_other`), and a cycle of
the cadence itself does the same on both sides, whenever it runs (`Agree.runCycle_same`). So what a
cadence comes to depends on the number of its own cycles alone (`agree_runPlan`).

* `AnswersByCount`: a link whose answers depend on how often the channel was read. The simulated
  sensor and the scripted link are such links.
* `runSteps_keeps`: what each of some steps keeps, they keep together.
* `cadences_independent`: **the order of cycles does not matter, each keeps to its own slots, and what
  is monitored is polled by one cadence.**
-/

namespace PackGuard

variable {σ : Type} [SensorLink σ]

/-! ## 1. Links -/

/-- A link after channels were read, one after the other. -/
def afterReadings (link : σ) (channels : List Channel) : σ :=
  channels.foldl (fun link ch => (SensorLink.read link ch).2) link

/-- What a link answers when a channel is read after others. -/
def answerAfter (link : σ) (earlier : List Channel) (ch : Channel) : Except LinkFault Int :=
  (SensorLink.read (afterReadings link earlier) ch).1

/-- **A link whose answers for a channel depend only on how often that channel was read.** -/
def AnswersByCount (link : σ) : Prop :=
  ∀ earlier earlier' ch, earlier.count ch = earlier'.count ch →
    answerAfter link earlier ch = answerAfter link earlier' ch

/-- The simulated sensor does not look at how often it was read. -/
theorem answersByCount_simulated (s : SimulatedSensor) : AnswersByCount s := by
  have same (earlier : List Channel) (ch : Channel) : answerAfter s earlier ch = s.answer ch := by
    induction earlier generalizing s with
    | nil => rfl
    | cons x earlier ih => exact ih _
  intro earlier earlier' ch _
  rw [same, same]

/-- The scripts with that of one channel replaced. -/
theorem lookup_replaced (answers : List (Channel × List (Except LinkFault Int))) (x ch : Channel)
    (rest : List (Except LinkFault Int)) :
    (answers.map fun e => if e.1 == x then (x, rest) else e).lookup ch =
      if ch = x then (answers.lookup ch).map fun _ => rest else answers.lookup ch := by
  induction answers with
  | nil => simp
  | cons e answers ih =>
      obtain ⟨y, script⟩ := e
      by_cases hy : y = x <;> by_cases hc : ch = y <;> grind

theorem lookup_read (s : ScriptedLink) (x ch : Channel) :
    (s.read x).2.answers.lookup ch =
      if ch = x then (s.answers.lookup ch).map List.tail else s.answers.lookup ch := by
  unfold ScriptedLink.read
  split
  · next a rest found =>
      rw [lookup_replaced]
      by_cases same : ch = x
      · subst same
        simp [found]
      · simp [same]
  · next missing =>
      by_cases same : ch = x
      · subst same
        cases found : s.answers.lookup ch with
        | none => simp
        | some script =>
            cases script with
            | nil => simp
            | cons a rest => exact absurd found (missing a rest)
      · simp [same]

/-- What is left of the script of a channel after readings. -/
theorem lookup_afterReadings (s : ScriptedLink) (earlier : List Channel) (ch : Channel) :
    (afterReadings s earlier).answers.lookup ch =
      (s.answers.lookup ch).map (List.drop (earlier.count ch)) := by
  induction earlier generalizing s with
  | nil => cases found : s.answers.lookup ch <;> simp [afterReadings, found]
  | cons x earlier ih =>
      show (afterReadings (s.read x).2 earlier).answers.lookup ch = _
      rw [ih, lookup_read]
      by_cases same : ch = x
      · subst same
        rw [if_pos rfl, List.count_cons_self, Option.map_map]
        congr 1
        funext script
        simp
      · rw [if_neg same, List.count_cons_of_ne (Ne.symm same)]

/-- The scripted link takes the next answer in the script of the channel. -/
theorem answersByCount_scripted (s : ScriptedLink) : AnswersByCount s := by
  intro earlier earlier' ch same
  have left := lookup_afterReadings s earlier ch
  rw [same, ← lookup_afterReadings] at left
  show ((afterReadings s earlier).read ch).1 = ((afterReadings s earlier').read ch).1
  unfold ScriptedLink.read
  rw [left]
  cases (afterReadings s earlier').answers.lookup ch with
  | none => rfl
  | some script => cases script <;> rfl

/-! ## 2. What one step keeps -/

/-- A step that belongs to a cycle of a cadence. -/
def PollStep.Of (c : Cadence) : PollStep → Prop
  | read slot => slot.cadence = c
  | publish slot => slot.cadence = c
  | observe | finish | pause _ => True

/-- Whether a step publishes. -/
def PollStep.publishes : PollStep → Bool
  | publish _ => true
  | _ => false

namespace PollRun

variable {s : PackSettings} {r : PollRun} {w : Station σ} {slot : Slot} {step : PollStep}

/-- Publishing changes one track, and not its channel. -/
theorem exists_publish (r : PollRun) (p : Pack) (slot : Slot) :
    ∃ f : Track → Track, (∀ t, (f t).channel = t.channel) ∧
      (r.publish p slot).2 = p.modifyTrack slot f := by
  simp only [publish]
  split
  · next raw _ => exact ⟨fun t => t.applyRaw raw, fun _ => rfl, rfl⟩
  · exact ⟨Track.recordFailure, fun _ => rfl, rfl⟩

/-- Reading changes no pack. -/
theorem pack_take (r : PollRun) (w : Station σ) (slot : Slot) :
    (r.take w slot).2.pack = w.pack := by
  unfold take
  cases w.pack.track? slot <;> rfl

theorem perform_lasting (r : PollRun) (w : Station σ) (now : Nat) (step : PollStep) :
    (r.perform w now step).2.pack.lasting = w.pack.lasting := by
  cases step with
  | read slot => exact congrArg Pack.lasting (pack_take r w slot)
  | publish slot =>
      obtain ⟨f, -, e⟩ := exists_publish r w.pack slot
      exact (congrArg Pack.lasting e).trans (Pack.lasting_modifyTrack ..)
  | observe | finish | pause => rfl

theorem perform_arises (arises : w.pack.Arises s) (now : Nat) (step : PollStep) :
    (r.perform w now step).2.pack.Arises s := by
  cases step with
  | read slot => exact (pack_take r w slot).symm ▸ arises
  | publish slot =>
      obtain ⟨f, keeps, e⟩ := exists_publish r w.pack slot
      exact (show (r.perform w now (.publish slot)).2.pack = _ from e) ▸ arises.modifyTrack slot keeps
  | observe => exact arises.energy _
  | finish => exact arises.finishCycle _
  | pause ms => exact arises

/-- **A step changes no track but the one it publishes.** -/
theorem perform_track? (quiet : step ≠ .publish slot) (r : PollRun) (w : Station σ) (now : Nat) :
    (r.perform w now step).2.pack.track? slot = w.pack.track? slot := by
  cases step with
  | read other => exact congrArg (Pack.track? · slot) (pack_take r w other)
  | publish other =>
      obtain ⟨f, -, e⟩ := exists_publish r w.pack other
      have different : slot ≠ other := by
        rintro rfl
        exact quiet rfl
      refine (congrArg (Pack.track? · slot) e).trans ?_
      rw [Pack.track?_modifyTrack, if_neg different]
  | observe | finish | pause => cases slot <;> rfl

/-- **A step leaves the energy account alone, unless it takes a sample.** -/
theorem perform_energy (quiet : step ≠ .observe) (r : PollRun) (w : Station σ) (now : Nat) :
    (r.perform w now step).2.pack.energy = w.pack.energy := by
  cases step with
  | read slot => exact congrArg Pack.energy (pack_take r w slot)
  | publish slot =>
      obtain ⟨f, -, e⟩ := exists_publish r w.pack slot
      exact (congrArg Pack.energy e).trans (Pack.energy_modifyTrack ..)
  | observe => exact absurd rfl quiet
  | finish | pause => rfl

/-- Each publication succeeds or fails. -/
theorem perform_outcomes (r : PollRun) (w : Station σ) (now : Nat) (step : PollStep) :
    (r.perform w now step).1.published + (r.perform w now step).1.failed =
      r.published + r.failed + if step.publishes then 1 else 0 := by
  cases step with
  | read slot =>
      simp only [perform, take]
      cases w.pack.track? slot <;> rfl
  | publish slot =>
      simp only [perform, publish]
      split <;> simp only [PollStep.publishes, if_true] <;> omega
  | observe | finish | pause => rfl

end PollRun

/-! ## 3. What a cycle keeps -/

/-- **What each of some steps keeps, they keep together.** -/
theorem runSteps_keeps {P : Station σ → Prop} {steps : List PollStep}
    (keeps : ∀ step ∈ steps, ∀ r w now, P w → P (PollRun.perform r w now step).2) {w : Station σ}
    (h : P w) (now : Nat) (r : PollRun) : P (runSteps steps now r w).2.2 := by
  induction steps generalizing now r w with
  | nil => exact h
  | cons step rest ih =>
      rw [List.forall_mem_cons] at keeps
      obtain ⟨later, e⟩ := runSteps_cons step rest now r w
      rw [e]
      exact ih keeps.2 (keeps.1 r w now h) later _

theorem runSteps_outcomes (steps : List PollStep) (now : Nat) (r : PollRun) (w : Station σ) :
    (runSteps steps now r w).2.1.published + (runSteps steps now r w).2.1.failed =
      r.published + r.failed + steps.countP PollStep.publishes := by
  induction steps generalizing now r w with
  | nil => rfl
  | cons step rest ih =>
      obtain ⟨later, e⟩ := runSteps_cons step rest now r w
      rw [e, ih, PollRun.perform_outcomes, List.countP_cons]
      omega

/-- **The steps of a cycle**: its slots are read and published, a sample is taken for the pack, the
    cycle is counted, and time passes. -/
theorem mem_cycleSteps {s : PollSettings} {slots : List Slot} {c : Cadence} {step : PollStep}
    (h : step ∈ cycleSteps s slots c) :
    (∃ slot ∈ slots, step = .read slot ∨ step = .publish slot) ∨ c = .pack ∧ step = .observe ∨
      step = .finish ∨ ∃ ms, step = .pause ms := by
  have pause {ms : Nat} (h : step ∈ pauseSteps ms) : ∃ ms, step = .pause ms := by
    unfold pauseSteps at h
    split at h
    · cases h
    · exact ⟨ms, List.mem_singleton.1 h⟩
  simp only [cycleSteps, List.mem_append, List.mem_flatMap, List.mem_singleton] at h
  rcases h with ((⟨slot, hs, reading | rfl⟩ | observing) | rfl) | pausing
  · rcases List.mem_cons.1 reading with rfl | again
    · exact .inl ⟨slot, hs, .inl rfl⟩
    · obtain ⟨piece, hp, again⟩ := List.mem_flatten.1 again
      obtain rfl := List.eq_of_mem_replicate hp
      rcases List.mem_append.1 again with pausing | read
      · exact .inr (.inr (.inr (pause pausing)))
      · exact .inl ⟨slot, hs, .inl (List.mem_singleton.1 read)⟩
  · exact .inl ⟨slot, hs, .inr rfl⟩
  · by_cases pack : c = .pack
    · subst pack
      exact .inr (.inl ⟨rfl, List.mem_singleton.1 observing⟩)
    · rw [if_neg (by simpa using pack)] at observing
      cases observing
  · exact .inr (.inr (.inl rfl))
  · exact .inr (.inr (.inr (pause pausing)))

/-- A cycle publishes each of its slots once. -/
theorem countP_cycleSteps (s : PollSettings) (slots : List Slot) (c : Cadence) :
    (cycleSteps s slots c).countP PollStep.publishes = slots.length := by
  have pause (ms : Nat) : (pauseSteps ms).countP PollStep.publishes = 0 := by
    unfold pauseSteps
    split <;> rfl
  have reading (slot : Slot) : (readSteps s slot).countP PollStep.publishes = 0 := by
    simp [readSteps, List.countP_flatten, pause, PollStep.publishes]
  have publishing : (slots.flatMap fun slot => readSteps s slot ++ [.publish slot]).countP
      PollStep.publishes = slots.length := by
    induction slots with
    | nil => rfl
    | cons slot slots ih =>
        rw [List.flatMap_cons, List.countP_append, ih, List.countP_append, reading,
          List.length_cons, Nat.add_comm]
        rfl
  have observing : (if c == .pack then [PollStep.observe] else []).countP PollStep.publishes = 0 := by
    split <;> rfl
  rw [cycleSteps, List.countP_append, List.countP_append, List.countP_append, publishing, observing,
    pause]
  rfl

section Cycle

variable {w : Station σ} {c : Cadence}

theorem of_mem_cycleSteps {s : PollSettings} {p : Pack} {step : PollStep}
    (h : step ∈ cycleSteps s (p.slots c) c) : step.Of c := by
  rcases mem_cycleSteps h with ⟨slot, hs, rfl | rfl⟩ | ⟨-, rfl⟩ | rfl | ⟨ms, rfl⟩
  · exact Pack.cadence_of_mem_slots hs
  · exact Pack.cadence_of_mem_slots hs
  all_goals trivial

/-- **A cycle changes the tracks in its own slots alone.** -/
theorem runCycle_track? (s : PollSettings) (now : Nat) {slot : Slot} (free : slot ∉ w.pack.slots c) :
    (runCycle s c now w).2.2.pack.track? slot = w.pack.track? slot := by
  refine runSteps_keeps (P := fun v => v.pack.track? slot = w.pack.track? slot)
    (fun step h r v now same => ?_) rfl now _
  refine (PollRun.perform_track? ?_ r v now).trans same
  rintro rfl
  rcases mem_cycleSteps h with ⟨other, hs, e | e⟩ | ⟨-, e⟩ | e | ⟨ms, e⟩ <;> cases e
  exact free hs

theorem runCycle_lasting (s : PollSettings) (now : Nat) :
    (runCycle s c now w).2.2.pack.lasting = w.pack.lasting :=
  runSteps_keeps (P := fun v => v.pack.lasting = w.pack.lasting)
    (fun step _ r v now same => (PollRun.perform_lasting r v now step).trans same) rfl now _

/-- **Only a cycle of the pack touches the energy account.** -/
theorem runCycle_energy (s : PollSettings) (now : Nat) (other : c ≠ .pack) :
    (runCycle s c now w).2.2.pack.energy = w.pack.energy := by
  refine runSteps_keeps (P := fun v => v.pack.energy = w.pack.energy)
    (fun step h r v now same => ?_) rfl now _
  refine (PollRun.perform_energy ?_ r v now).trans same
  rintro rfl
  rcases mem_cycleSteps h with ⟨slot, hs, e | e⟩ | ⟨pack, -⟩ | e | ⟨ms, e⟩
  case inr.inl => exact other pack
  all_goals cases e

/-- **Each channel of a cycle is published or fails.** -/
theorem runCycle_outcomes (s : PollSettings) (c : Cadence) (now : Nat) (w : Station σ) :
    (runCycle s c now w).1.published + (runCycle s c now w).1.failed =
      (w.pack.channels c).length := by
  rw [Pack.length_channels, ← countP_cycleSteps s (w.pack.slots c) c]
  exact (runSteps_outcomes _ now _ w).trans (by simp)

theorem runCycle_arises {settings : PackSettings} (s : PollSettings) (now : Nat)
    (arises : w.pack.Arises settings) : (runCycle s c now w).2.2.pack.Arises settings :=
  runSteps_keeps (P := fun v => v.pack.Arises settings)
    (fun step _ _ _ now arises => PollRun.perform_arises arises now step) arises now _

end Cycle

/-! ## 4. Agreement on a cadence -/

/-- **Two links that answer the channels of a cadence alike** from now on, whatever is read of others
    between. -/
def AnswersAlike (c : Cadence) (link link' : σ) : Prop :=
  ∀ (earlier earlier' : List Channel) (ch : Channel), ch.cadence = c →
    earlier.count ch = earlier'.count ch → answerAfter link earlier ch = answerAfter link' earlier' ch

theorem AnswersByCount.alike {link : σ} (h : AnswersByCount link) (c : Cadence) :
    AnswersAlike c link link :=
  fun earlier earlier' ch _ same => h earlier earlier' ch same

section AnswersAlike

variable {c : Cadence} {link link' : σ} {ch : Channel}

/-- A reading of another cadence's channel is not seen. -/
theorem AnswersAlike.read_other (h : AnswersAlike c link link') (other : ch.cadence ≠ c) :
    AnswersAlike c (SensorLink.read link ch).2 link' := by
  intro earlier earlier' own hc same
  have different : ch ≠ own := by
    rintro rfl
    exact other hc
  refine h (ch :: earlier) earlier' own hc ?_
  rwa [List.count_cons_of_ne different]

/-- A reading of the cadence's own channel gives the same answer, and leaves the links alike. -/
theorem AnswersAlike.read_same (h : AnswersAlike c link link') (own : ch.cadence = c) :
    (SensorLink.read link ch).1 = (SensorLink.read link' ch).1 ∧
      AnswersAlike c (SensorLink.read link ch).2 (SensorLink.read link' ch).2 := by
  refine ⟨h [] [] ch own rfl, fun earlier earlier' next hc same => ?_⟩
  refine h (ch :: earlier) (ch :: earlier') next hc ?_
  rw [List.count_cons, List.count_cons, same]

end AnswersAlike

/-- **Two stations that cannot be told apart by a cadence**: what lasts of the cells, the tracks and
    the counter of the cadence, and the answers to its channels from now on. -/
structure Agree (c : Cadence) (w v : Station σ) : Prop where
  lasting : w.pack.lasting = v.pack.lasting
  tracks : ∀ slot : Slot, slot.cadence = c → w.pack.track? slot = v.pack.track? slot
  cycles : w.pack.cycles.of c = v.pack.cycles.of c
  answers : AnswersAlike c w.link v.link

theorem Agree.refl {w : Station σ} (counted : AnswersByCount w.link) (c : Cadence) : Agree c w w where
  lasting := rfl
  tracks _ _ := rfl
  cycles := rfl
  answers := counted.alike c

theorem Cycles.of_bump (cycles : Cycles) {c d : Cadence} (other : c ≠ d) :
    (cycles.bump d).of c = cycles.of c := by
  cases c <;> cases d <;> first | rfl | exact absurd rfl other

theorem Cycles.of_bump_self (cycles : Cycles) (c : Cadence) :
    (cycles.bump c).of c = cycles.of c + 1 := by
  cases c <;> rfl

section Agree

variable {settings : PackSettings} {w v : Station σ} {r : PollRun} {c : Cadence} {step : PollStep}

/-- **A step of another cadence is not seen.** -/
theorem Agree.perform_other (h : Agree c w v) (arises : w.pack.Arises settings)
    (own : step.Of r.cadence) (other : c ≠ r.cadence) (now : Nat) : Agree c (r.perform w now step).2 v := by
  have quiet (slot : Slot) (hs : slot.cadence = c) : step ≠ .publish slot := by
    rintro rfl
    exact other (hs.symm.trans own)
  refine {
    lasting := (PollRun.perform_lasting r w now step).trans h.lasting
    tracks := fun slot hs =>
      (PollRun.perform_track? (quiet slot hs) r w now).trans (h.tracks slot hs)
    cycles := ?_
    answers := ?_ }
  · rw [PollRun.perform_cycles, PollRun.counted]
    split
    · rw [Cycles.of_bump _ other, h.cycles]
    · exact h.cycles
  · cases step with
    | read slot =>
        simp only [PollRun.perform, PollRun.take]
        cases polled : w.pack.track? slot with
        | none => exact h.answers
        | some t =>
            refine h.answers.read_other fun hc => other ?_
            exact hc.symm.trans ((arises.wired.cadence polled).trans own)
    | publish | observe | finish | pause => exact h.answers

/-- Where the tracks of a slot are the same, publishing does the same to both. -/
theorem PollRun.publish_congr (r : PollRun) {p q : Pack} {slot : Slot}
    (same : p.track? slot = q.track? slot) :
    ∃ f, (r.publish p slot).2 = p.modifyTrack slot f ∧ (r.publish q slot).2 = q.modifyTrack slot f ∧
      (r.publish p slot).1 = (r.publish q slot).1 := by
  simp only [publish, same]
  split
  · next raw _ => exact ⟨fun t => t.applyRaw raw, rfl, rfl, rfl⟩
  · exact ⟨Track.recordFailure, rfl, rfl, rfl⟩

/-- A reading of the cadence itself takes the same answer on both sides. -/
theorem Agree.take_same (h : Agree r.cadence w v) (arises : w.pack.Arises settings) {slot : Slot}
    (own : slot.cadence = r.cadence) :
    (r.take w slot).1 = (r.take v slot).1 ∧
      AnswersAlike r.cadence (r.take w slot).2.link (r.take v slot).2.link := by
  have same := h.tracks slot own
  cases polled : v.pack.track? slot with
  | none =>
      simp only [PollRun.take, same, polled]
      exact ⟨trivial, h.answers⟩
  | some t =>
      have hc := (arises.wired.cadence (same.trans polled)).trans own
      obtain ⟨answer, alike⟩ := h.answers.read_same hc
      simp only [PollRun.take, same, polled, answer]
      exact ⟨trivial, alike⟩

/-- **A step of the cadence itself does the same on both sides**, whenever it is taken. -/
theorem Agree.perform_same (h : Agree r.cadence w v) (arises : w.pack.Arises settings)
    (own : step.Of r.cadence) (now now' : Nat) :
    (r.perform w now step).1 = (r.perform v now' step).1 ∧
      Agree r.cadence (r.perform w now step).2 (r.perform v now' step).2 := by
  have lasting := ((PollRun.perform_lasting r w now step).trans h.lasting).trans
    (PollRun.perform_lasting r v now' step).symm
  have cycles : (r.perform w now step).2.pack.cycles.of r.cadence =
      (r.perform v now' step).2.pack.cycles.of r.cadence := by
    rw [PollRun.perform_cycles, PollRun.perform_cycles, PollRun.counted, PollRun.counted]
    split
    · rw [Cycles.of_bump_self, Cycles.of_bump_self, h.cycles]
    · exact h.cycles
  -- a step that publishes nothing leaves all tracks as they are
  have tracks (quiet : ∀ slot, step ≠ .publish slot) (slot : Slot) (hs : slot.cadence = r.cadence) :
      (r.perform w now step).2.pack.track? slot = (r.perform v now' step).2.pack.track? slot := by
    rw [PollRun.perform_track? (quiet slot), PollRun.perform_track? (quiet slot), h.tracks slot hs]
  cases step with
  | read slot =>
      obtain ⟨same, alike⟩ := h.take_same arises own
      exact ⟨same, lasting, tracks (by simp), cycles, alike⟩
  | publish slot =>
      obtain ⟨f, e, e', same⟩ := r.publish_congr (h.tracks slot own)
      refine ⟨same, lasting, fun other hs => ?_, cycles, h.answers⟩
      show (r.publish w.pack slot).2.track? other = (r.publish v.pack slot).2.track? other
      rw [e, e', Pack.track?_modifyTrack, Pack.track?_modifyTrack, h.tracks other hs]
  | observe => exact ⟨rfl, lasting, tracks (by simp), cycles, h.answers⟩
  | finish => exact ⟨rfl, lasting, tracks (by simp), cycles, h.answers⟩
  | pause ms => exact ⟨rfl, h⟩

theorem Agree.runSteps_other (h : Agree c w v) (arises : w.pack.Arises settings)
    (other : c ≠ r.cadence) {steps : List PollStep} (own : ∀ step ∈ steps, step.Of r.cadence) (now : Nat) :
    Agree c (runSteps steps now r w).2.2 v := by
  induction steps generalizing now r w with
  | nil => exact h
  | cons step rest ih =>
      rw [List.forall_mem_cons] at own
      obtain ⟨later, e⟩ := runSteps_cons step rest now r w
      rw [e]
      have arises' := PollRun.perform_arises (r := r) arises now step
      refine ih (h.perform_other arises own.1 other now) arises' ?_ ?_ _
      · rwa [PollRun.perform_cadence]
      · rw [PollRun.perform_cadence]
        exact own.2

theorem Agree.runSteps_same (h : Agree r.cadence w v) (arises : w.pack.Arises settings)
    {steps : List PollStep} (own : ∀ step ∈ steps, step.Of r.cadence) (now now' : Nat) :
    Agree r.cadence (runSteps steps now r w).2.2 (runSteps steps now' r v).2.2 := by
  induction steps generalizing now now' r w v with
  | nil => exact h
  | cons step rest ih =>
      rw [List.forall_mem_cons] at own
      obtain ⟨later, e⟩ := runSteps_cons step rest now r w
      obtain ⟨later', e'⟩ := runSteps_cons step rest now' r v
      obtain ⟨same, agree⟩ := h.perform_same arises own.1 now now'
      rw [e, e', ← same]
      have unchanged := PollRun.perform_cadence r w now step
      rw [← unchanged] at agree own ⊢
      exact ih agree (PollRun.perform_arises arises now step) own.2 later later'

/-- **A cycle of another cadence is not seen.** -/
theorem Agree.runCycle_other {d : Cadence} (h : Agree c w v) (arises : w.pack.Arises settings)
    (other : c ≠ d) (s : PollSettings) (now : Nat) : Agree c (runCycle s d now w).2.2 v :=
  h.runSteps_other (r := { cadence := d }) arises other (fun _ => of_mem_cycleSteps) now

/-- **A cycle of the cadence itself does the same on both sides**, whenever it runs. -/
theorem Agree.runCycle_same (h : Agree c w v) (arises : w.pack.Arises settings) (s : PollSettings)
    (now now' : Nat) : Agree c (runCycle s c now w).2.2 (runCycle s c now' v).2.2 := by
  have slots := Pack.slots_of_lasting h.lasting c
  have agree := h.runSteps_same (r := { cadence := c }) arises
    (fun _ => of_mem_cycleSteps (s := s) (p := w.pack)) now now'
  show Agree c (runSteps (cycleSteps s (w.pack.slots c) c) now { cadence := c } w).2.2
    (runSteps (cycleSteps s (v.pack.slots c) c) now' { cadence := c } v).2.2
  rwa [← slots]

end Agree

/-! ## 5. Cycles in any order -/

/-- Cycles, one after the other: of each the cadence and the time at which it runs. -/
def runPlan (s : PollSettings) (plan : List (Cadence × Nat)) (w : Station σ) : Station σ :=
  plan.foldl (fun w cycle => (runCycle s cycle.1 cycle.2 w).2.2) w

/-- How many cycles of a cadence are among some cycles. -/
def cyclesIn (plan : List (Cadence × Nat)) (c : Cadence) : Nat := (plan.map (·.1)).count c

section Plan

variable {settings : PackSettings} {w v : Station σ} {c : Cadence}

/-- **What a cadence comes to is what its own cycles come to**, run alone and at whatever time. -/
theorem agree_runPlan (s : PollSettings) (plan : List (Cadence × Nat))
    (arises : w.pack.Arises settings) (h : Agree c w v) :
    Agree c (runPlan s plan w) ((fun v => (runCycle s c 0 v).2.2)^[cyclesIn plan c] v) := by
  induction plan generalizing w v with
  | nil => exact h
  | cons cycle plan ih =>
      obtain ⟨d, now⟩ := cycle
      have arises' := runCycle_arises (c := d) s now arises
      by_cases own : c = d
      · subst own
        have counts : cyclesIn ((c, now) :: plan) c = cyclesIn plan c + 1 := List.count_cons_self
        rw [counts, Function.iterate_succ_apply]
        exact ih arises' (h.runCycle_same arises s now 0)
      · have counts : cyclesIn ((d, now) :: plan) c = cyclesIn plan c :=
          List.count_cons_of_ne (Ne.symm own)
        rw [counts]
        exact ih arises' (h.runCycle_other arises own s now)

end Plan

/-- The three counters are all there is to count. -/
theorem Cycles.eq_of_same {a b : Cycles} (same : ∀ c, a.of c = b.of c) : a = b := by
  cases a
  cases b
  exact Cycles.mk.injEq .. ▸ ⟨same .pack, same .cellVoltage, same .cellTemperature⟩

/-- **Cadences are independent.** Of cycles in any order and at any times, only the number of each
    cadence counts for the tracks and the counters. A cycle changes the tracks in the slots that its
    cadence polls and nothing else of the cells; it counts itself, publishes or fails each of its
    channels, and leaves the energy account to the cadence of the pack. The slot of every quantity
    that is monitored, and of every voltage that the cross check adds up, is polled by exactly one
    cadence, and exactly one lists its channel. -/
theorem cadences_independent (s : PollSettings) {settings : PackSettings} {w : Station σ}
    (arises : w.pack.Arises settings) (counted : AnswersByCount w.link) :
    (∀ plan plan' : List (Cadence × Nat), (∀ c, cyclesIn plan c = cyclesIn plan' c) →
      (∀ slot, (runPlan s plan w).pack.track? slot = (runPlan s plan' w).pack.track? slot) ∧
      (runPlan s plan w).pack.cycles = (runPlan s plan' w).pack.cycles) ∧
    (∀ (c : Cadence) (now : Nat) summary later w',
      runCycle s c now w = (summary, later, w') →
        (∀ slot, slot ∉ w.pack.slots c → w'.pack.track? slot = w.pack.track? slot) ∧
        w'.pack.lasting = w.pack.lasting ∧
        (∀ d, w'.pack.cycles.of d = w.pack.cycles.of d + if d = c then 1 else 0) ∧
        (c ≠ .pack → w'.pack.energy = w.pack.energy) ∧
        summary.published + summary.failed = (w.pack.channels c).length ∧
        w'.pack.Arises settings) ∧
    (∀ e q x r, Measures settings w.pack.snapshot e q x r →
      (q = .temperature → x.limit.monitored = true) →
        ∃ slot t, w.pack.Stands e q slot ∧ w.pack.track? slot = some t ∧ t.reading = r ∧
          (∃! c, slot ∈ w.pack.slots c) ∧ ∃! c, t.channel ∈ w.pack.channels c) := by
  refine ⟨fun plan plan' counts => ?_, fun c now summary later w' run => ?_,
    fun e q x r measured monitored => w.pack.exists_slot arises measured monitored⟩
  · -- both come to what the cycles of the cadence alone come to
    have alone (c : Cadence) (plan) := agree_runPlan s plan arises (Agree.refl counted c)
    constructor
    · intro slot
      have first := (alone slot.cadence plan).tracks slot rfl
      rw [counts] at first
      exact first.trans ((alone slot.cadence plan').tracks slot rfl).symm
    · refine Cycles.eq_of_same fun c => ?_
      have first := (alone c plan).cycles
      rw [counts] at first
      exact first.trans (alone c plan').cycles.symm
  · obtain ⟨rfl, rfl, rfl⟩ : summary = (runCycle s c now w).1 ∧ later = (runCycle s c now w).2.1 ∧
        w' = (runCycle s c now w).2.2 := by simp [run]
    refine ⟨fun slot free => runCycle_track? s now free, runCycle_lasting s now, fun d => ?_,
      runCycle_energy s now, runCycle_outcomes s c now w, runCycle_arises s now arises⟩
    rw [runCycle_cycles]
    by_cases own : d = c
    · subst own
      rw [if_pos rfl, Cycles.of_bump_self]
    · rw [if_neg own, Cycles.of_bump _ own, UInt64.add_zero]

/-- A pack of one cell, whose temperature is monitored. -/
def warmCell : PackSettings where
  voltage := {}
  current := {}
  cells := [{ index := 1, voltage := {}, temperature := { limit := { max := some 60 } } }]

/-- A station with that pack, whose link fails at the second reading of the cell voltage. -/
def flakyStation : Station ScriptedLink where
  link := ⟨[(.packVoltage, [.ok 4]), (.packCurrent, [.ok 1]),
    (.cellVoltage 1, [.ok 3, .error (.text "crc"), .ok 4])]⟩
  pack := .new warmCell 3

/-- The failed reading meets the second cycle of the cell voltages, wherever the cycle of the pack
    stands, and the temperature of the cell, of which nothing is known, is polled. -/
theorem independent_of_flaky_reading :
    flakyStation.pack.Arises warmCell ∧ AnswersByCount flakyStation.link ∧
    (∀ slot,
      (runPlan {} [(.cellVoltage, 0), (.pack, 10), (.cellVoltage, 20)] flakyStation).pack.track? slot =
      (runPlan {} [(.cellVoltage, 5), (.cellVoltage, 7), (.pack, 9)] flakyStation).pack.track? slot) ∧
    ((runPlan {} [(.cellVoltage, 0), (.pack, 10), (.cellVoltage, 20)] flakyStation).pack.track?
      (.cellVoltage 0)).map (·.failures) = some 1 ∧
    ((runCycle {} .pack 10 flakyStation).1.published = 2 ∧
      (runCycle {} .pack 10 flakyStation).2.2.pack.cycles.of .pack = 1) ∧
    ∃ slot t, flakyStation.pack.Stands (.cell 1) .temperature slot ∧
      flakyStation.pack.track? slot = some t ∧ t.reading = .noData ∧
      (∃! c, slot ∈ flakyStation.pack.slots c) ∧ ∃! c, t.channel ∈ flakyStation.pack.channels c := by
  have arises : flakyStation.pack.Arises warmCell := .new 3
  have counted : AnswersByCount flakyStation.link := answersByCount_scripted _
  obtain ⟨order, cycle, polled⟩ := cadences_independent {} arises counted
  have temperature := @Measures.cellTemperature warmCell flakyStation.pack.snapshot 0 _ _ rfl rfl
  refine ⟨arises, counted, (order _ _ fun c => ?_).1, by decide +kernel, ⟨by decide +kernel, ?_⟩,
    polled _ _ _ _ temperature fun _ => by decide⟩
  · cases c <;> decide
  · have once := (cycle .pack 10 _ _ _ rfl).2.2.1 .pack
    exact once.trans (by decide)

end PackGuard
