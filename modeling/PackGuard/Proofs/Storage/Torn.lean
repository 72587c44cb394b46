import Mathlib.Control.Monad.Basic
import PackGuard.Proofs.KeepAlive.Sightings
import PackGuard.Proofs.Storage.Interleaving
import PackGuard.Proofs.Storage.ReadBack

/-!
# When a stored deadline is torn

Any number of calls store a deadline in one file, each in the four steps of a replacement, in any
order, and each may end at any moment. All of them go by one temporary file: its name depends on
nothing but the name of the store.

* `Bears`: one of some deadlines is read from a content.
* `Tears`: **the three ways to spoil the store**. A call empties the store itself, which is its own
  temporary file; a renaming publishes what is not whole, because another call has emptied or
  overwritten the temporary file meanwhile; a call goes on writing into the file that another one
  has published.
* `finds_step_iff`: a step leaves a known deadline in the store iff it does not tear it;
  `finds_throughout_iff`: so do all steps of a history.
* `orderly`: a condition on the order of the turns alone. Calls may overlap, but a call writes only
  while nobody else has emptied the temporary file since it did, and the temporary file is renamed
  only when whoever emptied it last has written all. `not_tears_of_inTurn`: **then nothing is torn**;
  `tears_rename_iff_beginning`: what the first renaming that comes too early publishes.
* `reads_known_iff`: **a reader finds an old or a stored deadline at every moment iff no turn tears
  the store**, so it does in every orderly history.
* `reads_otherwise`: a deadline that is cut, two calls that overlap, and a store that is its own
  temporary file.

Which other histories do no harm depends on what is written: a document is read also without its
last line break, and the beginning of one may be another one. So `Tears` looks at contents.
-/

namespace PackGuard.Deadline

open Files

variable {known : Nat → Prop} {path : String} {s s' first : Shared} {i : Nat} {act : Act}

/-! ## 1. Contents with a deadline -/

/-- One of some deadlines is read from a content. -/
def Bears (known : Nat → Prop) (content : ByteArray) : Prop :=
  ∃ text d, String.fromUTF8? content = some text ∧
    (Toml.freeDocument? text).bind ofDocument? = some d ∧ known d

/-- The store stands, and one of some deadlines is read from it. -/
def Finds (known : Nat → Prop) (path : String) (s : Shared) : Prop :=
  ∃ d, read s.files path = .ok (some d) ∧ known d

theorem ofText_eq_ok_iff {text : String} {d : Nat} :
    ofText path text = .ok d ↔ (Toml.freeDocument? text).bind ofDocument? = some d := by
  unfold ofText
  cases Toml.freeDocument? text with
  | none => simp
  | some v => cases h : ofDocument? v <;> simp [h]

/-- What is found is decided by the content of the file that stands there. -/
theorem finds_iff {q : List String} {content : ByteArray} (held : s.files.Holds path q content) :
    Finds known path s ↔ Bears known content := by
  have text := readText_of_holds held
  simp only [Finds, Bears, read_eq_ok_some_iff, ofText_eq_ok_iff, text]
  cases String.fromUTF8? content <;> simp

/-- Nothing is read from an empty file. -/
theorem not_bears_empty : ¬ Bears known .empty := by
  rintro ⟨text, d, isText, found, -⟩
  obtain rfl : "" = text := by
    rw [show ByteArray.empty = "".toUTF8 from rfl, fromUTF8?_toUTF8] at isText
    exact Option.some.inj isText
  have nothing : (Toml.freeDocument? "").bind ofDocument? = none := by decide +kernel
  rw [nothing] at found
  cases found

theorem bears_document {deadline : Nat} (stored : known (min deadline greatest)) :
    Bears known (document deadline).toUTF8 :=
  ⟨document deadline, _, fromUTF8?_toUTF8 _, ofText_eq_ok_iff.1 (ofText_document "" deadline),
    stored⟩

/-! ## 2. Steps that tear the store -/

/-- **The turns that leave no known deadline in the store.** -/
inductive Tears (known : Nat → Prop) (path : String) (s : Shared) : Turn → Prop
  /-- The file that is emptied is the store itself. -/
  | create {i : Nat} (own : temporary path = path) : Tears known path s ⟨i, .create⟩
  /-- Another call goes on writing into the file that was published. -/
  | write {i n m : Nat} {content old : ByteArray} {q : List String}
      (writing : s.calls[i]? = some ⟨content, .writing (some q) n⟩)
      (stands : s.files.Holds path q old)
      (spoilt : ¬ Bears known (splice old n (content.extract n m))) :
      Tears known path s ⟨i, .write m⟩
  /-- What is published is no known document. -/
  | rename {i : Nat} {t : List String} {content : ByteArray}
      (held : s.files.Holds (temporary path) t content) (spoilt : ¬ Bears known content) :
      Tears known path s ⟨i, .rename⟩

section Step

variable {q : List String} {content : ByteArray}

theorem tears_write_iff {new : ByteArray} {place : Option (List String)} {n m : Nat}
    (held : s.files.Holds path q content)
    (writing : s.calls[i]? = some ⟨new, .writing place n⟩) :
    Tears known path s ⟨i, .write m⟩ ↔
      place = some q ∧ ¬ Bears known (splice content n (new.extract n m)) := by
  constructor
  · intro torn
    cases torn with
    | write writing' stands spoilt =>
        obtain ⟨rfl, rfl⟩ := held.unique stands
        obtain ⟨rfl, rfl, rfl⟩ : _ ∧ _ ∧ _ := by simpa using writing.symm.trans writing'
        exact ⟨rfl, spoilt⟩
  · rintro ⟨rfl, spoilt⟩
    exact .write writing held spoilt

theorem tears_rename_iff (held : s.files.Holds (temporary path) q content) :
    Tears known path s ⟨i, .rename⟩ ↔ ¬ Bears known content := by
  constructor
  · intro torn
    cases torn with
    | rename held' spoilt =>
        obtain ⟨-, rfl⟩ := held.unique held'
        exact spoilt
  · exact .rename held

theorem finds_create_iff (held : s.files.Holds path q content) (bears : Bears known content)
    {p : List String} (target : s.files.writable (temporary path) = .ok p)
    (left : s'.files = s.files.put p (.file .empty)) :
    Finds known path s' ↔ ¬ Tears known path s ⟨i, .create⟩ := by
  by_cases own : temporary path = path
  · have emptied := holds_put target .empty
    rw [← left, own] at emptied
    exact iff_of_false (fun found => not_bears_empty ((finds_iff emptied).1 found))
      fun whole => whole (.create own)
  · obtain ⟨reached, -, -, free⟩ := writable_eq_ok_iff.1 target
    have kept := held.put_elsewhere free (temporary_elsewhere held reached own) (.file .empty)
    rw [← left] at kept
    refine iff_of_true ((finds_iff kept).2 bears) fun torn => ?_
    cases torn with
    | create same => exact own same

theorem finds_write_iff (tracked : Tracked path s) (held : s.files.Holds path q content)
    (bears : Bears known content) {new : ByteArray} {place : Option (List String)} {n m : Nat}
    (writing : s.calls[i]? = some ⟨new, .writing place n⟩)
    (left : s'.files = s.files.pour place n (new.extract n m)) :
    Finds known path s' ↔ ¬ Tears known path s ⟨i, .write m⟩ := by
  rw [tears_write_iff held writing]
  cases place with
  | none =>
      have kept : s'.files.Holds path q content := left ▸ held
      simp [finds_iff kept, bears]
  | some p =>
      obtain ⟨old, entry⟩ := tracked.exists_entry writing
      rw [pour_eq entry] at left
      have written := held.put (t := p) (by simp [entry]) (splice old n (new.extract n m))
      rw [← left] at written
      rw [finds_iff written]
      by_cases same : q = p
      · subst same
        obtain rfl : content = old := by simpa using held.entry.symm.trans entry
        simp
      · simp [same, Ne.symm same, bears]

theorem finds_rename_iff (tracked : Tracked path s) {c : Replacement}
    (there : s.calls[i]? = some c) (underWay : c.progress.UnderWay)
    (renamed : s.files.rename (temporary path) path = .ok s'.files) :
    Finds known path s' ↔ ¬ Tears known path s ⟨i, .rename⟩ := by
  obtain ⟨p, new, source⟩ := tracked.exists_source there underWay renamed
  obtain ⟨r, -, -, found⟩ := holds_rename source renamed
  rw [finds_iff found, tears_rename_iff source, Classical.not_not]

end Step

/-- **A step leaves a known deadline in the store iff it does not tear it.** -/
theorem finds_step_iff (tracked : Tracked path s) (found : Finds known path s)
    (taken : Step path s i act s') : Finds known path s' ↔ ¬ Tears known path s ⟨i, act⟩ := by
  obtain ⟨q, content, held⟩ := tracked.stands
  have bears := (finds_iff held).1 found
  cases taken with
  | create waiting target => exact finds_create_iff held bears target rfl
  | write writing forth inside => exact finds_write_iff tracked held bears writing rfl
  | rename synced source target renamed => exact finds_rename_iff tracked synced trivial renamed
  | sync written => exact iff_of_true found (fun torn => nomatch torn)
  | stop there => exact iff_of_true found (fun torn => nomatch torn)

/-! ## 3. Histories -/

/-- What the turns of a history, the latest first, lead to at some moment. -/
def Reaches (path : String) (first : Shared) (turns : List Turn) (s : Shared) : Prop :=
  ∃ earlier, earlier <:+ turns ∧ first.after path earlier = some s

/-- A turn of a history was taken, and this is what it met. -/
def Taken (path : String) (first : Shared) (turns : List Turn) (t : Turn) (s : Shared) : Prop :=
  ∃ earlier, t :: earlier <:+ turns ∧ first.after path earlier = some s ∧ (s.step path t).isSome

variable {turns : List Turn}

theorem taken_iff {t : Turn} : Taken path first turns t s ↔
    ∃ earlier s', t :: earlier <:+ turns ∧ first.after path earlier = some s ∧
      Step path s t.call t.act s' := by
  simp only [Taken, Option.isSome_iff_exists, ← step_eq_some_iff]
  grind

/-- **A known deadline is found all the time iff no turn tears the store.** -/
theorem finds_throughout_iff (tracked : Tracked path first) (found : Finds known path first) :
    (∀ s, Reaches path first turns s → Finds known path s) ↔
      ∀ t s, Taken path first turns t s → ¬ Tears known path s t := by
  constructor
  · rintro throughout t s taken
    obtain ⟨earlier, s', inside, reached, step⟩ := taken_iff.1 taken
    have before := throughout s ⟨earlier, (List.suffix_cons t earlier).trans inside, reached⟩
    have behind := throughout s' ⟨t :: earlier, inside, after_cons_iff.2 ⟨s, reached, step⟩⟩
    exact (finds_step_iff (tracked_after tracked reached) before step).1 behind
  · rintro whole s ⟨earlier, inside, reached⟩
    induction earlier generalizing s with
    | nil =>
        obtain rfl := Option.some.inj reached
        exact found
    | cons t earlier ih =>
        obtain ⟨before, reached', step⟩ := after_cons_iff.1 reached
        have found' := ih before ((List.suffix_cons t earlier).trans inside) reached'
        exact (finds_step_iff (tracked_after tracked reached') found' step).2
          (whole t before (taken_iff.2 ⟨earlier, s, inside, reached', step⟩))

/-! ## 4. Orderly histories -/

/-- The call that has emptied the temporary file last, if it was not renamed since. -/
def lastEmptied : List Turn → Option Nat
  | [] => none
  | ⟨i, .create⟩ :: _ => some i
  | ⟨_, .rename⟩ :: _ => none
  | _ :: earlier => lastEmptied earlier

/-- How much a call has written since it emptied the temporary file. -/
def written (i : Nat) : List Turn → Nat
  | [] => 0
  | ⟨j, .create⟩ :: earlier => if j = i then 0 else written i earlier
  | ⟨j, .write m⟩ :: earlier => if j = i then m else written i earlier
  | _ :: earlier => written i earlier

/-- **A call may write while it is the one that has emptied the temporary file last, and the
    temporary file may be renamed when that one has written all.** -/
def inTurn (contents : List ByteArray) (earlier : List Turn) (t : Turn) : Bool :=
  match t.act with
  | .write _ => lastEmptied earlier == some t.call
  | .rename => (lastEmptied earlier).any fun j =>
      contents[j]?.any fun content => content.size == written j earlier
  | _ => true

/-- Every turn of a history comes when it may. -/
def orderly (contents : List ByteArray) : List Turn → Bool
  | [] => true
  | t :: earlier => orderly contents earlier && inTurn contents earlier t

/-- **What the temporary file holds in an orderly history**: what the call that emptied it last has
    written since, and that call goes on writing there. -/
def Fresh (path : String) (turns : List Turn) (s : Shared) : Prop :=
  ∀ {j : Nat} {content : ByteArray} {progress : Progress}, lastEmptied turns = some j →
    s.calls[j]? = some ⟨content, progress⟩ →
    ∃ p, s.files.Holds (temporary path) p (content.extract 0 (written j turns)) ∧
      ∀ {place n}, progress = .writing place n → place = some p ∧ n = written j turns

section Orderly

variable {contents : List ByteArray}

/-- A turn that keeps the files and ends the writing of one call. -/
theorem Fresh.set (h : Fresh path turns s) {content : ByteArray} {before progress : Progress}
    (there : s.calls[i]? = some ⟨content, before⟩) (idle : ∀ place n, progress ≠ .writing place n) :
    Fresh path turns ⟨s.files, s.calls.set i ⟨content, progress⟩⟩ := by
  intro j new progress' last there'
  rcases getElem?_set_cases there' with ⟨rfl, e⟩ | ⟨-, there'⟩
  · cases e
    obtain ⟨p, held, -⟩ := h last there
    exact ⟨p, held, fun e => absurd e (idle _ _)⟩
  · exact h last there'

/-- **Whoever emptied the temporary file last writes its own content there.** -/
theorem Fresh.step (h : Fresh path turns s) (may : inTurn contents turns ⟨i, act⟩ = true)
    (taken : Step path s i act s') : Fresh path (⟨i, act⟩ :: turns) s' := by
  cases taken with
  | @create content place waiting target =>
      intro j new progress last there
      obtain rfl : i = j := Option.some.inj last
      obtain ⟨-, e⟩ | ⟨other, -⟩ := getElem?_set_cases there
      · cases e
        refine ⟨place, ?_, fun e => ?_⟩
        · simpa [written] using holds_put target .empty
        · cases e
          simp [written]
      · exact absurd rfl other
  | @write content place n m writing forth inside =>
      intro j new progress last there
      have own : lastEmptied turns = some i := by simpa [inTurn] using may
      obtain rfl : i = j := Option.some.inj (own.symm.trans last)
      obtain ⟨p, held, goesOn⟩ := h own writing
      obtain ⟨rfl, rfl⟩ := goesOn rfl
      obtain ⟨-, e⟩ | ⟨other, -⟩ := getElem?_set_cases there
      · cases e
        refine ⟨p, ?_, fun e => ?_⟩
        · rw [pour_eq held.entry, splice_beginning (Nat.le_of_lt forth) inside]
          simpa [written] using holds_put held.writable (content.extract 0 m)
        · cases e
          simp [written]
      · exact absurd rfl other
  | sync written => exact h.set written (by simp)
  | rename synced source target renamed => exact fun last => nomatch last
  | stop there => exact h.set there (by simp)

theorem fresh_after (ordered : orderly contents turns = true)
    (reached : first.after path turns = some s) : Fresh path turns s := by
  induction turns generalizing s with
  | nil => exact fun last => nomatch last
  | cons t earlier ih =>
      obtain ⟨before, reached', step⟩ := after_cons_iff.1 reached
      obtain ⟨ordered', may⟩ := Bool.and_eq_true_iff.1 ordered
      exact Fresh.step (ih ordered' reached') may step

theorem orderly_of_suffix {earlier : List Turn} (inside : earlier <:+ turns)
    (ordered : orderly contents turns = true) : orderly contents earlier = true := by
  obtain ⟨later, rfl⟩ := inside
  induction later with
  | nil => exact ordered
  | cons t later ih => exact ih (Bool.and_eq_true_iff.1 ordered).1

/-- **A renaming publishes what the call has written that emptied the temporary file last.** -/
theorem tears_rename_iff_beginning (fresh : Fresh path turns s)
    (brought : s.calls.map (·.content) = contents) {j : Nat} {content : ByteArray}
    (own : lastEmptied turns = some j) (there : contents[j]? = some content) :
    Tears known path s ⟨i, .rename⟩ ↔ ¬ Bears known (content.extract 0 (written j turns)) := by
  obtain ⟨⟨content, progress⟩, there', rfl⟩ : ∃ c, s.calls[j]? = some c ∧ c.content = content := by
    simpa [← brought] using there
  obtain ⟨p, held, -⟩ := fresh own there'
  exact tears_rename_iff held

/-- **A turn that comes when it may tears nothing**, beside a store that is not its own temporary
    file and with calls that bring known deadlines. -/
theorem not_tears_of_inTurn (beside : temporary path ≠ path) (fresh : Fresh path turns s)
    (brought : s.calls.map (·.content) = contents)
    (bear : ∀ content ∈ contents, Bears known content) {t : Turn}
    (may : inTurn contents turns t = true) : ¬ Tears known path s t := by
  intro torn
  cases torn with
  | create own => exact beside own
  | @write i n m content old q writing stands spoilt =>
      have own : lastEmptied turns = some i := by simpa [inTurn] using may
      obtain ⟨p, held, goesOn⟩ := fresh own writing
      obtain ⟨same, -⟩ := goesOn rfl
      exact temporary_elsewhere stands held.reached beside (Option.some.inj same)
  | @rename i t content held spoilt =>
      simp only [inTurn, Option.any_eq_true] at may
      obtain ⟨j, own, whole, there, all⟩ := may
      have published := (tears_rename_iff_beginning (i := i) fresh brought own there).1
        (.rename held spoilt)
      rw [← eq_of_beq all, ByteArray.extract_zero_size] at published
      exact published (bear whole (List.mem_of_getElem? there))

end Orderly

/-! ## 5. Stored deadlines -/

/-- What the calls write that are to store these deadlines. -/
def documents (deadlines : List Nat) : List ByteArray :=
  deadlines.map fun d => (document d).toUTF8

/-- Calls that are to store these deadlines. -/
def storing (fs : Files) (deadlines : List Nat) : Shared :=
  starting fs (documents deadlines)

/-- A deadline that was there before or was to be stored, cut to the greatest number a document can
    hold. -/
def Known (old : Nat) (deadlines : List Nat) (d : Nat) : Prop :=
  d = old ∨ ∃ x ∈ deadlines, d = min x greatest

/-- What the calls are to write stays what it was. -/
theorem contents_storing {fs : Files} {deadlines : List Nat} {turns : List Turn}
    (reached : (storing fs deadlines).after path turns = some s) :
    s.calls.map (·.content) = documents deadlines := by
  rw [contents_after reached, storing, starting, List.map_map]
  exact List.map_id _

/-- **A reader finds a known deadline at every moment iff no turn of the history tears the store.**
    Nothing else can: the store is never missing, and no other step changes what is read.

    * Unless the store is its own temporary file, that is so in every orderly history, whichever
      calls overlap and wherever they end.
    * As long as the history was orderly, a renaming publishes what the call has written that
      emptied the temporary file last; so it tears the store unless what is there of that document
      happens to be read as a known deadline. -/
theorem reads_known_iff {fs : Files} {path : String} {old : Nat}
    (held : read fs path = .ok (some old)) (deadlines : List Nat) (turns : List Turn) :
    ((∀ s, Reaches path (storing fs deadlines) turns s →
        ∃ d, read s.files path = .ok (some d) ∧ Known old deadlines d) ↔
      ∀ t s, Taken path (storing fs deadlines) turns t s →
        ¬ Tears (Known old deadlines) path s t) ∧
    (temporary path ≠ path → orderly (documents deadlines) turns = true →
      ∀ s, Reaches path (storing fs deadlines) turns s →
        ∃ d, read s.files path = .ok (some d) ∧ Known old deadlines d) ∧
    (∀ s i j content, (storing fs deadlines).after path turns = some s →
      orderly (documents deadlines) turns = true → lastEmptied turns = some j →
      (documents deadlines)[j]? = some content →
        (Tears (Known old deadlines) path s ⟨i, .rename⟩ ↔
          ¬ Bears (Known old deadlines) (content.extract 0 (written j turns)))) := by
  obtain ⟨q, content, stands⟩ := exists_holds held
  have throughout : (∀ s, Reaches path (storing fs deadlines) turns s →
      Finds (Known old deadlines) path s) ↔ _ :=
    finds_throughout_iff (.starting stands (documents deadlines)) ⟨old, held, .inl rfl⟩
  refine ⟨throughout, fun beside ordered => throughout.2 fun t s taken => ?_,
    fun s i j content reached ordered own there =>
      tears_rename_iff_beginning (fresh_after ordered reached) (contents_storing reached) own there⟩
  obtain ⟨earlier, inside, reached, -⟩ := taken
  obtain ⟨before, may⟩ := Bool.and_eq_true_iff.1 (orderly_of_suffix inside ordered)
  refine not_tears_of_inTurn beside (fresh_after before reached) (contents_storing reached) ?_ may
  intro content inside
  obtain ⟨d, there, rfl⟩ := List.mem_map.1 inside
  exact bears_document (.inr ⟨d, there, rfl⟩)

/-- One of two calls begins, and writes all, while the other one has written all and renames behind
    it: nothing is torn. Had it renamed before the other one wrote, the store would be. -/
theorem reads_known_overlapping :
    ((storing (Files.storing 5000) [6000, 7000]).after "/deadline"
      [⟨0, .rename⟩, ⟨1, .write 19⟩, ⟨1, .create⟩, ⟨0, .sync⟩, ⟨0, .write 19⟩,
        ⟨0, .create⟩]).isSome ∧
    (∀ s, Reaches "/deadline" (storing (Files.storing 5000) [6000, 7000])
        [⟨0, .rename⟩, ⟨1, .write 19⟩, ⟨1, .create⟩, ⟨0, .sync⟩, ⟨0, .write 19⟩,
          ⟨0, .create⟩] s →
      ∃ d, read s.files "/deadline" = .ok (some d) ∧ Known 5000 [6000, 7000] d) ∧
    ∃ s, (storing (Files.storing 5000) [6000, 7000]).after "/deadline"
        [⟨1, .create⟩, ⟨0, .sync⟩, ⟨0, .write 19⟩, ⟨0, .create⟩] = some s ∧
      Tears (Known 5000 [6000, 7000]) "/deadline" s ⟨0, .rename⟩ := by
  have held : read (Files.storing 5000) "/deadline" = .ok (some 5000) := by decide +kernel
  refine ⟨by decide +kernel,
    (reads_known_iff held _ _).2.1 (by decide +kernel) (by decide +kernel), ?_⟩
  obtain ⟨s, reached⟩ : ∃ s, (storing (Files.storing 5000) [6000, 7000]).after "/deadline"
      [⟨1, .create⟩, ⟨0, .sync⟩, ⟨0, .write 19⟩, ⟨0, .create⟩] = some s :=
    Option.isSome_iff_exists.1 (by decide +kernel)
  refine ⟨s, reached, ((reads_known_iff held _ _).2.2 s 0 1 _ reached (by decide +kernel) rfl rfl).2
    fun bears => ?_⟩
  rw [show written 1 _ = 0 from rfl, ByteArray.extract_same] at bears
  exact not_bears_empty bears

/-- Files in which nothing stands but a stored deadline that is its own temporary file. -/
def storingNew (deadline : Nat) : Files where
  entries := [(["deadline.new"], .file (document deadline).toUTF8)]

/-- **What else a reader finds.** A deadline that was cut; where one of two calls begins before the
    other one renames, an empty file under the name of the store; and a store whose name ends in
    `.new` is empty as soon as a call begins. -/
theorem reads_otherwise :
    (∃ turns s, (storing (Files.storing 5000) [18446744073709551615]).after "/deadline" turns =
        some s ∧ read s.files "/deadline" = .ok (some 9223372036854775807)) ∧
    (∃ s, (storing (Files.storing 5000) [6000, 7000]).after "/deadline"
        [⟨0, .rename⟩, ⟨1, .create⟩, ⟨0, .sync⟩, ⟨0, .write 19⟩, ⟨0, .create⟩] = some s ∧
      read s.files "/deadline" = .error (.io "/deadline: missing or negative deadline_ms")) ∧
    (∃ s, (storing (storingNew 5000) [6000]).after "/deadline.new" [⟨0, .create⟩] = some s ∧
      read s.files "/deadline.new" =
        .error (.io "/deadline.new: missing or negative deadline_ms")) := by
  refine ⟨?_, Option.map_eq_some_iff.1 ?_, Option.map_eq_some_iff.1 ?_⟩
  · obtain ⟨turns, s, reached, files⟩ := exists_alone (Files.storing 5000) "/deadline"
      (document 18446744073709551615).toUTF8
    refine ⟨turns, s, reached, ?_⟩
    rw [files]
    decide +kernel
  · decide +kernel
  · decide +kernel

end PackGuard.Deadline
