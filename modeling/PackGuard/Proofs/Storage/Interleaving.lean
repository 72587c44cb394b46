import PackGuard.Proofs.Storage.Beside

/-!
# Several processes replace one file

A file is replaced in four steps: the temporary file is created empty, the content is written into
it piece by piece, it is synced, and it takes the name of the file. Here any number of replacements
of one file take these steps in any order, and each may end at any moment, by a fault or because its
process is killed. All of them use the same temporary file.

* `Step`: one step of one replacement; `Shared.step` takes it, if it can be taken
  (`step_eq_some_iff`), and `Shared.after` takes one after the other. What is to be written never
  changes (`contents_after`).
* `exists_alone`: replacing a file as a whole is a history of a single replacement.
* `Tracked`: **the file never goes missing**, and whoever writes does so into it, into the temporary
  file, or into a file that has lost its name; one lemma for each kind of change, `Tracked.step` for
  all steps and `tracked_after` for all histories.
-/

namespace PackGuard

namespace Files

/-! ## 1. Replacements -/

/-- How far a replacement has come. A file that is being written is known by its place, if it has
    one: a file keeps its writer when it gets another name, and when it loses its name. -/
inductive Progress where
  | waiting
  | writing (place : Option (List String)) (written : Nat)
  | synced
  | ended

/-- A replacement of a file: the new content, and how far it has come. -/
structure Replacement where
  content : ByteArray
  progress : Progress := .waiting

/-- The files that all share, and the replacements of one of them. -/
structure Shared where
  files : Files
  calls : List Replacement

/-- Whether a replacement has begun and not ended. -/
def Progress.UnderWay : Progress → Prop
  | waiting => False
  | writing _ _ => True
  | synced => True
  | ended => False

/-- A file was renamed: whoever writes to it goes on writing to it, and whoever writes to a file
    that stood there writes to a file without a name. -/
def Progress.follow (source target : List String) : Progress → Progress
  | writing place n =>
    writing (if place = some source then some target
      else if place = some target then none else place) n
  | progress => progress

/-- The replacements behind a renaming. -/
def followAll (source target : List String) (calls : List Replacement) : List Replacement :=
  calls.map fun c => { c with progress := c.progress.follow source target }

/-- What a file holds after bytes were written at an offset. A gap before them is zeros. -/
def splice (old : ByteArray) (n : Nat) (bytes : ByteArray) : ByteArray :=
  old.extract 0 n ++ ⟨Array.replicate (n - old.size) 0⟩ ++ bytes ++
    old.extract (n + bytes.size) old.size

/-- Write bytes at an offset to the file at a place. -/
def pour (fs : Files) (place : Option (List String)) (n : Nat) (bytes : ByteArray) : Files :=
  match place with
  | none => fs
  | some p => match fs.find? p with
    | some (.file old) => fs.put p (.file (splice old n bytes))
    | _ => fs

/-- What a replacement does next: it creates the temporary file, writes on up to an offset, syncs
    what it has written, renames the temporary file, or ends, by a fault or with its process. -/
inductive Act where
  | create
  | write (upTo : Nat)
  | sync
  | rename
  | stop
deriving DecidableEq

/-- The turn of one of the replacements. -/
structure Turn where
  call : Nat
  act : Act
deriving DecidableEq

/-- **One step of one replacement** of the file under a path. -/
inductive Step (path : String) (s : Shared) (i : Nat) : Act → Shared → Prop
  | create {content : ByteArray} {place : List String}
      (waiting : s.calls[i]? = some ⟨content, .waiting⟩)
      (target : s.files.writable (temporary path) = .ok place) :
      Step path s i .create
        ⟨s.files.put place (.file .empty), s.calls.set i ⟨content, .writing (some place) 0⟩⟩
  | write {content : ByteArray} {place : Option (List String)} {n m : Nat}
      (writing : s.calls[i]? = some ⟨content, .writing place n⟩)
      (forth : n < m) (inside : m ≤ content.size) :
      Step path s i (.write m)
        ⟨s.files.pour place n (content.extract n m), s.calls.set i ⟨content, .writing place m⟩⟩
  | sync {content : ByteArray} {place : Option (List String)}
      (written : s.calls[i]? = some ⟨content, .writing place content.size⟩) :
      Step path s i .sync ⟨s.files, s.calls.set i ⟨content, .synced⟩⟩
  | rename {content : ByteArray} {p q : List String} {files : Files}
      (synced : s.calls[i]? = some ⟨content, .synced⟩)
      (source : s.files.reach (temporary path) = .ok p) (target : s.files.reach path = .ok q)
      (renamed : s.files.rename (temporary path) path = .ok files) :
      Step path s i .rename ⟨files, (followAll p q s.calls).set i ⟨content, .ended⟩⟩
  | stop {c : Replacement} (there : s.calls[i]? = some c) :
      Step path s i .stop ⟨s.files, s.calls.set i { c with progress := .ended }⟩

namespace Shared

/-- Take a step, if it can be taken. -/
def step (path : String) (s : Shared) (t : Turn) : Option Shared :=
  match s.calls[t.call]? with
  | none => none
  | some c =>
    match t.act, c.progress with
    | .create, .waiting =>
      match s.files.writable (temporary path) with
      | .ok p => some ⟨s.files.put p (.file .empty),
          s.calls.set t.call { c with progress := .writing (some p) 0 }⟩
      | .error _ => none
    | .write m, .writing place n =>
      if n < m ∧ m ≤ c.content.size then
        some ⟨s.files.pour place n (c.content.extract n m),
          s.calls.set t.call { c with progress := .writing place m }⟩
      else none
    | .sync, .writing _ n =>
      if n = c.content.size then
        some ⟨s.files, s.calls.set t.call { c with progress := .synced }⟩
      else none
    | .rename, .synced =>
      match s.files.reach (temporary path), s.files.reach path,
          s.files.rename (temporary path) path with
      | .ok p, .ok q, .ok files =>
        some ⟨files, (followAll p q s.calls).set t.call { c with progress := .ended }⟩
      | _, _, _ => none
    | .stop, _ => some ⟨s.files, s.calls.set t.call { c with progress := .ended }⟩
    | _, _ => none

/-- What has become of the files after a history of turns, the latest first, if all could be
    taken. -/
def after (path : String) (s : Shared) : List Turn → Option Shared
  | [] => some s
  | t :: earlier => (s.after path earlier).bind (·.step path t)

end Shared

/-- Files, and replacements that have not begun. -/
def starting (fs : Files) (contents : List ByteArray) : Shared where
  files := fs
  calls := contents.map ({ content := · })

variable {path : String} {fs fs' : Files} {s s' first : Shared} {i : Nat} {act : Act}

/-- The temporary file is created by the operation that makes a file empty. -/
theorem create_eq {p : List String} (target : fs.writable path = .ok p) :
    fs.create path = .ok (fs.put p (.file .empty)) := by
  simp [create, target, Except.map]

theorem write_eq {p : List String} (target : fs.writable path = .ok p) (content : ByteArray) :
    fs.write path content = .ok (fs.put p (.file content)) := by
  simp [write, target, Except.map]

/-- **What is taken is a step.** -/
theorem step_eq_some_iff : s.step path ⟨i, act⟩ = some s' ↔ Step path s i act s' := by
  constructor
  · intro taken
    unfold Shared.step at taken
    cases there : s.calls[i]? with
    | none => simp [there] at taken
    | some c =>
        obtain ⟨content, progress⟩ := c
        simp only [there] at taken
        cases act with
        | create =>
            cases progress with
            | waiting =>
                cases target : s.files.writable (temporary path) with
                | error fault => simp [target] at taken
                | ok p =>
                    simp only [target, Option.some.injEq] at taken
                    exact taken ▸ .create there target
            | writing | synced | ended => cases taken
        | write m =>
            cases progress with
            | writing place n =>
                obtain ⟨⟨forth, inside⟩, result⟩ := Option.ite_none_right_eq_some.1 taken
                exact Option.some.inj result ▸ .write there forth inside
            | waiting | synced | ended => cases taken
        | sync =>
            cases progress with
            | writing place n =>
                obtain ⟨rfl, result⟩ := Option.ite_none_right_eq_some.1 taken
                exact Option.some.inj result ▸ .sync there
            | waiting | synced | ended => cases taken
        | rename =>
            cases progress with
            | synced =>
                cases source : s.files.reach (temporary path) with
                | error fault => simp [source] at taken
                | ok p =>
                    cases target : s.files.reach path with
                    | error fault => simp [source, target] at taken
                    | ok q =>
                        cases renamed : s.files.rename (temporary path) path with
                        | error fault => simp [source, target, renamed] at taken
                        | ok files =>
                            simp only [source, target, renamed, Option.some.injEq] at taken
                            exact taken ▸ .rename there source target renamed
            | waiting | writing | ended => cases taken
        | stop =>
            simp only [Option.some.injEq] at taken
            exact taken ▸ .stop there
  · intro step
    cases step with
    | create waiting target => simp [Shared.step, waiting, target]
    | write writing forth inside => simp [Shared.step, writing, forth, inside]
    | sync written => simp [Shared.step, written]
    | rename synced source target renamed =>
        simp [Shared.step, synced, source, target, renamed]
    | stop there => simp [Shared.step, there]

theorem after_cons_iff {earlier : List Turn} :
    first.after path (⟨i, act⟩ :: earlier) = some s' ↔
      ∃ s, first.after path earlier = some s ∧ Step path s i act s' := by
  simp only [Shared.after, Option.bind_eq_some_iff, step_eq_some_iff]

/-- **What every step keeps, every history keeps.** -/
theorem after_keeps {P : Shared → Prop}
    (keeps : ∀ {s s' i act}, P s → Step path s i act s' → P s') (begun : P first)
    {turns : List Turn} (reached : first.after path turns = some s) : P s := by
  induction turns generalizing s with
  | nil =>
      obtain rfl := Option.some.inj reached
      exact begun
  | cons t earlier ih =>
      obtain ⟨before, reached', taken⟩ := after_cons_iff.1 reached
      exact keeps (ih reached') taken

theorem contents_set {calls : List Replacement} {c d : Replacement} (there : calls[i]? = some c)
    (same : d.content = c.content) :
    (calls.set i d).map (·.content) = calls.map (·.content) := by
  obtain ⟨inside, rfl⟩ := List.getElem?_eq_some_iff.1 there
  have mapped : i < (calls.map (·.content)).length := by simpa using inside
  have kept := List.set_getElem_self mapped
  rw [List.map_set, same]
  rwa [List.getElem_map] at kept

/-- What is to be written never changes. -/
theorem contents_step (taken : Step path s i act s') :
    s'.calls.map (·.content) = s.calls.map (·.content) := by
  cases taken with
  | create waiting => exact contents_set waiting rfl
  | write writing => exact contents_set writing rfl
  | sync written => exact contents_set written rfl
  | @rename content p q files synced =>
      have there : (followAll p q s.calls)[i]? = some ⟨content, .synced⟩ := by
        simp [followAll, synced, Progress.follow]
      have moved : (followAll p q s.calls).map (·.content) = s.calls.map (·.content) := by
        rw [followAll, List.map_map]
        rfl
      exact (contents_set (d := ⟨content, .ended⟩) there rfl).trans moved
  | stop there => exact contents_set there rfl

theorem contents_after {turns : List Turn} (reached : first.after path turns = some s) :
    s.calls.map (·.content) = first.calls.map (·.content) :=
  after_keeps (P := fun s => s.calls.map (·.content) = first.calls.map (·.content))
    (fun same taken => (contents_step taken).trans same) rfl reached

/-! ## 2. A single replacement -/

/-- Writing on behind the beginning of a content writes a longer beginning. -/
theorem splice_beginning {content : ByteArray} {n m : Nat} (forth : n ≤ m)
    (inside : m ≤ content.size) :
    splice (content.extract 0 n) n (content.extract n m) = content.extract 0 m := by
  have size : (content.extract 0 n).size = n := by
    rw [ByteArray.size_extract]
    omega
  have before : (content.extract 0 n).extract 0 n = content.extract 0 n := by
    rw [ByteArray.extract_extract]
    simp
  have gap : (⟨Array.replicate (n - n) 0⟩ : ByteArray) = .empty := by
    rw [Nat.sub_self]
    rfl
  have behind : (content.extract 0 n).extract (n + (content.extract n m).size) n = .empty := by
    rw [ByteArray.extract_eq_empty_iff]
    omega
  rw [splice, size, before, gap, behind, ByteArray.append_empty, ByteArray.append_empty]
  exact (ByteArray.extract_eq_extract_append_extract n (Nat.zero_le n) forth).symm

/-- What is poured into a file is spliced into its content. -/
theorem pour_eq {p : List String} {old : ByteArray} (entry : fs.find? p = some (.file old)) (n : Nat)
    (bytes : ByteArray) : fs.pour (some p) n bytes = fs.put p (.file (splice old n bytes)) := by
  simp only [pour, entry]

theorem put_put (fs : Files) (p : List String) (e e' : FileEntry) :
    (fs.put p e).put p e' = fs.put p e' := by
  simp [put, List.filter_filter]

/-- The whole content is written in one step, or in none if there is nothing to write. -/
theorem exists_filled {content : ByteArray} {p : List String} {earlier : List Turn}
    (target : fs.writable (temporary path) = .ok p)
    (created : first.after path earlier =
      some ⟨fs.put p (.file .empty), [⟨content, .writing (some p) 0⟩]⟩) :
    ∃ turns, first.after path turns = some ⟨fs.put p (.file content), [⟨content, .synced⟩]⟩ := by
  have synced (files : Files) : Step path ⟨files, [⟨content, .writing (some p) content.size⟩]⟩ 0 .sync
      ⟨files, [⟨content, .synced⟩]⟩ := .sync rfl
  obtain nothing | forth := Nat.eq_zero_or_pos content.size
  · obtain rfl : content = .empty := ByteArray.size_eq_zero_iff.1 nothing
    exact ⟨⟨0, .sync⟩ :: earlier, after_cons_iff.2 ⟨_, created, synced _⟩⟩
  · have filled : (fs.put p (.file .empty)).pour (some p) 0 (content.extract 0 content.size) =
        fs.put p (.file content) := by
      have whole := splice_beginning (Nat.zero_le content.size) (Nat.le_refl _)
      rw [ByteArray.extract_same, ByteArray.extract_zero_size] at whole
      rw [pour_eq (holds_put target .empty).entry, put_put, ByteArray.extract_zero_size, whole]
    have written : Step path ⟨fs.put p (.file .empty), [⟨content, .writing (some p) 0⟩]⟩ 0
        (.write content.size) _ := .write rfl forth (Nat.le_refl content.size)
    rw [filled] at written
    exact ⟨⟨0, .sync⟩ :: ⟨0, .write content.size⟩ :: earlier,
      after_cons_iff.2 ⟨_, after_cons_iff.2 ⟨_, created, written⟩, synced _⟩⟩

/-- **Replacing a file as a whole is a history of a single replacement**, whether it succeeds or
    not. -/
theorem exists_alone (fs : Files) (path : String) (content : ByteArray) :
    ∃ turns s, (starting fs [content]).after path turns = some s ∧
      s.files = (fs.writeAtomic path content).2 := by
  cases target : fs.writable (temporary path) with
  | error fault =>
      have refused : fs.create (temporary path) = .error fault := by
        simp [create, target, Except.map]
      have result : fs.writeAtomic path content = (some fault, fs) := by
        unfold writeAtomic
        simp only [refused]
      exact ⟨[], starting fs [content], rfl, by rw [result]; rfl⟩
  | ok p =>
      have created : Step path (starting fs [content]) 0 .create
          ⟨fs.put p (.file .empty), [⟨content, .writing (some p) 0⟩]⟩ := .create rfl target
      have begun : (starting fs [content]).after path [⟨0, .create⟩] = some _ :=
        after_cons_iff.2 ⟨_, rfl, created⟩
      obtain ⟨turns, filled⟩ := exists_filled target begun
      have emptied := create_eq target
      have whole : (fs.put p (.file .empty)).write (temporary path) content =
          .ok (fs.put p (.file content)) := by
        rw [write_eq (holds_put target .empty).writable, put_put]
      cases renamed : (fs.put p (.file content)).rename (temporary path) path with
      | error fault =>
          have result : fs.writeAtomic path content = (some fault, fs.put p (.file content)) := by
            unfold writeAtomic
            simp only [emptied, whole, renamed]
          exact ⟨turns, _, filled, by rw [result]⟩
      | ok files =>
          have held := holds_put target content
          obtain ⟨q, reached, -, -⟩ := holds_rename held renamed
          have result : fs.writeAtomic path content = (none, files) := by
            unfold writeAtomic
            simp only [emptied, whole, renamed]
          exact ⟨⟨0, .rename⟩ :: turns, _,
            after_cons_iff.2 ⟨_, filled, .rename rfl held.reached reached renamed⟩, by rw [result]⟩

/-! ## 3. Files that are being written -/

/-- A file stands at one place and has one content. -/
theorem Holds.unique {p q : List String} {c d : ByteArray} (h : fs.Holds path p c)
    (h' : fs.Holds path q d) : p = q ∧ c = d := by
  obtain rfl : p = q := Except.ok.inj (h.reached.symm.trans h'.reached)
  exact ⟨rfl, by simpa using h.entry.symm.trans h'.entry⟩

/-- What is written at a place is the content of the file that stands there, and of no other. -/
theorem Holds.put {q t : List String} {content : ByteArray} (h : fs.Holds path q content)
    (free : fs.find? t ≠ some .directory) (new : ByteArray) :
    (fs.put t (.file new)).Holds path q (if q = t then new else content) := by
  by_cases same : q = t
  · subst same
    rw [if_pos rfl]
    exact holds_put h.writable new
  · rw [if_neg same]
    exact h.put_elsewhere free same _

/-- Where a file could be written, it still can be, unless a directory came there. -/
theorem Keeps.writable {p : List String} (keeps : fs.Keeps fs') (target : fs.writable path = .ok p)
    (free : fs'.find? p ≠ some .directory) : fs'.writable path = .ok p := by
  obtain ⟨reached, noSlash, short, -⟩ := writable_eq_ok_iff.1 target
  exact writable_eq_ok_iff.2 ⟨keeps.reach reached, noSlash, short, free⟩

/-- A replacement in the list is the one that was put there, or another one that was there. -/
theorem getElem?_set_cases {calls : List Replacement} {j : Nat} {c d : Replacement}
    (h : (calls.set i c)[j]? = some d) : j = i ∧ d = c ∨ j ≠ i ∧ calls[j]? = some d := by
  rw [List.getElem?_set] at h
  split at h
  · next same =>
      split at h
      · exact .inl ⟨same.symm, (Option.some.inj h).symm⟩
      · cases h
  · next other => exact .inr ⟨Ne.symm other, h⟩

/-- **The file stands, and whoever writes does so into it, into the temporary file, or into a file
    that has lost its name.** While a replacement is under way the temporary file can be written. -/
structure Tracked (path : String) (s : Shared) : Prop where
  stands : ∃ q content, s.files.Holds path q content
  placed : ∀ {i : Nat} {content : ByteArray} {p : List String} {n : Nat},
    s.calls[i]? = some ⟨content, .writing (some p) n⟩ →
      ∃ old, s.files.Holds (temporary path) p old ∨ s.files.Holds path p old
  begun : ∀ {i : Nat} {c : Replacement}, s.calls[i]? = some c → c.progress.UnderWay →
    ∃ p, s.files.writable (temporary path) = .ok p

namespace Tracked

variable {files : Files} {calls : List Replacement} {t : List String}

/-- Nobody writes before the first step. -/
theorem starting {q : List String} {content : ByteArray} (held : fs.Holds path q content)
    (contents : List ByteArray) : Tracked path (starting fs contents) := by
  have waiting : ∀ {i : Nat} {c : Replacement}, (Files.starting fs contents).calls[i]? = some c →
      c.progress = .waiting := by
    intro i c there
    have known := List.mem_of_getElem? there
    simp only [Files.starting, List.mem_map] at known
    obtain ⟨content, -, rfl⟩ := known
    rfl
  exact {
    stands := ⟨q, content, held⟩
    placed := fun there => nomatch waiting there
    begun := fun there underWay => by
      rw [waiting there] at underWay
      exact underWay.elim }

/-- A file was written. -/
theorem put (h : Tracked path ⟨files, calls⟩) (free : files.find? t ≠ some .directory)
    (new : ByteArray) : Tracked path ⟨files.put t (.file new), calls⟩ where
  stands := by
    obtain ⟨q, content, held⟩ := h.stands
    exact ⟨q, _, held.put free new⟩
  placed there := by
    obtain ⟨old, held | held⟩ := h.placed there
    · exact ⟨_, .inl (held.put free new)⟩
    · exact ⟨_, .inr (held.put free new)⟩
  begun there underWay := by
    obtain ⟨p, target⟩ := h.begun there underWay
    refine ⟨p, (keeps_put free _).writable target ?_⟩
    obtain ⟨-, -, -, notThere⟩ := writable_eq_ok_iff.1 target
    rw [find?_put _ _ _ (ne_nil_of_find? free)]
    split
    · simp
    · exact notThere

/-- Where somebody writes, there is a file. -/
theorem exists_entry (h : Tracked path s) {content : ByteArray} {p : List String} {n : Nat}
    (writing : s.calls[i]? = some ⟨content, .writing (some p) n⟩) :
    ∃ old, s.files.find? p = some (.file old) := by
  obtain ⟨old, held | held⟩ := h.placed writing
  · exact ⟨old, held.entry⟩
  · exact ⟨old, held.entry⟩

/-- Something more was written, or it went into a file that has lost its name. -/
theorem pour (h : Tracked path ⟨files, calls⟩) {content : ByteArray} {place : Option (List String)}
    {n : Nat} (writing : calls[i]? = some ⟨content, .writing place n⟩) (bytes : ByteArray) :
    Tracked path ⟨files.pour place n bytes, calls⟩ := by
  cases place with
  | none => exact h
  | some p =>
      obtain ⟨old, entry⟩ := h.exists_entry writing
      rw [pour_eq entry]
      exact h.put (by simp [entry]) _

/-- One of the replacements went on. -/
theorem set (h : Tracked path ⟨files, calls⟩) {c : Replacement}
    (placed : ∀ {p n}, c.progress = .writing (some p) n →
      ∃ old, files.Holds (temporary path) p old ∨ files.Holds path p old)
    (begun : c.progress.UnderWay → ∃ p, files.writable (temporary path) = .ok p) :
    Tracked path ⟨files, calls.set i c⟩ where
  stands := h.stands
  placed there := by
    rcases getElem?_set_cases there with ⟨-, rfl⟩ | ⟨-, there⟩
    · exact placed rfl
    · exact h.placed there
  begun there underWay := by
    rcases getElem?_set_cases there with ⟨-, rfl⟩ | ⟨-, there⟩
    · exact begun underWay
    · exact h.begun there underWay

/-- What is renamed while a replacement is under way is a file. -/
theorem exists_source (h : Tracked path s) {c : Replacement} (there : s.calls[i]? = some c)
    (underWay : c.progress.UnderWay) (renamed : s.files.rename (temporary path) path = .ok files) :
    ∃ p content, s.files.Holds (temporary path) p content := by
  obtain ⟨p, target⟩ := h.begun there underWay
  obtain ⟨reached, noSlash, short, free⟩ := writable_eq_ok_iff.1 target
  obtain ⟨r, e, q, place, entry, -, -⟩ := rename_eq_ok_iff.1 renamed
  obtain rfl : p = r := Except.ok.inj (reached.symm.trans (place_eq_ok_iff.1 place).1)
  cases e with
  | directory => exact absurd entry free
  | file content => exact ⟨p, content, reached, short, noSlash, entry⟩

/-- **The temporary file took the place of the file.** Whoever wrote into it now writes into the
    file, and whoever wrote into the file writes into one that has lost its name. -/
theorem rename (h : Tracked path ⟨files, calls⟩) {p q : List String} {content : ByteArray}
    (held : files.Holds (temporary path) p content) (target : files.reach path = .ok q)
    (renamed : files.rename (temporary path) path = .ok fs') :
    Tracked path ⟨fs', followAll p q calls⟩ := by
  obtain ⟨r, reached, result, found⟩ := holds_rename held renamed
  obtain rfl : q = r := Except.ok.inj (target.symm.trans reached)
  have there : ∀ {i : Nat} {d : Replacement}, (followAll p q calls)[i]? = some d →
      ∃ c, calls[i]? = some c ∧ { c with progress := c.progress.follow p q } = d := by
    intro i d
    simp [followAll]
  refine ⟨⟨q, content, found⟩, fun {i new place n} hd => ?_, fun {i d} hd underWay => ?_⟩
  · obtain ⟨⟨new, progress⟩, hc, e⟩ := there hd
    cases progress with
    | waiting | synced | ended => simp [Progress.follow] at e
    | writing old n =>
        obtain ⟨rfl, moved, rfl⟩ : _ ∧ _ ∧ _ := by simpa [Progress.follow] using e
        split at moved
        · obtain rfl := Option.some.inj moved
          exact ⟨content, .inr found⟩
        · next notSource =>
            split at moved
            · cases moved
            · next notTarget =>
                -- a place with a name is that of one of the two files
                subst moved
                obtain ⟨old, was | was⟩ := h.placed hc
                · exact absurd (congrArg some (was.unique held).1) notSource
                · exact absurd (congrArg some (Except.ok.inj (was.reached.symm.trans target)))
                    notTarget
  · obtain ⟨⟨new, progress⟩, hc, rfl⟩ := there hd
    have was : progress.UnderWay := by
      cases progress with
      | writing place n => trivial
      | waiting | synced | ended => exact underWay
    obtain ⟨r, writable⟩ := h.begun hc was
    obtain ⟨reached', -, -, -⟩ := writable_eq_ok_iff.1 writable
    obtain rfl : r = p := Except.ok.inj (reached'.symm.trans held.reached)
    refine ⟨r, (keeps_rename held renamed).writable writable ?_⟩
    rw [result, find?_put _ _ _ (ne_nil_of_find? found.not_directory)]
    split
    · simp
    · rw [find?_drop _ _ (ne_nil_of_find? held.not_directory), if_pos rfl]
      simp

/-- **Every step keeps track of the files.** -/
theorem step (h : Tracked path s) (taken : Step path s i act s') : Tracked path s' := by
  cases taken with
  | create waiting target =>
      obtain ⟨-, -, -, free⟩ := writable_eq_ok_iff.1 target
      have held := holds_put target .empty
      refine (h.put free .empty).set (fun e => ?_) fun _ => ⟨_, held.writable⟩
      cases e
      exact ⟨_, .inl held⟩
  | @write content place n m writing forth inside =>
      have written := h.pour writing (content.extract n m)
      refine written.set (fun e => ?_) fun _ => written.begun writing trivial
      cases e
      exact written.placed writing
  | sync written => exact h.set (fun e => nomatch e) fun _ => h.begun written trivial
  | rename synced source target renamed =>
      obtain ⟨p, content, held⟩ := h.exists_source synced trivial renamed
      obtain rfl := Except.ok.inj (source.symm.trans held.reached)
      exact (h.rename held target renamed).set (fun e => nomatch e) fun u => u.elim
  | stop there => exact h.set (fun e => nomatch e) fun u => u.elim

end Tracked

theorem tracked_after (h : Tracked path first) {turns : List Turn}
    (reached : first.after path turns = some s) : Tracked path s :=
  after_keeps Tracked.step h reached

end Files

end PackGuard
