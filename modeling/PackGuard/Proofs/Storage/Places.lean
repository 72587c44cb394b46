import PackGuard.Storage.Files

/-!
# Where a path leads

A path leads through directories, so where it leads depends on nothing but the directories there are.

* `Keeps`: what stays a directory; `Keeps.reach`: **then every path leads where it led**.
* `Holds`: a file stands under a path; `read_eq_ok_iff`: that is what reading finds.
* `holds_put`, `holds_rename`: **what is written or renamed to a path stands under it**.
-/

namespace PackGuard.Files

variable {fs fs' : Files} {path : String} {p q : List String} {content : ByteArray}

/-! ## 1. Ways through directories -/

theorem blocked?_eq_none_iff {ds : List (List String)} :
    fs.blocked? ds = none ↔ ∀ d ∈ ds, tooLong d = false ∧ fs.find? d = some .directory := by
  induction ds with
  | nil => simp [blocked?]
  | cons d ds ih =>
      rw [blocked?, List.forall_mem_cons, ← ih]
      cases tooLong d with
      | true => simp
      | false =>
          cases fs.find? d with
          | none => simp
          | some e => cases e <;> simp

/-- A path leads to the end of its way, if all other places on it are directories. -/
theorem reach_eq_ok_iff :
    fs.reach path = .ok p ↔
      malformed? path = none ∧ (Path.places fs.working path).getLast? = some p ∧
        ∀ d ∈ (Path.places fs.working path).dropLast,
          tooLong d = false ∧ fs.find? d = some .directory := by
  rw [reach, ← blocked?_eq_none_iff]
  cases malformed? path with
  | some fault => simp
  | none =>
      simp only [follow, true_and]
      cases (Path.places fs.working path).getLast? with
      | none => simp
      | some e => cases fs.blocked? (Path.places fs.working path).dropLast <;> simp

/-- **What stays when files change**: every directory, and where one works. -/
structure Keeps (fs fs' : Files) : Prop where
  working : fs'.working = fs.working
  directories : ∀ d, fs.find? d = some .directory → fs'.find? d = some .directory

/-- **Where the directories stay, every path leads where it led.** -/
theorem Keeps.reach (keeps : fs.Keeps fs') (reached : fs.reach path = .ok p) :
    fs'.reach path = .ok p := by
  rw [reach_eq_ok_iff] at reached ⊢
  obtain ⟨wellFormed, last, way⟩ := reached
  rw [keeps.working]
  exact ⟨wellFormed, last, fun d hd => ⟨(way d hd).1, keeps.directories d (way d hd).2⟩⟩

theorem Keeps.trans {fs'' : Files} (first : fs.Keeps fs') (second : fs'.Keeps fs'') :
    fs.Keeps fs'' where
  working := second.working.trans first.working
  directories d hd := second.directories d (first.directories d hd)

/-- The root is a directory. -/
theorem ne_nil_of_find? (h : fs.find? p ≠ some .directory) : p ≠ [] := by
  rintro rfl
  exact h rfl

theorem keeps_put (h : fs.find? p ≠ some .directory) (e : FileEntry) : fs.Keeps (fs.put p e) where
  working := rfl
  directories d hd := by
    have other : d ≠ p := by
      rintro rfl
      exact h hd
    rw [find?_put fs e d (ne_nil_of_find? h), if_neg other, hd]

theorem keeps_drop (h : fs.find? p ≠ some .directory) : fs.Keeps (fs.drop p) where
  working := rfl
  directories d hd := by
    have other : d ≠ p := by
      rintro rfl
      exact h hd
    rw [find?_drop fs d (ne_nil_of_find? h), if_neg other, hd]

/-! ## 2. Places to look at, to write to and to rename to -/

theorem place_eq_ok_iff :
    fs.place path = .ok p ↔
      fs.reach path = .ok p ∧ tooLong p = false ∧
        (Path.endsInSlash path = true → ∀ c, fs.find? p ≠ some (.file c)) := by
  unfold place
  cases fs.reach path with
  | error fault => simp
  | ok r => grind

theorem writable_eq_ok_iff :
    fs.writable path = .ok p ↔
      fs.reach path = .ok p ∧ Path.endsInSlash path = false ∧ tooLong p = false ∧
        fs.find? p ≠ some .directory := by
  unfold writable
  cases fs.reach path with
  | error fault => simp
  | ok r => grind

theorem nameable_eq_ok_iff :
    fs.nameable path = .ok p ↔
      fs.reach path = .ok p ∧ Path.endsInStep path = false ∧ tooLong p = false ∧
        Path.endsInSlash path = false ∧ fs.find? p ≠ some .directory := by
  unfold nameable
  cases fs.reach path with
  | error fault => simp
  | ok r => grind

theorem rename_eq_ok_iff {source target : String} :
    fs.rename source target = .ok fs' ↔
      ∃ p e q, fs.place source = .ok p ∧ fs.find? p = some e ∧ fs.nameable target = .ok q ∧
        (fs.drop p).put q e = fs' := by
  unfold rename
  cases fs.place source with
  | error fault => simp
  | ok p =>
      cases entry : fs.find? p with
      | none => simp [entry]
      | some e => cases fs.nameable target <;> simp [Except.map, entry]

/-! ## 3. Files under a path -/

/-- **A file stands under a path**, at a place and with a content. -/
structure Holds (fs : Files) (path : String) (p : List String) (content : ByteArray) : Prop where
  reached : fs.reach path = .ok p
  short : tooLong p = false
  noSlash : Path.endsInSlash path = false
  entry : fs.find? p = some (.file content)

namespace Holds

theorem not_directory (h : fs.Holds path p content) : fs.find? p ≠ some .directory := by
  rw [h.entry]
  simp

theorem place (h : fs.Holds path p content) : fs.place path = .ok p := by
  refine place_eq_ok_iff.2 ⟨h.reached, h.short, fun slash => ?_⟩
  rw [h.noSlash] at slash
  cases slash

theorem writable (h : fs.Holds path p content) : fs.writable path = .ok p :=
  writable_eq_ok_iff.2 ⟨h.reached, h.noSlash, h.short, h.not_directory⟩

/-- A file that is not changed stands where it stood. -/
theorem of_keeps (h : fs.Holds path p content) (keeps : fs.Keeps fs')
    (same : fs'.find? p = fs.find? p) : fs'.Holds path p content :=
  { h with reached := keeps.reach h.reached, entry := same.trans h.entry }

/-- A change elsewhere leaves a file alone. -/
theorem put_elsewhere (h : fs.Holds path p content) (free : fs.find? q ≠ some .directory)
    (other : p ≠ q) (e : FileEntry) : (fs.put q e).Holds path p content :=
  h.of_keeps (keeps_put free e) (by rw [find?_put fs e p (ne_nil_of_find? free), if_neg other])

end Holds

/-- **Reading finds the file that stands under a path.** -/
theorem read_eq_ok_iff : fs.read path = .ok content ↔ ∃ p, fs.Holds path p content := by
  constructor
  · intro found
    unfold read at found
    cases place : fs.place path with
    | error fault => simp [place] at found
    | ok p =>
        obtain ⟨reached, short, slash⟩ := place_eq_ok_iff.1 place
        cases entry : fs.find? p with
        | none => simp [place, entry] at found
        | some e =>
            cases e with
            | directory => simp [place, entry] at found
            | file c =>
                obtain rfl : c = content := by simpa [place, entry] using found
                exact ⟨p, reached, short, by simpa using fun h => slash h c entry, entry⟩
  · rintro ⟨p, holds⟩
    simp [read, holds.place, holds.entry]

/-- **What is written under a path stands there.** -/
theorem holds_put (writable : fs.writable path = .ok p) (content : ByteArray) :
    (fs.put p (.file content)).Holds path p content := by
  obtain ⟨reached, noSlash, short, free⟩ := writable_eq_ok_iff.1 writable
  refine ⟨(keeps_put free _).reach reached, short, noSlash, ?_⟩
  rw [find?_put fs _ p (ne_nil_of_find? free), if_pos rfl]

/-- A renaming leaves every directory where it is. -/
theorem keeps_rename {source target : String} (h : fs.Holds source p content)
    (renamed : fs.rename source target = .ok fs') : fs.Keeps fs' := by
  obtain ⟨r, e, q, place, -, nameable, rfl⟩ := rename_eq_ok_iff.1 renamed
  obtain rfl : r = p := Except.ok.inj (place.symm.trans h.place)
  obtain ⟨-, -, -, -, free⟩ := nameable_eq_ok_iff.1 nameable
  have dropped : (fs.drop r).find? q ≠ some .directory := by
    rw [find?_drop fs q (ne_nil_of_find? h.not_directory)]
    split
    · simp
    · exact free
  exact (keeps_drop h.not_directory).trans (keeps_put dropped e)

/-- **A file that was renamed stands under its new path.** -/
theorem holds_rename {source target : String} (h : fs.Holds source p content)
    (renamed : fs.rename source target = .ok fs') :
    ∃ q, fs.reach target = .ok q ∧ fs' = (fs.drop p).put q (.file content) ∧
      fs'.Holds target q content := by
  have keeps := keeps_rename h renamed
  obtain ⟨r, e, q, place, entry, nameable, rfl⟩ := rename_eq_ok_iff.1 renamed
  obtain rfl : r = p := Except.ok.inj (place.symm.trans h.place)
  obtain rfl : e = .file content := Option.some.inj (entry.symm.trans h.entry)
  obtain ⟨reached, -, short, noSlash, free⟩ := nameable_eq_ok_iff.1 nameable
  refine ⟨q, reached, rfl, keeps.reach reached, short, noSlash, ?_⟩
  rw [find?_put _ _ q (ne_nil_of_find? free), if_pos rfl]

end PackGuard.Files
