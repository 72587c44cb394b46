import PackGuard.Proofs.Storage.Places

/-!
# The temporary file stands beside the file

A path is a folder and a last name. Another extension changes the last name and nothing before it, so
the temporary file of a file stands in the same folder under another name.

* `exists_folder`: every path is a folder and a name; `places_folder`: **the name is the last step of
  the way**.
* `withExtension_folder`: **another extension changes the last name alone**.
* `temporary_elsewhere`: **the temporary file of a file stands elsewhere**, unless it has the same
  path. A file with the extension `new` is its own temporary file.
-/

namespace PackGuard.Path

/-! ## 1. Folders and last names -/

/-- A text that names may follow: it is empty or ends in a slash. -/
def IsFolder (f : List Char) : Prop := f = [] ∨ ∃ g, f = g ++ ['/']

/-- Every path is a folder with a name behind it, which has no slash and may be empty. -/
theorem exists_folder (cs : List Char) : ∃ f n, cs = f ++ n ∧ IsFolder f ∧ '/' ∉ n := by
  induction cs with
  | nil => exact ⟨[], [], rfl, .inl rfl, by simp⟩
  | cons c cs ih =>
      obtain ⟨f, n, rfl, rfl | ⟨g, rfl⟩, plain⟩ := ih
      · by_cases slash : c = '/'
        · exact ⟨['/'], n, by simp [slash], .inr ⟨[], rfl⟩, plain⟩
        · exact ⟨[], c :: n, rfl, .inl rfl, by simp [Ne.symm slash, plain]⟩
      · exact ⟨c :: g ++ ['/'], n, rfl, .inr ⟨c :: g, rfl⟩, plain⟩

theorem between_ne_nil (cs : List Char) : between cs ≠ [] := by
  cases cs with
  | nil => simp [between]
  | cons c r =>
      rw [between]
      split
      · simp
      · split <;> simp

theorem between_append (g w : List Char) : between (g ++ '/' :: w) = between g ++ between w := by
  induction g with
  | nil => simp [between]
  | cons c g ih =>
      rw [List.cons_append, between, between, ih]
      by_cases slash : c = '/'
      · simp [slash]
      · cases first : between g with
        | nil => exact absurd first (between_ne_nil g)
        | cons word words => simp [slash]

theorem between_name {n : List Char} (plain : '/' ∉ n) : between n = [n] := by
  induction n with
  | nil => rfl
  | cons c n ih =>
      simp only [List.mem_cons, not_or] at plain
      rw [between, ih plain.2]
      simp [Ne.symm plain.1]

section Name

variable {f n : List Char}

theorem parts_folder (folder : IsFolder f) (plain : '/' ∉ n) (named : n ≠ []) :
    parts (String.ofList (f ++ n)) = parts (String.ofList f) ++ [String.ofList n] := by
  rcases folder with rfl | ⟨g, rfl⟩
  · simp [parts, between_name plain, named, between]
  · have before : between (g ++ ['/']) = between g ++ [[]] := between_append g []
    rw [List.append_assoc]
    simp [parts, between_append, between_name plain, named, before]

/-- Where a path starts: at the root behind a slash, else where one works. -/
def anchor (working : List String) (f : List Char) : List String :=
  if f.head? = some '/' then [] else working

theorem along_append (place : List String) (ps : List String) (x : String) :
    along place (ps ++ [x]) = along place ps ++ [step (ps.foldl step place) x] := by
  induction ps generalizing place with
  | nil => rfl
  | cons p ps ih => simp [along, ih]

theorem mem_along (place : List String) (ps : List String) :
    ps.foldl step place ∈ along place ps := by
  induction ps generalizing place with
  | nil => simp [along]
  | cons p ps ih => exact List.mem_cons_of_mem _ (ih _)

/-- The place of a folder. -/
def folderPlace (working : List String) (f : List Char) : List String :=
  (parts (String.ofList f)).foldl step (anchor working f)

/-- A path with a last name starts where its folder does. -/
theorem startsWith_folder (folder : IsFolder f) (plain : '/' ∉ n) :
    (String.ofList (f ++ n)).startsWith "/" = true ↔ f.head? = some '/' := by
  rw [String.startsWith_string_iff, String.toList_ofList]
  rcases folder with rfl | ⟨g, rfl⟩
  · cases n with
    | nil => simp
    | cons c n => simpa [eq_comm] using fun e : '/' = c => plain (e ▸ List.mem_cons_self)
  · cases g <;> simp [List.cons_prefix_cons, eq_comm]

theorem places_folder (working : List String) (folder : IsFolder f) (plain : '/' ∉ n)
    (named : n ≠ []) :
    places working (String.ofList (f ++ n)) =
      along (anchor working f) (parts (String.ofList f)) ++
        [step (folderPlace working f) (String.ofList n)] := by
  have nonempty : (String.ofList (f ++ n)).isEmpty = false := by
    simp [String.isEmpty_eq_false_iff, String.ofList_eq_empty_iff, named]
  have start : (if (String.ofList (f ++ n)).startsWith "/" then [] else working) =
      anchor working f := by
    simp only [startsWith_folder folder plain, anchor]
  rw [places, nonempty, start, parts_folder folder plain named, along_append]
  rfl

/-! ## 2. The name of a path -/

/-- A last name, or a step up in its place: no slash, and no single point. -/
structure IsName (n : List Char) : Prop where
  plain : '/' ∉ n
  nonempty : n ≠ []
  noPoint : n ≠ ['.']

/-- A last name is kept at the end. -/
theorem trimEnd_folder (name : IsName n) : trimEnd (f ++ n) = f ++ n := by
  have kept : trimEnd.strip ((f ++ n).reverse) = (f ++ n).reverse := by
    rw [List.reverse_append]
    cases back : n.reverse with
    | nil => exact absurd (List.reverse_eq_nil_iff.1 back) name.nonempty
    | cons x t =>
        have slash : ∀ c ∈ x :: t, c ≠ '/' := by
          rintro c hc rfl
          exact name.plain (List.mem_reverse.1 (back ▸ hc))
        rw [List.cons_append, trimEnd.strip]
        · rintro r e
          exact slash x List.mem_cons_self (List.cons.inj e).1
        · rintro r e
          obtain ⟨rfl, behind⟩ := List.cons.inj e
          cases t with
          | nil => exact name.noPoint (by simpa using congrArg List.reverse back)
          | cons y t => exact slash y (by simp) (List.cons.inj behind).1
  rw [trimEnd, kept, List.reverse_reverse]

theorem name?_folder (folder : IsFolder f) (name : IsName n) :
    name? (String.ofList (f ++ n)) =
      if n = ['.', '.'] then none else some (String.ofList n) := by
  have last : ((f ++ n).reverse.takeWhile (· != '/')).reverse = n := by
    have all : ∀ c ∈ n.reverse, (c != '/') = true := by
      intro c hc
      rw [bne_iff_ne]
      rintro rfl
      exact name.plain (List.mem_reverse.1 hc)
    rw [List.reverse_append, List.takeWhile_append_of_pos all]
    rcases folder with rfl | ⟨g, rfl⟩ <;> simp
  rw [name?, String.toList_ofList, trimEnd_folder name, last]
  simp [name.nonempty, name.noPoint]

/-- A step up is no name. -/
theorem name?_up (folder : IsFolder f) (name : IsName n) (up : n = ['.', '.']) :
    name? (String.ofList (f ++ n)) = none := by
  rw [name?_folder folder name, if_pos up]

theorem name?_of_name (folder : IsFolder f) (name : IsName n) (down : n ≠ ['.', '.']) :
    name? (String.ofList (f ++ n)) = some (String.ofList n) := by
  rw [name?_folder folder name, if_neg down]

/-! ## 3. Another extension -/

/-- A name is its stem, or its stem with an extension behind a point. The stem is never empty. -/
theorem stem_cases (name : IsName n) :
    stem n ≠ [] ∧ (stem n = n ∨ ∃ extension, n = stem n ++ '.' :: extension) := by
  unfold stem
  split
  · next r back =>
      split
      · exact ⟨name.nonempty, .inl rfl⟩
      · next stemmed =>
          refine ⟨by simpa using stemmed, .inr ⟨(n.reverse.takeWhile (· != '.')).reverse, ?_⟩⟩
          have whole := List.takeWhile_append_dropWhile (p := (· != '.')) (l := n.reverse)
          rw [back] at whole
          simpa using (congrArg List.reverse whole).symm
  · exact ⟨name.nonempty, .inl rfl⟩

/-- Taking the extension off leaves the whole name, or the stem with its point. -/
theorem take_extension (name : IsName n) :
    n.take (n.length - extensionLength n) = n ∨
      n.take (n.length - extensionLength n) = stem n ++ ['.'] := by
  obtain ⟨-, same | ⟨extension, e⟩⟩ := stem_cases name
  · rw [extensionLength, same]
    simp
  · have length := congrArg List.length e
    simp only [List.length_append, List.length_cons] at length
    have kept : n.length - extensionLength n = (stem n).length + 1 := by
      rw [extensionLength]
      omega
    have taken : (stem n ++ '.' :: extension).take ((stem n).length + 1) = stem n ++ ['.'] :=
      List.take_length_add_append 1
    rw [← e, ← kept] at taken
    exact .inr taken

/-- Behind a folder stands a name again once the extension is taken off. -/
theorem withoutExtension_folder (folder : IsFolder f) (name : IsName n) (down : n ≠ ['.', '.']) :
    ∃ m, withoutExtension (String.ofList (f ++ n)) = String.ofList (f ++ m) ∧ IsName m := by
  refine ⟨n.take (n.length - extensionLength n), ?_,
    fun slash => name.plain (List.mem_of_mem_take slash), ?_, ?_⟩
  · have inside : (f ++ n).length - extensionLength n =
        f.length + (n.length - extensionLength n) := by
      have short : extensionLength n ≤ n.length := by unfold extensionLength; omega
      rw [List.length_append]
      omega
    rw [withoutExtension, name?_of_name folder name down, Option.map_some, Option.getD_some,
      String.toList_ofList, String.toList_ofList, inside, List.take_length_add_append]
  · rcases take_extension name with e | e <;> simp [e, name.nonempty]
  · rcases take_extension name with e | e <;> simp [e, name.noPoint, (stem_cases name).1]

theorem withoutExtension_up (folder : IsFolder f) (name : IsName n) (up : n = ['.', '.']) :
    withoutExtension (String.ofList (f ++ n)) = String.ofList (f ++ n) := by
  rw [withoutExtension, name?_up folder name up, Option.map_none, Option.getD_none, Nat.sub_zero,
    List.take_length, String.ofList_toList]

theorem withExtension_of_nameless {path rest : String} (without : withoutExtension path = rest)
    (nameless : name? rest = none) (extension : String) : withExtension path extension = rest := by
  unfold withExtension
  rw [without]
  dsimp only
  rw [nameless]

theorem withExtension_of_name {path rest name : String} (without : withoutExtension path = rest)
    (named : name? rest = some name) (extension : String) :
    withExtension path extension =
      String.ofList ((trimEnd rest.toList).take ((trimEnd rest.toList).length - name.length) ++
        stem name.toList) ++ "." ++ extension := by
  unfold withExtension
  rw [without]
  dsimp only
  rw [named]

/-- The stem of a name with an extension behind a point is a name. -/
theorem isName_stem (name : IsName n) {extension : List Char} (plain : '/' ∉ extension) :
    IsName (stem n ++ '.' :: extension) := by
  obtain ⟨stemmed, split⟩ := stem_cases name
  have inside : '/' ∉ stem n := by
    rcases split with e | ⟨x, e⟩
    · rw [e]
      exact name.plain
    · exact fun slash => name.plain (e ▸ List.mem_append_left _ slash)
  refine ⟨by simp [inside, plain], by simp, ?_⟩
  cases first : stem n with
  | nil => exact absurd first stemmed
  | cons c r => simp

/-- **A path with another extension differs from the path in its last name alone.** -/
theorem withExtension_folder (folder : IsFolder f) (name : IsName n) (extension : String)
    (plain : '/' ∉ extension.toList) :
    ∃ m, withExtension (String.ofList (f ++ n)) extension = String.ofList (f ++ m) ∧ IsName m ∧
      (n = ['.', '.'] → m = n) := by
  by_cases up : n = ['.', '.']
  · exact ⟨n, withExtension_of_nameless (withoutExtension_up folder name up)
      (name?_up folder name up) extension, name, fun _ => rfl⟩
  · obtain ⟨m, without, nameM⟩ := withoutExtension_folder folder name up
    by_cases upM : m = ['.', '.']
    · exact ⟨m, withExtension_of_nameless without (name?_up folder nameM upM) extension, nameM,
        fun e => absurd e up⟩
    · refine ⟨stem m ++ '.' :: extension.toList, ?_, isName_stem nameM plain, fun e => absurd e up⟩
      have before : (f ++ m).take ((f ++ m).length - (String.ofList m).length) = f := by simp
      rw [withExtension_of_name without (name?_of_name folder nameM upM), String.toList_ofList,
        String.toList_ofList, trimEnd_folder nameM, before]
      apply String.toList_inj.1
      simp

end Name

theorem step_name {n : List Char} (name : IsName n) (down : n ≠ ['.', '.'])
    (place : List String) : step place (String.ofList n) = place ++ [String.ofList n] := by
  have one : String.ofList n ≠ "." := fun e => name.noPoint (by simpa using congrArg String.toList e)
  have two : String.ofList n ≠ ".." := fun e => down (by simpa using congrArg String.toList e)
  simp [step, one, two]

theorem step_up (place : List String) : step place (String.ofList ['.', '.']) = place.dropLast :=
  rfl

theorem endsInSlash_folder (g : List Char) : endsInSlash (String.ofList (g ++ ['/'])) = true := by
  rw [endsInSlash, String.endsWith_eq_endsWith_toSlice, String.Slice.endsWith_string_iff]
  simp

end PackGuard.Path

/-! ## 4. Two files in one folder -/

namespace PackGuard.Files

variable {fs : Files} {path : String} {p t : List String} {content : ByteArray}

/-- The path of a file is a folder with a name behind it, and leads there through the folder. -/
theorem Holds.exists_name (h : fs.Holds path p content) :
    ∃ f n, path = String.ofList (f ++ n) ∧ Path.IsFolder f ∧ Path.IsName n ∧
      Path.step (Path.folderPlace fs.working f) (String.ofList n) = p := by
  obtain ⟨f, n, text, folder, plain⟩ := Path.exists_folder path.toList
  obtain rfl : path = String.ofList (f ++ n) := by rw [← text, String.ofList_toList]
  have nonempty : n ≠ [] := by
    rintro rfl
    rcases folder with rfl | ⟨g, rfl⟩
    · exact absurd (reach_eq_ok_iff.1 h.reached).2.1 (by simp [Path.places])
    · have slash := h.noSlash
      rw [List.append_nil, Path.endsInSlash_folder] at slash
      cases slash
  obtain ⟨-, last, way⟩ := reach_eq_ok_iff.1 h.reached
  rw [Path.places_folder fs.working folder plain nonempty] at last way
  rw [List.getLast?_concat, Option.some.injEq] at last
  rw [List.dropLast_concat] at way
  refine ⟨f, n, rfl, folder, ⟨plain, nonempty, ?_⟩, last⟩
  -- a single point leads to the folder itself, which is a directory
  rintro rfl
  refine h.not_directory ?_
  rw [← last]
  exact (way _ (Path.mem_along _ _)).2

/-- **The temporary file of a file stands elsewhere**, unless its path is the path of the file. -/
theorem temporary_elsewhere (h : fs.Holds path p content)
    (reached : fs.reach (temporary path) = .ok t) (beside : temporary path ≠ path) : p ≠ t := by
  obtain ⟨f, n, rfl, folder, name, last⟩ := h.exists_name
  obtain ⟨m, e, nameM, up⟩ :=
    Path.withExtension_folder folder name "new" (by decide)
  have lastM := (reach_eq_ok_iff.1 reached).2.1
  rw [temporary, e] at beside lastM
  rw [Path.places_folder fs.working folder nameM.plain nameM.nonempty, List.getLast?_concat,
    Option.some.injEq] at lastM
  have renamed : m ≠ n := by
    rintro rfl
    exact beside rfl
  have down : n ≠ ['.', '.'] := fun two => renamed (up two)
  rw [← last, ← lastM, Path.step_name name down]
  by_cases two : m = ['.', '.']
  · rw [two, Path.step_up]
    intro same
    have length := congrArg List.length same
    simp only [List.length_append, List.length_dropLast, List.length_singleton] at length
    omega
  · rw [Path.step_name nameM two]
    intro same
    have names := List.append_cancel_left same
    exact renamed (by simpa using (congrArg String.toList (List.cons.inj names).1).symm)

end PackGuard.Files
