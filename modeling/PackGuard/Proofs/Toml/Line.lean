import PackGuard.Toml.Document

/-!
# A line that gives a key a number

The shortest document that says anything is one line: a bare key, an equals sign, a whole number.
Before a value is taken for a whole number it could be a date, a time or a fraction, and all three
begin with digits.

* `figures`: the digits of a number, which the readers take as a whole (`decimal?_figures`).
* `moment?_line`: digits up to the end of the line are no date and no time.
* `value?_figures`: **a number up to the end of the line is read as this number**.
* `document?_line`: **the line denotes the table in which the key stands for the number**.
-/

namespace PackGuard.Toml

/-! ## 1. Digits -/

/-- The decimal digits of a number. -/
def figures (n : Nat) : List Char := Nat.toDigits 10 n

theorem isDigit_figures {n : Nat} : ∀ c ∈ figures n, c.isDigit = true :=
  fun _ hc => Nat.isDigit_of_mem_toDigits (by decide) (by decide) hc

theorem digitsValue_figures (n : Nat) : Numeral.digitsValue 0 (figures n) = n := by
  have value := Nat.ofDigitChars_toDigits (b := 10) (n := n) (by decide) (by decide)
  rwa [Nat.ofDigitChars_eq_foldl] at value

theorem digitChar_cases :
    ∀ n < 10, n = 0 ∨ n.digitChar.isDigit = true ∧ n.digitChar ≠ '0' := by
  decide

/-- No number but zero begins with a zero. -/
theorem figures_cases (n : Nat) :
    n = 0 ∧ figures n = ['0'] ∨ ∃ d ds, figures n = d :: ds ∧ d.isDigit = true ∧ d ≠ '0' := by
  induction n using Nat.strongRecOn with
  | _ n ih =>
      unfold figures at ih ⊢
      rw [Nat.toDigits_eq_if (by decide)]
      split
      · next small =>
          rcases digitChar_cases n small with rfl | first
          · exact .inl ⟨rfl, rfl⟩
          · exact .inr ⟨_, [], rfl, first⟩
      · next great =>
          rcases ih (n / 10) (by omega) with ⟨zero, -⟩ | ⟨d, ds, e, first⟩
          · omega
          · exact .inr ⟨d, ds ++ [(n % 10).digitChar], by rw [e]; rfl, first⟩

theorem exists_figures (n : Nat) : ∃ d ds, figures n = d :: ds ∧ d.isDigit = true := by
  rcases figures_cases n with ⟨-, e⟩ | ⟨d, ds, e, digit, -⟩
  · exact ⟨'0', [], e, by decide⟩
  · exact ⟨d, ds, e, digit⟩

/-- A digit is no character of another kind. -/
theorem ne_of_digit {d c : Char} (digit : d.isDigit = true) (other : c.isDigit = false) : d ≠ c := by
  rintro rfl
  rw [digit] at other
  cases other

/-! ## 2. What is no date and no time -/

section Line

variable {ds r : List Char}

theorem digitRun_line (digits : ∀ c ∈ ds, c.isDigit = true) (after : Bool) :
    digitRun Char.isDigit after (ds ++ '\n' :: r) = (ds, '\n' :: r) := by
  induction ds generalizing after with
  | nil => cases after <;> simp [digitRun]
  | cons d ds ih =>
      have digit := digits d List.mem_cons_self
      have underscore : d ≠ '_' := ne_of_digit digit (by decide)
      have rest := ih fun c hc => digits c (List.mem_cons_of_mem d hc)
      cases after <;> simp [digitRun, underscore, digit, rest]

/-- Behind some of the digits stands another one or the end of the line. -/
theorem fixedDigits?_line (digits : ∀ c ∈ ds, c.isDigit = true) {n least most v : Nat}
    {rest : List Char} (h : fixedDigits? n least most (ds ++ '\n' :: r) = some (v, rest)) :
    ∃ c t, rest = c :: t ∧ (c.isDigit = true ∨ c = '\n') := by
  simp only [fixedDigits?] at h
  split at h
  · next taken =>
      cases h
      simp only [Bool.and_eq_true, List.all_eq_true] at taken
      by_cases inside : n ≤ ds.length
      · rw [List.drop_append_of_le_length inside]
        cases left : ds.drop n with
        | nil => exact ⟨'\n', r, rfl, .inr rfl⟩
        | cons c t =>
            exact ⟨c, _, rfl, .inl (digits c (List.mem_of_mem_drop (left ▸ List.mem_cons_self)))⟩
      · -- the end of the line would be among the digits
        obtain ⟨k, hk⟩ : ∃ k, n - ds.length = k + 1 := ⟨n - ds.length - 1, by omega⟩
        have last : '\n' ∈ (ds ++ '\n' :: r).take n := by
          rw [List.take_append, hk]
          simp
        exact absurd (taken.1.1.2 '\n' last) (by decide)
  · cases h

theorem expect?_line (digits : ∀ c ∈ ds, c.isDigit = true) {n least most v : Nat}
    {rest : List Char} (h : fixedDigits? n least most (ds ++ '\n' :: r) = some (v, rest)) {c : Char}
    (other : c.isDigit = false) (inLine : c ≠ '\n') : expect? c rest = none := by
  obtain ⟨d, t, rfl, kind⟩ := fixedDigits?_line digits h
  have ne : d ≠ c := by
    rcases kind with digit | rfl
    · exact ne_of_digit digit other
    · exact inLine.symm
  simp [expect?, ne]

/-- Digits up to the end of the line are no date and no time, which have signs between their
    digits. -/
theorem moment?_line (digits : ∀ c ∈ ds, c.isDigit = true) :
    moment? (ds ++ '\n' :: r) = none := by
  have noDate : date? (ds ++ '\n' :: r) = none := by
    unfold date?
    cases h : fixedDigits? 4 0 9999 (ds ++ '\n' :: r) with
    | none => rfl
    | some x => simp [expect?_line digits h]
  have noTime : time? (ds ++ '\n' :: r) = none := by
    unfold time?
    cases h : fixedDigits? 2 0 23 (ds ++ '\n' :: r) with
    | none => rfl
    | some x => simp [expect?_line digits h]
  simp [moment?, noDate, noTime]

end Line

/-! ## 3. A whole number at the end of its line -/

theorem sign_digit {d : Char} (digit : d.isDigit = true) (r : List Char) :
    sign (d :: r) = ([], d :: r) := by
  simp [sign, ne_of_digit digit (c := '+') (by decide), ne_of_digit digit (c := '-') (by decide)]

theorem specialFloat?_digit {d : Char} (digit : d.isDigit = true) (r : List Char) :
    specialFloat? (d :: r) = none := by
  simp [specialFloat?, sign_digit digit, ne_of_digit digit (c := 'i') (by decide),
    ne_of_digit digit (c := 'n') (by decide)]

theorem decimal?_figures (n : Nat) (r : List Char) :
    decimal? (figures n ++ '\n' :: r) = some (figures n, '\n' :: r) := by
  rcases figures_cases n with ⟨-, e⟩ | ⟨d, ds, e, digit, nonzero⟩
  · simp [decimal?, sign, e]
  · have run := digitRun_line (r := r) (e ▸ isDigit_figures) false
    rw [e]
    simp only [List.cons_append] at run ⊢
    simp [decimal?, sign_digit digit, nonzero, digits?, run]

theorem decimalValue_figures (n : Nat) : decimalValue (figures n) = n := by
  obtain ⟨d, ds, e, digit⟩ := exists_figures n
  have value := digitsValue_figures n
  rw [e] at value ⊢
  simp [decimalValue, ne_of_digit digit (c := '+') (by decide),
    ne_of_digit digit (c := '-') (by decide), value]

theorem integer?_figures {n : Nat} (fitting : fits n = true) (r : List Char) :
    integer? (figures n ++ '\n' :: r) = some ((n : Int), '\n' :: r) := by
  have decimal : integer? (figures n ++ '\n' :: r) =
      (decimal? (figures n ++ '\n' :: r)).bind fun x =>
        if fits (decimalValue x.1) then some (decimalValue x.1, x.2) else none := by
    rcases figures_cases n with ⟨-, e⟩ | ⟨d, ds, e, -, nonzero⟩
    · rw [e]; rfl
    · rw [e]; simp [integer?, nonzero]
  rw [decimal, decimal?_figures]
  simp [decimalValue_figures, fitting]

theorem numeral?_figures {n : Nat} (fitting : fits n = true) (r : List Char) :
    numeral? (figures n ++ '\n' :: r) = some (.integer n, '\n' :: r) := by
  have noFloat : float? (figures n ++ '\n' :: r) = none := by
    have special : specialFloat? (figures n ++ '\n' :: r) = none := by
      obtain ⟨d, ds, e, digit⟩ := exists_figures n
      rw [e]
      exact specialFloat?_digit digit _
    simp [float?, decimal?_figures, fractional?, exponent?, fraction?, special]
  simp [numeral?, moment?_line isDigit_figures, noFloat, integer?_figures fitting]

/-- **A number up to the end of the line is read as this number.** -/
theorem value?_figures {n : Nat} (fitting : fits n = true) (depth : Nat) (r : List Char) :
    value? depth (figures n ++ '\n' :: r) = some (.integer n, '\n' :: r) := by
  obtain ⟨d, ds, e, digit⟩ := exists_figures n
  have numeral := numeral?_figures fitting r
  rw [e, List.cons_append] at numeral ⊢
  have scalar : scalar? (d :: (ds ++ '\n' :: r)) = some (.integer n, '\n' :: r) := by
    simp [scalar?, numeral, ne_of_digit digit (c := '"') (by decide),
      ne_of_digit digit (c := '\'') (by decide), ne_of_digit digit (c := 't') (by decide),
      ne_of_digit digit (c := 'f') (by decide), ne_of_digit digit (c := 'i') (by decide),
      ne_of_digit digit (c := 'n') (by decide)]
  cases depth <;> simp [value?, scalar, ne_of_digit digit (c := '[') (by decide),
    ne_of_digit digit (c := '\x7b') (by decide)]

/-! ## 4. A document of one line -/

/-- What follows a key in the line that gives it a number. -/
def assignment (n : Nat) : List Char := ' ' :: '=' :: ' ' :: (figures n ++ ['\n'])

theorem skipBlanks_figures (n : Nat) (r : List Char) :
    skipBlanks (figures n ++ r) = figures n ++ r := by
  obtain ⟨d, ds, e, digit⟩ := exists_figures n
  rw [e]
  simp [skipBlanks, isBlank, ne_of_digit digit (c := ' ') (by decide),
    ne_of_digit digit (c := '\t') (by decide)]

/-- A character of a bare key is no character of another kind. -/
theorem ne_of_bare {c x : Char} (bare : isBareKeyChar c = true) (other : isBareKeyChar x = false) :
    c ≠ x := by
  rintro rfl
  rw [bare] at other
  cases other

section Word

variable {c : Char} {w : List Char}

theorem skipBlanks_word (bare : isBareKeyChar c = true) (r : List Char) :
    skipBlanks (c :: r) = c :: r := by
  simp [skipBlanks, isBlank, ne_of_bare bare (x := ' ') (by decide),
    ne_of_bare bare (x := '\t') (by decide)]

theorem key?_word (bare : ∀ x ∈ c :: w, isBareKeyChar x = true) (n : Nat) :
    key? (c :: (w ++ assignment n)) =
      some ([String.ofList (c :: w)], '=' :: ' ' :: (figures n ++ ['\n'])) := by
  have first := bare c List.mem_cons_self
  have word : (c :: (w ++ assignment n)).takeWhile isBareKeyChar = c :: w := by
    rw [← List.cons_append, List.takeWhile_append_of_pos bare]
    simp [assignment, isBareKeyChar]
  have simple : simpleKey? (c :: (w ++ assignment n)) =
      some (String.ofList (c :: w), assignment n) := by
    rw [simpleKey?]
    · simp [word]
    · rintro _ e
      exact ne_of_bare first (x := '"') (by decide) (List.cons.inj e).1
    · rintro _ e
      exact ne_of_bare first (x := '\'') (by decide) (List.cons.inj e).1
  have blanks : skipBlanks (assignment n) = '=' :: ' ' :: (figures n ++ ['\n']) := rfl
  show keyParts? (78 + 1) (c :: (w ++ assignment n)) = _
  rw [keyParts?, skipBlanks_word first, simple]
  simp [blanks]

theorem statement?_word (bare : ∀ x ∈ c :: w, isBareKeyChar x = true) {n : Nat}
    (fitting : fits n = true) :
    statement? (c :: (w ++ assignment n)) =
      some (.define [String.ofList (c :: w)] (.integer n), []) := by
  have bracket : c ≠ '[' := ne_of_bare (bare c List.mem_cons_self) (by decide)
  have value : keyValue (value? mostNesting) (c :: (w ++ assignment n)) =
      some (([String.ofList (c :: w)], .integer n), ['\n']) := by
    have blanks : skipBlanks (' ' :: (figures n ++ ['\n'])) = figures n ++ ['\n'] :=
      skipBlanks_figures n ['\n']
    have line : skipBlanks ['\n'] = ['\n'] := rfl
    simp [keyValue, key?_word bare, expect?, blanks, value?_figures fitting, line]
  rw [statement?]
  · simp [value, lineEnd?, skipBlanks, isBlank, skipComment, newline?]
  · rintro _ e
    exact bracket (List.cons.inj e).1
  · rintro _ e
    exact bracket (List.cons.inj e).1

theorem statements?_word (bare : ∀ x ∈ c :: w, isBareKeyChar x = true) {n : Nat}
    (fitting : fits n = true) :
    statements? (c :: (w ++ assignment n)) =
      some [.define [String.ofList (c :: w)] (.integer n)] := by
  have first := bare c List.mem_cons_self
  have newline : newline? (c :: (w ++ assignment n)) = none := by
    simp [newline?, ne_of_bare first (x := '\n') (by decide),
      ne_of_bare first (x := '\r') (by decide)]
  have unmarked : statements? (c :: (w ++ assignment n)) =
      statementLines? ((w ++ assignment n).length + 1 + 1) (c :: (w ++ assignment n)) := by
    simp [statements?, ne_of_bare first (x := '\ufeff') (by decide)]
  rw [unmarked, statementLines?, skipBlanks_word first]
  simp [ne_of_bare first (x := '#') (by decide), newline, statement?_word bare fitting,
    statementLines?, skipBlanks]

end Word

/-- **A line with a bare key and a number denotes the table in which the key stands for the
    number.** -/
theorem document?_line (word : List Char) (first : word ≠ [])
    (bare : ∀ x ∈ word, isBareKeyChar x = true) {n : Nat} (fitting : fits n = true) :
    document? (String.ofList (word ++ assignment n)) =
      some (.table [(String.ofList word, .integer n)]) := by
  cases word with
  | nil => exact absurd rfl first
  | cons c w =>
      rw [document?, String.toList_ofList, List.cons_append, statements?_word bare fitting]
      rfl

end PackGuard.Toml
