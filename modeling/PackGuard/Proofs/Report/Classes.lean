import PackGuard.Report

/-!
# The class of a report

A report that holds a typed failure at any depth goes back to one of them (`GoesBackTo`): to the first
build failure, or, where there is none, to the first failure of an operation. Short name, exit code
and explanation look for it separately, and fall back on the texts only where there is none.

* `goesBackTo_iff`: what the three find is what the report goes back to.
* `origin?_contexts`: contexts do not change it, whatever they say.
* `exitCode_eq`: **the exit code is that of the short name**, also without a typed failure.
* `classified_as_bare`: **a report is classified like the bare failure to which it goes back.**
-/

namespace PackGuard

/-- Whether an item is more than a text. -/
def ReportItem.typed : ReportItem → Bool
  | text _ => false
  | failure _ => true
  | build _ => true

namespace Report

/-! ## 1. Where a report goes back to -/

/-- What a report goes back to: the first build failure, or, where there is none, the first failure
    of an operation. -/
inductive GoesBackTo (r : Report) : Origin → Prop where
  | build {before after : List ReportItem} {f : BuildFailure}
      (chain : r.items = before ++ .build f :: after) (first : ∀ g, .build g ∉ before) :
      GoesBackTo r (.build f)
  | failure {before after : List ReportItem} {f : Failure}
      (chain : r.items = before ++ .failure f :: after) (first : ∀ g, .failure g ∉ before)
      (alone : ∀ g, .build g ∉ r.items) :
      GoesBackTo r (.failure f)

/-- The bare failure as a report. -/
def Origin.bare : Origin → Report
  | build f => ofBuild f
  | failure f => ofFailure f

section Scan

/-! A scan for the items of one kind. -/

variable {β : Type} {kind : β → ReportItem} {pick : ReportItem → Option β}
  (picks : ∀ item b, pick item = some b ↔ item = kind b) {items : List ReportItem}

include picks

theorem findSome?_kind_eq_none_iff : items.findSome? pick = none ↔ ∀ b, kind b ∉ items := by
  rw [List.findSome?_eq_none_iff]
  constructor
  · intro h b mem
    have found := (picks (kind b) b).2 rfl
    rw [h _ mem] at found
    cases found
  · intro h item mem
    cases found : pick item with
    | none => rfl
    | some b => exact absurd ((picks item b).1 found ▸ mem) (h b)

theorem findSome?_kind_eq_some_iff {b : β} :
    items.findSome? pick = some b ↔
      ∃ before after, items = before ++ kind b :: after ∧ ∀ g, kind g ∉ before := by
  rw [List.findSome?_eq_some_iff]
  constructor
  · rintro ⟨before, item, after, chain, found, passed⟩
    refine ⟨before, after, ?_, ?_⟩
    · rw [chain, (picks item b).1 found]
    · rw [← findSome?_kind_eq_none_iff picks, List.findSome?_eq_none_iff]
      exact passed
  · rintro ⟨before, after, chain, first⟩
    refine ⟨before, kind b, after, chain, (picks _ b).2 rfl, ?_⟩
    rw [← findSome?_kind_eq_none_iff picks, List.findSome?_eq_none_iff] at first
    exact first

end Scan

theorem build?_eq_none_iff {items : List ReportItem} :
    build? items = none ↔ ∀ g, .build g ∉ items :=
  findSome?_kind_eq_none_iff (fun item g => by cases item <;> simp)

theorem build?_eq_some_iff {items : List ReportItem} {f : BuildFailure} :
    build? items = some f ↔
      ∃ before after, items = before ++ .build f :: after ∧ ∀ g, .build g ∉ before :=
  findSome?_kind_eq_some_iff (fun item g => by cases item <;> simp)

theorem failure?_eq_none_iff {items : List ReportItem} :
    failure? items = none ↔ ∀ g, .failure g ∉ items :=
  findSome?_kind_eq_none_iff (fun item g => by cases item <;> simp)

theorem failure?_eq_some_iff {items : List ReportItem} {f : Failure} :
    failure? items = some f ↔
      ∃ before after, items = before ++ .failure f :: after ∧ ∀ g, .failure g ∉ before :=
  findSome?_kind_eq_some_iff (fun item g => by cases item <;> simp)

/-- **What the functions that classify find is what the report goes back to.** -/
theorem goesBackTo_iff {r : Report} {o : Origin} : r.GoesBackTo o ↔ r.origin? = some o := by
  constructor
  · intro h
    cases h with
    | build chain first => rw [origin?, build?_eq_some_iff.2 ⟨_, _, chain, first⟩]
    | failure chain first alone =>
        rw [origin?, build?_eq_none_iff.2 alone, failure?_eq_some_iff.2 ⟨_, _, chain, first⟩]
        rfl
  · intro h
    unfold origin? at h
    split at h
    · next f found =>
        cases h
        obtain ⟨_, _, chain, first⟩ := build?_eq_some_iff.1 found
        exact .build chain first
    · next alone =>
        obtain ⟨f, found, rfl⟩ := Option.map_eq_some_iff.1 h
        obtain ⟨_, _, chain, first⟩ := failure?_eq_some_iff.1 found
        exact .failure chain first (build?_eq_none_iff.1 alone)

/-- A report goes back to nothing exactly if it holds texts alone. -/
theorem origin?_eq_none_iff {r : Report} :
    r.origin? = none ↔ ∀ item ∈ r.items, item.typed = false := by
  have scans : r.origin? = none ↔ build? r.items = none ∧ failure? r.items = none := by
    unfold origin?
    cases build? r.items <;> simp
  rw [scans, build?_eq_none_iff, failure?_eq_none_iff]
  constructor
  · intro ⟨noBuild, noFailure⟩ item mem
    cases item with
    | text => rfl
    | failure f => exact absurd mem (noFailure f)
    | build f => exact absurd mem (noBuild f)
  · intro texts
    exact ⟨fun f mem => (nomatch texts _ mem), fun f mem => (nomatch texts _ mem)⟩

theorem origin?_bare (o : Origin) : o.bare.origin? = some o := by
  cases o with
  | build => rfl
  | failure => rfl

/-! ## 2. Contexts -/

/-- A text in front changes nothing, -/
theorem origin?_wrap (r : Report) (context : String) : (r.wrap context).origin? = r.origin? :=
  rfl

/-- nor do any number of them. -/
theorem origin?_contexts (r : Report) (contexts : List String) :
    (contexts.foldl wrap r).origin? = r.origin? := by
  induction contexts generalizing r with
  | nil => rfl
  | cons context contexts ih => rw [List.foldl_cons, ih, origin?_wrap]

/-! ## 3. Short name, exit code and explanation -/

/-- What goes back to the same failure is classified alike. -/
theorem class_of_origin {r s : Report} {o : Origin} (hr : r.origin? = some o)
    (hs : s.origin? = some o) :
    r.reason = s.reason ∧ r.exitCode = s.exitCode ∧ r.explanation = s.explanation := by
  unfold reason exitCode explanation
  rw [hr, hs]
  cases o with
  | build => exact ⟨rfl, rfl, rfl⟩
  | failure => exact ⟨rfl, rfl, rfl⟩

/-- The exit code that belongs to a short name. -/
def codeOf (name : String) : Nat :=
  if name = "Build" ∨ name = "ConfigInvalid" then 3
  else if name = "Relay" ∨ name = "Io" then 4
  else 1

theorem failureExit_eq (f : Failure) : failureExit f = codeOf f.name := by
  cases f <;> rfl

/-- **The exit code is that of the short name**, with or without a typed failure. -/
theorem exitCode_eq (r : Report) : r.exitCode = codeOf r.reason := by
  unfold exitCode reason
  split
  · rfl
  · exact failureExit_eq _
  · split
    · rfl
    · rfl

theorem codeOf_cases (name : String) :
    (codeOf name = 3 ↔ name = "Build" ∨ name = "ConfigInvalid") ∧
    (codeOf name = 4 ↔ name = "Relay" ∨ name = "Io") ∧
    (codeOf name = 1 ↔ name ∉ ["Build", "ConfigInvalid", "Relay", "Io"]) := by
  unfold codeOf
  by_cases config : name = "Build" ∨ name = "ConfigInvalid"
  · rcases config with rfl | rfl <;> decide
  · by_cases output : name = "Relay" ∨ name = "Io"
    · rcases output with rfl | rfl <;> decide
    · rw [if_neg config, if_neg output]
      rw [not_or] at config output
      simp [config, output]

/-- **A report is classified like the bare failure to which it goes back**, below any number of
    contexts that say anything. -/
theorem classified_as_bare (r : Report) (contexts : List String) :
    ((∃ item ∈ r.items, item.typed = true) → ∃ o, r.GoesBackTo o) ∧
    (∀ o, r.GoesBackTo o →
      (contexts.foldl wrap r).reason = o.bare.reason ∧
      (contexts.foldl wrap r).exitCode = o.bare.exitCode ∧
      (contexts.foldl wrap r).explanation = o.bare.explanation) ∧
    (r.exitCode = 3 ↔ r.reason = "Build" ∨ r.reason = "ConfigInvalid") ∧
    (r.exitCode = 4 ↔ r.reason = "Relay" ∨ r.reason = "Io") ∧
    (r.exitCode = 1 ↔ r.reason ∉ ["Build", "ConfigInvalid", "Relay", "Io"]) ∧
    ((∀ item ∈ r.items, item.typed = false) → (r.exitCode = 3 ↔ r.reason = "ConfigInvalid")) := by
  refine ⟨fun typed => ?_, fun o back => ?_, ?_⟩
  · cases found : r.origin? with
    | some o => exact ⟨o, goesBackTo_iff.2 found⟩
    | none =>
        obtain ⟨item, mem, is⟩ := typed
        rw [origin?_eq_none_iff.1 found item mem] at is
        cases is
  · have same := (origin?_contexts r contexts).trans (goesBackTo_iff.1 back)
    exact class_of_origin same (origin?_bare o)
  · rw [exitCode_eq]
    obtain ⟨config, output, other⟩ := codeOf_cases r.reason
    refine ⟨config, output, other, fun texts => config.trans (or_iff_right ?_)⟩
    have untyped := origin?_eq_none_iff.2 texts
    unfold reason
    rw [untyped]
    dsimp only
    split <;> decide

/-- A failed file access stays one below contexts that are about the configuration, a build failure
    decides from behind it, and a text that is about the configuration decides alone. -/
theorem classified_disk_full :
    (((ofFailure (.io "disk full")).wrap "renew").wrap "parse config").reason = "Io" ∧
    (((ofFailure (.io "disk full")).wrap "renew").wrap "parse config").exitCode = 4 ∧
    (∃ o, (Report.mk (.failure (.io "disk full")) [.text "start", .build .missingRelay]).GoesBackTo o) ∧
    (Report.mk (.failure (.io "disk full")) [.text "start", .build .missingRelay]).exitCode = 3 ∧
    (ofText "Read config pack.toml").exitCode = 3 := by
  obtain ⟨-, same, -, output, -, -⟩ :=
    classified_as_bare (ofFailure (.io "disk full")) ["renew", "parse config"]
  have back : (ofFailure (.io "disk full")).GoesBackTo (.failure (.io "disk full")) :=
    goesBackTo_iff.2 rfl
  obtain ⟨name, code, -⟩ := same _ back
  obtain ⟨typed, -, config, -, -, -⟩ := classified_as_bare
    (.mk (.failure (.io "disk full")) [.text "start", .build .missingRelay]) []
  obtain ⟨-, -, -, -, -, untyped⟩ := classified_as_bare (ofText "Read config pack.toml") []
  refine ⟨name, code.trans (output.2 (.inr rfl)), typed ⟨_, List.mem_cons_self, rfl⟩,
    config.2 (.inl rfl), (untyped ?_).2 (by decide +kernel)⟩
  intro item mem
  obtain rfl := List.mem_singleton.1 mem
  rfl

end Report

end PackGuard
