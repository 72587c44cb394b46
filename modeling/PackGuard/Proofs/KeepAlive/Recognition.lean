import Mathlib.Control.Monad.Basic
import PackGuard.Proofs.KeepAlive.Sightings
import PackGuard.Proofs.Storage.ReadBack

/-!
# A keep-alive knows what it wrote itself

A renewal leaves the deadline in the store and remembers it. The keep-alive looks into the store
again and again; meanwhile the store may be what the renewal left (`Undisturbed`), or it cannot be
read.

* `renewed_until`: what a renewal leaves behind, in the keep-alive and in the store.
* `refresh_undisturbed`: **a look at what was left there changes nothing**, and `looksAt_undisturbed`
  any number of looks.
* `renewUntil_of_error`, `refresh_of_error`: **what fails changes nothing.**
-/

namespace PackGuard

namespace KeepAlive

variable {k : KeepAlive} {fs : Files} {path : String}

/-! ## 1. Failures -/

/-- **A renewal that fails changes nothing.** -/
theorem renewUntil_of_error {now asked : Nat} {f : Failure}
    (failed : (k.renewUntil fs now asked).1 = .error f) : (k.renewUntil fs now asked).2.1 = k := by
  rcases k.renewUntil_cases fs now asked with ⟨-, same⟩ | ⟨accepted, -⟩
  · exact same
  · rw [accepted] at failed
    cases failed

/-- **A look that fails changes nothing.** -/
theorem refresh_of_error {now : Nat} {f : Failure} (failed : (k.refresh fs now).1 = .error f) :
    (k.refresh fs now).2 = k := by
  rcases k.refresh_cases fs now with ⟨-, same⟩ | ⟨path, stored, hp, found, -, -⟩
  · exact same
  · cases on : k.enabled <;> simp [refresh, hp, on, found] at failed

/-! ## 2. What a renewal leaves behind -/

/-- **A renewal with a store takes its deadline over, remembers it and leaves it there.** -/
theorem renewed_until {now asked d : Nat} (hp : k.path = some path)
    (renewed : (k.renewUntil fs now asked).1 = .ok d) :
    (k.renewUntil fs now asked).2.1 = { k with deadline := some d, seen := some d } ∧
      Deadline.read (k.renewUntil fs now asked).2.2 path =
        .ok (some (min d Deadline.greatest)) := by
  unfold renewUntil at renewed ⊢
  cases on : k.enabled with
  | false => simp [on] at renewed
  | true =>
      have read := fun deadline => @Deadline.read_write fs path deadline
      simp only [on, hp] at renewed ⊢
      generalize min asked (k.latest now) = accepted at renewed ⊢
      specialize read accepted
      generalize Deadline.write fs path accepted = written at renewed read ⊢
      obtain ⟨failure, after⟩ := written
      cases failure with
      | some f => cases renewed
      | none =>
          cases renewed
          exact ⟨rfl, read rfl⟩

/-! ## 3. Looks -/

/-- Later files in which the store is what it was, or cannot be read. -/
def Undisturbed (after : Files) (path : String) (later : Files) : Prop :=
  later.readText path = after.readText path ∨ ∃ f, Deadline.read later path = .error f

/-- The keep-alive after looks at the store, each with the files and the time of it. -/
def looksAt (k : KeepAlive) (looks : List (Files × Nat)) : KeepAlive :=
  looks.foldl (fun k look => (k.refresh look.1 look.2).2) k

/-- **A look at a store that is what the keep-alive remembers, or that cannot be read, changes
    nothing.** -/
theorem refresh_undisturbed (hp : k.path = some path) {after : Files}
    (remembered : Deadline.read after path = .ok k.seen) {later : Files}
    (undisturbed : Undisturbed after path later) (now : Nat) : (k.refresh later now).2 = k := by
  rcases k.refresh_cases later now with ⟨-, same⟩ | ⟨path', stored, hp', found, -, accepted⟩
  · exact same
  · obtain rfl : path' = path := Option.some.inj (hp'.symm.trans hp)
    have seen : stored = k.seen := by
      rcases undisturbed with same | ⟨f, failed⟩
      · have read : Deadline.read later path' = Deadline.read after path' := by
          simp only [Deadline.read, same]
        exact Except.ok.inj (found.symm.trans (read.trans remembered))
      · rw [failed] at found
        cases found
    rw [accepted]
    exact if_pos seen

/-- **However often the keep-alive looks at what it remembers, it stays what it is.** -/
theorem looksAt_undisturbed (hp : k.path = some path) {after : Files}
    (remembered : Deadline.read after path = .ok k.seen) {looks : List (Files × Nat)}
    (undisturbed : ∀ look ∈ looks, Undisturbed after path look.1) : k.looksAt looks = k := by
  induction looks with
  | nil => rfl
  | cons look looks ih =>
      rw [List.forall_mem_cons] at undisturbed
      show looksAt (k.refresh look.1 look.2).2 looks = k
      rw [refresh_undisturbed hp remembered undisturbed.1]
      exact ih undisturbed.2

/-- **A keep-alive knows what it wrote itself.** What is stored without a fault is read back. A
    deadline that was accepted stays, as long as the store is what the renewal left there or cannot
    be read. A renewal or a look that fails changes nothing. -/
theorem knows_own_renewals :
    (∀ fs path deadline, (Deadline.write fs path deadline).1 = none →
      Deadline.read (Deadline.write fs path deadline).2 path =
        .ok (some (min deadline Deadline.greatest))) ∧
    (∀ (k : KeepAlive) fs path now asked d (looks : List (Files × Nat)),
      k.path = some path → (k.renewUntil fs now asked).1 = .ok d → d ≤ Deadline.greatest →
      (∀ look ∈ looks, Undisturbed (k.renewUntil fs now asked).2.2 path look.1) →
        (k.renewUntil fs now asked).2.1.deadline = some d ∧
        ((k.renewUntil fs now asked).2.1.looksAt looks).deadline = some d) ∧
    (∀ (k : KeepAlive) fs now asked f, (k.renewUntil fs now asked).1 = .error f →
      (k.renewUntil fs now asked).2.1 = k) ∧
    (∀ (k : KeepAlive) fs now f, (k.refresh fs now).1 = .error f → (k.refresh fs now).2 = k) := by
  refine ⟨fun fs path deadline => Deadline.read_write, ?_,
    fun k fs now asked f => renewUntil_of_error, fun k fs now f => refresh_of_error⟩
  intro k fs path now asked d looks hp renewed small undisturbed
  obtain ⟨e, stored⟩ := renewed_until hp renewed
  rw [Nat.min_eq_left small] at stored
  have kept := looksAt_undisturbed (k := { k with deadline := some d, seen := some d }) hp stored
    undisturbed
  rw [e, kept]
  exact ⟨rfl, rfl⟩

/-- Files in which the store holds no deadline. -/
def spoilt : Files where
  entries := [(["deadline"], .file "deadline_ms = soon\n".toUTF8)]

/-- Renewed once, a keep-alive looks three times. The second time the store is spoilt, and the look
    fails. Where there is no directory for the store, the renewal fails. -/
theorem knows_own_renewal_behind_spoilt_store :
    let k : KeepAlive := { period := 1000, path := some "/deadline" }
    let renewed := k.renewUntil (Files.storing 5000) 10000 10500
    let astray : KeepAlive := { period := 1000, path := some "/none/deadline" }
    Deadline.read (Deadline.write (Files.storing 5000) "/deadline" 6000).2 "/deadline" =
        .ok (some (min 6000 Deadline.greatest)) ∧
      (renewed.1 = .ok 10500 ∧
        (renewed.2.1.looksAt
          [(renewed.2.2, 10100), (spoilt, 10200), (renewed.2.2, 10300)]).deadline = some 10500) ∧
      (astray.renewUntil (Files.storing 5000) 10000 10500).2.1 = astray ∧
      (k.refresh spoilt 10200).2 = k := by
  intro k renewed astray
  have accepted : renewed.1 = .ok 10500 := by decide +kernel
  have failed : Deadline.read spoilt "/deadline" =
      .error (.io "parse /deadline: not a document") := by decide +kernel
  have stays := (knows_own_renewals.2.1 k (Files.storing 5000) "/deadline" 10000 10500 10500
    [(renewed.2.2, 10100), (spoilt, 10200), (renewed.2.2, 10300)] rfl accepted (by decide) (by
      simp only [List.forall_mem_cons]
      exact ⟨.inl rfl, .inr ⟨_, failed⟩, .inl rfl, by simp⟩)).2
  refine ⟨knows_own_renewals.1 _ _ _ (by decide +kernel), ⟨accepted, stays⟩,
    knows_own_renewals.2.2.1 astray _ _ _
      (.io "write /none/deadline: No such file or directory (os error 2)") (by decide +kernel),
    knows_own_renewals.2.2.2 k _ _ (.io "parse /deadline: not a document") (by decide +kernel)⟩

end KeepAlive

end PackGuard
