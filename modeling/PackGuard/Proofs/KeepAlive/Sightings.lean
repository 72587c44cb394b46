import PackGuard.KeepAlive

/-!
# What a keep-alive has seen

A keep-alive is renewed, and it looks into its store. A `Sighting` is a renewal or a look that
succeeded, with its time on the wall clock; lists of them have the latest first.

* `left` is what the store was left with, by the keep-alive's own renewals and looks.
* A renewal grants time, and so does a look at a deadline that was not left there. `granted` is when
  time was granted last.

`Bounded` is what holds over any renewals and any looks, whatever stands in the store: **the
deadline is never later than one period after the time of the last grant.**
-/

namespace PackGuard

/-! ## 1. Sightings -/

/-- What a keep-alive was told or found. -/
inductive Sighting where
  /-- A renewal that was accepted, with its deadline. -/
  | renewed (wall deadline : Nat)
  /-- A look at the store, with the deadline there. -/
  | read (wall : Nat) (stored : Option Nat)
deriving DecidableEq, Repr

namespace Sighting

/-- When it was, on the wall clock. -/
def wall : Sighting → Nat
  | renewed wall _ => wall
  | read wall _ => wall

/-- What a renewal is once it is answered. One that failed is nothing. -/
def ofRenewal (wall : Nat) : Except Failure Nat → List Sighting
  | .ok deadline => [.renewed wall deadline]
  | .error _ => []

/-- **What the store was left with**: the deadline written there or the one read there, whichever
    was later. -/
def left : List Sighting → Option Nat
  | [] => none
  | renewed _ deadline :: _ => some (min deadline Deadline.greatest)
  | read _ stored :: _ => stored

/-- Whether this grants time, behind the earlier ones: it is a renewal, or a deadline in the store
    that was not left there. -/
def grants : Sighting → List Sighting → Bool
  | renewed _ _, _ => true
  | read _ stored, earlier => stored.isSome && stored != left earlier

/-- **When time was granted last.** -/
def granted : List Sighting → Option Nat
  | [] => none
  | x :: earlier => if x.grants earlier then some x.wall else granted earlier

end Sighting

/-- Files in which nothing stands but a stored deadline. -/
def Files.storing (deadline : Nat) : Files where
  entries := [(["deadline"], .file (Deadline.document deadline).toUTF8)]

/-! ## 2. Renewals and looks -/

namespace KeepAlive

open Sighting

/-- What a look at the store sees. It is nothing if the store cannot be read. -/
def sighted (k : KeepAlive) (fs : Files) (wall : Nat) : List Sighting :=
  match k.path with
  | none => []
  | some path =>
    if !k.enabled then []
    else match Deadline.read fs path with
      | .error _ => []
      | .ok stored => [.read wall stored]

/-- A look that sees nothing changes nothing; any other accepts what it sees. -/
theorem refresh_cases (k : KeepAlive) (fs : Files) (wall : Nat) :
    k.sighted fs wall = [] ∧ (k.refresh fs wall).2 = k ∨
      ∃ path stored, k.path = some path ∧ Deadline.read fs path = .ok stored ∧
        k.sighted fs wall = [.read wall stored] ∧
        (k.refresh fs wall).2 = k.accept wall stored := by
  cases hp : k.path with
  | none => exact .inl (by simp [sighted, refresh, hp])
  | some path =>
      cases he : k.enabled with
      | false => exact .inl (by simp [sighted, refresh, hp, he])
      | true =>
          cases hr : Deadline.read fs path with
          | error f => exact .inl (by simp [sighted, refresh, hp, he, hr])
          | ok stored => exact .inr ⟨path, stored, rfl, hr, by simp [sighted, refresh, hp, he, hr]⟩

/-- A look at a store that can be read. -/
theorem refresh_of_read {k : KeepAlive} {fs : Files} {path : String} {stored : Option Nat}
    (on : k.enabled = true) (hp : k.path = some path) (found : Deadline.read fs path = .ok stored)
    (wall : Nat) : (k.refresh fs wall).2 = k.accept wall stored := by
  simp [refresh, on, hp, found]

/-- A renewal fails and changes nothing, or its deadline is taken over and left in the store. -/
theorem renewUntil_cases (k : KeepAlive) (fs : Files) (wall deadline : Nat) :
    (∃ f, (k.renewUntil fs wall deadline).1 = .error f) ∧
        (k.renewUntil fs wall deadline).2.1 = k ∨
      (k.renewUntil fs wall deadline).1 = .ok (min deadline (k.latest wall)) ∧
        (k.renewUntil fs wall deadline).2.1 = { k with
          deadline := some (min deadline (k.latest wall))
          seen := if k.path.isSome then some (min deadline (k.latest wall)) else k.seen } := by
  unfold renewUntil
  cases he : k.enabled with
  | false => exact .inl ⟨⟨_, rfl⟩, rfl⟩
  | true =>
      cases hp : k.path with
      | none => exact .inr ⟨rfl, by simp⟩
      | some path =>
          cases hw : Deadline.write fs path (min deadline (k.latest wall)) with
          | mk failure files =>
              cases failure with
              | none => exact .inr ⟨by simp [hw], by simp [hw]⟩
              | some f => exact .inl ⟨⟨f, by simp [hw]⟩, by simp [hw]⟩

/-- No deadline is accepted later than one period from now. -/
theorem latest_le (k : KeepAlive) (now : Nat) : k.latest now ≤ now + k.period :=
  Nat.min_le_left _ _

/-- What is seen in the store again changes nothing, a store that is gone is remembered as that, and
    a new deadline is taken over. -/
theorem accept_cases (k : KeepAlive) (now : Nat) (stored : Option Nat) :
    stored = k.seen ∧ k.accept now stored = k ∨
      stored = none ∧ k.accept now stored = { k with seen := none } ∨
      ∃ d, stored = some d ∧ some d ≠ k.seen ∧ k.accept now stored =
        { k with seen := some d, deadline := some (min d (k.latest now)) } := by
  by_cases same : stored = k.seen
  · exact .inl ⟨same, if_pos same⟩
  · cases stored with
    | none => exact .inr (.inl ⟨rfl, if_neg same⟩)
    | some d => exact .inr (.inr ⟨d, rfl, same, if_neg same⟩)

/-! ## 3. The invariant -/

/-- **What holds of a keep-alive with settings `s` and all that it has seen until now.** A renewal
    with a deadline greater than a store can hold leaves less there than the keep-alive remembers;
    the next look finds the difference, and brings the deadline forward. -/
structure Bounded (s : KeepAliveSettings) (k : KeepAlive) (seen : List Sighting) (now : Nat) :
    Prop where
  period : k.period = s.period
  path : k.path = s.path
  deadline : ∀ d, k.deadline = some d → ∃ since, granted seen = some since ∧ d ≤ since + s.period
  past : ∀ since, granted seen = some since → since ≤ now
  store : s.path.isSome = true → k.seen = left seen ∨
    ∃ d, k.seen = some d ∧ k.deadline = some d ∧ Deadline.greatest < d ∧
      left seen = some Deadline.greatest

/-- A keep-alive that has not seen anything has no deadline. -/
theorem bounded_new (s : KeepAliveSettings) (now : Nat) : Bounded s (new s) [] now where
  period := rfl
  path := rfl
  deadline _ h := by cases h
  past _ h := by cases h
  store _ := .inl rfl

section Bounded

variable {s : KeepAliveSettings} {k : KeepAlive} {seen : List Sighting} {now wall : Nat}

theorem Bounded.later (h : Bounded s k seen now) (le : now ≤ wall) : Bounded s k seen wall :=
  { h with past := fun since e => Nat.le_trans (h.past since e) le }

/-- What was granted in the past was granted in the past of any later sighting. -/
theorem past_cons {x : Sighting} (past : ∀ since, granted seen = some since → since ≤ x.wall) :
    ∀ since, granted (x :: seen) = some since → since ≤ x.wall := by
  intro since e
  simp only [granted] at e
  split at e
  · cases e; exact Nat.le_refl _
  · exact past since e

/-- A deadline within a period of the last grant stays so, whatever is seen. -/
theorem granted_cons {x : Sighting} {d period : Nat}
    (past : ∀ since, granted seen = some since → since ≤ x.wall)
    (h : ∃ since, granted seen = some since ∧ d ≤ since + period) :
    ∃ since, granted (x :: seen) = some since ∧ d ≤ since + period := by
  obtain ⟨since, e, le⟩ := h
  have := past since e
  by_cases grant : x.grants seen = true
  · exact ⟨x.wall, by simp [granted, grant], by omega⟩
  · exact ⟨since, by simp [granted, grant, e], le⟩

theorem bounded_accept (h : Bounded s k seen wall) (path : s.path.isSome = true)
    (stored : Option Nat) :
    Bounded s (k.accept wall stored) (.read wall stored :: seen) wall := by
  have past := past_cons (x := .read wall stored) h.past
  have kept := fun d hd => granted_cons (x := .read wall stored) h.past (h.deadline d hd)
  rcases k.accept_cases wall stored with ⟨same, e⟩ | ⟨rfl, e⟩ | ⟨d, rfl, new, e⟩
  · rw [e]
    exact ⟨h.period, h.path, kept, past, fun _ => .inl same.symm⟩
  · rw [e]
    exact ⟨h.period, h.path, kept, past, fun _ => .inl rfl⟩
  · rw [e]
    refine ⟨h.period, h.path, fun d' hd => ?_, past, fun _ => .inl rfl⟩
    cases hd
    by_cases grant : (read wall (some d)).grants seen = true
    · have latest := k.latest_le wall
      rw [h.period] at latest
      exact ⟨wall, by simp [granted, grant, Sighting.wall], by omega⟩
    · -- it was left there and yet is not remembered: it replaces a deadline that was too great
      have same : some d = left seen := by simpa [grants] using grant
      rcases h.store path with e | ⟨d₀, -, hd₀, great, e⟩
      · exact absurd (same.trans e.symm) new
      · obtain ⟨since, hs, le⟩ := kept d₀ hd₀
        obtain rfl := Option.some.inj (same.trans e)
        exact ⟨since, hs, by omega⟩

/-- **A look at the store keeps the bound**, whatever it finds. -/
theorem bounded_refresh (h : Bounded s k seen wall) (fs : Files) :
    Bounded s (k.refresh fs wall).2 (k.sighted fs wall ++ seen) wall := by
  rcases k.refresh_cases fs wall with ⟨blind, e⟩ | ⟨path, stored, hp, -, one, e⟩
  · rw [blind, e]; exact h
  · rw [one, e]
    exact bounded_accept h (by rw [← h.path, hp]; rfl) stored

/-- **A renewal keeps the bound**, whatever deadline it asks for. -/
theorem bounded_renewUntil (h : Bounded s k seen wall) (fs : Files) (deadline : Nat) :
    Bounded s (k.renewUntil fs wall deadline).2.1
      (ofRenewal wall (k.renewUntil fs wall deadline).1 ++ seen) wall := by
  rcases k.renewUntil_cases fs wall deadline with ⟨⟨f, failed⟩, e⟩ | ⟨accepted, e⟩
  · rw [failed, e]; exact h
  · rw [accepted, e]
    have latest := k.latest_le wall
    rw [h.period] at latest
    refine ⟨h.period, h.path, fun d hd => ?_, fun since hs => ?_, fun path => ?_⟩
    · cases hd
      exact ⟨wall, rfl, by omega⟩
    · cases hs
      exact Nat.le_refl _
    · simp only [h.path, path, if_true, ofRenewal, List.cons_append, left]
      by_cases great : min deadline (k.latest wall) ≤ Deadline.greatest
      · exact .inl (by rw [Nat.min_eq_left great])
      · refine .inr ⟨_, rfl, rfl, by omega, ?_⟩
        rw [Nat.min_eq_right (by omega)]

/-! ## 4. What is seen again, and what is too late -/

/-- **A store that is gone, cannot be read or stands as it was left never extends the deadline.** -/
theorem refresh_no_later (h : Bounded s k seen now) {fs : Files} {path : String}
    (hp : s.path = some path)
    (old : ∀ stored, Deadline.read fs path = .ok stored → stored = none ∨ stored = left seen)
    (wall : Nat) {d : Nat} (hd : (k.refresh fs wall).2.deadline = some d) :
    ∃ d₀, k.deadline = some d₀ ∧ d ≤ d₀ := by
  rcases k.refresh_cases fs wall with ⟨-, e⟩ | ⟨path', stored, hp', found, -, e⟩
  · rw [e] at hd
    exact ⟨d, hd, Nat.le_refl _⟩
  · rw [e] at hd
    obtain rfl : path' = path := by rw [h.path, hp] at hp'; exact (Option.some.inj hp').symm
    rcases k.accept_cases wall stored with ⟨-, e⟩ | ⟨-, e⟩ | ⟨d', rfl, new, e⟩
    · rw [e] at hd
      exact ⟨d, hd, Nat.le_refl _⟩
    · rw [e] at hd
      exact ⟨d, hd, Nat.le_refl _⟩
    · rw [e] at hd
      cases hd
      have same : some d' = left seen := (old _ found).resolve_left (by simp)
      rcases h.store (by rw [hp]; rfl) with e | ⟨d₀, -, hd₀, great, e⟩
      · exact absurd (same.trans e.symm) new
      · obtain rfl := Option.some.inj (same.trans e)
        exact ⟨d₀, hd₀, by omega⟩

/-- **A stored deadline that was not left there and is reached is expired at once.** -/
theorem expired_of_reached (h : Bounded s k seen now) (on : 0 < s.period) {fs : Files}
    {path : String} (hp : s.path = some path) {d : Nat}
    (found : Deadline.read fs path = .ok (some d)) (new : some d ≠ left seen) (reached : d ≤ wall) :
    (k.refresh fs wall).2.expired wall = true := by
  have enabled : k.enabled = true := by simp [KeepAlive.enabled, h.period, on]
  rw [refresh_of_read enabled (h.path.trans hp) found]
  rcases k.accept_cases wall (some d) with ⟨same, e⟩ | ⟨gone, -⟩ | ⟨d', found', -, e⟩
  · -- it was not left there and yet it is remembered: it is the deadline itself
    rcases h.store (by rw [hp]; rfl) with left | ⟨d₀, seen, hd₀, -, -⟩
    · exact absurd (same.trans left) new
    · obtain rfl := Option.some.inj (same.trans seen)
      rw [e]
      simp [expired, enabled, hd₀, reached]
  · cases gone
  · cases found'
    rw [e]
    have cut : min d (k.latest wall) ≤ wall := by omega
    simp only [expired, KeepAlive.enabled] at enabled ⊢
    simp [enabled, cut]

/-- A keep-alive that is on and has not expired has a deadline ahead. -/
theorem granted_of_not_expired (h : Bounded s k seen now) (on : 0 < s.period)
    (valid : k.expired now = false) :
    ∃ since, granted seen = some since ∧ since ≤ now ∧ now < since + s.period := by
  simp only [expired, enabled, h.period, on, decide_true, Bool.true_and] at valid
  cases hd : k.deadline with
  | none => simp [hd] at valid
  | some d =>
      obtain ⟨since, e, le⟩ := h.deadline d hd
      have ahead : now < d := by simpa [hd] using valid
      exact ⟨since, e, h.past since e, by omega⟩

end Bounded

end KeepAlive

end PackGuard
