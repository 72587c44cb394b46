import PackGuard.Proofs.KeepAlive.Sightings

/-!
# Restarts over one store

A process loads its keep-alive when it starts and looks into the store from time to time. Here
nobody writes to the store, and one process starts after the other.

What a process makes of the store depends on its start alone (`ofProcess_eq`): the stored deadline,
cut to one period after the start (`deadline_ofProcess`). The store keeps the deadline as it is, so
**each restart cuts anew, and a stored deadline that lies more than a period ahead gives every
restart a whole period.** `restarts_never_later_iff` says exactly when restarts grant nothing;
`restart_grants_again` is a store with which they do.
-/

namespace PackGuard

/-- A process over the keep-alive: when it starts, and when it looks into the store afterwards. -/
structure Process where
  start : Nat
  looks : List Nat := []

namespace KeepAlive

variable {s : KeepAliveSettings} {fs : Files}

/-! ## 1. What a process makes of the store -/

/-- What can be read of the store. -/
def held (s : KeepAliveSettings) (fs : Files) : Option Nat :=
  match s.path with
  | none => none
  | some path => match Deadline.read fs path with
    | .error _ => none
    | .ok stored => stored

/-- The keep-alive that a process has in the end, if these files stay what they are. -/
def ofProcess (s : KeepAliveSettings) (fs : Files) (p : Process) : KeepAlive :=
  p.looks.foldl (fun k now => (k.refresh fs now).2) (load s fs p.start)

/-- The latest deadline that a process accepts at its start. -/
def reach (s : KeepAliveSettings) (p : Process) : Nat := addMoments p.start s.period

theorem reach_mono {p q : Process} (le : p.start ≤ q.start) : reach s p ≤ reach s q := by
  unfold reach addMoments
  omega

/-- **Loading takes what can be read**, cut to one period from now. -/
theorem load_eq (on : 0 < s.period) (now : Nat) :
    load s fs now = { new s with
      deadline := (held s fs).map (min · (addMoments now s.period))
      seen := held s fs } := by
  have enabled : (new s).enabled = true := by simp [KeepAlive.enabled, new, on]
  cases hp : s.path with
  | none => simp [load, refresh, held, new, hp]
  | some path =>
      cases hr : Deadline.read fs path with
      | error f => simp [load, refresh, held, hr, new, hp, KeepAlive.enabled, on]
      | ok stored =>
          rw [load, refresh_of_read enabled hp hr]
          cases stored <;> simp [accept, held, hp, hr, new, latest]

/-- A store that stands as it was loaded is left alone. -/
theorem refresh_load (on : 0 < s.period) (start now : Nat) :
    ((load s fs start).refresh fs now).2 = load s fs start := by
  rcases (load s fs start).refresh_cases fs now with ⟨-, e⟩ | ⟨path, stored, hp, hr, -, e⟩
  · exact e
  · have path : s.path = some path := by rw [load_eq on] at hp; exact hp
    have seen : stored = (load s fs start).seen := by
      rw [load_eq on]
      simp [held, path, hr]
    rw [e]
    exact if_pos seen

/-- **However often a process looks, it has what it loaded.** -/
theorem ofProcess_eq (on : 0 < s.period) (p : Process) : ofProcess s fs p = load s fs p.start := by
  obtain ⟨start, looks⟩ := p
  unfold ofProcess
  induction looks with
  | nil => rfl
  | cons now looks ih => rw [List.foldl_cons, refresh_load on]; exact ih

theorem deadline_ofProcess (on : 0 < s.period) (p : Process) :
    (ofProcess s fs p).deadline = (held s fs).map (min · (reach s p)) := by
  rw [ofProcess_eq on, load_eq on]
  rfl

theorem expired_ofProcess (on : 0 < s.period) (p : Process) (now : Nat) :
    (ofProcess s fs p).expired now = (held s fs).all fun r => min r (reach s p) ≤ now := by
  have enabled : (ofProcess s fs p).enabled = true := by
    rw [ofProcess_eq on, load_eq on]
    simp [KeepAlive.enabled, new, on]
  rw [expired, enabled, deadline_ofProcess on]
  cases held s fs <;> rfl

/-! ## 2. One process after another -/

/-- The second of two processes has no deadline, or one that is no later than the first one's. -/
def NeverLater (s : KeepAliveSettings) (fs : Files) (p q : Process) : Prop :=
  ∀ d, (ofProcess s fs q).deadline = some d →
    ∃ d₀, (ofProcess s fs p).deadline = some d₀ ∧ d ≤ d₀

theorem neverLater_iff (on : 0 < s.period) (p q : Process) :
    NeverLater s fs p q ↔ ∀ r, held s fs = some r → min r (reach s q) ≤ min r (reach s p) := by
  unfold NeverLater
  rw [deadline_ofProcess on, deadline_ofProcess on]
  cases held s fs with
  | none => simp
  | some r => simp

/-- A deadline that is never later keeps nothing valid that has expired. -/
theorem expired_of_neverLater (on : 0 < s.period) {p q : Process} (h : NeverLater s fs p q)
    {now : Nat} (expired : (ofProcess s fs p).expired now = true) :
    (ofProcess s fs q).expired now = true := by
  rw [neverLater_iff on] at h
  rw [expired_ofProcess on] at expired ⊢
  cases hr : held s fs with
  | none => rfl
  | some r =>
      have le := h r hr
      have reached : min r (reach s p) ≤ now := by simpa [hr] using expired
      simpa [hr] using Nat.le_trans le reached

/-- A keep-alive is valid at the start of a process exactly if the stored deadline lies ahead. -/
theorem valid_at_start_iff (on : 0 < s.period) (p : Process) :
    (ofProcess s fs p).expired p.start = false ↔
      ∃ r, held s fs = some r ∧ p.start < r ∧ p.start + 1 < UInt64.size := by
  have ahead : p.start < reach s p ↔ p.start + 1 < UInt64.size := by
    unfold reach addMoments
    omega
  rw [expired_ofProcess on]
  cases held s fs with
  | none => simp
  | some r =>
      simp only [Option.all_some, decide_eq_false_iff_not, Option.some.injEq, exists_eq_left',
        ← ahead]
      omega

/-! ## 3. Any number of restarts -/

/-- **When restarts grant nothing.** For a keep-alive that is on, any content of the store and any
    processes that start one after the other: no process has a later deadline than one before it
    exactly if the stored deadline is within one period of the first start, or the clock has come to
    its end. Where a process has no later deadline, it is expired once the one before it is. At its
    start each process is valid exactly if the stored deadline lies ahead, whatever the deadlines of
    the ones before it were. -/
theorem restarts_never_later_iff (on : 0 < s.period) (first : Process) (later : List Process)
    (ordered : (first :: later).Pairwise fun p q => p.start ≤ q.start) :
    ((first :: later).Pairwise (NeverLater s fs) ↔
      ∀ r, held s fs = some r →
        r ≤ addMoments first.start s.period ∨
          ∀ q ∈ later, addMoments q.start s.period = addMoments first.start s.period) ∧
    (first :: later).Pairwise (fun p q => NeverLater s fs p q → ∀ now,
      (ofProcess s fs p).expired now = true → (ofProcess s fs q).expired now = true) ∧
    ∀ p ∈ first :: later, (ofProcess s fs p).expired p.start = false ↔
      ∃ r, held s fs = some r ∧ p.start < r ∧ p.start + 1 < UInt64.size := by
  refine ⟨⟨fun h r hr => ?_, fun h => ?_⟩, ?_, fun p _ => valid_at_start_iff on p⟩
  · by_cases near : r ≤ reach s first
    · exact .inl near
    · refine .inr fun q hq => ?_
      have grown := reach_mono (s := s) (List.rel_of_pairwise_cons ordered hq)
      have le := (neverLater_iff on first q).1 (List.rel_of_pairwise_cons h hq) r hr
      show reach s q = reach s first
      omega
  · -- the first process reaches least far, so what is within its reach is within every reach
    have least : ∀ p ∈ first :: later, reach s first ≤ reach s p := by
      intro p hp
      rcases List.mem_cons.1 hp with rfl | hp
      · exact Nat.le_refl _
      · exact reach_mono (List.rel_of_pairwise_cons ordered hp)
    refine ordered.imp_of_mem fun {p q} hp hq _ => (neverLater_iff on p q).2 fun r hr => ?_
    rcases h r hr with near | still
    · have := least p hp
      have near : r ≤ reach s first := near
      omega
    · have same : ∀ p ∈ first :: later, reach s p = reach s first := by
        intro p hp
        rcases List.mem_cons.1 hp with rfl | hp
        · rfl
        · exact still p hp
      exact Nat.le_of_eq (by rw [same p hp, same q hq])
  · exact ordered.imp fun _ never _ expired => expired_of_neverLater on never expired

/-- With a deadline of 5500 in the store, restarts from 5000 on grant nothing: a process that starts
    at 5600 is expired, as is the one before it. -/
theorem restarts_within_period :
    ([⟨5000, []⟩, ⟨5600, [5700]⟩, ⟨9000, []⟩] : List Process).Pairwise
        (NeverLater { period := 1000, path := some "/deadline" } (.storing 5500)) ∧
      (ofProcess { period := 1000, path := some "/deadline" } (.storing 5500)
        ⟨5600, [5700]⟩).expired 5600 = true := by
  obtain ⟨never, expired, -⟩ := @restarts_never_later_iff
    { period := 1000, path := some "/deadline" } (.storing 5500) (by decide)
    ⟨5000, []⟩ [⟨5600, [5700]⟩, ⟨9000, []⟩] (by simp)
  have near := never.2 fun r hr => .inl (by
    have e : some r = some 5500 := hr.symm.trans (by decide +kernel)
    cases e
    decide)
  have second : NeverLater _ _ ⟨5000, []⟩ ⟨5600, [5700]⟩ :=
    List.rel_of_pairwise_cons near (by simp)
  exact ⟨near, List.rel_of_pairwise_cons expired (by simp) second 5600 (by decide +kernel)⟩

/-- **A restart that grants a fresh period.** With a deadline of 10000000 in the store, a process
    that starts at 5000 has one of 6000; a process that starts at 6000, when that is reached, has one
    of 7000 and is valid. -/
theorem restart_grants_again :
    ¬ NeverLater { period := 1000, path := some "/deadline" } (.storing 10000000)
        ⟨5000, []⟩ ⟨6000, []⟩ ∧
      (load { period := 1000, path := some "/deadline" } (.storing 10000000) 5000).expired 6000 =
        true ∧
      (load { period := 1000, path := some "/deadline" } (.storing 10000000) 6000).expired 6000 =
        false := by
  refine ⟨fun never => ?_, by decide +kernel, by decide +kernel⟩
  obtain ⟨d, hd, le⟩ := never 7000 (by decide +kernel)
  have e : some d = some 6000 := hd.symm.trans (by decide +kernel)
  cases e
  exact absurd le (by decide)

end KeepAlive

end PackGuard
