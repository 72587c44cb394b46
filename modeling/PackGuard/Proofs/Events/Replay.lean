import PackGuard.Event

/-!
# Replaying events

A `Replica` is what can be known of a controller from its events alone. It hears one event after the
other (`hear?`) and **refuses an event that does not fit what it knows**: a fault is raised only
while it is down and cleared only while it is up, and so is an advisory; a transition starts at the
state in which the last one ended; the cells that bleed change to others. Raising and clearing is the
same for both kinds of keys (`mark?`).

`marks_since` is the fact behind the faults and the advisories: what a map has and the other lacks,
put up, and what the other has, taken down, leads from the one map to the other.
-/

namespace PackGuard

/-! ## 1. Keys that are up or down -/

section Marks

variable {κ : Type} [DecidableEq κ]

/-- Put a key up that is down, or take one down that is up. -/
def mark? (up : κ → Bool) (m : κ × Bool) : Option (κ → Bool) :=
  if up m.1 = m.2 then none else some fun k => if k = m.1 then m.2 else up k

/-- Put several keys up or take them down, one after the other. -/
def marks (up : κ → Bool) (ms : List (κ × Bool)) : Option (κ → Bool) := ms.foldlM mark? up

theorem marks_append (up : κ → Bool) (ms ns : List (κ × Bool)) :
    marks up (ms ++ ns) = (marks up ms).bind fun up => marks up ns :=
  List.foldlM_append

/-- Different keys that are all down can be put up, and taken down where they are all up. -/
theorem marks_all (up : κ → Bool) (on : Bool) {ks : List κ} (distinct : ks.Nodup)
    (other : ∀ k ∈ ks, up k = !on) :
    marks up (ks.map (·, on)) = some fun k => if k ∈ ks then on else up k := by
  induction ks generalizing up with
  | nil => simp [marks]
  | cons k ks ih =>
      obtain ⟨fresh, distinct⟩ := List.nodup_cons.1 distinct
      have now : up k ≠ on := by simp [other k List.mem_cons_self]
      have later : ∀ k' ∈ ks, (if k' = k then on else up k') = !on := by
        intro k' hk'
        rw [if_neg (by rintro rfl; exact fresh hk')]
        exact other k' (List.mem_cons_of_mem _ hk')
      have rest := ih _ distinct later
      simp only [marks, List.map_cons, List.foldlM_cons, mark?, now, if_false, Option.bind_eq_bind,
        Option.bind_some] at rest ⊢
      rw [rest]
      congr 1
      funext k'
      by_cases same : k' = k <;> simp [same]

end Marks

namespace RankedMap

variable {κ : Type} {ν : Type} [Ranked κ]

theorem nodup_since (m previous : RankedMap κ ν) : ((m.since previous).map (·.1)).Nodup := by
  refine List.pairwise_map.2 ((m.ordered.filter _).imp ?_)
  intro a b below same
  rw [RanksBelow, same] at below
  exact Nat.lt_irrefl _ below

theorem mem_keys_since {m previous : RankedMap κ ν} {k : κ} :
    k ∈ (m.since previous).map (·.1) ↔ m.contains k = true ∧ previous.contains k = false := by
  rw [contains_iff, keys, List.mem_map, List.mem_map]
  constructor
  · rintro ⟨e, he, rfl⟩
    obtain ⟨mem, lacks⟩ := mem_since.1 he
    exact ⟨⟨e, mem, rfl⟩, lacks⟩
  · rintro ⟨⟨e, mem, rfl⟩, lacks⟩
    exact ⟨e, mem_since.2 ⟨mem, lacks⟩, rfl⟩

variable [DecidableEq κ]

/-- **What came put up and what went taken down leads from a map to the next.** -/
theorem marks_since (before after : RankedMap κ ν) :
    marks before.contains (((after.since before).map fun e => (e.1, true)) ++
      (before.since after).map fun e => (e.1, false)) = some after.contains := by
  have came : marks before.contains ((after.since before).map fun e => (e.1, true)) =
      some fun k => before.contains k || after.contains k := by
    have all := marks_all before.contains true (nodup_since after before)
      fun k h => (mem_keys_since.1 h).2
    rw [List.map_map] at all
    refine all.trans (congrArg some (funext fun k => ?_))
    simp only [mem_keys_since]
    cases before.contains k <;> cases after.contains k <;> rfl
  have went : marks (fun k => before.contains k || after.contains k)
      ((before.since after).map fun e => (e.1, false)) = some after.contains := by
    have all := marks_all (fun k => before.contains k || after.contains k) false
      (nodup_since before after) fun k h => by simp [(mem_keys_since.1 h).1]
    rw [List.map_map] at all
    refine all.trans (congrArg some (funext fun k => ?_))
    simp only [mem_keys_since]
    cases before.contains k <;> cases after.contains k <;> rfl
  rw [marks_append, came, Option.bind_some, went]

end RankedMap

/-! ## 2. What an event tells -/

namespace Event

/-- The fault that is raised or cleared. -/
def fault? (e : Event) : Option (FaultKey × Bool) :=
  match e.kind with
  | .faultRaised kind => some (⟨e.entity, kind⟩, true)
  | .faultCleared kind => some (⟨e.entity, kind⟩, false)
  | _ => none

/-- The advisory that comes or goes. -/
def advisory? (e : Event) : Option (AdvisoryKey × Bool) :=
  match e.kind with
  | .advisory quantity kind => some (⟨e.entity, quantity, kind⟩, true)
  | .advisoryCleared quantity kind => some (⟨e.entity, quantity, kind⟩, false)
  | _ => none

end Event

/-! ## 3. Replicas -/

/-- What is known of a controller from its events. -/
structure Replica where
  /-- The faults that are raised and not cleared. -/
  faults : FaultKey → Bool := fun _ => false
  advisories : AdvisoryKey → Bool := fun _ => false
  contactor : ContactorState := .disengaged
  balancing : List CellIndex := []
  /-- The allowed current that was published last. -/
  limit : Option Float32 := none

namespace Replica

/-- **Hear of an event**, unless it does not fit. -/
def hear? (r : Replica) (e : Event) : Option Replica :=
  match e.kind with
  | .faultRaised kind =>
    (mark? r.faults (⟨e.entity, kind⟩, true)).map fun up => { r with faults := up }
  | .faultCleared kind =>
    (mark? r.faults (⟨e.entity, kind⟩, false)).map fun up => { r with faults := up }
  | .advisory quantity kind =>
    (mark? r.advisories (⟨e.entity, quantity, kind⟩, true)).map fun up =>
      { r with advisories := up }
  | .advisoryCleared quantity kind =>
    (mark? r.advisories (⟨e.entity, quantity, kind⟩, false)).map fun up =>
      { r with advisories := up }
  | .relayTransition t =>
    if t.source = r.contactor then some { r with contactor := t.target } else none
  | .balanceChanged cells =>
    if cells = r.balancing then none else some { r with balancing := cells }
  | .currentLimit => some { r with limit := e.value }
  | .relayForcedOpen _ => some r
  | .keepAliveExpired => some r
  | .keepAliveRenewed => some r

/-- Hear of several events, the earliest first. -/
def replay (r : Replica) (es : List Event) : Option Replica := es.foldlM hear? r

theorem replay_append (r : Replica) (es fs : List Event) :
    r.replay (es ++ fs) = (r.replay es).bind fun r => r.replay fs :=
  List.foldlM_append

theorem replay_cons (r : Replica) (e : Event) (es : List Event) :
    r.replay (e :: es) = (r.hear? e).bind fun r => r.replay es :=
  List.foldlM_cons

/-- Events that tell of keys alone mark them one after the other, in the part of the replica in which
    these keys are kept. -/
theorem replay_marks {κ : Type} [DecidableEq κ] {about : Event → Option (κ × Bool)}
    (part : Replica → κ → Bool) (put : Replica → (κ → Bool) → Replica)
    (part_put : ∀ r up, part (put r up) = up) (put_put : ∀ r up up', put (put r up) up' = put r up')
    (put_part : ∀ r, put r (part r) = r)
    (heard : ∀ r e m, about e = some m → hear? r e = (mark? (part r) m).map (put r))
    {es : List Event} {ms : List (κ × Bool)} (same : es.map about = ms.map some) (r : Replica) :
    r.replay es = (marks (part r) ms).map (put r) := by
  induction es generalizing r ms with
  | nil =>
      cases ms with
      | nil => simp [replay, marks, put_part]
      | cons m ms => cases same
  | cons e es ih =>
      cases ms with
      | nil => cases same
      | cons m ms =>
          obtain ⟨told, same⟩ := List.cons.inj same
          rw [replay_cons, heard r e m told]
          simp only [marks, List.foldlM_cons, Option.bind_eq_bind]
          cases mark? (part r) m with
          | none => rfl
          | some up =>
              simp only [Option.map_some, Option.bind_some, ih same, part_put]
              exact congrArg (Option.map · _) (funext (put_put r up))

theorem replay_faults {es : List Event} {ms : List (FaultKey × Bool)}
    (same : es.map Event.fault? = ms.map some) (r : Replica) :
    r.replay es = (marks r.faults ms).map fun up => { r with faults := up } := by
  refine replay_marks (·.faults) (fun r up => { r with faults := up }) (fun _ _ => rfl)
    (fun _ _ _ => rfl) (fun _ => rfl) ?_ same r
  intro r e m told
  unfold Event.fault? at told
  unfold hear?
  split at told <;> cases told <;> simp [*]

theorem replay_advisories {es : List Event} {ms : List (AdvisoryKey × Bool)}
    (same : es.map Event.advisory? = ms.map some) (r : Replica) :
    r.replay es = (marks r.advisories ms).map fun up => { r with advisories := up } := by
  refine replay_marks (·.advisories) (fun r up => { r with advisories := up }) (fun _ _ => rfl)
    (fun _ _ _ => rfl) (fun _ => rfl) ?_ same r
  intro r e m told
  unfold Event.advisory? at told
  unfold hear?
  split at told <;> cases told <;> simp [*]

end Replica

end PackGuard
