/-!
# Maps kept in the order of their keys

Each key has a rank, a natural number, and the rank determines the key. A `RankedMap` is a list of
entries with **strictly ascending ranks**, so no key stands in it twice. Putting a key in replaces
what it held before (`contains_insert`); the entries come out by ascending rank.
-/

namespace PackGuard

/-! ## 1. Ranks -/

/-- Keys in a fixed order. -/
class Ranked (κ : Type u) where
  rank : κ → Nat
  rank_inj : ∀ {a b : κ}, rank a = rank b → a = b

variable {κ : Type u} {ν : Type v} [Ranked κ]

/-- The entry of a lesser rank. -/
def RanksBelow (a b : κ × ν) : Prop := Ranked.rank a.1 < Ranked.rank b.1

/-- An entry put in its place among ordered entries, in place of one with the same key. -/
def placeRanked (k : κ) (v : ν) : List (κ × ν) → List (κ × ν)
  | [] => [(k, v)]
  | (k', v') :: rest =>
    if Ranked.rank k < Ranked.rank k' then (k, v) :: (k', v') :: rest
    else if Ranked.rank k = Ranked.rank k' then (k, v) :: rest
    else (k', v') :: placeRanked k v rest

theorem mem_placeRanked {k : κ} {v : ν} {e : κ × ν} {es : List (κ × ν)}
    (h : e ∈ placeRanked k v es) : e = (k, v) ∨ e ∈ es := by
  induction es with
  | nil => simpa [placeRanked] using h
  | cons x rest ih =>
    obtain ⟨k', v'⟩ := x
    simp only [placeRanked] at h
    split at h
    · simpa using h
    · split at h
      · rcases List.mem_cons.1 h with rfl | h
        · exact .inl rfl
        · exact .inr (List.mem_cons_of_mem _ h)
      · rcases List.mem_cons.1 h with rfl | h
        · exact .inr List.mem_cons_self
        · exact (ih h).imp_right (List.mem_cons_of_mem _)

/-- Placing keeps the order. -/
theorem placeRanked_pairwise {k : κ} {v : ν} {es : List (κ × ν)} (h : es.Pairwise RanksBelow) :
    (placeRanked k v es).Pairwise RanksBelow := by
  induction es with
  | nil => simp [placeRanked]
  | cons x rest ih =>
    obtain ⟨k', v'⟩ := x
    obtain ⟨above, ordered⟩ := List.pairwise_cons.1 h
    simp only [placeRanked]
    split
    · next less =>
      refine List.pairwise_cons.2 ⟨fun e he => ?_, h⟩
      rcases List.mem_cons.1 he with rfl | he
      · exact less
      · exact Nat.lt_trans less (above e he)
    · next notLess =>
      split
      · next same =>
        refine List.pairwise_cons.2 ⟨fun e he => ?_, ordered⟩
        exact Nat.lt_of_le_of_lt (Nat.le_of_eq same) (above e he)
      · next different =>
        refine List.pairwise_cons.2 ⟨fun e he => ?_, ih ordered⟩
        rcases mem_placeRanked he with rfl | he
        · exact Nat.lt_of_le_of_ne (Nat.le_of_not_lt notLess) (Ne.symm different)
        · exact above e he

/-! ## 2. Maps -/

/-- A map whose entries stand in the order of their keys. -/
structure RankedMap (κ : Type u) (ν : Type v) [Ranked κ] where
  entries : List (κ × ν) := []
  ordered : entries.Pairwise RanksBelow := by exact .nil
deriving DecidableEq, Repr

namespace RankedMap

def empty : RankedMap κ ν := {}

instance : Inhabited (RankedMap κ ν) := ⟨empty⟩

def insert (m : RankedMap κ ν) (k : κ) (v : ν) : RankedMap κ ν :=
  ⟨placeRanked k v m.entries, placeRanked_pairwise m.ordered⟩

def contains (m : RankedMap κ ν) (k : κ) : Bool :=
  m.entries.any fun e => Ranked.rank e.1 == Ranked.rank k

def isEmpty (m : RankedMap κ ν) : Bool := m.entries.isEmpty

def size (m : RankedMap κ ν) : Nat := m.entries.length

/-- The keys, in order. -/
def keys (m : RankedMap κ ν) : List κ := m.entries.map (·.1)

/-- Whether two maps have the same keys. -/
def sameKeys (a b : RankedMap κ ν) : Bool :=
  a.keys.map Ranked.rank == b.keys.map Ranked.rank

/-- The entries whose key the other map lacks. -/
def since (m previous : RankedMap κ ν) : List (κ × ν) :=
  m.entries.filter fun e => !previous.contains e.1

/-! ### What a map contains -/

theorem contains_iff {m : RankedMap κ ν} {k : κ} : m.contains k ↔ k ∈ m.keys := by
  simp only [contains, keys, List.any_eq_true, beq_iff_eq, List.mem_map]
  exact ⟨fun ⟨e, he, h⟩ => ⟨e, he, Ranked.rank_inj h⟩, fun ⟨e, he, h⟩ => ⟨e, he, h ▸ rfl⟩⟩

theorem any_placeRanked (k : κ) (v : ν) (n : Nat) (es : List (κ × ν)) :
    ((placeRanked k v es).any fun e => Ranked.rank e.1 == n) =
      (Ranked.rank k == n || es.any fun e => Ranked.rank e.1 == n) := by
  induction es with
  | nil => rfl
  | cons x rest ih =>
    obtain ⟨k', v'⟩ := x
    simp only [placeRanked]
    split
    · rfl
    · split
      · next same => simp [same]
      · simp only [List.any_cons, ih, Bool.or_left_comm]

/-- Putting a key in adds this key and no other. -/
theorem contains_insert (m : RankedMap κ ν) (k k' : κ) (v : ν) :
    (m.insert k v).contains k' = (Ranked.rank k == Ranked.rank k' || m.contains k') :=
  any_placeRanked k v _ _

theorem mem_since {m previous : RankedMap κ ν} {e : κ × ν} :
    e ∈ m.since previous ↔ e ∈ m.entries ∧ previous.contains e.1 = false := by
  simp [since]

/-- Maps with the same keys lack nothing that the other has. -/
theorem sameKeys_iff {a b : RankedMap κ ν} : a.sameKeys b ↔ a.keys = b.keys := by
  simp only [sameKeys, beq_iff_eq]
  refine ⟨fun h => ?_, fun h => h ▸ rfl⟩
  exact (List.map_inj_right fun _ _ => Ranked.rank_inj).1 h

end RankedMap

end PackGuard
