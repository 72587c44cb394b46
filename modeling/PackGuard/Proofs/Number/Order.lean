import PackGuard.Proofs.Number.Values

/-!
# The order of all numbers

Numbers, the infinities among them, stand in a line on which only the two zeros share a place.
Arithmetic and comparisons do not tell numbers apart that share a place: results may again differ in
the sign of a zero, and in nothing else (`Alike`).

* `le_trans`, `alike_of_le`: **the order of numbers**, and what it does not tell apart.
* `alike_add`, `alike_sub`, `alike_div`, `le_congr`, `lt_congr`: **what is alike stays alike**.
* `Picks`: a choice of the lesser or the greater of two, which a NaN never wins; `extreme_foldl`: **a
  choice among many is the first of all numbers there**.
-/

namespace PackGuard.Binary

open Float.Model (Format UnpackedFloat)
open Float.Model.UnpackedFloat

/-! ## 1. The line of numbers -/

/-- The place of a number on a line with two ends. -/
def place : UnpackedFloat → ℤ ×ₗ ℚ
  | .infinity .negative => toLex (-1, 0)
  | .infinity .positive => toLex (1, 0)
  | u => toLex (0, value u)

theorem place_of_finite {u : UnpackedFloat} (finite : u.isFinite = true) :
    place u = toLex (0, value u) := by
  cases u with
  | infinity | notANumber => cases finite
  | zero | finite => rfl

section Order

variable {x y z : Float32}

/-- **Numbers stand in the order of their places.** -/
theorem le_iff_place (hx : x.isNaN = false) (hy : y.isNaN = false) :
    x ≤ y ↔ place x.toModel.unpack ≤ place y.toModel.unpack := by
  by_cases finite : x.isFinite = true ∧ y.isFinite = true
  · rw [le_iff_toRat finite.1 finite.2, place_of_finite finite.1, place_of_finite finite.2,
      Prod.Lex.toLex_le_toLex]
    simp [toRat]
  · rw [le_iff]
    change ¬ (x.toModel.unpack.isFinite = true ∧ y.toModel.unpack.isFinite = true) at finite
    change x.toModel.unpack.isNaN = false at hx
    change y.toModel.unpack.isNaN = false at hy
    generalize x.toModel.unpack = u at *
    generalize y.toModel.unpack = v at *
    -- one of them is infinite, so the ends of the line decide
    rcases u with (s | s) | _ | s | ⟨s, m, e, hm⟩ <;> rcases v with (t | t) | _ | t | ⟨t, n, k, hn⟩ <;>
      first
      | exact Bool.noConfusion hx
      | exact Bool.noConfusion hy
      | exact absurd ⟨rfl, rfl⟩ finite
      | simp [place, UnpackedFloat.compare, Prod.Lex.toLex_le_toLex] <;> rfl

/-- What can be compared is a number. -/
theorem isNaN_of_le (h : x ≤ y) : x.isNaN = false ∧ y.isNaN = false := by
  rw [le_iff] at h
  change x.toModel.unpack.isNaN = false ∧ y.toModel.unpack.isNaN = false
  generalize x.toModel.unpack = u at *
  generalize y.toModel.unpack = v at *
  cases u with
  | notANumber => cases h
  | infinity | zero | finite =>
      cases v with
      | notANumber => cases h
      | infinity | zero | finite => exact ⟨rfl, rfl⟩

theorem le_refl (number : x.isNaN = false) : x ≤ x :=
  (le_iff_place number number).2 le_rfl

theorem le_trans (h : x ≤ y) (h' : y ≤ z) : x ≤ z := by
  obtain ⟨hx, hy⟩ := isNaN_of_le h
  obtain ⟨-, hz⟩ := isNaN_of_le h'
  rw [le_iff_place hx hy] at h
  rw [le_iff_place hy hz] at h'
  exact (le_iff_place hx hz).2 (h.trans h')

theorem le_of_lt (h : x < y) : x ≤ y := by
  rw [le_iff, lt_iff.1 h]
  rfl

theorem le_lt_trans (h : x ≤ y) (h' : y < z) : x < z := by
  obtain ⟨hx, -⟩ := isNaN_of_le h
  obtain ⟨-, hz⟩ := isNaN_of_le (le_of_lt h')
  exact lt_of_not_le hz hx fun back => not_le_of_lt h' (le_trans back h)

theorem lt_le_trans (h : x < y) (h' : y ≤ z) : x < z := by
  obtain ⟨hx, -⟩ := isNaN_of_le (le_of_lt h)
  obtain ⟨-, hz⟩ := isNaN_of_le h'
  exact lt_of_not_le hz hx fun back => not_le_of_lt h (le_trans h' back)

end Order

/-! ## 2. What differs in the sign of a zero -/

/-- Two values are one value, or both are zero. -/
def AlikeUnpacked (u v : UnpackedFloat) : Prop := u = v ∨ ∃ s t, u = .zero s ∧ v = .zero t

/-- **Two numbers are one number, or both are zero.** -/
def Alike (x y : Float32) : Prop := AlikeUnpacked x.toModel.unpack y.toModel.unpack

theorem Alike.refl (x : Float32) : Alike x x := .inl rfl

theorem AlikeUnpacked.symm {u v : UnpackedFloat} (h : AlikeUnpacked u v) : AlikeUnpacked v u := by
  rcases h with rfl | ⟨s, t, rfl, rfl⟩
  · exact .inl rfl
  · exact .inr ⟨t, s, rfl, rfl⟩

/-- Two numbers of which each is at most the other are alike. -/
theorem alike_of_le {x y : Float32} (h : x ≤ y) (h' : y ≤ x) : Alike x y := by
  rw [le_iff] at h
  rw [le_iff, compare_swap] at h'
  have equal : UnpackedFloat.beq x.toModel.unpack y.toModel.unpack = true := by
    rw [UnpackedFloat.beq]
    cases order : x.toModel.unpack.compare y.toModel.unpack with
    | none => rw [order] at h; cases h
    | some o =>
        rw [order] at h h'
        cases o with
        | eq => rfl
        | lt => cases h'
        | gt => cases h
  obtain ⟨-, -, same | ⟨zero, zero'⟩ | ⟨zero, zero'⟩⟩ := (beq_iff_ne_notANumber_and_eq _ _).1 equal
  · exact .inl same
  · exact .inr ⟨_, _, zero, zero'⟩
  · exact .inr ⟨_, _, zero, zero'⟩

section Unpacked

variable {spec : Format} {u u' v v' : UnpackedFloat}

theorem compare_congr (h : AlikeUnpacked u u') (h' : AlikeUnpacked v v') :
    u.compare v = u'.compare v' := by
  have right : u.compare v = u.compare v' := by
    rcases h' with rfl | ⟨s, t, rfl, rfl⟩
    · rfl
    · rcases u with (_ | _) | _ | _ | ⟨_ | _, _, _, _⟩ <;> rfl
  rw [right]
  rcases h with rfl | ⟨s, t, rfl, rfl⟩
  · rfl
  · rcases v' with (_ | _) | _ | _ | ⟨_ | _, _, _, _⟩ <;> rfl

theorem alikeUnpacked_add (h : AlikeUnpacked u u') (v : UnpackedFloat) :
    AlikeUnpacked (UnpackedFloat.add spec u v) (UnpackedFloat.add spec u' v) := by
  rcases h with rfl | ⟨s, t, rfl, rfl⟩
  · exact .inl rfl
  · cases v with
    | zero r => cases s <;> cases t <;> cases r <;> exact .inr ⟨_, _, rfl, rfl⟩
    | notANumber | infinity | finite => exact .inl rfl

theorem alikeUnpacked_sub (h : AlikeUnpacked u u') (h' : AlikeUnpacked v v') :
    AlikeUnpacked (UnpackedFloat.sub spec u v) (UnpackedFloat.sub spec u' v') := by
  rcases h with rfl | ⟨s, t, rfl, rfl⟩
  · rcases h' with rfl | ⟨s, t, rfl, rfl⟩
    · exact .inl rfl
    · cases u with
      | zero r => cases s <;> cases t <;> cases r <;> exact .inr ⟨_, _, rfl, rfl⟩
      | notANumber | infinity | finite => exact .inl rfl
  · rcases h' with rfl | ⟨s', t', rfl, rfl⟩
    · cases v with
      | zero r => cases s <;> cases t <;> cases r <;> exact .inr ⟨_, _, rfl, rfl⟩
      | notANumber | infinity | finite => exact .inl rfl
    · cases s <;> cases t <;> cases s' <;> cases t' <;> exact .inr ⟨_, _, rfl, rfl⟩

theorem alikeUnpacked_div (h : AlikeUnpacked u u') (same : v = v') :
    AlikeUnpacked (UnpackedFloat.div spec u v) (UnpackedFloat.div spec u' v') := by
  subst same
  rcases h with rfl | ⟨s, t, rfl, rfl⟩
  · exact .inl rfl
  · cases v with
    | notANumber | zero => exact .inl rfl
    | infinity | finite => exact .inr ⟨_, _, rfl, rfl⟩

end Unpacked

/-- Packing keeps what is alike alike. -/
theorem alike_pack {u v : UnpackedFloat} (h : AlikeUnpacked u v) :
    Alike (.ofModel (.pack u)) (.ofModel (.pack v)) := by
  rcases h with rfl | ⟨s, t, rfl, rfl⟩
  · exact .inl rfl
  · refine .inr ⟨s, t, ?_, ?_⟩
    · cases s <;> rfl
    · cases t <;> rfl

section Alike

variable {x x' y y' : Float32}

theorem Alike.symm (h : Alike x x') : Alike x' x := AlikeUnpacked.symm h

/-- **What is alike compares alike.** -/
theorem le_congr (h : Alike x x') (h' : Alike y y') : x ≤ y ↔ x' ≤ y' := by
  rw [le_iff, le_iff, compare_congr h h']

theorem lt_congr (h : Alike x x') (h' : Alike y y') : x < y ↔ x' < y' := by
  rw [lt_iff, lt_iff, compare_congr h h']

theorem alike_add (h : Alike x x') (y : Float32) : Alike (x + y) (x' + y) :=
  alike_pack (alikeUnpacked_add h _)

theorem alike_sub (h : Alike x x') (h' : Alike y y') : Alike (x - y) (x' - y') :=
  alike_pack (alikeUnpacked_sub h h')

/-- Where the divisor is greater than zero, it is one number. -/
theorem alike_div (h : Alike x x') (h' : Alike y y') (positive : 0 < y) :
    Alike (x / y) (x' / y') := by
  rcases h' with same | ⟨s, t, zero, -⟩
  · exact alike_pack (alikeUnpacked_div h same)
  · rw [lt_iff, zero] at positive
    cases positive

end Alike

/-! ## 3. The first of many numbers -/

/-- A choice between two values in favour of the one that is first in an order. A NaN wins against
    no number. -/
structure Picks (first : Float32 → Float32 → Prop) (pick : Float32 → Float32 → Float32) : Prop where
  either : ∀ x y, pick x y = x ∨ pick x y = y
  number : ∀ x y, (pick x y).isNaN = (x.isNaN && y.isNaN)
  left : ∀ x y, x.isNaN = false → first (pick x y) x
  right : ∀ x y, y.isNaN = false → first (pick x y) y
  trans : ∀ x y z, first x y → first y z → first x z

/-- Taking what comes before the other in a linear order, and a number rather than a NaN. -/
theorem picks_of_before {first : Float32 → Float32 → Prop}
    (before : Float32 → Float32 → Prop) [DecidableRel before]
    (refl : ∀ x, x.isNaN = false → first x x)
    (trans : ∀ x y z, first x y → first y z → first x z)
    (of_before : ∀ x y, before x y → first x y)
    (of_not : ∀ x y, x.isNaN = false → y.isNaN = false → ¬ before x y → first y x) :
    Picks first fun x y =>
      if x.isNaN then y else if y.isNaN then x else if before y x then y else x where
  either x y := by
    split
    · exact .inr rfl
    · split
      · exact .inl rfl
      · split
        · exact .inr rfl
        · exact .inl rfl
  number x y := by
    cases hx : x.isNaN with
    | true => rfl
    | false =>
        cases hy : y.isNaN with
        | true => exact hx
        | false =>
            simp only [Bool.false_eq_true, if_false]
            split
            · exact hy
            · exact hx
  left x y hx := by
    simp only [hx, Bool.false_eq_true, if_false]
    split
    · exact refl x hx
    · split
      · next less => exact of_before y x less
      · exact refl x hx
  right x y hy := by
    cases hx : x.isNaN with
    | true => exact refl y hy
    | false =>
        simp only [hy, Bool.false_eq_true, if_false]
        split
        · exact refl y hy
        · next notLess => exact of_not y x hy hx notLess
  trans := trans

theorem picks_lesser : Picks (· ≤ ·) lesser :=
  picks_of_before (· < ·) (fun _ => le_refl) (fun _ _ _ => le_trans)
    (fun _ _ => le_of_lt) fun _ _ => le_of_not_lt

theorem picks_greater : Picks (fun x y => y ≤ x) greater :=
  picks_of_before (fun x y => y < x) (fun _ => le_refl) (fun _ _ _ h h' => le_trans h' h)
    (fun _ _ => le_of_lt) fun _ _ hx hy => le_of_not_lt hy hx

/-- **One of the numbers among these values**, first of them all. -/
structure Extreme (first : Float32 → Float32 → Prop) (xs : List Float32) (m : Float32) : Prop where
  among : m ∈ xs
  number : m.isNaN = false
  first : ∀ x ∈ xs, x.isNaN = false → first m x

section Extreme

variable {first : Float32 → Float32 → Prop} {pick : Float32 → Float32 → Float32}

theorem Picks.number_left (picks : Picks first pick) {x : Float32} (number : x.isNaN = false)
    (y : Float32) : (pick x y).isNaN = false := by
  rw [picks.number, number, Bool.false_and]

theorem Picks.number_right (picks : Picks first pick) (x : Float32) {y : Float32}
    (number : y.isNaN = false) : (pick x y).isNaN = false := by
  rw [picks.number, number, Bool.and_false]

theorem Picks.refl (picks : Picks first pick) {x : Float32} (number : x.isNaN = false) :
    first x x := by
  have near := picks.left x x number
  rcases picks.either x x with e | e <;> rwa [e] at near

/-- What is first of a choice and the rest is first of all. -/
theorem Extreme.of_pick (picks : Picks first pick) {x y m : Float32} {ys : List Float32}
    (h : Extreme first (pick x y :: ys) m) : Extreme first (x :: y :: ys) m where
  among := by
    rcases List.mem_cons.1 h.among with rfl | rest
    · rcases picks.either x y with e | e <;> simp [e]
    · simp [rest]
  number := h.number
  first z hz number := by
    have chosen (number : (pick x y).isNaN = false) := h.first _ List.mem_cons_self number
    rcases List.mem_cons.1 hz with rfl | hz
    · exact picks.trans _ _ _ (chosen (picks.number_left number y)) (picks.left z y number)
    · rcases List.mem_cons.1 hz with rfl | hz
      · exact picks.trans _ _ _ (chosen (picks.number_right x number)) (picks.right x z number)
      · exact h.first z (List.mem_cons_of_mem _ hz) number

/-- **Choosing among many values gives the first of all numbers there**, if there is a number. -/
theorem extreme_foldl (picks : Picks first pick) {x : Float32} {xs : List Float32}
    (numbered : ∃ y ∈ x :: xs, y.isNaN = false) : Extreme first (x :: xs) (xs.foldl pick x) := by
  induction xs generalizing x with
  | nil =>
      obtain ⟨y, hy, number⟩ := numbered
      obtain rfl := List.mem_singleton.1 hy
      refine ⟨hy, number, fun z hz _ => ?_⟩
      obtain rfl := List.mem_singleton.1 hz
      exact picks.refl number
  | cons y ys ih =>
      refine .of_pick picks (ih ?_)
      obtain ⟨z, hz, number⟩ := numbered
      rcases List.mem_cons.1 hz with rfl | hz
      · exact ⟨pick z y, List.mem_cons_self, picks.number_left number y⟩
      · rcases List.mem_cons.1 hz with rfl | hz
        · exact ⟨pick x z, List.mem_cons_self, picks.number_right x number⟩
        · exact ⟨z, List.mem_cons_of_mem _ hz, number⟩

/-- Two numbers that are first are first of each other. -/
theorem Extreme.both {xs : List Float32} {m m' : Float32} (h : Extreme first xs m)
    (h' : Extreme first xs m') : first m m' ∧ first m' m :=
  ⟨h.first m' h'.among h'.number, h'.first m h.among h.number⟩

/-- The order of the values does not matter. -/
theorem Extreme.of_perm {xs ys : List Float32} {m : Float32} (h : Extreme first xs m)
    (same : xs.Perm ys) : Extreme first ys m where
  among := same.mem_iff.1 h.among
  number := h.number
  first x hx := h.first x (same.mem_iff.2 hx)

end Extreme

end PackGuard.Binary
