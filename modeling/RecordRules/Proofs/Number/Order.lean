import Mathlib.Algebra.Field.Rat
import Mathlib.Algebra.Order.Ring.Rat
import Mathlib.Algebra.Order.Ring.Cast
import RecordRules.Proofs.Number.Reading

/-!
# Order of the doubles

A finite double stands for a rational number (`toRat?`), and doubles are ordered as these are.
An integer takes its place among the doubles once it is rounded.  Rounding cannot carry it past
a double, so the order that is found is that of the exact numbers or equality
(`exists_compare?_ofInt`), and up to `2 ^ 53` it is exact (`compare?_ofInt_of_le`).
-/

namespace RecordRules.Number

-- what is needed of them is stated once, and unfolding them does not end in useful time
attribute [local irreducible] unitsInOne Magnitude.nearest

theorem unitsInOne_eq_unit : unitsInOne = Magnitude.unit 1074 := by decide +kernel

theorem cast_unit (shift : Nat) : (Magnitude.unit shift : ℚ) = 2 ^ (shift : ℤ) := by
  rw [Magnitude.unit, Nat.cast_pow, Nat.cast_ofNat, zpow_natCast]

theorem unitsInOne_pos : (0 : ℚ) < unitsInOne := by
  rw [unitsInOne_eq_unit]
  exact Nat.cast_pos.2 (Magnitude.unit_pos 1074)

namespace Magnitude

def toRat (x : Magnitude) : ℚ := x.mantissa * 2 ^ ((x.shift : ℤ) - 1074)

theorem toRat_mul_unitsInOne (x : Magnitude) : x.toRat * unitsInOne = x.units := by
  rw [toRat, unitsInOne_eq_unit, cast_unit, mul_assoc, ← zpow_add₀ two_ne_zero, units_eq,
    Nat.cast_mul, cast_unit]
  congr 2
  omega

/-! ## Rounding -/

section

variable {num den : Nat} {x y : Magnitude}

theorem IsNearest.units_le_of_le (h : IsNearest num den x) (hle : num ≤ y.units * den) :
    x.units ≤ y.units := by
  by_contra! hlt
  have hclosest := h.closest y
  have hmul := Nat.mul_lt_mul_of_pos_right hlt h.den_pos
  unfold distance Nat.dist at hclosest
  omega

theorem IsNearest.le_units_of_le (h : IsNearest num den x) (hle : y.units * den ≤ num) :
    y.units ≤ x.units := by
  by_contra! hlt
  have hclosest := h.closest y
  have hmul := Nat.mul_lt_mul_of_pos_right hlt h.den_pos
  unfold distance Nat.dist at hclosest
  omega

/-- Short mantissas need not be full: doubling one makes up for a shift that is one less. -/
theorem exists_units_eq {k shift : Nat} (hk : k < 2 ^ 53) (hshift : shift ≤ 2045) :
    ∃ x : Magnitude, x.units = k * unit shift := by
  induction shift generalizing k with
  | zero => exact ⟨⟨k, 0, hk, hshift, .inl rfl⟩, rfl⟩
  | succ shift ih =>
    by_cases hfull : 2 ^ 52 ≤ k
    · exact ⟨⟨k, shift + 1, hk, hshift, .inr hfull⟩, rfl⟩
    · obtain ⟨x, hx⟩ := ih (show 2 * k < 2 ^ 53 by omega) (Nat.le_of_succ_le hshift)
      refine ⟨x, ?_⟩
      rw [hx, unit_succ]
      ring

theorem exists_units_eq_of_le {n : Nat} (h : n ≤ 2 ^ 53) :
    ∃ x : Magnitude, x.units = n * unitsInOne := by
  rcases Nat.lt_or_eq_of_le h with hlt | rfl
  · rw [unitsInOne_eq_unit]
    exact exists_units_eq hlt (by decide)
  · obtain ⟨x, hx⟩ := exists_units_eq (show 2 ^ 52 < 2 ^ 53 by decide) (show 1075 ≤ 2045 by decide)
    refine ⟨x, ?_⟩
    rw [hx, unitsInOne_eq_unit, unit_succ]
    ring

end

end Magnitude

namespace Double

def toRat? : Double → Option ℚ
  | finite negative x => some (if negative then -x.toRat else x.toRat)
  | _ => none

theorem units_finite (negative : Bool) (x : Magnitude) :
    (finite negative x).units = some (if negative then -(x.units : ℤ) else x.units) := by
  cases negative <;> rfl

theorem exists_units_of_toRat? {x : Double} {exact : ℚ} (h : x.toRat? = some exact) :
    ∃ units : ℤ, x.isFinite ∧ x.units = some units ∧ exact * unitsInOne = units := by
  cases x with
  | nan => cases h
  | infinite negative => cases h
  | finite negative x =>
    cases h
    refine ⟨_, rfl, units_finite negative x, ?_⟩
    have hunits := x.toRat_mul_unitsInOne
    cases negative
    · simpa using hunits
    · simpa using hunits

theorem exists_nearest_of_le {n : Nat} (h : n ≤ 2 ^ 64) (negative : Bool) :
    ∃ x : Magnitude, ofRatio negative n 1 = finite negative x ∧
      x.IsNearest (n * unitsInOne) 1 := by
  have hfinite := isFinite_ofNat h
  rw [ofNat, ofRatio] at hfinite
  cases hnearest : Magnitude.nearest (n * unitsInOne) 1 with
  | none =>
    rw [hnearest] at hfinite
    cases hfinite
  | some x =>
    refine ⟨x, ?_, (Magnitude.nearest_eq_some_iff Nat.one_pos).1 hnearest⟩
    rw [ofRatio, hnearest, ofMagnitude?]

theorem ofInt_ne_nan (n : ℤ) : ofInt n ≠ nan := by
  rw [ofInt, ofRatio]
  intro h
  cases hnearest : Magnitude.nearest (n.natAbs * unitsInOne) 1 with
  | none =>
    rw [hnearest] at h
    cases h
  | some x =>
    rw [hnearest] at h
    cases h

theorem mul_unitsInOne_eq (n : ℤ) :
    n * unitsInOne = if n < 0 then -((n.natAbs * unitsInOne : ℕ) : ℤ)
      else (n.natAbs * unitsInOne : ℕ) := by
  rw [Nat.cast_mul]
  split
  · next hn => rw [Int.ofNat_natAbs_of_nonpos hn.le, neg_mul, neg_neg]
  · next hn => rw [Int.natAbs_of_nonneg (not_lt.1 hn)]

/-- An integer that lies on one side of a double does not round to the other side. -/
theorem exists_units_ofInt {n : ℤ} (h : n.natAbs ≤ 2 ^ 64) :
    ∃ a : ℤ, (ofInt n).units = some a ∧
      ∀ (y : Double) (b : ℤ), y.isFinite → y.units = some b →
        (n * unitsInOne ≤ b → a ≤ b) ∧ (b ≤ n * unitsInOne → b ≤ a) := by
  obtain ⟨x, hx, hnearest⟩ := exists_nearest_of_le h (decide (n < 0))
  refine ⟨_, (congrArg units hx).trans (units_finite _ x), fun y b hy hb => ?_⟩
  obtain ⟨negative, y, rfl⟩ := isFinite_iff.1 hy
  rw [units_finite, Option.some.injEq] at hb
  subst hb
  have hbelow (hle : n.natAbs * unitsInOne ≤ y.units) : x.units ≤ y.units :=
    hnearest.units_le_of_le (by rwa [Nat.mul_one])
  have habove (hle : y.units ≤ n.natAbs * unitsInOne) : y.units ≤ x.units :=
    hnearest.le_units_of_le (by rwa [Nat.mul_one])
  have hzero (hle : n.natAbs * unitsInOne ≤ 0) : x.units ≤ Magnitude.zero.units :=
    hnearest.units_le_of_le (by omega)
  rw [show Magnitude.zero.units = 0 from Nat.zero_mul _] at hzero
  rw [mul_unitsInOne_eq]
  generalize n.natAbs * unitsInOne = product at *
  by_cases hn : n < 0
  · simp only [hn, decide_true, if_true]
    cases negative <;> simp only [Bool.false_eq_true, if_true, if_false] <;> omega
  · simp only [hn, decide_false, Bool.false_eq_true, if_false]
    cases negative <;> simp only [Bool.false_eq_true, if_true, if_false] <;> omega

theorem units_ofInt_of_le {n : ℤ} (h : n.natAbs ≤ 2 ^ 53) :
    (ofInt n).units = some (n * unitsInOne : ℤ) := by
  obtain ⟨a, ha, hbounds⟩ := exists_units_ofInt (h.trans (by decide))
  obtain ⟨y, hy⟩ := Magnitude.exists_units_eq_of_le h
  have hunits : (finite (decide (n < 0)) y).units = some (n * unitsInOne : ℤ) := by
    rw [units_finite, hy, mul_unitsInOne_eq]
    simp only [decide_eq_true_eq]
  obtain ⟨hbelow, habove⟩ := hbounds _ _ rfl hunits
  rw [ha, le_antisymm (hbelow le_rfl) (habove le_rfl)]

/-! ## Comparing -/

theorem compare?_of_units {x y : Double} {a b : ℤ} (hx : x.units = some a)
    (hy : y.units = some b) : x.compare? y = some (compare a b) := by
  rw [compare?, hx, hy]
  rfl

theorem units_eq_none_iff {x : Double} : x.units = none ↔ x = nan := by
  cases x with
  | nan => exact iff_of_true rfl rfl
  | infinite => exact iff_of_false nofun nofun
  | finite => exact iff_of_false nofun nofun

theorem compare?_eq_none_iff {x y : Double} : x.compare? y = none ↔ x = nan ∨ y = nan := by
  rw [← units_eq_none_iff, ← units_eq_none_iff]
  cases hx : x.units with
  | none => simp [compare?, hx]
  | some a =>
    cases hy : y.units with
    | none => simp [compare?, hx, hy]
    | some b => simp [compare?_of_units hx hy]

theorem compare?_swap (x y : Double) : y.compare? x = (x.compare? y).map Ordering.swap := by
  cases hx : x.units with
  | none => simp [compare?, hx]
  | some a =>
    cases hy : y.units with
    | none => simp [compare?, hx, hy]
    | some b =>
      rw [compare?_of_units hx hy, compare?_of_units hy hx, Option.map_some,
        Std.OrientedOrd.eq_swap]

theorem compare_of_mul_unitsInOne {a b : ℤ} {p q : ℚ} (ha : p * unitsInOne = a)
    (hb : q * unitsInOne = b) : compare a b = compare p q :=
  calc
    compare a b = cmp a b := (cmp_eq_compare a b).symm
    _ = cmp (a : ℚ) b := (Int.cast_strictMono.cmp_map_eq a b).symm
    _ = cmp (p * unitsInOne) (q * unitsInOne) := by rw [ha, hb]
    _ = cmp p q := (strictMono_mul_right_of_pos unitsInOne_pos).cmp_map_eq p q
    _ = compare p q := cmp_eq_compare p q

/-- Finite doubles are ordered as the numbers that they stand for. -/
theorem compare?_of_toRat? {x y : Double} {p q : ℚ} (hx : x.toRat? = some p)
    (hy : y.toRat? = some q) : x.compare? y = some (compare p q) := by
  obtain ⟨a, -, ha, hp⟩ := exists_units_of_toRat? hx
  obtain ⟨b, -, hb, hq⟩ := exists_units_of_toRat? hy
  rw [compare?_of_units ha hb, compare_of_mul_unitsInOne hp hq]

theorem compare_eq_or_eq {a b c : ℤ} (hbelow : c ≤ b → a ≤ b) (habove : b ≤ c → b ≤ a) :
    compare a b = compare c b ∨ compare a b = .eq := by
  rcases lt_trichotomy c b with h | h | h
  · rcases (hbelow h.le).lt_or_eq with hlt | heq
    · exact .inl ((compare_lt_iff_lt.2 hlt).trans (compare_lt_iff_lt.2 h).symm)
    · exact .inr (compare_eq_iff_eq.2 heq)
  · exact .inr (compare_eq_iff_eq.2 (le_antisymm (hbelow h.le) (habove h.ge)))
  · rcases (habove h.le).lt_or_eq with hlt | heq
    · exact .inl ((compare_gt_iff_gt.2 hlt).trans (compare_gt_iff_gt.2 h).symm)
    · exact .inr (compare_eq_iff_eq.2 heq.symm)

section

variable {n : ℤ} {x : Double} {exact : ℚ}

theorem cast_mul_unitsInOne (n : ℤ) : (n : ℚ) * unitsInOne = ((n * unitsInOne : ℤ) : ℚ) := by
  rw [Int.cast_mul, Int.cast_natCast]

/-- Rounding can at most turn a strict inequality into an equality. -/
theorem exists_compare?_ofInt (hn : n.natAbs ≤ 2 ^ 64) (hx : x.toRat? = some exact) :
    ∃ order, (ofInt n).compare? x = some order ∧
      (order = compare (n : ℚ) exact ∨ order = .eq) := by
  obtain ⟨a, ha, hbounds⟩ := exists_units_ofInt hn
  obtain ⟨b, hfinite, hb, hexact⟩ := exists_units_of_toRat? hx
  obtain ⟨hbelow, habove⟩ := hbounds x b hfinite hb
  rw [← compare_of_mul_unitsInOne (cast_mul_unitsInOne n) hexact]
  exact ⟨_, compare?_of_units ha hb, compare_eq_or_eq hbelow habove⟩

theorem compare?_ofInt_of_le (hn : n.natAbs ≤ 2 ^ 53) (hx : x.toRat? = some exact) :
    (ofInt n).compare? x = some (compare (n : ℚ) exact) := by
  obtain ⟨b, -, hb, hexact⟩ := exists_units_of_toRat? hx
  rw [compare?_of_units (units_ofInt_of_le hn) hb,
    compare_of_mul_unitsInOne (cast_mul_unitsInOne n) hexact]

end

end Double

end RecordRules.Number
