import RecordRules.Number.Double
import Mathlib.Data.Nat.Dist
import Mathlib.Tactic.Ring
import Mathlib.Tactic.Linarith

/-!
# The nearest magnitude

`IsNearest num den x` says without any arithmetic of mantissas and shifts that `x`
is what `num / den` units round to: the quotient is below the midpoint between the
greatest magnitude and the first value out of reach, no magnitude is closer, and
of two equally close ones the one with the even mantissa is taken.

* `nearest_eq_some_iff`: `nearest` finds that magnitude, and nothing else;
* `nearest_eq_of_mul_eq`: it depends on the quotient only;
* `nearest_units_mul`: a magnitude is nearest to itself.
-/

namespace RecordRules.Number

/-! ## Rounding a quotient to a natural -/

/-- Twice the quotient is within one of twice the rounded one, and at an end of that
interval the rounded one is even. -/
theorem roundDiv_bounds (num : Nat) {den : Nat} (hden : 0 < den) :
    2 * num ≤ (2 * roundDiv num den + 1) * den ∧
    2 * roundDiv num den * den ≤ 2 * num + den ∧
    (2 * num = (2 * roundDiv num den + 1) * den ∨
      2 * roundDiv num den * den = 2 * num + den → roundDiv num den % 2 = 0) := by
  have hdiv := Nat.div_add_mod num den
  have hmod := Nat.mod_lt num hden
  have hlow : (2 * (num / den) + 1) * den = 2 * (den * (num / den)) + den := by ring
  have hhigh : (2 * (num / den + 1) + 1) * den = 2 * (den * (num / den)) + 3 * den := by ring
  have hbelow : 2 * (num / den) * den = 2 * (den * (num / den)) := by ring
  have habove : 2 * (num / den + 1) * den = 2 * (den * (num / den)) + 2 * den := by ring
  unfold roundDiv
  dsimp only
  split
  · next h =>
    rw [hlow, hbelow]
    omega
  · next h =>
    rw [hhigh, habove]
    omega

private theorem mul_add_le_mul {k m : Nat} (h : k < m) (den : Nat) : k * den + den ≤ m * den := by
  rw [← Nat.succ_mul]
  exact Nat.mul_le_mul_right den h

theorem dist_roundDiv_le (num : Nat) {den : Nat} (hden : 0 < den) (k : Nat) :
    Nat.dist num (roundDiv num den * den) ≤ Nat.dist num (k * den) := by
  obtain ⟨hle, hge, -⟩ := roundDiv_bounds num hden
  generalize roundDiv num den = m at *
  have hm : (2 * m + 1) * den = 2 * (m * den) + den := by ring
  have hm' : 2 * m * den = 2 * (m * den) := by ring
  unfold Nat.dist
  rcases Nat.lt_trichotomy k m with h | rfl | h
  · have hk := mul_add_le_mul h den
    omega
  · exact Nat.le_refl _
  · have hk := mul_add_le_mul h den
    omega

theorem even_roundDiv_of_tie {num den k : Nat} (hden : 0 < den) (hk : k ≠ roundDiv num den)
    (htie : Nat.dist num (k * den) = Nat.dist num (roundDiv num den * den)) :
    roundDiv num den % 2 = 0 := by
  obtain ⟨hle, hge, heven⟩ := roundDiv_bounds num hden
  generalize roundDiv num den = m at *
  have hm : (2 * m + 1) * den = 2 * (m * den) + den := by ring
  have hm' : 2 * m * den = 2 * (m * den) := by ring
  apply heven
  unfold Nat.dist at htie
  rcases Nat.lt_or_gt_of_ne hk with h | h
  · right
    have hk := mul_add_le_mul h den
    omega
  · left
    have hk := mul_add_le_mul h den
    omega

namespace Magnitude

/-! ## The grid of magnitudes -/

def unit (shift : Nat) : Nat := 2 ^ shift

theorem unit_pos (shift : Nat) : 0 < unit shift := Nat.two_pow_pos shift

theorem unit_succ (shift : Nat) : unit (shift + 1) = 2 * unit shift := by
  rw [unit, unit, Nat.pow_succ, Nat.mul_comm]

theorem unit_le {s t : Nat} (h : s ≤ t) : unit s ≤ unit t :=
  Nat.pow_le_pow_right Nat.two_pos h

theorem mantissa_lt (x : Magnitude) : x.mantissa < 2 ^ 53 := x.normal.1

theorem shift_le (x : Magnitude) : x.shift ≤ 2045 := x.normal.2.1

theorem le_mantissa {x : Magnitude} (h : x.shift ≠ 0) : 2 ^ 52 ≤ x.mantissa :=
  x.normal.2.2.resolve_left h

theorem units_eq (x : Magnitude) : x.units = x.mantissa * unit x.shift := rfl

theorem units_le (x : Magnitude) : x.units ≤ (2 ^ 53 - 1) * unit 2045 :=
  Nat.mul_le_mul (Nat.le_sub_one_of_lt x.mantissa_lt) (unit_le x.shift_le)

theorem le_units {x : Magnitude} (h : x.shift ≠ 0) : 2 ^ 52 * unit x.shift ≤ x.units := by
  rw [units_eq]
  exact Nat.mul_le_mul_right _ (le_mantissa h)

theorem units_lt_of_shift_lt {x : Magnitude} {shift : Nat} (h : x.shift < shift) :
    x.units < 2 ^ 52 * unit shift := by
  obtain ⟨s, rfl⟩ : ∃ s, shift = s + 1 := ⟨shift - 1, by omega⟩
  calc
    x.units = x.mantissa * unit x.shift := x.units_eq
    _ < 2 ^ 53 * unit x.shift := Nat.mul_lt_mul_of_pos_right x.mantissa_lt (unit_pos _)
    _ ≤ 2 ^ 53 * unit s := Nat.mul_le_mul_left _ (unit_le (Nat.le_of_lt_succ h))
    _ = 2 ^ 52 * unit (s + 1) := by rw [unit_succ]; ring

/-- From a shift on every magnitude is a multiple of its unit. -/
theorem exists_units_eq_of_le_shift {x : Magnitude} {shift : Nat} (h : shift ≤ x.shift) :
    ∃ k, x.units = k * unit shift := by
  refine ⟨x.mantissa * 2 ^ (x.shift - shift), ?_⟩
  rw [units_eq, unit, unit, Nat.mul_assoc, ← Nat.pow_add, Nat.sub_add_cancel h]

theorem units_injective {x y : Magnitude} (h : x.units = y.units) : x = y := by
  have hshift : x.shift = y.shift := by
    rcases Nat.lt_trichotomy x.shift y.shift with hlt | heq | hgt
    · have := units_lt_of_shift_lt hlt
      have := le_units (x := y) (by omega)
      omega
    · exact heq
    · have := units_lt_of_shift_lt hgt
      have := le_units (x := x) (by omega)
      omega
  have hmantissa : x.mantissa = y.mantissa := by
    rw [units_eq, units_eq, hshift] at h
    exact Nat.eq_of_mul_eq_mul_right (unit_pos _) h
  cases x
  cases y
  simp_all

/-- The magnitude above one whose mantissa is not the greatest. -/
def next (x : Magnitude) (h : x.mantissa + 1 < 2 ^ 53) : Magnitude where
  mantissa := x.mantissa + 1
  shift := x.shift
  normal := ⟨h, x.shift_le, x.normal.2.2.imp_right (Nat.le_add_right_of_le ·)⟩

theorem units_next (x : Magnitude) (h : x.mantissa + 1 < 2 ^ 53) :
    (x.next h).units = x.units + unit x.shift := by
  simp only [units_eq, next]
  ring

theorem units_next_le {x y : Magnitude} (h : x.mantissa + 1 < 2 ^ 53) (hlt : x.units < y.units) :
    (x.next h).units ≤ y.units := by
  rw [units_next]
  rcases Nat.lt_or_ge y.shift x.shift with hshift | hshift
  · have := units_lt_of_shift_lt hshift
    have := le_units (x := x) (by omega)
    omega
  · obtain ⟨k, hk⟩ := exists_units_eq_of_le_shift hshift
    rw [units_eq, hk] at hlt
    have hsucc : x.mantissa + 1 ≤ k := Nat.lt_of_mul_lt_mul_right hlt
    calc
      x.units + unit x.shift = (x.mantissa + 1) * unit x.shift := by rw [units_eq]; ring
      _ ≤ k * unit x.shift := Nat.mul_le_mul_right _ hsucc
      _ = y.units := hk.symm

/-! ## Being nearest -/

/-- How far a magnitude lies from a quotient, times its denominator. -/
def distance (num den : Nat) (x : Magnitude) : Nat := Nat.dist num (x.units * den)

/-- The magnitude that `num / den` units round to. -/
structure IsNearest (num den : Nat) (x : Magnitude) : Prop where
  inReach : 2 * num < (2 ^ 54 - 1) * unit 2045 * den
  closest : ∀ y, distance num den x ≤ distance num den y
  even_of_tie : ∀ y, y ≠ x → distance num den y = distance num den x → x.mantissa % 2 = 0

theorem IsNearest.den_pos {num den : Nat} {x : Magnitude} (h : IsNearest num den x) : 0 < den := by
  have hreach := h.inReach
  by_contra! hden
  simp_all

theorem IsNearest.units_le {num den : Nat} {x y : Magnitude} (hx : IsNearest num den x)
    (hy : IsNearest num den y) : y.units ≤ x.units := by
  by_contra! hlt
  have hdist : distance num den y = distance num den x :=
    Nat.le_antisymm (hy.closest x) (hx.closest y)
  have hne : y ≠ x := fun h => by simp [h] at hlt
  have hxeven := hx.even_of_tie y hne hdist
  have hyeven := hy.even_of_tie x hne.symm hdist.symm
  -- the mantissa is even, so the next magnitude has the same shift and an odd one
  have hnext : x.mantissa + 1 < 2 ^ 53 := by
    have := x.mantissa_lt
    omega
  have hodd : y ≠ x.next hnext := by
    intro h
    rw [h] at hyeven
    simp only [next] at hyeven
    omega
  have hbelow : (x.next hnext).units < y.units :=
    Nat.lt_of_le_of_ne (units_next_le hnext hlt) fun h => hodd (units_injective h).symm
  have habove : x.units < (x.next hnext).units := by
    rw [units_next]
    have := unit_pos x.shift
    omega
  have hclosest := hx.closest (x.next hnext)
  have h1 := Nat.mul_lt_mul_of_pos_right habove hx.den_pos
  have h2 := Nat.mul_lt_mul_of_pos_right hbelow hx.den_pos
  unfold distance Nat.dist at *
  omega

theorem IsNearest.unique {num den : Nat} {x y : Magnitude} (hx : IsNearest num den x)
    (hy : IsNearest num den y) : x = y :=
  units_injective (Nat.le_antisymm (hy.units_le hx) (hx.units_le hy))

/-! ## What `nearest` finds -/

section Nearest

variable {num den shift : Nat} {x : Magnitude}

theorem lt_of_shift_eq (hden : 0 < den) (hshift : shift = (num / den).log2 - 52) :
    num < 2 ^ 53 * (den * unit shift) := by
  have hquotient : num / den < 2 ^ 53 * unit shift :=
    calc
      num / den < 2 ^ ((num / den).log2 + 1) := Nat.lt_log2_self
      _ ≤ 2 ^ (53 + shift) := Nat.pow_le_pow_right Nat.two_pos (by omega)
      _ = 2 ^ 53 * unit shift := Nat.pow_add 2 53 shift
  calc
    num < 2 ^ 53 * unit shift * den := (Nat.div_lt_iff_lt_mul hden).1 hquotient
    _ = 2 ^ 53 * (den * unit shift) := by ring

theorem le_of_shift_eq (hshift : shift = (num / den).log2 - 52) (hne : shift ≠ 0) :
    2 ^ 52 * (den * unit shift) ≤ num := by
  have hlog : (num / den).log2 = 52 + shift := by omega
  have hpos : num / den ≠ 0 := by
    intro h
    rw [h, Nat.log2_zero] at hlog
    omega
  calc
    2 ^ 52 * (den * unit shift) = 2 ^ 52 * unit shift * den := by ring
    _ = 2 ^ (num / den).log2 * den := by rw [hlog, Nat.pow_add, unit]
    _ ≤ num / den * den := Nat.mul_le_mul_right den (Nat.log2_self_le hpos)
    _ ≤ num := Nat.div_mul_le_self num den

/-- The grid of one shift decides, as the quotient lies above all finer magnitudes. -/
theorem isNearest_of_units_eq (hden : 0 < den)
    (hlow : shift ≠ 0 → 2 ^ 52 * (den * unit shift) ≤ num)
    (hunits : x.units = roundDiv num (den * unit shift) * unit shift)
    (heven : roundDiv num (den * unit shift) % 2 = 0 → x.mantissa % 2 = 0)
    (hreach : 2 * num < (2 ^ 54 - 1) * unit 2045 * den) : IsNearest num den x := by
  have hpos : 0 < den * unit shift := Nat.mul_pos hden (unit_pos shift)
  have hgrid (k : Nat) : k * unit shift * den = k * (den * unit shift) := by ring
  have hx : distance num den x =
      Nat.dist num (roundDiv num (den * unit shift) * (den * unit shift)) := by
    rw [distance, hunits, hgrid]
  have hfine (y : Magnitude) (hlt : y.shift < shift) :
      distance num den x < distance num den y := by
    have hle := dist_roundDiv_le num hpos (2 ^ 52)
    have hnum := hlow (Nat.ne_zero_of_lt hlt)
    have hy : y.units * den < 2 ^ 52 * unit shift * den :=
      Nat.mul_lt_mul_of_pos_right (units_lt_of_shift_lt hlt) hden
    rw [hgrid] at hy
    rw [hx, distance]
    unfold Nat.dist at *
    omega
  refine ⟨hreach, fun y => ?_, fun y hne htie => ?_⟩
  · rcases Nat.lt_or_ge y.shift shift with hlt | hge
    · exact Nat.le_of_lt (hfine y hlt)
    · obtain ⟨k, hk⟩ := exists_units_eq_of_le_shift hge
      rw [hx, distance, hk, hgrid]
      exact dist_roundDiv_le num hpos k
  · rcases Nat.lt_or_ge y.shift shift with hlt | hge
    · exact absurd htie (Nat.ne_of_gt (hfine y hlt))
    · obtain ⟨k, hk⟩ := exists_units_eq_of_le_shift hge
      rw [hx, distance, hk, hgrid] at htie
      refine heven (even_roundDiv_of_tie hpos (fun h => hne (units_injective ?_)) htie)
      rw [hk, hunits, h]

theorem roundDiv_le_of_lt {num den : Nat} (hden : 0 < den) (h : num < 2 ^ 53 * den) :
    roundDiv num den ≤ 2 ^ 53 := by
  obtain ⟨-, hge, -⟩ := roundDiv_bounds num hden
  by_contra! hlt
  have hmul : (2 ^ 53 + 1) * den ≤ roundDiv num den * den := Nat.mul_le_mul_right den hlt
  rw [Nat.mul_assoc] at hge
  omega

/-- A quotient that rounds to less than `2 ^ 53` is below the midpoint before it: the
tie there goes to the even `2 ^ 53`. -/
theorem lt_of_roundDiv_lt {num den : Nat} (hden : 0 < den) (h : roundDiv num den < 2 ^ 53) :
    2 * num < (2 ^ 54 - 1) * den := by
  obtain ⟨hle, -, htie⟩ := roundDiv_bounds num hden
  rcases Nat.lt_or_ge (roundDiv num den) (2 ^ 53 - 1) with hlt | hge
  · have hmul : (2 * roundDiv num den + 1) * den ≤ (2 ^ 54 - 3) * den :=
      Nat.mul_le_mul_right den (by omega)
    omega
  · have hodd : roundDiv num den % 2 ≠ 0 := by omega
    have hne : 2 * num ≠ (2 * roundDiv num den + 1) * den := fun heq => hodd (htie (.inl heq))
    have hlast : 2 * roundDiv num den + 1 = 2 ^ 54 - 1 := by omega
    rw [hlast] at hle hne
    exact Nat.lt_of_le_of_ne hle hne

theorem nearest_spec (hden : 0 < den) :
    match nearest num den with
    | some x => IsNearest num den x
    | none => (2 ^ 54 - 1) * unit 2045 * den ≤ 2 * num := by
  have hlow := le_of_shift_eq (Eq.refl ((num / den).log2 - 52))
  have hhigh := lt_of_shift_eq hden (Eq.refl ((num / den).log2 - 52))
  have hpos : 0 < den * unit ((num / den).log2 - 52) := Nat.mul_pos hden (unit_pos _)
  have hmantissa := roundDiv_le_of_lt hpos hhigh
  have htop : den * unit ((num / den).log2 - 52 + 1) =
      2 * (den * unit ((num / den).log2 - 52)) := by
    rw [unit_succ]
    ring
  have hcomm : (2 ^ 54 - 1) * unit 2045 * den = (2 ^ 54 - 1) * (den * unit 2045) := by ring
  unfold nearest
  dsimp only
  by_cases hfits : roundDiv num (den * Nat.pow 2 ((num / den).log2 - 52)) < Nat.pow 2 53 ∧
      (num / den).log2 - 52 ≤ 2045
  · rw [dif_pos hfits]
    refine isNearest_of_units_eq hden hlow (units_eq _) id ?_
    have hlt := lt_of_roundDiv_lt hpos hfits.1
    have hle := Nat.mul_le_mul_left den (unit_le hfits.2)
    omega
  rw [dif_neg hfits]
  by_cases hshift : (num / den).log2 - 52 < 2045
  · rw [dif_pos hshift]
    have hfull : roundDiv num (den * unit ((num / den).log2 - 52)) = 2 ^ 53 :=
      Nat.le_antisymm hmantissa (Nat.not_lt.1 fun h => hfits ⟨h, Nat.le_of_lt hshift⟩)
    have heven : Nat.pow 2 52 % 2 = 0 := by decide
    refine isNearest_of_units_eq hden hlow ?_ (fun _ => heven) ?_
    · rw [hfull, units_eq, unit_succ]
      simp only [Nat.pow_eq]
      ring
    · have hle := Nat.mul_le_mul_left den (unit_le hshift)
      rw [Nat.succ_eq_add_one] at hle
      omega
  · rw [dif_neg hshift]
    dsimp only
    rcases Nat.eq_or_lt_of_le (Nat.not_lt.1 hshift) with heq | hlt
    · have hfull : roundDiv num (den * unit ((num / den).log2 - 52)) = 2 ^ 53 :=
        Nat.le_antisymm hmantissa (Nat.not_lt.1 fun h => hfits ⟨h, heq.ge⟩)
      obtain ⟨-, hge, -⟩ := roundDiv_bounds num hpos
      rw [hfull, ← heq] at hge
      omega
    · have hnum := hlow (Nat.ne_zero_of_lt hlt)
      have hle := Nat.mul_le_mul_left den (unit_le hlt)
      rw [Nat.succ_eq_add_one, unit_succ, Nat.mul_left_comm] at hle
      omega

theorem nearest_eq_some_iff (hden : 0 < den) :
    nearest num den = some x ↔ IsNearest num den x := by
  have hspec := @nearest_spec num den hden
  cases h : nearest num den with
  | some y =>
    rw [h] at hspec
    constructor
    · intro heq
      cases heq
      exact hspec
    · intro hx
      rw [hspec.unique hx]
  | none =>
    rw [h] at hspec
    constructor
    · intro heq
      cases heq
    · intro hx
      exact absurd hspec (Nat.not_le.2 hx.inReach)

theorem nearest_eq_none_iff (hden : 0 < den) :
    nearest num den = none ↔ (2 ^ 54 - 1) * unit 2045 * den ≤ 2 * num := by
  have hspec := @nearest_spec num den hden
  cases h : nearest num den with
  | some y =>
    rw [h] at hspec
    simpa using hspec.inReach
  | none =>
    rw [h] at hspec
    simpa using hspec

theorem nearest_units_mul (hden : 0 < den) (x : Magnitude) :
    nearest (x.units * den) den = some x := by
  have hself : distance (x.units * den) den x = 0 := Nat.dist_self _
  refine (nearest_eq_some_iff hden).2 ⟨?_, fun y => ?_, fun y hne htie => ?_⟩
  · have hle := Nat.mul_le_mul_right den x.units_le
    have hpos := Nat.mul_pos (unit_pos 2045) hden
    rw [Nat.mul_assoc] at hle ⊢
    omega
  · rw [hself]
    exact Nat.zero_le _
  · rw [hself, distance] at htie
    have heq := Nat.eq_of_mul_eq_mul_right hden (Nat.eq_of_dist_eq_zero htie)
    exact absurd (units_injective heq.symm) hne

/-! ### Independence of the fraction -/

theorem distance_mul (k num den : Nat) (x : Magnitude) :
    distance (k * num) (k * den) x = k * distance num den x := by
  rw [distance, Nat.mul_left_comm, Nat.dist_mul_left, distance]

theorem isNearest_mul_iff {k : Nat} (hk : 0 < k) :
    IsNearest (k * num) (k * den) x ↔ IsNearest num den x := by
  have hreach : 2 * (k * num) < (2 ^ 54 - 1) * unit 2045 * (k * den) ↔
      2 * num < (2 ^ 54 - 1) * unit 2045 * den := by
    rw [Nat.mul_left_comm 2 k, Nat.mul_left_comm _ k den]
    exact Nat.mul_lt_mul_left hk
  constructor
  · intro h
    refine ⟨hreach.1 h.inReach, fun y => ?_, fun y hne htie => h.even_of_tie y hne ?_⟩
    · have hle := h.closest y
      rw [distance_mul, distance_mul] at hle
      exact Nat.le_of_mul_le_mul_left hle hk
    · rw [distance_mul, distance_mul, htie]
  · intro h
    refine ⟨hreach.2 h.inReach, fun y => ?_, fun y hne htie => h.even_of_tie y hne ?_⟩
    · rw [distance_mul, distance_mul]
      exact Nat.mul_le_mul_left k (h.closest y)
    · rw [distance_mul, distance_mul] at htie
      exact Nat.eq_of_mul_eq_mul_left hk htie

/-- Rounding depends on the quotient only, not on the fraction that gives it. -/
theorem nearest_eq_of_mul_eq {num' den' : Nat} (hden : 0 < den) (hden' : 0 < den')
    (h : num * den' = num' * den) : nearest num den = nearest num' den' := by
  have hiff (x : Magnitude) : IsNearest num den x ↔ IsNearest num' den' x := by
    rw [← isNearest_mul_iff hden', Nat.mul_comm den' num, h, Nat.mul_comm num' den,
      Nat.mul_comm den' den, isNearest_mul_iff hden]
  apply Option.ext
  intro x
  rw [nearest_eq_some_iff hden, nearest_eq_some_iff hden', hiff]

end Nearest

end Magnitude

end RecordRules.Number
