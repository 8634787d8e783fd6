import RecordRules.Number.Shortest
import RecordRules.Proofs.Number.Nearest

/-!
# Decimals read as doubles

Reading a decimal rounds its exact value to the nearest double: the shortcuts for
exponents far out of range give what rounding the fraction would give.  So only the
value of a decimal matters, and the shortest decimal of a magnitude reads back to it.
-/

namespace RecordRules.Number

-- what is needed of them is stated once, and unfolding them does not end in useful time
attribute [local irreducible] unitsInOne Magnitude.nearest

/-! ## Powers of ten -/

def tenTo (n : Nat) : Nat := Nat.pow 10 n

theorem tenTo_pos (n : Nat) : 0 < tenTo n := Nat.pow_pos (by decide)

theorem tenTo_add (m n : Nat) : tenTo (m + n) = tenTo m * tenTo n := Nat.pow_add 10 m n

theorem tenTo_succ (n : Nat) : tenTo (n + 1) = tenTo n * 10 := Nat.pow_succ ..

theorem tenTo_le {m n : Nat} (h : m ≤ n) : tenTo m ≤ tenTo n :=
  Nat.pow_le_pow_right (by decide) h

theorem le_tenTo_log2 (n : Nat) : n ≤ tenTo (n.log2 + 1) :=
  (Nat.le_of_lt Nat.lt_log2_self).trans (Nat.pow_le_pow_left (by decide) _)

theorem unitsInOne_le_tenTo : 2 * unitsInOne ≤ tenTo 401 := by decide +kernel

theorem unit_le_tenTo :
    (2 ^ 54 - 1) * Magnitude.unit 2045 ≤ 2 * (tenTo 401 * unitsInOne) := by
  decide +kernel

theorem pow_five_mul_unitsInOne : Nat.pow 5 1074 * unitsInOne = tenTo 1074 := by decide +kernel

/-! ## Runs of digits -/

def IsDigits (cs : List Char) : Prop := cs ≠ [] ∧ ∀ c ∈ cs, c.isDigit

theorem natOfDigits?_eq_some_iff {cs : List Char} {n : Nat} :
    natOfDigits? cs = some n ↔ IsDigits cs ∧ digitsValue cs = n := by
  have hiff : (!cs.isEmpty && cs.all Char.isDigit) = true ↔ IsDigits cs := by
    simp [IsDigits]
  unfold natOfDigits?
  by_cases h : IsDigits cs
  · rw [if_pos (hiff.2 h), Option.some.injEq]
    simp [h]
  · rw [if_neg (mt hiff.1 h)]
    simp [h]

theorem natOfDigits?_eq_none_iff {cs : List Char} : natOfDigits? cs = none ↔ ¬IsDigits cs := by
  rw [Option.eq_none_iff_forall_ne_some]
  constructor
  · exact fun h hdigits => h _ (natOfDigits?_eq_some_iff.2 ⟨hdigits, rfl⟩)
  · exact fun h n hn => h (natOfDigits?_eq_some_iff.1 hn).1

theorem IsDigits.point_notMem {cs : List Char} (h : IsDigits cs) : '.' ∉ cs :=
  fun hmem => absurd (h.2 '.' hmem) (by decide)

theorem isDigits_append {cs ds : List Char} (hcs : IsDigits cs) (hds : ∀ c ∈ ds, c.isDigit) :
    IsDigits (cs ++ ds) :=
  ⟨List.append_ne_nil_of_left_ne_nil hcs.1 ds, List.forall_mem_append.2 ⟨hcs.2, hds⟩⟩

theorem isDigits_toDigits (n : Nat) : IsDigits (Nat.toDigits 10 n) :=
  ⟨Nat.toDigits_ne_nil, fun _ => Nat.isDigit_of_mem_toDigits (by decide) (by decide)⟩

theorem isDigit_of_mem_zeros {n : Nat} {c : Char} (h : c ∈ List.replicate n '0') : c.isDigit := by
  rw [List.eq_of_mem_replicate h]
  decide

@[simp] theorem digitsValue_toDigits (n : Nat) : digitsValue (Nat.toDigits 10 n) = n :=
  Nat.ofDigitChars_ten_toDigits

theorem digitsValue_append_zeros (cs : List Char) (n : Nat) :
    digitsValue (cs ++ List.replicate n '0') = digitsValue cs * tenTo n := by
  rw [digitsValue, Nat.ofDigitChars_append, Nat.ofDigitChars_replicate_zero]
  exact Nat.mul_comm _ _

theorem digitsValue_zeros_append (cs : List Char) (n : Nat) :
    digitsValue (List.replicate n '0' ++ cs) = digitsValue cs := by
  rw [digitsValue, Nat.ofDigitChars_append, Nat.ofDigitChars_replicate_zero, Nat.mul_zero]
  rfl

/-! ## Shortcuts -/

theorem nearest_eq_zero {num den : Nat} (hden : 0 < den) (h : 2 * num ≤ den) :
    Magnitude.nearest num den = some .zero := by
  have hzero : Magnitude.distance num den .zero = num := by
    rw [Magnitude.distance, show Magnitude.zero.units = 0 from Nat.zero_mul _, Nat.zero_mul,
      Nat.dist_zero_right]
  refine (Magnitude.nearest_eq_some_iff hden).2 ⟨?_, fun y => ?_, fun _ _ _ => rfl⟩
  · have hpos := Nat.mul_le_mul_right den (Magnitude.unit_pos 2045)
    rw [Nat.mul_assoc]
    omega
  · rw [hzero, Magnitude.distance]
    unfold Nat.dist
    rcases Nat.eq_zero_or_pos y.units with hy | hy
    · rw [hy]
      omega
    · have := Nat.mul_le_mul_right den hy
      omega

theorem Double.isFinite_iff {x : Double} : x.isFinite ↔ ∃ negative m, x = .finite negative m := by
  cases x <;> simp [isFinite]

theorem Double.isFinite_ofInt (n : Int) : (ofInt n).isFinite = (ofNat n.natAbs).isFinite := by
  rw [ofInt, ofNat, ofRatio, ofRatio]
  cases Magnitude.nearest (n.natAbs * unitsInOne) 1 <;> rfl

theorem Double.isFinite_ofNat {n : Nat} (h : n ≤ 2 ^ 64) : (Double.ofNat n).isFinite := by
  have hreach : 2 * (2 ^ 64 * unitsInOne) < (2 ^ 54 - 1) * Magnitude.unit 2045 := by
    decide +kernel
  rw [ofNat, ofRatio]
  cases hnearest : Magnitude.nearest (n * unitsInOne) 1 with
  | some x => rfl
  | none =>
    have hfar := (Magnitude.nearest_eq_none_iff Nat.one_pos).1 hnearest
    have hle := Nat.mul_le_mul_right unitsInOne h
    omega

namespace Decimal

theorem ratio_of_nonneg {d : Decimal} (h : 0 ≤ d.exponent) :
    d.ratio = (d.digits * tenTo d.exponent.toNat, 1) := if_pos h

theorem ratio_of_neg {d : Decimal} (h : d.exponent < 0) :
    d.ratio = (d.digits, tenTo (-d.exponent).toNat) := if_neg (Int.not_le.2 h)

theorem ratio_pos (d : Decimal) : 0 < d.ratio.2 := by
  rcases lt_or_ge d.exponent 0 with h | h
  · rw [ratio_of_neg h]
    exact tenTo_pos _
  · rw [ratio_of_nonneg h]
    exact Nat.one_pos

theorem ratio_ofDigits (whole fraction : List Char) :
    (ofDigits whole fraction 0).ratio =
      (digitsValue (whole ++ fraction), tenTo fraction.length) := by
  have hexponent : (ofDigits whole fraction 0).exponent = -(fraction.length : Int) :=
    Int.zero_sub _
  rcases Nat.eq_zero_or_pos fraction.length with hzero | hpos
  · rw [ratio_of_nonneg (by rw [hexponent]; omega), hexponent, hzero]
    exact congrArg (·, 1) (Nat.mul_one _)
  · rw [ratio_of_neg (by rw [hexponent]; omega), hexponent, Int.neg_neg, Int.toNat_natCast]
    rfl

theorem nearest_ratio_of_lt {d : Decimal}
    (h : d.digits = 0 ∨ d.exponent + (d.digits.log2 + 1) < -400) :
    Magnitude.nearest (d.ratio.1 * unitsInOne) d.ratio.2 = some .zero := by
  apply nearest_eq_zero d.ratio_pos
  rcases h with hzero | hlow
  · have hnum : d.ratio.1 = 0 := by
      unfold ratio
      split <;> simp [hzero]
    rw [hnum, Nat.zero_mul, Nat.mul_zero]
    exact Nat.zero_le _
  · rw [ratio_of_neg (by omega)]
    calc
      2 * (d.digits * unitsInOne) = d.digits * (2 * unitsInOne) := Nat.mul_left_comm _ _ _
      _ ≤ tenTo (d.digits.log2 + 1) * tenTo 401 :=
        Nat.mul_le_mul (le_tenTo_log2 _) unitsInOne_le_tenTo
      _ = tenTo (d.digits.log2 + 1 + 401) := (tenTo_add _ _).symm
      _ ≤ tenTo (-d.exponent).toNat := tenTo_le (by omega)

theorem nearest_ratio_of_gt {d : Decimal} (hne : d.digits ≠ 0) (h : 400 < d.exponent) :
    Magnitude.nearest (d.ratio.1 * unitsInOne) d.ratio.2 = none := by
  apply (Magnitude.nearest_eq_none_iff d.ratio_pos).2
  rw [ratio_of_nonneg (by omega), Nat.mul_one]
  have hpow : tenTo 401 ≤ d.digits * tenTo d.exponent.toNat :=
    calc
      tenTo 401 ≤ tenTo d.exponent.toNat := tenTo_le (by omega)
      _ ≤ d.digits * tenTo d.exponent.toNat := Nat.le_mul_of_pos_left _ (by omega)
  exact unit_le_tenTo.trans (Nat.mul_le_mul_left 2 (Nat.mul_le_mul_right _ hpow))

theorem toDouble_eq_ofRatio (negative : Bool) (d : Decimal) :
    d.toDouble negative = .ofRatio negative d.ratio.1 d.ratio.2 := by
  by_cases hlt : d.digits = 0 ∨ d.exponent + (d.digits.log2 + 1) < -400
  · rw [toDouble, if_pos hlt, Double.ofRatio, nearest_ratio_of_lt hlt, Double.ofMagnitude?]
  by_cases hgt : 400 < d.exponent
  · have hne : d.digits ≠ 0 := fun hzero => hlt (.inl hzero)
    rw [toDouble, if_neg hlt, if_pos hgt, Double.ofRatio, nearest_ratio_of_gt hne hgt,
      Double.ofMagnitude?]
  · rw [toDouble, if_neg hlt, if_neg hgt]

theorem toDouble_eq_finite_iff {negative : Bool} {d : Decimal} {x : Magnitude} :
    d.toDouble negative = .finite negative x ↔
      Magnitude.IsNearest (d.ratio.1 * unitsInOne) d.ratio.2 x := by
  rw [toDouble_eq_ofRatio, ← Magnitude.nearest_eq_some_iff d.ratio_pos, Double.ofRatio]
  cases Magnitude.nearest (d.ratio.1 * unitsInOne) d.ratio.2 <;> simp [Double.ofMagnitude?]

theorem toDouble_ofDigits_eq_finite_iff {negative : Bool} {whole fraction : List Char}
    {x : Magnitude} :
    (ofDigits whole fraction 0).toDouble negative = .finite negative x ↔
      x.IsNearest (digitsValue (whole ++ fraction) * unitsInOne) (10 ^ fraction.length) := by
  rw [toDouble_eq_finite_iff, ratio_ofDigits]
  rfl

theorem negative_of_toDouble_eq_finite {negative sign : Bool} {d : Decimal} {x : Magnitude}
    (h : d.toDouble negative = .finite sign x) : sign = negative := by
  rw [toDouble_eq_ofRatio, Double.ofRatio] at h
  cases hnearest : Magnitude.nearest (d.ratio.1 * unitsInOne) d.ratio.2 with
  | some y =>
    rw [hnearest, Double.ofMagnitude?] at h
    cases h
    rfl
  | none =>
    rw [hnearest, Double.ofMagnitude?] at h
    cases h

theorem toDouble_eq_of_mul_eq {negative : Bool} {d e : Decimal}
    (h : d.ratio.1 * e.ratio.2 = e.ratio.1 * d.ratio.2) :
    d.toDouble negative = e.toDouble negative := by
  have hunits : d.ratio.1 * unitsInOne * e.ratio.2 = e.ratio.1 * unitsInOne * d.ratio.2 := by
    rw [Nat.mul_right_comm, h, Nat.mul_right_comm]
  rw [toDouble_eq_ofRatio, toDouble_eq_ofRatio, Double.ofRatio, Double.ofRatio,
    Magnitude.nearest_eq_of_mul_eq d.ratio_pos e.ratio_pos hunits]

/-! ## Shortest decimals -/

theorem toDouble_shift (negative : Bool) (digits : Nat) (exponent : Int) :
    toDouble negative ⟨digits * 10, exponent⟩ = toDouble negative ⟨digits, exponent + 1⟩ := by
  apply toDouble_eq_of_mul_eq
  rcases Int.lt_trichotomy exponent (-1) with hlt | rfl | hgt
  · obtain ⟨n, hn⟩ : ∃ n, (-exponent).toNat = n + 1 := ⟨(-exponent).toNat - 1, by omega⟩
    have hn' : (-(exponent + 1)).toNat = n := by omega
    rw [ratio_of_neg (by dsimp only; omega), ratio_of_neg (by dsimp only; omega)]
    dsimp only
    rw [hn, hn', tenTo_succ]
    ring
  · rw [ratio_of_neg (show (-1 : Int) < 0 by decide),
      ratio_of_nonneg (show (0 : Int) ≤ -1 + 1 by decide)]
    change digits * 10 * 1 = digits * 1 * 10
    ring
  · have hn : (exponent + 1).toNat = exponent.toNat + 1 := by omega
    rw [ratio_of_nonneg (by dsimp only; omega), ratio_of_nonneg (by dsimp only; omega)]
    dsimp only
    rw [hn, tenTo_succ]
    ring

theorem toDouble_shift_tenTo (negative : Bool) (digits n : Nat) (exponent : Int) :
    toDouble negative ⟨digits * tenTo n, exponent⟩ = toDouble negative ⟨digits, exponent + n⟩ := by
  induction n generalizing exponent with
  | zero => rw [tenTo, Nat.pow_eq, Nat.pow_zero, Nat.mul_one, Int.natCast_zero, Int.add_zero]
  | succ n ih =>
    rw [tenTo_succ, ← Nat.mul_assoc, toDouble_shift, ih]
    congr 2
    omega

theorem toDouble_normalize (negative : Bool) (d : Decimal) :
    d.normalize.toDouble negative = d.toDouble negative := by
  induction d using normalize.induct with
  | case1 d h ih =>
    rw [normalize, dif_pos h, ih, ← toDouble_shift,
      Nat.div_mul_cancel (Nat.dvd_of_mod_eq_zero h.2)]
  | case2 d h => rw [normalize, dif_neg h]

theorem magnitude?_eq_some_iff {d : Decimal} {x : Magnitude} (negative : Bool) :
    d.magnitude? = some x ↔ d.toDouble negative = .finite negative x := by
  rw [toDouble_eq_finite_iff, ← Magnitude.nearest_eq_some_iff d.ratio_pos, magnitude?,
    toDouble_eq_ofRatio, Double.ofRatio]
  cases Magnitude.nearest (d.ratio.1 * unitsInOne) d.ratio.2 <;> simp [Double.ofMagnitude?]

end Decimal

namespace Magnitude

theorem toDouble_of_mul_eq {scale n : Nat} (h : scale * unitsInOne = tenTo n) (negative : Bool)
    (x : Magnitude) : Decimal.toDouble negative ⟨x.units * scale, -n⟩ = .finite negative x := by
  have hratio : (Decimal.mk (x.units * scale) (-n)).ratio = (x.units * scale, tenTo n) := by
    rcases Nat.eq_zero_or_pos n with rfl | hpos
    · exact congrArg (·, 1) (Nat.mul_one _)
    · rw [Decimal.ratio_of_neg (by dsimp only; omega)]
      simp
  rw [Decimal.toDouble_eq_finite_iff, ← nearest_eq_some_iff (Decimal.ratio_pos _), hratio,
    Nat.mul_assoc, h, nearest_units_mul (tenTo_pos n)]

theorem toDouble_expansion (negative : Bool) (x : Magnitude) :
    x.expansion.toDouble negative = .finite negative x :=
  toDouble_of_mul_eq pow_five_mul_unitsInOne negative x

theorem magnitude?_of_onGrid {tie : Tie} {x : Magnitude} {exponent : Int} {d : Decimal}
    (h : x.onGrid tie exponent = some d) : d.magnitude? = some x := by
  unfold onGrid at h
  dsimp only at h
  split at h
  · next hlow hhigh =>
    cases h
    split
    · exact eq_of_beq hlow
    · exact eq_of_beq hhigh
  · next hlow _ =>
    cases h
    exact eq_of_beq hlow
  · next hhigh =>
    cases h
    exact eq_of_beq hhigh
  · cases h

/-- The shortest decimal of a magnitude reads back to it. -/
theorem toDouble_shortest (tie : Tie) (negative : Bool) (x : Magnitude) :
    (x.shortest tie).toDouble negative = .finite negative x := by
  unfold shortest
  split
  · next h =>
    rw [Decimal.toDouble, if_pos (.inl rfl), units_injective (x := x) (y := .zero) h]
  · dsimp only
    rw [Decimal.toDouble_normalize]
    cases hfound : (List.range 17).findSome? fun n : Nat =>
        x.onGrid tie (leadingExponent x.units unitsInOne - n) with
    | none => exact toDouble_expansion negative x
    | some d =>
      obtain ⟨n, -, hn⟩ := List.exists_of_findSome?_eq_some hfound
      exact (Decimal.magnitude?_eq_some_iff negative).1 (magnitude?_of_onGrid hn)

end Magnitude

end RecordRules.Number
