/-!
# Doubles

The binary64 numbers as exact data. A finite one is a sign and a `Magnitude`,
that is a mantissa below `2 ^ 53` and a shift, standing for `mantissa * 2 ^ shift`
units of `2 ^ -1074`; the normal form (no shift, or a full mantissa) makes equal
data of equal magnitudes.

Two things are defined from this. The order compares `units`, whole numbers in
which the infinities stand at the first value out of reach, so that it is the order
of the integers; only NaN has no place in it. Rounding is `Magnitude.nearest`, the
magnitude closest to a quotient of naturals with ties to the even mantissa; reading
decimals, converting integers and dividing all go through it.
-/

namespace RecordRules.Number

/-- Quotient of two naturals rounded to the nearest natural, a tie to the even one. -/
def roundDiv (num den : Nat) : Nat :=
  let quotient := num / den
  let twice := 2 * (num % den)
  if twice < den ∨ (twice = den ∧ quotient % 2 = 0) then quotient else quotient + 1

theorem div_le_roundDiv (num den : Nat) : num / den ≤ roundDiv num den := by
  unfold roundDiv
  dsimp only
  split <;> omega

def unitsInOne : Nat := Nat.pow 2 1074

structure Magnitude where
  mantissa : Nat
  shift : Nat
  normal : mantissa < Nat.pow 2 53 ∧ shift ≤ 2045 ∧ (shift = 0 ∨ Nat.pow 2 52 ≤ mantissa)
  deriving DecidableEq

namespace Magnitude

def zero : Magnitude := ⟨0, 0, by decide⟩

def units (x : Magnitude) : Nat := x.mantissa * Nat.pow 2 x.shift

private theorem full_mantissa {num den shift : Nat} (hshift : shift = (num / den).log2 - 52)
    (hpos : shift ≠ 0) : Nat.pow 2 52 ≤ roundDiv num (den * Nat.pow 2 shift) := by
  have hlog : (num / den).log2 = 52 + shift := by omega
  have hne : num / den ≠ 0 := by
    intro h
    rw [h, Nat.log2_zero] at hlog
    omega
  have hpow : Nat.pow 2 52 * Nat.pow 2 shift ≤ num / den :=
    calc
      Nat.pow 2 52 * Nat.pow 2 shift = Nat.pow 2 (52 + shift) := (Nat.pow_add 2 52 shift).symm
      _ = Nat.pow 2 (num / den).log2 := by rw [hlog]
      _ ≤ num / den := Nat.log2_self_le hne
  refine Nat.le_trans ?_ (div_le_roundDiv _ _)
  rw [← Nat.div_div_eq_div_mul]
  exact (Nat.le_div_iff_mul_le (Nat.two_pow_pos shift)).2 hpow

/-- The magnitude nearest to `num / den` units; `none` if that lies out of reach. -/
def nearest (num den : Nat) : Option Magnitude :=
  let shift := (num / den).log2 - 52
  let mantissa := roundDiv num (den * Nat.pow 2 shift)
  if h : mantissa < Nat.pow 2 53 ∧ shift ≤ 2045 then
    some ⟨mantissa, shift, h.1, h.2, Decidable.or_iff_not_imp_left.2 (full_mantissa rfl)⟩
  else if h : shift < 2045 then
    some ⟨Nat.pow 2 52, shift + 1, by decide, h, .inr (Nat.le_refl _)⟩
  else
    none

end Magnitude

inductive Double where
  | nan
  | infinite (negative : Bool)
  | finite (negative : Bool) (magnitude : Magnitude)
  deriving DecidableEq

namespace Double

private def signed (negative : Bool) (n : Nat) : Int :=
  if negative then -n else n

/-- The number in units of `2 ^ -1074`; an infinity counts as `2 ^ 1024`. -/
def units : Double → Option Int
  | nan => none
  | infinite negative => some (signed negative (Nat.pow 2 2098))
  | finite negative magnitude => some (signed negative magnitude.units)

def compare? (x y : Double) : Option Ordering := do
  return compare (← x.units) (← y.units)

def isFinite : Double → Bool
  | finite _ _ => true
  | _ => false

def isNegative : Double → Bool
  | nan => false
  | infinite negative => negative
  | finite negative _ => negative

def ofMagnitude? (negative : Bool) : Option Magnitude → Double
  | some magnitude => finite negative magnitude
  | none => infinite negative

def ofRatio (negative : Bool) (num den : Nat) : Double :=
  ofMagnitude? negative (Magnitude.nearest (num * unitsInOne) den)

def ofNat (n : Nat) : Double := ofRatio false n 1

def ofInt (n : Int) : Double := ofRatio (n < 0) n.natAbs 1

def div (x y : Double) : Double :=
  let negative := x.isNegative != y.isNegative
  match x, y with
  | nan, _ | _, nan | infinite _, infinite _ => nan
  | infinite _, finite _ _ => infinite negative
  | finite _ _, infinite _ => finite negative .zero
  | finite _ m, finite _ n =>
    if n.units = 0 then
      if m.units = 0 then nan else infinite negative
    else
      ofRatio negative m.units n.units

end Double

end RecordRules.Number
