import RecordRules.Number.Decimal

/-!
# Shortest decimals

`Magnitude.shortest` is the decimal of the fewest digits that reads back to a
magnitude, and among those of that many digits the nearest to it. A decimal of `n`
digits that reads back exists only if one of the magnitude's two neighbours on the
grid of `n` digits does, so these two are tried for growing `n`; seventeen digits
always suffice, and the exact expansion stands behind them. The reader itself
decides what reads back.
-/

namespace RecordRules.Number

/-- Which of two decimals is taken if they are equally near. -/
inductive Tie where
  | up
  | even
  deriving DecidableEq

/-- The greatest `e` with `10 ^ e ≤ num / den`, for a positive quotient. -/
def leadingExponent (num den : Nat) : Int :=
  if den ≤ num then ((Nat.toDigits 10 (num / den)).length : Int) - 1
  else -((Nat.toDigits 10 ((den - 1) / num)).length : Int)

def Decimal.magnitude? (d : Decimal) : Option Magnitude :=
  match d.toDouble false with
  | .finite _ magnitude => some magnitude
  | _ => none

def Decimal.normalize (d : Decimal) : Decimal :=
  if h : d.digits ≠ 0 ∧ d.digits % 10 = 0 then
    Decimal.normalize ⟨d.digits / 10, d.exponent + 1⟩
  else
    d
termination_by d.digits
decreasing_by omega

namespace Magnitude

/-- All digits of the magnitude: a unit is `5 ^ 1074 * 10 ^ -1074`. -/
def expansion (x : Magnitude) : Decimal :=
  ⟨x.units * Nat.pow 5 1074, -1074⟩

/-- The nearer neighbour on the grid of multiples of `10 ^ exponent` that reads back. -/
def onGrid (tie : Tie) (x : Magnitude) (exponent : Int) : Option Decimal :=
  let num := x.units * Nat.pow 10 (-exponent).toNat
  let den := unitsInOne * Nat.pow 10 exponent.toNat
  let below := num / den
  let low : Decimal := ⟨below, exponent⟩
  let high : Decimal := ⟨below + 1, exponent⟩
  let twice := 2 * (num % den)
  let nearer :=
    if twice < den ∨ (twice = den ∧ tie = .even ∧ below % 2 = 0) then low else high
  match low.magnitude? == some x, high.magnitude? == some x with
  | true, true => some nearer
  | true, false => some low
  | false, true => some high
  | false, false => none

def shortest (tie : Tie) (x : Magnitude) : Decimal :=
  if x.units = 0 then ⟨0, 0⟩
  else
    let leading := leadingExponent x.units unitsInOne
    let found := (List.range 17).findSome? fun (n : Nat) => x.onGrid tie (leading - n)
    (found.getD x.expansion).normalize

end Magnitude

end RecordRules.Number
