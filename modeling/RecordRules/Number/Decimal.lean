import RecordRules.Number.Double

/-!
# Decimal numbers

A decimal is `digits * 10 ^ exponent`. Here it is read from runs of ASCII digits and
rounded to a double; the modules `Shortest` and `Layout` go the other way.
-/

namespace RecordRules.Number

structure Decimal where
  digits : Nat
  exponent : Int
  deriving DecidableEq

def digitsValue (cs : List Char) : Nat :=
  Nat.ofDigitChars 10 cs 0

namespace Decimal

def ofDigits (whole fraction : List Char) (exponent : Int) : Decimal :=
  ⟨digitsValue (whole ++ fraction), exponent - fraction.length⟩

def ratio (d : Decimal) : Nat × Nat :=
  if 0 ≤ d.exponent then (d.digits * Nat.pow 10 d.exponent.toNat, 1)
  else (d.digits, Nat.pow 10 (-d.exponent).toNat)

/-- Rounds to the nearest double. Exponents so large or small that the outcome is
settled are answered without forming the power of ten: a number from `10 ^ 400` on
is out of reach and one below `10 ^ -400` is nearest to zero. -/
def toDouble (negative : Bool) (d : Decimal) : Double :=
  if d.digits = 0 ∨ d.exponent + (d.digits.log2 + 1) < -400 then
    .finite negative .zero
  else if 400 < d.exponent then
    .infinite negative
  else
    .ofRatio negative d.ratio.1 d.ratio.2

end Decimal

def natOfDigits? (cs : List Char) : Option Nat :=
  if !cs.isEmpty && cs.all Char.isDigit then some (digitsValue cs) else none

def intOfDigits? : List Char → Option Int
  | '+' :: cs => (natOfDigits? cs).map Int.ofNat
  | '-' :: cs => (natOfDigits? cs).map fun n => -(n : Int)
  | cs => (natOfDigits? cs).map Int.ofNat

/-- Reads digits with an optional point, a digit on one side of it at least, and an
optional exponent. -/
def Decimal.ofText? (cs : List Char) : Option Decimal :=
  let whole := cs.takeWhile Char.isDigit
  match cs.dropWhile Char.isDigit with
  | '.' :: rest => scaled whole (rest.takeWhile Char.isDigit) (rest.dropWhile Char.isDigit)
  | rest => scaled whole [] rest
where
  scaled (whole fraction rest : List Char) : Option Decimal :=
    if whole.isEmpty && fraction.isEmpty then none
    else match rest with
      | [] => some (.ofDigits whole fraction 0)
      | c :: power =>
        if c = 'e' ∨ c = 'E' then (intOfDigits? power).map (.ofDigits whole fraction)
        else none

/-- Reads a number: an optional sign before a decimal or one of the words `inf`,
`infinity` and `nan` in any case. -/
def Double.ofText? (text : String) : Option Double :=
  match text.toList with
  | '+' :: cs => unsigned false cs
  | '-' :: cs => unsigned true cs
  | cs => unsigned false cs
where
  unsigned (negative : Bool) (cs : List Char) : Option Double :=
    let word := String.ofList (cs.map Char.toLower)
    if word = "inf" ∨ word = "infinity" then some (.infinite negative)
    else if word = "nan" then some .nan
    else (Decimal.ofText? cs).map (Decimal.toDouble negative)

end RecordRules.Number
