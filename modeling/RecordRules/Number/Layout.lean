import RecordRules.Number.Shortest

/-!
# Layout of doubles

A `Layout` says how the shortest digits of a double are set out as text; the modules
that write doubles hold one each.
-/

namespace RecordRules.Number

structure Layout where
  tie : Tie
  /-- Exponents of the first digit, least and greatest, for which no power of ten is
  written; `none` if one never is. -/
  positional : Option (Int × Int)
  /-- What follows a whole number in positional form. -/
  whole : String
  nan : String
  /-- The text of infinity, by sign. -/
  infinity : Bool → String

namespace Layout

private def zeros (count : Int) : String :=
  "".pushn '0' count.toNat

@[simp] theorem toList_zeros (count : Int) :
    (zeros count).toList = List.replicate count.toNat '0' := by
  rw [zeros, String.pushn_eq_repeat_push]
  induction count.toNat with
  | zero => rfl
  | succ n ih => rw [Nat.repeat, String.toList_push, ih, List.replicate_succ']

/-- `digits` with the point after the first `point` of them, which may lie outside. -/
def pointed (layout : Layout) (digits : List Char) (point : Int) : String :=
  if digits.length ≤ point then
    .ofList digits ++ zeros (point - digits.length) ++ layout.whole
  else if 0 < point then
    .ofList (digits.take point.toNat) ++ "." ++ .ofList (digits.drop point.toNat)
  else
    "0." ++ zeros (-point) ++ .ofList digits

def scientific (digits : List Char) (power : Int) : String :=
  let fraction := digits.drop 1
  .ofList (digits.take 1) ++ (if fraction.isEmpty then "" else "." ++ .ofList fraction)
    ++ "e" ++ (if power < 0 then "-" else "+") ++ power.natAbs.repr

def decimal (layout : Layout) (d : Decimal) : String :=
  let digits := Nat.toDigits 10 d.digits
  let power := d.exponent + digits.length - 1
  match layout.positional with
  | none => layout.pointed digits (power + 1)
  | some (least, greatest) =>
    if least ≤ power ∧ power ≤ greatest then layout.pointed digits (power + 1)
    else scientific digits power

def format (layout : Layout) : Double → String
  | .nan => layout.nan
  | .infinite negative => layout.infinity negative
  | .finite negative magnitude =>
    (if negative then "-" else "") ++ layout.decimal (magnitude.shortest layout.tie)

def plain : Layout where
  tie := .up
  positional := none
  whole := ""
  nan := "NaN"
  infinity negative := if negative then "-inf" else "inf"

end Layout

end RecordRules.Number
