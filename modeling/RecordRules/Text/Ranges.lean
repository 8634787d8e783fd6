/-!
# Character classes given by ranges

A class of characters is a list of inclusive code point ranges. The tables of the
neighbouring modules are such lists, as of Unicode 17.0.
-/

namespace RecordRules.Text

abbrev Ranges := List (Nat × Nat)

def Ranges.contains (ranges : Ranges) (c : Char) : Bool :=
  ranges.any fun range => range.1 ≤ c.toNat && c.toNat ≤ range.2

theorem toNat_lt_of_isDigit {c : Char} (h : c.isDigit) : c.toNat < 128 := by
  simp only [Char.isDigit, Bool.and_eq_true, decide_eq_true_eq] at h
  have := UInt32.le_iff_toNat_le.1 h.2
  simp only [Char.toNat]
  exact Nat.lt_of_le_of_lt this (by decide)

end RecordRules.Text
