import RecordRules.Text.Alphabetic
import RecordRules.Text.Blank
import RecordRules.Text.Numeric

/-!
# Disjoint character classes

Two classes given by ranges have no character in common if no two of their ranges
overlap, which the tables themselves decide.  Below U+0080 a class is decided by trying
every character (`eq_false_of_ascii`).
-/

namespace RecordRules.Text

def Ranges.disjoint (a b : Ranges) : Bool :=
  a.all fun r => b.all fun s => decide (r.2 < s.1) || decide (s.2 < r.1)

theorem Ranges.contains_iff {ranges : Ranges} {c : Char} :
    ranges.contains c ↔ ∃ r ∈ ranges, r.1 ≤ c.toNat ∧ c.toNat ≤ r.2 := by
  simp [Ranges.contains]

theorem Ranges.contains_eq_false {a b : Ranges} (h : a.disjoint b) {c : Char}
    (hc : b.contains c) : a.contains c = false := by
  obtain ⟨s, hs, hlow, hhigh⟩ := contains_iff.1 hc
  rw [Bool.eq_false_iff]
  intro ha
  obtain ⟨r, hr, hlow', hhigh'⟩ := contains_iff.1 ha
  have hapart := List.all_eq_true.1 (List.all_eq_true.1 h r hr) s hs
  simp only [Bool.or_eq_true, decide_eq_true_eq] at hapart
  omega

theorem eq_false_of_ascii {p q : Char → Bool}
    (h : ∀ n < 128, p (Char.ofNat n) → q (Char.ofNat n) = false) {c : Char}
    (hascii : c.toNat < 128) (hp : p c) : q c = false := by
  have hc := h c.toNat hascii
  rw [Char.ofNat_toNat] at hc
  exact hc hp

theorem isAlphabetic_eq_false_of_isBlank {c : Char} (h : isBlank c) : isAlphabetic c = false := by
  unfold isAlphabetic
  split
  · next hascii => exact eq_false_of_ascii (by decide) hascii h
  · have hdisjoint : alphabeticRanges.disjoint blankRanges := by decide +kernel
    exact Ranges.contains_eq_false hdisjoint h

theorem isNumeric_eq_false_of_isBlank {c : Char} (h : isBlank c) : isNumeric c = false := by
  unfold isNumeric
  split
  · next hascii => exact eq_false_of_ascii (by decide) hascii h
  · have hdisjoint : numericRanges.disjoint blankRanges := by decide +kernel
    exact Ranges.contains_eq_false hdisjoint h

theorem isBlank_eq_false_of_isDigit {c : Char} (h : c.isDigit) : isBlank c = false :=
  eq_false_of_ascii (by decide) (toNat_lt_of_isDigit h) h

theorem isAlphabetic_eq_false_of_isDigit {c : Char} (h : c.isDigit) : isAlphabetic c = false := by
  have hascii := toNat_lt_of_isDigit h
  rw [isAlphabetic, if_pos hascii]
  exact eq_false_of_ascii (by decide) hascii h

end RecordRules.Text
