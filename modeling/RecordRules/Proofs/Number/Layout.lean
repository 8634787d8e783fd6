import Mathlib.Data.List.Basic
import RecordRules.Number.Layout
import RecordRules.Proofs.Number.Reading

/-!
# Layouts read back

The digits of a decimal are set out with a point after them, among them or before them, and
each of these texts reads as the decimal does (`Positional`).
-/

namespace RecordRules.Number

attribute [local irreducible] unitsInOne Magnitude.nearest

/-! ## Digits -/

theorem head?_toDigits_ne {n : Nat} (h : n ≠ 0) : (Nat.toDigits 10 n).head? ≠ some '0' := by
  induction n using Nat.strongRecOn with
  | ind n ih =>
    rw [Nat.toDigits_eq_if (by decide)]
    split
    · next hlt =>
      rw [List.head?_singleton, ne_eq, Option.some.injEq]
      exact fun hzero => h (Nat.digitChar_eq_zero.1 hzero)
    · next hge =>
      rw [List.head?_append_of_ne_nil _ Nat.toDigits_ne_nil]
      exact ih (n / 10) (by omega) (by omega)

theorem Magnitude.digits_shortest_ne_zero {tie : Tie} {x : Magnitude} (h : x.units ≠ 0) :
    (x.shortest tie).digits ≠ 0 := by
  intro hzero
  have hread := toDouble_shortest tie false x
  rw [Decimal.toDouble, if_pos (.inl hzero)] at hread
  cases hread
  exact h rfl

/-! ## Positional notation -/

/-- Digits on both sides of a point that read as a decimal does. -/
def Positional (text : List Char) (d : Decimal) : Prop :=
  ∃ whole fraction, text = whole ++ '.' :: fraction ∧ IsDigits whole ∧ IsDigits fraction ∧
    (Decimal.ofDigits whole fraction 0).toDouble false = d.toDouble false

section

variable {digits : List Char} {n : Nat}

theorem positional_whole (h : IsDigits digits) :
    Positional (digits ++ List.replicate n '0' ++ ['.', '0']) ⟨digitsValue digits, n⟩ := by
  refine ⟨_, ['0'], rfl, isDigits_append h fun _ => isDigit_of_mem_zeros, ⟨nofun, by simp⟩, ?_⟩
  have hvalue : digitsValue (digits ++ List.replicate n '0' ++ ['0']) =
      digitsValue digits * tenTo (n + 1) := by
    rw [← digitsValue_append_zeros, List.replicate_succ', List.append_assoc]
  rw [Decimal.ofDigits, hvalue, Decimal.toDouble_shift_tenTo]
  congr 2
  simp only [List.length_singleton]
  omega

theorem positional_inside (h : IsDigits digits) (hpos : 0 < n) (hlt : n < digits.length) :
    Positional (digits.take n ++ '.' :: digits.drop n)
      ⟨digitsValue digits, (n : Int) - digits.length⟩ := by
  have hwhole : IsDigits (digits.take n) :=
    ⟨List.ne_nil_of_length_pos (by rw [List.length_take]; omega),
      fun c hc => h.2 c (List.mem_of_mem_take hc)⟩
  have hfraction : IsDigits (digits.drop n) :=
    ⟨List.ne_nil_of_length_pos (by rw [List.length_drop]; omega),
      fun c hc => h.2 c (List.mem_of_mem_drop hc)⟩
  refine ⟨_, _, rfl, hwhole, hfraction, ?_⟩
  rw [Decimal.ofDigits, List.take_append_drop, List.length_drop]
  congr 2
  omega

theorem positional_behind (h : IsDigits digits) :
    Positional ('0' :: '.' :: (List.replicate n '0' ++ digits))
      ⟨digitsValue digits, -(n : Int) - digits.length⟩ := by
  have hfraction : IsDigits (List.replicate n '0' ++ digits) :=
    ⟨List.append_ne_nil_of_right_ne_nil _ h.1,
      List.forall_mem_append.2 ⟨fun _ => isDigit_of_mem_zeros, h.2⟩⟩
  refine ⟨['0'], _, rfl, ⟨nofun, by simp⟩, hfraction, ?_⟩
  have hvalue : digitsValue (['0'] ++ (List.replicate n '0' ++ digits)) = digitsValue digits := by
    rw [← List.append_assoc, ← List.replicate_one, List.replicate_append_replicate,
      digitsValue_zeros_append]
  rw [Decimal.ofDigits, hvalue, List.length_append, List.length_replicate]
  congr 2
  omega

end

theorem Layout.toList_pointed (layout : Layout) (digits : List Char) (point : Int) :
    (layout.pointed digits point).toList =
      if digits.length ≤ point then
        digits ++ List.replicate (point - digits.length).toNat '0' ++ layout.whole.toList
      else if 0 < point then
        digits.take point.toNat ++ '.' :: digits.drop point.toNat
      else
        '0' :: '.' :: (List.replicate (-point).toNat '0' ++ digits) := by
  unfold Layout.pointed
  split
  · simp
  split
  · simp
  · simp

theorem positional_pointed (layout : Layout) (hwhole : layout.whole = ".0") {digits : List Char}
    (hdigits : IsDigits digits) (exponent : Int) :
    Positional (layout.pointed digits (exponent + digits.length)).toList
      ⟨digitsValue digits, exponent⟩ := by
  have hpos := List.length_pos_iff.2 hdigits.1
  rw [Layout.toList_pointed, hwhole]
  split
  · obtain ⟨n, rfl⟩ := Int.eq_ofNat_of_zero_le (show 0 ≤ exponent by omega)
    rw [Int.add_sub_cancel, Int.toNat_natCast]
    exact positional_whole hdigits
  split
  · obtain ⟨n, hn⟩ := Int.eq_ofNat_of_zero_le (show 0 ≤ exponent + digits.length by omega)
    have hexponent : exponent = n - digits.length := by omega
    rw [hn, Int.toNat_natCast, hexponent]
    exact positional_inside hdigits (by omega) (by omega)
  · obtain ⟨n, hn⟩ := Int.eq_ofNat_of_zero_le (show 0 ≤ -(exponent + digits.length) by omega)
    have hexponent : exponent = -(n : Int) - digits.length := by omega
    rw [hn, Int.toNat_natCast, hexponent]
    exact positional_behind hdigits

end RecordRules.Number
