import RecordRules.Proofs.Number.Layout
import RecordRules.Proofs.Rule.Grammar
import RecordRules.Proofs.Token.Shape

/-!
# Numbers in canonical text

The numbers of a rule are written as digits, floats with a point among them, and the
reader of numbers finds the same literal in what is written.  This fails for negative
numbers, which no token spells, and for floats that are not finite.
-/

namespace RecordRules

open Number

attribute [local irreducible] unitsInOne Magnitude.nearest

/-! ## Floats -/

theorem format_plain (x : Magnitude) :
    Layout.plain.format (.finite false x) =
      Layout.plain.pointed (Nat.toDigits 10 (x.shortest .up).digits)
        ((x.shortest .up).exponent + (Nat.toDigits 10 (x.shortest .up).digits).length) := by
  rw [Layout.format, if_neg Bool.false_ne_true, String.empty_append]
  have hdecimal (d : Decimal) : Layout.plain.decimal d = Layout.plain.pointed
      (Nat.toDigits 10 d.digits) (d.exponent + (Nat.toDigits 10 d.digits).length - 1 + 1) := rfl
  rw [hdecimal, Int.sub_add_cancel]
  rfl

theorem positional_floatText (x : Magnitude) :
    Positional (floatText (.finite false x)).toList (x.shortest .up) := by
  rw [floatText, format_plain]
  generalize x.shortest .up = d
  obtain ⟨number, exponent⟩ := d
  have hdigits := isDigits_toDigits number
  have hvalue := digitsValue_toDigits number
  dsimp only
  generalize Nat.toDigits 10 number = digits at *
  subst hvalue
  have hpointed := positional_pointed { Layout.plain with whole := ".0" } rfl hdigits exponent
  have htext := Layout.toList_pointed .plain digits (exponent + digits.length)
  rw [Layout.toList_pointed] at hpointed
  rw [apply_ite String.toList, String.toList_append]
  split at hpointed
  · next hwhole =>
    have hall := isDigits_append hdigits fun c =>
      @isDigit_of_mem_zeros (exponent + digits.length - digits.length).toNat c
    rw [if_pos hwhole] at htext
    rw [htext.trans (List.append_nil _), if_neg (by simpa using hall.point_notMem)]
    exact hpointed
  · next hwhole =>
    rw [if_neg hwhole] at htext
    rw [htext, if_pos (by split <;> simp)]
    exact hpointed

namespace Literal

theorem spelling_float (x : Magnitude) :
    Spelling (.number (floatText (.finite false x))) (.float (.finite false x)) := by
  obtain ⟨whole, fraction, htext, hwhole, hfraction, hvalue⟩ := positional_floatText x
  rw [Magnitude.toDouble_shortest] at hvalue
  exact .float htext hwhole hfraction (Decimal.toDouble_ofDigits_eq_finite_iff.1 hvalue)

theorem spelling_int {value : Int64} (h : 0 ≤ value.toInt) :
    Spelling (.number (intText value)) (.int value) := by
  have htext : (intText value).toList = Nat.toDigits 10 value.toInt.natAbs := by
    rw [intText, if_neg (Int.not_lt.2 h), Nat.toList_repr]
  have hlt := value.toInt_lt
  apply Spelling.int
  · rw [htext]
    exact isDigits_toDigits _
  · rw [htext, digitsValue_toDigits]
    omega
  · rw [htext, digitsValue_toDigits]
    omega

end Literal

/-! ## Shapes -/

theorem continuesNumber_of_isDigits {cs : List Char} (h : IsDigits cs) :
    ∀ c ∈ cs, Lexeme.continuesNumber c :=
  fun c hc => Lexeme.continuesNumber_of_isDigit (h.2 c hc)

theorem isNumeral_of_isDigits_append {digits : String} {whole rest : List Char}
    (h : digits.toList = whole ++ rest) (hwhole : IsDigits whole)
    (hrest : ∀ c ∈ rest, Lexeme.continuesNumber c) : IsNumeral digits := by
  obtain ⟨c, tail, rfl⟩ := List.exists_cons_of_ne_nil hwhole.1
  refine ⟨c, tail ++ rest, h, hwhole.2 c List.mem_cons_self, ?_⟩
  have htail := (List.forall_mem_cons.1 (continuesNumber_of_isDigits hwhole)).2
  exact List.forall_mem_append.2 ⟨htail, hrest⟩

theorem isNumeral_of_spelling {digits : String} {literal : Literal}
    (h : Literal.Spelling (.number digits) literal) : IsNumeral digits := by
  cases h with
  | int hdigits _ _ =>
    exact isNumeral_of_isDigits_append (List.append_nil _).symm hdigits (by simp)
  | float htext hwhole hfraction _ =>
    refine isNumeral_of_isDigits_append htext hwhole (List.forall_mem_cons.2 ⟨by decide, ?_⟩)
    exact continuesNumber_of_isDigits hfraction

end RecordRules
