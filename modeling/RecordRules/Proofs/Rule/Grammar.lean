import RecordRules.Rule.Parser
import RecordRules.Proofs.Number.Reading
import RecordRules.Proofs.Text.Cut

/-!
# Grammar of rules

The sentences of the rule language and the rules they stand for, as derivations over
tokens.  Nothing here refers to the parser:

* `Literal.Spelling` says which tokens spell which literals, a number being an integer
  or the double nearest to the decimal it writes;
* `Derives` is the grammar, in which both connectives bind alike and to the left and
  parentheses leave no trace in the rule;
* `NestedWithin` bounds the parentheses that are open around a token.
-/

namespace RecordRules

open Number

/-! ## Literals -/

namespace Literal

/-- The tokens that spell a literal.  A float is the double nearest to its decimal, a
tie going to the even mantissa, and there is none if that is infinite. -/
inductive Spelling : Token → Literal → Prop
  | text (content : String) : Spelling (.text content) (.text content)
  | word (name : String) : Spelling (.word name) (.text name)
  | int {digits : String} {value : Int64} : IsDigits digits.toList →
      digitsValue digits.toList ≤ 2 ^ 63 - 1 → value.toInt = digitsValue digits.toList →
      Spelling (.number digits) (.int value)
  | float {digits : String} {whole fraction : List Char} {x : Magnitude} :
      digits.toList = whole ++ '.' :: fraction → IsDigits whole → IsDigits fraction →
      x.IsNearest (digitsValue (whole ++ fraction) * unitsInOne) (10 ^ fraction.length) →
      Spelling (.number digits) (.float (.finite false x))

end Literal

/-! ## Derivations -/

namespace Rule

inductive Nonterminal where
  | expression
  | operand

/-- A list of tokens is a sentence for a nonterminal and stands for a rule. -/
inductive Derives : Nonterminal → List Token → Rule → Prop
  | grouped {tokens rule} : Derives .expression tokens rule →
      Derives .operand (.opening :: (tokens ++ [.closing])) rule
  | comparison {field comparator token literal} : Literal.Spelling token literal →
      Derives .operand [.word field, .comparator comparator, token]
        (comparison field comparator literal)
  | single {tokens rule} : Derives .operand tokens rule → Derives .expression tokens rule
  | chained {tokens more connective left right} : Derives .expression tokens left →
      Derives .operand more right →
      Derives .expression (tokens ++ .connective connective :: more)
        (operator connective left right)

/-- No token lies inside more than `maxDepth` open parentheses. -/
def NestedWithin (maxDepth : Nat) (tokens : List Token) : Prop :=
  ∀ before token after, tokens = before ++ token :: after →
    before.count .opening ≤ before.count .closing + maxDepth

end Rule

/-! ## Reading numbers -/

namespace Literal

theorem ofNumber?_of_isDigits {digits : String} (h : IsDigits digits.toList) :
    ofNumber? digits = (int64? (digitsValue digits.toList)).map .int := by
  unfold ofNumber?
  dsimp only
  rw [natOfDigits?_eq_some_iff.2 ⟨h, rfl⟩]

theorem exists_eq_append_point {cs : List Char} (h : (cs.dropWhile (· ≠ '.')).drop 1 ≠ []) :
    cs = cs.takeWhile (· ≠ '.') ++ '.' :: (cs.dropWhile (· ≠ '.')).drop 1 := by
  cases hdrop : cs.dropWhile (· ≠ '.') with
  | nil =>
    rw [hdrop] at h
    exact absurd rfl h
  | cons c rest => exact (Text.eq_append_of_dropWhile hdrop).2

theorem ofNumber?_eq_some_iff_of_not_isDigits {digits : String} {literal : Literal}
    (h : ¬IsDigits digits.toList) :
    ofNumber? digits = some literal ↔
      ∃ whole fraction x, digits.toList = whole ++ '.' :: fraction ∧ IsDigits whole ∧
        IsDigits fraction ∧
        (Decimal.ofDigits whole fraction 0).toDouble false = .finite false x ∧
        literal = .float (.finite false x) := by
  have hnone := natOfDigits?_eq_none_iff.2 h
  have hsome (cs : List Char) : (natOfDigits? cs).isSome = true ↔ IsDigits cs := by
    rw [Option.isSome_iff_exists]
    simp [natOfDigits?_eq_some_iff]
  unfold ofNumber?
  dsimp only
  rw [hnone]
  dsimp only
  constructor
  · intro heq
    split at heq
    · next hboth =>
      rw [Bool.and_eq_true, hsome, hsome] at hboth
      obtain ⟨hwhole, hfraction⟩ := hboth
      split at heq
      · next hfinite =>
        cases heq
        obtain ⟨sign, x, hvalue⟩ := Double.isFinite_iff.1 hfinite
        have hsign := Decimal.negative_of_toDouble_eq_finite hvalue
        subst hsign
        exact ⟨_, _, x, exists_eq_append_point hfraction.1, hwhole, hfraction, hvalue,
          congrArg float hvalue⟩
      · cases heq
    · cases heq
  · rintro ⟨whole, fraction, x, heq, hwhole, hfraction, hvalue, rfl⟩
    obtain ⟨htake, hdrop⟩ := Text.cut_at hwhole.point_notMem fraction
    rw [heq, htake, hdrop, List.drop_one, List.tail_cons, if_pos, hvalue]
    · rfl
    · rw [Bool.and_eq_true, hsome, hsome]
      exact ⟨hwhole, hfraction⟩

theorem ofNumber?_eq_some_iff {digits : String} {literal : Literal} :
    ofNumber? digits = some literal ↔ Spelling (.number digits) literal := by
  by_cases h : IsDigits digits.toList
  · rw [ofNumber?_of_isDigits h, Option.map_eq_some_iff]
    constructor
    · rintro ⟨value, hvalue, rfl⟩
      have hvalue := int64?_eq_some_iff.1 hvalue
      have hbound := value.toInt_lt
      exact .int h (by omega) hvalue
    · intro hspelling
      cases hspelling with
      | int _ _ hvalue => exact ⟨_, int64?_eq_some_iff.2 hvalue, rfl⟩
      | float heq _ _ _ => exact absurd (heq ▸ by simp) h.point_notMem
  · rw [ofNumber?_eq_some_iff_of_not_isDigits h]
    constructor
    · rintro ⟨whole, fraction, x, heq, hwhole, hfraction, hvalue, rfl⟩
      exact .float heq hwhole hfraction (Decimal.toDouble_ofDigits_eq_finite_iff.1 hvalue)
    · intro hspelling
      cases hspelling with
      | int hdigits _ _ => exact absurd hdigits h
      | float heq hwhole hfraction hvalue =>
        exact ⟨_, _, _, heq, hwhole, hfraction,
          Decimal.toDouble_ofDigits_eq_finite_iff.2 hvalue, rfl⟩

end Literal

end RecordRules
