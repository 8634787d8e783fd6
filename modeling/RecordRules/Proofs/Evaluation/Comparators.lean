import Mathlib.Data.String.Basic
import Mathlib.Order.Compare
import RecordRules.Evaluation
import RecordRules.Proofs.Number.Order

/-!
# Comparators

What the six comparators answer about a value and a literal hangs together, whichever types
these have.

* `compare_of_order?`, `order_eq_none_iff`: all comparators go by the one order of the two sides,
  and there is none only if a side is not a number;
* `comparators_consistent`: so each comparator is told by `<`, `=` and `>`;
* `mixed_comparison_keeps_order`: an integer and a float are compared after rounding, which
  may take them for equal but never reverses their order.
-/

namespace RecordRules

open Number (Double)

namespace Comparator

def Relates {α : Type} [LT α] [LE α] : Comparator → α → α → Prop
  | gt, a, b => a > b
  | lt, a, b => a < b
  | ge, a, b => a ≥ b
  | le, a, b => a ≤ b
  | eq, a, b => a = b
  | ne, a, b => a ≠ b

instance {α : Type} [LinearOrder α] (comparator : Comparator) (a b : α) :
    Decidable (comparator.Relates a b) :=
  match comparator with
  | gt => inferInstanceAs (Decidable (a > b))
  | lt => inferInstanceAs (Decidable (a < b))
  | ge => inferInstanceAs (Decidable (a ≥ b))
  | le => inferInstanceAs (Decidable (a ≤ b))
  | eq => inferInstanceAs (Decidable (a = b))
  | ne => inferInstanceAs (Decidable (a ≠ b))

/-- The comparator that says the same of the two sides exchanged. -/
def mirror : Comparator → Comparator
  | gt => lt
  | lt => gt
  | ge => le
  | le => ge
  | eq => eq
  | ne => ne

theorem accepts_compare {α : Type} [LinearOrder α] (comparator : Comparator) (a b : α) :
    comparator.accepts (some (compare a b)) = decide (comparator.Relates a b) := by
  rcases lt_trichotomy a b with h | h | h
  · rw [compare_lt_iff_lt.2 h]
    cases comparator <;> simp [accepts, Relates, h, h.le, h.not_gt, h.not_ge, h.ne]
  · rw [compare_eq_iff_eq.2 h]
    cases comparator <;> simp [accepts, Relates, h]
  · rw [compare_gt_iff_gt.2 h]
    cases comparator <;> simp [accepts, Relates, h, h.le, h.not_gt, h.not_ge, h.ne']

theorem mirror_mirror (comparator : Comparator) : comparator.mirror.mirror = comparator := by
  cases comparator <;> rfl

theorem accepts_mirror (comparator : Comparator) (order : Option Ordering) :
    comparator.mirror.accepts order = comparator.accepts (order.map Ordering.swap) := by
  cases order with
  | none => cases comparator <;> rfl
  | some order => cases order <;> cases comparator <;> rfl

theorem relates_mirror {α : Type} [LinearOrder α] (comparator : Comparator) (a b : α) :
    comparator.mirror.Relates a b ↔ comparator.Relates b a := by
  cases comparator with
  | gt | lt | ge | le => exact Iff.rfl
  | eq => exact eq_comm
  | ne => exact ne_comm

theorem accepts_none (comparator : Comparator) :
    comparator.accepts none = decide (comparator = .ne) := by
  cases comparator <;> rfl

end Comparator

namespace Condition

section

variable {field : String} {value : Value} {literal : Literal}

theorem compare_of_order? {order : Option Ordering} (h : value.order? literal = some order)
    (comparator : Comparator) :
    compare ⟨field, comparator, literal⟩ value = .ok (comparator.accepts order) := by
  simp only [compare, h]

theorem compare_of_order?_none (h : value.order? literal = none) (comparator : Comparator) :
    compare ⟨field, comparator, literal⟩ value =
      .error (.typeMismatch field comparator value.typeName literal.typeName) := by
  simp only [compare, h]

theorem order_eq_none_iff {order : Option Ordering} (h : value.order? literal = some order) :
    order = none ↔ value = .float .nan ∨ literal = .float .nan := by
  cases value <;> cases literal <;> cases h <;>
    simp [Double.compare?_eq_none_iff, Double.ofInt_ne_nan]

end

section

variable (field : String) (comparator : Comparator)

theorem compare_int (a b : Int64) :
    compare ⟨field, comparator, .int b⟩ (.int a) =
      .ok (decide (comparator.Relates a.toInt b.toInt)) := by
  rw [compare_of_order? rfl, Comparator.accepts_compare]

theorem compare_text (a b : String) :
    compare ⟨field, comparator, .text b⟩ (.text a) = .ok (decide (comparator.Relates a b)) := by
  rw [compare_of_order? rfl, ← Comparator.accepts_compare]

theorem compare_float {x y : Double} {p q : ℚ} (hx : x.toRat? = some p) (hy : y.toRat? = some q) :
    compare ⟨field, comparator, .float y⟩ (.float x) = .ok (decide (comparator.Relates p q)) := by
  rw [compare_of_order? rfl, Double.compare?_of_toRat? hx hy, Comparator.accepts_compare]

theorem compare_mirror (n : Int64) (x : Double) :
    compare ⟨field, comparator, .int n⟩ (.float x) =
      compare ⟨field, comparator.mirror, .float x⟩ (.int n) := by
  rw [compare_of_order? rfl, compare_of_order? rfl, Double.compare?_swap, Comparator.accepts_mirror]

end

/-- Whether a value compares with a literal at all does not depend on the comparator.  If it
does, all comparators go by one order, or by none if a side is not a number.  An integer and a
float answer alike from either side, and within one type the order is that of the integers, of
the numbers that finite floats stand for, and of texts. -/
theorem comparators_consistent (field : String) (value : Value) (literal : Literal) :
    let result (comparator : Comparator) := compare ⟨field, comparator, literal⟩ value
    ((∀ comparator, result comparator =
          .error (.typeMismatch field comparator value.typeName literal.typeName)) ∨
        ∃ holds : Comparator → Bool, (∀ comparator, result comparator = .ok (holds comparator)) ∧
          holds .ne = !holds .eq ∧
          (value ≠ .float .nan ∧ literal ≠ .float .nan →
            [Comparator.lt, .eq, .gt].countP holds = 1 ∧
            (holds .ge = !holds .lt ∧ holds .ge = (holds .gt || holds .eq)) ∧
            (holds .le = !holds .gt ∧ holds .le = (holds .lt || holds .eq))) ∧
          (value = .float .nan ∨ literal = .float .nan →
            ∀ comparator, holds comparator = decide (comparator = .ne))) ∧
      ∀ comparator : Comparator,
        (∀ (n : Int64) (x : Double), ∃ answer,
          compare ⟨field, comparator, .float x⟩ (.int n) = .ok answer ∧
          compare ⟨field, comparator.mirror, .int n⟩ (.float x) = .ok answer) ∧
        (∀ a b : Int64, compare ⟨field, comparator, .int b⟩ (.int a) =
          .ok (decide (comparator.Relates a.toInt b.toInt))) ∧
        (∀ (x y : Double) (p q : ℚ), x.toRat? = some p → y.toRat? = some q →
          compare ⟨field, comparator, .float y⟩ (.float x) =
            .ok (decide (comparator.Relates p q))) ∧
        ∀ a b : String, compare ⟨field, comparator, .text b⟩ (.text a) =
          .ok (decide (comparator.Relates a b)) := by
  intro result
  refine ⟨?_, fun comparator => ⟨fun n x => ?_, compare_int field comparator,
    fun x y p q => compare_float field comparator, compare_text field comparator⟩⟩
  · cases horder : value.order? literal with
    | none => exact .inl (compare_of_order?_none horder)
    | some order =>
      have hnan := order_eq_none_iff horder
      refine .inr ⟨(·.accepts order), compare_of_order? horder, ?_, fun hnumbers => ?_,
        fun hnot => ?_⟩
      · simp [Comparator.accepts]
      · obtain ⟨order, rfl⟩ := Option.ne_none_iff_exists'.1 (mt hnan.1 (not_or.2 hnumbers))
        cases order <;> decide
      · rw [hnan.2 hnot]
        exact Comparator.accepts_none
  · rw [compare_mirror, Comparator.mirror_mirror]
    exact ⟨_, compare_of_order? rfl comparator, compare_of_order? rfl comparator⟩

theorem natAbs_toInt_le (n : Int64) : n.toInt.natAbs ≤ 2 ^ 64 := by
  have hlow := n.le_toInt
  have hhigh := n.toInt_lt
  omega

section

variable (field : String) {n : Int64} {x : Double} {exact : ℚ}

theorem exists_order_int_float (n : Int64) (h : x.toRat? = some exact) :
    ∃ order, (order = Ord.compare (n.toInt : ℚ) exact ∨ order = .eq) ∧
      ∀ comparator : Comparator,
        compare ⟨field, comparator, .float x⟩ (.int n) = .ok (comparator.accepts (some order)) ∧
        compare ⟨field, comparator, .int n⟩ (.float x) =
          .ok (comparator.accepts (some order.swap)) := by
  obtain ⟨order, hrounded, horder⟩ := Double.exists_compare?_ofInt (natAbs_toInt_le n) h
  refine ⟨order, horder, fun comparator => ⟨?_, ?_⟩⟩
  · rw [compare_of_order? rfl, hrounded]
  · rw [compare_of_order? rfl, Double.compare?_swap, hrounded, Option.map_some]

theorem compare_int_float_of_le (hn : |(n.toInt : ℚ)| ≤ 2 ^ 53) (hx : x.toRat? = some exact)
    (comparator : Comparator) :
    compare ⟨field, comparator, .float x⟩ (.int n) =
      .ok (decide (comparator.Relates (n.toInt : ℚ) exact)) := by
  have hnatAbs : n.toInt.natAbs ≤ 2 ^ 53 := by
    rw [← Nat.cast_le (α := ℚ), Nat.cast_natAbs, Int.cast_abs]
    exact_mod_cast hn
  rw [compare_of_order? rfl, Double.compare?_ofInt_of_le hnatAbs hx, Comparator.accepts_compare]

theorem compare_float_int_of_le (hn : |(n.toInt : ℚ)| ≤ 2 ^ 53) (hx : x.toRat? = some exact)
    (comparator : Comparator) :
    compare ⟨field, comparator, .int n⟩ (.float x) =
      .ok (decide (comparator.Relates exact (n.toInt : ℚ))) := by
  rw [compare_mirror, compare_int_float_of_le field hn hx,
    decide_eq_decide.2 (comparator.relates_mirror _ _)]

end

/-- An integer and a float are compared after rounding.  That never reverses the order of the
exact numbers, it can only make them equal, and it leaves integers up to `2 ^ 53` as they are. -/
theorem mixed_comparison_keeps_order (field : String) (n : Int64) (x : Double) (exact : ℚ)
    (h : x.toRat? = some exact) :
    let number : ℚ := n.toInt
    let intFloat (comparator : Comparator) := compare ⟨field, comparator, .float x⟩ (.int n)
    let floatInt (comparator : Comparator) := compare ⟨field, comparator, .int n⟩ (.float x)
    (number = exact → intFloat .eq = .ok true ∧ floatInt .eq = .ok true) ∧
      (number < exact → intFloat .gt = .ok false ∧ floatInt .lt = .ok false ∧
        intFloat .le = .ok true ∧ floatInt .ge = .ok true) ∧
      (number > exact → intFloat .lt = .ok false ∧ floatInt .gt = .ok false ∧
        intFloat .ge = .ok true ∧ floatInt .le = .ok true) ∧
      (|number| ≤ 2 ^ 53 → ∀ comparator : Comparator,
        intFloat comparator = .ok (decide (comparator.Relates number exact)) ∧
        floatInt comparator = .ok (decide (comparator.Relates exact number))) := by
  intro number intFloat floatInt
  obtain ⟨order, horder, hanswers⟩ := exists_order_int_float field n h
  have hintFloat (comparator : Comparator) :
      intFloat comparator = .ok (comparator.accepts (some order)) := (hanswers comparator).1
  have hfloatInt (comparator : Comparator) :
      floatInt comparator = .ok (comparator.accepts (some order.swap)) := (hanswers comparator).2
  refine ⟨fun heq => ?_, fun hlt => ?_, fun hgt => ?_, fun hsmall comparator => ⟨?_, ?_⟩⟩
  · rw [compare_eq_iff_eq.2 heq, or_self] at horder
    subst horder
    exact ⟨hintFloat .eq, hfloatInt .eq⟩
  · rw [compare_lt_iff_lt.2 hlt] at horder
    rcases horder with rfl | rfl <;>
      exact ⟨hintFloat .gt, hfloatInt .lt, hintFloat .le, hfloatInt .ge⟩
  · rw [compare_gt_iff_gt.2 hgt] at horder
    rcases horder with rfl | rfl <;>
      exact ⟨hintFloat .lt, hfloatInt .gt, hintFloat .ge, hfloatInt .le⟩
  · exact compare_int_float_of_le field hsmall h comparator
  · exact compare_float_int_of_le field hsmall h comparator

/-- The integer after `2 ^ 53` is not less than it, but taken for it. -/
theorem mixed_comparison_keeps_order_rounded :
    let limit : Double := .finite false ⟨2 ^ 52, 1075, by decide⟩
    let result (comparator : Comparator) :=
      compare ⟨"salary", comparator, .float limit⟩ (.int 9007199254740993)
    limit.toRat? = some 9007199254740992 ∧
      ((9007199254740993 : Int64).toInt : ℚ) > 9007199254740992 ∧
      result .lt = .ok false ∧ result .ge = .ok true ∧ result .eq = .ok true := by
  intro limit result
  have hlimit : limit.toRat? = some 9007199254740992 := by
    norm_num [limit, Double.toRat?, Number.Magnitude.toRat]
  have hnumber : (9007199254740993 : Int64).toInt = 9007199254740993 := by decide
  have hgreater : ((9007199254740993 : Int64).toInt : ℚ) > 9007199254740992 := by
    rw [hnumber]
    norm_num
  have horder : (Value.int 9007199254740993).order? (.float limit) = some (some .eq) := by
    decide +kernel
  obtain ⟨-, -, hkept, -⟩ := mixed_comparison_keeps_order "salary" _ limit _ hlimit
  obtain ⟨hlt, -, hge, -⟩ := hkept hgreater
  exact ⟨hlimit, hgreater, hlt, hge, compare_of_order? horder .eq⟩

end Condition

end RecordRules
