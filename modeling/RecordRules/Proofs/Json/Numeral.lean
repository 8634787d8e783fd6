import RecordRules.Json.Token
import RecordRules.Json.Writer
import RecordRules.Proofs.Number.Layout
import RecordRules.Proofs.Text.Cut

/-!
# Numbers in JSON

A `Numeral` is what the grammar of JSON makes of a number without its sign: digits, a fraction
or none, a power of ten or none.  The reader takes its text off the front of what follows, as
long as that does not run on with a character of a number (`number?_numeral`).

* `Numeral.ofNat`: an integer is written as a numeral of digits alone;
* `Numeral.exists_magnitude`: a finite real is written with a fraction or a power of ten, and it
  is the double nearest to its numeral.
-/

namespace RecordRules.Json

open Number

attribute [local irreducible] unitsInOne Magnitude.nearest

/-! ## Numerals -/

structure Numeral where
  whole : List Char
  fraction : Option (List Char)
  power : Option Int
  isDigits_whole : IsDigits whole
  /-- There is no zero before another digit. -/
  length_whole : whole.head? = some '0' → whole.length = 1
  isDigits_fraction : ∀ digits ∈ fraction, IsDigits digits

namespace Numeral

def fractionText : Option (List Char) → List Char
  | none => []
  | some digits => '.' :: digits

def powerText : Option Int → List Char
  | none => []
  | some power => 'e' :: (if power < 0 then '-' else '+') :: Nat.toDigits 10 power.natAbs

def text (numeral : Numeral) : List Char :=
  numeral.whole ++ (fractionText numeral.fraction ++ powerText numeral.power)

/-- A whole number if there are only digits, and the nearest double otherwise. -/
def value (numeral : Numeral) (negative : Bool) : Json :=
  match numeral.fraction, numeral.power with
  | none, none => Token.ofInteger negative (digitsValue numeral.whole)
  | fraction, power => Token.ofDouble
      ((Decimal.ofDigits numeral.whole (fraction.getD []) (power.getD 0)).toDouble negative)

def Continues (c : Char) : Prop := c.isDigit ∨ c = '.' ∨ c = 'e' ∨ c = 'E'
  deriving Decidable

def Ends (rest : List Char) : Prop := ∀ c ∈ rest.head?, ¬Continues c

end Numeral

/-! ## Reading -/

namespace Token

open Numeral

section

variable {digits rest : List Char}

theorem cut_digits (hdigits : IsDigits digits) (hrest : ∀ c ∈ rest.head?, ¬c.isDigit) :
    (digits ++ rest).takeWhile Char.isDigit = digits ∧
      (digits ++ rest).dropWhile Char.isDigit = rest := by
  obtain ⟨htake, hdrop⟩ := Text.cut_append digits fun c hc => Bool.eq_false_iff.2 (hrest c hc)
  obtain ⟨hall, hnil⟩ := Text.cut_of_forall hdigits.2
  rw [htake, hdrop, hall, hnil]
  exact ⟨rfl, List.nil_append rest⟩

theorem isEmpty_digits (hdigits : IsDigits digits) : digits.isEmpty = false :=
  List.isEmpty_eq_false_iff.2 hdigits.1

theorem fraction?_fractionText {fraction : Option (List Char)}
    (hfraction : ∀ digits ∈ fraction, IsDigits digits)
    (hrest : ∀ c ∈ rest.head?, ¬c.isDigit ∧ c ≠ '.') :
    fraction? (fractionText fraction ++ rest) = some (fraction, rest) := by
  cases fraction with
  | none =>
    rw [fractionText, List.nil_append, fraction?]
    rintro tail rfl
    exact (hrest '.' rfl).2 rfl
  | some digits =>
    have hdigits := hfraction digits rfl
    obtain ⟨htake, hdrop⟩ := cut_digits hdigits fun c hc => (hrest c hc).1
    rw [fractionText, List.cons_append, fraction?, htake, hdrop, isEmpty_digits hdigits]
    rfl

theorem power?_powerText (power : Option Int) (hrest : Ends rest) :
    power? (powerText power ++ rest) = some (power, rest) := by
  cases power with
  | none =>
    rw [powerText, List.nil_append]
    cases rest with
    | nil => rfl
    | cons c rest =>
      have hmark : ¬(c = 'e' ∨ c = 'E') := fun h => hrest c rfl (.inr (.inr h))
      rw [power?, if_neg hmark]
  | some power =>
    have hdigits := isDigits_toDigits power.natAbs
    obtain ⟨htake, hdrop⟩ := cut_digits hdigits fun c hc h => hrest c hc (.inl h)
    have hsign (cs : List Char) :
        takeSign ((if power < 0 then '-' else '+') :: cs) = (decide (power < 0), cs) := by
      by_cases h : power < 0 <;> simp [h, takeSign]
    rw [powerText, List.cons_append, List.cons_append, power?, if_pos (.inl rfl)]
    have hvalue : (if decide (power < 0) then -(power.natAbs : Int) else power.natAbs) = power := by
      simp only [decide_eq_true_eq]
      split <;> omega
    simp only [hsign, htake, hdrop, isEmpty_digits hdigits, digitsValue_toDigits, hvalue]
    rfl

theorem head?_powerText_append (power : Option Int) (hrest : Ends rest) :
    ∀ c ∈ (powerText power ++ rest).head?, ¬c.isDigit ∧ c ≠ '.' := by
  cases power with
  | none =>
    rw [powerText, List.nil_append]
    exact fun c hc => ⟨fun h => hrest c hc (.inl h), fun h => hrest c hc (.inr (.inl h))⟩
  | some power =>
    rintro c ⟨⟩
    decide

theorem head?_fractionText_append (fraction : Option (List Char)) (power : Option Int)
    (hrest : Ends rest) :
    ∀ c ∈ (fractionText fraction ++ (powerText power ++ rest)).head?, ¬c.isDigit := by
  cases fraction with
  | none => exact fun c hc => (head?_powerText_append power hrest c hc).1
  | some digits =>
    rintro c ⟨⟩
    decide

theorem number?_numeral (negative : Bool) (numeral : Numeral) (hrest : Ends rest) :
    number? negative (numeral.text ++ rest) = some (.scalar (numeral.value negative), rest) := by
  obtain ⟨whole, fraction, power, hwhole, hlength, hfraction⟩ := numeral
  obtain ⟨htake, hdrop⟩ := cut_digits hwhole (head?_fractionText_append fraction power hrest)
  have hneedless : ¬((whole.isEmpty || (whole.head? = some '0' && 1 < whole.length)) = true) := by
    simp only [isEmpty_digits hwhole, Bool.false_or, Bool.and_eq_true, decide_eq_true_eq, not_and]
    intro hzero
    rw [hlength hzero]
    decide
  rw [Numeral.text, List.append_assoc, List.append_assoc, number?, htake, hdrop]
  dsimp only
  rw [if_neg hneedless, fraction?_fractionText hfraction (head?_powerText_append power hrest),
    Option.bind_eq_bind, Option.bind_some]
  dsimp only
  rw [power?_powerText power hrest]
  cases fraction <;> cases power <;> rfl

end

end Token

/-! ## Writing -/

namespace Numeral

def ofNat (n : Nat) : Numeral where
  whole := Nat.toDigits 10 n
  fraction := none
  power := none
  isDigits_whole := isDigits_toDigits n
  length_whole := by
    rcases Nat.eq_zero_or_pos n with rfl | hpos
    · exact fun _ => rfl
    · exact fun hhead => absurd hhead (head?_toDigits_ne (Nat.ne_of_gt hpos))
  isDigits_fraction := nofun

theorem text_ofNat (n : Nat) : (ofNat n).text = Nat.toDigits 10 n := List.append_nil _

theorem value_ofNat (negative : Bool) (n : Nat) :
    (ofNat n).value negative = Token.ofInteger negative n := by
  change Token.ofInteger negative (digitsValue (Nat.toDigits 10 n)) = Token.ofInteger negative n
  rw [digitsValue_toDigits]

/-- A numeral that is read as the doubles of a decimal are. -/
def Reads (numeral : Numeral) (d : Decimal) : Prop :=
  ∀ x, d.magnitude? = some x → ∀ negative, numeral.value negative = .real (.finite negative x)

theorem value_of_magnitude {numeral : Numeral}
    (hreal : numeral.fraction.isSome ∨ numeral.power.isSome) {x : Magnitude}
    (hx : (Decimal.ofDigits numeral.whole (numeral.fraction.getD [])
      (numeral.power.getD 0)).magnitude? = some x) (negative : Bool) :
    numeral.value negative = .real (.finite negative x) := by
  rw [Decimal.magnitude?_eq_some_iff negative] at hx
  unfold value
  split
  · simp_all
  · rw [hx]
    rfl

/-- A zero in front has no digit behind it. -/
def NoNeedlessZero (text : List Char) : Prop :=
  ∀ c rest, text = '0' :: c :: rest → ¬c.isDigit

theorem exists_of_positional {text : List Char} {d : Decimal} (h : Positional text d)
    (hzero : NoNeedlessZero text) :
    ∃ numeral : Numeral, numeral.text = text ∧ numeral.Reads d := by
  obtain ⟨whole, fraction, rfl, hwhole, hfraction, hvalue⟩ := h
  have hlength : whole.head? = some '0' → whole.length = 1 := by
    intro hhead
    obtain ⟨tail, rfl⟩ := List.head?_eq_some_iff.1 hhead
    cases tail with
    | nil => rfl
    | cons c tail => exact absurd (hwhole.2 c (by simp)) (hzero c _ rfl)
  refine ⟨⟨whole, some fraction, none, hwhole, hlength, by rintro _ ⟨⟩; exact hfraction⟩, ?_, ?_⟩
  · rw [text, fractionText, powerText, List.append_nil]
  · intro x hx
    rw [Decimal.magnitude?, ← hvalue] at hx
    exact value_of_magnitude (.inl rfl) hx

def fractionOf (digits : List Char) : Option (List Char) :=
  if digits.isEmpty then none else some digits

theorem toList_scientific (first : Char) (more : List Char) (power : Int) :
    (Layout.scientific (first :: more) power).toList =
      [first] ++ (fractionText (fractionOf more) ++ powerText (some power)) := by
  have hsign : (if power < 0 then "-" else "+").toList = [if power < 0 then '-' else '+'] := by
    split <;> rfl
  have hfraction : (if more.isEmpty then "" else "." ++ .ofList more).toList =
      fractionText (fractionOf more) := by
    unfold fractionOf
    split
    · rfl
    · simp [fractionText]
  simp only [Layout.scientific, List.drop_one, List.tail_cons, List.take_succ_cons,
    List.take_zero, String.toList_append, String.toList_ofList, Nat.toList_repr, hsign, hfraction]
  simp [powerText]

theorem exists_scientific {digits : List Char} (hdigits : IsDigits digits) (exponent : Int) :
    ∃ numeral : Numeral,
      numeral.text = (Layout.scientific digits (exponent + digits.length - 1)).toList ∧
      numeral.Reads ⟨digitsValue digits, exponent⟩ := by
  obtain ⟨first, more, rfl⟩ := List.exists_cons_of_ne_nil hdigits.1
  obtain ⟨hfirst, hmore⟩ := List.forall_mem_cons.1 hdigits.2
  have hfraction : ∀ fraction ∈ fractionOf more, IsDigits fraction := by
    rintro fraction hmem
    obtain ⟨hne, rfl⟩ : more ≠ [] ∧ more = fraction := by simpa [fractionOf] using hmem
    exact ⟨hne, hmore⟩
  have hgetD : (fractionOf more).getD [] = more := by
    unfold fractionOf
    split <;> simp_all
  refine ⟨⟨[first], fractionOf more, some (exponent + (first :: more).length - 1),
    ⟨nofun, by simpa using hfirst⟩, fun _ => rfl, hfraction⟩, (toList_scientific ..).symm, ?_⟩
  intro x hx
  refine value_of_magnitude (.inr rfl) ?_
  dsimp only
  have hexponent : exponent + ((first :: more).length : Int) - 1 - more.length = exponent := by
    rw [List.length_cons]
    omega
  rw [hgetD, Option.getD_some, Decimal.ofDigits, hexponent]
  exact hx

theorem noNeedlessZero_pointed {digits : List Char} (hdigits : IsDigits digits)
    (hhead : digits.head? ≠ some '0') (point : Int) :
    NoNeedlessZero (realLayout.pointed digits point).toList := by
  obtain ⟨first, more, rfl⟩ := List.exists_cons_of_ne_nil hdigits.1
  have hfirst : first ≠ '0' := fun h => hhead (congrArg some h)
  intro c rest heq
  rw [Layout.toList_pointed] at heq
  split at heq
  · exact absurd (List.cons.inj heq).1 hfirst
  split at heq
  · next hpos =>
    rw [List.take_cons (by omega)] at heq
    exact absurd (List.cons.inj heq).1 hfirst
  · obtain rfl := (List.cons.inj (List.cons.inj heq).2).1
    decide

/-- A decimal is written as a numeral that reads alike, unless it is zero and has a power. -/
theorem exists_decimal {d : Decimal} (hzero : d.digits = 0 → d.exponent = 0) :
    ∃ numeral : Numeral, numeral.text = (realLayout.decimal d).toList ∧ numeral.Reads d := by
  obtain ⟨number, exponent⟩ := d
  have hdigits := isDigits_toDigits number
  have hvalue := digitsValue_toDigits number
  have hpositional := positional_pointed realLayout rfl hdigits exponent
  have hscientific := exists_scientific hdigits exponent
  rw [hvalue] at hpositional hscientific
  simp only [Layout.decimal, realLayout]
  split
  · rw [Int.sub_add_cancel]
    refine exists_of_positional hpositional ?_
    by_cases hnumber : number = 0
    · obtain rfl : exponent = 0 := hzero hnumber
      subst hnumber
      intro c rest heq
      cases heq
      decide
    · exact noNeedlessZero_pointed hdigits (head?_toDigits_ne hnumber) _
  · exact hscientific

/-- A finite real is written as a numeral that reads back to it, but for the sign. -/
theorem exists_magnitude (x : Magnitude) : ∃ numeral : Numeral,
    numeral.text = (realLayout.decimal (x.shortest .even)).toList ∧
      ∀ negative, numeral.value negative = .real (.finite negative x) := by
  have hzero : (x.shortest .even).digits = 0 → (x.shortest .even).exponent = 0 := by
    intro hdigits
    by_cases hunits : x.units = 0
    · rw [Magnitude.shortest, if_pos hunits]
    · exact absurd hdigits (Magnitude.digits_shortest_ne_zero hunits)
  obtain ⟨numeral, htext, hreads⟩ := exists_decimal hzero
  refine ⟨numeral, htext, hreads x ?_⟩
  exact (Decimal.magnitude?_eq_some_iff false).2 (Magnitude.toDouble_shortest .even false x)

end Numeral

end RecordRules.Json
