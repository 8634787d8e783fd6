import RecordRules.Json.Basic
import RecordRules.Number.Decimal

/-!
# JSON tokens

A JSON text as a list of tokens. `Token.next?` takes one off the front of a text and
`Token.scan` all of them; blanks between them are skipped. Only the form of the tokens
is checked here, not how they follow each other. `length_next?` says that a token takes
at least one character, which is why scanning ends.
-/

namespace RecordRules.Json

open Number

inductive Token where
  | openArray
  | closeArray
  | openObject
  | closeObject
  | comma
  | colon
  /-- A string; `none` if it holds an unpaired surrogate. -/
  | text (content : Option String)
  /-- A number or one of the words `null`, `true` and `false`. -/
  | scalar (value : Json)

namespace Token

def isBlank (c : Char) : Bool :=
  c = ' ' || c = '\t' || c = '\n' || c = '\r'

/-! ## Strings -/

/-- A part of a string: a character, or a UTF-16 unit given by its number. -/
inductive Piece where
  | char (c : Char)
  | unit (value : Nat)

def hexDigit? (c : Char) : Option Nat :=
  if c.isDigit then some (c.toNat - '0'.toNat)
  else if 'a' ≤ c ∧ c ≤ 'f' then some (c.toNat - 'a'.toNat + 10)
  else if 'A' ≤ c ∧ c ≤ 'F' then some (c.toNat - 'A'.toNat + 10)
  else none

def hexUnit? (a b c d : Char) : Option Nat := do
  return (((← hexDigit? a) * 16 + (← hexDigit? b)) * 16 + (← hexDigit? c)) * 16 + (← hexDigit? d)

def escape? : Char → Option Char
  | '"' => some '"'
  | '\\' => some '\\'
  | '/' => some '/'
  | 'b' => some '\x08'
  | 'f' => some '\x0c'
  | 'n' => some '\n'
  | 'r' => some '\r'
  | 't' => some '\t'
  | _ => none

def pieces? : List Char → Option (List Piece × List Char)
  | [] => none
  | '"' :: rest => some ([], rest)
  | '\\' :: 'u' :: a :: b :: c :: d :: rest => do
    let unit ← hexUnit? a b c d
    let (pieces, rest) ← pieces? rest
    return (.unit unit :: pieces, rest)
  | '\\' :: c :: rest => do
    let c ← escape? c
    let (pieces, rest) ← pieces? rest
    return (.char c :: pieces, rest)
  | c :: rest =>
    if c = '\\' ∨ c.toNat < 0x20 then none
    else do
      let (pieces, rest) ← pieces? rest
      return (.char c :: pieces, rest)

def isLeading (unit : Nat) : Bool := 0xD800 ≤ unit && unit < 0xDC00

def isTrailing (unit : Nat) : Bool := 0xDC00 ≤ unit && unit < 0xE000

/-- Joins surrogate pairs; `none` if a surrogate is left over. -/
def join? : List Piece → Option (List Char)
  | [] => some []
  | .char c :: rest => (join? rest).map (c :: ·)
  | .unit unit :: rest =>
    if isLeading unit then
      match rest with
      | .unit next :: rest =>
        if isTrailing next then
          (join? rest).map (Char.ofNat (0x10000 + (unit - 0xD800) * 0x400 + (next - 0xDC00)) :: ·)
        else none
      | _ => none
    else if isTrailing unit then none
    else (join? rest).map (Char.ofNat unit :: ·)

def string? (cs : List Char) : Option (Token × List Char) := do
  let (pieces, rest) ← pieces? cs
  return (.text ((join? pieces).map String.ofList), rest)

/-! ## Numbers -/

def ofDouble (x : Double) : Json :=
  if x.isFinite then .real x else .unreadable

def ofInteger (negative : Bool) (n : Nat) : Json :=
  if negative && n = 0 then .real (.finite true .zero)
  else if (Double.ofNat n).isFinite then .integer (if negative then -n else n)
  else .unreadable

/-- Takes an optional sign off the front; the answer is whether it was a minus. -/
def takeSign : List Char → Bool × List Char
  | '+' :: rest => (false, rest)
  | '-' :: rest => (true, rest)
  | rest => (false, rest)

def power? : List Char → Option (Option Int × List Char)
  | [] => some (none, [])
  | mark :: rest =>
    if mark = 'e' ∨ mark = 'E' then
      let signed := takeSign rest
      let digits := signed.2.takeWhile Char.isDigit
      if digits.isEmpty then none
      else
        let power : Int := digitsValue digits
        some (some (if signed.1 then -power else power), signed.2.dropWhile Char.isDigit)
    else
      some (none, mark :: rest)

def fraction? : List Char → Option (Option (List Char) × List Char)
  | '.' :: rest =>
    let digits := rest.takeWhile Char.isDigit
    if digits.isEmpty then none else some (some digits, rest.dropWhile Char.isDigit)
  | rest => some (none, rest)

/-- A number after its sign: digits that do not start with a needless zero, then an
optional fraction and an optional exponent. -/
def number? (negative : Bool) (cs : List Char) : Option (Token × List Char) := do
  let whole := cs.takeWhile Char.isDigit
  if whole.isEmpty || (whole.head? = some '0' && 1 < whole.length) then none
  else
    let (fraction, rest) ← fraction? (cs.dropWhile Char.isDigit)
    let (power, rest) ← power? rest
    let value := match fraction, power with
      | none, none => ofInteger negative (digitsValue whole)
      | _, _ =>
        ofDouble ((Decimal.ofDigits whole (fraction.getD []) (power.getD 0)).toDouble negative)
    return (.scalar value, rest)

/-! ## The whole text -/

def next? : List Char → Option (Token × List Char)
  | '[' :: rest => some (.openArray, rest)
  | ']' :: rest => some (.closeArray, rest)
  | '\x7b' :: rest => some (.openObject, rest)
  | '\x7d' :: rest => some (.closeObject, rest)
  | ',' :: rest => some (.comma, rest)
  | ':' :: rest => some (.colon, rest)
  | '"' :: rest => string? rest
  | '-' :: rest => number? true rest
  | 'n' :: 'u' :: 'l' :: 'l' :: rest => some (.scalar .null, rest)
  | 't' :: 'r' :: 'u' :: 'e' :: rest => some (.scalar (.bool true), rest)
  | 'f' :: 'a' :: 'l' :: 's' :: 'e' :: rest => some (.scalar (.bool false), rest)
  | rest => number? false rest

private theorem length_dropWhile_le (p : Char → Bool) (cs : List Char) :
    (cs.dropWhile p).length ≤ cs.length :=
  (List.dropWhile_suffix p).length_le

private theorem length_dropWhile_lt {p : Char → Bool} {cs : List Char}
    (h : (cs.takeWhile p).isEmpty = false) : (cs.dropWhile p).length < cs.length := by
  have hlength := congrArg List.length (List.takeWhile_append_dropWhile (p := p) (l := cs))
  rw [List.length_append] at hlength
  have : (cs.takeWhile p).length ≠ 0 := by
    intro hzero
    simp [List.length_eq_zero_iff.1 hzero] at h
  omega

theorem length_pieces? {cs rest : List Char} {pieces : List Piece}
    (h : pieces? cs = some (pieces, rest)) : rest.length < cs.length := by
  fun_induction pieces? cs generalizing pieces with
  | case1 => simp at h
  | case2 => simp_all
  | case3 a b c d tail ih =>
    simp only [bind, Option.bind_eq_some_iff, pure, Option.some.injEq, Prod.mk.injEq] at h
    obtain ⟨_, _, ⟨_, more⟩, hp, _, rfl⟩ := h
    have : more.length < tail.length := ih hp
    simp only [List.length_cons]
    omega
  | case4 c tail _ ih =>
    simp only [bind, Option.bind_eq_some_iff, pure, Option.some.injEq, Prod.mk.injEq] at h
    obtain ⟨_, _, ⟨_, more⟩, hp, _, rfl⟩ := h
    have : more.length < tail.length := ih hp
    simp only [List.length_cons]
    omega
  | case5 => simp at h
  | case6 c tail _ _ _ _ ih =>
    simp only [bind, Option.bind_eq_some_iff, pure, Option.some.injEq, Prod.mk.injEq] at h
    obtain ⟨⟨_, more⟩, hp, _, rfl⟩ := h
    have : more.length < tail.length := ih hp
    simp only [List.length_cons]
    omega

theorem length_string? {cs rest : List Char} {token : Token}
    (h : string? cs = some (token, rest)) : rest.length < cs.length := by
  simp only [string?, bind, Option.bind_eq_some_iff, pure, Option.some.injEq, Prod.mk.injEq] at h
  obtain ⟨⟨_, _⟩, hp, _, rfl⟩ := h
  exact length_pieces? hp

private theorem length_takeSign_le (cs : List Char) : (takeSign cs).2.length ≤ cs.length := by
  unfold takeSign
  split <;> simp

theorem length_power? {cs rest : List Char} {power : Option Int}
    (h : power? cs = some (power, rest)) : rest.length ≤ cs.length := by
  unfold power? at h
  split at h
  · simp_all
  · next mark tail =>
    split at h
    · dsimp only at h
      split at h
      · simp at h
      · simp only [Option.some.injEq, Prod.mk.injEq] at h
        rw [← h.2]
        have h1 := length_dropWhile_le Char.isDigit (takeSign tail).2
        have h2 := length_takeSign_le tail
        simp only [List.length_cons]
        omega
    · simp_all

theorem length_fraction? {cs rest : List Char} {fraction : Option (List Char)}
    (h : fraction? cs = some (fraction, rest)) : rest.length ≤ cs.length := by
  unfold fraction? at h
  split at h
  · next tail =>
    dsimp only at h
    split at h
    · simp at h
    · simp only [Option.some.injEq, Prod.mk.injEq] at h
      rw [← h.2]
      exact Nat.le_trans (length_dropWhile_le _ _) (by simp)
  · simp_all

theorem length_number? {negative : Bool} {cs rest : List Char} {token : Token}
    (h : number? negative cs = some (token, rest)) : rest.length < cs.length := by
  unfold number? at h
  dsimp only at h
  split at h
  · simp at h
  · next hwhole =>
    simp only [bind, Option.bind_eq_some_iff, pure, Option.some.injEq, Prod.mk.injEq] at h
    obtain ⟨⟨_, more⟩, hfraction, ⟨_, last⟩, hpower, _, rfl⟩ := h
    have h1 : more.length ≤ (cs.dropWhile Char.isDigit).length := length_fraction? hfraction
    have h2 : last.length ≤ more.length := length_power? hpower
    have h3 : (cs.dropWhile Char.isDigit).length < cs.length := by
      apply length_dropWhile_lt
      simp only [Bool.or_eq_true, not_or, Bool.not_eq_true] at hwhole
      exact hwhole.1
    show last.length < cs.length
    omega

theorem length_next? {cs rest : List Char} {token : Token}
    (h : next? cs = some (token, rest)) : rest.length < cs.length := by
  unfold next? at h
  split at h
  case h_7 => exact Nat.lt_succ_of_lt (length_string? h)
  case h_8 => exact Nat.lt_succ_of_lt (length_number? h)
  case h_12 => exact length_number? h
  all_goals
    simp only [Option.some.injEq, Prod.mk.injEq] at h
    rw [← h.2]
    simp only [List.length_cons]
    omega

def scan (cs : List Char) : Option (List Token) :=
  match _hcs : cs.dropWhile isBlank with
  | [] => some []
  | c :: tail =>
    match _hnext : next? (c :: tail) with
    | none => none
    | some (token, rest) => (scan rest).map (token :: ·)
termination_by cs.length
decreasing_by
  have h1 := length_next? _hnext
  have h2 := length_dropWhile_le isBlank cs
  rw [_hcs] at h2
  omega

end Token

end RecordRules.Json
