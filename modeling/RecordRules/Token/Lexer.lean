import RecordRules.Token.Basic
import RecordRules.Text.Alphabetic
import RecordRules.Text.Blank
import RecordRules.Text.Numeric

/-!
# Lexer of the rule language

A text is cut into lexemes once, by `lexemes`: tokens, stray characters that start no
token, and a quoted text that is never closed, which takes the rest of the text with
it. The strict and the lenient reading are two views of that one list: strict stops at
the first stray character, lenient passes over it, and both stop at an unclosed text.

`Token.next?` reads a text one token at a time instead, and goes on behind an error.
-/

namespace RecordRules

open Text

inductive Lexeme where
  | token (token : Token)
  | stray (c : Char)
  /-- A quoted text without its closing quote, up to the end. -/
  | unclosed (content : String)
  deriving DecidableEq

inductive LexicalError where
  | stray (c : Char)
  | unclosed (content : String)
  deriving DecidableEq

namespace Lexeme

def startsWord (c : Char) : Bool := isAlphabetic c || c = '_'

def continuesWord (c : Char) : Bool := isAlphabetic c || isNumeric c || c = '_'

/-- Points belong to the run, so that a malformed number stays one token. -/
def continuesNumber (c : Char) : Bool := continuesWord c || c = '.'

/-- Connectives are whole words in capitals. -/
def ofWord (name : String) : Token :=
  if name = "AND" then .connective .and
  else if name = "OR" then .connective .or
  else .word name

def takeText (cs : List Char) : Lexeme × List Char :=
  let content := String.ofList (cs.takeWhile (· ≠ '\x27'))
  match cs.dropWhile (· ≠ '\x27') with
  | [] => (unclosed content, [])
  | _ :: rest => (token (.text content), rest)

def takeNumber (cs : List Char) : Lexeme × List Char :=
  (token (.number (.ofList (cs.takeWhile continuesNumber))), cs.dropWhile continuesNumber)

def takeWord (cs : List Char) : Lexeme × List Char :=
  (token (ofWord (.ofList (cs.takeWhile continuesWord))), cs.dropWhile continuesWord)

/-- An operator or a parenthesis; the longer operator wins. -/
def takeSymbol (c : Char) (rest : List Char) : Lexeme × List Char :=
  match c, rest with
  | '>', '=' :: rest => (token (.comparator .ge), rest)
  | '<', '=' :: rest => (token (.comparator .le), rest)
  | '!', '=' :: rest => (token (.comparator .ne), rest)
  | '>', rest => (token (.comparator .gt), rest)
  | '<', rest => (token (.comparator .lt), rest)
  | '=', rest => (token (.comparator .eq), rest)
  | '(', rest => (token .opening, rest)
  | ')', rest => (token .closing, rest)
  | c, rest => (stray c, rest)

/-- The first lexeme of a text that starts with the character `c`, which is no blank,
and what is left behind it. -/
def take (c : Char) (rest : List Char) : Lexeme × List Char :=
  if c = '\x27' then takeText rest
  else if c.isDigit then takeNumber (c :: rest)
  else if startsWord c then takeWord (c :: rest)
  else takeSymbol c rest

private theorem length_dropWhile_cons_le {p : Char → Bool} {c : Char} (h : p c) (cs : List Char) :
    ((c :: cs).dropWhile p).length ≤ cs.length := by
  rw [List.dropWhile_cons_of_pos h]
  exact (List.dropWhile_suffix p).length_le

theorem continuesWord_of_startsWord {c : Char} (h : startsWord c) : continuesWord c := by
  simp only [startsWord, continuesWord, Bool.or_eq_true] at *
  rcases h with h | h
  · exact .inl (.inl h)
  · exact .inr h

theorem continuesNumber_of_isDigit {c : Char} (h : c.isDigit) : continuesNumber c := by
  simp [continuesNumber, continuesWord, isNumeric_of_isDigit h]

theorem length_take_le (c : Char) (rest : List Char) : (take c rest).2.length ≤ rest.length := by
  unfold take
  split
  · unfold takeText
    have h : (rest.dropWhile (· ≠ '\x27')).length ≤ rest.length :=
      (List.dropWhile_suffix _).length_le
    dsimp only
    split
    · exact Nat.zero_le _
    · next heq =>
      rw [heq, List.length_cons] at h
      dsimp only
      omega
  split
  · next h => exact length_dropWhile_cons_le (continuesNumber_of_isDigit h) rest
  split
  · next h => exact length_dropWhile_cons_le (continuesWord_of_startsWord h) rest
  · unfold takeSymbol
    split <;> simp only [List.length_cons] <;> omega

theorem length_take_lt {cs rest : List Char} {c : Char} (h : dropBlank cs = c :: rest) :
    (take c rest).2.length < cs.length := by
  have hcs : (dropBlank cs).length ≤ cs.length := (List.dropWhile_suffix _).length_le
  have hrest := length_take_le c rest
  rw [h, List.length_cons] at hcs
  omega

end Lexeme

def lexemes (cs : List Char) : List Lexeme :=
  match _h : dropBlank cs with
  | [] => []
  | c :: rest =>
    let taken := Lexeme.take c rest
    taken.1 :: lexemes taken.2
termination_by cs.length
decreasing_by
  have h1 : (dropBlank cs).length ≤ cs.length := (List.dropWhile_suffix _).length_le
  have h2 := Lexeme.length_take_le c rest
  rw [_h, List.length_cons] at h1
  omega

namespace Token

/-- The tokens among lexemes, up to the first error. -/
def ofLexemes (lenient : Bool) : List Lexeme → Except LexicalError (List Token)
  | [] => .ok []
  | .token token :: rest => (ofLexemes lenient rest).map (token :: ·)
  | .stray c :: rest => if lenient then ofLexemes lenient rest else .error (.stray c)
  | .unclosed content :: _ => .error (.unclosed content)

def scan (lenient : Bool) (text : String) : Except LexicalError (List Token) :=
  ofLexemes lenient (lexemes text.toList)

/-- What asking once for a token gives, and the text left behind it; nothing at the end. A
lenient reading passes over stray characters. -/
def next? (lenient : Bool) (cs : List Char) : Option (Except LexicalError Token × List Char) :=
  match _h : dropBlank cs with
  | [] => none
  | c :: rest =>
    let taken := Lexeme.take c rest
    match taken.1 with
    | .token token => some (.ok token, taken.2)
    | .stray c => if lenient then next? lenient taken.2 else some (.error (.stray c), taken.2)
    | .unclosed content => some (.error (.unclosed content), taken.2)
termination_by cs.length
decreasing_by exact Lexeme.length_take_lt _h

theorem length_next?_lt {lenient : Bool} {cs after : List Char}
    {outcome : Except LexicalError Token} (h : next? lenient cs = some (outcome, after)) :
    after.length < cs.length := by
  fun_induction next? lenient cs with
  | case1 => cases h
  | case3 cs c rest hcons taken _ _ _ ih => exact Nat.lt_trans (ih h) (Lexeme.length_take_lt hcons)
  | case2 cs c rest hcons | case4 cs c rest hcons | case5 cs c rest hcons =>
    cases h
    exact Lexeme.length_take_lt hcons

/-- The outcomes of asking for one token after the other until the end, errors included. -/
def outcomes (lenient : Bool) (cs : List Char) : List (Except LexicalError Token) :=
  match _h : next? lenient cs with
  | none => []
  | some (outcome, after) => outcome :: outcomes lenient after
termination_by cs.length
decreasing_by exact length_next?_lt _h

def trace (lenient : Bool) (text : String) : List (Except LexicalError Token) :=
  outcomes lenient text.toList

end Token

end RecordRules
