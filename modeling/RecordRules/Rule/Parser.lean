import RecordRules.Rule.SyntaxError
import RecordRules.Number.Decimal
import RecordRules.Number.Word

/-!
# Parser of the rule language

An expression is a chain of operands joined by connectives, which bind equally and to
the left; an operand is a comparison or an expression in parentheses.

The parser takes one token at a time. Its `State` is all that matters of what it has
taken: the chain that the next operand continues, the chains of the parentheses that
are still open around it, innermost first, and how far it has got within the operand.
`State.step` says what the next token does, `State.atEnd` what the end of the tokens
does, and `State.run` goes through a list of tokens. A `Cursor` is what calls on the
same tokens share: the tokens left and the comparisons counted so far, against the
limit.
-/

namespace RecordRules

open Number

/-- Reads the text of a number: digits are an integer, digits on both sides of a point
are a float, each within its range. -/
def Literal.ofNumber? (digits : String) : Option Literal :=
  let cs := digits.toList
  match natOfDigits? cs with
  | some n => (int64? n).map .int
  | none =>
    let whole := cs.takeWhile (· ≠ '.')
    let fraction := (cs.dropWhile (· ≠ '.')).drop 1
    if (natOfDigits? whole).isSome && (natOfDigits? fraction).isSome then
      let value := (Decimal.ofDigits whole fraction 0).toDouble false
      if value.isFinite then some (.float value) else none
    else
      none

namespace Rule

/-- An operand's place in its chain: what stands before it, if anything does. -/
abbrev Chain := Option (Rule × Connective)

def Chain.join : Chain → Rule → Rule
  | none, operand => operand
  | some (left, connective), operand => operator connective left operand

namespace Parser

inductive State where
  | operand (chain : Chain) (outer : List Chain)
  | comparator (field : String) (chain : Chain) (outer : List Chain)
  | literal (field : String) (comparator : Comparator) (chain : Chain) (outer : List Chain)
  /-- The chain may end here or go on. -/
  | complete (chain : Rule) (outer : List Chain)
  deriving DecidableEq

/-- What a token does, given that `count` comparisons have begun. -/
inductive Step where
  | next (state : State) (count : Nat)
  /-- The expression has ended before the token. -/
  | done (rule : Rule)
  /-- `taken` says whether the cursor is behind the token now. -/
  | fail (error : SyntaxError) (count : Nat) (taken : Bool)

def State.start : State := operand none []

def State.step (maxDepth count : Nat) : State → Token → Step
  | operand chain outer, token =>
    match token with
    | .opening =>
      if outer.length + 1 > maxDepth then .fail (.tooDeep maxDepth) count false
      else .next (operand none (chain :: outer)) count
    | .word field =>
      if count + 1 > maxComparisons then .fail .tooLong (count + 1) false
      else .next (comparator field chain outer) (count + 1)
    | _ => .fail (.unexpected .operand token) count false
  | comparator field chain outer, token =>
    match token with
    | .comparator c => .next (literal field c chain outer) count
    | _ => .fail (.unexpected .comparator token) count true
  | literal field c chain outer, token =>
    let close (value : Literal) : Step :=
      .next (complete (chain.join (comparison field c value)) outer) count
    match token with
    | .text content => close (.text content)
    | .word name => close (.text name)
    | .number digits =>
      match Literal.ofNumber? digits with
      | some value => close value
      | none => .fail (.malformedNumber digits) count true
    | _ => .fail (.unexpected .literal token) count true
  | complete rule outer, token =>
    match token, outer with
    | .connective c, _ => .next (operand (some (rule, c)) outer) count
    | .closing, chain :: outer => .next (complete (chain.join rule) outer) count
    | _, _ :: _ => .fail (.unexpected .closing token) count true
    | _, [] => .done rule

def State.atEnd : State → Except SyntaxError Rule
  | operand _ _ => .error (.ended .operand)
  | comparator _ _ _ => .error (.ended .comparator)
  | literal _ _ _ _ => .error (.ended .literal)
  | complete _ (_ :: _) => .error (.ended .closing)
  | complete rule [] => .ok rule

structure Cursor where
  tokens : List Token
  count : Nat
  deriving DecidableEq

def State.run (maxDepth : Nat) : State → Nat → List Token → Except SyntaxError Rule × Cursor
  | state, count, [] => (state.atEnd, ⟨[], count⟩)
  | state, count, token :: rest =>
    match state.step maxDepth count token with
    | .next state count => state.run maxDepth count rest
    | .done rule => (.ok rule, ⟨token :: rest, count⟩)
    | .fail error count taken => (.error error, ⟨if taken then rest else token :: rest, count⟩)

namespace Cursor

def ofTokens (tokens : List Token) : Cursor := ⟨tokens, 0⟩

def expression (maxDepth : Nat) (cursor : Cursor) : Except SyntaxError Rule × Cursor :=
  State.start.run maxDepth cursor.count cursor.tokens

def whole (maxDepth : Nat) (cursor : Cursor) : Except SyntaxError Rule × Cursor :=
  match cursor.expression maxDepth with
  | (.ok rule, after) =>
    match after.tokens with
    | [] => (.ok rule, after)
    | token :: _ => (.error (.trailing token), after)
  | failed => failed

end Cursor

end Parser

def defaultMaxDepth : Nat := 256

structure ParseOptions where
  maxDepth : Nat := defaultMaxDepth
  lenient : Bool := false
  deriving DecidableEq

def ofTokens (maxDepth : Nat) (tokens : List Token) : Except SyntaxError Rule :=
  ((Parser.Cursor.ofTokens tokens).whole maxDepth).1

def parse (options : ParseOptions) (text : String) : Except SyntaxError Rule := do
  ofTokens options.maxDepth (← (Token.scan options.lenient text).mapError SyntaxError.ofLexical)

end Rule

end RecordRules
