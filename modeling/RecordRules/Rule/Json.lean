import RecordRules.Rule.Canonical
import RecordRules.Json.Reader
import RecordRules.Json.Writer

/-!
# Rules as JSON

A rule is written as an object whose first member is its `type`. It is read from such
an object with the members in any order and others among them, or from the array of
the type and the fields. The reader refuses nesting beyond `maxNesting`.
-/

namespace RecordRules

open Number (Double)

def Json.maxNesting : Nat := 127

/-- An integer of 64 bits is an integer, every other number a float. -/
def Literal.ofJson? : Json → Option Literal
  | .integer value =>
    match Number.int64? value with
    | some word => some (.int word)
    | none => some (.float (Double.ofInt value))
  | .real value => some (.float value)
  | .string content => some (.text content)
  | _ => none

def Literal.toJson : Literal → Json
  | .int value => .integer value.toInt
  | .float value => .real value
  | .text content => .string content

def Connective.ofText? (text : String) : Option Connective :=
  [Connective.and, .or].find? (·.text = text)

def Comparator.ofText? (text : String) : Option Comparator :=
  [Comparator.gt, .lt, .ge, .le, .eq, .ne].find? (·.text = text)

namespace Rule

def toJson : Rule → Json
  | operator connective left right => .object [
      ("type", .string "operator"), ("op", .string connective.text),
      ("left", left.toJson), ("right", right.toJson)]
  | comparison field comparator literal => .object [
      ("type", .string "comparison"), ("field", .string field),
      ("op", .string comparator.text), ("value", literal.toJson)]

inductive Kind where
  | operator
  | comparison

/-- The kind's name; inside another rule its number serves as well. -/
def Kind.ofJson? (inner : Bool) : Json → Option Kind
  | .string "operator" => some operator
  | .string "comparison" => some comparison
  | .integer 0 => if inner then some operator else none
  | .integer 1 => if inner then some comparison else none
  | _ => none

def Kind.fieldNames : Kind → List String
  | operator => ["op", "left", "right"]
  | comparison => ["field", "op", "value"]

/-- A name by itself, or as the one member of an object that has nothing to say of it. -/
def name? : Json → Option String
  | .string name => some name
  | .object [(name, .null)] => some name
  | .object [(name, .object [])] => some name
  | _ => none

def parts? (inner : Bool) : Json → Option (Kind × List Json)
  | .array (tag :: items) => do
    let kind ← Kind.ofJson? inner tag
    if items.length = kind.fieldNames.length then some (kind, items) else none
  | .object members => do
    if (members.map Prod.fst).count "type" ≠ 1 then none
    else
      let kind ← Kind.ofJson? inner (← members.lookup "type")
      let values ← Json.Fields.read ⟨kind.fieldNames, false, false⟩ (.object members)
      return (kind, ← values.mapM id)
  | _ => none

def ofNested? (inner : Bool) : Nat → Json → Option Rule
  | 0, _ => none
  | fuel + 1, json => do
    match ← parts? inner json with
    | (.operator, [op, left, right]) =>
      return operator (← Connective.ofText? (← name? op)) (← ofNested? true fuel left)
        (← ofNested? true fuel right)
    | (.comparison, [field, op, value]) =>
      return comparison (← field.string?) (← Comparator.ofText? (← name? op))
        (← Literal.ofJson? value)
    | _ => none

/-- Reads a rule; every part of the text has to be readable, skipped members too. -/
def ofJson? (json : Json) : Option Rule :=
  if json.readable && json.depth ≤ Json.maxNesting then ofNested? false Json.maxNesting json
  else none

def read? (text : String) : Option Rule := do
  ofJson? (← Json.read? text)

end Rule

end RecordRules
