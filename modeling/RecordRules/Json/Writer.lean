import RecordRules.Json.Basic
import RecordRules.Number.Layout

/-!
# Writing JSON

Values are written compactly, or indented by two spaces a level. Strings escape the
quote, the backslash and the characters below U+0020 and nothing else.
-/

namespace RecordRules.Json

open Number

/-- Reals keep a fraction digit while their first digit stands at an exponent from -5
to 15, and get a power of ten beyond. There is no number for NaN and the infinities. -/
def realLayout : Layout where
  tie := .even
  positional := some (-5, 15)
  whole := ".0"
  nan := "null"
  infinity _ := "null"

def escaped (c : Char) : List Char :=
  if c = '"' ∨ c = '\\' then ['\\', c]
  else if c = '\x08' then ['\\', 'b']
  else if c = '\x0c' then ['\\', 'f']
  else if c = '\n' then ['\\', 'n']
  else if c = '\r' then ['\\', 'r']
  else if c = '\t' then ['\\', 't']
  else if c.toNat < 0x20 then
    ['\\', 'u', '0', '0', Nat.digitChar (c.toNat / 16), Nat.digitChar (c.toNat % 16)]
  else [c]

def quoted (text : String) : String :=
  .ofList ('"' :: (text.toList.flatMap escaped ++ ['"']))

def integerText (value : Int) : String :=
  if value < 0 then "-" ++ value.natAbs.repr else value.natAbs.repr

mutual

def compact : Json → String
  | .null | .unreadable => "null"
  | .bool value => if value then "true" else "false"
  | .integer value => integerText value
  | .real value => realLayout.format value
  | .string text => quoted text
  | .array items => "[" ++ ",".intercalate (compactItems items) ++ "]"
  | .object members => "\x7b" ++ ",".intercalate (compactMembers members) ++ "\x7d"

def compactItems : List Json → List String
  | [] => []
  | item :: rest => item.compact :: compactItems rest

def compactMembers : List (String × Json) → List String
  | [] => []
  | (key, value) :: rest => (quoted key ++ ":" ++ value.compact) :: compactMembers rest

end

def block (level : Nat) (opening closing : String) (lines : List String) : String :=
  if lines.isEmpty then opening ++ closing
  else
    let inner := "\n".pushn ' ' (2 * level + 2)
    opening ++ inner ++ (("," ++ inner).intercalate lines) ++ "\n".pushn ' ' (2 * level) ++ closing

mutual

def pretty (level : Nat) : Json → String
  | .array items => block level "[" "]" (prettyItems (level + 1) items)
  | .object members => block level "\x7b" "\x7d" (prettyMembers (level + 1) members)
  | value => value.compact

def prettyItems (level : Nat) : List Json → List String
  | [] => []
  | item :: rest => item.pretty level :: prettyItems level rest

def prettyMembers (level : Nat) : List (String × Json) → List String
  | [] => []
  | (key, value) :: rest => (quoted key ++ ": " ++ value.pretty level) :: prettyMembers level rest

end

end RecordRules.Json
