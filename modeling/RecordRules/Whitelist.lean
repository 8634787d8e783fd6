import RecordRules.Json.Reader
import RecordRules.Json.Writer
import RecordRules.Rule.Basic
import RecordRules.Text.Blank
import RecordRules.Text.Split
import Std.Data.ExtTreeSet

/-!
# Whitelists

The set of field names a rule may use. A whitelist is written as the sorted array of
its names, and may also be given as text with commas between the names.
-/

namespace RecordRules

abbrev Whitelist := Std.ExtTreeSet String

namespace Whitelist

def ofNames (names : List String) : Whitelist := .ofList names

/-- The names between the commas of a text, trimmed; empty ones do not count. -/
def ofCommaSeparated (text : String) : Whitelist :=
  ofNames (((Text.split ',' text.toList).map fun piece => Text.trim (.ofList piece)).filter (· ≠ ""))

def ofJson? (json : Json) : Option Whitelist :=
  json.strings?.map ofNames

def toJson (whitelist : Whitelist) : Json :=
  .array (whitelist.toList.map .string)

/-- The first field of a rule, from left to right, that is not in the whitelist. A right side
is looked at only if the left one is in order. -/
def firstUnknown? (whitelist : Whitelist) : Rule → Option String
  | .operator _ left right =>
    match whitelist.firstUnknown? left with
    | some field => some field
    | none => whitelist.firstUnknown? right
  | .comparison field _ _ => if whitelist.contains field then none else some field

end Whitelist

def defaultAttributes : List String := ["age", "department", "salary", "experience"]

end RecordRules
