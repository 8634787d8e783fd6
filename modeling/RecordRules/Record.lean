import RecordRules.Json.Reader
import RecordRules.Json.Writer
import Std.Data.ExtTreeMap

/-!
# Records

A record maps field names to scalar values. Its JSON form is one object; reading lets
the last of several equal keys win and refuses a value that is no scalar, writing sorts
by name. The kind of a value is told by its spelling: a number without fraction and
exponent that fits 64 bits is an integer, every other number a float.
-/

namespace RecordRules

open Number (Double)

inductive Value where
  | int (value : Int64)
  | float (value : Double)
  | text (value : String)
  | bool (value : Bool)
  deriving DecidableEq

abbrev Record := Std.ExtTreeMap String Value

namespace Value

def typeName : Value → String
  | int _ => "Int"
  | float _ => "Float"
  | text _ => "String"
  | bool _ => "Bool"

def ofJson? : Json → Option Value
  | .integer value =>
    match Number.int64? value with
    | some word => some (int word)
    | none => some (float (Double.ofInt value))
  | .real value => some (float value)
  | .string value => some (text value)
  | .bool value => some (bool value)
  | _ => none

def toJson : Value → Json
  | int value => .integer value.toInt
  | float value => .real value
  | text value => .string value
  | bool value => .bool value

end Value

namespace Record

def ofJson? : Json → Option Record
  | .object members => do
    let values ← members.mapM fun (name, value) => (Value.ofJson? value).map (name, ·)
    return .ofList values
  | _ => none

def read? (text : String) : Option Record := do
  ofJson? (← Json.read? text)

def toJson (record : Record) : Json :=
  .object (record.toList.map fun (name, value) => (name, value.toJson))

def lookup (record : Record) (field : String) : Option Value :=
  record[field]?

end Record

end RecordRules
