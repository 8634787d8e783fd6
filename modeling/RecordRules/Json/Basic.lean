import RecordRules.Number.Double
import RecordRules.Number.Word

/-!
# JSON values

A number without fraction and exponent is an `integer` of any size, every other one
a `real`; `-0` is the real negative zero. `unreadable` stands for a value of correct
form that has no content: a number beyond the doubles, a string with an unpaired
surrogate, an object with such a key. Whoever needs the value refuses it, and whoever
skips it does not notice.
-/

namespace RecordRules

open Number (Double)

inductive Json where
  | null
  | bool (value : Bool)
  | integer (value : Int)
  | real (value : Double)
  | string (value : String)
  | array (items : List Json)
  | object (members : List (String × Json))
  | unreadable

namespace Json

mutual

def depth : Json → Nat
  | .array items => itemsDepth items + 1
  | .object members => membersDepth members + 1
  | _ => 0

def itemsDepth : List Json → Nat
  | [] => 0
  | item :: rest => max item.depth (itemsDepth rest)

def membersDepth : List (String × Json) → Nat
  | [] => 0
  | (_, value) :: rest => max value.depth (membersDepth rest)

end

mutual

/-- Whether every part of the value has content. -/
def readable : Json → Bool
  | .unreadable => false
  | .array items => itemsReadable items
  | .object members => membersReadable members
  | _ => true

def itemsReadable : List Json → Bool
  | [] => true
  | item :: rest => item.readable && itemsReadable rest

def membersReadable : List (String × Json) → Bool
  | [] => true
  | (_, value) :: rest => value.readable && membersReadable rest

end

def string? : Json → Option String
  | .string text => some text
  | _ => none

def bool? : Json → Option Bool
  | .bool value => some value
  | _ => none

def word? : Json → Option UInt64
  | .integer (.ofNat value) => Number.uint64? value
  | _ => none

def strings? : Json → Option (List String)
  | .array items => items.mapM string?
  | _ => none

/-- The names of a structure's fields in order. A structure is read from an object,
where a name may not be given twice, or from the array of its fields. -/
structure Fields where
  names : List String
  /-- Names other than these are refused rather than skipped. -/
  closed : Bool
  /-- The array may end early. -/
  shortened : Bool

/-- The value of every field, `none` for one that is not given. -/
def Fields.read (fields : Fields) : Json → Option (List (Option Json))
  | .array items =>
    let count := fields.names.length
    if items.length = count ∨ (fields.shortened ∧ items.length < count) then
      some ((List.range count).map (items[·]?))
    else
      none
  | .object members =>
    let given := members.map Prod.fst
    if fields.names.all (given.count · ≤ 1) && (!fields.closed || given.all fields.names.contains) then
      some (fields.names.map (members.lookup ·))
    else
      none
  | _ => none

end Json

end RecordRules
