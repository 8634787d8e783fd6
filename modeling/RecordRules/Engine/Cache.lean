import RecordRules.Rule.Basic

/-!
# Cache of parsed rules

At most `capacity` rules under their texts, the most recently used first. Using a text
puts it in front; what is used least recently falls out at the end.
-/

namespace RecordRules

structure Cache where
  capacity : Nat
  entries : List (String × Rule) := []

namespace Cache

def find? (cache : Cache) (text : String) : Option Rule :=
  cache.entries.lookup text

def use (cache : Cache) (text : String) (rule : Rule) : Cache :=
  { cache with
    entries := ((text, rule) :: cache.entries.filter (·.1 ≠ text)).take cache.capacity }

def size (cache : Cache) : Nat := cache.entries.length

def clear (cache : Cache) : Cache :=
  { cache with entries := [] }

end Cache

end RecordRules
