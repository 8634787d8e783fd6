import RecordRules.Text.Ranges

/-!
# Blank characters

The characters of the Unicode property White_Space, and trimming them off both
ends of a text. The zero width space and the byte order mark are not blank.
-/

namespace RecordRules.Text

def blankRanges : Ranges := [
  (0x9, 0xD), (0x20, 0x20), (0x85, 0x85), (0xA0, 0xA0), (0x1680, 0x1680),
  (0x2000, 0x200A), (0x2028, 0x2029), (0x202F, 0x202F), (0x205F, 0x205F), (0x3000, 0x3000)]

def isBlank (c : Char) : Bool :=
  blankRanges.contains c

def dropBlank (cs : List Char) : List Char :=
  cs.dropWhile isBlank

def trim (text : String) : String :=
  .ofList (dropBlank (dropBlank text.toList).reverse).reverse

end RecordRules.Text
