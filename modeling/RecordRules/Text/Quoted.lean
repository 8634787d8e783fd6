import RecordRules.Text.Graphic
import RecordRules.Text.GraphemeExtend

/-!
# Quoted text

How a message shows raw text: between quotes, with everything that would not be
visible on its own written as an escape. NUL, tab, line feed, carriage return and
the backslash have short escapes, the enclosing quote is escaped and the other
kind of quote is not; what remains stands as it is if it is graphic and is not
drawn onto the character before it, and is `\u` with its code point in braces
otherwise.
-/

namespace RecordRules.Text

private def codePointEscape (c : Char) : List Char :=
  '\\' :: 'u' :: '\x7b' :: (Nat.toDigits 16 c.toNat ++ ['\x7d'])

def escaped (quote : Char) (c : Char) : List Char :=
  if c = '\x00' then ['\\', '0']
  else if c = '\t' then ['\\', 't']
  else if c = '\n' then ['\\', 'n']
  else if c = '\r' then ['\\', 'r']
  else if c = '\\' || c = quote then ['\\', c]
  else if isGraphic c && !isCombining c then [c]
  else codePointEscape c

def quoted (quote : Char) (text : String) : String :=
  .ofList (quote :: (text.toList.flatMap (escaped quote) ++ [quote]))

end RecordRules.Text
