import ChatMarkup.Text.Digits
import ChatMarkup.Text.Printable

/-!
# Quoted Text

Text as a message shows it: in double quotes and on one line.

Whatever would not be seen as itself between the quotes is written as an
escape. The quote and the backslash are escaped because they would be read as
something else, the common control characters have letters of their own, and
any other character that cannot be shown is written by its code point.

## Main definitions

* `quotedChar`: A character as it stands between quotes.
* `quoted`: A text in quotes.
-/

namespace ChatMarkup

namespace Text

/-- The character as it stands between quotes. -/
def quotedChar (c : Char) : Text :=
  if c = '"' then ['\\', '"']
  else if c = '\\' then ['\\', '\\']
  else if c = '\n' then ['\\', 'n']
  else if c = '\r' then ['\\', 'r']
  else if c = '\t' then ['\\', 't']
  else if c = '\x00' then ['\\', '0']
  else if isPrintable c then [c]
  else '\\' :: 'u' :: '\x7b' :: hexadecimal c.toNat ++ ['\x7d']

/-- The text in double quotes. -/
def quoted (s : Text) : Text :=
  '"' :: s.flatMap quotedChar ++ ['"']

end Text

end ChatMarkup
