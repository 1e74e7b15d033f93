import MarkdownTemplate.Text.Basic
import MarkdownTemplate.Text.Printable

/-!
# Quoted texts

A quoted text stands between single quotes, or between double quotes if it holds a single quote
and no double one. Inside, the quote in use and the backslash follow a backslash, line feed,
carriage return and tab are written by letter, and a character that is not printable is written
by its code point in hexadecimal digits.
-/

namespace MarkdownTemplate.Text

/-- The quote that a quoted text stands between. -/
def quoteFor (s : Text) : Char :=
  if s.contains '\'' && !s.contains '"' then '"' else '\''

/-- The last `width` hexadecimal digits of a number. -/
def hexDigits : (width : Nat) → Nat → Text
  | 0, _ => []
  | width + 1, n => hexDigits width (n / 16) ++ [Nat.digitChar (n % 16)]

/-- A code point by number, with two, four or eight hexadecimal digits. -/
def codePoint (n : Nat) : Text :=
  if n < 0x100 then '\\' :: 'x' :: hexDigits 2 n
  else if n < 0x10000 then '\\' :: 'u' :: hexDigits 4 n
  else '\\' :: 'U' :: hexDigits 8 n

/-- One character as it is written between quotes `q`. -/
def quotedChar (q c : Char) : Text :=
  if c = q || c = '\\' then ['\\', c]
  else if c = '\n' then ['\\', 'n']
  else if c = '\r' then ['\\', 'r']
  else if c = '\t' then ['\\', 't']
  else if isPrintable c then [c]
  else codePoint c.toNat

/-- The quoted form of a text. -/
def quoted (s : Text) : Text :=
  quoteFor s :: (s.flatMap (quotedChar (quoteFor s)) ++ [quoteFor s])

end MarkdownTemplate.Text
