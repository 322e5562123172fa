import ScopedHtml.Text.Printable

/-!
# ScopedHtml.Text.Quoted

Text between quotes, as messages cite names.

Single quotes surround the text unless it holds a single quote and no double
one; then double quotes do. The surrounding quote and the backslash are written
with a backslash before them; tab, line feed and carriage return as letters
after a backslash; any other character that cannot be shown as its code point in
two, four or eight digits. Every other character stands for itself.
-/

namespace ScopedHtml.Text

/-- The quote that surrounds a text. -/
def quoteFor (text : List Char) : Char :=
  if '\'' ∈ text ∧ '"' ∉ text then '"' else '\''

/-- The digits of a number to the base 16, at least `width`. -/
def hexDigits (width n : Nat) : List Char :=
  let digits := Nat.toDigits 16 n
  List.replicate (width - digits.length) '0' ++ digits

/-- A code point as an escape. -/
def escaped (n : Nat) : List Char :=
  if n < 0x100 then '\\' :: 'x' :: hexDigits 2 n
  else if n < 0x10000 then '\\' :: 'u' :: hexDigits 4 n
  else '\\' :: 'U' :: hexDigits 8 n

/-- One character of a text surrounded by `quote`. -/
def quotedChar (quote c : Char) : List Char :=
  if c = quote ∨ c = '\\' then ['\\', c]
  else if c = '\t' then ['\\', 't']
  else if c = '\n' then ['\\', 'n']
  else if c = '\r' then ['\\', 'r']
  else if isPrintable c then [c]
  else escaped c.toNat

/-- The characters of a quoted text, the surrounding quotes included. -/
def quotedChars (text : List Char) : List Char :=
  let quote := quoteFor text
  quote :: (text.flatMap (quotedChar quote) ++ [quote])

/-- The text between quotes. -/
def quoted (text : String) : String := String.ofList (quotedChars text.toList)

/-- The texts between quotes, separated by commas. -/
def quotedList (texts : List String) : String := ", ".intercalate (texts.map quoted)

end ScopedHtml.Text
