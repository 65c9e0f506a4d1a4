import CardPress.Text.Printable

/-!
# Quoted texts

The form in which messages show a text: between quotes, with every character that does not show as
itself written as an escape.
-/

namespace CardPress
namespace Text

/-- The hexadecimal digits of a number, filled with zeros to a width. -/
def hex (width value : Nat) : List Char :=
  let digits := Nat.toDigits 16 value
  List.replicate (width - digits.length) '0' ++ digits

/-- One character as it stands between the quotes `quote`. -/
def quoteChar (quote c : Char) : List Char :=
  if c = quote ∨ c = '\\' then ['\\', c]
  else if c = '\n' then ['\\', 'n']
  else if c = '\r' then ['\\', 'r']
  else if c = '\t' then ['\\', 't']
  else if isPrintable c then [c]
  else if c.toNat < 0x100 then '\\' :: 'x' :: hex 2 c.toNat
  else if c.toNat < 0x10000 then '\\' :: 'u' :: hex 4 c.toNat
  else '\\' :: 'U' :: hex 8 c.toNat

/-- Single quotes, unless the text holds a single quote and no double quote. -/
def quoteFor (chars : List Char) : Char :=
  if chars.contains '\'' && !chars.contains '"' then '"' else '\''

/-- A text between quotes. -/
def quoted (text : String) : String :=
  let chars := text.toList
  let quote := quoteFor chars
  String.ofList (quote :: chars.flatMap (quoteChar quote) ++ [quote])

end Text
end CardPress
