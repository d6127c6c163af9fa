import TemplateAtlas.Text.Printable

/-!
# Quoted names

Messages show a name between quotes, so that blanks and quotes inside it can be seen.

* `quoteFor` — the quote in use: the single quote, unless the name holds a single quote and no
  double quote.
* `quoted` — the name between its quotes, with the quote in use and the backslash escaped, the
  three usual controls spelled `\n`, `\r`, `\t`, and every other unprintable character spelled by
  its code point in two, four or eight hexadecimal digits.
-/

namespace TemplateAtlas.Text

/-- The hexadecimal digits of a number, at least `width` of them. -/
def hexDigits (width n : Nat) : List Char :=
  let digits := Nat.toDigits 16 n
  List.replicate (width - digits.length) '0' ++ digits

/-- A single quote, unless the name holds one and no double quote. -/
def quoteFor (name : List Char) : Char :=
  if name.contains '\'' && !name.contains '"' then '"' else '\''

/-- One character between the given quotes. -/
def quoteChar (quote c : Char) : List Char :=
  if c = quote || c = '\\' then ['\\', c]
  else if c = '\n' then ['\\', 'n']
  else if c = '\r' then ['\\', 'r']
  else if c = '\t' then ['\\', 't']
  else if isPrintable c then [c]
  else if c.toNat < 0x100 then '\\' :: 'x' :: hexDigits 2 c.toNat
  else if c.toNat < 0x10000 then '\\' :: 'u' :: hexDigits 4 c.toNat
  else '\\' :: 'U' :: hexDigits 8 c.toNat

/-- The name between quotes. -/
def quoted (name : String) : String :=
  let quote := quoteFor name.toList
  String.ofList (quote :: name.toList.flatMap (quoteChar quote) ++ [quote])

end TemplateAtlas.Text
