import TemplateAtlas.Text.Codes
import TemplateAtlas.Text.Quoted
import TemplateAtlas.Text.Word
import TemplateAtlas.Value

/-!
# JSON

Values as text, one line for each.

* `JsonText.render` — the line of a value.  The fields of tables are sorted by name, items are separated
  by a comma and a blank, names and values by a colon and a blank, and everything beyond printable
  ASCII is escaped, by a pair of surrogates where one escape is not enough.
* `JsonText.parse` — the value of a text.  The grammar is strict: no trailing commas, no leading zeros,
  no control characters inside strings.  If a name occurs twice in a table, the last value counts.
  The words `NaN`, `Infinity` and `-Infinity` are read as numbers.  Strings are read as code points, since
  half a pair of surrogates may be escaped without the other half.

Values are read at most as many levels deep as there is room for on the stack, which is given, and whole
numbers have at most `maxDigits` digits; a text that exceeds a limit is refused for that, even if it goes
wrong later.
-/

namespace TemplateAtlas.JsonText

open Text

/-- Why a text is no value. -/
inductive Fault where
  | malformed
  | tooDeep
  | tooManyDigits (count : Nat)
  deriving DecidableEq, Repr

/-! ## Writing -/

/-- An escape by one sixteen-bit unit. -/
def escapeUnit (unit : Nat) : List Char := '\\' :: 'u' :: hexDigits 4 unit

/-- A character inside a string. -/
def escapeChar (c : Char) : List Char :=
  if c = '"' then ['\\', '"']
  else if c = '\\' then ['\\', '\\']
  else if c = '\n' then ['\\', 'n']
  else if c = '\r' then ['\\', 'r']
  else if c = '\t' then ['\\', 't']
  else if c = '\x08' then ['\\', 'b']
  else if c = '\x0c' then ['\\', 'f']
  else if 0x20 ≤ c.toNat && c.toNat < 0x7F then [c]
  else if c.toNat < 0x10000 then escapeUnit c.toNat
  else
    let offset := c.toNat - 0x10000
    escapeUnit (0xD800 + offset / 0x400) ++ escapeUnit (0xDC00 + offset % 0x400)

/-- A string between its quotes. -/
def renderString (s : String) : List Char := '"' :: s.toList.flatMap escapeChar ++ ['"']

/-- A whole number in decimal digits. -/
def renderInt : Int → List Char
  | .ofNat n => Nat.toDigits 10 n
  | .negSucc n => '-' :: Nat.toDigits 10 (n + 1)

/-- A number in double precision as an exact decimal. -/
def renderReal (number : Dyadic) : List Char :=
  let (digits, places) := number.toDecimal
  let minus := if number.negative then ['-'] else []
  minus ++ Nat.toDigits 10 digits ++ 'e' :: renderInt (-places)

/-- Pieces with a comma and a blank between them. -/
def separated (pieces : List (List Char)) : List Char := [',', ' '].intercalate pieces

/-- Sorted fields and one more, before the first whose name is not smaller. -/
def insertField (field : String × List Char) : List (String × List Char) → List (String × List Char)
  | [] => [field]
  | other :: fields =>
    if field.1 ≤ other.1 then field :: other :: fields else other :: insertField field fields

/-- Fields sorted by name. -/
def sortedFields (fields : List (String × List Char)) : List (String × List Char) :=
  fields.foldr insertField []

/-- A field of a table. -/
def renderField (field : String × List Char) : List Char :=
  renderString field.1 ++ ':' :: ' ' :: field.2

mutual

/-- The line of a value. -/
def render : Value → List Char
  | .null => "null".toList
  | .bool true => "true".toList
  | .bool false => "false".toList
  | .int n => renderInt n
  | .real number => renderReal number
  | .symbol spelling => spelling.toList
  | .text s => renderString s
  | .list items => '[' :: separated (renderItems items) ++ [']']
  | .table fields =>
    '\x7b' :: separated ((sortedFields (renderFields fields)).map renderField) ++ ['\x7d']

/-- The lines of the items of a list. -/
def renderItems : List Value → List (List Char)
  | [] => []
  | item :: items => render item :: renderItems items

/-- The fields of a table with the lines of their values. -/
def renderFields : List (String × Value) → List (String × List Char)
  | [] => []
  | (name, value) :: fields => (name, render value) :: renderFields fields

end

/-! ## Reading -/

/-- The most digits of a whole number that is read. -/
def maxDigits : Nat := 4300

/-- Something read from the front of a text, and the rest. -/
abbrev Read (α : Type) := Except Fault (α × List Char)

/-- A blank between the parts of a value. -/
def isSpace (c : Char) : Bool := c = ' ' || c = '\t' || c = '\n' || c = '\r'

/-- The text after its blanks. -/
def skipSpace (s : List Char) : List Char := s.dropWhile isSpace

/-- The value of a hexadecimal digit. -/
def hexDigit? (c : Char) : Option Nat :=
  if isAsciiDigit c then some (c.toNat - '0'.toNat)
  else if 'a' ≤ c && c ≤ 'f' then some (c.toNat - 'a'.toNat + 10)
  else if 'A' ≤ c && c ≤ 'F' then some (c.toNat - 'A'.toNat + 10)
  else none

/-- The sixteen-bit unit written by four hexadecimal digits. -/
def unit? (a b c d : Char) : Option Nat :=
  match hexDigit? a, hexDigit? b, hexDigit? c, hexDigit? d with
  | some a, some b, some c, some d => some (((a * 16 + b) * 16 + c) * 16 + d)
  | _, _, _, _ => none

/-- The unit is the first of a pair of surrogates. -/
def isHighSurrogate (unit : Nat) : Bool := 0xD800 ≤ unit && unit < 0xDC00

/-- The unit is the second of a pair of surrogates. -/
def isLowSurrogate (unit : Nat) : Bool := 0xDC00 ≤ unit && unit < 0xE000

/-- The code point of a pair of surrogates. -/
def codeOfPair (high low : Nat) : Nat := 0x10000 + (high - 0xD800) * 0x400 + (low - 0xDC00)

/-- The character of a short escape. -/
def shortEscape? (c : Char) : Option Char :=
  if c = '"' || c = '\\' || c = '/' then some c
  else if c = 'n' then some '\n'
  else if c = 'r' then some '\r'
  else if c = 't' then some '\t'
  else if c = 'b' then some '\x08'
  else if c = 'f' then some '\x0c'
  else none

/-- The unit escaped at the front of a text, and the rest. -/
def escapedUnit? : List Char → Option (Nat × List Char)
  | '\\' :: 'u' :: a :: b :: c :: d :: rest => (unit? a b c d).map (·, rest)
  | _ => none

/-- One code point of a string at the front of a text that is not its end, and the rest.  A unit that is no
surrogate, or one without its partner, stands for itself. -/
def readCode? (s : List Char) : Option (Nat × List Char) :=
  match s with
  | [] => none
  | '\\' :: 'u' :: _ =>
    match escapedUnit? s with
    | none => none
    | some (unit, rest) =>
      if isHighSurrogate unit then
        match escapedUnit? rest with
        | some (low, after) =>
          if isLowSurrogate low then some (codeOfPair unit low, after)
          else some (unit, rest)
        | none => some (unit, rest)
      else some (unit, rest)
  | '\\' :: c :: rest => (shortEscape? c).map fun short => (short.toNat, rest)
  | c :: rest => if c = '\\' || c.toNat < 0x20 then none else some (c.toNat, rest)

/-- The text up to the closing quote of a string, and the rest; a quote after a backslash is no
closing quote. -/
def splitString? : List Char → Option (List Char × List Char)
  | [] => none
  | '"' :: rest => some ([], rest)
  | '\\' :: c :: rest => (splitString? rest).map fun (body, rest) => ('\\' :: c :: body, rest)
  | c :: rest => (splitString? rest).map fun (body, rest) => (c :: body, rest)

/-- The code points that the body of a string stands for; `fuel` bounds their number. -/
def decodeBody? : Nat → List Char → Option (List Nat)
  | _, [] => some []
  | 0, _ => none
  | fuel + 1, s => do
    let (code, rest) ← readCode? s
    let others ← decodeBody? fuel rest
    return code :: others

/-- A string whose opening quote has been read. -/
def readString (s : List Char) : Read Codes :=
  match splitString? s with
  | none => .error .malformed
  | some (body, rest) =>
    match decodeBody? body.length body with
    | none => .error .malformed
    | some points => .ok (⟨points⟩, rest)

/-- The number that decimal digits stand for. -/
def ofDigits (digits : List Char) : Nat :=
  digits.foldl (fun n c => n * 10 + (c.toNat - '0'.toNat)) 0

/-- The decimal digits at the front of a text, and the rest. -/
def digits (s : List Char) : List Char × List Char :=
  (s.takeWhile isAsciiDigit, s.dropWhile isAsciiDigit)

/-- The digits of a whole number, without leading zeros. -/
def wholeDigits (s : List Char) : List Char × List Char :=
  match s with
  | '0' :: rest => (['0'], rest)
  | _ => digits s

/-- The digits after a point, if digits follow one. -/
def fraction (s : List Char) : List Char × List Char :=
  match s with
  | '.' :: rest => if (digits rest).1.isEmpty then ([], s) else digits rest
  | _ => ([], s)

/-- The sign in front of a text: whether it is a minus, and the rest. -/
def sign (s : List Char) : Bool × List Char :=
  match s with
  | '-' :: rest => (true, rest)
  | '+' :: rest => (false, rest)
  | _ => (false, s)

/-- A number with the sign that was read. -/
def signed (negative : Bool) (n : Nat) : Int := if negative then -(n : Int) else n

/-- The power of ten after a number, if there is one. -/
def exponent? (s : List Char) : Option (Int × List Char) :=
  match s with
  | c :: rest =>
    if c = 'e' || c = 'E' then
      let (negative, rest) := sign rest
      let (ds, rest) := digits rest
      if ds.isEmpty then none else some (signed negative (ofDigits ds), rest)
    else none
  | [] => none

section

variable {τ : Type}

/-- A whole number given by its sign and digits. -/
def wholeNumber (negative : Bool) (digits : List Char) : Except Fault (Value τ) :=
  if maxDigits < digits.length then .error (.tooManyDigits digits.length)
  else .ok (.int (signed negative (ofDigits digits)))

/-- A number. -/
def readNumber (s : List Char) : Read (Value τ) :=
  let (negative, rest) : Bool × List Char :=
    match s with
    | '-' :: rest => (true, rest)
    | _ => (false, s)
  let (whole, rest) := wholeDigits rest
  if whole.isEmpty then .error .malformed
  else
    let (part, rest) := fraction rest
    match exponent? rest with
    | some (power, rest) =>
      .ok (.ofDecimal negative (ofDigits (whole ++ part)) (power - part.length), rest)
    | none =>
      if part.isEmpty then (wholeNumber negative whole).map (·, rest)
      else .ok (.ofDecimal negative (ofDigits (whole ++ part)) (-part.length), rest)

/-- A word that stands for a value. -/
def readWord (word : String) (value : Value τ) (s : List Char) : Read (Value τ) :=
  if word.toList.isPrefixOf s then .ok (value, s.drop word.length) else .error .malformed

end

/-- The items of a list up to its closing bracket; `fuel` bounds their number. -/
def readItems (item : List Char → Read (Value Codes)) : Nat → List Char → Read (List (Value Codes))
  | 0, _ => .error .malformed
  | fuel + 1, s =>
    match item (skipSpace s) with
    | .error fault => .error fault
    | .ok (value, rest) =>
      match skipSpace rest with
      | ',' :: rest =>
        match readItems item fuel rest with
        | .error fault => .error fault
        | .ok (values, rest) => .ok (value :: values, rest)
      | ']' :: rest => .ok ([value], rest)
      | _ => .error .malformed

/-- The name of a field at the front of a text, up to the blanks after its colon. -/
def readName (s : List Char) : Read Codes :=
  match skipSpace s with
  | '"' :: s =>
    match readString s with
    | .error fault => .error fault
    | .ok (name, rest) =>
      match skipSpace rest with
      | ':' :: rest => .ok (name, skipSpace rest)
      | _ => .error .malformed
  | _ => .error .malformed

/-- The fields of a table up to its closing brace; `fuel` bounds their number. -/
def readFields (item : List Char → Read (Value Codes)) :
    Nat → List Char → Read (List (Codes × Value Codes))
  | 0, _ => .error .malformed
  | fuel + 1, s =>
    match readName s with
    | .error fault => .error fault
    | .ok (name, rest) =>
      match item rest with
      | .error fault => .error fault
      | .ok (value, rest) =>
        match skipSpace rest with
        | ',' :: rest =>
          match readFields item fuel rest with
          | .error fault => .error fault
          | .ok (fields, rest) => .ok ((name, value) :: fields, rest)
        | '\x7d' :: rest => .ok ([(name, value)], rest)
        | _ => .error .malformed

/-- Fields in order of first occurrence, each with its last value. -/
def lastFields (fields : List (Codes × Value Codes)) : List (Codes × Value Codes) :=
  fields.foldl (fun table (name, value) => Value.setField name value table) []

/-- A value, nested at most the given number of levels deep, in a text of at most `size` characters,
which bounds the number of its items and fields. -/
def readValue (size : Nat) : Nat → List Char → Read (Value Codes)
  | depth, '[' :: s =>
    match depth with
    | 0 => .error .tooDeep
    | depth + 1 =>
      match skipSpace s with
      | ']' :: rest => .ok (.list [], rest)
      | _ => (readItems (readValue size depth) size s).map fun (items, rest) => (.list items, rest)
  | depth, '\x7b' :: s =>
    match depth with
    | 0 => .error .tooDeep
    | depth + 1 =>
      match skipSpace s with
      | '\x7d' :: rest => .ok (.table [], rest)
      | _ => (readFields (readValue size depth) size s).map fun (fields, rest) =>
          (.table (lastFields fields), rest)
  | _, '"' :: s => (readString s).map fun (text, rest) => (.text text, rest)
  | _, 'n' :: s => readWord "null" .null ('n' :: s)
  | _, 't' :: s => readWord "true" (.bool true) ('t' :: s)
  | _, 'f' :: s => readWord "false" (.bool false) ('f' :: s)
  | _, 'N' :: s => readWord "NaN" (.symbol "NaN") ('N' :: s)
  | _, 'I' :: s => readWord "Infinity" (.symbol "Infinity") ('I' :: s)
  | _, '-' :: 'I' :: s => readWord "-Infinity" (.symbol "-Infinity") ('-' :: 'I' :: s)
  | _, s => readNumber s

/-- The value that the whole text stands for, with room for so many levels. -/
def parse (levels : Nat) (s : List Char) : Except Fault (Value Codes) :=
  match readValue s.length levels (skipSpace s) with
  | .error fault => .error fault
  | .ok (value, rest) => if (skipSpace rest).isEmpty then .ok value else .error .malformed

end TemplateAtlas.JsonText
