import TemplateAtlas.JsonText
import TemplateAtlas.Value

/-!
# TOML

Settings files are written in TOML: lines that set a key to a value, under headings that name the table
the keys belong to.

* **Values** (`readValue`) are strings in four forms, whole numbers in four bases, decimals, dates and
  times, booleans, lists and inline tables.
* **Keys** (`readKey`) are words or quoted strings, with points between the names of nested tables.
* **Tables** (`Document`) may be extended under later headings, with three restrictions: a table has at most one
  heading of its own, a table made by a dotted key is closed to headings and to dotted keys of other
  tables, and a list or an inline table cannot be changed after the line that made it.  A heading in
  double brackets adds a table to a list of tables.

`TomlText.parse` gives the table that a whole text stands for.  It is given the weight of the deepest nesting for which
there is room on the stack.
-/

namespace TemplateAtlas.TomlText

open Text JsonText

/-- The fields of a table. -/
abbrev Fields := List (String × Value)

/-- The names that lead to a field through nested tables. -/
abbrev Key := List String

/-! ## Characters -/

/-- A blank within a line. -/
def isBlankInLine (c : Char) : Bool := c = ' ' || c = '\t'

/-- A blank between the items of a list. -/
def isBlankInList (c : Char) : Bool := isBlankInLine c || c = '\n'

/-- The text after the blanks of its line. -/
def skipBlanks (s : List Char) : List Char := s.dropWhile isBlankInLine

/-- A control character, which may not stand in strings and comments. -/
def isControl (c : Char) : Bool := (c.toNat < 0x20 && c ≠ '\t') || c = '\x7f'

/-- A control character other than a line feed. -/
def isControlInLines (c : Char) : Bool := isControl c && c ≠ '\n'

/-- A character of a key without quotes. -/
def isBareChar (c : Char) : Bool := isAsciiLetter c || isAsciiDigit c || c = '-' || c = '_'

/-- The text after a comment, if one stands in front. -/
def skipComment (s : List Char) : Except Fault (List Char) :=
  match s with
  | '#' :: rest =>
    let comment := rest.takeWhile (· ≠ '\n')
    if comment.any isControl then .error .malformed else .ok (rest.drop comment.length)
  | _ => .ok s

/-- The text after the blanks and comments between the items of a list; `fuel` bounds the number of
comments. -/
def skipListBlanks : Nat → List Char → Except Fault (List Char)
  | 0, s => .ok s
  | fuel + 1, s =>
    match s.dropWhile isBlankInList with
    | '#' :: rest =>
      match skipComment ('#' :: rest) with
      | .error fault => .error fault
      | .ok rest => skipListBlanks fuel rest
    | rest => .ok rest

/-! ## Strings -/

/-- The code point written by hexadecimal digits, if it is one. -/
def codePoint? (digits : List Char) : Option Char :=
  match digits.mapM hexDigit? with
  | none => none
  | some values =>
    let code := values.foldl (fun n d => n * 16 + d) 0
    if code < 0xD800 || (0xE000 ≤ code && code < 0x110000) then some (Char.ofNat code) else none

/-- The character escaped by a letter that stands for one. -/
def letterEscape? (c : Char) : Option Char := if c = '/' then none else shortEscape? c

/-- The characters of an escape whose backslash has been read, and the rest. -/
def readEscape (lines : Bool) (s : List Char) : Option (List Char × List Char) :=
  match s with
  | [] => none
  | c :: rest =>
    if lines && isBlankInList c then
      match s.dropWhile isBlankInLine with
      | [] => some ([], [])
      | '\n' :: rest => some ([], rest.dropWhile isBlankInList)
      | _ => none
    else if c = 'u' || c = 'U' then
      let width := if c = 'u' then 4 else 8
      if rest.length < width then none
      else (codePoint? (rest.take width)).map fun d => ([d], rest.drop width)
    else (letterEscape? c).map fun d => ([d], rest)

/-- The characters of a string up to its closing quotes, one of them or, if the string may run over
several `lines`, three; `fuel` bounds their number. -/
def readBasicBody (lines : Bool) : Nat → List Char → Option (List Char × List Char)
  | 0, _ => none
  | fuel + 1, s =>
    let go (front rest : List Char) : Option (List Char × List Char) :=
      (readBasicBody lines fuel rest).map fun (cs, rest) => (front ++ cs, rest)
    match s with
    | [] => none
    | '"' :: rest =>
      if !lines then some ([], rest)
      else if ['"', '"'].isPrefixOf rest then some ([], rest.drop 2)
      else go ['"'] rest
    | '\\' :: rest => (readEscape lines rest).bind fun (front, rest) => go front rest
    | c :: rest =>
      if isControl c && !(lines && c = '\n') then none else go [c] rest

/-- At most two quotes right after the closing ones belong to the string. -/
def extraQuotes (quote : Char) (s : List Char) : List Char × List Char :=
  let extra := min 2 (s.takeWhile (· = quote)).length
  (s.take extra, s.drop extra)

/-- A line feed right after the opening quotes does not belong to the string. -/
def dropFirstLineFeed : List Char → List Char
  | '\n' :: rest => rest
  | s => s

/-- The characters before three closing quotes, and the rest. -/
def beforeTripleQuote? (quote : Char) : List Char → Option (List Char × List Char)
  | [] => none
  | c :: rest =>
    if c = quote && [quote, quote].isPrefixOf rest then some ([], rest.drop 2)
    else if isControlInLines c then none
    else (beforeTripleQuote? quote rest).map fun (cs, rest) => (c :: cs, rest)

/-- A string over several lines whose opening quotes have been read. -/
def readLongString (quote : Char) (s : List Char) : Option (List Char × List Char) :=
  let s := dropFirstLineFeed s
  let body := if quote = '"' then readBasicBody true (s.length + 1) s else beforeTripleQuote? quote s
  body.map fun (cs, rest) =>
    let (extra, rest) := extraQuotes quote rest
    (cs ++ extra, rest)

/-- A string within a line whose opening quote has been read. -/
def readShortString (quote : Char) (s : List Char) : Option (List Char × List Char) :=
  if quote = '"' then readBasicBody false (s.length + 1) s
  else
    let body := s.takeWhile (· ≠ quote)
    if body.any isControl then none
    else
      match s.drop body.length with
      | [] => none
      | _ :: rest => some (body, rest)

/-- A string whose first quote has been read. -/
def readQuoted (quote : Char) (s : List Char) : Option (List Char × List Char) :=
  if [quote, quote].isPrefixOf s then readLongString quote (s.drop 2) else readShortString quote s

/-! ## Numbers and moments -/

/-- Digits after a first one, with single underscores between them, and the rest. -/
def moreDigits (isDigit : Char → Bool) : List Char → List Char × List Char
  | [] => ([], [])
  | c :: rest =>
    if isDigit c then
      let (ds, rest) := moreDigits isDigit rest
      (c :: ds, rest)
    else if c = '_' then
      match rest with
      | d :: rest =>
        if isDigit d then
          let (ds, rest) := moreDigits isDigit rest
          (d :: ds, rest)
        else ([], c :: d :: rest)
      | [] => ([], [c])
    else ([], c :: rest)

/-- Digits with single underscores between them, at least one of them. -/
def readDigits? (isDigit : Char → Bool) (s : List Char) : Option (List Char × List Char) :=
  match s with
  | c :: _ => if isDigit c then some (moreDigits isDigit s) else none
  | [] => none

/-- The number that digits stand for in a base. -/
def ofBase (base : Nat) (digits : List Char) : Nat :=
  digits.foldl (fun n c => n * base + (hexDigit? c).getD 0) 0

/-- The base that a letter after a zero stands for. -/
def base? (c : Char) : Option Nat :=
  if c = 'x' then some 16 else if c = 'o' then some 8 else if c = 'b' then some 2 else none

/-- A digit of a base. -/
def isBaseDigit (base : Nat) (c : Char) : Bool := (hexDigit? c).any (· < base)

/-- A whole number in a base other than ten. -/
def readBased? (s : List Char) : Option (Value × List Char) :=
  match s with
  | '0' :: c :: rest => do
    let base ← base? c
    let (ds, rest) ← readDigits? (isBaseDigit base) rest
    some (.int (ofBase base ds), rest)
  | _ => none

/-- The digits after a point, if there are any. -/
def readFraction (s : List Char) : List Char × List Char :=
  match s with
  | '.' :: rest => (readDigits? isAsciiDigit rest).getD ([], s)
  | _ => ([], s)

/-- The power of ten, if there is one. -/
def readPower? (s : List Char) : Option (Int × List Char) :=
  match s with
  | c :: rest =>
    if c = 'e' || c = 'E' then
      let (negative, rest) := sign rest
      (readDigits? isAsciiDigit rest).map fun (ds, rest) => (signed negative (ofDigits ds), rest)
    else none
  | [] => none

/-- A whole number or a decimal, without leading zeros. -/
def readDecimal? (s : List Char) : Option (Read Value) := do
  let (negative, rest) := sign s
  let (whole, rest) ← match rest with
    | '0' :: rest => some (['0'], rest)
    | _ => readDigits? isAsciiDigit rest
  let (part, rest) := readFraction rest
  let number := ofDigits (whole ++ part)
  match readPower? rest with
  | some (power, rest) => some (.ok (.ofDecimal negative number (power - part.length), rest))
  | none =>
    if part.isEmpty then some ((wholeNumber negative whole).map (·, rest))
    else some (.ok (.ofDecimal negative number (-part.length), rest))

/-- The numbers that are no decimals. -/
def readSpecial? (s : List Char) : Option (Value × List Char) :=
  ["inf", "nan", "+inf", "-inf", "+nan", "-nan"].findSome? fun word =>
    if word.toList.isPrefixOf s then some (.symbol word, s.drop word.length) else none

/-- A number of a fixed count of digits, between two bounds. -/
def readFixed? (width low high : Nat) (s : List Char) : Option (Nat × List Char) :=
  let ds := s.take width
  let n := ofDigits ds
  if ds.length = width && ds.all isAsciiDigit && low ≤ n && n ≤ high then some (n, s.drop width)
  else none

/-- The text after a character that has to stand in front. -/
def expect? (c : Char) (s : List Char) : Option (List Char) :=
  if s.head? = some c then some s.tail else none

/-- The number of days of a month. -/
def daysIn (year month : Nat) : Nat :=
  if month = 2 then
    if year % 4 = 0 && (year % 100 ≠ 0 || year % 400 = 0) then 29 else 28
  else if month = 4 || month = 6 || month = 9 || month = 11 then 30
  else 31

/-- The text after a time of day. -/
def skipTime? (s : List Char) : Option (List Char) := do
  let (_, s) ← readFixed? 2 0 23 s
  let (_, s) ← readFixed? 2 0 59 (← expect? ':' s)
  let (_, s) ← readFixed? 2 0 59 (← expect? ':' s)
  some (fraction s).2

/-- The text after the offset from universal time, if there is one. -/
def skipOffset (s : List Char) : List Char :=
  match s with
  | c :: rest =>
    if c = 'Z' || c = 'z' then rest
    else if c = '+' || c = '-' then
      (do
        let (_, rest) ← readFixed? 2 0 23 rest
        let (_, rest) ← readFixed? 2 0 59 (← expect? ':' rest)
        some rest).getD s
    else s
  | [] => s

/-- The text after the time that may follow a date. -/
def skipTimeOfDate (s : List Char) : List Char :=
  match s with
  | c :: rest =>
    if c = 'T' || c = 't' || c = ' ' then ((skipTime? rest).map skipOffset).getD s else s
  | [] => s

/-- The text after a date, with whether there is such a date. -/
def skipDate? (s : List Char) : Option (Bool × List Char) := do
  let (year, s) ← readFixed? 4 0 9999 s
  let (month, s) ← readFixed? 2 1 12 (← expect? '-' s)
  let (day, s) ← readFixed? 2 1 31 (← expect? '-' s)
  some (1 ≤ year && day ≤ daysIn year month, s)

/-- The first part of a text, up to a rest of it, as a value kept by its spelling. -/
def spelledUpTo (s rest : List Char) : Value × List Char :=
  (.symbol (String.ofList (s.take (s.length - rest.length))), rest)

/-- A value that is no string, list or table. -/
def readScalar (s : List Char) : Read Value :=
  if "true".toList.isPrefixOf s then .ok (.bool true, s.drop 4)
  else if "false".toList.isPrefixOf s then .ok (.bool false, s.drop 5)
  else
    match skipDate? s with
    | some (true, rest) => .ok (spelledUpTo s (skipTimeOfDate rest))
    | some (false, _) => .error .malformed
    | none =>
      match skipTime? s with
      | some rest => .ok (spelledUpTo s rest)
      | none =>
        match readBased? s, readDecimal? s, readSpecial? s with
        | some found, _, _ => .ok found
        | none, some found, _ => found
        | none, none, some found => .ok found
        | none, none, none => .error .malformed

/-! ## Keys -/

/-- One name of a key. -/
def readName (s : List Char) : Option (String × List Char) :=
  match s with
  | [] => none
  | c :: rest =>
    if isBareChar c then some (String.ofList (s.takeWhile isBareChar), s.dropWhile isBareChar)
    else if c = '"' || c = '\'' then
      (readShortString c rest).map fun (cs, rest) => (String.ofList cs, rest)
    else none

/-- A key: names with points between them; `fuel` bounds their number. -/
def readKey : Nat → List Char → Option (Key × List Char)
  | 0, _ => none
  | fuel + 1, s =>
    match readName s with
    | none => none
    | some (name, rest) =>
      match skipBlanks rest with
      | '.' :: rest => (readKey fuel (skipBlanks rest)).map fun (names, rest) => (name :: names, rest)
      | rest => some ([name], rest)

/-! ## Nested tables -/

/-- Changes the table that a key leads to, and makes the tables on the way that do not exist.  The last
table of a list of tables is entered only if `lists` says so. -/
def updateNest (lists : Bool) (change : Fields → Option Fields) : Key → Fields → Option Fields
  | [], fields => change fields
  | name :: names, fields =>
    match fields.lookup name with
    | none =>
      (updateNest lists change names []).map fun inner => Value.setField name (.table inner) fields
    | some (.table inner) =>
      (updateNest lists change names inner).map fun inner =>
        Value.setField name (.table inner) fields
    | some (.list items) =>
      match lists, items.getLast? with
      | true, some (.table inner) =>
        (updateNest lists change names inner).map fun inner =>
          Value.setField name (.list (items.dropLast ++ [.table inner])) fields
      | _, _ => none
    | some _ => none

/-- Sets a field that is not there yet. -/
def addField (name : String) (value : Value) (fields : Fields) : Option Fields :=
  if (fields.lookup name).isSome then none else some (fields ++ [(name, value)])

/-- Adds an empty table to a list of tables, which is made if it is not there. -/
def addTable (name : String) (fields : Fields) : Option Fields :=
  match fields.lookup name with
  | none => some (fields ++ [(name, .list [.table []])])
  | some (.list items) => some (Value.setField name (.list (items ++ [.table []])) fields)
  | some _ => none

/-- The key lies in or below one of some keys. -/
def isBelow (keys : List Key) (key : Key) : Bool := keys.any (·.isPrefixOf key)

/-- The value is a list or a table. -/
def isContainer : Value → Bool
  | .list _ => true
  | .table _ => true
  | _ => false

/-! ## Values -/

/-- A key, an equals sign and a value. -/
def readPair (item : List Char → Read Value) (s : List Char) : Read (Key × Value) :=
  match readKey (s.length + 1) s with
  | some (key, '=' :: rest) =>
    match item (skipBlanks rest) with
    | .error fault => .error fault
    | .ok (value, rest) => .ok ((key, value), rest)
  | _ => .error .malformed

/-- The items of a list up to its closing bracket; `fuel` bounds their number. -/
def readItems (item : List Char → Read Value) : Nat → List Char → Read (List Value)
  | 0, _ => .error .malformed
  | fuel + 1, s =>
    match skipListBlanks (s.length + 1) s with
    | .error fault => .error fault
    | .ok (']' :: rest) => .ok ([], rest)
    | .ok s =>
      match item s with
      | .error fault => .error fault
      | .ok (value, rest) =>
        match skipListBlanks (rest.length + 1) rest with
        | .ok (']' :: rest) => .ok ([value], rest)
        | .ok (',' :: rest) =>
          match readItems item fuel rest with
          | .error fault => .error fault
          | .ok (values, rest) => .ok (value :: values, rest)
        | .ok _ => .error .malformed
        | .error fault => .error fault

/-- The fields of an inline table up to its closing brace, added to those read so far; `fuel` bounds
their number, and `frozen` are the keys that cannot be extended. -/
def readInline (item : List Char → Read Value) :
    Nat → Fields → List Key → List Char → Read Fields
  | 0, _, _, _ => .error .malformed
  | fuel + 1, fields, frozen, s =>
    match readPair item s with
    | .error fault => .error fault
    | .ok ((key, value), rest) =>
      let added := updateNest false (addField (key.getLast?.getD "") value) key.dropLast fields
      match added, isBelow frozen key with
      | some fields, false =>
        match skipBlanks rest with
        | '\x7d' :: rest => .ok (fields, rest)
        | ',' :: rest =>
          let frozen := if isContainer value then key :: frozen else frozen
          readInline item fuel fields frozen (skipBlanks rest)
        | _ => .error .malformed
      | _, _ => .error .malformed

/-- A value, nested only so deep that the lists and tables around each other have at most the given
weight, where a list weighs two and a table three. -/
def readValue : Nat → List Char → Read Value
  | weight, '[' :: s =>
    match weight with
    | weight + 2 => (readItems (readValue weight) (s.length + 1) s).map fun (items, rest) =>
        (.list items, rest)
    | _ => .error .tooDeep
  | weight, '\x7b' :: s =>
    match weight with
    | weight + 3 =>
      match skipBlanks s with
      | '\x7d' :: rest => .ok (.table [], rest)
      | s => (readInline (readValue weight) (s.length + 1) [] [] s).map fun (fields, rest) =>
          (.table fields, rest)
    | _ => .error .tooDeep
  | _, s =>
    match s with
    | c :: rest =>
      if c = '"' || c = '\'' then
        match readQuoted c rest with
        | some (cs, rest) => .ok (.text (String.ofList cs), rest)
        | none => .error .malformed
      else readScalar s
    | [] => .error .malformed

/-! ## Documents -/

/-- What has been read of a text: the fields, the heading in force, the keys that had a heading or are
closed to headings, the keys that will be closed at the next heading, and the keys that cannot be
changed any more. -/
structure Document where
  fields : Fields := []
  heading : Key := []
  headed : List Key := []
  pending : List Key := []
  frozen : List Key := []

namespace Document

/-- The keys of the tables that a dotted key passes through. -/
def passedKeys (heading key : Key) : List Key :=
  (List.range (key.length - 1)).map fun i => heading ++ key.take (i + 1)

/-- Sets a key to a value under the heading in force. -/
def set (document : Document) (key : Key) (value : Value) : Option Document :=
  let passed := passedKeys document.heading key
  let owner := document.heading ++ key.dropLast
  if passed.any document.headed.contains || isBelow document.frozen owner then none
  else
    (updateNest true (addField (key.getLast?.getD "") value) owner document.fields).map
      fun fields =>
        { document with
          fields := fields
          pending := passed ++ document.pending
          frozen :=
            if isContainer value then (document.heading ++ key) :: document.frozen
            else document.frozen }

/-- Closes the keys that were waiting for the next heading. -/
def closePending (document : Document) : Document :=
  { document with headed := document.pending ++ document.headed, pending := [] }

/-- Starts a table under a heading. -/
def startTable (document : Document) (key : Key) : Option Document :=
  if document.headed.contains key || isBelow document.frozen key then none
  else
    (updateNest true some key document.fields).map fun fields =>
      { document with fields := fields, heading := key, headed := key :: document.headed }

/-- Starts a further table of a list of tables. -/
def startItem (document : Document) (key : Key) : Option Document :=
  if isBelow document.frozen key then none
  else
    (updateNest true (addTable (key.getLast?.getD "")) key.dropLast document.fields).map
      fun fields =>
        let others := document.headed.filter fun other => !key.isPrefixOf other
        { document with
          fields := fields
          heading := key
          headed := key :: others
          frozen := document.frozen.filter fun other => !key.isPrefixOf other }

/-- Reads a heading whose brackets end with the given text. -/
def readHeading (start : Document → Key → Option Document) (closing : List Char)
    (document : Document) (s : List Char) : Except Fault (Document × List Char) :=
  let s := skipBlanks s
  match readKey (s.length + 1) s with
  | none => .error .malformed
  | some (key, rest) =>
    match start document.closePending key with
    | some document =>
      if closing.isPrefixOf rest then .ok (document, rest.drop closing.length)
      else .error .malformed
    | none => .error .malformed

/-- Reads the statement at the front of a line that is not empty. -/
def readStatement (weight : Nat) (document : Document) (s : List Char) :
    Except Fault (Document × List Char) :=
  match s with
  | '#' :: _ => .ok (document, s)
  | '[' :: '[' :: rest => readHeading startItem [']', ']'] document rest
  | '[' :: rest => readHeading startTable [']'] document rest
  | _ =>
    match readPair (readValue weight) s with
    | .error fault => .error fault
    | .ok ((key, value), rest) =>
      match document.set key value with
      | some document => .ok (document, rest)
      | none => .error .malformed

/-- Reads statements to the end of a text; `fuel` bounds their number. -/
def readAll (weight : Nat) : Nat → Document → List Char → Except Fault Document
  | 0, document, _ => .ok document
  | fuel + 1, document, s =>
    match skipBlanks s with
    | [] => .ok document
    | '\n' :: rest => readAll weight fuel document rest
    | s =>
      match readStatement weight document s with
      | .error fault => .error fault
      | .ok (document, rest) =>
        match skipComment (skipBlanks rest) with
        | .error fault => .error fault
        | .ok [] => .ok document
        | .ok ('\n' :: rest) => readAll weight fuel document rest
        | .ok _ => .error .malformed

end Document

/-- A carriage return before a line feed is left out. -/
def joinLineBreaks : List Char → List Char
  | [] => []
  | '\r' :: '\n' :: s => '\n' :: joinLineBreaks s
  | c :: s => c :: joinLineBreaks s

/-- The fields of the table that a text stands for. -/
def parse (weight : Nat) (text : List Char) : Except Fault Fields :=
  let s := joinLineBreaks text
  (Document.readAll weight (s.length + 1) {} s).map (·.fields)

end TemplateAtlas.TomlText
