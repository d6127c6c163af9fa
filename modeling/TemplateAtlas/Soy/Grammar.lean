import TemplateAtlas.Text.Word
import TemplateAtlas.Token

/-!
# The grammar of Soy templates

Soy is read in four modes.  In each of them the character in front, and sometimes those after it,
decide three things: how far the next token reaches, what kind it is, and whether another mode
begins or the present one ends.

* **`root`** is ordinary text.  `/*` opens a comment, `//` runs to the end of the line when it stands
  at the start of the line or after a blank, `{literal}` opens a literal, any other brace opens a
  tag.  A brace and the command word after it are one keyword.
* **`tag`** is the inside of a command: quoted strings, variables, numbers, names and operators, up
  to a closing brace.
* **`comment`** lasts until `*/`, **`literal`** until `{/literal}`.

`Mode.cut?` says what comes next.  A token always takes the character in front, so reading makes progress
whatever the rules say; `Cut.extra` only counts the characters after it.
-/

namespace TemplateAtlas.Soy

open Text

/-- How the characters in front are to be read. -/
inductive Mode where
  | root
  | comment
  | literal
  | tag
  /-- A mode that the grammar has no rules for.  It can lie below others, but nothing can be read in
  it. -/
  | unknown (name : String)
  deriving DecidableEq, Repr

namespace Mode

/-- The name of a mode. -/
def name : Mode → String
  | root => "root"
  | comment => "comment"
  | literal => "literal"
  | tag => "tag"
  | unknown name => name

/-- The modes that have rules. -/
def known : List Mode := [root, comment, literal, tag]

/-- The mode with a given name. -/
def ofName (name : String) : Mode :=
  (known.find? (·.name = name)).getD (unknown name)

end Mode

/-- What a token does to the modes. -/
inductive Move where
  | stay
  | enter (mode : Mode)
  | leave
  deriving DecidableEq, Repr

/-- The next token: the number of characters it takes after the first, its kind, and its effect on
the modes. -/
structure Cut where
  extra : Nat
  kind : Kind
  move : Move
  deriving DecidableEq, Repr

/-- The number of characters at the front that belong to a class. -/
def runLength (p : Char → Bool) (cs : List Char) : Nat := (cs.takeWhile p).length

/-- A character of a dotted name. -/
def isDottedChar (c : Char) : Bool := isWordChar c || c == '.'

/-- A character that may start a name. -/
def isNameStart (c : Char) : Bool := isAsciiLetter c || c == '_'

/-- The length of a command word after its brace: an optional slash, an ASCII letter and word
characters. -/
def commandLength? : List Char → Option Nat
  | '/' :: c :: cs => if isAsciiLetter c then some (2 + runLength isWordChar cs) else none
  | c :: cs => if isAsciiLetter c then some (1 + runLength isWordChar cs) else none
  | [] => none

/-- The length of a quoted string after its opening quote, the closing quote included.  A backslash
hides the character after it, which may not be a line feed. -/
def quotedLength? (quote : Char) : List Char → Option Nat
  | '\\' :: c :: cs => if c = '\n' then none else (quotedLength? quote cs).map (· + 2)
  | c :: cs =>
    if c = quote then some 1
    else if c = '\\' then none
    else (quotedLength? quote cs).map (· + 1)
  | [] => none

/-- The length of a number after its first digit: more digits, and a point if digits follow it. -/
def numberLength (cs : List Char) : Nat :=
  let whole := runLength isDecimalDigit cs
  match cs.drop whole with
  | '.' :: rest =>
    let fraction := runLength isDecimalDigit rest
    if fraction = 0 then whole else whole + 1 + fraction
  | _ => whole

/-- A line comment starts at the start of the line or after a blank. -/
def mayStartLineComment (before : Option Char) : Bool :=
  before.all isBlank

/-- Ordinary text. -/
def rootCut (before : Option Char) (c : Char) (cs : List Char) : Cut :=
  if c = '/' then
    if cs.head? = some '*' then ⟨1, .comment, .enter .comment⟩
    else if cs.head? = some '/' && mayStartLineComment before then
      ⟨runLength (· ≠ '\n') cs, .comment, .stay⟩
    else ⟨0, .other, .stay⟩
  else if c = '{' then
    if "literal\x7d".toList.isPrefixOf cs then ⟨8, .keyword, .enter .literal⟩
    else
      match commandLength? cs with
      | some length => ⟨length, .keyword, .enter .tag⟩
      | none => ⟨0, .punctuation, .enter .tag⟩
  else if c = '\n' then ⟨0, .text, .stay⟩
  else ⟨runLength (fun d => d ≠ '{' && d ≠ '/' && d ≠ '\n') cs, .other, .stay⟩

/-- The inside of a comment. -/
def commentCut (c : Char) (cs : List Char) : Cut :=
  if c = '*' then
    if cs.head? = some '/' then ⟨1, .comment, .leave⟩ else ⟨0, .comment, .stay⟩
  else ⟨runLength (· ≠ '*') cs, .comment, .stay⟩

/-- The inside of a literal. -/
def literalCut (c : Char) (cs : List Char) : Cut :=
  if c = '{' then
    if "/literal\x7d".toList.isPrefixOf cs then ⟨9, .keyword, .leave⟩ else ⟨0, .string, .stay⟩
  else ⟨runLength (· ≠ '{') cs, .string, .stay⟩

/-- The inside of a tag, where the character in front is no brace, blank or quote. -/
def wordCut (c : Char) (cs : List Char) : Cut :=
  if c = '$' then
    let length := runLength isDottedChar cs
    if length = 0 then ⟨0, .other, .stay⟩ else ⟨length, .name, .stay⟩
  else if isDecimalDigit c then ⟨numberLength cs, .number, .stay⟩
  else if isNameStart c || (c == '.' && cs.head?.any isNameStart) then
    ⟨runLength isDottedChar cs, .name, .stay⟩
  else if isWordChar c then ⟨0, .other, .stay⟩
  else ⟨0, .operator, .stay⟩

/-- The inside of a tag. -/
def tagCut (c : Char) (cs : List Char) : Cut :=
  if c = '}' then ⟨0, .keyword, .leave⟩
  else if c = '/' && cs.head? = some '}' then ⟨1, .keyword, .leave⟩
  else if isBlank c then ⟨runLength isBlank cs, .text, .stay⟩
  else if c = '\'' || c = '"' then
    match quotedLength? c cs with
    | some length => ⟨length, .string, .stay⟩
    | none => ⟨0, .string, .stay⟩
  else wordCut c cs

/-- The next token in a mode, from the character before it on its line, the character in front and
those after it; `none` in a mode without rules. -/
def Mode.cut? (before : Option Char) (c : Char) (cs : List Char) : Mode → Option Cut
  | root => some (rootCut before c cs)
  | comment => some (commentCut c cs)
  | literal => some (literalCut c cs)
  | tag => some (tagCut c cs)
  | unknown _ => none

end TemplateAtlas.Soy
