import TemplateAtlas.Text.Blank

/-!
# Tokens of one line

A lexer cuts a line into tokens.  A token carries its text, its kind and the two columns between
which it claims to stand.  Lexers can be supplied from outside, so nothing is taken on trust: before
the tokens of a line are used they are checked against the line.

* `Kind` — the nine kinds, and a place for labels that are none of them.
* `Token.checkTiling` — accepts exactly the token lists that cover the line from left to right
  without gaps, and otherwise says what is wrong with the first token that does not fit.
* `TilingFault` — the ways in which a list of tokens can fail to cover its line.
-/

namespace TemplateAtlas

/-- What a token is, as far as the index is concerned. -/
inductive Kind where
  | keyword
  | comment
  | string
  | name
  | number
  | operator
  | punctuation
  | text
  | other
  /-- A label that is none of the nine kinds. -/
  | unrecognised (label : String)
  deriving DecidableEq, Repr

namespace Kind

/-- The label under which a kind is written. -/
def label : Kind → String
  | keyword => "keyword"
  | comment => "comment"
  | string => "string"
  | name => "name"
  | number => "number"
  | operator => "operator"
  | punctuation => "punctuation"
  | text => "text"
  | other => "other"
  | unrecognised label => label

/-- The nine kinds. -/
def known : List Kind :=
  [keyword, comment, string, name, number, operator, punctuation, text, other]

/-- The kind with a given label. -/
def ofLabel (label : String) : Kind :=
  (known.find? (·.label = label)).getD (unrecognised label)

/-- One of the nine kinds. -/
def isKnown : Kind → Bool
  | unrecognised _ => false
  | _ => true

end Kind

/-- A piece of a line, with the column of its first character and the column after its last. -/
structure Token where
  text : List Char
  kind : Kind
  start : Int
  stop : Int
  deriving DecidableEq, Repr

namespace Token

/-- A token whose text starts at a column. -/
def placed (text : List Char) (kind : Kind) (column : Nat) : Token :=
  ⟨text, kind, column, column + text.length⟩

/-- A token with nothing but blanks in it. -/
def isBlank (token : Token) : Bool := (Text.strip token.text).isEmpty

end Token

/-- Why a list of tokens does not cover its line. -/
inductive TilingFault where
  | unknownKind (label : String)
  | misplaced (start : Int) (cursor : Nat)
  | wrongLength
  | wrongText
  | unfinished (cursor length : Nat)
  deriving DecidableEq, Repr

/-- The fault in words. -/
def TilingFault.message : TilingFault → String
  | unknownKind label => s!"Unknown token classification: {label}"
  | misplaced start cursor => s!"Token at column {start} expected at {cursor}."
  | wrongLength => "Token offsets must match token text length."
  | wrongText => "Token text must match the line content."
  | unfinished cursor length => s!"Tokens end at column {cursor}, line length is {length}."

namespace Token

/-- Checks one token against the column it has to start at and the characters it has to hold. -/
def check (cursor : Nat) (rest : List Char) (token : Token) : Except TilingFault Unit :=
  if !token.kind.isKnown then .error (.unknownKind token.kind.label)
  else if token.start ≠ cursor then .error (.misplaced token.start cursor)
  else if token.stop - token.start ≠ token.text.length then .error .wrongLength
  else if rest.take token.text.length ≠ token.text then .error .wrongText
  else .ok ()

/-- Checks the tokens of what is left of a line of the given length, from a column on. -/
def checkTilingFrom (length cursor : Nat) (rest : List Char) : List Token → Except TilingFault Unit
  | [] => if cursor = length then .ok () else .error (.unfinished cursor length)
  | token :: tokens =>
    match check cursor rest token with
    | .error fault => .error fault
    | .ok () =>
      let taken := token.text.length
      checkTilingFrom length (cursor + taken) (rest.drop taken) tokens

/-- Accepts the tokens that cover the line from left to right without gaps. -/
def checkTiling (line : List Char) (tokens : List Token) : Except TilingFault Unit :=
  checkTilingFrom line.length 0 line tokens

end Token

end TemplateAtlas
