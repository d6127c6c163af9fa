import TemplateAtlas.LineLexer
import TemplateAtlas.Marker
import TemplateAtlas.Text.Newline

/-!
# Call sites

A line calls a template when it holds the keyword `{call`.  The called name is made of the tokens
after it: the token right behind the keyword is taken for the blank between them and left out, and
the name goes on to a blank token or to the end of the tag.  A name that starts with a point is
relative to the namespace of its file.
-/

namespace TemplateAtlas.Call

open Text

variable {σ : Type}

/-- The keyword that opens a call. -/
def opening : List Char := "\x7bcall".toList

/-- A token that opens a call. -/
def opens (token : Token) : Bool := token.kind = .keyword && token.text = opening

/-- A token that ends a called name. -/
def endsName (token : Token) : Bool :=
  token.isBlank || token.text = ['/'] || token.text = ['}'] || token.text = ['/', '}']

/-- The name called by the first call among some tokens, empty when there is none. -/
def calledName (tokens : List Token) : List Char :=
  let behind := (tokens.dropWhile fun token => !opens token).drop 2
  (behind.takeWhile fun token => !endsName token).flatMap (·.text)

/-- The qualified name for a name written in a call. -/
def resolveName (text name : List Char) : String :=
  if name.head? = some '.' then Marker.qualify (Marker.declaredNamespace text) name
  else String.ofList name

/-- The qualified name called on a line, numbered from zero; the lines before it are read first. -/
def nameAt (lexer : LineLexer σ) (text : List Char) (line : Int) (memory : σ) :
    Option String × σ :=
  let lines := splitLines text
  if line < 0 then (none, memory)
  else
    match lines[line.toNat]? with
    | none => (none, memory)
    | some content =>
      let memory := lexer.readLines (lines.take line.toNat) (lexer.restart memory)
      let (tokens, memory) := lexer.line content memory
      match calledName tokens with
      | [] => (none, memory)
      | name => (some (resolveName text name), memory)

end TemplateAtlas.Call
