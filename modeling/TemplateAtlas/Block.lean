import TemplateAtlas.LineLexer
import TemplateAtlas.Text.Newline

/-!
# Where a template ends

The end of a template is the offset after the first closing command at or behind its start.  The
text is read line by line from the start of the template on, beginning in the lexer's start state,
and only keywords count: a closing command inside a comment, a string or a literal is passed over.

* `Block.search` — the first closing keyword in some lines, `Block.searchText` — in a text that is cut into lines
  on the way.
* `Block.endFrom` — the end of the template that starts at an offset; a template that is never closed
  ends with the text.

Reading uses up lexer memory even when the tokens turn out not to cover a line, so every result
comes with the memory after it.
-/

namespace TemplateAtlas

/-- Why the end of a block has no answer. -/
inductive BlockFault where
  | negativeStart
  | untiled (fault : TilingFault)
  deriving DecidableEq, Repr

/-- The fault in words. -/
def BlockFault.message : BlockFault → String
  | negativeStart => "start_offset must be >= 0"
  | untiled fault => fault.message

namespace Block

variable {σ : Type}

/-- The command that closes a template. -/
def closing : List Char := "\x7b/template".toList

/-- The first keyword with the given text. -/
def closingToken? (close : List Char) (tokens : List Token) : Option Token :=
  tokens.find? fun token => token.kind = .keyword && token.text = close

/-- The offset after the first closing keyword in some lines, the first of which starts at an
offset. -/
def search (lexer : LineLexer σ) (close : List Char) (offset : Nat) (memory : σ) :
    List (List Char) → Except TilingFault (Option Nat) × σ
  | [] => (.ok none, memory)
  | line :: lines =>
    let (tokens, memory) := lexer.line line memory
    match Token.checkTiling line tokens with
    | .error fault => (.error fault, memory)
    | .ok () =>
      match closingToken? close tokens with
      | some token => (.ok (some (offset + token.stop.toNat)), memory)
      | none => search lexer close (offset + line.length + 1) memory lines

/-- The offset after the first closing keyword in a text, of whose first line some characters were read before, the
last of them in front.  A line is searched as soon as it has ended, and no line behind the keyword is taken apart. -/
def searchText (lexer : LineLexer σ) (close : List Char) (offset : Nat) (memory : σ) (read : List Char) :
    List Char → Except TilingFault (Option Nat) × σ
  | [] => search lexer close offset memory (if read.isEmpty then [] else [read.reverse])
  | c :: cs =>
    if c = '\n' then
      match search lexer close offset memory [read.reverse] with
      | (.ok none, memory) => searchText lexer close (offset + read.length + 1) memory [] cs
      | found => found
    else searchText lexer close offset memory (c :: read) cs

/-- The end of the block that starts at an offset. -/
def endFrom (lexer : LineLexer σ) (close text : List Char) (start : Nat) (memory : σ) :
    Except TilingFault Nat × σ :=
  let (found, memory) := searchText lexer close start (lexer.restart memory) [] (text.drop start)
  (found.map (·.getD text.length), memory)

/-- The end of the block at an offset that may be negative, which is refused. -/
def endFrom? (lexer : LineLexer σ) (close text : List Char) (start : Int) (memory : σ) :
    Except BlockFault Nat × σ :=
  if start < 0 then (.error .negativeStart, memory)
  else
    let (found, memory) := endFrom lexer close text start.toNat memory
    (found.mapError .untiled, memory)

end Block

end TemplateAtlas
