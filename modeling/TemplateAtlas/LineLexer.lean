import TemplateAtlas.Token

/-!
# Line lexers

A text is read one line at a time.  What a lexer remembers from line to line is its memory, a value
of a type of its own; nothing else about it matters to the index.

* `LineLexer` — how a lexer starts a text and how it reads a line.
* `LineLexer.readLines` — the memory after some lines, whatever their tokens are.
* `uniform`, `shifted`, `scripted` — lexers that know no grammar: one token a line, one token a line
  that starts a column late, and tokens laid down in advance.
-/

namespace TemplateAtlas

/-- A lexer with memory `σ`: `restart` prepares the memory for the start of a text, `line` cuts a
line into tokens. -/
structure LineLexer (σ : Type) where
  restart : σ → σ
  line : List Char → σ → List Token × σ

namespace LineLexer

/-- The memory after reading some lines. -/
def readLines {σ : Type} (lexer : LineLexer σ) (lines : List (List Char)) (memory : σ) : σ :=
  lines.foldl (fun memory line => (lexer.line line memory).2) memory

/-- One token of the given kind for every line that is not empty. -/
def uniform (kind : Kind) : LineLexer Unit where
  restart := id
  line line memory := (if line.isEmpty then [] else [.placed line kind 0], memory)

/-- One token of the given kind for every line, which leaves out the first column. -/
def shifted (kind : Kind) : LineLexer Unit where
  restart := id
  line line memory := ([⟨line.tail, kind, 1, line.length⟩], memory)

/-- Tokens laid down in advance, one list for each line read; the memory is what is left of them,
and starting a new text does not go back to the first. -/
def scripted : LineLexer (List (List Token)) where
  restart := id
  line _ script := (script.head?.getD [], script.tail)

end LineLexer

end TemplateAtlas
