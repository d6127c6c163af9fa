import TemplateAtlas.Text.Split

/-!
# Line breaks

* `unifyNewlines` — a carriage return, alone or before a line feed, becomes a line feed.
* `splitLines` — the pieces of a text between its line feeds, the last one included even when it
  is empty.
* `terminatedLines` — the lines of a text, where a text that ends in a line feed has no further
  empty line.
* `endedLines` — the lines that are known to have ended when more may follow.
-/

namespace TemplateAtlas.Text

/-- Every carriage return, alone or before a line feed, becomes a line feed. -/
def unifyNewlines : List Char → List Char
  | [] => []
  | '\r' :: '\n' :: s => '\n' :: unifyNewlines s
  | '\r' :: s => '\n' :: unifyNewlines s
  | c :: s => c :: unifyNewlines s

/-- The pieces between the line feeds. -/
def splitLines (text : List Char) : List (List Char) := splitAtChar '\n' text

/-- The lines of a text: its pieces, less the empty piece after a final line feed. -/
def terminatedLines : List Char → List (List Char)
  | [] => []
  | c :: s =>
    if c = '\n' then [] :: terminatedLines s
    else
      match terminatedLines s with
      | [] => [[c]]
      | line :: lines => (c :: line) :: lines

/-- A text without a carriage return at its end, after which a line feed may still follow. -/
def dropLastReturn (text : List Char) : List Char :=
  if text.getLast? = some '\r' then text.dropLast else text

/-- The lines that have ended when the text may go on. -/
def endedLines (text : List Char) : List (List Char) :=
  (splitLines (unifyNewlines (dropLastReturn text))).dropLast

end TemplateAtlas.Text
