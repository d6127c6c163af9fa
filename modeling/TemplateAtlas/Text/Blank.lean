import TemplateAtlas.Text.CharSet

/-!
# Blank characters

A blank is a character that separates words.  Names are stripped of blanks at both ends, a line
comment may start after a blank, and a run of blanks inside a tag is one token.

* `isBlank` — the class: the ASCII blanks, the four information separators, the next-line
  character, and the Unicode space, line and paragraph separators.  The zero-width space and the
  byte order mark are not blanks.
* `strip` — a text without its leading and trailing blanks.
-/

namespace TemplateAtlas.Text

/-- The ranges of blank characters. -/
def blanks : CharSet where
  ranges := [(0x9, 0xD), (0x1C, 0x20), (0x85, 0x85), (0xA0, 0xA0), (0x1680, 0x1680),
    (0x2000, 0x200A), (0x2028, 0x2029), (0x202F, 0x202F), (0x205F, 0x205F), (0x3000, 0x3000)]

/-- A blank separates words. -/
def isBlank (c : Char) : Bool := blanks.contains c

/-- The text after its leading blanks. -/
def stripStart (s : List Char) : List Char := s.dropWhile isBlank

/-- The text before its trailing blanks. -/
def stripEnd (s : List Char) : List Char := (s.reverse.dropWhile isBlank).reverse

/-- The text without its leading and trailing blanks. -/
def strip (s : List Char) : List Char := stripEnd (stripStart s)

@[simp] theorem strip_nil : strip [] = [] := rfl

end TemplateAtlas.Text
