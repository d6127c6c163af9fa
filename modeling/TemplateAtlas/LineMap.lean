/-!
# From offsets to line numbers

A line map holds the offsets at which the lines of a text start.  The line of an offset is the last
one that starts at or before it; offsets before the text count as its start, and offsets beyond it
as its end.
-/

namespace TemplateAtlas

/-- The offsets at which the lines of a text start, and the length of the text. -/
structure LineMap where
  starts : List Nat
  length : Nat
  deriving DecidableEq, Repr

namespace LineMap

/-- The line starts after the first, for a text that starts at an offset. -/
def laterStarts (offset : Nat) : List Char → List Nat
  | [] => []
  | c :: cs =>
    if c = '\n' then (offset + 1) :: laterStarts (offset + 1) cs else laterStarts (offset + 1) cs

/-- The line map of a text. -/
def ofText (text : List Char) : LineMap := ⟨0 :: laterStarts 0 text, text.length⟩

/-- An offset moved into the bounds of the text. -/
def clamp (map : LineMap) (offset : Int) : Nat := min offset.toNat map.length

/-- The number, from zero, of the line that holds an offset. -/
def lineOf (map : LineMap) (offset : Int) : Nat :=
  (map.starts.takeWhile (· ≤ map.clamp offset)).length - 1

end LineMap

end TemplateAtlas
