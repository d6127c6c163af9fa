/-!
# Sets of characters given by code point ranges

The classes of characters that the grammar, the file extensions and the quoted names depend on
are properties of the Unicode character database.  Each is written down as a table of inclusive
ranges of code points in increasing order, and membership is a walk over the table.
-/

namespace TemplateAtlas.Text

/-- A set of characters, as inclusive ranges of code points in increasing order. -/
structure CharSet where
  ranges : List (Nat × Nat)

/-- A character belongs to the set when some range covers its code point. -/
def CharSet.contains (set : CharSet) (c : Char) : Bool :=
  set.ranges.any fun range => range.1 ≤ c.toNat && c.toNat ≤ range.2

end TemplateAtlas.Text
