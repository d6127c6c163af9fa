/-!
# Texts by code points

A text may hold halves of surrogate pairs that stand alone.  These are no characters, but each of them has a
code point of its own, and they count when texts are compared.

* `Codes` — a text as the list of its code points, ordered as texts are.
* `codes` — the code points of a string.
-/

namespace TemplateAtlas.Text

/-- The code points of a text, of which some may be halves of surrogate pairs. -/
structure Codes where
  points : List Nat
  deriving DecidableEq, Repr

instance : LE Codes := ⟨fun a b => List.le a.points b.points⟩

instance (a b : Codes) : Decidable (a ≤ b) := List.decidableLE a.points b.points

/-- The code points of a string. -/
def codes (s : String) : Codes := ⟨s.toList.map Char.toNat⟩

end TemplateAtlas.Text
