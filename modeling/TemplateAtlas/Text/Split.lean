/-!
# Cutting a text at a character, and sorting texts

* `splitAtChar` — the pieces between the occurrences of a separator, always one more than there are
  separators.
* `sortedTexts` — texts in the order of their code points.
-/

namespace TemplateAtlas.Text

/-- The pieces between the occurrences of a separator. -/
def splitAtChar (separator : Char) : List Char → List (List Char)
  | [] => [[]]
  | c :: s =>
    if c = separator then [] :: splitAtChar separator s
    else
      match splitAtChar separator s with
      | [] => [[c]]
      | piece :: pieces => (c :: piece) :: pieces

/-- Texts in the order of their code points. -/
def sortedTexts (texts : List String) : List String :=
  texts.mergeSort fun a b => decide (a ≤ b)

end TemplateAtlas.Text
