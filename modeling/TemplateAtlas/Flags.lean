import TemplateAtlas.Text.Split

/-!
# Change flags

The paths that were reported as changed since flags were last forgotten.  A flag does not say that a
file is different, only that the cached index of the file has to be checked before it is used.
-/

namespace TemplateAtlas

/-- The flagged paths, each once. -/
structure Flags where
  paths : List String := []
  deriving DecidableEq, Repr

namespace Flags

/-- The path is flagged. -/
def isChanged (flags : Flags) (path : String) : Bool := flags.paths.contains path

/-- Flags a path. -/
def mark (flags : Flags) (path : String) : Flags :=
  if flags.isChanged path then flags else ⟨flags.paths ++ [path]⟩

/-- Flags several paths. -/
def markAll (flags : Flags) (paths : List String) : Flags := paths.foldl mark flags

/-- No path is flagged. -/
def none : Flags := ⟨[]⟩

/-- The flagged paths in the order of their code points. -/
def sorted (flags : Flags) : List String := Text.sortedTexts flags.paths

@[simp] theorem isChanged_none (path : String) : none.isChanged path = false := rfl

theorem isChanged_mark (flags : Flags) (path other : String) :
    (flags.mark path).isChanged other = (flags.isChanged other || other == path) := by
  unfold mark
  split
  · by_cases h : other = path <;> simp_all
  · by_cases h : other = path <;> simp_all [isChanged]

end Flags

end TemplateAtlas
