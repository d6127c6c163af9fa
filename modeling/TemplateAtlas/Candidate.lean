import TemplateAtlas.Path

/-!
# Candidates

The files of a query are named by their paths, either as they are spelled or as path values.  A value
that names no file at all is refused.
-/

namespace TemplateAtlas

/-- Something given where a path is expected. -/
inductive Candidate where
  | spelled (text : String)
  | path (path : Path)
  | notAPath
  deriving DecidableEq, Repr

namespace Candidate

/-- The spelling of a candidate; a path value is spelled in its normal form. -/
def spelling? : Candidate → Option String
  | spelled text => some text
  | path value => some value.text
  | notAPath => none

/-- The spellings of candidates that all name a file. -/
def spellings? (candidates : List Candidate) : Option (List String) :=
  candidates.mapM spelling?

end Candidate

/-- The candidates that a query looks at: all of them, or those with the extension. -/
def filterCandidates (extension : String) (all : Bool) (paths : List String) : List String :=
  if all then paths else paths.filter (hasExtension · extension)

end TemplateAtlas
