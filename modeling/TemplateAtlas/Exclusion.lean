import TemplateAtlas.Glob
import TemplateAtlas.Text.Split

/-!
# Leaving out files and folders

A project names the files to be left out by globs on their paths from the project's root.

* `isExcluded` — a path is left out when some glob matches it, as it stands or with a slash in front.
* `folderNames` — the folder names that globs of the form `**/name/**` stand for.  A folder with such a
  name need not be entered if its own path is left out.
-/

namespace TemplateAtlas.Exclusion

/-- Some glob matches the path, as it stands or with a slash in front. -/
def isExcluded (globs : List String) (path : String) : Bool :=
  globs.any fun glob => Glob.accepts glob path || Glob.accepts glob ("/" ++ path)

/-- The characters that keep a glob from naming a folder. -/
def specials : List Char := ['*', '?', '[', ']', '\x7b', '\x7d']

/-- A text without the slashes at its ends. -/
def stripSlashes (s : List Char) : List Char :=
  ((s.dropWhile (· = '/')).reverse.dropWhile (· = '/')).reverse

/-- The folder that a glob of the form `**/name/**` names. -/
def folderName? (glob : String) : Option String :=
  let pattern := glob.toList
  if "**/".toList.isPrefixOf pattern && "/**".toList.isSuffixOf pattern then
    let name := stripSlashes ((pattern.drop 3).take (pattern.length - 6))
    if name.isEmpty || name.any specials.contains then none else some (String.ofList name)
  else none

/-- The folder names that some globs stand for, each once, sorted. -/
def folderNames (globs : List String) : List String :=
  Text.sortedTexts (globs.filterMap folderName?).eraseDups

end TemplateAtlas.Exclusion
