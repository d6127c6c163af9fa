import TemplateAtlas.Text.Lowercase
import TemplateAtlas.Text.Split

/-!
# Paths

A path is a root and the components below it.  Reading a path from text drops empty components and
single points, so that runs of slashes, a slash at the end and `./` make no difference; two points
stay as they are.

* `Path.ofText`, `Path.text` — a path from its spelling, and the normal spelling of a path.
* `Path.suffix` — the extension of the last component, from its last point on.
* `hasExtension` — whether a file has a given extension, without regard to case.
-/

namespace TemplateAtlas

open Text

/-- Where a path starts. -/
inductive Root where
  | relative
  | slash
  /-- Exactly two slashes in front, which are kept apart from one. -/
  | doubleSlash
  deriving DecidableEq, Repr

/-- A root and the components below it. -/
structure Path where
  root : Root
  parts : List String
  deriving DecidableEq, Repr

namespace Root

/-- The slashes in front of a path. -/
def text : Root → String
  | relative => ""
  | slash => "/"
  | doubleSlash => "//"

/-- The root of a spelling: one slash stands for any number of them other than two. -/
def ofText (s : List Char) : Root :=
  match (s.takeWhile (· = '/')).length with
  | 0 => relative
  | 2 => doubleSlash
  | _ => slash

end Root

namespace Path

/-- The path that a text spells. -/
def ofText (s : String) : Path where
  root := .ofText s.toList
  parts := ((splitAtChar '/' s.toList).filter fun part => part ≠ [] && part ≠ ['.']).map
    String.ofList

/-- The normal spelling of a path; the empty relative path is a point. -/
def text (path : Path) : String :=
  if path.root = .relative && path.parts.isEmpty then "."
  else path.root.text ++ String.intercalate "/" path.parts

/-- The path starts at a root. -/
def isAbsolute (path : Path) : Bool := path.root ≠ .relative

/-- The second path seen from the first. -/
def join (base path : Path) : Path :=
  if path.isAbsolute then path else { base with parts := base.parts ++ path.parts }

/-- The path with one more component, read without looking at any disk: a point leads nowhere else, and
two points take away the last name, or stay in front of a relative path. -/
def step (path : Path) (name : String) : Path :=
  if name = "" || name = "." then path
  else if name = ".." && path.parts.getLast?.all (· = "..") then
    if path.isAbsolute then path else { path with parts := path.parts ++ [name] }
  else if name = ".." then { path with parts := path.parts.dropLast }
  else { path with parts := path.parts ++ [name] }

/-- The path without its last component. -/
def parent (path : Path) : Path := { path with parts := path.parts.dropLast }

/-- The last component, empty when there is none. -/
def name (path : Path) : String := path.parts.getLast?.getD ""

/-- The part of a component from its last point on, unless that point is its first or last
character. -/
def suffixOf (component : List Char) : List Char :=
  let tail := (component.reverse.takeWhile (· ≠ '.')).reverse
  let stem := component.length - tail.length
  if stem < 2 || tail.isEmpty then [] else '.' :: tail

/-- The extension of the last component. -/
def suffix (path : Path) : List Char := suffixOf path.name.toList

end Path

/-- The file has the extension, without regard to case. -/
def hasExtension (path extension : String) : Bool :=
  lower (Path.ofText path).suffix = lower extension.toList

end TemplateAtlas
