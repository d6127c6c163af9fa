import TemplateAtlas.Text.Blank

/-!
# Markers: where templates are declared

A file is indexed by a scan of its raw text, without any lexer.  The scan looks for two kinds of
declarations.

* **The namespace** is the first text `{namespace `, a character other than `}` and `/`, and a run of
  characters without blanks that holds a closing brace; the name ends before the last such brace.
  Only the first declaration counts (`declaredNamespace`).
* **A template** starts at a text `{template `, followed by a character other than `}` and `/` and at
  least one character that may stand in a name.  A scan from left to right takes each such text and
  goes on after it (`declarations`).

The qualified name of a template is the namespace followed by the declared name, with nothing put
between them (`qualify`).  `scan` gives the markers in text order, and `byName` brings those of one
name together.
-/

namespace TemplateAtlas

open Text

/-- The start of a template, under its qualified name. -/
structure Marker where
  name : String
  start : Nat
  deriving DecidableEq, Repr

namespace Marker

/-- The text that opens a template. -/
def opening : List Char := "\x7btemplate ".toList

/-- The text that opens a namespace declaration. -/
def namespaceOpening : List Char := "\x7bnamespace ".toList

/-- What follows the given opening, if the text starts with it. -/
def after? (opening text : List Char) : Option (List Char) :=
  if opening.isPrefixOf text then some (text.drop opening.length) else none

/-- A declared name may not start with a closing brace or a slash. -/
def mayStartName (c : Char) : Bool := c ≠ '}' && c ≠ '/'

/-- After its first character a template's name goes on to a blank, a caret, a brace or a slash. -/
def isNameChar (c : Char) : Bool := !isBlank c && c ≠ '^' && c ≠ '}' && c ≠ '/'

/-- The name declared right after the opening of a template, at least two characters long. -/
def declaredName? : List Char → Option (List Char)
  | [] => none
  | c :: cs =>
    if mayStartName c && cs.head?.any isNameChar then some (c :: cs.takeWhile isNameChar) else none

/-- The run of characters before the last closing brace in it, if there is one. -/
def beforeLastBrace? (run : List Char) : Option (List Char) :=
  match run.reverse.dropWhile (· ≠ '}') with
  | [] => none
  | _ :: before => some before.reverse

/-- The namespace declared right after its opening, with its blanks. -/
def namespaceName? : List Char → Option (List Char)
  | [] => none
  | c :: cs =>
    if mayStartName c then
      match beforeLastBrace? (cs.takeWhile fun d => !isBlank d) with
      | some (d :: name) => some (c :: d :: name)
      | _ => none
    else none

/-- The first namespace declaration of a text. -/
def firstNamespace? : List Char → Option (List Char)
  | [] => none
  | c :: cs =>
    match (after? namespaceOpening (c :: cs)).bind namespaceName? with
    | some name => some name
    | none => firstNamespace? cs

/-- The declared namespace, empty when there is no declaration. -/
def declaredNamespace (text : List Char) : List Char :=
  match firstNamespace? text with
  | some name => strip name
  | none => []

/-- The namespace and the stripped local name, with nothing between them. -/
def qualify (space raw : List Char) : String := String.ofList (space ++ strip raw)

/-- The declarations from an offset on: the offset of each opening and the name after it. -/
def declarationsFrom (offset : Nat) : List Char → List (Nat × List Char)
  | [] => []
  | c :: cs =>
    match (after? opening (c :: cs)).bind declaredName? with
    | some name =>
      let extra := opening.length - 1 + name.length
      (offset, name) :: declarationsFrom (offset + 1 + extra) (cs.drop extra)
    | none => declarationsFrom (offset + 1) cs
termination_by cs => cs.length
decreasing_by all_goals (simp only [List.length_drop, List.length_cons]; omega)

/-- The template declarations of a text, from left to right. -/
def declarations (text : List Char) : List (Nat × List Char) := declarationsFrom 0 text

/-- The markers of a text, in text order. -/
def scan (text : List Char) : List Marker :=
  let space := declaredNamespace text
  (declarations text).map fun (start, raw) => ⟨qualify space raw, start⟩

/-- Adds a marker under its name: behind the others of that name, or as a new name at the end. -/
def insertByName (marker : Marker) : List (String × List Marker) → List (String × List Marker)
  | [] => [(marker.name, [marker])]
  | (name, items) :: groups =>
    if name = marker.name then (name, items ++ [marker]) :: groups
    else (name, items) :: insertByName marker groups

/-- Markers under their names, in order of first occurrence. -/
def byName (markers : List Marker) : List (String × List Marker) :=
  markers.foldl (fun groups marker => insertByName marker groups) []

end Marker

end TemplateAtlas
