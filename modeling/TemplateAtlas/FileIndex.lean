import TemplateAtlas.Marker
import TemplateAtlas.Text.Quoted

/-!
# The index of one file

An index lists the templates of a file under their qualified names, in the order in which the names
first occur.  An entry starts out as a marker and becomes a range once the end of its template has
been looked for.

* `FileIndex.ofText` — the index of a text, all of it markers.
* `FileIndex.matching` — the names that a query selects: one name, or all of them for the wildcard.
* `FileIndex.isResolved` — whether all entries under some names are ranges.
* `FileIndex.withRanges` — the index with the entries of one name replaced by ranges.

Indexes are values: replacing entries makes a new index.
-/

namespace TemplateAtlas

/-- A template with its end and the lines it covers. -/
structure Span where
  name : String
  start : Int
  stop : Int
  firstLine : Int
  lastLine : Int
  deriving DecidableEq, Repr

/-- A template in an index: only its start is known, or its whole range. -/
inductive Entry where
  | marker (marker : Marker)
  | span (span : Span)
  deriving DecidableEq, Repr

/-- The range of an entry that has one. -/
def Entry.span? : Entry → Option Span
  | marker _ => none
  | span found => some found

/-- The entry is a range. -/
def Entry.isResolved (entry : Entry) : Bool := entry.span?.isSome

/-- The templates of one file under their names, in order of first occurrence. -/
structure FileIndex where
  path : String
  entries : List (String × List Entry)
  deriving DecidableEq, Repr

/-- Why entries could not be replaced. -/
inductive RangeFault where
  | unknownName (name : String)
  | wrongCount (name : String) (expected : Nat)
  deriving DecidableEq, Repr

/-- The fault in words. -/
def RangeFault.message : RangeFault → String
  | unknownName name => Text.quoted name
  | wrongCount name expected =>
    let shown := Text.quoted name
    s!"Expected {expected} ranges for {shown}."

namespace FileIndex

/-- The index with no template in it. -/
def empty (path : String) : FileIndex := ⟨path, []⟩

/-- The index of a text; no end is looked for. -/
def ofText (path : String) (text : List Char) : FileIndex :=
  ⟨path, (Marker.byName (Marker.scan text)).map fun (name, items) => (name, items.map .marker)⟩

/-- The qualified names, in order of first occurrence. -/
def names (index : FileIndex) : List String := index.entries.map (·.1)

/-- The entries under a name, none if the name does not occur. -/
def entriesOf (index : FileIndex) (name : String) : List Entry :=
  (index.entries.lookup name).getD []

/-- The number of templates under all names. -/
def templateCount (index : FileIndex) : Nat := (index.entries.map (·.2.length)).foldl (· + ·) 0

/-- The names that a query selects. -/
def matching (index : FileIndex) (name wildcard : String) : List String :=
  if name = wildcard then index.names
  else if index.names.contains name then [name]
  else []

/-- Every entry under the given names is a range. -/
def isResolved (index : FileIndex) (names : List String) : Bool :=
  names.all fun name => (index.entriesOf name).all (·.isResolved)

/-- The ranges under the given names, in the order of the names. -/
def spansOf (index : FileIndex) (names : List String) : List Span :=
  names.flatMap fun name => (index.entriesOf name).filterMap (·.span?)

/-- Puts ranges in the place of the entries of a name. -/
def replaceEntries (name : String) (spans : List Span) (entries : List (String × List Entry)) :
    List (String × List Entry) :=
  entries.map fun (other, items) => (other, if other = name then spans.map .span else items)

/-- The index with the entries of one name replaced by as many ranges. -/
def withRanges (index : FileIndex) (name : String) (spans : List Span) :
    Except RangeFault FileIndex :=
  match index.entries.lookup name with
  | none => .error (.unknownName name)
  | some items =>
    if spans.length ≠ items.length then .error (.wrongCount name items.length)
    else .ok { index with entries := replaceEntries name spans index.entries }

end FileIndex

end TemplateAtlas
