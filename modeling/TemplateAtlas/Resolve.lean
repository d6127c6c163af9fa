import TemplateAtlas.Block
import TemplateAtlas.FileIndex
import TemplateAtlas.LineMap

/-!
# Resolving markers to ranges

The ends of templates are looked for only when a query asks for them, and only under the names it
selects; what has been found is kept in the index.

* `resolveEntry` — a marker becomes a range, a range stays as it is.
* `FileIndex.resolve` — the index with all entries under some names resolved, and their ranges.  When
  nothing has to be looked for, the text is not needed.
-/

namespace TemplateAtlas

variable {σ : Type}

/-- Why ranges could not be resolved. -/
inductive ResolveFault where
  | textRequired (path : String)
  | untiled (fault : TilingFault)
  deriving DecidableEq, Repr

/-- The fault in words. -/
def ResolveFault.message : ResolveFault → String
  | textRequired path => s!"Text is required to resolve template ranges in {path}."
  | untiled fault => fault.message

/-- The range of a marker whose template ends at an offset. -/
def Marker.spanTo (marker : Marker) (map : LineMap) (stop : Nat) : Span where
  name := marker.name
  start := marker.start
  stop := stop
  firstLine := map.lineOf marker.start
  lastLine := map.lineOf stop

/-- The range of an entry. -/
def resolveEntry (lexer : LineLexer σ) (text : List Char) (map : LineMap) (entry : Entry)
    (memory : σ) : Except TilingFault Span × σ :=
  match entry with
  | .span span => (.ok span, memory)
  | .marker marker =>
    let (stop, memory) := Block.endFrom lexer Block.closing text marker.start memory
    (stop.map (marker.spanTo map), memory)

/-- The ranges of some entries, one after the other. -/
def resolveEntries (lexer : LineLexer σ) (text : List Char) (map : LineMap) :
    List Entry → σ → Except TilingFault (List Span) × σ
  | [], memory => (.ok [], memory)
  | entry :: entries, memory =>
    match resolveEntry lexer text map entry memory with
    | (.error fault, memory) => (.error fault, memory)
    | (.ok span, memory) =>
      match resolveEntries lexer text map entries memory with
      | (.error fault, memory) => (.error fault, memory)
      | (.ok spans, memory) => (.ok (span :: spans), memory)

namespace FileIndex

/-- Resolves the entries under some names, one name after the other. -/
def resolveNames (lexer : LineLexer σ) (text : List Char) (map : LineMap) :
    List String → FileIndex → σ → Except TilingFault (FileIndex × List Span) × σ
  | [], index, memory => (.ok (index, []), memory)
  | name :: names, index, memory =>
    match resolveEntries lexer text map (index.entriesOf name) memory with
    | (.error fault, memory) => (.error fault, memory)
    | (.ok spans, memory) =>
      let updated := { index with entries := replaceEntries name spans index.entries }
      match resolveNames lexer text map names updated memory with
      | (.error fault, memory) => (.error fault, memory)
      | (.ok (index, more), memory) => (.ok (index, spans ++ more), memory)

/-- The index with all entries under the given names resolved, and their ranges in the order of the
names. -/
def resolve (lexer : LineLexer σ) (index : FileIndex) (names : List String)
    (text? : Option (List Char)) (memory : σ) :
    Except ResolveFault (FileIndex × List Span) × σ :=
  if index.isResolved names then (.ok (index, index.spansOf names), memory)
  else
    match text? with
    | none => (.error (.textRequired index.path), memory)
    | some text =>
      let (outcome, memory) := resolveNames lexer text (.ofText text) names index memory
      (outcome.mapError .untiled, memory)

end FileIndex

end TemplateAtlas
