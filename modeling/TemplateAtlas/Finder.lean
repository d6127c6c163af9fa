import TemplateAtlas.Block
import TemplateAtlas.LineMap
import TemplateAtlas.Marker

/-!
# Finding templates in a text

The direct answer to a query about one text: its markers are scanned, the selected ones are followed
to their ends, and nothing is kept.
-/

namespace TemplateAtlas

variable {σ : Type}

/-- A template found in a text, with the lines it covers. -/
structure TextMatch where
  name : String
  firstLine : Nat
  lastLine : Nat
  deriving DecidableEq, Repr

namespace Finder

/-- The markers that a name or the wildcard selects, grouped by name. -/
def selected (text : List Char) (name wildcard : String) : List Marker :=
  ((Marker.byName (Marker.scan text)).filter fun group =>
    group.1 = name || name = wildcard).flatMap (·.2)

/-- The lines covered by the templates that some markers start. -/
def follow (lexer : LineLexer σ) (text : List Char) (map : LineMap) :
    List Marker → σ → Except TilingFault (List TextMatch) × σ
  | [], memory => (.ok [], memory)
  | marker :: markers, memory =>
    match Block.endFrom lexer Block.closing text marker.start memory with
    | (.error fault, memory) => (.error fault, memory)
    | (.ok stop, memory) =>
      let found : TextMatch := ⟨marker.name, map.lineOf marker.start, map.lineOf stop⟩
      match follow lexer text map markers memory with
      | (.error fault, memory) => (.error fault, memory)
      | (.ok more, memory) => (.ok (found :: more), memory)

/-- The templates of a text that a name or the wildcard selects, grouped by name. -/
def findInText (lexer : LineLexer σ) (text : List Char) (name wildcard : String) (memory : σ) :
    Except TilingFault (List TextMatch) × σ :=
  follow lexer text (.ofText text) (selected text name wildcard) memory

end Finder

end TemplateAtlas
