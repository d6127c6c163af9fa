import TemplateAtlas.Disk
import TemplateAtlas.Text.Encoding
import TemplateAtlas.Workspace

/-!
# A workspace on disk, under open documents

The text of a file is that of the document open under its path, if there is one, and otherwise the
text on disk.  Documents are found by the exact spelling of their paths.  Text is read from disk by
the normal form of a path, whereas times are asked for by its spelling.

* `Documents` — the open documents and whether they have unsaved edits.
* `readText` — the text of a file on disk.
* `Documents.view` — the workspace that queries see.
-/

namespace TemplateAtlas

open Text

/-- A document open in an editor. -/
structure Document where
  text : List Char
  dirty : Bool
  deriving DecidableEq, Repr

/-- The open documents, by the spelling of their paths. -/
structure Documents where
  entries : List (String × Document) := []
  deriving DecidableEq, Repr

namespace Documents

/-- The document open under a path. -/
def get? (documents : Documents) (path : String) : Option Document := documents.entries.lookup path

/-- Forgets the document open under a path. -/
def close (documents : Documents) (path : String) : Documents :=
  ⟨documents.entries.filter (·.1 ≠ path)⟩

/-- Opens a document, in place of one that is open under the same path. -/
def openAt (documents : Documents) (path : String) (document : Document) : Documents :=
  ⟨(path, document) :: (documents.close path).entries⟩

/-- Replaces the text of a document by an unsaved edit; a document that is not open is opened. -/
def update (documents : Documents) (path : String) (text : List Char) : Documents :=
  documents.openAt path ⟨text, true⟩

/-- Notes that the edits of a document were saved, if it is open. -/
def save (documents : Documents) (path : String) : Documents :=
  match documents.get? path with
  | some document => documents.openAt path ⟨document.text, false⟩
  | none => documents

/-- The paths of the open documents, sorted. -/
def paths (documents : Documents) : List String := sortedTexts (documents.entries.map (·.1))

/-- A document is open under the path and has unsaved edits. -/
def isDirty (documents : Documents) (path : String) : Bool := (documents.get? path).any (·.dirty)

end Documents

/-- What a fault of the disk means for a query. -/
def DiskFault.toSource : DiskFault → SourceFault
  | nulInPath => .nulInPath
  | fault => .unavailable fault.message

/-- The text of a file on disk. -/
def readText (disk : Disk) (encoding : Encoding) (path : String) :
    Except SourceFault (List Char) :=
  match disk.read (Path.ofText path).text with
  | .error fault => .error fault.toSource
  | .ok bytes =>
    match encoding.text? bytes with
    | some text => .ok text
    | none => .error .unknownEncoding

namespace Documents

/-- The text of a file: that of an open document, or that on disk. -/
def text (documents : Documents) (disk : Disk) (encoding : Encoding) (path : String) :
    Except SourceFault (List Char) :=
  match documents.get? path with
  | some document => .ok document.text
  | none => readText disk encoding path

/-- When a file was last written; nothing for an open document that is not on disk. -/
def diskTime (documents : Documents) (disk : Disk) (path : String) :
    Except SourceFault (Option Int) :=
  match disk.stat path with
  | .ok stat => .ok (some stat.time)
  | .error .missing =>
    if (documents.get? path).isSome then .ok none else .error DiskFault.missing.toSource
  | .error fault => .error fault.toSource

/-- The workspace that queries see. -/
def view (documents : Documents) (pace : Pace) (disk : Disk) (encoding : Encoding) : Workspace where
  text := documents.text disk encoding
  diskTime := documents.diskTime disk
  modified path := ((disk.stat path).map (·.time)).mapError (·.toSource)
  isDirty := documents.isDirty
  isOpen path := (documents.get? path).isSome
  pace := pace

end Documents

end TemplateAtlas
