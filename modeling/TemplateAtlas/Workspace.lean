/-!
# Workspaces

What the index knows of the outside world: the text of a file, when it was last written, and whether
it is open with unsaved edits.  A workspace is a snapshot; changes to the outside world are changes
of workspace.

Answers may take their time.  How long is counted in rounds (`Pace`), in which everybody who is not waiting
gets a turn; an answer that takes no rounds is there at once.
-/

namespace TemplateAtlas

/-- Why a workspace gives no answer about a path. -/
inductive SourceFault where
  /-- The file is missing or cannot be used, for the reason given. -/
  | unavailable (reason : String)
  /-- No file can have such a name. -/
  | nulInPath
  /-- The bytes are to be decoded by an encoding that does not exist. -/
  | unknownEncoding
  deriving DecidableEq, Repr

/-- The fault in words. -/
def SourceFault.message : SourceFault → String
  | unavailable reason => reason
  | nulInPath => "embedded null byte"
  | unknownEncoding => "The encoding does not exist."

/-- How long things take, in rounds. -/
structure Pace where
  /-- The rounds that a question about a time takes. -/
  stat : Nat := 0
  /-- The rounds that reading a text takes which is not at hand. -/
  read : Nat := 0
  /-- The rounds that are still held after one in which a query has ended with a fault. -/
  afterwards : Nat := 0
  deriving DecidableEq, Repr

/-- A snapshot of the outside world. -/
structure Workspace where
  /-- The text of a file, as an editor shows it when the file is open. -/
  text : String → Except SourceFault (List Char)
  /-- When the file was last written to disk; nothing for a document that was never saved. -/
  diskTime : String → Except SourceFault (Option Int)
  /-- The modification time of the file on disk. -/
  modified : String → Except SourceFault Int
  /-- The file is open with unsaved edits. -/
  isDirty : String → Bool
  /-- The text of the file is at hand, because it is open. -/
  isOpen : String → Bool := fun _ => false
  pace : Pace := {}

/-- The rounds that a question about a time takes. -/
def Workspace.statRounds (workspace : Workspace) : Nat := workspace.pace.stat

/-- The rounds that reading a text takes which is not at hand. -/
def Workspace.readRounds (workspace : Workspace) : Nat := workspace.pace.read

/-- The rounds until the text of a file is there. -/
def Workspace.textRounds (workspace : Workspace) (path : String) : Nat :=
  if workspace.isOpen path then 0 else workspace.readRounds

end TemplateAtlas
