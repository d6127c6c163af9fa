import TemplateAtlas.Workspace

/-!
# A workspace in memory

Files with their texts and modification times, held in memory.  Files can be marked as open with
unsaved edits, as unreadable, or as having no modification time to be asked for.
-/

namespace TemplateAtlas

/-- A file in memory.  The time is missing for a document that was never saved. -/
structure MemoryFile where
  text : List Char
  time : Option Int
  deriving DecidableEq, Repr

/-- Files in memory and the marks on their paths. -/
structure MemoryWorkspace where
  files : List (String × MemoryFile) := []
  writes : Nat := 0
  dirty : List String := []
  unreadable : List String := []
  untimed : List String := []
  deriving DecidableEq, Repr

namespace MemoryWorkspace

/-- The reason given for a file that is not there. -/
def missing : SourceFault := .unavailable "No such file or directory"

/-- The file at a path. -/
def file? (memory : MemoryWorkspace) (path : String) : Option MemoryFile := memory.files.lookup path

/-- Writes a file.  Unless a time is given, the n-th write is stamped with n thousand. -/
def write (memory : MemoryWorkspace) (path : String) (text : List Char)
    (time? : Option (Option Int)) : MemoryWorkspace :=
  let writes := memory.writes + 1
  let time := time?.getD (some (1000 * writes))
  { memory with
    writes := writes
    files := (path, ⟨text, time⟩) :: memory.files.filter (·.1 ≠ path) }

/-- Removes a file. -/
def delete (memory : MemoryWorkspace) (path : String) : MemoryWorkspace :=
  { memory with files := memory.files.filter (·.1 ≠ path) }

/-- A set of paths with one path put in or taken out. -/
def toggle (paths : List String) (path : String) (on : Bool) : List String :=
  let others := paths.filter (· ≠ path)
  if on then path :: others else others

/-- What queries see of the files. -/
def view (memory : MemoryWorkspace) (pace : Pace) : Workspace where
  text path :=
    match memory.file? path with
    | some file => if memory.unreadable.contains path then .error missing else .ok file.text
    | none => .error missing
  diskTime path :=
    match memory.file? path with
    | some file => .ok file.time
    | none => .error missing
  modified path :=
    match (memory.file? path).bind (·.time) with
    | some time =>
      if memory.untimed.contains path then .error (.unavailable "stat failed") else .ok time
    | none => .error (.unavailable "stat failed")
  isDirty path := memory.dirty.contains path
  pace := pace

end MemoryWorkspace

end TemplateAtlas
