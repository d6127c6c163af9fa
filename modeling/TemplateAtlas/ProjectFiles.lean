import TemplateAtlas.Disk
import TemplateAtlas.Exclusion
import TemplateAtlas.Text.Utf8

/-!
# The files of a project

* `isBinary` — whether a file is no text, judged by its first bytes.  A sample that holds a zero byte is
  not text.  A file that ends within the sample has to be well-formed throughout; a longer one may be
  cut off in the middle of a character.
* `ProjectFiles.list` — the files below the root of a project, except those that the globs leave out
  and those that a test refuses, as absolute paths sorted by their paths from the root.  Links are
  neither listed nor followed.  Which folders can be opened is up to the system: `refusal?` is what it
  says of one that cannot.  Such a folder is passed over, unless it is the root.
-/

namespace TemplateAtlas

open Text

/-- The number of bytes by which a file is judged. -/
def sampleSize : Nat := 4096

/-- Bytes that do not look like text. -/
def isBinary (bytes : List UInt8) : Bool :=
  let sample := bytes.take sampleSize
  if sample.contains 0 then true
  else if sample.length < sampleSize then (Utf8.decode? sample).isNone
  else !Utf8.isTextSample sample

/-- The file on disk does not look like text. -/
def isBinaryFile (disk : Disk) (path : String) : Except DiskFault Bool :=
  (disk.read (Path.ofText path).text).map isBinary

/-- The file can be read and looks like text. -/
def isTextFile (disk : Disk) (path : String) : Except DiskFault Bool :=
  match isBinaryFile disk path with
  | .ok binary => .ok !binary
  | .error .nulInPath => .error .nulInPath
  | .error _ => .ok false

/-- A project: its root, and the globs that leave files out. -/
structure ProjectFiles where
  root : Path
  globs : List String
  deriving DecidableEq, Repr

/-- Why the files of a project cannot be listed. -/
inductive ProjectFault where
  | notAFolder (root : Path)
  /-- The root cannot be opened, for the reason given. -/
  | closed (root : Path) (reason : String)
  | disk (fault : DiskFault)
  deriving DecidableEq, Repr

/-- The fault in words. -/
def ProjectFault.message : ProjectFault → String
  | notAFolder root =>
    let shown := root.text
    s!"{shown}: Project root is not a directory."
  | closed root reason => root.text ++ ": " ++ reason
  | disk fault => fault.message

namespace ProjectFiles

/-- A folder that need not be entered: its name is one that the globs stand for, and they leave out
the folder itself. -/
def isPruned (project : ProjectFiles) (name path : String) : Bool :=
  (Exclusion.folderNames project.globs).contains name &&
    Exclusion.isExcluded project.globs (path ++ "/")

/-- The absolute path of a file or folder given by its path from the root. -/
def absolute (project : ProjectFiles) (path : String) : String :=
  (project.root.join (.ofText path)).text

section

variable (project : ProjectFiles) (refusal? : String → Option String)

/-- A folder given by its path from the root can be opened. -/
def opens (path : String) : Bool := (refusal? (project.absolute path)).isNone

/-- The paths of the files among some entries and below them, each with the given text in front. -/
def filesAmong (above : String) : List (String × Node) → List String
  | [] => []
  | (name, .file _ _) :: entries =>
    let path := above ++ name
    let others := filesAmong above entries
    if Exclusion.isExcluded project.globs path then others else path :: others
  | (name, .folder inner _) :: entries =>
    let path := above ++ name
    let others := filesAmong above entries
    if project.isPruned name path || !project.opens refusal? path then others
    else filesAmong (path ++ "/") inner ++ others
  | (_, .link _) :: entries => filesAmong above entries
termination_by entries => sizeOf entries

/-- The files of the project that pass a test. -/
def list (disk : Disk) (accept : String → Bool) : Except ProjectFault (List String) :=
  match disk.nodeAt project.root.text with
  | .ok (.folder entries _) =>
    match refusal? project.root.text with
    | some reason => .error (.closed project.root reason)
    | none =>
      let files := filesAmong project refusal? "" entries
      .ok (((sortedTexts files).map project.absolute).filter accept)
  | .error .nameTooLong => .error (.disk .nameTooLong)
  | _ => .error (.notAFolder project.root)

end

end ProjectFiles

end TemplateAtlas
