import TemplateAtlas.Path
import TemplateAtlas.Text.Quoted

/-!
# A disk

A disk is a tree of files, folders and symbolic links, with a current folder from which relative paths
are read, and with a clock that dates the changes to folders.

* `Disk.locate` — follows a path through the tree to the place it leads to.  Every component but the
  last must lead to a folder, links are followed, and two points lead to the folder above the one
  that was reached.
* `Disk.resolve` — the absolute form of a path, without links and points.  Unlike `locate` it goes on
  where nothing exists.
* `Disk.pathExists`, `Disk.read`, `Disk.stat` — whether a path leads to something, the bytes of a file,
  and its size and time.  Nobody is kept from anything that stands on the disk.
* `Disk.makeFolders`, `Disk.write`, `Disk.append`, `Disk.createFile`, `Disk.remove`, `Disk.symlink`,
  `Disk.touch` — changes.

**The current folder.** When the current folder is removed, a point still leads to it and two points to
the folder above, but it holds nothing, nothing can be put into it, and relative paths have no absolute
form any more.  Making a folder of the same name does not bring it back.
-/

namespace TemplateAtlas

/-- Why the disk refuses a request. -/
inductive DiskFault where
  | missing
  | notAFolder
  | isAFolder
  | alreadyThere
  | notEmpty
  | invalid
  | nameTooLong
  | tooManyLinks
  /-- The path has no absolute form without links, since a link in it leads back to itself. -/
  | linkLoop (path : String)
  | nulInPath
  deriving DecidableEq, Repr

/-- The fault in words. -/
def DiskFault.message : DiskFault → String
  | missing => "No such file or directory"
  | notAFolder => "Not a directory"
  | isAFolder => "Is a directory"
  | alreadyThere => "File exists"
  | notEmpty => "Directory not empty"
  | invalid => "Invalid argument"
  | nameTooLong => "File name too long"
  | tooManyLinks => "Too many levels of symbolic links"
  | linkLoop path => "Symlink loop from " ++ Text.quoted path
  | nulInPath => "embedded null byte"

/-- A file with its bytes, a folder with its entries, each with its modification time, or a link to
another path. -/
inductive Node where
  | file (bytes : List UInt8) (time : Int)
  | folder (entries : List (String × Node)) (time : Int)
  | link (target : String)

namespace Node

/-- The node below this one at a place given by names. -/
def at? : Node → List String → Option Node
  | node, [] => some node
  | folder entries _, name :: place => (entries.lookup name).bind (·.at? place)
  | _, _ :: _ => none

/-- Entries with the node of one name put in, replaced or taken out. -/
def setEntry (name : String) (node? : Option Node) :
    List (String × Node) → List (String × Node)
  | [] => (node?.map fun node => (name, node)).toList
  | (other, old) :: rest =>
    if other = name then (node?.map fun node => (name, node)).toList ++ rest
    else (other, old) :: setEntry name node? rest

/-- Puts a node at a place whose folder exists, or takes out the node there.  A folder that gains or
loses an entry is dated `now`. -/
def put (now : Int) (node? : Option Node) : List String → Node → Node
  | [], node => node?.getD node
  | [name], folder entries time =>
    let time := if (entries.lookup name).isSome = node?.isSome then time else now
    folder (setEntry name node? entries) time
  | name :: place, folder entries time =>
    match entries.lookup name with
    | none => folder entries time
    | some child => folder (setEntry name (some (put now node? place child)) entries) time
  | _ :: _, node => node

/-- The node with another modification time; a link has none of its own. -/
def withTime (time : Int) : Node → Node
  | file bytes _ => file bytes time
  | folder entries _ => folder entries time
  | link target => link target

/-- The node is a folder. -/
def isFolder : Node → Bool
  | folder _ _ => true
  | _ => false

/-- The number of links among some entries and below them. -/
def linksAmong : List (String × Node) → Nat
  | [] => 0
  | (_, .file _ _) :: entries => linksAmong entries
  | (_, .link _) :: entries => linksAmong entries + 1
  | (_, .folder inner _) :: entries => linksAmong inner + linksAmong entries
termination_by entries => sizeOf entries

/-- The number of links in a tree. -/
def linkCount (node : Node) : Nat := linksAmong [("", node)]

end Node

/-- A tree of nodes, the place of the current folder, and the time of the next change. -/
structure Disk where
  root : Node
  current : List String
  now : Int

/-- What can be asked about a file without reading it. -/
structure FileStat where
  time : Int
  size : Nat
  deriving DecidableEq, Repr

namespace Disk

open Text

/-- The components of a spelled path; empty ones count as single points. -/
def components (path : String) : List String :=
  (splitAtChar '/' path.toList).map String.ofList

/-- The place from which a path is followed. -/
def origin (disk : Disk) (path : String) : List String :=
  if path.toList.head? = some '/' then [] else disk.current

/-- The longest name that a folder can hold, in bytes. -/
def maxNameBytes : Nat := 255

/-- The longest path that can be followed, in bytes. -/
def maxPathBytes : Nat := 4095

/-- The number of links that are followed on the way to one place. -/
def maxLinks : Nat := 40

/-- What is asked of the last component of a path. -/
inductive LastStep where
  /-- It exists, and is followed if it is a link. -/
  | followed
  /-- It exists, and a link is taken for itself. -/
  | kept
  /-- It is followed if it is a link, and need not exist.  A slash after it asks for a folder, and such
  a thing is not created. -/
  | created
  deriving DecidableEq, Repr

/-- The name under which a removed current folder is kept in the folder above.  No component of a path
is spelled so, since empty ones count as points. -/
def goneName : String := ""

/-- The place is that of a removed current folder. -/
def isGone (place : List String) : Bool := place.getLast? = some goneName

/-- Follows components from a place, up to the first link; `onward` follows what a link stands for and
the components after it. -/
def walk (disk : Disk) (last : LastStep)
    (onward : List String → List String → Except DiskFault (List String)) (place : List String) :
    List String → Except DiskFault (List String)
  | [] => .ok place
  | name :: names =>
    match disk.root.at? place with
    | none => .error .missing
    | some (.folder entries _) =>
      if name = "" || name = "." then walk disk last onward place names
      else if name = ".." then walk disk last onward place.dropLast names
      else if isGone place then .error .missing
      else if last = .created && !names.isEmpty && names.all (·.isEmpty) then .error .isAFolder
      else if maxNameBytes < name.utf8ByteSize then .error .nameTooLong
      else
        match entries.lookup name with
        | none =>
          if names.isEmpty && last = .created then .ok (place ++ [name]) else .error .missing
        | some (.link target) =>
          if names.isEmpty && last = .kept then .ok (place ++ [name])
          else
            let start := if target.toList.head? = some '/' then [] else place
            onward start (components target ++ names)
        | some _ => walk disk last onward (place ++ [name]) names
    | some _ => .error .notAFolder

/-- Follows components from a place, through at most the given number of links. -/
def follow (disk : Disk) (last : LastStep) :
    Nat → List String → List String → Except DiskFault (List String)
  | 0 => disk.walk last fun _ _ => .error .tooManyLinks
  | links + 1 => disk.walk last (follow disk last links)

/-- Follows a path.  The empty path leads nowhere. -/
def trace (disk : Disk) (last : LastStep) (path : String) : Except DiskFault (List String) :=
  if path.toList.contains '\x00' then .error .nulInPath
  else if path.isEmpty then .error .missing
  else if maxPathBytes < path.utf8ByteSize then .error .nameTooLong
  else disk.follow last maxLinks (disk.origin path) (components path)

/-- The place that a path leads to. -/
def locate (disk : Disk) (path : String) : Except DiskFault (List String) :=
  disk.trace .followed path

/-- The node that a path leads to. -/
def nodeAt (disk : Disk) (path : String) : Except DiskFault Node :=
  match disk.locate path with
  | .error fault => .error fault
  | .ok place =>
    match disk.root.at? place with
    | none => .error .missing
    | some node => .ok node

/-- Whether a path leads to something.  Only a name that no folder can hold is a fault. -/
def pathExists (disk : Disk) (path : String) : Except DiskFault Bool :=
  match disk.nodeAt path with
  | .ok _ => .ok true
  | .error .nameTooLong => .error .nameTooLong
  | .error _ => .ok false

/-- What is said of a folder on the disk that cannot be opened by its path: here only of one whose path is
too long to be followed. -/
def refusal? (path : String) : Option String :=
  if maxPathBytes < path.utf8ByteSize then
    some ("[Errno 36] " ++ DiskFault.nameTooLong.message ++ ": " ++ Text.quoted path)
  else none

/-- The size that is reported for a folder. -/
def folderSize : Nat := 4096

/-- The size and time of what a path leads to. -/
def stat (disk : Disk) (path : String) : Except DiskFault FileStat :=
  match disk.nodeAt path with
  | .error fault => .error fault
  | .ok (.file bytes time) => .ok ⟨time, bytes.length⟩
  | .ok (.folder _ time) => .ok ⟨time, folderSize⟩
  | .ok (.link _) => .error .missing

/-- The bytes of the file that a path leads to. -/
def read (disk : Disk) (path : String) : Except DiskFault (List UInt8) :=
  match disk.nodeAt path with
  | .error fault => .error fault
  | .ok (.file bytes _) => .ok bytes
  | .ok _ => .error .isAFolder

/-- The place that a path without links leads to. -/
def placeOf (disk : Disk) (path : Path) : List String :=
  path.parts.foldl (fun place name => if name = ".." then place.dropLast else place ++ [name])
    (if path.isAbsolute then [] else disk.current)

/-- Removes points and follows links, component by component, whether anything exists or not, after a
path from which they have been removed.  `within` are the links that are being followed, as they were
reached; one of them that comes up again is a loop, and the rest of the components is left as it is.  What
a link stands for is left to `enter?`, and the rest is left as it is where that is not there. -/
def resolveSteps (disk : Disk) (within : List Path)
    (enter? : Option (List Path → Path → List String → Bool × Path)) (path : Path) :
    List String → Bool × Path
  | [] => (true, path)
  | name :: names =>
    let inside := path.step name
    if name = "" || name = "." || name = ".." then resolveSteps disk within enter? inside names
    else
      match disk.root.at? (disk.placeOf inside) with
      | some (.link target) =>
        match enter? with
        | none => (false, names.foldl Path.step inside)
        | some enter =>
          if within.contains inside then (false, names.foldl Path.step inside)
          else
            let start := if target.toList.head? = some '/' then ⟨.slash, []⟩ else path
            match enter (inside :: within) start (components target) with
            | (false, path) => (false, names.foldl Path.step path)
            | (true, path) => resolveSteps disk within enter? path names
      | _ => resolveSteps disk within enter? inside names

/-- Removes points and follows links.  Any number of links is followed that are no loop, and the number
given here bounds how many there are. -/
def resolveFrom (disk : Disk) : Nat → List Path → Path → List String → Bool × Path
  | 0, within => disk.resolveSteps within none
  | links + 1, within => disk.resolveSteps within (some (resolveFrom disk links))

/-- The number of ways in which links can be reached: from the root, or from the current folder or one
above it. -/
def waysToLinks (disk : Disk) : Nat := disk.root.linkCount * (disk.current.length + 2)

/-- The absolute form of a path, without links and points. -/
def resolve (disk : Disk) (path : Path) : Except DiskFault Path :=
  if path.parts.any (·.toList.contains '\x00') then .error .nulInPath
  else if !path.isAbsolute && isGone disk.current then .error .missing
  else
    let start : Path := ⟨if path.isAbsolute then .slash else .relative, []⟩
    let (_, found) := disk.resolveFrom (disk.waysToLinks + 1) [] start path.parts
    let resolved : Path := ⟨.slash, disk.placeOf found⟩
    match disk.nodeAt resolved.text with
    | .error .tooManyLinks => .error (.linkLoop resolved.text)
    | _ => .ok resolved

/-- The disk with a node put in, replaced or taken out at a place. -/
def putAt (disk : Disk) (place : List String) (node? : Option Node) : Disk :=
  { disk with root := disk.root.put disk.now node? place, now := disk.now + 1 }

/-- An empty folder, made now. -/
def newFolder (disk : Disk) : Node := .folder [] disk.now

/-- Puts a node under a path where nothing stands yet, in a folder that exists. -/
def putNew (disk : Disk) (path : Path) (node : Node) : Except DiskFault Disk :=
  match disk.trace .kept path.text with
  | .ok _ => .error .alreadyThere
  | .error .missing =>
    match disk.locate path.parent.text with
    | .error fault => .error fault
    | .ok place =>
      if isGone place then .error .missing
      else .ok (disk.putAt (place ++ [path.name]) (some node))
  | .error fault => .error fault

/-- Makes a folder in one that exists, unless it is there already. -/
def makeFolder (disk : Disk) (path : Path) : Except DiskFault Unit × Disk :=
  match disk.putNew path disk.newFolder with
  | .ok disk => (.ok (), disk)
  | .error fault =>
    match disk.nodeAt path.text with
    | .ok node => (if node.isFolder then .ok () else .error fault, disk)
    | .error .nameTooLong => (.error .nameTooLong, disk)
    | .error _ => (.error fault, disk)

/-- Makes the folder with the given number of components of a path.  If it cannot be made because
something above it is missing, the folder above it is made first.  Folders that were made before a
fault stay. -/
def makeFoldersUpTo (path : Path) : Nat → Disk → Except DiskFault Unit × Disk
  | 0, disk => disk.makeFolder { path with parts := [] }
  | depth + 1, disk =>
    let folder : Path := { path with parts := path.parts.take (depth + 1) }
    match disk.makeFolder folder with
    | (.error .missing, _) =>
      match makeFoldersUpTo path depth disk with
      | (.error fault, disk) => (.error fault, disk)
      | (.ok (), disk) => disk.makeFolder folder
    | made => made

/-- Makes a folder and those above it, as far as they do not exist. -/
def makeFolders (disk : Disk) (path : Path) : Except DiskFault Unit × Disk :=
  makeFoldersUpTo path path.parts.length disk

/-- The place of the file that a path names, whether it exists or not, and its present bytes. -/
def openFile (disk : Disk) (path : Path) : Except DiskFault (List String × List UInt8) :=
  match disk.trace .created path.text with
  | .error fault => .error fault
  | .ok place =>
    match disk.root.at? place with
    | none => .ok (place, [])
    | some (.file bytes _) => .ok (place, bytes)
    | some _ => .error .isAFolder

/-- Writes a file, and makes the folders above it. -/
def write (disk : Disk) (path : Path) (bytes : List UInt8) (time : Int) :
    Except DiskFault Unit × Disk :=
  match disk.makeFolders path.parent with
  | (.error fault, disk) => (.error fault, disk)
  | (.ok (), disk) =>
    match disk.openFile path with
    | .error fault => (.error fault, disk)
    | .ok (place, _) => (.ok (), disk.putAt place (some (.file bytes time)))

/-- Writes at the end of a file, which is made if it does not exist. -/
def append (disk : Disk) (path : Path) (bytes : List UInt8) : Except DiskFault Disk :=
  (disk.openFile path).map fun (place, old) =>
    disk.putAt place (some (.file (old ++ bytes) disk.now))

/-- Makes an empty file, if there is none. -/
def createFile (disk : Disk) (path : Path) : Except DiskFault Disk :=
  (disk.openFile path).map fun (place, _) =>
    if (disk.root.at? place).isSome then disk else disk.putAt place (some (.file [] disk.now))

/-- The longest start of a place at which something stands. -/
def standing (disk : Disk) (place : List String) : List String :=
  (((List.range (place.length + 1)).reverse.map place.take).find?
    fun start => (disk.root.at? start).isSome).getD []

/-- The disk with its current folder kept apart, if that has been removed. -/
def keepCurrent (disk : Disk) : Disk :=
  if (disk.root.at? disk.current).isSome then disk
  else
    let place := disk.standing disk.current ++ [goneName]
    { disk.putAt place (some disk.newFolder) with current := place }

/-- Removes what stands at a path; a link is removed itself, and a folder with all that is in it.  A
folder that is named by points loses what is in it and stays, since it is looked for once more by its
path. -/
def remove (disk : Disk) (path : Path) : Except DiskFault Unit × Disk :=
  match disk.trace .kept path.text with
  | .error fault => (.error fault, disk)
  | .ok place =>
    let emptied := (disk.putAt place (some disk.newFolder)).keepCurrent
    match path.parts.getLast? with
    | none => (.error .invalid, emptied)
    | some name =>
      if name = ".." then
        match emptied.locate path.parent.text with
        | .error fault => (.error fault, emptied)
        | .ok _ => (.error .notEmpty, emptied)
      else (.ok (), (disk.putAt place none).keepCurrent)

/-- Puts a link at a path, of which the last component is the name of the link. -/
def symlink (disk : Disk) (target path : String) : Except DiskFault Disk :=
  if target.toList.contains '\x00' || path.toList.contains '\x00' then .error .nulInPath
  else if target.isEmpty then .error .missing
  else if maxPathBytes < target.utf8ByteSize then .error .nameTooLong
  else if path.isEmpty then .error .missing
  else if maxPathBytes < path.utf8ByteSize then .error .nameTooLong
  else
    match (components path).reverse.dropWhile (·.isEmpty) with
    | [] => .error .alreadyThere
    | name :: above =>
      match disk.follow .followed maxLinks (disk.origin path) (above.reverse ++ [""]) with
      | .error fault => .error fault
      | .ok place =>
        if name = "." || name = ".." then .error .alreadyThere
        else if isGone place then .error .missing
        else if maxNameBytes < name.utf8ByteSize then .error .nameTooLong
        else if (disk.root.at? (place ++ [name])).isSome then .error .alreadyThere
        else if path.toList.getLast? = some '/' then .error .missing
        else .ok (disk.putAt (place ++ [name]) (some (.link target)))

/-- Sets the time of a file or folder. -/
def touch (disk : Disk) (path : String) (time : Int) : Except DiskFault Disk :=
  match disk.locate path with
  | .error fault => .error fault
  | .ok place =>
    .ok (disk.putAt place ((disk.root.at? place).map (·.withTime time)))

end Disk

end TemplateAtlas
