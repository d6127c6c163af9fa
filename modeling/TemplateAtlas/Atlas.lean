import TemplateAtlas.Batch
import TemplateAtlas.Cache
import TemplateAtlas.Flags
import TemplateAtlas.LineLexer
import TemplateAtlas.Trace
import TemplateAtlas.Workspace

/-!
# The atlas: cached indexes under change flags

The atlas is what is kept from query to query: the cache, the flags, the memory of the lexer and the
trace.  Loading a file gives its index, from the cache if that can be trusted.

* `Atlas.trust`, `Atlas.usable?` — the cached index of a path that may be used as it is.  An entry is
  trusted while its path is not flagged.  A flagged path that is open with unsaved edits is always
  built anew; any other flagged path is checked against the modification time on disk.
* `Atlas.startRebuild`, `Atlas.finishRebuild` — the two halves of building an index: first the disk
  time is taken, then the text is read.  In this order a stamp is never newer than the text it
  stands for.  Text with unsaved edits gets no stamp.
* `Atlas.load` — loading a file that is alone in being loaded.
* `Atlas.startLoad`, `Atlas.resumeLoad` — the turns of a load that goes on beside others, and waits for
  each answer of the outside world that takes its time.
-/

namespace TemplateAtlas

variable {σ : Type}

/-- What is kept from query to query. -/
structure Atlas (σ : Type) where
  cache : Cache := {}
  flags : Flags := {}
  memory : σ
  trace : Trace := []

/-- Which question about a file was not answered. -/
inductive Stage where
  | stat
  | read
  deriving DecidableEq, Repr

/-- The stage as it is written in reports. -/
def Stage.label : Stage → String
  | stat => "stat"
  | read => "read"

/-- Why a file could not be loaded. -/
structure LoadFault where
  path : String
  stage : Stage
  cause : SourceFault
  deriving DecidableEq, Repr

/-- A loaded index.  The text is given only if the index was just built from it. -/
structure Loaded where
  path : String
  version : Version
  text? : Option (List Char)
  deriving DecidableEq, Repr

/-- The index was taken from the cache. -/
def Loaded.fromCache (loaded : Loaded) : Bool := loaded.text?.isNone

namespace Atlas

/-- Adds an event to the trace. -/
def note (atlas : Atlas σ) (event : Event) : Atlas σ :=
  { atlas with trace := atlas.trace ++ [event] }

/-- Flags a path. -/
def mark (atlas : Atlas σ) (path : String) : Atlas σ :=
  { atlas with flags := atlas.flags.mark path }

/-- Drops every cached index and every flag. -/
def reset (atlas : Atlas σ) : Atlas σ :=
  { atlas with cache := atlas.cache.clear, flags := .none }

/-- What the flags say about the cached index of a path. -/
inductive Trust where
  /-- There is none, or its text has certainly changed. -/
  | refused
  | granted (version : Version)
  /-- The modification time on disk decides. -/
  | undecided (entry : Cached)
  deriving DecidableEq, Repr

/-- How far the cached index of a path is to be trusted. -/
def trust (workspace : Workspace) (path : String) (atlas : Atlas σ) : Trust :=
  match atlas.cache.get? path with
  | none => .refused
  | some entry =>
    if !atlas.flags.isChanged path then .granted entry.version
    else if workspace.isDirty path then .refused
    else .undecided entry

/-- The cached index of a path, if it may be used as it is. -/
def usable? (workspace : Workspace) (path : String) (atlas : Atlas σ) :
    Except SourceFault (Option Version) × Atlas σ :=
  match atlas.trust workspace path with
  | .refused => (.ok none, atlas)
  | .granted version => (.ok (some version), atlas)
  | .undecided entry =>
    let answer := (workspace.modified path).map fun time =>
      if entry.stamp = some time then some entry.version else none
    (answer, atlas.note (.statted path))

/-! ## Building an index -/

/-- The first half of building an index: the stamp, after which the text is asked for. -/
def startRebuild (workspace : Workspace) (path : String) (atlas : Atlas σ) :
    Except LoadFault (Option Int) × Atlas σ :=
  match workspace.diskTime path with
  | .error cause => (.error ⟨path, .stat, cause⟩, atlas)
  | .ok time =>
    let stamp := if workspace.isDirty path then none else time
    (.ok stamp, atlas.note (.readStarted path))

/-- The second half of building an index: the text arrives, and the index goes into the cache. -/
def finishRebuild (workspace : Workspace) (path : String) (stamp : Option Int) (atlas : Atlas σ) :
    Except LoadFault Loaded × Atlas σ :=
  let atlas := atlas.note (.readEnded path)
  match workspace.text path with
  | .error cause => (.error ⟨path, .read, cause⟩, atlas)
  | .ok text =>
    let index := FileIndex.ofText path text
    let (entry, cache) := atlas.cache.store path index stamp
    let atlas := { atlas with cache := cache }
    (.ok ⟨path, entry.version, some text⟩, atlas.note (.indexed path index.templateCount))

/-- Builds the index of a file. -/
def rebuild (workspace : Workspace) (path : String) (atlas : Atlas σ) :
    Except LoadFault Loaded × Atlas σ :=
  match startRebuild workspace path atlas with
  | (.error fault, atlas) => (.error fault, atlas)
  | (.ok stamp, atlas) => finishRebuild workspace path stamp atlas

/-- Loads a file that is alone in being loaded.  If the check of a cached index fails for want of a
modification time, the index is built. -/
def load (workspace : Workspace) (path : String) (atlas : Atlas σ) :
    Except LoadFault Loaded × Atlas σ :=
  match usable? workspace path atlas with
  | (.ok (some version), atlas) => (.ok ⟨path, version, none⟩, atlas)
  | (.ok none, atlas) => rebuild workspace path atlas
  | (.error (.unavailable reason), atlas) =>
    rebuild workspace path (atlas.note (.statFailed path reason))
  | (.error cause, atlas) => (.error ⟨path, .stat, cause⟩, atlas)

/-! ## Loading among others -/

/-- What a load waits for. -/
inductive LoadStage where
  /-- The modification time that decides about a cached index. -/
  | checking (entry : Cached)
  /-- The disk time that stamps a new index. -/
  | stamping
  /-- The text of an index with the given stamp. -/
  | reading (stamp : Option Int)
  deriving DecidableEq, Repr

/-- What comes of a turn of a load. -/
abbrev LoadStep := Step LoadStage (Except LoadFault Loaded)

/-- A load whose text has arrived. -/
def readText (workspace : Workspace) (path : String) (stamp : Option Int) (atlas : Atlas σ) :
    LoadStep × Atlas σ :=
  let (outcome, atlas) := finishRebuild workspace path stamp atlas
  (.done outcome, atlas)

/-- A load whose stamp has arrived: the text is asked for. -/
def takeStamp (workspace : Workspace) (path : String) (atlas : Atlas σ) : LoadStep × Atlas σ :=
  match startRebuild workspace path atlas with
  | (.error fault, atlas) => (.done (.error fault), atlas)
  | (.ok stamp, atlas) =>
    match workspace.textRounds path with
    | 0 => readText workspace path stamp atlas
    | rounds => (.wait rounds (.reading stamp), atlas)

/-- A load that has to build the index: the stamp is asked for. -/
def askStamp (workspace : Workspace) (path : String) (atlas : Atlas σ) : LoadStep × Atlas σ :=
  match workspace.statRounds with
  | 0 => takeStamp workspace path atlas
  | rounds => (.wait rounds .stamping, atlas)

/-- A load whose cached index is checked.  The entry that is judged is the one from before the wait,
and the one that is used is that of now. -/
def judge (workspace : Workspace) (path : String) (entry : Cached) (atlas : Atlas σ) :
    LoadStep × Atlas σ :=
  match workspace.modified path with
  | .ok time =>
    if entry.stamp = some time then
      let version := ((atlas.cache.get? path).getD entry).version
      (.done (.ok ⟨path, version, none⟩), atlas)
    else askStamp workspace path atlas
  | .error (.unavailable reason) => askStamp workspace path (atlas.note (.statFailed path reason))
  | .error cause => (.done (.error ⟨path, .stat, cause⟩), atlas)

/-- The first turn of a load. -/
def startLoad (workspace : Workspace) (path : String) (atlas : Atlas σ) : LoadStep × Atlas σ :=
  match atlas.trust workspace path with
  | .refused => askStamp workspace path atlas
  | .granted version => (.done (.ok ⟨path, version, none⟩), atlas)
  | .undecided entry =>
    let atlas := atlas.note (.statted path)
    match workspace.statRounds with
    | 0 => judge workspace path entry atlas
    | rounds => (.wait rounds (.checking entry), atlas)

/-- The turn of a load for which an answer has arrived. -/
def resumeLoad (workspace : Workspace) (path : String) (stage : LoadStage) (atlas : Atlas σ) :
    LoadStep × Atlas σ :=
  match stage with
  | .checking entry => judge workspace path entry atlas
  | .stamping => takeStamp workspace path atlas
  | .reading stamp => readText workspace path stamp atlas

end Atlas

end TemplateAtlas
