import TemplateAtlas.Atlas
import TemplateAtlas.Batch
import TemplateAtlas.Candidate
import TemplateAtlas.Resolve

/-!
# Queries over many files

A query asks for the templates of a name, or all templates, in some candidate files.

* **Load.** Every candidate's index is loaded.  A file that cannot be loaded is left out and reported.
* **Settle.** All flags are forgotten, since every flagged candidate has now been checked; the paths that
  failed are flagged again, if the settings say so.
* **Resolve.** In the indexes that hold a selected name, the ends of the selected templates are looked
  for, with the text at hand or read again, and the index in the cache is brought up to date.

The report lists what was found in the order of the candidates, and within a file in the order of the
index.  A fault of the lexer ends the query without a report; so does a path that no file can have.
The fault that came up first in time is the one that is reported.  Whatever the loads and resolves have
done to the atlas by then stays, and so does what they do in the rounds that are held afterwards.  Those
that have not ended by then are left under way (`left`): nobody calls them off but the one who holds the
rounds.
-/

namespace TemplateAtlas

variable {σ : Type}

/-- How queries are answered. -/
structure Settings where
  extension : String := ".soy"
  wildcard : String := "*"
  maxConcurrency : Nat := 8
  reflag : Bool := true
  deriving DecidableEq, Repr

/-- Why no queries can be answered with some settings. -/
inductive SettingsFault where
  /-- They leave no place for a load. -/
  | noPlaces
  deriving DecidableEq, Repr

/-- The fault in words. -/
def SettingsFault.message : SettingsFault → String
  | noPlaces => "max_concurrency must be >= 1"

/-- The settings, if queries can be answered with them. -/
def Settings.accept (settings : Settings) : Except SettingsFault Settings :=
  if settings.maxConcurrency < 1 then .error .noPlaces else .ok settings

/-- A template found in a file, with the lines it covers. -/
structure Location where
  path : String
  name : String
  firstLine : Int
  lastLine : Int
  deriving DecidableEq, Repr

/-- A file left out of a query. -/
structure Failure where
  path : String
  stage : Stage
  reason : String
  deriving DecidableEq, Repr

/-- The answer to a query. -/
structure Report where
  name : String
  locations : List Location
  failures : List Failure
  candidateCount : Nat
  cacheHits : Nat
  rebuilt : Nat
  deriving DecidableEq, Repr

/-- Why a query has no answer. -/
inductive QueryFault where
  | notAPath
  | source (fault : SourceFault)
  | resolve (fault : ResolveFault)
  deriving DecidableEq, Repr

/-- The fault in words. -/
def QueryFault.message : QueryFault → String
  | notAPath => "A path is expected."
  | source fault => fault.message
  | resolve fault => fault.message

/-- What went wrong with one file: it is left out, or the query ends. -/
inductive Mishap where
  | contained (failure : Failure)
  | fatal (fault : QueryFault)
  deriving DecidableEq, Repr

/-- A file that is not available is left out. -/
def LoadFault.mishap (fault : LoadFault) : Mishap :=
  match fault.cause with
  | .unavailable reason => .contained ⟨fault.path, fault.stage, reason⟩
  | cause => .fatal (.source cause)

/-- The outcome ends the query. -/
def isFatal {α : Type} : Except Mishap α → Bool
  | .error (.fatal _) => true
  | _ => false

/-- The first fault that ends a query, in the order of the outcomes. -/
def firstFatal? {α : Type} (outcomes : List (Except Mishap α)) : Option QueryFault :=
  outcomes.findSome? fun | .error (.fatal fault) => some fault | _ => none

/-- The files left out. -/
def failuresOf {α : Type} (outcomes : List (Except Mishap α)) : List Failure :=
  outcomes.filterMap fun | .error (.contained failure) => some failure | _ => none

/-- The outcomes that are no mishaps. -/
def successesOf {α : Type} (outcomes : List (Except Mishap α)) : List α :=
  outcomes.filterMap (·.toOption)

namespace Search

/-- Notes that a file is left out, if it is. -/
def noteMishap (mishap : Mishap) (atlas : Atlas σ) : Atlas σ :=
  match mishap with
  | .contained failure => atlas.note (.skipped failure.path failure.reason)
  | .fatal _ => atlas

/-- The outcome of a load, with a note if the file is left out. -/
def closeLoad (outcome : Except LoadFault Loaded) (atlas : Atlas σ) :
    Except Mishap Loaded × Atlas σ :=
  match outcome with
  | .ok loaded => (.ok loaded, atlas)
  | .error fault => (.error fault.mishap, noteMishap fault.mishap atlas)

/-- What comes of a turn of a load, with a note if the file is left out. -/
def closeStep : Atlas.LoadStep × Atlas σ →
    Step Atlas.LoadStage (Except Mishap Loaded) × Atlas σ
  | (.wait rounds stage, atlas) => (.wait rounds stage, atlas)
  | (.done outcome, atlas) =>
    let (outcome, atlas) := closeLoad outcome atlas
    (.done outcome, atlas)

/-- Loading as a task.  It waits for two times and a text at most. -/
def loading (workspace : Workspace) :
    Procedure (Atlas σ) String Atlas.LoadStage (Except Mishap Loaded) where
  start path atlas := closeStep (atlas.startLoad workspace path)
  resume path stage atlas := closeStep (atlas.resumeLoad workspace path stage)
  patience := 2 * workspace.statRounds + workspace.readRounds

/-- A loaded index and the names that the query selects in it. -/
structure Selected where
  item : Loaded
  names : List String
  deriving DecidableEq, Repr

/-- The range of a template as a location. -/
def locate (path : String) (span : Span) : Location :=
  ⟨path, span.name, span.firstLine, span.lastLine⟩

/-- Resolves the selected names of an index and brings the cache up to date. -/
def resolveWith (lexer : LineLexer σ) (selected : Selected) (text? : Option (List Char))
    (atlas : Atlas σ) : Except Mishap (List Location) × Atlas σ :=
  let { item, names } := selected
  let (outcome, memory) := item.version.index.resolve lexer names text? atlas.memory
  let atlas := { atlas with memory := memory }
  match outcome with
  | .error fault => (.error (.fatal (.resolve fault)), atlas)
  | .ok (index, spans) =>
    let locations := spans.map (locate item.path)
    if item.version.index.isResolved names then (.ok locations, atlas)
    else
      let (version, cache) := atlas.cache.issue index
      let (_, cache) := cache.swap item.path item.version.serial version
      (.ok locations, { atlas with cache := cache })

/-- A resolve whose text has arrived. -/
def resolveRead (lexer : LineLexer σ) (workspace : Workspace) (selected : Selected)
    (atlas : Atlas σ) : Except Mishap (List Location) × Atlas σ :=
  let path := selected.item.path
  let atlas := atlas.note (.readEnded path)
  match workspace.text path with
  | .ok text => resolveWith lexer selected (some text) atlas
  | .error cause =>
    let mishap := (LoadFault.mk path .read cause).mishap
    (.error mishap, noteMishap mishap atlas)

/-- The first turn of a resolve.  A cached index that lacks ranges needs the text of its file. -/
def startResolve (lexer : LineLexer σ) (workspace : Workspace) (selected : Selected)
    (atlas : Atlas σ) : Step Unit (Except Mishap (List Location)) × Atlas σ :=
  let { item, names } := selected
  if item.text?.isNone && !item.version.index.isResolved names then
    let atlas := atlas.note (.readStarted item.path)
    match workspace.textRounds item.path with
    | 0 => (resolveRead lexer workspace selected atlas).map .done id
    | rounds => (.wait rounds (), atlas)
  else (resolveWith lexer selected item.text? atlas).map .done id

/-- Resolving as a task. -/
def resolving (lexer : LineLexer σ) (workspace : Workspace) :
    Procedure (Atlas σ) Selected Unit (Except Mishap (List Location)) where
  start := startResolve lexer workspace
  resume selected _ atlas := (resolveRead lexer workspace selected atlas).map .done id
  patience := workspace.readRounds

/-- Forgets all flags, and flags the paths that failed again if the settings say so. -/
def settle (settings : Settings) (failures : List Failure) (atlas : Atlas σ) : Atlas σ :=
  let again := if settings.reflag then failures.map (·.path) else []
  { atlas with flags := Flags.none.markAll again }

/-- The loaded indexes that hold a selected name. -/
def select (settings : Settings) (name : String) (loaded : List Loaded) : List Selected :=
  (loaded.map fun item => ⟨item, item.version.index.matching name settings.wildcard⟩).filter
    fun selected => !selected.names.isEmpty

/-- The report on the outcomes of both phases. -/
def report (name : String) (loads : List (Except Mishap Loaded))
    (resolves : List (Except Mishap (List Location))) : Report :=
  let loaded := successesOf loads
  { name := name
    locations := (successesOf resolves).flatten
    failures := failuresOf loads ++ failuresOf resolves
    candidateCount := loads.length
    cacheHits := loaded.countP (·.fromCache)
    rebuilt := loaded.countP (!·.fromCache) }

/-- A load or a resolve that a query left under way, and what came of its last turn if it had one. -/
inductive Late where
  | load (path : String) (last? : Option (Step Atlas.LoadStage (Except Mishap Loaded)))
  | resolve (selected : Selected) (last? : Option (Step Unit (Except Mishap (List Location))))

/-- The loads that are under way. -/
def lateLoads (loads : Batch (Atlas σ) String Atlas.LoadStage (Except Mishap Loaded)) : List Late :=
  loads.unfinished.map fun (path, last?) => .load path last?

/-- The resolves that are under way. -/
def lateResolves (resolves : Batch (Atlas σ) Selected Unit (Except Mishap (List Location))) : List Late :=
  resolves.unfinished.map fun (selected, last?) => .resolve selected last?

section

variable (lexer : LineLexer σ) (workspace : Workspace) (settings : Settings) (name : String)

/-- The loads of a query. -/
def runLoads (candidates : List String) (atlas : Atlas σ) :
    Batch.Run (Atlas σ) String Atlas.LoadStage (Except Mishap Loaded) :=
  Batch.run (loading workspace) settings.maxConcurrency workspace.pace.afterwards isFatal candidates atlas

/-- The resolves of a query whose loads have all ended. -/
def runResolves (loads : Batch (Atlas σ) String Atlas.LoadStage (Except Mishap Loaded)) :
    Batch.Run (Atlas σ) Selected Unit (Except Mishap (List Location)) :=
  Batch.run (resolving lexer workspace) settings.maxConcurrency workspace.pace.afterwards isFatal
    (select settings name (successesOf loads.results))
    (settle settings (failuresOf loads.results) loads.state)

/-- Answers a query about files given by their paths. -/
def query (candidates : List String) (atlas : Atlas σ) : Except QueryFault Report × Atlas σ :=
  let loads := runLoads workspace settings candidates atlas
  match firstFatal? loads.ended with
  | some fault => (.error fault, loads.batch.state)
  | none =>
    let resolves := runResolves lexer workspace settings name loads.batch
    match firstFatal? resolves.ended with
    | some fault => (.error fault, resolves.batch.state)
    | none => (.ok (report name loads.batch.results resolves.batch.results), resolves.batch.state)

/-- The loads and resolves that a query leaves under way. -/
def left (candidates : List String) (atlas : Atlas σ) : List Late :=
  let loads := runLoads workspace settings candidates atlas
  match firstFatal? loads.ended with
  | some _ => lateLoads loads.batch
  | none => lateResolves (runResolves lexer workspace settings name loads.batch).batch

end

/-- Answers a query about candidates, all of them or those with the extension of the settings. -/
def queryCandidates (lexer : LineLexer σ) (workspace : Workspace) (settings : Settings)
    (name : String) (candidates : List Candidate) (all : Bool) (atlas : Atlas σ) :
    Except QueryFault Report × Atlas σ :=
  match Candidate.spellings? candidates with
  | none => (.error .notAPath, atlas)
  | some paths =>
    let chosen := filterCandidates settings.extension all paths
    query lexer workspace settings name chosen atlas

end Search

end TemplateAtlas
