import TemplateAtlas.Call
import TemplateAtlas.Config
import TemplateAtlas.Finder
import TemplateAtlas.ProjectFiles
import TemplateAtlas.QueryLog
import TemplateAtlas.Watch
import TemplateAtlas.Workspace.Files
import TemplateAtlas.Workspace.Memory

/-!
# The index service

A service answers questions about the templates of one project.  It holds the settings, the open
documents, the atlas of cached indexes and change flags, and the number of queries it has logged; the
disk belongs to the outside world, and every operation that touches it takes the disk as it is and gives
back the disk as it leaves it.

* `Service.create` — the service for a project on disk.
* `Service.search`, `Service.findInProject` — queries over given files and over all files of the project.
  When the project has a query log, every report is logged before it is returned (`Service.conclude`).  A log
  that cannot be written makes the operation fail, but whatever the query did to the atlas stays.
* `Service.openDocument`, `Service.updateDocument`, `Service.saveDocument`, `Service.closeDocument` — what an
  editor reports.  Each of them flags the path, so that the next query looks at it again.
* `Service.notifyChanged`, `Service.observe` — changes reported by the caller or by a watcher.
-/

namespace TemplateAtlas

open Text

variable {σ : Type}

/-- Where a service finds the texts of files: on disk under open documents, or in memory. -/
inductive TextSource where
  | documents (documents : Documents)
  | memory (files : MemoryWorkspace)
  deriving DecidableEq, Repr

/-- What queries see of the outside world.  Files on disk are read as UTF-8, and memory answers at
once. -/
def TextSource.view (pace : Pace) (disk : Disk) : TextSource → Workspace
  | .documents opened => opened.view pace disk .utf8
  | .memory files => files.view { afterwards := pace.afterwards }

/-- Why a service refuses a request. -/
inductive ServiceFault where
  | config (fault : ConfigFault)
  | settings (fault : SettingsFault)
  | disk (fault : DiskFault)
  | query (fault : QueryFault)
  | project (fault : ProjectFault)
  | untiled (fault : TilingFault)
  | log (fault : LogFault)
  /-- Something given as a path is none. -/
  | notAPath
  /-- Only a service that reads from disk knows open documents. -/
  | withoutDocuments
  deriving DecidableEq, Repr

/-- The fault in words. -/
def ServiceFault.message : ServiceFault → String
  | config fault => fault.message
  | settings fault => fault.message
  | disk fault => fault.message
  | query fault => fault.message
  | project fault => fault.message
  | untiled fault => fault.message
  | log fault => fault.message
  | notAPath => QueryFault.notAPath.message
  | withoutDocuments => "Open documents require a FilesystemTextSource text source."

/-- The service for one project. -/
structure Service (σ : Type) where
  config : Config
  source : TextSource
  /-- How long the disk takes, and how long the one who asks goes on when a query has ended. -/
  pace : Pace
  atlas : Atlas σ
  log? : Option QueryLog
  watcher? : Option Watcher
  /-- The number of query ids that were given out. -/
  queries : Nat := 0

/-- How the queries of a project are answered. -/
def Config.settings (config : Config) : Settings where
  extension := config.extension
  wildcard := config.wildcard
  maxConcurrency := config.maxConcurrency
  reflag := config.reflag.isTruthy

/-- The files of a project. -/
def Config.project (config : Config) : ProjectFiles := ⟨config.root, config.excludeGlobs⟩

namespace Service

/-! ## Creation -/

/-- Starts a watcher on a root, if one is asked for. -/
def watcherFor (watch : Bool) (root : Path) (disk : Disk) : Except DiskFault (Option Watcher) :=
  if watch then some <$> Watcher.start disk ⟨root, false⟩ else .ok none

/-- Prepares the query log, if there is one. -/
def logFor (path? : Option Path) (disk : Disk) : Except DiskFault (Option QueryLog × Disk) :=
  match path? with
  | none => .ok (none, disk)
  | some path => (QueryLog.create path disk).map fun (log, disk) => (some log, disk)

/-- The service for a project on disk, whose settings file has the given name and is read with room for nesting of the
given weight. -/
def create (weight : Nat) (fileName : String) (root : Path) (overrides : Overrides) (source : TextSource)
    (pace : Pace) (watch : Bool) (memory : σ) (disk : Disk) : Except ServiceFault (Service σ × Disk) := do
  let config ← (Config.load weight disk fileName root overrides).mapError .config
  let watcher? ← (watcherFor watch config.root disk).mapError .disk
  let (log?, disk) ← (logFor config.auditLog disk).mapError .disk
  let _ ← config.settings.accept.mapError .settings
  .ok ({ config, source, pace, atlas := { memory := memory }, log?, watcher? }, disk)

/-! ## Queries -/

/-- A fresh query id, numbered from one. -/
def nextQueryId (service : Service σ) : String × Service σ :=
  let number := service.queries + 1
  ("q-" ++ padded 6 number, { service with queries := number })

/-- Logs a report, if there is a log.  The counts of a report are lengths of lists, which have few
digits. -/
def logReport (operation : String) (report : Report) (now : Int) (disk : Disk)
    (service : Service σ) : Except ServiceFault Report × Service σ × Disk :=
  match service.log? with
  | none => (.ok report, service, disk)
  | some log =>
    let (queryId, service) := service.nextQueryId
    match log.appendLine (report.event now queryId operation) disk with
    | .ok disk => (.ok report, service, disk)
    | .error fault => (.error (.disk fault), service, disk)

/-- What the queries of a service see. -/
def view (service : Service σ) (disk : Disk) : Workspace := service.source.view service.pace disk

/-- Takes over what a query has come to, and logs its report. -/
def conclude (operation : String) (now : Int) (disk : Disk) (service : Service σ)
    (outcome : Except QueryFault Report × Atlas σ) : Except ServiceFault Report × Service σ × Disk :=
  let service := { service with atlas := outcome.2 }
  match outcome.1 with
  | .error fault => (.error (.query fault), service, disk)
  | .ok report => service.logReport operation report now disk

/-- Asks for a name in some candidates, and logs the report. -/
def ask (lexer : LineLexer σ) (operation name : String) (candidates : List Candidate) (all : Bool)
    (now : Int) (disk : Disk) (service : Service σ) :
    Except ServiceFault Report × Service σ × Disk :=
  service.conclude operation now disk (Search.queryCandidates lexer (service.view disk)
    service.config.settings name candidates all service.atlas)

/-- The templates of a name in some files. -/
def search (lexer : LineLexer σ) (name : String) (candidates : List Candidate) (all : Bool)
    (now : Int) (disk : Disk) (service : Service σ) :
    Except ServiceFault Report × Service σ × Disk :=
  service.ask lexer "search" name candidates all now disk

/-- The file on disk looks like text. -/
def looksLikeText (disk : Disk) (path : String) : Bool :=
  (isTextFile disk path).toOption.getD false

/-- The templates of a name in the text files of the project. -/
def findInProject (lexer : LineLexer σ) (name : String) (now : Int) (disk : Disk)
    (service : Service σ) : Except ServiceFault Report × Service σ × Disk :=
  match service.config.project.list Disk.refusal? disk (looksLikeText disk) with
  | .error fault => (.error (.project fault), service, disk)
  | .ok paths =>
    service.ask lexer "find_in_project" name (paths.map .spelled) false now disk

/-- The templates of a name in a text, without regard to any file. -/
def findInText (lexer : LineLexer σ) (text : List Char) (name : String) (service : Service σ) :
    Except ServiceFault (List TextMatch) × Service σ :=
  let (outcome, memory) :=
    Finder.findInText lexer text name service.config.wildcard service.atlas.memory
  (outcome.mapError .untiled, { service with atlas := { service.atlas with memory := memory } })

/-- The name called on a line of a text. -/
def calledNameAt (lexer : LineLexer σ) (text : List Char) (line : Int) (service : Service σ) :
    Option String × Service σ :=
  let (name?, memory) := Call.nameAt lexer text line service.atlas.memory
  (name?, { service with atlas := { service.atlas with memory := memory } })

/-- The newest entries of the query log, read with room for so many levels of nesting; none if there is no
log. -/
def recentQueries (levels : Nat) (since? : Option Codes) (limit : Int) (disk : Disk) (service : Service σ) :
    Except ServiceFault (List LogEntry) :=
  match service.log? with
  | none => .ok []
  | some log => (log.recent levels since? limit disk).mapError .log

/-! ## Changes -/

/-- Flags a path. -/
def mark (path : String) (service : Service σ) : Service σ :=
  { service with atlas := service.atlas.mark path }

/-- Flags paths one after the other, up to the first that is none. -/
def notifyChanged : List Candidate → Service σ → Except ServiceFault Unit × Service σ
  | [], service => (.ok (), service)
  | candidate :: candidates, service =>
    match candidate.spelling? with
    | none => (.error .notAPath, service)
    | some path => notifyChanged candidates (service.mark path)

/-- Flags the paths of an event. -/
def observe (event : WatchEvent) (service : Service σ) : Service σ :=
  { service with atlas := { service.atlas with flags := service.atlas.flags.observe event } }

/-- Changes the open documents and flags the path that the change is about. -/
def editDocuments (path : String) (edit : Documents → Documents) (service : Service σ) :
    Except ServiceFault (Service σ) :=
  match service.source with
  | .memory _ => .error .withoutDocuments
  | .documents documents => .ok (mark path { service with source := .documents (edit documents) })

/-- Opens a document. -/
def openDocument (path : String) (document : Document) (service : Service σ) :
    Except ServiceFault (Service σ) :=
  service.editDocuments path (·.openAt path document)

/-- Takes over an unsaved edit of a document. -/
def updateDocument (path : String) (text : List Char) (service : Service σ) :
    Except ServiceFault (Service σ) :=
  service.editDocuments path (·.update path text)

/-- Notes that a document was saved. -/
def saveDocument (path : String) (service : Service σ) : Except ServiceFault (Service σ) :=
  service.editDocuments path (·.save path)

/-- Forgets a document, so that the file on disk counts again. -/
def closeDocument (path : String) (service : Service σ) : Except ServiceFault (Service σ) :=
  service.editDocuments path (·.close path)

/-- Forgets all cached indexes and all flags. -/
def resetCache (service : Service σ) : Service σ :=
  { service with atlas := service.atlas.reset }

/-- Stops the watcher, if there is one. -/
def close (service : Service σ) : Service σ :=
  { service with watcher? := service.watcher?.map (·.stop) }

end Service

end TemplateAtlas
