import TemplateAtlas.Disk
import TemplateAtlas.JsonText
import TemplateAtlas.Search
import TemplateAtlas.Text.Newline
import TemplateAtlas.Text.Utf8
import TemplateAtlas.Timestamp

/-!
# The query log

Every query leaves one line in a log file, a JSON table of nine fields.

* `QueryEvent` — what is logged about a query, and `QueryEvent.line`, the line it is logged by.
* `QueryLog.append` — adds the line of an event.  Counts with too many digits cannot be written.
* `LogEntry` — what is read back from a line: the nine fields, with whatever values they have.
* `LogEntry.ofLine` — a line that is no table of exactly the nine fields is no entry.
* `QueryLog.recent` — the newest entries, in the order of the log, perhaps only those since a moment.  The
  file is read piece by piece, and the first thing in it that cannot be dealt with decides.

A reader is given the number of levels of nesting for which the one who asks has left room on the stack.
-/

namespace TemplateAtlas

open Text

/-- A file left out of a query, as it is logged: texts under names of which no two are the same. -/
structure LoggedFailure where
  fields : List (String × String)
  distinct : (fields.map (·.1)).Nodup
  deriving DecidableEq, Repr

/-- A file left out, by its path, the stage at which it failed, and the reason. -/
def LoggedFailure.of (path stage reason : String) : LoggedFailure where
  fields := [("path", path), ("stage", stage), ("reason", reason)]
  distinct := by simp

/-- What is logged about a query. -/
structure QueryEvent where
  timestamp : String
  queryId : String
  operation : String
  name : String
  candidateCount : Int
  matchCount : Int
  cacheHits : Int
  rebuilt : Int
  failures : List LoggedFailure
  deriving DecidableEq, Repr

/-- The failure of a report as it is logged. -/
def Failure.logged (failure : Failure) : LoggedFailure :=
  .of failure.path failure.stage.label failure.reason

/-- What is logged about the report of a query, at a moment. -/
def Report.event (report : Report) (micros : Int) (queryId operation : String) : QueryEvent where
  timestamp := TemplateAtlas.timestamp micros
  queryId := queryId
  operation := operation
  name := report.name
  candidateCount := report.candidateCount
  matchCount := report.locations.length
  cacheHits := report.cacheHits
  rebuilt := report.rebuilt
  failures := report.failures.map (·.logged)

/-- An entry of the log, with the values that its line is made of.  When it is read back, the texts in it are
code points. -/
structure LogEntry (τ : Type := Codes) where
  timestamp : Value τ
  queryId : Value τ
  operation : Value τ
  name : Value τ
  candidateCount : Value τ
  matchCount : Value τ
  cacheHits : Value τ
  rebuilt : Value τ
  failures : Value τ
  deriving Repr

/-- The failure as a table. -/
def LoggedFailure.value (failure : LoggedFailure) : Value :=
  .table (failure.fields.map fun (name, text) => (name, .text text))

/-- The entry that an event makes. -/
def QueryEvent.entry (event : QueryEvent) : LogEntry String where
  timestamp := .text event.timestamp
  queryId := .text event.queryId
  operation := .text event.operation
  name := .text event.name
  candidateCount := .int event.candidateCount
  matchCount := .int event.matchCount
  cacheHits := .int event.cacheHits
  rebuilt := .int event.rebuilt
  failures := .list (event.failures.map (·.value))

namespace LogEntry

/-- The fields of an entry under the names they are logged by. -/
def fields {τ : Type} (entry : LogEntry τ) : List (String × Value τ) :=
  [("timestamp", entry.timestamp), ("query_id", entry.queryId), ("operation", entry.operation),
    ("name", entry.name), ("candidate_count", entry.candidateCount),
    ("match_count", entry.matchCount), ("cache_hits", entry.cacheHits),
    ("rebuilt", entry.rebuilt), ("failures", entry.failures)]

/-- The entry of a table with exactly the nine fields. -/
def ofValue? (value : Value Codes) : Option LogEntry := do
  let entry : LogEntry :=
    { timestamp := ← value.field? (codes "timestamp")
      queryId := ← value.field? (codes "query_id")
      operation := ← value.field? (codes "operation")
      name := ← value.field? (codes "name")
      candidateCount := ← value.field? (codes "candidate_count")
      matchCount := ← value.field? (codes "match_count")
      cacheHits := ← value.field? (codes "cache_hits")
      rebuilt := ← value.field? (codes "rebuilt")
      failures := ← value.field? (codes "failures") }
  if value.fields.length = 9 then some entry else none

end LogEntry

/-- The line of an event, without its line break. -/
def QueryEvent.line (event : QueryEvent) : List Char := JsonText.render (.table event.entry.fields)

/-- The counts of an event. -/
def QueryEvent.counts (event : QueryEvent) : List Int :=
  [event.candidateCount, event.matchCount, event.cacheHits, event.rebuilt]

/-- No count has more digits than can be written. -/
def QueryEvent.isWritable (event : QueryEvent) : Bool :=
  event.counts.all fun count => (Nat.toDigits 10 count.natAbs).length ≤ JsonText.maxDigits

/-- Why the log cannot be read or written. -/
inductive LogFault where
  | disk (fault : DiskFault)
  /-- The file is not well-formed UTF-8. -/
  | undecodable
  /-- A timestamp that is no text cannot be compared with one. -/
  | incomparable
  /-- A line is nested too deep. -/
  | tooDeep
  /-- A line holds a whole number with too many digits. -/
  | tooManyDigits (count : Nat)
  /-- The number of entries asked for is beyond what can be counted. -/
  | limitTooLarge
  /-- A count of an event has too many digits to be written. -/
  | countTooLong
  deriving DecidableEq, Repr

/-- The fault in words. -/
def LogFault.message : LogFault → String
  | disk fault => fault.message
  | undecodable => "The query log is not well-formed UTF-8."
  | incomparable => "A logged timestamp is no text."
  | tooDeep => "A line of the query log is nested too deep."
  | tooManyDigits count => s!"A number in the query log has {count} digits."
  | limitTooLarge => "The limit is too large."
  | countTooLong => "A count has too many digits."

/-- The entry of a line; none if the line is no entry. -/
def LogEntry.ofLine (levels : Nat) (line : List Char) : Except LogFault (Option LogEntry) :=
  match strip line with
  | [] => .ok none
  | text =>
    match JsonText.parse levels text with
    | .ok value => .ok (LogEntry.ofValue? value)
    | .error .malformed => .ok none
    | .error .tooDeep => .error .tooDeep
    | .error (.tooManyDigits count) => .error (.tooManyDigits count)

/-- The entry was logged at the moment or later; every entry is if no moment is given. -/
def LogEntry.isSince (since? : Option Codes) (entry : LogEntry) : Except LogFault Bool :=
  match since?, entry.timestamp with
  | none, _ => .ok true
  | some since, .text moment => .ok (decide (since ≤ moment))
  | some _, _ => .error .incomparable

/-- The entries of some lines, since a moment. -/
def entriesOf (levels : Nat) (since? : Option Codes) : List (List Char) → Except LogFault (List LogEntry)
  | [] => .ok []
  | line :: lines =>
    match LogEntry.ofLine levels line with
    | .error fault => .error fault
    | .ok none => entriesOf levels since? lines
    | .ok (some entry) =>
      match entry.isSince since? with
      | .error fault => .error fault
      | .ok false => entriesOf levels since? lines
      | .ok true => (entriesOf levels since? lines).map (entry :: ·)

/-- A log file. -/
structure QueryLog where
  path : Path
  deriving DecidableEq, Repr

namespace QueryLog

/-- The largest number of entries that can be asked for. -/
def maxLimit : Int := Nat.pow 2 63 - 1

/-- The number of bytes of a log that are read at a time. -/
def readSize : Nat := 8192

/-- The bytes of a log that are read before something turns up that is not well formed. -/
def readable (bytes : List UInt8) : List UInt8 :=
  let pieces := bytes.length / readSize + 1
  let isGood (count : Nat) : Bool := Utf8.isTextSample (bytes.take (count * readSize))
  let count := ((List.range (pieces + 1)).reverse.find? isGood).getD 0
  bytes.take (count * readSize)

/-- The entries of a log with the given bytes, at most `limit` of them and the newest.  A log that is
not well formed is read as far as possible first, so that a fault of an earlier line comes up before
that. -/
def newest (levels : Nat) (bytes : List UInt8) (since? : Option Codes) (limit : Nat) :
    Except LogFault (List LogEntry) :=
  match Utf8.decode? bytes with
  | some text =>
    (entriesOf levels since? (terminatedLines (unifyNewlines text))).map fun entries =>
      entries.drop (entries.length - limit)
  | none =>
    match entriesOf levels since? (endedLines (Utf8.decodeStart (readable bytes))) with
    | .error fault => .error fault
    | .ok _ => .error .undecodable

/-- Prepares a log: the folder it lies in is made. -/
def create (path : Path) (disk : Disk) : Except DiskFault (QueryLog × Disk) :=
  match disk.makeFolders path.parent with
  | (.error fault, _) => .error fault
  | (.ok (), disk) => .ok (⟨path⟩, disk)

/-- Adds the line of an event at the end of the log. -/
def appendLine (log : QueryLog) (event : QueryEvent) (disk : Disk) : Except DiskFault Disk :=
  disk.append log.path (Utf8.encode (event.line ++ ['\n']))

/-- Logs an event.  The file is opened before the line is made, so that it is there even if the event
cannot be written. -/
def append (log : QueryLog) (event : QueryEvent) (disk : Disk) : Except LogFault Unit × Disk :=
  let opened := if event.isWritable then log.appendLine event disk else disk.createFile log.path
  match opened with
  | .error fault => (.error (.disk fault), disk)
  | .ok disk => (if event.isWritable then .ok () else .error .countTooLong, disk)

/-- The newest entries of the log.  A log that does not exist has none. -/
def recent (levels : Nat) (log : QueryLog) (since? : Option Codes) (limit : Int) (disk : Disk) :
    Except LogFault (List LogEntry) :=
  if limit < 1 then .ok []
  else
    match disk.pathExists log.path.text with
    | .error fault => .error (.disk fault)
    | .ok false => .ok []
    | .ok true =>
      if maxLimit < limit then .error .limitTooLarge
      else
        match disk.read log.path.text with
        | .error fault => .error (.disk fault)
        | .ok bytes => newest levels bytes since? limit.toNat

end QueryLog

end TemplateAtlas
