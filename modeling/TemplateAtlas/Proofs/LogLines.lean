import Mathlib.Data.List.DropRight
import Mathlib.Data.List.Forall2
import Mathlib.Data.List.Nodup
import Mathlib.Tactic.Common
import TemplateAtlas.Proofs.Ranges
import TemplateAtlas.Proofs.Reading
import TemplateAtlas.Proofs.TornSpellings
import TemplateAtlas.Proofs.Utf8Bytes
import TemplateAtlas.Proofs.WrittenFiles
import TemplateAtlas.QueryLog

/-!
# The log returns what was logged

Events are logged one after the other, and somebody else writes lines to the same file in between.  What is read
from the log are the newest of the events, in the order in which they were logged.

**Lines.**  The line of an event spells a table of nine fields, and the tables of its failures inside it
(`QueryEvent.line_severable`, which says in addition what is read where the line breaks off).  The fields come back
in the order of their names, so that an entry that is read records an event up to the order of the fields of its
failures: `LogEntry.Records`.  Its texts come back as their code points.  An event with a count of too many digits
makes no line.  Three levels of nesting are enough to read a line.

**Files.**  `QueryLog.run` is any number of writes.  Whatever is written, the file holds what it held before and
the lines that were written, each with a line feed behind it (`QueryLog.run_openFile`).

**Entries.**  The lines are told apart again, because no line holds a line break, and each of them is read for
itself (`entriesOf_lines`).  The window of the newest is taken last: `QueryLog.recent_run`.
-/

namespace TemplateAtlas

open JsonText Text

/-! ## Lines -/

/-- The table that is read holds the texts of a failure, in some order. -/
def LoggedFailure.IsTable (table : List (Codes × Value Codes)) (failure : LoggedFailure) : Prop :=
  table.Perm (failure.fields.map fun (name, text) => (codes name, .text (codes text)))

/-- The entry holds what was logged about an event, field by field. -/
structure LogEntry.Records (entry : LogEntry) (event : QueryEvent) : Prop where
  timestamp : entry.timestamp = .text (codes event.timestamp)
  queryId : entry.queryId = .text (codes event.queryId)
  operation : entry.operation = .text (codes event.operation)
  name : entry.name = .text (codes event.name)
  candidateCount : entry.candidateCount = .int event.candidateCount
  matchCount : entry.matchCount = .int event.matchCount
  cacheHits : entry.cacheHits = .int event.cacheHits
  rebuilt : entry.rebuilt = .int event.rebuilt
  failures : ∃ tables, entry.failures = .list (tables.map .table) ∧
    List.Forall₂ LoggedFailure.IsTable tables event.failures

/-- The entry that is read of an event, with the table that is read of its failures. -/
def QueryEvent.reading (event : QueryEvent) (failures : Value Codes) : LogEntry where
  timestamp := .text (codes event.timestamp)
  queryId := .text (codes event.queryId)
  operation := .text (codes event.operation)
  name := .text (codes event.name)
  candidateCount := .int event.candidateCount
  matchCount := .int event.matchCount
  cacheHits := .int event.cacheHits
  rebuilt := .int event.rebuilt
  failures := failures

/-- The table that an entry is read from, up to the order of its fields. -/
def LogEntry.table (entry : LogEntry) : List (Codes × Value Codes) :=
  entry.fields.map fun (name, value) => (codes name, value)

section

variable {levels depth : Nat} {sequel : List Char} (hsequel : Sequel levels sequel)
  (hdepth : levels ≤ depth)

include hsequel hdepth

lemma LoggedFailure.severable (failure : LoggedFailure) :
    ∃ table, failure.IsTable table ∧
      SeverableTable sequel (depth + 1) (render failure.value) table := by
  refine severable_render_table hsequel hdepth ?_ ?_
  · rw [List.forall₂_map_left_iff, List.forall₂_map_right_iff, List.forall₂_same]
    rintro ⟨name, text⟩ -
    refine ⟨rfl, ?_⟩
    rw [render]
    exact severable_text hsequel hdepth text
  · have hdistinct := List.Nodup.map codes_injective failure.distinct
    rw [List.map_map] at hdistinct ⊢
    exact hdistinct

/-- The failures of an event are written as a list of their tables. -/
lemma severable_failures (failures : List LoggedFailure) :
    ∃ tables, List.Forall₂ LoggedFailure.IsTable tables failures ∧
      Severable sequel (depth + 2) (render (.list (failures.map (·.value)))) (.list (tables.map .table)) := by
  have htables : ∃ tables, List.Forall₂ LoggedFailure.IsTable tables failures ∧
      List.Forall₂ (fun item value => Severable sequel (depth + 1) (render item) value)
        (failures.map (·.value)) (tables.map .table) := by
    induction failures with
    | nil => exact ⟨[], .nil, .nil⟩
    | cons failure failures ih =>
        obtain ⟨table, htable, hfailure⟩ := failure.severable hsequel hdepth
        obtain ⟨tables, htables, hothers⟩ := ih
        exact ⟨table :: tables, .cons htable htables, .cons hfailure.toSeverable hothers⟩
  obtain ⟨tables, hare, hitems⟩ := htables
  exact ⟨tables, hare, severable_render_list hsequel (Nat.le_succ_of_le hdepth) hitems⟩

/-- Each of the nine fields of an event may break off, if none of its counts has too many digits. -/
lemma QueryEvent.severable_fields {event : QueryEvent} (h : event.isWritable = true) {failures : Value Codes}
    (hfailures : Severable sequel depth (render event.entry.failures) failures) :
    List.Forall₂ (fun field value => codes field.1 = value.1 ∧ Severable sequel depth (render field.2) value.2)
      event.entry.fields (event.reading failures).table := by
  have htext : ∀ s, Severable sequel depth (render (.text s)) (.text (codes s)) := by
    intro s
    rw [render]
    exact severable_text hsequel hdepth s
  have hint : ∀ count ∈ event.counts, Severable sequel depth (render (.int count)) (.int count) := by
    intro count hcount
    rw [render]
    exact severable_int hsequel hdepth (of_decide_eq_true (List.all_eq_true.mp h count hcount))
  simp only [QueryEvent.counts, List.forall_mem_cons] at hint
  obtain ⟨hcandidates, hmatches, hhits, hrebuilt, -⟩ := hint
  exact .cons ⟨rfl, htext event.timestamp⟩ <| .cons ⟨rfl, htext event.queryId⟩ <|
    .cons ⟨rfl, htext event.operation⟩ <| .cons ⟨rfl, htext event.name⟩ <|
    .cons ⟨rfl, hcandidates⟩ <| .cons ⟨rfl, hmatches⟩ <| .cons ⟨rfl, hhits⟩ <|
    .cons ⟨rfl, hrebuilt⟩ <| .cons ⟨rfl, hfailures⟩ .nil

end

/-- No name of the nine occurs twice. -/
lemma LogEntry.nodup_table (entry : LogEntry) : (entry.table.map (·.1)).Nodup := by
  have hnames : (entry.fields.map (·.1)).Nodup := by simp [LogEntry.fields]
  have hcodes := List.Nodup.map codes_injective hnames
  rw [LogEntry.table]
  rw [List.map_map] at hcodes ⊢
  exact hcodes

/-- A table with the fields of an entry is that entry, in whatever order it has them. -/
lemma LogEntry.ofValue?_perm {entry : LogEntry} {fields : List (Codes × Value Codes)}
    (h : fields.Perm entry.table) : LogEntry.ofValue? (.table fields) = some entry := by
  have hnodup : (fields.map (·.1)).Nodup := (h.map (·.1)).nodup_iff.mpr entry.nodup_table
  have hfield : ∀ field ∈ entry.fields, (Value.table fields).field? (codes field.1) = some field.2 :=
    fun field hmem => lookup_eq_of_nodup hnodup (h.mem_iff.mpr (List.mem_map_of_mem hmem))
  have hlength : (Value.table fields).fields.length = 9 := h.length_eq
  simp only [LogEntry.fields, List.forall_mem_cons] at hfield
  obtain ⟨h1, h2, h3, h4, h5, h6, h7, h8, h9, -⟩ := hfield
  rw [LogEntry.ofValue?, h1, h2, h3, h4, h5, h6, h7, h8, h9]
  simp only [Option.bind_eq_bind, Option.bind_some, hlength, if_true]

/-- **The line of an event spells its entry**, and may break off. -/
theorem QueryEvent.line_severable {event : QueryEvent} (h : event.isWritable = true) {levels depth : Nat}
    {sequel : List Char} (hsequel : Sequel levels sequel) (hdepth : levels ≤ depth) :
    ∃ (entry : LogEntry) (fields : List (Codes × Value Codes)), entry.Records event ∧
      fields.Perm entry.table ∧ SeverableTable sequel (depth + 3) event.line fields := by
  obtain ⟨tables, htables, hfailures⟩ := severable_failures hsequel hdepth event.failures
  have hnext : levels ≤ depth + 2 := Nat.le_add_right_of_le hdepth
  obtain ⟨fields, hperm, hline⟩ := severable_render_table hsequel hnext
    (event.severable_fields hsequel hnext h hfailures) (LogEntry.nodup_table _)
  exact ⟨_, fields, ⟨rfl, rfl, rfl, rfl, rfl, rfl, rfl, rfl, tables, rfl, htables⟩, hperm, hline⟩

/-- Behind a character that is no blank, blanks are dropped at the end only. -/
lemma strip_cons {c : Char} (hc : isBlank c = false) (s : List Char) : strip (c :: s) = c :: stripEnd s := by
  rw [strip, stripStart, List.dropWhile_cons_of_neg (by simp [hc]), stripEnd, stripEnd, List.reverse_cons,
    List.dropWhile_append]
  split_ifs with hempty
  · rw [List.isEmpty_iff.mp hempty, List.dropWhile_cons_of_neg (by simp [hc])]
    rfl
  · rw [List.reverse_append, List.reverse_singleton, List.singleton_append]

/-- Nothing is dropped behind a character that is no blank. -/
lemma stripEnd_concat {c : Char} (hc : isBlank c = false) (s : List Char) :
    stripEnd (s ++ [c]) = s ++ [c] := by
  rw [stripEnd, List.reverse_append, List.reverse_singleton, List.singleton_append,
    List.dropWhile_cons_of_neg (by simp [hc]), List.reverse_cons, List.reverse_reverse]

lemma stripEnd_front (s : List Char) : stripEnd s <+: s := by
  rw [stripEnd, ← List.reverse_suffix, List.reverse_reverse]
  exact List.dropWhile_suffix _

/-- A line that starts and ends with a brace has no blanks around it. -/
lemma strip_braces (s : List Char) : strip ('\x7b' :: s ++ ['\x7d']) = '\x7b' :: s ++ ['\x7d'] := by
  rw [List.cons_append, strip_cons (by decide), stripEnd_concat (by decide)]

lemma strip_render_table (fields : List (String × Value)) :
    strip (render (.table fields)) = render (.table fields) := by
  rw [render]
  exact strip_braces _

/-- A text that spells a value is one line. -/
lemma unbroken_of_spells {depth : Nat} {text : List Char} {value : Value Codes} (h : Spells depth text value) :
    '\n' ∉ text ∧ '\r' ∉ text :=
  ⟨fun hmem => absurd (h.plain _ hmem) (by decide), fun hmem => absurd (h.plain _ hmem) (by decide)⟩

/-- A line that spells a table with the fields of an entry is that entry. -/
lemma LogEntry.ofLine_of_spells {levels : Nat} {entry : LogEntry} {line : List Char}
    {fields : List (Codes × Value Codes)} (hstrip : strip line = line)
    (hspells : Spells levels line (.table fields)) (hperm : fields.Perm entry.table) :
    LogEntry.ofLine levels line = .ok (some entry) := by
  obtain ⟨c, rest, hline, -⟩ := hspells.head
  rw [LogEntry.ofLine, hstrip, hline]
  simp only
  rw [← hline, hspells.parse]
  simp only [LogEntry.ofValue?_perm hperm]

/-- **A line that was written is read as an entry that records its event**, and is one line. -/
theorem QueryEvent.ofLine_line {event : QueryEvent} (h : event.isWritable = true) {levels : Nat}
    (hlevels : 3 ≤ levels) : ('\n' ∉ event.line ∧ '\r' ∉ event.line) ∧
      ∃ entry : LogEntry, LogEntry.ofLine levels event.line = .ok (some entry) ∧ entry.Records event := by
  obtain ⟨depth, rfl⟩ := Nat.exists_eq_add_of_le' hlevels
  obtain ⟨entry, fields, hrecords, hperm, hline⟩ :=
    QueryEvent.line_severable h Sequel.nil (Nat.zero_le depth)
  exact ⟨unbroken_of_spells hline.toSpells, entry,
    LogEntry.ofLine_of_spells (strip_render_table _) hline.toSpells hperm, hrecords⟩

/-! ## Files -/

/-- What is written to a log: an event, or a line by somebody else. -/
inductive LogWrite where
  | own (event : QueryEvent)
  | foreign (line : List Char)
  deriving DecidableEq, Repr

/-- The event that is logged by a write, if it can be. -/
def LogWrite.logged? : LogWrite → Option QueryEvent
  | own event => if event.isWritable then some event else none
  | foreign _ => none

/-- The lines that a write leaves in the file. -/
def LogWrite.lines : LogWrite → List (List Char)
  | own event => if event.isWritable then [event.line] else []
  | foreign line => [line]

/-- Lines with a line feed behind each. -/
def fileText (lines : List (List Char)) : List Char := lines.flatMap (· ++ ['\n'])

namespace QueryLog

/-- A write to the log, which may fail, and the event if it could be logged. -/
def take (log : QueryLog) (disk : Disk) : LogWrite → Option QueryEvent × Disk
  | .own event =>
    match log.append event disk with
    | (.ok (), disk) => (some event, disk)
    | (.error _, disk) => (none, disk)
  | .foreign line =>
    match disk.append log.path (Utf8.encode (line ++ ['\n'])) with
    | .ok disk => (none, disk)
    | .error _ => (none, disk)

/-- Any number of writes, and the events that could be logged. -/
def run (log : QueryLog) : List LogWrite → Disk → List QueryEvent × Disk
  | [], disk => ([], disk)
  | write :: writes, disk =>
    let (logged?, disk) := log.take disk write
    let (events, disk) := log.run writes disk
    (logged?.toList ++ events, disk)

/-- Bytes that are added at the end of a file are found there. -/
lemma append_openFile {disk : Disk} {path : Path} {place : List String} {old : List UInt8}
    (h : disk.openFile path = .ok (place, old)) (bytes : List UInt8) :
    ∃ after, disk.append path bytes = .ok after ∧ after.openFile path = .ok (place, old ++ bytes) := by
  refine ⟨_, ?_, (Disk.openFile_putAt h (old ++ bytes) disk.now).2.2⟩
  rw [Disk.append, h]
  rfl

/-- A file that is made where there is none is empty, and otherwise it stays as it is. -/
lemma createFile_openFile {disk : Disk} {path : Path} {place : List String} {old : List UInt8}
    (h : disk.openFile path = .ok (place, old)) :
    ∃ after, disk.createFile path = .ok after ∧ after.openFile path = .ok (place, old) := by
  rw [Disk.createFile, h]
  refine ⟨_, rfl, ?_⟩
  rcases Disk.nodeAt_of_openFile h with ⟨time, hat, -⟩ | ⟨hat, hold, -⟩
  · simp only [hat, Option.isSome_some, if_true, h]
  · simp only [hat, Option.isSome_none, Bool.false_eq_true, if_false]
    rw [hold]
    exact (Disk.openFile_putAt h [] disk.now).2.2

/-- One write adds its lines at the end of the file, whatever is in it. -/
lemma take_openFile {log : QueryLog} {disk : Disk} {place : List String} {text : List Char}
    (h : disk.openFile log.path = .ok (place, Utf8.encode text)) (write : LogWrite) :
    (log.take disk write).1 = write.logged? ∧
      (log.take disk write).2.openFile log.path
        = .ok (place, Utf8.encode (text ++ fileText write.lines)) := by
  cases write with
  | foreign line =>
      obtain ⟨after, happend, hopen⟩ := append_openFile h (Utf8.encode (line ++ ['\n']))
      rw [take, happend, LogWrite.logged?, LogWrite.lines, fileText, List.flatMap_singleton,
        Utf8.encode_append]
      exact ⟨rfl, hopen⟩
  | own event =>
      rw [take, QueryLog.append, LogWrite.logged?, LogWrite.lines]
      by_cases hwritable : event.isWritable = true
      · obtain ⟨after, happend, hopen⟩ := append_openFile h (Utf8.encode (event.line ++ ['\n']))
        simp only [hwritable, if_true, appendLine, happend, fileText, List.flatMap_singleton]
        rw [Utf8.encode_append text]
        exact ⟨trivial, hopen⟩
      · obtain ⟨after, hcreate, hopen⟩ := createFile_openFile h
        simp only [hwritable, Bool.false_eq_true, if_false, hcreate, fileText, List.flatMap_nil,
          List.append_nil]
        exact ⟨trivial, hopen⟩

/-- **A log holds what it held and the lines that were written**, in the order in which they were, and an event is
refused only if one of its counts has too many digits. -/
theorem run_openFile {log : QueryLog} {place : List String} (writes : List LogWrite) :
    ∀ {disk : Disk} {text : List Char}, disk.openFile log.path = .ok (place, Utf8.encode text) →
      (log.run writes disk).1 = writes.filterMap (·.logged?) ∧
        (log.run writes disk).2.openFile log.path
          = .ok (place, Utf8.encode (text ++ fileText (writes.flatMap (·.lines)))) := by
  induction writes with
  | nil =>
      intro disk text h
      rw [List.flatMap_nil, fileText, List.flatMap_nil, List.append_nil]
      exact ⟨rfl, h⟩
  | cons write writes ih =>
      intro disk text h
      obtain ⟨hlogged, hopen⟩ := take_openFile h write
      obtain ⟨hevents, hafter⟩ := ih hopen
      rw [List.append_assoc, fileText, fileText, ← List.flatMap_append] at hafter
      refine ⟨?_, hafter⟩
      rw [run]
      simp only [hevents, hlogged]
      cases hwrite : write.logged? with
      | none => rw [List.filterMap_cons_none hwrite, Option.toList_none, List.nil_append]
      | some event => rw [List.filterMap_cons_some hwrite, Option.toList_some, List.singleton_append]

end QueryLog

/-! ## Entries -/

lemma unifyNewlines_of_not_mem {text : List Char} (h : '\r' ∉ text) : unifyNewlines text = text := by
  induction text with
  | nil => rfl
  | cons c text ih =>
      rw [List.mem_cons, not_or] at h
      rw [unifyNewlines, ih h.2]
      · exact fun _ hc => absurd hc.symm h.1
      · exact Ne.symm h.1

/-- The lines of a file are told apart, if no line has a line feed in it. -/
lemma terminatedLines_fileText {lines : List (List Char)} (h : ∀ line ∈ lines, '\n' ∉ line)
    (rest : List Char) : terminatedLines (fileText lines ++ rest) = lines ++ terminatedLines rest := by
  induction lines with
  | nil => rfl
  | cons line lines ih =>
      have hothers := ih fun other hmem => h other (List.mem_cons_of_mem _ hmem)
      rw [fileText] at hothers ⊢
      rw [List.flatMap_cons, List.append_assoc, List.append_assoc, List.singleton_append,
        terminatedLines_line (h line List.mem_cons_self), hothers, List.cons_append]

/-- There are no carriage returns in a file but those in its lines. -/
lemma return_not_mem_fileText {lines : List (List Char)} (h : ∀ line ∈ lines, '\r' ∉ line) :
    '\r' ∉ fileText lines := by
  intro hmem
  obtain ⟨line, hline, hc⟩ := List.mem_flatMap.mp hmem
  rw [List.mem_append, List.mem_singleton] at hc
  rcases hc with hc | hc
  · exact h line hline hc
  · exact absurd hc (by decide)

/-- The lines of a file are those that were written, if no line has a line break in it. -/
lemma lines_fileText {lines : List (List Char)} (h : ∀ line ∈ lines, '\n' ∉ line ∧ '\r' ∉ line) :
    terminatedLines (unifyNewlines (fileText lines)) = lines := by
  have hlines := terminatedLines_fileText (fun line hline => (h line hline).1) []
  rw [List.append_nil, terminatedLines, List.append_nil] at hlines
  rw [unifyNewlines_of_not_mem (return_not_mem_fileText fun line hline => (h line hline).2), hlines]

/-- The event was logged at the moment or later; every event was if no moment is given. -/
def QueryEvent.isSince (since? : Option Codes) (event : QueryEvent) : Bool :=
  since?.all fun since => decide (since ≤ codes event.timestamp)

/-- A moment given as a string is compared with the timestamp as strings are. -/
lemma QueryEvent.isSince_codes (since : String) (event : QueryEvent) :
    event.isSince (some (codes since)) = decide (since ≤ event.timestamp) :=
  decide_eq_decide.mpr (codes_le_codes_iff since event.timestamp)

/-- An entry was logged when its event was. -/
lemma LogEntry.Records.isSince {entry : LogEntry} {event : QueryEvent} (h : entry.Records event)
    (since? : Option Codes) : entry.isSince since? = .ok (event.isSince since?) := by
  cases since? with
  | none => rfl
  | some since =>
      unfold LogEntry.isSince
      rw [h.timestamp]
      rfl

/-- Somebody else writes one line at a time, and none that is an entry. -/
def LogWrite.Harmless (levels : Nat) : LogWrite → Prop
  | own _ => True
  | foreign line => '\n' ∉ line ∧ '\r' ∉ line ∧ LogEntry.ofLine levels line = .ok none

/-- No line holds a line break. -/
lemma LogWrite.Harmless.unbroken {levels : Nat} {write : LogWrite} (h : write.Harmless levels) :
    ∀ line ∈ write.lines, '\n' ∉ line ∧ '\r' ∉ line := by
  cases write with
  | foreign line =>
      intro other hmem
      rw [LogWrite.lines, List.mem_singleton] at hmem
      exact hmem ▸ ⟨h.1, h.2.1⟩
  | own event =>
      intro other hmem
      rw [LogWrite.lines] at hmem
      split_ifs at hmem with hwritable
      · rw [List.mem_singleton] at hmem
        exact hmem ▸ (QueryEvent.ofLine_line hwritable (Nat.le_refl 3)).1
      · exact absurd hmem List.not_mem_nil

/-- **The entries of the lines record the events**: those that were logged, in the same order, since the
moment. -/
theorem entriesOf_lines {levels : Nat} (hlevels : 3 ≤ levels) (since? : Option Codes) {writes : List LogWrite}
    (h : ∀ write ∈ writes, write.Harmless levels) :
    ∃ entries, entriesOf levels since? (writes.flatMap (·.lines)) = .ok entries ∧
      List.Forall₂ LogEntry.Records entries
        ((writes.filterMap (·.logged?)).filter (·.isSince since?)) := by
  induction writes with
  | nil => exact ⟨[], rfl, .nil⟩
  | cons write writes ih =>
      obtain ⟨entries, hentries, hrecords⟩ := ih fun other hmem => h other (List.mem_cons_of_mem _ hmem)
      have hwrite := h write List.mem_cons_self
      rw [List.flatMap_cons, List.filterMap_cons]
      cases write with
      | foreign line =>
          refine ⟨entries, ?_, hrecords⟩
          rw [LogWrite.lines, List.singleton_append, entriesOf, hwrite.2.2]
          exact hentries
      | own event =>
          rw [LogWrite.lines, LogWrite.logged?]
          by_cases hwritable : event.isWritable = true
          · obtain ⟨-, entry, hline, hentry⟩ := QueryEvent.ofLine_line hwritable hlevels
            rw [if_pos hwritable, if_pos hwritable, List.singleton_append, entriesOf, hline,
              List.filter_cons]
            simp only [hentry.isSince]
            cases event.isSince since? with
            | false => exact ⟨entries, hentries, hrecords⟩
            | true => exact ⟨entry :: entries, by rw [hentries]; rfl, .cons hentry hrecords⟩
          · rw [if_neg hwritable, if_neg hwritable, List.nil_append]
            exact ⟨entries, hentries, hrecords⟩

namespace QueryLog

/-- A log that can be opened is read from its bytes; one that does not exist is as good as an empty one. -/
lemma recent_of_openFile {levels : Nat} {log : QueryLog} {disk : Disk} {place : List String} {bytes : List UInt8}
    (h : disk.openFile log.path = .ok (place, bytes)) (since? : Option Codes) {limit : Int}
    (hpos : 1 ≤ limit) (hlimit : limit ≤ maxLimit) :
    recent levels log since? limit disk = newest levels bytes since? limit.toNat := by
  rw [recent, if_neg (by omega), Disk.pathExists]
  rcases Disk.nodeAt_of_openFile h with ⟨time, -, hnode⟩ | ⟨-, hbytes, hnode⟩
  · rw [hnode, Disk.read, hnode]
    simp only [if_neg (Int.not_lt.mpr hlimit)]
  · simp only [hnode, hbytes]
    rw [newest, Utf8.decode?]
    simp only [unifyNewlines, terminatedLines, entriesOf, Except.map, List.drop_nil]

/-- What is read from a file that holds the lines of some writes. -/
lemma recent_of_writes {levels : Nat} (hlevels : 3 ≤ levels) {log : QueryLog} {disk : Disk} {place : List String}
    {text : List Char} (hopen : disk.openFile log.path = .ok (place, Utf8.encode text)) {writes : List LogWrite}
    (hlines : terminatedLines (unifyNewlines text) = writes.flatMap (·.lines))
    (hharmless : ∀ write ∈ writes, write.Harmless levels) (since? : Option Codes) {limit : Int}
    (hpos : 1 ≤ limit) (hlimit : limit < 0x8000000000000000) :
    ∃ entries, recent levels log since? limit disk = .ok entries ∧
      List.Forall₂ LogEntry.Records entries
        (((writes.filterMap (·.logged?)).filter (·.isSince since?)).rtake limit.toNat) := by
  obtain ⟨entries, hentries, hrecords⟩ := entriesOf_lines hlevels since? hharmless
  refine ⟨entries.drop (entries.length - limit.toNat), ?_, ?_⟩
  · rw [recent_of_openFile hopen since? hpos (Int.le_sub_one_of_lt hlimit), newest,
      Utf8.decode?_encode]
    simp only
    rw [hlines, hentries]
    rfl
  · rw [List.rtake, ← hrecords.length_eq]
    exact List.forall₂_drop _ hrecords

/-- **The log returns what was logged.**  Let events be logged in a log that is empty, and let somebody else
write lines to it in between that are no entries.  The events that are logged are those of which no count has too
many digits.  Of those since any moment, the newest are read, as many as are asked for: in the order in which they
were logged, and each field by field. -/
theorem recent_run {levels : Nat} (hlevels : 3 ≤ levels) {log : QueryLog} {disk : Disk} {place : List String}
    (hempty : disk.openFile log.path = .ok (place, [])) {writes : List LogWrite}
    (hharmless : ∀ write ∈ writes, write.Harmless levels) (since? : Option Codes) {limit : Int}
    (hpos : 1 ≤ limit) (hlimit : limit < 0x8000000000000000) :
    (log.run writes disk).1 = writes.filterMap (·.logged?) ∧
      ∃ entries, recent levels log since? limit (log.run writes disk).2 = .ok entries ∧
        List.Forall₂ LogEntry.Records entries
          (((log.run writes disk).1.filter (·.isSince since?)).rtake limit.toNat) := by
  have hstart : disk.openFile log.path = .ok (place, Utf8.encode []) := hempty
  obtain ⟨hlogged, hopen⟩ := run_openFile writes hstart
  have hlines : terminatedLines (unifyNewlines ([] ++ fileText (writes.flatMap (·.lines))))
      = writes.flatMap (·.lines) := by
    refine lines_fileText fun line hmem => ?_
    obtain ⟨write, hwrite, hline⟩ := List.mem_flatMap.mp hmem
    exact (hharmless write hwrite).unbroken line hline
  refine ⟨hlogged, ?_⟩
  rw [hlogged]
  exact recent_of_writes hlevels hopen hlines hharmless since? hpos hlimit

/-- A log whose file holds a text. -/
def holding (text : List Char) : QueryLog × Disk :=
  (⟨.ofText "log"⟩, ⟨.folder [("log", .file (Utf8.encode text) 0)] 0, [], 0⟩)

/-- The text is found there, by readers and by writers. -/
lemma holding_file (text : List Char) :
    (holding text).2.read (holding text).1.path.text = .ok (Utf8.encode text) ∧
      (holding text).2.openFile (holding text).1.path = .ok (["log"], Utf8.encode text) := by
  have hpath : (holding text).1.path.text = "log" := by
    change (Path.ofText "log").text = "log"
    decide +kernel
  rw [Disk.openFile, hpath]
  exact ⟨rfl, rfl⟩

/-- An event with quotes, line breaks and characters beyond the first plane in its texts. -/
def quotedEvent (timestamp : String) : QueryEvent where
  timestamp := timestamp
  queryId := "a \"quoted\" \\ text"
  operation := "two\nlines\x01"
  name := "\u2028 and 𝄞"
  candidateCount := 3
  matchCount := 0
  cacheHits := -12
  rebuilt := 1
  failures := [.of "a.soy" "read" "it is\r\na folder"]

/-- The event at two moments, with a line between that is no entry. -/
def quotedWrites : List LogWrite :=
  [.own (quotedEvent "2024"), .foreign "no entry".toList, .own (quotedEvent "2025")]

/-- A log that does not exist yet. -/
def fresh : QueryLog × Disk := (⟨.ofText "log"⟩, ⟨.folder [] 0, [], 0⟩)

theorem recent_run_quoted :
    ∃ entry : LogEntry, entry.Records (quotedEvent "2025") ∧
      recent 987 fresh.1 (some (codes "2023")) 1 (fresh.1.run quotedWrites fresh.2).2 = .ok [entry] := by
  have hempty : fresh.2.openFile fresh.1.path = .ok (["log"], []) := by decide +kernel
  have hharmless : ∀ write ∈ quotedWrites, write.Harmless 987 := by
    simp only [quotedWrites, List.forall_mem_cons]
    exact ⟨trivial, ⟨by decide, by decide, rfl⟩, trivial, fun _ h => absurd h List.not_mem_nil⟩
  obtain ⟨hlogged, entries, hentries, hrecords⟩ :=
    recent_run (by decide) hempty hharmless (some (codes "2023")) (Int.le_refl 1) (by decide)
  have hnewest : ((quotedWrites.filterMap (·.logged?)).filter (·.isSince (some (codes "2023")))).rtake
      (1 : Int).toNat = [quotedEvent "2025"] := by decide +kernel
  rw [hlogged, hnewest] at hrecords
  cases hrecords with
  | cons hentry hothers =>
      cases hothers with
      | nil => exact ⟨_, hentry, hentries⟩

end QueryLog

end TemplateAtlas
