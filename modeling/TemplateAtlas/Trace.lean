import TemplateAtlas.Text.Split

/-!
# Traces

Everything that a query does to the outside world, and everything it has to say about it, is an event
in a trace.

* `Trace.reads`, `Trace.stats` — the paths whose text or modification time was asked for, in order.
* `Trace.peak` — the largest number of texts that were being read at the same time.
* `Trace.records` — the messages, sorted.
-/

namespace TemplateAtlas

/-- Something that happened during a query. -/
inductive Event where
  | readStarted (path : String)
  | readEnded (path : String)
  | statted (path : String)
  | indexed (path : String) (count : Nat)
  | statFailed (path reason : String)
  | skipped (path reason : String)
  deriving DecidableEq, Repr

/-- How much attention a message asks for. -/
inductive Severity where
  | debug
  | warning
  deriving DecidableEq, Repr

/-- A message for the log. -/
structure Record where
  severity : Severity
  message : String
  deriving DecidableEq, Repr

/-- The message that an event leaves in the log. -/
def Event.record? : Event → Option Record
  | indexed path count => some ⟨.debug, s!"indexed {path}: {count} templates"⟩
  | statFailed path reason => some ⟨.debug, s!"stat failed for {path} ({reason}); rebuilding"⟩
  | skipped path reason => some ⟨.warning, s!"skipping {path}: {reason}"⟩
  | _ => none

/-- Events, oldest first. -/
abbrev Trace := List Event

namespace Trace

/-- The paths whose text was asked for. -/
def reads (trace : Trace) : List String :=
  trace.filterMap fun | .readStarted path => some path | _ => none

/-- The paths whose modification time was asked for. -/
def stats (trace : Trace) : List String :=
  trace.filterMap fun | .statted path => some path | _ => none

/-- The largest number of reads under way at a time, from the number under way before. -/
def peakFrom (active : Nat) : Trace → Nat
  | [] => active
  | .readStarted _ :: trace => max active (peakFrom (active + 1) trace)
  | .readEnded _ :: trace => max active (peakFrom (active - 1) trace)
  | _ :: trace => peakFrom active trace

/-- The largest number of texts read at the same time. -/
def peak (trace : Trace) : Nat := peakFrom 0 trace

/-- The messages with the given severity, sorted. -/
def messages (severity : Severity) (trace : Trace) : List String :=
  Text.sortedTexts ((trace.filterMap (·.record?)).filterMap fun record =>
    if record.severity = severity then some record.message else none)

/-- The messages, sorted by severity and then by text. -/
def records (trace : Trace) : List Record :=
  (messages .debug trace).map (⟨.debug, ·⟩) ++ (messages .warning trace).map (⟨.warning, ·⟩)

/-- The events that left a message. -/
def logged (trace : Trace) : Trace := trace.filter (·.record?.isSome)

/-- The events that touched the outside world. -/
def touched (trace : Trace) : Trace := trace.filter (·.record?.isNone)

end Trace

end TemplateAtlas
