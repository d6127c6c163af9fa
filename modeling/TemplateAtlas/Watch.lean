import TemplateAtlas.Disk
import TemplateAtlas.Flags

/-!
# Watching for changes

A watcher receives events about files and flags the paths they name.

* `WatchEvent.changedPaths` — the paths that an event flags.  Events about folders, and events that leave the
  contents of files alone, flag nothing.  Paths are flagged in their normal spelling.
* `Watcher` — whether events are delivered.  A watcher can be started only on a root that exists.
-/

namespace TemplateAtlas

/-- What happened to a file. -/
inductive ChangeKind where
  | created
  | modified
  | deleted
  | moved
  /-- Something that leaves files as they are, such as opening one. -/
  | harmless
  deriving DecidableEq, Repr

/-- An event about a file or a folder.  The target is empty unless something was moved there. -/
structure WatchEvent where
  kind : ChangeKind
  onFolder : Bool
  source : String
  target : String
  deriving DecidableEq, Repr

/-- The paths that an event flags. -/
def WatchEvent.changedPaths (event : WatchEvent) : List String :=
  if event.onFolder || event.kind = .harmless then []
  else
    let named := if event.target.isEmpty then [event.source] else [event.source, event.target]
    named.map fun path => (Path.ofText path).text

/-- Flags the paths that an event is about. -/
def Flags.observe (flags : Flags) (event : WatchEvent) : Flags := flags.markAll event.changedPaths

/-- What delivers the events below a root. -/
structure Watcher where
  root : Path
  running : Bool := false
  deriving DecidableEq, Repr

namespace Watcher

/-- Starts a watcher; one that is running goes on. -/
def start (disk : Disk) (watcher : Watcher) : Except DiskFault Watcher :=
  if watcher.running then .ok watcher
  else (disk.nodeAt watcher.root.text).map fun _ => { watcher with running := true }

/-- Stops a watcher. -/
def stop (watcher : Watcher) : Watcher := { watcher with running := false }

end Watcher

end TemplateAtlas
