/-!
# Running a batch of tasks

A query starts one task for each file.  A task asks the outside world for something, waits for the answer,
asks for the next thing, and so on until it ends with a result.  The tasks of a batch share a state, and
what one of them does can matter to those that go on after it.

* `Procedure` — what the tasks of a batch do: how one starts, and how one that had to wait goes on.
* `Batch.advance` — one task takes its next step; any order of steps is an execution of the batch.
* `Batch.run` — the order in which tasks are really executed.  At most a given number of tasks are under
  way; the others wait in line and are let in one by one when another task ends.

**Rounds.** Tasks take turns in rounds.  Whoever is ready takes one turn in a round, first come first
served.  A task that waits for the outside world is ready again after the rounds that the answer takes, and
a task that is let in is ready in the next round.

**Calling off.** A result can call the batch off.  The other tasks go on as if nothing had happened, for as
many rounds as are still held then.  Those that have not ended by then are left under way
(`Batch.unfinished`), and it is up to others whether they ever go on.
-/

namespace TemplateAtlas

/-- What comes of a turn of a task: it waits the given number of rounds and remembers a `κ`, or it ends
with a result `α`. -/
inductive Step (κ α : Type) where
  | wait (rounds : Nat) (held : κ)
  | done (result : α)
  deriving DecidableEq, Repr

/-- What the tasks of a batch do, on a shared state `s`.  A task has an input `ι`. -/
structure Procedure (s ι κ α : Type) where
  start : ι → s → Step κ α × s
  resume : ι → κ → s → Step κ α × s
  /-- The most rounds that a task waits. -/
  patience : Nat

/-- Tasks, each with its input and what came of its last turn if it had one, and the state they
share. -/
structure Batch (s ι κ α : Type) where
  state : s
  tasks : List (ι × Option (Step κ α))

variable {s ι κ α : Type}

/-- The result of a task that has ended. -/
def Step.result? : Step κ α → Option α
  | wait _ _ => none
  | done result => some result

/-- The next turn of a task, given what came of the last one. -/
def Procedure.step (procedure : Procedure s ι κ α) (input : ι) (last? : Option (Step κ α))
    (state : s) : Step κ α × s :=
  match last? with
  | none => procedure.start input state
  | some (.wait _ held) => procedure.resume input held state
  | some (.done result) => (.done result, state)

namespace Batch

/-- A batch with all its tasks still to be started. -/
def ofInputs (state : s) (inputs : List ι) : Batch s ι κ α :=
  ⟨state, inputs.map fun input => (input, none)⟩

/-- The task with the given number takes its next step. -/
def advance (procedure : Procedure s ι κ α) (batch : Batch s ι κ α) (task : Nat) :
    Batch s ι κ α :=
  match batch.tasks[task]? with
  | none => batch
  | some (input, last?) =>
    let (step, state) := procedure.step input last? batch.state
    ⟨state, batch.tasks.set task (input, some step)⟩

/-- What came of the last turn of a task. -/
def lastStep? (batch : Batch s ι κ α) (task : Nat) : Option (Step κ α) :=
  batch.tasks[task]?.bind (·.2)

/-- The results of the tasks that have ended, in the order of the tasks. -/
def results (batch : Batch s ι κ α) : List α :=
  batch.tasks.filterMap fun (_, last?) => last?.bind (·.result?)

/-- The tasks that have not ended, and what came of their last turns. -/
def unfinished (batch : Batch s ι κ α) : List (ι × Option (Step κ α)) :=
  batch.tasks.filter fun (_, last?) => (last?.bind (·.result?)).isNone

/-! ## Taking turns -/

/-- A turn of a task: it asks to be let in, or it goes on. -/
inductive Turn where
  | arrive (task : Nat)
  | proceed (task : Nat)
  deriving DecidableEq, Repr

/-- The turns of the rounds to come, the tasks that wait to be let in, and the number of places that
are free. -/
structure Line where
  rounds : List (List Turn)
  parked : List Nat
  free : Nat
  deriving DecidableEq, Repr

/-- The rounds to come with a turn put at the end of one of them, which is the next one or comes the
given number of rounds later. -/
def book (turn : Turn) : Nat → List (List Turn) → List (List Turn)
  | 0, [] => [[turn]]
  | 0, round :: rounds => (round ++ [turn]) :: rounds
  | later + 1, [] => [] :: book turn later []
  | later + 1, round :: rounds => round :: book turn later rounds

/-- The line after a turn of a task that was let in.  A task that ends leaves its place to the first
one that waits for it. -/
def Line.after (line : Line) (task : Nat) : Step κ α → Line
  | .wait rounds _ => { line with rounds := book (.proceed task) (rounds - 1) line.rounds }
  | .done _ =>
    match line.parked with
    | [] => { line with free := line.free + 1 }
    | next :: parked =>
      { line with rounds := book (.proceed next) 0 line.rounds, parked := parked }

/-- A batch being executed, with the results of the tasks that have ended, in the order in which they
ended. -/
structure Run (s ι κ α : Type) where
  batch : Batch s ι κ α
  line : Line
  ended : List α := []

namespace Run

/-- A task that was let in takes its next step. -/
def proceed (procedure : Procedure s ι κ α) (run : Run s ι κ α) (task : Nat) : Run s ι κ α :=
  let batch := run.batch.advance procedure task
  match batch.lastStep? task with
  | none => run
  | some step =>
    { batch, line := run.line.after task step, ended := run.ended ++ step.result?.toList }

/-- A task takes its turn. -/
def take (procedure : Procedure s ι κ α) (run : Run s ι κ α) : Turn → Run s ι κ α
  | .arrive task =>
    if run.line.free = 0 then
      { run with line := { run.line with parked := run.line.parked ++ [task] } }
    else
      proceed procedure { run with line := { run.line with free := run.line.free - 1 } } task
  | .proceed task => run.proceed procedure task

/-- Holds the next round, if there is one. -/
def holdRound (procedure : Procedure s ι κ α) (run : Run s ι κ α) : Run s ι κ α :=
  match run.line.rounds with
  | [] => run
  | turns :: rounds =>
    turns.foldl (take procedure) { run with line := { run.line with rounds := rounds } }

/-- Holds a number of rounds. -/
def holdRounds (procedure : Procedure s ι κ α) : Nat → Run s ι κ α → Run s ι κ α
  | 0, run => run
  | rounds + 1, run => holdRounds procedure rounds (run.holdRound procedure)

end Run

/-- Holds rounds until nobody has a turn to take, or until the batch is called off and `more` rounds are held
after that; `rounds` bounds the number of those before. -/
def hold (procedure : Procedure s ι κ α) (more : Nat) (callsOff : α → Bool) :
    Nat → Run s ι κ α → Run s ι κ α
  | 0, run => run
  | rounds + 1, run =>
    if run.line.rounds.isEmpty then run
    else
      let run := run.holdRound procedure
      if run.ended.any callsOff then run.holdRounds procedure more
      else hold procedure more callsOff rounds run

/-- Executes the tasks, at most `places` of them at a time.  A task that was let in starts, and then
waits as long as its patience lasts, so that one task after the other is done in the rounds counted
here.  If the batch is called off, `more` rounds are held after that. -/
def run (procedure : Procedure s ι κ α) (places more : Nat) (callsOff : α → Bool) (inputs : List ι)
    (state : s) : Run s ι κ α :=
  let line : Line := ⟨[(List.range inputs.length).map .arrive], [], places⟩
  let rounds := (inputs.length + 1) * (procedure.patience + 2)
  hold procedure more callsOff rounds { batch := ofInputs state inputs, line }

end Batch

end TemplateAtlas
