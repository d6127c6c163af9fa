import Mathlib.Data.List.Forall2
import Mathlib.Tactic.Common
import TemplateAtlas.Batch

/-!
# What holds of every batch

A batch is executed by letting its tasks take turns, and the order of the turns is nobody's business but
the line's.  This file says what can be relied on without knowing that order.

**Executions.**  `execute` lets tasks take their steps in any order, and `run_eq_execute` says that the
real order is one of those.  Whatever one step keeps, an execution keeps (`execute_keeps`, from the step
conditions `Procedure.Keeps`), and so does a run.  If the tasks have nothing to do with each other, less has
to be shown of a step (`Procedure.KeepsApart`, `execute_keepsApart`).

**Results.**  The results that a run has noted are those of its tasks (`mem_run_ended`).

**Completion.**  If every task of a procedure is done when its patience is over (`Procedure.Patient`), a
run ends with all tasks done or with a result that called it off: `run_finished`.  The rounds that `run`
allows are enough, even if there is only one place.
-/

namespace TemplateAtlas

variable {s ι κ α : Type}

namespace Batch

/-! ## Executions -/

/-- The tasks take their steps in the given order. -/
def execute (procedure : Procedure s ι κ α) (schedule : List Nat) (batch : Batch s ι κ α) :
    Batch s ι κ α :=
  schedule.foldl (advance procedure) batch

lemma execute_concat (procedure : Procedure s ι κ α) (schedule : List Nat) (task : Nat)
    (batch : Batch s ι κ α) :
    execute procedure (schedule ++ [task]) batch
      = (execute procedure schedule batch).advance procedure task := by
  simp [execute]

lemma advance_of_task {procedure : Procedure s ι κ α} {batch : Batch s ι κ α} {task : Nat}
    {input : ι} {last? : Option (Step κ α)} (h : batch.tasks[task]? = some (input, last?)) :
    batch.advance procedure task
      = ⟨(procedure.step input last? batch.state).2,
          batch.tasks.set task (input, some (procedure.step input last? batch.state).1)⟩ := by
  simp only [advance, h]

lemma advance_of_none {procedure : Procedure s ι κ α} {batch : Batch s ι κ α} {task : Nat}
    (h : batch.tasks[task]? = none) : batch.advance procedure task = batch := by
  simp only [advance, h]

lemma advance_inputs (procedure : Procedure s ι κ α) (batch : Batch s ι κ α) (task : Nat) :
    (batch.advance procedure task).tasks.map (·.1) = batch.tasks.map (·.1) := by
  cases h : batch.tasks[task]? with
  | none => rw [advance_of_none h]
  | some entry =>
      obtain ⟨input, last?⟩ := entry
      rw [advance_of_task h, List.map_set]
      refine List.ext_getElem? fun i => ?_
      rw [List.getElem?_set]
      split_ifs with hi hlt
      · subst hi; simp [h]
      · subst hi; simp_all
      · rfl

lemma execute_inputs (procedure : Procedure s ι κ α) (schedule : List Nat)
    (batch : Batch s ι κ α) :
    (execute procedure schedule batch).tasks.map (·.1) = batch.tasks.map (·.1) := by
  induction schedule generalizing batch with
  | nil => rfl
  | cons task schedule ih =>
      rw [execute, List.foldl_cons, ← execute, ih, advance_inputs]

@[simp] lemma ofInputs_inputs (state : s) (inputs : List ι) :
    (ofInputs state inputs : Batch s ι κ α).tasks.map (·.1) = inputs := by
  simp [ofInputs, Function.comp_def]

end Batch

/-- What a procedure keeps: `holds` is about the shared state, and `fits` about one task and what came of
its last turn. -/
structure Procedure.Keeps (procedure : Procedure s ι κ α) (holds : s → Prop)
    (fits : s → ι → Option (Step κ α) → Prop) : Prop where
  /-- After a step the state is as it should be, and so is the task that took it. -/
  step : ∀ input last? state, holds state → fits state input last? →
    holds (procedure.step input last? state).2 ∧
      fits (procedure.step input last? state).2 input (some (procedure.step input last? state).1)
  /-- The step of one task leaves the other tasks as they should be. -/
  stable : ∀ input last? state other otherLast?, holds state → fits state input last? →
    fits state other otherLast? → fits (procedure.step input last? state).2 other otherLast?

/-- The same for tasks that are apart: the step of a task leaves those alone that it is `apart` from. -/
structure Procedure.KeepsApart (procedure : Procedure s ι κ α) (apart : ι → ι → Prop)
    (holds : s → Prop) (fits : s → ι → Option (Step κ α) → Prop) : Prop where
  step : ∀ input last? state, holds state → fits state input last? →
    holds (procedure.step input last? state).2 ∧
      fits (procedure.step input last? state).2 input (some (procedure.step input last? state).1)
  stable : ∀ input last? state other otherLast?, apart input other → holds state →
    fits state input last? → fits state other otherLast? →
      fits (procedure.step input last? state).2 other otherLast?

lemma Procedure.Keeps.apart {procedure : Procedure s ι κ α} {holds : s → Prop}
    {fits : s → ι → Option (Step κ α) → Prop} (h : procedure.Keeps holds fits) :
    procedure.KeepsApart (fun _ _ => True) holds fits :=
  ⟨h.step, fun _ _ _ _ _ _ => h.stable _ _ _ _ _⟩

namespace Batch

/-- The state and all tasks are as they should be. -/
structure Sound (holds : s → Prop) (fits : s → ι → Option (Step κ α) → Prop)
    (batch : Batch s ι κ α) : Prop where
  state : holds batch.state
  tasks : ∀ task ∈ batch.tasks, fits batch.state task.1 task.2

/-- Inputs in different places are apart. -/
def Apart (apart : ι → ι → Prop) (inputs : List ι) : Prop :=
  ∀ (i j : Nat) (a b : ι), i ≠ j → inputs[i]? = some a → inputs[j]? = some b → apart a b

lemma apart_of_nodup {key : ι → String} {inputs : List ι} (h : (inputs.map key).Nodup) :
    Apart (fun a b => key a ≠ key b) inputs := by
  intro i j a b hne ha hb hkey
  obtain ⟨hi, -⟩ := List.getElem?_eq_some_iff.mp ha
  have hlt : i < (inputs.map key).length := by simpa using hi
  refine hne ((List.getElem?_inj hlt h).mp ?_)
  simp [ha, hb, hkey]

variable {procedure : Procedure s ι κ α} {apart : ι → ι → Prop} {holds : s → Prop}
  {fits : s → ι → Option (Step κ α) → Prop}

/-- What a step keeps, a step of a batch keeps. -/
lemma Sound.advanceApart (keeps : procedure.KeepsApart apart holds fits) {batch : Batch s ι κ α}
    (hapart : Apart apart (batch.tasks.map (·.1))) (h : batch.Sound holds fits) (task : Nat) :
    (batch.advance procedure task).Sound holds fits := by
  cases htask : batch.tasks[task]? with
  | none => rw [advance_of_none htask]; exact h
  | some entry =>
      obtain ⟨input, last?⟩ := entry
      have hfits : fits batch.state input last? := h.tasks _ (List.mem_of_getElem? htask)
      have hstep := keeps.step input last? batch.state h.state hfits
      rw [advance_of_task htask]
      refine ⟨hstep.1, fun other hother => ?_⟩
      obtain ⟨i, hi⟩ := List.mem_iff_getElem?.mp hother
      rw [List.getElem?_set] at hi
      split_ifs at hi with hsame hlt
      · rw [← Option.some.inj hi]
        exact hstep.2
      · exact keeps.stable _ _ _ _ _ (hapart task i _ _ hsame (by simp [htask]) (by simp [hi]))
          h.state hfits (h.tasks other (List.mem_of_getElem? hi))

lemma Sound.advance (keeps : procedure.Keeps holds fits) {batch : Batch s ι κ α}
    (h : batch.Sound holds fits) (task : Nat) : (batch.advance procedure task).Sound holds fits :=
  h.advanceApart keeps.apart (fun _ _ _ _ _ _ _ => trivial) task

/-- **What a step keeps, every execution keeps.** -/
theorem execute_keepsApart (keeps : procedure.KeepsApart apart holds fits) (schedule : List Nat)
    {batch : Batch s ι κ α} (hapart : Apart apart (batch.tasks.map (·.1)))
    (h : batch.Sound holds fits) : (execute procedure schedule batch).Sound holds fits := by
  induction schedule generalizing batch with
  | nil => exact h
  | cons task schedule ih =>
      exact ih (by rwa [advance_inputs]) (h.advanceApart keeps hapart task)

theorem execute_keeps (keeps : procedure.Keeps holds fits) (schedule : List Nat)
    {batch : Batch s ι κ α} (h : batch.Sound holds fits) :
    (execute procedure schedule batch).Sound holds fits :=
  execute_keepsApart keeps.apart schedule (fun _ _ _ _ _ _ _ => trivial) h

lemma ofInputs_sound {state : s} {inputs : List ι} (hstate : holds state)
    (htasks : ∀ input ∈ inputs, fits state input none) :
    (ofInputs state inputs : Batch s ι κ α).Sound holds fits := by
  refine ⟨hstate, fun task htask => ?_⟩
  obtain ⟨input, hinput, rfl⟩ := List.mem_map.mp htask
  exact htasks input hinput

/-! ## Runs are executions -/

/-- What is true of a batch and of the results noted so far is true after another turn. -/
def TurnKeeps (procedure : Procedure s ι κ α) (holds : Batch s ι κ α → List α → Prop) : Prop :=
  ∀ batch ended task step, (batch.advance procedure task).lastStep? task = some step →
    holds batch ended → holds (batch.advance procedure task) (ended ++ step.result?.toList)

variable {keepsTrue : Batch s ι κ α → List α → Prop}

lemma Run.proceed_keeps (h : TurnKeeps procedure keepsTrue) (run : Run s ι κ α)
    (hrun : keepsTrue run.batch run.ended) (task : Nat) :
    keepsTrue (run.proceed procedure task).batch (run.proceed procedure task).ended := by
  simp only [Run.proceed]
  split
  · exact hrun
  · rename_i step hstep
    exact h _ _ _ _ hstep hrun

lemma Run.take_keeps (h : TurnKeeps procedure keepsTrue) (run : Run s ι κ α)
    (hrun : keepsTrue run.batch run.ended) (turn : Turn) :
    keepsTrue (run.take procedure turn).batch (run.take procedure turn).ended := by
  cases turn with
  | arrive task =>
      simp only [Run.take]
      split_ifs
      · exact hrun
      · exact Run.proceed_keeps h
          { run with line := { run.line with free := run.line.free - 1 } } hrun task
  | proceed task => exact Run.proceed_keeps h run hrun task

lemma Run.turns_keep (h : TurnKeeps procedure keepsTrue) (turns : List Turn)
    (run : Run s ι κ α) (hrun : keepsTrue run.batch run.ended) :
    keepsTrue (turns.foldl (Run.take procedure) run).batch
      (turns.foldl (Run.take procedure) run).ended := by
  induction turns generalizing run with
  | nil => exact hrun
  | cons turn turns ih => exact ih _ (run.take_keeps h hrun turn)

lemma Run.holdRound_keeps (h : TurnKeeps procedure keepsTrue) (run : Run s ι κ α)
    (hrun : keepsTrue run.batch run.ended) :
    keepsTrue (run.holdRound procedure).batch (run.holdRound procedure).ended := by
  simp only [Run.holdRound]
  split
  · exact hrun
  · exact Run.turns_keep h _ _ hrun

lemma Run.holdRounds_keeps (h : TurnKeeps procedure keepsTrue) (rounds : Nat)
    (run : Run s ι κ α) (hrun : keepsTrue run.batch run.ended) :
    keepsTrue (run.holdRounds procedure rounds).batch (run.holdRounds procedure rounds).ended := by
  induction rounds generalizing run with
  | zero => exact hrun
  | succ rounds ih => exact ih _ (run.holdRound_keeps h hrun)

lemma hold_keeps (h : TurnKeeps procedure keepsTrue) (more : Nat) (callsOff : α → Bool) (rounds : Nat)
    (run : Run s ι κ α) (hrun : keepsTrue run.batch run.ended) :
    keepsTrue (hold procedure more callsOff rounds run).batch
      (hold procedure more callsOff rounds run).ended := by
  induction rounds generalizing run with
  | zero => exact hrun
  | succ rounds ih =>
      simp only [hold]
      split_ifs
      · exact hrun
      · exact Run.holdRounds_keeps h more _ (run.holdRound_keeps h hrun)
      · exact ih _ (run.holdRound_keeps h hrun)

/-- **Whatever a turn keeps, a run keeps.** -/
theorem run_keeps (h : TurnKeeps procedure keepsTrue) (places more : Nat) (callsOff : α → Bool)
    (inputs : List ι) (state : s) (hstart : keepsTrue (ofInputs state inputs) []) :
    keepsTrue (run procedure places more callsOff inputs state).batch
      (run procedure places more callsOff inputs state).ended :=
  hold_keeps h more callsOff _ _ hstart

/-- **A run is an execution**: the line only chooses the order of the steps. -/
theorem run_eq_execute (procedure : Procedure s ι κ α) (places more : Nat) (callsOff : α → Bool)
    (inputs : List ι) (state : s) :
    ∃ schedule, (run procedure places more callsOff inputs state).batch
      = execute procedure schedule (ofInputs state inputs) := by
  have hturn : TurnKeeps procedure fun batch _ =>
      ∃ schedule, batch = execute procedure schedule (ofInputs state inputs) := by
    rintro batch ended task step - ⟨schedule, rfl⟩
    exact ⟨schedule ++ [task], (execute_concat procedure schedule task _).symm⟩
  exact run_keeps hturn places more callsOff inputs state ⟨[], rfl⟩

/-! ## Results -/

lemma lastStep?_ofInputs (state : s) (inputs : List ι) (task : Nat) :
    (ofInputs state inputs : Batch s ι κ α).lastStep? task = none := by
  cases h : inputs[task]? <;> simp [lastStep?, ofInputs, h]

lemma lastStep?_advance_ne {batch : Batch s ι κ α} {task other : Nat} (h : other ≠ task) :
    (batch.advance procedure task).lastStep? other = batch.lastStep? other := by
  cases htask : batch.tasks[task]? with
  | none => rw [advance_of_none htask]
  | some entry =>
      rw [advance_of_task htask, lastStep?, lastStep?, List.getElem?_set_ne (Ne.symm h)]

lemma lastStep?_advance_self {batch : Batch s ι κ α} {task : Nat} {input : ι}
    {last? : Option (Step κ α)} (h : batch.tasks[task]? = some (input, last?)) :
    (batch.advance procedure task).lastStep? task
      = some (procedure.step input last? batch.state).1 := by
  obtain ⟨hlt, -⟩ := List.getElem?_eq_some_iff.mp h
  rw [advance_of_task h, lastStep?, List.getElem?_set_self hlt]
  rfl

lemma lastStep?_advance_done {batch : Batch s ι κ α} {task other : Nat} {result : α}
    (h : batch.lastStep? other = some (.done result)) :
    (batch.advance procedure task).lastStep? other = some (.done result) := by
  by_cases hother : other = task
  · subst hother
    cases htask : batch.tasks[other]? with
    | none => rw [advance_of_none htask]; exact h
    | some entry =>
        obtain ⟨input, last?⟩ := entry
        have hlast : last? = some (.done result) := by simpa [lastStep?, htask] using h
        rw [lastStep?_advance_self htask, hlast]
        rfl
  · rw [lastStep?_advance_ne hother]; exact h

lemma result?_eq_some {step : Step κ α} {result : α} :
    step.result? = some result ↔ step = .done result := by
  cases step <;> simp [Step.result?]

/-- Results are those of tasks that have ended. -/
lemma mem_results_iff {batch : Batch s ι κ α} {result : α} :
    result ∈ batch.results ↔ ∃ input, (input, some (.done result)) ∈ batch.tasks := by
  rw [results, List.mem_filterMap]
  constructor
  · rintro ⟨⟨input, last?⟩, hmem, hresult⟩
    obtain ⟨step, hstep, hdone⟩ := Option.bind_eq_some_iff.mp hresult
    rw [result?_eq_some] at hdone
    exact ⟨input, by rwa [← hdone, ← hstep]⟩
  · rintro ⟨input, hmem⟩
    exact ⟨_, hmem, rfl⟩

lemma mem_results {batch : Batch s ι κ α} {result : α} :
    result ∈ batch.results ↔ ∃ task, batch.lastStep? task = some (.done result) := by
  rw [mem_results_iff]
  constructor
  · rintro ⟨input, hmem⟩
    obtain ⟨task, htask⟩ := List.mem_iff_getElem?.mp hmem
    exact ⟨task, by rw [lastStep?, htask, Option.bind_some]⟩
  · rintro ⟨task, htask⟩
    obtain ⟨⟨input, last?⟩, hentry, hlast⟩ := Option.bind_eq_some_iff.mp htask
    exact ⟨input, hlast ▸ List.mem_of_getElem? hentry⟩

/-- The turn of a task that has not ended adds its result to those of the others, if it ends with one. -/
lemma mem_advance_done {batch : Batch s ι κ α}
    {task : Nat} {input : ι} {last? : Option (Step κ α)}
    (htask : batch.tasks[task]? = some (input, last?)) (hopen : ∀ result, last? ≠ some (.done result))
    {other : ι} {result : α} :
    (other, some (.done result)) ∈ (batch.advance procedure task).tasks ↔
      (other, some (.done result)) ∈ batch.tasks ∨
        other = input ∧ (procedure.step input last? batch.state).1 = .done result := by
  obtain ⟨hlt, -⟩ := List.getElem?_eq_some_iff.mp htask
  rw [advance_of_task htask]
  constructor
  · intro hmem
    rcases List.mem_or_eq_of_mem_set hmem with hold | hnew
    · exact Or.inl hold
    · rw [Prod.mk.injEq, Option.some.injEq] at hnew
      exact Or.inr ⟨hnew.1, hnew.2.symm⟩
  · rintro (hold | ⟨rfl, hresult⟩)
    · obtain ⟨number, hnumber⟩ := List.mem_iff_getElem?.mp hold
      have hne : task ≠ number := by
        rintro rfl
        rw [htask, Option.some.injEq, Prod.mk.injEq] at hnumber
        exact hopen result hnumber.2
      refine List.mem_of_getElem? (i := number) ?_
      rw [List.getElem?_set_ne hne, hnumber]
    · refine List.mem_of_getElem? (i := task) ?_
      rw [List.getElem?_set_self hlt, hresult]

/-- A task that has ended has no more turns to take. -/
lemma advance_of_done {batch : Batch s ι κ α}
    {task : Nat} {input : ι} {result : α}
    (htask : batch.tasks[task]? = some (input, some (.done result))) :
    batch.advance procedure task = batch := by
  rw [advance_of_task htask]
  simp only [Procedure.step]
  have hsame : batch.tasks.set task (input, some (.done result)) = batch.tasks := by
    refine List.ext_getElem? fun number => ?_
    rw [List.getElem?_set]
    split_ifs with hself hlt
    · rw [← hself, htask]
    · rw [← hself, List.getElem?_eq_none (Nat.le_of_not_lt hlt)]
    · rfl
  rw [hsame]

/-- **The results noted are the results of the tasks.** -/
theorem mem_run_ended (procedure : Procedure s ι κ α) (places more : Nat) (callsOff : α → Bool)
    (inputs : List ι) (state : s) (result : α) :
    result ∈ (run procedure places more callsOff inputs state).ended ↔
      ∃ task, (run procedure places more callsOff inputs state).batch.lastStep? task
        = some (.done result) := by
  have hturn : TurnKeeps procedure fun batch ended => ∀ result, result ∈ ended ↔
      ∃ task, batch.lastStep? task = some (.done result) := by
    intro batch ended task step hstep hended result
    rw [List.mem_append, hended, Option.mem_toList, result?_eq_some]
    constructor
    · rintro (⟨other, hother⟩ | rfl)
      · exact ⟨other, lastStep?_advance_done hother⟩
      · exact ⟨task, hstep⟩
    · rintro ⟨other, hother⟩
      by_cases htask : other = task
      · subst htask
        rw [hstep, Option.some.injEq] at hother
        exact Or.inr hother
      · rw [lastStep?_advance_ne htask] at hother
        exact Or.inl ⟨other, hother⟩
  refine run_keeps hturn places more callsOff inputs state ?_ result
  intro result
  simp only [lastStep?_ofInputs, reduceCtorEq, exists_false, List.not_mem_nil]

lemma mem_run_results {places more : Nat} {callsOff : α → Bool} {inputs : List ι} {state : s}
    {result : α} : result ∈ (run procedure places more callsOff inputs state).batch.results ↔
      result ∈ (run procedure places more callsOff inputs state).ended := by
  rw [mem_results, mem_run_ended]

/-- Every task has ended. -/
def Finished (batch : Batch s ι κ α) : Prop :=
  ∀ task ∈ batch.tasks, ∃ result, task.2 = some (.done result)

instance (batch : Batch s ι κ α) : Decidable batch.Finished :=
  decidable_of_iff (∀ task ∈ batch.tasks, (task.2.bind Step.result?).isSome = true) (by
    refine forall₂_congr fun task _ => ?_
    rw [Option.isSome_iff_exists]
    refine exists_congr fun result => ?_
    rw [Option.bind_eq_some_iff]
    constructor
    · rintro ⟨step, hstep, hresult⟩
      rw [hstep, result?_eq_some.mp hresult]
    · exact fun h => ⟨_, h, rfl⟩)

/-- Then none is left under way. -/
lemma unfinished_of_finished {batch : Batch s ι κ α} (h : batch.Finished) : batch.unfinished = [] := by
  rw [unfinished, List.filter_eq_nil_iff]
  rintro ⟨input, last?⟩ hmem
  obtain ⟨result, hresult⟩ := h _ hmem
  simp only at hresult
  simp [hresult, Step.result?]

/-- The results of tasks that have all ended correspond to their inputs, in order. -/
lemma results_forall₂ {batch : Batch s ι κ α} (hdone : batch.Finished) {meets : ι → α → Prop}
    (hmeets : ∀ task ∈ batch.tasks, ∀ result, task.2 = some (.done result) →
      meets task.1 result) :
    List.Forall₂ meets (batch.tasks.map (·.1)) batch.results := by
  rw [results]
  revert hdone hmeets
  unfold Finished
  generalize batch.tasks = tasks
  intro hdone hmeets
  induction tasks with
  | nil => exact .nil
  | cons task tasks ih =>
      obtain ⟨result, hresult⟩ := hdone task (by simp)
      have hrest := ih (fun other h => hdone other (by simp [h]))
        (fun other h => hmeets other (by simp [h]))
      obtain ⟨input, last?⟩ := task
      simp only at hresult
      subst hresult
      exact .cons (hmeets _ (by simp) result rfl) hrest

/-- A result comes from a task for which it is as it should be. -/
lemma Sound.of_mem_results {batch : Batch s ι κ α} (h : batch.Sound holds fits) {result : α}
    (hresult : result ∈ batch.results) :
    ∃ input ∈ batch.tasks.map (·.1), fits batch.state input (some (.done result)) := by
  obtain ⟨task, htask⟩ := mem_results.mp hresult
  obtain ⟨⟨input, last?⟩, hentry, hlast⟩ := Option.bind_eq_some_iff.mp htask
  obtain rfl : last? = some (.done result) := hlast
  have hmem := List.mem_of_getElem? hentry
  exact ⟨input, List.mem_map.mpr ⟨_, hmem, rfl⟩, h.tasks _ hmem⟩

/-- In a batch that has ended every input has its result. -/
lemma Sound.exists_result {batch : Batch s ι κ α} (h : batch.Sound holds fits)
    (hdone : batch.Finished) {input : ι} (hinput : input ∈ batch.tasks.map (·.1)) :
    ∃ result ∈ batch.results, fits batch.state input (some (.done result)) := by
  obtain ⟨⟨_, last?⟩, hmem, rfl⟩ := List.mem_map.mp hinput
  obtain ⟨result, hresult⟩ := hdone _ hmem
  obtain rfl : last? = some (.done result) := hresult
  exact ⟨result, List.mem_filterMap.mpr ⟨_, hmem, rfl⟩, h.tasks _ hmem⟩

lemma Sound.map_results {β : Type} {batch : Batch s ι κ α} (h : batch.Sound holds fits)
    (hdone : batch.Finished) {f : ι → β} {g : α → β}
    (hfits : ∀ input result, fits batch.state input (some (.done result)) → f input = g result) :
    batch.results.map g = (batch.tasks.map (·.1)).map f := by
  have hresults : List.Forall₂ (fun input result => f input = g result) (batch.tasks.map (·.1))
      batch.results :=
    results_forall₂ hdone fun task htask result hresult =>
      hfits _ _ (hresult ▸ h.tasks task htask)
  rw [eq_comm, ← List.forall₂_eq_eq_eq, List.forall₂_map_left_iff, List.forall₂_map_right_iff]
  exact hresults

/-! ## Completion -/

/-- The task that a turn belongs to. -/
def Turn.task : Turn → Nat
  | arrive task => task
  | proceed task => task

/-- The turn is the first of its task, which may have to be parked. -/
def Turn.isArrival : Turn → Bool
  | arrive _ => true
  | proceed _ => false

/-- Booking puts one turn among the others. -/
lemma book_perm (turn : Turn) : ∀ (later : Nat) (rounds : List (List Turn)),
    (book turn later rounds).flatten.Perm (turn :: rounds.flatten)
  | 0, [] => by simp [book]
  | 0, round :: rounds => by
      simp only [book, List.flatten_cons, List.append_assoc, List.singleton_append]
      exact List.perm_middle
  | later + 1, [] => by simpa [book] using book_perm turn later []
  | later + 1, round :: rounds => by
      simp only [book, List.flatten_cons]
      exact ((book_perm turn later rounds).append_left round).trans List.perm_middle

lemma book_length (turn : Turn) : ∀ (later : Nat) (rounds : List (List Turn)),
    (book turn later rounds).length = max rounds.length (later + 1)
  | 0, [] => by simp [book]
  | 0, round :: rounds => by simp [book]
  | later + 1, [] => by simp [book, book_length turn later []]
  | later + 1, round :: rounds => by simp [book, book_length turn later rounds]

/-- A turn of the rounds after a booking was there before, or is the one that was booked. -/
lemma mem_book {turn other : Turn} : ∀ {later i : Nat} {rounds : List (List Turn)}
    {round : List Turn}, (book turn later rounds)[i]? = some round → other ∈ round →
      (other = turn ∧ i = later) ∨ ∃ old, rounds[i]? = some old ∧ other ∈ old
  | 0, i, [], round, hround, hmem => by
      cases i with
      | zero =>
          simp only [book, List.getElem?_cons_zero, Option.some.injEq] at hround
          subst hround
          exact Or.inl ⟨by simpa using hmem, rfl⟩
      | succ i => simp [book] at hround
  | 0, i, first :: rounds, round, hround, hmem => by
      cases i with
      | zero =>
          simp only [book, List.getElem?_cons_zero, Option.some.injEq] at hround
          subst hround
          rw [List.mem_append, List.mem_singleton] at hmem
          rcases hmem with hmem | rfl
          · exact Or.inr ⟨first, rfl, hmem⟩
          · exact Or.inl ⟨rfl, rfl⟩
      | succ i => exact Or.inr ⟨round, by simpa [book] using hround, hmem⟩
  | later + 1, i, [], round, hround, hmem => by
      cases i with
      | zero =>
          simp only [book, List.getElem?_cons_zero, Option.some.injEq] at hround
          subst hround
          simp at hmem
      | succ i =>
          simp only [book, List.getElem?_cons_succ] at hround
          rcases mem_book hround hmem with ⟨rfl, rfl⟩ | ⟨old, hold, -⟩
          · exact Or.inl ⟨rfl, rfl⟩
          · simp at hold
  | later + 1, i, first :: rounds, round, hround, hmem => by
      cases i with
      | zero =>
          simp only [book, List.getElem?_cons_zero, Option.some.injEq] at hround
          exact Or.inr ⟨first, rfl, hround ▸ hmem⟩
      | succ i =>
          simp only [book, List.getElem?_cons_succ] at hround
          rcases mem_book hround hmem with ⟨rfl, rfl⟩ | ⟨old, hold, hmem⟩
          · exact Or.inl ⟨rfl, rfl⟩
          · exact Or.inr ⟨old, by simpa using hold, hmem⟩

end Batch

/-- Every task is done when its patience is over: `left` says how many rounds a task that waits can go on
to wait after it. -/
structure Procedure.Patient (procedure : Procedure s ι κ α) (left : κ → Nat) : Prop where
  start : ∀ input state rounds held, (procedure.start input state).1 = .wait rounds held →
    1 ≤ rounds ∧ rounds + left held ≤ procedure.patience
  resume : ∀ input old state rounds held, (procedure.resume input old state).1 = .wait rounds held →
    1 ≤ rounds ∧ rounds + left held ≤ left old

namespace Batch

variable {procedure : Procedure s ι κ α} {holds : s → Prop}
  {fits : s → ι → Option (Step κ α) → Prop}

/-- The rounds that a task can go on to wait, given what came of its last turn. -/
def timeLeft (procedure : Procedure s ι κ α) (left : κ → Nat) : Option (Step κ α) → Nat
  | none => procedure.patience
  | some (.wait _ held) => left held
  | some (.done _) => 0

lemma timeLeft_step {left : κ → Nat} (patient : procedure.Patient left) (input : ι)
    (last? : Option (Step κ α)) (state : s) :
    timeLeft procedure left (some (procedure.step input last? state).1)
        ≤ timeLeft procedure left last? ∧
      ∀ rounds held, (procedure.step input last? state).1 = .wait rounds held →
        1 ≤ rounds ∧ rounds + left held ≤ timeLeft procedure left last? := by
  have hwaits : ∀ rounds held, (procedure.step input last? state).1 = .wait rounds held →
      1 ≤ rounds ∧ rounds + left held ≤ timeLeft procedure left last? := by
    intro rounds held hstep
    match last? with
    | none => exact patient.start input state rounds held hstep
    | some (.wait _ old) => exact patient.resume input old state rounds held hstep
    | some (.done _) => simp [Procedure.step] at hstep
  refine ⟨?_, hwaits⟩
  cases hstep : (procedure.step input last? state).1 with
  | wait rounds held =>
      have hle := (hwaits rounds held hstep).2
      simp only [timeLeft] at hle ⊢
      omega
  | done result => exact Nat.zero_le _

/-- A later batch, in which no task has more time left and no result is lost. -/
structure Later (procedure : Procedure s ι κ α) (left : κ → Nat) (old new : Batch s ι κ α) :
    Prop where
  length : new.tasks.length = old.tasks.length
  time : ∀ task, timeLeft procedure left (new.lastStep? task)
    ≤ timeLeft procedure left (old.lastStep? task)
  done : ∀ task result, old.lastStep? task = some (.done result) →
    new.lastStep? task = some (.done result)

lemma advance_later {left : κ → Nat} (patient : procedure.Patient left) (batch : Batch s ι κ α)
    (task : Nat) : Later procedure left batch (batch.advance procedure task) := by
  refine ⟨?_, fun other => ?_, fun other result h => lastStep?_advance_done h⟩
  · have hinputs := congrArg List.length (advance_inputs procedure batch task)
    simpa using hinputs
  · by_cases hother : other = task
    · subst hother
      cases htask : batch.tasks[other]? with
      | none => exact Nat.le_of_eq (by rw [advance_of_none htask])
      | some entry =>
          obtain ⟨input, last?⟩ := entry
          have hlast : batch.lastStep? other = last? := by simp [lastStep?, htask]
          rw [lastStep?_advance_self htask, hlast]
          exact (timeLeft_step patient input last? batch.state).1
    · exact Nat.le_of_eq (by rw [lastStep?_advance_ne hother])

namespace Run

/-- The turns still to be taken: what is left of this round, and the rounds to come. -/
def turns (now : List Turn) (run : Run s ι κ α) : List Turn := now ++ run.line.rounds.flatten

/-- The number of tasks that have not been let in. -/
def outside (now : List Turn) (run : Run s ι κ α) : Nat :=
  run.line.parked.length + (run.turns now).countP Turn.isArrival

/-- A run that is over after the given number of rounds, with `now` left of the present one.  Every task
outside may take all of its patience and one more round after the others are done; what is left of the
rounds is enough for those inside. -/
structure OnTime (procedure : Procedure s ι κ α) (left : κ → Nat) (places rounds : Nat)
    (now : List Turn) (run : Run s ι κ α) : Prop where
  exist : ∀ turn ∈ run.turns now, turn.task < run.batch.tasks.length
  parked : ∀ task ∈ run.line.parked, task < run.batch.tasks.length
  patience : ∀ task, timeLeft procedure left (run.batch.lastStep? task) ≤ procedure.patience
  length : run.line.rounds.length + run.outside now * (procedure.patience + 1) ≤ rounds
  soon : ∀ i round task, run.line.rounds[i]? = some round → .proceed task ∈ round →
    i + 1 + timeLeft procedure left (run.batch.lastStep? task)
      + run.outside now * (procedure.patience + 1) ≤ rounds
  present : ∀ task, .proceed task ∈ now → timeLeft procedure left (run.batch.lastStep? task)
    + run.outside now * (procedure.patience + 1) ≤ rounds
  /-- Every place is free or belongs to a task that has a turn. -/
  places : (run.turns now).countP (fun turn => !turn.isArrival) + run.line.free = places
  /-- Nobody waits outside while there is a place. -/
  full : run.line.parked ≠ [] → run.line.free = 0
  /-- Every task is done, or parked, or has a turn. -/
  listed : ∀ task < run.batch.tasks.length,
    (∃ result, run.batch.lastStep? task = some (.done result)) ∨ task ∈ run.line.parked ∨
      ∃ turn ∈ run.turns now, turn.task = task

variable {left : κ → Nat} {places rounds : Nat} {now : List Turn} {run : Run s ι κ α}
  {later : Batch s ι κ α} {task : Nat}

/-! ### The next turn -/

lemma turns_cons (turn : Turn) (now : List Turn) (run : Run s ι κ α) :
    run.turns (turn :: now) = turn :: run.turns now := rfl

/-- A task is outside until it arrives. -/
lemma outside_arrive (task : Nat) (now : List Turn) (run : Run s ι κ α) :
    run.outside (.arrive task :: now) = run.outside now + 1 := by
  rw [outside, outside, turns_cons, List.countP_cons_of_pos (by simp [Turn.isArrival]), Nat.add_assoc]

lemma outside_proceed (task : Nat) (now : List Turn) (run : Run s ι κ α) :
    run.outside (.proceed task :: now) = run.outside now := by
  rw [outside, outside, turns_cons, List.countP_cons_of_neg (by simp [Turn.isArrival])]

lemma OnTime.places_arrive (h : run.OnTime procedure left places rounds (.arrive task :: now)) :
    (run.turns now).countP (fun turn => !turn.isArrival) + run.line.free = places := by
  have hcount := h.places
  rwa [turns_cons, List.countP_cons_of_neg (by simp [Turn.isArrival])] at hcount

/-- A task that goes on has a place. -/
lemma OnTime.places_proceed (h : run.OnTime procedure left places rounds (.proceed task :: now)) :
    (run.turns now).countP (fun turn => !turn.isArrival) + 1 + run.line.free = places := by
  have hcount := h.places
  rwa [turns_cons, List.countP_cons_of_pos (by simp [Turn.isArrival])] at hcount

lemma OnTime.exist_next {turn : Turn} (h : run.OnTime procedure left places rounds (turn :: now)) :
    turn.task < run.batch.tasks.length :=
  h.exist turn List.mem_cons_self

lemma OnTime.exist_behind {turn : Turn} (h : run.OnTime procedure left places rounds (turn :: now)) :
    ∀ other ∈ run.turns now, other.task < run.batch.tasks.length :=
  fun other hother => h.exist other (List.mem_cons_of_mem _ hother)

/-- A task that has no turn behind the next one is done or parked, or the next turn is its own. -/
lemma OnTime.listed_behind {turn : Turn} (h : run.OnTime procedure left places rounds (turn :: now))
    {other : Nat} (hother : other < run.batch.tasks.length) :
    ((∃ result, run.batch.lastStep? other = some (.done result)) ∨ other ∈ run.line.parked ∨
      ∃ later ∈ run.turns now, later.task = other) ∨ turn.task = other := by
  rcases h.listed other hother with hdone | hmem | ⟨later, hlater, heq⟩
  · exact Or.inl (Or.inl hdone)
  · exact Or.inl (Or.inr (Or.inl hmem))
  · rcases List.mem_cons.mp hlater with rfl | hlater
    · exact Or.inr heq
    · exact Or.inl (Or.inr (Or.inr ⟨later, hlater, heq⟩))

/-- A task that is let in brings its share of the rounds with it, which is enough for its patience. -/
lemma share_add {outer inner : Nat} (patience : Nat) (h : inner + 1 = outer) :
    inner * (patience + 1) + patience + 1 = outer * (patience + 1) := by
  rw [← h, Nat.succ_mul]
  omega

/-! ### Keeping the time -/

/-- When no turn is left, every task is done. -/
lemma OnTime.finished (h : run.OnTime procedure left places rounds []) (hplaces : 0 < places)
    (hrounds : run.line.rounds = []) : run.batch.Finished := by
  have hturns : run.turns [] = [] := by simp [turns, hrounds]
  have hfree := h.places
  rw [hturns, List.countP_nil, Nat.zero_add] at hfree
  have hparked : run.line.parked = [] := by
    by_contra hne
    have := h.full hne
    omega
  rintro entry hentry
  obtain ⟨i, hi⟩ := List.getElem?_of_mem hentry
  obtain ⟨hlt, -⟩ := List.getElem?_eq_some_iff.mp hi
  rcases h.listed i hlt with ⟨result, hresult⟩ | hmem | ⟨turn, hturn, -⟩
  · exact ⟨result, by simpa [lastStep?, hi] using hresult⟩
  · simp [hparked] at hmem
  · simp [hturns] at hturn

/-- A run stays on time when its tasks take steps. -/
lemma OnTime.goOn (h : run.OnTime procedure left places rounds now)
    (hlater : Later procedure left run.batch later) (ended : List α) :
    OnTime procedure left places rounds now ⟨later, run.line, ended⟩ := by
  refine ⟨?_, ?_, ?_, h.length, ?_, ?_, h.places, h.full, ?_⟩
  · intro turn hturn
    rw [hlater.length]
    exact h.exist turn hturn
  · intro other hother
    rw [hlater.length]
    exact h.parked other hother
  · exact fun other => Nat.le_trans (hlater.time other) (h.patience other)
  · intro i round other hround hmem
    have hsoon := h.soon i round other hround hmem
    have hle := hlater.time other
    simp only [outside, turns] at hsoon ⊢
    omega
  · intro other hother
    have hnow := h.present other hother
    have hle := hlater.time other
    simp only [outside, turns] at hnow ⊢
    omega
  · intro other hother
    rw [hlater.length] at hother
    rcases h.listed other hother with ⟨result, hresult⟩ | hlisted
    · exact Or.inl ⟨result, hlater.done other result hresult⟩
    · exact Or.inr hlisted

/-- A task goes on to wait, and its next turn is booked. -/
lemma OnTime.wait (h : run.OnTime procedure left places rounds (.proceed task :: now))
    {wait : Nat} {held : κ} (hwait : 1 ≤ wait)
    (hstep : run.batch.lastStep? task = some (.wait wait held))
    (hroom : wait + left held + run.outside (.proceed task :: now) * (procedure.patience + 1)
      ≤ rounds) :
    OnTime procedure left places rounds now
      { run with line.rounds := book (.proceed task) (wait - 1) run.line.rounds } := by
  set after : Run s ι κ α :=
    { run with line.rounds := book (.proceed task) (wait - 1) run.line.rounds } with hafter
  have hperm : (after.turns now).Perm (run.turns (.proceed task :: now)) :=
    ((book_perm _ _ _).append_left now).trans List.perm_middle
  have houtside : after.outside now = run.outside (.proceed task :: now) := by
    rw [outside, outside, hperm.countP_eq]
  refine ⟨?_, h.parked, h.patience, ?_, ?_, ?_, ?_, h.full, ?_⟩
  · exact fun turn hturn => h.exist turn (hperm.mem_iff.mp hturn)
  · have hlength := h.length
    rw [houtside]
    simp only [hafter, book_length]
    omega
  · intro i round other hround hmem
    rw [houtside]
    rcases mem_book hround hmem with ⟨heq, rfl⟩ | ⟨old, hold, hmem⟩
    · obtain rfl : other = task := by simpa using heq
      have htime : timeLeft procedure left (after.batch.lastStep? other) = left held := by
        simp only [hafter, hstep, timeLeft]
      omega
    · exact h.soon i old other hold hmem
  · intro other hother
    rw [houtside]
    exact h.present other (List.mem_cons_of_mem _ hother)
  · rw [hperm.countP_eq]
    exact h.places
  · intro other hother
    rcases h.listed other hother with hdone | hmem | ⟨turn, hturn, heq⟩
    · exact Or.inl hdone
    · exact Or.inr (Or.inl hmem)
    · exact Or.inr (Or.inr ⟨turn, hperm.mem_iff.mpr hturn, heq⟩)

/-- A task ends, and nobody waits for its place. -/
lemma OnTime.leave (h : run.OnTime procedure left places rounds (.proceed task :: now))
    {result : α} (hstep : run.batch.lastStep? task = some (.done result))
    (hparked : run.line.parked = []) :
    OnTime procedure left places rounds now
      { run with line.free := run.line.free + 1 } := by
  set after : Run s ι κ α := { run with line.free := run.line.free + 1 } with hafter
  have houtside : after.outside now = run.outside (.proceed task :: now) :=
    (outside_proceed task now run).symm
  refine ⟨h.exist_behind, h.parked, h.patience, ?_, ?_, ?_, ?_, ?_, ?_⟩
  · rw [houtside]
    exact h.length
  · rw [houtside]
    exact h.soon
  · intro other hother
    rw [houtside]
    exact h.present other (List.mem_cons_of_mem _ hother)
  · have hplaces := h.places_proceed
    show (run.turns now).countP _ + (run.line.free + 1) = places
    omega
  · exact fun hne => absurd hparked hne
  · intro other hother
    rcases h.listed_behind hother with hlisted | rfl
    · exact hlisted
    · exact Or.inl ⟨result, hstep⟩

/-- A task ends, and the first one that is parked is let in. -/
lemma OnTime.letIn (h : run.OnTime procedure left places rounds (.proceed task :: now))
    {result : α} (hstep : run.batch.lastStep? task = some (.done result)) {next : Nat}
    {parked : List Nat} (hparked : run.line.parked = next :: parked) :
    OnTime procedure left places rounds now
      { run with line := { run.line with
          rounds := book (.proceed next) 0 run.line.rounds, parked := parked } } := by
  set after : Run s ι κ α := { run with line := { run.line with
      rounds := book (.proceed next) 0 run.line.rounds, parked := parked } } with hafter
  have hperm : (after.turns now).Perm (.proceed next :: run.turns now) :=
    ((book_perm _ _ _).append_left now).trans List.perm_middle
  have houtside : after.outside now + 1 = run.outside (.proceed task :: now) := by
    rw [outside_proceed, outside, outside, hperm.countP_eq,
      List.countP_cons_of_neg (by simp [Turn.isArrival]), hparked, List.length_cons]
    exact Nat.add_right_comm _ _ _
  have hroom := share_add procedure.patience houtside
  have hlength := h.length
  refine ⟨?_, ?_, h.patience, ?_, ?_, ?_, ?_, ?_, ?_⟩
  · intro turn hturn
    rcases List.mem_cons.mp (hperm.mem_iff.mp hturn) with rfl | hturn
    · exact h.parked next (by simp [hparked])
    · exact h.exist_behind turn hturn
  · exact fun other hother => h.parked other (by rw [hparked]; exact List.mem_cons_of_mem _ hother)
  · simp only [hafter, book_length] at hroom ⊢
    omega
  · intro i round other hround hmem
    rcases mem_book hround hmem with ⟨heq, rfl⟩ | ⟨old, hold, hmem⟩
    · have hle := h.patience other
      simp only [hafter] at hroom ⊢
      omega
    · have hsoon := h.soon i old other hold hmem
      simp only [hafter] at hroom ⊢
      omega
  · intro other hother
    have hnow := h.present other (List.mem_cons_of_mem _ hother)
    simp only [hafter] at hroom ⊢
    omega
  · rw [hperm.countP_eq, List.countP_cons_of_pos (by simp [Turn.isArrival])]
    exact h.places_proceed
  · exact fun _ => h.full (by simp [hparked])
  · intro other hother
    rcases h.listed_behind hother with (hdone | hmem | ⟨turn, hturn, heq⟩) | rfl
    · exact Or.inl hdone
    · rw [hparked, List.mem_cons] at hmem
      rcases hmem with rfl | hmem
      · exact Or.inr (Or.inr ⟨.proceed other, hperm.mem_iff.mpr List.mem_cons_self, rfl⟩)
      · exact Or.inr (Or.inl hmem)
    · exact Or.inr (Or.inr ⟨turn, hperm.mem_iff.mpr (List.mem_cons_of_mem _ hturn), heq⟩)
    · exact Or.inl ⟨result, hstep⟩

/-- A task that is inside takes its turn. -/
lemma OnTime.proceed (patient : procedure.Patient left)
    (h : run.OnTime procedure left places rounds (.proceed task :: now)) :
    (run.proceed procedure task).OnTime procedure left places rounds now := by
  have hexists : task < run.batch.tasks.length := h.exist (.proceed task) (by simp [turns])
  obtain ⟨⟨input, last?⟩, htask⟩ : ∃ entry, run.batch.tasks[task]? = some entry :=
    ⟨_, List.getElem?_eq_getElem hexists⟩
  have hlast : run.batch.lastStep? task = last? := by simp [lastStep?, htask]
  have hstep : (run.batch.advance procedure task).lastStep? task
      = some (procedure.step input last? run.batch.state).1 := lastStep?_advance_self htask
  have htime := (timeLeft_step patient input last? run.batch.state).2
  have hroom := h.present task List.mem_cons_self
  have hlater := fun ended => h.goOn (advance_later patient run.batch task) ended
  rw [Run.proceed]
  simp only [hstep]
  cases hcase : (procedure.step input last? run.batch.state).1 with
  | wait rounds' held =>
      obtain ⟨hwait, hle⟩ := htime rounds' held hcase
      rw [hlast] at hroom
      refine (hlater _).wait hwait (hcase ▸ hstep) ?_
      simp only [outside, turns] at hroom ⊢
      omega
  | done result =>
      simp only [Line.after]
      cases hparked : run.line.parked with
      | nil => simpa only [hparked] using (hlater _).leave (hcase ▸ hstep) hparked
      | cons next parked => exact (hlater _).letIn (hcase ▸ hstep) hparked

/-- A task arrives and is parked. -/
lemma OnTime.park (h : run.OnTime procedure left places rounds (.arrive task :: now))
    (hfree : run.line.free = 0) :
    OnTime procedure left places rounds now
      { run with line.parked := run.line.parked ++ [task] } := by
  set after : Run s ι κ α := { run with line.parked := run.line.parked ++ [task] } with hafter
  have houtside : after.outside now = run.outside (.arrive task :: now) := by
    rw [outside_arrive, outside, outside, List.length_append, List.length_singleton]
    exact Nat.add_right_comm _ _ _
  refine ⟨h.exist_behind, ?_, h.patience, ?_, ?_, ?_, h.places_arrive, fun _ => hfree, ?_⟩
  · intro other hother
    rcases List.mem_append.mp hother with hother | hother
    · exact h.parked other hother
    · rw [List.mem_singleton.mp hother]
      exact h.exist_next
  · rw [houtside]
    exact h.length
  · rw [houtside]
    exact h.soon
  · rw [houtside]
    exact fun other hother => h.present other (List.mem_cons_of_mem _ hother)
  · intro other hother
    rcases h.listed_behind hother with (hdone | hmem | hturn) | rfl
    · exact Or.inl hdone
    · exact Or.inr (Or.inl (List.mem_append_left _ hmem))
    · exact Or.inr (Or.inr hturn)
    · exact Or.inr (Or.inl (List.mem_append_right _ (List.mem_singleton_self task)))

/-- A task arrives and is let in. -/
lemma OnTime.enter (h : run.OnTime procedure left places rounds (.arrive task :: now))
    (hfree : run.line.free ≠ 0) :
    OnTime procedure left places rounds (.proceed task :: now)
      { run with line.free := run.line.free - 1 } := by
  set inside : Run s ι κ α := { run with line.free := run.line.free - 1 } with hinside
  have houtside : inside.outside (.proceed task :: now) + 1
      = run.outside (.arrive task :: now) := by
    rw [outside_proceed, outside_arrive]
    rfl
  have hroom := share_add procedure.patience houtside
  have hlength := h.length
  refine ⟨?_, h.parked, h.patience, ?_, ?_, ?_, ?_, ?_, ?_⟩
  · intro turn hturn
    rcases List.mem_cons.mp hturn with rfl | hturn
    · exact h.exist_next
    · exact h.exist_behind turn hturn
  · simp only [hinside] at hroom ⊢
    omega
  · intro i round other hround hmem
    have hsoon := h.soon i round other hround hmem
    simp only [hinside] at hroom ⊢
    omega
  · intro other hother
    have hpatience := h.patience other
    simp only [hinside] at hroom ⊢
    omega
  · have hplaces := h.places_arrive
    rw [turns_cons, List.countP_cons_of_pos (by simp [Turn.isArrival])]
    show (run.turns now).countP _ + 1 + (run.line.free - 1) = places
    omega
  · exact fun hne => absurd (h.full hne) hfree
  · intro other hother
    rcases h.listed_behind hother with (hdone | hmem | ⟨turn, hturn, heq⟩) | rfl
    · exact Or.inl hdone
    · exact Or.inr (Or.inl hmem)
    · exact Or.inr (Or.inr ⟨turn, List.mem_cons_of_mem _ hturn, heq⟩)
    · exact Or.inr (Or.inr ⟨.proceed task, List.mem_cons_self, rfl⟩)

lemma OnTime.take (patient : procedure.Patient left) {turn : Turn}
    (h : run.OnTime procedure left places rounds (turn :: now)) :
    (run.take procedure turn).OnTime procedure left places rounds now := by
  cases turn with
  | arrive task =>
      rw [Run.take]
      split_ifs with hfree
      · exact h.park hfree
      · exact (h.enter hfree).proceed patient
  | proceed task => exact h.proceed patient

lemma OnTime.takeAll (patient : procedure.Patient left)
    (h : run.OnTime procedure left places rounds now) :
    (now.foldl (Run.take procedure) run).OnTime procedure left places rounds [] := by
  induction now generalizing run with
  | nil => exact h
  | cons turn now ih => exact ih (h.take patient)

/-- A round is held, and one round less is left. -/
lemma OnTime.holdRound (patient : procedure.Patient left)
    (h : run.OnTime procedure left places (rounds + 1) []) (hrounds : run.line.rounds ≠ []) :
    (run.holdRound procedure).OnTime procedure left places rounds [] := by
  obtain ⟨first, rest, hsplit⟩ := List.exists_cons_of_ne_nil hrounds
  rw [Run.holdRound, hsplit]
  refine OnTime.takeAll patient ?_
  have hturns : Run.turns first { run with line := { run.line with rounds := rest } }
      = run.turns [] := by
    simp [turns, hsplit]
  have houtside : Run.outside first { run with line := { run.line with rounds := rest } }
      = run.outside [] := by
    rw [outside, outside, hturns]
  refine ⟨?_, h.parked, h.patience, ?_, ?_, ?_, ?_, h.full, ?_⟩
  · rw [hturns]
    exact h.exist
  · have hlength := h.length
    rw [hsplit, List.length_cons] at hlength
    rw [houtside]
    simp only
    omega
  · intro i round task hround hmem
    have hsoon := h.soon (i + 1) round task (by simpa [hsplit] using hround) hmem
    rw [houtside]
    simp only
    omega
  · intro task hmem
    have hsoon := h.soon 0 first task (by simp [hsplit]) hmem
    rw [houtside]
    simp only
    omega
  · rw [hturns]
    exact h.places
  · rw [hturns]
    exact h.listed

end Run

lemma calledOff_keeps (procedure : Procedure s ι κ α) (callsOff : α → Bool) :
    TurnKeeps procedure fun _ ended => ended.any callsOff = true := by
  intro batch ended task step _ hended
  rw [List.any_append, hended, Bool.true_or]

lemma hold_finished {left : κ → Nat} (patient : procedure.Patient left) (more : Nat)
    (callsOff : α → Bool) {places : Nat} (hplaces : 0 < places) : ∀ (rounds : Nat) (run : Run s ι κ α),
      run.OnTime procedure left places rounds [] →
        (hold procedure more callsOff rounds run).batch.Finished ∨
          (hold procedure more callsOff rounds run).ended.any callsOff = true
  | 0, run, h => by
      have hlength := h.length
      exact Or.inl (h.finished hplaces (List.length_eq_zero_iff.mp (by omega)))
  | rounds + 1, run, h => by
      simp only [hold]
      split_ifs with hempty hoff
      · exact Or.inl (h.finished hplaces (List.isEmpty_iff.mp hempty))
      · exact Or.inr (Run.holdRounds_keeps (calledOff_keeps procedure callsOff) more _ hoff)
      · exact hold_finished patient more callsOff hplaces rounds _
          (h.holdRound patient (by simpa using hempty))

lemma onTime_start (left : κ → Nat) (places : Nat) (inputs : List ι) (state : s) :
    Run.OnTime procedure left places ((inputs.length + 1) * (procedure.patience + 2)) []
      { batch := ofInputs state inputs
        line := ⟨[(List.range inputs.length).map .arrive], [], places⟩ } := by
  set start : Run s ι κ α :=
    { batch := ofInputs state inputs
      line := ⟨[(List.range inputs.length).map .arrive], [], places⟩ } with hstart
  have hturns : start.turns [] = (List.range inputs.length).map .arrive := by
    simp [hstart, Run.turns]
  have houtside : start.outside [] = inputs.length := by
    rw [Run.outside, hturns, List.countP_eq_length.mpr (by simp [Turn.isArrival])]
    simp [hstart]
  have htasks : start.batch.tasks.length = inputs.length := by simp [hstart, ofInputs]
  have hrounds : (inputs.length + 1) * (procedure.patience + 2)
      = inputs.length * (procedure.patience + 1) + inputs.length + (procedure.patience + 2) := by
    rw [Nat.succ_mul, Nat.mul_succ inputs.length (procedure.patience + 1)]
  refine ⟨?_, ?_, ?_, ?_, ?_, ?_, ?_, ?_, ?_⟩
  · intro turn hturn
    rw [hturns] at hturn
    obtain ⟨task, htask, rfl⟩ := List.mem_map.mp hturn
    rw [htasks]
    exact List.mem_range.mp htask
  · intro task htask
    simp [hstart] at htask
  · intro task
    rw [hstart, lastStep?_ofInputs]
    exact Nat.le_refl _
  · rw [houtside, hrounds]
    simp only [hstart, List.length_singleton]
    omega
  · intro i round task hround hmem
    have harrive : (Turn.proceed task) ∈ start.turns [] := by
      simp only [Run.turns, List.nil_append, List.mem_flatten]
      exact ⟨round, List.mem_of_getElem? hround, hmem⟩
    simp [hturns] at harrive
  · intro task htask
    simp at htask
  · rw [hturns, List.countP_eq_zero.mpr (by simp [Turn.isArrival])]
    simp [hstart]
  · intro hne
    simp [hstart] at hne
  · intro task htask
    rw [htasks] at htask
    exact Or.inr (Or.inr ⟨.arrive task, by simp [hturns, htask], rfl⟩)

/-- **Completion.**  A run with at least one place ends with all tasks done, or with a result that called
it off. -/
theorem run_finished {left : κ → Nat} (patient : procedure.Patient left) {places : Nat}
    (hplaces : 0 < places) (more : Nat) (callsOff : α → Bool) (inputs : List ι) (state : s) :
    (run procedure places more callsOff inputs state).batch.Finished ∨
      (run procedure places more callsOff inputs state).ended.any callsOff = true := by
  exact hold_finished patient more callsOff hplaces _ _ (onTime_start left places inputs state)

end Batch

end TemplateAtlas
