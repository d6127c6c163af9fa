import Mathlib.Tactic.Common
import TemplateAtlas.Proofs.Resolving

/-!
# Queries in any order

How long the outside world takes to answer decides in which order the loads of a query take their turns, and
in which order its resolves do.  What is true of `Scheduled` outcomes is true in every such order.

* `loadsAfter`, `resolvesAfter` — the two batches of a query after the turns of a schedule.
* `Ends` — what can come of a query for some schedule of its loads and some schedule of its resolves, and what
  it leaves under way.  A query that ends with a fault may have gone on for any number of turns after that.
* `Scheduled` — the same, whatever is left under way.
* `CandidatesEnd` — the same for candidates of which some may be no paths.
* `query_ends`, `queryCandidates_ends`, `query_scheduled` — the query itself is one of these.
-/

namespace TemplateAtlas

variable {σ : Type}

/-! ## Outcomes -/

section Outcomes

variable {α : Type} {outcomes : List (Except Mishap α)}

@[simp] lemma successesOf_ok (item : α) (outcomes : List (Except Mishap α)) :
    successesOf (.ok item :: outcomes) = item :: successesOf outcomes := rfl

@[simp] lemma successesOf_error (mishap : Mishap) (outcomes : List (Except Mishap α)) :
    successesOf (.error mishap :: outcomes) = successesOf outcomes := rfl

@[simp] lemma failuresOf_ok (item : α) (outcomes : List (Except Mishap α)) :
    failuresOf (.ok item :: outcomes) = failuresOf outcomes := rfl

lemma failuresOf_error (mishap : Mishap) (outcomes : List (Except Mishap α)) :
    failuresOf (.error mishap :: outcomes)
      = failuresOf [(.error mishap : Except Mishap Unit)] ++ failuresOf outcomes := by
  cases mishap <;> rfl

lemma firstFatal?_error (mishap : Mishap) (outcomes : List (Except Mishap α)) :
    firstFatal? (.error mishap :: outcomes)
      = (firstFatal? [(.error mishap : Except Mishap Unit)]).or (firstFatal? outcomes) := by
  cases mishap <;> rfl

lemma successesOf_map_ok {β : Type} (f : β → α) (inputs : List β) :
    successesOf (inputs.map fun input => .ok (f input)) = inputs.map f := by
  induction inputs with
  | nil => rfl
  | cons input inputs ih => rw [List.map_cons, successesOf_ok, ih, List.map_cons]

lemma failuresOf_map_ok {β : Type} (f : β → α) (inputs : List β) :
    failuresOf (inputs.map fun input => .ok (f input)) = [] := by
  induction inputs with
  | nil => rfl
  | cons input inputs ih => rw [List.map_cons, failuresOf_ok, ih]

lemma mem_successesOf {item : α} : item ∈ successesOf outcomes ↔ .ok item ∈ outcomes := by
  rw [successesOf, List.mem_filterMap]
  constructor
  · rintro ⟨outcome, hmem, hitem⟩
    cases outcome with
    | error mishap => simp [Except.toOption] at hitem
    | ok found =>
        rw [Except.toOption, Option.some.injEq] at hitem
        exact hitem ▸ hmem
  · exact fun h => ⟨_, h, rfl⟩

lemma mem_failuresOf {failure : Failure} :
    failure ∈ failuresOf outcomes ↔ .error (.contained failure) ∈ outcomes := by
  rw [failuresOf, List.mem_filterMap]
  constructor
  · rintro ⟨outcome, hmem, hfailure⟩
    split at hfailure
    · rw [Option.some.injEq] at hfailure
      exact hfailure ▸ hmem
    · simp at hfailure
  · exact fun h => ⟨_, h, rfl⟩

lemma mem_of_firstFatal? {fault : QueryFault} (h : firstFatal? outcomes = some fault) :
    .error (.fatal fault) ∈ outcomes := by
  obtain ⟨outcome, hmem, hfault⟩ := List.exists_of_findSome?_eq_some h
  split at hfault
  · rw [Option.some.injEq] at hfault
    exact hfault ▸ hmem
  · simp at hfault

lemma firstFatal?_eq_none (h : ∀ fault, .error (.fatal fault) ∉ outcomes) :
    firstFatal? outcomes = none := by
  cases hfault : firstFatal? outcomes with
  | none => rfl
  | some fault => exact absurd (mem_of_firstFatal? hfault) (h fault)

lemma any_isFatal_of_none (h : firstFatal? outcomes = none) : outcomes.any isFatal = false := by
  rw [firstFatal?, List.findSome?_eq_none_iff] at h
  rw [List.any_eq_false]
  intro outcome hmem hfatal
  have hnone := h outcome hmem
  split at hnone
  · simp at hnone
  · rename_i hother
    cases outcome with
    | ok found => simp [isFatal] at hfatal
    | error mishap =>
        cases mishap with
        | contained failure => simp [isFatal] at hfatal
        | fatal fault => exact hother fault rfl

lemma fatal_notMem_results {s ι κ : Type} {procedure : Procedure s ι κ (Except Mishap α)}
    {places more : Nat} {inputs : List ι} {state : s}
    (h : firstFatal? (Batch.run procedure places more isFatal inputs state).ended = none)
    (fault : QueryFault) :
    .error (.fatal fault) ∉ (Batch.run procedure places more isFatal inputs state).batch.results := by
  intro hmem
  rw [Batch.mem_run_results] at hmem
  exact List.any_eq_false.mp (any_isFatal_of_none h) _ hmem rfl

end Outcomes

namespace Search

/-- The loads of a query, after the turns of a schedule. -/
def loadsAfter (workspace : Workspace) (candidates : List String) (before : Atlas σ)
    (schedule : List Nat) : Batch (Atlas σ) String Atlas.LoadStage (Except Mishap Loaded) :=
  Batch.execute (loading workspace) schedule (.ofInputs before candidates)

/-- The resolves of a query, after the turns of a schedule. -/
def resolvesAfter (lexer : LineLexer σ) (workspace : Workspace) (settings : Settings) (name : String)
    (loads : Batch (Atlas σ) String Atlas.LoadStage (Except Mishap Loaded)) (schedule : List Nat) :
    Batch (Atlas σ) Selected Unit (Except Mishap (List Location)) :=
  Batch.execute (resolving lexer workspace) schedule
    (.ofInputs (settle settings (failuresOf loads.results) loads.state)
      (select settings name (successesOf loads.results)))

lemma loadsAfter_inputs (workspace : Workspace) (candidates : List String) (before : Atlas σ)
    (schedule : List Nat) :
    (loadsAfter workspace candidates before schedule).tasks.map (·.1) = candidates := by
  rw [loadsAfter, Batch.execute_inputs, Batch.ofInputs_inputs]

lemma resolvesAfter_inputs (lexer : LineLexer σ) (workspace : Workspace) (settings : Settings)
    (name : String) (loads : Batch (Atlas σ) String Atlas.LoadStage (Except Mishap Loaded))
    (schedule : List Nat) :
    (resolvesAfter lexer workspace settings name loads schedule).tasks.map (·.1)
      = select settings name (successesOf loads.results) := by
  rw [resolvesAfter, Batch.execute_inputs, Batch.ofInputs_inputs]

/-- No result ends the query. -/
def Calm {ι κ α : Type} (batch : Batch (Atlas σ) ι κ (Except Mishap α)) : Prop :=
  ∀ fault, .error (.fatal fault) ∉ batch.results

section Scheduled

variable (lexer : LineLexer σ) (workspace : Workspace) (settings : Settings) (name : String)
  (candidates : List String) (before : Atlas σ)

/-- What can come of a query, whatever the order of the turns, and what is left under way then.  Its loads are over
when all of them are done, or when one of them has ended the query; and so are its resolves. -/
inductive Ends : Except QueryFault Report × Atlas σ → List Late → Prop
  | calledOff {first : List Nat} {fault : QueryFault}
      (hfault : .error (.fatal fault) ∈ (loadsAfter workspace candidates before first).results) :
      Ends (.error fault, (loadsAfter workspace candidates before first).state)
        (lateLoads (loadsAfter workspace candidates before first))
  | abandoned {first second : List Nat}
      {loads : Batch (Atlas σ) String Atlas.LoadStage (Except Mishap Loaded)} {fault : QueryFault}
      (hfirst : loads = loadsAfter workspace candidates before first) (hdone : loads.Finished)
      (hcalm : Calm loads)
      (hfault : .error (.fatal fault)
        ∈ (resolvesAfter lexer workspace settings name loads second).results) :
      Ends (.error fault, (resolvesAfter lexer workspace settings name loads second).state)
        (lateResolves (resolvesAfter lexer workspace settings name loads second))
  | answered {first second : List Nat}
      {loads : Batch (Atlas σ) String Atlas.LoadStage (Except Mishap Loaded)}
      (hfirst : loads = loadsAfter workspace candidates before first) (hdone : loads.Finished)
      (hcalm : Calm loads)
      (hresolved : (resolvesAfter lexer workspace settings name loads second).Finished)
      (hquiet : Calm (resolvesAfter lexer workspace settings name loads second)) :
      Ends
        (.ok (report name loads.results
            (resolvesAfter lexer workspace settings name loads second).results),
          (resolvesAfter lexer workspace settings name loads second).state) []

/-- What can come of a query, whatever the order of the turns. -/
def Scheduled (outcome : Except QueryFault Report × Atlas σ) : Prop :=
  ∃ late, Ends lexer workspace settings name candidates before outcome late

/-- What can come of a query about candidates, of which some may be no paths, and what is left under way then. -/
inductive CandidatesEnd (candidates : List Candidate) (all : Bool) :
    Except QueryFault Report × Atlas σ → List Late → Prop
  | notPaths (hpaths : Candidate.spellings? candidates = none) :
      CandidatesEnd candidates all (.error .notAPath, before) []
  | queried {paths : List String} {outcome : Except QueryFault Report × Atlas σ} {late : List Late}
      (hpaths : Candidate.spellings? candidates = some paths)
      (h : Ends lexer workspace settings name (filterCandidates settings.extension all paths) before outcome
        late) : CandidatesEnd candidates all outcome late

/-- What a query about candidates leaves under way. -/
def candidatesLeft (candidates : List Candidate) (all : Bool) : List Late :=
  match Candidate.spellings? candidates with
  | none => []
  | some paths =>
    left lexer workspace settings name (filterCandidates settings.extension all paths) before

end Scheduled

/-- A run with at least one place follows a schedule, and ends with all tasks done if nothing has called
it off. -/
lemma run_execute {ι κ β : Type} {procedure : Procedure (Atlas σ) ι κ (Except Mishap β)}
    {left : κ → Nat} (patient : procedure.Patient left) {places : Nat} (hplaces : 0 < places) (more : Nat)
    (inputs : List ι) (atlas : Atlas σ) :
    ∃ schedule, (Batch.run procedure places more isFatal inputs atlas).batch
        = Batch.execute procedure schedule (.ofInputs atlas inputs) ∧
      (firstFatal? (Batch.run procedure places more isFatal inputs atlas).ended = none →
        (Batch.run procedure places more isFatal inputs atlas).batch.Finished) := by
  obtain ⟨schedule, hrun⟩ := Batch.run_eq_execute procedure places more isFatal inputs atlas
  refine ⟨schedule, hrun, fun hcalm => ?_⟩
  rcases Batch.run_finished patient hplaces more isFatal inputs atlas with hdone | hfatal
  · exact hdone
  · simp [any_isFatal_of_none hcalm] at hfatal

lemma runLoads_execute (workspace : Workspace) {settings : Settings} (hplaces : 0 < settings.maxConcurrency)
    (candidates : List String) (before : Atlas σ) :
    ∃ first, (runLoads workspace settings candidates before).batch
        = loadsAfter workspace candidates before first ∧
      (firstFatal? (runLoads workspace settings candidates before).ended = none →
        (runLoads workspace settings candidates before).batch.Finished) :=
  run_execute (loading_patient workspace) hplaces _ candidates before

lemma runResolves_execute (lexer : LineLexer σ) (workspace : Workspace) {settings : Settings}
    (hplaces : 0 < settings.maxConcurrency) (name : String)
    (loads : Batch (Atlas σ) String Atlas.LoadStage (Except Mishap Loaded)) :
    ∃ second, (runResolves lexer workspace settings name loads).batch
        = resolvesAfter lexer workspace settings name loads second ∧
      (firstFatal? (runResolves lexer workspace settings name loads).ended = none →
        (runResolves lexer workspace settings name loads).batch.Finished) :=
  run_execute (resolving_patient lexer workspace) hplaces _ _ _

/-- **A query follows some schedule**, and leaves under way what has not ended by then. -/
theorem query_ends (lexer : LineLexer σ) (workspace : Workspace) {settings : Settings}
    (hplaces : 0 < settings.maxConcurrency) (name : String) (candidates : List String)
    (before : Atlas σ) :
    Ends lexer workspace settings name candidates before
      (query lexer workspace settings name candidates before)
      (left lexer workspace settings name candidates before) := by
  obtain ⟨first, hfirst, hfinished⟩ := runLoads_execute workspace hplaces candidates before
  simp only [query, left]
  cases hfault : firstFatal? (runLoads workspace settings candidates before).ended with
  | some fault =>
      have hmem := Batch.mem_run_results.mpr (mem_of_firstFatal? hfault)
      rw [← runLoads, hfirst] at hmem
      simp only [hfirst]
      exact .calledOff hmem
  | none =>
      have hquiet : Calm _ := fatal_notMem_results hfault
      have hdone := hfinished hfault
      rw [← runLoads] at hquiet
      generalize (runLoads workspace settings candidates before).batch = loads at hfirst hquiet hdone ⊢
      obtain ⟨second, hsecond, hfinished⟩ := runResolves_execute lexer workspace hplaces name loads
      simp only
      cases hfault : firstFatal? (runResolves lexer workspace settings name loads).ended with
      | some fault =>
          have hmem := Batch.mem_run_results.mpr (mem_of_firstFatal? hfault)
          rw [← runResolves, hsecond] at hmem
          simp only [hsecond]
          exact .abandoned hfirst hdone hquiet hmem
      | none =>
          have hquietResolves : Calm _ := fatal_notMem_results hfault
          have hresolved := hfinished hfault
          rw [← runResolves] at hquietResolves
          have hnone : lateResolves (runResolves lexer workspace settings name loads).batch = [] := by
            rw [lateResolves, Batch.unfinished_of_finished hresolved, List.map_nil]
          simp only [hnone]
          rw [hsecond] at hquietResolves hresolved ⊢
          exact .answered hfirst hdone hquiet hresolved hquietResolves

lemma queryCandidates_ends (lexer : LineLexer σ) (workspace : Workspace) {settings : Settings}
    (hplaces : 0 < settings.maxConcurrency) (name : String) (candidates : List Candidate) (all : Bool)
    (before : Atlas σ) :
    CandidatesEnd lexer workspace settings name before candidates all
      (queryCandidates lexer workspace settings name candidates all before)
      (candidatesLeft lexer workspace settings name before candidates all) := by
  rw [queryCandidates, candidatesLeft]
  cases hpaths : Candidate.spellings? candidates with
  | none => exact .notPaths hpaths
  | some paths => exact .queried hpaths (query_ends lexer workspace hplaces name _ before)

/-- **A query follows some schedule.** -/
theorem query_scheduled (lexer : LineLexer σ) (workspace : Workspace) {settings : Settings}
    (hplaces : 0 < settings.maxConcurrency) (name : String) (candidates : List String)
    (before : Atlas σ) :
    Scheduled lexer workspace settings name candidates before
      (query lexer workspace settings name candidates before) :=
  ⟨_, query_ends lexer workspace hplaces name candidates before⟩

end Search

end TemplateAtlas
