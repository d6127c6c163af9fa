import Mathlib.Algebra.GroupWithZero.Nat
import Mathlib.Tactic.Common
import TemplateAtlas.Proofs.Independence
import TemplateAtlas.Proofs.Sessions

/-!
# A query and the queries about each of its files

What comes of several files that are each alone is put together from what comes of each of them.  Everything
in a report adds up: locations and failures follow each other in the order of the candidates, and numbers are
summed (`Report.combine`, `reportAlone_eq_combine`).  A file that is left out after it was loaded comes behind
all those that could not be loaded; the report on a single file tells the two cases apart by its numbers
(`Report.loadFailures`, `Report.resolveFailures`).

As a query does to each of its files what it would do to that file alone, it is the combination of the queries
about each of them: `query_combines`.
-/

namespace TemplateAtlas

open Soy

namespace Search

section Whole

variable {workspace : Workspace} {before : Atlas Stack} {settings : Settings} {name : String}

lemma flatMap_of_cons {β : Type} {f : List String → List β} (hnil : f [] = [])
    (hcons : ∀ path paths, f (path :: paths) = f [path] ++ f paths) (paths : List String) :
    f paths = paths.flatMap fun path => f [path] := by
  induction paths with
  | nil => rw [hnil, List.flatMap_nil]
  | cons path paths ih => rw [hcons, ih, List.flatMap_cons]

lemma sum_of_cons {f : List String → Nat} (hnil : f [] = 0)
    (hcons : ∀ path paths, f (path :: paths) = f [path] + f paths) (paths : List String) :
    f paths = (paths.map fun path => f [path]).sum := by
  induction paths with
  | nil => rw [hnil, List.map_nil, List.sum_nil]
  | cons path paths ih => rw [hcons, ih, List.map_cons, List.sum_cons]

lemma loadsAlone_single {path : String} {outcome : Except Mishap Loaded}
    (h : (loadAlone workspace before path).1.map Loaded.unnumbered = outcome) :
    loadsAlone workspace before [path] = [outcome] := by
  rw [loadsAlone, List.map_singleton, h]

lemma loadsAlone_cons (path : String) (paths : List String) :
    loadsAlone workspace before (path :: paths)
      = loadsAlone workspace before [path] ++ loadsAlone workspace before paths := rfl

lemma answersAlone_cons (path : String) (paths : List String) :
    answersAlone workspace before settings name (path :: paths)
      = answersAlone workspace before settings name [path]
        ++ answersAlone workspace before settings name paths := by
  simp only [answersAlone, loadsAlone_cons path paths, successesOf, select, List.filterMap_append,
    List.map_append, List.filter_append]

/-- A file is either left out, or its index is loaded and resolved. -/
lemma alone_cases (workspace : Workspace) (before : Atlas Stack) (settings : Settings) (name : String)
    (path : String) :
    (∃ mishap, loadsAlone workspace before [path] = [.error mishap] ∧
      answersAlone workspace before settings name [path] = []) ∨
    ∃ item, loadsAlone workspace before [path] = [.ok item] ∧
      (answersAlone workspace before settings name [path]).length ≤ 1 := by
  cases hload : (loadAlone workspace before path).1.map Loaded.unnumbered with
  | error mishap =>
      have hloads := loadsAlone_single hload
      exact Or.inl ⟨mishap, hloads, by rw [answersAlone, hloads]; rfl⟩
  | ok item =>
      have hloads := loadsAlone_single hload
      refine Or.inr ⟨item, hloads, ?_⟩
      rw [answersAlone, hloads, List.length_map, successesOf_ok, select_cons]
      split_ifs <;> simp [successesOf, select]

lemma faulty_iff (candidates : List String) (fault : QueryFault) :
    Faulty workspace before settings name candidates fault ↔
      ∃ path ∈ candidates, Faulty workspace before settings name [path] fault := by
  simp only [Faulty]
  rw [flatMap_of_cons rfl loadsAlone_cons, flatMap_of_cons rfl answersAlone_cons, List.mem_flatMap,
    List.mem_flatMap, ← exists_or]
  simp only [← and_or_left]

lemma Faulty.unique {path : String} {fault other : QueryFault}
    (h : Faulty workspace before settings name [path] fault)
    (hother : Faulty workspace before settings name [path] other) : fault = other := by
  rcases alone_cases workspace before settings name path with
    ⟨mishap, hloads, hanswers⟩ | ⟨item, hloads, hanswers⟩
  · simp only [Faulty, hloads, hanswers, List.mem_singleton, List.not_mem_nil, or_false,
      Except.error.injEq] at h hother
    exact Mishap.fatal.inj (h.trans hother.symm)
  · simp only [Faulty, hloads, List.mem_singleton, reduceCtorEq, false_or] at h hother
    match answersAlone workspace before settings name [path], hanswers, h, hother with
    | [], _, h, _ => simp at h
    | [answer], _, h, hother =>
        rw [List.mem_singleton] at h hother
        exact Mishap.fatal.inj (Except.error.inj (h.trans hother.symm))

end Whole

end Search

/-- The failures of a query about one file, if its index could not be loaded. -/
def Report.loadFailures (report : Report) : List Failure :=
  if report.cacheHits + report.rebuilt = 0 then report.failures else []

/-- The failures of a query about one file, if its index was loaded. -/
def Report.resolveFailures (report : Report) : List Failure :=
  if report.cacheHits + report.rebuilt = 0 then [] else report.failures

/-- The report on several files, made of the reports on each of them. -/
def Report.combine (name : String) (reports : List Report) : Report where
  name := name
  locations := reports.flatMap (·.locations)
  failures := reports.flatMap (·.loadFailures) ++ reports.flatMap (·.resolveFailures)
  candidateCount := (reports.map (·.candidateCount)).sum
  cacheHits := (reports.map (·.cacheHits)).sum
  rebuilt := (reports.map (·.rebuilt)).sum

namespace Search

section Combination

variable {workspace : Workspace} {before : Atlas Stack} {settings : Settings} {name : String}

lemma loadFailures_alone (path : String) :
    (reportAlone workspace before settings name [path]).loadFailures
      = failuresOf (loadsAlone workspace before [path]) := by
  rcases alone_cases workspace before settings name path with
    ⟨mishap, hloads, hanswers⟩ | ⟨item, hloads, -⟩
  · simp [reportAlone, report, Report.loadFailures, hloads, hanswers, successesOf, failuresOf,
      Except.toOption]
  · cases hcache : item.fromCache <;>
      simp [reportAlone, report, Report.loadFailures, hloads, successesOf, failuresOf,
        Except.toOption, hcache]

lemma resolveFailures_alone (path : String) :
    (reportAlone workspace before settings name [path]).resolveFailures
      = failuresOf (answersAlone workspace before settings name [path]) := by
  rcases alone_cases workspace before settings name path with
    ⟨mishap, hloads, hanswers⟩ | ⟨item, hloads, -⟩
  · simp [reportAlone, report, Report.resolveFailures, hloads, hanswers, successesOf, failuresOf,
      Except.toOption]
  · cases hcache : item.fromCache <;>
      simp [reportAlone, report, Report.resolveFailures, hloads, successesOf, failuresOf,
        Except.toOption, hcache]

lemma failuresOf_loadsAlone (candidates : List String) :
    failuresOf (loadsAlone workspace before candidates)
      = candidates.flatMap fun path => failuresOf (loadsAlone workspace before [path]) :=
  flatMap_of_cons (f := fun paths => failuresOf (loadsAlone workspace before paths)) rfl
    (fun path paths => by simp only [loadsAlone_cons path paths, failuresOf, List.filterMap_append])
    candidates

/-- The report on several files that are each alone. -/
lemma reportAlone_eq_combine (candidates : List String) :
    reportAlone workspace before settings name candidates = Report.combine name
      (candidates.map fun path => reportAlone workspace before settings name [path]) := by
  have hlocations := flatMap_of_cons
    (f := fun paths => (reportAlone workspace before settings name paths).locations) rfl
    fun path paths => by
      simp only [reportAlone, report, answersAlone_cons path paths, successesOf,
        List.filterMap_append, List.flatten_append]
  have hresolveFailures := flatMap_of_cons
    (f := fun paths => failuresOf (answersAlone workspace before settings name paths)) rfl
    fun path paths => by simp only [answersAlone_cons path paths, failuresOf, List.filterMap_append]
  have hcount := sum_of_cons
    (f := fun paths => (reportAlone workspace before settings name paths).candidateCount) rfl
    fun path paths => by
      simp only [reportAlone, report, loadsAlone_cons path paths, List.length_append]
  have hhits := sum_of_cons
    (f := fun paths => (reportAlone workspace before settings name paths).cacheHits) rfl
    fun path paths => by
      simp only [reportAlone, report, loadsAlone_cons path paths, successesOf,
        List.filterMap_append, List.countP_append]
  have hrebuilt := sum_of_cons
    (f := fun paths => (reportAlone workspace before settings name paths).rebuilt) rfl
    fun path paths => by
      simp only [reportAlone, report, loadsAlone_cons path paths, successesOf,
        List.filterMap_append, List.countP_append]
  simp only [Report.combine, List.flatMap_map, loadFailures_alone, resolveFailures_alone,
    List.map_map, Function.comp_def, ← hlocations, ← failuresOf_loadsAlone, ← hresolveFailures,
    ← hcount, ← hhits, ← hrebuilt]
  rfl

/-- Every candidate is loaded from the cache, built or left out. -/
lemma candidateCount_alone {candidates : List String}
    (hcalm : ∀ fault, ¬ Faulty workspace before settings name candidates fault) :
    (reportAlone workspace before settings name candidates).candidateCount
      = (reportAlone workspace before settings name candidates).cacheHits
        + (reportAlone workspace before settings name candidates).rebuilt
        + (failuresOf (loadsAlone workspace before candidates)).length := by
  have hloads : ∀ outcomes : List (Except Mishap Loaded),
      (∀ fault, .error (.fatal fault) ∉ outcomes) →
        outcomes.length = (successesOf outcomes).length + (failuresOf outcomes).length := by
    intro outcomes hcalm
    induction outcomes with
    | nil => rfl
    | cons outcome outcomes ih =>
        have hrest := ih fun fault hmem => hcalm fault (List.mem_cons_of_mem _ hmem)
        match outcome, hcalm with
        | .ok item, _ =>
            rw [successesOf_ok, failuresOf_ok, List.length_cons, List.length_cons, hrest]
            omega
        | .error (.contained failure), _ =>
            rw [successesOf_error, failuresOf_error, List.length_append, List.length_cons, hrest]
            simp only [failuresOf, List.filterMap_cons, List.filterMap_nil, List.length_singleton]
            omega
        | .error (.fatal fault), hcalm => exact absurd List.mem_cons_self (hcalm fault)
  have hlength := hloads (loadsAlone workspace before candidates) fun fault hmem =>
    hcalm fault (Or.inl hmem)
  simp only [reportAlone, report]
  rw [hlength, List.length_eq_countP_add_countP (·.fromCache)]
  simp only [Bool.not_eq_true, Bool.decide_eq_false]

/-- What comes of a query about one file. -/
lemma query_single (hplaces : 0 < settings.maxConcurrency) (path : String) :
    (∃ fault, (query lexer workspace settings name [path] before).1 = .error fault ∧
      Faulty workspace before settings name [path] fault) ∨
    (∀ fault, ¬ Faulty workspace before settings name [path] fault) ∧
      (query lexer workspace settings name [path] before).1
        = .ok (reportAlone workspace before settings name [path]) ∧
      (query lexer workspace settings name [path] before).2.flags = Flags.none.markAll
        (if settings.reflag then (failuresOf (loadsAlone workspace before [path])).map (·.path)
          else []) ∧
      ((query lexer workspace settings name [path] before).2.cache.get? path).map Cached.unnumbered
        = entryLeft workspace before settings name path := by
  have hnodup : [path].Nodup := by simp
  have hscheduled := query_scheduled lexer workspace hplaces name [path] before
  generalize query lexer workspace settings name [path] before = outcome at hscheduled ⊢
  obtain ⟨outcome, after⟩ := outcome
  cases outcome with
  | error fault => exact Or.inl ⟨fault, rfl, hscheduled.faulty hnodup⟩
  | ok answer =>
      obtain ⟨hcalm, rfl, hflags, hentries⟩ := hscheduled.answer hnodup
      exact Or.inr ⟨hcalm, rfl, hflags, hentries path (List.mem_singleton_self path)⟩

/-- **A query is made of the queries about each of its files.**  Whatever the order of the turns, a fault
that ends it ends one of those too.  Otherwise its report is their reports put together, every candidate is
counted once, and the cache entries of the candidates are those that they leave. -/
theorem query_combines (workspace : Workspace) {settings : Settings}
    (hplaces : 0 < settings.maxConcurrency) (name : String) {candidates : List String}
    (hnodup : candidates.Nodup) (before : Atlas Stack) :
    let alone path := query lexer workspace settings name [path] before
    Scheduled lexer workspace settings name candidates before
        (query lexer workspace settings name candidates before) ∧
      (∀ fault after,
        Scheduled lexer workspace settings name candidates before (.error fault, after) →
          ∃ path ∈ candidates, (alone path).1 = .error fault) ∧
      ∀ answer after,
        Scheduled lexer workspace settings name candidates before (.ok answer, after) →
          ∃ singles : List Report,
            List.Forall₂ (fun path single => (alone path).1 = .ok single ∧
              single.loadFailures = failuresOf [(loadAlone workspace before path).1])
              candidates singles ∧
            answer = .combine name singles ∧
            answer.candidateCount = answer.cacheHits + answer.rebuilt
              + (singles.flatMap (·.loadFailures)).length ∧
            ∀ path ∈ candidates, (after.cache.get? path).map Cached.unnumbered
              = ((alone path).2.cache.get? path).map Cached.unnumbered := by
  intro alone
  refine ⟨query_scheduled lexer workspace hplaces name candidates before, ?_, ?_⟩
  · intro fault after hscheduled
    obtain ⟨path, hpath, hfaulty⟩ := (faulty_iff candidates fault).mp (hscheduled.faulty hnodup)
    refine ⟨path, hpath, ?_⟩
    rcases query_single hplaces path with ⟨other, hother, hsame⟩ | ⟨hcalm, -⟩
    · rw [hfaulty.unique hsame]
      exact hother
    · exact absurd hfaulty (hcalm fault)
  · intro answer after hscheduled
    obtain ⟨hcalm, hanswer, -, hentries⟩ := hscheduled.answer hnodup
    have hsingle : ∀ path ∈ candidates,
        (alone path).1 = .ok (reportAlone workspace before settings name [path]) ∧
          ((alone path).2.cache.get? path).map Cached.unnumbered
            = entryLeft workspace before settings name path := by
      intro path hpath
      rcases query_single hplaces path with ⟨fault, -, hfaulty⟩ | ⟨-, hanswer, -, hentry⟩
      · exact absurd ((faulty_iff candidates fault).mpr ⟨path, hpath, hfaulty⟩) (hcalm fault)
      · exact ⟨hanswer, hentry⟩
    refine ⟨candidates.map fun path => reportAlone workspace before settings name [path],
      ?_, hanswer.trans (reportAlone_eq_combine candidates), ?_, ?_⟩
    · rw [List.forall₂_map_right_iff, List.forall₂_same]
      intro path hpath
      refine ⟨(hsingle path hpath).1, ?_⟩
      rw [loadFailures_alone, ← failuresOf_unnumbered [(loadAlone workspace before path).1]]
      rfl
    · rw [hanswer, candidateCount_alone hcalm, List.flatMap_map]
      simp only [loadFailures_alone]
      rw [← failuresOf_loadsAlone]
    · intro path hpath
      rw [hentries path hpath, (hsingle path hpath).2]

end Combination

end Search

namespace Session

open Search

/-- Two files are asked about, and only one of them is there. -/
def half : Session := onEmptyDisk.run [.write "b.soy" "\x7btemplate .aa\x7d".toUTF8.toList 5]

/-- The file that is missing does not matter to the other. -/
theorem query_combines_missing :
    ∃ answer, (query lexer half.view {} "*" ["a.soy", "b.soy"] half.service.atlas).1 = .ok answer ∧
      answer.locations = [⟨"b.soy", ".aa", 0, 0⟩] ∧ answer.failures.map (·.path) = ["a.soy"] ∧
        answer.candidateCount = 2 := by
  have hplaces : 0 < ({} : Settings).maxConcurrency := by decide
  have hnodup : ["a.soy", "b.soy"].Nodup := by decide
  obtain ⟨hscheduled, -, hcombines⟩ :=
    query_combines half.view hplaces "*" hnodup half.service.atlas
  have hanswered : (query lexer half.view {} "*" ["a.soy", "b.soy"] half.service.atlas).1.isOk
      = true := by decide +kernel
  generalize query lexer half.view {} "*" ["a.soy", "b.soy"] half.service.atlas = run
    at hscheduled hanswered ⊢
  obtain ⟨outcome, after⟩ := run
  cases outcome with
  | error fault => exact Bool.noConfusion hanswered
  | ok answer =>
      obtain ⟨singles, hsingles, rfl, -⟩ := hcombines answer after hscheduled
      obtain ⟨missing, _, ⟨hmissing, -⟩, hrest, rfl⟩ := List.forall₂_cons_left_iff.mp hsingles
      obtain ⟨found, _, ⟨hfound, -⟩, hnil, rfl⟩ := List.forall₂_cons_left_iff.mp hrest
      cases hnil
      have hreports : [missing, found] = ["a.soy", "b.soy"].filterMap fun path =>
          (query lexer half.view {} "*" [path] half.service.atlas).1.toOption := by
        simp [hmissing, hfound, Except.toOption]
      refine ⟨_, rfl, ?_⟩
      rw [hreports]
      decide +kernel

end Session

end TemplateAtlas
