import Mathlib.Algebra.BigOperators.Group.List.Basic
import Mathlib.Tactic.Common
import TemplateAtlas.Proofs.RepeatedResolves
import TemplateAtlas.Proofs.Sessions

/-!
# Asking again

Once a query has been answered, the same query costs nothing as long as the files stay as they are.

**Loads.**  A file that failed is flagged, so that it is asked for again and fails again
(`load_refused_again`).  Any other candidate is not flagged and has an index, which is used unseen
(`loadAlone_granted`).  So all candidates are steady.

**Resolves.**  The cached indexes hold the ranges that the query selects, unless the text was refused, and then
it is refused again (`answerOf_remembered`).  A resolve that finds nothing to look for leaves the cache alone:
`resolving_idle`.

**Queries.**  What is left after a query that was answered (`Answered`) makes the answer to the same query the
same, file by file, and leaves nothing to be changed: `Scheduled.again`, `search_again`.
-/

namespace TemplateAtlas

open Soy

namespace Search

/-! ## Loads -/

section Loads

variable {σ : Type} {workspace : Workspace} {before other : Atlas σ} {path : String}

/-- Whether an index can be built does not depend on the atlas. -/
lemma rebuild_refused {fault : LoadFault} (h : (before.rebuild workspace path).1 = .error fault)
    (other : Atlas σ) : (other.rebuild workspace path).1 = .error fault := by
  rw [Atlas.rebuild, Atlas.startRebuild] at h ⊢
  cases htime : workspace.diskTime path with
  | error cause => simpa only [htime] using h
  | ok time =>
      simp only [htime, Atlas.finishRebuild] at h ⊢
      cases htext : workspace.text path with
      | error cause => simpa only [htext] using h
      | ok text => simp only [htext, reduceCtorEq] at h

lemma loadAlone_outcome (workspace : Workspace) (before : Atlas σ) (path : String) :
    (loadAlone workspace before path).1
      = (before.load workspace path).1.mapError LoadFault.mishap := by
  rw [loadAlone]
  cases (before.load workspace path).1 <;> rfl

/-- A load that is alone only fails for a path without an index, or with a flag. -/
lemma flagged_of_refused {fault : LoadFault} (h : (before.load workspace path).1 = .error fault)
    {entry : Cached} (hentry : before.cache.get? path = some entry) :
    before.flags.isChanged path = true := by
  by_contra hflag
  rw [Atlas.load_of_granted (Atlas.trust_of_unflagged hentry (Bool.eq_false_iff.mpr hflag))] at h
  cases h

/-- **A file that failed fails again**, if it is flagged and its entry is the same. -/
lemma load_refused_again {fault : LoadFault} (h : (before.load workspace path).1 = .error fault)
    (hentry : (other.cache.get? path).map Cached.unnumbered
      = (before.cache.get? path).map Cached.unnumbered)
    (hflag : other.flags.isChanged path = true) :
    (other.load workspace path).1 = .error fault := by
  cases hold : before.cache.get? path with
  | none =>
      rw [hold, Option.map_none, Option.map_eq_none_iff] at hentry
      rw [Atlas.load_of_refused (Atlas.trust_of_missing hold)] at h
      rw [Atlas.load_of_refused (Atlas.trust_of_missing hentry)]
      exact rebuild_refused h other
  | some entry =>
      have hflagged := flagged_of_refused h hold
      rw [hold, Option.map_some] at hentry
      obtain ⟨now, hnow, hsame⟩ := Option.map_eq_some_iff.mp hentry
      have hstamp : now.stamp = entry.stamp := (Cached.unnumbered_inj.mp hsame).2
      cases hdirty : workspace.isDirty path with
      | true =>
          rw [Atlas.load_of_refused (Atlas.trust_of_edited hold hflagged hdirty)] at h
          rw [Atlas.load_of_refused (Atlas.trust_of_edited hnow hflag hdirty)]
          exact rebuild_refused h other
      | false =>
          have hthen := Atlas.trust_of_flagged hold hflagged hdirty
          have htrust := Atlas.trust_of_flagged hnow hflag hdirty
          rcases Atlas.outdated_or workspace path entry with
            ⟨time, htime, hcurrent⟩ | houtdated | ⟨cause, htime, hcause⟩
          · rw [Atlas.load_of_current hthen htime hcurrent] at h
            cases h
          · obtain ⟨noted, -, hload⟩ := Atlas.load_of_outdated hthen houtdated
            obtain ⟨again, -, hagain⟩ := Atlas.load_of_outdated htrust (houtdated.of_stamp hstamp)
            rw [hload] at h
            rw [hagain]
            exact rebuild_refused h again
          · rw [Atlas.load_of_failed hthen htime hcause] at h
            rw [Atlas.load_of_failed htrust htime hcause]
            exact h

/-- An index that is not flagged is used unseen. -/
lemma loadAlone_granted {entry : Cached} (hentry : before.cache.get? path = some entry)
    (hflag : before.flags.isChanged path = false) :
    loadAlone workspace before path = (.ok ⟨path, entry.version, none⟩, before) := by
  rw [loadAlone, Atlas.load_of_granted (Atlas.trust_of_unflagged hentry hflag)]
  rfl

end Loads

/-! ## Resolves -/

section Resolves

variable {σ : Type}

/-- A resolve that changes nothing: the index is from the cache, and either there is nothing to look for or the text
is refused. -/
def Idle (workspace : Workspace) (selected : Selected) : Prop :=
  selected.item.text? = none ∧
    (selected.item.version.index.isResolved selected.names = true ∨
      ∃ cause, workspace.text selected.item.path = .error cause)

lemma cache_of_finds {lexer : LineLexer σ} {selected : Selected}
    (hresolved : selected.item.version.index.isResolved selected.names = true)
    {text? : Option (List Char)} {memory : σ} {flags : Flags} {cache : Cache}
    {result : Except Mishap (List Location) × Atlas σ}
    (h : Finds lexer selected text? memory flags cache result) : result.2.cache = cache := by
  cases h with
  | fails _ hafter => exact hafter.cache
  | known _ _ hafter => exact hafter.cache
  | completes hopen _ _ => exact absurd hresolved (by simp [hopen])

/-- **A resolve that has nothing to do leaves the cache alone.** -/
lemma resolving_idle (lexer : LineLexer σ) (workspace : Workspace) (cache : Cache) :
    (resolving lexer workspace).Keeps (fun atlas => atlas.cache = cache)
      (fun _ selected _ => Idle workspace selected) where
  step selected last? atlas hcache hidle := by
    refine ⟨Eq.trans ?_ hcache, hidle⟩
    have hturn := resolving_turns lexer workspace selected atlas last?
    generalize (resolving lexer workspace).step selected last? atlas = result at hturn ⊢
    cases hturn with
    | finds hlacks h =>
        refine cache_of_finds (Bool.of_not_eq_false fun hopen => hlacks ⟨hidle.1, hopen⟩) h
    | asks _ _ hafter => exact hafter.cache
    | gets _ h =>
        cases h with
        | refused _ hafter => exact hafter.cache
        | finds htext h =>
            rcases hidle.2 with hresolved | ⟨cause, hcause⟩
            · exact cache_of_finds hresolved h
            · exact absurd (htext.symm.trans hcause) (by simp)
    | rests => rfl
  stable _ _ _ _ _ _ _ hother := hother

end Resolves

variable {workspace : Workspace} {settings : Settings} {name path : String}
  {before middle : Atlas Stack} {candidates : List String}

/-- A query selects in what is left of an entry what it has selected in the entry. -/
lemma matching_remembered (entry : Cached) :
    (remembered workspace settings name path entry).version.index.matching name settings.wildcard
      = entry.version.index.matching name settings.wildcard := by
  refine FileIndex.matching_of_names ?_ name settings.wildcard
  rw [remembered]
  cases hfound : completed workspace path (entry.version.index.matching name settings.wildcard)
      entry.version.index with
  | error mishap => rfl
  | ok found => exact (completed_ok hfound).2

/-- What a query leaves of an entry is answered about as the entry was. -/
lemma answerOf_remembered (entry : Cached) :
    answerOf workspace settings name path
        (remembered workspace settings name path entry).version.index
      = answerOf workspace settings name path entry.version.index := by
  rw [remembered]
  cases hfound : completed workspace path (entry.version.index.matching name settings.wildcard)
      entry.version.index with
  | error mishap => rfl
  | ok found =>
      have hmatching := FileIndex.matching_of_names (completed_ok hfound).2 name settings.wildcard
      simp only [answerOf, hmatching, completed_again hfound, hfound]

/-- There is nothing to look for in it, or the text is refused. -/
lemma complete_remembered (entry : Cached) :
    (remembered workspace settings name path entry).version.index.isResolved
        ((remembered workspace settings name path entry).version.index.matching name
          settings.wildcard) = true ∨ ∃ cause, workspace.text path = .error cause := by
  rw [matching_remembered, remembered]
  cases hfound : completed workspace path (entry.version.index.matching name settings.wildcard)
      entry.version.index with
  | error mishap =>
      rw [completed] at hfound
      split_ifs at hfound
      cases htext : workspace.text path with
      | ok text => simp [htext] at hfound
      | error cause => exact Or.inr ⟨cause, rfl⟩
  | ok found => exact Or.inl (completed_ok hfound).1

/-! ## Queries about steady files -/

/-- Loads of steady files come to what they come to alone. -/
lemma outcome_of_steady (hsteady : ∀ path ∈ candidates, Steady workspace before path) {schedule : List Nat}
    {result : Except Mishap Loaded}
    (htask : (path, some (.done result)) ∈ (loadsAfter workspace candidates before schedule).tasks) :
    path ∈ candidates ∧
      result.map Loaded.unnumbered = (loadAlone workspace before path).1.map Loaded.unnumbered := by
  have hpath := mem_candidates rfl htask
  exact ⟨hpath, ((hsteady path hpath).alike rfl htask).outcome⟩

lemma results_of_steady (hsteady : ∀ path ∈ candidates, Steady workspace before path) {schedule : List Nat}
    (hdone : (loadsAfter workspace candidates before schedule).Finished) :
    (loadsAfter workspace candidates before schedule).results.map (Except.map Loaded.unnumbered)
      = loadsAlone workspace before candidates := by
  have hall : List.Forall₂ (fun path result => (loadAlone workspace before path).1.map
        Loaded.unnumbered = result.map Loaded.unnumbered)
      ((loadsAfter workspace candidates before schedule).tasks.map (·.1))
      (loadsAfter workspace candidates before schedule).results := by
    refine Batch.results_forall₂ hdone fun task htask result hresult => ?_
    have hloaded : (task.1, some (.done result))
        ∈ (loadsAfter workspace candidates before schedule).tasks := by
      rw [← hresult]
      exact htask
    exact (outcome_of_steady hsteady hloaded).2.symm
  rw [loadsAfter_inputs] at hall
  rw [loadsAlone, eq_comm, ← List.forall₂_eq_eq_eq, List.forall₂_map_left_iff,
    List.forall₂_map_right_iff]
  exact hall

/-- **What a query does with steady files is what it does with each of them alone**, also to the numbers in its
report. -/
theorem Scheduled.steady (hsteady : ∀ path ∈ candidates, Steady workspace before path)
    {outcome : Except QueryFault Report} {after : Atlas Stack}
    (h : Scheduled lexer workspace settings name candidates before (outcome, after)) :
    match outcome with
    | .error fault => Faulty workspace before settings name candidates fault
    | .ok answer => answer = reportAlone workspace before settings name candidates := by
  obtain ⟨late, h⟩ := h
  cases h with
  | @calledOff first fault hfault =>
      obtain ⟨path, htask⟩ := Batch.mem_results_iff.mp hfault
      obtain ⟨hpath, hload⟩ := outcome_of_steady hsteady htask
      exact Or.inl (List.mem_map.mpr ⟨path, hpath, hload.symm⟩)
  | @abandoned first second loads fault hfirst hdone hcalm hfault =>
      have hsound := resolvesAfter_settles hfirst hcalm settings name second
      obtain ⟨selected, hselected, entry, hdrawn, -, houtcome, -⟩ := hsound.of_mem_results hfault
      rw [resolvesAfter_inputs] at hselected
      refine Or.inr ?_
      rw [answersAlone, ← answers_agree (loads_agree hfirst hdone hcalm)]
      refine List.mem_map.mpr ⟨selected, hselected, ?_⟩
      rw [houtcome, hdrawn.index]
  | @answered first second loads hfirst hdone hcalm hresolved hquiet =>
      have hresults : loads.results.map (Except.map Loaded.unnumbered)
          = loadsAlone workspace before candidates := by
        subst hfirst
        exact results_of_steady hsteady hdone
      show report _ _ _ = _
      rw [results_resolvesAfter_repeated hfirst hdone hcalm hresolved, reportAlone, ← hresults,
        report_unnumbered]

/-! ## After a query -/

/-- What is left after a query that was answered: failed paths are flagged and no others, and the entries of the
candidates are as the query leaves them. -/
structure Answered (workspace : Workspace) (settings : Settings) (name : String)
    (candidates : List String) (before middle : Atlas Stack) : Prop where
  calm : ∀ fault, ¬ Faulty workspace before settings name candidates fault
  flags : middle.flags
    = Flags.none.markAll ((failuresOf (loadsAlone workspace before candidates)).map (·.path))
  entries : ∀ path ∈ candidates,
    (middle.cache.get? path).map Cached.unnumbered = entryLeft workspace before settings name path

lemma mem_failures_loadsAlone {failure : Failure} :
    failure ∈ failuresOf (loadsAlone workspace before candidates) ↔
      ∃ path ∈ candidates, (loadAlone workspace before path).1 = .error (.contained failure) := by
  rw [mem_failuresOf, loadsAlone, List.mem_map]
  refine exists_congr fun path => and_congr_right fun _ => ?_
  cases (loadAlone workspace before path).1 <;> simp [Except.map]

lemma Answered.flagged (h : Answered workspace settings name candidates before middle)
    (hpath : path ∈ candidates) : middle.flags.isChanged path = true ↔
      ∃ failure, (loadAlone workspace before path).1 = .error (.contained failure) := by
  rw [h.flags, Flags.isChanged_markAll, Flags.isChanged_none, List.mem_map]
  constructor
  · rintro (hfalse | ⟨failure, hfailure, rfl⟩)
    · cases hfalse
    · obtain ⟨other, -, hother⟩ := mem_failures_loadsAlone.mp hfailure
      exact ⟨failure, failure_path hother ▸ hother⟩
  · rintro ⟨failure, hfailure⟩
    exact Or.inr ⟨failure, mem_failures_loadsAlone.mpr ⟨path, hpath, hfailure⟩, failure_path hfailure⟩

/-- What comes of a load of a candidate before and after the query: the same failure, or an index and what the query
has made of it. -/
inductive LoadsAgain (workspace : Workspace) (settings : Settings) (name : String) (path : String)
    (before middle : Atlas Stack) : Prop
  | failed {failure : Failure}
      (hload : (loadAlone workspace before path).1 = .error (.contained failure))
      (hagain : (loadAlone workspace middle path).1 = .error (.contained failure))
  | loaded {item : Loaded} {entry now : Cached} (hload : (loadAlone workspace before path).1 = .ok item)
      (hitem : item.path = path ∧ item.version.index = entry.version.index ∧
        ∀ text, item.text? = some text → workspace.text path = .ok text)
      (hnow : now.unnumbered = remembered workspace settings name path entry)
      (hagain : loadAlone workspace middle path = (.ok ⟨path, now.version, none⟩, middle))

/-- A candidate that was loaded has an index, and it is used unseen. -/
lemma Answered.used (h : Answered workspace settings name candidates before middle)
    (hpath : path ∈ candidates) {item : Loaded} {entry : Cached}
    (hload : (loadAlone workspace before path).1 = .ok item)
    (hentry : (loadAlone workspace before path).2.cache.get? path = some entry) :
    ∃ now : Cached, now.unnumbered = remembered workspace settings name path entry ∧
      loadAlone workspace middle path = (.ok ⟨path, now.version, none⟩, middle) := by
  have hentries := h.entries path hpath
  simp only [entryLeft_eq, hload, hentry, Option.map_some] at hentries
  obtain ⟨now, hnow, hsame⟩ := Option.map_eq_some_iff.mp hentries
  refine ⟨now, hsame, loadAlone_granted hnow ?_⟩
  rw [← Bool.not_eq_true, h.flagged hpath]
  rintro ⟨failure, hfailure⟩
  rw [hload] at hfailure
  cases hfailure

/-- A candidate that could not be loaded has failed without ending the query, and fails again. -/
lemma Answered.failed (h : Answered workspace settings name candidates before middle)
    (hpath : path ∈ candidates) {mishap : Mishap}
    (hload : (loadAlone workspace before path).1 = .error mishap) :
    ∃ failure, mishap = .contained failure ∧ (loadAlone workspace middle path).1 = .error mishap := by
  cases mishap with
  | fatal fault =>
      refine absurd (Or.inl ?_) (h.calm fault)
      exact List.mem_map.mpr ⟨path, hpath, by rw [hload]; rfl⟩
  | contained failure =>
      refine ⟨failure, rfl, ?_⟩
      have hentries := h.entries path hpath
      simp only [entryLeft_eq, hload] at hentries
      have hflag := (h.flagged hpath).mpr ⟨failure, hload⟩
      rw [loadAlone_outcome] at hload ⊢
      cases hfault : (before.load workspace path).1 with
      | ok item => simp [hfault, Except.mapError] at hload
      | error fault =>
          rw [load_refused_again hfault hentries hflag]
          rwa [hfault] at hload

lemma Answered.loads (h : Answered workspace settings name candidates before middle)
    (hpath : path ∈ candidates) : LoadsAgain workspace settings name path before middle := by
  have hcomes := loadAlone_comesTo workspace before path
  generalize halone : loadAlone workspace before path = alone at hcomes
  cases hcomes with
  | @refused stage cause after hcache =>
      have hload : (loadAlone workspace before path).1
          = .error (LoadFault.mk path stage cause).mishap := by rw [halone]
      obtain ⟨failure, hfailure, hagain⟩ := h.failed hpath hload
      rw [hfailure] at hload hagain
      exact .failed hload hagain
  | @reused entry after hentry husable hcache =>
      have hload : (loadAlone workspace before path).1 = .ok ⟨path, entry.version, none⟩ := by
        rw [halone]
      have hkept : (loadAlone workspace before path).2.cache.get? path = some entry := by
        rw [halone, hcache, hentry]
      obtain ⟨now, hnow, hagain⟩ := h.used hpath hload hkept
      exact .loaded hload ⟨rfl, rfl, by rintro _ ⟨⟩⟩ hnow hagain
  | @built text time after hnone htext htime hcache =>
      have hload : (loadAlone workspace before path).1
          = .ok ⟨path, ⟨before.cache.issued, .ofText path text⟩, some text⟩ := by rw [halone]
      obtain ⟨now, hnow, hagain⟩ := h.used hpath hload
        (by rw [halone, hcache, Cache.get?_store, if_pos rfl])
      refine .loaded hload ⟨rfl, rfl, ?_⟩ hnow hagain
      rintro _ ⟨⟩
      exact htext

/-- The answer about a file that can be loaded. -/
lemma answersAlone_single {item : Loaded} (hload : (loadAlone workspace before path).1 = .ok item)
    (hpath : item.path = path)
    (hread : ∀ text, item.text? = some text → workspace.text path = .ok text) :
    answersAlone workspace before settings name [path]
      = if item.version.index.matching name settings.wildcard = [] then []
        else [answerOf workspace settings name path item.version.index] := by
  subst hpath
  have hagrees : List.Forall₂ (Agrees workspace) [.ok item] [.ok item.unnumbered] :=
    .cons (.loaded ⟨rfl, rfl, hread, hread⟩) .nil
  have hloads : loadsAlone workspace before [item.path] = [.ok item.unnumbered] :=
    loadsAlone_single (by rw [hload]; rfl)
  rw [answersAlone, hloads, ← answers_agree hagrees, successesOf_ok, select_cons]
  have hnames : (selectedIn settings name item).names
      = item.version.index.matching name settings.wildcard := rfl
  rw [hnames]
  split_ifs <;> rfl

/-- **A file is answered about as before**, and nothing is built for it. -/
lemma LoadsAgain.reports (h : LoadsAgain workspace settings name path before middle) :
    let again := reportAlone workspace middle settings name [path]
    let alone := reportAlone workspace before settings name [path]
    again.answer = alone.answer ∧ again.loadFailures = alone.loadFailures ∧
      again.resolveFailures = alone.resolveFailures ∧ again.rebuilt = 0 ∧
      again.cacheHits = alone.cacheHits + alone.rebuilt ∧
      ∀ fault, Faulty workspace middle settings name [path] fault →
        Faulty workspace before settings name [path] fault := by
  cases h with
  | @failed failure hload hagain =>
      have hbefore : loadsAlone workspace before [path] = [.error (.contained failure)] :=
        loadsAlone_single (by rw [hload]; rfl)
      have hmiddle : loadsAlone workspace middle [path] = [.error (.contained failure)] :=
        loadsAlone_single (by rw [hagain]; rfl)
      simp [reportAlone, report, Report.answer, Report.loadFailures, Report.resolveFailures, Faulty,
        answersAlone, hbefore, hmiddle, successesOf, Except.toOption, select]
  | @loaded item entry now hload hitem hnow hagain =>
      obtain ⟨hpath, hindex, hread⟩ := hitem
      have hbefore : loadsAlone workspace before [path] = [.ok item.unnumbered] :=
        loadsAlone_single (by rw [hload]; rfl)
      have hmiddle : loadsAlone workspace middle [path]
          = [.ok (Loaded.unnumbered ⟨path, now.version, none⟩)] :=
        loadsAlone_single (by rw [hagain]; rfl)
      have hanswers : answersAlone workspace middle settings name [path]
          = answersAlone workspace before settings name [path] := by
        have hsame : now.version.index
            = (remembered workspace settings name path entry).version.index := by
          rw [← hnow]
          rfl
        have hreused : (loadAlone workspace middle path).1 = .ok ⟨path, now.version, none⟩ := by
          rw [hagain]
        rw [answersAlone_single hreused rfl (by rintro _ ⟨⟩), answersAlone_single hload hpath hread,
          hsame, hindex, answerOf_remembered, matching_remembered]
      have hfresh : (Loaded.unnumbered ⟨path, now.version, none⟩).fromCache = true := rfl
      simp only [reportAlone, report, Report.answer, Report.loadFailures, Report.resolveFailures, Faulty,
        hbefore, hmiddle, hanswers, successesOf_ok, failuresOf_ok, List.countP_cons, hfresh]
      cases hcache : item.unnumbered.fromCache <;> simp [successesOf]

/-! ## The same query again -/

lemma Answered.steady (h : Answered workspace settings name candidates before middle)
    (hpath : path ∈ candidates) : Steady workspace middle path := by
  intro item hitem
  cases h.loads hpath with
  | failed _ hagain =>
      rw [hagain] at hitem
      cases hitem
  | loaded _ _ _ hagain =>
      rw [hagain] at hitem
      cases hitem
      rfl

lemma Answered.calm_again (h : Answered workspace settings name candidates before middle)
    (fault : QueryFault) : ¬ Faulty workspace middle settings name candidates fault := by
  intro hfault
  obtain ⟨path, hpath, hsingle⟩ := (faulty_iff candidates fault).mp hfault
  obtain ⟨-, -, -, -, -, hbefore⟩ := (h.loads hpath).reports
  exact h.calm fault ((faulty_iff candidates fault).mpr ⟨path, hpath, hbefore fault hsingle⟩)

lemma Answered.failures_again (h : Answered workspace settings name candidates before middle) :
    failuresOf (loadsAlone workspace middle candidates)
      = failuresOf (loadsAlone workspace before candidates) := by
  rw [failuresOf_loadsAlone, failuresOf_loadsAlone]
  refine List.flatMap_congr fun path hpath => ?_
  obtain ⟨-, hfailures, -⟩ := (h.loads hpath).reports
  rwa [loadFailures_alone, loadFailures_alone] at hfailures

/-- All candidates are answered about as before, and nothing is built for any of them. -/
lemma Answered.reports (h : Answered workspace settings name candidates before middle) :
    let again := reportAlone workspace middle settings name candidates
    let alone := reportAlone workspace before settings name candidates
    again.answer = alone.answer ∧ again.rebuilt = 0 ∧
      again.cacheHits = alone.cacheHits + alone.rebuilt := by
  have hlocations : ∀ path ∈ candidates, (reportAlone workspace middle settings name [path]).locations
      = (reportAlone workspace before settings name [path]).locations :=
    fun path hpath => congrArg Prod.fst (h.loads hpath).reports.1
  simp only [reportAlone_eq_combine candidates, Report.combine, Report.answer, List.flatMap_map,
    List.map_map, Function.comp_def]
  refine ⟨?_, ?_, ?_⟩
  · rw [List.flatMap_congr hlocations,
      List.flatMap_congr fun path hpath => (h.loads hpath).reports.2.1,
      List.flatMap_congr fun path hpath => (h.loads hpath).reports.2.2.1]
  · rw [List.map_congr_left fun path hpath => (h.loads hpath).reports.2.2.2.1]
    simp
  · rw [List.map_congr_left fun path hpath => (h.loads hpath).reports.2.2.2.2.1,
      List.sum_map_add]

/-- What the same query selects again leaves the resolves nothing to do. -/
lemma Answered.idle (h : Answered workspace settings name candidates before middle)
    {loads : Batch (Atlas Stack) String Atlas.LoadStage (Except Mishap Loaded)} {first : List Nat}
    (hfirst : loads = loadsAfter workspace candidates middle first) {selected : Selected}
    (hselected : selected ∈ select settings name (successesOf loads.results)) :
    Idle workspace selected := by
  obtain ⟨hitem, heq⟩ := mem_select hselected
  have htask := task_of_success hfirst hitem
  have hpath := mem_candidates hfirst htask
  have hsame := ((h.steady hpath).alike hfirst htask).outcome
  cases h.loads hpath with
  | failed _ hagain =>
      rw [hagain] at hsame
      cases hsame
  | @loaded item entry now _ _ hnow hagain =>
      rw [hagain] at hsame
      have hitem : selected.item.unnumbered
          = Loaded.unnumbered ⟨selected.item.path, now.version, none⟩ := Except.ok.inj hsame
      have hindex : selected.item.version.index
          = (remembered workspace settings name selected.item.path entry).version.index := by
        rw [← hnow]
        exact congrArg (·.version.index) hitem
      have hnames : selected.names = selected.item.version.index.matching name settings.wildcard :=
        congrArg Selected.names heq
      refine ⟨congrArg Loaded.text? hitem, ?_⟩
      rw [hnames, hindex]
      exact complete_remembered entry

/-- **The same query again changes nothing.** -/
lemma Answered.unchanged (h : Answered workspace settings name candidates before middle)
    (hreflag : settings.reflag = true) {answer : Report} {after : Atlas Stack}
    (hscheduled : Scheduled lexer workspace settings name candidates middle (.ok answer, after)) :
    after.cache = middle.cache ∧ after.flags = middle.flags := by
  obtain ⟨late, hscheduled⟩ := hscheduled
  cases hscheduled with
  | @answered first second loads hfirst hdone hcalm hresolved hquiet =>
      refine ⟨?_, ?_⟩
      · have hcache : (settle settings (failuresOf loads.results) loads.state).cache
            = middle.cache := by
          rw [settle, hfirst]
          exact loadsAfter_cache (fun path hpath => h.steady hpath) first
        exact (Batch.execute_keeps (resolving_idle lexer workspace middle.cache) second
          (Batch.ofInputs_sound hcache fun _ hselected => h.idle hfirst hselected)).state
      · rw [(resolvesAfter_frame loads second).flags, settle, if_pos hreflag,
          (counts_agree (loads_agree hfirst hdone hcalm)).1, h.failures_again, h.flags]

/-- A query that was answered leaves what makes it answerable again. -/
lemma answered_of_scheduled (hreflag : settings.reflag = true) {answer : Report}
    (h : Scheduled lexer workspace settings name candidates before (.ok answer, middle)) :
    Answered workspace settings name candidates before middle := by
  obtain ⟨hcalm, -, -, hflags, hentries⟩ := h.repeated
  rw [if_pos hreflag] at hflags
  exact ⟨hcalm, hflags, fun path hpath => by simpa only [hpath, if_true] using hentries path⟩

/-- **Asking again costs nothing and changes nothing**, in whatever order the turns of both queries are taken. -/
theorem Scheduled.again (hreflag : settings.reflag = true) {first : Report}
    (hfirst : Scheduled lexer workspace settings name candidates before (.ok first, middle))
    {outcome : Except QueryFault Report} {after : Atlas Stack}
    (hagain : Scheduled lexer workspace settings name candidates middle (outcome, after)) :
    ∃ second, outcome = .ok second ∧
      second.locations = first.locations ∧ second.failures = first.failures ∧ second.rebuilt = 0 ∧
      second.cacheHits = first.cacheHits + first.rebuilt ∧
      after.cache = middle.cache ∧ after.flags = middle.flags := by
  have hanswered := answered_of_scheduled hreflag hfirst
  obtain ⟨-, hanswer, hcounts, -⟩ := hfirst.repeated
  have hsteady := hagain.steady fun path hpath => hanswered.steady hpath
  cases outcome with
  | error fault => exact absurd hsteady (hanswered.calm_again fault)
  | ok second =>
      obtain ⟨hsame, hrebuilt, hhits⟩ := hanswered.reports
      obtain ⟨hcache, hflags⟩ := hanswered.unchanged hreflag hagain
      have hsecondAnswer : second.answer = first.answer := by rw [hsteady, hsame, hanswer]
      refine ⟨second, rfl, congrArg Prod.fst hsecondAnswer, congrArg Prod.snd hsecondAnswer, ?_, ?_,
        hcache, hflags⟩
      · rw [hsteady, hrebuilt]
      · rw [hsteady, hhits, hcounts]

end Search

namespace Service

/-- **A search that is repeated costs nothing and changes nothing.**  Let a search return a report, and let the same
search be made while the files and the open documents are the same.  Then there is a second report, which is logged if
it can be; it has the same locations and failures, everything in it comes from the cache, and the cache and the flags
are left as they were found.  The loads and the resolves of both searches take their turns in any order. -/
theorem search_again {service middle after : Service Stack} {name : String} {candidates : List Candidate}
    {all : Bool} {now later : Int} {disk left again last : Disk}
    (hreflag : service.config.settings.reflag = true) {first : Report}
    (hfirst : service.Searches lexer name candidates all now disk (.ok first, middle, left))
    (hsame : service.view again = service.view disk) {outcome : Except ServiceFault Report}
    (hagain : middle.Searches lexer name candidates all later again (outcome, after, last)) :
    ∃ second : Report, outcome = logged (middle.logFault? again) second ∧
      second.locations = first.locations ∧ second.failures = first.failures ∧ second.rebuilt = 0 ∧
      second.cacheHits = first.cacheHits + first.rebuilt ∧
      after.atlas.cache = middle.atlas.cache ∧ after.atlas.flags = middle.atlas.flags := by
  obtain ⟨paths, hpaths, hscheduled, halike⟩ := hfirst.answered
  obtain ⟨answer, late, hends, hresult⟩ := hagain
  have hview : middle.view again = service.view disk := by
    rw [← hsame, view, view, halike.source, halike.pace]
  have houtcome := middle.conclude_outcome "search" later again answer
  have hatlas := (middle.conclude_service "search" later again answer).1
  rw [← hresult] at houtcome hatlas
  rw [Ends, hview, halike.config] at hends
  cases hends with
  | notPaths hnone => simp [hpaths] at hnone
  | queried hothers hends =>
      obtain rfl := Option.some.inj (hothers.symm.trans hpaths)
      obtain ⟨second, hsecond, hlocations, hfailures, hrebuilt, hhits, hcache, hflags⟩ :=
        hscheduled.again hreflag ⟨late, hends⟩
      refine ⟨second, ?_, hlocations, hfailures, hrebuilt, hhits, ?_, ?_⟩
      · rw [hsecond] at houtcome
        exact houtcome
      · rw [hatlas, hcache]
      · rw [hatlas, hflags]

end Service

namespace Session

/-- A file with one of its ranges in the cache and with a flag, and another file that nobody has asked about. -/
def halfResolved : Session := onEmptyDisk.run
  [.write "a.soy" "\x7btemplate .aa\x7d\n\x7btemplate .bb\x7d".toUTF8.toList 5,
    .search ".aa" [.spelled "a.soy"] false 0, .notify ["a.soy"],
    .write "b.soy" "\x7btemplate .aa\x7d".toUTF8.toList 5]

/-- The two files, one of them twice, and one that does not exist. -/
def listedTwice : List Candidate :=
  [.spelled "a.soy", .spelled "b.soy", .spelled "c.soy", .spelled "b.soy"]

/-- What a search for all templates reports about them. -/
def mixedReport : Report where
  name := "*"
  locations := [⟨"a.soy", ".aa", 0, 1⟩, ⟨"a.soy", ".bb", 1, 1⟩, ⟨"b.soy", ".aa", 0, 0⟩,
    ⟨"b.soy", ".aa", 0, 0⟩]
  failures := [⟨"c.soy", .stat, "No such file or directory"⟩]
  candidateCount := 4
  cacheHits := 1
  rebuilt := 2

/-- One index was checked and completed, one was built twice, and one file failed; after that all is there. -/
theorem search_again_mixed :
    let middle := (halfResolved.service.search lexer "*" listedTwice false 0 halfResolved.disk).2.1
    ∃ second, (middle.search lexer "*" listedTwice false 0 halfResolved.disk).1 = .ok second ∧
      second.failures = [⟨"c.soy", .stat, "No such file or directory"⟩] ∧
      second.rebuilt = 0 ∧ second.cacheHits = 3 := by
  intro middle
  have hreport : (halfResolved.service.search lexer "*" listedTwice false 0 halfResolved.disk).1
      = .ok mixedReport := by decide +kernel
  have hfirst : halfResolved.service.Searches lexer "*" listedTwice false 0 halfResolved.disk
      (.ok mixedReport, (halfResolved.service.search lexer "*" listedTwice false 0 halfResolved.disk).2) := by
    rw [← hreport]
    exact Service.search_searches _ _ _ _ _ (by decide +kernel)
  obtain ⟨second, hsecond, -, hfailures, hrebuilt, hhits, -⟩ :=
    Service.search_again (by decide +kernel) hfirst rfl
      (Service.search_searches "*" listedTwice false 0 halfResolved.disk (by decide +kernel))
  have hlog : middle.logFault? halfResolved.disk = none := by decide +kernel
  rw [hlog] at hsecond
  exact ⟨second, hsecond, hfailures, hrebuilt, hhits⟩

end Session

end TemplateAtlas
