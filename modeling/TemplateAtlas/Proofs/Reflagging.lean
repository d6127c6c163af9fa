import Mathlib.Tactic.Common
import TemplateAtlas.Proofs.Notifications
import TemplateAtlas.Proofs.RepeatedLoads

/-!
# Failed files and their flags

A query leaves out files that cannot be loaded, and files whose text is not there when ranges have to be looked
for.  The former are flagged again, so that the next query checks them.  The latter are not.

**Resolves.**  A resolve leaves its file out if and only if it needs a text that is not available
(`resolving_known`), and then it leaves the cache alone (`resolving_balks`).

**Stranded files.**  Their cached indexes are used as they are, but lack ranges, and the texts are not available
(`Stranded`).  Whatever the order of the loads, these are the files that resolves leave out:
`exists_balks_iff`.

**Flags.**  The files that failed are those that are flagged in the end, and the stranded ones (`Reflags`,
`Scheduled.reflags`).  A stranded file has no flag, and the next query takes its index from the cache unseen.
-/

namespace TemplateAtlas

variable {σ : Type}

namespace Search

/-! ## Resolves -/

/-- A resolve needs a text that is refused. -/
structure Balks (workspace : Workspace) (selected : Selected) (cause : SourceFault) : Prop where
  missing : selected.item.text? = none
  unresolved : selected.item.version.index.isResolved selected.names = false
  refused : workspace.text selected.item.path = .error cause

/-- What is known of a resolve, whatever the others do. -/
def Known (workspace : Workspace) (selected : Selected) :
    Option (Step Unit (Except Mishap (List Location))) → Prop
  | none => True
  | some (.wait _ _) => selected.item.text? = none ∧
    selected.item.version.index.isResolved selected.names = false
  | some (.done outcome) => ∀ failure, outcome = .error (.contained failure) ↔
    ∃ reason, Balks workspace selected (.unavailable reason) ∧
      failure = ⟨selected.item.path, .read, reason⟩

section Resolves

variable {lexer : LineLexer σ} {workspace : Workspace} {selected : Selected} {atlas : Atlas σ}

/-- A resolve that has its text, or needs none, leaves no file out. -/
lemma known_of_finds {text? : Option (List Char)} {memory : σ} {flags : Flags} {cache : Cache}
    {outcome : Except Mishap (List Location)} {after : Atlas σ}
    (h : Finds lexer selected text? memory flags cache (outcome, after))
    (hnever : ∀ cause, ¬ Balks workspace selected cause) :
    Known workspace selected (some (.done outcome)) := by
  intro failure
  constructor
  · rintro rfl
    cases h
  · rintro ⟨reason, hbalks, -⟩
    exact absurd hbalks (hnever _)

lemma known_of_gets {memory : σ} {flags : Flags} {cache : Cache} {outcome : Except Mishap (List Location)}
    {after : Atlas σ} (h : Gets lexer workspace selected memory flags cache (outcome, after))
    (hlacks : Lacks selected) : Known workspace selected (some (.done outcome)) := by
  cases h with
  | finds htext h =>
      refine known_of_finds h fun cause hbalks => ?_
      have hrefused := hbalks.refused
      rw [htext] at hrefused
      cases hrefused
  | @refused cause _ htext _ =>
      intro failure
      constructor
      · intro hfailure
        cases cause with
        | unavailable reason =>
            simp only [LoadFault.mishap, Except.error.injEq, Mishap.contained.injEq] at hfailure
            exact ⟨reason, ⟨hlacks.1, hlacks.2, htext⟩, hfailure.symm⟩
        | nulInPath => simp [LoadFault.mishap] at hfailure
        | unknownEncoding => simp [LoadFault.mishap] at hfailure
      · rintro ⟨reason, hbalks, rfl⟩
        obtain rfl : cause = .unavailable reason := Except.error.inj (htext.symm.trans hbalks.refused)
        rfl

/-- **A resolve leaves its file out if and only if it needs a text that is not available.** -/
lemma resolving_known (lexer : LineLexer σ) (workspace : Workspace) :
    (resolving lexer workspace).Keeps (fun _ => True) (fun _ => Known workspace) where
  step selected last? atlas _ hknown := by
    refine ⟨trivial, ?_⟩
    have hturn := resolving_turns lexer workspace selected atlas last?
    generalize (resolving lexer workspace).step selected last? atlas = result at hturn ⊢
    cases hturn with
    | finds hlacks h =>
        exact known_of_finds h fun cause hbalks => hlacks ⟨hbalks.missing, hbalks.unresolved⟩
    | asks hlacks _ _ => exact hlacks
    | gets hasked h =>
        refine known_of_gets h (hasked.lacks ?_)
        rintro rounds held rfl
        exact hknown
    | rests => exact hknown
  stable _ _ _ _ _ _ _ hother := hother

/-- **An entry is left alone** if all resolves of its path need a text that is refused. -/
lemma resolving_balks (lexer : LineLexer σ) (workspace : Workspace) (middle : Atlas σ) (path : String) :
    (resolving lexer workspace).Keeps (Untouched middle path)
      (fun _ selected _ => selected.item.path = path → ∃ cause, Balks workspace selected cause) where
  step selected last? atlas huntouched hbalks := by
    refine ⟨Eq.trans ?_ huntouched, hbalks⟩
    by_cases hpath : selected.item.path = path
    · obtain ⟨cause, hbalks⟩ := hbalks hpath
      have hturn := resolving_turns lexer workspace selected atlas last?
      generalize (resolving lexer workspace).step selected last? atlas = result at hturn ⊢
      cases hturn with
      | finds hlacks _ => exact absurd ⟨hbalks.missing, hbalks.unresolved⟩ hlacks
      | asks _ _ hafter => rw [hafter.cache]
      | gets _ h =>
          cases h with
          | refused _ hafter => rw [hafter.cache]
          | finds htext _ => exact absurd (htext.symm.trans hbalks.refused) (by simp)
      | rests => rfl
    · exact (resolving_touches lexer workspace selected last? atlas).others path (Ne.symm hpath)
  stable _ _ _ _ _ _ _ hother := hother

end Resolves

/-! ## Stranded files -/

/-- The cached index of a file is used as it is, but lacks a selected range, and the text is not available. -/
def Stranded (workspace : Workspace) (settings : Settings) (name : String) (before : Atlas σ)
    (path : String) : Prop :=
  ∃ version reason, (before.usable? workspace path).1 = .ok (some version) ∧
    version.index.isResolved (version.index.matching name settings.wildcard) = false ∧
    workspace.text path = .error (.unavailable reason)

variable {lexer : LineLexer σ} {workspace : Workspace} {settings : Settings} {name path : String}
  {candidates : List String} {before : Atlas σ} {first second : List Nat}
  {loads : Batch (Atlas σ) String Atlas.LoadStage (Except Mishap Loaded)}

lemma loadAlone_of_usable {version : Version}
    (h : (before.usable? workspace path).1 = .ok (some version)) :
    (loadAlone workspace before path).1 = .ok ⟨path, version, none⟩ := by
  rw [loadAlone, Atlas.load]
  generalize before.usable? workspace path = asked at h ⊢
  obtain ⟨answer, atlas⟩ := asked
  obtain rfl : answer = .ok (some version) := h
  rfl

/-- A file without a text is not built. -/
lemma steady_of_refused {cause : SourceFault} (h : workspace.text path = .error cause) :
    Steady workspace before path := by
  rcases steady_or_built workspace before path with hsteady | ⟨-, text, time, htext, -⟩
  · exact hsteady
  · rw [h] at htext
    cases htext

/-- What is selected in a file without a text is what would be selected in its usable index. -/
lemma selected_of_usable (hfirst : loads = loadsAfter workspace candidates before first)
    {version : Version} (husable : (before.usable? workspace path).1 = .ok (some version))
    {cause : SourceFault} (htext : workspace.text path = .error cause) {outcome : Except Mishap Loaded}
    (htask : (path, some (.done outcome)) ∈ loads.tasks) :
    ∃ item, outcome = .ok item ∧ item.path = path ∧ item.text? = none ∧
      item.version.index = version.index := by
  have hsteady : Steady workspace before path := steady_of_refused htext
  have hsame := (hsteady.alike hfirst htask).outcome
  rw [loadAlone_of_usable husable] at hsame
  cases outcome with
  | error mishap => cases hsame
  | ok item =>
      have hitem : item.unnumbered = Loaded.unnumbered ⟨path, version, none⟩ := Except.ok.inj hsame
      exact ⟨item, rfl, congrArg Loaded.path hitem, congrArg Loaded.text? hitem,
        congrArg (·.version.index) hitem⟩

/-- Every index that a query selects in a stranded file needs the text. -/
lemma balks_of_stranded (hfirst : loads = loadsAfter workspace candidates before first)
    (h : Stranded workspace settings name before path) {selected : Selected}
    (hselected : selected ∈ select settings name (successesOf loads.results))
    (hpath : selected.item.path = path) :
    ∃ reason, Balks workspace selected (.unavailable reason) := by
  obtain ⟨version, reason, husable, hopen, htext⟩ := h
  obtain ⟨hitem, hnames⟩ := mem_select hselected
  have htask := task_of_success hfirst hitem
  rw [hpath] at htask
  obtain ⟨item, heq, -, hmissing, hindex⟩ := selected_of_usable hfirst husable htext htask
  rw [← Except.ok.inj heq] at hmissing hindex
  refine ⟨reason, hmissing, ?_, hpath ▸ htext⟩
  rw [hnames]
  simp only [selectedIn, hindex, hopen]

/-- **The files that resolves leave out are the stranded ones.** -/
theorem exists_balks_iff (hfirst : loads = loadsAfter workspace candidates before first)
    (hdone : loads.Finished) :
    (∃ selected ∈ select settings name (successesOf loads.results), selected.item.path = path ∧
        ∃ reason, Balks workspace selected (.unavailable reason)) ↔
      path ∈ candidates ∧ Stranded workspace settings name before path := by
  constructor
  · rintro ⟨selected, hselected, rfl, reason, hmissing, hopen, htext⟩
    obtain ⟨hitem, hnames⟩ := mem_select hselected
    have htask := task_of_success hfirst hitem
    have hsteady : Steady workspace before selected.item.path := steady_of_refused htext
    have hsame := (hsteady.alike hfirst htask).outcome
    have hcomes := loadAlone_comesTo workspace before selected.item.path
    rw [Steady] at hsteady
    refine ⟨mem_candidates hfirst htask, ?_⟩
    generalize loadAlone workspace before selected.item.path = alone at hsame hsteady hcomes
    cases hcomes with
    | refused _ => cases hsame
    | built _ _ _ _ => exact absurd (hsteady _ rfl) (by simp [Loaded.fromCache])
    | @reused entry _ _ husable _ =>
        have hindex : selected.item.version.index = entry.version.index :=
          congrArg (·.version.index) (Except.ok.inj hsame)
        rw [hnames] at hopen
        simp only [selectedIn, hindex] at hopen
        exact ⟨entry.version, reason, husable, hopen, htext⟩
  · rintro ⟨hpath, version, reason, husable, hopen, htext⟩
    obtain ⟨outcome, htask⟩ := exists_outcome hfirst hdone hpath
    obtain ⟨item, rfl, hitem, -, hindex⟩ := selected_of_usable hfirst husable htext htask
    have hselected : selectedIn settings name item
        ∈ select settings name (successesOf loads.results) := by
      rw [select, List.mem_filter]
      refine ⟨List.mem_map.mpr ⟨item, mem_successesOf.mpr (Batch.mem_results_iff.mpr ⟨_, htask⟩), rfl⟩, ?_⟩
      cases hnames : version.index.matching name settings.wildcard with
      | nil => simp [hnames, FileIndex.isResolved] at hopen
      | cons _ _ => simp [selectedIn, hindex, hnames]
    exact ⟨_, hselected, hitem, balks_of_stranded hfirst
      ⟨version, reason, husable, hopen, htext⟩ hselected hitem⟩

/-! ## Failures and flags -/

/-- The failures of the resolves. -/
lemma mem_failures_resolves
    (hresolved : (resolvesAfter lexer workspace settings name loads second).Finished)
    {failure : Failure} :
    failure ∈ failuresOf (resolvesAfter lexer workspace settings name loads second).results ↔
      ∃ selected ∈ select settings name (successesOf loads.results), ∃ reason,
        Balks workspace selected (.unavailable reason) ∧
          failure = ⟨selected.item.path, .read, reason⟩ := by
  have hsound : (resolvesAfter lexer workspace settings name loads second).Sound (fun _ => True)
      (fun _ => Known workspace) :=
    Batch.execute_keeps (resolving_known lexer workspace) second
      (Batch.ofInputs_sound trivial fun _ _ => trivial)
  rw [mem_failuresOf]
  constructor
  · intro hfailure
    obtain ⟨selected, hselected, hknown⟩ := hsound.of_mem_results hfailure
    rw [resolvesAfter_inputs] at hselected
    exact ⟨selected, hselected, (hknown failure).mp rfl⟩
  · rintro ⟨selected, hselected, hbalks⟩
    rw [← resolvesAfter_inputs lexer workspace settings name loads second] at hselected
    obtain ⟨outcome, houtcome, hknown⟩ := hsound.exists_result hresolved hselected
    rwa [(hknown failure).mpr hbalks] at houtcome

/-- A file that could not be loaded is not stranded. -/
lemma not_stranded_of_failed (hfirst : loads = loadsAfter workspace candidates before first)
    (hcalm : Calm loads) {failure : Failure} (hfailure : failure ∈ failuresOf loads.results) :
    ¬ Stranded workspace settings name before failure.path := by
  rintro ⟨version, reason, husable, -, -⟩
  obtain ⟨key, htask⟩ := Batch.mem_results_iff.mp (mem_failuresOf.mp hfailure)
  have hagrees := loadsAfter_agrees hfirst hcalm htask
  generalize hload : (loadAlone workspace before key).1 = result at hagrees
  cases hagrees
  have hkey : failure.path = key := failure_path hload
  rw [hkey] at husable
  rw [loadAlone_of_usable husable] at hload
  cases hload

/-- What a query that returns a report has done to the flags. -/
structure Reflags (workspace : Workspace) (settings : Settings) (name : String)
    (candidates : List String) (before : Atlas σ) (answer : Report) (after : Atlas σ) : Prop where
  /-- Failed files are flagged or stranded, and no other files are. -/
  failed : ∀ path, (∃ failure ∈ answer.failures, failure.path = path) ↔
    after.flags.isChanged path = true ∨ path ∈ candidates ∧ Stranded workspace settings name before path
  /-- Flagged files are checked by the next query about them. -/
  flagged : ∀ path, after.flags.isChanged path = true → ∀ candidates happenings item,
    (path, some (.done (.ok item))) ∈ (sweep candidates after happenings).tasks →
      Revalidated after (worldsOf happenings) path item.version
  /-- Stranded files are not flagged, and the next query takes their indexes from the cache unseen. -/
  stranded : ∀ path ∈ candidates, Stranded workspace settings name before path →
    after.flags.isChanged path = false ∧
      ∃ version, ∀ world : Workspace, after.trust world path = .granted version

/-- **The flagged files are the failed ones exactly if no candidate is stranded.** -/
theorem Reflags.exact_iff {answer : Report} {after : Atlas σ}
    (h : Reflags workspace settings name candidates before answer after) :
    (∀ path, after.flags.isChanged path = true ↔ ∃ failure ∈ answer.failures, failure.path = path) ↔
      ∀ path ∈ candidates, ¬ Stranded workspace settings name before path := by
  constructor
  · intro hexact path hpath hstranded
    have hflag := (hexact path).mpr ((h.failed path).mpr (Or.inr ⟨hpath, hstranded⟩))
    rw [(h.stranded path hpath hstranded).1] at hflag
    cases hflag
  · intro hnone path
    rw [h.failed path, or_iff_left]
    exact fun ⟨hpath, hstranded⟩ => hnone path hpath hstranded

/-- The flags after the resolves are those of the files that could not be loaded. -/
lemma flagged_resolvesAfter (hreflag : settings.reflag = true) (path : String) :
    (resolvesAfter lexer workspace settings name loads second).state.flags.isChanged path = true ↔
      ∃ failure ∈ failuresOf loads.results, failure.path = path := by
  have hquiet : Happening.notify path
      ∉ second.map fun task => Happening.turn task workspace := by simp
  rw [← finish_turns, finish_flagged, or_iff_left hquiet, and_iff_right hreflag]

/-- A query leaves the entry of a stranded file alone. -/
lemma untouched_of_stranded (hfirst : loads = loadsAfter workspace candidates before first)
    (h : Stranded workspace settings name before path) :
    Untouched before path (resolvesAfter lexer workspace settings name loads second).state := by
  have hloads : Untouched before path loads.state := by
    obtain ⟨_, _, -, -, htext⟩ := h
    have hsteady : Steady workspace before path := steady_of_refused htext
    exact hsteady.untouched_after hfirst
  have hstart : (Batch.ofInputs (settle settings (failuresOf loads.results) loads.state)
      (select settings name (successesOf loads.results))).Sound (Untouched loads.state path)
      (fun _ selected (_ : Option (Step Unit (Except Mishap (List Location)))) =>
        selected.item.path = path → ∃ cause, Balks workspace selected cause) := by
    refine Batch.ofInputs_sound rfl fun selected hselected hpath => ?_
    obtain ⟨reason, hbalks⟩ := balks_of_stranded hfirst h hselected hpath
    exact ⟨_, hbalks⟩
  exact (Batch.execute_keeps (resolving_balks lexer workspace loads.state path) second
    hstart).state.trans hloads

/-- **A query flags the files again that it could not load**, in whatever order its turns are taken. -/
theorem Scheduled.reflags (hreflag : settings.reflag = true) {answer : Report} {after : Atlas σ}
    (h : Scheduled lexer workspace settings name candidates before (.ok answer, after)) :
    Reflags workspace settings name candidates before answer after := by
  obtain ⟨late, h⟩ := h
  cases h with
  | @answered first second loads hfirst hdone hcalm hresolved hquiet =>
      refine ⟨fun path => ?_, fun path hflag _ _ _ hitem => sweep_revalidates hflag hitem,
        fun path hpath hstranded => ?_⟩
      · rw [flagged_resolvesAfter hreflag, ← exists_balks_iff hfirst hdone]
        simp only [report, List.mem_append, or_and_right, exists_or, mem_failures_resolves hresolved]
        refine or_congr_right ⟨?_, ?_⟩
        · rintro ⟨_, ⟨selected, hselected, reason, hbalks, rfl⟩, rfl⟩
          exact ⟨selected, hselected, rfl, reason, hbalks⟩
        · rintro ⟨selected, hselected, rfl, reason, hbalks⟩
          exact ⟨_, ⟨selected, hselected, reason, hbalks, rfl⟩, rfl⟩
      · have hflag : (resolvesAfter lexer workspace settings name loads second).state.flags.isChanged
            path = false := by
          rw [← Bool.not_eq_true, flagged_resolvesAfter hreflag]
          rintro ⟨failure, hfailure, rfl⟩
          exact not_stranded_of_failed hfirst hcalm hfailure hstranded
        have huntouched : Untouched before path
            (resolvesAfter lexer workspace settings name loads second).state :=
          untouched_of_stranded hfirst hstranded
        obtain ⟨version, _, husable, -⟩ := hstranded
        obtain ⟨entry, hentry, -⟩ := entry_of_usable husable
        exact ⟨hflag, entry.version, fun _ => Atlas.trust_of_unflagged (huntouched.trans hentry) hflag⟩

end Search

namespace Service

/-- **Which failed files are flagged again.**  Let a search return a report, and let failed files be flagged again.
Then the paths of its failures are those that are flagged in the end, and those of stranded candidates.  What is
flagged is checked by the next query about it; what was stranded is not flagged, and is taken from the cache unseen.
So the flagged paths are those of the failures exactly if no candidate is stranded.  The loads and the resolves of the
search take their turns in any order. -/
theorem search_reflags {lexer : LineLexer σ} {service middle : Service σ} {name : String}
    {candidates : List Candidate} {all : Bool} {now : Int} {disk last : Disk}
    (hreflag : service.config.settings.reflag = true) {answer : Report}
    (h : service.Searches lexer name candidates all now disk (.ok answer, middle, last)) :
    let workspace := service.view disk
    let settings := service.config.settings
    let after := middle.atlas
    ∃ paths, Candidate.spellings? candidates = some paths ∧
      let chosen := filterCandidates settings.extension all paths
      Search.Reflags workspace settings name chosen service.atlas answer after ∧
        ((∀ path, after.flags.isChanged path = true ↔
            ∃ failure ∈ answer.failures, failure.path = path) ↔
          ∀ path ∈ chosen, ¬ Search.Stranded workspace settings name service.atlas path) := by
  intro workspace settings after
  obtain ⟨paths, hpaths, hscheduled, -⟩ := h.answered
  have hreflags := hscheduled.reflags hreflag
  exact ⟨paths, hpaths, hreflags, hreflags.exact_iff⟩

end Service

namespace Session

open Soy

/-- A file that somebody has asked about once is deleted, which is not notified, and another one never was there. -/
def vanished : Session := onEmptyDisk.run
  [.write "a.soy" "\x7btemplate .aa\x7d\n\x7btemplate .bb\x7d".toUTF8.toList 5,
    .search ".aa" [.spelled "a.soy"] false 0, .delete "a.soy"]

/-- What a search for the other template reports about them. -/
def vanishedReport : Report where
  name := ".bb"
  locations := []
  failures := [⟨"b.soy", .stat, "No such file or directory"⟩, ⟨"a.soy", .read, "No such file or directory"⟩]
  candidateCount := 2
  cacheHits := 1
  rebuilt := 0

/-- Both files fail when the other template is asked for, and only one of them is flagged. -/
theorem search_reflags_vanished :
    let candidates := [Candidate.spelled "a.soy", .spelled "b.soy"]
    let outcome := vanished.service.search lexer ".bb" candidates false 0 vanished.disk
    ∃ answer, outcome.1 = .ok answer ∧
      answer.failures.map (·.path) = ["b.soy", "a.soy"] ∧
      outcome.2.1.atlas.flags.isChanged "b.soy" = true ∧
      outcome.2.1.atlas.flags.isChanged "a.soy" = false ∧
      ∃ version, ∀ world : Workspace, outcome.2.1.atlas.trust world "a.soy" = .granted version := by
  intro candidates outcome
  have hreport : outcome.1 = .ok vanishedReport := by decide +kernel
  have hflag : outcome.2.1.atlas.flags.isChanged "a.soy" = false := by decide +kernel
  have hsearches : vanished.service.Searches lexer ".bb" candidates false 0 vanished.disk
      (.ok vanishedReport, outcome.2) := by
    rw [← hreport]
    exact Service.search_searches _ _ _ _ _ (by decide +kernel)
  obtain ⟨paths, -, hreflags, -⟩ := Service.search_reflags (by decide +kernel) hsearches
  refine ⟨vanishedReport, hreport, rfl, by decide +kernel, hflag, ?_⟩
  rcases (hreflags.failed "a.soy").mp ⟨_, List.mem_cons_of_mem _ List.mem_cons_self, rfl⟩ with
    hflagged | ⟨hpath, hstranded⟩
  · exact absurd hflagged (by simp [outcome, hflag])
  · exact (hreflags.stranded "a.soy" hpath hstranded).2

/-- **A file that failed is not flagged.**  Its text was gone when a range was looked for. -/
theorem failed_not_flagged :
    vanished.service.config.settings.reflag = true ∧
      ∃ answer, (vanished.service.search lexer ".bb" [.spelled "a.soy"] false 0 vanished.disk).1 = .ok answer ∧
        answer.failures = [⟨"a.soy", .read, "No such file or directory"⟩] ∧
        (vanished.service.search lexer ".bb" [.spelled "a.soy"] false 0
          vanished.disk).2.1.atlas.flags.paths = [] := by
  refine ⟨by decide +kernel, ⟨".bb", [], [⟨"a.soy", .read, "No such file or directory"⟩], 1, 1, 0⟩,
    by decide +kernel, rfl, by decide +kernel⟩

end Session

end TemplateAtlas
