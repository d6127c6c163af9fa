import Mathlib.Data.List.Forall2
import Mathlib.Tactic.Common
import TemplateAtlas.Proofs.AskingAgain
import TemplateAtlas.Proofs.RepeatedResolves

/-!
# What a query changes in the cache

A query that returns a report has loaded every candidate, and what it leaves of an entry depends on how the loads
of the file have ended.

**Left alone.**  Files that are no candidates, and files that could not be loaded, have the very entries that they
had.

**Reused.**  If all loads of a file took its index from the cache, the entry keeps its stamp, and its index may
have grown (`FileIndex.Grows`): markers under the selected names have become ranges.

**Built.**  If a load has built the index, it is the index of the text that was read, with the ranges in that text
under the selected names and nothing but markers elsewhere (`FileIndex.foundIn`).

`queryCandidates_leaves` puts this together.  What becomes of one entry is `remembered`, which is taken apart here
by whether the index was there before (`grows_remembered`) or was built (`remembered_ofText`).
-/

namespace TemplateAtlas

open Soy

/-! ## Indexes with more ranges -/

/-- An entry stays as it is, or a marker gets a range with its name and start. -/
inductive Entry.Grows : Entry → Entry → Prop
  | kept (entry : Entry) : Entry.Grows entry entry
  | found {marker : Marker} {span : Span} (hname : span.name = marker.name)
      (hstart : span.start = marker.start) : Entry.Grows (.marker marker) (.span span)

/-- Entries under some names may have got ranges, and nothing else has changed. -/
structure FileIndex.Grows (selected : List String) (index grown : FileIndex) : Prop where
  path : grown.path = index.path
  names : grown.names = index.names
  ranges : ∀ name ∈ selected, List.Forall₂ Entry.Grows (index.entriesOf name) (grown.entriesOf name)
  others : ∀ name ∉ selected, grown.entriesOf name = index.entriesOf name

/-- The index of a text in which the ranges under some names have been found. -/
def FileIndex.foundIn (path : String) (text : List Char) (selected : List String) : FileIndex :=
  ⟨path, (Marker.groups text).map fun (name, markers) =>
    (name, markers.map fun marker =>
      if name ∈ selected then .span (marker.range text) else .marker marker)⟩

namespace FileIndex

lemma Grows.refl (selected : List String) (index : FileIndex) : index.Grows selected index :=
  ⟨rfl, rfl, fun _ _ => List.forall₂_same.mpr fun entry _ => .kept entry, fun _ _ => rfl⟩

lemma grows_rangeIn (text : List Char) (entry : Entry) :
    Entry.Grows entry (.span (entry.rangeIn text)) := by
  cases entry with
  | marker marker => exact .found rfl rfl
  | span span => exact .kept (.span span)

lemma grows_resolvedIn (text : List Char) (selected : List String) (index : FileIndex) :
    index.Grows selected (index.resolvedIn text selected) where
  path := rfl
  names := names_resolvedIn text selected index
  ranges name hname := by
    rw [entriesOf_resolvedIn, if_pos hname, List.forall₂_map_right_iff]
    exact List.forall₂_same.mpr fun entry _ => grows_rangeIn text entry
  others name hname := by rw [entriesOf_resolvedIn, if_neg hname]

/-- Nothing is looked for where everything has been found. -/
lemma resolvedIn_of_isResolved {index : FileIndex} {selected : List String} (hnodup : index.names.Nodup)
    (h : index.isResolved selected = true) (text : List Char) :
    index.resolvedIn text selected = index := by
  rw [isResolved, List.all_eq_true] at h
  have hentries : (index.resolvedIn text selected).entries = index.entries := by
    rw [entries_resolvedIn]
    refine (List.map_congr_left fun pair hpair => ?_).trans (List.map_id _)
    have hitems : index.entriesOf pair.1 = pair.2 := by
      rw [entriesOf, lookup_eq_of_nodup hnodup hpair, Option.getD_some]
    have hranges : pair.1 ∈ selected →
        (pair.2.map fun entry => Entry.span (entry.rangeIn text)) = pair.2 := by
      intro hname
      have hresolved := h pair.1 hname
      rw [hitems, List.all_eq_true] at hresolved
      refine (List.map_congr_left fun entry hentry => ?_).trans (List.map_id _)
      cases entry with
      | marker marker => exact absurd (hresolved _ hentry) (by simp [Entry.isResolved, Entry.span?])
      | span span => rfl
    rw [hitems]
    split_ifs with hname
    · rw [hranges hname, id]
    · rfl
  exact congrArg (FileIndex.mk index.path) hentries

/-- The ranges of a new index are those of its markers. -/
lemma resolvedIn_ofText (path : String) (text : List Char) (selected : List String) :
    (ofText path text).resolvedIn text selected = foundIn path text selected := by
  have hentries : ((ofText path text).resolvedIn text selected).entries
      = (foundIn path text selected).entries := by
    rw [entries_resolvedIn, ofText, foundIn, List.map_map]
    refine List.map_congr_left fun group hgroup => ?_
    have hitems : (ofText path text).entriesOf group.1 = group.2.map .marker := by
      have hmem : (group.1, group.2.map Entry.marker) ∈ (ofText path text).entries :=
        List.mem_map.mpr ⟨group, hgroup, rfl⟩
      have hlookup := lookup_eq_of_nodup (nodup_names_ofText path text) hmem
      rw [entriesOf, hlookup, Option.getD_some]
    rw [ofText] at hitems
    simp only [Function.comp_apply, hitems, List.map_map]
    split_ifs
    · rfl
    · rfl
  exact congrArg (FileIndex.mk path) hentries

end FileIndex

namespace Search

variable {workspace : Workspace} {settings : Settings} {name path : String}

/-! ## One entry -/

/-- Completing only adds ranges. -/
lemma grows_completed {selected : List String} {index found : FileIndex}
    (h : completed workspace path selected index = .ok found) : index.Grows selected found := by
  rw [completed] at h
  split_ifs at h
  · rw [← Except.ok.inj h]
    exact .refl selected index
  · cases htext : workspace.text path with
    | error cause => simp [htext] at h
    | ok text =>
        simp only [htext, Except.ok.injEq] at h
        rw [← h]
        exact FileIndex.grows_resolvedIn text selected index

/-- A query leaves the stamp of an entry, and only adds ranges under the selected names. -/
lemma grows_remembered (workspace : Workspace) (settings : Settings) (name path : String)
    (entry : Cached) :
    (remembered workspace settings name path entry).stamp = entry.stamp ∧
      entry.version.index.Grows (entry.version.index.matching name settings.wildcard)
        (remembered workspace settings name path entry).version.index := by
  rw [remembered]
  cases hfound : completed workspace path (entry.version.index.matching name settings.wildcard)
      entry.version.index with
  | error mishap => exact ⟨rfl, .refl _ _⟩
  | ok found => exact ⟨rfl, grows_completed hfound⟩

/-- A query finds the ranges of a new index in the text that it was built from. -/
lemma remembered_ofText {text : List Char} (htext : workspace.text path = .ok text) {entry : Cached}
    (hindex : entry.version.index = .ofText path text) :
    (remembered workspace settings name path entry).stamp = entry.stamp ∧
      (remembered workspace settings name path entry).version.index
        = .foundIn path text ((FileIndex.ofText path text).matching name settings.wildcard) := by
  have hfound : completed workspace path
      ((FileIndex.ofText path text).matching name settings.wildcard) (.ofText path text)
        = .ok (.foundIn path text ((FileIndex.ofText path text).matching name settings.wildcard)) := by
    rw [← FileIndex.resolvedIn_ofText, completed, htext]
    split_ifs with hresolved
    · rw [FileIndex.resolvedIn_of_isResolved (FileIndex.nodup_names_ofText path text) hresolved]
    · rfl
  rw [remembered, hindex, hfound]
  exact ⟨rfl, rfl⟩

/-- An entry that is as the query leaves it. -/
lemma Left.exists_entry {entry : Cached} {now? : Option Cached}
    (h : Left workspace settings name path entry now?) :
    ∃ now, now? = some now ∧ now.stamp = (remembered workspace settings name path entry).stamp ∧
      now.version.index = (remembered workspace settings name path entry).version.index := by
  obtain ⟨now, hnow, hsame⟩ := Option.map_eq_some_iff.mp h
  rw [← hsame]
  exact ⟨now, hnow, rfl, rfl⟩

/-! ## All entries -/

section Leaves

variable {σ : Type} (lexer : LineLexer σ) (workspace : Workspace) (settings : Settings) (name : String)
  (candidates : List String) (before : Atlas σ)
  (loads : Batch (Atlas σ) String Atlas.LoadStage (Except Mishap Loaded))

/-- Loads that have taken their turns in some order, and resolves that have done so after them, yield a report and the
atlas that is left. -/
structure Yields (answer : Report) (after : Atlas σ) : Prop where
  ordered : ∃ first, loads = loadsAfter workspace candidates before first
  done : loads.Finished
  calm : Calm loads
  resolved : ∃ second, (resolvesAfter lexer workspace settings name loads second).Finished ∧
    answer = report name loads.results (resolvesAfter lexer workspace settings name loads second).results ∧
    after = (resolvesAfter lexer workspace settings name loads second).state

/-- A load of the path has ended with an outcome. -/
def LoadEnded (path : String) (outcome : Except Mishap Loaded) : Prop :=
  (path, some (.done outcome)) ∈ loads.tasks

/-- What a query leaves of the cache, by how the loads of each file have ended. -/
structure Leaves (after : Atlas σ) : Prop where
  ended : ∀ path ∈ candidates, ∃ outcome, LoadEnded loads path outcome
  others : ∀ path ∉ candidates, after.cache.get? path = before.cache.get? path
  failed : ∀ path mishap, LoadEnded loads path (.error mishap) →
    after.cache.get? path = before.cache.get? path
  reused : ∀ path ∈ candidates,
    (∀ outcome, LoadEnded loads path outcome → ∃ item, outcome = .ok item ∧ item.fromCache = true) →
    ∃ old new, before.cache.get? path = some old ∧ after.cache.get? path = some new ∧
      new.stamp = old.stamp ∧
      old.version.index.Grows (old.version.index.matching name settings.wildcard) new.version.index
  built : ∀ path item text, LoadEnded loads path (.ok item) → item.text? = some text →
    workspace.text path = .ok text ∧
      ∃ new, after.cache.get? path = some new ∧ new.stamp = workspace.stampNow path ∧
        new.version.index
          = .foundIn path text ((FileIndex.ofText path text).matching name settings.wildcard)
  kept : ∀ path, (before.cache.get? path).isSome → (after.cache.get? path).isSome

variable {lexer workspace settings name candidates before}

/-- A report that comes of a query is yielded by some loads. -/
lemma Scheduled.yields {answer : Report} {after : Atlas σ}
    (h : Scheduled lexer workspace settings name candidates before (.ok answer, after)) :
    ∃ loads, Yields lexer workspace settings name candidates before loads answer after := by
  obtain ⟨late, h⟩ := h
  cases h with
  | answered hfirst hdone hcalm hresolved _ =>
      exact ⟨_, ⟨_, hfirst⟩, hdone, hcalm, _, hresolved, rfl, rfl⟩

/-- A query whose tasks take their turns one after the other makes the loads of its run. -/
lemma query_yields (hplaces : 0 < settings.maxConcurrency) {answer : Report} {after : Atlas σ}
    (h : query lexer workspace settings name candidates before = (.ok answer, after)) :
    Yields lexer workspace settings name candidates before
      (runLoads workspace settings candidates before).batch answer after := by
  obtain ⟨first, hfirst, hfinished⟩ := runLoads_execute workspace hplaces candidates before
  simp only [query] at h
  split at h
  · simp at h
  · rename_i hcalm
    obtain ⟨second, hsecond, hresolved⟩ := runResolves_execute lexer workspace hplaces name
      (runLoads workspace settings candidates before).batch
    split at h
    · simp at h
    · rename_i hquiet
      obtain ⟨hanswer, hafter⟩ := Prod.mk.inj h
      rw [hsecond] at hanswer hafter hresolved
      exact ⟨⟨first, hfirst⟩, hfinished hcalm, fatal_notMem_results hcalm, second, hresolved hquiet,
        (Except.ok.inj hanswer).symm, hafter.symm⟩

end Leaves

variable {before after : Atlas Stack} {candidates : List String} {first second : List Nat}
  {loads : Batch (Atlas Stack) String Atlas.LoadStage (Except Mishap Loaded)}

/-- The entry of a file whose loads have all taken it from the cache. -/
lemma reused_resolvesAfter (hfirst : loads = loadsAfter workspace candidates before first)
    (hcalm : Calm loads)
    (hresolved : (resolvesAfter lexer workspace settings name loads second).Finished) {path : String}
    {item : Loaded} (htask : (path, some (.done (.ok item))) ∈ loads.tasks)
    (hcached : ∀ other, (path, some (.done (.ok other))) ∈ loads.tasks → other.fromCache = true) :
    ∃ old new, before.cache.get? path = some old ∧
      (resolvesAfter lexer workspace settings name loads second).state.cache.get? path = some new ∧
      new.stamp = old.stamp ∧
      old.version.index.Grows (old.version.index.matching name settings.wildcard)
        new.version.index := by
  have hloads := loadsAfter_unbuilt hfirst hcached
  obtain ⟨old, hold, -⟩ := cached_loadsAfter hfirst hcalm htask
  have hleft : Left workspace settings name path old
      ((resolvesAfter lexer workspace settings name loads second).state.cache.get? path) :=
    left_repeated hfirst hcalm hresolved htask hold
  obtain ⟨new, hnew, hstamp, hindex⟩ := hleft.exists_entry
  obtain ⟨hkept, hgrows⟩ := grows_remembered workspace settings name path old
  exact ⟨old, new, hloads ▸ hold, hnew, hstamp.trans hkept, hindex ▸ hgrows⟩

/-- The entry of a file that a load has built. -/
lemma built_resolvesAfter (hfirst : loads = loadsAfter workspace candidates before first)
    (hcalm : Calm loads)
    (hresolved : (resolvesAfter lexer workspace settings name loads second).Finished) {path : String}
    {item : Loaded} (htask : (path, some (.done (.ok item))) ∈ loads.tasks) {text : List Char}
    (hitem : item.text? = some text) :
    workspace.text path = .ok text ∧
      ∃ new, (resolvesAfter lexer workspace settings name loads second).state.cache.get? path
          = some new ∧ new.stamp = workspace.stampNow path ∧
        new.version.index
          = .foundIn path text ((FileIndex.ofText path text).matching name settings.wildcard) := by
  obtain ⟨htext, entry, hentry, hindex, hstamp⟩ : workspace.text path = .ok text ∧
      ∃ entry, loads.state.cache.get? path = some entry ∧
        entry.version.index = .ofText path text ∧ entry.stamp = workspace.stampNow path := by
    rcases steady_or_built workspace before path with
      hsteady | ⟨hnone, read, time, hread, htime, -, -⟩
    · have hcached := hsteady.fromCache hfirst htask
      simp [Loaded.fromCache, hitem] at hcached
    · obtain ⟨other, entry, hother, -, -, htexts, hentry, hindex, hstamp⟩ :=
        loadsAfter_served hfirst hcalm hnone hread htime htask
      obtain rfl := Except.ok.inj hother
      obtain rfl := htexts text hitem
      refine ⟨hread, entry, hentry, hindex, ?_⟩
      rw [hstamp, Workspace.stampNow, htime]
      rfl
  have hleft : Left workspace settings name path entry
      ((resolvesAfter lexer workspace settings name loads second).state.cache.get? path) :=
    left_repeated hfirst hcalm hresolved htask hentry
  obtain ⟨new, hnew, hkept, hgrown⟩ := hleft.exists_entry
  obtain ⟨hsame, hfound⟩ : (remembered workspace settings name path entry).stamp = entry.stamp ∧ _ :=
    remembered_ofText htext hindex
  exact ⟨htext, new, hnew, (hkept.trans hsame).trans hstamp, hgrown.trans hfound⟩

/-- What a query that returns a report leaves, file by file. -/
theorem Yields.leaves {answer : Report}
    (h : Yields lexer workspace settings name candidates before loads answer after) :
    Leaves workspace settings name candidates before loads after := by
  obtain ⟨⟨first, hfirst⟩, hdone, hcalm, second, hresolved, -, hafter⟩ := h
  have hended : ∀ path ∈ candidates, ∃ outcome, LoadEnded loads path outcome :=
    fun path hpath => exists_outcome hfirst hdone hpath
  have hothers : ∀ path ∉ candidates, after.cache.get? path = before.cache.get? path := by
    rw [hafter]
    exact fun path => others_repeated hfirst
  have hfailed : ∀ path mishap, LoadEnded loads path (.error mishap) →
      after.cache.get? path = before.cache.get? path := by
    rw [hafter]
    exact fun path mishap => untouched_of_failed hfirst hcalm
  refine ⟨hended, hothers, hfailed, fun path hpath hcached => ?_, ?_, fun path hsome => ?_⟩
  · obtain ⟨outcome, hload⟩ := hended path hpath
    obtain ⟨item, rfl, -⟩ := hcached outcome hload
    rw [hafter]
    refine reused_resolvesAfter hfirst hcalm hresolved hload fun other hother => ?_
    obtain ⟨same, hsame, hcache⟩ := hcached _ hother
    rwa [Except.ok.inj hsame]
  · rw [hafter]
    exact fun path item text htask => built_resolvesAfter hfirst hcalm hresolved htask
  · by_cases hpath : path ∈ candidates
    · obtain ⟨outcome, hload⟩ := hended path hpath
      cases outcome with
      | error mishap => rwa [hfailed path mishap hload]
      | ok item =>
          obtain ⟨entry, hentry, -⟩ := cached_loadsAfter hfirst hcalm hload
          have hleft := left_repeated hfirst hcalm hresolved hload hentry
          obtain ⟨now, hnow, -⟩ := hleft.exists_entry
          rw [hafter, hnow, Option.isSome_some]
    · rwa [hothers path hpath]

/-- **What a query may change in the cache.**  Let a query return a report, and consider any loads that yield it; there
are some, whatever the order of the turns was.  Entries of files that are not among the filtered candidates, or that
could not be loaded, are as they were.  Entries that were only taken from the cache may have got ranges under the
selected names, and nothing else has changed.  Entries that were built are the index of the text that was read, with
the ranges in it under the selected names.  No entry is gone. -/
theorem queryCandidates_leaves {candidates : List Candidate} {all : Bool} {answer : Report} {late : List Late}
    (h : CandidatesEnd lexer workspace settings name before candidates all (.ok answer, after) late) :
    ∃ paths, Candidate.spellings? candidates = some paths ∧
      let chosen := filterCandidates settings.extension all paths
      (∃ loads, Yields lexer workspace settings name chosen before loads answer after) ∧
        ∀ loads, Yields lexer workspace settings name chosen before loads answer after →
          Leaves workspace settings name chosen before loads after := by
  cases h with
  | queried hpaths hends =>
      exact ⟨_, hpaths, Scheduled.yields ⟨late, hends⟩, fun _ hyields => hyields.leaves⟩

end Search

namespace Session

/-- One entry was reused, one was built twice, and one file could not be loaded. -/
theorem queryCandidates_leaves_mixed :
    let workspace := halfResolved.service.view halfResolved.disk
    let settings := halfResolved.service.config.settings
    let before := halfResolved.service.atlas
    let outcome := Search.queryCandidates lexer workspace settings "*" listedTwice false before
    let chosen := ["a.soy", "b.soy", "c.soy", "b.soy"]
    let loads := (Search.runLoads workspace settings chosen before).batch
    outcome.1 = .ok mixedReport ∧
      loads.results.map (fun result => result.toOption.map (·.fromCache))
        = [some true, some false, none, some false] ∧
      Search.Leaves workspace settings "*" chosen before loads outcome.2 := by
  intro workspace settings before outcome chosen loads
  have hreport : outcome.1 = .ok mixedReport := by decide +kernel
  have hquery : Search.queryCandidates lexer workspace settings "*" listedTwice false before
      = (.ok mixedReport, outcome.2) := Prod.ext hreport rfl
  have hplaces : 0 < settings.maxConcurrency := by decide +kernel
  have hends := Search.queryCandidates_ends lexer workspace hplaces "*" listedTwice false before
  rw [hquery] at hends
  obtain ⟨paths, hpaths, -, hleaves⟩ := Search.queryCandidates_leaves hends
  have hchosen : filterCandidates settings.extension false paths = chosen := by
    obtain rfl : chosen = paths := Option.some.inj hpaths
    decide +kernel
  rw [hchosen] at hleaves
  rw [Search.queryCandidates, hpaths] at hquery
  simp only [hchosen] at hquery
  exact ⟨hreport, by decide +kernel, hleaves loads (Search.query_yields hplaces hquery)⟩

end Session

end TemplateAtlas
