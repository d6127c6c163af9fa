import Mathlib.Tactic.Common
import TemplateAtlas.Proofs.Queries

/-!
# Files do not get in each other's way

The loads of a query share the cache, and so do its resolves.  But each of them touches one entry, that of its
own file, and if no file is asked about twice, nobody else does.  What comes of a file is therefore what comes
of it when it is alone, in whatever order the turns are taken.

**Serial numbers.**  They depend on the order in which indexes are made, and serve only to tell these apart.
Loaded indexes and cache entries are compared without them (`unnumbered`).

**Loads.**  A load among others comes to what `Atlas.load` comes to (`LoadsAlone`, with one lemma for each
kind of turn, and `loading_alone`).

**Resolves.**  What a resolve finds follows from the loaded index and the text of the file, since the lexer
starts every text anew (`FileIndex.resolve_memory`, `rangesAlone`); a resolve puts it into the entry that the
index was loaded from (`Resolved`, `resolving_alone`).

**The whole query.**  `reportAlone` and `entryLeft` say what the report is and what is left in the cache,
without any order: `Scheduled.answer`.  A fault that ends a query comes from a file that has it alone:
`Scheduled.faulty`.
-/

namespace TemplateAtlas

open Soy

variable {σ : Type}

/-! ## Serial numbers -/

/-- A loaded index but for its serial number, which says nothing about the file. -/
def Loaded.unnumbered (item : Loaded) : Loaded := { item with version.serial := 0 }

def Cached.unnumbered (entry : Cached) : Cached := { entry with version.serial := 0 }

namespace Search

section Loads

variable (workspace : Workspace) (before : Atlas σ) (path : String)

/-- Nobody has touched the entry of the path. -/
def Untouched (atlas : Atlas σ) : Prop := atlas.cache.get? path = before.cache.get? path

/-- A load that is alone builds the index. -/
def Rebuilds : Prop :=
  ∃ atlas : Atlas σ, atlas.cache = before.cache ∧
    before.load workspace path = atlas.rebuild workspace path

/-- Two loads of a path come to the same, and a loaded index is the one that is cached. -/
structure Alike {ε : Type} (result other : Except ε Loaded × Atlas σ) : Prop where
  outcome : result.1.map Loaded.unnumbered = other.1.map Loaded.unnumbered
  entry : (result.2.cache.get? path).map Cached.unnumbered
    = (other.2.cache.get? path).map Cached.unnumbered
  cached : ∀ item, result.1 = .ok item →
    item.path = path ∧ ∃ entry, result.2.cache.get? path = some entry ∧ entry.version = item.version

/-- What is known of a load after a turn, if it comes to `alone` when there are no others. -/
def LoadsAlone {ε : Type} (alone : Except ε Loaded × Atlas σ) (atlas : Atlas σ) :
    Step Atlas.LoadStage (Except ε Loaded) → Prop
  | .wait _ (.checking entry) =>
    Untouched before path atlas ∧ before.trust workspace path = .undecided entry
  | .wait _ .stamping => Untouched before path atlas ∧ Rebuilds workspace before path
  | .wait _ (.reading stamp) => Untouched before path atlas ∧ Rebuilds workspace before path ∧
    ∃ time, workspace.diskTime path = .ok time ∧ stamp = workspace.stamp path time
  | .done outcome => Alike path (outcome, atlas) alone

variable {workspace before path} {atlas : Atlas σ}

/-- A load only depends on the entry of its path. -/
lemma LoadsAlone.congr {ε : Type} {alone : Except ε Loaded × Atlas σ} {after : Atlas σ}
    {step : Step Atlas.LoadStage (Except ε Loaded)}
    (hsame : after.cache.get? path = atlas.cache.get? path)
    (h : LoadsAlone workspace before path alone atlas step) :
    LoadsAlone workspace before path alone after step := by
  match step, h with
  | .wait _ (.checking _), h => exact ⟨hsame.trans h.1, h.2⟩
  | .wait _ .stamping, h => exact ⟨hsame.trans h.1, h.2⟩
  | .wait _ (.reading _), h => exact ⟨hsame.trans h.1, h.2⟩
  | .done _, h => exact ⟨h.outcome, hsame ▸ h.entry, hsame ▸ h.cached⟩

/-- While a load waits, nothing is said of what it comes to. -/
lemma LoadsAlone.of_wait {ε δ : Type} {alone : Except ε Loaded × Atlas σ}
    {other : Except δ Loaded × Atlas σ} {rounds : Nat} {stage : Atlas.LoadStage}
    (h : LoadsAlone workspace before path alone atlas (.wait rounds stage)) :
    LoadsAlone workspace before path other atlas (.wait rounds stage) := by
  cases stage <;> exact h

/-! ## One turn -/

lemma Untouched.of_has {after : Atlas σ} (h : Untouched before path atlas)
    (hafter : after.Has atlas.flags atlas.cache) : Untouched before path after := by
  rw [Untouched, hafter.cache]
  exact h

/-- Two loads that fail in the same way. -/
lemma Alike.of_error {ε : Type} {fault : ε} {result other : Except ε Loaded × Atlas σ}
    (hresult : result.1 = .error fault) (hother : other.1 = .error fault)
    (hget : result.2.cache.get? path = other.2.cache.get? path) : Alike path result other := by
  refine ⟨by rw [hresult, hother], congrArg _ hget, ?_⟩
  rintro item hitem
  rw [hresult] at hitem
  cases hitem

/-- Two texts that arrive with the same stamp come to the same. -/
lemma alike_of_reads {stamp : Option Int} {flags otherFlags : Flags} {cache otherCache : Cache}
    {result other : Except LoadFault Loaded × Atlas σ}
    (h : Atlas.Reads workspace path stamp flags cache result)
    (hother : Atlas.Reads workspace path stamp otherFlags otherCache other)
    (hget : cache.get? path = otherCache.get? path) : Alike path result other := by
  cases h with
  | refused htext hafter =>
      cases hother with
      | refused hagain hthere =>
          rw [htext, Except.error.injEq] at hagain
          subst hagain
          exact .of_error rfl rfl (by rw [hafter.cache, hthere.cache, hget])
      | built hagain _ =>
          rw [htext] at hagain
          cases hagain
  | @built text _ htext hafter =>
      cases hother with
      | refused hagain _ =>
          rw [htext] at hagain
          cases hagain
      | built hagain hthere =>
          rw [htext, Except.ok.injEq] at hagain
          subst hagain
          refine ⟨rfl, ?_, ?_⟩
          · simp only [hafter.cache, hthere.cache, Cache.get?_store, if_true]
            rfl
          · rintro item ⟨⟩
            refine ⟨rfl, ⟨⟨cache.issued, .ofText path text⟩, stamp⟩, ?_, rfl⟩
            simp only [hafter.cache, Cache.get?_store, if_true]

lemma Rebuilds.rebuilt (h : Rebuilds workspace before path) :
    ∃ flags, Atlas.Rebuilt workspace path flags before.cache (before.load workspace path) := by
  obtain ⟨other, hcache, hload⟩ := h
  rw [hload, ← hcache]
  exact ⟨_, Atlas.rebuild_rebuilt workspace path other⟩

lemma alone_of_reads (h : Untouched before path atlas) (hrebuilds : Rebuilds workspace before path)
    {time : Option Int} (htime : workspace.diskTime path = .ok time)
    {outcome : Except LoadFault Loaded} {after : Atlas σ}
    (hreads : Atlas.Reads workspace path (workspace.stamp path time) atlas.flags atlas.cache (outcome, after)) :
    LoadsAlone workspace before path (before.load workspace path) after (.done outcome) := by
  obtain ⟨flags, hrebuilt⟩ := hrebuilds.rebuilt
  generalize before.load workspace path = alone at hrebuilt ⊢
  cases hrebuilt with
  | refused hagain _ =>
      rw [htime] at hagain
      cases hagain
  | reads hagain hother =>
      rw [htime, Except.ok.injEq] at hagain
      subst hagain
      exact alike_of_reads hreads hother h

lemma alone_of_builds (h : Untouched before path atlas) (hrebuilds : Rebuilds workspace before path)
    {rounds : Nat} {outcome : Atlas.LoadStep × Atlas σ}
    (hbuilds : Atlas.Builds workspace path rounds atlas.flags atlas.cache outcome) :
    LoadsAlone workspace before path (before.load workspace path) outcome.2 outcome.1 := by
  cases hbuilds with
  | asks _ hafter => exact ⟨h.of_has hafter, hrebuilds⟩
  | stamped htime _ hafter => exact ⟨h.of_has hafter, hrebuilds, _, htime, rfl⟩
  | reads htime hreads => exact alone_of_reads h hrebuilds htime hreads
  | refused htime hafter =>
      obtain ⟨flags, hrebuilt⟩ := hrebuilds.rebuilt
      generalize before.load workspace path = alone at hrebuilt ⊢
      cases hrebuilt with
      | refused hagain hthere =>
          rw [htime, Except.error.injEq] at hagain
          subst hagain
          exact Alike.of_error rfl rfl (by rw [hthere.cache]; exact h.of_has hafter)
      | reads hagain _ =>
          rw [htime] at hagain
          cases hagain

lemma rebuilds_of_outdated {entry : Cached} (htrust : before.trust workspace path = .undecided entry)
    (hold : Atlas.Outdated workspace path entry) : Rebuilds workspace before path := by
  obtain ⟨noted, hnoted, hload⟩ := Atlas.load_of_outdated htrust hold
  exact ⟨noted, hnoted.cache, hload⟩

lemma alone_of_judges (h : Untouched before path atlas) {entry : Cached}
    (htrust : before.trust workspace path = .undecided entry) {outcome : Atlas.LoadStep × Atlas σ}
    (hjudges : Atlas.Judges workspace path entry atlas.flags atlas.cache outcome) :
    LoadsAlone workspace before path (before.load workspace path) outcome.2 outcome.1 := by
  have hold : before.cache.get? path = some entry := Atlas.get?_of_undecided htrust
  have hnow : atlas.cache.get? path = some entry := h.trans hold
  cases hjudges with
  | reuses htime hstamp hafter =>
      rw [Atlas.load_of_current htrust htime hstamp, hnow]
      refine ⟨rfl, ?_, ?_⟩
      · simp only [hafter.cache, hnow, Atlas.note_cache, hold]
      · rintro item ⟨⟩
        exact ⟨rfl, entry, by rw [hafter.cache, hnow], rfl⟩
  | refused htime hcause hafter =>
      rw [Atlas.load_of_failed htrust htime hcause]
      exact Alike.of_error rfl rfl (h.of_has hafter)
  | builds hold hbuilds => exact alone_of_builds h (rebuilds_of_outdated htrust hold) hbuilds

lemma startLoad_alone (hflags : atlas.flags = before.flags) (h : Untouched before path atlas) :
    LoadsAlone workspace before path (before.load workspace path)
      (atlas.startLoad workspace path).2 (atlas.startLoad workspace path).1 := by
  have htrust : atlas.trust workspace path = before.trust workspace path := by
    rw [Atlas.trust, Atlas.trust, h, hflags]
  have hturn := Atlas.startLoad_turns workspace path atlas
  generalize atlas.startLoad workspace path = outcome at hturn ⊢
  cases hturn with
  | reuses hcase =>
      rw [htrust] at hcase
      obtain ⟨entry, hentry, rfl⟩ := Atlas.get?_of_granted hcase
      rw [Atlas.load_of_granted hcase]
      refine ⟨rfl, congrArg _ h, ?_⟩
      rintro item ⟨⟩
      exact ⟨rfl, entry, h.trans hentry, rfl⟩
  | builds hcase hbuilds =>
      exact alone_of_builds h ⟨before, rfl, Atlas.load_of_refused (htrust ▸ hcase)⟩ hbuilds
  | asks hcase _ hafter => exact ⟨h.of_has hafter, htrust ▸ hcase⟩
  | judges hentry hjudges =>
      cases hentry with
      | now hcase => exact alone_of_judges h (htrust ▸ hcase) hjudges

lemma resumeLoad_alone (rounds : Nat) (stage : Atlas.LoadStage)
    (h : LoadsAlone workspace before path (before.load workspace path) atlas (.wait rounds stage)) :
    LoadsAlone workspace before path (before.load workspace path)
      (atlas.resumeLoad workspace path stage).2 (atlas.resumeLoad workspace path stage).1 := by
  have hturn := Atlas.resumeLoad_turns workspace path atlas stage
  generalize atlas.resumeLoad workspace path stage = outcome at hturn ⊢
  cases hturn with
  | judges hentry hjudges =>
      cases hentry with
      | before => exact alone_of_judges h.1 h.2 hjudges
  | stamps hbuilds => exact alone_of_builds h.1 h.2 hbuilds
  | reads hreads =>
      obtain ⟨huntouched, hrebuilds, time, htime, rfl⟩ := h
      exact alone_of_reads huntouched hrebuilds htime hreads

/-- The load of a file that is alone, with a note if the file is left out. -/
def loadAlone (workspace : Workspace) (before : Atlas σ) (path : String) :
    Except Mishap Loaded × Atlas σ :=
  closeLoad (before.load workspace path).1 (before.load workspace path).2

lemma LoadsAlone.close {outcome : Atlas.LoadStep × Atlas σ}
    (h : LoadsAlone workspace before path (before.load workspace path) outcome.2 outcome.1) :
    LoadsAlone workspace before path (loadAlone workspace before path) (closeStep outcome).2
      (closeStep outcome).1 := by
  obtain ⟨step, after⟩ := outcome
  match step, h with
  | .wait _ _, h => exact h.of_wait
  | .done outcome, h =>
      obtain ⟨houtcome, hentry, hcached⟩ := h
      simp only [closeStep, loadAlone]
      generalize before.load workspace path = alone at houtcome hentry
      obtain ⟨outcome', after'⟩ := alone
      cases outcome <;> cases outcome' <;> simp [Except.map] at houtcome
      · subst houtcome
        refine ⟨rfl, ?_, ?_⟩
        · simpa [closeLoad] using hentry
        · intro item hitem
          simp [closeLoad] at hitem
      · refine ⟨?_, hentry, by simpa [closeLoad] using hcached⟩
        simp [closeLoad, Except.map, houtcome]

end Loads

/-- What is known of a load whose path no other load has. -/
def AloneLast (workspace : Workspace) (before atlas : Atlas σ) (path : String) :
    Option (Step Atlas.LoadStage (Except Mishap Loaded)) → Prop
  | none => Untouched before path atlas
  | some step => LoadsAlone workspace before path (loadAlone workspace before path) atlas step

lemma loading_alone (workspace : Workspace) (before : Atlas σ) :
    (loading workspace).KeepsApart (fun path other => path ≠ other)
      (fun atlas => atlas.flags = before.flags) (AloneLast workspace before) where
  step path last? atlas hflags hlast := by
    refine ⟨(loading_effect last?).flags.trans hflags, ?_⟩
    match last?, hlast with
    | none, hlast => exact (startLoad_alone hflags hlast).close
    | some (.wait rounds stage), hlast => exact (resumeLoad_alone rounds stage hlast.of_wait).close
    | some (.done _), hlast => exact hlast
  stable path last? atlas other otherLast? hne _ _ hother := by
    have hsame : ((loading workspace).step path last? atlas).2.cache.get? other
        = atlas.cache.get? other := (loading_effect last?).get?_ne (Ne.symm hne)
    match otherLast?, hother with
    | none, hother => exact hsame.trans hother
    | some step, hother => exact LoadsAlone.congr hsame hother


/-! ## Resolves -/

end Search

lemma resolveEntry_memory (text : List Char) (map : LineMap) (entry : Entry) (memory other : Stack) :
    (resolveEntry lexer text map entry memory).1 = (resolveEntry lexer text map entry other).1 := by
  cases entry <;> rfl

lemma resolveEntries_memory (text : List Char) (map : LineMap) (entries : List Entry)
    (memory other : Stack) :
    (resolveEntries lexer text map entries memory).1
      = (resolveEntries lexer text map entries other).1 := by
  induction entries generalizing memory other with
  | nil => rfl
  | cons entry entries ih =>
      have hentry := resolveEntry_memory text map entry memory other
      rw [resolveEntries, resolveEntries]
      generalize resolveEntry lexer text map entry memory = result,
        resolveEntry lexer text map entry other = result' at hentry ⊢
      obtain ⟨outcome, after⟩ := result
      obtain ⟨outcome', after'⟩ := result'
      obtain rfl : outcome = outcome' := hentry
      cases outcome with
      | error fault => rfl
      | ok span =>
          have hrest := ih after after'
          simp only
          generalize resolveEntries lexer text map entries after = rest,
            resolveEntries lexer text map entries after' = rest' at hrest ⊢
          obtain ⟨spans, later⟩ := rest
          obtain ⟨spans', later'⟩ := rest'
          obtain rfl : spans = spans' := hrest
          cases spans <;> rfl

namespace FileIndex

lemma resolveNames_memory (text : List Char) (map : LineMap) (names : List String)
    (index : FileIndex) (memory other : Stack) :
    (resolveNames lexer text map names index memory).1
      = (resolveNames lexer text map names index other).1 := by
  induction names generalizing index memory other with
  | nil => rfl
  | cons name names ih =>
      have hentries := resolveEntries_memory text map (index.entriesOf name) memory other
      rw [resolveNames, resolveNames]
      generalize resolveEntries lexer text map (index.entriesOf name) memory = result,
        resolveEntries lexer text map (index.entriesOf name) other = result' at hentries ⊢
      obtain ⟨outcome, after⟩ := result
      obtain ⟨outcome', after'⟩ := result'
      obtain rfl : outcome = outcome' := hentries
      cases outcome with
      | error fault => rfl
      | ok spans =>
          simp only
          have hrest := ih { index with entries := replaceEntries name spans index.entries } after after'
          generalize resolveNames lexer text map names _ after = rest,
            resolveNames lexer text map names _ after' = rest' at hrest ⊢
          obtain ⟨found, later⟩ := rest
          obtain ⟨found', later'⟩ := rest'
          obtain rfl : found = found' := hrest
          cases found <;> rfl

/-- The Soy lexer starts every text anew, so that nothing depends on what it has read before. -/
lemma resolve_memory (index : FileIndex) (names : List String) (text? : Option (List Char))
    (memory other : Stack) :
    (index.resolve lexer names text? memory).1 = (index.resolve lexer names text? other).1 := by
  rw [resolve.eq_def, resolve.eq_def]
  split_ifs
  · rfl
  · cases text? with
    | none => rfl
    | some text =>
        simp only
        rw [resolveNames_memory text _ names index memory other]

end FileIndex


namespace Search

section Resolves

variable (workspace : Workspace) (selected : Selected)

/-- The text that a resolve works with: the one at hand, or that of the file if ranges are missing. -/
def textFor : Except Mishap (Option (List Char)) :=
  if selected.item.text?.isNone && !selected.item.version.index.isResolved selected.names then
    match workspace.text selected.item.path with
    | .ok text => .ok (some text)
    | .error cause => .error (LoadFault.mk selected.item.path .read cause).mishap
  else .ok selected.item.text?

/-- The selected ranges of an index, and the index that holds them. -/
def rangesAlone : Except Mishap (FileIndex × List Span) :=
  match textFor workspace selected with
  | .error mishap => .error mishap
  | .ok text? =>
    (selected.item.version.index.resolve lexer selected.names text? []).1.mapError fun fault =>
      .fatal (.resolve fault)

def answerAlone : Except Mishap (List Location) :=
  (rangesAlone workspace selected).map fun found => found.2.map (locate selected.item.path)

/-- What becomes of the entry that an index was loaded from. -/
def entryAlone (entry : Cached) : Cached :=
  match rangesAlone workspace selected with
  | .ok (index, _) => ⟨⟨0, index⟩, entry.stamp⟩
  | .error _ => entry.unnumbered

variable (entry : Cached)

/-- What a resolve comes to. -/
structure Resolved (result : Except Mishap (List Location) × Atlas Stack) : Prop where
  outcome : result.1 = answerAlone workspace selected
  entry : (result.2.cache.get? selected.item.path).map Cached.unnumbered
    = some (entryAlone workspace selected entry)

variable {workspace selected entry} {atlas : Atlas Stack}

lemma get?_swap_self (cache : Cache) {path : String} (h : cache.get? path = some entry)
    (version : Version) :
    (cache.swap path entry.version.serial version).2.get? path = some ⟨version, entry.stamp⟩ := by
  simp only [Cache.swap, h, if_true]
  rw [Cache.get?, Cache.lookup_put, if_pos rfl]

/-- If the text is at hand, or not needed, it is what a resolve works with. -/
lemma textFor_of_not_lacks (h : ¬ Lacks selected) :
    textFor workspace selected = .ok selected.item.text? := by
  rw [textFor, if_neg]
  rwa [Bool.and_eq_true, Option.isNone_iff_eq_none, Bool.not_eq_true']

lemma textFor_of_lacks (h : Lacks selected) {text : List Char}
    (htext : workspace.text selected.item.path = .ok text) : textFor workspace selected = .ok (some text) := by
  simp [textFor, h.1, h.2, htext]

lemma textFor_of_refused (h : Lacks selected) {cause : SourceFault}
    (htext : workspace.text selected.item.path = .error cause) :
    textFor workspace selected = .error (LoadFault.mk selected.item.path .read cause).mishap := by
  simp [textFor, h.1, h.2, htext]

lemma Resolved.of_finds (hentry : atlas.cache.get? selected.item.path = some entry)
    (hversion : entry.version = selected.item.version) {text? : Option (List Char)}
    (htext : textFor workspace selected = .ok text?) {result : Except Mishap (List Location) × Atlas Stack}
    (h : Finds lexer selected text? atlas.memory atlas.flags atlas.cache result) :
    Resolved workspace selected entry result := by
  have hranges : rangesAlone workspace selected
      = (selected.item.version.index.resolve lexer selected.names text? atlas.memory).1.mapError
          fun fault => .fatal (.resolve fault) := by
    rw [rangesAlone, htext, FileIndex.resolve_memory]
  cases h with
  | fails hresolve hafter =>
      rw [hresolve] at hranges
      refine ⟨by rw [answerAlone, hranges]; rfl, ?_⟩
      simp only [entryAlone, hranges, Except.mapError, hafter.cache, hentry, Option.map_some]
  | known _ hresolve hafter =>
      rw [hresolve] at hranges
      refine ⟨by rw [answerAlone, hranges]; rfl, ?_⟩
      simp only [entryAlone, hranges, Except.mapError, hafter.cache, hentry, Option.map_some, ← hversion]
      rfl
  | @completes index _ _ _ hresolve hafter =>
      rw [hresolve] at hranges
      refine ⟨by rw [answerAlone, hranges]; rfl, ?_⟩
      have hissued : (atlas.cache.issue index).2.get? selected.item.path = some entry := hentry
      simp only [entryAlone, hranges, Except.mapError, hafter.cache, ← hversion]
      rw [get?_swap_self _ hissued]
      rfl

lemma Resolved.of_gets (hentry : atlas.cache.get? selected.item.path = some entry)
    (hversion : entry.version = selected.item.version) (hlacks : Lacks selected)
    {result : Except Mishap (List Location) × Atlas Stack}
    (h : Gets lexer workspace selected atlas.memory atlas.flags atlas.cache result) :
    Resolved workspace selected entry result := by
  cases h with
  | finds htext h => exact .of_finds hentry hversion (textFor_of_lacks hlacks htext) h
  | @refused cause _ htext hafter =>
      have hranges : rangesAlone workspace selected
          = .error (LoadFault.mk selected.item.path .read cause).mishap := by
        rw [rangesAlone, textFor_of_refused hlacks htext]
      refine ⟨by rw [answerAlone, hranges]; rfl, ?_⟩
      simp only [entryAlone, hranges, hafter.cache, hentry, Option.map_some]

variable (workspace) (middle : Atlas Stack)

/-- What is known of a resolve, given the entry that its index was loaded from. -/
def ResolveLast (entry : Cached) (atlas : Atlas Stack) (selected : Selected) :
    Option (Step Unit (Except Mishap (List Location))) → Prop
  | none => Untouched middle selected.item.path atlas
  | some (.wait _ _) => Untouched middle selected.item.path atlas ∧ selected.item.text? = none ∧
    selected.item.version.index.isResolved selected.names = false
  | some (.done outcome) => Resolved workspace selected entry (outcome, atlas)

/-- What is known of a resolve whose path no other resolve has. -/
def ResolvesAlone (atlas : Atlas Stack) (selected : Selected)
    (last? : Option (Step Unit (Except Mishap (List Location)))) : Prop :=
  ∃ entry, middle.cache.get? selected.item.path = some entry ∧
    entry.version = selected.item.version ∧
      ResolveLast workspace middle entry atlas selected last?

lemma resolving_alone :
    (resolving lexer workspace).KeepsApart
      (fun selected other => selected.item.path ≠ other.item.path) (fun _ => True)
      (ResolvesAlone workspace middle) where
  step selected last? atlas _ hlast := by
    refine ⟨trivial, ?_⟩
    obtain ⟨entry, hentry, hversion, hlast⟩ := hlast
    refine ⟨entry, hentry, hversion, ?_⟩
    have hturn := resolving_turns lexer workspace selected atlas last?
    generalize (resolving lexer workspace).step selected last? atlas = result at hturn ⊢
    cases hturn with
    | finds hlacks h => exact .of_finds (hlast.trans hentry) hversion (textFor_of_not_lacks hlacks) h
    | asks hlacks _ hafter => exact ⟨.of_has hlast hafter, hlacks⟩
    | gets hasked h =>
        cases hasked with
        | now hlacks => exact .of_gets (hlast.trans hentry) hversion hlacks h
        | before => exact .of_gets (hlast.1.trans hentry) hversion hlast.2 h
    | rests => exact hlast
  stable selected last? atlas other otherLast? hne _ _ hother := by
    have hsame := (resolving_touches lexer workspace selected last? atlas).others _ (Ne.symm hne)
    obtain ⟨entry, hentry, hversion, hother⟩ := hother
    refine ⟨entry, hentry, hversion, ?_⟩
    cases otherLast? with
    | none => exact hsame.trans hother
    | some last =>
        cases last with
        | wait rounds held => exact ⟨hsame.trans hother.1, hother.2⟩
        | done result => exact ⟨hother.outcome, hsame ▸ hother.entry⟩

/-- Flags and the entries of other paths are left alone. -/
lemma resolving_frame (paths : List String) : (resolving lexer workspace).Keeps
    (Tended (fun _ _ => True) middle paths) (fun _ selected _ => selected.item.path ∈ paths) where
  step selected last? atlas htended hpath := by
    have htouches := resolving_touches lexer workspace selected last? atlas
    refine ⟨⟨htouches.flags.trans htended.flags, fun path hother => ?_, fun _ _ _ _ => trivial⟩,
      hpath⟩
    have hne : path ≠ selected.item.path := fun heq => hother (heq ▸ hpath)
    exact (htouches.others path hne).trans (htended.others path hother)
  stable _ _ _ _ _ _ _ hother := hother

end Resolves

/-! ## A whole query -/

section Whole

variable (workspace : Workspace) (before : Atlas Stack) (settings : Settings) (name : String)

/-- The loads of some files, each of them alone. -/
def loadsAlone (candidates : List String) : List (Except Mishap Loaded) :=
  candidates.map fun path => (loadAlone workspace before path).1.map Loaded.unnumbered

/-- The resolves after that, each of them alone. -/
def answersAlone (candidates : List String) : List (Except Mishap (List Location)) :=
  (select settings name (successesOf (loadsAlone workspace before candidates))).map
    (answerAlone workspace)

/-- The cache entry that a query leaves of a file. -/
def entryLeft (path : String) : Option Cached :=
  let entry? := ((loadAlone workspace before path).2.cache.get? path).map Cached.unnumbered
  match (loadAlone workspace before path).1.map Loaded.unnumbered with
  | .error _ => entry?
  | .ok item =>
    if (selectedIn settings name item).names = [] then entry?
    else entry?.map (entryAlone workspace (selectedIn settings name item))

variable {workspace before settings name} {candidates : List String} {first second : List Nat}
  {loads : Batch (Atlas Stack) String Atlas.LoadStage (Except Mishap Loaded)}

lemma loadsAfter_alone (workspace : Workspace) (before : Atlas Stack) (hnodup : candidates.Nodup)
    (first : List Nat) :
    (loadsAfter workspace candidates before first).Sound (fun atlas => atlas.flags = before.flags)
      (AloneLast workspace before) := by
  refine Batch.execute_keepsApart (loading_alone workspace before) first ?_
    (Batch.ofInputs_sound rfl fun _ _ => rfl)
  rw [Batch.ofInputs_inputs]
  exact Batch.apart_of_nodup (by simpa using hnodup)

/-- The results of the loads are those of loads that are alone. -/
lemma results_loadsAfter (hnodup : candidates.Nodup)
    (hdone : (loadsAfter workspace candidates before first).Finished) :
    (loadsAfter workspace candidates before first).results.map (Except.map Loaded.unnumbered)
      = loadsAlone workspace before candidates := by
  have hsound := loadsAfter_alone workspace before hnodup first
  rw [hsound.map_results hdone fun _ _ halone => halone.outcome.symm, loadsAfter_inputs]
  rfl

/-- A loaded index is that of a load that is alone, and it is cached. -/
lemma of_mem_loadsAfter (hnodup : candidates.Nodup) {item : Loaded}
    (hitem : item ∈ successesOf (loadsAfter workspace candidates before first).results) :
    item.path ∈ candidates ∧ Alike item.path
      (.ok item, (loadsAfter workspace candidates before first).state)
      (loadAlone workspace before item.path) := by
  have hsound := loadsAfter_alone workspace before hnodup first
  obtain ⟨path, hpath, halike⟩ := hsound.of_mem_results (mem_successesOf.mp hitem)
  rw [loadsAfter_inputs] at hpath
  obtain ⟨rfl, -⟩ := halike.cached item rfl
  exact ⟨hpath, halike⟩

/-- The selected indexes belong to different files. -/
lemma select_nodup (hnodup : candidates.Nodup)
    (hdone : (loadsAfter workspace candidates before first).Finished) :
    ((select settings name (successesOf (loadsAfter workspace candidates before first).results)).map
      (·.item.path)).Nodup := by
  have hsound := loadsAfter_alone workspace before hnodup first
  have hpaths : List.Forall₂ (fun path outcome => ∀ item, outcome = .ok item → item.path = path)
      ((loadsAfter workspace candidates before first).tasks.map (·.1))
      (loadsAfter workspace candidates before first).results := by
    refine Batch.results_forall₂ hdone fun task htask result hresult item hitem => ?_
    have halike := hsound.tasks task htask
    rw [hresult] at halike
    exact (halike.cached item hitem).1
  rw [loadsAfter_inputs] at hpaths
  refine List.Nodup.sublist ?_ hnodup
  generalize (loadsAfter workspace candidates before first).results = results at hpaths ⊢
  clear hnodup hdone hsound
  induction hpaths with
  | nil => exact List.Sublist.refl _
  | @cons path outcome candidates results hfirst _ ih =>
      cases outcome with
      | error mishap => exact ih.cons path
      | ok item =>
          rw [successesOf_ok, select_cons]
          split_ifs
          · exact ih.cons path
          · rw [List.map_cons, ← hfirst item rfl]
            exact ih.cons_cons _

/-! ### Resolving -/

lemma resolvesAfter_alone (settings : Settings) (name : String) (hnodup : candidates.Nodup)
    (hfirst : loads = loadsAfter workspace candidates before first) (hdone : loads.Finished)
    (second : List Nat) :
    (resolvesAfter lexer workspace settings name loads second).Sound (fun _ => True)
      (ResolvesAlone workspace loads.state) := by
  subst hfirst
  refine Batch.execute_keepsApart (resolving_alone workspace _) second ?_
    (Batch.ofInputs_sound trivial fun selected hselected => ?_)
  · rw [Batch.ofInputs_inputs]
    exact Batch.apart_of_nodup (select_nodup hnodup hdone)
  · obtain ⟨-, halike⟩ := of_mem_loadsAfter hnodup (mem_select hselected).1
    obtain ⟨-, entry, hentry, hversion⟩ := halike.cached _ rfl
    exact ⟨entry, hentry, hversion, rfl⟩

lemma resolvesAfter_frame (loads : Batch (Atlas Stack) String Atlas.LoadStage (Except Mishap Loaded))
    (second : List Nat) :
    Tended (fun _ _ => True) (settle settings (failuresOf loads.results) loads.state)
      ((select settings name (successesOf loads.results)).map (·.item.path))
      (resolvesAfter lexer workspace settings name loads second).state := by
  set paths := (select settings name (successesOf loads.results)).map (·.item.path)
  have hlisted : ∀ selected ∈ select settings name (successesOf loads.results),
      selected.item.path ∈ paths :=
    fun selected hselected => List.mem_map.mpr ⟨selected, hselected, rfl⟩
  have hstart : Tended (fun _ _ => True) (settle settings (failuresOf loads.results) loads.state)
      paths (settle settings (failuresOf loads.results) loads.state) :=
    ⟨rfl, fun _ _ => rfl, fun _ _ _ _ => trivial⟩
  have hkeeps := resolving_frame workspace
    (settle settings (failuresOf loads.results) loads.state) paths
  exact (Batch.execute_keeps hkeeps second (Batch.ofInputs_sound hstart hlisted)).state

lemma select_unnumbered (outcomes : List (Except Mishap Loaded)) :
    select settings name (successesOf (outcomes.map (Except.map Loaded.unnumbered)))
      = (select settings name (successesOf outcomes)).map fun selected =>
          { selected with item := selected.item.unnumbered } := by
  induction outcomes with
  | nil => rfl
  | cons outcome outcomes ih =>
      cases outcome with
      | error mishap => exact ih
      | ok item =>
          rw [List.map_cons, Except.map, successesOf_ok, successesOf_ok, select_cons, select_cons, ih]
          have hnames : (selectedIn settings name item.unnumbered).names
              = (selectedIn settings name item).names := rfl
          rw [hnames]
          split_ifs <;> rfl

lemma results_resolvesAfter (hnodup : candidates.Nodup)
    (hfirst : loads = loadsAfter workspace candidates before first) (hdone : loads.Finished)
    (hresolved : (resolvesAfter lexer workspace settings name loads second).Finished) :
    (resolvesAfter lexer workspace settings name loads second).results
      = answersAlone workspace before settings name candidates := by
  have hsound := resolvesAfter_alone settings name hnodup hfirst hdone second
  have hresults := hsound.map_results hresolved (f := answerAlone workspace) (g := id)
    fun selected outcome halone => by
      obtain ⟨entry, -, -, hlast⟩ := halone
      exact hlast.outcome.symm
  subst hfirst
  rw [List.map_id, resolvesAfter_inputs] at hresults
  rw [hresults, answersAlone, ← results_loadsAfter hnodup hdone, select_unnumbered, List.map_map]
  rfl

/-! ### What is left in the cache -/

lemma entryLeft_of_selected {path : String} {item : Loaded} {atlas : Atlas Stack} {entry : Cached}
    (halike : Alike path (.ok item, atlas) (loadAlone workspace before path))
    (hentry : atlas.cache.get? path = some entry) (hnames : (selectedIn settings name item).names ≠ []) :
    entryLeft workspace before settings name path
      = some (entryAlone workspace (selectedIn settings name item) entry) := by
  have hleft : ((loadAlone workspace before path).2.cache.get? path).map Cached.unnumbered
      = some entry.unnumbered := by
    rw [← halike.entry, hentry, Option.map_some]
  have hsome : (selectedIn settings name item.unnumbered).names ≠ [] := hnames
  rw [entryLeft, ← halike.outcome]
  simp only [Except.map]
  rw [if_neg hsome, hleft]
  rfl

lemma entryLeft_of_unselected {path : String} {outcome : Except Mishap Loaded} {atlas : Atlas Stack}
    (halike : Alike path (outcome, atlas) (loadAlone workspace before path))
    (hnames : ∀ item, outcome = .ok item → (selectedIn settings name item).names = []) :
    entryLeft workspace before settings name path
      = (atlas.cache.get? path).map Cached.unnumbered := by
  rw [entryLeft, ← halike.outcome, halike.entry]
  cases outcome with
  | error mishap => rfl
  | ok item =>
      have hnone : (selectedIn settings name item.unnumbered).names = [] := hnames item rfl
      simp only [Except.map]
      rw [if_pos hnone]

lemma entry_resolvesAfter (hnodup : candidates.Nodup)
    (hfirst : loads = loadsAfter workspace candidates before first) (hdone : loads.Finished)
    (hresolved : (resolvesAfter lexer workspace settings name loads second).Finished) {path : String}
    (hpath : path ∈ candidates) :
    ((resolvesAfter lexer workspace settings name loads second).state.cache.get? path).map
        Cached.unnumbered = entryLeft workspace before settings name path := by
  have hresolves := resolvesAfter_alone settings name hnodup hfirst hdone second
  by_cases hselected : ∃ selected ∈ select settings name (successesOf loads.results),
      selected.item.path = path
  · obtain ⟨selected, hmem, rfl⟩ := hselected
    obtain ⟨hitem, heq⟩ := mem_select hmem
    obtain ⟨outcome, -, entry, hentry, -, hlast⟩ :=
      hresolves.exists_result hresolved (by rwa [resolvesAfter_inputs])
    have hnames : selected.names ≠ [] := by simpa using (List.mem_filter.mp hmem).2
    subst hfirst
    obtain ⟨-, halike⟩ := of_mem_loadsAfter hnodup hitem
    rw [heq] at hnames
    rw [entryLeft_of_selected halike hentry hnames, ← heq]
    exact hlast.entry
  · have hsound := loadsAfter_alone workspace before hnodup first
    rw [← hfirst] at hsound
    obtain ⟨outcome, hmem, halike⟩ := hsound.exists_result hdone (by rwa [hfirst, loadsAfter_inputs])
    have huntouched : Untouched loads.state path
        (resolvesAfter lexer workspace settings name loads second).state := by
      refine (resolvesAfter_frame loads second).others path fun hlisted => hselected ?_
      obtain ⟨selected, hmem, rfl⟩ := List.mem_map.mp hlisted
      exact ⟨selected, hmem, rfl⟩
    rw [huntouched, entryLeft_of_unselected halike]
    rintro item rfl
    by_contra hnames
    refine hselected ⟨selectedIn settings name item, ?_, (halike.cached item rfl).1⟩
    rw [select, List.mem_filter]
    exact ⟨List.mem_map.mpr ⟨item, mem_successesOf.mpr hmem, rfl⟩, by simpa using hnames⟩

/-! ### The report -/

def reportAlone (workspace : Workspace) (before : Atlas Stack) (settings : Settings) (name : String)
    (candidates : List String) : Report :=
  report name (loadsAlone workspace before candidates)
    (answersAlone workspace before settings name candidates)

lemma failuresOf_unnumbered (outcomes : List (Except Mishap Loaded)) :
    failuresOf (outcomes.map (Except.map Loaded.unnumbered)) = failuresOf outcomes := by
  induction outcomes with
  | nil => rfl
  | cons outcome outcomes ih =>
      cases outcome with
      | error mishap =>
          rw [List.map_cons, Except.map, failuresOf_error, failuresOf_error mishap outcomes, ih]
      | ok item => exact ih

lemma successesOf_unnumbered (outcomes : List (Except Mishap Loaded)) :
    successesOf (outcomes.map (Except.map Loaded.unnumbered))
      = (successesOf outcomes).map Loaded.unnumbered := by
  induction outcomes with
  | nil => rfl
  | cons outcome outcomes ih =>
      cases outcome with
      | error mishap => exact ih
      | ok item => rw [List.map_cons, Except.map, successesOf_ok, successesOf_ok, List.map_cons, ih]

lemma report_unnumbered (loads : List (Except Mishap Loaded))
    (resolves : List (Except Mishap (List Location))) :
    report name (loads.map (Except.map Loaded.unnumbered)) resolves = report name loads resolves := by
  simp only [report, failuresOf_unnumbered, successesOf_unnumbered, List.length_map, List.countP_map]
  rfl

/-- A fault that ends the query of some files, if each of them is alone. -/
def Faulty (workspace : Workspace) (before : Atlas Stack) (settings : Settings) (name : String)
    (candidates : List String) (fault : QueryFault) : Prop :=
  .error (.fatal fault) ∈ loadsAlone workspace before candidates ∨
    .error (.fatal fault) ∈ answersAlone workspace before settings name candidates

lemma mem_loadsAlone (hnodup : candidates.Nodup) {fault : QueryFault}
    (hfault : .error (.fatal fault) ∈ (loadsAfter workspace candidates before first).results) :
    .error (.fatal fault) ∈ loadsAlone workspace before candidates := by
  have hsound := loadsAfter_alone workspace before hnodup first
  obtain ⟨path, hpath, halike⟩ := hsound.of_mem_results hfault
  rw [loadsAfter_inputs] at hpath
  exact List.mem_map.mpr ⟨path, hpath, halike.outcome.symm⟩

lemma mem_answersAlone (hnodup : candidates.Nodup)
    (hfirst : loads = loadsAfter workspace candidates before first) (hdone : loads.Finished)
    {fault : QueryFault} (hfault : .error (.fatal fault)
      ∈ (resolvesAfter lexer workspace settings name loads second).results) :
    .error (.fatal fault) ∈ answersAlone workspace before settings name candidates := by
  have hsound := resolvesAfter_alone settings name hnodup hfirst hdone second
  obtain ⟨selected, hselected, entry, -, -, hlast⟩ := hsound.of_mem_results hfault
  rw [resolvesAfter_inputs] at hselected
  subst hfirst
  rw [answersAlone, ← results_loadsAfter hnodup hdone, select_unnumbered, List.map_map]
  exact List.mem_map.mpr ⟨selected, hselected, hlast.outcome.symm⟩

lemma Scheduled.faulty (hnodup : candidates.Nodup) {fault : QueryFault} {after : Atlas Stack}
    (h : Scheduled lexer workspace settings name candidates before (.error fault, after)) :
    Faulty workspace before settings name candidates fault := by
  obtain ⟨late, h⟩ := h
  cases h with
  | calledOff hfault => exact Or.inl (mem_loadsAlone hnodup hfault)
  | abandoned hfirst hdone _ hfault => exact Or.inr (mem_answersAlone hnodup hfirst hdone hfault)

/-- **What comes of a query does not depend on the order of the turns.** -/
theorem Scheduled.answer (hnodup : candidates.Nodup) {answer : Report} {after : Atlas Stack}
    (h : Scheduled lexer workspace settings name candidates before (.ok answer, after)) :
    (∀ fault, ¬ Faulty workspace before settings name candidates fault) ∧
      answer = reportAlone workspace before settings name candidates ∧
      after.flags = Flags.none.markAll (if settings.reflag then
        (failuresOf (loadsAlone workspace before candidates)).map (·.path) else []) ∧
      ∀ path ∈ candidates, (after.cache.get? path).map Cached.unnumbered
        = entryLeft workspace before settings name path := by
  obtain ⟨late, h⟩ := h
  cases h with
  | @answered first second loads hfirst hdone hcalm hresolved hquiet =>
      have hanswers := results_resolvesAfter hnodup hfirst hdone hresolved
      have hloads : loads.results.map (Except.map Loaded.unnumbered)
          = loadsAlone workspace before candidates := by
        subst hfirst
        exact results_loadsAfter hnodup hdone
      refine ⟨?_, ?_, ?_, fun path => entry_resolvesAfter hnodup hfirst hdone hresolved⟩
      · rintro fault (hfault | hfault)
        · rw [← hloads] at hfault
          obtain ⟨outcome, hmem, houtcome⟩ := List.mem_map.mp hfault
          cases outcome with
          | error mishap => exact hcalm fault (Except.error.inj houtcome ▸ hmem)
          | ok item => simp [Except.map] at houtcome
        · exact hquiet fault (hanswers ▸ hfault)
      · rw [hanswers, reportAlone, ← hloads, report_unnumbered]
      · rw [(resolvesAfter_frame loads second).flags, settle, ← hloads, failuresOf_unnumbered]

end Whole

end Search

end TemplateAtlas
