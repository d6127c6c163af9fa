import Mathlib.Tactic.Common
import TemplateAtlas.Proofs.Combination
import TemplateAtlas.Proofs.CompletedIndexes
import TemplateAtlas.Proofs.RepeatedLoads

/-!
# Queries about a file that is listed more than once

Several resolves of one file work on indexes that are the same but for their numbers, and look for ranges in the
same text.  They find the same ranges, and whichever of them puts its index back puts the same index back.

**One file.**  What a query answers about an index, and what becomes of the entry that holds it, follow from the
index and the text alone (`answerOf`, `remembered`).

**All resolves.**  A turn leaves the entry of its path alone or puts the completed index there, and it does the
latter if it works on the very index that is cached: `Settles`, `resolving_settles`.  One of the resolves of a
file does, since the cached index was handed out.

**The whole query.**  What comes of a query about any candidates is what comes of queries that are alone, file by
file: `Scheduled.repeated`.  Only whether an index was found or built depends on the other loads of its file.
-/

namespace TemplateAtlas

open Soy

namespace Search

section Resolves

variable (workspace : Workspace) (settings : Settings) (name path : String)

/-- What a query answers about an index of a file. -/
def answerOf (index : FileIndex) : Except Mishap (List Location) :=
  let names := index.matching name settings.wildcard
  (completed workspace path names index).map fun found => (found.spansOf names).map (locate path)

/-- The entry of a file after a query, but for its number. -/
def remembered (entry : Cached) : Cached :=
  match completed workspace path (entry.version.index.matching name settings.wildcard)
    entry.version.index with
  | .ok index => ⟨⟨0, index⟩, entry.stamp⟩
  | .error _ => entry.unnumbered

/-- What is cached now is what the query leaves of an entry. -/
def Left (entry : Cached) (now? : Option Cached) : Prop :=
  now?.map Cached.unnumbered = some (remembered workspace settings name path entry)

/-- What is cached now is the entry, or what the query leaves of it. -/
def Stands (entry : Cached) (now? : Option Cached) : Prop :=
  now? = some entry ∨ Left workspace settings name path entry now?

end Resolves

variable {workspace : Workspace} {settings : Settings} {name : String} {middle atlas : Atlas Stack}
  {selected : Selected} {entry : Cached}

section Completed

variable {path : String}

lemma answerOf_of_error {index : FileIndex} {mishap : Mishap}
    (h : completed workspace path (index.matching name settings.wildcard) index = .error mishap) :
    answerOf workspace settings name path index = .error mishap := by
  simp only [answerOf, h]
  rfl

lemma answerOf_of_ok {index found : FileIndex}
    (h : completed workspace path (index.matching name settings.wildcard) index = .ok found) :
    answerOf workspace settings name path index
      = .ok ((found.spansOf (index.matching name settings.wildcard)).map (locate path)) := by
  simp only [answerOf, h]
  rfl

lemma remembered_of_error {mishap : Mishap}
    (h : completed workspace path (entry.version.index.matching name settings.wildcard)
      entry.version.index = .error mishap) :
    remembered workspace settings name path entry = entry.unnumbered := by
  rw [remembered, h]

lemma remembered_of_ok {found : FileIndex}
    (h : completed workspace path (entry.version.index.matching name settings.wildcard)
      entry.version.index = .ok found) :
    remembered workspace settings name path entry = ⟨⟨0, found⟩, entry.stamp⟩ := by
  rw [remembered, h]

/-- Where no range is missing, nothing is put back. -/
lemma remembered_of_isResolved
    (h : entry.version.index.isResolved (entry.version.index.matching name settings.wildcard) = true) :
    remembered workspace settings name path entry = entry.unnumbered :=
  remembered_of_ok (completed_of_isResolved h)

end Completed

/-! ## One resolve -/

/-- A selected index is the cached one but for its number, and its text is that of the file. -/
structure Drawn (workspace : Workspace) (settings : Settings) (name : String) (middle : Atlas Stack)
    (selected : Selected) (entry : Cached) : Prop where
  index : selected.item.version.index = entry.version.index
  names : selected.names = entry.version.index.matching name settings.wildcard
  read : ∀ text, selected.item.text? = some text → workspace.text selected.item.path = .ok text
  cached : middle.cache.get? selected.item.path = some entry

lemma Drawn.answer (h : Drawn workspace settings name middle selected entry) :
    answerAlone workspace selected
      = answerOf workspace settings name selected.item.path entry.version.index := by
  rw [answerAlone, rangesAlone_eq h.read, answerOf, h.index, h.names]
  cases completed workspace selected.item.path _ entry.version.index <;> rfl

/-- If there is nothing to put back, an entry that stands is as the query leaves it. -/
lemma Stands.left {path : String} {now? : Option Cached}
    (h : Stands workspace settings name path entry now?)
    (hsame : remembered workspace settings name path entry = entry.unnumbered) :
    Left workspace settings name path entry now? := by
  rcases h with rfl | hdone
  · rw [Left, hsame]
    rfl
  · exact hdone

/-- A swap leaves an entry that stands as it is, or puts the completed index there. -/
lemma Stands.swap {path : String} {found : FileIndex} {cache : Cache}
    (h : Stands workspace settings name path entry (cache.get? path))
    (hfound : completed workspace path (entry.version.index.matching name settings.wildcard)
      entry.version.index = .ok found) (expected serial : Nat) :
    let now? := (cache.swap path expected ⟨serial, found⟩).2.get? path
    (now? = cache.get? path ∨ Left workspace settings name path entry now?) ∧
      (expected = entry.version.serial → Left workspace settings name path entry now?) := by
  have hleft : remembered workspace settings name path entry = ⟨⟨0, found⟩, entry.stamp⟩ :=
    remembered_of_ok hfound
  simp only [Left, hleft]
  rcases h with hentry | hdone
  · by_cases hserial : expected = entry.version.serial
    · rw [hserial, get?_swap_self cache hentry]
      exact ⟨Or.inr rfl, fun _ => rfl⟩
    · refine ⟨Or.inl ?_, fun heq => absurd heq hserial⟩
      rw [Cache.swap, hentry]
      simp only
      rw [if_neg (Ne.symm hserial), hentry]
  · rw [Left, hleft] at hdone
    obtain ⟨now, hnow, hsame⟩ := Option.map_eq_some_iff.mp hdone
    have hstamp : now.unnumbered.stamp = entry.stamp := by rw [hsame]
    rcases cache.swap_cases path expected ⟨serial, found⟩ with hrefused | ⟨old, hold, -, -, hget⟩
    · rw [hrefused]
      exact ⟨Or.inl rfl, fun _ => hdone⟩
    · rw [hnow, Option.some.injEq] at hold
      rw [hget, if_pos rfl, ← hold, Option.map_some, Cached.unnumbered, ← hstamp]
      exact ⟨Or.inr rfl, fun _ => rfl⟩

/-- What a turn that ends a resolve has done. -/
structure Settles (workspace : Workspace) (settings : Settings) (name : String) (selected : Selected)
    (entry : Cached) (atlas : Atlas Stack) (result : Except Mishap (List Location) × Atlas Stack) :
    Prop where
  outcome : result.1 = answerOf workspace settings name selected.item.path entry.version.index
  moves : result.2.cache.get? selected.item.path = atlas.cache.get? selected.item.path ∨
    Left workspace settings name selected.item.path entry
      (result.2.cache.get? selected.item.path)
  left : selected.item.version = entry.version →
    Left workspace settings name selected.item.path entry
      (result.2.cache.get? selected.item.path)

/-- A resolve that fails leaves the cache alone. -/
lemma Settles.of_error (hstands : Stands workspace settings name selected.item.path entry
      (atlas.cache.get? selected.item.path)) {mishap : Mishap}
    (hrefused : completed workspace selected.item.path
      (entry.version.index.matching name settings.wildcard) entry.version.index = .error mishap)
    {after : Atlas Stack}
    (hcache : after.cache.get? selected.item.path = atlas.cache.get? selected.item.path) :
    Settles workspace settings name selected entry atlas (.error mishap, after) := by
  refine ⟨(answerOf_of_error hrefused).symm, Or.inl hcache, fun _ => ?_⟩
  simp only [hcache]
  exact hstands.left (remembered_of_error hrefused)

lemma Settles.of_finds (hdrawn : Drawn workspace settings name middle selected entry)
    (hstands : Stands workspace settings name selected.item.path entry
      (atlas.cache.get? selected.item.path)) {text? : Option (List Char)}
    (htext : textFor workspace selected = .ok text?) {result : Except Mishap (List Location) × Atlas Stack}
    (h : Finds lexer selected text? atlas.memory atlas.flags atlas.cache result) :
    Settles workspace settings name selected entry atlas result := by
  have hranges : (selected.item.version.index.resolve lexer selected.names text? atlas.memory).1.mapError
        (fun fault => .fatal (.resolve fault))
      = (completed workspace selected.item.path
          (entry.version.index.matching name settings.wildcard) entry.version.index).map
            fun index => (index, index.spansOf selected.names) := by
    rw [← hdrawn.names, ← hdrawn.index, ← rangesAlone_eq hdrawn.read, rangesAlone, htext,
      FileIndex.resolve_memory]
  cases hfound : completed workspace selected.item.path
      (entry.version.index.matching name settings.wildcard) entry.version.index with
  | error mishap =>
      rw [hfound] at hranges
      cases h with
      | fails hresolve hafter =>
          rw [hresolve] at hranges
          obtain rfl := Except.error.inj hranges
          exact .of_error hstands hfound (by rw [hafter.cache])
      | known _ hresolve _ => simp [hresolve, Except.mapError, Except.map] at hranges
      | completes _ hresolve _ => simp [hresolve, Except.mapError, Except.map] at hranges
  | ok index =>
      rw [hfound] at hranges
      have hanswer : (.ok ((index.spansOf selected.names).map (locate selected.item.path)) :
          Except Mishap (List Location))
            = answerOf workspace settings name selected.item.path entry.version.index := by
        rw [answerOf_of_ok hfound, hdrawn.names]
      cases h with
      | fails hresolve _ => simp [hresolve, Except.mapError, Except.map] at hranges
      | known hresolved hresolve hafter =>
          rw [hresolve] at hranges
          obtain ⟨rfl, rfl⟩ := Prod.mk.inj (Except.ok.inj hranges)
          rw [hdrawn.index, hdrawn.names] at hresolved
          refine ⟨hanswer, Or.inl (by rw [hafter.cache]), fun _ => ?_⟩
          simp only [hafter.cache]
          exact hstands.left (remembered_of_isResolved hresolved)
      | @completes found _ _ _ hresolve hafter =>
          rw [hresolve] at hranges
          obtain ⟨rfl, rfl⟩ := Prod.mk.inj (Except.ok.inj hranges)
          have hissued : Stands workspace settings name selected.item.path entry
              ((atlas.cache.issue found).2.get? selected.item.path) := hstands
          obtain ⟨hmoves, hleft⟩ :=
            hissued.swap hfound selected.item.version.serial atlas.cache.issued
          rw [← hafter.cache] at hmoves hleft
          exact ⟨hanswer, hmoves, fun hversion => hleft (by rw [hversion])⟩

lemma Settles.of_gets (hdrawn : Drawn workspace settings name middle selected entry)
    (hstands : Stands workspace settings name selected.item.path entry
      (atlas.cache.get? selected.item.path)) (hlacks : Lacks selected)
    {result : Except Mishap (List Location) × Atlas Stack}
    (h : Gets lexer workspace selected atlas.memory atlas.flags atlas.cache result) :
    Settles workspace settings name selected entry atlas result := by
  cases h with
  | finds htext h => exact .of_finds hdrawn hstands (textFor_of_lacks hlacks htext) h
  | @refused cause _ htext hafter =>
      have hopen := hlacks.2
      rw [hdrawn.index, hdrawn.names] at hopen
      have hrefused : completed workspace selected.item.path
          (entry.version.index.matching name settings.wildcard) entry.version.index
            = .error (LoadFault.mk selected.item.path .read cause).mishap := by
        rw [completed, if_neg (by simp [hopen]), htext]
      exact .of_error hstands hrefused (by rw [hafter.cache])

/-! ## All resolves -/

/-- What is known of a resolve among others. -/
def ResolvesAmong (workspace : Workspace) (settings : Settings) (name : String) (middle atlas : Atlas Stack)
    (selected : Selected) (last? : Option (Step Unit (Except Mishap (List Location)))) : Prop :=
  ∃ entry, Drawn workspace settings name middle selected entry ∧
    Stands workspace settings name selected.item.path entry (atlas.cache.get? selected.item.path) ∧
      match last? with
      | none => True
      | some (.wait _ _) => selected.item.text? = none ∧
        selected.item.version.index.isResolved selected.names = false
      | some (.done outcome) =>
        outcome = answerOf workspace settings name selected.item.path entry.version.index ∧
          (selected.item.version = entry.version →
            Left workspace settings name selected.item.path entry
              (atlas.cache.get? selected.item.path))

/-- A turn of a resolve leaves the entry of its path as it is, or as the query leaves it. -/
lemma resolving_turned (hdrawn : Drawn workspace settings name middle selected entry)
    {last? : Option (Step Unit (Except Mishap (List Location)))}
    (hlast : ResolvesAmong workspace settings name middle atlas selected last?) :
    ResolvesAmong workspace settings name middle ((resolving lexer workspace).step selected last? atlas).2
        selected (some ((resolving lexer workspace).step selected last? atlas).1) ∧
      (((resolving lexer workspace).step selected last? atlas).2.cache.get? selected.item.path
          = atlas.cache.get? selected.item.path ∨
        Left workspace settings name selected.item.path entry
          (((resolving lexer workspace).step selected last? atlas).2.cache.get?
            selected.item.path)) := by
  obtain ⟨now, hnow, hstands, hknown⟩ := hlast
  obtain rfl : now = entry := by
    have hsame := hnow.cached.symm.trans hdrawn.cached
    exact Option.some.inj hsame
  have hsettled : ∀ result, Settles workspace settings name selected now atlas result →
      ResolvesAmong workspace settings name middle result.2 selected (some (.done result.1)) ∧
        (result.2.cache.get? selected.item.path = atlas.cache.get? selected.item.path ∨
          Left workspace settings name selected.item.path now
            (result.2.cache.get? selected.item.path)) := by
    intro result hsettles
    refine ⟨⟨now, hdrawn, ?_, hsettles.outcome, hsettles.left⟩, hsettles.moves⟩
    rcases hsettles.moves with hsame | hleft
    · exact hsame ▸ hstands
    · exact Or.inr hleft
  have hturn := resolving_turns lexer workspace selected atlas last?
  generalize (resolving lexer workspace).step selected last? atlas = result at hturn ⊢
  cases hturn with
  | finds hlacks h => exact hsettled _ (.of_finds hdrawn hstands (textFor_of_not_lacks hlacks) h)
  | asks hlacks _ hafter =>
      refine ⟨⟨now, hdrawn, ?_, hlacks⟩, Or.inl (by rw [hafter.cache])⟩
      rwa [hafter.cache]
  | gets hasked h =>
      refine hsettled _ (.of_gets hdrawn hstands (hasked.lacks ?_) h)
      rintro rounds held rfl
      exact hknown
  | rests => exact ⟨⟨now, hdrawn, hstands, hknown⟩, Or.inl rfl⟩

/-- **Resolves of one file agree**: whichever of them put their indexes back, the entry is left as one of them
alone leaves it. -/
theorem resolving_settles (workspace : Workspace) (settings : Settings) (name : String)
    (middle : Atlas Stack) :
    (resolving lexer workspace).Keeps (fun _ => True)
      (ResolvesAmong workspace settings name middle) where
  step selected last? atlas _ hlast := by
    have ⟨entry, hdrawn, _⟩ := hlast
    exact ⟨trivial, (resolving_turned hdrawn hlast).1⟩
  stable selected last? atlas other otherLast? _ hlast hother := by
    obtain ⟨entry, hdrawn, hstands, hknown⟩ := hother
    have hmoves : ((resolving lexer workspace).step selected last? atlas).2.cache.get? other.item.path
          = atlas.cache.get? other.item.path ∨
        Left workspace settings name other.item.path entry
          (((resolving lexer workspace).step selected last? atlas).2.cache.get? other.item.path) := by
      by_cases hpath : other.item.path = selected.item.path
      · have ⟨now, hnow, _⟩ := hlast
        obtain rfl : now = entry := by
          have hsame := hnow.cached.symm.trans (hpath ▸ hdrawn.cached)
          exact Option.some.inj hsame
        rw [hpath]
        exact (resolving_turned hnow hlast).2
      · exact Or.inl ((resolving_touches lexer workspace selected last? atlas).others _ hpath)
    refine ⟨entry, hdrawn, ?_, ?_⟩
    · rcases hmoves with hsame | hleft
      · exact hsame ▸ hstands
      · exact Or.inr hleft
    · match otherLast?, hknown with
      | none, _ => trivial
      | some (.wait _ _), hknown => exact hknown
      | some (.done _), ⟨houtcome, hleft⟩ =>
          refine ⟨houtcome, fun hversion => ?_⟩
          rcases hmoves with hsame | hmoved
          · exact hsame ▸ hleft hversion
          · exact hmoved

/-! ## The whole query -/

section Whole

variable {before : Atlas Stack} {candidates : List String} {first second : List Nat}
  {loads : Batch (Atlas Stack) String Atlas.LoadStage (Except Mishap Loaded)}

lemma drawn_select (hfirst : loads = loadsAfter workspace candidates before first)
    (hcalm : Calm loads) {selected : Selected}
    (hselected : selected ∈ select settings name (successesOf loads.results)) :
    ∃ entry, Drawn workspace settings name loads.state selected entry := by
  obtain ⟨hitem, heq⟩ := mem_select hselected
  have htask := task_of_success hfirst hitem
  obtain ⟨entry, hentry, hindex⟩ := cached_loadsAfter hfirst hcalm htask
  refine ⟨entry, hindex, ?_, (read_loadsAfter hfirst htask).2, hentry⟩
  rw [heq, ← hindex]
  rfl

lemma resolvesAfter_settles (hfirst : loads = loadsAfter workspace candidates before first)
    (hcalm : Calm loads) (settings : Settings) (name : String) (second : List Nat) :
    (resolvesAfter lexer workspace settings name loads second).Sound (fun _ => True)
      (ResolvesAmong workspace settings name loads.state) := by
  refine Batch.execute_keeps (resolving_settles workspace settings name loads.state) second
    (Batch.ofInputs_sound trivial fun selected hselected => ?_)
  obtain ⟨entry, hdrawn⟩ := drawn_select hfirst hcalm hselected
  exact ⟨entry, hdrawn, Or.inl hdrawn.cached, trivial⟩

/-- Loads that agree lead to the same answers. -/
lemma answers_agree {outcomes others : List (Except Mishap Loaded)}
    (h : List.Forall₂ (Agrees workspace) outcomes others) :
    (select settings name (successesOf outcomes)).map
        (fun selected => answerOf workspace settings name selected.item.path selected.item.version.index)
      = (select settings name (successesOf others)).map (answerAlone workspace) := by
  induction h with
  | nil => rfl
  | cons hfirst _ ih =>
      cases hfirst with
      | failed mishap => exact ih
      | @loaded item other hsame =>
          have hnames : (selectedIn settings name item).names = (selectedIn settings name other).names := by
            simp only [selectedIn, hsame.index]
          rw [successesOf_ok, successesOf_ok, select_cons, select_cons, hnames]
          split_ifs
          · exact ih
          · have hranges : rangesAlone workspace (selectedIn settings name other) = _ :=
              rangesAlone_eq hsame.readOther
            rw [List.map_cons, List.map_cons, ih, answerAlone, hranges, answerOf]
            simp only [selectedIn, hsame.path, hsame.index]
            cases completed workspace other.path _ other.version.index <;> rfl

lemma counts_agree {outcomes others : List (Except Mishap Loaded)}
    (h : List.Forall₂ (Agrees workspace) outcomes others) :
    failuresOf outcomes = failuresOf others ∧
      (successesOf outcomes).length = (successesOf others).length := by
  induction h with
  | nil => exact ⟨rfl, rfl⟩
  | @cons outcome other outcomes others hfirst _ ih =>
      cases hfirst with
      | failed mishap =>
          rw [failuresOf_error, failuresOf_error mishap others, successesOf_error, successesOf_error,
            ih.1]
          exact ⟨rfl, ih.2⟩
      | loaded hsame =>
          rw [failuresOf_ok, failuresOf_ok, successesOf_ok, successesOf_ok, List.length_cons,
            List.length_cons, ih.2]
          exact ⟨ih.1, rfl⟩

lemma error_agree {outcomes others : List (Except Mishap Loaded)}
    (h : List.Forall₂ (Agrees workspace) outcomes others) (mishap : Mishap) :
    .error mishap ∈ outcomes ↔ .error mishap ∈ others := by
  induction h with
  | nil => rfl
  | cons hfirst _ ih =>
      rw [List.mem_cons, List.mem_cons, ih]
      cases hfirst with
      | failed other => rfl
      | loaded _ => simp

/-- The results of the loads, compared with those of loads that are alone. -/
lemma loads_agree (hfirst : loads = loadsAfter workspace candidates before first)
    (hdone : loads.Finished) (hcalm : Calm loads) :
    List.Forall₂ (Agrees workspace) loads.results (loadsAlone workspace before candidates) := by
  have hagree := results_agree hfirst hdone hcalm
  rw [List.forall₂_map_right_iff] at hagree
  rw [loadsAlone, List.forall₂_map_right_iff]
  refine hagree.imp fun outcome path hpath => ?_
  cases hload : (loadAlone workspace before path).1 with
  | error mishap =>
      rw [hload] at hpath
      cases hpath
      exact .failed mishap
  | ok other =>
      rw [hload] at hpath
      cases hpath with
      | loaded hsame => exact .loaded ⟨hsame.path, hsame.index, hsame.read, hsame.readOther⟩

lemma results_resolvesAfter_repeated (hfirst : loads = loadsAfter workspace candidates before first)
    (hdone : loads.Finished) (hcalm : Calm loads)
    (hresolved : (resolvesAfter lexer workspace settings name loads second).Finished) :
    (resolvesAfter lexer workspace settings name loads second).results
      = answersAlone workspace before settings name candidates := by
  have hsound := resolvesAfter_settles hfirst hcalm settings name second
  have hresults := hsound.map_results hresolved
    (f := fun selected => answerOf workspace settings name selected.item.path
      selected.item.version.index) (g := id)
    fun selected outcome hknown => by
      obtain ⟨entry, hdrawn, -, houtcome, -⟩ := hknown
      rw [houtcome, hdrawn.index]
      rfl
  rw [List.map_id, resolvesAfter_inputs] at hresults
  rw [hresults, answersAlone, answers_agree (loads_agree hfirst hdone hcalm)]

/-! ### What is left in the cache -/

/-- The entry that a query leaves of a file that can be loaded. -/
lemma entryLeft_eq (workspace : Workspace) (before : Atlas Stack) (settings : Settings) (name path : String) :
    entryLeft workspace before settings name path
      = match (loadAlone workspace before path).1 with
        | .error _ => (before.cache.get? path).map Cached.unnumbered
        | .ok _ => ((loadAlone workspace before path).2.cache.get? path).map
            (remembered workspace settings name path) := by
  have hcomes := loadAlone_comesTo workspace before path
  rw [entryLeft]
  generalize loadAlone workspace before path = alone at hcomes ⊢
  have hloaded : ∀ (item : Loaded) (entry : Cached), item.path = path →
      item.version.index = entry.version.index →
      (∀ text, item.text? = some text → workspace.text path = .ok text) →
      (if (selectedIn settings name item.unnumbered).names = [] then some entry.unnumbered
        else (some entry.unnumbered).map
          (entryAlone workspace (selectedIn settings name item.unnumbered)))
        = some (remembered workspace settings name path entry) := by
    rintro item entry rfl hindex hread
    have hnames : (selectedIn settings name item.unnumbered).names
        = entry.version.index.matching name settings.wildcard := by rw [← hindex]; rfl
    split_ifs with hnone
    · rw [hnames] at hnone
      rw [remembered_of_isResolved (hnone ▸ rfl)]
    · have hranges : rangesAlone workspace (selectedIn settings name item.unnumbered) = _ :=
        rangesAlone_eq hread
      have hsame : (selectedIn settings name item.unnumbered).item.version.index
          = entry.version.index := hindex
      rw [Option.map_some, entryAlone, hranges, hnames, hsame, remembered]
      simp only [selectedIn, Loaded.unnumbered]
      cases completed workspace item.path _ entry.version.index <;> rfl
  cases hcomes with
  | refused hcache => simp only [Except.map, hcache]
  | @reused entry after hentry husable hcache =>
      simp only [Except.map, hcache, hentry, Option.map_some]
      exact hloaded _ entry rfl rfl (by rintro _ ⟨⟩)
  | @built text time after hnone htext htime hcache =>
      simp only [Except.map, hcache, Cache.get?_store, if_true, Option.map_some]
      refine hloaded ⟨path, ⟨before.cache.issued, .ofText path text⟩, some text⟩ _ rfl rfl ?_
      rintro _ ⟨⟩
      exact htext

/-- The entry of a selected file is as the query leaves it: the resolve of the index that is cached has seen to
that. -/
lemma left_of_selected (hfirst : loads = loadsAfter workspace candidates before first)
    (hcalm : Calm loads)
    (hresolved : (resolvesAfter lexer workspace settings name loads second).Finished) {path : String}
    {item : Loaded} (htask : (path, some (.done (.ok item))) ∈ loads.tasks)
    (hentry : loads.state.cache.get? path = some entry)
    (hnames : entry.version.index.matching name settings.wildcard ≠ []) :
    Left workspace settings name path entry
      ((resolvesAfter lexer workspace settings name loads second).state.cache.get? path) := by
  have hsound := resolvesAfter_settles hfirst hcalm settings name second
  obtain ⟨owner, now, howner, hnow, hversion⟩ : HandedOut path loads :=
    loadsAfter_handedOut hfirst htask
  rw [hentry, Option.some.injEq] at hnow
  subst hnow
  have hpath : owner.path = path := (read_loadsAfter hfirst howner).1
  have hselected : selectedIn settings name owner ∈ select settings name (successesOf loads.results) := by
    rw [select, List.mem_filter]
    refine ⟨List.mem_map.mpr ⟨owner, mem_successesOf.mpr (Batch.mem_results_iff.mpr ⟨path, howner⟩),
      rfl⟩, ?_⟩
    have hchosen : (selectedIn settings name owner).names ≠ [] := by
      rw [hversion] at hnames
      exact hnames
    simpa using hchosen
  obtain ⟨outcome, -, now, hdrawn, -, -, hleft⟩ :=
    hsound.exists_result hresolved (by rwa [resolvesAfter_inputs])
  have hsame : now = entry := by
    have hcached : loads.state.cache.get? owner.path = some now := hdrawn.cached
    rw [hpath, hentry, Option.some.injEq] at hcached
    exact hcached.symm
  rw [hsame] at hleft
  have hleft := hleft hversion.symm
  simp only [selectedIn, hpath] at hleft
  exact hleft

/-- What becomes of an entry does not depend on its number. -/
lemma remembered_congr {path : String} {other : Cached} (h : entry.unnumbered = other.unnumbered) :
    remembered workspace settings name path entry = remembered workspace settings name path other := by
  obtain ⟨hindex, hstamp⟩ := Cached.unnumbered_inj.mp h
  rw [remembered, remembered, hindex, hstamp]
  cases completed workspace path _ other.version.index with
  | error mishap => exact h
  | ok index => rfl

lemma remembered_of_unselected {path : String}
    (h : entry.version.index.matching name settings.wildcard = []) :
    remembered workspace settings name path entry = entry.unnumbered :=
  remembered_of_isResolved (h ▸ rfl)

/-- A resolve of a path that nothing is selected in does not exist. -/
lemma untouched_of_unselected (hfirst : loads = loadsAfter workspace candidates before first)
    {path : String} (hnone : ∀ item, (path, some (.done (.ok item))) ∈ loads.tasks →
      (selectedIn settings name item).names = []) :
    Untouched loads.state path (resolvesAfter lexer workspace settings name loads second).state := by
  refine (resolvesAfter_frame loads second).others path fun hlisted => ?_
  obtain ⟨selected, hselected, rfl⟩ := List.mem_map.mp hlisted
  obtain ⟨hitem, heq⟩ := mem_select hselected
  have hnames : selected.names ≠ [] := by simpa using (List.mem_filter.mp hselected).2
  rw [heq] at hnames
  exact hnames (hnone _ (task_of_success hfirst hitem))

/-- **A file that was loaded** has the entry that the query leaves of the loaded one. -/
lemma left_repeated (hfirst : loads = loadsAfter workspace candidates before first)
    (hcalm : Calm loads)
    (hresolved : (resolvesAfter lexer workspace settings name loads second).Finished) {path : String}
    {item : Loaded} (htask : (path, some (.done (.ok item))) ∈ loads.tasks)
    (hentry : loads.state.cache.get? path = some entry) :
    Left workspace settings name path entry
      ((resolvesAfter lexer workspace settings name loads second).state.cache.get? path) := by
  by_cases hnames : entry.version.index.matching name settings.wildcard = []
  · have huntouched : Untouched loads.state path
        (resolvesAfter lexer workspace settings name loads second).state := by
      refine untouched_of_unselected hfirst fun other hother => ?_
      obtain ⟨now, hnow, hcached⟩ := cached_loadsAfter hfirst hcalm hother
      rw [hentry, Option.some.injEq] at hnow
      rw [selectedIn, hcached, ← hnow, hnames]
    rw [Left, huntouched, hentry, remembered_of_unselected hnames]
    rfl
  · exact left_of_selected hfirst hcalm hresolved htask hentry hnames

/-- **A file that failed** has the entry that it had. -/
lemma untouched_of_failed (hfirst : loads = loadsAfter workspace candidates before first)
    (hcalm : Calm loads) {path : String} {mishap : Mishap}
    (htask : (path, some (.done (.error mishap))) ∈ loads.tasks) :
    Untouched before path (resolvesAfter lexer workspace settings name loads second).state := by
  have hagrees : ∀ outcome, (path, some (.done outcome)) ∈ loads.tasks →
      Agrees workspace outcome (loadAlone workspace before path).1 :=
    fun _ => loadsAfter_agrees hfirst hcalm
  generalize hload : (loadAlone workspace before path).1 = result at hagrees
  cases hagrees _ htask
  have hsteady : Steady workspace before path := by
    intro item hitem
    rw [hload] at hitem
    cases hitem
  refine Eq.trans ?_ (hsteady.untouched_after hfirst)
  refine untouched_of_unselected hfirst fun item hitem => ?_
  cases hagrees _ hitem

/-- A query leaves the entry of a candidate as it leaves it when the file is alone. -/
lemma entry_repeated (hfirst : loads = loadsAfter workspace candidates before first)
    (hdone : loads.Finished) (hcalm : Calm loads)
    (hresolved : (resolvesAfter lexer workspace settings name loads second).Finished) {path : String}
    (hpath : path ∈ candidates) :
    ((resolvesAfter lexer workspace settings name loads second).state.cache.get? path).map
        Cached.unnumbered = entryLeft workspace before settings name path := by
  have halone := entry_loadsAfter hfirst hdone hcalm hpath
  obtain ⟨outcome, htask⟩ := exists_outcome hfirst hdone hpath
  have hagrees := loadsAfter_agrees hfirst hcalm htask
  rw [entryLeft_eq]
  generalize (loadAlone workspace before path).1 = result at hagrees
  cases hagrees with
  | failed mishap => rw [untouched_of_failed hfirst hcalm htask]
  | loaded _ =>
      obtain ⟨entry, hentry, -⟩ := cached_loadsAfter hfirst hcalm htask
      have hleft : Left workspace settings name path entry
          ((resolvesAfter lexer workspace settings name loads second).state.cache.get? path) :=
        left_repeated hfirst hcalm hresolved htask hentry
      rw [hentry, Option.map_some] at halone
      obtain ⟨kept, hkept, hnumber⟩ := Option.map_eq_some_iff.mp halone.symm
      simp only [hkept, Option.map_some, remembered_congr hnumber]
      exact hleft

/-- Paths that are no candidates keep their entries. -/
lemma others_repeated (hfirst : loads = loadsAfter workspace candidates before first) {path : String}
    (hpath : path ∉ candidates) :
    Untouched before path (resolvesAfter lexer workspace settings name loads second).state := by
  have huntouched : Untouched loads.state path
      (resolvesAfter lexer workspace settings name loads second).state :=
    untouched_of_unselected hfirst fun item hitem => absurd (mem_candidates hfirst hitem) hpath
  exact huntouched.trans (loadsAfter_others hfirst hpath)

/-- **A file that is listed twice is as good as two files.**  Whatever the order of the turns, what comes of a query
is what comes of queries that are alone, for each time that a file is listed. -/
theorem Scheduled.repeated {answer : Report} {after : Atlas Stack}
    (h : Scheduled lexer workspace settings name candidates before (.ok answer, after)) :
    (∀ fault, ¬ Faulty workspace before settings name candidates fault) ∧
      answer.answer = (reportAlone workspace before settings name candidates).answer ∧
      answer.cacheHits + answer.rebuilt
        = (reportAlone workspace before settings name candidates).cacheHits
          + (reportAlone workspace before settings name candidates).rebuilt ∧
      after.flags = Flags.none.markAll (if settings.reflag then
        (failuresOf (loadsAlone workspace before candidates)).map (·.path) else []) ∧
      ∀ path, if path ∈ candidates then
          (after.cache.get? path).map Cached.unnumbered = entryLeft workspace before settings name path
        else after.cache.get? path = before.cache.get? path := by
  obtain ⟨late, h⟩ := h
  cases h with
  | @answered first second loads hfirst hdone hcalm hresolved hquiet =>
      have hagree := loads_agree hfirst hdone hcalm
      obtain ⟨hfailures, hlength⟩ := counts_agree hagree
      have hanswers := results_resolvesAfter_repeated hfirst hdone hcalm hresolved
      have hcount : ∀ outcomes : List (Except Mishap Loaded),
          (successesOf outcomes).countP (·.fromCache) + (successesOf outcomes).countP (!·.fromCache)
            = (successesOf outcomes).length := by
        intro outcomes
        rw [List.length_eq_countP_add_countP (·.fromCache)]
        simp only [Bool.not_eq_true, Bool.decide_eq_false]
      refine ⟨?_, ?_, ?_, ?_, fun path => ?_⟩
      · rintro fault (hfault | hfault)
        · exact hcalm fault ((error_agree hagree _).mpr hfault)
        · exact hquiet fault (hanswers ▸ hfault)
      · simp only [Report.answer, reportAlone, report, hanswers, hfailures]
      · simp only [reportAlone, report, hcount, hlength]
      · rw [(resolvesAfter_frame loads second).flags, settle, hfailures]
      · split_ifs with hpath
        · exact entry_repeated hfirst hdone hcalm hresolved hpath
        · exact others_repeated hfirst hpath

end Whole

end Search

end TemplateAtlas
