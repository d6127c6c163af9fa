import Mathlib.Tactic.Common
import TemplateAtlas.Proofs.Combination

/-!
# The cached and the direct answer

A query looks for the ends of those templates only that are asked for, keeps what it finds, and takes the rest
up when somebody asks for it.  As long as a file does not change, none of this can be told from its answers:
they are what the direct search finds in the text (`query_eq_findInText`).

* `Held` — what the atlas holds of a file with a given text.  It is the invariant of any sequence of queries
  about the file: `query_held`.
* `LoadedFrom` — an index of the file, as it comes out of a load.  Whatever is resolved in it already, a query
  finds the ranges of all markers that the direct search selects (`LoadedFrom.ranges`).
-/

namespace TemplateAtlas

open Soy

namespace Search

variable {workspace : Workspace} {settings : Settings} {name path : String} {text : List Char}
  {time : Option Int} {before : Atlas Stack} {item : Loaded}

/-- What the atlas holds of a file: nothing, or an index that is right for the text and not flagged. -/
def Held (path : String) (text : List Char) (atlas : Atlas Stack) : Prop :=
  ∀ entry, atlas.cache.get? path = some entry →
    atlas.flags.isChanged path = false ∧ entry.version.index.Stems (· = text) text

/-- A loaded index of a file that is right for its text. -/
structure LoadedFrom (workspace : Workspace) (path : String) (text : List Char) (item : Loaded) :
    Prop where
  current : workspace.text path = .ok text
  path : item.path = path
  stems : item.version.index.Stems (· = text) text
  atHand : ∀ read, item.text? = some read → read = text

/-- A readable file is loaded: from the cache if there is an index, and built if there is none. -/
lemma load_held (htext : workspace.text path = .ok text) (htime : workspace.diskTime path = .ok time)
    (h : Held path text before) :
    ∃ item entry, (loadAlone workspace before path).1.map Loaded.unnumbered = .ok item ∧
      LoadedFrom workspace path text item ∧
      item.fromCache = (before.cache.get? path).isSome ∧
      (loadAlone workspace before path).2.cache.get? path = some entry ∧
      entry.version.index = item.version.index := by
  cases hentry : before.cache.get? path with
  | none =>
      rw [loadAlone, Atlas.load_of_refused (Atlas.trust_of_missing hentry), Atlas.rebuild, Atlas.startRebuild, htime]
      simp only [Atlas.finishRebuild, htext, closeLoad, Atlas.note_cache, Cache.get?_store, if_true]
      refine ⟨_, _, rfl, ⟨htext, rfl, FileIndex.stems_ofText _ path text, ?_⟩, rfl, rfl, rfl⟩
      rintro read ⟨⟩
      rfl
  | some entry =>
      obtain ⟨hflag, hstems⟩ := h entry hentry
      rw [loadAlone, Atlas.load_of_granted (Atlas.trust_of_unflagged hentry hflag)]
      exact ⟨_, entry, rfl, ⟨htext, rfl, hstems, by rintro _ ⟨⟩⟩, rfl, hentry, rfl⟩

/-- The selected ranges of a loaded index are those of the markers that the direct search selects. -/
lemma LoadedFrom.ranges (h : LoadedFrom workspace path text item) (settings : Settings)
    (name : String) :
    ∃ updated, rangesAlone workspace (selectedIn settings name item)
        = .ok (updated, (Finder.selected text name settings.wildcard).map (Marker.range text)) ∧
      updated.Stems (· = text) text := by
  obtain ⟨htext, rfl, hstems, hatHand⟩ := h
  obtain ⟨text?, htextFor, hopen⟩ :
      ∃ text?, textFor workspace (selectedIn settings name item) = .ok text? ∧
        (item.version.index.isResolved (selectedIn settings name item).names = false →
          ∃ read, text? = some read ∧ read = text) := by
    simp only [textFor, selectedIn, htext]
    cases hread : item.text? with
    | none =>
        cases item.version.index.isResolved (item.version.index.matching name settings.wildcard) with
        | true => exact ⟨none, rfl, fun hfalse => Bool.noConfusion hfalse⟩
        | false => exact ⟨some text, rfl, fun _ => ⟨text, rfl, rfl⟩⟩
    | some read => exact ⟨some read, rfl, fun _ => ⟨read, rfl, hatHand read hread⟩⟩
  obtain ⟨updated, spans, hresolve, hupdated, hspans⟩ :=
    FileIndex.resolve_stems hstems (selectedIn settings name item).names hopen []
  have hmarkers : (selectedIn settings name item).names.flatMap (Marker.named text)
      = Finder.selected text name settings.wildcard := hstems.matching name settings.wildcard
  refine ⟨updated, ?_, hupdated⟩
  rw [rangesAlone, htextFor, ← hmarkers, ← forall₂_stems hspans]
  simp only [selectedIn] at hresolve ⊢
  rw [hresolve]
  rfl

lemma LoadedFrom.answers (h : LoadedFrom workspace path text item)
    (hload : (loadAlone workspace before path).1.map Loaded.unnumbered = .ok item)
    (settings : Settings) (name : String) :
    answersAlone workspace before settings name [path]
      = if (selectedIn settings name item).names = [] then []
        else [.ok (locationsIn settings name path text)] := by
  obtain ⟨updated, hranges, -⟩ := h.ranges settings name
  have hanswer : answerAlone workspace (selectedIn settings name item)
      = .ok (locationsIn settings name path text) := by
    rw [answerAlone, hranges, Except.map, List.map_map, ← h.path]
    rfl
  rw [answersAlone, loadsAlone_single hload, successesOf_ok, select_cons]
  split_ifs
  · rfl
  · rw [List.map_cons, hanswer]
    rfl

/-- A query that selects nothing in an index finds nothing in the text. -/
lemma LoadedFrom.locationsIn_eq_nil (h : LoadedFrom workspace path text item)
    (hnames : (selectedIn settings name item).names = []) :
    locationsIn settings name path text = [] := by
  have hmarkers := h.stems.matching name settings.wildcard
  have hnone : item.version.index.matching name settings.wildcard = [] := hnames
  rw [hnone, List.flatMap_nil] at hmarkers
  rw [locationsIn, ← hmarkers, List.map_nil]

/-- The entry that is left is right, whether or not something was looked for. -/
lemma LoadedFrom.left (h : LoadedFrom workspace path text item) {entry : Cached}
    (hload : (loadAlone workspace before path).1.map Loaded.unnumbered = .ok item)
    (hentry : (loadAlone workspace before path).2.cache.get? path = some entry)
    (hindex : entry.version.index = item.version.index) (settings : Settings) (name : String) :
    ∃ left, entryLeft workspace before settings name path = some left ∧
      left.version.index.Stems (· = text) text := by
  obtain ⟨updated, hranges, hupdated⟩ := h.ranges settings name
  simp only [entryLeft, hload, hentry, Option.map_some]
  split_ifs
  · exact ⟨_, rfl, hindex ▸ h.stems⟩
  · refine ⟨_, rfl, ?_⟩
    rw [entryAlone, hranges]
    exact hupdated

/-- What a query says of a readable file, and what it leaves of it. -/
lemma query_held (hplaces : 0 < settings.maxConcurrency) (htext : workspace.text path = .ok text)
    (htime : workspace.diskTime path = .ok time) (name : String) (h : Held path text before) :
    (query lexer workspace settings name [path] before).1 = .ok
        { name := name
          locations := locationsIn settings name path text
          failures := []
          candidateCount := 1
          cacheHits := if (before.cache.get? path).isSome then 1 else 0
          rebuilt := if (before.cache.get? path).isSome then 0 else 1 } ∧
      Held path text (query lexer workspace settings name [path] before).2 ∧
      ((query lexer workspace settings name [path] before).2.cache.get? path).isSome = true := by
  obtain ⟨item, entry, hload, hitem, hcache, hentry, hindex⟩ := load_held htext htime h
  have hloads := loadsAlone_single hload
  have hanswers := hitem.answers hload settings name
  obtain ⟨left, hleft, hstems⟩ := hitem.left hload hentry hindex settings name
  rcases query_single hplaces path with ⟨fault, -, hfaulty⟩ | ⟨-, hanswer, hflags, hafter⟩
  · rw [Faulty, hloads, hanswers] at hfaulty
    split_ifs at hfaulty <;> simp at hfaulty
  · rw [hleft, Option.map_eq_some_iff] at hafter
    obtain ⟨now, hnow, rfl⟩ := hafter
    refine ⟨?_, ?_, by rw [hnow]; rfl⟩
    · have hflatten : (successesOf (answersAlone workspace before settings name [path])).flatten
          = locationsIn settings name path text := by
        rw [hanswers]
        split_ifs with hnames
        · rw [hitem.locationsIn_eq_nil hnames]
          rfl
        · simp [successesOf, Except.toOption]
      have hfailures : failuresOf (answersAlone workspace before settings name [path]) = [] := by
        rw [hanswers]
        split_ifs <;> rfl
      rw [hanswer, reportAlone, report, hflatten, hfailures, hloads]
      cases hcached : (before.cache.get? path).isSome <;>
        simp [hcache, hcached, successesOf, failuresOf, Except.toOption]
    · intro other hother
      rw [hnow, Option.some.injEq] at hother
      subst hother
      refine ⟨?_, hstems⟩
      rw [hflags, hloads]
      split_ifs <;> rfl

/-- The atlas after a sequence of queries about one file. -/
def afterQueries (workspace : Workspace) (settings : Settings) (path : String) (names : List String)
    (before : Atlas Stack) : Atlas Stack :=
  names.foldl (fun atlas name => (query lexer workspace settings name [path] atlas).2) before

/-- Queries about a file go on holding a right index of it. -/
lemma afterQueries_held (hplaces : 0 < settings.maxConcurrency)
    (htext : workspace.text path = .ok text) (htime : workspace.diskTime path = .ok time)
    (names : List String) (h : Held path text before) :
    Held path text (afterQueries workspace settings path names before) ∧
      ((afterQueries workspace settings path names before).cache.get? path).isSome
        = ((before.cache.get? path).isSome || !names.isEmpty) := by
  induction names generalizing before with
  | nil => exact ⟨h, by simp [afterQueries]⟩
  | cons name names ih =>
      obtain ⟨-, hheld, hsome⟩ := query_held hplaces htext htime name h
      obtain ⟨hafter, hcached⟩ := ih hheld
      refine ⟨hafter, ?_⟩
      rw [hsome, Bool.true_or] at hcached
      rw [List.isEmpty_cons, Bool.not_false, Bool.or_true]
      exact hcached

/-- **The cached answer is the direct one.**  A file is readable and not in the cache.  However many queries
have been made about it, the next one finds what the direct search finds in its text; its index is built
for the first query and taken from the cache for every other. -/
theorem query_eq_findInText (hplaces : 0 < settings.maxConcurrency)
    (htext : workspace.text path = .ok text) (htime : workspace.diskTime path = .ok time)
    (hempty : before.cache.get? path = none) (earlier : List String) (name : String)
    (memory : Stack) :
    ∃ found, (Finder.findInText lexer text name settings.wildcard memory).1 = .ok found ∧
      (query lexer workspace settings name [path]
          (afterQueries workspace settings path earlier before)).1 = .ok
        { name := name
          locations := found.map (TextMatch.locate path)
          failures := []
          candidateCount := 1
          cacheHits := if earlier.isEmpty then 0 else 1
          rebuilt := if earlier.isEmpty then 1 else 0 } := by
  have hbefore : Held path text before := fun entry hentry => by simp [hempty] at hentry
  obtain ⟨hheld, hcached⟩ := afterQueries_held hplaces htext htime earlier hbefore
  refine ⟨_, findInText_eq text name settings.wildcard memory, ?_⟩
  rw [(query_held hplaces htext htime name hheld).1, ← locationsIn_eq, hcached, hempty]
  cases earlier.isEmpty <;> rfl

end Search

namespace Session

open Search

/-- A text with a name that occurs twice, and another one between. -/
def twice : List Char :=
  "\x7btemplate .aa\x7d\n\x7b/template\x7d\n\x7btemplate .bb\x7d\n\x7btemplate .aa\x7d".toList

def holdingTwice : Session := onEmptyDisk.run [.write "a.soy" (String.ofList twice).toUTF8.toList 5]

/-- Both occurrences are found, though other names were asked for before. -/
theorem query_eq_findInText_twice :
    (query lexer holdingTwice.view {} ".aa" ["a.soy"]
        (afterQueries holdingTwice.view {} "a.soy" [".bb", "*", ".cc"] holdingTwice.service.atlas)).1
      = .ok ⟨".aa", [⟨"a.soy", ".aa", 0, 1⟩, ⟨"a.soy", ".aa", 3, 3⟩], [], 1, 1, 0⟩ := by
  have hplaces : 0 < ({} : Settings).maxConcurrency := by decide
  have htext : holdingTwice.view.text "a.soy" = .ok twice := by decide +kernel
  have htime : holdingTwice.view.diskTime "a.soy" = .ok (some 5) := by decide +kernel
  have hempty : holdingTwice.service.atlas.cache.get? "a.soy" = none := by decide +kernel
  obtain ⟨found, hfound, hquery⟩ :=
    query_eq_findInText hplaces htext htime hempty [".bb", "*", ".cc"] ".aa" []
  have hdirect : (Finder.findInText lexer twice ".aa" ({} : Settings).wildcard []).1
      = .ok [⟨".aa", 0, 1⟩, ⟨".aa", 3, 3⟩] := by decide +kernel
  rw [hdirect, Except.ok.injEq] at hfound
  rw [hquery, ← hfound]
  rfl

end Session

end TemplateAtlas
