import Mathlib.Tactic.Common
import TemplateAtlas.Proofs.Schedules

/-!
# The course of a query

A query loads, settles and resolves.  `Scheduled.course` says once what can come of that, and what is left in
the atlas, so that nothing that is proved about queries has to look at their turns again.

* `Course.calledOff`, `Course.abandoned` — a fault ends the query, during the loads or after them.
* `Course.answered` — the report is made of one outcome for each candidate and one for each index that
  holds a selected name.
* `Settled` — the atlas after the loads: flags are those of the files left out, and an entry that is not
  fine has not been touched.

For files on disk under open documents (`Workspace.Plain`) the answer does not depend on the atlas at all, if
only the cached indexes that a query uses are right: `Scheduled.eq_direct`.
-/

namespace TemplateAtlas

open Soy

namespace Search

section Course

variable (workspace : Workspace) (before : Atlas Stack) (good fine : String → Cached → Prop)
  (base : String → List Char → Prop) (known : String → List Char → List Char → Prop)
  (settings : Settings) (name : String) (candidates : List String)

/-- What a load ends with: a good index, or a refusal. -/
inductive Delivers (path : String) : Except Mishap Loaded → Prop
  | loaded {item : Loaded} {stamp : Option Int} (hpath : item.path = path)
      (hgood : good path ⟨item.version, stamp⟩)
      (htext : ∀ text, item.text? = some text →
        Unusable workspace before path ∧ workspace.text path = .ok text) :
      Delivers path (.ok item)
  | refused {mishap : Mishap} (h : Refused workspace path mishap) : Delivers path (.error mishap)

/-- The names that the query selects in a loaded index. -/
def selectedIn (item : Loaded) : Selected :=
  ⟨item, item.version.index.matching name settings.wildcard⟩

/-- The atlas once the loads are over: only files that were left out are flagged, and only entries of
files that were not loaded may not be fine. -/
structure Settled (loads : List (Except Mishap Loaded)) (atlas : Atlas Stack) : Prop where
  flags : atlas.flags
    = Flags.none.markAll (if settings.reflag then (failuresOf loads).map (·.path) else [])
  cache : ∀ path entry, atlas.cache.get? path = some entry → fine path entry ∨
    before.cache.get? path = some entry ∧ ∀ item ∈ successesOf loads, item.path ≠ path

/-- What can come of a query. -/
inductive Course : Except QueryFault Report × Atlas Stack → Prop
  | calledOff {path : String} {fault : QueryFault} {atlas : Atlas Stack} (hpath : path ∈ candidates)
      (hfault : Refused workspace path (.fatal fault))
      (hkept : Kept workspace before good atlas) : Course (.error fault, atlas)
  | abandoned {loads : List (Except Mishap Loaded)} {item : Loaded} {fault : QueryFault}
      {atlas : Atlas Stack}
      (hloads : List.Forall₂ (Delivers workspace before good) candidates loads)
      (hitem : item ∈ successesOf loads)
      (hfault : Answer workspace base known (selectedIn settings name item) (.error (.fatal fault)))
      (hsettled : Settled before fine settings loads atlas) : Course (.error fault, atlas)
  | answered {loads : List (Except Mishap Loaded)}
      {resolves : List (Except Mishap (List Location))} {atlas : Atlas Stack}
      (hloads : List.Forall₂ (Delivers workspace before good) candidates loads)
      (hcalm : ∀ fault, .error (.fatal fault) ∉ loads)
      (hresolves : List.Forall₂ (Answer workspace base known)
        (select settings name (successesOf loads)) resolves)
      (hsettled : Settled before fine settings loads atlas) :
      Course (.ok (report name loads resolves), atlas)

end Course

variable {workspace : Workspace} {before : Atlas Stack} {good fine : String → Cached → Prop}
  {base : String → List Char → Prop} {known : String → List Char → List Char → Prop}
  {settings : Settings} {name : String}

lemma delivers_of_fits {atlas : Atlas Stack} {path : String} {outcome : Except Mishap Loaded}
    (h : Fits workspace before good (Refused workspace path) atlas path (.done outcome)) :
    Delivers workspace before good path outcome := by
  cases outcome with
  | error mishap => exact .refused h
  | ok item =>
      obtain ⟨hpath, ⟨stamp, hgood⟩, -, htext⟩ := h
      exact .loaded hpath hgood htext

/-- The index of a load that succeeded has a good entry in the cache. -/
lemma entry_of_fits {atlas : Atlas Stack} {paths : List String}
    {loads : List (Except Mishap Loaded)}
    (h : List.Forall₂ (fun path outcome =>
      Fits workspace before good (Refused workspace path) atlas path (.done outcome)) paths loads)
    {item : Loaded} (hitem : item ∈ successesOf loads) :
    item.path ∈ paths ∧ ∃ entry, atlas.cache.get? item.path = some entry ∧ good item.path entry := by
  rw [mem_successesOf] at hitem
  induction h with
  | nil => simp at hitem
  | @cons path outcome paths loads hfits _ ih =>
      rcases List.mem_cons.mp hitem with rfl | hitem
      · obtain ⟨hpath, -, hentry, -⟩ := hfits
        subst hpath
        exact ⟨List.mem_cons_self, hentry⟩
      · exact ⟨List.mem_cons_of_mem _ (ih hitem).1, (ih hitem).2⟩

lemma mem_select {loaded : List Loaded} {selected : Selected}
    (h : selected ∈ select settings name loaded) :
    selected.item ∈ loaded ∧ selected = selectedIn settings name selected.item := by
  rw [select, List.mem_filter, List.mem_map] at h
  obtain ⟨⟨item, hitem, rfl⟩, -⟩ := h
  exact ⟨hitem, rfl⟩

lemma select_cons (settings : Settings) (name : String) (item : Loaded) (items : List Loaded) :
    select settings name (item :: items)
      = if (selectedIn settings name item).names = [] then select settings name items
        else selectedIn settings name item :: select settings name items := by
  rw [select, List.map_cons, List.filter_cons]
  by_cases hnames : (selectedIn settings name item).names = []
  · rw [if_pos hnames, if_neg (by simpa [selectedIn] using hnames)]
    rfl
  · rw [if_neg hnames, if_pos (by simpa [selectedIn] using hnames)]
    rfl

/-- The locations of a report, one part for each candidate. -/
lemma exists_parts {delivers : String → Except Mishap Loaded → Prop}
    {answers : Selected → Except Mishap (List Location) → Prop} {candidates : List String}
    {loads : List (Except Mishap Loaded)} {resolves : List (Except Mishap (List Location))}
    (hloads : List.Forall₂ delivers candidates loads)
    (hresolves : List.Forall₂ answers (select settings name (successesOf loads)) resolves) :
    ∃ parts : List (List Location), (successesOf resolves).flatten = parts.flatten ∧
      List.Forall₂ (fun path part => part = [] ∨ ∃ item, delivers path (.ok item) ∧
        answers (selectedIn settings name item) (.ok part)) candidates parts := by
  induction hloads generalizing resolves with
  | nil =>
      cases hresolves
      exact ⟨[], rfl, .nil⟩
  | @cons path load candidates loads hfirst _ ih =>
      cases load with
      | error mishap =>
          obtain ⟨parts, hparts, hall⟩ := ih hresolves
          exact ⟨[] :: parts, hparts, .cons (Or.inl rfl) hall⟩
      | ok item =>
          rw [successesOf_ok, select_cons] at hresolves
          split_ifs at hresolves
          · obtain ⟨parts, hparts, hall⟩ := ih hresolves
            exact ⟨[] :: parts, hparts, .cons (Or.inl rfl) hall⟩
          · cases hresolves with
            | @cons _ answer _ resolves hanswer hrest =>
                obtain ⟨parts, hparts, hall⟩ := ih hrest
                cases answer with
                | error mishap => exact ⟨[] :: parts, hparts, .cons (Or.inl rfl) hall⟩
                | ok part =>
                    refine ⟨part :: parts, ?_, .cons (Or.inr ⟨item, hfirst, hanswer⟩) hall⟩
                    rw [successesOf_ok, List.flatten_cons, List.flatten_cons, hparts]

lemma tended_settle (settings : Settings) (name : String) {loads : List (Except Mishap Loaded)}
    {atlas : Atlas Stack} {candidates : List String} (hfine : ∀ path entry, good path entry → fine path entry)
    (hloads : List.Forall₂ (fun path outcome =>
      Fits workspace before good (Refused workspace path) atlas path (.done outcome))
      candidates loads) :
    Tended fine (settle settings (failuresOf loads) atlas)
      ((select settings name (successesOf loads)).map (·.item.path))
      (settle settings (failuresOf loads) atlas) := by
  refine ⟨rfl, fun _ _ => rfl, ?_⟩
  intro path hpath entry hentry
  obtain ⟨selected, hselected, rfl⟩ := List.mem_map.mp hpath
  obtain ⟨-, now, hnow, hgood⟩ := entry_of_fits hloads (mem_select hselected).1
  simp only [settle] at hentry
  rw [hnow, Option.some.injEq] at hentry
  exact hentry ▸ hfine _ now hgood

lemma settled_of_tended {loads : List (Except Mishap Loaded)} {atlas after : Atlas Stack}
    {candidates : List String} (hfine : ∀ path entry, good path entry → fine path entry)
    (hkept : Kept workspace before good atlas)
    (hloads : List.Forall₂ (fun path outcome =>
      Fits workspace before good (Refused workspace path) atlas path (.done outcome))
      candidates loads)
    (htended : Tended fine (settle settings (failuresOf loads) atlas)
      ((select settings name (successesOf loads)).map (·.item.path)) after) :
    Settled before fine settings loads after := by
  refine ⟨htended.flags, ?_⟩
  intro path entry hentry
  by_cases hpath : path ∈ (select settings name (successesOf loads)).map (·.item.path)
  · exact Or.inl (htended.fine path hpath entry hentry)
  · rw [htended.others path hpath] at hentry
    rcases hkept.cache path entry hentry with hold | hbuilt
    · by_cases hitem : ∃ item ∈ successesOf loads, item.path = path
      · obtain ⟨item, hitem, rfl⟩ := hitem
        obtain ⟨-, now, hnow, hgood⟩ := entry_of_fits hloads hitem
        simp only [settle] at hentry
        rw [hnow, Option.some.injEq] at hentry
        exact Or.inl (hentry ▸ hfine _ now hgood)
      · exact Or.inr ⟨hold, fun item hmem heq => hitem ⟨item, hmem, heq⟩⟩
    · exact Or.inl (hfine path entry hbuilt.1)

lemma resolves_select {loads : List (Except Mishap Loaded)} {candidates : List String}
    (hready : ∀ path item, Delivers workspace before good path (.ok item) →
      ∃ text, Ready workspace base known text (selectedIn settings name item))
    (hloads : List.Forall₂ (Delivers workspace before good) candidates loads)
    (selected : Selected) (h : selected ∈ select settings name (successesOf loads)) :
    Resolves workspace base known ((select settings name (successesOf loads)).map (·.item.path))
      selected none := by
  obtain ⟨hitem, heq⟩ := mem_select h
  refine ⟨List.mem_map.mpr ⟨selected, h, rfl⟩, ?_, by simp, by simp⟩
  rw [heq]
  rw [mem_successesOf] at hitem
  obtain ⟨path, -, hdelivers⟩ : ∃ path ∈ candidates,
      Delivers workspace before good path (.ok selected.item) := by
    clear heq h
    induction hloads with
    | nil => simp at hitem
    | cons hfirst _ ih =>
        rcases List.mem_cons.mp hitem with heq | hitem
        · exact ⟨_, List.mem_cons_self, heq ▸ hfirst⟩
        · obtain ⟨path, hpath, hdelivers⟩ := ih hitem
          exact ⟨path, List.mem_cons_of_mem _ hpath, hdelivers⟩
  exact hready path selected.item hdelivers

/-- The loads of a query, after whatever turns. -/
lemma loadsAfter_sound (vouches : Vouches workspace before good) (candidates : List String)
    (first : List Nat) : (loadsAfter workspace candidates before first).Sound (Kept workspace before good)
      (Loads workspace before good) :=
  Batch.execute_keeps (loading_keeps vouches) first
    (Batch.ofInputs_sound ⟨rfl, fun _ _ hentry => Or.inl hentry, Later.refl before⟩ fun _ _ => trivial)

/-- Once all of them are done, there is an outcome for each candidate. -/
lemma loadsAfter_fits (vouches : Vouches workspace before good) {candidates : List String}
    {first : List Nat} (hdone : (loadsAfter workspace candidates before first).Finished) :
    List.Forall₂ (fun path outcome => Fits workspace before good (Refused workspace path)
        (loadsAfter workspace candidates before first).state path (.done outcome))
      candidates (loadsAfter workspace candidates before first).results := by
  have hsound := loadsAfter_sound vouches candidates first
  have hinputs := loadsAfter_inputs workspace candidates before first
  generalize loadsAfter workspace candidates before first = loads at hdone hsound hinputs ⊢
  rw [← hinputs]
  refine Batch.results_forall₂ hdone fun task htask result hresult => ?_
  have hloads := hsound.tasks task htask
  rwa [hresult] at hloads

/-- The resolves of a query, after whatever turns, if its loads are done. -/
lemma resolvesAfter_sound (upholds : Upholds base known fine)
    (hfine : ∀ path entry, good path entry → fine path entry)
    (hready : ∀ path item, Delivers workspace before good path (.ok item) →
      ∃ text, Ready workspace base known text (selectedIn settings name item))
    {candidates : List String}
    {loads : Batch (Atlas Stack) String Atlas.LoadStage (Except Mishap Loaded)}
    (hfits : List.Forall₂ (fun path outcome =>
      Fits workspace before good (Refused workspace path) loads.state path (.done outcome))
      candidates loads.results) (second : List Nat) :
    (resolvesAfter lexer workspace settings name loads second).Sound
      (Tended fine (settle settings (failuresOf loads.results) loads.state)
        ((select settings name (successesOf loads.results)).map (·.item.path)))
      (fun _ => Resolves workspace base known
        ((select settings name (successesOf loads.results)).map (·.item.path))) :=
  Batch.execute_keeps (resolving_keeps upholds) second
    (Batch.ofInputs_sound (tended_settle settings name hfine hfits)
      (resolves_select hready (hfits.imp fun _ _ => delivers_of_fits)))

/-- **The course of a query**, in whatever order its loads and its resolves take their turns. -/
theorem Scheduled.course (vouches : Vouches workspace before good) (upholds : Upholds base known fine)
    (hfine : ∀ path entry, good path entry → fine path entry)
    (hready : ∀ path item, Delivers workspace before good path (.ok item) →
      ∃ text, Ready workspace base known text (selectedIn settings name item))
    {candidates : List String} {outcome : Except QueryFault Report × Atlas Stack}
    (h : Scheduled lexer workspace settings name candidates before outcome) :
    Course workspace before good fine base known settings name candidates outcome := by
  obtain ⟨late, h⟩ := h
  cases h with
  | @calledOff first _ hfault =>
      have hsound := loadsAfter_sound vouches candidates first
      obtain ⟨path, hpath, hfits⟩ := hsound.of_mem_results hfault
      rw [loadsAfter_inputs] at hpath
      exact .calledOff hpath hfits hsound.state
  | @abandoned first second _ _ hfirst hdone _ hfault =>
      subst hfirst
      have hfits := loadsAfter_fits vouches hdone
      have hsound := resolvesAfter_sound upholds hfine hready hfits second
      obtain ⟨selected, hselected, hresolves⟩ := hsound.of_mem_results hfault
      rw [resolvesAfter_inputs] at hselected
      obtain ⟨hitem, heq⟩ := mem_select hselected
      exact .abandoned (hfits.imp fun _ _ => delivers_of_fits) hitem (heq ▸ hresolves.answers _ rfl)
        (settled_of_tended hfine (loadsAfter_sound vouches candidates first).state hfits hsound.state)
  | @answered first second _ hfirst hdone hcalm hresolved _ =>
      subst hfirst
      have hfits := loadsAfter_fits vouches hdone
      have hsound := resolvesAfter_sound upholds hfine hready hfits second
      have hanswers := Batch.results_forall₂ hresolved fun task htask result hresult =>
        (hsound.tasks task htask).answers result hresult
      rw [resolvesAfter_inputs] at hanswers
      exact .answered (hfits.imp fun _ _ => delivers_of_fits) hcalm hanswers
        (settled_of_tended hfine (loadsAfter_sound vouches candidates first).state hfits hsound.state)

/-! ## The direct answer -/

end Search

/-- The text of a file, or why there is none. -/
def Workspace.outcome (workspace : Workspace) (path : String) : Except LoadFault (List Char) :=
  match workspace.diskTime path with
  | .error cause => .error ⟨path, .stat, cause⟩
  | .ok _ =>
    match workspace.text path with
    | .error cause => .error ⟨path, .read, cause⟩
    | .ok text => .ok text

/-- Questions about one file get answers that go together, and only a path that no file can have ends a
query. -/
structure Workspace.Plain (workspace : Workspace) : Prop where
  check : ∀ path cause, workspace.modified path = .error cause →
    (∀ reason, cause ≠ .unavailable reason) → workspace.diskTime path = .error cause
  fatal : ∀ path fault cause, workspace.Refuses path fault → fault.mishap = .fatal cause →
    cause = .source .nulInPath

lemma Workspace.Plain.refuses {workspace : Workspace} (plain : workspace.Plain) {path : String}
    {fault : LoadFault} (h : workspace.Refuses path fault) :
    workspace.outcome path = .error fault := by
  cases h with
  | stat h => simp only [outcome, h]
  | read htime h => simp only [outcome, htime, h]
  | check h hcause => simp only [outcome, plain.check path _ h hcause]

/-- What is asked for: where templates are, and which files were left out. -/
def Report.answer (report : Report) : List Location × List Failure :=
  (report.locations, report.failures)

/-- A template found in the text of a file, as a location. -/
def TextMatch.locate (path : String) (found : TextMatch) : Location :=
  ⟨path, found.name, found.firstLine, found.lastLine⟩

namespace Search

/-- The templates that a query selects in the text of a file. -/
def locationsIn (settings : Settings) (name path : String) (text : List Char) : List Location :=
  (Finder.selected text name settings.wildcard).map fun marker => locate path (marker.range text)

/-- They are those that the direct search finds there. -/
lemma locationsIn_eq (settings : Settings) (name path : String) (text : List Char) :
    locationsIn settings name path text
      = ((Finder.selected text name settings.wildcard).map (Marker.found text)).map
          (TextMatch.locate path) := by
  rw [List.map_map]
  rfl

/-- What a query has to say about a file, given its text. -/
def locationsOf (workspace : Workspace) (settings : Settings) (name path : String) :
    List Location :=
  match workspace.outcome path with
  | .ok text => locationsIn settings name path text
  | .error _ => []

/-- What the workspace says of a file, as the outcome of a load. -/
def verdict (workspace : Workspace) (path : String) : Except Mishap (List Char) :=
  (workspace.outcome path).mapError (·.mishap)

/-- The answer to a query as it follows from the texts, without an atlas. -/
def direct (workspace : Workspace) (settings : Settings) (name : String)
    (candidates : List String) : Except QueryFault (List Location × List Failure) :=
  match firstFatal? (candidates.map (verdict workspace)) with
  | some fault => .error fault
  | none =>
    .ok (candidates.flatMap (locationsOf workspace settings name),
      failuresOf (candidates.map (verdict workspace)))

/-- The text that a file has now. -/
def Current (workspace : Workspace) (path : String) (text : List Char) : Prop :=
  workspace.outcome path = .ok text

/-- An index that is right: everything in it is taken from the text of now. -/
def Right (workspace : Workspace) (path : String) (index : FileIndex) : Prop :=
  ∃ text, Current workspace path text ∧ index.Stems (· = text) text

variable {workspace : Workspace} {before : Atlas Stack} {good fine : String → Cached → Prop}
  {settings : Settings} {name : String} {candidates : List String}

lemma Current.text {path : String} {text : List Char} (h : Current workspace path text) :
    workspace.text path = .ok text := by
  rw [Current, Workspace.outcome] at h
  split at h
  · simp at h
  · split at h
    · simp at h
    · simp_all

lemma Delivers.outcome (plain : workspace.Plain)
    (hgood : ∀ path entry, good path entry → Right workspace path entry.version.index)
    {path : String} {load : Except Mishap Loaded}
    (h : Delivers workspace before good path load) :
    (∃ item, load = .ok item ∧ item.path = path ∧ Right workspace path item.version.index) ∨
      ∃ fault, load = .error fault.mishap ∧ workspace.outcome path = .error fault := by
  cases h with
  | loaded hpath hentry htext => exact Or.inl ⟨_, rfl, hpath, hgood _ _ hentry⟩
  | refused h =>
      obtain ⟨fault, hrefuses, rfl⟩ := h
      exact Or.inr ⟨fault, rfl, plain.refuses hrefuses⟩

lemma forall₂_stems {text : List Char} {markers : List Marker} {spans : List Span}
    (h : List.Forall₂ (Span.Stems (· = text)) markers spans) :
    spans = markers.map (Marker.range text) := by
  induction h with
  | nil => rfl
  | cons hspan _ ih =>
      obtain ⟨_, rfl, rfl⟩ := hspan
      rw [List.map_cons, ih]

lemma Answer.eq_locationsIn {item : Loaded} {text : List Char}
    {outcome : Except Mishap (List Location)} (hcurrent : Current workspace item.path text)
    (h : Answer workspace (Current workspace) (fun _ text read => read = text)
      (selectedIn settings name item) outcome) :
    outcome = .ok (locationsIn settings name item.path text) := by
  cases h with
  | @found base spans hready hspans =>
      have hbase : base = text := by
        have hsame : Current workspace item.path base := hready.base
        rw [Current, hcurrent, Except.ok.injEq] at hsame
        exact hsame.symm
      subst hbase
      have hmatching := hready.stems.matching name settings.wildcard
      rw [forall₂_stems hspans, locationsIn, ← hmatching, List.map_map]
      rfl
  | refused h hmissing hopen =>
      have htext := hcurrent.text
      simp only [selectedIn] at h
      rw [htext] at h
      simp at h

lemma Current.locationsOf {path : String} {text : List Char} (h : Current workspace path text) :
    locationsOf workspace settings name path = locationsIn settings name path text := by
  rw [Search.locationsOf, h]

lemma flatMap_select : ∀ {items : List Loaded},
    (∀ item ∈ items, Right workspace item.path item.version.index) →
      (select settings name items).flatMap
          (fun selected => locationsOf workspace settings name selected.item.path)
        = items.flatMap fun item => locationsOf workspace settings name item.path
  | [], _ => rfl
  | item :: items, h => by
      have hrest := flatMap_select fun other hother => h other (List.mem_cons_of_mem _ hother)
      obtain ⟨text, hcurrent, hstems⟩ := h item List.mem_cons_self
      have hmatching := hstems.matching name settings.wildcard
      rw [select_cons, List.flatMap_cons, ← hrest]
      split_ifs with hnames
      · have hnone : item.version.index.matching name settings.wildcard = [] := hnames
        rw [hnone, List.flatMap_nil] at hmatching
        rw [hcurrent.locationsOf, locationsIn, ← hmatching]
        rfl
      · rw [List.flatMap_cons]
        rfl

lemma loads_outcome (plain : workspace.Plain) (settings : Settings) (name : String)
    (hgood : ∀ path entry, good path entry → Right workspace path entry.version.index)
    {loads : List (Except Mishap Loaded)}
    (h : List.Forall₂ (Delivers workspace before good) candidates loads) :
    firstFatal? loads = firstFatal? (candidates.map (verdict workspace)) ∧
      failuresOf loads = failuresOf (candidates.map (verdict workspace)) ∧
      (∀ item ∈ successesOf loads, Right workspace item.path item.version.index) ∧
      ((successesOf loads).flatMap fun item => locationsOf workspace settings name item.path)
        = candidates.flatMap (locationsOf workspace settings name) := by
  induction h with
  | nil => exact ⟨rfl, rfl, by simp [successesOf], rfl⟩
  | @cons path load candidates loads hfirst _ ih =>
      obtain ⟨hfatal, hfailures, hright, hlocations⟩ := ih
      rw [List.map_cons, List.flatMap_cons]
      rcases hfirst.outcome plain hgood with ⟨item, rfl, rfl, hitem⟩ | ⟨fault, rfl, hfault⟩
      · obtain ⟨text, hcurrent, hstems⟩ := hitem
        have hverdict : verdict workspace item.path = .ok text := by rw [verdict, hcurrent]; rfl
        rw [hverdict, successesOf_ok, List.flatMap_cons, hlocations]
        refine ⟨hfatal, hfailures, ?_, rfl⟩
        intro other hother
        rcases List.mem_cons.mp hother with rfl | hother
        · exact ⟨text, hcurrent, hstems⟩
        · exact hright other hother
      · have hverdict : verdict workspace path = .error fault.mishap := by rw [verdict, hfault]; rfl
        have hnone : locationsOf workspace settings name path = [] := by rw [locationsOf, hfault]
        rw [hverdict, failuresOf_error, failuresOf_error fault.mishap (candidates.map _), hfailures,
          firstFatal?_error, firstFatal?_error fault.mishap (candidates.map _), hfatal,
          successesOf_error, hnone, List.nil_append]
        exact ⟨rfl, rfl, hright, hlocations⟩

lemma resolves_outcome {items : List Loaded}
    (hright : ∀ item ∈ items, Right workspace item.path item.version.index)
    {resolves : List (Except Mishap (List Location))}
    (h : List.Forall₂ (Answer workspace (Current workspace) fun _ text read => read = text)
      (select settings name items) resolves) :
    resolves = (select settings name items).map fun selected =>
      .ok (locationsOf workspace settings name selected.item.path) := by
  have hselected : ∀ selected ∈ select settings name items, ∀ outcome,
      Answer workspace (Current workspace) (fun _ text read => read = text) selected outcome →
        outcome = .ok (locationsOf workspace settings name selected.item.path) := by
    intro selected hmem outcome hanswer
    obtain ⟨hitem, heq⟩ := mem_select hmem
    obtain ⟨text, hcurrent, -⟩ := hright _ hitem
    rw [heq] at hanswer
    rw [hcurrent.locationsOf]
    exact hanswer.eq_locationsIn hcurrent
  clear hright
  generalize select settings name items = selection at h hselected ⊢
  induction h with
  | nil => rfl
  | cons hfirst _ ih =>
      rw [List.map_cons, hselected _ List.mem_cons_self _ hfirst,
        ih fun other hother => hselected other (List.mem_cons_of_mem _ hother)]

/-- If the workspace ends the query, it is because no file can have such a path. -/
lemma Workspace.Plain.verdict_fatal (plain : workspace.Plain) {fault : QueryFault}
    (h : .error (.fatal fault) ∈ candidates.map (verdict workspace)) :
    fault = .source .nulInPath := by
  obtain ⟨path, -, hpath⟩ := List.mem_map.mp h
  rw [verdict] at hpath
  cases houtcome : workspace.outcome path with
  | ok text => simp [houtcome, Except.mapError] at hpath
  | error refusal =>
      rw [houtcome, Except.mapError, Except.error.injEq] at hpath
      refine plain.fatal path refusal fault ?_ hpath
      rw [Workspace.outcome] at houtcome
      split at houtcome
      · rename_i cause htime
        rw [← Except.error.inj houtcome]
        exact .stat htime
      · rename_i time htime
        split at houtcome
        · rename_i cause htext
          rw [← Except.error.inj houtcome]
          exact .read htime htext
        · simp at houtcome

/-- A query that only uses right indexes gives the direct answer. -/
theorem Course.answer_eq (plain : workspace.Plain)
    (hgood : ∀ path entry, good path entry → Right workspace path entry.version.index)
    {outcome : Except QueryFault Report × Atlas Stack}
    (h : Course workspace before good fine (Current workspace) (fun _ text read => read = text)
      settings name candidates outcome) :
    outcome.1.map Report.answer = direct workspace settings name candidates := by
  cases h with
  | @calledOff path fault atlas hpath hfault _ =>
      obtain ⟨refusal, hrefuses, hmishap⟩ := hfault
      have hmem : .error (.fatal fault) ∈ candidates.map (verdict workspace) := by
        refine List.mem_map.mpr ⟨path, hpath, ?_⟩
        rw [verdict, plain.refuses hrefuses, Except.mapError, hmishap]
      rw [direct]
      cases hfirst : firstFatal? (candidates.map (verdict workspace)) with
      | none =>
          have hcalm := List.any_eq_false.mp (any_isFatal_of_none hfirst) _ hmem
          exact absurd rfl hcalm
      | some first =>
          rw [Workspace.Plain.verdict_fatal plain hmem,
            Workspace.Plain.verdict_fatal plain (mem_of_firstFatal? hfirst)]
          rfl
  | @abandoned loads item fault atlas hloads hitem hfault _ =>
      obtain ⟨-, -, hright, -⟩ := loads_outcome plain settings name hgood hloads
      obtain ⟨text, hcurrent, -⟩ := hright item hitem
      have heq := hfault.eq_locationsIn hcurrent
      simp at heq
  | @answered loads resolves atlas hloads hcalm hresolves _ =>
      obtain ⟨hfatal, hfailures, hright, hlocations⟩ :=
        loads_outcome plain settings name hgood hloads
      have hall := resolves_outcome hright hresolves
      rw [firstFatal?_eq_none hcalm] at hfatal
      rw [direct, ← hfatal, ← hfailures, ← hlocations, ← flatMap_select hright]
      simp only [Except.map, Report.answer, report, hall, successesOf_map_ok, failuresOf_map_ok,
        List.append_nil, List.flatMap]

lemma current_of_ok {path : String} {text : List Char} {time : Option Int}
    (htext : workspace.text path = .ok text) (htime : workspace.diskTime path = .ok time) :
    Current workspace path text := by
  simp only [Current, Workspace.outcome, htime, htext]

/-- A loaded index that is right can be resolved in the text of now. -/
lemma Delivers.ready (hgood : ∀ path entry, good path entry → Right workspace path entry.version.index)
    {path : String} {item : Loaded} (h : Delivers workspace before good path (.ok item)) :
    ∃ text, Ready workspace (Current workspace) (fun _ text read => read = text) text
      (selectedIn settings name item) := by
  cases h with
  | loaded hpath hentry htext =>
      subst hpath
      obtain ⟨text, hcurrent, hstems⟩ := hgood _ _ hentry
      have hunique : ∀ read, workspace.text item.path = .ok read → read = text := by
        intro read hread
        rw [hcurrent.text, Except.ok.injEq] at hread
        exact hread.symm
      exact ⟨text, hcurrent, hstems, fun read hread => hunique read (htext read hread).2,
        fun _ _ => hunique⟩

/-- **The atlas does not show.**  If the cached indexes that may be used are right, the answer to a query
is the direct one, in whatever order the loads and the resolves take their turns. -/
theorem Scheduled.eq_direct (plain : workspace.Plain)
    (hright : ∀ path entry, before.cache.get? path = some entry →
      (before.usable? workspace path).1 = .ok (some entry.version) →
        Right workspace path entry.version.index)
    {outcome : Except QueryFault Report × Atlas Stack}
    (h : Scheduled lexer workspace settings name candidates before outcome) :
    outcome.1.map Report.answer = direct workspace settings name candidates := by
  have vouches : Vouches workspace before
      fun path entry => Right workspace path entry.version.index :=
    ⟨hright, fun path text _ _ _ htext htime =>
      ⟨text, current_of_ok htext htime, FileIndex.stems_ofText _ path text⟩⟩
  have upholds : Upholds (Current workspace) (fun _ text read => read = text)
      fun path entry => Right workspace path entry.version.index :=
    fun _ text _ _ _ hbase hstems _ => ⟨text, hbase, hstems⟩
  exact (h.course vouches upholds (fun _ _ h => h) fun _ _ h => h.ready fun _ _ h => h).answer_eq plain
    fun _ _ h => h

/-- The answer about candidates that may not all be paths. -/
def directCandidates (workspace : Workspace) (settings : Settings) (name : String)
    (candidates : List Candidate) (all : Bool) : Except QueryFault (List Location × List Failure) :=
  match Candidate.spellings? candidates with
  | none => .error .notAPath
  | some paths =>
    direct workspace settings name (filterCandidates settings.extension all paths)

lemma CandidatesEnd.eq_direct (plain : workspace.Plain)
    (hright : ∀ path entry, before.cache.get? path = some entry →
      (before.usable? workspace path).1 = .ok (some entry.version) →
        Right workspace path entry.version.index)
    {candidates : List Candidate} {all : Bool} {outcome : Except QueryFault Report × Atlas Stack}
    {late : List Late}
    (h : CandidatesEnd lexer workspace settings name before candidates all outcome late) :
    outcome.1.map Report.answer = directCandidates workspace settings name candidates all := by
  rw [directCandidates]
  cases h with
  | notPaths hpaths => simp only [hpaths, Except.map]
  | queried hpaths h =>
      simp only [hpaths]
      exact Scheduled.eq_direct plain hright ⟨late, h⟩

end Search

end TemplateAtlas
