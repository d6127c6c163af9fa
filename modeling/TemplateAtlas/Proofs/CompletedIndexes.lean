import Mathlib.Tactic.Common
import TemplateAtlas.Proofs.Independence

/-!
# Completed indexes

What a resolve makes of an index does not depend on how it is done: names, starts and ranges that are there stay,
and the markers under the selected names get their ranges in the text of the file.

* `FileIndex.resolvedIn` — the index with the ranges of some names in a text, as a formula.  This is what resolving
  with the Soy lexer gives: `FileIndex.resolve_resolvedIn`.
* `Search.completed` — the index after a resolve, for which the text of the file is read if ranges are missing.  A
  resolve answers with the ranges in it: `rangesAlone_eq`.
* `completed_again` — an index that has been completed is complete, so that no text is needed any more.
-/

namespace TemplateAtlas

open Soy

/-! ## Ranges in a text -/

/-- The range of an entry in a text; a range that is there stays. -/
def Entry.rangeIn (text : List Char) : Entry → Span
  | .marker start => start.range text
  | .span found => found

lemma resolveEntry_rangeIn (text : List Char) (entry : Entry) (memory : Stack) :
    (resolveEntry lexer text (.ofText text) entry memory).1 = .ok (entry.rangeIn text) := by
  cases entry with
  | marker marker =>
      simp only [resolveEntry, endFrom_lexer]
      rfl
  | span span => rfl

lemma resolveEntries_rangeIn (text : List Char) (entries : List Entry) (memory : Stack) :
    (resolveEntries lexer text (.ofText text) entries memory).1
      = .ok (entries.map (Entry.rangeIn text)) := by
  induction entries generalizing memory with
  | nil => rfl
  | cons entry entries ih =>
      have hentry := resolveEntry_rangeIn text entry memory
      rw [resolveEntries]
      generalize resolveEntry lexer text (.ofText text) entry memory = first at hentry ⊢
      obtain ⟨outcome, after⟩ := first
      obtain rfl : outcome = .ok (entry.rangeIn text) := hentry
      have hrest := ih after
      simp only
      generalize resolveEntries lexer text (.ofText text) entries after = rest at hrest ⊢
      obtain ⟨outcome, later⟩ := rest
      obtain rfl : outcome = .ok (entries.map (Entry.rangeIn text)) := hrest
      rfl

lemma lookup_map {β γ : Type} (f : String → β → γ) (name : String) (pairs : List (String × β)) :
    (pairs.map fun pair => (pair.1, f pair.1 pair.2)).lookup name = (pairs.lookup name).map (f name) := by
  induction pairs with
  | nil => rfl
  | cons pair pairs ih =>
      rw [List.map_cons, List.lookup_cons, List.lookup_cons]
      cases hname : name == pair.1 with
      | true =>
          rw [beq_iff_eq] at hname
          simp [hname]
      | false => simpa using ih

namespace FileIndex

/-- The index with the entries under some names replaced by their ranges in a text. -/
def resolvedIn (text : List Char) (names : List String) (index : FileIndex) : FileIndex :=
  { index with
    entries := index.entries.map fun (name, items) =>
      (name, if name ∈ names then (index.entriesOf name).map fun entry => .span (entry.rangeIn text)
        else items) }

variable {text : List Char} {names : List String} {index : FileIndex}

@[simp] lemma names_resolvedIn (text : List Char) (names : List String) (index : FileIndex) :
    (index.resolvedIn text names).names = index.names := by
  simp [FileIndex.names, resolvedIn]

lemma entriesOf_resolvedIn (text : List Char) (names : List String) (index : FileIndex)
    (name : String) :
    (index.resolvedIn text names).entriesOf name
      = if name ∈ names then (index.entriesOf name).map fun entry => .span (entry.rangeIn text)
        else index.entriesOf name := by
  have hlookup := lookup_map (fun name items => if name ∈ names then
    (index.entriesOf name).map fun entry => .span (entry.rangeIn text) else items) name index.entries
  rw [entriesOf, resolvedIn, hlookup]
  cases hentries : index.entries.lookup name with
  | none => simp [entriesOf, hentries]
  | some items =>
      simp only [Option.map_some, Option.getD_some]
      split_ifs
      · rfl
      · rw [entriesOf, hentries, Option.getD_some]

lemma resolvedIn_nil (text : List Char) (index : FileIndex) : index.resolvedIn text [] = index := by
  simp [resolvedIn]

lemma entries_resolvedIn (text : List Char) (names : List String) (index : FileIndex) :
    (index.resolvedIn text names).entries = index.entries.map fun pair =>
      (pair.1, if pair.1 ∈ names then
        (index.entriesOf pair.1).map fun entry => .span (entry.rangeIn text) else pair.2) := rfl

/-- Resolving some names after another one is resolving them all. -/
lemma resolvedIn_cons (text : List Char) (name : String) (names : List String) (index : FileIndex) :
    (index.resolvedIn text [name]).resolvedIn text names = index.resolvedIn text (name :: names) := by
  have hentries : ((index.resolvedIn text [name]).resolvedIn text names).entries
      = (index.resolvedIn text (name :: names)).entries := by
    rw [entries_resolvedIn text names, entries_resolvedIn text [name], entries_resolvedIn, List.map_map]
    refine List.map_congr_left fun pair _ => ?_
    simp only [Function.comp_apply, entriesOf_resolvedIn, List.mem_cons]
    by_cases hname : pair.1 = name
    · simp [hname, Entry.rangeIn, Function.comp_def]
    · simp [hname]
  exact congrArg (FileIndex.mk index.path) hentries

/-- Putting the ranges of a name in is resolving that name. -/
lemma replaceEntries_resolvedIn (text : List Char) (name : String) (index : FileIndex) :
    { index with
      entries := replaceEntries name ((index.entriesOf name).map (Entry.rangeIn text)) index.entries }
      = index.resolvedIn text [name] := by
  rw [resolvedIn, replaceEntries]
  congr 1
  refine List.map_congr_left fun pair _ => ?_
  obtain ⟨other, items⟩ := pair
  simp only [List.mem_singleton, List.map_map]
  split_ifs with hother
  · rw [hother]
    rfl
  · rfl

lemma spansOf_resolvedIn_cons (text : List Char) (name : String) (names : List String)
    (index : FileIndex) :
    (index.resolvedIn text (name :: names)).spansOf (name :: names)
      = (index.entriesOf name).map (Entry.rangeIn text)
        ++ (index.resolvedIn text (name :: names)).spansOf names := by
  have hspans : ∀ entries : List Entry,
      (entries.map fun entry => Entry.span (entry.rangeIn text)).filterMap (·.span?)
        = entries.map (Entry.rangeIn text) := by
    intro entries
    rw [List.filterMap_map, ← List.filterMap_eq_map]
    rfl
  rw [spansOf, List.flatMap_cons, entriesOf_resolvedIn, if_pos List.mem_cons_self, hspans]
  rfl

lemma resolveNames_resolvedIn (text : List Char) (names : List String) (index : FileIndex)
    (memory : Stack) :
    (resolveNames lexer text (.ofText text) names index memory).1
      = .ok (index.resolvedIn text names, (index.resolvedIn text names).spansOf names) := by
  induction names generalizing index memory with
  | nil => rw [resolveNames, resolvedIn_nil]; rfl
  | cons name names ih =>
      have hentries := resolveEntries_rangeIn text (index.entriesOf name) memory
      rw [resolveNames]
      generalize resolveEntries lexer text (.ofText text) (index.entriesOf name) memory = first
        at hentries ⊢
      obtain ⟨outcome, after⟩ := first
      obtain rfl : outcome = .ok ((index.entriesOf name).map (Entry.rangeIn text)) := hentries
      have hrest := ih (index.resolvedIn text [name]) after
      rw [resolvedIn_cons] at hrest
      simp only [replaceEntries_resolvedIn]
      generalize resolveNames lexer text (.ofText text) names (index.resolvedIn text [name]) after = rest
        at hrest ⊢
      obtain ⟨outcome, later⟩ := rest
      obtain rfl := hrest
      simp only [spansOf_resolvedIn_cons]

/-- What is looked for is found. -/
lemma isResolved_resolvedIn (text : List Char) (names : List String) (index : FileIndex) :
    (index.resolvedIn text names).isResolved names = true := by
  rw [isResolved, List.all_eq_true]
  intro name hname
  rw [entriesOf_resolvedIn, if_pos hname, List.all_map, List.all_eq_true]
  exact fun _ _ => rfl

/-- **Resolving finds the ranges in the text at hand**, if any are missing. -/
theorem resolve_resolvedIn (h : index.isResolved names = false) (text : List Char) (memory : Stack) :
    (index.resolve lexer names (some text) memory).1
      = .ok (index.resolvedIn text names, (index.resolvedIn text names).spansOf names) := by
  rw [resolve.eq_def, if_neg (by simp [h])]
  have hnames := resolveNames_resolvedIn text names index memory
  simp only
  generalize resolveNames lexer text (.ofText text) names index memory = found at hnames ⊢
  obtain ⟨outcome, after⟩ := found
  obtain rfl := hnames
  rfl

/-- The same names are selected after some were resolved. -/
lemma matching_of_names {other : FileIndex} (h : other.names = index.names) (name wildcard : String) :
    other.matching name wildcard = index.matching name wildcard := by
  rw [matching, matching, h]

end FileIndex

namespace Search

variable {workspace : Workspace} {path : String} {names : List String} {index : FileIndex}

/-! ## Completing -/

/-- The index of a file with the ranges of some names.  If any are missing, the text of the file is read. -/
def completed (workspace : Workspace) (path : String) (names : List String) (index : FileIndex) :
    Except Mishap FileIndex :=
  if index.isResolved names then .ok index
  else
    match workspace.text path with
    | .ok text => .ok (index.resolvedIn text names)
    | .error cause => .error (LoadFault.mk path .read cause).mishap

lemma completed_of_isResolved (h : index.isResolved names = true) :
    completed workspace path names index = .ok index := by
  rw [completed, if_pos h]

/-- A completed index has its ranges, under the names of before. -/
lemma completed_ok {found : FileIndex} (h : completed workspace path names index = .ok found) :
    found.isResolved names = true ∧ found.names = index.names := by
  rw [completed] at h
  split_ifs at h with hresolved
  · obtain rfl := Except.ok.inj h
    exact ⟨hresolved, rfl⟩
  · cases htext : workspace.text path with
    | error cause => simp [htext] at h
    | ok text =>
        simp only [htext, Except.ok.injEq] at h
        subst h
        exact ⟨FileIndex.isResolved_resolvedIn text names index, FileIndex.names_resolvedIn ..⟩

/-- **What has been completed is complete.** -/
theorem completed_again {found : FileIndex} (h : completed workspace path names index = .ok found)
    (other : Workspace) : completed other path names found = .ok found :=
  completed_of_isResolved (completed_ok h).1

/-- **A resolve answers from the completed index.** -/
theorem rangesAlone_eq {selected : Selected}
    (hread : ∀ text, selected.item.text? = some text → workspace.text selected.item.path = .ok text) :
    rangesAlone workspace selected
      = (completed workspace selected.item.path selected.names selected.item.version.index).map
          fun index => (index, index.spansOf selected.names) := by
  obtain ⟨⟨path, version, text?⟩, names⟩ := selected
  simp only at hread ⊢
  rw [rangesAlone, textFor, completed]
  cases hresolved : version.index.isResolved names with
  | true => simp [FileIndex.resolve.eq_def, hresolved, Except.map, Except.mapError]
  | false =>
      cases text? with
      | some text =>
          rw [hread text rfl]
          simp [FileIndex.resolve_resolvedIn hresolved, Except.map, Except.mapError]
      | none =>
          cases workspace.text path with
          | error cause => simp [Except.map]
          | ok text => simp [FileIndex.resolve_resolvedIn hresolved, Except.map, Except.mapError]

end Search

end TemplateAtlas
