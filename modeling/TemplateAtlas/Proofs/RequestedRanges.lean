import Mathlib.Data.List.Forall2
import Mathlib.Tactic.Common
import TemplateAtlas.Proofs.CacheChanges

/-!
# Ranges on request

An index is asked for the ranges of some names, and later for those of others.  Each request replaces entries, and
leaves alone what earlier requests have replaced.

**One request.**  Whether ranges are missing or not, a request leaves the index with the ranges of its names in
the text: `FileIndex.resolve_eq`.  The replacement is one that an index accepts (`withRanges_rangeIn`).

**Many requests.**  `FileIndex.resolveInTurn` answers any number of requests.  What they leave is what a single
request for all their names would have left (`resolveInTurn_eq`), because requests add up (`resolvedIn_append`)
and a range that was found is the same range ever after (`spansOf_resolvedIn`).

Hence neither the order of the requests, nor how names are grouped into them, nor how often they come matters:
`resolveInTurn_ofText`.
-/

namespace TemplateAtlas

open Soy

variable {σ : Type}

namespace FileIndex

variable {text : List Char} {index : FileIndex}

/-! ## One request -/

/-- Putting the ranges of a name into an index is not refused, and resolves that name. -/
theorem withRanges_rangeIn (text : List Char) {name : String} (h : name ∈ index.names) :
    index.withRanges name ((index.entriesOf name).map (Entry.rangeIn text))
      = .ok (index.resolvedIn text [name]) := by
  obtain ⟨items, hitems⟩ := Option.isSome_iff_exists.mp (isSome_lookup.mpr h)
  have hentries : index.entriesOf name = items := by rw [entriesOf, hitems, Option.getD_some]
  rw [withRanges, hitems]
  simp only [hentries, List.length_map, ne_eq, not_true_eq_false, if_false]
  rw [← hentries, replaceEntries_resolvedIn]

/-- A request leaves the index with the ranges of its names. -/
theorem resolve_eq (hnodup : index.names.Nodup) (names : List String) (text : List Char)
    (memory : Stack) :
    (index.resolve lexer names (some text) memory).1
      = .ok (index.resolvedIn text names, (index.resolvedIn text names).spansOf names) := by
  cases hresolved : index.isResolved names with
  | true =>
      rw [resolvedIn_of_isResolved hnodup hresolved, resolve.eq_def, if_pos hresolved]
  | false => exact resolve_resolvedIn hresolved text memory

/-- A request for what has been found answers from the index, without a text. -/
lemma resolve_again {names : List String} (h : index.isResolved names = true) (memory : Stack) :
    index.resolve lexer names none memory = (.ok (index, index.spansOf names), memory) := by
  rw [resolve.eq_def, if_pos h]

/-! ## Many requests -/

/-- Requests for the ranges of some names in a text, one after the other: the index that they leave, and what each
of them was answered. -/
def resolveInTurn (lexer : LineLexer σ) (text : List Char) :
    List (List String) → FileIndex → σ → Except ResolveFault (FileIndex × List (List Span)) × σ
  | [], index, memory => (.ok (index, []), memory)
  | names :: requests, index, memory =>
    match index.resolve lexer names (some text) memory with
    | (.error fault, memory) => (.error fault, memory)
    | (.ok (index, spans), memory) =>
      match resolveInTurn lexer text requests index memory with
      | (.error fault, memory) => (.error fault, memory)
      | (.ok (index, answers), memory) => (.ok (index, spans :: answers), memory)

/-- Requests add up. -/
lemma resolvedIn_append (text : List Char) (front back : List String) (index : FileIndex) :
    (index.resolvedIn text front).resolvedIn text back = index.resolvedIn text (front ++ back) := by
  induction front generalizing index with
  | nil => rw [resolvedIn_nil, List.nil_append]
  | cons name front ih =>
      rw [← resolvedIn_cons, ih, resolvedIn_cons, List.cons_append]

/-- The ranges of some names, whether they were found earlier or are found now. -/
def rangesIn (text : List Char) (names : List String) (index : FileIndex) : List Span :=
  names.flatMap fun name => (index.entriesOf name).map (Entry.rangeIn text)

/-- A range that was found is not looked for again. -/
lemma rangesIn_resolvedIn (text : List Char) (found names : List String) (index : FileIndex) :
    (index.resolvedIn text found).rangesIn text names = index.rangesIn text names := by
  rw [rangesIn, rangesIn]
  refine List.flatMap_congr fun name _ => ?_
  rw [entriesOf_resolvedIn]
  split_ifs
  · rw [List.map_map]
    rfl
  · rfl

/-- The ranges under names that were requested, perhaps among others. -/
lemma spansOf_resolvedIn {names requested : List String} (h : ∀ name ∈ names, name ∈ requested)
    (text : List Char) (index : FileIndex) :
    (index.resolvedIn text requested).spansOf names = index.rangesIn text names := by
  rw [spansOf, rangesIn]
  refine List.flatMap_congr fun name hname => ?_
  rw [entriesOf_resolvedIn, if_pos (h name hname), List.filterMap_map, ← List.filterMap_eq_map]
  rfl

/-- **Many requests are one request** for all their names, and each is answered as if it were alone. -/
theorem resolveInTurn_eq (text : List Char) (requests : List (List String)) {index : FileIndex}
    (hnodup : index.names.Nodup) (memory : Stack) :
    (resolveInTurn lexer text requests index memory).1
      = .ok (index.resolvedIn text requests.flatten,
          requests.map fun names => index.rangesIn text names) := by
  induction requests generalizing index memory with
  | nil => rw [resolveInTurn, List.flatten_nil, resolvedIn_nil, List.map_nil]
  | cons names requests ih =>
      have hfirst := resolve_eq hnodup names text memory
      rw [spansOf_resolvedIn (fun _ h => h)] at hfirst
      rw [resolveInTurn]
      generalize index.resolve lexer names (some text) memory = first at hfirst ⊢
      obtain ⟨outcome, after⟩ := first
      obtain rfl := hfirst
      have hnext : (index.resolvedIn text names).names.Nodup := by rwa [names_resolvedIn]
      have hrest := ih hnext after
      simp only [rangesIn_resolvedIn, resolvedIn_append] at hrest
      simp only
      generalize resolveInTurn lexer text requests (index.resolvedIn text names) after = rest at hrest ⊢
      obtain ⟨outcome, later⟩ := rest
      obtain rfl := hrest
      rfl

/-- Only which names are requested matters. -/
lemma resolvedIn_congr {front back : List String} (h : ∀ name, name ∈ front ↔ name ∈ back)
    (text : List Char) (index : FileIndex) :
    index.resolvedIn text front = index.resolvedIn text back := by
  simp only [resolvedIn, h]

end FileIndex

/-! ## From a new index on -/

/-- A marker is resolved to a range, whatever was read before. -/
def Marker.ResolvesTo (text : List Char) (marker : Marker) (span : Span) : Prop :=
  ∀ memory : Stack, (resolveEntry lexer text (.ofText text) (.marker marker) memory).1 = .ok span

lemma Marker.resolvesTo_range (text : List Char) (marker : Marker) :
    marker.ResolvesTo text (marker.range text) :=
  fun memory => resolveEntry_rangeIn text (.marker marker) memory

namespace FileIndex

/-- An index of a text that holds ranges under some names, and nothing but markers under all others. -/
structure HoldsRangesOf (path : String) (text : List Char) (requested : List String)
    (index : FileIndex) : Prop where
  path_eq : index.path = path
  names_eq : index.names = (ofText path text).names
  counts : ∀ name, (index.entriesOf name).length = ((ofText path text).entriesOf name).length
  markers : ∀ name, (ofText path text).entriesOf name = (Marker.named text name).map .marker
  ranges : ∀ name ∈ requested, ∃ spans, index.entriesOf name = spans.map .span ∧
    List.Forall₂ (Marker.ResolvesTo text) (Marker.named text name) spans
  others : ∀ name ∉ requested, index.entriesOf name = (ofText path text).entriesOf name

lemma entriesOf_ofText (path : String) (text : List Char) (name : String) :
    (ofText path text).entriesOf name = (Marker.named text name).map .marker := by
  have hlookup := lookup_map (fun _ markers => List.map Entry.marker markers) name (Marker.groups text)
  rw [entriesOf, ofText, Marker.named]
  rw [Marker.groups] at hlookup ⊢
  rw [hlookup]
  cases (Marker.byName (Marker.scan text)).lookup name <;> rfl

/-- What the markers of some names are resolved to. -/
lemma forall₂_resolvesTo (text : List Char) (markers : List Marker) :
    List.Forall₂ (Marker.ResolvesTo text) markers (markers.map (Marker.range text)) := by
  rw [List.forall₂_map_right_iff]
  exact List.forall₂_same.mpr fun marker _ => marker.resolvesTo_range text

lemma holdsRangesOf_resolvedIn (path : String) (text : List Char) (requested : List String) :
    ((ofText path text).resolvedIn text requested).HoldsRangesOf path text requested where
  path_eq := rfl
  names_eq := names_resolvedIn text requested _
  counts name := by
    rw [entriesOf_resolvedIn]
    split_ifs
    · rw [List.length_map]
    · rfl
  markers := entriesOf_ofText path text
  ranges name hname := by
    refine ⟨(Marker.named text name).map (Marker.range text), ?_, forall₂_resolvesTo text _⟩
    rw [entriesOf_resolvedIn, if_pos hname, entriesOf_ofText, List.map_map, List.map_map]
    rfl
  others name hname := by rw [entriesOf_resolvedIn, if_neg hname]

lemma rangesIn_ofText (path : String) (text : List Char) (names : List String) :
    (ofText path text).rangesIn text names
      = (names.flatMap (Marker.named text)).map (Marker.range text) := by
  rw [rangesIn, List.map_flatMap]
  refine List.flatMap_congr fun name _ => ?_
  rw [entriesOf_ofText, List.map_map]
  rfl

/-- Names that were requested are resolved, and so are names that do not occur. -/
lemma isResolved_of_requested {requested names : List String} {path : String}
    (h : ∀ name ∈ names, name ∈ requested ∨ name ∉ (ofText path text).names) :
    ((ofText path text).resolvedIn text requested).isResolved names = true := by
  rw [isResolved, List.all_eq_true]
  intro name hname
  rw [entriesOf_resolvedIn]
  split_ifs with hrequested
  · rw [List.all_map, List.all_eq_true]
    exact fun _ _ => rfl
  · have hnone : (ofText path text).entries.lookup name = none := by
      rw [← Option.not_isSome_iff_eq_none, isSome_lookup]
      exact (h name hname).resolve_left hrequested
    rw [entriesOf, hnone]
    rfl

/-- **Ranges do not depend on how they are requested.**  Let the index of a text be asked for the ranges of some
names, any number of times.  No request is refused.  In the end the index holds exactly the ranges under the names
of all requests, and each request was answered by the ranges of its names, in the order in which it gives them.
Other requests for the same names leave the same index, however they are ordered, grouped or repeated.  Requests for
what has been found need no text any more, change nothing, and are answered from the index. -/
theorem resolveInTurn_ofText (path : String) (text : List Char) (requests : List (List String))
    (memory : Stack) :
    ∃ index answers,
      (resolveInTurn lexer text requests (ofText path text) memory).1 = .ok (index, answers) ∧
        index.HoldsRangesOf path text requests.flatten ∧
        List.Forall₂ (fun names spans => spans = index.spansOf names ∧
          List.Forall₂ (Marker.ResolvesTo text) (names.flatMap (Marker.named text)) spans)
          requests answers ∧
        (∀ others : List (List String), (∀ name, name ∈ others.flatten ↔ name ∈ requests.flatten) →
          ∀ memory, ∃ answers,
            (resolveInTurn lexer text others (ofText path text) memory).1 = .ok (index, answers)) ∧
        ∀ names, (∀ name ∈ names, name ∈ requests.flatten ∨ name ∉ index.names) → ∀ memory,
          index.resolve lexer names none memory = (.ok (index, index.spansOf names), memory) := by
  have hnodup := nodup_names_ofText path text
  refine ⟨_, _, resolveInTurn_eq text requests hnodup memory,
    holdsRangesOf_resolvedIn path text requests.flatten, ?_, fun others hothers memory => ?_,
    fun names hnames memory => ?_⟩
  · rw [List.forall₂_map_right_iff]
    refine List.forall₂_same.mpr fun names hnames => ⟨?_, ?_⟩
    · exact (spansOf_resolvedIn (fun name hname => List.mem_flatten.mpr ⟨names, hnames, hname⟩) _ _).symm
    · rw [rangesIn_ofText]
      exact forall₂_resolvesTo text _
  · exact ⟨_, by rw [resolveInTurn_eq text others hnodup memory, resolvedIn_congr hothers]⟩
  · rw [names_resolvedIn] at hnames
    exact resolve_again (isResolved_of_requested hnames) memory

end FileIndex

end TemplateAtlas
