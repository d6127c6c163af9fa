import Mathlib.Data.List.Forall2
import Mathlib.Tactic.Common
import TemplateAtlas.Finder
import TemplateAtlas.Proofs.PlainScan
import TemplateAtlas.Resolve

/-!
# Indexes that stem from a text

An index is built from one text, and its ranges are looked for later, a few names at a time, in whatever
text the file has by then.  `FileIndex.Stems known text` says where everything in an index comes from:
its names and starts come from `text`, and every range in it is the range of its marker in one of the
`known` texts.  With `known` narrowed down to `text` itself this says that the index is right for its
text; with `known` left open it is true of every index that is ever cached.

* `FileIndex.stems_ofText` — a new index stems from its text.
* `FileIndex.resolve_stems` — resolving succeeds, gives an index that still stems from its text, and finds
  a range of a known text for every selected marker.
* `findInText_eq` — what the direct search finds in a text, for comparison: the ranges of the same markers
  in the text itself.
-/

namespace TemplateAtlas

open Soy

namespace Marker

/-- The range of a marker in a text. -/
def range (text : List Char) (marker : Marker) : Span :=
  marker.spanTo (.ofText text) (scanEnd text marker.start)

/-- The markers of a text under their names. -/
def groups (text : List Char) : List (String × List Marker) := byName (scan text)

/-- The markers of a text under one name. -/
def named (text : List Char) (name : String) : List Marker := ((groups text).lookup name).getD []

/-! ## Names occur once -/

lemma insertByName_names (marker : Marker) : ∀ groups : List (String × List Marker),
    (insertByName marker groups).map (·.1)
      = if marker.name ∈ groups.map (·.1) then groups.map (·.1)
        else groups.map (·.1) ++ [marker.name]
  | [] => by simp [insertByName]
  | (name, items) :: groups => by
      rw [insertByName]
      by_cases hname : name = marker.name
      · simp [hname]
      · rw [if_neg hname, List.map_cons, insertByName_names marker groups]
        have hne : marker.name ≠ name := Ne.symm hname
        by_cases hmem : marker.name ∈ groups.map (·.1)
        · rw [if_pos hmem, if_pos (by simp [hmem])]
          rfl
        · rw [if_neg hmem, if_neg (by simpa [hne] using hmem)]
          rfl

lemma insertByName_nodup (marker : Marker) {groups : List (String × List Marker)}
    (h : (groups.map (·.1)).Nodup) : ((insertByName marker groups).map (·.1)).Nodup := by
  rw [insertByName_names]
  split_ifs with hmem
  · exact h
  · exact List.nodup_append.mpr ⟨h, by simp, by
      intro a ha b hb
      rw [List.mem_singleton] at hb
      rintro rfl
      exact hmem (hb ▸ ha)⟩

lemma groups_nodup (text : List Char) : ((groups text).map (·.1)).Nodup := by
  have hfold : ∀ (markers : List Marker) (groups : List (String × List Marker)),
      (groups.map (·.1)).Nodup →
        ((markers.foldl (fun groups marker => insertByName marker groups) groups).map
          (·.1)).Nodup := by
    intro markers
    induction markers with
    | nil => exact fun _ h => h
    | cons marker markers ih => exact fun groups h => ih _ (insertByName_nodup marker h)
  exact hfold _ [] List.nodup_nil

end Marker

lemma lookup_eq_of_nodup {α β : Type} [DecidableEq α] : ∀ {pairs : List (α × β)},
    (pairs.map (·.1)).Nodup → ∀ {pair : α × β}, pair ∈ pairs →
      pairs.lookup pair.1 = some pair.2
  | [], _, _, h => by simp at h
  | (key, value) :: pairs, hnodup, pair, h => by
      rw [List.map_cons, List.nodup_cons] at hnodup
      rcases List.mem_cons.mp h with rfl | h
      · rw [List.lookup_cons_self]
      · have hne : pair.1 ≠ key := by
          intro heq
          exact hnodup.1 (List.mem_map.mpr ⟨pair, h, heq⟩)
        rw [List.lookup_cons, beq_false_of_ne hne]
        exact lookup_eq_of_nodup hnodup.2 h

lemma isSome_lookup {β : Type} {key : String} : ∀ {pairs : List (String × β)},
    (pairs.lookup key).isSome = true ↔ key ∈ pairs.map Prod.fst
  | [] => by simp
  | (other, value) :: pairs => by
      rw [List.lookup_cons, List.map_cons, List.mem_cons]
      by_cases h : key = other
      · simp [h]
      · rw [beq_false_of_ne h, isSome_lookup]
        simp [h]

lemma Marker.named_of_mem {text : List Char} {group : String × List Marker}
    (h : group ∈ Marker.groups text) : Marker.named text group.1 = group.2 := by
  rw [Marker.named, lookup_eq_of_nodup (Marker.groups_nodup text) h]
  rfl

/-! ## Where entries come from -/

/-- An entry for a marker: the marker itself, or its range in a known text. -/
inductive Entry.Stems (known : List Char → Prop) (marker : Marker) : Entry → Prop
  | marker : Entry.Stems known marker (.marker marker)
  | span {text : List Char} (h : known text) : Entry.Stems known marker (.span (marker.range text))

/-- A range for a marker: its range in a known text. -/
def Span.Stems (known : List Char → Prop) (marker : Marker) (span : Span) : Prop :=
  ∃ text, known text ∧ span = marker.range text

/-- Names and starts come from a text, and ranges from known texts. -/
def FileIndex.Stems (known : List Char → Prop) (text : List Char) (index : FileIndex) : Prop :=
  List.Forall₂ (fun group named => named.1 = group.1 ∧
    List.Forall₂ (Entry.Stems known) group.2 named.2) (Marker.groups text) index.entries

variable {known : List Char → Prop} {text reading : List Char} {index : FileIndex}

lemma Entry.Stems.mono {known' : List Char → Prop} (hknown : ∀ t, known t → known' t)
    {marker : Marker} {entry : Entry} (h : entry.Stems known marker) :
    entry.Stems known' marker := by
  cases h with
  | marker => exact .marker
  | span h => exact .span (hknown _ h)

/-- What stems from fewer texts stems from more. -/
lemma FileIndex.Stems.mono {known' : List Char → Prop} (hknown : ∀ t, known t → known' t)
    (h : index.Stems known text) : index.Stems known' text :=
  List.Forall₂.imp (fun _ _ hgroup =>
    ⟨hgroup.1, hgroup.2.imp fun _ _ hentry => hentry.mono hknown⟩) h

namespace FileIndex

/-- **A new index stems from its text**, and no other text is needed. -/
theorem stems_ofText (known : List Char → Prop) (path : String) (text : List Char) :
    (ofText path text).Stems known text := by
  rw [Stems, ofText, Marker.groups, List.forall₂_map_right_iff]
  refine List.forall₂_same.mpr fun group _ => ⟨rfl, ?_⟩
  rw [List.forall₂_map_right_iff]
  exact List.forall₂_same.mpr fun marker _ => .marker

lemma Stems.names (h : index.Stems known text) :
    index.names = (Marker.groups text).map (·.1) := by
  rw [FileIndex.names]
  rw [Stems] at h
  generalize Marker.groups text = groups, index.entries = entries at h ⊢
  induction h with
  | nil => rfl
  | cons hgroup _ ih => rw [List.map_cons, List.map_cons, ih, hgroup.1]

lemma Stems.entriesOf (h : index.Stems known text) (name : String) :
    List.Forall₂ (Entry.Stems known) (Marker.named text name) (index.entriesOf name) := by
  rw [Marker.named, FileIndex.entriesOf]
  rw [Stems] at h
  generalize Marker.groups text = groups, index.entries = entries at h ⊢
  induction h with
  | nil => exact .nil
  | @cons group named _ _ hgroup _ ih =>
      rw [List.lookup_cons, List.lookup_cons, hgroup.1]
      cases name == group.1 with
      | true => exact hgroup.2
      | false => exact ih

lemma Stems.replaceEntries (h : index.Stems known text) {name : String} {spans : List Span}
    (hspans : List.Forall₂ (Span.Stems known) (Marker.named text name) spans) :
    Stems known text { index with entries := replaceEntries name spans index.entries } := by
  have hentries : List.Forall₂ (Entry.Stems known) (Marker.named text name) (spans.map .span) := by
    rw [List.forall₂_map_right_iff]
    refine hspans.imp ?_
    rintro marker span ⟨known, hknown, rfl⟩
    exact .span hknown
  rw [Stems, FileIndex.replaceEntries, List.forall₂_map_right_iff]
  rw [Stems] at h
  have hmem : ∀ group ∈ Marker.groups text, Marker.named text group.1 = group.2 :=
    fun group hgroup => Marker.named_of_mem hgroup
  generalize Marker.groups text = groups, index.entries = entries at h hmem ⊢
  induction h with
  | nil => exact .nil
  | @cons group named _ _ hgroup _ ih =>
      obtain ⟨other, items⟩ := named
      refine .cons ⟨hgroup.1, ?_⟩ (ih fun other hother => hmem other (by simp [hother]))
      simp only
      by_cases hname : other = name
      · rw [if_pos hname]
        have hmarkers := hmem group (by simp)
        rw [← hgroup.1] at hmarkers
        simp only [hname] at hmarkers
        rw [← hmarkers]
        exact hentries
      · rw [if_neg hname]
        exact hgroup.2

end FileIndex

/-! ## Resolving -/

/-- An entry is resolved in the text at hand, unless it is a range already. -/
lemma resolveEntry_stems {marker : Marker} {entry : Entry} (h : entry.Stems known marker)
    (hreading : known reading) (memory : Stack) :
    ∃ span, (resolveEntry lexer reading (.ofText reading) entry memory).1 = .ok span ∧
      span.Stems known marker := by
  cases h with
  | marker =>
      refine ⟨marker.range reading, ?_, reading, hreading, rfl⟩
      have hend := endFrom_lexer reading marker.start memory
      simp only [resolveEntry]
      rw [hend]
      rfl
  | @span text h => exact ⟨marker.range text, rfl, text, h, rfl⟩

lemma resolveEntries_stems {markers : List Marker} {entries : List Entry}
    (h : List.Forall₂ (Entry.Stems known) markers entries) (hreading : known reading)
    (memory : Stack) :
    ∃ spans, (resolveEntries lexer reading (.ofText reading) entries memory).1 = .ok spans ∧
      List.Forall₂ (Span.Stems known) markers spans := by
  induction h generalizing memory with
  | nil => exact ⟨[], rfl, .nil⟩
  | @cons marker entry markers entries hentry _ ih =>
      obtain ⟨span, hspan, hstems⟩ := resolveEntry_stems hentry hreading memory
      rw [resolveEntries]
      cases hfirst : resolveEntry lexer reading (.ofText reading) entry memory with
      | mk outcome after =>
          rw [hfirst] at hspan
          simp only at hspan
          subst hspan
          obtain ⟨spans, hspans, hrest⟩ := ih after
          cases hothers : resolveEntries lexer reading (.ofText reading) entries after with
          | mk outcome later =>
              rw [hothers] at hspans
              simp only at hspans
              subst hspans
              exact ⟨span :: spans, by simp only [hothers], .cons hstems hrest⟩

namespace FileIndex

lemma resolveNames_stems (hreading : known reading) : ∀ (names : List String) {index : FileIndex},
    index.Stems known text → ∀ memory : Stack, ∃ updated spans,
      (resolveNames lexer reading (.ofText reading) names index memory).1 = .ok (updated, spans) ∧
        updated.Stems known text ∧
        List.Forall₂ (Span.Stems known) (names.flatMap (Marker.named text)) spans
  | [], index, h, memory => ⟨index, [], rfl, h, .nil⟩
  | name :: names, index, h, memory => by
      obtain ⟨spans, hspans, hstems⟩ := resolveEntries_stems (h.entriesOf name) hreading memory
      rw [resolveNames]
      cases hfirst : resolveEntries lexer reading (.ofText reading) (index.entriesOf name)
          memory with
      | mk outcome after =>
          rw [hfirst] at hspans
          simp only at hspans
          subst hspans
          obtain ⟨updated, more, hmore, hupdated, hrest⟩ :=
            resolveNames_stems hreading names (h.replaceEntries hstems) after
          simp only
          cases hothers : resolveNames lexer reading (.ofText reading) names
              { index with entries := replaceEntries name spans index.entries } after with
          | mk outcome later =>
              rw [hothers] at hmore
              simp only at hmore
              subst hmore
              refine ⟨updated, spans ++ more, by simp only, hupdated, ?_⟩
              rw [List.flatMap_cons]
              exact List.rel_append hstems hrest

/-- Entries that are all ranges give one range for each marker. -/
lemma span?_stems {markers : List Marker} {entries : List Entry}
    (h : List.Forall₂ (Entry.Stems known) markers entries)
    (hresolved : entries.all (·.isResolved) = true) :
    List.Forall₂ (Span.Stems known) markers (entries.filterMap (·.span?)) := by
  induction h with
  | nil => exact .nil
  | @cons marker entry markers entries hentry _ ih =>
      rw [List.all_cons, Bool.and_eq_true] at hresolved
      cases hentry with
      | marker => simp [Entry.isResolved, Entry.span?] at hresolved
      | @span text h => exact .cons ⟨text, h, rfl⟩ (ih hresolved.2)

lemma spansOf_stems (h : index.Stems known text) : ∀ {names : List String},
    index.isResolved names = true →
      List.Forall₂ (Span.Stems known) (names.flatMap (Marker.named text)) (index.spansOf names)
  | [], _ => .nil
  | name :: names, hresolved => by
      rw [isResolved, List.all_cons, Bool.and_eq_true] at hresolved
      rw [List.flatMap_cons, spansOf, List.flatMap_cons]
      exact List.rel_append (span?_stems (h.entriesOf name) hresolved.1)
        (spansOf_stems h hresolved.2)

/-- **Resolving keeps an index true to its texts.**  With a known text at hand, or with nothing to look
for, resolving succeeds; the index still stems from its text, and every selected marker has its range in a
known text. -/
theorem resolve_stems (h : index.Stems known text) (names : List String)
    {text? : Option (List Char)}
    (htext : index.isResolved names = false → ∃ reading, text? = some reading ∧ known reading)
    (memory : Stack) : ∃ updated spans,
      (index.resolve lexer names text? memory).1 = .ok (updated, spans) ∧
        updated.Stems known text ∧
        List.Forall₂ (Span.Stems known) (names.flatMap (Marker.named text)) spans := by
  cases hresolved : index.isResolved names with
  | true =>
      refine ⟨index, index.spansOf names, ?_, h, spansOf_stems h hresolved⟩
      rw [resolve.eq_def, if_pos hresolved]
  | false =>
      obtain ⟨reading, rfl, hreading⟩ := htext hresolved
      obtain ⟨updated, spans, houtcome, hrest⟩ := resolveNames_stems hreading names h memory
      refine ⟨updated, spans, ?_, hrest⟩
      rw [resolve.eq_def, if_neg (by simp [hresolved])]
      simp only [houtcome]
      rfl

end FileIndex

/-! ## Compared with the direct search -/

/-- The markers under all names of a text are those of its groups. -/
lemma flatMap_named : ∀ {groups : List (String × List Marker)},
    (∀ group ∈ groups, Marker.named text group.1 = group.2) →
      (groups.map (·.1)).flatMap (Marker.named text) = groups.flatMap (·.2)
  | [], _ => rfl
  | group :: groups, h => by
      rw [List.map_cons, List.flatMap_cons, List.flatMap_cons, h group (by simp),
        flatMap_named fun other hother => h other (by simp [hother])]

/-- The groups of a name that occurs once. -/
lemma filter_named : ∀ {groups : List (String × List Marker)} (name : String),
    (groups.map (·.1)).Nodup → ((groups.filter fun group => group.1 = name).flatMap (·.2))
      = (groups.lookup name).getD []
  | [], _, _ => rfl
  | (key, items) :: groups, name, hnodup => by
      rw [List.map_cons, List.nodup_cons] at hnodup
      by_cases hname : key = name
      · subst hname
        have hnone : groups.filter (fun group => group.1 = key) = [] := by
          rw [List.filter_eq_nil_iff]
          intro group hgroup
          simp only [decide_eq_true_eq]
          exact fun heq => hnodup.1 (List.mem_map.mpr ⟨group, hgroup, heq⟩)
        simp [hnone]
      · have hne : (name == key) = false := beq_false_of_ne (Ne.symm hname)
        simp [List.lookup_cons, hname, hne, filter_named name hnodup.2]

/-- **A query selects the markers that the direct search selects.** -/
theorem FileIndex.Stems.matching (h : index.Stems known text) (name wildcard : String) :
    (index.matching name wildcard).flatMap (Marker.named text)
      = Finder.selected text name wildcard := by
  rw [FileIndex.matching, h.names, Finder.selected, ← Marker.groups]
  by_cases hwild : name = wildcard
  · rw [if_pos hwild, flatMap_named fun _ hgroup => Marker.named_of_mem hgroup]
    simp [hwild]
  · have hfilter := filter_named name (Marker.groups_nodup text)
    simp only [hwild, if_false, decide_false, Bool.or_false, hfilter]
    split_ifs with hmem
    · rw [List.flatMap_singleton, Marker.named]
    · have hnone : (Marker.groups text).lookup name = none := by
        rw [List.lookup_eq_none_iff]
        intro pair hpair
        simp only [bne_iff_ne, ne_eq]
        intro heq
        exact hmem (by simpa [List.contains_iff_mem] using ⟨pair.2, heq ▸ hpair⟩)
      rw [hnone]
      rfl

/-- A template found in a text, as the range of a marker. -/
def Marker.found (text : List Char) (marker : Marker) : TextMatch :=
  ⟨marker.name, (LineMap.ofText text).lineOf marker.start,
    (LineMap.ofText text).lineOf (scanEnd text marker.start)⟩

lemma follow_eq (text : List Char) : ∀ (markers : List Marker) (memory : Stack),
    (Finder.follow lexer text (.ofText text) markers memory).1
      = .ok (markers.map (Marker.found text))
  | [], _ => rfl
  | marker :: markers, memory => by
      have hend := endFrom_lexer text marker.start memory
      rw [Finder.follow]
      cases hfirst : Block.endFrom lexer Block.closing text marker.start memory with
      | mk outcome after =>
          rw [hfirst] at hend
          simp only at hend
          subst hend
          have hrest := follow_eq text markers after
          cases hothers : Finder.follow lexer text (.ofText text) markers after with
          | mk outcome later =>
              rw [hothers] at hrest
              simp only at hrest
              subst hrest
              simp only [hothers]
              rfl

/-- The direct search finds the range of every selected marker. -/
theorem findInText_eq (text : List Char) (name wildcard : String) (memory : Stack) :
    (Finder.findInText lexer text name wildcard memory).1
      = .ok ((Finder.selected text name wildcard).map (Marker.found text)) :=
  follow_eq text _ memory

end TemplateAtlas
