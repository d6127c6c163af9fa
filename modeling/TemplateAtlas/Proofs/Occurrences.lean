import Mathlib.Data.List.Sort
import Mathlib.Tactic.Common
import TemplateAtlas.Proofs.Declarations
import TemplateAtlas.Proofs.Groups

/-!
# Which occurrences are listed

The scan for markers loses nothing and lists nothing twice.  What it lists can be said by offsets alone.

**Starts.**  A start is an offset at which a template could be declared (`isStart`), and its extent goes on to the
first character that ends a name (`extentEnd`).  Starts can lie inside the extent of others, so they are selected from
left to right (`selectedStarts`): the declarations that the scan finds are the selected starts
(`declarations_eq_selected`).

**Groups.**  The scan puts its markers under their names.  Taken together these are all markers again, and the groups
come in the order of the first marker of each: `byName_partitions`.
-/

namespace TemplateAtlas.Marker

open Text

/-! ## Starts -/

/-- A character that ends a declared name. -/
def endsName (c : Char) : Bool := isBlank c || c = '^' || c = '}' || c = '/'

/-- A template could be declared at an offset: the opening, a character that may start a name, and one that does not
end it. -/
def isStart (text : List Char) (start : Nat) : Bool :=
  (text.drop start).take 10 = "\x7btemplate ".toList &&
    text[start + 10]?.any (fun c => c ≠ '}' && c ≠ '/') && text[start + 11]?.any (fun c => !endsName c)

/-- Where the extent of a start ends: at the first later character that ends a name, or with the text. -/
def extentEnd (text : List Char) (start : Nat) : Nat :=
  start + 12 + (text.drop (start + 12)).findIdx endsName

/-- The name that is captured at a start, as it stands in the text. -/
def captured (text : List Char) (start : Nat) : List Char :=
  text.extract (start + 10) (extentEnd text start)

/-- Starts selected from left to right.  Nothing is selected in front of `free`, where the extent of the start that
was selected last ends. -/
def selectFrom (text : List Char) (free : Nat) : List Nat → List Nat
  | [] => []
  | start :: starts =>
    if start < free then selectFrom text free starts
    else start :: selectFrom text (extentEnd text start) starts

/-- The starts of a text without those inside the extent of the start that was selected before them. -/
def selectedStarts (text : List Char) : List Nat :=
  selectFrom text 0 ((List.range text.length).filter (isStart text))

lemma endsName_eq (c : Char) : endsName c = !isNameChar c := by
  simp [endsName, isNameChar, Bool.or_assoc]

lemma takeWhile_isNameChar (text : List Char) :
    text.takeWhile isNameChar = text.take (text.findIdx endsName) := by
  have hends : endsName = fun c => !isNameChar c := funext endsName_eq
  rw [hends, List.takeWhile_eq_take_findIdx_not]

/-- Two characters behind the opening, and the run of characters after them, are what a name is declared by. -/
lemma declaredName?_eq (behind : List Char) :
    declaredName? behind =
      if behind[0]?.any (fun c => c ≠ '}' && c ≠ '/') && behind[1]?.any (fun c => !endsName c) then
        some (behind.take (2 + (behind.drop 2).findIdx endsName))
      else none := by
  match behind with
  | [] => rfl
  | [c] => simp [declaredName?]
  | c :: d :: more =>
      have hd : isNameChar d = !endsName d := by simp [endsName_eq]
      by_cases hends : endsName d = true
      · simp [declaredName?, hd, hends]
      · have hrun : (d :: more).takeWhile isNameChar = d :: more.takeWhile isNameChar :=
          List.takeWhile_cons_of_pos (by simp [hd, hends])
        simp [declaredName?, mayStartName, hd, hrun, takeWhile_isNameChar, Nat.add_comm 2]

lemma after?_opening (text : List Char) :
    after? opening text = if text.take 10 = opening then some (text.drop 10) else none := by
  have hprefix : opening.isPrefixOf text = true ↔ text.take 10 = opening := by
    rw [List.isPrefixOf_iff_prefix, List.prefix_iff_eq_take, eq_comm]
    rfl
  simp only [after?, hprefix]
  rfl

/-- **A template is declared exactly at the starts**, under the name that is captured there. -/
lemma declared_eq (text : List Char) (start : Nat) :
    (after? opening (text.drop start)).bind declaredName?
      = if isStart text start then some (captured text start) else none := by
  have hlength : extentEnd text start - (start + 10)
      = 2 + (text.drop (start + 12)).findIdx endsName := by
    simp only [extentEnd]
    omega
  have hopening : "\x7btemplate ".toList = opening := rfl
  rw [after?_opening, isStart, captured, List.extract_eq_take_drop, hlength, hopening]
  by_cases hopens : (text.drop start).take 10 = opening
  · rw [if_pos hopens, Option.bind_some, declaredName?_eq, List.drop_drop, List.drop_drop,
      List.getElem?_drop, List.getElem?_drop]
    simp only [hopens, decide_true, Bool.true_and]
  · simp only [hopens, if_false, decide_false, Bool.false_and, Bool.false_eq_true, Option.bind_none]

/-! ## The selected starts -/

/-- Starts in front of `free` are skipped. -/
lemma selectFrom_append {text : List Char} {free : Nat} :
    ∀ {skipped : List Nat}, (∀ start ∈ skipped, start < free) → ∀ starts : List Nat,
      selectFrom text free (skipped ++ starts) = selectFrom text free starts
  | [], _, starts => rfl
  | start :: skipped, h, starts => by
      rw [List.cons_append, selectFrom, if_pos (h start List.mem_cons_self)]
      exact selectFrom_append (fun other hother => h other (List.mem_cons_of_mem _ hother)) starts

lemma extentEnd_le {text : List Char} {start : Nat} (h : isStart text start = true) :
    extentEnd text start ≤ text.length := by
  simp only [isStart, Bool.and_eq_true, Option.any_eq_true] at h
  obtain ⟨-, d, hd, -⟩ := h
  have hlength : start + 11 < text.length := (List.getElem?_eq_some_iff.mp hd).1
  have hfind : (text.drop (start + 12)).findIdx endsName ≤ (text.drop (start + 12)).length :=
    List.findIdx_le_length
  simp only [List.length_drop] at hfind
  simp only [extentEnd]
  omega

/-- The extent of a start is made of the opening and the captured name. -/
lemma length_captured {text : List Char} {start : Nat} (h : isStart text start = true) :
    start + 10 + (captured text start).length = extentEnd text start := by
  have hle := extentEnd_le h
  have hlt : start + 12 ≤ extentEnd text start := Nat.le_add_right _ _
  simp only [captured, List.extract_eq_take_drop, List.length_take, List.length_drop]
  omega

/-- The starts from an offset on. -/
def startsFrom (text : List Char) (offset : Nat) : List Nat :=
  (List.range' offset (text.length - offset)).filter (isStart text)

lemma startsFrom_split {text : List Char} {offset stop : Nat} (hle : offset ≤ stop)
    (hstop : stop ≤ text.length) :
    startsFrom text offset
      = (List.range' offset (stop - offset)).filter (isStart text) ++ startsFrom text stop := by
  have hrange : List.range' offset (stop - offset) ++ List.range' stop (text.length - stop)
      = List.range' offset (text.length - offset) := by
    have happend := List.range'_append_1 (s := offset) (m := stop - offset) (n := text.length - stop)
    rwa [Nat.add_sub_cancel' hle, Nat.add_comm, Nat.sub_add_sub_cancel hstop hle] at happend
  rw [startsFrom, startsFrom, ← List.filter_append, hrange]

/-- From any offset on, the scan declares what is selected. -/
lemma declarationsFrom_eq (text : List Char) (offset free : Nat) (hfree : free ≤ offset) :
    declarationsFrom offset (text.drop offset)
      = (selectFrom text free (startsFrom text offset)).map fun start =>
          (start, captured text start) := by
  by_cases hoffset : offset < text.length
  · have hfirst := declared_eq text offset
    have hnext := startsFrom_split (Nat.le_succ offset) hoffset
    rw [List.drop_eq_getElem_cons hoffset] at hfirst ⊢
    rw [declarationsFrom, hfirst, hnext]
    by_cases hstart : isStart text offset = true
    · -- the scan goes on where the extent ends, and so does the selection
      have hlength := length_captured hstart
      have hnear : offset + 1 ≤ extentEnd text offset := by
        omega
      have hrest := startsFrom_split hnear (extentEnd_le hstart)
      have hskipped : ∀ start ∈ (List.range' (offset + 1)
          (extentEnd text offset - (offset + 1))).filter (isStart text),
            start < extentEnd text offset := by
        intro start hmem
        have hrange := List.mem_range'_1.mp (List.mem_filter.mp hmem).1
        omega
      have hextra : offset + 1 + (opening.length - 1 + (captured text offset).length)
          = extentEnd text offset := by
        have hopening : opening.length = 10 := rfl
        omega
      simp only [hstart, if_true, Nat.succ_eq_add_one, Nat.add_sub_cancel_left, List.range'_one,
        List.filter_cons_of_pos, List.filter_nil, List.cons_append, List.nil_append, selectFrom,
        Nat.not_lt.mpr hfree, if_false, List.map_cons, List.drop_drop, hextra]
      rw [hrest, selectFrom_append hskipped, declarationsFrom_eq text _ _ (Nat.le_refl _)]
    · simp only [hstart, if_false, Nat.succ_eq_add_one, Nat.add_sub_cancel_left, List.range'_one,
        Bool.false_eq_true, not_false_eq_true, List.filter_cons_of_neg, List.filter_nil,
        List.nil_append]
      exact declarationsFrom_eq text (offset + 1) free (by omega)
  · have hlength : text.length ≤ offset := Nat.le_of_not_lt hoffset
    have hnone : startsFrom text offset = [] := by
      simp [startsFrom, Nat.sub_eq_zero_of_le hlength]
    rw [List.drop_eq_nil_of_le hlength, hnone, declarationsFrom]
    rfl
termination_by text.length - offset

/-- **The scan declares the selected starts**, from left to right, each with the name that is captured there. -/
theorem declarations_eq_selected (text : List Char) :
    declarations text = (selectedStarts text).map fun start => (start, captured text start) := by
  have hall : startsFrom text 0 = (List.range text.length).filter (isStart text) := by
    rw [startsFrom, List.range_eq_range', Nat.sub_zero]
  rw [declarations, selectedStarts, ← hall]
  exact declarationsFrom_eq text 0 0 (Nat.le_refl 0)

-- A start in the extent of another one is passed over, but the rest of the text is not.
example : selectedStarts "\x7btemplate  \x7btemplate .a\x7d \x7btemplate .b\x7d".toList = [0, 25] := by
  decide +kernel

lemma selectFrom_sublist (text : List Char) (free : Nat) (starts : List Nat) :
    (selectFrom text free starts).Sublist starts := by
  induction starts generalizing free with
  | nil => exact List.Sublist.refl []
  | cons start starts ih =>
      rw [selectFrom]
      split_ifs
      · exact (ih free).cons start
      · exact (ih _).cons_cons start

/-- The selected starts are starts, in increasing order. -/
lemma selectedStarts_sublist (text : List Char) :
    (selectedStarts text).Sublist ((List.range text.length).filter (isStart text)) :=
  selectFrom_sublist text 0 _

lemma selectedStarts_increasing (text : List Char) :
    (selectedStarts text).Pairwise (· < ·) :=
  (List.Pairwise.filter _ List.pairwise_lt_range).sublist (selectedStarts_sublist text)

lemma isStart_of_selected {text : List Char} {start : Nat} (h : start ∈ selectedStarts text) :
    isStart text start = true :=
  (List.mem_filter.mp ((selectedStarts_sublist text).subset h)).2

/-! ## The names -/

/-- A declared name is one character and a run of others, at least one. -/
lemma exists_of_declaredName? {behind name : List Char} (h : declaredName? behind = some name) :
    ∃ c run, name = c :: run ∧ mayStartName c = true ∧ run ≠ [] ∧ ∀ d ∈ run, isNameChar d = true := by
  match behind, h with
  | c :: cs, h =>
      rw [declaredName?] at h
      split_ifs at h with hstart
      simp only [Bool.and_eq_true, Option.any_eq_true] at hstart
      obtain ⟨hc, d, hd, hchar⟩ := hstart
      obtain ⟨more, rfl⟩ := List.head?_eq_some_iff.mp hd
      refine ⟨c, (d :: more).takeWhile isNameChar, (Option.some.inj h).symm, hc, ?_, ?_⟩
      · simp [hchar]
      · intro e he
        exact List.mem_takeWhile_imp he

/-- What is left of a captured name when it is stripped is a name: at most its first character was a blank. -/
lemma strip_captured {text : List Char} {start : Nat} (h : isStart text start = true) :
    strip (captured text start) ≠ [] ∧
      ∀ c ∈ strip (captured text start), isBlank c = false ∧ c ≠ '}' ∧ c ≠ '/' := by
  have hdeclared := declared_eq text start
  rw [if_pos h] at hdeclared
  obtain ⟨behind, -, hname⟩ := Option.bind_eq_some_iff.mp hdeclared
  obtain ⟨c, run, hcaptured, hc, hrun, hchars⟩ := exists_of_declaredName? hname
  have hplain : ∀ d ∈ run, isBlank d = false ∧ d ≠ '}' ∧ d ≠ '/' := by
    intro d hd
    have hchar := hchars d hd
    simp only [isNameChar, Bool.and_eq_true, Bool.not_eq_true', decide_eq_true_eq] at hchar
    exact ⟨hchar.1.1.1, hchar.1.2, hchar.2⟩
  have hfirst : c ≠ '}' ∧ c ≠ '/' := by simpa [mayStartName] using hc
  rw [hcaptured]
  by_cases hblank : isBlank c = true
  · have hstrip : strip (c :: run) = run := by
      have hdrop : strip (c :: run) = strip run := by simp [strip, stripStart, hblank]
      rw [hdrop, strip_eq_self fun d hd => (hplain d hd).1]
    rw [hstrip]
    exact ⟨hrun, hplain⟩
  · have hall : ∀ d ∈ c :: run, isBlank d = false ∧ d ≠ '}' ∧ d ≠ '/' := by
      intro d hd
      rcases List.mem_cons.mp hd with rfl | hd
      · exact ⟨Bool.eq_false_iff.mpr hblank, hfirst⟩
      · exact hplain d hd
    rw [strip_eq_self fun d hd => (hall d hd).1]
    exact ⟨List.cons_ne_nil c run, hall⟩

/-! ## The groups -/

section Keys

variable {α : Type} {name : α → String} {before : α → α → Prop} {item : α} {items : List α}

/-- The keys after the first one are those of the items under other names. -/
lemma filter_keys : (items.map name).filter (fun key => !key == name item)
    = (items.filter fun other => name other ≠ name item).map name := by
  rw [List.filter_map]
  congr 2
  funext other
  simp [beq_eq_decide]

/-- An item of another name makes no difference to the group of a key. -/
lemma filter_group {key : String} (h : key ≠ name item) :
    (item :: items).filter (name · = key)
      = (items.filter fun other => name other ≠ name item).filter (name · = key) := by
  rw [List.filter_filter, List.filter_cons_of_neg (by simpa using Ne.symm h)]
  refine List.filter_congr fun other _ => ?_
  by_cases hother : name other = key
  · simp [hother, h]
  · simp [hother]

/-- Items that come one after the other are grouped so that the groups come one after the other, by their first
items. -/
lemma pairwise_firsts : ∀ {items : List α}, items.Pairwise before →
    (items.map name).eraseDups.Pairwise fun key other =>
      ∀ a ∈ (items.filter (name · = key)).head?, ∀ b ∈ (items.filter (name · = other)).head?,
        before a b
  | [], _ => by simp
  | item :: items, h => by
      obtain ⟨hitem, hitems⟩ := List.pairwise_cons.mp h
      have hne : ∀ key ∈ ((items.filter fun other => name other ≠ name item).map name).eraseDups,
          key ≠ name item := by
        intro key hkey
        obtain ⟨other, hother, rfl⟩ := List.mem_map.mp (List.mem_eraseDups.mp hkey)
        simpa using (List.mem_filter.mp hother).2
      have hrest := pairwise_firsts (hitems.filter fun other => decide (name other ≠ name item))
      rw [List.map_cons, List.eraseDups_cons, filter_keys, List.pairwise_cons]
      constructor
      · intro key hkey a ha b hb
        rw [List.filter_cons_of_pos (by simp), List.head?_cons, Option.mem_some_iff] at ha
        rw [filter_group (hne key hkey)] at hb
        have hmem := (List.mem_filter.mp (List.mem_filter.mp (List.mem_of_mem_head? hb)).1).1
        exact ha ▸ hitem b hmem
      · refine hrest.imp_of_mem fun {key other} hkey hother hfirsts => ?_
        rw [filter_group (hne key hkey), filter_group (hne other hother)]
        exact hfirsts
termination_by items => items.length
decreasing_by
  have hle := List.length_filter_le (fun other => decide (name other ≠ name item)) items
  simp only [List.length_cons]
  omega

end Keys

/-- The marker of a start. -/
def markerAt (text : List Char) (start : Nat) : Marker :=
  ⟨String.ofList (declaredNamespace text ++ strip (captured text start)), start⟩

lemma scan_eq_selected (text : List Char) : scan text = (selectedStarts text).map (markerAt text) := by
  rw [scan, declarations_eq_selected, List.map_map]
  rfl

lemma scan_increasing (text : List Char) : (scan text).Pairwise fun a b => a.start < b.start := by
  rw [scan_eq_selected, List.pairwise_map]
  exact selectedStarts_increasing text

/-- Sorted by their offsets, the markers of a text come in the order of the scan. -/
lemma mergeSort_markers {text : List Char} {markers : List Marker} (h : markers.Perm (scan text)) :
    markers.mergeSort (fun a b => a.start ≤ b.start) = scan text := by
  have hsame : ∀ a ∈ scan text, a = markerAt text a.start := by
    intro a ha
    rw [scan_eq_selected] at ha
    obtain ⟨start, -, rfl⟩ := List.mem_map.mp ha
    rfl
  have hperm := (List.mergeSort_perm markers fun a b => a.start ≤ b.start).trans h
  have hsorted : (markers.mergeSort fun a b => a.start ≤ b.start).Pairwise
      fun a b => a.start ≤ b.start := by
    have hsort := @List.pairwise_mergeSort _ (fun a b : Marker => a.start ≤ b.start)
      (by simp; omega) (by simp; omega) markers
    simpa only [decide_eq_true_eq] using hsort
  refine List.Perm.eq_of_pairwise ?_ hsorted ((scan_increasing text).imp Nat.le_of_lt) hperm
  intro a b ha hb hab hba
  rw [hsame a (hperm.subset ha), hsame b hb, Nat.le_antisymm hab hba]

/-- Groups of markers that hold every selected start of a text once, under its name. -/
structure Partitions (text : List Char) (groups : List (String × List Marker)) : Prop where
  /-- Taken together and sorted by their offsets, the markers are those of the selected starts. -/
  sorted : (groups.flatMap (·.2)).mergeSort (fun a b => a.start ≤ b.start)
    = (selectedStarts text).map (markerAt text)
  /-- No marker is listed twice. -/
  once : (groups.flatMap (·.2)).Nodup
  /-- No key is listed twice. -/
  keys : (groups.map (·.1)).Nodup
  /-- Every key has a marker. -/
  nonempty : ∀ group ∈ groups, group.2 ≠ []
  /-- The key of a marker is its name. -/
  named : ∀ group ∈ groups, ∀ marker ∈ group.2, marker.name = group.1
  /-- The markers of a key come in the order of their offsets. -/
  increasing : ∀ group ∈ groups, group.2.Pairwise fun a b => a.start < b.start
  /-- The keys come in the order of their first markers. -/
  firsts : groups.Pairwise fun group other =>
    ∀ a ∈ group.2.head?, ∀ b ∈ other.2.head?, a.start < b.start
  /-- Every local name is a name. -/
  locals : ∀ start ∈ selectedStarts text, strip (captured text start) ≠ [] ∧
    ∀ c ∈ strip (captured text start), isBlank c = false ∧ c ≠ '}' ∧ c ≠ '/'

/-- **The scan partitions the selected starts.**  Whatever the text is, the markers that are found are those of the
starts that are selected from left to right.  Each of them stands once under its own name, in the order of the text,
and no name is without one. -/
theorem byName_partitions (text : List Char) : Partitions text (byName (scan text)) := by
  have hincreasing := scan_increasing text
  have hnodup : (scan text).Nodup := hincreasing.imp fun hlt heq => by simp [heq] at hlt
  have hall : (byName (scan text)).flatMap (·.2) = groupedBy Marker.name (scan text) := by
    rw [byName_eq, groupedBy, List.flatMap_map]
  have hperm := groupedBy_perm Marker.name (scan text)
  refine ⟨?_, ?_, ?_, ?_, ?_, ?_, ?_, ?_⟩
  · rw [hall, ← scan_eq_selected]
    exact mergeSort_markers hperm
  · rw [hall]
    exact hperm.nodup_iff.mpr hnodup
  · exact groups_nodup text
  · intro group hgroup
    rw [byName_eq] at hgroup
    obtain ⟨name, hname, rfl⟩ := List.mem_map.mp hgroup
    obtain ⟨marker, hmarker, rfl⟩ := List.mem_map.mp (List.mem_eraseDups.mp hname)
    exact List.ne_nil_of_mem (List.mem_filter.mpr ⟨hmarker, by simp⟩)
  · intro group hgroup marker hmarker
    rw [byName_eq] at hgroup
    obtain ⟨name, -, rfl⟩ := List.mem_map.mp hgroup
    simpa using (List.mem_filter.mp hmarker).2
  · intro group hgroup
    rw [byName_eq] at hgroup
    obtain ⟨name, -, rfl⟩ := List.mem_map.mp hgroup
    exact hincreasing.filter _
  · rw [byName_eq, List.pairwise_map]
    exact pairwise_firsts hincreasing
  · intro start hstart
    exact strip_captured (isStart_of_selected hstart)

end TemplateAtlas.Marker
