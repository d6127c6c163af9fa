import Mathlib.Algebra.BigOperators.Group.List.Basic
import Mathlib.Data.List.Induction
import Mathlib.Tactic.Common
import TemplateAtlas.Proofs.Ranges

/-!
# Grouping by name

The markers of a text are gathered under their names one after the other.  What comes out can be said at once:
the names in the order in which they first occur, each with its markers in text order (`Marker.byName_eq`).

Hence the wildcard selects every marker, grouped in that order (`Finder.selected_wildcard`), and any other name
selects the markers that have it (`Finder.selected_name`).  `groupedBy` is the grouping itself, which loses and
repeats nothing (`groupedBy_perm`).
-/

namespace TemplateAtlas

namespace Marker

/-- The groups after one more marker. -/
lemma insertByName_map (marker : Marker) {names : List String} {items : String → List Marker}
    (hnodup : names.Nodup) (hnew : marker.name ∉ names → items marker.name = []) :
    insertByName marker (names.map fun name => (name, items name))
      = (if marker.name ∈ names then names else names ++ [marker.name]).map fun name =>
          (name, items name ++ if marker.name = name then [marker] else []) := by
  induction names with
  | nil => simp [insertByName, hnew]
  | cons name names ih =>
      rw [List.nodup_cons] at hnodup
      rw [List.map_cons, insertByName]
      by_cases hname : name = marker.name
      · have hothers : ∀ other ∈ names, (other, items other)
            = (other, items other ++ if marker.name = other then [marker] else []) := by
          intro other hother
          have hne : marker.name ≠ other := fun heq => hnodup.1 (hname ▸ heq ▸ hother)
          rw [if_neg hne, List.append_nil]
        rw [if_pos hname, if_pos (by simp [hname]), List.map_cons, if_pos hname.symm,
          List.map_congr_left hothers]
      · have hne : marker.name ≠ name := Ne.symm hname
        have hrest := ih hnodup.2 fun hmem => hnew (by simp [hne, hmem])
        rw [if_neg hname, hrest]
        by_cases hmem : marker.name ∈ names
        · simp [hmem, hne]
        · simp [hmem, hne]

lemma eraseDups_concat (names : List String) (name : String) :
    (names ++ [name]).eraseDups
      = if name ∈ names.eraseDups then names.eraseDups else names.eraseDups ++ [name] := by
  rw [List.eraseDups_append]
  by_cases hname : name ∈ names
  · simp [List.mem_eraseDups, hname, List.removeAll]
  · simp [List.mem_eraseDups, hname, List.removeAll, List.eraseDups_cons]

lemma nodup_eraseDups (names : List String) : names.eraseDups.Nodup := by
  induction names using List.reverseRecOn with
  | nil => simp
  | append_singleton names name ih =>
      rw [eraseDups_concat]
      split_ifs with hname
      · exact ih
      · exact List.nodup_append.mpr ⟨ih, by simp, by
          intro a ha b hb
          rw [List.mem_singleton] at hb
          rintro rfl
          exact hname (hb ▸ ha)⟩

/-- **Markers by name**: the names in order of first occurrence, each with its markers in text order. -/
theorem byName_eq (markers : List Marker) :
    byName markers = (markers.map (·.name)).eraseDups.map fun name =>
      (name, markers.filter (·.name = name)) := by
  induction markers using List.reverseRecOn with
  | nil => rfl
  | append_singleton markers marker ih =>
      have hstep : byName (markers ++ [marker]) = insertByName marker (byName markers) := by
        simp [byName]
      rw [hstep, ih, insertByName_map marker (nodup_eraseDups _) ?_]
      · rw [List.map_append, List.map_singleton, eraseDups_concat]
        simp only [List.filter_append, List.filter_cons, List.filter_nil, decide_eq_true_eq]
      · intro hnew
        rw [List.mem_eraseDups] at hnew
        rw [List.filter_eq_nil_iff]
        intro other hother
        simp only [decide_eq_true_eq]
        exact fun heq => hnew (List.mem_map.mpr ⟨other, hother, heq⟩)

/-- The markers under a name are all markers of that name. -/
lemma named_eq (text : List Char) (name : String) :
    named text name = (scan text).filter (·.name = name) := by
  have hgroups : groups text = ((scan text).map (·.name)).eraseDups.map fun name =>
      (name, (scan text).filter (·.name = name)) := byName_eq (scan text)
  by_cases hname : name ∈ ((scan text).map (·.name)).eraseDups
  · have hmem : (name, (scan text).filter (·.name = name)) ∈ groups text := by
      rw [hgroups]
      exact List.mem_map.mpr ⟨name, hname, rfl⟩
    exact named_of_mem hmem
  · have hnone : (groups text).lookup name = none := by
      rw [List.lookup_eq_none_iff, hgroups]
      intro pair hpair
      obtain ⟨other, hother, rfl⟩ := List.mem_map.mp hpair
      simp only [bne_iff_ne, ne_eq]
      exact fun heq => hname (heq ▸ hother)
    rw [named, hnone, eq_comm, Option.getD_none, List.filter_eq_nil_iff]
    intro marker hmarker
    simp only [decide_eq_true_eq]
    exact fun heq => hname (List.mem_eraseDups.mpr (List.mem_map.mpr ⟨marker, hmarker, heq⟩))

end Marker

/-- The items of the first name, then those of the second, and so on. -/
def groupedBy {α : Type} (name : α → String) (items : List α) : List α :=
  (items.map name).eraseDups.flatMap fun key => items.filter (name · = key)

/-- What keeps the names keeps the groups. -/
lemma map_groupedBy {α β : Type} (f : α → β) {name : α → String} {name' : β → String}
    (h : ∀ item, name' (f item) = name item) (items : List α) :
    (groupedBy name items).map f = groupedBy name' (items.map f) := by
  have hnames : (items.map f).map name' = items.map name := by
    rw [List.map_map]
    exact List.map_congr_left fun item _ => h item
  rw [groupedBy, groupedBy, hnames, List.map_flatMap]
  simp only [List.filter_map, Function.comp_def, h]

/-- Grouping only changes the order. -/
theorem groupedBy_perm {α : Type} [DecidableEq α] (name : α → String) (items : List α) :
    (groupedBy name items).Perm items := by
  rw [List.perm_iff_count]
  intro item
  have hgroup : ∀ key, (items.filter (name · = key)).count item
      = if key = name item then items.count item else 0 := by
    intro key
    split_ifs with hkey
    · exact List.count_filter (by simpa using hkey.symm)
    · refine List.count_eq_zero.mpr fun hmem => hkey ?_
      exact (of_decide_eq_true (List.mem_filter.mp hmem).2).symm
  rw [groupedBy, List.count_flatMap, List.sum_map_eq_nsmul_single (name item)]
  · simp only [Function.comp_apply, hgroup, if_true]
    by_cases hitem : item ∈ items
    · have hkey : name item ∈ (items.map name).eraseDups :=
        List.mem_eraseDups.mpr (List.mem_map.mpr ⟨item, hitem, rfl⟩)
      rw [List.Nodup.count (Marker.nodup_eraseDups _), if_pos hkey, one_nsmul]
    · rw [List.count_eq_zero.mpr hitem, nsmul_zero]
  · intro key hkey _
    rw [Function.comp_apply, hgroup, if_neg hkey]

namespace Finder

lemma selected_wildcard (text : List Char) (wildcard : String) :
    selected text wildcard wildcard = groupedBy Marker.name (Marker.scan text) := by
  rw [selected, Marker.byName_eq]
  simp [groupedBy, List.flatMap_map]

lemma selected_name (text : List Char) {name wildcard : String} (h : name ≠ wildcard) :
    selected text name wildcard = (Marker.scan text).filter (·.name = name) := by
  have hfilter := filter_named name (Marker.groups_nodup text)
  rw [← Marker.named, Marker.named_eq] at hfilter
  rw [← hfilter, selected, Marker.groups]
  simp only [h, decide_false, Bool.or_false]

end Finder

end TemplateAtlas
