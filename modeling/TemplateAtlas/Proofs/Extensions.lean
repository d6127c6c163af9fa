import Mathlib.Data.List.TakeWhile
import Mathlib.Tactic.Common
import TemplateAtlas.Candidate
import TemplateAtlas.Proofs.MergedSettings
import TemplateAtlas.Proofs.WrittenFiles
import TemplateAtlas.Service

/-!
# Which extensions select files

An extension is normalized when settings are merged, and files are selected by what their paths have as a suffix.  The
two agree on everything but points.  A normalized extension may hold further points, and a suffix holds the one that it
begins with.

* `Path.suffixOf_append` — the suffix of a component begins at the last point.
* `length_lower` — how long a text is in small letters.  Hence a text and what is left of it without its first
  characters never come out the same: `lower_append_ne`.
* `Path.name_ofText_append` — the last component of a path.

A file whose name is a stem and the extension is selected if and only if the extension holds no second point
(`hasExtension_append_iff`), and then every service with this extension selects it.
-/

namespace TemplateAtlas

open Text

/-! ## Suffixes -/

/-- The suffix of a component begins at the last point.  There is none if nothing is before that point or nothing
behind it. -/
lemma Path.suffixOf_append {front tail : List Char} (htail : '.' ∉ tail) :
    suffixOf (front ++ '.' :: tail) = if front = [] ∨ tail = [] then [] else '.' :: tail := by
  have hreverse : (front ++ '.' :: tail).reverse.takeWhile (· ≠ '.') = tail.reverse := by
    have hplain : ∀ c ∈ tail.reverse, decide (c ≠ '.') = true := by
      intro c hc
      rw [decide_eq_true_eq]
      rintro rfl
      exact htail (List.mem_reverse.mp hc)
    rw [List.reverse_append, List.reverse_cons, List.append_assoc, List.takeWhile_append_of_pos hplain]
    simp
  have hlength : (front ++ '.' :: tail).length - tail.length = front.length + 1 := by
    rw [List.length_append, List.length_cons]
    omega
  have hsuffix : suffixOf (front ++ '.' :: tail)
      = if (front ++ '.' :: tail).length - tail.length < 2 || tail.isEmpty then [] else '.' :: tail := by
    simp only [suffixOf, hreverse, List.reverse_reverse]
  have hfront : front.length + 1 < 2 ↔ front = [] := by
    rw [← List.length_eq_zero_iff]
    omega
  rw [hsuffix, hlength]
  simp [hfront]

/-! ## Lengths in small letters -/

lemma length_lowerAt (before : List Char) (c : Char) (after : List Char) :
    (lowerAt before c after).length = if c = 'İ' then 2 else 1 := by
  rw [lowerAt]
  by_cases hsigma : c = 'Σ'
  · subst hsigma
    rw [if_pos rfl, if_neg (show 'Σ' ≠ 'İ' by decide)]
    split_ifs <;> rfl
  · rw [if_neg hsigma]
    split_ifs <;> rfl

lemma length_lowerFrom (before text : List Char) :
    (lowerFrom before text).length = text.length + text.count 'İ' := by
  induction text generalizing before with
  | nil => rfl
  | cons c after ih =>
      rw [lowerFrom, List.length_append, length_lowerAt, ih, List.length_cons, List.count_cons]
      simp only [beq_iff_eq]
      split_ifs <;> omega

lemma length_lower (text : List Char) : (lower text).length = text.length + text.count 'İ' := length_lowerFrom [] text

lemma lower_cons_ne_nil (c : Char) (text : List Char) : lower (c :: text) ≠ [] := by
  rw [ne_eq, ← List.length_eq_zero_iff, length_lower, List.length_cons]
  omega

/-- No text comes out in small letters like what is left of it without its first characters. -/
lemma lower_append_ne {front back : List Char} (hfront : front ≠ []) : lower back ≠ lower (front ++ back) := by
  intro h
  have hlength := congrArg List.length h
  rw [length_lower, length_lower, List.length_append, List.count_append] at hlength
  have hpos := List.length_pos_iff.mpr hfront
  omega

/-! ## Last components -/

/-- The name of a path is what stands behind its last slash. -/
lemma Path.name_ofText_append {directory name : String}
    (hdirectory : directory = "" ∨ directory.toList.getLast? = some '/') (hslash : '/' ∉ name.toList)
    (hlength : 1 < name.toList.length) : (Path.ofText (directory ++ name)).name = name := by
  have hpoint : Disk.isPoint name = false := by
    rw [Disk.isPoint, Bool.or_eq_false_iff, decide_eq_false_iff_not, decide_eq_false_iff_not]
    constructor
    · rintro rfl
      simp at hlength
    · rintro rfl
      simp at hlength
  have hcomponents : ∃ above, Disk.components (directory ++ name) = above ++ [name] := by
    rw [Disk.components, splitAtChar_eq_splitOn, String.toList_append]
    rcases hdirectory with rfl | hlast
    · exact ⟨[], by rw [String.toList_empty, List.nil_append, List.splitOn_eq_singleton hslash]; simp⟩
    · obtain ⟨above, habove⟩ := List.getLast?_eq_some_iff.mp hlast
      refine ⟨(above.splitOn '/').map String.ofList, ?_⟩
      rw [habove, List.append_assoc, List.singleton_append, List.splitOn_append_cons_self,
        List.splitOn_eq_singleton hslash]
      simp
  obtain ⟨above, habove⟩ := hcomponents
  rw [Path.name, Disk.parts_ofText, habove, List.filter_append]
  simp [hpoint]

/-! ## Normalized extensions -/

/-- A normalized extension is a point and something behind it that holds no slash. -/
lemma exists_of_normalizeExtension {field text extension : String} (h : normalizeExtension field text = .ok extension) :
    ∃ bare, extension = String.ofList ('.' :: bare) ∧ bare ≠ [] ∧ '/' ∉ bare := by
  obtain ⟨other, hother, hne, hplain, rfl⟩ := Config.normalizeExtension_eq_ok_iff.mp h
  obtain rfl := Value.text.inj hother
  exact ⟨_, rfl, hne, fun hslash => hplain '/' hslash (by decide)⟩

/-- A stem and an extension without a second point have this extension as a suffix, and with a second point they have
a shorter one. -/
lemma lower_suffixOf_iff {stem bare : List Char} (hstem : stem ≠ []) (hbare : bare ≠ []) :
    lower (Path.suffixOf (stem ++ '.' :: bare)) = lower ('.' :: bare) ↔ '.' ∉ bare := by
  by_cases hpoint : '.' ∈ bare
  · refine iff_of_false ?_ (not_not.mpr hpoint)
    obtain ⟨tail, front, hreverse, htail⟩ := List.eq_append_cons_of_mem (List.mem_reverse.mpr hpoint)
    have hsplit : bare = front.reverse ++ '.' :: tail.reverse := by
      rw [← List.reverse_reverse bare, hreverse]
      simp
    have hname : stem ++ '.' :: bare = (stem ++ '.' :: front.reverse) ++ '.' :: tail.reverse := by
      rw [hsplit]
      simp
    rw [hname, Path.suffixOf_append (by simpa using htail)]
    split_ifs
    · exact (lower_cons_ne_nil '.' bare).symm
    · rw [hsplit, ← List.cons_append]
      exact lower_append_ne (by simp)
  · rw [Path.suffixOf_append hpoint, if_neg (by simp [hstem, hbare])]
    exact iff_of_true rfl hpoint

section

variable {field text extension directory stem : String}

lemma hasExtension_append_iff (hextension : normalizeExtension field text = .ok extension)
    (hdirectory : directory = "" ∨ directory.toList.getLast? = some '/') (hstem : stem ≠ "")
    (hslash : '/' ∉ stem.toList) :
    hasExtension (directory ++ (stem ++ extension)) extension = true ↔ '.' ∉ extension.toList.tail := by
  obtain ⟨bare, rfl, hbare, hplain⟩ := exists_of_normalizeExtension hextension
  have hname : (Path.ofText (directory ++ (stem ++ String.ofList ('.' :: bare)))).name
      = stem ++ String.ofList ('.' :: bare) := by
    refine Path.name_ofText_append hdirectory ?_ ?_
    · simp [hslash, hplain]
    · have hpos := List.length_pos_iff.mpr hbare
      simp only [String.toList_append, String.toList_ofList, List.length_append, List.length_cons]
      omega
  rw [hasExtension, Path.suffix, hname, decide_eq_true_eq]
  simp only [String.toList_append, String.toList_ofList, List.tail_cons]
  exact lower_suffixOf_iff (by simpa using hstem) hbare

/-- A file with a stem and a normalized extension has this extension if and only if there is no second point in it.
Any service for which the extension is set selects the file, or leaves it out, accordingly. -/
theorem extension_selects_iff (hextension : normalizeExtension field text = .ok extension)
    (hdirectory : directory = "" ∨ directory.toList.getLast? = some '/') (hstem : stem ≠ "")
    (hslash : '/' ∉ stem.toList) :
    (hasExtension (directory ++ (stem ++ extension)) extension = true ↔ '.' ∉ extension.toList.tail) ∧
    ∀ disk root base payload overrides config, disk.resolve root = .ok base → Config.Declared overrides →
      Config.merge disk root payload overrides = .ok config →
      (Config.nonNull overrides.extension).or (Config.setting? payload "index" "extension") = some (.text text) →
      ∀ candidates, directory ++ (stem ++ extension) ∈ candidates →
        (directory ++ (stem ++ extension) ∈ filterCandidates config.settings.extension false candidates
          ↔ '.' ∉ extension.toList.tail) := by
  have hselects := hasExtension_append_iff hextension hdirectory hstem hslash
  refine ⟨hselects, ?_⟩
  intro disk root base payload overrides config hroot hdeclared hmerge hgiven candidates hmem
  have hset : Config.MeansExtension (.text text) config.extension := by
    have hmerged := ((Config.merge_settles hroot hdeclared).ok hmerge).2.extension
    rw [hgiven] at hmerged
    exact hmerged
  have hconfig : config.settings.extension = extension := by
    rw [← Config.normalizeExtension_eq_ok_iff, hextension] at hset
    exact (Except.ok.inj hset).symm
  rw [hconfig, filterCandidates, if_neg Bool.false_ne_true, List.mem_filter, hselects]
  exact and_iff_right hmem

end

/-- A file in a folder is kept by a service whose extension was given with blanks, a point and capitals. -/
theorem extension_selects_iff_spaced :
    normalizeExtension "overrides.extension" " .TXT" = .ok ".txt" ∧
    (Disk.mk (.folder [("p", .folder [] 0)] 0) ["p"] 0).resolve (.ofText ".") = .ok ⟨.slash, ["p"]⟩ ∧
    Config.Declared { extension := .text " .TXT" } ∧
    ∃ config, Config.merge (Disk.mk (.folder [("p", .folder [] 0)] 0) ["p"] 0) (.ofText ".") []
        { extension := .text " .TXT" } = .ok config ∧
      "src/a.txt" ∈ filterCandidates config.settings.extension false ["src/a.txt"] := by
  have hextension : normalizeExtension "overrides.extension" " .TXT" = .ok ".txt" := by decide
  have hroot : (Disk.mk (.folder [("p", .folder [] 0)] 0) ["p"] 0).resolve (.ofText ".") = .ok ⟨.slash, ["p"]⟩ := by
    decide
  have hdeclared : Config.Declared { extension := .text " .TXT" } := ⟨.inr ⟨_, rfl⟩, .inl rfl⟩
  have hmerge : Config.merge (Disk.mk (.folder [("p", .folder [] 0)] 0) ["p"] 0) (.ofText ".") []
      { extension := .text " .TXT" } = .ok { Config.defaults ⟨.slash, ["p"]⟩ with extension := ".txt" } := by
    rfl
  refine ⟨hextension, hroot, hdeclared, _, hmerge, ?_⟩
  have hfile : (hasExtension ("src/" ++ ("a" ++ ".txt")) ".txt" = true ↔ _) ∧ _ :=
    extension_selects_iff hextension (.inr (by decide)) (by decide) (by decide)
  exact (hfile.2 _ _ _ _ _ _ hroot hdeclared hmerge rfl ["src/a.txt"] (by simp)).mpr (by decide)

/-- An extension with a second point is taken, and selects no file that is named after it. -/
theorem second_point_selects_nothing :
    normalizeExtension "index.extension" "tar.gz" = .ok ".tar.gz" ∧ hasExtension "a.tar.gz" ".tar.gz" = false ∧
      filterCandidates ".tar.gz" false ["a.tar.gz"] = [] := by
  decide

end TemplateAtlas
