import Mathlib.Data.List.Infix
import Mathlib.Tactic.Common
import TemplateAtlas.Exclusion
import TemplateAtlas.Proofs.WrittenFiles

/-!
# Globs that name a folder

**Matching.**  A star matches any start of a text and leaves the rest to the pieces after it
(`acceptsAll_star_iff`); characters that stand for themselves match themselves (`acceptsAll_chars_iff`).

**Folders.**  A glob `**/name/**` matches a path exactly if the name stands in it between two slashes
(`accepts_folder_iff`).

**Names.**  A glob that names a folder has that form, once runs of slashes are ruled out (`eq_of_folderName?`).  So it
leaves out everything below each folder of that name (`isExcluded_of_mem_folderNames`).

**Components.**  What stands in a path between two slashes, one of them perhaps in front of the path, is a component
other than the last (`mem_dropLast_components_iff`).  So globs that name folders leave out what is below these folders
and nothing else: `isExcluded_folders_iff`.
-/

namespace TemplateAtlas

namespace Glob

/-! ## Matching -/

/-- A star matches any start of a text. -/
lemma acceptsAll_star_iff {pieces : List Piece} {text : List Char} :
    acceptsAll (.star :: pieces) text = true ↔ ∃ rest, rest <:+ text ∧ acceptsAll pieces rest = true := by
  induction text with
  | nil =>
      rw [acceptsAll]
      constructor
      · intro h
        exact ⟨[], List.suffix_refl [], h⟩
      · rintro ⟨rest, hrest, h⟩
        rwa [List.suffix_nil.mp hrest] at h
  | cons c text ih =>
      rw [acceptsAll, Bool.or_eq_true, ih]
      constructor
      · rintro (h | ⟨rest, hrest, h⟩)
        · exact ⟨c :: text, List.suffix_refl _, h⟩
        · exact ⟨rest, hrest.trans (List.suffix_cons c text), h⟩
      · rintro ⟨rest, hrest, h⟩
        rcases List.suffix_cons_iff.mp hrest with rfl | hrest
        · exact Or.inl h
        · exact Or.inr ⟨rest, hrest, h⟩

/-- Characters match themselves. -/
lemma acceptsAll_chars_iff {word : List Char} {pieces : List Piece} {text : List Char} :
    acceptsAll (word.map .char ++ pieces) text = true
      ↔ ∃ rest, text = word ++ rest ∧ acceptsAll pieces rest = true := by
  induction word generalizing text with
  | nil => simp
  | cons w word ih =>
      cases text with
      | nil => simp [acceptsAll]
      | cons c text =>
          rw [List.map_cons, List.cons_append, acceptsAll, Bool.and_eq_true, ih]
          · simp only [Piece.acceptsChar, decide_eq_true_eq, List.cons_append, List.cons.injEq]
            constructor
            · rintro ⟨rfl, rest, rfl, h⟩
              exact ⟨rest, ⟨rfl, rfl⟩, h⟩
            · rintro ⟨rest, ⟨rfl, rfl⟩, h⟩
              exact ⟨rfl, rest, rfl, h⟩
          · simp

/-- A character stands for itself if it is neither a star, nor a question mark, nor an opening bracket. -/
def isLiteral (c : Char) : Bool := c ≠ '*' && c ≠ '?' && c ≠ '['

lemma parse_literals {word : List Char} (h : ∀ c ∈ word, isLiteral c = true) (pattern : List Char) :
    parse (word ++ pattern) = word.map .char ++ parse pattern := by
  induction word with
  | nil => rfl
  | cons c word ih =>
      have hc := h c List.mem_cons_self
      simp only [isLiteral, Bool.and_eq_true, decide_eq_true_eq] at hc
      obtain ⟨⟨hstar, hany⟩, hbracket⟩ := hc
      rw [List.cons_append, parse.eq_5 _ _ hstar hany hbracket, ih fun d hd => h d (List.mem_cons_of_mem c hd)]
      rfl

/-! ## Folders -/

/-- The glob that names a folder. -/
def folder (name : String) : String := "**/" ++ name ++ "/**"

/-- The name of a folder between the slashes around it. -/
def between (name : String) : List Char := '/' :: (name.toList ++ ['/'])

lemma toList_folder (name : String) :
    (folder name).toList = '*' :: '*' :: (between name ++ ['*', '*']) := by
  simp [folder, between]

lemma parse_folder {name : String} (h : ∀ c ∈ name.toList, isLiteral c = true) :
    parse (folder name).toList = .star :: ((between name).map .char ++ [.star]) := by
  have hliteral : ∀ c ∈ between name, isLiteral c = true := by
    intro c hc
    simp only [between, List.mem_cons, List.mem_append, List.mem_nil_iff, or_false] at hc
    rcases hc with rfl | hc | rfl
    · decide
    · exact h c hc
    · decide
  have hend : parse ['*', '*'] = [.star] := by simp [parse]
  have hparse : parse (between name ++ ['*', '*']) = (between name).map .char ++ [.star] := by
    rw [parse_literals hliteral, hend]
  have hslash : (between name).map Piece.char ++ [.star]
      = .char '/' :: ((name.toList ++ ['/']).map .char ++ [.star]) := rfl
  rw [toList_folder, parse, parse, hparse, hslash]

/-- **A glob that names a folder** matches the paths in which the name stands between two slashes. -/
theorem accepts_folder_iff {name : String} (h : ∀ c ∈ name.toList, isLiteral c = true) (path : String) :
    accepts (folder name) path = true ↔ between name <:+: path.toList := by
  have hrest : ∀ text : List Char, acceptsAll [.star] text = true := by
    intro text
    refine acceptsAll_star_iff.mpr ⟨[], List.nil_suffix, ?_⟩
    simp [acceptsAll]
  rw [accepts_eq_acceptsAll, parse_folder h, acceptsAll_star_iff, List.infix_iff_prefix_suffix]
  constructor
  · rintro ⟨tail, htail, haccepts⟩
    obtain ⟨rest, hsplit, -⟩ := acceptsAll_chars_iff.mp haccepts
    exact ⟨tail, ⟨rest, hsplit.symm⟩, htail⟩
  · rintro ⟨tail, ⟨rest, hsplit⟩, htail⟩
    exact ⟨tail, htail, acceptsAll_chars_iff.mpr ⟨rest, hsplit.symm, hrest rest⟩⟩

end Glob

namespace Exclusion

open Glob

/-! ## Names -/

/-- There are no slashes to strip at the ends of a text. -/
lemma stripSlashes_eq_self {text : List Char} (hfront : text.head? ≠ some '/')
    (hback : text.getLast? ≠ some '/') : stripSlashes text = text := by
  have hdrop : ∀ cs : List Char, cs.head? ≠ some '/' → cs.dropWhile (· = '/') = cs := by
    intro cs hcs
    cases cs with
    | nil => rfl
    | cons c cs => exact List.dropWhile_cons_of_neg (by simpa using hcs)
  rw [stripSlashes, hdrop text hfront, hdrop text.reverse (by rwa [List.head?_reverse]),
    List.reverse_reverse]

/-- What stands between the stars and slashes at both ends of a glob. -/
lemma exists_middle {pattern : List Char} (hfront : ['*', '*', '/'] <+: pattern)
    (hback : ['/', '*', '*'] <:+ pattern) (hlength : 6 < pattern.length) :
    ∃ middle, pattern = ['*', '*', '/'] ++ middle ++ ['/', '*', '*'] ∧
      (pattern.drop 3).take (pattern.length - 6) = middle := by
  obtain ⟨rest, rfl⟩ := hfront
  rw [List.length_append] at hlength
  have hlong : ['/', '*', '*'].length ≤ rest.length := by
    simp only [List.length_cons, List.length_nil] at hlength ⊢
    omega
  obtain ⟨middle, rfl⟩ := List.suffix_of_suffix_length_le hback (List.suffix_append _ rest) hlong
  refine ⟨middle, (List.append_assoc _ _ _).symm, ?_⟩
  have hmiddle : (['*', '*', '/'] ++ (middle ++ ['/', '*', '*'])).length - 6 = middle.length := by
    simp only [List.length_append, List.length_cons, List.length_nil]
    omega
  rw [hmiddle]
  exact List.take_left

/-- **A glob from which a folder's name is taken is the glob that names it**, unless slashes follow each other. -/
lemma eq_of_folderName? {glob name : String} (hslashes : ¬ ['/', '/'] <:+: glob.toList)
    (h : folderName? glob = some name) :
    glob = folder name ∧ ∀ c ∈ name.toList, isLiteral c = true := by
  simp only [folderName?] at h
  split_ifs at h with hform hname
  rw [Bool.and_eq_true, List.isPrefixOf_iff_prefix, List.isSuffixOf_iff_suffix] at hform
  rw [Bool.or_eq_true, not_or, Bool.not_eq_true, Bool.not_eq_true, List.isEmpty_eq_false_iff,
    List.any_eq_false] at hname
  have hlength : 6 < glob.toList.length := by
    by_contra hshort
    rw [Nat.sub_eq_zero_of_le (by omega), List.take_zero] at hname
    exact hname.1 rfl
  obtain ⟨middle, hglob, hmiddle⟩ := exists_middle hform.1 hform.2 hlength
  rw [hmiddle] at h hname
  have hfirst : middle.head? ≠ some '/' := by
    intro hhead
    obtain ⟨more, rfl⟩ := List.head?_eq_some_iff.mp hhead
    exact hslashes ⟨['*', '*'], more ++ ['/', '*', '*'], by rw [hglob]; simp⟩
  have hlast : middle.getLast? ≠ some '/' := by
    intro hend
    obtain ⟨more, rfl⟩ := List.getLast?_eq_some_iff.mp hend
    exact hslashes ⟨['*', '*', '/'] ++ more, ['*', '*'], by rw [hglob]; simp⟩
  rw [stripSlashes_eq_self hfirst hlast] at h hname
  obtain rfl := Option.some.inj h
  constructor
  · rw [← String.toList_inj, hglob, toList_folder]
    simp [between]
  · intro c hc
    rw [String.toList_ofList] at hc
    have hplain := hname.2 c hc
    simp only [specials, List.contains_cons, List.contains_nil, Bool.or_eq_true, beq_iff_eq] at hplain
    simp only [isLiteral, Bool.and_eq_true, decide_eq_true_eq]
    tauto

/-- **What is below a folder of a known name is left out.** -/
theorem isExcluded_of_mem_folderNames {globs : List String}
    (hslashes : ∀ glob ∈ globs, ¬ ['/', '/'] <:+: glob.toList) {name path : String}
    (hname : name ∈ folderNames globs) (hpath : between name <:+: '/' :: path.toList) :
    isExcluded globs path = true := by
  rw [folderNames, Text.sortedTexts, List.mem_mergeSort, List.mem_eraseDups] at hname
  obtain ⟨glob, hglob, hfolder⟩ := List.mem_filterMap.mp hname
  obtain ⟨rfl, hliteral⟩ := eq_of_folderName? (hslashes glob hglob) hfolder
  have haccepts : Glob.accepts (folder name) ("/" ++ path) = true := by
    rw [accepts_folder_iff hliteral, String.toList_append]
    exact hpath
  rw [isExcluded, List.any_eq_true]
  exact ⟨folder name, hglob, by rw [haccepts, Bool.or_true]⟩

/-! ## Components -/

/-- A piece of a text that is not the last has a separator behind it, and another in front of it or of the text. -/
lemma between_of_mem_dropLast {separator : Char} {piece text : List Char}
    (h : piece ∈ (text.splitOn separator).dropLast) :
    separator :: (piece ++ [separator]) <:+: separator :: text := by
  induction hlength : text.length using Nat.strong_induction_on generalizing text with
  | _ length ih =>
      by_cases hmem : separator ∈ text
      · obtain ⟨front, rest, rfl, hfront⟩ := List.eq_append_cons_of_mem hmem
        rw [List.splitOn_append_cons_self_of_not_mem hfront,
          List.dropLast_cons_of_ne_nil (List.splitOn_ne_nil _ _), List.mem_cons] at h
        rcases h with rfl | h
        · exact ⟨[], rest, by simp⟩
        · have hshort : rest.length < length := by
            rw [← hlength, List.length_append, List.length_cons]
            omega
          have hrest := ih rest.length hshort h rfl
          exact hrest.trans ⟨separator :: front, [], by simp⟩
      · rw [List.splitOn_eq_singleton hmem] at h
        simp at h

/-- What has separators around it and none in it is a piece that is not the last. -/
lemma mem_dropLast_of_between {separator : Char} {piece text : List Char} (hpiece : separator ∉ piece)
    (h : separator :: (piece ++ [separator]) <:+: separator :: text) :
    piece ∈ (text.splitOn separator).dropLast := by
  obtain ⟨front, rest, hsplit⟩ := h
  have hrest : (piece ++ separator :: rest).splitOn separator = piece :: rest.splitOn separator :=
    List.splitOn_append_cons_self_of_not_mem hpiece rest
  cases front with
  | nil =>
      have htext : text = piece ++ separator :: rest := by simpa using hsplit.symm
      rw [htext, hrest, List.dropLast_cons_of_ne_nil (List.splitOn_ne_nil _ _)]
      exact List.mem_cons_self
  | cons c front =>
      have htext : text = front ++ separator :: (piece ++ separator :: rest) := by
        simpa using (List.cons.inj hsplit).2.symm
      rw [htext, List.splitOn_append_cons_self, hrest, List.dropLast_append_of_ne_nil (by simp),
        List.dropLast_cons_of_ne_nil (List.splitOn_ne_nil _ _)]
      exact List.mem_append_right _ List.mem_cons_self

/-- A name stands between two slashes, of which the first may be in front of the path, exactly if it is a
component other than the last. -/
lemma mem_dropLast_components_iff {name path : String} (h : '/' ∉ name.toList) :
    name ∈ (Disk.components path).dropLast ↔ between name <:+: '/' :: path.toList := by
  have hmem : name ∈ (Disk.components path).dropLast
      ↔ name.toList ∈ (path.toList.splitOn '/').dropLast := by
    rw [Disk.components, Text.splitAtChar_eq_splitOn, ← List.map_dropLast, List.mem_map]
    constructor
    · rintro ⟨piece, hpiece, rfl⟩
      rwa [String.toList_ofList]
    · intro hname
      exact ⟨name.toList, hname, String.ofList_toList⟩
  rw [hmem]
  exact ⟨between_of_mem_dropLast, mem_dropLast_of_between h⟩

/-- A name that a glob can stand for letter by letter: no slash, star, question mark or opening bracket is in it. -/
def isPlainName (name : String) : Bool := name.toList.all fun c => c ≠ '/' && isLiteral c

lemma literal_of_isPlainName {name : String} (h : isPlainName name = true) :
    ∀ c ∈ name.toList, isLiteral c = true := by
  intro c hc
  have hplain := List.all_eq_true.mp h c hc
  rw [Bool.and_eq_true] at hplain
  exact hplain.2

lemma slash_not_mem_of_isPlainName {name : String} (h : isPlainName name = true) :
    '/' ∉ name.toList := by
  intro hslash
  have hplain := List.all_eq_true.mp h '/' hslash
  simp at hplain

/-- **Globs that name folders leave out exactly what is below these folders**: the paths in which one of the names
stands between two slashes, that is, those with one of the names as a component other than the last. -/
theorem isExcluded_folders_iff {names : List String} (h : ∀ name ∈ names, isPlainName name = true)
    (path : String) :
    (isExcluded (names.map folder) path = true
        ↔ ∃ name ∈ names, between name <:+: '/' :: path.toList) ∧
      (isExcluded (names.map folder) path = true
        ↔ ∃ name ∈ names, name ∈ (Disk.components path).dropLast) := by
  have hglob : ∀ name ∈ names,
      (Glob.accepts (folder name) path || Glob.accepts (folder name) ("/" ++ path)) = true
        ↔ between name <:+: '/' :: path.toList := by
    intro name hname
    have hliteral := literal_of_isPlainName (h name hname)
    have hslash : ("/" ++ path).toList = '/' :: path.toList := by
      rw [String.toList_append]
      rfl
    rw [Bool.or_eq_true, accepts_folder_iff hliteral, accepts_folder_iff hliteral, hslash]
    exact or_iff_right_of_imp List.infix_cons
  have hbetween : isExcluded (names.map folder) path = true
      ↔ ∃ name ∈ names, between name <:+: '/' :: path.toList := by
    rw [isExcluded, List.any_map, List.any_eq_true]
    exact exists_congr fun name => and_congr_right fun hname => hglob name hname
  refine ⟨hbetween, hbetween.trans (exists_congr fun name => and_congr_right fun hname => ?_)⟩
  exact (mem_dropLast_components_iff (slash_not_mem_of_isPlainName (h name hname))).symm

/-- A path with a line break and repeated components, next to one in which the names only end and begin others. -/
theorem isExcluded_folders_repeated :
    let names := ["out", "a]b"]
    (∀ name ∈ names, isPlainName name = true) ∧
      isExcluded (names.map folder) "x\ny/a]b/a]b/out" = true ∧
      isExcluded (names.map folder) "a]b.soy/checkout/layout/out" = false := by
  intro names
  have hnames : ∀ name ∈ names, isPlainName name = true := by decide +kernel
  have hbelow := (isExcluded_folders_iff hnames "x\ny/a]b/a]b/out").2
  have hbeside := (isExcluded_folders_iff hnames "a]b.soy/checkout/layout/out").2
  refine ⟨hnames, hbelow.mpr (by decide +kernel), ?_⟩
  rw [← Bool.not_eq_true, hbeside]
  decide +kernel

end Exclusion

end TemplateAtlas
