import Mathlib.Data.List.Nodup
import Mathlib.Data.String.Basic
import Mathlib.Tactic.Common
import TemplateAtlas.ProjectFiles
import TemplateAtlas.Proofs.FolderGlobs
import TemplateAtlas.Proofs.WrittenFiles

/-!
# Which files a project lists

A project lists its files in one walk over its folders.  The walk skips folders by their names, and what it lists is
said here without it.

**Trees.**  `WellNamed` entries have names, each its own, in every folder below.  Then the files have different places,
which are those at which a file stands (`mem_placesAmong_iff`), and different paths (`relative_injective`).

**The walk.**  A folder is skipped if the globs name it and leave it out, or if it cannot be opened.  In both cases
nothing in it is to be listed (`lists_of_skipped`); for the first this rests on `isExcluded_of_mem_folderNames`, and
runs of slashes in globs have to be ruled out.  So the walk finds the files that a walk through all folders finds, after
those have been taken out that the globs leave out: `filesAmong_eq`.

**The list.**  It holds every file that is reached, not left out and accepted, once, in the order of the paths from the
root (`list_finds`).  Any folders may be such that they cannot be opened, and what is below one of them is missing from
the list without a fault: `list_omits_closed` has a folder whose path is longer than any path that the disk follows, and
one that somebody has closed.
-/

namespace TemplateAtlas

open Text

/-! ## Trees -/

namespace Node

/-- What a folder can call an entry: no point, and without slashes. -/
structure IsName (name : String) : Prop where
  point : Disk.isPoint name = false
  slash : '/' ∉ name.toList

/-- A place below another one, spelled out in names. -/
structure IsProper (place : List String) : Prop where
  nonempty : place ≠ []
  names : ∀ name ∈ place, IsName name

/-- Every folder among some entries and below them gives each of its entries a name of its own.  The current folder
keeps a place without a name when it is removed, and is empty from then on. -/
inductive WellNamed : List (String × Node) → Prop
  | nil : WellNamed []
  | file {name : String} {bytes : List UInt8} {time : Int} {entries : List (String × Node)}
      (hname : IsName name) (hnew : name ∉ entries.map (·.1)) (hrest : WellNamed entries) :
      WellNamed ((name, .file bytes time) :: entries)
  | link {name target : String} {entries : List (String × Node)}
      (hname : IsName name) (hnew : name ∉ entries.map (·.1)) (hrest : WellNamed entries) :
      WellNamed ((name, .link target) :: entries)
  | folder {name : String} {inner : List (String × Node)} {time : Int} {entries : List (String × Node)}
      (hname : IsName name) (hnew : name ∉ entries.map (·.1)) (hinner : WellNamed inner)
      (hrest : WellNamed entries) : WellNamed ((name, .folder inner time) :: entries)
  | gone {time : Int} {entries : List (String × Node)}
      (hnew : Disk.goneName ∉ entries.map (·.1)) (hrest : WellNamed entries) :
      WellNamed ((Disk.goneName, .folder [] time) :: entries)

/-- The places of all files among some entries and below them. -/
def placesAmong : List (String × Node) → List (List String)
  | [] => []
  | (name, .file _ _) :: entries => [name] :: placesAmong entries
  | (name, .folder inner _) :: entries => (placesAmong inner).map (name :: ·) ++ placesAmong entries
  | (_, .link _) :: entries => placesAmong entries
termination_by entries => sizeOf entries

variable {entries : List (String × Node)}

/-- A place starts with the name of an entry. -/
lemma exists_cons_of_mem_placesAmong (h : WellNamed entries) :
    ∀ place ∈ placesAmong entries, ∃ name ∈ entries.map (·.1), ∃ inside, place = name :: inside := by
  have hmore : ∀ (entry : String × Node) {others : List (String × Node)} {place : List String},
      (∃ name ∈ others.map (·.1), ∃ inside, place = name :: inside) →
        ∃ name ∈ (entry :: others).map (·.1), ∃ inside, place = name :: inside := by
    rintro entry others place ⟨name, hname, hsplit⟩
    exact ⟨name, List.mem_cons_of_mem _ hname, hsplit⟩
  induction h with
  | nil => simp [placesAmong]
  | file hname hnew hrest ih =>
      rw [placesAmong, List.forall_mem_cons]
      exact ⟨⟨_, List.mem_cons_self, [], rfl⟩, fun place hplace => hmore _ (ih place hplace)⟩
  | link hname hnew hrest ih =>
      rw [placesAmong]
      exact fun place hplace => hmore _ (ih place hplace)
  | folder hname hnew hinner hrest ihinner ih =>
      rw [placesAmong, List.forall_mem_append, List.forall_mem_map]
      exact ⟨fun inside _ => ⟨_, List.mem_cons_self, inside, rfl⟩,
        fun place hplace => hmore _ (ih place hplace)⟩
  | gone hnew hrest ih =>
      rw [placesAmong, placesAmong, List.map_nil, List.nil_append]
      exact fun place hplace => hmore _ (ih place hplace)

/-- A place that starts with a new name is not among the places. -/
lemma cons_not_mem_placesAmong (h : WellNamed entries) {name : String} (hnew : name ∉ entries.map (·.1))
    (inside : List String) : name :: inside ∉ placesAmong entries := by
  intro hmem
  obtain ⟨other, hother, rest, hsplit⟩ := exists_cons_of_mem_placesAmong h _ hmem
  exact hnew ((List.cons.inj hsplit).1 ▸ hother)

lemma nil_not_mem_placesAmong (h : WellNamed entries) : [] ∉ placesAmong entries := by
  intro hmem
  obtain ⟨name, hname, inside, hsplit⟩ := exists_cons_of_mem_placesAmong h [] hmem
  exact absurd hsplit (List.cons_ne_nil name inside).symm

lemma at?_cons (name first : String) (node : Node) (time : Int) (inside : List String) :
    (folder ((name, node) :: entries) time).at? (first :: inside)
      = if first = name then node.at? inside else (folder entries time).at? (first :: inside) := by
  rw [at?, at?, List.lookup_cons]
  split_ifs with hfirst
  · simp [hfirst]
  · rw [beq_false_of_ne hfirst]

/-- **The places are those at which a file stands.** -/
lemma mem_placesAmong_iff (h : WellNamed entries) (time : Int) (place : List String) :
    place ∈ placesAmong entries
      ↔ ∃ bytes stamp, (folder entries time).at? place = some (.file bytes stamp) := by
  cases place with
  | nil => simp [at?, nil_not_mem_placesAmong h]
  | cons first inside =>
      induction h generalizing time first inside with
      | nil => simp [placesAmong, at?]
      | @file name bytes stamp entries hname hnew hrest ih =>
          rw [placesAmong, List.mem_cons, at?_cons, ih time]
          split_ifs with hfirst
          · have hnot := cons_not_mem_placesAmong hrest hnew inside
            rw [ih time] at hnot
            cases inside with
            | nil => simp [hfirst, at?]
            | cons second inside => simpa [hfirst, at?] using hnot
          · simp [hfirst]
      | @link name target entries hname hnew hrest ih =>
          rw [placesAmong, at?_cons]
          split_ifs with hfirst
          · have hnot := cons_not_mem_placesAmong hrest hnew inside
            cases inside <;> simpa [hfirst, at?] using hnot
          · exact ih time first inside
      | @folder name inner stamp entries hname hnew hinner hrest ihinner ih =>
          rw [placesAmong, List.mem_append, List.mem_map, at?_cons]
          split_ifs with hfirst
          · have hnot := cons_not_mem_placesAmong hrest hnew inside
            rw [hfirst, or_iff_left hnot]
            cases inside with
            | nil => simp [at?, nil_not_mem_placesAmong hinner]
            | cons second inside => simp [ihinner stamp]
          · rw [ih time]
            simp [Ne.symm hfirst]
      | @gone stamp entries hnew hrest ih =>
          rw [placesAmong, placesAmong, List.map_nil, List.nil_append, at?_cons]
          split_ifs with hfirst
          · have hnot := cons_not_mem_placesAmong hrest hnew inside
            cases inside <;> simpa [hfirst, at?] using hnot
          · exact ih time first inside

/-- Each file has one place. -/
lemma nodup_placesAmong (h : WellNamed entries) : (placesAmong entries).Nodup := by
  induction h with
  | nil => simp [placesAmong]
  | file hname hnew hrest ih =>
      rw [placesAmong, List.nodup_cons]
      exact ⟨cons_not_mem_placesAmong hrest hnew [], ih⟩
  | link hname hnew hrest ih => rwa [placesAmong]
  | @folder name inner time entries hname hnew hinner hrest ihinner ih =>
      rw [placesAmong, List.nodup_append]
      refine ⟨ihinner.map List.cons_injective, ih, ?_⟩
      intro place hplace other hother heq
      obtain ⟨inside, -, rfl⟩ := List.mem_map.mp hplace
      exact cons_not_mem_placesAmong hrest hnew inside (heq ▸ hother)
  | gone hnew hrest ih => rwa [placesAmong, placesAmong, List.map_nil, List.nil_append]

lemma isProper_of_mem_placesAmong (h : WellNamed entries) :
    ∀ place ∈ placesAmong entries, IsProper place := by
  induction h with
  | nil => simp [placesAmong]
  | @file name bytes time entries hname hnew hrest ih =>
      rw [placesAmong, List.forall_mem_cons]
      exact ⟨⟨List.cons_ne_nil _ _, by simpa using hname⟩, ih⟩
  | link hname hnew hrest ih => rwa [placesAmong]
  | folder hname hnew hinner hrest ihinner ih =>
      rw [placesAmong, List.forall_mem_append, List.forall_mem_map]
      refine ⟨fun inside hinside => ⟨List.cons_ne_nil _ _, ?_⟩, ih⟩
      rw [List.forall_mem_cons]
      exact ⟨hname, (ihinner inside hinside).names⟩
  | gone hnew hrest ih => rwa [placesAmong, placesAmong, List.map_nil, List.nil_append]

end Node

open Node

/-! ## Paths -/

/-- The path of a place from the root. -/
def relative (place : List String) : String := String.intercalate "/" place

/-- The path of a folder from the root, with the slash behind it that separates it from a name; empty for the root. -/
def inside (above : List String) : String := String.join (above.map (· ++ "/"))

variable {above place : List String} {name : String}

@[simp] lemma inside_nil : inside [] = "" := rfl

lemma inside_concat (above : List String) (name : String) :
    inside (above ++ [name]) = inside above ++ name ++ "/" := by
  simp [inside, String.join_append, String.join_cons, String.append_assoc]

lemma relative_cons (name : String) (h : place ≠ []) :
    relative (name :: place) = name ++ "/" ++ relative place :=
  String.intercalate_cons_of_ne_nil h

lemma relative_append (above : List String) (h : place ≠ []) :
    relative (above ++ place) = inside above ++ relative place := by
  induction above with
  | nil => simp
  | cons first above ih =>
      have hne : above ++ place ≠ [] := by simp [h]
      rw [List.cons_append, relative_cons first hne, ih, inside, inside, List.map_cons, String.join_cons]
      simp only [String.append_assoc]

lemma relative_concat (above : List String) (name : String) :
    relative (above ++ [name]) = inside above ++ name := by
  rw [relative_append above (by simp), relative, String.intercalate_singleton]

/-- Behind a slash, the path of a folder ends in a slash as well. -/
lemma exists_slash (above : List String) : ∃ front, '/' :: (inside above).toList = front ++ ['/'] := by
  rcases List.eq_nil_or_concat above with rfl | ⟨others, name, rfl⟩
  · exact ⟨[], rfl⟩
  · refine ⟨'/' :: (inside others ++ name).toList, ?_⟩
    rw [List.concat_eq_append, inside_concat, String.toList_append]
    rfl

/-- The name of a folder stands between slashes in the path of what is below it. -/
lemma between_in_path (above : List String) (name : String) (h : place ≠ []) :
    Glob.between name <:+: '/' :: (relative (above ++ name :: place)).toList := by
  obtain ⟨front, hfront⟩ := exists_slash above
  refine ⟨front, (relative place).toList, ?_⟩
  rw [relative_append above (List.cons_ne_nil _ _), relative_cons name h, String.toList_append,
    ← List.cons_append, hfront, Glob.between]
  simp

/-- A path is made of the names of its place. -/
lemma components_relative (h : IsProper place) : Disk.components (relative place) = place :=
  Disk.components_intercalate h.nonempty fun name hname => (h.names name hname).slash

lemma relative_injective {other : List String} (h : IsProper place) (hother : IsProper other)
    (heq : relative place = relative other) : place = other := by
  rw [← components_relative h, heq, components_relative hother]

namespace ProjectFiles

variable {project : ProjectFiles} {refusal? : String → Option String}

/-- The absolute path of a place below the root. -/
def pathOf (project : ProjectFiles) (place : List String) : String :=
  ({ project.root with parts := project.root.parts ++ place } : Path).text

lemma absolute_relative (h : IsProper place) :
    project.absolute (relative place) = project.pathOf place := by
  have hparts : (Path.ofText (relative place)).parts = place := by
    rw [Disk.parts_ofText, components_relative h, List.filter_eq_self]
    intro name hname
    rw [(h.names name hname).point]
    rfl
  have hroot : (Path.ofText (relative place)).root = .relative := by
    refine (Disk.root_ofText_iff _).mpr fun hslash => ?_
    obtain ⟨text, htext⟩ := List.head?_eq_some_iff.mp hslash
    have hfirst : "" ∈ place := by
      rw [← components_relative h, Disk.components, htext, splitAtChar, if_pos rfl]
      exact List.mem_cons_self
    exact absurd (h.names "" hfirst).point (by decide)
  rw [absolute, Path.join, Path.isAbsolute, hroot, hparts]
  rfl

/-! ## The walk -/

/-- Every folder below another one can be opened on the way to a place in it. -/
def opensTo (project : ProjectFiles) (refusal? : String → Option String) (above : List String) :
    List String → Bool
  | name :: next :: place =>
    project.opens refusal? (relative (above ++ [name])) &&
      opensTo project refusal? (above ++ [name]) (next :: place)
  | _ => true

/-- The file at a place below a folder is listed. -/
def lists (project : ProjectFiles) (refusal? : String → Option String) (above place : List String) : Bool :=
  project.opensTo refusal? above place && !Exclusion.isExcluded project.globs (relative (above ++ place))

lemma lists_cons (above : List String) (name : String) (h : place ≠ []) :
    project.lists refusal? above (name :: place)
      = (project.opens refusal? (relative (above ++ [name])) &&
          project.lists refusal? (above ++ [name]) place) := by
  obtain ⟨next, rest, rfl⟩ := List.exists_cons_of_ne_nil h
  rw [lists, lists, opensTo, Bool.and_assoc, List.append_assoc]
  rfl

/-- **A folder that is not entered holds nothing that is listed.** -/
lemma lists_of_skipped (hslashes : ∀ glob ∈ project.globs, ¬ ['/', '/'] <:+: glob.toList)
    (h : (project.isPruned name (relative (above ++ [name]))
      || !project.opens refusal? (relative (above ++ [name]))) = true) (hplace : place ≠ []) :
    project.lists refusal? above (name :: place) = false := by
  rw [Bool.or_eq_true, Bool.not_eq_true', isPruned, Bool.and_eq_true, List.contains_iff_mem] at h
  rcases h with ⟨hname, -⟩ | hclosed
  · have hexcluded : Exclusion.isExcluded project.globs (relative (above ++ name :: place)) = true :=
      Exclusion.isExcluded_of_mem_folderNames hslashes hname (between_in_path above name hplace)
    rw [lists, hexcluded, Bool.not_true, Bool.and_false]
  · rw [lists_cons above name hplace, hclosed, Bool.false_and]

lemma filter_lists_of_skipped (hslashes : ∀ glob ∈ project.globs, ¬ ['/', '/'] <:+: glob.toList)
    (h : (project.isPruned name (relative (above ++ [name]))
      || !project.opens refusal? (relative (above ++ [name]))) = true)
    {places : List (List String)} (hplaces : ∀ place ∈ places, place ≠ []) :
    (places.map (name :: ·)).filter (project.lists refusal? above) = [] := by
  rw [List.filter_eq_nil_iff, List.forall_mem_map]
  intro place hplace
  rw [lists_of_skipped hslashes h (hplaces place hplace)]
  exact Bool.false_ne_true

/-- In a folder that can be opened the same places are listed as from above. -/
lemma filter_lists_of_opens (h : project.opens refusal? (relative (above ++ [name])) = true)
    {places : List (List String)} (hplaces : ∀ place ∈ places, place ≠ []) :
    (places.map (name :: ·)).filter (project.lists refusal? above)
      = (places.filter (project.lists refusal? (above ++ [name]))).map (name :: ·) := by
  rw [List.filter_map]
  refine congrArg _ (List.filter_congr fun place hplace => ?_)
  rw [Function.comp_apply, lists_cons above name (hplaces place hplace), h, Bool.true_and]

/-- **The walk that skips folders finds what the walk over all places finds.** -/
theorem filesAmong_eq (hslashes : ∀ glob ∈ project.globs, ¬ ['/', '/'] <:+: glob.toList)
    {entries : List (String × Node)} (h : WellNamed entries) (above : List String) :
    project.filesAmong refusal? (inside above) entries
      = ((placesAmong entries).filter (project.lists refusal? above)).map fun place =>
          relative (above ++ place) := by
  induction h generalizing above with
  | nil => simp [filesAmong, placesAmong]
  | @file name bytes time entries hname hnew hrest ih =>
      rw [filesAmong, placesAmong, List.filter_cons, ← relative_concat, ih]
      simp only [lists, opensTo, Bool.true_and]
      cases Exclusion.isExcluded project.globs (relative (above ++ [name])) <;> simp
  | link hname hnew hrest ih => rw [filesAmong, placesAmong, ih]
  | @folder name inner time entries hname hnew hinner hrest ihinner ih =>
      have hplaces : ∀ place ∈ placesAmong inner, place ≠ [] := fun place hplace =>
        (isProper_of_mem_placesAmong hinner place hplace).nonempty
      rw [filesAmong, placesAmong, List.filter_append, List.map_append, ← ih, ← relative_concat]
      split_ifs with hskip
      · rw [filter_lists_of_skipped hslashes hskip hplaces]
        rfl
      · rw [Bool.or_eq_true, not_or, Bool.not_eq_true', Bool.not_eq_false] at hskip
        rw [filter_lists_of_opens hskip.2 hplaces, relative_concat, ← inside_concat, ihinner, List.map_map]
        simp
  | gone hnew hrest ih =>
      rw [filesAmong, filesAmong, placesAmong, placesAmong, List.map_nil, List.nil_append, ih]
      simp

/-! ## The list -/

/-- Every folder between the root and a place can be opened. -/
def Reaches (project : ProjectFiles) (refusal? : String → Option String) (place : List String) : Prop :=
  ∀ above below, place = above ++ below → above ≠ [] → below ≠ [] → refusal? (project.pathOf above) = none

lemma opens_iff (h : IsProper place) :
    project.opens refusal? (relative place) = true ↔ refusal? (project.pathOf place) = none := by
  rw [opens, absolute_relative h, Option.isNone_iff_eq_none]

lemma opensTo_iff (hnames : ∀ name ∈ above ++ place, IsName name) :
    project.opensTo refusal? above place = true ↔ ∀ front back, place = front ++ back → front ≠ [] → back ≠ [] →
      refusal? (project.pathOf (above ++ front)) = none := by
  induction place generalizing above with
  | nil =>
      refine iff_of_true rfl fun front back hsplit hfront _ => ?_
      exact absurd (List.append_eq_nil_iff.mp hsplit.symm).1 hfront
  | cons name place ih =>
      cases place with
      | nil =>
          refine iff_of_true rfl fun front back hsplit hfront hback => ?_
          rcases List.singleton_eq_append_iff.mp hsplit with ⟨hnil, -⟩ | ⟨-, hnil⟩
          · exact absurd hnil hfront
          · exact absurd hnil hback
      | cons next place =>
          have hfirst : IsProper (above ++ [name]) := by
            refine ⟨by simp, fun other hother => hnames other ?_⟩
            simp only [List.mem_append, List.mem_cons, List.mem_nil_iff, or_false] at hother ⊢
            tauto
          rw [opensTo, Bool.and_eq_true, opens_iff hfirst, ih (by simpa using hnames)]
          constructor
          · rintro ⟨hopen, hrest⟩ front back hsplit hfront hback
            obtain ⟨other, front, rfl⟩ := List.exists_cons_of_ne_nil hfront
            rw [List.cons_append, List.cons.injEq] at hsplit
            obtain ⟨rfl, hsplit⟩ := hsplit
            by_cases hnil : front = []
            · rw [hnil]
              exact hopen
            · have hmore := hrest front back hsplit hnil hback
              rwa [List.append_assoc] at hmore
          · intro h
            refine ⟨h [name] (next :: place) rfl (by simp) (by simp), fun front back hsplit _ hback => ?_⟩
            have hmore := h (name :: front) back (congrArg _ hsplit) (by simp) hback
            rwa [List.append_assoc]

lemma reaches_iff (hnames : ∀ name ∈ place, IsName name) :
    project.opensTo refusal? [] place = true ↔ project.Reaches refusal? place :=
  opensTo_iff hnames

variable {disk : Disk} {entries : List (String × Node)} {time : Int}

/-- The places of the files that the globs do not leave out, in the order of their paths. -/
def sortedPlaces (project : ProjectFiles) (refusal? : String → Option String) (entries : List (String × Node)) :
    List (List String) :=
  ((placesAmong entries).filter (project.lists refusal? [])).mergeSort fun a b => decide (relative a ≤ relative b)

lemma mem_sortedPlaces_iff (h : WellNamed entries) (time : Int) :
    place ∈ project.sortedPlaces refusal? entries ↔
      (∃ bytes stamp, (folder entries time).at? place = some (.file bytes stamp)) ∧
        project.Reaches refusal? place ∧ Exclusion.isExcluded project.globs (relative place) = false := by
  rw [sortedPlaces, List.mem_mergeSort, List.mem_filter, ← mem_placesAmong_iff h time]
  refine and_congr_right fun hplace => ?_
  rw [lists, Bool.and_eq_true, Bool.not_eq_true', reaches_iff (isProper_of_mem_placesAmong h place hplace).names]
  rfl

lemma isProper_of_mem_sortedPlaces (h : WellNamed entries) (hplace : place ∈ project.sortedPlaces refusal? entries) :
    IsProper place := by
  rw [sortedPlaces, List.mem_mergeSort, List.mem_filter] at hplace
  exact isProper_of_mem_placesAmong h place hplace.1

lemma sortedPlaces_increasing (h : WellNamed entries) :
    (project.sortedPlaces refusal? entries).Pairwise fun a b => relative a < relative b := by
  have hsorted : (project.sortedPlaces refusal? entries).Pairwise fun a b => relative a ≤ relative b := by
    have hsort := @List.pairwise_mergeSort _ (fun a b : List String => decide (relative a ≤ relative b))
      (by simpa using fun a b c => le_trans) (by simpa using fun a b => le_total _ _)
      ((placesAmong entries).filter (project.lists refusal? []))
    rw [sortedPlaces]
    simpa only [decide_eq_true_eq] using hsort
  have hnodup : (project.sortedPlaces refusal? entries).Nodup :=
    (List.mergeSort_perm _ _).nodup_iff.mpr ((nodup_placesAmong h).filter _)
  refine (hsorted.and hnodup).imp_of_mem ?_
  rintro a b ha hb ⟨hle, hne⟩
  refine lt_of_le_of_ne hle fun heq => hne ?_
  exact relative_injective (isProper_of_mem_sortedPlaces h ha) (isProper_of_mem_sortedPlaces h hb) heq

lemma list_eq (hroot : disk.nodeAt project.root.text = .ok (.folder entries time))
    (hopen : refusal? project.root.text = none) (h : WellNamed entries)
    (hslashes : ∀ glob ∈ project.globs, ¬ ['/', '/'] <:+: glob.toList) (accept : String → Bool) :
    project.list refusal? disk accept
      = .ok (((project.sortedPlaces refusal? entries).filter fun place => accept (project.pathOf place)).map
          project.pathOf) := by
  have hsorted : sortedTexts (project.filesAmong refusal? "" entries)
      = (project.sortedPlaces refusal? entries).map relative := by
    have hfiles : project.filesAmong refusal? (inside []) entries = _ := filesAmong_eq hslashes h []
    rw [inside_nil] at hfiles
    rw [hfiles, sortedTexts, sortedPlaces]
    exact (@List.map_mergeSort _ _ (fun a b => decide (relative a ≤ relative b))
      (fun a b => decide (a ≤ b)) relative _ fun _ _ _ _ => rfl).symm
  have habsolute : ((project.sortedPlaces refusal? entries).map relative).map project.absolute
      = (project.sortedPlaces refusal? entries).map project.pathOf := by
    rw [List.map_map]
    refine List.map_congr_left fun place hplace => ?_
    exact absolute_relative (isProper_of_mem_sortedPlaces h hplace)
  rw [list, hroot]
  simp only [hopen]
  rw [hsorted, habsolute, List.filter_map]
  rfl

/-- **The files of a project.**  The root leads to a folder that can be opened, any of the folders below it may be such
that they cannot, and no glob has two slashes in a row.  Then the list has the absolute path of a place exactly if a file
stands there that can be reached through the folders above it, that no glob leaves out, and that passes the test.  The
paths from the root are in increasing order, so that no file is listed twice. -/
theorem list_finds (hroot : disk.nodeAt project.root.text = .ok (.folder entries time))
    (hopen : refusal? project.root.text = none) (h : WellNamed entries)
    (hslashes : ∀ glob ∈ project.globs, ¬ ['/', '/'] <:+: glob.toList) (accept : String → Bool) :
    ∃ places : List (List String),
      project.list refusal? disk accept = .ok (places.map project.pathOf) ∧
      places.Pairwise (fun a b => relative a < relative b) ∧
      ∀ place, place ∈ places ↔
        (∃ bytes stamp, (folder entries time).at? place = some (.file bytes stamp)) ∧
        project.Reaches refusal? place ∧ Exclusion.isExcluded project.globs (relative place) = false ∧
        accept (project.pathOf place) = true := by
  refine ⟨_, list_eq hroot hopen h hslashes accept, (sortedPlaces_increasing h).filter _, fun place => ?_⟩
  rw [List.mem_filter, mem_sortedPlaces_iff h time, and_assoc, and_assoc]

/-- The top of a disk is a root as well. -/
lemma nodeAt_top (entries : List (String × Node)) (time now : Int) :
    (⟨.folder entries time, [], now⟩ : Disk).nodeAt (⟨.slash, []⟩ : Path).text
      = .ok (.folder entries time) := rfl

/-- A link, a folder that the globs name, one that is closed, files in a folder of which one is left out, and a file
that is refused. -/
theorem list_finds_mixed :
    let project : ProjectFiles := ⟨⟨.slash, []⟩, ["**/node_modules/**", "*.txt"]⟩
    let entries := [("node_modules", folder [("x.soy", .file [] 0)] 0), ("l.soy", .link "a/c.soy"),
      ("d", folder [("f.soy", .file [] 0)] 0),
      ("a", folder [("b.txt", .file [] 0), ("c.soy", .file [] 0), ("up", .link "..")] 0),
      ("a.soy", .file [] 0)]
    let refusal? : String → Option String := fun path => if path = "/d" then some "Permission denied" else none
    let accept : String → Bool := fun path => path ≠ "/a.soy"
    WellNamed entries ∧ ∃ places : List (List String),
      project.list refusal? ⟨.folder entries 0, [], 0⟩ accept = .ok (places.map project.pathOf) ∧
      places.Pairwise (fun a b => relative a < relative b) ∧
      ∀ place, place ∈ places ↔
        (∃ bytes stamp, (folder entries 0).at? place = some (.file bytes stamp)) ∧
        project.Reaches refusal? place ∧ Exclusion.isExcluded project.globs (relative place) = false ∧
        accept (project.pathOf place) = true := by
  intro project entries refusal? accept
  have hproper : ∀ name ∈ ["node_modules", "x.soy", "l.soy", "d", "f.soy", "a", "b.txt", "c.soy", "up", "a.soy"],
      Disk.isPoint name = false ∧ '/' ∉ name.toList := by decide +kernel
  have hname : ∀ name ∈ ["node_modules", "x.soy", "l.soy", "d", "f.soy", "a", "b.txt", "c.soy", "up", "a.soy"],
      IsName name := fun name hmem => ⟨(hproper name hmem).1, (hproper name hmem).2⟩
  have hnames : WellNamed entries :=
    .folder (hname _ (by simp)) (by decide) (.file (hname _ (by simp)) (by decide) .nil)
      (.link (hname _ (by simp)) (by decide)
        (.folder (hname _ (by simp)) (by decide) (.file (hname _ (by simp)) (by decide) .nil)
          (.folder (hname _ (by simp)) (by decide)
            (.file (hname _ (by simp)) (by decide)
              (.file (hname _ (by simp)) (by decide) (.link (hname _ (by simp)) (by decide) .nil)))
            (.file (hname _ (by simp)) (by decide) .nil))))
  have hopen : refusal? project.root.text = none := by decide
  have hslashes : ∀ glob ∈ project.globs, ¬ ['/', '/'] <:+: glob.toList := by decide +kernel
  exact ⟨hnames, list_finds (nodeAt_top entries 0 0) hopen hnames hslashes accept⟩

-- With two slashes in a row a glob may name a folder without leaving out what is in it.
example :
    let project : ProjectFiles := ⟨⟨.slash, []⟩, ["**//b/**", "b/"]⟩
    project.filesAmong Disk.refusal? "" [("b", .folder [("x", .file [] 0)] 0)] = [] ∧
      Exclusion.isExcluded project.globs "b/x" = false := by
  decide +kernel

/-! ## Folders that cannot be opened -/

/-- A name that is nearly as long as names can be. -/
def longName : String := String.ofList (List.replicate 250 'd')

/-- Folders with long names, each in the one before, and a file in the last one. -/
def deepEntries : Nat → List (String × Node)
  | 0 => [("f.soy", .file [] 0)]
  | depth + 1 => [(longName, .folder (deepEntries depth) 0)]

lemma isName_longName : IsName longName := by
  refine ⟨by decide +kernel, fun hmem => ?_⟩
  have hletters : longName.toList = List.replicate 250 'd' := String.toList_ofList
  rw [hletters] at hmem
  exact absurd (List.eq_of_mem_replicate hmem) (by decide)

lemma wellNamed_deepEntries (depth : Nat) : WellNamed (deepEntries depth) := by
  induction depth with
  | zero => exact .file ⟨by decide, by decide⟩ List.not_mem_nil .nil
  | succ depth ih => exact .folder isName_longName List.not_mem_nil ih .nil

lemma placesAmong_deepEntries (depth : Nat) :
    placesAmong (deepEntries depth) = [List.replicate depth longName ++ ["f.soy"]] := by
  induction depth with
  | zero => simp [deepEntries, placesAmong]
  | succ depth ih => simp [deepEntries, placesAmong, ih, List.replicate_succ]

lemma at?_deepEntries (depth : Nat) :
    (folder (deepEntries depth) 0).at? (List.replicate depth longName ++ ["f.soy"])
      = some (.file [] 0) := by
  induction depth with
  | zero => rfl
  | succ depth ih =>
      rw [List.replicate_succ, List.cons_append, deepEntries, at?_cons, if_pos rfl]
      exact ih

/-- A file below a folder that cannot be opened is not listed, and there is no fault.  The path of the one folder is too
long to be followed, and the other one is closed. -/
theorem list_omits_closed :
    let project : ProjectFiles := ⟨⟨.slash, []⟩, []⟩
    let deep := folder (deepEntries 17) 0
    let place := List.replicate 17 longName ++ ["f.soy"]
    let shallow := folder [("d", folder [("f.soy", .file [] 0)] 0)] 0
    let refusal? : String → Option String := fun path => if path = "/d" then some "Permission denied" else none
    (longName.utf8ByteSize ≤ Disk.maxNameBytes ∧ deep.at? place = some (.file [] 0) ∧
      Exclusion.isExcluded project.globs (relative place) = false ∧
      project.list Disk.refusal? ⟨deep, [], 0⟩ (fun _ => true) = .ok []) ∧
    shallow.at? ["d", "f.soy"] = some (.file [] 0) ∧
      Exclusion.isExcluded project.globs (relative ["d", "f.soy"]) = false ∧
      project.list refusal? ⟨shallow, [], 0⟩ (fun _ => true) = .ok [] := by
  intro project deep place shallow refusal?
  have hnames := wellNamed_deepEntries 17
  have hreach : ¬ project.Reaches Disk.refusal? place := by
    intro hreach
    have hsize : (project.pathOf (List.replicate 17 longName)).utf8ByteSize = 4267 := by decide +kernel
    have hopen := hreach (List.replicate 17 longName) ["f.soy"] rfl (by simp) (by simp)
    rw [Disk.refusal?, hsize] at hopen
    exact absurd hopen (by simp [Disk.maxPathBytes])
  have hnone : project.sortedPlaces Disk.refusal? (deepEntries 17) = [] := by
    rw [List.eq_nil_iff_forall_not_mem]
    intro other hother
    have hfound := (mem_sortedPlaces_iff hnames 0).mp hother
    rw [← mem_placesAmong_iff hnames, placesAmong_deepEntries, List.mem_singleton] at hfound
    obtain ⟨rfl, hreaches, -⟩ := hfound
    exact hreach hreaches
  have hlist : project.list Disk.refusal? ⟨deep, [], 0⟩ (fun _ => true) = _ :=
    list_eq (nodeAt_top _ 0 0) (by decide +kernel) hnames (by simp [project]) fun _ => true
  rw [hnone] at hlist
  exact ⟨⟨by decide +kernel, at?_deepEntries 17, rfl, hlist⟩, rfl, rfl, by decide +kernel⟩

end ProjectFiles

end TemplateAtlas
