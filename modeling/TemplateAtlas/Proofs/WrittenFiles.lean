import Mathlib.Data.List.TakeWhile
import Mathlib.Tactic.Common
import TemplateAtlas.Disk

/-!
# Written files are found again

A path is followed once to find out where a file is to be written, and followed again when somebody asks for
the file.  In between the disk has changed, if only by what was written.

**Nodes.**  What stands at a place after a file was put there, and what the folders on the way hold
(`Node.at?_put`, `Node.put_leads`).  A file that takes the place of a file, or of nothing, is in nobody's way:
every folder is still there, and every link still leads where it did.

**Ways.**  Hence whoever could follow a path to a place before the file was written there can do so afterwards
(`Disk.trace_putAt`), and the file that was written is the one that is found: `Disk.openFile_putAt`.

**Spellings.**  A path can be spelled in many ways.  Components that are empty or a point lead nowhere else, so
that a way that can be followed in one spelling can be followed without them, to the same place
(`Disk.follow_thins`).  Hence every spelling of a path leads where its normal spelling leads, if it leads
anywhere (`Disk.locate_text`), and a file that was written has the time it was given: `Disk.stat_write`.
-/

namespace TemplateAtlas

namespace Text

lemma splitAtChar_eq_splitOn (separator : Char) (text : List Char) :
    splitAtChar separator text = text.splitOn separator := by
  induction text with
  | nil => rfl
  | cons c text ih =>
      rw [splitAtChar, ih, List.splitOn_cons_eq_if_modifyHead]
      simp only [beq_iff_eq]
      split_ifs with hc
      · rfl
      · cases htext : text.splitOn separator with
        | nil => exact absurd htext (List.splitOn_ne_nil _ _)
        | cons piece pieces => rfl

end Text

open Text

/-! ## Nodes -/

namespace Node

/-- The node is a link. -/
def IsLink : Node → Prop
  | link _ => True
  | _ => False

/-- The node is a file. -/
def IsFile : Node → Prop
  | file _ _ => True
  | _ => False

lemma at?_append (node : Node) (place inside : List String) :
    node.at? (place ++ inside) = (node.at? place).bind (·.at? inside) := by
  induction place generalizing node with
  | nil => rfl
  | cons name place ih =>
      cases node with
      | file bytes time => rfl
      | link target => rfl
      | folder entries time =>
          rw [List.cons_append, at?, at?]
          cases entries.lookup name with
          | none => rfl
          | some child => exact ih child

lemma lookup_setEntry (name other : String) (node : Node) (entries : List (String × Node)) :
    (setEntry name (some node) entries).lookup other
      = if other = name then some node else entries.lookup other := by
  induction entries with
  | nil =>
      by_cases h : other = name
      · simp [setEntry, h]
      · simp [setEntry, List.lookup_cons, h, beq_false_of_ne h]
  | cons entry entries ih =>
      obtain ⟨key, old⟩ := entry
      rw [setEntry]
      by_cases hkey : key = name
      · rw [if_pos hkey, hkey]
        by_cases h : other = name
        · simp [h]
        · simp [List.lookup_cons, h, beq_false_of_ne h]
      · rw [if_neg hkey, List.lookup_cons, List.lookup_cons, ih]
        by_cases h : other = name
        · rw [h, beq_false_of_ne (Ne.symm hkey)]
        · simp [h]

/-- Below a folder, a node is put into the child that its place goes through. -/
lemma put_cons {place : List String} (hplace : place ≠ []) {name : String}
    {entries : List (String × Node)} {child : Node} (hchild : entries.lookup name = some child)
    (now time : Int) (node? : Option Node) :
    put now node? (name :: place) (folder entries time)
      = folder (setEntry name (some (put now node? place child)) entries) time := by
  cases place with
  | nil => exact absurd rfl hplace
  | cons first place => simp only [put, hchild]

/-- What was put into a folder stands there. -/
lemma at?_put {node : Node} {place : List String} {entries : List (String × Node)} {time : Int}
    (h : node.at? place = some (folder entries time)) (now : Int) (new : Node) (name : String) :
    (node.put now (some new) (place ++ [name])).at? (place ++ [name]) = some new := by
  induction place generalizing node with
  | nil =>
      rw [at?, Option.some.injEq] at h
      rw [h, List.nil_append, put, at?, lookup_setEntry, if_pos rfl]
      rfl
  | cons first place ih =>
      cases node with
      | file bytes time => simp [at?] at h
      | link target => simp [at?] at h
      | folder outer date =>
          rw [at?] at h
          obtain ⟨child, hchild, hbelow⟩ := Option.bind_eq_some_iff.mp h
          rw [List.cons_append, put_cons (List.append_ne_nil_of_right_ne_nil _ (by simp)) hchild, at?,
            lookup_setEntry, if_pos rfl]
          exact ih hbelow

/-- What comes under a name is as good for whoever passes by: a link is the same link, and anything else is
still no link. -/
structure Passes (old new : Option Node) : Prop where
  link : ∀ target, old = some (.link target) → new = some (.link target)
  solid : ∀ node, old = some node → ¬ node.IsLink → ∃ now, new = some now ∧ ¬ now.IsLink

lemma Passes.refl (node? : Option Node) : Passes node? node? :=
  ⟨fun _ h => h, fun node h hsolid => ⟨node, h, hsolid⟩⟩

/-- Whoever follows a path in one tree can follow it in the other, and something that is no link stands at the
target. -/
def Leads (target : List String) (before after : Node) : Prop :=
  ∀ inside entries time, before.at? inside = some (folder entries time) →
    ∃ others date, after.at? inside = some (folder others date) ∧
      ∀ name, Passes (entries.lookup name) (others.lookup name) ∧
        (inside ++ [name] = target → ∃ now, others.lookup name = some now ∧ ¬ now.IsLink)

/-- A tree that is no folder has no folder in it. -/
lemma Leads.of_not_folder {target : List String} {before after : Node}
    (h : before.isFolder = false) : Leads target before after := by
  intro inside entries time hfolder
  cases before with
  | folder _ _ => simp [isFolder] at h
  | file bytes date => cases inside <;> simp [at?] at hfolder
  | link goal => cases inside <;> simp [at?] at hfolder

lemma Leads.setEntry {target : List String} {name : String} {entries : List (String × Node)}
    {child : Node} {time date : Int}
    (hold : ∀ old, entries.lookup name = some old → Leads target old child)
    (hpasses : Passes (entries.lookup name) (some child)) (hsolid : target = [] → ¬ child.IsLink) :
    Leads (name :: target) (folder entries time) (folder (setEntry name (some child) entries) date) := by
  intro inside items stamp hinside
  cases inside with
  | nil =>
      rw [at?, Option.some.injEq, folder.injEq] at hinside
      refine ⟨_, date, rfl, fun other => ?_⟩
      rw [← hinside.1, lookup_setEntry]
      split_ifs with hother
      · rw [hother]
        refine ⟨hpasses, fun hplace => ⟨child, rfl, hsolid ?_⟩⟩
        rw [List.nil_append, List.cons.injEq] at hplace
        exact hplace.2.symm
      · refine ⟨.refl _, fun hplace => ?_⟩
        rw [List.nil_append, List.cons.injEq] at hplace
        exact absurd hplace.1 hother
  | cons first inside =>
      rw [at?] at hinside
      obtain ⟨old, hfirst, hbelow⟩ := Option.bind_eq_some_iff.mp hinside
      by_cases hname : first = name
      · rw [hname] at hfirst
        obtain ⟨others, stamp, hothers, hpass⟩ := hold old hfirst inside items _ hbelow
        refine ⟨others, stamp, ?_, fun other => ⟨(hpass other).1, fun hplace => ?_⟩⟩
        · rw [at?, lookup_setEntry, if_pos hname]
          exact hothers
        · rw [List.cons_append, List.cons.injEq] at hplace
          exact (hpass other).2 hplace.2
      · refine ⟨items, stamp, ?_, fun other => ⟨.refl _, fun hplace => ?_⟩⟩
        · rw [at?, lookup_setEntry, if_neg hname, hfirst]
          exact hbelow
        · rw [List.cons_append, List.cons.injEq] at hplace
          exact absurd hplace.1 hname

/-- Where a file stands, the way to it is what it is. -/
lemma Leads.of_file {target : List String} {node old : Node} (h : node.at? target = some old)
    (hfile : old.IsFile) : Leads target node node := by
  intro inside entries time hfolder
  refine ⟨entries, time, hfolder, fun name => ⟨.refl _, fun htarget => ?_⟩⟩
  rw [← htarget, at?_append, hfolder, Option.bind_some, at?] at h
  obtain ⟨now, hnow, hsame⟩ := Option.bind_eq_some_iff.mp h
  refine ⟨now, hnow, fun hlink => ?_⟩
  rw [at?, Option.some.injEq] at hsame
  rw [← hsame] at hfile
  cases now with
  | link goal => exact hfile
  | file _ _ => exact hlink
  | folder _ _ => exact hlink

/-- Putting a node somewhere below leaves a link alone, and makes none. -/
lemma put_passes (now : Int) (node? : Option Node) {place : List String} (hplace : place ≠ [])
    (node : Node) : Passes (some node) (some (put now node? place node)) := by
  cases place with
  | nil => exact absurd rfl hplace
  | cons name place =>
      cases node with
      | file bytes time => cases place <;> exact .refl _
      | link target => cases place <;> exact .refl _
      | folder entries time =>
          refine ⟨fun target h => by simp at h, fun _ _ _ => ⟨_, rfl, ?_⟩⟩
          cases place with
          | nil => simp [put, IsLink]
          | cons next place =>
              rw [put]
              · cases entries.lookup name <;> simp [IsLink]
              · simp

/-- Where a folder does not exist, nothing in it is led to. -/
lemma Leads.of_absent {entries : List (String × Node)} {time : Int} {name next : String}
    {place : List String} (hchild : entries.lookup name = none) :
    Leads (name :: next :: place) (.folder entries time) (.folder entries time) := by
  intro inside items date hinside
  refine ⟨items, date, hinside, fun other => ⟨.refl _, fun hplace => ?_⟩⟩
  cases inside with
  | nil => simp at hplace
  | cons first inside =>
      rw [List.cons_append, List.cons.injEq] at hplace
      rw [at?, hplace.1, hchild] at hinside
      simp at hinside

/-- A file that takes the place of a file, or of nothing, is in nobody's way. -/
lemma put_leads (now : Int) {new : Node} (hnew : ¬ new.IsLink) {place : List String} {node : Node}
    (h : ∀ old, node.at? place = some old → old.IsFile) :
    Leads place node (node.put now (some new) place) := by
  induction place generalizing node with
  | nil =>
      have hfile := h node rfl
      cases node with
      | file bytes time => exact .of_not_folder rfl
      | folder entries time => exact absurd hfile id
      | link target => exact absurd hfile id
  | cons name place ih =>
      cases node with
      | file bytes time => exact .of_not_folder rfl
      | link target => exact .of_not_folder rfl
      | folder entries time =>
          have hbelow : ∀ child, entries.lookup name = some child →
              ∀ old, child.at? place = some old → old.IsFile := by
            intro child hchild old hold
            refine h old ?_
            rw [at?, hchild]
            exact hold
          cases place with
          | nil =>
              rw [put]
              refine .setEntry (fun old hold => ih (hbelow old hold)) ?_ fun _ => hnew
              refine ⟨fun target htarget => ?_, fun _ _ _ => ⟨new, rfl, hnew⟩⟩
              exact absurd (hbelow _ htarget _ rfl) id
          | cons next place =>
              cases hchild : entries.lookup name with
              | none =>
                  rw [put]
                  · rw [hchild]
                    exact .of_absent hchild
                  · simp
              | some child =>
                  rw [put_cons (List.cons_ne_nil _ _) hchild]
                  refine .setEntry (fun old hold => ?_) ?_ fun hnil => absurd hnil (by simp)
                  · rw [hchild, Option.some.injEq] at hold
                    rw [← hold]
                    exact ih (hbelow child hchild)
                  · rw [hchild]
                    exact put_passes now _ (List.cons_ne_nil _ _) child

end Node

/-! ## Ways -/

namespace Disk

lemma components_ne_nil (path : String) : components path ≠ [] := by
  rw [components, ne_eq, List.map_eq_nil_iff]
  rw [splitAtChar_eq_splitOn]
  exact List.splitOn_ne_nil _ _

/-- A component that leads nowhere else. -/
def isPoint (name : String) : Bool := name = "" || name = "."

/-- A component that is the name of something in the folder at a place. -/
structure Names (last : LastStep) (place : List String) (name : String) (names : List String) :
    Prop where
  point : (name = "" || name = ".") = false
  above : name ≠ ".."
  gone : isGone place = false
  slash : (decide (last = .created) && !names.isEmpty && names.all (·.isEmpty)) = false
  short : ¬ maxNameBytes < name.utf8ByteSize

/-- The first step of a walk that ends well: a point, two points, or the name of something that does not exist
yet, of a link, or of something else. -/
inductive Steps (disk : Disk) (last : LastStep)
    (onward : List String → List String → Except DiskFault (List String)) (target place : List String)
    (entries : List (String × Node)) (name : String) (names : List String) : Prop
  | point (hname : (name = "" || name = ".") = true)
      (h : disk.walk last onward place names = .ok target)
  | above (hname : name = "..") (h : disk.walk last onward place.dropLast names = .ok target)
  | create (hnames : Names last place name names) (hentry : entries.lookup name = none)
      (hlast : last = .created) (hend : names = []) (h : place ++ [name] = target)
  | link (hnames : Names last place name names) (goal : String)
      (hentry : entries.lookup name = some (.link goal))
      (h : onward (if goal.toList.head? = some '/' then [] else place) (components goal ++ names)
        = .ok target)
  | enter (hnames : Names last place name names) (node : Node)
      (hentry : entries.lookup name = some node) (hsolid : ¬ node.IsLink)
      (h : disk.walk last onward (place ++ [name]) names = .ok target)

/-- A point leads on from where it is. -/
lemma Steps.of_point {disk : Disk} {last : LastStep}
    {onward : List String → List String → Except DiskFault (List String)} {target place : List String}
    {entries : List (String × Node)} {name : String} {names : List String}
    (h : Steps disk last onward target place entries name names) (hpoint : isPoint name = true) :
    disk.walk last onward place names = .ok target := by
  cases h with
  | point _ h => exact h
  | above hname _ => simp [isPoint, hname] at hpoint
  | create hnames => exact absurd hpoint (Bool.eq_false_iff.mp hnames.point)
  | link hnames => exact absurd hpoint (Bool.eq_false_iff.mp hnames.point)
  | enter hnames => exact absurd hpoint (Bool.eq_false_iff.mp hnames.point)

section Walk

variable {disk after : Disk} {last : LastStep} {target place : List String} {name : String}
  {names : List String}
  {onward again : List String → List String → Except DiskFault (List String)}

lemma walk_point {entries : List (String × Node)} {time : Int}
    (hfolder : disk.root.at? place = some (.folder entries time))
    (hname : (name = "" || name = ".") = true) :
    disk.walk last onward place (name :: names) = disk.walk last onward place names := by
  rw [walk, hfolder]
  simp only [hname, if_true]

lemma walk_above {entries : List (String × Node)} {time : Int}
    (hfolder : disk.root.at? place = some (.folder entries time)) (hname : name = "..") :
    disk.walk last onward place (name :: names) = disk.walk last onward place.dropLast names := by
  rw [walk, hfolder, hname]
  rfl

/-- A name under which nothing stands ends the walk. -/
lemma walk_missing {entries : List (String × Node)} {time : Int}
    (hfolder : disk.root.at? place = some (.folder entries time))
    (hnames : Names last place name names) (hentry : entries.lookup name = none) :
    disk.walk last onward place (name :: names)
      = if names.isEmpty && last = .created then .ok (place ++ [name]) else .error .missing := by
  rw [walk, hfolder]
  simp only [hnames.point, hnames.above, hnames.gone, hnames.short, hnames.slash, hentry, if_false,
    Bool.false_eq_true]

lemma walk_enter {entries : List (String × Node)} {time : Int}
    (hfolder : disk.root.at? place = some (.folder entries time))
    (hnames : Names last place name names) {node : Node} (hentry : entries.lookup name = some node)
    (hsolid : ¬ node.IsLink) :
    disk.walk last onward place (name :: names)
      = disk.walk last onward (place ++ [name]) names := by
  rw [walk, hfolder]
  simp only [hnames.point, hnames.above, hnames.gone, hnames.short, hnames.slash, hentry, if_false,
    Bool.false_eq_true]
  cases node with
  | link goal => exact absurd trivial hsolid
  | file _ _ => rfl
  | folder _ _ => rfl

lemma walk_link (hlast : last ≠ .kept) {entries : List (String × Node)} {time : Int}
    (hfolder : disk.root.at? place = some (.folder entries time))
    (hnames : Names last place name names) {goal : String}
    (hentry : entries.lookup name = some (.link goal)) :
    disk.walk last onward place (name :: names)
      = onward (if goal.toList.head? = some '/' then [] else place) (components goal ++ names) := by
  rw [walk, hfolder]
  simp only [hnames.point, hnames.above, hnames.gone, hnames.short, hnames.slash, hentry,
    decide_eq_false hlast, Bool.and_false, if_false, Bool.false_eq_true]

/-- A walk that goes on starts in a folder. -/
lemma folder_of_walk (h : disk.walk last onward place (name :: names) = .ok target) :
    ∃ entries time, disk.root.at? place = some (.folder entries time) := by
  rw [walk] at h
  split at h
  · cases h
  · rename_i entries time hfolder
    exact ⟨entries, time, hfolder⟩
  · cases h

/-- What is no point, and not two of them, is a name if a walk goes on there. -/
lemma names_of_walk {entries : List (String × Node)} {time : Int}
    (hfolder : disk.root.at? place = some (.folder entries time))
    (hpoint : (name = "" || name = ".") = false) (habove : name ≠ "..")
    (h : disk.walk last onward place (name :: names) = .ok target) : Names last place name names := by
  rw [walk, hfolder] at h
  simp only [hpoint, habove, if_false, Bool.false_eq_true] at h
  by_cases hgone : isGone place = true
  · simp [hgone] at h
  by_cases hslash : (decide (last = .created) && !names.isEmpty && names.all (·.isEmpty)) = true
  · simp [hgone, hslash] at h
  by_cases hlong : maxNameBytes < name.utf8ByteSize
  · simp [hgone, hslash, hlong] at h
  exact ⟨hpoint, habove, Bool.eq_false_iff.mpr hgone, Bool.eq_false_iff.mpr hslash, hlong⟩

lemma steps_of_walk (hlast : last ≠ .kept) {entries : List (String × Node)} {time : Int}
    (hfolder : disk.root.at? place = some (.folder entries time))
    (h : disk.walk last onward place (name :: names) = .ok target) :
    Steps disk last onward target place entries name names := by
  cases hpoint : (name = "" || name = ".") with
  | true =>
      rw [walk_point hfolder hpoint] at h
      exact .point hpoint h
  | false =>
      by_cases habove : name = ".."
      · rw [walk_above hfolder habove] at h
        exact .above habove h
      have hnames := names_of_walk hfolder hpoint habove h
      cases hentry : entries.lookup name with
      | none =>
          rw [walk_missing hfolder hnames hentry] at h
          split_ifs at h with hend
          simp only [Bool.and_eq_true, List.isEmpty_iff, decide_eq_true_eq] at hend
          exact .create hnames hentry hend.2 hend.1 (Except.ok.inj h)
      | some node =>
          cases node with
          | link goal =>
              rw [walk_link hlast hfolder hnames hentry] at h
              exact .link hnames goal hentry h
          | file bytes date =>
              rw [walk_enter hfolder hnames hentry id] at h
              exact .enter hnames _ hentry id h
          | folder inside date =>
              rw [walk_enter hfolder hnames hentry id] at h
              exact .enter hnames _ hentry id h

lemma walk_ok_iff (hlast : last ≠ .kept) :
    disk.walk last onward place (name :: names) = .ok target ↔
      ∃ entries time, disk.root.at? place = some (.folder entries time) ∧
        Steps disk last onward target place entries name names := by
  constructor
  · intro h
    obtain ⟨entries, time, hfolder⟩ := folder_of_walk h
    exact ⟨entries, time, hfolder, steps_of_walk hlast hfolder h⟩
  · rintro ⟨entries, time, hfolder, hsteps⟩
    cases hsteps with
    | point hname h => rw [walk_point hfolder hname, h]
    | above hname h => rw [walk_above hfolder hname, h]
    | create hnames hentry hlast hend h =>
        rw [walk_missing hfolder hnames hentry]
        simp [hlast, hend, h]
    | link hnames goal hentry h => rw [walk_link hlast hfolder hnames hentry, h]
    | enter hnames node hentry hsolid h => rw [walk_enter hfolder hnames hentry hsolid, h]

/-- A walk that may end at something that does not exist can be repeated when it does exist. -/
lemma walk_leads (hleads : Node.Leads target disk.root after.root) (hlast : last ≠ .kept)
    (honward : ∀ start names, onward start names = .ok target → again start names = .ok target)
    (h : disk.walk .created onward place names = .ok target) :
    after.walk last again place names = .ok target := by
  induction names generalizing place with
  | nil => exact h
  | cons name names ih =>
      obtain ⟨entries, time, hfolder, hsteps⟩ := (walk_ok_iff (by decide)).mp h
      obtain ⟨others, date, hothers, hpasses⟩ := hleads place entries time hfolder
      obtain ⟨hpasses, htarget⟩ := hpasses name
      refine (walk_ok_iff hlast).mpr ⟨others, date, hothers, ?_⟩
      have hnamed : Names .created place name names → Names last place name names := by
        refine fun hnames => ⟨hnames.point, hnames.above, hnames.gone, ?_, hnames.short⟩
        have hslash := hnames.slash
        cases last <;> simp_all
      cases hsteps with
      | point hname h => exact .point hname (ih h)
      | above hname h => exact .above hname (ih h)
      | create hnames _ _ hend h =>
          obtain ⟨now, hnow, hsolid⟩ := htarget h
          exact .enter (hnamed hnames) now hnow hsolid (by rw [hend, h]; rfl)
      | link hnames goal hentry h =>
          exact .link (hnamed hnames) goal (hpasses.link goal hentry) (honward _ _ h)
      | enter hnames node hentry hsolid h =>
          obtain ⟨now, hnow, hnowSolid⟩ := hpasses.solid node hentry hsolid
          exact .enter (hnamed hnames) now hnow hnowSolid (ih h)

lemma follow_leads (hleads : Node.Leads target disk.root after.root) (hlast : last ≠ .kept) :
    ∀ (links : Nat) (place names : List String),
      disk.follow .created links place names = .ok target →
        after.follow last links place names = .ok target
  | 0, _, _, h => walk_leads hleads hlast (fun _ _ h => by simp at h) h
  | links + 1, _, _, h => walk_leads hleads hlast (follow_leads hleads hlast links) h

/-- Something stands at the place, or it is that of a name in a folder that exists. -/
def Holds (disk : Disk) (place : List String) : Prop :=
  (disk.root.at? place).isSome = true ∨
    ∃ inside name entries time, place = inside ++ [name] ∧
      disk.root.at? inside = some (.folder entries time)

/-- A walk leads to a place that something can be put at. -/
lemma walk_holds (hlast : last ≠ .kept)
    (honward : ∀ start names, names ≠ [] → onward start names = .ok target → disk.Holds target)
    (hstart : names = [] → (disk.root.at? place).isSome = true)
    (h : disk.walk last onward place names = .ok target) : disk.Holds target := by
  induction names generalizing place with
  | nil =>
      rw [walk, Except.ok.injEq] at h
      exact Or.inl (h ▸ hstart rfl)
  | cons name names ih =>
      obtain ⟨entries, time, hfolder, hsteps⟩ := (walk_ok_iff hlast).mp h
      cases hsteps with
      | point _ h => exact ih (fun _ => by rw [hfolder]; rfl) h
      | above _ h =>
          refine ih (fun _ => ?_) h
          rcases List.eq_nil_or_concat place with rfl | ⟨above, last, rfl⟩
          · rw [List.dropLast_nil, hfolder]
            rfl
          · rw [List.concat_eq_append, Node.at?_append] at hfolder
            obtain ⟨node, hnode, -⟩ := Option.bind_eq_some_iff.mp hfolder
            rw [List.concat_eq_append, List.dropLast_concat, hnode]
            rfl
      | create _ _ _ _ h => exact Or.inr ⟨place, name, entries, time, h.symm, hfolder⟩
      | link _ goal _ h =>
          refine honward _ _ (List.append_ne_nil_of_left_ne_nil ?_ _) h
          exact components_ne_nil goal
      | enter _ node hentry _ h =>
          refine ih (fun _ => ?_) h
          rw [Node.at?_append, hfolder, Option.bind_some, Node.at?, hentry]
          rfl

lemma follow_holds (hlast : last ≠ .kept) : ∀ (links : Nat) (place names : List String),
    names ≠ [] → disk.follow last links place names = .ok target → disk.Holds target
  | 0, _, _, hne, h =>
      walk_holds hlast (fun _ _ _ h => by simp at h) (fun hnil => absurd hnil hne) h
  | links + 1, _, _, hne, h =>
      walk_holds hlast (follow_holds hlast links) (fun hnil => absurd hnil hne) h

/-- A walk that may end at something that does not exist goes there or ends for want of it. -/
lemma walk_followed
    (honward : ∀ start names, onward start names = .ok target →
      again start names = .ok target ∨ again start names = .error .missing)
    (h : disk.walk .created onward place names = .ok target) :
    disk.walk .followed again place names = .ok target ∨
      disk.walk .followed again place names = .error .missing := by
  induction names generalizing place with
  | nil => exact Or.inl h
  | cons name names ih =>
      obtain ⟨entries, time, hfolder, hsteps⟩ := (walk_ok_iff (by decide)).mp h
      have hnamed : Names .created place name names → Names .followed place name names :=
        fun hnames => ⟨hnames.point, hnames.above, hnames.gone, rfl, hnames.short⟩
      cases hsteps with
      | point hname h =>
          rw [walk_point hfolder hname]
          exact ih h
      | above hname h =>
          rw [walk_above hfolder hname]
          exact ih h
      | create hnames hentry =>
          rw [walk_missing hfolder (hnamed hnames) hentry]
          simp
      | link hnames goal hentry h =>
          rw [walk_link (by decide) hfolder (hnamed hnames) hentry]
          exact honward _ _ h
      | enter hnames node hentry hsolid h =>
          rw [walk_enter hfolder (hnamed hnames) hentry hsolid]
          exact ih h

lemma follow_followed : ∀ (links : Nat) (place names : List String),
    disk.follow .created links place names = .ok target →
      disk.follow .followed links place names = .ok target ∨
        disk.follow .followed links place names = .error .missing
  | 0, _, _, h => walk_followed (fun _ _ h => by simp at h) h
  | links + 1, _, _, h => walk_followed (follow_followed links) h

end Walk

section Put

variable {disk : Disk} {place : List String}

/-- What is put where something can be put stands there. -/
lemma Holds.at?_putAt (h : disk.Holds place) (new : Node) :
    (disk.putAt place (some new)).root.at? place = some new := by
  rw [putAt]
  rcases h with hsome | ⟨inside, name, entries, time, rfl, hfolder⟩
  · rcases List.eq_nil_or_concat place with rfl | ⟨inside, name, rfl⟩
    · rw [Node.put]
      rfl
    · rw [List.concat_eq_append, Node.at?_append] at hsome
      rw [List.concat_eq_append]
      cases hinside : disk.root.at? inside with
      | none => simp [hinside] at hsome
      | some node =>
          cases node with
          | file bytes time => simp [hinside, Node.at?] at hsome
          | link goal => simp [hinside, Node.at?] at hsome
          | folder entries time => exact Node.at?_put hinside disk.now new name
  · exact Node.at?_put hfolder disk.now new name

/-- Where a file is opened, nothing stands but perhaps a file. -/
lemma openFile_isFile {path : Path} {old : List UInt8} (h : disk.openFile path = .ok (place, old)) :
    disk.trace .created path.text = .ok place ∧
      ∀ node, disk.root.at? place = some node → node.IsFile := by
  rw [openFile] at h
  split at h
  · simp at h
  · rename_i found htrace
    split at h
    · rename_i hnone
      rw [Except.ok.injEq, Prod.mk.injEq] at h
      rw [← h.1, hnone]
      exact ⟨htrace, fun _ hnode => by simp at hnode⟩
    · rename_i bytes time hfile
      rw [Except.ok.injEq, Prod.mk.injEq] at h
      rw [← h.1, hfile]
      exact ⟨htrace, fun node hnode => Option.some.inj hnode ▸ trivial⟩
    · simp at h

/-- A path along which a file can be made leads to the same place after something was put there. -/
lemma trace_putAt {path : String} (h : disk.trace .created path = .ok place)
    (hfile : ∀ node, disk.root.at? place = some node → node.IsFile) {new : Node} (hnew : ¬ new.IsLink)
    {last : LastStep} (hlast : last ≠ .kept) :
    (disk.putAt place (some new)).trace last path = .ok place := by
  rw [trace] at h ⊢
  split_ifs at h ⊢
  exact follow_leads (Node.put_leads disk.now hnew hfile) hlast _ _ _ h

lemma holds_of_trace {path : String} (h : disk.trace .created path = .ok place) :
    disk.Holds place := by
  rw [trace] at h
  split_ifs at h
  exact follow_holds (by decide) _ _ _ (components_ne_nil path) h

/-- **A file that was written is found again**: where it was put, under its path, and when it is opened once
more. -/
theorem openFile_putAt {path : Path} {old : List UInt8} (h : disk.openFile path = .ok (place, old))
    (bytes : List UInt8) (time : Int) :
    (disk.putAt place (some (.file bytes time))).locate path.text = .ok place ∧
      (disk.putAt place (some (.file bytes time))).root.at? place = some (.file bytes time) ∧
      (disk.putAt place (some (.file bytes time))).openFile path = .ok (place, bytes) := by
  obtain ⟨htrace, hfile⟩ := openFile_isFile h
  have hat := (holds_of_trace htrace).at?_putAt (.file bytes time)
  refine ⟨trace_putAt htrace hfile id (by decide), hat, ?_⟩
  rw [openFile, trace_putAt htrace hfile id (by decide)]
  simp only [hat]

/-- Where a file can be made, its path leads to the file that is there, if there is one. -/
lemma nodeAt_of_openFile {path : Path} {old : List UInt8} (h : disk.openFile path = .ok (place, old)) :
    (∃ time, disk.root.at? place = some (.file old time) ∧
        disk.nodeAt path.text = .ok (.file old time)) ∨
      disk.root.at? place = none ∧ old = [] ∧ disk.nodeAt path.text = .error .missing := by
  obtain ⟨htrace, hfile⟩ := openFile_isFile h
  rw [openFile, htrace] at h
  rw [nodeAt, locate]
  cases hat : disk.root.at? place with
  | none =>
      simp only [hat, Except.ok.injEq, Prod.mk.injEq, true_and] at h
      refine Or.inr ⟨rfl, h.symm, ?_⟩
      rw [trace] at htrace ⊢
      split_ifs at htrace ⊢
      rcases follow_followed _ _ _ htrace with hfound | hmissing
      · simp only [hfound, hat]
      · simp only [hmissing]
  | some node =>
      have hnode := hfile node hat
      cases node with
      | folder entries time => exact absurd hnode id
      | link goal => exact absurd hnode id
      | file bytes time =>
          simp only [hat, Except.ok.injEq, Prod.mk.injEq, true_and] at h
          refine Or.inl ⟨time, by rw [h], ?_⟩
          rw [trace] at htrace ⊢
          split_ifs at htrace ⊢
          rw [follow_leads (.of_file hat hnode) (by decide) _ _ _ htrace]
          simp only [hat, h]

end Put

/-! ## Spellings -/

/-- The second list of components has fewer of those that lead nowhere else, or others in their place. -/
inductive Thins : List String → List String → Prop
  | nil : Thins [] []
  | keep (name : String) {names plain : List String} (h : Thins names plain) :
      Thins (name :: names) (name :: plain)
  | point {point other : String} (hpoint : isPoint point = true) (hother : isPoint other = true)
      {names plain : List String} (h : Thins names plain) : Thins (point :: names) (other :: plain)
  | drop {point : String} (hpoint : isPoint point = true) {names plain : List String}
      (h : Thins names plain) : Thins (point :: names) plain

namespace Thins

lemma refl : ∀ names : List String, Thins names names
  | [] => .nil
  | name :: names => .keep name (refl names)

lemma append (front : List String) {names plain : List String} (h : Thins names plain) :
    Thins (front ++ names) (front ++ plain) := by
  induction front with
  | nil => exact h
  | cons name front ih => exact .keep name ih

/-- All components that lead nowhere else can be left out. -/
lemma filter : ∀ names : List String, Thins names (names.filter fun name => !isPoint name)
  | [] => .nil
  | name :: names => by
      rw [List.filter_cons]
      split_ifs with hname
      · exact .keep name (filter names)
      · exact .drop (by simpa using hname) (filter names)

/-- Components that lead nowhere else stand for one of them. -/
lemma of_filter_nil {names : List String} (hne : names ≠ [])
    (h : names.filter (fun name => !isPoint name) = []) {other : String}
    (hother : isPoint other = true) : Thins names [other] := by
  cases names with
  | nil => exact absurd rfl hne
  | cons name names =>
      rw [List.filter_eq_nil_iff] at h
      have hname : isPoint name = true := by simpa using h name List.mem_cons_self
      have hothers : names.filter (fun name => !isPoint name) = [] :=
        List.filter_eq_nil_iff.mpr fun other hmem => h other (List.mem_cons_of_mem _ hmem)
      have hthins := Thins.filter names
      rw [hothers] at hthins
      exact .point hname hother hthins

end Thins

section Spellings

variable {disk : Disk} {target : List String}
  {onward again : List String → List String → Except DiskFault (List String)}

/-- Whoever can walk along some components can do so without those that lead nowhere else. -/
lemma walk_thins
    (honward : ∀ start names plain, Thins names plain → onward start names = .ok target →
      again start plain = .ok target)
    {names plain : List String} (hthins : Thins names plain) {place : List String}
    (h : disk.walk .followed onward place names = .ok target) :
    disk.walk .followed again place plain = .ok target := by
  induction hthins generalizing place with
  | nil => exact h
  | @keep name names plain hthins ih =>
      obtain ⟨entries, time, hfolder, hsteps⟩ := (walk_ok_iff (by decide)).mp h
      refine (walk_ok_iff (by decide)).mpr ⟨entries, time, hfolder, ?_⟩
      have hnamed : Names .followed place name names → Names .followed place name plain :=
        fun hnames => ⟨hnames.point, hnames.above, hnames.gone, rfl, hnames.short⟩
      cases hsteps with
      | point hname h => exact .point hname (ih h)
      | above hname h => exact .above hname (ih h)
      | create _ _ hlast => simp at hlast
      | link hnames goal hentry h =>
          exact .link (hnamed hnames) goal hentry (honward _ _ _ (hthins.append _) h)
      | enter hnames node hentry hsolid h => exact .enter (hnamed hnames) node hentry hsolid (ih h)
  | point hpoint hother hthins ih =>
      obtain ⟨entries, time, hfolder, hsteps⟩ := (walk_ok_iff (by decide)).mp h
      refine (walk_ok_iff (by decide)).mpr ⟨entries, time, hfolder, .point hother ?_⟩
      exact ih (hsteps.of_point hpoint)
  | drop hpoint hthins ih =>
      obtain ⟨entries, time, hfolder, hsteps⟩ := (walk_ok_iff (by decide)).mp h
      exact ih (hsteps.of_point hpoint)

lemma follow_thins : ∀ (links : Nat) (place names plain : List String), Thins names plain →
    disk.follow .followed links place names = .ok target →
      disk.follow .followed links place plain = .ok target
  | 0, _, _, _, hthins, h => walk_thins (fun _ _ _ _ h => by simp at h) hthins h
  | links + 1, _, _, _, hthins, h => walk_thins (follow_thins links) hthins h

end Spellings

/-! ## The normal spelling -/

lemma isPoint_ofList (part : List Char) :
    (!isPoint (String.ofList part)) = (part ≠ [] && part ≠ ['.']) := by
  have hempty : (String.ofList part = "") = (part = []) := by
    rw [← String.ofList_nil, String.ofList_inj]
  have hpoint : (String.ofList part = ".") = (part = ['.']) := by
    rw [show "." = String.ofList ['.'] from rfl, String.ofList_inj]
  simp [isPoint, hempty, hpoint]

/-- The components of a path that is read are those that lead somewhere. -/
lemma parts_ofText (path : String) :
    (Path.ofText path).parts = (components path).filter fun name => !isPoint name := by
  rw [components, List.filter_map]
  exact congrArg (List.map String.ofList)
    (List.filter_congr fun part _ => (isPoint_ofList part).symm)

/-- No component has a slash in it. -/
lemma slash_not_mem {path name : String} (h : name ∈ components path) : '/' ∉ name.toList := by
  rw [components, List.mem_map] at h
  obtain ⟨piece, hpiece, rfl⟩ := h
  rw [String.toList_ofList]
  generalize path.toList = text at hpiece
  induction text generalizing piece with
  | nil => simp_all [splitAtChar]
  | cons c text ih =>
      rw [splitAtChar] at hpiece
      split_ifs at hpiece with hc
      · rcases List.mem_cons.mp hpiece with rfl | hpiece
        · simp
        · exact ih piece hpiece
      · split at hpiece
        · rename_i hnil
          rw [splitAtChar_eq_splitOn] at hnil
          exact absurd hnil (List.splitOn_ne_nil _ _)
        · rename_i first pieces htext
          rcases List.mem_cons.mp hpiece with rfl | hpiece
          · rw [List.mem_cons, not_or]
            exact ⟨Ne.symm hc, ih first (by rw [htext]; exact List.mem_cons_self)⟩
          · exact ih piece (by rw [htext]; exact List.mem_cons_of_mem _ hpiece)

/-- Components with slashes between them are these components. -/
lemma components_intercalate {names : List String} (hne : names ≠ [])
    (h : ∀ name ∈ names, '/' ∉ name.toList) :
    components (String.intercalate "/" names) = names := by
  rw [components, String.toList_intercalate, splitAtChar_eq_splitOn]
  rw [show "/".toList = ['/'] from rfl, List.splitOn_intercalate]
  · rw [List.map_map]
    simp
  · intro piece hpiece
    obtain ⟨name, hname, rfl⟩ := List.mem_map.mp hpiece
    exact h name hname
  · simpa using hne

/-- A path is the slashes in front of it and the rest. -/
lemma exists_rest (text : List Char) : ∃ rest, text = (Root.ofText text).text.toList ++ rest := by
  have hslashes : text.takeWhile (· = '/')
      = List.replicate (text.takeWhile (· = '/')).length '/' := by
    refine List.eq_replicate_of_mem fun c hc => ?_
    simpa using List.mem_takeWhile_imp hc
  have htext := List.takeWhile_append_dropWhile (p := (· = '/')) (l := text)
  rw [hslashes] at htext
  rw [Root.ofText]
  split
  · exact ⟨text, rfl⟩
  · rename_i htwo
    rw [htwo] at htext
    exact ⟨_, htext.symm⟩
  · rename_i hzero htwo
    obtain ⟨count, hcount⟩ := Nat.exists_eq_succ_of_ne_zero hzero
    rw [hcount, List.replicate_succ] at htext
    exact ⟨_, htext.symm⟩

/-- The components of a text, or a single empty one, stand for those of the text. -/
lemma thins_intercalate (path : String) :
    Thins (components path)
      (components (String.intercalate "/" ((components path).filter fun name => !isPoint name))) := by
  by_cases hnil : (components path).filter (fun name => !isPoint name) = []
  · rw [hnil]
    exact .of_filter_nil (components_ne_nil path) hnil rfl
  · rw [components_intercalate hnil fun name hname => slash_not_mem (List.mem_filter.mp hname).1]
    exact .filter _

/-- Slashes in front of a text are as many empty components. -/
lemma components_root (root : Root) (text : String) :
    components (root.text ++ text)
      = List.replicate root.text.length "" ++ components text := by
  cases root with
  | relative => simp [Root.text]
  | slash =>
      simp only [Root.text, components, String.toList_append]
      rfl
  | doubleSlash =>
      simp only [Root.text, components, String.toList_append]
      rfl

/-- The normal spelling of a path leaves out components that lead nowhere else. -/
lemma thins_text (path : String) :
    Thins (components path) (components (Path.ofText path).text) := by
  obtain ⟨rest, hrest⟩ := exists_rest path.toList
  have hpath : path = (Path.ofText path).root.text ++ String.ofList rest := by
    rw [← String.toList_inj, String.toList_append, String.toList_ofList]
    exact hrest
  have hparts : (Path.ofText path).parts
      = (components (String.ofList rest)).filter fun name => !isPoint name := by
    rw [parts_ofText]
    conv_lhs => rw [hpath, components_root, List.filter_append]
    rw [List.filter_eq_nil_iff.mpr, List.nil_append]
    intro name hname
    rw [(List.mem_replicate.mp hname).2]
    decide
  rw [Path.text]
  split_ifs with hpoint
  · simp only [Bool.and_eq_true, decide_eq_true_eq, List.isEmpty_iff] at hpoint
    rw [parts_ofText] at hpoint
    exact .of_filter_nil (components_ne_nil path) hpoint.2 rfl
  · rw [hparts, components_root]
    conv_lhs => rw [hpath, components_root]
    exact (thins_intercalate _).append _

lemma root_ofText_iff (text : List Char) :
    Root.ofText text = .relative ↔ text.head? ≠ some '/' := by
  rw [Root.ofText]
  cases text with
  | nil => simp
  | cons c text =>
      by_cases hc : c = '/'
      · rw [hc, List.takeWhile_cons_of_pos (by simp), List.length_cons]
        split <;> simp_all
      · rw [List.takeWhile_cons_of_neg (by simpa using hc)]
        simpa using hc

/-- The normal spelling of a path starts with a slash if the path does. -/
lemma head?_text (path : String) :
    (Path.ofText path).text.toList.head? = some '/' ↔ path.toList.head? = some '/' := by
  have hroot := root_ofText_iff path.toList
  have hparts : "" ∉ (Path.ofText path).parts := by
    rw [parts_ofText, List.mem_filter, not_and]
    intro _
    decide
  rw [Path.text]
  cases hcase : (Path.ofText path).root with
  | relative =>
      have hhead := hroot.mp hcase
      split_ifs with hpoint
      · simpa using hhead
      · have hne : (Path.ofText path).parts ≠ [] := by simpa using hpoint
        have hnames := components_intercalate hne fun name hname =>
          slash_not_mem (List.mem_filter.mp (parts_ofText path ▸ hname)).1
        rw [Root.text, String.empty_append]
        refine iff_of_false (fun hslash => hparts ?_) hhead
        obtain ⟨text, htext⟩ := List.head?_eq_some_iff.mp hslash
        rw [← hnames, components, htext, splitAtChar, if_pos rfl]
        exact List.mem_cons_self
  | slash =>
      have hhead : path.toList.head? = some '/' := by
        by_contra hhead
        exact absurd (hcase.symm.trans (hroot.mpr hhead)) (by decide)
      simp [Root.text, hhead]
  | doubleSlash =>
      have hhead : path.toList.head? = some '/' := by
        by_contra hhead
        exact absurd (hcase.symm.trans (hroot.mpr hhead)) (by decide)
      simp [Root.text, hhead]

/-- A path and its normal spelling start at the same place. -/
lemma origin_text (disk : Disk) (path : String) :
    disk.origin (Path.ofText path).text = disk.origin path := by
  simp only [origin, head?_text]

/-- **Spellings lead to the same place**, if they lead anywhere. -/
theorem locate_text {disk : Disk} {path : String} {place found : List String}
    (h : disk.locate (Path.ofText path).text = .ok place) (hfound : disk.locate path = .ok found) :
    found = place := by
  rw [locate, trace] at h hfound
  split_ifs at h hfound
  rw [← disk.origin_text path] at hfound
  have hplain := follow_thins _ _ _ _ (thins_text path) hfound
  rw [hplain, Except.ok.injEq] at h
  exact h

/-- **A file that was written has the time that it was given**, in whatever spelling it is asked for. -/
theorem stat_write {disk after : Disk} {path : String} {bytes : List UInt8} {time : Int}
    (h : disk.write (Path.ofText path) bytes time = (.ok (), after)) {stat : FileStat}
    (hstat : after.stat path = .ok stat) : stat.time = time := by
  rw [write] at h
  split at h
  · simp at h
  · rename_i made _
    split at h
    · simp at h
    · rename_i place old hopen
      rw [Prod.mk.injEq] at h
      obtain ⟨hlocate, hat, -⟩ := openFile_putAt hopen bytes time
      rw [h.2] at hlocate hat
      rw [Disk.stat, nodeAt] at hstat
      cases hfound : after.locate path with
      | error fault => simp [hfound] at hstat
      | ok found =>
          rw [locate_text hlocate hfound] at hfound
          simp only [hfound, hat, Except.ok.injEq] at hstat
          rw [← hstat]

end Disk

end TemplateAtlas
