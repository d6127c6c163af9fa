import Mathlib.Tactic.Common
import TemplateAtlas.Proofs.Memos
import TemplateAtlas.Proofs.Sessions
import TemplateAtlas.Proofs.WrittenFiles
import TemplateAtlas.Workspace.Files

/-!
# What a stamp vouches for

An index is built in two steps: the time of the file is taken first, and its text is read later.  The file may
be written before, between and after these steps.

**Timelines.**  A timeline is the traffic of queries together with the disk and all disks before it
(`Timeline.take`, `Timeline.run`).  What is said is said about one path that no document is open under.  A change
of the disk is `Dated` if it leaves alone what the disk says about the path, or gives it a time that it never
had; writing the file with such a time is such a change (`Timeline.dated_write`).

**Stamps.**  A stamp is a time that the file had when it was taken.  If the file still has this time when its text
is read, the text has not changed in between, and if it has not, it never has it again.  Hence as long as the
file has the time of a stamp, it has the text that the stamp stands for (`Timeline.Vouched`).  This is kept by
every step (`Vouched.take`), and together with what is known about ranges that are put back it gives
`Timeline.stamp_vouches`.
-/

namespace TemplateAtlas

open Text

variable {σ : Type}

/-! ## What is built in a turn -/

namespace Traffic

/-- What a turn adds: at most one build, of the present text, with a stamp that was taken now or before; and at
most one load that waits with a stamp that was taken now. -/
structure Advances (workspace : Workspace) (traffic after : Traffic σ) : Prop where
  builds : after.builds = traffic.builds ∨
    ∃ build, after.builds = build :: traffic.builds ∧ workspace.text build.path = .ok build.text ∧
      (build.stamp = workspace.stampNow build.path ∨
        (build.path, .reading build.stamp) ∈ traffic.waiting)
  waiting : ∀ path stamp, (path, .reading stamp) ∈ after.waiting →
    (path, .reading stamp) ∈ traffic.waiting ∨ stamp = workspace.stampNow path

lemma Advances.of_eq {workspace : Workspace} {traffic after : Traffic σ}
    (hbuilds : after.builds = traffic.builds) (hwaiting : after.waiting = traffic.waiting) :
    Advances workspace traffic after :=
  ⟨Or.inl hbuilds, fun _ _ hmem => Or.inl (hwaiting ▸ hmem)⟩

lemma Advances.record {workspace : Workspace} {traffic : Traffic σ} {path : String}
    {stamp : Option Int}
    (hstamp : stamp = workspace.stampNow path ∨ (path, .reading stamp) ∈ traffic.waiting)
    {others : Traffic σ} (hbuilds : others.builds = traffic.builds)
    (hwaiting : ∀ load ∈ others.waiting, load ∈ traffic.waiting) {cache : Cache}
    {outcome : Atlas.LoadStep × Atlas σ} (hturned : Turned workspace path stamp cache outcome) :
    Advances workspace traffic (others.record path stamp outcome) := by
  have hkeeps : ∀ other taken, (other, .reading taken) ∈ others.waiting →
      (other, .reading taken) ∈ traffic.waiting ∨ taken = workspace.stampNow other :=
    fun other taken hmem => Or.inl (hwaiting _ hmem)
  cases hturned with
  | @waits rounds stage after hcache hwaits =>
      refine ⟨Or.inl hbuilds, fun other taken hmem => ?_⟩
      rcases List.mem_cons.mp hmem with hsame | hmem
      · rw [Prod.mk.injEq] at hsame
        rw [← hsame.2] at hwaits
        rw [hsame.1]
        exact Or.inr hwaits
      · exact hkeeps other taken hmem
  | fails hcache => exact ⟨Or.inl hbuilds, hkeeps⟩
  | reuses hcache hentry => exact ⟨Or.inl hbuilds, hkeeps⟩
  | @builds text after htext hcache =>
      refine ⟨Or.inr ⟨⟨path, text, stamp⟩, ?_, htext, hstamp⟩, hkeeps⟩
      rw [← hbuilds]
      rfl

lemma Inv.advances {traffic : Traffic σ} (h : traffic.Inv) (lexer : LineLexer σ)
    (workspace : Workspace) (request : Request) :
    Advances workspace traffic (traffic.take lexer workspace request) := by
  obtain ⟨owner, h⟩ := h
  cases request with
  | load path =>
      exact .record (Or.inl rfl) rfl (fun _ => id) (startLoad_turned workspace path traffic.atlas)
  | rebuild path =>
      exact .record (Or.inl rfl) rfl (fun _ => id) (askStamp_turned workspace path traffic.atlas)
  | resume number =>
      rw [Traffic.take]
      cases hwaiting : traffic.waiting[number]? with
      | none => exact .of_eq rfl rfl
      | some load =>
          obtain ⟨path, stage⟩ := load
          have hmem := List.mem_of_getElem? hwaiting
          refine .record ?_ ?_ (fun load hload => ?_)
            (resumeLoad_turned workspace path traffic.atlas stage fun entry hstage => ?_)
          · cases stage with
            | checking entry => exact Or.inl rfl
            | stamping => exact Or.inl rfl
            | reading stamp => exact Or.inr hmem
          · rfl
          · exact List.mem_of_mem_eraseIdx hload
          · exact h.checks path entry (hstage ▸ hmem)
  | resolve number names text? =>
      rw [Traffic.take]
      cases traffic.handles[number]? with
      | none => exact .of_eq rfl rfl
      | some base =>
          simp only [derive]
          split
          · exact .of_eq rfl rfl
          · split_ifs <;> exact .of_eq rfl rfl
  | swap number =>
      rw [Traffic.take]
      cases traffic.memos[number]? with
      | none => exact .of_eq rfl rfl
      | some memo => exact .of_eq rfl rfl
  | flag flags => exact .of_eq rfl rfl

end Traffic

/-! ## Timelines -/

/-- The traffic of queries, the disk, and the disks before this one. -/
structure Timeline (σ : Type) where
  traffic : Traffic σ
  disk : Disk
  past : List Disk := []

/-- What can happen next: the disk changes, or a query takes a turn while some documents are open and answers take
their time. -/
inductive Move where
  | change (disk : Disk)
  | turn (documents : Documents) (pace : Pace) (request : Request)

namespace Timeline

/-- Nothing was asked yet. -/
def start (memory : σ) (disk : Disk) : Timeline σ := ⟨.start memory, disk, []⟩

/-- The disk and those before it. -/
def disks (timeline : Timeline σ) : List Disk := timeline.disk :: timeline.past

/-- What happens. -/
def take (lexer : LineLexer σ) (encoding : Encoding) (timeline : Timeline σ) : Move → Timeline σ
  | .change disk => { timeline with disk := disk, past := timeline.disks }
  | .turn documents pace request =>
    { timeline with
      traffic := timeline.traffic.take lexer (documents.view pace timeline.disk encoding) request }

/-- Moves one after the other. -/
def run (lexer : LineLexer σ) (encoding : Encoding) (moves : List Move) (timeline : Timeline σ) :
    Timeline σ :=
  moves.foldl (take lexer encoding) timeline

section

variable (encoding : Encoding) (path : String)

/-- The path had the time at some moment. -/
def HadTime (timeline : Timeline σ) (time : Int) : Prop :=
  ∃ disk ∈ timeline.disks, ∃ stat, disk.stat path = .ok stat ∧ stat.time = time

/-- A move leaves alone what the disk says about the path, or gives it a time that it never had; and no document
is open under it. -/
def Dated (timeline : Timeline σ) : Move → Prop
  | .change disk =>
    (disk.stat path = timeline.disk.stat path ∧
        readText disk encoding path = readText timeline.disk encoding path) ∨
      ∀ stat, disk.stat path = .ok stat → ¬ timeline.HadTime path stat.time
  | .turn documents _ _ => documents.get? path = none

/-- Every move of a run is dated when its turn comes. -/
def AllDated (lexer : LineLexer σ) : List Move → Timeline σ → Prop
  | [], _ => True
  | move :: moves, timeline =>
    timeline.Dated encoding path move ∧ AllDated lexer moves (timeline.take lexer encoding move)

/-- A stamp that was taken is a time that the path had; and as long as it has the time of the latest build, it has
the text of that build. -/
structure Vouched (timeline : Timeline σ) : Prop where
  inv : timeline.traffic.Inv
  waiting : ∀ time, (path, .reading (some time)) ∈ timeline.traffic.waiting →
    timeline.HadTime path time
  built : ∀ build, timeline.traffic.latest? path = some build → ∀ time, build.stamp = some time →
    timeline.HadTime path time ∧ ∀ stat, timeline.disk.stat path = .ok stat → stat.time = time →
      readText timeline.disk encoding path = .ok build.text

end

/-! ## Runs can be checked -/

section

variable (encoding : Encoding) (path : String)

instance (timeline : Timeline σ) (time : Int) : Decidable (timeline.HadTime path time) :=
  decidable_of_iff (∃ disk ∈ timeline.disks, ∃ stat ∈ (disk.stat path).toOption, stat.time = time)
    (by simp only [HadTime, Except.mem_toOption])

instance (timeline : Timeline σ) : (move : Move) → Decidable (timeline.Dated encoding path move)
  | .change disk =>
    decidable_of_iff ((disk.stat path = timeline.disk.stat path ∧
        readText disk encoding path = readText timeline.disk encoding path) ∨
      ∀ stat ∈ (disk.stat path).toOption, ¬ timeline.HadTime path stat.time)
      (by simp only [Dated, Except.mem_toOption])
  | .turn documents _ _ => inferInstanceAs (Decidable (documents.get? path = none))

instance decidableAllDated (lexer : LineLexer σ) : (moves : List Move) → (timeline : Timeline σ) →
    Decidable (AllDated encoding path lexer moves timeline)
  | [], _ => .isTrue trivial
  | move :: moves, timeline =>
    have := decidableAllDated lexer moves (timeline.take lexer encoding move)
    inferInstanceAs (Decidable (_ ∧ _))

end

/-! ## Writing a file -/

/-- Writing the file with a time that it never had is a dated change. -/
theorem dated_write {timeline : Timeline σ} {encoding : Encoding} {path : String}
    {bytes : List UInt8} {time : Int} {after : Disk}
    (h : timeline.disk.write (.ofText path) bytes time = (.ok (), after))
    (hnew : ¬ timeline.HadTime path time) : timeline.Dated encoding path (.change after) :=
  Or.inr fun _ hstat => Disk.stat_write h hstat ▸ hnew

/-! ## What a move preserves -/

section

variable {timeline : Timeline σ} {encoding : Encoding} {path : String}

/-- A stamp that is taken while no document is open is the time of the path. -/
lemma HadTime.of_stampNow {documents : Documents} (hclosed : documents.get? path = none) {pace : Pace}
    {time : Int} (h : (documents.view pace timeline.disk encoding).stampNow path = some time) :
    timeline.HadTime path time := by
  rw [Workspace.stampNow, Workspace.stamp] at h
  split_ifs at h
  simp only [Documents.view, Documents.diskTime, hclosed, Option.isSome_none] at h
  cases hstat : timeline.disk.stat path with
  | ok stat =>
      simp only [hstat, Except.toOption, Option.join_some, Option.some.injEq] at h
      exact ⟨timeline.disk, List.mem_cons_self, stat, hstat, h⟩
  | error fault => cases fault <;> simp [hstat, Except.toOption] at h

lemma Vouched.start (memory : σ) (disk : Disk) :
    (start memory disk).Vouched encoding path :=
  ⟨.start memory, fun _ h => absurd h List.not_mem_nil,
    fun _ h => absurd h (Option.some_ne_none _).symm⟩

lemma Vouched.change (h : timeline.Vouched encoding path) (lexer : LineLexer σ) {disk : Disk}
    (hdated : timeline.Dated encoding path (.change disk)) :
    (timeline.take lexer encoding (.change disk)).Vouched encoding path := by
  have hlater : ∀ {time}, timeline.HadTime path time →
      (timeline.take lexer encoding (.change disk)).HadTime path time := by
    rintro time ⟨old, hold, hstat⟩
    exact ⟨old, List.mem_cons_of_mem _ hold, hstat⟩
  refine ⟨h.inv, fun time hmem => hlater (h.waiting time hmem), ?_⟩
  intro build hbuild time hstamp
  obtain ⟨hhad, htext⟩ := h.built build hbuild time hstamp
  refine ⟨hlater hhad, fun stat hstat htime => ?_⟩
  rcases hdated with ⟨hsame, hread⟩ | hnew
  · rw [take, hread]
    exact htext stat (hsame ▸ hstat) htime
  · exact absurd hhad (htime ▸ hnew stat hstat)

lemma Vouched.turn (h : timeline.Vouched encoding path) (lexer : LineLexer σ)
    {documents : Documents} (hclosed : documents.get? path = none) (pace : Pace) (request : Request) :
    (timeline.take lexer encoding (.turn documents pace request)).Vouched encoding path := by
  obtain ⟨hbuilds, hwaiting⟩ :=
    h.inv.advances lexer (documents.view pace timeline.disk encoding) request
  refine ⟨h.inv.take lexer _ request, fun time hmem => ?_, ?_⟩
  · rcases hwaiting path _ hmem with hmem | hnow
    · exact h.waiting time hmem
    · exact HadTime.of_stampNow hclosed hnow.symm
  · intro build hlatest time hstamp
    rcases hbuilds with hsame | ⟨new, hnew, htext, htaken⟩
    · refine h.built build ?_ time hstamp
      rw [Traffic.latest?, ← hsame]
      exact hlatest
    · rw [take, Traffic.latest?, hnew, List.find?_cons] at hlatest
      by_cases hpath : new.path = path
      · rw [decide_eq_true hpath, Option.some.injEq] at hlatest
        rw [← hlatest] at hstamp ⊢
        rw [hpath, hstamp] at htaken
        refine ⟨?_, fun stat _ _ => ?_⟩
        · rcases htaken with hnow | hmem
          · exact HadTime.of_stampNow hclosed hnow.symm
          · exact h.waiting time hmem
        · rw [hpath] at htext
          simp only [Documents.view, Documents.text, hclosed] at htext
          exact htext
      · rw [decide_eq_false hpath] at hlatest
        exact h.built build hlatest time hstamp

/-- **Every dated move keeps what stamps vouch for.** -/
lemma Vouched.take (h : timeline.Vouched encoding path) (lexer : LineLexer σ) {move : Move}
    (hdated : timeline.Dated encoding path move) :
    (timeline.take lexer encoding move).Vouched encoding path := by
  cases move with
  | change disk => exact h.change lexer hdated
  | turn documents pace request => exact h.turn lexer hdated pace request

lemma Vouched.run (h : timeline.Vouched encoding path) (lexer : LineLexer σ) {moves : List Move}
    (hdated : timeline.AllDated encoding path lexer moves) :
    (timeline.run lexer encoding moves).Vouched encoding path := by
  induction moves generalizing timeline with
  | nil => exact h
  | cons move moves ih => exact ih (h.take lexer hdated.1) hdated.2

end

/-! ## The text behind a stamp -/

/-- **A stamp vouches for the text.**  However the disk changes while queries are at work, if the stamp of a
cached index is the time that its file has now, the index has the outline of the text that the file has now. -/
theorem stamp_vouches (lexer : LineLexer σ) (encoding : Encoding) (memory : σ) (disk : Disk)
    (path : String) (moves : List Move)
    (hdated : (start memory disk).AllDated encoding path lexer moves) {entry : Cached}
    {stat : FileStat}
    (hentry : ((start memory disk).run lexer encoding moves).traffic.atlas.cache.get? path
      = some entry)
    (hstat : ((start memory disk).run lexer encoding moves).disk.stat path = .ok stat)
    (hstamp : entry.stamp = some stat.time) :
    ∃ text, readText ((start memory disk).run lexer encoding moves).disk encoding path = .ok text ∧
      entry.version.index.outline = (FileIndex.ofText path text).outline := by
  have h := (Vouched.start memory disk).run lexer hdated
  obtain ⟨owner, howned⟩ := h.inv
  have hlatest := howned.shows_latest path
  rw [hentry, Option.map_some] at hlatest
  obtain ⟨build, hbuild, hshown⟩ := Option.map_eq_some_iff.mp hlatest.symm
  rw [Prod.mk.injEq] at hshown
  obtain ⟨-, htext⟩ := h.built build hbuild stat.time (hshown.2.trans hstamp)
  refine ⟨build.text, htext stat hstat rfl, ?_⟩
  rw [← hshown.1]
  rfl

/-- The disk after a file was written, with a template of the given name. -/
def withTemplate (disk : Disk) (name : String) (time : Int) : Disk :=
  (disk.write (.ofText "a.soy") ("\x7btemplate " ++ name ++ "\x7d").toUTF8.toList time).2

/-- The file as it is first. -/
def written : Disk := withTemplate ⟨.folder [] 0, [], 0⟩ ".a" 5

/-- The file is written anew after its time was taken and before its text is read; then it is indexed once
more. -/
def overtaken : List Move :=
  let turn := Move.turn {} ⟨1, 1, 0⟩
  [turn (.rebuild "a.soy"), turn (.resume 0), .change (withTemplate written ".b" 6), turn (.resume 0),
    turn (.rebuild "a.soy"), turn (.resume 0), turn (.resume 0)]

theorem stamp_vouches_overtaken :
    ∃ text, readText ((start () written).run (.uniform .text) .utf8 overtaken).disk .utf8 "a.soy"
        = .ok text ∧
      ∃ entry, ((start () written).run (.uniform .text) .utf8 overtaken).traffic.atlas.cache.get?
          "a.soy" = some entry ∧
        entry.version.index.outline = (FileIndex.ofText "a.soy" text).outline := by
  have hdated : (start () written).AllDated .utf8 "a.soy" (.uniform .text) overtaken := by
    decide +kernel
  have hstamped : ∃ entry ∈ ((start () written).run (.uniform .text) .utf8
        overtaken).traffic.atlas.cache.get? "a.soy",
      ∃ stat ∈ (((start () written).run (.uniform .text) .utf8 overtaken).disk.stat
          "a.soy").toOption,
        entry.stamp = some stat.time := by
    decide +kernel
  obtain ⟨entry, hentry, stat, hstat, hstamp⟩ := hstamped
  obtain ⟨text, htext, houtline⟩ := stamp_vouches (.uniform .text) .utf8 () written "a.soy" overtaken
    hdated hentry (Except.mem_toOption.mp hstat) hstamp
  exact ⟨text, htext, entry, hentry, houtline⟩

end Timeline

end TemplateAtlas
