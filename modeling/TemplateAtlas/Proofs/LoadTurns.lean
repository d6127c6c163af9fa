import Mathlib.Tactic.Common
import TemplateAtlas.Search

/-!
# The turns of a load

What can come of a turn of a load is said here once, so that nothing that is proved about loads has to look at
the turns themselves again.

* `Atlas.Trusts` — how far a cached index is trusted, and why.
* `Atlas.Reads` — a text has arrived: it is refused, or the index is built and stored.
* `Atlas.Builds` — a load builds its index, from asking for the stamp on.
* `Atlas.Judges` — the time of a file has arrived, and decides about a cached index.
* `Atlas.LoadTurn` — any turn, by what the load has waited for: `startLoad_turns`, `resumeLoad_turns`.

A load that is alone takes all its turns at once: `Atlas.load_of_granted`, `load_of_refused`, `load_of_current`,
`load_of_outdated` and `load_of_failed` say for each degree of trust what it does.
-/

namespace TemplateAtlas

variable {σ : Type}

/-- The stamp of an index that is built now. -/
def Workspace.stamp (workspace : Workspace) (path : String) (time : Option Int) : Option Int :=
  if workspace.isDirty path then none else time

namespace Atlas

@[simp] lemma note_cache (atlas : Atlas σ) (event : Event) : (atlas.note event).cache = atlas.cache :=
  rfl

@[simp] lemma note_flags (atlas : Atlas σ) (event : Event) : (atlas.note event).flags = atlas.flags :=
  rfl

end Atlas

namespace Search

@[simp] lemma noteMishap_cache (mishap : Mishap) (atlas : Atlas σ) :
    (noteMishap mishap atlas).cache = atlas.cache := by
  cases mishap <;> rfl

@[simp] lemma noteMishap_flags (mishap : Mishap) (atlas : Atlas σ) :
    (noteMishap mishap atlas).flags = atlas.flags := by
  cases mishap <;> rfl

end Search

namespace Atlas

/-- The atlas has these flags and this cache, whatever it has noted. -/
structure Has (flags : Flags) (cache : Cache) (atlas : Atlas σ) : Prop where
  flags : atlas.flags = flags
  cache : atlas.cache = cache

/-- The time of a file does not speak for a cached index of it: it is another one, or is not known. -/
inductive Outdated (workspace : Workspace) (path : String) (entry : Cached) : Prop
  | changed {time : Int} (htime : workspace.modified path = .ok time) (hstamp : entry.stamp ≠ some time)
  | unknown {reason : String} (htime : workspace.modified path = .error (.unavailable reason))

section Relations

variable (workspace : Workspace) (path : String)

/-- How far the cached index of a path is trusted. -/
inductive Trusts (atlas : Atlas σ) : Trust → Prop
  | missing (hentry : atlas.cache.get? path = none) : Trusts atlas .refused
  | edited {entry : Cached} (hentry : atlas.cache.get? path = some entry)
      (hflag : atlas.flags.isChanged path = true) (hdirty : workspace.isDirty path = true) :
      Trusts atlas .refused
  | unflagged {entry : Cached} (hentry : atlas.cache.get? path = some entry)
      (hflag : atlas.flags.isChanged path = false) : Trusts atlas (.granted entry.version)
  | flagged {entry : Cached} (hentry : atlas.cache.get? path = some entry)
      (hflag : atlas.flags.isChanged path = true) (hclean : workspace.isDirty path = false) :
      Trusts atlas (.undecided entry)

/-- What comes of a text that has arrived. -/
inductive Reads (stamp : Option Int) (flags : Flags) (cache : Cache) :
    Except LoadFault Loaded × Atlas σ → Prop
  | refused {cause : SourceFault} {after : Atlas σ} (htext : workspace.text path = .error cause)
      (hafter : after.Has flags cache) : Reads stamp flags cache (.error ⟨path, .read, cause⟩, after)
  | built {text : List Char} {after : Atlas σ} (htext : workspace.text path = .ok text)
      (hafter : after.Has flags (cache.store path (.ofText path text) stamp).2) :
      Reads stamp flags cache (.ok ⟨path, ⟨cache.issued, .ofText path text⟩, some text⟩, after)

/-- What comes of an index that is built at once. -/
inductive Rebuilt (flags : Flags) (cache : Cache) : Except LoadFault Loaded × Atlas σ → Prop
  | refused {cause : SourceFault} {after : Atlas σ} (htime : workspace.diskTime path = .error cause)
      (hafter : after.Has flags cache) : Rebuilt flags cache (.error ⟨path, .stat, cause⟩, after)
  | reads {time : Option Int} {result : Except LoadFault Loaded × Atlas σ}
      (htime : workspace.diskTime path = .ok time)
      (h : Reads workspace path (workspace.stamp path time) flags cache result) :
      Rebuilt flags cache result

/-- What comes of a load that builds its index, if it takes the given rounds to ask for the stamp. -/
inductive Builds (rounds : Nat) (flags : Flags) (cache : Cache) : LoadStep × Atlas σ → Prop
  | asks {after : Atlas σ} (hrounds : rounds ≠ 0) (hafter : after.Has flags cache) :
      Builds rounds flags cache (.wait rounds .stamping, after)
  | refused {cause : SourceFault} {after : Atlas σ} (htime : workspace.diskTime path = .error cause)
      (hafter : after.Has flags cache) : Builds rounds flags cache (.done (.error ⟨path, .stat, cause⟩), after)
  | stamped {time : Option Int} {after : Atlas σ} (htime : workspace.diskTime path = .ok time)
      (hrounds : workspace.textRounds path ≠ 0) (hafter : after.Has flags cache) :
      Builds rounds flags cache (.wait (workspace.textRounds path) (.reading (workspace.stamp path time)), after)
  | reads {time : Option Int} {outcome : Except LoadFault Loaded} {after : Atlas σ}
      (htime : workspace.diskTime path = .ok time)
      (h : Reads workspace path (workspace.stamp path time) flags cache (outcome, after)) :
      Builds rounds flags cache (.done outcome, after)

/-- What comes of the time of a file that decides about a cached index.  The index that is used is that of now. -/
inductive Judges (entry : Cached) (flags : Flags) (cache : Cache) : LoadStep × Atlas σ → Prop
  | reuses {time : Int} {after : Atlas σ} (htime : workspace.modified path = .ok time)
      (hstamp : entry.stamp = some time) (hafter : after.Has flags cache) :
      Judges entry flags cache (.done (.ok ⟨path, ((cache.get? path).getD entry).version, none⟩), after)
  | refused {cause : SourceFault} {after : Atlas σ} (htime : workspace.modified path = .error cause)
      (hcause : ∀ reason, cause ≠ .unavailable reason) (hafter : after.Has flags cache) :
      Judges entry flags cache (.done (.error ⟨path, .stat, cause⟩), after)
  | builds {outcome : LoadStep × Atlas σ} (hold : Outdated workspace path entry)
      (h : Builds workspace path workspace.statRounds flags cache outcome) : Judges entry flags cache outcome

/-- The entry that the time decides about is asked about at once, or has been asked about. -/
inductive Questions (atlas : Atlas σ) : Option LoadStage → Cached → Prop
  | now {entry : Cached} (htrust : atlas.trust workspace path = .undecided entry) : Questions atlas none entry
  | before {entry : Cached} : Questions atlas (some (.checking entry)) entry

/-- What comes of a turn of a load, by what it has waited for. -/
inductive LoadTurn (atlas : Atlas σ) : Option LoadStage → LoadStep × Atlas σ → Prop
  | reuses {version : Version} (htrust : atlas.trust workspace path = .granted version) :
      LoadTurn atlas none (.done (.ok ⟨path, version, none⟩), atlas)
  | builds {outcome : LoadStep × Atlas σ} (htrust : atlas.trust workspace path = .refused)
      (h : Builds workspace path workspace.statRounds atlas.flags atlas.cache outcome) :
      LoadTurn atlas none outcome
  | asks {entry : Cached} {after : Atlas σ} (htrust : atlas.trust workspace path = .undecided entry)
      (hrounds : workspace.statRounds ≠ 0) (hafter : after.Has atlas.flags atlas.cache) :
      LoadTurn atlas none (.wait workspace.statRounds (.checking entry), after)
  | judges {stage? : Option LoadStage} {entry : Cached} {outcome : LoadStep × Atlas σ}
      (hentry : Questions workspace path atlas stage? entry)
      (h : Judges workspace path entry atlas.flags atlas.cache outcome) : LoadTurn atlas stage? outcome
  | stamps {outcome : LoadStep × Atlas σ} (h : Builds workspace path 0 atlas.flags atlas.cache outcome) :
      LoadTurn atlas (some .stamping) outcome
  | reads {stamp : Option Int} {outcome : Except LoadFault Loaded} {after : Atlas σ}
      (h : Reads workspace path stamp atlas.flags atlas.cache (outcome, after)) :
      LoadTurn atlas (some (.reading stamp)) (.done outcome, after)

end Relations

section Turns

variable (workspace : Workspace) (path : String) (atlas : Atlas σ)

lemma trust_trusts : Trusts workspace path atlas (atlas.trust workspace path) := by
  rw [trust]
  cases hentry : atlas.cache.get? path with
  | none => exact .missing hentry
  | some entry =>
      simp only
      split_ifs with hflag hdirty
      · exact .unflagged hentry (by simpa using hflag)
      · exact .edited hentry (by simpa using hflag) hdirty
      · exact .flagged hentry (by simpa using hflag) (Bool.eq_false_iff.mpr hdirty)

variable {workspace path atlas}

/-- An index that is used unseen is cached. -/
lemma get?_of_granted {version : Version} (h : atlas.trust workspace path = .granted version) :
    ∃ entry, atlas.cache.get? path = some entry ∧ entry.version = version := by
  have htrusts := trust_trusts workspace path atlas
  rw [h] at htrusts
  cases htrusts with
  | unflagged hentry _ => exact ⟨_, hentry, rfl⟩

/-- What is asked about is cached. -/
lemma get?_of_undecided {entry : Cached} (h : atlas.trust workspace path = .undecided entry) :
    atlas.cache.get? path = some entry := by
  have htrusts := trust_trusts workspace path atlas
  rw [h] at htrusts
  cases htrusts with
  | flagged hentry _ _ => exact hentry

variable (workspace path atlas)

lemma finishRebuild_reads (stamp : Option Int) :
    Reads workspace path stamp atlas.flags atlas.cache (atlas.finishRebuild workspace path stamp) := by
  rw [finishRebuild]
  cases htext : workspace.text path with
  | error cause => exact .refused htext ⟨rfl, rfl⟩
  | ok text => exact .built htext ⟨rfl, rfl⟩

lemma rebuild_rebuilt : Rebuilt workspace path atlas.flags atlas.cache (atlas.rebuild workspace path) := by
  rw [rebuild, startRebuild]
  cases htime : workspace.diskTime path with
  | error cause => exact .refused htime ⟨rfl, rfl⟩
  | ok time =>
      exact .reads htime (finishRebuild_reads workspace path (atlas.note (.readStarted path)) _)

lemma takeStamp_builds (rounds : Nat) :
    Builds workspace path rounds atlas.flags atlas.cache (atlas.takeStamp workspace path) := by
  rw [takeStamp, startRebuild]
  cases htime : workspace.diskTime path with
  | error cause => exact .refused htime ⟨rfl, rfl⟩
  | ok time =>
      simp only
      split
      · exact .reads htime (finishRebuild_reads workspace path (atlas.note (.readStarted path)) _)
      · rename_i hrounds
        exact .stamped htime hrounds ⟨rfl, rfl⟩

lemma askStamp_builds :
    Builds workspace path workspace.statRounds atlas.flags atlas.cache (atlas.askStamp workspace path) := by
  rw [askStamp]
  split
  · exact takeStamp_builds workspace path atlas _
  · rename_i hrounds
    exact .asks hrounds ⟨rfl, rfl⟩

lemma judge_judges (entry : Cached) :
    Judges workspace path entry atlas.flags atlas.cache (atlas.judge workspace path entry) := by
  rw [judge]
  cases htime : workspace.modified path with
  | ok time =>
      simp only
      split_ifs with hstamp
      · exact .reuses htime hstamp ⟨rfl, rfl⟩
      · exact .builds (.changed htime hstamp) (askStamp_builds workspace path atlas)
  | error cause =>
      cases cause with
      | unavailable reason =>
          exact .builds (.unknown htime) (askStamp_builds workspace path (atlas.note _))
      | nulInPath => exact .refused htime (by simp) ⟨rfl, rfl⟩
      | unknownEncoding => exact .refused htime (by simp) ⟨rfl, rfl⟩

/-- **The first turn of a load.** -/
theorem startLoad_turns : LoadTurn workspace path atlas none (atlas.startLoad workspace path) := by
  rw [startLoad]
  cases htrust : atlas.trust workspace path with
  | refused => exact .builds htrust (askStamp_builds workspace path atlas)
  | granted version => exact .reuses htrust
  | undecided entry =>
      simp only
      split
      · exact .judges (.now htrust) (judge_judges workspace path (atlas.note (.statted path)) entry)
      · rename_i hrounds
        exact .asks htrust hrounds ⟨rfl, rfl⟩

/-- **The turn of a load for which an answer has arrived.** -/
theorem resumeLoad_turns (stage : LoadStage) :
    LoadTurn workspace path atlas (some stage) (atlas.resumeLoad workspace path stage) := by
  cases stage with
  | checking entry => exact .judges .before (judge_judges workspace path atlas entry)
  | stamping => exact .stamps (takeStamp_builds workspace path atlas 0)
  | reading stamp => exact .reads (finishRebuild_reads workspace path atlas stamp)

end Turns

/-! ## A load that is alone -/

section Alone

variable {workspace : Workspace} {path : String} {atlas : Atlas σ} {entry : Cached}

lemma trust_of_missing (hentry : atlas.cache.get? path = none) : atlas.trust workspace path = .refused := by
  rw [trust, hentry]

lemma trust_of_unflagged (hentry : atlas.cache.get? path = some entry)
    (hflag : atlas.flags.isChanged path = false) : atlas.trust workspace path = .granted entry.version := by
  simp [trust, hentry, hflag]

lemma trust_of_edited (hentry : atlas.cache.get? path = some entry)
    (hflag : atlas.flags.isChanged path = true) (hdirty : workspace.isDirty path = true) :
    atlas.trust workspace path = .refused := by
  simp [trust, hentry, hflag, hdirty]

lemma trust_of_flagged (hentry : atlas.cache.get? path = some entry)
    (hflag : atlas.flags.isChanged path = true) (hclean : workspace.isDirty path = false) :
    atlas.trust workspace path = .undecided entry := by
  simp [trust, hentry, hflag, hclean]

lemma usable?_of_refused (htrust : atlas.trust workspace path = .refused) :
    atlas.usable? workspace path = (.ok none, atlas) := by
  rw [usable?, htrust]

lemma usable?_of_granted {version : Version} (htrust : atlas.trust workspace path = .granted version) :
    atlas.usable? workspace path = (.ok (some version), atlas) := by
  rw [usable?, htrust]

lemma usable?_of_undecided (htrust : atlas.trust workspace path = .undecided entry) :
    atlas.usable? workspace path
      = ((workspace.modified path).map fun time =>
          if entry.stamp = some time then some entry.version else none,
        atlas.note (.statted path)) := by
  rw [usable?, htrust]

/-- The time of the file speaks for the cached index. -/
lemma usable?_of_current (htrust : atlas.trust workspace path = .undecided entry) {time : Int}
    (htime : workspace.modified path = .ok time) (hstamp : entry.stamp = some time) :
    atlas.usable? workspace path = (.ok (some entry.version), atlas.note (.statted path)) := by
  simp [usable?_of_undecided htrust, htime, Except.map, hstamp]

lemma load_of_refused (htrust : atlas.trust workspace path = .refused) :
    atlas.load workspace path = atlas.rebuild workspace path := by
  rw [load, usable?_of_refused htrust]

lemma load_of_granted {version : Version} (htrust : atlas.trust workspace path = .granted version) :
    atlas.load workspace path = (.ok ⟨path, version, none⟩, atlas) := by
  rw [load, usable?_of_granted htrust]

lemma load_of_current (htrust : atlas.trust workspace path = .undecided entry) {time : Int}
    (htime : workspace.modified path = .ok time) (hstamp : entry.stamp = some time) :
    atlas.load workspace path = (.ok ⟨path, entry.version, none⟩, atlas.note (.statted path)) := by
  rw [load, usable?_of_current htrust htime hstamp]

lemma load_of_outdated (htrust : atlas.trust workspace path = .undecided entry)
    (hold : Outdated workspace path entry) :
    ∃ noted : Atlas σ, noted.Has atlas.flags atlas.cache ∧
      atlas.load workspace path = noted.rebuild workspace path := by
  cases hold with
  | changed htime hstamp =>
      refine ⟨atlas.note (.statted path), ⟨rfl, rfl⟩, ?_⟩
      simp [load, usable?_of_undecided htrust, htime, Except.map, hstamp]
  | @unknown reason htime =>
      refine ⟨(atlas.note (.statted path)).note (.statFailed path reason), ⟨rfl, rfl⟩, ?_⟩
      simp [load, usable?_of_undecided htrust, htime, Except.map]

/-- The time of the file is refused for good. -/
lemma load_of_failed (htrust : atlas.trust workspace path = .undecided entry) {cause : SourceFault}
    (htime : workspace.modified path = .error cause) (hcause : ∀ reason, cause ≠ .unavailable reason) :
    atlas.load workspace path = (.error ⟨path, .stat, cause⟩, atlas.note (.statted path)) := by
  rw [load, usable?_of_undecided htrust, htime]
  cases cause with
  | unavailable reason => exact absurd rfl (hcause reason)
  | nulInPath => rfl
  | unknownEncoding => rfl

/-- Of a cached index only the stamp is judged. -/
lemma Outdated.of_stamp {other : Cached} (h : Outdated workspace path entry)
    (hstamp : other.stamp = entry.stamp) : Outdated workspace path other := by
  cases h with
  | changed htime hne => exact .changed htime (hstamp ▸ hne)
  | unknown htime => exact .unknown htime

/-- The time of a file speaks for a cached index, or does not, or is refused for good. -/
lemma outdated_or (workspace : Workspace) (path : String) (entry : Cached) :
    (∃ time, workspace.modified path = .ok time ∧ entry.stamp = some time) ∨
      Outdated workspace path entry ∨
        ∃ cause, workspace.modified path = .error cause ∧ ∀ reason, cause ≠ .unavailable reason := by
  cases htime : workspace.modified path with
  | ok time =>
      by_cases hstamp : entry.stamp = some time
      · exact Or.inl ⟨time, rfl, hstamp⟩
      · exact Or.inr (Or.inl (.changed htime hstamp))
  | error cause =>
      cases cause with
      | unavailable reason => exact Or.inr (Or.inl (.unknown htime))
      | nulInPath => exact Or.inr (Or.inr ⟨_, rfl, by simp⟩)
      | unknownEncoding => exact Or.inr (Or.inr ⟨_, rfl, by simp⟩)

end Alone

end Atlas

end TemplateAtlas
