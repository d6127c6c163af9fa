import Mathlib.Data.List.Induction
import Mathlib.Tactic.Common
import TemplateAtlas.Proofs.Independence
import TemplateAtlas.Proofs.Memos

/-!
# Loads of a file that is asked about more than once

If a file is listed twice among the candidates, its loads do get in each other's way: one of them may find in
the cache what another one has just built, or build it once more.  What they hand out is the same nevertheless.

**One load.**  A load that is alone is refused, reuses what is cached, or builds the index (`ComesTo`).  The
file is `Steady` if nothing is built.

**Steady files.**  As long as no load of a file builds, each of them is in the situation of a load that is
alone, and so it does not build either: `steady_turn` is the step, `loadsAfter_steady` the run.

**Other files.**  There is no usable index, and the file can be read.  Then every load that ends hands out the
index of its text, and an index of that text is in the cache: `loadsAfter_served`.

**All loads.**  Whatever the order of the turns, a load comes to what it comes to when it is alone, up to
whether the index was built or found (`loadsAfter_agrees`, `entry_loadsAfter`), and the cached index of a path
is one of those that were handed out (`loadsAfter_handedOut`).
-/

namespace TemplateAtlas

variable {σ : Type}

/-- But for their numbers, entries are the same if they have the same index and stamp. -/
lemma Cached.unnumbered_inj {entry other : Cached} :
    entry.unnumbered = other.unnumbered ↔
      entry.version.index = other.version.index ∧ entry.stamp = other.stamp := by
  simp [unnumbered, Cached.mk.injEq]

namespace Search

variable {workspace : Workspace} {before atlas : Atlas σ} {path : String}

/-! ## One load -/

/-- What a load that is alone can come to. -/
inductive ComesTo (workspace : Workspace) (before : Atlas σ) (path : String) :
    Except Mishap Loaded × Atlas σ → Prop
  | refused {stage : Stage} {cause : SourceFault} {after : Atlas σ}
      (hcache : after.cache = before.cache) :
      ComesTo workspace before path (.error (LoadFault.mk path stage cause).mishap, after)
  | reused {entry : Cached} {after : Atlas σ} (hentry : before.cache.get? path = some entry)
      (husable : (before.usable? workspace path).1 = .ok (some entry.version))
      (hcache : after.cache = before.cache) :
      ComesTo workspace before path (.ok ⟨path, entry.version, none⟩, after)
  | built {text : List Char} {time : Option Int} {after : Atlas σ}
      (hnone : Unusable workspace before path) (htext : workspace.text path = .ok text)
      (htime : workspace.diskTime path = .ok time)
      (hcache : after.cache
        = (before.cache.store path (.ofText path text) (workspace.stamp path time)).2) :
      ComesTo workspace before path
        (.ok ⟨path, ⟨before.cache.issued, .ofText path text⟩, some text⟩, after)

/-- A usable index is the cached one. -/
lemma entry_of_usable {version : Version}
    (h : (before.usable? workspace path).1 = .ok (some version)) :
    ∃ entry, before.cache.get? path = some entry ∧ entry.version = version := by
  cases htrust : before.trust workspace path with
  | refused =>
      rw [Atlas.usable?_of_refused htrust] at h
      cases h
  | granted found =>
      obtain ⟨entry, hentry, rfl⟩ := Atlas.get?_of_granted htrust
      rw [Atlas.usable?_of_granted htrust] at h
      exact ⟨entry, hentry, Option.some.inj (Except.ok.inj h)⟩
  | undecided entry =>
      refine ⟨entry, Atlas.get?_of_undecided htrust, ?_⟩
      rcases Atlas.outdated_or workspace path entry with ⟨time, htime, hstamp⟩ | hold | ⟨cause, htime, -⟩
      · rw [Atlas.usable?_of_current htrust htime hstamp] at h
        exact Option.some.inj (Except.ok.inj h)
      · exact absurd h (unusable_of_outdated htrust hold version)
      · rw [Atlas.usable?_of_undecided htrust, htime] at h
        cases h

lemma rebuild_comesTo (hcache : atlas.cache = before.cache) (hnone : Unusable workspace before path) :
    ComesTo workspace before path
      (closeLoad (atlas.rebuild workspace path).1 (atlas.rebuild workspace path).2) := by
  have hrebuilt := Atlas.rebuild_rebuilt workspace path atlas
  rw [hcache] at hrebuilt
  generalize atlas.rebuild workspace path = result at hrebuilt ⊢
  cases hrebuilt with
  | refused _ hafter => exact .refused ((noteMishap_cache _ _).trans hafter.cache)
  | reads htime hreads =>
      cases hreads with
      | refused _ hafter => exact .refused ((noteMishap_cache _ _).trans hafter.cache)
      | built htext hafter => exact .built hnone htext htime hafter.cache

lemma loadAlone_comesTo (workspace : Workspace) (before : Atlas σ) (path : String) :
    ComesTo workspace before path (loadAlone workspace before path) := by
  cases htrust : before.trust workspace path with
  | refused =>
      rw [loadAlone, Atlas.load_of_refused htrust]
      exact rebuild_comesTo rfl (unusable_of_distrusted htrust)
  | granted version =>
      obtain ⟨entry, hentry, rfl⟩ := Atlas.get?_of_granted htrust
      rw [loadAlone, Atlas.load_of_granted htrust]
      exact .reused hentry (by rw [Atlas.usable?_of_granted htrust]) rfl
  | undecided entry =>
      rcases Atlas.outdated_or workspace path entry with
        ⟨time, htime, hstamp⟩ | hold | ⟨cause, htime, hcause⟩
      · rw [loadAlone, Atlas.load_of_current htrust htime hstamp]
        exact .reused (Atlas.get?_of_undecided htrust)
          (by rw [Atlas.usable?_of_current htrust htime hstamp]) rfl
      · obtain ⟨noted, hnoted, hload⟩ := Atlas.load_of_outdated htrust hold
        rw [loadAlone, hload]
        exact rebuild_comesTo hnoted.cache (unusable_of_outdated htrust hold)
      · rw [loadAlone, Atlas.load_of_failed htrust htime hcause]
        exact .refused (noteMishap_cache _ _)

/-- A failure names the file that it is about. -/
lemma failure_path {failure : Failure}
    (h : (loadAlone workspace before path).1 = .error (.contained failure)) : failure.path = path := by
  have hcomes := loadAlone_comesTo workspace before path
  generalize loadAlone workspace before path = alone at hcomes h
  cases hcomes with
  | refused _ => exact LoadFault.path_of_contained (Except.error.inj h)
  | reused _ _ _ => cases h
  | built _ _ _ _ => cases h

/-- A load of the file that is alone builds nothing. -/
def Steady (workspace : Workspace) (before : Atlas σ) (path : String) : Prop :=
  ∀ item, (loadAlone workspace before path).1 = .ok item → item.fromCache = true

/-- A file that is not steady can be read, and there is no usable index of it. -/
lemma steady_or_built (workspace : Workspace) (before : Atlas σ) (path : String) :
    Steady workspace before path ∨ Unusable workspace before path ∧ ∃ text time,
      workspace.text path = .ok text ∧ workspace.diskTime path = .ok time ∧
      (loadAlone workspace before path).1
        = .ok ⟨path, ⟨before.cache.issued, .ofText path text⟩, some text⟩ ∧
      (loadAlone workspace before path).2.cache
        = (before.cache.store path (.ofText path text) (workspace.stamp path time)).2 := by
  have hcomes := loadAlone_comesTo workspace before path
  rw [Steady]
  generalize loadAlone workspace before path = alone at hcomes ⊢
  cases hcomes with
  | refused _ => exact Or.inl (by rintro _ ⟨⟩)
  | reused _ _ _ => exact Or.inl (by rintro _ ⟨⟩; rfl)
  | built hnone htext htime hcache =>
      exact Or.inr ⟨hnone, _, _, htext, htime, rfl, hcache⟩

/-- A load that is alone leaves the entry of a steady file as it is. -/
lemma Steady.untouched (h : Steady workspace before path) :
    Untouched before path (loadAlone workspace before path).2 := by
  have hcomes := loadAlone_comesTo workspace before path
  rw [Steady] at h
  generalize loadAlone workspace before path = alone at hcomes h ⊢
  cases hcomes with
  | refused hcache => exact congrArg (·.get? path) hcache
  | reused _ _ hcache => exact congrArg (·.get? path) hcache
  | built _ _ _ _ => exact absurd (h _ rfl) (by simp [Loaded.fromCache])

/-! ## One turn -/

/-- What a turn of a load that has not ended can do: nothing to the cache, unless it ends with an index that it
has built. -/
inductive Fetches (workspace : Workspace) (path : String) (cache : Cache) :
    Step Atlas.LoadStage (Except Mishap Loaded) × Atlas σ → Prop
  | idle {step : Step Atlas.LoadStage (Except Mishap Loaded)} {after : Atlas σ}
      (hcache : after.cache = cache) (hstep : ∀ item, step ≠ .done (.ok item)) :
      Fetches workspace path cache (step, after)
  | reuses {entry : Cached} {after : Atlas σ} (hcache : after.cache = cache)
      (hentry : cache.get? path = some entry) :
      Fetches workspace path cache (.done (.ok ⟨path, entry.version, none⟩), after)
  | builds {text : List Char} {stamp : Option Int} {after : Atlas σ}
      (htext : workspace.text path = .ok text)
      (hcache : after.cache = (cache.store path (.ofText path text) stamp).2) :
      Fetches workspace path cache
        (.done (.ok ⟨path, ⟨cache.issued, .ofText path text⟩, some text⟩), after)

lemma fetches_of_turned {stamp : Option Int} {cache : Cache} {outcome : Atlas.LoadStep × Atlas σ}
    (h : Traffic.Turned workspace path stamp cache outcome) :
    Fetches workspace path cache (closeStep outcome) := by
  cases h with
  | waits hcache _ => exact .idle hcache (by simp)
  | fails hcache => exact .idle ((noteMishap_cache _ _).trans hcache) (by simp)
  | reuses hcache hentry => exact .reuses hcache hentry
  | builds htext hcache => exact .builds htext hcache

lemma loading_fetches {last? : Option (Step Atlas.LoadStage (Except Mishap Loaded))}
    (hopen : ∀ result, last? ≠ some (.done result))
    (hchecked : ∀ rounds entry, last? = some (.wait rounds (.checking entry)) →
      (atlas.cache.get? path).isSome = true) :
    Fetches workspace path atlas.cache ((loading workspace).step path last? atlas) := by
  match last?, hopen, hchecked with
  | none, _, _ => exact fetches_of_turned (Traffic.startLoad_turned workspace path atlas)
  | some (.wait rounds stage), _, hchecked =>
      refine fetches_of_turned (Traffic.resumeLoad_turned workspace path atlas stage ?_)
      rintro entry rfl
      exact hchecked rounds entry rfl
  | some (.done result), hopen, _ => exact absurd rfl (hopen result)

/-- The turn of a load of a steady file leaves the cache alone. -/
lemma steady_turn (hsteady : Steady workspace before path) (hflags : atlas.flags = before.flags)
    {last? : Option (Step Atlas.LoadStage (Except Mishap Loaded))}
    (hlast : AloneLast workspace before atlas path last?) :
    ((loading workspace).step path last? atlas).2.cache = atlas.cache := by
  by_cases hopen : ∀ result, last? ≠ some (.done result)
  · have halone := ((loading_alone workspace before).step path last? atlas hflags hlast).2
    have hfetches : Fetches workspace path atlas.cache ((loading workspace).step path last? atlas) := by
      refine loading_fetches hopen ?_
      rintro rounds entry rfl
      have hentry : atlas.cache.get? path = some entry := hlast.1.trans (Atlas.get?_of_undecided hlast.2)
      rw [hentry, Option.isSome_some]
    generalize (loading workspace).step path last? atlas = outcome at halone hfetches ⊢
    cases hfetches with
    | idle hcache _ => exact hcache
    | reuses hcache _ => exact hcache
    | @builds text stamp after htext hcache =>
        have houtcome : (.ok ⟨path, ⟨0, .ofText path text⟩, some text⟩ : Except Mishap Loaded)
            = (loadAlone workspace before path).1.map Loaded.unnumbered := halone.outcome
        cases hload : (loadAlone workspace before path).1 with
        | error mishap => simp [hload, Except.map] at houtcome
        | ok item =>
            have hcached := hsteady item hload
            rw [hload, Except.map, Except.ok.injEq] at houtcome
            have htexts : some text = item.text? := congrArg Loaded.text? houtcome
            simp [Loaded.fromCache, ← htexts] at hcached
  · push Not at hopen
    obtain ⟨result, rfl⟩ := hopen
    rfl

/-! ## Steady files -/

/-- Flags are as they were, and so are the entries of steady files. -/
structure Steadied (workspace : Workspace) (before atlas : Atlas σ) : Prop where
  flags : atlas.flags = before.flags
  untouched : ∀ path, Steady workspace before path → Untouched before path atlas

/-- What is known of a load, if its file is steady. -/
def SteadyLast (workspace : Workspace) (before atlas : Atlas σ) (path : String)
    (last? : Option (Step Atlas.LoadStage (Except Mishap Loaded))) : Prop :=
  Steady workspace before path → AloneLast workspace before atlas path last?

/-- What is known of a load only depends on the entry of its path. -/
lemma AloneLast.congr {after : Atlas σ} (hsame : after.cache.get? path = atlas.cache.get? path)
    {last? : Option (Step Atlas.LoadStage (Except Mishap Loaded))}
    (h : AloneLast workspace before atlas path last?) :
    AloneLast workspace before after path last? := by
  match last?, h with
  | none, h => exact hsame.trans h
  | some step, h => exact LoadsAlone.congr hsame h

/-- A turn leaves the entries of other paths alone, and that of a steady file in any case. -/
lemma get?_loading {other : String} (hsteady : Steady workspace before other)
    (hflags : atlas.flags = before.flags)
    {last? : Option (Step Atlas.LoadStage (Except Mishap Loaded))}
    (hlast : SteadyLast workspace before atlas path last?) :
    ((loading workspace).step path last? atlas).2.cache.get? other = atlas.cache.get? other := by
  by_cases hother : other = path
  · subst hother
    rw [steady_turn hsteady hflags (hlast hsteady)]
  · exact (loading_effect last?).get?_ne hother

lemma loading_steady (workspace : Workspace) (before : Atlas σ) :
    (loading workspace).Keeps (Steadied workspace before) (SteadyLast workspace before) where
  step path last? atlas hsteadied hlast := by
    refine ⟨⟨(loading_effect last?).flags.trans hsteadied.flags, fun other hother => ?_⟩,
      fun hsteady => ?_⟩
    · exact (get?_loading hother hsteadied.flags hlast).trans (hsteadied.untouched other hother)
    · exact ((loading_alone workspace before).step path last? atlas hsteadied.flags
        (hlast hsteady)).2
  stable path last? atlas other otherLast? hsteadied hlast hother hsteady :=
    (hother hsteady).congr (get?_loading hsteady hsteadied.flags hlast)

/-- **Loads of steady files do not get in each other's way**, however often a file is listed. -/
theorem loadsAfter_steady (workspace : Workspace) (before : Atlas σ) (candidates : List String)
    (schedule : List Nat) :
    (loadsAfter workspace candidates before schedule).Sound (Steadied workspace before)
      (SteadyLast workspace before) :=
  Batch.execute_keeps (loading_steady workspace before) schedule
    (Batch.ofInputs_sound ⟨rfl, fun _ _ => rfl⟩ fun _ _ _ => rfl)

section Steady

variable {candidates : List String} {schedule : List Nat}
  {loads : Batch (Atlas σ) String Atlas.LoadStage (Except Mishap Loaded)}

/-- The loads leave the entry of a steady file as it is. -/
lemma Steady.untouched_after (h : Steady workspace before path)
    (hloads : loads = loadsAfter workspace candidates before schedule) :
    Untouched before path loads.state := by
  rw [hloads]
  exact (loadsAfter_steady workspace before candidates schedule).state.untouched path h

/-- A load of a steady file comes to what it comes to when it is alone. -/
lemma Steady.alike (h : Steady workspace before path)
    (hloads : loads = loadsAfter workspace candidates before schedule)
    {outcome : Except Mishap Loaded} (htask : (path, some (.done outcome)) ∈ loads.tasks) :
    Alike path (outcome, loads.state) (loadAlone workspace before path) := by
  subst hloads
  exact (loadsAfter_steady workspace before candidates schedule).tasks _ htask h

/-- A load of a steady file takes the index from the cache. -/
lemma Steady.fromCache (h : Steady workspace before path)
    (hloads : loads = loadsAfter workspace candidates before schedule) {item : Loaded}
    (htask : (path, some (.done (.ok item))) ∈ loads.tasks) : item.fromCache = true := by
  have hsame := (h.alike hloads htask).outcome
  cases hload : (loadAlone workspace before path).1 with
  | error mishap => simp [hload, Except.map] at hsame
  | ok alone =>
      rw [hload] at hsame
      have htexts : item.unnumbered.text? = alone.unnumbered.text? :=
        congrArg Loaded.text? (Except.ok.inj hsame)
      have hcached := h alone hload
      simp only [Loaded.unnumbered] at htexts
      rwa [Loaded.fromCache, ← htexts] at hcached

end Steady

/-- If all candidates are steady, the cache is left alone altogether. -/
theorem loadsAfter_cache {candidates : List String}
    (hsteady : ∀ path ∈ candidates, Steady workspace before path) (schedule : List Nat) :
    (loadsAfter workspace candidates before schedule).state.cache = before.cache := by
  have hkeeps : (loading workspace).Keeps
      (fun atlas => Steadied workspace before atlas ∧ atlas.cache = before.cache)
      (fun atlas path last? => Steady workspace before path ∧
        SteadyLast workspace before atlas path last?) := by
    refine ⟨fun path last? atlas hholds hlast => ?_,
      fun path last? atlas other otherLast? hholds hlast hother => ?_⟩
    · obtain ⟨hsteadied, hafter⟩ :=
        (loading_steady workspace before).step path last? atlas hholds.1 hlast.2
      exact ⟨⟨hsteadied,
        (steady_turn hlast.1 hholds.1.flags (hlast.2 hlast.1)).trans hholds.2⟩, hlast.1, hafter⟩
    · exact ⟨hother.1, (loading_steady workspace before).stable path last? atlas other otherLast?
        hholds.1 hlast.2 hother.2⟩
  have hstart : (Batch.ofInputs before candidates).Sound
      (fun atlas => Steadied workspace before atlas ∧ atlas.cache = before.cache)
      (fun atlas path last? => Steady workspace before path ∧
        SteadyLast workspace before atlas path last?) :=
    Batch.ofInputs_sound ⟨⟨rfl, fun _ _ => rfl⟩, rfl⟩ fun path hpath => ⟨hsteady path hpath, fun _ => rfl⟩
  exact (Batch.execute_keeps hkeeps schedule hstart).state.2

/-! ## Built files -/

/-- A good entry of a file: usable before the query, or the index of the text of a file without one. -/
def Served (workspace : Workspace) (before : Atlas σ) (path : String) (entry : Cached) : Prop :=
  ¬ Unusable workspace before path ∨ ∃ text time,
    workspace.text path = .ok text ∧ workspace.diskTime path = .ok time ∧
      entry.version.index = .ofText path text ∧ entry.stamp = workspace.stamp path time

lemma vouches_served (workspace : Workspace) (before : Atlas σ) :
    Vouches workspace before (Served workspace before) where
  usable _ _ _ husable := Or.inl fun hnone => hnone _ husable
  built _ text time _ _ htext htime := Or.inr ⟨text, time, htext, htime, rfl, rfl⟩

lemma loadsAfter_kept (workspace : Workspace) (before : Atlas σ) (candidates : List String)
    (schedule : List Nat) :
    (loadsAfter workspace candidates before schedule).Sound
      (Kept workspace before (Served workspace before))
      (Loads workspace before (Served workspace before)) :=
  Batch.execute_keeps (loading_keeps (vouches_served workspace before)) schedule
    (Batch.ofInputs_sound ⟨rfl, fun _ _ h => Or.inl h, .refl before⟩ fun _ _ => trivial)

/-- A file that is built can be loaded. -/
lemma not_refused {text : List Char} {time : Option Int} (htext : workspace.text path = .ok text)
    (htime : workspace.diskTime path = .ok time) {mishap : Mishap}
    (h : Refused workspace path mishap) : ∃ fault, mishap = .fatal fault := by
  obtain ⟨fault, hrefuses, rfl⟩ := h
  cases hrefuses with
  | stat hstat => rw [htime] at hstat; cases hstat
  | read _ hread => rw [htext] at hread; cases hread
  | @check cause _ hcause =>
      cases cause with
      | unavailable reason => exact absurd rfl (hcause reason)
      | nulInPath => exact ⟨_, rfl⟩
      | unknownEncoding => exact ⟨_, rfl⟩

section Loads

variable {candidates : List String} {schedule : List Nat}
  {loads : Batch (Atlas σ) String Atlas.LoadStage (Except Mishap Loaded)}

/-- **A file that has to be built is handed out as its text has it.** -/
theorem loadsAfter_served (hloads : loads = loadsAfter workspace candidates before schedule)
    (hcalm : Calm loads) {text : List Char} {time : Option Int} (hnone : Unusable workspace before path)
    (htext : workspace.text path = .ok text) (htime : workspace.diskTime path = .ok time)
    {outcome : Except Mishap Loaded} (htask : (path, some (.done outcome)) ∈ loads.tasks) :
    ∃ item entry, outcome = .ok item ∧ item.path = path ∧ item.version.index = .ofText path text ∧
      (∀ read, item.text? = some read → read = text) ∧
      loads.state.cache.get? path = some entry ∧
      entry.version.index = .ofText path text ∧ entry.stamp = workspace.stamp path time := by
  have hserved : ∀ entry, Served workspace before path entry →
      entry.version.index = .ofText path text ∧ entry.stamp = workspace.stamp path time := by
    rintro entry (husable | ⟨read, stamped, hread, hstamped, hindex, hstamp⟩)
    · exact absurd hnone husable
    · rw [htext, Except.ok.injEq] at hread
      rw [htime, Except.ok.injEq] at hstamped
      exact hread ▸ hstamped ▸ ⟨hindex, hstamp⟩
  subst hloads
  have hfits := (loadsAfter_kept workspace before candidates schedule).tasks _ htask
  cases outcome with
  | error mishap =>
      obtain ⟨fault, rfl⟩ := not_refused htext htime hfits
      refine absurd ?_ (hcalm fault)
      exact List.mem_filterMap.mpr ⟨_, htask, rfl⟩
  | ok item =>
      obtain ⟨hpath, ⟨stamp, hversion⟩, ⟨entry, hentry, hgood⟩, hread⟩ := hfits
      refine ⟨item, entry, rfl, hpath, (hserved _ hversion).1, fun read hmem => ?_, hentry,
        (hserved entry hgood).1, (hserved entry hgood).2⟩
      have hsame := (hread read hmem).2
      rw [htext, Except.ok.injEq] at hsame
      exact hsame.symm

/-! ## All loads -/

/-- Two loaded indexes are the same but for their numbers, and for whether the text was read for them. -/
structure Loaded.Same (workspace : Workspace) (item other : Loaded) : Prop where
  path : item.path = other.path
  index : item.version.index = other.version.index
  read : ∀ text, item.text? = some text → workspace.text item.path = .ok text
  readOther : ∀ text, other.text? = some text → workspace.text other.path = .ok text

/-- Two loads come to the same. -/
inductive Agrees (workspace : Workspace) : Except Mishap Loaded → Except Mishap Loaded → Prop
  | failed (mishap : Mishap) : Agrees workspace (.error mishap) (.error mishap)
  | loaded {item other : Loaded} (h : Loaded.Same workspace item other) :
      Agrees workspace (.ok item) (.ok other)

/-- Only candidates are loaded. -/
lemma mem_candidates (hloads : loads = loadsAfter workspace candidates before schedule)
    {last? : Option (Step Atlas.LoadStage (Except Mishap Loaded))}
    (htask : (path, last?) ∈ loads.tasks) : path ∈ candidates := by
  rw [← loadsAfter_inputs workspace candidates before schedule, ← hloads]
  exact List.mem_map.mpr ⟨_, htask, rfl⟩

/-- All candidates are loaded. -/
lemma exists_outcome (hloads : loads = loadsAfter workspace candidates before schedule)
    (hdone : loads.Finished) (hpath : path ∈ candidates) :
    ∃ outcome, (path, some (.done outcome)) ∈ loads.tasks := by
  rw [← loadsAfter_inputs workspace candidates before schedule, ← hloads] at hpath
  obtain ⟨⟨_, last?⟩, htask, rfl⟩ := List.mem_map.mp hpath
  obtain ⟨outcome, rfl⟩ := hdone _ htask
  exact ⟨outcome, htask⟩

/-- **A load among others comes to what it comes to when it is alone.** -/
theorem loadsAfter_agrees (hloads : loads = loadsAfter workspace candidates before schedule)
    (hcalm : Calm loads) {outcome : Except Mishap Loaded}
    (htask : (path, some (.done outcome)) ∈ loads.tasks) :
    Agrees workspace outcome (loadAlone workspace before path).1 := by
  rcases steady_or_built workspace before path with
    hsteady | ⟨hnone, text, time, htext, htime, hload, -⟩
  · have hsame := (hsteady.alike hloads htask).outcome
    cases hload : (loadAlone workspace before path).1 with
    | error mishap =>
        rw [hload] at hsame
        cases outcome with
        | error other =>
            rw [Except.error.inj hsame]
            exact .failed mishap
        | ok item => cases hsame
    | ok other =>
        rw [hload] at hsame
        cases outcome with
        | error mishap => cases hsame
        | ok item =>
            have hitem : item.unnumbered = other.unnumbered := Except.ok.inj hsame
            have hmissing : item.text? = none := by
              simpa [Loaded.fromCache] using hsteady.fromCache hloads htask
            have hmissingOther : other.text? = none := by
              simpa [Loaded.fromCache] using hsteady other hload
            have hpath : item.unnumbered.path = other.unnumbered.path := congrArg Loaded.path hitem
            have hindex : item.unnumbered.version.index = other.unnumbered.version.index :=
              congrArg (·.version.index) hitem
            exact .loaded ⟨hpath, hindex, by simp [hmissing], by simp [hmissingOther]⟩
  · obtain ⟨item, -, rfl, hpath, hindex, hread, -⟩ :=
      loadsAfter_served hloads hcalm hnone htext htime htask
    rw [hload]
    refine .loaded ⟨hpath, hindex, fun read hmem => ?_, ?_⟩
    · rw [hpath, hread read hmem]
      exact htext
    · rintro read ⟨⟩
      exact htext

/-- The results of all loads. -/
lemma results_agree (hloads : loads = loadsAfter workspace candidates before schedule)
    (hdone : loads.Finished) (hcalm : Calm loads) :
    List.Forall₂ (Agrees workspace) loads.results
      (candidates.map fun path => (loadAlone workspace before path).1) := by
  have hresults : List.Forall₂
      (fun path outcome => Agrees workspace outcome (loadAlone workspace before path).1)
      (loads.tasks.map (·.1)) loads.results := by
    refine Batch.results_forall₂ hdone fun task htask result hresult =>
      loadsAfter_agrees hloads hcalm ?_
    rw [← hresult]
    exact htask
  have hinputs : loads.tasks.map (·.1) = candidates := by
    rw [hloads, loadsAfter_inputs]
  rw [hinputs] at hresults
  rw [List.forall₂_map_right_iff]
  exact hresults.flip

/-- The entry of a candidate after the loads is that after a load that is alone. -/
lemma entry_loadsAfter (hloads : loads = loadsAfter workspace candidates before schedule)
    (hdone : loads.Finished) (hcalm : Calm loads) (hpath : path ∈ candidates) :
    (loads.state.cache.get? path).map Cached.unnumbered
      = ((loadAlone workspace before path).2.cache.get? path).map Cached.unnumbered := by
  rcases steady_or_built workspace before path with
    hsteady | ⟨hnone, text, time, htext, htime, -, hcache⟩
  · rw [hsteady.untouched, hsteady.untouched_after hloads]
  · obtain ⟨outcome, htask⟩ := exists_outcome hloads hdone hpath
    obtain ⟨-, entry, -, -, -, -, hentry, hindex, hstamp⟩ :=
      loadsAfter_served hloads hcalm hnone htext htime htask
    rw [hentry, hcache, Cache.get?_store, if_pos rfl, Option.map_some, Option.map_some,
      Option.some.injEq, Cached.unnumbered_inj]
    exact ⟨hindex, hstamp⟩

/-- A loaded index is that of its path, and its text is that of the file. -/
lemma read_loadsAfter (hloads : loads = loadsAfter workspace candidates before schedule) {item : Loaded}
    (htask : (path, some (.done (.ok item))) ∈ loads.tasks) :
    item.path = path ∧ ∀ text, item.text? = some text → workspace.text path = .ok text := by
  subst hloads
  obtain ⟨hpath, -, -, hread⟩ := (loadsAfter_kept workspace before candidates schedule).tasks _ htask
  exact ⟨hpath, fun text htext => (hread text htext).2⟩

/-- A loaded index is the one that is cached, but perhaps for its number. -/
lemma cached_loadsAfter (hloads : loads = loadsAfter workspace candidates before schedule)
    (hcalm : Calm loads) {item : Loaded} (htask : (path, some (.done (.ok item))) ∈ loads.tasks) :
    ∃ entry, loads.state.cache.get? path = some entry ∧ item.version.index = entry.version.index := by
  rcases steady_or_built workspace before path with
    hsteady | ⟨hnone, text, time, htext, htime, -, -⟩
  · obtain ⟨-, entry, hentry, hversion⟩ := (hsteady.alike hloads htask).cached item rfl
    exact ⟨entry, hentry, by rw [hversion]⟩
  · obtain ⟨other, entry, hother, -, hindex, -, hentry, hcached, -⟩ :=
      loadsAfter_served hloads hcalm hnone htext htime htask
    obtain rfl := Except.ok.inj hother
    exact ⟨entry, hentry, hindex.trans hcached.symm⟩

/-- Loads leave the entries of other paths alone. -/
lemma loadsAfter_others (hloads : loads = loadsAfter workspace candidates before schedule)
    (hpath : path ∉ candidates) : Untouched before path loads.state := by
  have hkeeps : (loading workspace).Keeps (Untouched before path) (fun _ other _ => other ≠ path) := by
    refine ⟨fun other last? atlas huntouched hne => ⟨?_, hne⟩, fun _ _ _ _ _ _ _ hother => hother⟩
    exact ((loading_effect last?).get?_ne (Ne.symm hne)).trans huntouched
  have hstart : (Batch.ofInputs before candidates).Sound (Untouched before path)
      (fun _ other (_ : Option (Step Atlas.LoadStage (Except Mishap Loaded))) => other ≠ path) :=
    Batch.ofInputs_sound rfl fun other hother heq => hpath (heq ▸ hother)
  rw [hloads]
  exact (Batch.execute_keeps hkeeps schedule hstart).state

end Loads

/-! ## Whose index is cached -/

variable {workspace : Workspace} {before : Atlas σ} {path : String} {candidates : List String}
  {schedule : List Nat} {loads : Batch (Atlas σ) String Atlas.LoadStage (Except Mishap Loaded)}

/-- A loaded index comes from a load of its path. -/
lemma task_of_success (hloads : loads = loadsAfter workspace candidates before schedule) {item : Loaded}
    (hitem : item ∈ successesOf loads.results) :
    (item.path, some (.done (.ok item))) ∈ loads.tasks := by
  obtain ⟨path, htask⟩ := Batch.mem_results_iff.mp (mem_successesOf.mp hitem)
  rwa [(read_loadsAfter hloads htask).1]

/-- What a turn in a batch of loads can do: nothing, or it is the turn of a load that has not ended. -/
lemma advance_fetches {batch : Batch (Atlas σ) String Atlas.LoadStage (Except Mishap Loaded)}
    (hsound : batch.Sound (Kept workspace before (Served workspace before))
      (Loads workspace before (Served workspace before))) (task : Nat) :
    batch.advance (loading workspace) task = batch ∨
      ∃ path step, Fetches workspace path batch.state.cache
          (step, (batch.advance (loading workspace) task).state) ∧
        ∀ other item, (other, some (.done (.ok item))) ∈ (batch.advance (loading workspace) task).tasks ↔
          (other, some (.done (.ok item))) ∈ batch.tasks ∨ other = path ∧ step = .done (.ok item) := by
  cases htask : batch.tasks[task]? with
  | none => exact Or.inl (Batch.advance_of_none htask)
  | some entry =>
      obtain ⟨path, last?⟩ := entry
      by_cases hopen : ∀ result, last? ≠ some (.done result)
      · refine Or.inr ⟨path, ((loading workspace).step path last? batch.state).1, ?_,
          fun _ _ => Batch.mem_advance_done htask hopen⟩
        rw [Batch.advance_of_task htask]
        refine loading_fetches hopen ?_
        rintro rounds entry rfl
        obtain ⟨-, -, -, now, hnow, -⟩ := hsound.tasks _ (List.mem_of_getElem? htask)
        rw [hnow, Option.isSome_some]
      · push Not at hopen
        obtain ⟨result, rfl⟩ := hopen
        exact Or.inl (Batch.advance_of_done htask)

/-- A turn leaves the entries of other paths alone. -/
lemma Fetches.get?_ne {path other : String} {cache : Cache}
    {outcome : Step Atlas.LoadStage (Except Mishap Loaded) × Atlas σ}
    (h : Fetches workspace path cache outcome) (hne : other ≠ path) :
    outcome.2.cache.get? other = cache.get? other := by
  cases h with
  | idle hcache _ => exact congrArg (·.get? other) hcache
  | reuses hcache _ => exact congrArg (·.get? other) hcache
  | builds _ hcache => rw [hcache, Cache.get?_store, if_neg hne]

/-- What is true of a batch of loads at the start, and stays true in every turn, is true in the end. -/
lemma loadsAfter_induct
    {motive : Batch (Atlas σ) String Atlas.LoadStage (Except Mishap Loaded) → Prop}
    (hstart : motive (.ofInputs before candidates))
    (hturn : ∀ batch after other step, motive batch → Fetches workspace other batch.state.cache
        (step, after.state) →
      (∀ key item, (key, some (.done (.ok item))) ∈ after.tasks ↔
        (key, some (.done (.ok item))) ∈ batch.tasks ∨ key = other ∧ step = .done (.ok item)) →
      motive after) (schedule : List Nat) :
    motive (loadsAfter workspace candidates before schedule) := by
  induction schedule using List.reverseRecOn with
  | nil => exact hstart
  | append_singleton schedule task ih =>
      rw [loadsAfter, Batch.execute_concat]
      rcases advance_fetches (loadsAfter_kept workspace before candidates schedule) task with
        hsame | ⟨other, step, hfetches, htasks⟩
      · rw [← loadsAfter, hsame]
        exact ih
      · exact hturn _ _ other step ih hfetches htasks

/-- At the start nothing has been handed out. -/
lemma ofInputs_not_done (before : Atlas σ) (candidates : List String) (path : String) (item : Loaded) :
    (path, some (.done (.ok item))) ∉ (Batch.ofInputs before candidates :
      Batch (Atlas σ) String Atlas.LoadStage (Except Mishap Loaded)).tasks := by
  intro hitem
  obtain ⟨_, -, heq⟩ := List.mem_map.mp hitem
  simp at heq

/-- The cached index of the path was handed out by a load. -/
def HandedOut (path : String)
    (batch : Batch (Atlas σ) String Atlas.LoadStage (Except Mishap Loaded)) : Prop :=
  ∃ item entry, (path, some (.done (.ok item))) ∈ batch.tasks ∧
    batch.state.cache.get? path = some entry ∧ entry.version = item.version

/-- **The index that is cached in the end was handed out**, if any was. -/
theorem loadsAfter_handedOut (hloads : loads = loadsAfter workspace candidates before schedule)
    {item : Loaded} (htask : (path, some (.done (.ok item))) ∈ loads.tasks) :
    HandedOut path loads := by
  subst hloads
  refine loadsAfter_induct (motive := fun batch =>
    ∀ item, (path, some (.done (.ok item))) ∈ batch.tasks → HandedOut path batch)
    (fun item hitem => absurd hitem (ofInputs_not_done before candidates path item)) ?_ schedule item
    htask
  intro batch after other step h hfetches htasks item hitem
  have hkept : ∀ found, (path, some (.done (.ok found))) ∈ batch.tasks →
      after.state.cache.get? path = batch.state.cache.get? path → HandedOut path after := by
    intro found hfound hget
    obtain ⟨owner, entry, howner, hentry, hversion⟩ := h found hfound
    exact ⟨owner, entry, (htasks path owner).mpr (Or.inl howner), hget.trans hentry, hversion⟩
  by_cases hpath : path = other
  · subst hpath
    cases hfetches with
    | idle hcache hstep =>
        rcases (htasks path item).mp hitem with hold | ⟨-, hnew⟩
        · exact hkept item hold (congrArg (·.get? path) hcache)
        · exact absurd hnew (hstep item)
    | @reuses entry _ hcache hentry =>
        exact ⟨_, entry, (htasks path _).mpr (Or.inr ⟨rfl, rfl⟩),
          (congrArg (·.get? path) hcache).trans hentry, rfl⟩
    | builds _ hcache =>
        exact ⟨_, _, (htasks path _).mpr (Or.inr ⟨rfl, rfl⟩),
          by rw [hcache, Cache.get?_store, if_pos rfl], rfl⟩
  · rcases (htasks path item).mp hitem with hold | ⟨hsame, -⟩
    · exact hkept item hold (hfetches.get?_ne hpath)
    · exact absurd hsame hpath

/-- **An entry that no load has built is as it was.** -/
theorem loadsAfter_unbuilt (hloads : loads = loadsAfter workspace candidates before schedule)
    (hcached : ∀ item, (path, some (.done (.ok item))) ∈ loads.tasks → item.fromCache = true) :
    Untouched before path loads.state := by
  subst hloads
  refine loadsAfter_induct (motive := fun batch => (∀ item, (path, some (.done (.ok item)))
    ∈ batch.tasks → item.fromCache = true) → Untouched before path batch.state)
    (fun _ => rfl) ?_ schedule hcached
  intro batch after other step h hfetches htasks hcached
  have hbefore := h fun item hitem => hcached item ((htasks path item).mpr (Or.inl hitem))
  refine Eq.trans ?_ hbefore
  by_cases hpath : path = other
  · subst hpath
    cases hfetches with
    | idle hcache _ => exact congrArg (·.get? path) hcache
    | reuses hcache _ => exact congrArg (·.get? path) hcache
    | builds _ _ =>
        exact absurd (hcached _ ((htasks path _).mpr (Or.inr ⟨rfl, rfl⟩))) (by simp [Loaded.fromCache])
  · exact hfetches.get?_ne hpath

end Search

end TemplateAtlas
