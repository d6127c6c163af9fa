import Mathlib.Tactic.Common
import TemplateAtlas.Proofs.Batches
import TemplateAtlas.Proofs.LoadTurns

/-!
# Loading among others

The loads of a query share the cache, and each of them waits up to three times, so that the entry of a path
may be another one when a load goes on.  What can be said of the loaded indexes is said here for any
property `good` of cache entries, in three groups.

**Cache and flags.**  What is found under a path after an entry was put in, stored or swapped, and which
paths are flagged after several were marked.

**One turn.**  `Vouches` lists the two ways in which an entry gets to be used: it was cached before the
query and is usable as it is, or it is built from the text of its file.  If `good` holds in both cases,
every turn of a load leaves only good entries behind, apart from those that nobody has touched
(`Turn`).  Which turns there are is read off `Atlas.LoadTurn`.

**All turns.**  Hence a query hands out good indexes only, and reports a file as failed only if the
workspace refuses it: `loading_keeps`.  Whatever is known, a turn at most stores an index that was just built
(`Effect`).  Loads do end: `loading_patient`.
-/

namespace TemplateAtlas

variable {σ : Type}

/-! ## Cache and flags -/

namespace Cache

lemma lookup_put (path other : String) (entry : Cached) : ∀ entries : List (String × Cached),
    (put path entry entries).lookup other
      = if other = path then some entry else entries.lookup other
  | [] => by
      by_cases h : other = path
      · simp [put, h]
      · simp [put, List.lookup_cons, h, beq_false_of_ne h]
  | (key, old) :: entries => by
      rw [put]
      by_cases hkey : key = path
      · rw [if_pos hkey, hkey]
        by_cases h : other = path
        · simp [h]
        · simp [List.lookup_cons, h, beq_false_of_ne h]
      · rw [if_neg hkey, List.lookup_cons, List.lookup_cons, lookup_put path other entry entries]
        by_cases h : other = path
        · rw [h, beq_false_of_ne (Ne.symm hkey)]
        · simp [h]

/-- A stored index is found under its path, and nothing else is changed. -/
lemma get?_store (cache : Cache) (path other : String) (index : FileIndex) (stamp : Option Int) :
    (cache.store path index stamp).2.get? other
      = if other = path then some ⟨⟨cache.issued, index⟩, stamp⟩ else cache.get? other := by
  simp only [store, issue, get?]
  exact lookup_put path other _ _

lemma get?_swap_ne (cache : Cache) {path other : String} (h : other ≠ path) (expected : Nat)
    (version : Version) : (cache.swap path expected version).2.get? other = cache.get? other := by
  simp only [swap]
  split
  · rfl
  · split_ifs
    · simp only [get?]
      rw [lookup_put, if_neg h]
    · rfl

/-- Swapping leaves an entry alone, or gives it another index and keeps its stamp. -/
lemma get?_swap (cache : Cache) (path : String) (expected : Nat) (version : Version) :
    (cache.swap path expected version).2.get? path = cache.get? path ∨
      ∃ entry, cache.get? path = some entry ∧
        (cache.swap path expected version).2.get? path = some ⟨version, entry.stamp⟩ := by
  simp only [swap]
  split
  · exact Or.inl rfl
  · rename_i entry hentry
    split_ifs
    · refine Or.inr ⟨entry, hentry, ?_⟩
      simp only [get?]
      rw [lookup_put, if_pos rfl]
    · exact Or.inl rfl

@[simp] lemma get?_clear (cache : Cache) (path : String) : cache.clear.get? path = none := rfl

end Cache

/-- A path is flagged after several were marked if it was before or is one of them. -/
lemma Flags.isChanged_markAll (flags : Flags) (paths : List String) (path : String) :
    (flags.markAll paths).isChanged path = true ↔ flags.isChanged path = true ∨ path ∈ paths := by
  induction paths generalizing flags with
  | nil => simp [markAll]
  | cons first paths ih =>
      rw [markAll, List.foldl_cons, ← markAll, ih, isChanged_mark]
      simp [or_assoc]

/-! ## What a load relies on -/

/-- How a workspace refuses a file. -/
inductive Workspace.Refuses (workspace : Workspace) (path : String) : LoadFault → Prop
  | stat {cause : SourceFault} (h : workspace.diskTime path = .error cause) :
      Refuses workspace path ⟨path, .stat, cause⟩
  | read {time : Option Int} {cause : SourceFault} (htime : workspace.diskTime path = .ok time)
      (h : workspace.text path = .error cause) : Refuses workspace path ⟨path, .read, cause⟩
  | check {cause : SourceFault} (h : workspace.modified path = .error cause)
      (hcause : ∀ reason, cause ≠ .unavailable reason) :
      Refuses workspace path ⟨path, .stat, cause⟩

lemma Workspace.Refuses.path_eq {workspace : Workspace} {path : String} {fault : LoadFault}
    (h : workspace.Refuses path fault) : fault.path = path := by
  cases h <;> rfl

/-- The file that is left out is the one that the fault is about. -/
lemma LoadFault.path_of_contained {fault : LoadFault} {failure : Failure}
    (h : fault.mishap = .contained failure) : failure.path = fault.path := by
  rw [mishap] at h
  split at h
  · rw [← Mishap.contained.inj h]
  · cases h

namespace Search

/-- Before the query the cache has no index of the path that may be used as it is. -/
def Unusable (workspace : Workspace) (before : Atlas σ) (path : String) : Prop :=
  ∀ version, (before.usable? workspace path).1 ≠ .ok (some version)

/-- Entries are good if they are usable before the query, and if they are built during it because none
is. -/
structure Vouches (workspace : Workspace) (before : Atlas σ) (good : String → Cached → Prop) :
    Prop where
  usable : ∀ path entry, before.cache.get? path = some entry →
    (before.usable? workspace path).1 = .ok (some entry.version) → good path entry
  built : ∀ path text time serial, Unusable workspace before path →
    workspace.text path = .ok text → workspace.diskTime path = .ok time →
      good path ⟨⟨serial, .ofText path text⟩, workspace.stamp path time⟩

section Turns

variable (workspace : Workspace) (before : Atlas σ) (good : String → Cached → Prop)

/-- An entry that was built during the query. -/
def Built (path : String) (entry : Cached) : Prop :=
  good path entry ∧ Unusable workspace before path

/-- Since `earlier`, no path has lost its entry, and new entries were built. -/
def Later (earlier atlas : Atlas σ) : Prop :=
  ∀ path entry, earlier.cache.get? path = some entry →
    ∃ now, atlas.cache.get? path = some now ∧ (now = entry ∨ Built workspace before good path now)

/-- Flags are as they were, and so are the entries that were not built anew. -/
structure Kept (atlas : Atlas σ) : Prop where
  flags : atlas.flags = before.flags
  cache : ∀ path entry, atlas.cache.get? path = some entry →
    before.cache.get? path = some entry ∨ Built workspace before good path entry
  later : Later workspace before good before atlas

/-- What is known of a load after a turn. -/
def Fits {ε : Type} (refused : ε → Prop) (atlas : Atlas σ) (path : String) :
    Step Atlas.LoadStage (Except ε Loaded) → Prop
  | .wait _ (.checking entry) =>
    before.flags.isChanged path = true ∧ workspace.isDirty path = false ∧
      (before.cache.get? path = some entry ∨ Built workspace before good path entry) ∧
      ∃ now, atlas.cache.get? path = some now ∧ (now = entry ∨ Built workspace before good path now)
  | .wait _ .stamping => Unusable workspace before path
  | .wait _ (.reading stamp) => Unusable workspace before path ∧
    ∃ time, workspace.diskTime path = .ok time ∧ stamp = workspace.stamp path time
  | .done (.ok loaded) =>
    loaded.path = path ∧ (∃ stamp, good path ⟨loaded.version, stamp⟩) ∧
      (∃ entry, atlas.cache.get? path = some entry ∧ good path entry) ∧
      ∀ text, loaded.text? = some text →
        Unusable workspace before path ∧ workspace.text path = .ok text
  | .done (.error fault) => refused fault

/-- What a turn of a load does. -/
structure Turn (path : String) (atlas : Atlas σ) (outcome : Atlas.LoadStep × Atlas σ) : Prop where
  kept : Kept workspace before good outcome.2
  later : Later workspace before good atlas outcome.2
  fits : Fits workspace before good (workspace.Refuses path) outcome.2 path outcome.1

variable {workspace before good}

lemma Later.refl (atlas : Atlas σ) : Later workspace before good atlas atlas :=
  fun _ entry h => ⟨entry, h, Or.inl rfl⟩

lemma Later.trans {earlier atlas after : Atlas σ} (h : Later workspace before good earlier atlas)
    (hafter : Later workspace before good atlas after) :
    Later workspace before good earlier after := by
  intro path entry hentry
  obtain ⟨now, hnow, hsame⟩ := h path entry hentry
  obtain ⟨next, hnext, hnextSame⟩ := hafter path now hnow
  refine ⟨next, hnext, ?_⟩
  rcases hnextSame with rfl | hbuilt
  · exact hsame
  · exact Or.inr hbuilt

/-- What is known of a load stays true while other loads go on. -/
lemma Fits.stable {ε : Type} {refused : ε → Prop} {earlier atlas : Atlas σ} {path : String}
    {step : Step Atlas.LoadStage (Except ε Loaded)} (hlater : Later workspace before good earlier atlas)
    (h : Fits workspace before good refused earlier path step) :
    Fits workspace before good refused atlas path step := by
  match step, h with
  | .wait _ (.checking entry), ⟨hflag, hclean, hentry, now, hnow, hgood⟩ =>
      obtain ⟨next, hnext, hsame⟩ := hlater path now hnow
      refine ⟨hflag, hclean, hentry, next, hnext, ?_⟩
      rcases hsame with rfl | hsame
      · exact hgood
      · exact Or.inr hsame
  | .wait _ .stamping, h => exact h
  | .wait _ (.reading _), h => exact h
  | .done (.ok _), ⟨hpath, hversion, ⟨entry, hentry, hgood⟩, htext⟩ =>
      obtain ⟨now, hnow, hsame⟩ := hlater path entry hentry
      refine ⟨hpath, hversion, ⟨now, hnow, ?_⟩, htext⟩
      rcases hsame with rfl | hsame
      · exact hgood
      · exact hsame.1
  | .done (.error _), h => exact h

/-- While a load waits, nothing is said of refusals. -/
lemma Fits.of_wait {ε δ : Type} {refused : ε → Prop} {other : δ → Prop} {atlas : Atlas σ} {path : String}
    {rounds : Nat} {stage : Atlas.LoadStage}
    (h : Fits workspace before good refused atlas path (.wait rounds stage)) :
    Fits workspace before good other atlas path (.wait rounds stage) := by
  cases stage <;> exact h

/-! ## One turn -/

variable {atlas : Atlas σ} {path : String}

lemma Kept.of_has {after : Atlas σ} (h : Kept workspace before good atlas)
    (hafter : after.Has atlas.flags atlas.cache) : Kept workspace before good after :=
  ⟨hafter.flags ▸ h.flags, hafter.cache ▸ h.cache, by simpa only [Later, hafter.cache] using h.later⟩

lemma Later.of_has {after : Atlas σ} (hafter : after.Has atlas.flags atlas.cache) :
    Later workspace before good atlas after := by
  simpa only [Later, hafter.cache] using Later.refl atlas

/-- A turn that leaves the cache and the flags alone. -/
lemma Turn.of_has {after : Atlas σ} {step : Atlas.LoadStep} (hkept : Kept workspace before good atlas)
    (hafter : after.Has atlas.flags atlas.cache)
    (hfits : Fits workspace before good (workspace.Refuses path) after path step) :
    Turn workspace before good path atlas (step, after) :=
  ⟨hkept.of_has hafter, .of_has hafter, hfits⟩

/-- The text arrives, and a good entry is stored. -/
lemma turn_of_reads (vouches : Vouches workspace before good)
    (hkept : Kept workspace before good atlas) (hnone : Unusable workspace before path)
    {time : Option Int} (htime : workspace.diskTime path = .ok time)
    {outcome : Except LoadFault Loaded} {after : Atlas σ}
    (h : Atlas.Reads workspace path (workspace.stamp path time) atlas.flags atlas.cache (outcome, after)) :
    Turn workspace before good path atlas (.done outcome, after) := by
  cases h with
  | refused htext hafter => exact .of_has hkept hafter (.read htime htext)
  | @built text _ htext hafter =>
      have hgood := vouches.built path text time atlas.cache.issued hnone htext htime
      have hget : ∀ other, after.cache.get? other = if other = path then
          some ⟨⟨atlas.cache.issued, .ofText path text⟩, workspace.stamp path time⟩
          else atlas.cache.get? other := by
        intro other
        rw [hafter.cache, Cache.get?_store]
      have hlater : Later workspace before good atlas after := by
        intro other entry hentry
        rw [hget]
        split_ifs with hother
        · rw [hother]
          exact ⟨_, rfl, Or.inr ⟨hgood, hnone⟩⟩
        · exact ⟨entry, hentry, Or.inl rfl⟩
      refine ⟨⟨hafter.flags.trans hkept.flags, ?_, hkept.later.trans hlater⟩, hlater, rfl, ⟨_, hgood⟩,
        ⟨_, (hget path).trans (if_pos rfl), hgood⟩, ?_⟩
      · intro other entry hentry
        rw [hget] at hentry
        split_ifs at hentry with hother
        · rw [hother, ← Option.some.inj hentry]
          exact Or.inr ⟨hgood, hnone⟩
        · exact hkept.cache other entry hentry
      · intro read hread
        rw [← Option.some.inj hread]
        exact ⟨hnone, htext⟩

lemma turn_of_builds (vouches : Vouches workspace before good)
    (hkept : Kept workspace before good atlas) (hnone : Unusable workspace before path) {rounds : Nat}
    {outcome : Atlas.LoadStep × Atlas σ}
    (h : Atlas.Builds workspace path rounds atlas.flags atlas.cache outcome) :
    Turn workspace before good path atlas outcome := by
  cases h with
  | asks _ hafter => exact .of_has hkept hafter hnone
  | refused htime hafter => exact .of_has hkept hafter (.stat htime)
  | stamped htime _ hafter => exact .of_has hkept hafter ⟨hnone, _, htime, rfl⟩
  | reads htime h => exact turn_of_reads vouches hkept hnone htime h

lemma unusable_of_distrusted (htrust : before.trust workspace path = .refused) :
    Unusable workspace before path := by
  simp [Unusable, Atlas.usable?_of_refused htrust]

lemma unusable_of_outdated {entry : Cached} (htrust : before.trust workspace path = .undecided entry)
    (hold : Atlas.Outdated workspace path entry) : Unusable workspace before path := by
  intro version
  rw [Atlas.usable?_of_undecided htrust]
  cases hold with
  | changed htime hstamp => simp [htime, Except.map, hstamp]
  | unknown htime => simp [htime, Except.map]

/-- A cached index is judged by the time on disk. -/
lemma turn_of_judges (vouches : Vouches workspace before good)
    (hkept : Kept workspace before good atlas) {rounds : Nat} {entry : Cached}
    (hfits : Fits workspace before good (workspace.Refuses path) atlas path
      (.wait rounds (.checking entry))) {outcome : Atlas.LoadStep × Atlas σ}
    (h : Atlas.Judges workspace path entry atlas.flags atlas.cache outcome) :
    Turn workspace before good path atlas outcome := by
  obtain ⟨hflag, hclean, hentry, now, hnow, hsame⟩ := hfits
  cases h with
  | @reuses time after htime hstamp hafter =>
      have hgood : good path now := by
        rcases hsame with rfl | hbuilt
        · rcases hentry with hold | hbuilt
          · refine vouches.usable path now hold ?_
            rw [Atlas.usable?_of_current (Atlas.trust_of_flagged hold hflag hclean) htime hstamp]
          · exact hbuilt.1
        · exact hbuilt.1
      have hversion : ((atlas.cache.get? path).getD entry).version = now.version := by rw [hnow]; rfl
      refine .of_has hkept hafter ⟨rfl, ⟨now.stamp, ?_⟩, ⟨now, ?_, hgood⟩, by rintro _ ⟨⟩⟩
      · rw [hversion]
        exact hgood
      · rw [hafter.cache, hnow]
  | refused htime hcause hafter => exact .of_has hkept hafter (.check htime hcause)
  | builds hold h =>
      refine turn_of_builds vouches hkept ?_ h
      rcases hentry with hentry | hbuilt
      · exact unusable_of_outdated (Atlas.trust_of_flagged hentry hflag hclean) hold
      · exact hbuilt.2

/-- What is refused now was not usable before the query. -/
lemma unusable_of_refused (hkept : Kept workspace before good atlas)
    (htrust : atlas.trust workspace path = .refused) : Unusable workspace before path := by
  have htrusts := Atlas.trust_trusts workspace path atlas
  rw [htrust] at htrusts
  cases htrusts with
  | missing hentry =>
      have hnone : before.cache.get? path = none := by
        cases hold : before.cache.get? path with
        | none => rfl
        | some old =>
            obtain ⟨now, hnow, -⟩ := hkept.later path old hold
            simp [hentry] at hnow
      exact unusable_of_distrusted (Atlas.trust_of_missing hnone)
  | edited hentry hflag hdirty =>
      rcases hkept.cache path _ hentry with hold | hbuilt
      · rw [hkept.flags] at hflag
        exact unusable_of_distrusted (Atlas.trust_of_edited hold hflag hdirty)
      · exact hbuilt.2

/-- What is used unseen now is good. -/
lemma good_of_granted (vouches : Vouches workspace before good)
    (hkept : Kept workspace before good atlas) {version : Version}
    (htrust : atlas.trust workspace path = .granted version) :
    ∃ entry, atlas.cache.get? path = some entry ∧ entry.version = version ∧ good path entry := by
  have htrusts := Atlas.trust_trusts workspace path atlas
  rw [htrust] at htrusts
  cases htrusts with
  | @unflagged entry hentry hflag =>
      refine ⟨entry, hentry, rfl, ?_⟩
      rcases hkept.cache path entry hentry with hold | hbuilt
      · rw [hkept.flags] at hflag
        exact vouches.usable path entry hold
          (by rw [Atlas.usable?_of_granted (Atlas.trust_of_unflagged hold hflag)])
      · exact hbuilt.1

/-- What is asked about now fits. -/
lemma fits_of_undecided (hkept : Kept workspace before good atlas) {entry : Cached}
    (htrust : atlas.trust workspace path = .undecided entry) (rounds : Nat) :
    Fits workspace before good (workspace.Refuses path) atlas path (.wait rounds (.checking entry)) := by
  have htrusts := Atlas.trust_trusts workspace path atlas
  rw [htrust] at htrusts
  cases htrusts with
  | flagged hentry hflag hclean =>
      exact ⟨hkept.flags ▸ hflag, hclean, hkept.cache path entry hentry, entry, hentry, Or.inl rfl⟩

/-- **A turn of a load** leaves only good entries behind, apart from those that nobody has touched. -/
lemma turn_of_loadTurn (vouches : Vouches workspace before good)
    (hkept : Kept workspace before good atlas) {stage? : Option Atlas.LoadStage} (rounds : Nat)
    (hfits : ∀ stage ∈ stage?, Fits workspace before good (workspace.Refuses path) atlas path
      (.wait rounds stage)) {outcome : Atlas.LoadStep × Atlas σ}
    (h : Atlas.LoadTurn workspace path atlas stage? outcome) :
    Turn workspace before good path atlas outcome := by
  cases h with
  | reuses htrust =>
      obtain ⟨entry, hentry, rfl, hgood⟩ := good_of_granted vouches hkept htrust
      exact .of_has hkept ⟨rfl, rfl⟩
        ⟨rfl, ⟨entry.stamp, hgood⟩, ⟨entry, hentry, hgood⟩, by rintro _ ⟨⟩⟩
  | builds htrust h => exact turn_of_builds vouches hkept (unusable_of_refused hkept htrust) h
  | asks htrust _ hafter =>
      exact .of_has hkept hafter ((fits_of_undecided hkept htrust _).stable (.of_has hafter))
  | judges hentry h =>
      cases hentry with
      | now htrust => exact turn_of_judges vouches hkept (fits_of_undecided hkept htrust 0) h
      | before => exact turn_of_judges vouches hkept (hfits _ rfl) h
  | stamps h => exact turn_of_builds vouches hkept (hfits _ rfl) h
  | reads h =>
      obtain ⟨hnone, time, htime, rfl⟩ := hfits _ rfl
      exact turn_of_reads vouches hkept hnone htime h

end Turns

/-! ## All turns -/

variable {workspace : Workspace} {before : Atlas σ} {good : String → Cached → Prop}

/-- The mishaps that stand for refusals. -/
def Refused (workspace : Workspace) (path : String) (mishap : Mishap) : Prop :=
  ∃ fault, workspace.Refuses path fault ∧ mishap = fault.mishap

lemma Turn.close {path : String} {atlas : Atlas σ} {outcome : Atlas.LoadStep × Atlas σ}
    (h : Turn workspace before good path atlas outcome) :
    Kept workspace before good (closeStep outcome).2 ∧ Later workspace before good atlas (closeStep outcome).2 ∧
      Fits workspace before good (Refused workspace path) (closeStep outcome).2 path
        (closeStep outcome).1 := by
  obtain ⟨step, after⟩ := outcome
  obtain ⟨hkept, hlater, hfits⟩ := h
  match step, hfits with
  | .wait _ _, hfits => exact ⟨hkept, hlater, hfits.of_wait⟩
  | .done (.ok _), hfits => exact ⟨hkept, hlater, hfits⟩
  | .done (.error fault), hfits =>
      refine ⟨hkept.of_has ⟨noteMishap_flags _ _, noteMishap_cache _ _⟩, ?_, fault, hfits, rfl⟩
      simpa [closeStep, closeLoad, Later] using hlater

/-- What is known of a load among others. -/
def Loads (workspace : Workspace) (before : Atlas σ) (good : String → Cached → Prop)
    (atlas : Atlas σ) (path : String) :
    Option (Step Atlas.LoadStage (Except Mishap Loaded)) → Prop
  | none => True
  | some step => Fits workspace before good (Refused workspace path) atlas path step

lemma loading_turn (vouches : Vouches workspace before good) {atlas : Atlas σ}
    (hkept : Kept workspace before good atlas) {path : String}
    {last? : Option (Step Atlas.LoadStage (Except Mishap Loaded))}
    (hloads : Loads workspace before good atlas path last?) :
    Kept workspace before good ((loading workspace).step path last? atlas).2 ∧
      Later workspace before good atlas ((loading workspace).step path last? atlas).2 ∧
      Fits workspace before good (Refused workspace path)
        ((loading workspace).step path last? atlas).2 path
        ((loading workspace).step path last? atlas).1 := by
  match last?, hloads with
  | none, _ =>
      exact (turn_of_loadTurn vouches hkept 0 (by rintro _ ⟨⟩)
        (Atlas.startLoad_turns workspace path atlas)).close
  | some (.wait rounds stage), hloads =>
      refine (turn_of_loadTurn vouches hkept rounds ?_
        (Atlas.resumeLoad_turns workspace path atlas stage)).close
      rintro _ ⟨⟩
      exact hloads.of_wait
  | some (.done _), hloads => exact ⟨hkept, Later.refl atlas, hloads⟩

/-- **Loads hand out good indexes, and leave good entries behind.** -/
theorem loading_keeps (vouches : Vouches workspace before good) :
    (loading workspace).Keeps (Kept workspace before good) (Loads workspace before good) where
  step path last? atlas hkept hloads := by
    obtain ⟨hafter, -, hfits⟩ := loading_turn vouches hkept hloads
    exact ⟨hafter, hfits⟩
  stable path last? atlas other otherLast? hkept hloads hother := by
    obtain ⟨-, hlater, -⟩ := loading_turn vouches hkept hloads
    match otherLast?, hother with
    | none, _ => exact trivial
    | some step, hother => exact Fits.stable hlater hother

/-! ## What a turn can do -/

/-- What a turn of a load can do to the atlas: at most it stores an index that was just built. -/
structure Effect (workspace : Workspace) (path : String) (atlas after : Atlas σ) : Prop where
  flags : after.flags = atlas.flags
  cache : after.cache = atlas.cache ∨ ∃ text stamp, workspace.text path = .ok text ∧
    after.cache = (atlas.cache.store path (.ofText path text) stamp).2

section Effect

variable {workspace : Workspace} {path : String} {atlas : Atlas σ}

lemma Effect.of_has {after : Atlas σ} (hafter : after.Has atlas.flags atlas.cache) :
    Effect workspace path atlas after := ⟨hafter.flags, Or.inl hafter.cache⟩

lemma effect_of_reads {stamp : Option Int} {result : Except LoadFault Loaded × Atlas σ}
    (h : Atlas.Reads workspace path stamp atlas.flags atlas.cache result) :
    Effect workspace path atlas result.2 := by
  cases h with
  | refused _ hafter => exact .of_has hafter
  | built htext hafter => exact ⟨hafter.flags, Or.inr ⟨_, stamp, htext, hafter.cache⟩⟩

lemma effect_of_builds {rounds : Nat} {outcome : Atlas.LoadStep × Atlas σ}
    (h : Atlas.Builds workspace path rounds atlas.flags atlas.cache outcome) :
    Effect workspace path atlas outcome.2 := by
  cases h with
  | asks _ hafter => exact .of_has hafter
  | refused _ hafter => exact .of_has hafter
  | stamped _ _ hafter => exact .of_has hafter
  | reads _ h => exact effect_of_reads h

lemma effect_of_loadTurn {stage? : Option Atlas.LoadStage} {outcome : Atlas.LoadStep × Atlas σ}
    (h : Atlas.LoadTurn workspace path atlas stage? outcome) : Effect workspace path atlas outcome.2 := by
  cases h with
  | reuses _ => exact .of_has ⟨rfl, rfl⟩
  | builds _ h => exact effect_of_builds h
  | asks _ _ hafter => exact .of_has hafter
  | judges _ h =>
      cases h with
      | reuses _ _ hafter => exact .of_has hafter
      | refused _ _ hafter => exact .of_has hafter
      | builds _ h => exact effect_of_builds h
  | stamps h => exact effect_of_builds h
  | reads h => exact effect_of_reads h

/-- The entries of other paths are left alone. -/
lemma Effect.get?_ne {after : Atlas σ} (h : Effect workspace path atlas after) {other : String}
    (hne : other ≠ path) : after.cache.get? other = atlas.cache.get? other := by
  rcases h.cache with hsame | ⟨text, stamp, -, hstored⟩
  · rw [hsame]
  · rw [hstored, Cache.get?_store, if_neg hne]

lemma Effect.close {outcome : Atlas.LoadStep × Atlas σ}
    (h : Effect workspace path atlas outcome.2) :
    Effect workspace path atlas (closeStep outcome).2 := by
  obtain ⟨step, after⟩ := outcome
  match step with
  | .wait _ _ => exact h
  | .done (.ok _) => exact h
  | .done (.error fault) =>
      exact ⟨(noteMishap_flags _ _).trans h.flags,
        by simpa only [closeStep, closeLoad, noteMishap_cache] using h.cache⟩

lemma loading_effect (last? : Option (Step Atlas.LoadStage (Except Mishap Loaded))) :
    Effect workspace path atlas ((loading workspace).step path last? atlas).2 := by
  match last? with
  | none => exact (effect_of_loadTurn (Atlas.startLoad_turns workspace path atlas)).close
  | some (.wait _ stage) => exact (effect_of_loadTurn (Atlas.resumeLoad_turns workspace path atlas stage)).close
  | some (.done _) => exact .of_has ⟨rfl, rfl⟩

end Effect

/-! ## Loads end -/

/-- The rounds that a load can go on to wait. -/
def roundsLeft (workspace : Workspace) : Atlas.LoadStage → Nat
  | .checking _ => workspace.statRounds + workspace.readRounds
  | .stamping => workspace.readRounds
  | .reading _ => 0

/-- A turn after which a load waits no longer than the given rounds. -/
def WaitsWithin (workspace : Workspace) (limit : Nat) (step : Atlas.LoadStep) : Prop :=
  ∀ rounds stage, step = .wait rounds stage → 1 ≤ rounds ∧ rounds + roundsLeft workspace stage ≤ limit

lemma WaitsWithin.done (limit : Nat) (outcome : Except LoadFault Loaded) :
    WaitsWithin workspace limit (.done outcome) := by
  intro rounds stage h
  simp at h

lemma WaitsWithin.wait {limit rounds : Nat} {stage : Atlas.LoadStage} (hpos : rounds ≠ 0)
    (hlimit : rounds + roundsLeft workspace stage ≤ limit) :
    WaitsWithin workspace limit (.wait rounds stage) := by
  rintro _ _ ⟨⟩
  exact ⟨Nat.pos_of_ne_zero hpos, hlimit⟩

lemma WaitsWithin.mono {limit longer : Nat} {step : Atlas.LoadStep} (hle : limit ≤ longer)
    (h : WaitsWithin workspace limit step) : WaitsWithin workspace longer step :=
  fun rounds stage hstep => ⟨(h rounds stage hstep).1, Nat.le_trans (h rounds stage hstep).2 hle⟩

lemma waitsWithin_of_builds {path : String} {rounds : Nat} {flags : Flags} {cache : Cache}
    {outcome : Atlas.LoadStep × Atlas σ} (h : Atlas.Builds workspace path rounds flags cache outcome) :
    WaitsWithin workspace (rounds + workspace.readRounds) outcome.1 := by
  cases h with
  | asks hrounds _ => exact .wait hrounds (Nat.le_refl _)
  | refused _ _ => exact .done _ _
  | stamped _ hrounds _ =>
      refine .wait hrounds ?_
      rw [Workspace.textRounds, roundsLeft]
      split_ifs <;> omega
  | reads _ _ => exact .done _ _

lemma waitsWithin_of_judges {path : String} {entry : Cached} {flags : Flags} {cache : Cache}
    {outcome : Atlas.LoadStep × Atlas σ} (h : Atlas.Judges workspace path entry flags cache outcome) :
    WaitsWithin workspace (workspace.statRounds + workspace.readRounds) outcome.1 := by
  cases h with
  | reuses _ _ _ => exact .done _ _
  | refused _ _ _ => exact .done _ _
  | builds _ h => exact waitsWithin_of_builds h

/-- The rounds that a load can wait, at its start or after it has waited. -/
def limitOf (workspace : Workspace) : Option Atlas.LoadStage → Nat
  | none => 2 * workspace.statRounds + workspace.readRounds
  | some stage => roundsLeft workspace stage

lemma waitsWithin_of_loadTurn {path : String} {atlas : Atlas σ} {stage? : Option Atlas.LoadStage}
    {outcome : Atlas.LoadStep × Atlas σ} (h : Atlas.LoadTurn workspace path atlas stage? outcome) :
    WaitsWithin workspace (limitOf workspace stage?) outcome.1 := by
  cases h with
  | reuses _ => exact .done _ _
  | builds _ h => exact (waitsWithin_of_builds h).mono (by rw [limitOf]; omega)
  | asks _ hrounds _ => exact .wait hrounds (by rw [limitOf, roundsLeft]; omega)
  | judges hentry h =>
      cases hentry with
      | now _ => exact (waitsWithin_of_judges h).mono (by rw [limitOf]; omega)
      | before => exact waitsWithin_of_judges h
  | stamps h => exact (waitsWithin_of_builds h).mono (by rw [limitOf, roundsLeft]; omega)
  | reads _ => exact .done _ _

lemma closeStep_wait {outcome : Atlas.LoadStep × Atlas σ} {rounds : Nat} {stage : Atlas.LoadStage}
    (h : (closeStep outcome).1 = .wait rounds stage) : outcome.1 = .wait rounds stage := by
  obtain ⟨step, after⟩ := outcome
  cases step with
  | wait _ _ => simpa [closeStep] using h
  | done _ => simp [closeStep] at h

/-- **Loads end**: a load waits no longer than its patience lasts. -/
theorem loading_patient (workspace : Workspace) :
    (loading (σ := σ) workspace).Patient (roundsLeft workspace) where
  start path atlas rounds stage h :=
    waitsWithin_of_loadTurn (Atlas.startLoad_turns workspace path atlas) rounds stage (closeStep_wait h)
  resume path old atlas rounds stage h :=
    waitsWithin_of_loadTurn (Atlas.resumeLoad_turns workspace path atlas old) rounds stage
      (closeStep_wait h)

end Search

end TemplateAtlas
