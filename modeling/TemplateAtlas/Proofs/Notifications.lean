import Mathlib.Tactic.Common
import TemplateAtlas.Proofs.Schedules
import TemplateAtlas.Proofs.Sessions

/-!
# What becomes of notifications

A query takes its time, and changes may be notified while it is under way.  The turns of its loads and
resolves are then mixed with notifications, and each turn sees the files as they are by then.

**Happenings.**  A query with all that happens in the meantime is `Interrupted`: its tasks take their turns in
any order and in any world, with notifications anywhere between them.  A query that nobody interrupts is one of
these (`Scheduled.interrupted`).

**Flags.**  No turn touches a flag.  There is one moment at which flags are forgotten, after the last load and
before the first resolve, and all of them are: those of the candidates, those of other paths, and those that
were raised while loads were under way.  What is flagged in the end is therefore what was notified later, and
what was flagged again because it could not be loaded: `flags_interrupted`.  A query that is called off during
its loads does not get there, and forgets nothing.

**Checks.**  What is flagged when loads start is not taken from the cache unseen: `sweep_revalidates`.

That a notification about another file is forgotten with the rest can be seen from outside:
`notification_forgotten`.
-/

namespace TemplateAtlas

variable {σ : Type}

namespace Search

/-! ## Happenings -/

/-- What happens while a query is under way: a task takes its turn in the world as it is by then, or a
change is notified. -/
inductive Happening where
  | turn (task : Nat) (workspace : Workspace)
  | notify (path : String)

/-- The paths that are notified. -/
def notified (happenings : List Happening) : List String :=
  happenings.filterMap fun | .turn _ _ => none | .notify path => some path

section Happenings

variable {ι κ α : Type}

/-- A batch after one thing more has happened. -/
def happen (procedure : Workspace → Procedure (Atlas σ) ι κ α) (batch : Batch (Atlas σ) ι κ α) :
    Happening → Batch (Atlas σ) ι κ α
  | .turn task workspace => batch.advance (procedure workspace) task
  | .notify path => { batch with state := batch.state.mark path }

/-- A batch after all that has happened. -/
def happenAll (procedure : Workspace → Procedure (Atlas σ) ι κ α)
    (batch : Batch (Atlas σ) ι κ α) (happenings : List Happening) : Batch (Atlas σ) ι κ α :=
  happenings.foldl (happen procedure) batch

end Happenings

/-- The loads of a query, after what has happened since it was asked. -/
def sweep (candidates : List String) (before : Atlas σ) (happenings : List Happening) :
    Batch (Atlas σ) String Atlas.LoadStage (Except Mishap Loaded) :=
  happenAll loading (.ofInputs before candidates) happenings

/-- The resolves of a query, after what has happened since its loads ended. -/
def finish (lexer : LineLexer σ) (settings : Settings) (name : String)
    (loads : Batch (Atlas σ) String Atlas.LoadStage (Except Mishap Loaded))
    (happenings : List Happening) : Batch (Atlas σ) Selected Unit (Except Mishap (List Location)) :=
  happenAll (resolving lexer)
    (.ofInputs (settle settings (failuresOf loads.results) loads.state)
      (select settings name (successesOf loads.results))) happenings

section Interrupted

variable (lexer : LineLexer σ) (settings : Settings) (name : String) (candidates : List String)
  (before : Atlas σ) (first second : List Happening)

/-- What can come of a query during whose loads and during whose resolves something happens. -/
inductive Interrupted : Except QueryFault Report × Atlas σ → Prop
  | calledOff {fault : QueryFault}
      (hfault : .error (.fatal fault) ∈ (sweep candidates before first).results) :
      Interrupted (.error fault, (sweep candidates before first).state)
  | abandoned {fault : QueryFault} (hloads : (sweep candidates before first).Finished)
      (hcalm : ∀ fault, .error (.fatal fault) ∉ (sweep candidates before first).results)
      (hfault : .error (.fatal fault)
        ∈ (finish lexer settings name (sweep candidates before first) second).results) :
      Interrupted (.error fault,
        (finish lexer settings name (sweep candidates before first) second).state)
  | answered (hloads : (sweep candidates before first).Finished)
      (hcalm : ∀ fault, .error (.fatal fault) ∉ (sweep candidates before first).results)
      (hresolves : (finish lexer settings name (sweep candidates before first) second).Finished) :
      Interrupted
        (.ok (report name (sweep candidates before first).results
            (finish lexer settings name (sweep candidates before first) second).results),
          (finish lexer settings name (sweep candidates before first) second).state)

end Interrupted

/-- A run that nobody interrupts, as something that happens. -/
lemma happenAll_turns {ι κ α : Type} (procedure : Workspace → Procedure (Atlas σ) ι κ α)
    (workspace : Workspace) (schedule : List Nat) (batch : Batch (Atlas σ) ι κ α) :
    happenAll procedure batch (schedule.map fun task => .turn task workspace)
      = Batch.execute (procedure workspace) schedule batch := by
  rw [happenAll, Batch.execute, List.foldl_map]
  rfl

@[simp] lemma notified_turns (workspace : Workspace) (schedule : List Nat) :
    notified (schedule.map fun task => .turn task workspace) = [] := by
  simp [notified]

lemma sweep_turns (workspace : Workspace) (candidates : List String) (before : Atlas σ)
    (schedule : List Nat) :
    sweep candidates before (schedule.map fun task => .turn task workspace)
      = loadsAfter workspace candidates before schedule :=
  happenAll_turns loading workspace schedule _

lemma finish_turns (lexer : LineLexer σ) (workspace : Workspace) (settings : Settings) (name : String)
    (loads : Batch (Atlas σ) String Atlas.LoadStage (Except Mishap Loaded)) (schedule : List Nat) :
    finish lexer settings name loads (schedule.map fun task => .turn task workspace)
      = resolvesAfter lexer workspace settings name loads schedule :=
  happenAll_turns (resolving lexer) workspace schedule _

/-- **What comes of a query comes of an interrupted one**, only that nothing happens to it. -/
theorem Scheduled.interrupted {lexer : LineLexer σ} {workspace : Workspace} {settings : Settings}
    {name : String} {candidates : List String} {before : Atlas σ}
    {outcome : Except QueryFault Report × Atlas σ}
    (h : Scheduled lexer workspace settings name candidates before outcome) :
    ∃ first second, notified first = [] ∧ notified second = [] ∧
      Interrupted lexer settings name candidates before first second outcome := by
  obtain ⟨late, h⟩ := h
  cases h with
  | @calledOff first fault hfault =>
      refine ⟨first.map fun task => .turn task workspace, [], notified_turns workspace first, rfl, ?_⟩
      rw [← sweep_turns] at hfault ⊢
      exact .calledOff hfault
  | @abandoned first second loads fault hfirst hdone hcalm hfault =>
      refine ⟨first.map fun task => .turn task workspace, second.map fun task => .turn task workspace,
        notified_turns workspace first, notified_turns workspace second, ?_⟩
      rw [← sweep_turns] at hfirst
      rw [← finish_turns] at hfault ⊢
      subst hfirst
      exact .abandoned hdone hcalm hfault
  | @answered first second loads hfirst hdone hcalm hresolved hquiet =>
      refine ⟨first.map fun task => .turn task workspace, second.map fun task => .turn task workspace,
        notified_turns workspace first, notified_turns workspace second, ?_⟩
      rw [← sweep_turns] at hfirst
      rw [← finish_turns] at hresolved ⊢
      subst hfirst
      exact .answered hdone hcalm hresolved

/-- What comes of a search, too. -/
theorem search_interrupted {service : Service Soy.Stack} {name : String} {candidates : List Candidate}
    {paths : List String} (hpaths : Candidate.spellings? candidates = some paths) {all : Bool} (now : Int)
    {disk : Disk} {outcome : Except QueryFault Report × Atlas Soy.Stack} {late : List Late}
    (hends : service.Ends Soy.lexer name candidates all disk outcome late) :
    ∃ first second, notified first = [] ∧ notified second = [] ∧
      Interrupted Soy.lexer service.config.settings name
        (filterCandidates service.config.extension all paths) service.atlas first second
        (outcome.1, (service.conclude "search" now disk outcome).2.1.atlas) := by
  rw [(service.conclude_service "search" now disk outcome).1]
  cases hends with
  | notPaths hnone => simp [hnone] at hpaths
  | queried hsome hends =>
      obtain rfl := Option.some.inj (hsome.symm.trans hpaths)
      exact Scheduled.interrupted ⟨late, hends⟩

/-! ## Flags -/

section Flags

variable {ι κ α : Type} {procedure : Workspace → Procedure (Atlas σ) ι κ α}

/-- No turn touches a flag. -/
def Discreet (procedure : Workspace → Procedure (Atlas σ) ι κ α) : Prop :=
  ∀ workspace input last? atlas,
    ((procedure workspace).step input last? atlas).2.flags = atlas.flags

lemma happen_flags (discreet : Discreet procedure) (batch : Batch (Atlas σ) ι κ α)
    (happening : Happening) : (happen procedure batch happening).state.flags
      = batch.state.flags.markAll (notified [happening]) := by
  cases happening with
  | notify path => rfl
  | turn task workspace =>
      rw [happen]
      cases htask : batch.tasks[task]? with
      | none => rw [Batch.advance_of_none htask]; rfl
      | some entry =>
          obtain ⟨input, last?⟩ := entry
          rw [Batch.advance_of_task htask]
          exact discreet workspace input last? batch.state

/-- Whatever happens, the flags are those of before and those of the notifications. -/
lemma happenAll_flags (discreet : Discreet procedure) (batch : Batch (Atlas σ) ι κ α)
    (happenings : List Happening) : (happenAll procedure batch happenings).state.flags
      = batch.state.flags.markAll (notified happenings) := by
  induction happenings generalizing batch with
  | nil => rfl
  | cons happening happenings ih =>
      rw [happenAll, List.foldl_cons, ← happenAll, ih, happen_flags discreet, Flags.markAll,
        Flags.markAll, Flags.markAll, ← List.foldl_append, notified, notified, notified,
        ← List.filterMap_append, List.singleton_append]

end Flags

lemma loading_discreet : Discreet (loading (σ := σ)) :=
  fun _ _ last? _ => (loading_effect last?).flags

lemma resolving_discreet (lexer : LineLexer σ) : Discreet (resolving lexer) :=
  fun workspace selected last? atlas => (resolving_touches lexer workspace selected last? atlas).flags

/-! ## Checks -/

section Checks

variable (before : Atlas σ) (worlds : Workspace → Prop)

/-- An index that is built from what one of the worlds says about its file. -/
def BuiltIn (path : String) (version : Version) : Prop :=
  ∃ workspace text, worlds workspace ∧ workspace.text path = .ok text ∧
    version.index = .ofText path text

/-- A loaded index that was not taken from the cache unseen: its file had no unsaved edits and the time of
its stamp, or it was built anew. -/
inductive Revalidated (path : String) (version : Version) : Prop
  | checked {asked answered : Workspace} {entry : Cached} {time : Int} (hasked : worlds asked)
      (hclean : asked.isDirty path = false) (hanswered : worlds answered)
      (htime : answered.modified path = .ok time)
      (hentry : before.cache.get? path = some entry) (hstamp : entry.stamp = some time)
      (hversion : version = entry.version) : Revalidated path version
  | built (h : BuiltIn worlds path version) : Revalidated path version

/-- Entries are as they were, or have a new index. -/
def Renews (earlier atlas : Atlas σ) : Prop :=
  ∀ path, atlas.cache.get? path = earlier.cache.get? path ∨
    ∃ entry, atlas.cache.get? path = some entry ∧ BuiltIn worlds path entry.version

/-- What is known of a load of a flagged path after a turn. -/
def Checks {ε : Type} (atlas : Atlas σ) (path : String) :
    Step Atlas.LoadStage (Except ε Loaded) → Prop
  | .wait _ (.checking entry) =>
    (∃ asked, worlds asked ∧ asked.isDirty path = false) ∧
      (before.cache.get? path = some entry ∨ BuiltIn worlds path entry.version) ∧
      ∃ now, atlas.cache.get? path = some now ∧ (now = entry ∨ BuiltIn worlds path now.version)
  | .done (.ok item) => item.path = path ∧ Revalidated before worlds path item.version
  | _ => True

variable {before worlds} {earlier atlas after : Atlas σ} {workspace : Workspace} {path : String}

lemma Renews.refl (atlas : Atlas σ) : Renews worlds atlas atlas := fun _ => Or.inl rfl

lemma Renews.trans (h : Renews worlds earlier atlas) (hafter : Renews worlds atlas after) :
    Renews worlds earlier after := by
  intro path
  rcases hafter path with hsame | hnew
  · rw [hsame]
    exact h path
  · exact Or.inr hnew

/-- What is known of a load stays true while other loads go on. -/
lemma Checks.stable {ε : Type} {step : Step Atlas.LoadStage (Except ε Loaded)}
    (hrenews : Renews worlds earlier atlas) (h : Checks before worlds earlier path step) :
    Checks before worlds atlas path step := by
  match step, h with
  | .wait _ (.checking entry), ⟨hasked, hentry, now, hnow, hsame⟩ =>
      refine ⟨hasked, hentry, ?_⟩
      rcases hrenews path with hkept | ⟨new, hnew, hbuilt⟩
      · exact ⟨now, hkept.trans hnow, hsame⟩
      · exact ⟨new, hnew, Or.inr hbuilt⟩
  | .wait _ .stamping, _ => trivial
  | .wait _ (.reading _), _ => trivial
  | .done (.ok _), h => exact h
  | .done (.error _), _ => trivial

/-- While a load waits, nothing is said of what it comes to. -/
lemma Checks.of_wait {ε δ : Type} {rounds : Nat} {stage : Atlas.LoadStage}
    (h : Checks before worlds atlas path (.wait rounds stage : Step Atlas.LoadStage (Except ε Loaded))) :
    Checks before worlds atlas path (.wait rounds stage : Step Atlas.LoadStage (Except δ Loaded)) := by
  cases stage <;> exact h

/-- A turn of a load leaves entries as they are, or renews them. -/
lemma loading_renews (hworld : worlds workspace)
    (last? : Option (Step Atlas.LoadStage (Except Mishap Loaded))) :
    Renews worlds atlas ((loading workspace).step path last? atlas).2 := by
  intro other
  rcases (loading_effect last?).cache with hsame | ⟨text, stamp, htext, hstored⟩
  · rw [hsame]
    exact Or.inl rfl
  · rw [hstored, Cache.get?_store]
    split_ifs with hother
    · rw [hother]
      exact Or.inr ⟨_, rfl, workspace, text, hworld, htext, rfl⟩
    · exact Or.inl rfl

lemma Renews.of_has (hafter : after.Has atlas.flags atlas.cache) : Renews worlds atlas after :=
  fun other => Or.inl (congrArg (·.get? other) hafter.cache)

/-- The text arrives, and the index is built. -/
lemma checks_of_reads (hworld : worlds workspace) {stamp : Option Int} {flags : Flags} {cache : Cache}
    {outcome : Except LoadFault Loaded}
    (h : Atlas.Reads workspace path stamp flags cache (outcome, after)) :
    Checks before worlds after path (.done outcome) := by
  cases h with
  | refused _ _ => trivial
  | built htext _ => exact ⟨rfl, .built ⟨workspace, _, hworld, htext, rfl⟩⟩

lemma checks_of_builds (hworld : worlds workspace) {rounds : Nat} {flags : Flags} {cache : Cache}
    {outcome : Atlas.LoadStep × Atlas σ}
    (h : Atlas.Builds workspace path rounds flags cache outcome) :
    Checks before worlds outcome.2 path outcome.1 := by
  cases h with
  | asks _ _ => trivial
  | refused _ _ => trivial
  | stamped _ _ _ => trivial
  | reads _ h => exact checks_of_reads hworld h

/-- The time of the file decides about a cached index. -/
lemma checks_of_judges (hworld : worlds workspace) {rounds : Nat} {entry : Cached}
    (hknown : Checks before worlds atlas path (.wait rounds (.checking entry) : Atlas.LoadStep))
    {outcome : Atlas.LoadStep × Atlas σ}
    (h : Atlas.Judges workspace path entry atlas.flags atlas.cache outcome) :
    Checks before worlds outcome.2 path outcome.1 := by
  obtain ⟨⟨asked, hasked, hclean⟩, hentry, now, hnow, hsame⟩ := hknown
  cases h with
  | reuses htime hstamp _ =>
      refine ⟨rfl, ?_⟩
      simp only [hnow, Option.getD_some]
      rcases hsame with rfl | hbuilt
      · rcases hentry with hold | hbuilt
        · exact .checked hasked hclean hworld htime hold hstamp rfl
        · exact .built hbuilt
      · exact .built hbuilt
  | refused _ _ _ => trivial
  | builds _ h => exact checks_of_builds hworld h

/-- What is asked about is as before, or new. -/
lemma checks_of_undecided (hworld : worlds workspace) (hrenews : Renews worlds before atlas)
    {entry : Cached} (htrust : atlas.trust workspace path = .undecided entry) (rounds : Nat) :
    Checks before worlds atlas path (.wait rounds (.checking entry) : Atlas.LoadStep) := by
  have htrusts := Atlas.trust_trusts workspace path atlas
  rw [htrust] at htrusts
  cases htrusts with
  | flagged hentry _ hclean =>
      refine ⟨⟨workspace, hworld, hclean⟩, ?_, entry, hentry, Or.inl rfl⟩
      rcases hrenews path with hsame | ⟨new, hnew, hbuilt⟩
      · exact Or.inl (hsame.symm.trans hentry)
      · rw [hentry, Option.some.injEq] at hnew
        exact Or.inr (hnew ▸ hbuilt)

/-- The first turn of a load of a flagged path. -/
lemma startLoad_checks (hworld : worlds workspace) (hrenews : Renews worlds before atlas)
    (hflag : atlas.flags.isChanged path = true) :
    Checks before worlds (atlas.startLoad workspace path).2 path
      (atlas.startLoad workspace path).1 := by
  have hturn := Atlas.startLoad_turns workspace path atlas
  generalize atlas.startLoad workspace path = outcome at hturn ⊢
  cases hturn with
  | reuses htrust =>
      have htrusts := Atlas.trust_trusts workspace path atlas
      rw [htrust] at htrusts
      cases htrusts with
      | unflagged _ hunflagged => simp [hflag] at hunflagged
  | builds _ h => exact checks_of_builds hworld h
  | asks htrust _ hafter =>
      exact (checks_of_undecided hworld hrenews htrust _).stable (.of_has hafter)
  | judges hentry h =>
      cases hentry with
      | now htrust =>
          exact checks_of_judges hworld (checks_of_undecided hworld hrenews htrust 0) h

lemma resumeLoad_checks (hworld : worlds workspace) {rounds : Nat} {stage : Atlas.LoadStage}
    (hknown : Checks before worlds atlas path (.wait rounds stage : Atlas.LoadStep)) :
    Checks before worlds (atlas.resumeLoad workspace path stage).2 path
      (atlas.resumeLoad workspace path stage).1 := by
  have hturn := Atlas.resumeLoad_turns workspace path atlas stage
  generalize atlas.resumeLoad workspace path stage = outcome at hturn ⊢
  cases hturn with
  | judges hentry h =>
      cases hentry with
      | before => exact checks_of_judges hworld hknown h
  | stamps h => exact checks_of_builds hworld h
  | reads h => exact checks_of_reads hworld h

lemma closeStep_checks {outcome : Atlas.LoadStep × Atlas σ}
    (h : Checks before worlds outcome.2 path outcome.1) :
    Checks before worlds (closeStep outcome).2 path (closeStep outcome).1 := by
  obtain ⟨step, after⟩ := outcome
  match step, h with
  | .wait _ _, h => exact h.of_wait
  | .done (.ok _), h => exact h
  | .done (.error _), _ => trivial

variable (before worlds)

/-- The state while flagged paths are checked: flags stay, and entries are as before or new. -/
structure Watched (atlas : Atlas σ) : Prop where
  flags : ∀ path, before.flags.isChanged path = true → atlas.flags.isChanged path = true
  renews : Renews worlds before atlas

/-- What is known of a load among others, if its path is flagged. -/
def ChecksLast (atlas : Atlas σ) (path : String)
    (last? : Option (Step Atlas.LoadStage (Except Mishap Loaded))) : Prop :=
  before.flags.isChanged path = true → ∀ step ∈ last?, Checks before worlds atlas path step

variable {before worlds}

lemma loading_checks (hworld : worlds workspace) (hwatched : Watched before worlds atlas)
    {last? : Option (Step Atlas.LoadStage (Except Mishap Loaded))}
    (hlast : ChecksLast before worlds atlas path last?)
    (hflag : before.flags.isChanged path = true) :
    Checks before worlds ((loading workspace).step path last? atlas).2 path
      ((loading workspace).step path last? atlas).1 := by
  match last?, hlast with
  | none, _ =>
      exact closeStep_checks (startLoad_checks hworld hwatched.renews (hwatched.flags path hflag))
  | some (.wait _ _), hlast =>
      exact closeStep_checks (resumeLoad_checks hworld (hlast hflag _ rfl).of_wait)
  | some (.done _), hlast => exact hlast hflag _ rfl

/-- What a turn of a load keeps in each of the worlds. -/
lemma loading_watched (hworld : worlds workspace) :
    (loading workspace).Keeps (Watched before worlds) (ChecksLast before worlds) where
  step path last? atlas hwatched hlast := by
    refine ⟨⟨?_, hwatched.renews.trans (loading_renews hworld last?)⟩, ?_⟩
    · intro other hother
      rw [loading_discreet workspace path last? atlas]
      exact hwatched.flags other hother
    · rintro hflag step ⟨⟩
      exact loading_checks hworld hwatched hlast hflag
  stable path last? atlas other otherLast? _ _ hother hflag step hstep :=
    (hother hflag step hstep).stable (loading_renews hworld last?)

end Checks

/-- What every turn keeps in its world, and every notification, holds whatever happens. -/
lemma happenAll_sound {ι κ α : Type} {procedure : Workspace → Procedure (Atlas σ) ι κ α}
    {holds : Atlas σ → Prop} {fits : Atlas σ → ι → Option (Step κ α) → Prop}
    (hmark : ∀ atlas path, holds atlas → holds (atlas.mark path))
    (hfits : ∀ atlas path input last?, fits atlas input last? → fits (atlas.mark path) input last?)
    {happenings : List Happening}
    (hkeeps : ∀ task workspace, .turn task workspace ∈ happenings →
      (procedure workspace).Keeps holds fits)
    {batch : Batch (Atlas σ) ι κ α} (h : batch.Sound holds fits) :
    (happenAll procedure batch happenings).Sound holds fits := by
  induction happenings generalizing batch with
  | nil => exact h
  | cons happening happenings ih =>
      refine ih (fun task workspace hmem => hkeeps task workspace (List.mem_cons_of_mem _ hmem)) ?_
      cases happening with
      | turn task workspace => exact h.advance (hkeeps task workspace List.mem_cons_self) task
      | notify path =>
          exact ⟨hmark _ path h.state, fun task htask => hfits _ path _ _ (h.tasks task htask)⟩

/-- The worlds in which something takes its turn. -/
def worldsOf (happenings : List Happening) (workspace : Workspace) : Prop :=
  ∃ task, .turn task workspace ∈ happenings

/-- **Flagged paths are checked.**  Whatever happens during the loads of a query, an index of a path that
was flagged when it was asked is built anew, or the file has the time of its stamp. -/
theorem sweep_revalidates {before : Atlas σ} {path : String}
    (hflag : before.flags.isChanged path = true) {candidates : List String}
    {happenings : List Happening} {item : Loaded}
    (hitem : (path, some (.done (.ok item))) ∈ (sweep candidates before happenings).tasks) :
    Revalidated before (worldsOf happenings) path item.version := by
  have hstart : (Batch.ofInputs before candidates).Sound
      (Watched before (worldsOf happenings)) (ChecksLast before (worldsOf happenings)) := by
    refine Batch.ofInputs_sound ⟨fun _ h => h, .refl before⟩ fun _ _ _ step hstep => ?_
    simp at hstep
  have hsound : (sweep candidates before happenings).Sound
      (Watched before (worldsOf happenings)) (ChecksLast before (worldsOf happenings)) := by
    refine happenAll_sound ?_ ?_ ?_ hstart
    · intro atlas marked h
      refine ⟨fun other hother => ?_, h.renews⟩
      simp [Atlas.mark, Flags.isChanged_mark, h.flags other hother]
    · intro atlas marked input last? h hflag step hstep
      exact (h hflag step hstep).stable (.refl atlas)
    · exact fun task workspace hmem => loading_watched ⟨task, hmem⟩
  exact (hsound.tasks _ hitem hflag _ rfl).2

/-! ## What is flagged in the end -/

lemma mem_notified {happenings : List Happening} {path : String} :
    path ∈ notified happenings ↔ .notify path ∈ happenings := by
  rw [notified, List.mem_filterMap]
  constructor
  · rintro ⟨happening, hmem, hpath⟩
    cases happening with
    | turn task workspace => simp at hpath
    | notify other => exact Option.some.inj hpath ▸ hmem
  · exact fun hmem => ⟨_, hmem, rfl⟩

/-- While loads are under way, nothing is forgotten. -/
lemma sweep_flagged (candidates : List String) (before : Atlas σ) (happenings : List Happening)
    (path : String) : (sweep candidates before happenings).state.flags.isChanged path = true ↔
      before.flags.isChanged path = true ∨ .notify path ∈ happenings := by
  rw [sweep, happenAll_flags loading_discreet, Flags.isChanged_markAll, mem_notified]
  rfl

/-- While resolves are under way, only files that failed and later notifications are flagged. -/
lemma finish_flagged (lexer : LineLexer σ) (settings : Settings) (name : String)
    (loads : Batch (Atlas σ) String Atlas.LoadStage (Except Mishap Loaded))
    (happenings : List Happening) (path : String) :
    (finish lexer settings name loads happenings).state.flags.isChanged path = true ↔
      settings.reflag = true ∧ (∃ failure ∈ failuresOf loads.results, failure.path = path) ∨
        .notify path ∈ happenings := by
  rw [finish, happenAll_flags (resolving_discreet lexer), Flags.isChanged_markAll, mem_notified]
  refine or_congr_left ?_
  simp only [Batch.ofInputs, settle, Flags.isChanged_markAll, Flags.isChanged_none]
  by_cases hreflag : settings.reflag = true
  · simp [hreflag]
  · simp [hreflag]

/-- **Notifications.**  When a query ends, those paths are flagged that were notified after its loads, and
those that are flagged again because they could not be loaded.  If it is called off during its loads, nothing
is forgotten.  In the query after that, no index of a flagged path is taken from the cache unseen. -/
theorem flags_interrupted {lexer : LineLexer σ} {settings : Settings} {name : String}
    {candidates : List String} {before after : Atlas σ} {first second : List Happening}
    {outcome : Except QueryFault Report}
    (h : Interrupted lexer settings name candidates before first second (outcome, after))
    (path : String) :
    (after.flags.isChanged path = true ↔
      if (sweep candidates before first).results.any isFatal then
        before.flags.isChanged path = true ∨ .notify path ∈ first
      else
        settings.reflag = true ∧
            (∃ failure ∈ failuresOf (sweep candidates before first).results, failure.path = path) ∨
          .notify path ∈ second) ∧
      (after.flags.isChanged path = true → ∀ candidates happenings item,
        (path, some (.done (.ok item))) ∈ (sweep candidates after happenings).tasks →
          Revalidated after (worldsOf happenings) path item.version) := by
  refine ⟨?_, fun hflag _ _ _ hitem => sweep_revalidates hflag hitem⟩
  cases h with
  | calledOff hfault =>
      rw [if_pos (List.any_eq_true.mpr ⟨_, hfault, rfl⟩)]
      exact sweep_flagged candidates before first path
  | abandoned _ hcalm _ =>
      rw [any_isFatal_of_none (firstFatal?_eq_none hcalm), if_neg Bool.false_ne_true]
      exact finish_flagged lexer settings name _ second path
  | answered _ hcalm _ =>
      rw [any_isFatal_of_none (firstFatal?_eq_none hcalm), if_neg Bool.false_ne_true]
      exact finish_flagged lexer settings name _ second path

end Search

namespace Session

open Soy Search

/-- Turns of the only load of a query, as many as it needs. -/
def turns (session : Session) : List Happening := List.replicate 4 (.turn 0 session.view)

/-- A file is missing, and another one is notified after the loads: both are flagged in the end. -/
theorem flags_interrupted_missing :
    let loads := sweep ["a.soy"] onEmptyDisk.service.atlas onEmptyDisk.turns
    ∀ path ∈ ["a.soy", "b.soy"],
      (finish lexer {} "*" loads [.notify "b.soy"]).state.flags.isChanged path = true := by
  intro loads path hpath
  have hquiet : loads.results.any isFatal = false := by decide +kernel
  have hinterrupted : Interrupted lexer {} "*" ["a.soy"] onEmptyDisk.service.atlas
      onEmptyDisk.turns [.notify "b.soy"] (_, _) :=
    .answered (by decide +kernel) (fun _ hmem => List.any_eq_false.mp hquiet _ hmem rfl)
      (by decide +kernel)
  refine (flags_interrupted hinterrupted path).1.mpr ?_
  rw [if_neg (by rw [hquiet]; exact Bool.false_ne_true)]
  rcases List.mem_pair.mp hpath with rfl | rfl
  · exact Or.inl ⟨rfl, by decide +kernel⟩
  · exact Or.inr List.mem_cons_self

/-- A file is written and asked for, and written anew with another time. -/
def edited : List Action :=
  [.write "a.soy" "\x7btemplate .aa\x7d".toUTF8.toList 5, .search "*" [.spelled "a.soy"] false 0,
    .write "a.soy" "\x7btemplate .bb\x7d".toUTF8.toList 6, .notify ["a.soy"]]

/-- **A notification is forgotten.**  The file is notified, but somebody asks about another file first.
After that it is not flagged any more, and the old answer is given for it. -/
theorem notification_forgotten :
    onEmptyDisk.Begins ∧ (onEmptyDisk.run edited).Flags "a.soy" ∧
      "a.soy" ∉ filterCandidates (onEmptyDisk.run edited).service.config.extension false ["b.soy"] ∧
      ¬ (onEmptyDisk.run (edited ++ [.search "*" [.spelled "b.soy"] false 0])).Flags "a.soy" ∧
      ((onEmptyDisk.run (edited ++ [.search "*" [.spelled "b.soy"] false 0])).service.queried lexer "*"
          [.spelled "a.soy"] false (onEmptyDisk.run edited).disk).1.map Report.answer
        = .ok ([⟨"a.soy", ".aa", 0, 0⟩], []) :=
  ⟨onEmptyDisk_begins, by decide +kernel, by decide +kernel, by decide +kernel, by decide +kernel⟩

end Session

end TemplateAtlas
