import Mathlib.Logic.Function.Basic
import Mathlib.Tactic.Common
import TemplateAtlas.Proofs.Loading
import TemplateAtlas.Proofs.Ranges

/-!
# Ranges that are put back late

A query looks for ranges in an index that it was handed, and puts the index with the ranges back into the cache.
In between it may wait, and others may build the index of the file anew.

**Traffic.**  Any number of queries load, rebuild, look for ranges and put indexes back, in any order and with
the outside world different at every turn (`Traffic.take`, `Traffic.run`).  The indexes that were handed out are
kept, and so are those that were derived from them, so that they may be put back at any later time.

**Generations.**  Every build of a path starts a new generation of indexes.  `FileIndex.outline` is what the
indexes of one generation have in common: resolving adds ranges to it and changes no name and no start
(`FileIndex.resolve_outline`).

**One owner.**  Serial numbers are given out once, so that each of them belongs to one index of one generation
(`Traffic.Inv`).  An index that is put back has the generation of the one it replaces, because that one was
found under the number of the one it was derived from.  Every step keeps this (`Inv.take`), and so does every
run (`Inv.run`).  Hence the cache always shows the latest build of a path, and what was derived from an older one
is refused: `Traffic.run_shows_latest`.
-/

namespace TemplateAtlas

variable {σ : Type}

/-! ## Outlines -/

/-- Where the template of an entry starts. -/
def Entry.start : Entry → Int
  | .marker found => found.start
  | .span found => found.start

namespace FileIndex

/-- The names of an index in their order, each with the starts of its templates. -/
def outline (index : FileIndex) : List (String × List Int) :=
  index.entries.map fun (name, items) => (name, items.map Entry.start)

lemma names_eq_outline (index : FileIndex) : index.names = index.outline.map (·.1) := by
  rw [names, outline, List.map_map]
  rfl

lemma nodup_names_ofText (path : String) (text : List Char) : (ofText path text).names.Nodup := by
  rw [names, ofText, List.map_map]
  exact Marker.groups_nodup text

end FileIndex

/-- A range starts where its entry starts. -/
lemma resolveEntry_start {lexer : LineLexer σ} {text : List Char} {map : LineMap} {entry : Entry}
    {memory : σ} {span : Span} (h : (resolveEntry lexer text map entry memory).1 = .ok span) :
    span.start = entry.start := by
  cases entry with
  | span found =>
      rw [resolveEntry, Except.ok.injEq] at h
      rw [← h]
      rfl
  | marker marker =>
      rw [resolveEntry] at h
      cases hend : (Block.endFrom lexer Block.closing text marker.start memory).1 with
      | error fault => simp [hend, Except.map] at h
      | ok stop =>
          simp only [hend, Except.map, Except.ok.injEq] at h
          rw [← h]
          rfl

lemma resolveEntries_start {lexer : LineLexer σ} {text : List Char} {map : LineMap}
    {entries : List Entry} {memory : σ} {spans : List Span}
    (h : (resolveEntries lexer text map entries memory).1 = .ok spans) :
    spans.map (·.start) = entries.map Entry.start := by
  induction entries generalizing memory spans with
  | nil =>
      rw [resolveEntries, Except.ok.injEq] at h
      rw [← h]
      rfl
  | cons entry entries ih =>
      rw [resolveEntries] at h
      cases hfirst : resolveEntry lexer text map entry memory with
      | mk outcome after =>
          cases outcome with
          | error fault => simp [hfirst] at h
          | ok span =>
              simp only [hfirst] at h
              cases hothers : resolveEntries lexer text map entries after with
              | mk outcome later =>
                  cases outcome with
                  | error fault => simp [hothers] at h
                  | ok more =>
                      simp only [hothers, Except.ok.injEq] at h
                      have hstart : span.start = entry.start :=
                        resolveEntry_start (by rw [hfirst])
                      have hmore := ih (by rw [hothers])
                      rw [← h, List.map_cons, List.map_cons, hstart, hmore]

namespace FileIndex

/-- Ranges that start where the entries of a name start leave the outline as it is. -/
lemma replaceEntries_outline {index : FileIndex} (hnodup : index.names.Nodup) {name : String}
    {spans : List Span} (h : spans.map (·.start) = (index.entriesOf name).map Entry.start) :
    outline { index with entries := replaceEntries name spans index.entries } = index.outline := by
  rw [outline, outline, replaceEntries, List.map_map]
  refine List.map_congr_left fun field hmem => ?_
  obtain ⟨other, items⟩ := field
  simp only [Function.comp_apply]
  split_ifs with hname
  · have hitems : index.entriesOf name = items := by
      rw [entriesOf, ← hname, lookup_eq_of_nodup hnodup hmem]
      rfl
    rw [hitems] at h
    rw [List.map_map, ← h]
    rfl
  · rfl

lemma resolveNames_outline {lexer : LineLexer σ} {text : List Char} {map : LineMap}
    {names : List String} {index updated : FileIndex} {memory : σ} {spans : List Span}
    (hnodup : index.names.Nodup)
    (h : (resolveNames lexer text map names index memory).1 = .ok (updated, spans)) :
    updated.outline = index.outline := by
  induction names generalizing index memory spans with
  | nil =>
      rw [resolveNames, Except.ok.injEq, Prod.mk.injEq] at h
      rw [h.1]
  | cons name names ih =>
      rw [resolveNames] at h
      cases hfirst : resolveEntries lexer text map (index.entriesOf name) memory with
      | mk outcome after =>
          cases outcome with
          | error fault => simp [hfirst] at h
          | ok found =>
              simp only [hfirst] at h
              have hstarts := resolveEntries_start (congrArg Prod.fst hfirst)
              have hsame := replaceEntries_outline hnodup hstarts
              set replaced : FileIndex :=
                { index with entries := replaceEntries name found index.entries }
              cases hothers : resolveNames lexer text map names replaced after with
              | mk outcome later =>
                  cases outcome with
                  | error fault => simp [hothers] at h
                  | ok result =>
                      obtain ⟨final, more⟩ := result
                      simp only [hothers, Except.ok.injEq, Prod.mk.injEq] at h
                      have hreplaced : replaced.names.Nodup := by
                        rwa [names_eq_outline, hsame, ← names_eq_outline]
                      rw [h.1] at hothers
                      rw [← hsame]
                      exact ih hreplaced (congrArg Prod.fst hothers)

/-- **Resolving keeps the outline**: no name is added or moved, and nothing starts elsewhere, whatever the lexer
and whatever the text. -/
theorem resolve_outline {lexer : LineLexer σ} {index updated : FileIndex} {names : List String}
    {text? : Option (List Char)} {memory : σ} {spans : List Span} (hnodup : index.names.Nodup)
    (h : (index.resolve lexer names text? memory).1 = .ok (updated, spans)) :
    updated.outline = index.outline := by
  rw [resolve.eq_def] at h
  split_ifs at h
  · rw [Except.ok.injEq, Prod.mk.injEq] at h
    rw [h.1]
  · cases text? with
    | none => simp at h
    | some text =>
        simp only at h
        cases houtcome : (resolveNames lexer text (.ofText text) names index memory).1 with
        | error fault => simp [houtcome, Except.mapError] at h
        | ok result =>
            simp only [houtcome, Except.mapError, Except.ok.injEq] at h
            exact resolveNames_outline hnodup (houtcome.trans (by rw [h]))

end FileIndex

/-! ## Traffic -/

/-- An index that was handed out, and the number of builds of its path by then. -/
structure Handle where
  path : String
  version : Version
  generation : Nat
  deriving DecidableEq, Repr

/-- An index with ranges, and the index it was derived from. -/
structure Memo where
  base : Handle
  version : Version
  deriving DecidableEq, Repr

/-- The derived index belongs to the build that its base belongs to. -/
def Memo.handle (memo : Memo) : Handle := ⟨memo.base.path, memo.version, memo.base.generation⟩

/-- A finished build: the text that was read, and the stamp that was taken before. -/
structure Build where
  path : String
  text : List Char
  stamp : Option Int
  deriving DecidableEq, Repr

/-- The index that was built. -/
def Build.index (build : Build) : FileIndex := .ofText build.path build.text

/-- The cache while queries are under way: the loads that wait, the indexes that were handed out, those that
were derived from them, and all builds, the latest first. -/
structure Traffic (σ : Type) where
  atlas : Atlas σ
  waiting : List (String × Atlas.LoadStage) := []
  handles : List Handle := []
  memos : List Memo := []
  builds : List Build := []

/-- What a query does next.  Numbers say which of the waiting loads, of the indexes that were handed out, or of
the derived indexes is meant. -/
inductive Request where
  | load (path : String)
  | rebuild (path : String)
  | resume (number : Nat)
  | resolve (number : Nat) (names : List String) (text? : Option (List Char))
  | swap (number : Nat)
  | flag (flags : Flags)
  deriving DecidableEq, Repr

/-- The stamp that an index gets whose stamp is taken now. -/
def Workspace.stampNow (workspace : Workspace) (path : String) : Option Int :=
  workspace.stamp path (workspace.diskTime path).toOption.join

/-- The stamp of an index that is built when a load goes on. -/
def Atlas.LoadStage.stamp (workspace : Workspace) (path : String) : Atlas.LoadStage → Option Int
  | checking _ => workspace.stampNow path
  | stamping => workspace.stampNow path
  | reading stamp => stamp

namespace Traffic

/-- Nothing was asked yet, and the cache is empty. -/
def start (memory : σ) : Traffic σ := ⟨{ memory := memory }, [], [], [], []⟩

/-- The latest build of a path. -/
def latest? (traffic : Traffic σ) (path : String) : Option Build :=
  traffic.builds.find? fun build => build.path = path

/-- How many builds of a path are finished. -/
def generation (traffic : Traffic σ) (path : String) : Nat :=
  traffic.builds.countP fun build => build.path = path

/-- Notes that a build is finished. -/
def finish (build : Build) (traffic : Traffic σ) : Traffic σ :=
  { traffic with builds := build :: traffic.builds }

/-- Notes that an index is handed out. -/
def handOut (path : String) (version : Version) (traffic : Traffic σ) : Traffic σ :=
  { traffic with handles := ⟨path, version, traffic.generation path⟩ :: traffic.handles }

/-- Notes what came of a turn of a load; an index that was just built has the given stamp. -/
def record (path : String) (stamp : Option Int) (outcome : Atlas.LoadStep × Atlas σ)
    (traffic : Traffic σ) : Traffic σ :=
  let (step, atlas) := outcome
  let traffic := { traffic with atlas := atlas }
  match step with
  | .wait _ stage => { traffic with waiting := (path, stage) :: traffic.waiting }
  | .done (.error _) => traffic
  | .done (.ok ⟨_, version, none⟩) => traffic.handOut path version
  | .done (.ok ⟨_, version, some text⟩) =>
    (traffic.finish ⟨path, text, stamp⟩).handOut path version

/-- Looks for ranges in an index.  Only an index to which ranges were added is a new one. -/
def derive (lexer : LineLexer σ) (base : Handle) (names : List String) (text? : Option (List Char))
    (traffic : Traffic σ) : Traffic σ :=
  let (outcome, memory) := base.version.index.resolve lexer names text? traffic.atlas.memory
  match outcome with
  | .error _ => { traffic with atlas := { traffic.atlas with memory := memory } }
  | .ok (index, _) =>
    if base.version.index.isResolved names then
      { traffic with
        atlas := { traffic.atlas with memory := memory }
        memos := ⟨base, base.version⟩ :: traffic.memos }
    else
      let (version, cache) := traffic.atlas.cache.issue index
      { traffic with
        atlas := { traffic.atlas with cache := cache, memory := memory }
        memos := ⟨base, version⟩ :: traffic.memos }

/-- Puts a derived index in the place of its base, if that is still cached. -/
def putBack (memo : Memo) (traffic : Traffic σ) : Traffic σ :=
  let (_, cache) := traffic.atlas.cache.swap memo.base.path memo.base.version.serial memo.version
  { traffic with atlas := { traffic.atlas with cache := cache } }

/-- What a request does.  A number that means nothing does nothing. -/
def take (lexer : LineLexer σ) (workspace : Workspace) (traffic : Traffic σ) :
    Request → Traffic σ
  | .load path =>
    traffic.record path (workspace.stampNow path) (traffic.atlas.startLoad workspace path)
  | .rebuild path =>
    traffic.record path (workspace.stampNow path) (traffic.atlas.askStamp workspace path)
  | .resume number =>
    match traffic.waiting[number]? with
    | none => traffic
    | some (path, stage) =>
      let others := { traffic with waiting := traffic.waiting.eraseIdx number }
      others.record path (stage.stamp workspace path)
        (traffic.atlas.resumeLoad workspace path stage)
  | .resolve number names text? =>
    match traffic.handles[number]? with
    | none => traffic
    | some base => traffic.derive lexer base names text?
  | .swap number =>
    match traffic.memos[number]? with
    | none => traffic
    | some memo => traffic.putBack memo
  | .flag flags => { traffic with atlas := { traffic.atlas with flags := flags } }

/-- Takes requests one after the other, each in the outside world of its time. -/
def run (lexer : LineLexer σ) (requests : List (Workspace × Request)) (traffic : Traffic σ) :
    Traffic σ :=
  requests.foldl (fun traffic (workspace, request) => traffic.take lexer workspace request) traffic

/-- The resolve of a query does to the cache what two requests do: it derives an index, and puts it back if it is
a new one. -/
theorem resolveWith_cache (lexer : LineLexer σ) (base : Handle) (names : List String)
    (text? : Option (List Char)) (traffic : Traffic σ) :
    let queried := Search.resolveWith lexer ⟨⟨base.path, base.version, text?⟩, names⟩ text?
      traffic.atlas
    let derived := traffic.derive lexer base names text?
    queried.2.cache = derived.atlas.cache ∨
      ∃ memo ∈ derived.memos, memo.base = base ∧
        queried.2.cache = (derived.putBack memo).atlas.cache := by
  simp only [Search.resolveWith, derive]
  cases base.version.index.resolve lexer names text? traffic.atlas.memory with
  | mk outcome memory =>
      cases outcome with
      | error fault => exact Or.inl rfl
      | ok result =>
          simp only
          split_ifs
          · exact Or.inl rfl
          · exact Or.inr ⟨_, List.mem_cons_self, rfl, rfl⟩

/-! ## What a turn of a load does -/

/-- What is known of a load that has to wait. -/
def Waits (workspace : Workspace) (path : String) (cache : Cache) : Atlas.LoadStage → Prop
  | .checking _ => (cache.get? path).isSome = true
  | .stamping => True
  | .reading stamp => stamp = workspace.stampNow path

/-- What a turn of a load can come to: it has to wait, it fails, it hands out the cached index, or it builds an
index and hands it out. -/
inductive Turned (workspace : Workspace) (path : String) (stamp : Option Int) (cache : Cache) :
    Atlas.LoadStep × Atlas σ → Prop
  | waits {rounds : Nat} {stage : Atlas.LoadStage} {after : Atlas σ} (hcache : after.cache = cache)
      (hwaits : Waits workspace path cache stage) :
      Turned workspace path stamp cache (.wait rounds stage, after)
  | fails {fault : LoadFault} {after : Atlas σ} (hcache : after.cache = cache) :
      Turned workspace path stamp cache (.done (.error fault), after)
  | reuses {entry : Cached} {after : Atlas σ} (hcache : after.cache = cache)
      (hentry : cache.get? path = some entry) :
      Turned workspace path stamp cache (.done (.ok ⟨path, entry.version, none⟩), after)
  | builds {text : List Char} {after : Atlas σ} (htext : workspace.text path = .ok text)
      (hcache : after.cache = (cache.store path (.ofText path text) stamp).2) :
      Turned workspace path stamp cache
        (.done (.ok ⟨path, ⟨cache.issued, .ofText path text⟩, some text⟩), after)

section Turned

variable {workspace : Workspace} {path : String} {flags : Flags} {cache : Cache}

lemma turned_of_reads {stamp : Option Int} {outcome : Except LoadFault Loaded} {after : Atlas σ}
    (h : Atlas.Reads workspace path stamp flags cache (outcome, after)) :
    Turned workspace path stamp cache (.done outcome, after) := by
  cases h with
  | refused _ hafter => exact .fails hafter.cache
  | built htext hafter => exact .builds htext hafter.cache

lemma stampNow_eq {time : Option Int} (htime : workspace.diskTime path = .ok time) :
    workspace.stampNow path = workspace.stamp path time := by
  rw [Workspace.stampNow, htime]
  rfl

lemma turned_of_builds {rounds : Nat} {outcome : Atlas.LoadStep × Atlas σ}
    (h : Atlas.Builds workspace path rounds flags cache outcome) :
    Turned workspace path (workspace.stampNow path) cache outcome := by
  cases h with
  | asks _ hafter => exact .waits hafter.cache trivial
  | refused _ hafter => exact .fails hafter.cache
  | stamped htime _ hafter => exact .waits hafter.cache (stampNow_eq htime).symm
  | reads htime h =>
      rw [stampNow_eq htime]
      exact turned_of_reads h

lemma turned_of_judges {entry : Cached} (hcached : (cache.get? path).isSome = true)
    {outcome : Atlas.LoadStep × Atlas σ} (h : Atlas.Judges workspace path entry flags cache outcome) :
    Turned workspace path (workspace.stampNow path) cache outcome := by
  cases h with
  | reuses _ _ hafter =>
      obtain ⟨now, hnow⟩ := Option.isSome_iff_exists.mp hcached
      simp only [hnow, Option.getD_some]
      exact .reuses hafter.cache hnow
  | refused _ _ hafter => exact .fails hafter.cache
  | builds _ h => exact turned_of_builds h

variable (workspace : Workspace) (path : String) (atlas : Atlas σ)

lemma askStamp_turned :
    Turned workspace path (workspace.stampNow path) atlas.cache
      (atlas.askStamp workspace path) :=
  turned_of_builds (Atlas.askStamp_builds workspace path atlas)

lemma startLoad_turned :
    Turned workspace path (workspace.stampNow path) atlas.cache
      (atlas.startLoad workspace path) := by
  have hturn := Atlas.startLoad_turns workspace path atlas
  generalize atlas.startLoad workspace path = outcome at hturn ⊢
  cases hturn with
  | reuses htrust =>
      obtain ⟨entry, hentry, rfl⟩ := Atlas.get?_of_granted htrust
      exact .reuses rfl hentry
  | builds _ h => exact turned_of_builds h
  | asks htrust _ hafter =>
      exact .waits hafter.cache (Option.isSome_of_eq_some (Atlas.get?_of_undecided htrust))
  | judges hentry h =>
      cases hentry with
      | now htrust =>
          exact turned_of_judges (Option.isSome_of_eq_some (Atlas.get?_of_undecided htrust)) h

lemma resumeLoad_turned (stage : Atlas.LoadStage)
    (hcached : ∀ entry, stage = .checking entry → (atlas.cache.get? path).isSome = true) :
    Turned workspace path (stage.stamp workspace path) atlas.cache
      (atlas.resumeLoad workspace path stage) := by
  have hturn := Atlas.resumeLoad_turns workspace path atlas stage
  generalize atlas.resumeLoad workspace path stage = outcome at hturn ⊢
  cases hturn with
  | judges hentry h =>
      cases hentry with
      | before => exact turned_of_judges (hcached _ rfl) h
  | stamps h => exact turned_of_builds h
  | reads h => exact turned_of_reads h

end Turned

end Traffic

/-- A swap is refused, or the expected index is the one in the cache and is replaced. -/
lemma Cache.swap_cases (cache : Cache) (path : String) (expected : Nat) (version : Version) :
    cache.swap path expected version = (false, cache) ∨
      ∃ entry, cache.get? path = some entry ∧ entry.version.serial = expected ∧
        (cache.swap path expected version).2.issued = cache.issued ∧
        ∀ other, (cache.swap path expected version).2.get? other
          = if other = path then some ⟨version, entry.stamp⟩ else cache.get? other := by
  rw [swap]
  cases hentry : cache.get? path with
  | none => exact Or.inl rfl
  | some entry =>
      simp only
      split_ifs with hserial
      · exact Or.inr ⟨entry, rfl, hserial, rfl, fun other => lookup_put path other _ _⟩
      · exact Or.inl rfl

namespace Traffic

/-! ## One owner -/

/-- A serial number was given out for an index that belongs to a build of a path. -/
def Owns (issued : Nat) (owner : Nat → Handle) (handle : Handle) : Prop :=
  handle.version.serial < issued ∧ owner handle.version.serial = handle

/-- An index that was handed out lists each name once, and as long as its build is the latest of its path, it has
the outline of that build. -/
structure Fits (traffic : Traffic σ) (handle : Handle) : Prop where
  nodup : handle.version.index.names.Nodup
  generation_le : handle.generation ≤ traffic.generation handle.path
  outline_eq : handle.generation = traffic.generation handle.path →
    ∀ build, traffic.latest? handle.path = some build →
      handle.version.index.outline = build.index.outline

/-- Every serial number has one owner, and everything that goes by it goes by that owner. -/
structure Owned (traffic : Traffic σ) (owner : Nat → Handle) : Prop where
  fits : ∀ serial < traffic.atlas.cache.issued, traffic.Fits (owner serial)
  handles : ∀ handle ∈ traffic.handles, Owns traffic.atlas.cache.issued owner handle
  memos : ∀ memo ∈ traffic.memos, Owns traffic.atlas.cache.issued owner memo.base ∧
    Owns traffic.atlas.cache.issued owner memo.handle
  entries : ∀ path entry, traffic.atlas.cache.get? path = some entry →
    Owns traffic.atlas.cache.issued owner ⟨path, entry.version, traffic.generation path⟩
  stamps : ∀ path, (traffic.atlas.cache.get? path).map (·.stamp)
    = (traffic.latest? path).map (·.stamp)
  checks : ∀ path entry, (path, .checking entry) ∈ traffic.waiting →
    (traffic.atlas.cache.get? path).isSome = true

/-- Serial numbers have owners. -/
def Inv (traffic : Traffic σ) : Prop := ∃ owner, traffic.Owned owner

lemma Inv.start (memory : σ) : (start memory).Inv :=
  ⟨fun serial => ⟨"", ⟨serial, .empty ""⟩, 0⟩,
    { fits := fun _ h => absurd h (Nat.not_lt_zero _)
      handles := fun _ h => absurd h List.not_mem_nil
      memos := fun _ h => absurd h List.not_mem_nil
      entries := fun _ _ h => absurd h (Option.some_ne_none _).symm
      stamps := fun _ => rfl
      checks := fun _ _ h => absurd h List.not_mem_nil }⟩

section Owned

variable {traffic : Traffic σ} {owner : Nat → Handle}

/-- The number that is given out next goes to a new owner, and nobody loses one. -/
lemma Owns.grow {issued : Nat} {handle : Handle} (h : Owns issued owner handle) (next : Handle) :
    Owns (issued + 1) (Function.update owner issued next) handle :=
  ⟨Nat.lt_succ_of_lt h.1, by rw [Function.update_of_ne (Nat.ne_of_lt h.1), h.2]⟩

lemma Owns.next {issued : Nat} {handle : Handle} (h : handle.version.serial = issued) :
    Owns (issued + 1) (Function.update owner issued handle) handle :=
  ⟨h ▸ Nat.lt_succ_self _, by rw [h, Function.update_self]⟩

lemma Fits.of_builds {after : Traffic σ} {handle : Handle} (h : traffic.Fits handle)
    (hbuilds : after.builds = traffic.builds) : after.Fits handle := by
  refine ⟨h.nodup, ?_, ?_⟩
  · rw [generation, hbuilds]
    exact h.generation_le
  · rw [generation, latest?, hbuilds]
    exact h.outline_eq

lemma generation_finish (build : Build) (path : String) :
    (traffic.finish build).generation path
      = if build.path = path then traffic.generation path + 1 else traffic.generation path := by
  rw [generation, finish, List.countP_cons, generation]
  by_cases h : build.path = path
  · simp [h]
  · simp [h]

lemma latest?_finish (build : Build) (path : String) :
    (traffic.finish build).latest? path
      = if build.path = path then some build else traffic.latest? path := by
  rw [latest?, finish, List.find?_cons, latest?]
  by_cases h : build.path = path
  · simp [h]
  · simp [h]

/-- A new build makes the indexes of its path old, and leaves all others as they are. -/
lemma Fits.finish {handle : Handle} (h : traffic.Fits handle) (build : Build) :
    (traffic.finish build).Fits handle := by
  by_cases hpath : build.path = handle.path
  · have hle := h.generation_le
    refine ⟨h.nodup, ?_, ?_⟩
    · rw [generation_finish, if_pos hpath]
      omega
    · intro hcurrent
      rw [generation_finish, if_pos hpath] at hcurrent
      omega
  · refine ⟨h.nodup, ?_, ?_⟩
    · rw [generation_finish, if_neg hpath]
      exact h.generation_le
    · rw [generation_finish, latest?_finish, if_neg hpath, if_neg hpath]
      exact h.outline_eq

/-- The index of a build that was just finished. -/
lemma Fits.built (traffic : Traffic σ) (build : Build) (serial : Nat) :
    (traffic.finish build).Fits
      ⟨build.path, ⟨serial, build.index⟩, traffic.generation build.path + 1⟩ := by
  refine ⟨FileIndex.nodup_names_ofText _ _, ?_, ?_⟩
  · rw [generation_finish, if_pos rfl]
  · rintro - latest hlatest
    rw [latest?_finish, if_pos rfl, Option.some.injEq] at hlatest
    rw [hlatest]

/-- The owner of the next number fits as those of the numbers before it do. -/
lemma fits_update {issued : Nat} {next : Handle} (hold : ∀ serial < issued, traffic.Fits (owner serial))
    (hnext : traffic.Fits next) :
    ∀ serial < issued + 1, traffic.Fits (Function.update owner issued next serial) := by
  intro serial hserial
  by_cases hnew : serial = issued
  · rw [hnew, Function.update_self]
    exact hnext
  · rw [Function.update_of_ne hnew]
    exact hold serial (by omega)

/-! ## What a step preserves -/

/-- Flags, memory and trace do not matter. -/
lemma Owned.of_cache (h : traffic.Owned owner) {after : Atlas σ}
    (hcache : after.cache = traffic.atlas.cache) :
    Owned { traffic with atlas := after } owner where
  fits serial hserial := (h.fits serial (hcache ▸ hserial)).of_builds rfl
  handles handle hmem := hcache ▸ h.handles handle hmem
  memos memo hmem := hcache ▸ h.memos memo hmem
  entries path entry hentry := hcache ▸ h.entries path entry (hcache ▸ hentry)
  stamps path := hcache ▸ h.stamps path
  checks path entry hmem := hcache ▸ h.checks path entry hmem

lemma Owned.wait (h : traffic.Owned owner) {workspace : Workspace} {path : String}
    {stage : Atlas.LoadStage} (hwaits : Waits workspace path traffic.atlas.cache stage) :
    Owned { traffic with waiting := (path, stage) :: traffic.waiting } owner where
  fits serial hserial := (h.fits serial hserial).of_builds rfl
  handles := h.handles
  memos := h.memos
  entries := h.entries
  stamps := h.stamps
  checks other entry hmem := by
    rcases List.mem_cons.mp hmem with hsame | hmem
    · rw [Prod.mk.injEq] at hsame
      rw [hsame.1]
      rw [← hsame.2] at hwaits
      exact hwaits
    · exact h.checks other entry hmem

lemma Owned.handOut (h : traffic.Owned owner) {path : String} {entry : Cached}
    (hentry : traffic.atlas.cache.get? path = some entry) :
    (traffic.handOut path entry.version).Owned owner where
  fits serial hserial := (h.fits serial hserial).of_builds rfl
  handles handle hmem := by
    rcases List.mem_cons.mp hmem with rfl | hmem
    · exact h.entries path entry hentry
    · exact h.handles handle hmem
  memos := h.memos
  entries := h.entries
  stamps := h.stamps
  checks := h.checks

/-- A build owns the next number, and its index is cached. -/
lemma Owned.finish (h : traffic.Owned owner) (build : Build) {after : Atlas σ}
    (hcache : after.cache
      = (traffic.atlas.cache.store build.path build.index build.stamp).2) :
    Owned ({ traffic with atlas := after }.finish build)
      (Function.update owner traffic.atlas.cache.issued
        ⟨build.path, ⟨traffic.atlas.cache.issued, build.index⟩,
          traffic.generation build.path + 1⟩) := by
  have hissued : after.cache.issued = traffic.atlas.cache.issued + 1 := by rw [hcache]; rfl
  have hget : ∀ path, after.cache.get? path = if path = build.path then
      some ⟨⟨traffic.atlas.cache.issued, build.index⟩, build.stamp⟩
      else traffic.atlas.cache.get? path := by
    intro path
    rw [hcache, Cache.get?_store]
  constructor
  case fits =>
    rw [Traffic.finish, hissued]
    exact fits_update (fun serial hserial => ((h.fits serial hserial).finish build).of_builds rfl)
      ((Fits.built traffic build _).of_builds rfl)
  case handles =>
    intro handle hmem
    rw [Traffic.finish, hissued]
    exact (h.handles handle hmem).grow _
  case memos =>
    intro memo hmem
    rw [Traffic.finish, hissued]
    exact ⟨(h.memos memo hmem).1.grow _, (h.memos memo hmem).2.grow _⟩
  case entries =>
    intro path entry hentry
    rw [Traffic.finish, hget] at hentry
    rw [generation_finish, Traffic.finish, hissued]
    split_ifs at hentry with hpath
    · rw [← Option.some.inj hentry, hpath, if_pos rfl]
      exact .next rfl
    · rw [if_neg (Ne.symm hpath)]
      exact (h.entries path entry hentry).grow _
  case stamps =>
    intro path
    rw [latest?_finish, Traffic.finish, hget]
    by_cases hpath : path = build.path
    · rw [if_pos hpath, if_pos hpath.symm]
      rfl
    · rw [if_neg hpath, if_neg (Ne.symm hpath)]
      exact h.stamps path
  case checks =>
    intro path entry hmem
    rw [Traffic.finish, hget]
    split_ifs
    · rfl
    · exact h.checks path entry hmem

/-- A turn of a load keeps the owners of the numbers that were given out. -/
lemma Owned.record (h : traffic.Owned owner) {workspace : Workspace} {path : String}
    {stamp : Option Int} {outcome : Atlas.LoadStep × Atlas σ}
    (hturned : Turned workspace path stamp traffic.atlas.cache outcome) :
    (traffic.record path stamp outcome).Inv := by
  cases hturned with
  | waits hcache hwaits => exact ⟨owner, (h.of_cache hcache).wait (hcache ▸ hwaits)⟩
  | fails hcache => exact ⟨owner, h.of_cache hcache⟩
  | reuses hcache hentry => exact ⟨owner, (h.of_cache hcache).handOut (hcache ▸ hentry)⟩
  | @builds text after _ hcache =>
      have hfinished := h.finish ⟨path, text, stamp⟩ hcache
      have hentry : after.cache.get? path
          = some ⟨⟨traffic.atlas.cache.issued, .ofText path text⟩, stamp⟩ := by
        rw [hcache, Cache.get?_store, if_pos rfl]
      exact ⟨_, hfinished.handOut hentry⟩

/-- An index with the outline of another is as good as that one. -/
lemma Fits.derived {base : Handle} (h : traffic.Fits base) {version : Version}
    (houtline : version.index.outline = base.version.index.outline) :
    traffic.Fits (Memo.handle ⟨base, version⟩) where
  nodup := by
    rw [Memo.handle, FileIndex.names_eq_outline, houtline, ← FileIndex.names_eq_outline]
    exact h.nodup
  generation_le := h.generation_le
  outline_eq hcurrent build hlatest := houtline.trans (h.outline_eq hcurrent build hlatest)

/-- A derived index belongs to the build of its base, under a number of its own or under the old one. -/
lemma Owned.derive (h : traffic.Owned owner) (lexer : LineLexer σ) {base : Handle}
    (hbase : Owns traffic.atlas.cache.issued owner base) (names : List String)
    (text? : Option (List Char)) : (traffic.derive lexer base names text?).Inv := by
  have hfits : traffic.Fits base := hbase.2 ▸ h.fits _ hbase.1
  rw [Traffic.derive]
  cases houtcome : base.version.index.resolve lexer names text? traffic.atlas.memory with
  | mk outcome memory =>
      cases outcome with
      | error fault => exact ⟨owner, h.of_cache rfl⟩
      | ok result =>
          obtain ⟨index, spans⟩ := result
          have houtline : index.outline = base.version.index.outline :=
            FileIndex.resolve_outline hfits.nodup (congrArg Prod.fst houtcome)
          simp only
          split_ifs
          · refine ⟨owner, fun serial hserial => (h.fits serial hserial).of_builds rfl, h.handles, ?_,
              h.entries, h.stamps, h.checks⟩
            intro memo hmem
            rcases List.mem_cons.mp hmem with rfl | hmem
            · exact ⟨hbase, hbase⟩
            · exact h.memos memo hmem
          · set next := Memo.handle ⟨base, ⟨traffic.atlas.cache.issued, index⟩⟩ with hnext
            refine ⟨Function.update owner traffic.atlas.cache.issued next, ?_,
              fun handle hmem => (h.handles handle hmem).grow next, ?_,
              fun path entry hentry => (h.entries path entry hentry).grow next, h.stamps, h.checks⟩
            · exact fits_update (fun serial hserial => (h.fits serial hserial).of_builds rfl)
                ((hfits.derived houtline).of_builds rfl)
            · intro memo hmem
              rcases List.mem_cons.mp hmem with rfl | hmem
              · exact ⟨hbase.grow next, .next rfl⟩
              · exact ⟨(h.memos memo hmem).1.grow next, (h.memos memo hmem).2.grow next⟩

/-- What is cached under the number of an index that was handed out is that index, of the latest build. -/
lemma Owned.base_eq (h : traffic.Owned owner) {base : Handle}
    (hbase : Owns traffic.atlas.cache.issued owner base) {path : String} {entry : Cached}
    (hentry : traffic.atlas.cache.get? path = some entry)
    (hserial : entry.version.serial = base.version.serial) :
    base = ⟨path, entry.version, traffic.generation path⟩ := by
  rw [← hbase.2, ← hserial]
  exact (h.entries path entry hentry).2

/-- Putting an index back keeps the owners: it has the generation of the one that it replaces. -/
lemma Owned.putBack (h : traffic.Owned owner) {memo : Memo} (hmem : memo ∈ traffic.memos) :
    (traffic.putBack memo).Owned owner := by
  obtain ⟨hbase, hhandle⟩ := h.memos memo hmem
  rcases traffic.atlas.cache.swap_cases memo.base.path memo.base.version.serial memo.version with
    hsame | ⟨entry, hentry, hserial, hissued, hget⟩
  · exact h.of_cache (congrArg Prod.snd hsame)
  · have hgeneration := congrArg Handle.generation (h.base_eq hbase hentry hserial)
    constructor
    case fits =>
      intro serial hserial
      rw [Traffic.putBack, hissued] at hserial
      exact (h.fits serial hserial).of_builds rfl
    case handles =>
      rw [Traffic.putBack, hissued]
      exact h.handles
    case memos =>
      rw [Traffic.putBack, hissued]
      exact h.memos
    case entries =>
      intro path now hnow
      rw [Traffic.putBack, hget] at hnow
      rw [Traffic.putBack, hissued]
      split_ifs at hnow with hpath
      · rw [← Option.some.inj hnow, hpath]
        rw [Memo.handle, hgeneration] at hhandle
        exact hhandle
      · exact h.entries path now hnow
    case stamps =>
      intro path
      rw [Traffic.putBack, hget]
      split_ifs with hpath
      · rw [hpath, Option.map_some]
        have hstamps := h.stamps memo.base.path
        rwa [hentry, Option.map_some] at hstamps
      · exact h.stamps path
    case checks =>
      intro path other hother
      rw [Traffic.putBack, hget]
      split_ifs
      · rfl
      · exact h.checks path other hother

/-- **Every request keeps the owners.** -/
lemma Inv.take (h : traffic.Inv) (lexer : LineLexer σ) (workspace : Workspace) (request : Request) :
    (traffic.take lexer workspace request).Inv := by
  obtain ⟨owner, h⟩ := h
  cases request with
  | load path => exact h.record (startLoad_turned workspace path traffic.atlas)
  | rebuild path => exact h.record (askStamp_turned workspace path traffic.atlas)
  | resume number =>
      rw [Traffic.take]
      cases hwaiting : traffic.waiting[number]? with
      | none => exact ⟨owner, h⟩
      | some load =>
          obtain ⟨path, stage⟩ := load
          have hothers : Owned { traffic with waiting := traffic.waiting.eraseIdx number } owner :=
            { h with
              fits := fun serial hserial => (h.fits serial hserial).of_builds rfl
              checks := fun path entry hmem => h.checks path entry (List.mem_of_mem_eraseIdx hmem) }
          refine hothers.record (resumeLoad_turned workspace path traffic.atlas stage ?_)
          rintro entry rfl
          exact h.checks path entry (List.mem_of_getElem? hwaiting)
  | resolve number names text? =>
      rw [Traffic.take]
      cases hbase : traffic.handles[number]? with
      | none => exact ⟨owner, h⟩
      | some base =>
          exact h.derive lexer (h.handles base (List.mem_of_getElem? hbase)) names text?
  | swap number =>
      rw [Traffic.take]
      cases hmemo : traffic.memos[number]? with
      | none => exact ⟨owner, h⟩
      | some memo => exact ⟨owner, h.putBack (List.mem_of_getElem? hmemo)⟩
  | flag flags => exact ⟨owner, h.of_cache rfl⟩

lemma Inv.run (h : traffic.Inv) (lexer : LineLexer σ) (requests : List (Workspace × Request)) :
    (traffic.run lexer requests).Inv := by
  induction requests generalizing traffic with
  | nil => exact h
  | cons request requests ih => exact ih (h.take lexer request.1 request.2)

/-! ## The latest build -/

/-- The cache shows the outline of the latest build of a path, with its stamp. -/
lemma Owned.shows_latest (h : traffic.Owned owner) (path : String) :
    (traffic.atlas.cache.get? path).map (fun entry => (entry.version.index.outline, entry.stamp))
      = (traffic.latest? path).map fun build => (build.index.outline, build.stamp) := by
  have hstamps := h.stamps path
  cases hentry : traffic.atlas.cache.get? path with
  | none =>
      rw [hentry, Option.map_none] at hstamps
      rw [Option.map_eq_none_iff.mp hstamps.symm]
      rfl
  | some entry =>
      rw [hentry, Option.map_some] at hstamps
      obtain ⟨build, hlatest, hstamp⟩ := Option.map_eq_some_iff.mp hstamps.symm
      obtain ⟨hissued, howner⟩ := h.entries path entry hentry
      have hfits := h.fits _ hissued
      rw [howner] at hfits
      rw [hlatest, Option.map_some, Option.map_some, hfits.outline_eq rfl build hlatest, hstamp]

/-- An index of an older build is no longer expected by the cache. -/
lemma Owned.swap_superseded (h : traffic.Owned owner) {handle : Handle}
    (hmem : handle ∈ traffic.handles) (hold : handle.generation < traffic.generation handle.path)
    (replacement : Version) :
    traffic.atlas.cache.swap handle.path handle.version.serial replacement
      = (false, traffic.atlas.cache) := by
  rcases traffic.atlas.cache.swap_cases handle.path handle.version.serial replacement with
    hsame | ⟨entry, hentry, hserial, -⟩
  · exact hsame
  · have hgeneration := congrArg Handle.generation (h.base_eq (h.handles handle hmem) hentry hserial)
    exact absurd hgeneration (Nat.ne_of_lt hold)

end Owned

/-- **Memoising ranges never brings an old index back.**  Whatever queries do, and in whatever order, the cached
index of a path has the names, the starts and the stamp of the latest build, and an index that was handed out
before that build cannot be replaced by anything. -/
theorem run_shows_latest (lexer : LineLexer σ) (memory : σ)
    (requests : List (Workspace × Request)) :
    (∀ path, (((start memory).run lexer requests).atlas.cache.get? path).map
          (fun entry => (entry.version.index.outline, entry.stamp))
        = (((start memory).run lexer requests).latest? path).map
            fun build => (build.index.outline, build.stamp)) ∧
      ∀ handle ∈ ((start memory).run lexer requests).handles,
        handle.generation < ((start memory).run lexer requests).generation handle.path →
          ∀ replacement,
            ((start memory).run lexer requests).atlas.cache.swap handle.path handle.version.serial
                replacement
              = (false, ((start memory).run lexer requests).atlas.cache) := by
  obtain ⟨owner, h⟩ := (Inv.start memory).run lexer requests
  exact ⟨h.shows_latest, fun handle hmem hold => h.swap_superseded hmem hold⟩

/-- A file with one template that nobody edits. -/
def oneTemplate : Workspace where
  text _ := .ok "\x7bnamespace ns\x7d\n\x7btemplate .a\x7d\n\x7b/template\x7d".toList
  diskTime _ := .ok (some 5)
  modified _ := .ok 5
  isDirty _ := false

/-- The file is indexed, ranges are looked for, and meanwhile it is indexed once more. -/
def rebuiltMeanwhile : Traffic Unit :=
  (start ()).run (.uniform .text)
    [(oneTemplate, .load "a.soy"), (oneTemplate, .rebuild "a.soy"),
      (oneTemplate, .resolve 1 ["ns.a"] (oneTemplate.text "a.soy").toOption)]

/-- The index that is cached equals the one that the ranges were looked for in, and yet it is not replaced. -/
theorem run_shows_latest_rebuilt :
    ∃ memo ∈ rebuiltMeanwhile.memos,
      (rebuiltMeanwhile.atlas.cache.get? "a.soy").map (·.version.index)
          = some memo.base.version.index ∧
        rebuiltMeanwhile.atlas.cache.swap memo.base.path memo.base.version.serial memo.version
          = (false, rebuiltMeanwhile.atlas.cache) := by
  have hsuperseded : ∃ memo ∈ rebuiltMeanwhile.memos,
      (rebuiltMeanwhile.atlas.cache.get? "a.soy").map (·.version.index)
          = some memo.base.version.index ∧
        memo.base ∈ rebuiltMeanwhile.handles ∧
        memo.base.generation < rebuiltMeanwhile.generation memo.base.path := by
    decide +kernel
  obtain ⟨memo, hmem, hequal, hbase, hold⟩ := hsuperseded
  exact ⟨memo, hmem, hequal,
    (run_shows_latest (.uniform .text) () _).2 memo.base hbase hold memo.version⟩

end Traffic

end TemplateAtlas
