import Mathlib.Tactic.Common
import TemplateAtlas.Proofs.Loading
import TemplateAtlas.Proofs.Ranges
import TemplateAtlas.Proofs.ResolveTurns

/-!
# Resolving among others

After the loads, the indexes that hold a selected name are resolved, and what was found is put back into the
cache.  What is said of that here depends on three things that are left open: which text an index of a path
may be taken from (`base`), which texts its ranges may come from (`known`), and what holds of cache entries
(`fine`).  They are tied together by `Upholds`: an entry stays fine when it gets an index that stems from
its base.

* `Ready` — what a resolve starts from: an index that stems from its base, and a known text if there is
  something to look for.
* `Answer` — what it ends with: one range in a known text for each selected marker of the base, or the
  refusal of the text.
* `resolving_keeps`, `resolving_patient` — every resolve does that, whatever the others do, and it ends.
* `resolving_touches` — whatever is known, a turn leaves flags and the entries of other paths alone.
-/

namespace TemplateAtlas

open Soy

namespace Search

section Resolving

variable (workspace : Workspace) (base : String → List Char → Prop)
  (known : String → List Char → List Char → Prop) (fine : String → Cached → Prop)

/-- An entry stays fine when it gets another index that stems from its base. -/
def Upholds : Prop :=
  ∀ path text entry index serial, base path text → index.Stems (known path text) text →
    fine path entry → fine path ⟨⟨serial, index⟩, entry.stamp⟩

/-- An index of a known origin, with a known text for what is to be looked for. -/
structure Ready (text : List Char) (selected : Selected) : Prop where
  base : base selected.item.path text
  stems : selected.item.version.index.Stems (known selected.item.path text) text
  atHand : ∀ read, selected.item.text? = some read → known selected.item.path text read
  again : selected.item.text? = none →
    selected.item.version.index.isResolved selected.names = false →
      ∀ read, workspace.text selected.item.path = .ok read → known selected.item.path text read

/-- What comes of a resolve. -/
inductive Answer (selected : Selected) : Except Mishap (List Location) → Prop
  /-- One range for each selected marker. -/
  | found {text : List Char} {spans : List Span} (h : Ready workspace base known text selected)
      (hspans : List.Forall₂ (Span.Stems (known selected.item.path text))
        (selected.names.flatMap (Marker.named text)) spans) :
      Answer selected (.ok (spans.map (locate selected.item.path)))
  /-- The text was needed and is refused. -/
  | refused {cause : SourceFault} (h : workspace.text selected.item.path = .error cause)
      (hmissing : selected.item.text? = none)
      (hopen : selected.item.version.index.isResolved selected.names = false) :
      Answer selected (.error (LoadFault.mk selected.item.path .read cause).mishap)

variable (before : Atlas Stack) (paths : List String)

/-- Flags are as they were, and so are the entries of other paths; those of the given paths are fine. -/
structure Tended (atlas : Atlas Stack) : Prop where
  flags : atlas.flags = before.flags
  others : ∀ path, path ∉ paths → atlas.cache.get? path = before.cache.get? path
  fine : ∀ path ∈ paths, ∀ entry, atlas.cache.get? path = some entry → fine path entry

variable {workspace base known fine before paths} {selected : Selected} {text : List Char}
  {atlas : Atlas Stack}

lemma Tended.of_eq {after : Atlas Stack} (h : Tended fine before paths atlas)
    (hflags : after.flags = atlas.flags) (hcache : after.cache = atlas.cache) :
    Tended fine before paths after :=
  ⟨hflags ▸ h.flags, hcache ▸ h.others, hcache ▸ h.fine⟩

lemma Tended.swap (h : Tended fine before paths atlas) (upholds : Upholds base known fine)
    {path : String} (hpath : path ∈ paths) (hbase : base path text) {index : FileIndex}
    (hstems : index.Stems (known path text) text) {expected : Nat} {after : Atlas Stack}
    (hafter : after.Has atlas.flags
      ((atlas.cache.issue index).2.swap path expected ⟨atlas.cache.issued, index⟩).2) :
    Tended fine before paths after := by
  have hissued : ∀ other, (atlas.cache.issue index).2.get? other = atlas.cache.get? other := fun _ => rfl
  refine ⟨hafter.flags.trans h.flags, ?_, ?_⟩
  · intro other hother
    have hne : other ≠ path := fun heq => hother (heq ▸ hpath)
    rw [hafter.cache, Cache.get?_swap_ne _ hne, hissued]
    exact h.others other hother
  · intro other hother entry hentry
    rw [hafter.cache] at hentry
    by_cases hne : other = path
    · subst hne
      rcases (atlas.cache.issue index).2.get?_swap other expected ⟨atlas.cache.issued, index⟩
        with hsame | ⟨old, hold, hnew⟩
      · rw [hsame] at hentry
        exact h.fine other hother entry hentry
      · rw [hnew, Option.some.injEq] at hentry
        rw [← hentry]
        exact upholds other text old index _ hbase hstems (h.fine other hother old hold)
    · rw [Cache.get?_swap_ne _ hne, hissued] at hentry
      exact h.fine other hother entry hentry

/-- With a known text, or with nothing to look for, a resolve finds all ranges. -/
lemma answer_of_finds (upholds : Upholds base known fine) (h : Tended fine before paths atlas)
    (hpath : selected.item.path ∈ paths) (hready : Ready workspace base known text selected)
    {text? : Option (List Char)}
    (htext : selected.item.version.index.isResolved selected.names = false →
      ∃ read, text? = some read ∧ known selected.item.path text read)
    {result : Except Mishap (List Location) × Atlas Stack}
    (hfinds : Finds lexer selected text? atlas.memory atlas.flags atlas.cache result) :
    Answer workspace base known selected result.1 ∧ Tended fine before paths result.2 := by
  obtain ⟨updated, spans, hfound, hstems, hspans⟩ :=
    FileIndex.resolve_stems hready.stems selected.names htext atlas.memory
  cases hfinds with
  | fails hresolve hafter =>
      rw [hfound] at hresolve
      cases hresolve
  | known hresolved hresolve hafter =>
      rw [hfound] at hresolve
      obtain ⟨-, rfl⟩ := Prod.mk.inj (Except.ok.inj hresolve)
      exact ⟨.found hready hspans, h.of_eq hafter.flags hafter.cache⟩
  | completes hopen hresolve hafter =>
      rw [hfound] at hresolve
      obtain ⟨rfl, rfl⟩ := Prod.mk.inj (Except.ok.inj hresolve)
      exact ⟨.found hready hspans, h.swap upholds hpath hready.base hstems hafter⟩

lemma answer_of_gets (upholds : Upholds base known fine) (h : Tended fine before paths atlas)
    (hpath : selected.item.path ∈ paths) (hready : Ready workspace base known text selected)
    (hlacks : Lacks selected) {result : Except Mishap (List Location) × Atlas Stack}
    (hgets : Gets lexer workspace selected atlas.memory atlas.flags atlas.cache result) :
    Answer workspace base known selected result.1 ∧ Tended fine before paths result.2 := by
  obtain ⟨hmissing, hopen⟩ := hlacks
  cases hgets with
  | refused hread hafter =>
      exact ⟨.refused hread hmissing hopen, h.of_eq hafter.flags hafter.cache⟩
  | @finds read _ hread hfinds =>
      exact answer_of_finds upholds h hpath hready
        (fun _ => ⟨read, rfl, hready.again hmissing hopen read hread⟩) hfinds

/-- What is known of a resolve among others. -/
structure Resolves (workspace : Workspace) (base : String → List Char → Prop)
    (known : String → List Char → List Char → Prop) (paths : List String) (selected : Selected)
    (last? : Option (Step Unit (Except Mishap (List Location)))) : Prop where
  path : selected.item.path ∈ paths
  ready : ∃ text, Ready workspace base known text selected
  waits : ∀ rounds held, last? = some (.wait rounds held) → selected.item.text? = none ∧
    selected.item.version.index.isResolved selected.names = false
  answers : ∀ outcome, last? = some (.done outcome) →
    Answer workspace base known selected outcome

lemma Resolves.done {last? : Option (Step Unit (Except Mishap (List Location)))}
    (h : Resolves workspace base known paths selected last?) {outcome : Except Mishap (List Location)}
    (hanswer : Answer workspace base known selected outcome) :
    Resolves workspace base known paths selected (some (.done outcome)) := by
  refine ⟨h.path, h.ready, ?_, ?_⟩
  · rintro rounds held ⟨⟩
  · rintro _ ⟨⟩
    exact hanswer

lemma resolving_turn (upholds : Upholds base known fine) (h : Tended fine before paths atlas)
    {last? : Option (Step Unit (Except Mishap (List Location)))}
    (hresolves : Resolves workspace base known paths selected last?) :
    Tended fine before paths ((resolving lexer workspace).step selected last? atlas).2 ∧
      Resolves workspace base known paths selected
        (some ((resolving lexer workspace).step selected last? atlas).1) := by
  obtain ⟨text, hready⟩ := hresolves.ready
  have hturn := resolving_turns lexer workspace selected atlas last?
  generalize (resolving lexer workspace).step selected last? atlas = result at hturn ⊢
  cases hturn with
  | finds hlacks hfinds =>
      have htext : selected.item.version.index.isResolved selected.names = false →
          ∃ read, selected.item.text? = some read ∧ known selected.item.path text read := by
        intro hopen
        cases hatHand : selected.item.text? with
        | none => exact absurd ⟨hatHand, hopen⟩ hlacks
        | some read => exact ⟨read, rfl, hready.atHand read hatHand⟩
      obtain ⟨hanswer, hafter⟩ := answer_of_finds upholds h hresolves.path hready htext hfinds
      exact ⟨hafter, hresolves.done hanswer⟩
  | asks hlacks _ hafter =>
      refine ⟨h.of_eq hafter.flags hafter.cache, hresolves.path, hresolves.ready, fun _ _ _ => hlacks, ?_⟩
      rintro _ ⟨⟩
  | gets hasked hgets =>
      obtain ⟨hanswer, hafter⟩ :=
        answer_of_gets upholds h hresolves.path hready (hasked.lacks hresolves.waits) hgets
      exact ⟨hafter, hresolves.done hanswer⟩
  | rests => exact ⟨h, hresolves⟩

/-- **Resolves answer from known texts, and leave fine entries behind.** -/
theorem resolving_keeps (upholds : Upholds base known fine) :
    (resolving lexer workspace).Keeps (Tended fine before paths)
      (fun _ => Resolves workspace base known paths) where
  step _ _ _ htended hresolves := resolving_turn upholds htended hresolves
  stable _ _ _ _ _ _ _ hother := hother

end Resolving

/-! ## What a turn can do -/

/-- What a turn of a resolve can do to the atlas: at most it changes the entry of its path. -/
structure Touches {σ : Type} (path : String) (atlas after : Atlas σ) : Prop where
  flags : after.flags = atlas.flags
  others : ∀ other, other ≠ path → after.cache.get? other = atlas.cache.get? other

section Touches

variable {σ : Type} {lexer : LineLexer σ} {workspace : Workspace} {selected : Selected} {atlas : Atlas σ}

lemma Touches.of_has {path : String} {after : Atlas σ} (hafter : after.Has atlas.flags atlas.cache) :
    Touches path atlas after :=
  ⟨hafter.flags, fun _ _ => by rw [hafter.cache]⟩

lemma touches_of_finds {text? : Option (List Char)} {result : Except Mishap (List Location) × Atlas σ}
    (h : Finds lexer selected text? atlas.memory atlas.flags atlas.cache result) :
    Touches selected.item.path atlas result.2 := by
  cases h with
  | fails _ hafter => exact .of_has hafter
  | known _ _ hafter => exact .of_has hafter
  | completes _ _ hafter =>
      refine ⟨hafter.flags, fun other hother => ?_⟩
      rw [hafter.cache]
      exact Cache.get?_swap_ne _ hother _ _

variable (lexer workspace selected)

lemma resolving_touches (last? : Option (Step Unit (Except Mishap (List Location))))
    (atlas : Atlas σ) :
    Touches selected.item.path atlas ((resolving lexer workspace).step selected last? atlas).2 := by
  have hturn := resolving_turns lexer workspace selected atlas last?
  generalize (resolving lexer workspace).step selected last? atlas = result at hturn ⊢
  cases hturn with
  | finds _ h => exact touches_of_finds h
  | asks _ _ hafter => exact .of_has hafter
  | gets _ h =>
      cases h with
      | refused _ hafter => exact .of_has hafter
      | finds _ h => exact touches_of_finds h
  | rests => exact ⟨rfl, fun _ _ => rfl⟩

end Touches

/-- **Resolves end**: a resolve waits for one text at most. -/
theorem resolving_patient {σ : Type} (lexer : LineLexer σ) (workspace : Workspace) :
    (resolving lexer workspace).Patient (fun _ => 0) where
  start selected atlas rounds held h := by
    have hturn : ResolveTurn lexer workspace selected atlas none
        ((resolving lexer workspace).start selected atlas) := resolving_turns _ _ _ _ none
    generalize (resolving lexer workspace).start selected atlas = result at h hturn
    cases hturn with
    | finds => cases h
    | gets => cases h
    | asks _ hrounds _ =>
        obtain ⟨rfl, -⟩ := Step.wait.inj h
        refine ⟨Nat.pos_of_ne_zero hrounds, ?_⟩
        simp only [resolving, Workspace.textRounds]
        split_ifs <;> omega
  resume selected old atlas rounds held h := by
    simp [resolving, Prod.map] at h

end Search

end TemplateAtlas
