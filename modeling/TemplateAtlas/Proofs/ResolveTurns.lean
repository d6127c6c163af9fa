import Mathlib.Tactic.Common
import TemplateAtlas.Proofs.LoadTurns

/-!
# The turns of a resolve

What can come of a turn of a resolve is said here once, as it is for loads.

* `Search.Lacks` — a resolve needs the text of its file.
* `Search.Finds` — a resolve has all the text that it works with: it fails, or the ranges are known already, or the
  completed index is put back.
* `Search.Gets` — the text of the file has arrived: it is refused, or the ranges are looked for in it.
* `Search.ResolveTurn` — any turn, by the step before it: `resolving_turns`.
-/

namespace TemplateAtlas

variable {σ : Type}

namespace Search

/-- The index lacks selected ranges, and the text of its file is not at hand. -/
def Lacks (selected : Selected) : Prop :=
  selected.item.text? = none ∧ selected.item.version.index.isResolved selected.names = false

section Relations

variable (lexer : LineLexer σ) (workspace : Workspace) (selected : Selected)

/-- What comes of looking for the selected ranges in a text. -/
inductive Finds (text? : Option (List Char)) (memory : σ) (flags : Flags) (cache : Cache) :
    Except Mishap (List Location) × Atlas σ → Prop
  | fails {fault : ResolveFault} {after : Atlas σ}
      (hresolve : (selected.item.version.index.resolve lexer selected.names text? memory).1 = .error fault)
      (hafter : after.Has flags cache) :
      Finds text? memory flags cache (.error (.fatal (.resolve fault)), after)
  | known {spans : List Span} {after : Atlas σ}
      (hresolved : selected.item.version.index.isResolved selected.names = true)
      (hresolve : (selected.item.version.index.resolve lexer selected.names text? memory).1
        = .ok (selected.item.version.index, spans))
      (hafter : after.Has flags cache) :
      Finds text? memory flags cache (.ok (spans.map (locate selected.item.path)), after)
  | completes {index : FileIndex} {spans : List Span} {after : Atlas σ}
      (hopen : selected.item.version.index.isResolved selected.names = false)
      (hresolve : (selected.item.version.index.resolve lexer selected.names text? memory).1
        = .ok (index, spans))
      (hafter : after.Has flags ((cache.issue index).2.swap selected.item.path
        selected.item.version.serial ⟨cache.issued, index⟩).2) :
      Finds text? memory flags cache (.ok (spans.map (locate selected.item.path)), after)

/-- What comes of a text that has arrived. -/
inductive Gets (memory : σ) (flags : Flags) (cache : Cache) :
    Except Mishap (List Location) × Atlas σ → Prop
  | refused {cause : SourceFault} {after : Atlas σ}
      (htext : workspace.text selected.item.path = .error cause) (hafter : after.Has flags cache) :
      Gets memory flags cache (.error (LoadFault.mk selected.item.path .read cause).mishap, after)
  | finds {text : List Char} {result : Except Mishap (List Location) × Atlas σ}
      (htext : workspace.text selected.item.path = .ok text)
      (h : Finds lexer selected (some text) memory flags cache result) : Gets memory flags cache result

/-- The text is asked for now, or has been asked for. -/
inductive Asked : Option (Step Unit (Except Mishap (List Location))) → Prop
  | now (hlacks : Lacks selected) : Asked none
  | before {rounds : Nat} {held : Unit} : Asked (some (.wait rounds held))

/-- What comes of a turn of a resolve, by the step before it. -/
inductive ResolveTurn (atlas : Atlas σ) :
    Option (Step Unit (Except Mishap (List Location))) →
      Step Unit (Except Mishap (List Location)) × Atlas σ → Prop
  | finds {outcome : Except Mishap (List Location)} {after : Atlas σ} (hlacks : ¬ Lacks selected)
      (h : Finds lexer selected selected.item.text? atlas.memory atlas.flags atlas.cache (outcome, after)) :
      ResolveTurn atlas none (.done outcome, after)
  | asks {after : Atlas σ} (hlacks : Lacks selected)
      (hrounds : workspace.textRounds selected.item.path ≠ 0) (hafter : after.Has atlas.flags atlas.cache) :
      ResolveTurn atlas none (.wait (workspace.textRounds selected.item.path) (), after)
  | gets {last? : Option (Step Unit (Except Mishap (List Location)))}
      {outcome : Except Mishap (List Location)} {after : Atlas σ} (hasked : Asked selected last?)
      (h : Gets lexer workspace selected atlas.memory atlas.flags atlas.cache (outcome, after)) :
      ResolveTurn atlas last? (.done outcome, after)
  | rests {outcome : Except Mishap (List Location)} :
      ResolveTurn atlas (some (.done outcome)) (.done outcome, atlas)

end Relations

section Turns

variable (lexer : LineLexer σ) (workspace : Workspace) (selected : Selected) (atlas : Atlas σ)

lemma resolveWith_finds (text? : Option (List Char)) :
    Finds lexer selected text? atlas.memory atlas.flags atlas.cache
      (resolveWith lexer selected text? atlas) := by
  rw [resolveWith]
  cases hresolve : selected.item.version.index.resolve lexer selected.names text? atlas.memory with
  | mk outcome memory =>
      have hfirst := congrArg Prod.fst hresolve
      cases outcome with
      | error fault => exact .fails hfirst ⟨rfl, rfl⟩
      | ok found =>
          obtain ⟨index, spans⟩ := found
          simp only
          split_ifs with hresolved
          · refine .known hresolved ?_ ⟨rfl, rfl⟩
            -- an index that lacks nothing is given back as it is
            rw [FileIndex.resolve.eq_def, if_pos hresolved] at hfirst ⊢
            rw [hfirst, (Prod.mk.inj (Except.ok.inj hfirst)).1]
          · exact .completes (Bool.eq_false_iff.mpr hresolved) hfirst ⟨rfl, rfl⟩

lemma resolveRead_gets :
    Gets lexer workspace selected atlas.memory atlas.flags atlas.cache
      (resolveRead lexer workspace selected atlas) := by
  rw [resolveRead]
  cases htext : workspace.text selected.item.path with
  | ok text =>
      exact .finds htext
        (resolveWith_finds lexer selected (atlas.note (.readEnded selected.item.path)) (some text))
  | error cause => exact .refused htext ⟨noteMishap_flags _ _, noteMishap_cache _ _⟩

variable {selected} in
/-- The text that arrives is needed, if that is known of the resolves that wait. -/
lemma Asked.lacks {last? : Option (Step Unit (Except Mishap (List Location)))} (h : Asked selected last?)
    (hwaits : ∀ rounds held, last? = some (.wait rounds held) → Lacks selected) : Lacks selected := by
  cases h with
  | now hlacks => exact hlacks
  | before => exact hwaits _ _ rfl

/-- **The turns of a resolve.** -/
theorem resolving_turns (last? : Option (Step Unit (Except Mishap (List Location)))) :
    ResolveTurn lexer workspace selected atlas last?
      ((resolving lexer workspace).step selected last? atlas) := by
  match last? with
  | none =>
      have hlacks : Lacks selected ↔
          (selected.item.text?.isNone && !selected.item.version.index.isResolved selected.names) = true := by
        rw [Lacks, Bool.and_eq_true, Option.isNone_iff_eq_none, Bool.not_eq_true']
      simp only [Procedure.step, resolving, startResolve]
      split_ifs with hread
      · split
        · exact .gets (.now (hlacks.mpr hread))
            (resolveRead_gets lexer workspace selected (atlas.note (.readStarted selected.item.path)))
        · rename_i hrounds
          exact .asks (hlacks.mpr hread) hrounds ⟨rfl, rfl⟩
      · exact .finds (mt hlacks.mp hread) (resolveWith_finds lexer selected atlas selected.item.text?)
  | some (.wait _ _) => exact .gets .before (resolveRead_gets lexer workspace selected atlas)
  | some (.done _) => exact .rests

end Turns

end Search

end TemplateAtlas
