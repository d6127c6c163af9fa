import Mathlib.Tactic.Common
import TemplateAtlas.Proofs.Reading

/-!
# Edits elsewhere in a text

The end of a template is looked for from its start on, line by line.  Nothing in front of the start is read, and
nothing behind the line in which the end is found.  So the text can be changed before and after without moving the end
against the start.

**Search.**  An end that is found in some lines is found in these lines and any others after them
(`Block.search_append_of_found`), and at whatever offset the lines start, it is as far from there
(`Block.search_shift`).

**Lines.**  The lines of a text are the first lines of every text that goes on after a line feed
(`Text.exists_splitLines`).  Without the line feed the last line could go on, and would be read differently.

Put together, this is `Soy.endFrom_surrounded`.
-/

namespace TemplateAtlas

namespace Block

variable {σ : Type} (lexer : LineLexer σ) (close : List Char)

/-- A search that found an end does not read on. -/
lemma search_append_of_found {stop : Nat} (more : List (List Char)) :
    ∀ (lines : List (List Char)) (offset : Nat) (memory : σ),
      (search lexer close offset memory lines).1 = .ok (some stop) →
        (search lexer close offset memory (lines ++ more)).1 = .ok (some stop)
  | [], offset, memory, h => by simp [search] at h
  | line :: lines, offset, memory, h => by
      rw [List.cons_append]
      simp only [search] at h ⊢
      cases htiling : Token.checkTiling line (lexer.line line memory).1 with
      | error fault => simp [htiling] at h
      | ok _ =>
          simp only [htiling] at h ⊢
          cases htoken : closingToken? close (lexer.line line memory).1 with
          | some token => simpa only [htoken] using h
          | none =>
              simp only [htoken] at h ⊢
              exact search_append_of_found more lines _ _ h

/-- Lines that start further on have their end further on. -/
lemma search_shift (distance : Nat) :
    ∀ (lines : List (List Char)) (offset : Nat) (memory : σ),
      (search lexer close (distance + offset) memory lines).1
        = (search lexer close offset memory lines).1.map (Option.map (distance + ·))
  | [], offset, memory => rfl
  | line :: lines, offset, memory => by
      simp only [search]
      cases htiling : Token.checkTiling line (lexer.line line memory).1 with
      | error fault => rfl
      | ok _ =>
          simp only
          cases htoken : closingToken? close (lexer.line line memory).1 with
          | some token => simp [Except.map, Nat.add_assoc]
          | none =>
              simp only
              rw [Nat.add_assoc, Nat.add_assoc, ← Nat.add_assoc offset]
              exact search_shift distance lines _ _

/-- An end in front of the end of the text was found. -/
lemma search_of_endFrom {text : List Char} {start stop : Nat} {memory : σ}
    (h : (endFrom? lexer close text start memory).1 = .ok stop) (hstop : stop < text.length) :
    (search lexer close start (lexer.restart memory) (Text.terminatedLines (text.drop start))).1
      = .ok (some stop) := by
  have hstart : ¬ (start : Int) < 0 := by omega
  simp only [endFrom?, endFrom_eq, hstart, if_false, Int.toNat_natCast] at h
  cases hsearch : (search lexer close start (lexer.restart memory)
      (Text.terminatedLines (text.drop start))).1 with
  | error fault => simp [hsearch, Except.map, Except.mapError] at h
  | ok found =>
      simp only [hsearch, Except.map, Except.mapError, Except.ok.injEq] at h
      cases found with
      | none => simp at h; omega
      | some found => simp at h; simp [h]

end Block

/-- The pieces of a text are its lines, and an empty one if the text is empty or ends in a line feed. -/
lemma Text.exists_splitLines : ∀ text : List Char,
    ∃ last, splitLines text = terminatedLines text ++ last
  | [] => ⟨[[]], rfl⟩
  | [c] => by
      by_cases hc : c = '\n'
      · exact ⟨[[]], by simp [splitLines, splitAtChar, terminatedLines, hc]⟩
      · exact ⟨[], by simp [splitLines, splitAtChar, terminatedLines, hc]⟩
  | c :: d :: text => by
      obtain ⟨last, hlast⟩ := Text.exists_splitLines (d :: text)
      obtain ⟨line, lines, htext, hcons⟩ := splitLines_cons c (d :: text)
      rw [hcons, terminatedLines]
      by_cases hc : c = '\n'
      · rw [if_pos hc, if_pos hc, ← htext, hlast]
        exact ⟨last, rfl⟩
      · rw [Text.terminatedLines_cons] at hlast ⊢
        rw [htext, List.cons_append, List.cons.injEq] at hlast
        rw [if_neg hc, if_neg hc, hlast.1, hlast.2]
        exact ⟨last, rfl⟩

namespace Soy

/-- **Edits elsewhere do not move an end.**  Let the end of a block be found in a text, in front of the end of the
text.  In every text that holds this one, with anything in front of it and anything behind it on lines of its own, it
is found in the same place. -/
theorem endFrom_surrounded {text close : List Char} {start stop : Nat} {memory : Stack}
    (hend : (Block.endFrom? lexer close text start memory).1 = .ok stop) (hstop : stop < text.length)
    (front back : List Char) (other : Stack) :
    (Block.endFrom? lexer close (front ++ text ++ '\n' :: back) (front.length + start : Nat) other).1
      = .ok (front.length + stop) := by
  have hfound := Block.search_of_endFrom lexer close hend hstop
  have hstart : start ≤ text.length := by
    -- nothing is found behind the end of a text
    by_contra hbeyond
    rw [List.drop_eq_nil_of_le (by omega)] at hfound
    simp [Text.terminatedLines, Block.search] at hfound
  have hdrop : (front ++ text ++ '\n' :: back).drop (front.length + start)
      = text.drop start ++ '\n' :: back := by
    rw [List.append_assoc, ← List.drop_drop, List.drop_left, List.drop_append_of_le_length hstart]
  obtain ⟨last, hlast⟩ := Text.exists_splitLines (text.drop start)
  have hlines : Text.terminatedLines (text.drop start ++ '\n' :: back)
      = Text.terminatedLines (text.drop start) ++ (last ++ Text.terminatedLines back) := by
    rw [Text.terminatedLines_append, hlast, List.append_assoc]
  have hsearch : (Block.search lexer close (front.length + start) (lexer.restart other)
      (Text.terminatedLines (text.drop start ++ '\n' :: back))).1
        = .ok (some (front.length + stop)) := by
    have hmore := Block.search_append_of_found lexer close (last ++ Text.terminatedLines back)
      _ start _ hfound
    rw [hlines, Block.search_shift]
    show (Block.search lexer close start (lexer.restart memory) _).1.map _ = _
    rw [hmore]
    rfl
  have hpositive : ¬ ((front.length + start : Nat) : Int) < 0 := by omega
  simp only [Block.endFrom?, Block.endFrom_eq, hpositive, if_false, Int.toNat_natCast, hdrop, hsearch]
  rfl

/-- The end of a template stays where it is against its start, whatever is written before it on its first line and on
the lines behind it. -/
theorem endFrom_surrounded_commented :
    let text := "\x7btemplate .a\x7d /* \x7b/template\x7d */\n\x7b/template\x7d".toList
    (Block.endFrom? lexer Block.closing text 0 []).1 = .ok 42 ∧ 42 < text.length ∧
      (Block.endFrom? lexer Block.closing ("/* ' ".toList ++ text ++ '\n' :: "/*".toList)
        (5 : Nat) []).1 = .ok 47 := by
  intro text
  have hscan : scanEnd text 0 = 42 := by decide +kernel
  have hend : (Block.endFrom? lexer Block.closing text (0 : Nat) []).1 = .ok 42 := by
    rw [blockEnd_eq_scanEnd, hscan]
  have hstop : 42 < text.length := by decide
  exact ⟨hend, hstop, endFrom_surrounded hend hstop "/* ' ".toList "/*".toList []⟩

-- Without the line feed the text behind may belong to the same line, and here it closes a string.
example : scanEnd "\x7bcall '\x7d\x7b/template\x7d".toList 0 = 18 ∧
    scanEnd "\x7bcall '\x7d\x7b/template\x7d'".toList 0 = 20 := by
  decide +kernel

end Soy

end TemplateAtlas
