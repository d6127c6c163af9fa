import Mathlib.Tactic.Common
import TemplateAtlas.Block

/-!
# The lines of a text

Texts are searched, logged and counted line by line.  Here is what the lines of a text are, when the text is given by
its parts.

**Parts.**  The lines of a text are its first line and those behind it (`terminatedLines_cons`).  If a text goes on
after a line feed, they are the pieces in front of the line feed and the lines behind it (`terminatedLines_append`).

**Lines that are searched on the way.**  The search for the end of a block cuts a text into lines only as far as it has
to.  It finds what is found among all its lines: `Block.searchText_eq`, `Block.endFrom_eq`.
-/

namespace TemplateAtlas

namespace Text

/-- The lines of a text are its first line and the lines after its line feed. -/
lemma terminatedLines_cons (c : Char) (text : List Char) :
    terminatedLines (c :: text) = (c :: text).takeWhile (· ≠ '\n')
      :: terminatedLines ((c :: text).dropWhile (· ≠ '\n')).tail := by
  induction text generalizing c with
  | nil => by_cases hc : c = '\n' <;> simp [terminatedLines, hc]
  | cons d text ih =>
      rw [terminatedLines]
      by_cases hc : c = '\n'
      · simp [hc]
      · rw [if_neg hc, ih d]
        simp [hc]

lemma splitLines_cons (c : Char) (text : List Char) :
    ∃ line lines, splitLines text = line :: lines ∧
      splitLines (c :: text)
        = if c = '\n' then [] :: line :: lines else (c :: line) :: lines := by
  cases htext : splitLines text with
  | nil =>
      cases text with
      | nil => simp [splitLines, splitAtChar] at htext
      | cons d text =>
          simp only [splitLines, splitAtChar] at htext
          split_ifs at htext
          split at htext <;> simp at htext
  | cons line lines =>
      refine ⟨line, lines, rfl, ?_⟩
      rw [splitLines] at htext
      simp only [splitLines, splitAtChar, htext]

/-- The lines of a text that goes on after a line feed. -/
lemma terminatedLines_append (front behind : List Char) :
    terminatedLines (front ++ '\n' :: behind) = splitLines front ++ terminatedLines behind := by
  induction front with
  | nil => simp [terminatedLines, splitLines, splitAtChar]
  | cons c front ih =>
      obtain ⟨line, lines, hfront, hcons⟩ := splitLines_cons c front
      rw [List.cons_append, terminatedLines, ih, hfront, hcons]
      split_ifs <;> rfl

lemma splitLines_eq_singleton {line : List Char} (h : '\n' ∉ line) : splitLines line = [line] := by
  induction line with
  | nil => rfl
  | cons c line ih =>
      rw [List.mem_cons, not_or] at h
      obtain ⟨first, lines, hline, hcons⟩ := splitLines_cons c line
      rw [ih h.2, List.cons.injEq] at hline
      rw [hcons, if_neg (Ne.symm h.1), ← hline.1, ← hline.2]

/-- The pieces with a line feed after each of them are the text with a line feed after it. -/
lemma flatMap_splitLines (text : List Char) :
    (splitLines text).flatMap (· ++ ['\n']) = text ++ ['\n'] := by
  induction text with
  | nil => rfl
  | cons c text ih =>
      obtain ⟨line, lines, htext, hcons⟩ := splitLines_cons c text
      rw [htext, List.flatMap_cons] at ih
      rw [hcons, List.cons_append, ← ih]
      split_ifs with hc
      · rw [hc]
        rfl
      · rfl

lemma length_splitLines (text : List Char) : (splitLines text).length = text.count '\n' + 1 := by
  induction text with
  | nil => rfl
  | cons c text ih =>
      obtain ⟨line, lines, htext, hcons⟩ := splitLines_cons c text
      rw [htext, List.length_cons] at ih
      rw [hcons]
      split_ifs with hc
      · rw [hc, List.count_cons_self, List.length_cons, List.length_cons, ih]
      · rw [List.count_cons_of_ne hc, List.length_cons, ih]

/-- A text without line feeds is one line, if it is not empty. -/
lemma terminatedLines_of_not_mem {text : List Char} (h : '\n' ∉ text) :
    terminatedLines text = if text = [] then [] else [text] := by
  induction text with
  | nil => rfl
  | cons c text ih =>
      rw [List.mem_cons, not_or] at h
      rw [terminatedLines, if_neg (Ne.symm h.1), ih h.2, if_neg (List.cons_ne_nil c text)]
      split_ifs with hnil
      · rw [hnil]
      · rfl

/-- A line, and what is behind its line feed. -/
lemma terminatedLines_line {line : List Char} (h : '\n' ∉ line) (rest : List Char) :
    terminatedLines (line ++ '\n' :: rest) = line :: terminatedLines rest := by
  rw [terminatedLines_append, splitLines_eq_singleton h, List.singleton_append]

end Text

namespace Block

open Text

variable {σ : Type} (lexer : LineLexer σ) (close : List Char)

/-- The first line is searched by itself. -/
lemma search_first (offset : Nat) (memory : σ) (line : List Char) (lines : List (List Char)) :
    search lexer close offset memory (line :: lines)
      = match search lexer close offset memory [line] with
        | (.ok none, memory) => search lexer close (offset + line.length + 1) memory lines
        | found => found := by
  simp only [search]
  cases Token.checkTiling line (lexer.line line memory).1 with
  | error fault => rfl
  | ok _ => cases closingToken? close (lexer.line line memory).1 <;> rfl

/-- **The lines need not be known beforehand.**  What was read of the first line and what is left of the text make up
the lines among which the keyword is found. -/
theorem searchText_eq (text : List Char) {read : List Char} (hread : '\n' ∉ read) (offset : Nat) (memory : σ) :
    searchText lexer close offset memory read text
      = search lexer close offset memory (terminatedLines (read.reverse ++ text)) := by
  induction text generalizing read offset memory with
  | nil =>
      rw [searchText, List.append_nil, terminatedLines_of_not_mem (by simpa using hread)]
      simp
  | cons c text ih =>
      rw [searchText]
      split_ifs with hc
      · rw [hc, terminatedLines_line (by simpa using hread),
          search_first lexer close offset memory read.reverse (terminatedLines text)]
        rcases search lexer close offset memory [read.reverse] with ⟨fault | (_ | stop), after⟩
        · rfl
        · simpa using ih List.not_mem_nil (offset + read.length + 1) after
        · rfl
      · have hmore : '\n' ∉ c :: read := List.not_mem_cons_of_ne_of_not_mem (Ne.symm hc) hread
        rw [ih hmore, List.reverse_cons, List.append_assoc, List.singleton_append]

/-- The end of a block is found among the lines behind its start. -/
theorem endFrom_eq (text : List Char) (start : Nat) (memory : σ) :
    endFrom lexer close text start memory =
      let (found, memory) := search lexer close start (lexer.restart memory) (terminatedLines (text.drop start))
      (found.map (·.getD text.length), memory) := by
  rw [endFrom, searchText_eq lexer close _ List.not_mem_nil]
  rfl

end Block

end TemplateAtlas
