import Mathlib.Tactic.Common
import TemplateAtlas.Proofs.Reading
import TemplateAtlas.Proofs.Tilings

/-!
# Ends that any lexer finds

A lexer may be supplied from outside, and nothing is known of it: what it makes of a line can be wrong, and can change
from call to call.  All that stands between it and the end of a block is the check of each line.  That is enough for the
end to be in the text, and to be where the lexer says that the block is closed.

**Lines.**  The lines that are read one after the other are lines of the text, from the start of the block on
(`Text.terminatedLines_eq_append`), so that an offset is a column and the length of the lines before it.

**Tokens.**  A search that ends without a fault has either read all lines without seeing a token that closes the block
(`not_closes_of_search`), or has stopped at the first one there is (`exists_of_search`).  The line of this token was
checked, so that the token stands where its columns say (`ClosingLine.line_eq`).

Put together, this is `endFrom_sound`.
-/

namespace TemplateAtlas

/-! ## Lines -/

/-- The lines of a text up to one of them, and what is behind that line. -/
lemma Text.terminatedLines_eq_append : ∀ {lines : List (List Char)} {text line : List Char}
    {more : List (List Char)}, Text.terminatedLines text = lines ++ line :: more →
      ∃ behind, text = lines.flatMap (· ++ ['\n']) ++ (line ++ behind) ∧ Soy.AfterLine behind ∧
        ∀ piece ∈ lines ++ [line], '\n' ∉ piece
  | lines, [], line, more, h => by simp [Text.terminatedLines] at h
  | [], c :: text, line, more, h => by
      rw [terminatedLines_cons, List.nil_append, List.cons.injEq] at h
      obtain ⟨rfl, -⟩ := h
      refine ⟨(c :: text).dropWhile (· ≠ '\n'), ?_, Soy.dropWhile_afterLine _, ?_⟩
      · exact List.takeWhile_append_dropWhile.symm
      · rw [List.nil_append, List.forall_mem_singleton]
        exact fun hm => by simpa using List.mem_takeWhile_imp hm
  | first :: lines, c :: text, line, more, h => by
      rw [terminatedLines_cons, List.cons_append, List.cons.injEq] at h
      obtain ⟨rfl, hlines⟩ := h
      obtain ⟨behind, htext, hbehind, hplain⟩ := Text.terminatedLines_eq_append hlines
      have hfirst : (c :: text).takeWhile (· ≠ '\n') ++ (c :: text).dropWhile (· ≠ '\n') = c :: text :=
        List.takeWhile_append_dropWhile
      refine ⟨behind, ?_, hbehind, ?_⟩
      · rcases Soy.dropWhile_afterLine (c :: text) with hnone | ⟨rest, hrest⟩
        · -- behind the last line there is no other
          rw [hnone] at hlines
          simp [Text.terminatedLines] at hlines
        · rw [hrest, List.tail_cons] at htext
          rw [hrest, htext] at hfirst
          simp only [List.flatMap_cons, List.append_assoc, List.singleton_append]
          exact hfirst.symm
      · rw [List.cons_append, List.forall_mem_cons]
        exact ⟨fun hm => by simpa using List.mem_takeWhile_imp hm, hplain⟩

namespace Block

variable {σ : Type} {lexer : LineLexer σ} {close : List Char}

/-! ## Tokens -/

/-- A line on which a block is closed: the tokens cover it, and one of them is the first that closes the block. -/
structure ClosingLine (lexer : LineLexer σ) (close line : List Char) (memory : σ)
    (front : List Token) (token : Token) : Prop where
  tiles : Token.Tiles 0 line (lexer.line line memory).1
  emitted : front ++ [token] <+: (lexer.line line memory).1
  closes : token.Closes close
  first : ∀ earlier ∈ front, ¬ earlier.Closes close

/-- The closing text stands on the line, between the columns of its token. -/
lemma ClosingLine.line_eq {line : List Char} {memory : σ} {front : List Token} {token : Token}
    (h : ClosingLine lexer close line memory front token) :
    ∃ rest, line = front.flatMap (·.text) ++ (close ++ rest) ∧
      token.start = (front.flatMap (·.text)).length ∧
      token.stop = (front.flatMap (·.text)).length + close.length := by
  obtain ⟨more, hmore⟩ := h.emitted
  rw [List.append_assoc, List.singleton_append] at hmore
  obtain ⟨hstart, hstop⟩ := h.tiles.columns front token more hmore.symm
  have hline := h.tiles.texts
  rw [← hmore, List.flatMap_append, List.flatMap_cons, h.closes.2] at hline
  rw [Int.natCast_zero, Int.zero_add] at hstart
  refine ⟨more.flatMap (·.text), hline.symm, hstart, ?_⟩
  rw [hstop, hstart, h.closes.2]

/-- The first token that closes a block, on a line that has passed the check. -/
lemma closingLine_of_token {line : List Char} {memory : σ} {token : Token}
    (htiling : Token.checkTiling line (lexer.line line memory).1 = .ok ())
    (htoken : closingToken? close (lexer.line line memory).1 = some token) :
    ∃ front, ClosingLine lexer close line memory front token := by
  rw [Token.checkTiling, Token.checkTilingFrom_eq_ok_iff (Nat.zero_add _)] at htiling
  rw [closingToken?, List.find?_eq_some_iff_append] at htoken
  obtain ⟨hcloses, front, more, hsplit, hfirst⟩ := htoken
  refine ⟨front, htiling, ?_, by simpa [Token.Closes] using hcloses, ?_⟩
  · rw [hsplit]
    exact ⟨more, by simp⟩
  · intro earlier hearlier
    rw [Token.Closes, not_and_or]
    simpa using hfirst earlier hearlier

/-- A step of a search that ends without a fault: either a token of the line closes the block, or the search goes on
behind the line. -/
lemma search_step {line : List Char} {lines : List (List Char)} {offset : Nat} {memory : σ}
    {found : Option Nat} (h : (search lexer close offset memory (line :: lines)).1 = .ok found) :
    (∃ front token, ClosingLine lexer close line memory front token ∧
        found = some (offset + token.stop.toNat)) ∨
      (∀ token ∈ (lexer.line line memory).1, ¬ token.Closes close) ∧
        (search lexer close (offset + line.length + 1) (lexer.line line memory).2 lines).1
          = .ok found := by
  rw [search] at h
  cases htiling : Token.checkTiling line (lexer.line line memory).1 with
  | error fault => simp [htiling] at h
  | ok _ =>
      cases htoken : closingToken? close (lexer.line line memory).1 with
      | some token =>
          obtain ⟨front, hline⟩ := closingLine_of_token htiling htoken
          simp only [htiling, htoken, Except.ok.injEq] at h
          exact Or.inl ⟨front, token, hline, h.symm⟩
      | none =>
          simp only [htiling, htoken] at h
          rw [closingToken?, List.find?_eq_none] at htoken
          exact Or.inr ⟨fun token hmem => by simpa [Token.Closes] using htoken token hmem, h⟩

/-- A search that has come to the end of the lines has seen no token that closes the block. -/
lemma not_closes_of_search : ∀ {lines : List (List Char)} {offset : Nat} {memory : σ},
    (search lexer close offset memory lines).1 = .ok none →
      ∀ token ∈ lexer.tokens lines memory, ¬ token.Closes close
  | [], offset, memory, _ => by simp [LineLexer.tokens]
  | line :: lines, offset, memory, h => by
      rw [LineLexer.tokens, List.forall_mem_append]
      rcases search_step h with ⟨_, _, _, hsome⟩ | ⟨hline, hlines⟩
      · cases hsome
      · exact ⟨hline, not_closes_of_search hlines⟩

/-- A search that has found an end has stopped at the first token that closes the block. -/
lemma exists_of_search {stop : Nat} : ∀ {lines : List (List Char)} {offset : Nat} {memory : σ},
    (search lexer close offset memory lines).1 = .ok (some stop) →
      ∃ read line more front token, lines = read ++ line :: more ∧
        ClosingLine lexer close line (lexer.readLines read memory) front token ∧
        (∀ earlier ∈ lexer.tokens read memory, ¬ earlier.Closes close) ∧
        stop = offset + (read.flatMap (· ++ ['\n'])).length + token.stop.toNat
  | [], offset, memory, h => by simp [search] at h
  | line :: lines, offset, memory, h => by
      rcases search_step h with ⟨front, token, hline, hstop⟩ | ⟨hline, hlines⟩
      · exact ⟨[], line, lines, front, token, rfl, hline, by simp [LineLexer.tokens],
          Option.some.inj hstop⟩
      · obtain ⟨read, last, more, front, token, rfl, hlast, hread, rfl⟩ := exists_of_search hlines
        refine ⟨line :: read, last, more, front, token, rfl, hlast, ?_, ?_⟩
        · rw [LineLexer.tokens, List.forall_mem_append]
          exact ⟨hline, hread⟩
        · rw [List.flatMap_cons, List.length_append, List.length_append, List.length_singleton]
          omega

/-! ## Ends -/

/-- How a block ends: the lines read in full, the line that it ends on and what is behind that line, and of the tokens
of that line the one that closes the block, with those before it. -/
structure Ending where
  lines : List (List Char)
  line : List Char
  behind : List Char
  front : List Token
  token : Token

namespace Ending

/-- The offset at which the last line of the block starts. -/
def offset (ending : Ending) (start : Nat) : Nat :=
  start + (ending.lines.flatMap (· ++ ['\n'])).length

/-- The ending is that of the block at an offset of a text, as a lexer reads it from some memory on. -/
structure Of (lexer : LineLexer σ) (close text : List Char) (start : Nat) (memory : σ)
    (ending : Ending) : Prop where
  text_eq : text.drop start
    = ending.lines.flatMap (· ++ ['\n']) ++ (ending.line ++ ending.behind)
  behind : ending.behind = [] ∨ ∃ more, ending.behind = '\n' :: more
  lines : ∀ line ∈ ending.lines ++ [ending.line], '\n' ∉ line
  emitted : ending.front ++ [ending.token]
    <+: (lexer.line ending.line (lexer.readLines ending.lines (lexer.restart memory))).1
  closes : ending.token.kind = .keyword ∧ ending.token.text = close
  first : ∀ earlier ∈ lexer.tokens ending.lines (lexer.restart memory) ++ ending.front,
    ¬ (earlier.kind = .keyword ∧ earlier.text = close)

/-- The closing text of the block stands in the text between two offsets, which are those of the token on its line. -/
structure Spans (close text : List Char) (start first stop : Nat) (ending : Ending) : Prop where
  text_eq : (text.drop first).take close.length = close
  stop_eq : stop = first + close.length
  start_le : start ≤ first
  line_start_le : ending.offset start ≤ first
  le_line_stop : stop ≤ ending.offset start + ending.line.length
  token_start : ending.token.start = first - ending.offset start
  token_stop : ending.token.stop = stop - ending.offset start

end Ending

/-- An end that was found is in the text, with the closing text in front of it. -/
lemma exists_ending {text : List Char} {start stop : Nat} {memory : σ}
    (h : (search lexer close start (lexer.restart memory)
      (Text.terminatedLines (text.drop start))).1 = .ok (some stop)) :
    stop ≤ text.length ∧ ∃ (ending : Ending) (first : Nat),
      ending.Of lexer close text start memory ∧ ending.Spans close text start first stop := by
  obtain ⟨lines, line, more, front, token, hlines, hline, hread, hfound⟩ := exists_of_search h
  obtain ⟨behind, htext, hbehind, hplain⟩ := Text.terminatedLines_eq_append hlines
  obtain ⟨rest, hrest, hcolumn, hcolumns⟩ := hline.line_eq
  have hstart : start ≤ text.length := by
    -- there are no lines behind the end of a text
    by_contra hbeyond
    rw [List.drop_eq_nil_of_le (by omega)] at hlines
    simp [Text.terminatedLines] at hlines
  set before := lines.flatMap (· ++ ['\n'])
  set texts := front.flatMap (·.text)
  have hstop : stop = start + before.length + texts.length + close.length := by omega
  have hparts : text.drop start = before ++ (texts ++ (close ++ (rest ++ behind))) := by
    rw [htext, hrest, List.append_assoc, List.append_assoc]
  have hdrop : text.drop (start + before.length + texts.length) = close ++ (rest ++ behind) := by
    rw [← List.drop_drop, ← List.drop_drop, hparts, List.drop_left, List.drop_left]
  have hlength : text.length - start
      = before.length + (texts.length + (close.length + (rest.length + behind.length))) := by
    rw [← List.length_drop, hparts]
    simp only [List.length_append]
  have hline_length : line.length = texts.length + (close.length + rest.length) := by
    rw [hrest]
    simp only [List.length_append]
  refine ⟨by omega, ⟨lines, line, behind, front, token⟩, start + before.length + texts.length, ?_, ?_⟩
  · refine ⟨htext, hbehind, hplain, hline.emitted, hline.closes, ?_⟩
    rw [List.forall_mem_append]
    exact ⟨hread, hline.first⟩
  · refine ⟨?_, hstop, by omega, ?_, ?_, ?_, ?_⟩
    · rw [hdrop, List.take_left]
    · show start + before.length ≤ start + before.length + texts.length
      omega
    · show stop ≤ start + before.length + line.length
      omega
    · show token.start = (start + before.length + texts.length : Nat) - (start + before.length : Nat)
      omega
    · show token.stop = stop - (start + before.length : Nat)
      omega

/-- **The end that any lexer gives is sound.**  Let an end of a block be found, whatever the text, the start, the
closing text and the lexer are.  It lies in the text, and not in front of the start.  Either it is the end of the text,
and no token that the lexer makes of the text closes the block.  Or it is right behind the closing text, which stands on
one line, not in front of the start, and is the text of the first token that closes the block. -/
theorem endFrom_sound {text : List Char} {start stop : Nat} {memory : σ}
    (h : (endFrom? lexer close text start memory).1 = .ok stop) :
    min start text.length ≤ stop ∧ stop ≤ text.length ∧
      ((stop = text.length ∧
          ∀ token ∈ lexer.tokens (Text.terminatedLines (text.drop start)) (lexer.restart memory),
            ¬ (token.kind = .keyword ∧ token.text = close)) ∨
        ∃ (ending : Ending) (first : Nat),
          ending.Of lexer close text start memory ∧ ending.Spans close text start first stop) := by
  have hstart : ¬ (start : Int) < 0 := by omega
  simp only [endFrom?, endFrom_eq, hstart, if_false, Int.toNat_natCast] at h
  cases hsearch : (search lexer close start (lexer.restart memory)
      (Text.terminatedLines (text.drop start))).1 with
  | error fault => simp [hsearch, Except.map, Except.mapError] at h
  | ok found =>
      simp only [hsearch, Except.map, Except.mapError, Except.ok.injEq] at h
      cases found with
      | none =>
          rw [Option.getD_none] at h
          exact ⟨by omega, by omega, Or.inl ⟨h.symm, not_closes_of_search hsearch⟩⟩
      | some found =>
          rw [Option.getD_some] at h
          subst h
          obtain ⟨hbound, ending, first, hending, hspans⟩ := exists_ending hsearch
          have hfirst := hspans.start_le
          have hlast := hspans.stop_eq
          exact ⟨by omega, hbound, Or.inr ⟨ending, first, hending, hspans⟩⟩

/-- What a lexer says that takes a comment for a keyword. -/
def commentScript : List (List Token) :=
  [[⟨"y".toList, .text, 0, 1⟩],
    [⟨"/* ".toList, .comment, 0, 3⟩, ⟨"end".toList, .keyword, 3, 6⟩, ⟨" */".toList, .comment, 6, 9⟩]]

/-- The end is where the lexer sees it, here inside a comment, and the text there is the closing text. -/
theorem endFrom_sound_scripted :
    let text := "xy\n/* end */".toList
    (endFrom? LineLexer.scripted "end".toList text (1 : Nat) commentScript).1 = .ok 9 ∧
      ∃ (ending : Ending) (first : Nat),
        ending.Of LineLexer.scripted "end".toList text 1 commentScript ∧
          ending.Spans "end".toList text 1 first 9 := by
  intro text
  have hend : (endFrom? LineLexer.scripted "end".toList text (1 : Nat) commentScript).1 = .ok 9 := by
    decide
  obtain ⟨-, -, hstop⟩ := endFrom_sound hend
  exact ⟨hend, hstop.resolve_left fun hlast => absurd hlast.1 (by decide)⟩

end Block

end TemplateAtlas
