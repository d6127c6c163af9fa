import Mathlib.Tactic.Common
import TemplateAtlas.Proofs.Ranges

/-!
# Reading lines one after the other

`Proofs.Regions` says what becomes of one line that is read in a region.  Here any number of lines are read,
each with the stack that the lines before it have left.

**Lines.**  However many lines were read, and whatever is in them, the stack is that of a region
(`readLines_stack`), so that what is true of a line that is read in a region is true of every line of every
text.

**Totality.**  Hence reading has no way to fail: no line needs a mode without rules, every line is covered by
its tokens, none of which is empty, and neither the search for the end of a block nor the search for templates
ever ends with a fault: `reading_total`.

**Search.**  Lines whose tokens do not close a block are passed over by the search for its end, and all they
leave behind is their length and a stack (`search_append`).
-/

namespace TemplateAtlas

/-- The tokens of lines that are read one after the other. -/
def LineLexer.tokens {σ : Type} (lexer : LineLexer σ) : List (List Char) → σ → List Token
  | [], _ => []
  | line :: lines, memory =>
    (lexer.line line memory).1 ++ tokens lexer lines (lexer.line line memory).2

/-- A token that closes a block: a keyword, and nothing else with the same text. -/
def Token.Closes (close : List Char) (token : Token) : Prop :=
  token.kind = .keyword ∧ token.text = close

instance (close : List Char) : DecidablePred (Token.Closes close) :=
  fun token => inferInstanceAs (Decidable (token.kind = .keyword ∧ token.text = close))

namespace Soy

/-! ## Lines -/

/-- However many lines are read, what is left behind is a region. -/
theorem readLines_stack (lines : List (List Char)) (region : Region) :
    ∃ after : Region, lexer.readLines lines region.stack = after.stack := by
  induction lines generalizing region with
  | nil => exact ⟨region, rfl⟩
  | cons line lines ih =>
      obtain ⟨next, hnext⟩ := readFrom_stack 0 none region line
      have hline : (lexer.line line region.stack).2 = next.stack := by
        rw [← hnext, ← readLine_stack]
        rfl
      rw [LineLexer.readLines, List.foldl_cons, hline]
      exact ih next

/-- No token is empty: each takes the character in front. -/
theorem text_ne_nil_of_mem_readFrom {token : Token} : ∀ (cs : List Char) (column : Nat)
    (before : Option Char) (region : Region),
      token ∈ (readFrom column before region.stack cs).1 → token.text ≠ []
  | [], column, before, region, h => by
      rw [readFrom_nil] at h
      simp at h
  | c :: cs, column, before, region, h => by
      rw [readFrom_cons, List.mem_cons] at h
      rcases h with rfl | h
      · exact List.cons_ne_nil c _
      · exact text_ne_nil_of_mem_readFrom (region.behind before c cs) _ _ _ h
termination_by cs => cs.length
decreasing_by exact Region.behind_length before c cs region

/-- No region needs a mode without rules. -/
lemma unknownMode?_stack (line : List Char) (region : Region) :
    unknownMode? line region.stack = none := by
  obtain ⟨after, hafter⟩ := readFrom_stack 0 none region line
  rw [unknownMode?, readLine_stack, hafter]
  split_ifs
  · rfl
  · cases after <;> rfl

/-- Reading goes on behind a token that is known. -/
lemma readFrom_token {before : Option Char} {c : Char} {run behind : List Char} {region : Region}
    {kind : Kind} {move : Move}
    (h : region.cut before c (run ++ behind) = ⟨run.length, kind, move⟩) (column : Nat) :
    readFrom column before region.stack (c :: run ++ behind) =
      (.placed (c :: run) kind column ::
          (readFrom (column + (c :: run).length) (c :: run).getLast? (region.moved move).stack
            behind).1,
        (readFrom (column + (c :: run).length) (c :: run).getLast? (region.moved move).stack
          behind).2) := by
  rw [List.cons_append, readFrom_cons]
  simp only [readBehind, Region.front, Region.next, Region.behind, h, List.take_left, List.drop_left]

/-! ## Totality -/

/-- The names of the modes in force, outermost first. -/
def modeNames (stack : Stack) : List String := (stack.map Mode.name).reverse

lemma modeNames_stack (region : Region) :
    modeNames region.stack
      ∈ [["root"], ["root", "comment"], ["root", "literal"], ["root", "tag"]] := by
  cases region <;> decide

/-- **Reading is total.**  Let any lines be read from the start of a text on.  After each of them the modes in
force are those of one of the four regions.  Its tokens are not empty, and they cover it.  Therefore the end of
a block and the templates of a text are always found, whatever the text and wherever the search starts. -/
theorem reading_total (memory : Stack) :
    (∀ (lines : List (List Char)) (line : List Char),
        let before := lexer.readLines lines (lexer.restart memory)
        let (tokens, after) := lexer.line line before
        unknownMode? line before = none ∧
          modeNames after
            ∈ [["root"], ["root", "comment"], ["root", "literal"], ["root", "tag"]] ∧
          (∀ token ∈ tokens, token.text ≠ []) ∧ Token.checkTiling line tokens = .ok ()) ∧
      (∀ (close text : List Char) (start : Nat),
        ∃ stop, (Block.endFrom? lexer close text start memory).1 = .ok stop) ∧
      ∀ (text : List Char) (name wildcard : String),
        ∃ found, (Finder.findInText lexer text name wildcard memory).1 = .ok found := by
  refine ⟨?_, ?_, ?_⟩
  · intro lines line
    obtain ⟨region, hregion⟩ := readLines_stack lines .root
    obtain ⟨after, hafter⟩ := readFrom_stack 0 none region line
    have hbefore : lexer.readLines lines (lexer.restart memory) = region.stack := hregion
    have hline : lexer.line line region.stack = readFrom 0 none region.stack line :=
      readLine_stack line region
    have htiling := checkTiling_readLine line region
    rw [readLine_stack] at htiling
    simp only [hbefore, hline, hafter]
    exact ⟨unknownMode?_stack line region, modeNames_stack after,
      fun _ => text_ne_nil_of_mem_readFrom line 0 none region, htiling⟩
  · intro close text start
    obtain ⟨found, hfound⟩ :=
      search_isOk close (Text.terminatedLines (text.drop start)) start .root
    have hsearch : (Block.search lexer close start (lexer.restart memory)
        (Text.terminatedLines (text.drop start))).1 = .ok found := hfound
    have hstart : ¬ (start : Int) < 0 := by omega
    refine ⟨found.getD text.length, ?_⟩
    simp only [Block.endFrom?, hstart, if_false, Int.toNat_natCast, Block.endFrom_eq, hsearch]
    rfl
  · exact fun text name wildcard => ⟨_, findInText_eq text name wildcard memory⟩

/-! ## Search -/

lemma closingToken?_eq_none {close : List Char} {tokens : List Token}
    (h : ∀ token ∈ tokens, ¬ token.Closes close) : Block.closingToken? close tokens = none := by
  rw [Block.closingToken?, List.find?_eq_none]
  intro token htoken
  simpa [Token.Closes] using h token htoken

/-- Lines that close no block are passed over. -/
theorem search_append (close : List Char) {lines : List (List Char)} {region : Region}
    (h : ∀ token ∈ lexer.tokens lines region.stack, ¬ token.Closes close) (offset : Nat)
    (rest : List (List Char)) :
    Block.search lexer close offset region.stack (lines ++ rest)
      = Block.search lexer close (offset + (lines.flatMap (· ++ ['\n'])).length)
          (lexer.readLines lines region.stack) rest := by
  induction lines generalizing region offset with
  | nil => rfl
  | cons line lines ih =>
      have hline : lexer.line line region.stack = readFrom 0 none region.stack line :=
        readLine_stack line region
      obtain ⟨after, hafter⟩ := readFrom_stack 0 none region line
      rw [LineLexer.tokens, hline, hafter, List.forall_mem_append] at h
      rw [List.cons_append, search_cons, closingToken?_eq_none h.1, hafter]
      have hread : lexer.readLines (line :: lines) region.stack
          = lexer.readLines lines after.stack := by
        rw [LineLexer.readLines, List.foldl_cons, hline, hafter]
        rfl
      simp only
      rw [ih h.2, hread, List.flatMap_cons, List.length_append, List.length_append, Nat.add_assoc,
        Nat.add_assoc, Nat.add_assoc]
      rfl

end Soy

end TemplateAtlas
