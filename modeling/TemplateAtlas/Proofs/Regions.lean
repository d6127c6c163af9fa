import Mathlib.Tactic.Common
import TemplateAtlas.Block
import TemplateAtlas.Soy.Lexer

/-!
# The regions of a Soy text

Reading starts as ordinary text, and no mode is ever entered from any mode but `root`.  Hence only four
stacks come up, one for each region of a text, and every other stack can be forgotten.

**Regions.**  `Region.stack` is the stack of a region, and `readFrom_cons` is the one equation about
reading in a region: it gives the next token and the region after it.

**Tiling.**  The tokens of a line cover it (`checkTiling_readLine`), whatever the region and whatever the
line.  So the search for the end of a block never fails (`search_cons`, `search_isOk`), and each of its
steps hands a region on to the next line.
-/

namespace TemplateAtlas.Soy

/-- What a piece of a Soy text is part of. -/
inductive Region where
  | root
  | comment
  | literal
  | tag
  deriving DecidableEq, Repr

namespace Region

/-- The mode in which a region is read. -/
def mode : Region → Mode
  | root => .root
  | comment => .comment
  | literal => .literal
  | tag => .tag

/-- The modes under that of the region. -/
def below : Region → Stack
  | root => []
  | _ => [.root]

/-- The stack with which a region is read. -/
def stack (region : Region) : Stack := region.mode :: region.below

/-- The next token of a region. -/
def cut (before : Option Char) (c : Char) (cs : List Char) : Region → Cut
  | root => rootCut before c cs
  | comment => commentCut c cs
  | literal => literalCut c cs
  | tag => tagCut c cs

/-- The region after a move; a move to a mode without rules does not occur. -/
def moved (region : Region) : Move → Region
  | .stay => region
  | .leave => root
  | .enter .comment => comment
  | .enter .literal => literal
  | .enter .tag => tag
  | .enter _ => root

/-- The region after the next token. -/
def next (before : Option Char) (c : Char) (cs : List Char) (region : Region) : Region :=
  region.moved (region.cut before c cs).move

@[simp] lemma mode_cut? (before : Option Char) (c : Char) (cs : List Char) (region : Region) :
    region.mode.cut? before c cs = some (region.cut before c cs) := by
  cases region <;> rfl

/-- Ordinary text is left only by entering another region. -/
lemma rootCut_move (before : Option Char) (c : Char) (cs : List Char) :
    (rootCut before c cs).move = .stay ∨ (rootCut before c cs).move = .enter .comment
      ∨ (rootCut before c cs).move = .enter .literal
      ∨ (rootCut before c cs).move = .enter .tag := by
  unfold rootCut
  split_ifs <;> try simp
  split <;> simp

lemma wordCut_move (c : Char) (cs : List Char) : (wordCut c cs).move = .stay := by
  simp only [wordCut]
  split_ifs <;> rfl

/-- From any other region one only comes back to ordinary text. -/
lemma cut_move (before : Option Char) (c : Char) (cs : List Char) {region : Region}
    (h : region ≠ root) :
    (region.cut before c cs).move = .stay ∨ (region.cut before c cs).move = .leave := by
  cases region with
  | root => exact absurd rfl h
  | comment =>
      simp only [cut, commentCut]
      split_ifs <;> simp
  | literal =>
      simp only [cut, literalCut]
      split_ifs <;> simp
  | tag =>
      simp only [cut, tagCut]
      split_ifs
      · simp
      · simp
      · simp
      · split <;> simp
      · exact Or.inl (wordCut_move c cs)

/-- **No stack but the four.**  A token of a region leaves the stack of a region. -/
lemma apply_stack (before : Option Char) (c : Char) (cs : List Char) (region : Region) :
    (region.cut before c cs).move.apply region.mode region.below
      = (region.next before c cs).stack := by
  rw [next]
  by_cases h : region = root
  · subst h
    have hmove := rootCut_move before c cs
    simp only [cut]
    rcases hmove with hm | hm | hm | hm <;> rw [hm] <;> rfl
  · rcases cut_move before c cs h with hm | hm
    · rw [hm]
      rfl
    · rw [hm]
      cases region with
      | root => exact absurd rfl h
      | comment => rfl
      | literal => rfl
      | tag => rfl

lemma wordCut_known (c : Char) (cs : List Char) : (wordCut c cs).kind.isKnown = true := by
  simp only [wordCut]
  split_ifs <;> rfl

/-- Every token has one of the nine kinds. -/
lemma cut_known (before : Option Char) (c : Char) (cs : List Char) (region : Region) :
    (region.cut before c cs).kind.isKnown = true := by
  cases region with
  | root =>
      simp only [cut, rootCut]
      split_ifs <;> try rfl
      split <;> rfl
  | comment =>
      simp only [cut, commentCut]
      split_ifs <;> rfl
  | literal =>
      simp only [cut, literalCut]
      split_ifs <;> rfl
  | tag =>
      simp only [cut, tagCut]
      split_ifs
      · rfl
      · rfl
      · rfl
      · split <;> rfl
      · exact wordCut_known c cs

/-- The text of the next token. -/
def front (before : Option Char) (c : Char) (cs : List Char) (region : Region) : List Char :=
  c :: cs.take (region.cut before c cs).extra

/-- What is left of the line after the next token. -/
def behind (before : Option Char) (c : Char) (cs : List Char) (region : Region) : List Char :=
  cs.drop (region.cut before c cs).extra

lemma front_append_behind (before : Option Char) (c : Char) (cs : List Char) (region : Region) :
    region.front before c cs ++ region.behind before c cs = c :: cs := by
  rw [front, behind, List.cons_append, List.take_append_drop]

lemma behind_length (before : Option Char) (c : Char) (cs : List Char) (region : Region) :
    (region.behind before c cs).length < (c :: cs).length := by
  simp only [behind, List.length_drop, List.length_cons]
  omega

end Region

/-! ## Reading in a region -/

@[simp] lemma readFrom_nil (column : Nat) (before : Option Char) (stack : Stack) :
    readFrom column before stack [] = ([], stack) := by
  rw [readFrom]

/-- What reading gives after the next token. -/
def readBehind (column : Nat) (before : Option Char) (c : Char) (cs : List Char)
    (region : Region) : List Token × Stack :=
  readFrom (column + (region.front before c cs).length) (region.front before c cs).getLast?
    (region.next before c cs).stack (region.behind before c cs)

/-- Reading in a region: the next token, and the rest in the region after it. -/
lemma readFrom_cons (column : Nat) (before : Option Char) (region : Region) (c : Char)
    (cs : List Char) :
    readFrom column before region.stack (c :: cs) =
      (.placed (region.front before c cs) (region.cut before c cs).kind column ::
        (readBehind column before c cs region).1, (readBehind column before c cs region).2) := by
  rw [Region.stack, readFrom, Region.mode_cut?]
  simp only [Region.apply_stack]
  rfl

/-- **The four stacks.**  A line read in a region ends in a region. -/
theorem readFrom_stack (column : Nat) (before : Option Char) (region : Region) :
    ∀ cs : List Char, ∃ after : Region, (readFrom column before region.stack cs).2 = after.stack
  | [] => ⟨region, by rw [readFrom_nil]⟩
  | c :: cs => by
      rw [readFrom_cons]
      exact readFrom_stack _ _ _ (region.behind before c cs)
termination_by cs => cs.length
decreasing_by exact Region.behind_length before c cs region

/-! ## The tokens cover the line -/

/-- A token with the text in front of it fits, whatever follows. -/
lemma check_placed (text rest : List Char) {kind : Kind} (column : Nat)
    (h : kind.isKnown = true) :
    Token.check column (text ++ rest) (.placed text kind column) = .ok () := by
  have hlength : (column : Int) + text.length - column = text.length := by omega
  simp [Token.check, Token.placed, h, hlength]

/-- **Tiling.**  The tokens of what is left of a line cover it. -/
theorem checkTilingFrom_readFrom (length : Nat) : ∀ (cs : List Char) (column : Nat)
    (before : Option Char) (region : Region), column + cs.length = length →
      Token.checkTilingFrom length column cs (readFrom column before region.stack cs).1 = .ok ()
  | [], column, before, region, h => by
      rw [readFrom_nil]
      simpa [Token.checkTilingFrom] using h
  | c :: cs, column, before, region, h => by
      have hsplit := region.front_append_behind before c cs
      have hlength := congrArg List.length hsplit
      rw [List.length_append] at hlength
      rw [readFrom_cons, Token.checkTilingFrom, ← hsplit,
        check_placed _ _ _ (region.cut_known before c cs)]
      simp only [Token.placed, List.drop_left]
      exact checkTilingFrom_readFrom length _ _ _ _ (by omega)
termination_by cs => cs.length
decreasing_by exact Region.behind_length before c cs region

/-- A line is read from its start, also when it is empty. -/
lemma readLine_stack (line : List Char) (region : Region) :
    readLine line region.stack = readFrom 0 none region.stack line := by
  cases line with
  | nil => simp [readLine]
  | cons c cs => simp [readLine, Region.stack]

/-- The tokens of a line cover it. -/
theorem checkTiling_readLine (line : List Char) (region : Region) :
    Token.checkTiling line (readLine line region.stack).1 = .ok () := by
  rw [readLine_stack]
  exact checkTilingFrom_readFrom line.length line 0 none region (Nat.zero_add _)

/-! ## Searching for the end of a block -/

/-- A step of the search: the first closing keyword of the line, or else the lines after it. -/
lemma search_cons (close : List Char) (offset : Nat) (region : Region) (line : List Char)
    (lines : List (List Char)) :
    Block.search lexer close offset region.stack (line :: lines) =
      match Block.closingToken? close (readFrom 0 none region.stack line).1 with
      | some token =>
        (.ok (some (offset + token.stop.toNat)), (readFrom 0 none region.stack line).2)
      | none =>
        Block.search lexer close (offset + line.length + 1)
          (readFrom 0 none region.stack line).2 lines := by
  have hline : lexer.line line region.stack = readFrom 0 none region.stack line :=
    readLine_stack line region
  have htiling := checkTiling_readLine line region
  rw [readLine_stack] at htiling
  cases htoken : Block.closingToken? close (readFrom 0 none region.stack line).1 <;>
    simp only [Block.search, hline, htiling, htoken]

/-- **The search never fails**, whatever the lines. -/
theorem search_isOk (close : List Char) : ∀ (lines : List (List Char)) (offset : Nat)
    (region : Region), ∃ found, (Block.search lexer close offset region.stack lines).1 = .ok found
  | [], _, _ => ⟨none, rfl⟩
  | line :: lines, offset, region => by
      rw [search_cons]
      obtain ⟨after, hafter⟩ := readFrom_stack 0 none region line
      rw [hafter]
      split
      · exact ⟨_, rfl⟩
      · exact search_isOk close lines _ after

end TemplateAtlas.Soy
