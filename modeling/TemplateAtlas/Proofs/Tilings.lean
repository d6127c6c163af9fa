import Mathlib.Tactic.Common
import TemplateAtlas.Token

/-!
# Tokens that cover a line

The tokens of a line are checked before they are used, by a cursor that runs along the line.  Whatever columns the
tokens claim, this accepts the lists that cover the line and nothing else.

**Columns.**  A check need not keep what is left of the line.  `checkColumns` remembers only the column that it has
come to, and compares each token with the piece of the whole line between the two columns that the token claims for
itself.  Such a piece can be cut for any two numbers, also for columns below zero and beyond the line
(`Text.between`), so that it is not plain what a token has to look like to get through.  The cursor settles this: it is
always the length of what has been covered (`checkTilingFrom_eq_checkColumnsFrom`), and both checks give the same
answer, faults included.

**Tilings.**  `Tiles` says what it is to cover a line: kinds that are known, texts that make up the line, and columns that
count the characters in front.  A list of tokens passes the check if and only if it does that.
-/

namespace TemplateAtlas

/-! ## Pieces of a line -/

namespace Text

/-- The place that a column stands for.  Columns below zero count from the end of the line, and what is outside the
line after that is moved to the nearer end. -/
def place (line : List Char) (column : Int) : Nat :=
  min (if column < 0 then column + line.length else column).toNat line.length

/-- The piece of a line between two columns, which is empty if the second is not behind the first. -/
def between (line : List Char) (start stop : Int) : List Char :=
  (line.take (place line stop)).drop (place line start)

/-- A piece that starts inside the line, with a stop that may lie behind its end. -/
lemma between_append (front rest : List Char) (length : Nat) :
    between (front ++ rest) front.length (front.length + length : Int) = rest.take length := by
  have hstart : place (front ++ rest) front.length = front.length := by
    rw [place, if_neg (by omega), List.length_append]
    omega
  have hstop : (front ++ rest).take (place (front ++ rest) (front.length + length : Int))
      = front ++ rest.take length := by
    rw [place, if_neg (by omega), ← List.take_eq_take_min, ← Int.natCast_add, Int.toNat_natCast,
      List.take_length_add_append]
  rw [between, hstart, hstop, List.drop_left]

end Text

lemma Kind.isKnown_iff (kind : Kind) : kind.isKnown = true ↔ kind ∈ Kind.known := by
  cases kind <;> simp [Kind.isKnown, Kind.known]

namespace Token

/-! ## Columns -/

/-- Checks a token against the column it has to start at and the piece of the line that it claims. -/
def checkAt (line : List Char) (cursor : Int) (token : Token) : Except TilingFault Unit :=
  if !token.kind.isKnown then .error (.unknownKind token.kind.label)
  else if token.start ≠ cursor then .error (.misplaced token.start cursor.toNat)
  else if token.stop - token.start ≠ token.text.length then .error .wrongLength
  else if Text.between line token.start token.stop ≠ token.text then .error .wrongText
  else .ok ()

/-- Checks tokens against a line, with a cursor that goes to the stop of each of them. -/
def checkColumnsFrom (line : List Char) (cursor : Int) : List Token → Except TilingFault Unit
  | [] => if cursor = line.length then .ok () else .error (.unfinished cursor.toNat line.length)
  | token :: tokens =>
    match checkAt line cursor token with
    | .error fault => .error fault
    | .ok () => checkColumnsFrom line token.stop tokens

/-- The check of a line by columns. -/
def checkColumns (line : List Char) (tokens : List Token) : Except TilingFault Unit :=
  checkColumnsFrom line 0 tokens

/-- What a token has to be to pass. -/
lemma check_eq_ok_iff {cursor : Nat} {rest : List Char} {token : Token} :
    check cursor rest token = .ok () ↔
      token.kind ∈ Kind.known ∧ token.start = cursor ∧ token.stop = cursor + token.text.length ∧
        token.text <+: rest := by
  rw [check, ← Kind.isKnown_iff, List.prefix_iff_eq_take]
  split_ifs with hkind hstart hlength htext
  · refine iff_of_false (by simp) fun h => ?_
    rw [h.1] at hkind
    exact Bool.noConfusion hkind
  · exact iff_of_false (by simp) fun h => hstart h.2.1
  · exact iff_of_false (by simp) fun h => hlength (by omega)
  · exact iff_of_false (by simp) fun h => htext h.2.2.2.symm
  · exact iff_of_true rfl ⟨by simpa using hkind, by omega, by omega, (not_not.mp htext).symm⟩

/-- A token that starts where the covered part ends claims the characters that come next. -/
lemma check_eq_checkAt (front rest : List Char) (token : Token) :
    check front.length rest token = checkAt (front ++ rest) front.length token := by
  rw [check, checkAt, Int.toNat_natCast]
  by_cases hstart : token.start = front.length
  · by_cases hlength : token.stop - token.start = token.text.length
    · have hstop : token.stop = (front.length + token.text.length : Int) := by omega
      rw [hstart, hstop, Text.between_append]
    · -- no piece of the line is looked at
      simp only [if_pos hlength]
  · simp only [if_pos hstart]

/-- The cursor is the length of what has been covered, so the rest of the line need not be kept. -/
theorem checkTilingFrom_eq_checkColumnsFrom : ∀ (tokens : List Token) (front rest : List Char),
    checkTilingFrom (front ++ rest).length front.length rest tokens
      = checkColumnsFrom (front ++ rest) front.length tokens
  | [], front, rest => by
      rw [checkTilingFrom, checkColumnsFrom, Int.toNat_natCast]
      simp only [Int.natCast_inj]
  | token :: tokens, front, rest => by
      rw [checkTilingFrom, checkColumnsFrom, ← check_eq_checkAt]
      cases hcheck : check front.length rest token with
      | error fault => rfl
      | ok _ =>
          obtain ⟨-, -, hstop, behind, rfl⟩ := check_eq_ok_iff.mp hcheck
          have hcursor : ((front ++ token.text).length : Int) = token.stop := by
            rw [List.length_append, Int.natCast_add, hstop]
          have hnext := checkTilingFrom_eq_checkColumnsFrom tokens (front ++ token.text) behind
          rw [hcursor, List.append_assoc] at hnext
          simpa using hnext

/-! ## Tilings -/

/-- The tokens cover a piece of a line that starts at a column. -/
structure Tiles (column : Nat) (piece : List Char) (tokens : List Token) : Prop where
  known : ∀ token ∈ tokens, token.kind ∈ Kind.known
  texts : tokens.flatMap (·.text) = piece
  columns : ∀ (before : List Token) (token : Token) (after : List Token), tokens = before ++ token :: after →
    token.start = column + (before.flatMap (·.text)).length ∧
      token.stop = token.start + token.text.length

lemma tiles_nil_iff {column : Nat} {piece : List Char} : Tiles column piece [] ↔ piece = [] := by
  constructor
  · rintro ⟨-, rfl, -⟩
    rfl
  · rintro rfl
    exact ⟨by simp, rfl, by simp⟩

/-- The first token covers the characters in front, and the others what is behind them. -/
lemma tiles_cons_iff {column : Nat} {piece : List Char} {token : Token} {tokens : List Token} :
    Tiles column piece (token :: tokens) ↔
      token.kind ∈ Kind.known ∧ token.start = column ∧ token.stop = column + token.text.length ∧
        ∃ rest, piece = token.text ++ rest ∧ Tiles (column + token.text.length) rest tokens := by
  constructor
  · rintro ⟨hknown, rfl, hcolumns⟩
    obtain ⟨hstart, hstop⟩ := hcolumns [] token tokens rfl
    rw [List.flatMap_nil, List.length_nil, Int.natCast_zero, Int.add_zero] at hstart
    refine ⟨hknown token List.mem_cons_self, hstart, hstart ▸ hstop, _, List.flatMap_cons, ?_⟩
    refine ⟨fun later hlater => hknown later (List.mem_cons_of_mem _ hlater), rfl, ?_⟩
    rintro before later after rfl
    obtain ⟨hlater, hend⟩ := hcolumns (token :: before) later after rfl
    rw [List.flatMap_cons, List.length_append] at hlater
    exact ⟨by omega, hend⟩
  · rintro ⟨hkind, hstart, hstop, rest, rfl, hknown, rfl, hcolumns⟩
    refine ⟨List.forall_mem_cons.mpr ⟨hkind, hknown⟩, List.flatMap_cons, ?_⟩
    intro before later after hsplit
    cases before with
    | nil =>
        rw [List.nil_append, List.cons.injEq] at hsplit
        obtain ⟨rfl, -⟩ := hsplit
        exact ⟨by simpa using hstart, by omega⟩
    | cons first before =>
        rw [List.cons_append, List.cons.injEq] at hsplit
        obtain ⟨rfl, hsplit⟩ := hsplit
        obtain ⟨hlater, hend⟩ := hcolumns before later after hsplit
        rw [List.flatMap_cons, List.length_append]
        exact ⟨by omega, hend⟩

/-- From a column on, the check accepts the tokens that cover what is left of the line. -/
theorem checkTilingFrom_eq_ok_iff {length : Nat} : ∀ {tokens : List Token} {cursor : Nat}
    {rest : List Char}, cursor + rest.length = length →
      (checkTilingFrom length cursor rest tokens = .ok () ↔ Tiles cursor rest tokens)
  | [], cursor, rest, hlength => by
      rw [tiles_nil_iff, checkTilingFrom, ← List.length_eq_zero_iff]
      split_ifs with hend
      · exact iff_of_true rfl (by omega)
      · exact iff_of_false (by simp) (by omega)
  | token :: tokens, cursor, rest, hlength => by
      rw [tiles_cons_iff, checkTilingFrom]
      cases hcheck : check cursor rest token with
      | error fault =>
          refine iff_of_false (by simp) ?_
          rintro ⟨hkind, hstart, hstop, behind, rfl, -⟩
          rw [check_eq_ok_iff.mpr ⟨hkind, hstart, hstop, List.prefix_append _ _⟩] at hcheck
          cases hcheck
      | ok _ =>
          obtain ⟨hkind, hstart, hstop, behind, rfl⟩ := check_eq_ok_iff.mp hcheck
          rw [List.length_append] at hlength
          have hrest : checkTilingFrom length (cursor + token.text.length) behind tokens = .ok () ↔
              Tiles (cursor + token.text.length) behind tokens :=
            checkTilingFrom_eq_ok_iff (by omega)
          simp only [List.drop_left, hrest]
          constructor
          · intro htiles
            exact ⟨hkind, hstart, hstop, behind, rfl, htiles⟩
          · rintro ⟨-, -, -, other, hother, htiles⟩
            rwa [List.append_cancel_left hother]

/-- **The check accepts the tilings.**  It gives the answer of the check by columns, whatever the columns are.  It
accepts a list of tokens if and only if every kind is known, the texts put together are the line, and each token starts
at the number of characters in front of it and stops after its own. -/
theorem checkTiling_exact (line : List Char) (tokens : List Token) :
    checkTiling line tokens = checkColumns line tokens ∧
      (checkTiling line tokens = .ok () ↔
        (∀ token ∈ tokens, token.kind ∈ Kind.known) ∧ tokens.flatMap (·.text) = line ∧
          ∀ (before : List Token) (token : Token) (after : List Token), tokens = before ++ token :: after →
            token.start = (before.flatMap (·.text)).length ∧
              token.stop = token.start + token.text.length) := by
  constructor
  · exact checkTilingFrom_eq_checkColumnsFrom tokens [] line
  · rw [checkTiling, checkTilingFrom_eq_ok_iff (Nat.zero_add _)]
    constructor
    · rintro ⟨hknown, htexts, hcolumns⟩
      simp only [Int.natCast_zero, Int.zero_add] at hcolumns
      exact ⟨hknown, htexts, hcolumns⟩
    · rintro ⟨hknown, htexts, hcolumns⟩
      refine ⟨hknown, htexts, ?_⟩
      simpa only [Int.natCast_zero, Int.zero_add] using hcolumns

-- Columns that count from the end of the line cut the right pieces, and are refused all the same.
example : Text.between "ab".toList (-2) (-1) = "a".toList ∧
    checkTiling "ab".toList [⟨"a".toList, .text, -2, -1⟩, ⟨"b".toList, .text, -1, 0⟩]
      = .error (.misplaced (-2) 0) := by
  decide

end Token

end TemplateAtlas
