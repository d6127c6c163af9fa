/-!
# Globs

A glob is a pattern that a whole text matches or not.  A star stands for any run of characters,
slashes and line breaks included, a question mark for any one character, and brackets for one
character of a set.  Everything else stands for itself, the backslash too.

* `Glob.parse` — the pieces of a pattern; a bracket that is never closed stands for itself.
* `Glob.acceptsAll` — whether a text matches pieces, one after the other.
* `Glob.accepts` — whether a text matches a pattern, found in one pass over a table (`matchesFrom`), so
  that many stars cost no more than their number.

**Sets.** A set is negated by `!` as its first character.  A closing bracket is a member if it comes
first.  Hyphens between two characters make ranges, read from left to right; a range whose ends are
in the wrong order holds nothing and is taken out of the set, ends included.  What is left decides
whether the set is negated, so a set from which everything was taken holds no character, or, if it
is negated, all of them.
-/

namespace TemplateAtlas.Glob

/-- A piece of a pattern.  A set is a list of ranges, with single characters as ranges of one. -/
inductive Piece where
  | star
  | any
  | char (c : Char)
  | set (negated : Bool) (ranges : List (Char × Char))
  deriving DecidableEq, Repr

/-- The body of a set whose opening bracket has been read, and what follows its closing bracket. -/
def setBody? (pattern : List Char) : Option (List Char × List Char) :=
  let bang := if pattern.head? = some '!' then 1 else 0
  let bracket := if (pattern.drop bang).head? = some ']' then 1 else 0
  let fixed := bang + bracket
  let inner := (pattern.drop fixed).takeWhile (· ≠ ']')
  match pattern.drop (fixed + inner.length) with
  | [] => none
  | _ :: rest => some (pattern.take fixed ++ inner, rest)

/-- Puts a character in front of the first chunk. -/
def consChunk (c : Char) : List (List Char) → List (List Char)
  | [] => [[c]]
  | chunk :: chunks => (c :: chunk) :: chunks

/-- Cuts the body of a set at the hyphens that may make ranges.  The next `skip` characters may not
be such a hyphen, and neither may the two characters after one. -/
def chunksFrom (skip : Nat) : List Char → List (List Char)
  | [] => [[]]
  | c :: body =>
    if skip = 0 && c = '-' then [] :: chunksFrom 2 body
    else consChunk c (chunksFrom (skip - 1) body)

/-- A hyphen at the end of the body belongs to the chunk before it. -/
def absorbLast : List (List Char) → List (List Char)
  | [chunk, []] => [chunk ++ ['-']]
  | chunk :: chunks => chunk :: absorbLast chunks
  | [] => []

/-- Takes out the ranges whose ends are in the wrong order, from right to left. -/
def dropReversed : List (List Char) → List (List Char)
  | [] => []
  | chunk :: chunks =>
    match dropReversed chunks with
    | [] => [chunk]
    | next :: more =>
      match chunk.getLast?, next.head? with
      | some low, some high =>
        if high < low then (chunk.dropLast ++ next.tail) :: more else chunk :: next :: more
      | _, _ => chunk :: next :: more

/-- The ranges of a set: neighbouring chunks are joined by a range, all other characters stand for
themselves. -/
def rangesOf : List (List Char) → List (Char × Char)
  | [] => []
  | [chunk] => chunk.map fun c => (c, c)
  | chunk :: next :: more =>
    match chunk.getLast?, next with
    | some low, high :: rest =>
      chunk.dropLast.map (fun c => (c, c)) ++ (low, high) :: rangesOf (rest :: more)
    | _, _ => ('-', '-') :: rangesOf (next :: more)
termination_by chunks => chunks.length

/-- The set with a given body. -/
def setOf (body : List Char) : Piece :=
  let skip := if body.head? = some '!' then 2 else 1
  match dropReversed (absorbLast (chunksFrom skip body)) with
  | ('!' :: chunk) :: chunks => .set true (rangesOf (chunk :: chunks))
  | chunks => .set false (rangesOf chunks)

/-- The pieces of a pattern; stars in a row count as one. -/
def parse : List Char → List Piece
  | [] => []
  | '*' :: pattern =>
    match parse pattern with
    | .star :: pieces => .star :: pieces
    | pieces => .star :: pieces
  | '?' :: pattern => .any :: parse pattern
  | '[' :: pattern =>
    match h : setBody? pattern with
    | none => .char '[' :: parse pattern
    | some (body, rest) =>
      have : rest.length < pattern.length + 1 := by
        unfold setBody? at h
        simp only at h
        split at h
        · simp at h
        · next heq =>
          have := congrArg List.length heq
          simp only [List.length_drop, List.length_cons] at this
          simp only [Option.some.injEq, Prod.mk.injEq] at h
          rw [← h.2]
          omega
      setOf body :: parse rest
  | c :: pattern => .char c :: parse pattern
termination_by pattern => pattern.length

/-- A piece other than a star accepts one character. -/
def Piece.acceptsChar (c : Char) : Piece → Bool
  | star => false
  | any => true
  | char d => c = d
  | set negated ranges => ranges.any (fun range => range.1 ≤ c && c ≤ range.2) != negated

/-- The whole text matches the pieces. -/
def acceptsAll : List Piece → List Char → Bool
  | [], text => text.isEmpty
  | .star :: pieces, [] => acceptsAll pieces []
  | .star :: pieces, c :: text => acceptsAll pieces (c :: text) || acceptsAll (.star :: pieces) text
  | _ :: _, [] => false
  | piece :: pieces, c :: text => piece.acceptsChar c && acceptsAll pieces text
termination_by pieces text => pieces.length + text.length

/-- For each place in a list, whether it or a later place is marked. -/
def markedFrom : List Bool → List Bool
  | [] => []
  | mark :: marks =>
    match markedFrom marks with
    | [] => [mark]
    | later :: more => (mark || later) :: later :: more

/-- For each place in a text, its end included, whether the text from there on matches the pieces.  The
answers for some pieces follow from those for the pieces after the first, so that no place is tried
twice. -/
def matchesFrom : List Piece → List Char → List Bool
  | [], text => text.map (fun _ => false) ++ [true]
  | .star :: pieces, text => markedFrom (matchesFrom pieces text)
  | piece :: pieces, text =>
    text.zipWith (fun c later => piece.acceptsChar c && later) (matchesFrom pieces text).tail ++
      [false]

/-- The whole text matches the pattern. -/
def accepts (pattern text : String) : Bool :=
  (matchesFrom (parse pattern.toList) text.toList).headD false

/-! ## The table of answers

`matchesFrom` is a table of the answers that `acceptsAll` gives, for a text and all its ends.
-/

/-- The answers of a test for a text, the text without its first character, and so on. -/
def answers (test : List Char → Bool) : List Char → List Bool
  | [] => [test []]
  | c :: text => test (c :: text) :: answers test text

/-- The first answer is the one for the whole text. -/
theorem answers_eq_cons (test : List Char → Bool) (text : List Char) :
    ∃ rest, answers test text = test text :: rest := by
  cases text <;> exact ⟨_, rfl⟩

/-- No pieces match the end of the text only. -/
theorem answers_nil (text : List Char) :
    answers (acceptsAll []) text = text.map (fun _ => false) ++ [true] := by
  induction text with
  | nil => simp [answers, acceptsAll]
  | cons c text ih => simp [answers, acceptsAll, ih]

/-- A star matches from a place on if the pieces after it match from there or from a later place. -/
theorem markedFrom_answers (pieces : List Piece) (text : List Char) :
    markedFrom (answers (acceptsAll pieces) text) = answers (acceptsAll (.star :: pieces)) text := by
  induction text with
  | nil => simp [answers, markedFrom, acceptsAll]
  | cons c text ih =>
    obtain ⟨rest, hrest⟩ := answers_eq_cons (acceptsAll (.star :: pieces)) text
    rw [answers, markedFrom, ih, hrest, answers, hrest, acceptsAll]

/-- Any other piece matches from a place on if it accepts the character there and the pieces after it
match from the next place. -/
theorem zipWith_answers (piece : Piece) (hpiece : piece ≠ .star) (pieces : List Piece)
    (text : List Char) :
    text.zipWith (fun c later => piece.acceptsChar c && later)
        (answers (acceptsAll pieces) text).tail ++ [false] =
      answers (acceptsAll (piece :: pieces)) text := by
  induction text with
  | nil => cases piece <;> simp_all [answers, acceptsAll]
  | cons c text ih =>
    obtain ⟨rest, hrest⟩ := answers_eq_cons (acceptsAll pieces) text
    have hstep : acceptsAll (piece :: pieces) (c :: text) =
        (piece.acceptsChar c && acceptsAll pieces text) := by
      cases piece <;> simp_all [acceptsAll]
    rw [answers, answers, hstep, ← ih, hrest]
    simp

/-- The table holds the answers for the text and all its ends. -/
theorem matchesFrom_eq_answers (pieces : List Piece) (text : List Char) :
    matchesFrom pieces text = answers (acceptsAll pieces) text := by
  induction pieces with
  | nil => rw [matchesFrom, answers_nil]
  | cons piece pieces ih =>
    by_cases hpiece : piece = .star
    · rw [hpiece, matchesFrom, ih, markedFrom_answers]
    · rw [matchesFrom, ih, zipWith_answers piece hpiece]
      exact fun h => hpiece h

/-- A text matches a pattern when it matches its pieces one after the other. -/
theorem accepts_eq_acceptsAll (pattern text : String) :
    accepts pattern text = acceptsAll (parse pattern.toList) text.toList := by
  obtain ⟨rest, hrest⟩ := answers_eq_cons (acceptsAll (parse pattern.toList)) text.toList
  rw [accepts, matchesFrom_eq_answers, hrest, List.headD_cons]

end TemplateAtlas.Glob
