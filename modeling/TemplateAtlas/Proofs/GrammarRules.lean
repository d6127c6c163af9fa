import Mathlib.Data.List.Infix
import Mathlib.Tactic.Common
import TemplateAtlas.Proofs.Declarations
import TemplateAtlas.Proofs.Patterns
import TemplateAtlas.Soy.Grammar

/-!
# The rules of the grammar

A mode of the grammar is a list of rules.  Each has a pattern, and says what kind of token the pattern takes and what
becomes of the modes.  The rules are tried in their order, each at the front of what is left of the line, and the first
one whose pattern has a way takes what it takes in its first way.  Where none has a way, one character is taken, of no
particular kind; that is never a line feed (`Mode.firstMatch_newline`).

`Mode.cut?` has no rules to try: it looks at the characters in front and goes straight to the token.  The two agree on
every line (`Mode.cut?_eq_firstMatch`).

**Patterns.**  For each form of pattern in the rules there is a lemma about what it takes first.  Only strings in quotes
need an induction: the pattern for the inside could be given up item by item, but the inside of a string holds no bare
quote, so the first quote that is not hidden is the only one at which it can be closed.
-/

namespace TemplateAtlas.Soy

open Text Pattern

/-- A rule of a mode: what it takes, as what, and what becomes of the modes. -/
structure Rule where
  pattern : Ways
  kind : Kind
  move : Move := .stay

/-- A comment to the end of its line, behind a character on the same line. -/
def lineComment (before : Option Char) : Ways :=
  provided (mayStartLineComment before) (both (word ['/', '/']) (maybe (run (· ≠ '\n'))))

/-- A command word behind its brace. -/
def command : Ways := both (maybe (word ['/'])) (both (one isAsciiLetter) (maybe (run isWordChar)))

/-- The end of a tag. -/
def closing : Ways := both (maybe (word ['/'])) (word ['}'])

/-- One item of a string: a backslash with what it hides, or a character that is neither a backslash nor the quote. -/
def quotedItem (quote : Char) : Ways :=
  either (both (word ['\\']) (one (· ≠ '\n'))) (one fun d => d ≠ quote && d ≠ '\\')

/-- A string between two quotes. -/
def quoted (quote : Char) : Ways := both (word [quote]) (both (many (quotedItem quote)) (word [quote]))

/-- Digits, and a point if digits follow it. -/
def number : Ways := both (run isDecimalDigit) (maybe (both (word ['.']) (run isDecimalDigit)))

/-- A name, which may begin with a point. -/
def dottedName : Ways := both (maybe (word ['.'])) (both (one isNameStart) (maybe (run isDottedChar)))

/-- The rules of a mode, behind a character on the same line.  A mode that is not known has none. -/
def Mode.rules (before : Option Char) : Mode → List Rule
  | root =>
    [ ⟨word ['/', '*'], .comment, .enter .comment⟩,
      { pattern := lineComment before, kind := .comment },
      ⟨word ('{' :: "literal\x7d".toList), .keyword, .enter .literal⟩,
      ⟨both (word ['{']) command, .keyword, .enter .tag⟩,
      ⟨word ['{'], .punctuation, .enter .tag⟩,
      { pattern := run fun d => d ≠ '{' && d ≠ '/' && d ≠ '\n', kind := .other },
      { pattern := word ['/'], kind := .other },
      { pattern := word ['\n'], kind := .text } ]
  | tag =>
    [ ⟨closing, .keyword, .leave⟩,
      { pattern := run isBlank, kind := .text },
      { pattern := quoted '\'', kind := .string },
      { pattern := quoted '"', kind := .string },
      { pattern := one fun d => d = '\'' || d = '"', kind := .string },
      { pattern := both (word ['$']) (run isDottedChar), kind := .name },
      { pattern := number, kind := .number },
      { pattern := dottedName, kind := .name },
      { pattern := one fun d => !isBlank d && d ≠ '}' && d ≠ '\'' && d ≠ '"' && d ≠ '$' && !isWordChar d
        kind := .operator } ]
  | comment =>
    [ { pattern := run (· ≠ '*'), kind := .comment },
      ⟨word ['*', '/'], .comment, .leave⟩,
      { pattern := word ['*'], kind := .comment } ]
  | literal =>
    [ ⟨word ('{' :: "/literal\x7d".toList), .keyword, .leave⟩,
      { pattern := run (· ≠ '{'), kind := .string },
      { pattern := word ['{'], kind := .string } ]
  | unknown _ => []

/-- What the first rule takes that takes anything. -/
def firstMatch (cs : List Char) : List Rule → Option (List Char × Kind × Move)
  | [] => none
  | rule :: rules =>
    match taken? rule.pattern cs with
    | some text => some (text, rule.kind, rule.move)
    | none => firstMatch cs rules

/-! ## What the patterns take -/

lemma taken?_word_one (a c : Char) (cs : List Char) :
    taken? (word [a]) (c :: cs) = if c = a then some [a] else none := by
  rw [taken?_word]
  simp [List.isPrefixOf, eq_comm (a := a)]

lemma taken?_word_cons (a : Char) (text : List Char) (c : Char) (cs : List Char) :
    taken? (word (a :: text)) (c :: cs) = if c = a ∧ text.isPrefixOf cs then some (a :: text) else none := by
  simp only [taken?_word, List.isPrefixOf_cons_cons, Bool.and_eq_true, beq_iff_eq, eq_comm (a := a)]

lemma taken?_word_two (a b c : Char) (cs : List Char) :
    taken? (word [a, b]) (c :: cs) = if c = a ∧ cs.head? = some b then some [a, b] else none := by
  rw [taken?_word]
  cases cs with
  | nil => simp [List.isPrefixOf]
  | cons d cs => simp [List.isPrefixOf, eq_comm (a := a), eq_comm (a := b)]

/-- A pattern behind one given character. -/
lemma taken?_both_word (a : Char) (pattern : Ways) (c : Char) (cs : List Char) :
    taken? (both (word [a]) pattern) (c :: cs)
      = if c = a then (taken? pattern cs).map (a :: ·) else none := by
  rw [taken?, taken?]
  split_ifs with h
  · have hway : word [a] (c :: cs) = [([a], cs)] := by
      rw [word_cons, if_pos h]
      rfl
    rw [head?_both_single hway, Option.map_map, Option.map_map]
    rfl
  · rw [both_of_nil (by rw [word_cons, if_neg h])]
    rfl

lemma taken?_lineComment (before : Option Char) (c : Char) (cs : List Char) :
    taken? (lineComment before) (c :: cs)
      = if c = '/' ∧ cs.head? = some '/' ∧ mayStartLineComment before
        then some (c :: cs.takeWhile (· ≠ '\n')) else none := by
  rw [lineComment, taken?_provided, word_two, both_assoc, taken?_both_word]
  cases cs with
  | nil => simp [taken?, both, word]
  | cons d ds =>
      rw [taken?_both_word, taken?_maybe_run]
      by_cases hc : c = '/'
      · by_cases hd : d = '/' <;> simp [hc, hd]
      · simp [hc]

lemma taken?_closing (c : Char) (cs : List Char) :
    taken? closing (c :: cs)
      = if c = '}' then some ['}']
        else if c = '/' ∧ cs.head? = some '}' then some ['/', '}']
        else none := by
  rw [closing, taken?_both_maybe, taken?_both_word, taken?_word_one]
  by_cases hclose : c = '}'
  · simp [hclose]
  by_cases hslash : c = '/'
  · cases cs with
    | nil => simp [hslash, taken?, word]
    | cons d ds => by_cases hd : d = '}' <;> simp [hslash, taken?_word_one, hd]
  · simp [hclose, hslash]

/-- A word that is known by its first letter. -/
lemma taken?_one_run (first others : Char → Bool) (c : Char) (cs : List Char) :
    taken? (both (one first) (maybe (run others))) (c :: cs)
      = if first c then some (c :: cs.takeWhile others) else none := by
  rw [taken?_both_one, taken?_maybe_run]
  rfl

lemma taken?_command (cs : List Char) :
    taken? command cs = (commandLength? cs).map fun length => cs.take length := by
  rw [command, taken?_both_maybe]
  fun_cases commandLength? cs with
  | case1 c cs hletter =>
      rw [taken?_both_word, if_pos rfl, taken?_one_run, if_pos hletter]
      simp [Nat.add_comm 2, take_runLength]
  | case2 c cs hletter =>
      rw [taken?_both_word, if_pos rfl, taken?_one_run, taken?_one_run, if_neg hletter]
      rfl
  | case3 c cs hslash hletter =>
      have hc : c ≠ '/' := by
        rintro rfl
        exact absurd hletter (by decide)
      rw [taken?_both_word, if_neg hc, taken?_one_run, if_pos hletter]
      simp [Nat.add_comm 1, take_runLength]
  | case4 c cs hslash hletter =>
      rw [taken?_both_word, taken?_one_run, if_neg hletter]
      split_ifs with hc
      · cases cs with
        | nil => rfl
        | cons d ds => exact absurd rfl (hslash d ds hc)
      · rfl
  | case5 => rfl

lemma taken?_run_runLength (p : Char → Bool) (cs : List Char) :
    taken? (run p) cs = if runLength p cs = 0 then none else some (cs.takeWhile p) := by
  cases cs with
  | nil => rfl
  | cons c cs =>
      rw [taken?_run]
      cases hc : p c <;> simp [runLength, hc]

/-- The characters of a number behind its whole part. -/
def fraction : List Char → List Char
  | '.' :: cs => if runLength isDecimalDigit cs = 0 then [] else '.' :: cs.takeWhile isDecimalDigit
  | _ => []

lemma drop_runLength (p : Char → Bool) (cs : List Char) : cs.drop (runLength p cs) = cs.dropWhile p := by
  have hsplit : (cs.takeWhile p ++ cs.dropWhile p).drop (cs.takeWhile p).length = cs.dropWhile p := List.drop_left
  rwa [List.takeWhile_append_dropWhile] at hsplit

lemma take_numberLength (cs : List Char) :
    cs.take (numberLength cs) = cs.takeWhile isDecimalDigit ++ fraction (cs.dropWhile isDecimalDigit) := by
  rw [numberLength, ← drop_runLength]
  have htake (count : Nat) : cs.take (runLength isDecimalDigit cs + count)
      = cs.takeWhile isDecimalDigit ++ (cs.drop (runLength isDecimalDigit cs)).take count := by
    rw [List.take_add, take_runLength]
  split
  · rename_i ds hrest
    rw [hrest, fraction]
    dsimp only
    split_ifs with hnone
    · rw [take_runLength, List.append_nil]
    · rw [Nat.add_assoc, htake, hrest, Nat.add_comm 1, List.take_succ_cons, take_runLength]
  · rename_i hrest
    rw [take_runLength, fraction, List.append_nil]
    exact hrest

lemma taken?_fraction (cs : List Char) :
    taken? (maybe (both (word ['.']) (run isDecimalDigit))) cs = some (fraction cs) := by
  rw [taken?_maybe]
  fun_cases fraction cs with
  | case1 cs hnone =>
      rw [taken?_both_word, if_pos rfl, taken?_run_runLength, if_pos hnone]
      rfl
  | case2 cs hsome =>
      rw [taken?_both_word, if_pos rfl, taken?_run_runLength, if_neg hsome]
      rfl
  | case3 =>
      rename_i hpoint
      cases cs with
      | nil => rfl
      | cons c cs =>
          rw [taken?_both_word, if_neg fun hc => hpoint cs (by rw [hc])]
          rfl

lemma taken?_number (c : Char) (cs : List Char) :
    taken? number (c :: cs) = if isDecimalDigit c then some (c :: cs.take (numberLength cs)) else none := by
  rw [number]
  split_ifs with hc
  · have hwhole : (run isDecimalDigit (c :: cs)).head?
        = some (c :: cs.takeWhile isDecimalDigit, cs.dropWhile isDecimalDigit) := by
      rw [head?_run_cons, if_pos hc]
    rw [taken?_both_first hwhole (taken?_fraction _), take_numberLength]
    rfl
  · have hnone : run isDecimalDigit (c :: cs) = [] := by
      rw [run, if_neg hc]
    rw [taken?, both_of_nil hnone]
    rfl

lemma taken?_dottedName (c : Char) (cs : List Char) :
    taken? dottedName (c :: cs)
      = if isNameStart c || (c == '.' && cs.head?.any isNameStart) then some (c :: cs.takeWhile isDottedChar)
        else none := by
  rw [dottedName, taken?_both_maybe, taken?_both_word, taken?_one_run]
  by_cases hc : c = '.'
  · subst hc
    cases cs with
    | nil => decide
    | cons d cs =>
        rw [if_pos rfl, taken?_one_run]
        by_cases hd : isNameStart d
        · simp [hd, isDottedChar_of_isNameStart hd]
        · simp [hd]
  · simp [hc]

/-! ## Strings -/

section
variable {quote : Char}

lemma quotedItem_hidden (quote : Char) {c : Char} (hc : c ≠ '\n') (cs : List Char) :
    quotedItem quote ('\\' :: c :: cs) = [(['\\', c], cs)] := by
  simp [quotedItem, either, both, word, one, hc]

lemma quotedItem_bare {c : Char} (hquote : c ≠ quote) (hslash : c ≠ '\\') (cs : List Char) :
    quotedItem quote (c :: cs) = [([c], cs)] := by
  simp [quotedItem, either, both, word, one, hquote, hslash, hslash.symm]

lemma quotedItem_line (quote : Char) (cs : List Char) : quotedItem quote ('\\' :: '\n' :: cs) = [] := by
  simp [quotedItem, either, both, word, one]

lemma quotedItem_end (quote : Char) : quotedItem quote ['\\'] = [] := by
  simp [quotedItem, either, both, word, one]

lemma quotedItem_quote (hquote : quote ≠ '\\') (cs : List Char) : quotedItem quote (quote :: cs) = [] := by
  simp [quotedItem, either, both, word, one, hquote.symm]

lemma word_other {c d : Char} (h : c ≠ d) (cs : List Char) : word [d] (c :: cs) = [] := by
  rw [word_cons, if_neg h]

/-- Items and the quote behind them, where as many items are tried as the text can have. -/
lemma head?_items (hquote : quote ≠ '\\') (cs : List Char) :
    ∀ {count : Nat}, cs.length ≤ count →
      (both (upTo (quotedItem quote) count) (word [quote]) cs).head?
        = (quotedLength? quote cs).map fun length => (cs.take length, cs.drop length) := by
  fun_induction quotedLength? quote cs with
  | case1 cs =>
      intro count _
      rw [head?_upTo_of_nil (quotedItem_line quote cs), word_other hquote.symm]
      rfl
  | case2 c cs hc ih =>
      intro count hcount
      rw [List.length_cons, List.length_cons] at hcount
      obtain ⟨fewer, rfl⟩ := Nat.exists_eq_add_of_lt (Nat.zero_lt_of_lt hcount)
      rw [head?_upTo_single (quotedItem_hidden quote hc cs) (word_other hquote.symm _), ih (by omega)]
      simp [Function.comp_def]
  | case3 cs _ =>
      intro count _
      rw [head?_upTo_of_nil (quotedItem_quote hquote cs)]
      simp [word]
  | case4 cs hend hslash =>
      intro count _
      cases cs with
      | nil =>
          rw [head?_upTo_of_nil (quotedItem_end quote), word_other hquote.symm]
          rfl
      | cons c cs => exact absurd rfl (hend c cs rfl)
  | case5 c cs _ hc hslash ih =>
      intro count hcount
      rw [List.length_cons] at hcount
      obtain ⟨fewer, rfl⟩ := Nat.exists_eq_add_of_lt (Nat.zero_lt_of_lt hcount)
      rw [head?_upTo_single (quotedItem_bare hc hslash cs) (word_other hc _), ih (by omega)]
      simp [Function.comp_def]
  | case6 =>
      intro count _
      rw [head?_upTo_of_nil rfl]
      rfl

lemma taken?_quoted (hquote : quote ≠ '\\') (c : Char) (cs : List Char) :
    taken? (quoted quote) (c :: cs)
      = if c = quote then (quotedLength? quote cs).map fun length => c :: cs.take length else none := by
  have hinside : taken? (both (many (quotedItem quote)) (word [quote])) cs
      = (quotedLength? quote cs).map fun length => cs.take length := by
    rw [taken?, both, many, ← both, head?_items hquote cs le_rfl, Option.map_map]
    rfl
  rw [quoted, taken?_both_word, hinside, Option.map_map]
  split_ifs with hc
  · rw [hc]
    rfl
  · rfl

end

/-! ## The first match -/

/-- What a cut takes of the characters in front, as what, and what becomes of the modes. -/
def Cut.taken (c : Char) (cs : List Char) (cut : Cut) : List Char × Kind × Move :=
  (c :: cs.take cut.extra, cut.kind, cut.move)

/-- What is taken where no rule takes anything. -/
def unmatched (c : Char) : List Char × Kind × Move := ([c], .other, .stay)

lemma firstMatch_cons_some {cs text : List Char} {rule : Rule} (h : taken? rule.pattern cs = some text)
    (rules : List Rule) : firstMatch cs (rule :: rules) = some (text, rule.kind, rule.move) := by
  rw [firstMatch, h]

lemma firstMatch_cons_none {cs : List Char} {rule : Rule} (h : taken? rule.pattern cs = none) (rules : List Rule) :
    firstMatch cs (rule :: rules) = firstMatch cs rules := by
  rw [firstMatch, h]

lemma firstMatch_comment (before : Option Char) (c : Char) (cs : List Char) :
    (firstMatch (c :: cs) (Mode.comment.rules before)).getD (unmatched c) = (commentCut c cs).taken c cs := by
  rw [commentCut, Mode.rules]
  split_ifs with hc hd
  · simp [firstMatch, taken?_run, taken?_word_two, hc, hd, Cut.taken, List.take_one]
  · simp [firstMatch, taken?_run, taken?_word_two, taken?_word_one, hc, hd, Cut.taken]
  · simp [firstMatch, taken?_run, hc, Cut.taken, take_runLength]

/-- A word that the text goes on with is what stands there. -/
lemma take_of_isPrefixOf {text cs : List Char} (h : text.isPrefixOf cs = true) : cs.take text.length = text :=
  (List.prefix_iff_eq_take.mp (List.isPrefixOf_iff_prefix.mp h)).symm

lemma firstMatch_literal (before : Option Char) (c : Char) (cs : List Char) :
    (firstMatch (c :: cs) (Mode.literal.rules before)).getD (unmatched c) = (literalCut c cs).taken c cs := by
  rw [literalCut, Mode.rules]
  split_ifs with hc hd
  · have htake : cs.take 9 = "/literal\x7d".toList := take_of_isPrefixOf hd
    rw [firstMatch_cons_some (by rw [taken?_word_cons, if_pos ⟨hc, hd⟩])]
    simp only [Cut.taken, htake, hc, Option.getD_some]
  · rw [firstMatch_cons_none (by rw [taken?_word_cons, if_neg fun h => hd h.2])]
    simp [firstMatch, taken?_run, taken?_word_one, hc, Cut.taken]
  · rw [firstMatch_cons_none (by rw [taken?_word_cons, if_neg fun h => hc h.1])]
    simp [firstMatch, taken?_run, hc, Cut.taken, take_runLength]

lemma firstMatch_root (before : Option Char) (c : Char) (cs : List Char) :
    (firstMatch (c :: cs) (Mode.root.rules before)).getD (unmatched c) = (rootCut before c cs).taken c cs := by
  rw [rootCut, Mode.rules]
  by_cases hslash : c = '/'
  · rw [if_pos hslash]
    by_cases hstar : cs.head? = some '*'
    · simp [firstMatch, taken?_word_two, hslash, hstar, Cut.taken, List.take_one]
    rw [if_neg hstar, firstMatch_cons_none (by rw [taken?_word_two, if_neg (hstar ·.2)])]
    split_ifs with hline
    · rw [Bool.and_eq_true, decide_eq_true_eq] at hline
      rw [firstMatch_cons_some (by rw [taken?_lineComment, if_pos ⟨hslash, hline⟩]), Cut.taken, take_runLength]
      rfl
    · rw [Bool.and_eq_true, decide_eq_true_eq] at hline
      rw [firstMatch_cons_none (by rw [taken?_lineComment, if_neg (hline ·.2)])]
      simp [firstMatch, taken?_both_word, taken?_run, taken?_word_cons, hslash, Cut.taken]
  rw [if_neg hslash, firstMatch_cons_none (by simp [taken?_word_two, hslash]),
    firstMatch_cons_none (by rw [taken?_lineComment, if_neg (hslash ·.1)])]
  by_cases hopen : c = '{'
  · rw [if_pos hopen]
    split_ifs with hliteral
    · have htake : cs.take 8 = "literal\x7d".toList := take_of_isPrefixOf hliteral
      rw [firstMatch_cons_some (by rw [taken?_word_cons, if_pos ⟨hopen, hliteral⟩])]
      simp only [Cut.taken, htake, hopen, Option.getD_some]
    · rw [firstMatch_cons_none (by rw [taken?_word_cons, if_neg fun h => hliteral h.2])]
      cases hlength : commandLength? cs with
      | none => simp [firstMatch, taken?_both_word, taken?_command, taken?_word_one, hopen, hlength, Cut.taken]
      | some length => simp [firstMatch, taken?_both_word, taken?_command, hopen, hlength, Cut.taken]
  · rw [if_neg hopen, firstMatch_cons_none (by rw [taken?_word_cons, if_neg fun h => hopen h.1])]
    split_ifs with hline
    · simp [firstMatch, taken?_both_word, taken?_run, taken?_word_one, hline, Cut.taken]
    · simp [firstMatch, taken?_both_word, taken?_run, taken?_word_one, hopen, hslash, hline, Cut.taken,
        take_runLength]

/-- What is in front of a token of a tag that is neither its end, a blank nor a quote. -/
lemma firstMatch_word {c : Char} {cs : List Char} (hclose : c ≠ '}') (hslash : ¬(c = '/' ∧ cs.head? = some '}'))
    (hblank : isBlank c = false) (hsingle : c ≠ '\'') (hdouble : c ≠ '"') (before : Option Char) :
    (firstMatch (c :: cs) (Mode.tag.rules before)).getD (unmatched c) = (wordCut c cs).taken c cs := by
  rw [Mode.rules, firstMatch_cons_none (by simp [taken?_closing, hclose, hslash]),
    firstMatch_cons_none (by simp [taken?_run, hblank]), firstMatch_cons_none (by simp [taken?_quoted, hsingle]),
    firstMatch_cons_none (by simp [taken?_quoted, hdouble]),
    firstMatch_cons_none (by simp [taken?_one, hsingle, hdouble]), wordCut]
  by_cases hvar : c = '$'
  · subst hvar
    rw [if_pos rfl]
    dsimp only
    split_ifs with hnone
    · rw [firstMatch_cons_none (by rw [taken?_both_word, if_pos rfl, taken?_run_runLength, if_pos hnone]; rfl),
        firstMatch_cons_none (by rw [taken?_number, if_neg (by decide)]),
        firstMatch_cons_none (by rw [taken?_dottedName, if_neg (by simp; decide)]),
        firstMatch_cons_none (by rw [taken?_one, if_neg (by simp)])]
      rfl
    · rw [firstMatch_cons_some (by rw [taken?_both_word, if_pos rfl, taken?_run_runLength, if_neg hnone]; rfl),
        Cut.taken, take_runLength]
      rfl
  rw [if_neg hvar, firstMatch_cons_none (by rw [taken?_both_word, if_neg hvar])]
  by_cases hdigit : isDecimalDigit c
  · rw [if_pos hdigit, firstMatch_cons_some (by rw [taken?_number, if_pos hdigit])]
    rfl
  rw [if_neg hdigit, firstMatch_cons_none (by rw [taken?_number, if_neg hdigit])]
  by_cases hname : isNameStart c || (c == '.' && cs.head?.any isNameStart)
  · rw [if_pos hname, firstMatch_cons_some (by rw [taken?_dottedName, if_pos hname]), Cut.taken, take_runLength]
    rfl
  rw [if_neg hname, firstMatch_cons_none (by rw [taken?_dottedName, if_neg hname])]
  split_ifs with hword
  · rw [firstMatch_cons_none (by simp [taken?_one, hword])]
    rfl
  · rw [firstMatch_cons_some (by rw [taken?_one, if_pos (by simp [hblank, hclose, hsingle, hdouble, hvar, hword])])]
    rfl

/-- A quote in front of a tag opens a string, if there is one to close it. -/
lemma firstMatch_quote {c : Char} (hquote : c = '\'' ∨ c = '"') (before : Option Char) (cs : List Char) :
    firstMatch (c :: cs) (Mode.tag.rules before)
      = some (c :: cs.take ((quotedLength? c cs).getD 0), .string, .stay) := by
  have hclosing : taken? closing (c :: cs) = none := by
    rcases hquote with rfl | rfl <;> simp [taken?_closing]
  have hblank : taken? (run isBlank) (c :: cs) = none := by
    rcases hquote with rfl | rfl <;> rw [taken?_run, if_neg (by decide)]
  rw [Mode.rules, firstMatch_cons_none hclosing, firstMatch_cons_none hblank]
  rcases hquote with rfl | rfl
  · cases hlength : quotedLength? '\'' cs <;>
      simp [firstMatch, taken?_quoted, taken?_one, hlength]
  · cases hlength : quotedLength? '"' cs <;>
      simp [firstMatch, taken?_quoted, taken?_one, hlength]

lemma firstMatch_tag (before : Option Char) (c : Char) (cs : List Char) :
    (firstMatch (c :: cs) (Mode.tag.rules before)).getD (unmatched c) = (tagCut c cs).taken c cs := by
  rw [tagCut]
  split_ifs with hclose hslash hblank hquote
  · simp [Mode.rules, firstMatch, taken?_closing, hclose, Cut.taken]
  · rw [Bool.and_eq_true, decide_eq_true_eq, decide_eq_true_eq] at hslash
    simp [Mode.rules, firstMatch, taken?_closing, hslash, Cut.taken, List.take_one]
  · have hfirst : ¬(c = '/' ∧ cs.head? = some '}') := by simpa using hslash
    simp [Mode.rules, firstMatch, taken?_closing, hclose, hfirst, Cut.taken, taken?_run, hblank, take_runLength]
  · rw [Bool.or_eq_true, decide_eq_true_eq, decide_eq_true_eq] at hquote
    rw [firstMatch_quote hquote]
    cases quotedLength? c cs <;> rfl
  · have hfirst : ¬(c = '/' ∧ cs.head? = some '}') := by simpa using hslash
    simp only [Bool.or_eq_true, decide_eq_true_eq, not_or] at hquote
    exact firstMatch_word hclose hfirst (by simpa using hblank) hquote.1 hquote.2 before

/-- A mode that is known cuts the characters in front as the first of its rules does that takes any of them. -/
theorem Mode.cut?_eq_firstMatch {mode : Mode} (hknown : mode ∈ known) (before : Option Char) (c : Char)
    (cs : List Char) :
    (mode.cut? before c cs).map (Cut.taken c cs)
      = some ((firstMatch (c :: cs) (mode.rules before)).getD (unmatched c)) := by
  cases mode with
  | root => rw [firstMatch_root]; rfl
  | comment => rw [firstMatch_comment]; rfl
  | literal => rw [firstMatch_literal]; rfl
  | tag => rw [firstMatch_tag]; rfl
  | unknown name => simp [known] at hknown

/-- Some rule takes every line feed, so that the default is never needed for one. -/
theorem Mode.firstMatch_newline {mode : Mode} (hknown : mode ∈ known) (before : Option Char) (cs : List Char) :
    (firstMatch ('\n' :: cs) (mode.rules before)).isSome := by
  cases mode with
  | root => simp [rules, firstMatch, taken?_word_cons, taken?_lineComment, taken?_both_word, taken?_run]
  | comment => simp [rules, firstMatch, taken?_run]
  | literal => simp [rules, firstMatch, taken?_word_cons, taken?_run]
  | tag =>
      rw [rules, firstMatch_cons_none (by simp [taken?_closing]),
        firstMatch_cons_some (by rw [taken?_run, if_pos (by decide)])]
      rfl
  | unknown name => simp [known] at hknown

end TemplateAtlas.Soy
