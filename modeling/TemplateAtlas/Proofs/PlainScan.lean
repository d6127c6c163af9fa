import Mathlib.Data.List.TakeWhile
import Mathlib.Tactic.Common
import TemplateAtlas.Proofs.Regions
import TemplateAtlas.Proofs.TextLines

/-!
# The end of a block, character by character

The search for the end of a block goes line by line through a lexer with rules, runs and a stack.  What
it finds can be said without any of that: one scan over the characters, from left to right, which knows
the four regions and nothing else.

* `scan` — the scan.  It carries over line feeds as over any other character; `fresh` says that a line
  comment may start here, and `offset` counts the characters.
* `scanEnd` — the offset just past the closing command, or the length of the text.
* **`blockEnd_eq_scanEnd`** — the search finds what the scan finds, for every text and every start.

**How the two are compared.**  One token of the lexer is one or more steps of the scan
(`scan_token`), and the tokens of a line are all the steps up to its line feed (`scan_line`).  A run
of characters that are passed over one by one is dealt with once (`scan_run`).
-/

namespace TemplateAtlas.Soy

open Text

/-! ## The scan -/

/-- An ASCII letter in front and all word characters after it. -/
def letterWord? : List Char → Option (List Char)
  | [] => none
  | c :: cs => if isAsciiLetter c then some (c :: cs.takeWhile isWordChar) else none

/-- What a command word is after its brace: a slash or none, and an ASCII letter with all word
characters after it. -/
def commandWord? : List Char → Option (List Char)
  | '/' :: cs => (letterWord? cs).map ('/' :: ·)
  | cs => letterWord? cs

/-- The number of characters up to and including the first quote that is not escaped, if there is one
before the end of the line. -/
def quoteEnd? (quote : Char) (escaped : Bool) : List Char → Option Nat
  | [] => none
  | c :: cs =>
    if c = '\n' then none
    else if !escaped && c = quote then some 1
    else (quoteEnd? quote (!escaped && c = '\\') cs).map (· + 1)

/-- The number of characters that a quoted string takes after the character in front, if that is a
quote and the string is closed on its line. -/
def stringEnd? (c : Char) (cs : List Char) : Option Nat :=
  if c = '\'' || c = '"' then quoteEnd? c false cs else none

/-- The offset just past the first closing command, scanning the characters from an offset on.  `fresh`
says that the scan stands at its start, at the start of a line, or behind a blank. -/
def scan (region : Region) (fresh : Bool) (offset : Nat) (text : List Char) : Option Nat :=
  match text with
  | [] => none
  | c :: cs =>
    match region with
    | .root =>
      if c = '/' && cs.head? = some '*' then scan .comment false (offset + 2) cs.tail
      else if fresh && c = '/' && cs.head? = some '/' then
        scan .root false (offset + 1 + (cs.takeWhile (· ≠ '\n')).length) (cs.dropWhile (· ≠ '\n'))
      else if "\x7bliteral\x7d".toList.isPrefixOf (c :: cs) then
        scan .literal false (offset + 9) (cs.drop 8)
      else if c = '{' then
        match commandWord? cs with
        | some word =>
          if '{' :: word = "\x7b/template".toList then some (offset + 1 + word.length)
          else scan .tag false (offset + 1 + word.length) (cs.drop word.length)
        | none => scan .tag false (offset + 1) cs
      else scan .root (isBlank c) (offset + 1) cs
    | .comment =>
      if c = '*' && cs.head? = some '/' then scan .root false (offset + 2) cs.tail
      else scan .comment (isBlank c) (offset + 1) cs
    | .literal =>
      if "\x7b/literal\x7d".toList.isPrefixOf (c :: cs) then
        scan .root false (offset + 10) (cs.drop 9)
      else scan .literal (isBlank c) (offset + 1) cs
    | .tag =>
      if c = '}' then scan .root false (offset + 1) cs
      else
        match stringEnd? c cs with
        | some length => scan .tag false (offset + 1 + length) (cs.drop length)
        | none => scan .tag (isBlank c) (offset + 1) cs
termination_by text.length
decreasing_by
  all_goals simp only [List.length_drop, List.length_tail, List.length_cons]
  all_goals try omega
  have hle := (List.dropWhile_suffix (fun x : Char => decide (x ≠ '\n')) (l := cs)).length_le
  omega

/-- The end of the block that starts at an offset: just past its closing command, or at the end of the
text if there is none. -/
def scanEnd (text : List Char) (start : Nat) : Nat :=
  (scan .root true start (text.drop start)).getD text.length

/-! ## Runs -/

lemma take_runLength (p : Char → Bool) (cs : List Char) :
    cs.take (runLength p cs) = cs.takeWhile p := by
  nth_rewrite 2 [← List.takeWhile_append_dropWhile (p := p) (l := cs)]
  rw [runLength, List.take_left]

/-- A line comment may start after a piece of text that was passed over. -/
def freshAfter (fresh : Bool) (run : List Char) : Bool :=
  (run.getLast?.map isBlank).getD fresh

lemma freshAfter_cons (fresh : Bool) (c : Char) (run : List Char) :
    freshAfter fresh (c :: run) = freshAfter (isBlank c) run := by
  cases run with
  | nil => rfl
  | cons d run => simp [freshAfter, List.getLast?_cons]

/-- A region passes over a character when it takes no more than that character and stays. -/
def Passes (region : Region) (c : Char) : Prop :=
  ∀ (fresh : Bool) (offset : Nat) (cs : List Char),
    scan region fresh offset (c :: cs) = scan region (isBlank c) (offset + 1) cs

/-- Characters that are passed over one by one. -/
lemma scan_run {region : Region} : ∀ (run : List Char), (∀ c ∈ run, Passes region c) →
    ∀ (fresh : Bool) (offset : Nat) (rest : List Char),
      scan region fresh offset (run ++ rest)
        = scan region (freshAfter fresh run) (offset + run.length) rest
  | [], _, fresh, offset, rest => by simp [freshAfter]
  | c :: run, h, fresh, offset, rest => by
      rw [List.cons_append, h c (by simp), scan_run run (fun d hd => h d (by simp [hd])),
        freshAfter_cons, List.length_cons]
      congr 1
      omega

lemma passes_root {c : Char} (hslash : c ≠ '/') (hbrace : c ≠ '{') : Passes .root c := by
  intro fresh offset cs
  rw [scan.eq_def]
  simp [hslash, hbrace, Ne.symm hbrace]

lemma passes_comment {c : Char} (h : c ≠ '*') : Passes .comment c := by
  intro fresh offset cs
  rw [scan.eq_def]
  simp [h]

lemma passes_literal {c : Char} (h : c ≠ '{') : Passes .literal c := by
  intro fresh offset cs
  rw [scan.eq_def]
  simp [Ne.symm h]

/-- A character that is nothing special inside a tag. -/
def isPlain (c : Char) : Bool := c ≠ '}' && c ≠ '\'' && c ≠ '"'

lemma passes_tag {c : Char} (h : isPlain c = true) : Passes .tag c := by
  intro fresh offset cs
  simp only [isPlain, Bool.and_eq_true, decide_eq_true_eq] at h
  obtain ⟨⟨hbrace, hsingle⟩, hdouble⟩ := h
  rw [scan.eq_def]
  simp [hbrace, stringEnd?, hsingle, hdouble]

/-- Only in ordinary text it matters whether a line comment may start. -/
lemma scan_fresh {region : Region} (h : region ≠ .root) (fresh fresh' : Bool) (offset : Nat)
    (text : List Char) : scan region fresh offset text = scan region fresh' offset text := by
  cases text with
  | nil => rw [scan.eq_def, scan.eq_def]
  | cons c cs =>
      rw [scan.eq_def, scan.eq_def region fresh']
      cases region with
      | root => exact absurd rfl h
      | comment => rfl
      | literal => rfl
      | tag => rfl

/-- Every region passes over a line feed, and a line comment may start after it. -/
lemma scan_newline (region : Region) (fresh : Bool) (offset : Nat) (text : List Char) :
    scan region fresh offset ('\n' :: text) = scan region true (offset + 1) text := by
  have hpasses : Passes region '\n' := by
    cases region with
    | root => exact passes_root (by decide) (by decide)
    | comment => exact passes_comment (by decide)
    | literal => exact passes_literal (by decide)
    | tag => exact passes_tag (by decide)
  exact hpasses fresh offset text

/-- What follows a line: nothing, or a line feed and more. -/
def AfterLine (text : List Char) : Prop := text = [] ∨ ∃ more, text = '\n' :: more

lemma scan_afterLine {tail : List Char} (h : AfterLine tail) (region : Region)
    (fresh fresh' : Bool) (offset : Nat) :
    scan region fresh offset tail = scan region fresh' offset tail := by
  rcases h with rfl | ⟨more, rfl⟩
  · rw [scan.eq_def, scan.eq_def]
  · rw [scan_newline, scan_newline]

/-! ## Quoted strings and command words -/

/-- On one line the two ways to look for the end of a quoted string agree. -/
lemma quoteEnd?_eq_quotedLength? {quote : Char} (hquote : quote ≠ '\\') {tail : List Char}
    (htail : AfterLine tail) (cs : List Char) (hline : '\n' ∉ cs) :
    quoteEnd? quote false (cs ++ tail) = quotedLength? quote cs := by
  induction cs using quotedLength?.induct quote with
  | case1 cs =>
      -- a backslash before a line feed
      simp at hline
  | case2 c cs hc ih =>
      have hcs : '\n' ∉ cs := fun hm => hline (by simp [hm])
      have hslash : '\\' ≠ quote := Ne.symm hquote
      simp [quoteEnd?, quotedLength?, hc, hslash, ih hcs, Function.comp_def]
  | case3 cs h =>
      have hquote' : quote ≠ '\n' := fun he => hline (by simp [he])
      simp [quoteEnd?, quotedLength?.eq_2 _ _ _ h, hquote']
  | case4 cs h hne =>
      cases cs with
      | cons d cs => exact (h d cs rfl rfl).elim
      | nil =>
          rcases htail with rfl | ⟨more, rfl⟩ <;> simp [quoteEnd?, quotedLength?, hne]
  | case5 c cs h hne hslash ih =>
      have hcs : '\n' ∉ cs := fun hm => hline (by simp [hm])
      have hc : c ≠ '\n' := fun he => hline (by simp [he])
      simp [quoteEnd?, quotedLength?.eq_2 _ _ _ h, hne, hslash, hc, ih hcs]
  | case6 =>
      rcases htail with rfl | ⟨more, rfl⟩ <;> simp [quoteEnd?, quotedLength?]

lemma quotedLength?_le {quote : Char} : ∀ {cs : List Char} {length : Nat},
    quotedLength? quote cs = some length → length ≤ cs.length := by
  intro cs
  induction cs using quotedLength?.induct quote with
  | case1 cs => intro length h; simp [quotedLength?] at h
  | case2 c cs hc ih =>
      intro length h
      rw [quotedLength?.eq_1, if_neg hc, Option.map_eq_some_iff] at h
      obtain ⟨inner, hinner, rfl⟩ := h
      have hle := ih hinner
      simp only [List.length_cons]
      omega
  | case3 cs h =>
      intro length hlength
      rw [quotedLength?.eq_2 _ _ _ h, if_pos rfl, Option.some.injEq] at hlength
      simp only [List.length_cons]
      omega
  | case4 cs h hne =>
      intro length hlength
      simp [quotedLength?.eq_2 _ _ _ h, hne] at hlength
  | case5 c cs h hne hslash ih =>
      intro length hlength
      rw [quotedLength?.eq_2 _ _ _ h, if_neg hne, if_neg hslash, Option.map_eq_some_iff] at hlength
      obtain ⟨inner, hinner, rfl⟩ := hlength
      have hle := ih hinner
      simp only [List.length_cons]
      omega
  | case6 => intro length h; simp [quotedLength?] at h

/-- A run that a line feed ends does not depend on what follows the line. -/
lemma takeWhile_afterLine {p : Char → Bool} (hp : p '\n' = false) {tail : List Char}
    (htail : AfterLine tail) (cs : List Char) :
    (cs ++ tail).takeWhile p = cs.takeWhile p := by
  have hnil : tail.takeWhile p = [] := by
    rcases htail with rfl | ⟨more, rfl⟩ <;> simp [hp]
  induction cs with
  | nil => simpa using hnil
  | cons c cs ih => simp [List.takeWhile_cons, ih]

lemma letterWord?_afterLine {tail : List Char} (htail : AfterLine tail) (cs : List Char) :
    letterWord? (cs ++ tail) = letterWord? cs := by
  cases cs with
  | nil =>
      rcases htail with rfl | ⟨more, rfl⟩
      · rfl
      · simp [letterWord?, (by decide : isAsciiLetter '\n' = false)]
  | cons c cs =>
      simp [letterWord?, takeWhile_afterLine (by decide : isWordChar '\n' = false) htail]

lemma commandWord?_afterLine {tail : List Char} (htail : AfterLine tail) (cs : List Char) :
    commandWord? (cs ++ tail) = commandWord? cs := by
  by_cases hslash : ∃ ds, cs = '/' :: ds
  · obtain ⟨ds, rfl⟩ := hslash
    rw [List.cons_append, commandWord?, commandWord?, letterWord?_afterLine htail]
  · have htext : ∀ ds, cs ++ tail ≠ '/' :: ds := by
      intro ds heq
      cases cs with
      | nil => rcases htail with rfl | ⟨more, rfl⟩ <;> simp at heq
      | cons c cs => exact hslash ⟨cs, by simp_all⟩
    rw [commandWord?.eq_2 _ htext, commandWord?.eq_2 _ fun ds h => hslash ⟨ds, h⟩,
      letterWord?_afterLine htail]

/-- The command word is as long as the grammar says. -/
lemma commandWord?_eq_take (cs : List Char) :
    commandWord? cs = (commandLength? cs).map fun length => cs.take length := by
  match cs with
  | [] => rfl
  | ['/'] => rfl
  | '/' :: c :: cs =>
      rw [commandWord?, letterWord?, commandLength?.eq_1]
      split_ifs
      · simp [Nat.add_comm 2, take_runLength]
      · rfl
  | c :: cs =>
      by_cases hslash : c = '/'
      · subst hslash
        cases cs with
        | nil => rfl
        | cons d cs =>
            rw [commandWord?, letterWord?, commandLength?.eq_1]
            split_ifs
            · simp [Nat.add_comm 2, take_runLength]
            · rfl
      · rw [commandWord?.eq_2 _ (by simp [hslash]), letterWord?,
          commandLength?.eq_2 _ _ (fun _ _ h => absurd h hslash)]
        split_ifs
        · simp [Nat.add_comm 1, take_runLength]
        · rfl

/-- A word on one line stands at the front of the line or not at all. -/
lemma isPrefixOf_afterLine {tail : List Char} (htail : AfterLine tail) :
    ∀ (word cs : List Char), '\n' ∉ word → word.isPrefixOf (cs ++ tail) = word.isPrefixOf cs
  | [], cs, _ => by simp
  | w :: word, [], h => by
      have hw : w ≠ '\n' := fun he => h (by simp [he])
      rcases htail with rfl | ⟨more, rfl⟩ <;> simp [List.isPrefixOf, hw]
  | w :: word, c :: cs, h => by
      have hword : '\n' ∉ word := fun hm => h (by simp [hm])
      simp [List.isPrefixOf, isPrefixOf_afterLine htail word cs hword]

lemma head?_afterLine {tail : List Char} (htail : AfterLine tail) {d : Char} (hd : d ≠ '\n')
    (cs : List Char) : (cs ++ tail).head? = some d ↔ cs.head? = some d := by
  cases cs with
  | nil => rcases htail with rfl | ⟨more, rfl⟩ <;> simp [Ne.symm hd]
  | cons c cs => simp

/-! ## One token -/

/-- The next token is the closing command. -/
def closes (before : Option Char) (c : Char) (cs : List Char) (region : Region) : Bool :=
  (region.cut before c cs).kind = .keyword && region.front before c cs = Block.closing

/-- The scan takes the next token in some number of steps, and ends if it is the closing command. -/
def TakesToken (before : Option Char) (c : Char) (cs tail : List Char) (region : Region) : Prop :=
  ∀ offset : Nat, scan region (mayStartLineComment before) offset (c :: cs ++ tail) =
    if closes before c cs region then some (offset + (region.front before c cs).length)
    else scan (region.next before c cs) (mayStartLineComment (region.front before c cs).getLast?)
      (offset + (region.front before c cs).length) (region.behind before c cs ++ tail)

/-- A token of characters that are passed over. -/
lemma takesToken_of_passes {before : Option Char} {c : Char} {cs : List Char} {region : Region}
    (hkind : (region.cut before c cs).kind ≠ .keyword)
    (hmove : (region.cut before c cs).move = .stay)
    (hpasses : ∀ d ∈ region.front before c cs, Passes region d) (tail : List Char) :
    TakesToken before c cs tail region := by
  intro offset
  have hnext : region.next before c cs = region := by rw [Region.next, hmove]; rfl
  have hfresh : freshAfter (mayStartLineComment before) (region.front before c cs)
      = mayStartLineComment (region.front before c cs).getLast? := by
    simp [freshAfter, Region.front, mayStartLineComment, List.getLast?_cons]
  rw [← region.front_append_behind before c cs, List.append_assoc, scan_run _ hpasses, hfresh,
    hnext]
  simp [closes, hkind]

lemma takesToken_comment (before : Option Char) (c : Char) (cs : List Char) {tail : List Char}
    (htail : AfterLine tail) : TakesToken before c cs tail .comment := by
  by_cases hstar : c = '*'
  · by_cases hslash : cs.head? = some '/'
    · obtain ⟨ds, rfl⟩ : ∃ ds, cs = '/' :: ds := by
        cases cs <;> simp_all
      intro offset
      rw [scan.eq_def]
      subst hstar
      rfl
    · subst hstar
      intro offset
      have hhead : (cs ++ tail).head? ≠ some '/' :=
        mt (head?_afterLine htail (by decide) cs).mp hslash
      rw [scan.eq_def, List.cons_append]
      simp only [hhead, decide_true, decide_false, Bool.and_false, Bool.false_eq_true, if_false]
      simp [hslash, closes, Region.cut, commentCut, Region.front, Region.next, Region.moved,
        Region.behind, mayStartLineComment]
  · refine takesToken_of_passes ?_ ?_ ?_ tail
    · simp [Region.cut, commentCut, hstar]
    · simp [Region.cut, commentCut, hstar]
    · intro d hd
      simp only [Region.front, Region.cut, commentCut, hstar, if_false, take_runLength,
        List.mem_cons] at hd
      rcases hd with rfl | hd
      · exact passes_comment hstar
      · exact passes_comment (by simpa using List.mem_takeWhile_imp hd)

/-- A word at the front of a line, and what is left of the line after it. -/
lemma eq_append_of_isPrefixOf {word cs : List Char} (h : word.isPrefixOf cs = true) :
    ∃ rest, cs = word ++ rest := by
  rw [List.isPrefixOf_iff_prefix] at h
  obtain ⟨rest, hrest⟩ := h
  exact ⟨rest, hrest.symm⟩

lemma takesToken_literal (before : Option Char) (c : Char) (cs : List Char) {tail : List Char}
    (htail : AfterLine tail) : TakesToken before c cs tail .literal := by
  by_cases hbrace : c = '{'
  · subst hbrace
    intro offset
    have htext : "\x7b/literal\x7d".toList.isPrefixOf ('{' :: cs ++ tail)
        = "/literal\x7d".toList.isPrefixOf cs := by
      rw [isPrefixOf_afterLine htail _ _ (by decide)]
      rfl
    rw [scan.eq_def, List.cons_append]
    rw [List.cons_append] at htext
    simp only [htext]
    by_cases hend : "/literal\x7d".toList.isPrefixOf cs = true
    · have hcut : Region.literal.cut before '{' cs = ⟨9, .keyword, .leave⟩ := by
        rw [Region.cut, literalCut, if_pos rfl, if_pos hend]
      obtain ⟨rest, rfl⟩ := eq_append_of_isPrefixOf hend
      rw [if_pos hend]
      simp only [closes, Region.front, Region.next, Region.behind, hcut]
      rfl
    · have hcut : Region.literal.cut before '{' cs = ⟨0, .string, .stay⟩ := by
        rw [Region.cut, literalCut, if_pos rfl, if_neg hend]
      rw [if_neg hend]
      simp [closes, Region.front, Region.next, Region.behind, hcut, Region.moved,
        mayStartLineComment]
  · refine takesToken_of_passes ?_ ?_ ?_ tail
    · simp [Region.cut, literalCut, hbrace]
    · simp [Region.cut, literalCut, hbrace]
    · intro d hd
      simp only [Region.front, Region.cut, literalCut, hbrace, if_false, take_runLength,
        List.mem_cons] at hd
      rcases hd with rfl | hd
      · exact passes_literal hbrace
      · exact passes_literal (by simpa using List.mem_takeWhile_imp hd)

lemma drop_length_take (n : Nat) (cs tail : List Char) :
    (cs ++ tail).drop (cs.take n).length = cs.drop n ++ tail := by
  have hsplit : cs ++ tail = cs.take n ++ (cs.drop n ++ tail) := by
    rw [← List.append_assoc, List.take_append_drop]
  rw [hsplit, List.drop_left]

/-- A line is a run without line feeds. -/
lemma takeWhile_line {cs : List Char} (hline : '\n' ∉ cs) : cs.takeWhile (· ≠ '\n') = cs := by
  rw [List.takeWhile_eq_self_iff]
  intro d hd
  simp only [decide_eq_true_eq]
  exact fun he => hline (he ▸ hd)

/-- A slash in ordinary text starts a comment, a line comment, or nothing. -/
lemma takesToken_root_slash (before : Option Char) {cs tail : List Char} (hline : '\n' ∉ cs)
    (htail : AfterLine tail) : TakesToken before '/' cs tail .root := by
  intro offset
  have hstar := head?_afterLine htail (d := '*') (by decide) cs
  have hslash := head?_afterLine htail (d := '/') (by decide) cs
  rw [scan.eq_def, List.cons_append]
  simp only [hstar, hslash]
  by_cases hcomment : cs.head? = some '*'
  · obtain ⟨ds, rfl⟩ : ∃ ds, cs = '*' :: ds := by
      cases cs <;> simp_all
    exact scan_fresh (by decide) _ _ _ _
  · by_cases hfresh : cs.head? = some '/' ∧ mayStartLineComment before = true
    · have hcut : Region.root.cut before '/' cs = ⟨cs.length, .comment, .stay⟩ := by
        rw [Region.cut, rootCut, if_pos rfl, if_neg hcomment,
          if_pos (by simp [hfresh.1, hfresh.2]), runLength, takeWhile_line hline]
      have hrun : (cs ++ tail).takeWhile (· ≠ '\n') = cs := by
        rw [takeWhile_afterLine (by decide) htail, takeWhile_line hline]
      have hrest : (cs ++ tail).dropWhile (· ≠ '\n') = tail := by
        have happend := List.takeWhile_append_dropWhile (p := (· ≠ '\n')) (l := cs ++ tail)
        rw [hrun] at happend
        exact List.append_cancel_left happend
      rw [hrun, hrest]
      simp only [hfresh.1, hfresh.2, closes, Region.front, Region.next, Region.behind, hcut,
        Region.moved]
      simp [Nat.add_assoc, Nat.add_comm 1]
      exact scan_afterLine htail _ _ _ _
    · have hcut : Region.root.cut before '/' cs = ⟨0, .other, .stay⟩ := by
        rw [Region.cut, rootCut, if_pos rfl, if_neg hcomment, if_neg (by simpa using hfresh)]
      have hnot : ¬ (mayStartLineComment before = true ∧ cs.head? = some '/') :=
        fun h => hfresh h.symm
      simp only [closes, Region.front, Region.next, Region.behind, hcut, Region.moved]
      simp [hcomment, hnot]
      rfl

/-- A brace in ordinary text starts a literal, a command, or some other tag. -/
lemma takesToken_root_brace (before : Option Char) (cs : List Char) {tail : List Char}
    (htail : AfterLine tail) : TakesToken before '{' cs tail .root := by
  intro offset
  have htext : "\x7bliteral\x7d".toList.isPrefixOf ('{' :: (cs ++ tail))
      = "literal\x7d".toList.isPrefixOf cs := by
    rw [← List.cons_append, isPrefixOf_afterLine htail _ _ (by decide)]
    rfl
  have hbrace : ('{' : Char) ≠ '/' := by decide
  rw [scan.eq_def, List.cons_append]
  simp only [htext, hbrace, decide_false, Bool.false_and, Bool.and_false, Bool.false_eq_true,
    if_false, if_true]
  rw [commandWord?_afterLine htail, commandWord?_eq_take]
  by_cases hliteral : "literal\x7d".toList.isPrefixOf cs = true
  · have hcut : Region.root.cut before '{' cs = ⟨8, .keyword, .enter .literal⟩ := by
      rw [Region.cut, rootCut, if_neg hbrace, if_pos rfl, if_pos hliteral]
    obtain ⟨rest, rfl⟩ := eq_append_of_isPrefixOf hliteral
    rw [if_pos hliteral]
    simp only [closes, Region.front, Region.next, Region.behind, hcut]
    exact scan_fresh (by decide) _ _ _ _
  · rw [if_neg hliteral]
    cases hcommand : commandLength? cs with
    | none =>
        have hcut : Region.root.cut before '{' cs = ⟨0, .punctuation, .enter .tag⟩ := by
          rw [Region.cut, rootCut, if_neg hbrace, if_pos rfl, if_neg hliteral, hcommand]
        have hcloses : closes before '{' cs .root = false := by simp [closes, hcut]
        rw [hcloses]
        simp only [Region.front, Region.next, Region.behind, hcut, Region.moved]
        exact scan_fresh (by decide) _ _ _ _
    | some length =>
        have hcut : Region.root.cut before '{' cs = ⟨length, .keyword, .enter .tag⟩ := by
          rw [Region.cut, rootCut, if_neg hbrace, if_pos rfl, if_neg hliteral, hcommand]
        -- kept under its name, the closing word is not taken apart below
        have hword : "\x7b/template".toList = Block.closing := rfl
        rw [hword]
        simp only [closes, Region.front, Region.next, Region.behind, hcut, Region.moved,
          Option.map_some, drop_length_take]
        by_cases hclose : '{' :: cs.take length = Block.closing
        · rw [if_pos hclose, if_pos (by simp [hclose])]
          simp [Nat.add_assoc, Nat.add_comm 1]
        · rw [if_neg hclose, if_neg (by simpa using hclose)]
          rw [List.length_cons, Nat.add_assoc, Nat.add_comm 1]
          exact scan_fresh (by decide) _ _ _ _

lemma takesToken_root (before : Option Char) {c : Char} {cs tail : List Char}
    (hline : '\n' ∉ c :: cs) (htail : AfterLine tail) : TakesToken before c cs tail .root := by
  by_cases hslash : c = '/'
  · subst hslash
    exact takesToken_root_slash before (fun hm => hline (by simp [hm])) htail
  by_cases hbrace : c = '{'
  · subst hbrace
    exact takesToken_root_brace before cs htail
  have hfeed : c ≠ '\n' := fun he => hline (by simp [he])
  have hcut : Region.root.cut before c cs
      = ⟨runLength (fun d => d ≠ '{' && d ≠ '/' && d ≠ '\n') cs, .other, .stay⟩ := by
    rw [Region.cut, rootCut, if_neg hslash, if_neg hbrace, if_neg hfeed]
  refine takesToken_of_passes (by simp [hcut]) (by simp [hcut]) ?_ tail
  intro d hd
  simp only [Region.front, hcut, take_runLength, List.mem_cons] at hd
  rcases hd with rfl | hd
  · exact passes_root hslash hbrace
  · have hplain := List.mem_takeWhile_imp hd
    simp only [Bool.and_eq_true, decide_eq_true_eq] at hplain
    exact passes_root hplain.1.2 hplain.1.1

/-- A class of characters without the three that are special inside a tag. -/
lemma isPlain_of_class {p : Char → Bool} (hbrace : p '}' = false) (hsingle : p '\'' = false)
    (hdouble : p '"' = false) {d : Char} (hd : p d = true) : isPlain d = true := by
  simp only [isPlain, Bool.and_eq_true, decide_eq_true_eq]
  refine ⟨⟨?_, ?_⟩, ?_⟩
  · rintro rfl; simp [hbrace] at hd
  · rintro rfl; simp [hsingle] at hd
  · rintro rfl; simp [hdouble] at hd

lemma isPlain_of_mem_takeWhile {p : Char → Bool} (hbrace : p '}' = false)
    (hsingle : p '\'' = false) (hdouble : p '"' = false) {d : Char} {cs : List Char}
    (hd : d ∈ cs.take (runLength p cs)) : isPlain d = true := by
  rw [take_runLength] at hd
  exact isPlain_of_class hbrace hsingle hdouble (List.mem_takeWhile_imp hd)

/-- A number consists of digits and a point. -/
lemma isPlain_of_mem_number {d : Char} {cs : List Char} (hd : d ∈ cs.take (numberLength cs)) :
    isPlain d = true := by
  simp only [numberLength] at hd
  split at hd
  · rename_i rest hrest
    split_ifs at hd
    · exact isPlain_of_mem_takeWhile (by decide) (by decide) (by decide) hd
    · rw [Nat.add_assoc, List.take_add, hrest, Nat.add_comm 1, List.take_succ_cons,
        List.mem_append, List.mem_cons] at hd
      rcases hd with hd | rfl | hd
      · exact isPlain_of_mem_takeWhile (by decide) (by decide) (by decide) hd
      · decide
      · exact isPlain_of_mem_takeWhile (by decide) (by decide) (by decide) hd
  · exact isPlain_of_mem_takeWhile (by decide) (by decide) (by decide) hd

lemma isPlain_of_mem_word {d c : Char} {cs : List Char}
    (hd : d ∈ cs.take (wordCut c cs).extra) : isPlain d = true := by
  simp only [wordCut] at hd
  split_ifs at hd
  · simp at hd
  · exact isPlain_of_mem_takeWhile (by decide) (by decide) (by decide) hd
  · exact isPlain_of_mem_number hd
  · exact isPlain_of_mem_takeWhile (by decide) (by decide) (by decide) hd
  · simp at hd
  · simp at hd

lemma wordCut_kind (c : Char) (cs : List Char) : (wordCut c cs).kind ≠ .keyword := by
  simp only [wordCut]
  split_ifs <;> simp

/-- A quote inside a tag starts a string, or stands for itself if the string is not closed. -/
lemma takesToken_tag_quote (before : Option Char) {c : Char} (hc : c = '\'' ∨ c = '"')
    {cs tail : List Char} (hline : '\n' ∉ cs) (htail : AfterLine tail) :
    TakesToken before c cs tail .tag := by
  intro offset
  have hbrace : c ≠ '}' := by rcases hc with rfl | rfl <;> decide
  have hslash : c ≠ '/' := by rcases hc with rfl | rfl <;> decide
  have hback : c ≠ '\\' := by rcases hc with rfl | rfl <;> decide
  have hblank : isBlank c = false := by rcases hc with rfl | rfl <;> decide
  have hquote : (decide (c = '\'') || decide (c = '"')) = true := by simpa using hc
  have hend : stringEnd? c (cs ++ tail) = quotedLength? c cs := by
    rw [stringEnd?, if_pos hquote, quoteEnd?_eq_quotedLength? hback htail cs hline]
  rw [scan.eq_def, List.cons_append]
  simp only [hbrace, if_false, hend]
  cases hstring : quotedLength? c cs with
  | none =>
      have hcut : Region.tag.cut before c cs = ⟨0, .string, .stay⟩ := by
        simp [Region.cut, tagCut, hbrace, hslash, hblank, hquote, hstring]
      simp [closes, Region.front, Region.next, Region.behind, hcut, Region.moved,
        mayStartLineComment]
  | some length =>
      have hcut : Region.tag.cut before c cs = ⟨length, .string, .stay⟩ := by
        simp [Region.cut, tagCut, hbrace, hslash, hblank, hquote, hstring]
      have hle := quotedLength?_le hstring
      simp only [closes, Region.front, Region.next, Region.behind, hcut, Region.moved]
      rw [List.drop_append_of_le_length hle, List.length_cons, List.length_take_of_le hle,
        Nat.add_comm length, ← Nat.add_assoc]
      exact scan_fresh (by decide) _ _ _ _

lemma takesToken_tag (before : Option Char) {c : Char} {cs tail : List Char}
    (hline : '\n' ∉ c :: cs) (htail : AfterLine tail) : TakesToken before c cs tail .tag := by
  by_cases hbrace : c = '}'
  · subst hbrace
    intro offset
    rw [scan.eq_def]
    rfl
  by_cases hclose : c = '/' ∧ cs.head? = some '}'
  · obtain ⟨rfl, hhead⟩ := hclose
    obtain ⟨ds, rfl⟩ : ∃ ds, cs = '}' :: ds := by
      cases cs <;> simp_all
    intro offset
    rw [List.cons_append, passes_tag (by decide), List.cons_append, scan.eq_def]
    rfl
  have hend : (decide (c = '/') && decide (cs.head? = some '}')) = false := by
    simpa using hclose
  by_cases hquote : c = '\'' ∨ c = '"'
  · exact takesToken_tag_quote before hquote (fun hm => hline (by simp [hm])) htail
  have hplain : isPlain c = true := by
    simp only [not_or] at hquote
    simp [isPlain, hbrace, hquote]
  have hquote' : (decide (c = '\'') || decide (c = '"')) = false := by simpa using hquote
  by_cases hblank : isBlank c = true
  · have hcut : Region.tag.cut before c cs = ⟨runLength isBlank cs, .text, .stay⟩ := by
      simp [Region.cut, tagCut, hbrace, hend, hblank]
    refine takesToken_of_passes (by simp [hcut]) (by simp [hcut]) ?_ tail
    intro d hd
    simp only [Region.front, hcut, List.mem_cons] at hd
    rcases hd with rfl | hd
    · exact passes_tag hplain
    · exact passes_tag (isPlain_of_mem_takeWhile (by decide) (by decide) (by decide) hd)
  · have hcut : Region.tag.cut before c cs = wordCut c cs := by
      simp [Region.cut, tagCut, hbrace, hend, hblank, hquote']
    refine takesToken_of_passes (by rw [hcut]; exact wordCut_kind c cs)
      (by rw [hcut]; exact Region.wordCut_move c cs) ?_ tail
    intro d hd
    simp only [Region.front, hcut, List.mem_cons] at hd
    rcases hd with rfl | hd
    · exact passes_tag hplain
    · exact passes_tag (isPlain_of_mem_word hd)

/-- **One token is some steps of the scan**, in every region. -/
theorem scan_token (before : Option Char) {c : Char} {cs tail : List Char}
    (hline : '\n' ∉ c :: cs) (htail : AfterLine tail) (region : Region) :
    TakesToken before c cs tail region := by
  cases region with
  | root => exact takesToken_root before hline htail
  | comment => exact takesToken_comment before c cs htail
  | literal => exact takesToken_literal before c cs htail
  | tag => exact takesToken_tag before hline htail

/-! ## One line -/

/-- What the scan makes of a line, given the tokens of the line and the stack after them.  The line
starts at column zero of `base`. -/
def ScanLine (base column : Nat) (before : Option Char) (region : Region) (cs tail : List Char) :
    Prop :=
  match Block.closingToken? Block.closing (readFrom column before region.stack cs).1 with
  | some token =>
    scan region (mayStartLineComment before) (base + column) (cs ++ tail)
      = some (base + token.stop.toNat)
  | none =>
    ∃ after : Region, (readFrom column before region.stack cs).2 = after.stack ∧
      ∀ fresh : Bool, scan region (mayStartLineComment before) (base + column) (cs ++ tail)
        = scan after fresh (base + column + cs.length) tail

/-- **The tokens of a line are the steps of the scan up to its end.** -/
theorem scan_line (base : Nat) {tail : List Char} (htail : AfterLine tail) :
    ∀ (cs : List Char) (column : Nat) (before : Option Char) (region : Region), '\n' ∉ cs →
      ScanLine base column before region cs tail
  | [], column, before, region, _ => by
      rw [ScanLine, readFrom_nil]
      exact ⟨region, rfl, fun fresh => scan_afterLine htail region _ fresh _⟩
  | c :: cs, column, before, region, hline => by
      have htoken := scan_token before hline htail region (base + column)
      have hsplit := region.front_append_behind before c cs
      have hlength := congrArg List.length hsplit
      rw [List.length_append] at hlength
      have hbehind : '\n' ∉ region.behind before c cs := by
        intro hm
        exact hline (by rw [← hsplit]; exact List.mem_append_right _ hm)
      have ih := scan_line base htail (region.behind before c cs)
        (column + (region.front before c cs).length) (region.front before c cs).getLast?
        (region.next before c cs) hbehind
      have hoffset : base + (column + (region.front before c cs).length)
          = base + column + (region.front before c cs).length := by omega
      rw [ScanLine, readFrom_cons, Block.closingToken?, List.find?_cons]
      change match (match closes before c cs region with
          | true => some (Token.placed (region.front before c cs) _ column)
          | false => Block.closingToken? Block.closing (readBehind column before c cs region).1) with
        | some token => _
        | none => _
      rw [htoken]
      cases hcloses : closes before c cs region with
      | true =>
          simp only [Token.placed, if_true, Option.some.injEq]
          omega
      | false =>
          simp only [Bool.false_eq_true, if_false, ← hoffset]
          rw [ScanLine] at ih
          change match Block.closingToken? Block.closing (readBehind column before c cs region).1 with
            | some token => _
            | none => _ at ih
          have hend : base + (column + (region.front before c cs).length)
              + (region.behind before c cs).length = base + column + (c :: cs).length := by omega
          rw [hend] at ih
          exact ih
termination_by cs => cs.length
decreasing_by exact Region.behind_length before c cs region

/-! ## All lines -/

lemma dropWhile_afterLine : ∀ text : List Char, AfterLine (text.dropWhile (· ≠ '\n'))
  | [] => Or.inl rfl
  | c :: text => by
      by_cases hc : c = '\n'
      · exact Or.inr ⟨text, by simp [hc]⟩
      · simpa [hc] using dropWhile_afterLine text

/-- The search through the lines of a text finds what the scan finds. -/
theorem search_eq_scan : ∀ (text : List Char) (region : Region) (offset : Nat),
    (Block.search lexer Block.closing offset region.stack (terminatedLines text)).1
      = .ok (scan region true offset text)
  | [], region, offset => by rw [scan.eq_def]; rfl
  | c :: cs, region, offset => by
      set line := (c :: cs).takeWhile (· ≠ '\n') with hline
      have hsplit : line ++ (c :: cs).dropWhile (· ≠ '\n') = c :: cs :=
        List.takeWhile_append_dropWhile
      have hfeed : '\n' ∉ line := fun hm => by simpa using List.mem_takeWhile_imp hm
      have htail := dropWhile_afterLine (c :: cs)
      have hscan := scan_line offset htail line 0 none region hfeed
      rw [ScanLine, hsplit] at hscan
      rw [terminatedLines_cons, ← hline, search_cons]
      cases htoken : Block.closingToken? Block.closing (readFrom 0 none region.stack line).1 with
      | some token =>
          rw [htoken] at hscan
          exact congrArg Except.ok hscan.symm
      | none =>
          rw [htoken] at hscan
          obtain ⟨after, hstack, hafter⟩ := hscan
          simp only [hstack]
          rw [search_eq_scan _ after]
          have hafter := hafter true
          simp only [Nat.add_zero] at hafter
          change Except.ok _ = Except.ok (scan region (mayStartLineComment none) offset (c :: cs))
          rw [hafter]
          rcases htail with hnil | ⟨more, hmore⟩
          · rw [hnil, List.tail_nil, scan.eq_def, scan.eq_def]
          · rw [hmore, List.tail_cons, scan_newline]
termination_by text => text.length
decreasing_by
  have hle := (List.dropWhile_suffix (fun x : Char => decide (x ≠ '\n')) (l := c :: cs)).length_le
  simp only [List.length_tail, List.length_cons] at hle ⊢
  omega

/-- The end of a block is always found, and the lexer's memory plays no part in it. -/
theorem endFrom_lexer (text : List Char) (start : Nat) (memory : Stack) :
    (Block.endFrom lexer Block.closing text start memory).1 = .ok (scanEnd text start) := by
  have hsearch := search_eq_scan (text.drop start) .root start
  rw [Block.endFrom_eq]
  change ((Block.search lexer Block.closing start Region.root.stack _).1.map _) = _
  rw [hsearch]
  rfl

/-- **The end of a block is found by one scan.**  For every text and every start, also one beyond the
text, the search line by line ends without a fault, at the offset that one scan over the characters
ends at. -/
theorem blockEnd_eq_scanEnd (text : List Char) (start : Nat) (memory : Stack) :
    (Block.endFrom? lexer Block.closing text start memory).1 = .ok (scanEnd text start) := by
  have hstart : ¬ (start : Int) < 0 := by omega
  have hend := endFrom_lexer text start memory
  simp only [Block.endFrom?, hstart, if_false, Int.toNat_natCast]
  change (Block.endFrom lexer Block.closing text start memory).1.mapError _ = _
  rw [hend]
  rfl

end TemplateAtlas.Soy
