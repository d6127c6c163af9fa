import Mathlib.Tactic.Common
import TemplateAtlas.Proofs.DeclaredNames
import TemplateAtlas.Proofs.LineNumbers

/-!
# Line endings

The text of an open document may end its lines with a carriage return and a line feed, where a file that is read from
the disk has line feeds only.  Both texts have the same templates on the same lines.

**The blocks.**  A carriage return is a character like others to the scan, so that nothing may hang on what stands
right in front of a line feed.  `StepsAlike` says this of one step: it takes characters of one line, and it takes the
same ones when the lines are ended otherwise (`stepsAlike`, for each of the four regions).  Over a whole text,
`scan_withReturns` follows, and with it the end of each block (`scanEnd_withReturns`).

**The declarations.**  Names end at a blank, and a carriage return is one.  Only the first character of a name may be
anything, so that an opening at the end of a line would declare another name (`after?_bind_withReturns`).

**The answers.**  Offsets differ, and `returned` translates them; line numbers and names do not
(`Finder.findInText_withReturns`).
-/

namespace TemplateAtlas

namespace Text

/-- The text with a carriage return in front of every line feed. -/
def withReturns (text : List Char) : List Char :=
  text.flatMap fun c => if c = '\n' then ['\r', '\n'] else [c]

@[simp] lemma withReturns_nil : withReturns [] = [] := rfl

@[simp] lemma withReturns_newline (text : List Char) :
    withReturns ('\n' :: text) = '\r' :: '\n' :: withReturns text := rfl

lemma withReturns_cons {c : Char} (h : c ≠ '\n') (text : List Char) :
    withReturns (c :: text) = c :: withReturns text := by
  simp [withReturns, h]

lemma withReturns_append (front back : List Char) :
    withReturns (front ++ back) = withReturns front ++ withReturns back :=
  List.flatMap_append

/-- Nothing is changed in a text without line feeds. -/
lemma withReturns_eq_self {text : List Char} (h : '\n' ∉ text) : withReturns text = text := by
  induction text with
  | nil => rfl
  | cons c text ih =>
      rw [List.mem_cons, not_or] at h
      rw [withReturns_cons (Ne.symm h.1), ih h.2]

lemma withReturns_word {word : List Char} (h : '\n' ∉ word) (rest : List Char) :
    withReturns (word ++ rest) = word ++ withReturns rest := by
  rw [withReturns_append, withReturns_eq_self h]

/-- No line feed is added and none is lost. -/
lemma count_withReturns (text : List Char) : (withReturns text).count '\n' = text.count '\n' := by
  induction text with
  | nil => rfl
  | cons c text ih =>
      by_cases hc : c = '\n'
      · simp [hc, ih]
      · simp [withReturns_cons hc, hc, ih]

/-- Line breaks are unified to the line feeds they were. -/
lemma unifyNewlines_withReturns {text : List Char} (h : '\r' ∉ text) :
    unifyNewlines (withReturns text) = text := by
  induction text with
  | nil => rfl
  | cons c text ih =>
      rw [List.mem_cons, not_or] at h
      by_cases hc : c = '\n'
      · rw [hc, withReturns_newline, unifyNewlines, ih h.2]
      · rw [withReturns_cons hc, unifyNewlines, ih h.2]
        · exact fun _ hreturn => absurd hreturn.symm h.1
        · exact Ne.symm h.1

/-- A character that is found in front is found there with and without returns. -/
lemma head?_withReturns {d : Char} (hfeed : d ≠ '\n') (hreturn : d ≠ '\r') (text : List Char) :
    (withReturns text).head? = some d ↔ text.head? = some d := by
  cases text with
  | nil => simp
  | cons c text =>
      by_cases hc : c = '\n'
      · simp [hc, Ne.symm hfeed, Ne.symm hreturn]
      · simp [withReturns_cons hc]

/-- A run that a line feed ends is ended by a return as well. -/
lemma takeWhile_withReturns {p : Char → Bool} (hfeed : p '\n' = false) (hreturn : p '\r' = false)
    (text : List Char) : (withReturns text).takeWhile p = text.takeWhile p := by
  induction text with
  | nil => rfl
  | cons c text ih =>
      by_cases hc : c = '\n'
      · simp [hc, hfeed, hreturn]
      · simp [withReturns_cons hc, List.takeWhile_cons, ih]

lemma isPrefixOf_withReturns : ∀ {word : List Char}, '\n' ∉ word → '\r' ∉ word →
    ∀ text : List Char, word.isPrefixOf (withReturns text) = word.isPrefixOf text
  | [], _, _, text => by simp
  | w :: word, hfeed, hreturn, [] => rfl
  | w :: word, hfeed, hreturn, c :: text => by
      rw [List.mem_cons, not_or] at hfeed hreturn
      by_cases hc : c = '\n'
      · have hreturn' : (w == '\r') = false := by simp [Ne.symm hreturn.1]
        have hfeed' : (w == '\n') = false := by simp [Ne.symm hfeed.1]
        rw [hc, withReturns_newline, List.isPrefixOf, List.isPrefixOf, hreturn', hfeed']
        rfl
      · simp [withReturns_cons hc, List.isPrefixOf, isPrefixOf_withReturns hfeed.2 hreturn.2]

end Text

namespace Soy

open Text

/-! ## Words and strings -/

lemma letterWord?_withReturns (cs : List Char) : letterWord? (withReturns cs) = letterWord? cs := by
  cases cs with
  | nil => rfl
  | cons c cs =>
      by_cases hc : c = '\n'
      · rw [hc]
        rfl
      · simp [withReturns_cons hc, letterWord?, takeWhile_withReturns (p := isWordChar) (by decide) (by decide)]

lemma commandWord?_withReturns (cs : List Char) :
    commandWord? (withReturns cs) = commandWord? cs := by
  by_cases hslash : ∃ ds, cs = '/' :: ds
  · obtain ⟨ds, rfl⟩ := hslash
    rw [withReturns_cons (by decide), commandWord?, commandWord?, letterWord?_withReturns]
  · have hreturns : ∀ ds, withReturns cs ≠ '/' :: ds := by
      intro ds h
      have hhead : (withReturns cs).head? = some '/' := by simp [h]
      rw [head?_withReturns (by decide) (by decide)] at hhead
      exact hslash (List.head?_eq_some_iff.mp hhead)
    rw [commandWord?.eq_2 _ hreturns, commandWord?.eq_2 _ fun ds h => hslash ⟨ds, h⟩,
      letterWord?_withReturns]

lemma quoteEnd?_withReturns {quote : Char} (hquote : quote ≠ '\r') (cs : List Char) :
    ∀ escaped : Bool, quoteEnd? quote escaped (withReturns cs) = quoteEnd? quote escaped cs := by
  induction cs with
  | nil => intro escaped; rfl
  | cons c cs ih =>
      intro escaped
      by_cases hc : c = '\n'
      · simp [hc, quoteEnd?, Ne.symm hquote]
      · simp [withReturns_cons hc, quoteEnd?, ih]

lemma stringEnd?_withReturns (c : Char) (cs : List Char) :
    stringEnd? c (withReturns cs) = stringEnd? c cs := by
  rw [stringEnd?, stringEnd?]
  split_ifs with hquote
  · refine quoteEnd?_withReturns ?_ cs false
    rintro rfl
    simp at hquote
  · rfl

/-- A command word stands in front, on its line. -/
lemma exists_of_commandWord? {cs word : List Char} (h : commandWord? cs = some word) :
    ∃ rest, cs = word ++ rest ∧ '\n' ∉ word := by
  have hletter : ∀ {ds found : List Char}, letterWord? ds = some found →
      ∃ rest, ds = found ++ rest ∧ '\n' ∉ found := by
    intro ds found hfound
    cases ds with
    | nil => simp [letterWord?] at hfound
    | cons c ds =>
        rw [letterWord?] at hfound
        split_ifs at hfound with hc
        obtain rfl := Option.some.inj hfound
        refine ⟨ds.dropWhile isWordChar, by simp, ?_⟩
        rw [List.mem_cons, not_or]
        constructor
        · rintro rfl
          revert hc
          decide
        · intro hmem
          have hword := List.mem_takeWhile_imp hmem
          revert hword
          decide
  by_cases hslash : ∃ ds, cs = '/' :: ds
  · obtain ⟨ds, rfl⟩ := hslash
    rw [commandWord?, Option.map_eq_some_iff] at h
    obtain ⟨found, hfound, rfl⟩ := h
    obtain ⟨rest, rfl, hfeed⟩ := hletter hfound
    exact ⟨rest, rfl, by simp [hfeed]⟩
  · rw [commandWord?.eq_2 _ fun ds h => hslash ⟨ds, h⟩] at h
    exact hletter h

/-- A quoted string ends on its line. -/
lemma exists_of_quoteEnd? {quote : Char} : ∀ {cs : List Char} {escaped : Bool} {length : Nat},
    quoteEnd? quote escaped cs = some length →
      ∃ word rest, cs = word ++ rest ∧ word.length = length ∧ '\n' ∉ word
  | [], escaped, length, h => by simp [quoteEnd?] at h
  | c :: cs, escaped, length, h => by
      rw [quoteEnd?] at h
      split_ifs at h with hfeed hend
      · exact ⟨[c], cs, rfl, Option.some.inj h, by simpa using Ne.symm hfeed⟩
      · obtain ⟨inner, hinner, rfl⟩ := Option.map_eq_some_iff.mp h
        obtain ⟨word, rest, rfl, rfl, hword⟩ := exists_of_quoteEnd? hinner
        exact ⟨c :: word, rest, rfl, rfl, by simp [Ne.symm hfeed, hword]⟩

lemma exists_of_stringEnd? {c : Char} {cs : List Char} {length : Nat}
    (h : stringEnd? c cs = some length) :
    ∃ word rest, cs = word ++ rest ∧ word.length = length ∧ '\n' ∉ word := by
  rw [stringEnd?] at h
  split_ifs at h
  exact exists_of_quoteEnd? h

/-! ## What the scan does with what stands in front -/

section Scan

variable (fresh : Bool) (offset : Nat) {c : Char} {cs : List Char}

lemma scan_opensComment :
    scan .root fresh offset ('/' :: '*' :: cs) = scan .comment false (offset + 2) cs := by
  rw [scan.eq_def]
  rfl

lemma scan_opensLiteral :
    scan .root fresh offset ("\x7bliteral\x7d".toList ++ cs) = scan .literal false (offset + 9) cs := by
  rw [scan.eq_def]
  cases fresh <;> rfl

/-- Every region passes over a line break, and a line comment may start after it. -/
lemma scan_returnNewline (region : Region) :
    scan region fresh offset ('\r' :: '\n' :: cs) = scan region true (offset + 2) cs := by
  have hpasses : Passes region '\r' := by
    cases region with
    | root => exact passes_root (by decide) (by decide)
    | comment => exact passes_comment (by decide)
    | literal => exact passes_literal (by decide)
    | tag => exact passes_tag (by decide)
  rw [hpasses, scan_newline]

/-- A line comment goes on to the end of its line. -/
lemma scan_lineComment {line tail : List Char} (hline : '\n' ∉ line) (htail : AfterLine tail) :
    scan .root true offset ('/' :: '/' :: (line ++ tail))
      = scan .root true (offset + 2 + line.length) tail := by
  have hfeed : '\n' ∉ '/' :: line := by simp [hline]
  have hrun : ('/' :: line ++ tail).takeWhile (· ≠ '\n') = '/' :: line := by
    rw [takeWhile_afterLine (by decide) htail, takeWhile_line hfeed]
  have hrest : ('/' :: line ++ tail).dropWhile (· ≠ '\n') = tail := by
    have happend := List.takeWhile_append_dropWhile (p := (· ≠ '\n')) (l := '/' :: line ++ tail)
    rw [hrun] at happend
    exact List.append_cancel_left happend
  rw [← List.cons_append, scan.eq_def]
  simp only [hrun, hrest]
  have hlength : offset + 1 + ('/' :: line).length = offset + 2 + line.length := by
    simp only [List.length_cons]
    omega
  rw [hlength]
  exact scan_afterLine htail .root false true _

lemma scan_brace (h : "literal\x7d".toList.isPrefixOf cs = false) :
    scan .root fresh offset ('{' :: cs) =
      match commandWord? cs with
      | some word =>
        if '{' :: word = Block.closing then some (offset + 1 + word.length)
        else scan .tag false (offset + 1 + word.length) (cs.drop word.length)
      | none => scan .tag false (offset + 1) cs := by
  have hliteral : "\x7bliteral\x7d".toList.isPrefixOf ('{' :: cs) = false := h
  have hclosing : "\x7b/template".toList = Block.closing := rfl
  have hslash : decide ('{' = '/') = false := by decide
  rw [scan.eq_def]
  cases hcommand : commandWord? cs with
  | none =>
      simp only [hliteral, hslash, hcommand, Bool.false_and, Bool.and_false, Bool.false_eq_true,
        if_false, if_true]
  | some word =>
      simp only [hliteral, hslash, hclosing, hcommand, Bool.false_and, Bool.and_false,
        Bool.false_eq_true, if_false, if_true]

lemma scan_rootChar (hbrace : c ≠ '{') (hcomment : c = '/' → cs.head? ≠ some '*')
    (hline : c = '/' → fresh = true → cs.head? ≠ some '/') :
    scan .root fresh offset (c :: cs) = scan .root (isBlank c) (offset + 1) cs := by
  by_cases hc : c = '/'
  · have hfresh : (fresh && decide (cs.head? = some '/')) = false := by
      cases fresh with
      | false => rfl
      | true => simpa using hline hc rfl
    rw [scan.eq_def, hc]
    simp [hcomment hc, hfresh]
  · exact passes_root hc hbrace fresh offset cs

lemma scan_closesComment :
    scan .comment fresh offset ('*' :: '/' :: cs) = scan .root false (offset + 2) cs := by
  rw [scan.eq_def]
  rfl

lemma scan_commentChar (h : c = '*' → cs.head? ≠ some '/') :
    scan .comment fresh offset (c :: cs) = scan .comment (isBlank c) (offset + 1) cs := by
  rw [scan.eq_def]
  by_cases hc : c = '*'
  · simp [hc, h hc]
  · simp [hc]

lemma scan_closesLiteral :
    scan .literal fresh offset ("\x7b/literal\x7d".toList ++ cs) = scan .root false (offset + 10) cs := by
  rw [scan.eq_def]
  rfl

lemma scan_literalChar (h : "\x7b/literal\x7d".toList.isPrefixOf (c :: cs) = false) :
    scan .literal fresh offset (c :: cs) = scan .literal (isBlank c) (offset + 1) cs := by
  rw [scan.eq_def]
  simp only [h]
  simp

lemma scan_closesTag :
    scan .tag fresh offset ('}' :: cs) = scan .root false (offset + 1) cs := by
  rw [scan.eq_def]
  rfl

lemma scan_tagChar (h : c ≠ '}') :
    scan .tag fresh offset (c :: cs) =
      match stringEnd? c cs with
      | some length => scan .tag false (offset + 1 + length) (cs.drop length)
      | none => scan .tag (isBlank c) (offset + 1) cs := by
  rw [scan.eq_def]
  cases hstring : stringEnd? c cs with
  | none => simp [h, hstring]
  | some length => simp [h, hstring]

end Scan

/-! ## One step -/

/-- The scan takes a character and some more of its line in one step, and it takes the same ones if there are returns
in front of the line feeds that follow. -/
inductive StepsAlike (region : Region) (fresh : Bool) (c : Char) (cs : List Char) : Prop
  /-- They are the closing command. -/
  | closes (word rest : List Char) (hsplit : cs = word ++ rest) (hword : '\n' ∉ word)
      (hplain : ∀ offset, scan region fresh offset (c :: cs) = some (offset + 1 + word.length))
      (hreturned : ∀ offset, scan region fresh offset (c :: withReturns cs)
        = some (offset + 1 + word.length))
  /-- The scan goes on behind them. -/
  | goesOn (word rest : List Char) (hsplit : cs = word ++ rest) (hword : '\n' ∉ word)
      (after : Region) (freshAfter : Bool)
      (hplain : ∀ offset, scan region fresh offset (c :: cs)
        = scan after freshAfter (offset + 1 + word.length) rest)
      (hreturned : ∀ offset, scan region fresh offset (c :: withReturns cs)
        = scan after freshAfter (offset + 1 + word.length) (withReturns rest))

/-- The character is passed over. -/
lemma StepsAlike.passes {region : Region} {fresh : Bool} {c : Char} {cs : List Char}
    (hplain : ∀ offset, scan region fresh offset (c :: cs)
      = scan region (isBlank c) (offset + 1) cs)
    (hreturned : ∀ offset, scan region fresh offset (c :: withReturns cs)
      = scan region (isBlank c) (offset + 1) (withReturns cs)) : StepsAlike region fresh c cs :=
  .goesOn [] cs rfl List.not_mem_nil region (isBlank c) hplain hreturned

lemma stepsAlike_lineComment (cs : List Char) : StepsAlike .root true '/' ('/' :: cs) := by
  obtain ⟨line, tail, hcs, hline, htail⟩ :
      ∃ line tail, cs = line ++ tail ∧ '\n' ∉ line ∧ AfterLine tail :=
    ⟨cs.takeWhile (· ≠ '\n'), cs.dropWhile (· ≠ '\n'), List.takeWhile_append_dropWhile.symm,
      fun hmem => by simpa using List.mem_takeWhile_imp hmem, dropWhile_afterLine cs⟩
  rw [hcs]
  have hlength : ∀ offset, offset + 1 + ('/' :: line).length = offset + 2 + line.length := by
    intro offset
    simp only [List.length_cons]
    omega
  refine .goesOn ('/' :: line) tail rfl (by simp [hline]) .root true ?_ ?_
  · intro offset
    rw [hlength]
    exact scan_lineComment offset hline htail
  · intro offset
    rw [hlength, withReturns_cons (by decide), withReturns_word hline]
    rcases htail with rfl | ⟨more, rfl⟩
    · exact scan_lineComment offset hline (Or.inl rfl)
    · -- the return in front of the line feed belongs to the comment
      have hreturn : '\n' ∉ line ++ ['\r'] := by simp [hline]
      have hcomment := scan_lineComment offset hreturn (Or.inr ⟨withReturns more, rfl⟩)
      rw [List.append_assoc] at hcomment
      rw [withReturns_newline, scan_returnNewline]
      refine hcomment.trans ?_
      rw [scan_newline, List.length_append]
      rfl

lemma stepsAlike_brace (fresh : Bool) (cs : List Char) : StepsAlike .root fresh '{' cs := by
  have hopens : "literal\x7d".toList.isPrefixOf (withReturns cs)
      = "literal\x7d".toList.isPrefixOf cs := isPrefixOf_withReturns (by decide) (by decide) cs
  cases hliteral : "literal\x7d".toList.isPrefixOf cs with
  | true =>
      obtain ⟨rest, rfl⟩ := eq_append_of_isPrefixOf hliteral
      refine .goesOn "literal\x7d".toList rest rfl (by decide) .literal false ?_ ?_
      · intro offset
        exact scan_opensLiteral fresh offset
      · intro offset
        rw [withReturns_word (by decide)]
        exact scan_opensLiteral fresh offset
  | false =>
      have hplain := fun offset => scan_brace fresh offset hliteral
      have hreturned := fun offset => scan_brace fresh offset (hopens.trans hliteral)
      rw [commandWord?_withReturns] at hreturned
      cases hcommand : commandWord? cs with
      | none =>
          simp only [hcommand] at hplain hreturned
          exact .goesOn [] cs rfl List.not_mem_nil .tag false hplain hreturned
      | some word =>
          obtain ⟨rest, rfl, hword⟩ := exists_of_commandWord? hcommand
          simp only [hcommand] at hplain hreturned
          rw [withReturns_word hword] at hreturned
          simp only [List.drop_left] at hplain hreturned
          by_cases hclose : '{' :: word = Block.closing
          · simp only [hclose, if_true] at hplain hreturned
            refine .closes word rest rfl hword hplain fun offset => ?_
            rw [withReturns_word hword]
            exact hreturned offset
          · simp only [hclose, if_false] at hplain hreturned
            refine .goesOn word rest rfl hword .tag false hplain fun offset => ?_
            rw [withReturns_word hword]
            exact hreturned offset

lemma stepsAlike_root (fresh : Bool) (c : Char) (cs : List Char) : StepsAlike .root fresh c cs := by
  by_cases hbrace : c = '{'
  · rw [hbrace]
    exact stepsAlike_brace fresh cs
  by_cases hslash : c = '/'
  · rw [hslash]
    by_cases hcomment : cs.head? = some '*'
    · obtain ⟨rest, rfl⟩ := List.head?_eq_some_iff.mp hcomment
      refine .goesOn ['*'] rest rfl (by decide) .comment false ?_ ?_
      · intro offset
        exact scan_opensComment fresh offset
      · intro offset
        exact scan_opensComment fresh offset
    by_cases hline : fresh = true ∧ cs.head? = some '/'
    · obtain ⟨rfl, hhead⟩ := hline
      obtain ⟨rest, rfl⟩ := List.head?_eq_some_iff.mp hhead
      exact stepsAlike_lineComment rest
    · have hcomment' := mt (head?_withReturns (by decide) (by decide) cs).mp hcomment
      have hline' : fresh = true → (withReturns cs).head? ≠ some '/' := by
        intro hfresh hhead
        exact hline ⟨hfresh, (head?_withReturns (by decide) (by decide) cs).mp hhead⟩
      refine .passes ?_ ?_
      · intro offset
        exact scan_rootChar fresh offset (by decide) (fun _ => hcomment) fun _ hfresh hhead =>
          hline ⟨hfresh, hhead⟩
      · intro offset
        exact scan_rootChar fresh offset (by decide) (fun _ => hcomment') fun _ => hline'
  · exact .passes (fun offset => passes_root hslash hbrace fresh offset cs)
      fun offset => passes_root hslash hbrace fresh offset _

lemma stepsAlike_comment (fresh : Bool) (c : Char) (cs : List Char) :
    StepsAlike .comment fresh c cs := by
  by_cases hclose : c = '*' ∧ cs.head? = some '/'
  · obtain ⟨rfl, hhead⟩ := hclose
    obtain ⟨rest, rfl⟩ := List.head?_eq_some_iff.mp hhead
    refine .goesOn ['/'] rest rfl (by decide) .root false ?_ ?_
    · intro offset
      exact scan_closesComment fresh offset
    · intro offset
      exact scan_closesComment fresh offset
  · refine .passes ?_ ?_
    · intro offset
      exact scan_commentChar fresh offset fun hc hhead => hclose ⟨hc, hhead⟩
    · intro offset
      refine scan_commentChar fresh offset fun hc hhead => hclose ⟨hc, ?_⟩
      exact (head?_withReturns (by decide) (by decide) cs).mp hhead

lemma stepsAlike_literal (fresh : Bool) {c : Char} (hc : c ≠ '\n') (cs : List Char) :
    StepsAlike .literal fresh c cs := by
  have hopens : "\x7b/literal\x7d".toList.isPrefixOf (c :: withReturns cs)
      = "\x7b/literal\x7d".toList.isPrefixOf (c :: cs) := by
    rw [← withReturns_cons hc]
    exact isPrefixOf_withReturns (by decide) (by decide) (c :: cs)
  cases hclose : "\x7b/literal\x7d".toList.isPrefixOf (c :: cs) with
  | true =>
      obtain ⟨rest, hrest⟩ := eq_append_of_isPrefixOf hclose
      obtain ⟨rfl, rfl⟩ : c = '{' ∧ cs = "/literal\x7d".toList ++ rest := List.cons.inj hrest
      refine .goesOn "/literal\x7d".toList rest rfl (by decide) .root false ?_ ?_
      · intro offset
        exact scan_closesLiteral fresh offset
      · intro offset
        rw [withReturns_word (by decide)]
        exact scan_closesLiteral fresh offset
  | false =>
      exact .passes (fun offset => scan_literalChar fresh offset hclose)
        fun offset => scan_literalChar fresh offset (hopens.trans hclose)

lemma stepsAlike_tag (fresh : Bool) (c : Char) (cs : List Char) : StepsAlike .tag fresh c cs := by
  by_cases hbrace : c = '}'
  · rw [hbrace]
    exact .goesOn [] cs rfl List.not_mem_nil .root false (fun offset => scan_closesTag fresh offset)
      fun offset => scan_closesTag fresh offset
  · have hplain := fun offset => @scan_tagChar fresh offset c cs hbrace
    have hreturned := fun offset => @scan_tagChar fresh offset c (withReturns cs) hbrace
    rw [stringEnd?_withReturns] at hreturned
    cases hstring : stringEnd? c cs with
    | none =>
        simp only [hstring] at hplain hreturned
        exact .passes hplain hreturned
    | some length =>
        obtain ⟨word, rest, rfl, rfl, hword⟩ := exists_of_stringEnd? hstring
        simp only [hstring] at hplain hreturned
        rw [withReturns_word hword] at hreturned
        simp only [List.drop_left] at hplain hreturned
        refine .goesOn word rest rfl hword .tag false hplain fun offset => ?_
        rw [withReturns_word hword]
        exact hreturned offset

/-- **Each step takes the same characters**, in every region. -/
lemma stepsAlike (region : Region) (fresh : Bool) {c : Char} (hc : c ≠ '\n') (cs : List Char) :
    StepsAlike region fresh c cs := by
  cases region with
  | root => exact stepsAlike_root fresh c cs
  | comment => exact stepsAlike_comment fresh c cs
  | literal => exact stepsAlike_literal fresh hc cs
  | tag => exact stepsAlike_tag fresh c cs

/-! ## The end of a block -/

/-- The offset at which the text behind an offset goes on when there are returns in front of the line feeds. -/
def returned (text : List Char) (offset : Nat) : Nat := (withReturns (text.take offset)).length

lemma withReturns_take (text : List Char) (offset : Nat) :
    (withReturns text).take (returned text offset) = withReturns (text.take offset) := by
  have hsplit : withReturns text = withReturns (text.take offset) ++ withReturns (text.drop offset) := by
    rw [← withReturns_append, List.take_append_drop]
  rw [hsplit, returned, List.take_left]

lemma withReturns_drop (text : List Char) (offset : Nat) :
    (withReturns text).drop (returned text offset) = withReturns (text.drop offset) := by
  have hsplit : withReturns text = withReturns (text.take offset) ++ withReturns (text.drop offset) := by
    rw [← withReturns_append, List.take_append_drop]
  rw [hsplit, returned, List.drop_left]

lemma returned_append (front back : List Char) :
    returned (front ++ back) front.length = (withReturns front).length := by
  rw [returned, List.take_left]

lemma returned_length (text : List Char) : returned text text.length = (withReturns text).length := by
  rw [returned, List.take_length]

/-- On a line the offsets keep their distance. -/
lemma returned_word (front : List Char) {word : List Char} (hword : '\n' ∉ word) (rest : List Char) :
    returned (front ++ (word ++ rest)) (front.length + word.length)
      = (withReturns front).length + word.length := by
  have hreturned := returned_append (front ++ word) rest
  rwa [List.append_assoc, withReturns_append, withReturns_eq_self hword, List.length_append,
    List.length_append] at hreturned

/-- A line break is one character longer. -/
lemma length_withReturns_concat (front : List Char) :
    (withReturns (front ++ ['\n'])).length = (withReturns front).length + 2 := by
  rw [withReturns_append, List.length_append]
  rfl

/-- **The scan ends at the same place of the text**, wherever it starts. -/
lemma scan_withReturns (region : Region) (fresh : Bool) (front text : List Char) :
    scan region fresh (withReturns front).length (withReturns text)
      = (scan region fresh front.length text).map (returned (front ++ text)) := by
  match text with
  | [] =>
      rw [withReturns_nil, scan.eq_def, scan.eq_def]
      rfl
  | c :: cs =>
      by_cases hc : c = '\n'
      · have hrest := scan_withReturns region true (front ++ ['\n']) cs
        rw [length_withReturns_concat, List.length_append, List.append_assoc] at hrest
        rw [hc, withReturns_newline, scan_returnNewline, scan_newline]
        exact hrest
      · rw [withReturns_cons hc]
        have hlength : ∀ offset (word : List Char),
            offset + 1 + word.length = offset + (c :: word).length := by
          intro offset word
          rw [List.length_cons]
          omega
        cases stepsAlike region fresh hc cs with
        | closes word rest hsplit hword hplain hreturned =>
            have hline : '\n' ∉ c :: word := by simp [Ne.symm hc, hword]
            have hstop := returned_word front hline rest
            rw [hplain, hreturned, hlength, hlength, Option.map_some, hsplit, ← List.cons_append, hstop]
        | goesOn word rest hsplit hword after freshAfter hplain hreturned =>
            have hline : '\n' ∉ c :: word := by simp [Ne.symm hc, hword]
            have hrest := scan_withReturns after freshAfter (front ++ c :: word) rest
            rw [withReturns_append, withReturns_eq_self hline, List.length_append, List.length_append,
              List.append_assoc, List.cons_append, ← hsplit] at hrest
            rw [hplain, hreturned, hlength, hlength]
            exact hrest
termination_by text.length
decreasing_by
  · simp
  · simp only [hsplit, List.length_cons, List.length_append]
    omega

/-- **A block ends at the same place of the text.** -/
theorem scanEnd_withReturns (text : List Char) (start : Nat) :
    scanEnd (withReturns text) (returned text start) = returned text (scanEnd text start) := by
  rw [scanEnd, scanEnd, withReturns_drop]
  rcases Nat.le_total start text.length with hle | hge
  · have hscan := scan_withReturns .root true (text.take start) (text.drop start)
    rw [List.take_append_drop, List.length_take_of_le hle] at hscan
    rw [returned, hscan]
    cases scan .root true start (text.drop start) with
    | none => exact (returned_length text).symm
    | some stop => rfl
  · rw [List.drop_eq_nil_of_le hge, withReturns_nil, scan.eq_def, scan.eq_def]
    exact (returned_length text).symm

/-- **The place is on the same line.** -/
theorem lineOf_withReturns (text : List Char) (offset : Nat) :
    (LineMap.ofText (withReturns text)).lineOf (returned text offset)
      = (LineMap.ofText text).lineOf offset := by
  rw [LineMap.lineOf_eq_count, LineMap.lineOf_eq_count, Int.toNat_natCast, Int.toNat_natCast,
    withReturns_take, count_withReturns]

end Soy

/-! ## Declarations -/

namespace Marker

open Text Soy

variable {opening : List Char} {name? : List Char → Option (List Char)}

lemma eq_append_of_after? {text behind : List Char} (h : after? opening text = some behind) :
    text = opening ++ behind := by
  rw [after?] at h
  split_ifs at h with hopens
  · obtain ⟨more, rfl⟩ := eq_append_of_isPrefixOf hopens
    rw [List.drop_left, Option.some.injEq] at h
    rw [h]

lemma after?_withReturns (hfeed : '\n' ∉ opening) (hreturn : '\r' ∉ opening) (text : List Char) :
    after? opening (withReturns text) = (after? opening text).map withReturns := by
  rw [after?, after?, isPrefixOf_withReturns hfeed hreturn]
  cases hopens : opening.isPrefixOf text with
  | false => rfl
  | true =>
      obtain ⟨behind, rfl⟩ := eq_append_of_isPrefixOf hopens
      simp [withReturns_word hfeed]

/-- What is declared behind an opening is the same, unless a line feed comes first. -/
lemma after?_bind_withReturns (hfeed : '\n' ∉ opening) (hreturn : '\r' ∉ opening)
    (hname : ∀ behind : List Char, behind.head? ≠ some '\n' →
      name? (withReturns behind) = name? behind)
    {text : List Char} (h : ¬ opening ++ ['\n'] <+: text) :
    (after? opening (withReturns text)).bind name? = (after? opening text).bind name? := by
  rw [after?_withReturns hfeed hreturn]
  cases hafter : after? opening text with
  | none => rfl
  | some behind =>
      refine hname behind fun hhead => h ?_
      obtain ⟨more, rfl⟩ := List.head?_eq_some_iff.mp hhead
      rw [eq_append_of_after? hafter]
      exact ⟨more, by simp⟩

lemma declaredName?_withReturns {behind : List Char} (h : behind.head? ≠ some '\n') :
    declaredName? (withReturns behind) = declaredName? behind := by
  cases behind with
  | nil => rfl
  | cons c cs =>
      have hc : c ≠ '\n' := by simpa using h
      have hrun := takeWhile_withReturns (p := isNameChar) (by decide) (by decide) cs
      have hany : (withReturns cs).head?.any isNameChar = cs.head?.any isNameChar := by
        cases cs with
        | nil => rfl
        | cons d cs =>
            by_cases hd : d = '\n'
            · rw [hd]
              exact (by decide : isNameChar '\r' = isNameChar '\n')
            · rw [withReturns_cons hd]
              rfl
      rw [withReturns_cons hc, declaredName?, declaredName?, hrun, hany]

-- A line break in front would be taken for the first character of the name, if it were one character.
example : declaredName? "\nab\x7d".toList = some "\nab".toList ∧
    declaredName? (withReturns "\nab\x7d".toList) = none := by
  decide +kernel

lemma namespaceName?_withReturns {behind : List Char} (h : behind.head? ≠ some '\n') :
    namespaceName? (withReturns behind) = namespaceName? behind := by
  cases behind with
  | nil => rfl
  | cons c cs =>
      have hc : c ≠ '\n' := by simpa using h
      rw [withReturns_cons hc, namespaceName?, namespaceName?,
        takeWhile_withReturns (p := fun d => !isBlank d) (by decide) (by decide)]

lemma firstNamespace?_withReturns {text : List Char} (h : ¬ namespaceOpening ++ ['\n'] <:+: text) :
    firstNamespace? (withReturns text) = firstNamespace? text := by
  induction text with
  | nil => rfl
  | cons c cs ih =>
      have hrest := ih fun hinside => h (hinside.trans (List.suffix_cons c cs).isInfix)
      by_cases hc : c = '\n'
      · have hplain : firstNamespace? (['\n'] ++ cs) = firstNamespace? cs :=
          firstNamespace?_plain (by decide) cs
        have hreturned : firstNamespace? (['\r', '\n'] ++ withReturns cs)
            = firstNamespace? (withReturns cs) := firstNamespace?_plain (by decide) _
        rw [hc]
        exact hreturned.trans (hrest.trans hplain.symm)
      · have hfeed : '\n' ∉ namespaceOpening := by decide
        have hfirst := after?_bind_withReturns hfeed (by decide)
          (fun _ => namespaceName?_withReturns) fun hopens => h hopens.isInfix
        rw [withReturns_cons hc] at hfirst ⊢
        rw [firstNamespace?, firstNamespace?, hfirst, hrest]

/-- **The namespace is the same.** -/
lemma declaredNamespace_withReturns {text : List Char} (h : ¬ namespaceOpening ++ ['\n'] <:+: text) :
    declaredNamespace (withReturns text) = declaredNamespace text := by
  rw [declaredNamespace, declaredNamespace, firstNamespace?_withReturns h]

/-- A template that is declared in front, with its name on one line. -/
lemma exists_of_declared {text name : List Char} (hline : ¬ Marker.opening ++ ['\n'] <+: text)
    (h : (after? Marker.opening text).bind declaredName? = some name) :
    ∃ rest, text = Marker.opening ++ (name ++ rest) ∧ '\n' ∉ name ∧
      declaredName? (name ++ rest) = some name := by
  obtain ⟨behind, hafter, hdeclared⟩ := Option.bind_eq_some_iff.mp h
  obtain rfl := eq_append_of_after? hafter
  cases behind with
  | nil => simp [declaredName?] at hdeclared
  | cons c cs =>
      have hc : '\n' ≠ c := by
        rintro rfl
        exact hline ⟨cs, by simp⟩
      have hname := hdeclared
      rw [declaredName?] at hname
      split_ifs at hname
      obtain rfl := Option.some.inj hname
      have hsplit : c :: cs = c :: cs.takeWhile isNameChar ++ cs.dropWhile isNameChar := by simp
      rw [hsplit] at hdeclared
      refine ⟨cs.dropWhile isNameChar, congrArg _ hsplit, ?_, hdeclared⟩
      rw [List.mem_cons, not_or]
      refine ⟨hc, fun hmem => ?_⟩
      have hchar := List.mem_takeWhile_imp hmem
      revert hchar
      decide

/-- **The templates are declared at the same places**, under the same names. -/
lemma declarationsFrom_withReturns (front text : List Char) (h : ¬ Marker.opening ++ ['\n'] <:+: text) :
    declarationsFrom (withReturns front).length (withReturns text)
      = (declarationsFrom front.length text).map fun declared =>
          (returned (front ++ text) declared.1, declared.2) := by
  match text with
  | [] => simp [declarationsFrom]
  | c :: cs =>
      have hcs : ¬ Marker.opening ++ ['\n'] <:+: cs := fun hinside =>
        h (hinside.trans (List.suffix_cons c cs).isInfix)
      by_cases hc : c = '\n'
      · have hrest := declarationsFrom_withReturns (front ++ ['\n']) cs hcs
        rw [length_withReturns_concat, List.length_append, List.append_assoc] at hrest
        rw [hc, withReturns_newline, declarationsFrom_pass rfl, declarationsFrom_pass rfl,
          declarationsFrom_pass rfl]
        exact hrest
      have hfeed : '\n' ∉ Marker.opening := by decide
      have hline : ¬ Marker.opening ++ ['\n'] <+: c :: cs := fun hopens => h hopens.isInfix
      have hfirst := after?_bind_withReturns hfeed (by decide)
        (fun _ => declaredName?_withReturns) hline
      cases hdeclared : (after? Marker.opening (c :: cs)).bind declaredName? with
      | none =>
          have hrest := declarationsFrom_withReturns (front ++ [c]) cs hcs
          have hchar : '\n' ∉ [c] := by simpa using Ne.symm hc
          rw [withReturns_append, withReturns_eq_self hchar, List.length_append, List.length_append,
            List.append_assoc] at hrest
          rw [hdeclared, withReturns_cons hc] at hfirst
          rw [withReturns_cons hc, declarationsFrom, declarationsFrom, hfirst, hdeclared]
          exact hrest
      | some name =>
          obtain ⟨rest, hsplit, hname, hreads⟩ := exists_of_declared hline hdeclared
          have hword : '\n' ∉ Marker.opening ++ name := by simp [hfeed, hname]
          have hsuffix : rest <:+ c :: cs := ⟨Marker.opening ++ name, by rw [hsplit, List.append_assoc]⟩
          have hrest := declarationsFrom_withReturns (front ++ (Marker.opening ++ name)) rest
            fun hinside => h (hinside.trans hsuffix.isInfix)
          rw [withReturns_append, withReturns_eq_self hword, List.length_append, List.length_append,
            List.length_append, List.append_assoc, List.append_assoc, ← hsplit] at hrest
          have hreturned : declaredName? (name ++ withReturns rest) = some name := by
            rw [hsplit, withReturns_word hfeed, withReturns_word hname, after?_append, after?_append,
              Option.bind_some, Option.bind_some, hreads] at hfirst
            exact hfirst
          have hstart : returned (front ++ c :: cs) front.length = (withReturns front).length :=
            returned_append front (c :: cs)
          rw [hsplit, withReturns_word hfeed, withReturns_word hname,
            declarationsFrom_opening hreturned, declarationsFrom_opening hreads, List.map_cons, ← hsplit,
            hstart, Nat.add_assoc, hrest, Nat.add_assoc, List.length_append]
termination_by text.length
decreasing_by
  · simp
  · simp
  · simp only [hsplit, List.length_append]
    have hpos : 0 < Marker.opening.length := by decide
    omega

/-- The marker at the same place of the text. -/
def withReturns (text : List Char) (marker : Marker) : Marker :=
  ⟨marker.name, returned text marker.start⟩

/-- **The markers stand at the same places.** -/
theorem scan_withReturns {text : List Char} (htemplate : ¬ Marker.opening ++ ['\n'] <:+: text)
    (hnamespace : ¬ namespaceOpening ++ ['\n'] <:+: text) :
    scan (Text.withReturns text) = (scan text).map (withReturns text) := by
  have hdeclared : declarations (Text.withReturns text)
      = (declarations text).map fun declared => (returned text declared.1, declared.2) :=
    declarationsFrom_withReturns [] text htemplate
  simp only [scan, declaredNamespace_withReturns hnamespace, hdeclared, List.map_map]
  rfl

/-- The template is found on the same lines. -/
lemma found_withReturns (text : List Char) (marker : Marker) :
    (marker.withReturns text).found (Text.withReturns text) = marker.found text := by
  simp only [found, withReturns, scanEnd_withReturns, lineOf_withReturns]

end Marker

namespace Finder

open Text

lemma selected_withReturns {text : List Char} (htemplate : ¬ Marker.opening ++ ['\n'] <:+: text)
    (hnamespace : ¬ Marker.namespaceOpening ++ ['\n'] <:+: text) (name wildcard : String) :
    selected (withReturns text) name wildcard
      = (selected text name wildcard).map (Marker.withReturns text) := by
  have hscan := Marker.scan_withReturns htemplate hnamespace
  by_cases hwildcard : name = wildcard
  · rw [hwildcard, selected_wildcard, selected_wildcard, hscan]
    exact (map_groupedBy (Marker.withReturns text) (fun _ => rfl) _).symm
  · rw [selected_name _ hwildcard, selected_name _ hwildcard, hscan, List.filter_map]
    rfl

/-- **The style of line endings changes no answer.**  A text is given with line feeds only, and no opening of a
template or a namespace stands at the end of a line.  With a carriage return in front of every line feed, which
reading from the disk takes out again, each name and the wildcard find the same templates on the same lines. -/
theorem findInText_withReturns {text : List Char} (hreturn : '\r' ∉ text)
    (htemplate : ¬ "\x7btemplate ".toList ++ ['\n'] <:+: text)
    (hnamespace : ¬ "\x7bnamespace ".toList ++ ['\n'] <:+: text) (name wildcard : String)
    (memory other : Soy.Stack) :
    unifyNewlines (withReturns text) = text ∧ ∃ found,
      (findInText Soy.lexer (withReturns text) name wildcard memory).1 = .ok found ∧
      (findInText Soy.lexer text name wildcard other).1 = .ok found := by
  refine ⟨unifyNewlines_withReturns hreturn, _, ?_, findInText_eq text name wildcard other⟩
  rw [findInText_eq, selected_withReturns htemplate hnamespace, List.map_map]
  exact congrArg Except.ok (List.map_congr_left fun marker _ => Marker.found_withReturns text marker)

/-- The lines end in a line comment, in a block comment, in text that is taken literally, and in a string behind its
backslash, each of which holds a closing that does not count. -/
theorem findInText_withReturns_everywhere :
    let text := ("\x7bnamespace a.b\x7d\n\x7btemplate .one\n\x7d // \x7b/template\x7d\n/* \x7b/template\x7d\n" ++
      "*/\x7bliteral\x7d\n\x7b/template\x7d\x7b/literal\x7d\n\x7bcall 'c\\\n\x7b/template\x7d'\x7d\n" ++
      "\x7b/template\x7d\n\x7btemplate .two\x7d\x7b/template\x7d\n").toList
    let found := [⟨"a.b.one", 1, 8⟩, ⟨"a.b.two", 9, 9⟩]
    unifyNewlines (withReturns text) = text ∧
      (findInText Soy.lexer (withReturns text) "*" "*" []).1 = .ok found ∧
      (findInText Soy.lexer text "*" "*" []).1 = .ok found := by
  intro text found
  have hreturn : '\r' ∉ text := by decide +kernel
  have htemplate : ¬ "\x7btemplate ".toList ++ ['\n'] <:+: text := by decide +kernel
  have hnamespace : ¬ "\x7bnamespace ".toList ++ ['\n'] <:+: text := by decide +kernel
  have hfound : (findInText Soy.lexer text "*" "*" []).1 = .ok found := by decide +kernel
  obtain ⟨hunified, same, hreturned, hplain⟩ :=
    findInText_withReturns hreturn htemplate hnamespace "*" "*" [] []
  obtain rfl : same = found := Except.ok.inj (hplain.symm.trans hfound)
  exact ⟨hunified, hreturned, hplain⟩

end Finder

end TemplateAtlas
