import Mathlib.Tactic.Common
import TemplateAtlas.Proofs.CallSites

/-!
# Where a called name stands

The name that a line calls is put together from tokens.  The token behind the keyword is left out unseen, since it
is taken for the blank between keyword and name, and tokens are taken until one of them ends the name.  Where this
is not what a call looks like, the name may come from elsewhere.

**The site.**  Whatever the tokens are, a name that is called is a piece of the line, and stands behind the keyword
and the token left out (`CalledName`, `CalledName.place`).

**The tag.**  In the tag of a call a token closes the tag, or is blank, or is a string, or is a lone opening brace,
or holds neither blanks nor braces (`Soy.token_of_tag`).  So the name stays in the tag if the token left out does
(`CalledName.readsOn`), and the strings and lone braces among its pieces are all that can bring blanks and braces
into it.

**Inside the call.**  The name stands in the tag, without blanks and braces, if and only if the token left out does
not close the tag, and no piece is a lone opening brace or a string with blanks or braces: `nameAt_insideCall_iff`.
A tag that is closed at once has its name behind it: `name_behind_tag`.
-/

namespace TemplateAtlas

open Soy Text

/-- Neither a blank nor a brace. -/
def IsBare (c : Char) : Prop := isBlank c = false ∧ c ≠ '\x7b' ∧ c ≠ '\x7d'

instance : DecidablePred IsBare :=
  fun c => inferInstanceAs (Decidable (isBlank c = false ∧ c ≠ '\x7b' ∧ c ≠ '\x7d'))

/-- The keyword that closes a tag. -/
def Token.ClosesTag (token : Token) : Prop := token.Closes ['\x7d'] ∨ token.Closes ['/', '\x7d']

instance : DecidablePred Token.ClosesTag :=
  fun token => inferInstanceAs (Decidable (token.Closes _ ∨ token.Closes _))

/-! ## The tag -/

namespace Soy

lemma isBare_of_isDottedChar {c : Char} (h : isDottedChar c = true) : IsBare c := by
  have hname := Marker.isNameChar_of_isDottedChar h
  simp only [Marker.isNameChar, Bool.and_eq_true, Bool.not_eq_true', decide_eq_true_eq] at hname
  refine ⟨hname.1.1.1, ?_, hname.1.2⟩
  rintro rfl
  exact absurd h (by decide)

lemma isBare_of_isDecimalDigit {c : Char} (h : isDecimalDigit c = true) : IsBare c := by
  refine ⟨?_, ?_, ?_⟩
  · rw [Bool.eq_false_iff]
    intro hblank
    have hnot : (!isDecimalDigit c) = true :=
      CharSet.of_contains blanks (fun c => !isDecimalDigit c) (by decide +kernel) hblank
    simp [h] at hnot
  · rintro rfl
    exact absurd h (by decide)
  · rintro rfl
    exact absurd h (by decide)

/-- The characters of a number are digits and a point. -/
lemma isBare_of_mem_number {d : Char} {cs : List Char} (hd : d ∈ cs.take (numberLength cs)) :
    IsBare d := by
  have hdigits : ∀ {cs : List Char}, d ∈ cs.take (runLength isDecimalDigit cs) → IsBare d := by
    intro cs hd
    rw [take_runLength] at hd
    exact isBare_of_isDecimalDigit (List.mem_takeWhile_imp hd)
  simp only [numberLength] at hd
  split at hd
  · rename_i rest hrest
    split_ifs at hd
    · exact hdigits hd
    · rw [Nat.add_assoc, List.take_add, hrest, Nat.add_comm 1, List.take_succ_cons,
        List.mem_append, List.mem_cons] at hd
      rcases hd with hd | rfl | hd
      · exact hdigits hd
      · exact ⟨by decide, by decide, by decide⟩
      · exact hdigits hd
  · exact hdigits hd

/-- In a tag, a word that is no lone brace holds neither blanks nor braces. -/
lemma isBare_of_mem_word {c d : Char} {cs : List Char} (hc : IsBare c)
    (hd : d ∈ c :: cs.take (wordCut c cs).extra) : IsBare d := by
  have hdotted : d ∈ cs.take (runLength isDottedChar cs) → IsBare d := by
    rw [take_runLength]
    exact fun hd => isBare_of_isDottedChar (List.mem_takeWhile_imp hd)
  rcases List.mem_cons.mp hd with rfl | hd
  · exact hc
  · simp only [wordCut] at hd
    split_ifs at hd
    · simp at hd
    · exact hdotted hd
    · exact isBare_of_mem_number hd
    · exact hdotted hd
    · simp at hd
    · simp at hd

/-- What a token of a tag may hold if it leaves the tag open. -/
def Fills (token : Token) : Prop :=
  (∀ c ∈ token.text, isBlank c = true) ∨ token.kind = .string ∨ token.text = ['\x7b'] ∨
    ∀ c ∈ token.text, IsBare c

/-- **Tokens of a tag.**  A token closes the tag, or the tag goes on. -/
theorem token_of_tag (before : Option Char) (c : Char) (rest : List Char) (column : Nat) :
    let token := Token.placed (Region.tag.front before c rest) (Region.tag.cut before c rest).kind column
    token.ClosesTag ∨ (Region.tag.next before c rest = .tag ∧ Fills token) := by
  intro token
  by_cases hbrace : c = '\x7d'
  · subst hbrace
    exact Or.inl (Or.inl ⟨rfl, rfl⟩)
  by_cases hslash : (decide (c = '/') && decide (rest.head? = some '\x7d')) = true
  · simp only [Bool.and_eq_true, decide_eq_true_eq] at hslash
    obtain ⟨rfl, hhead⟩ := hslash
    obtain ⟨others, rfl⟩ := List.head?_eq_some_iff.mp hhead
    exact Or.inl (Or.inr ⟨rfl, rfl⟩)
  refine Or.inr ?_
  have hcut : Region.tag.cut before c rest = tagCut c rest := rfl
  rw [tagCut, if_neg hbrace, if_neg hslash] at hcut
  by_cases hblank : isBlank c = true
  · rw [if_pos hblank] at hcut
    refine ⟨by rw [Region.next, hcut]; rfl, Or.inl fun d hd => ?_⟩
    simp only [token, Token.placed, Region.front, hcut, take_runLength, List.mem_cons] at hd
    rcases hd with rfl | hd
    · exact hblank
    · exact List.mem_takeWhile_imp hd
  rw [if_neg hblank] at hcut
  by_cases hquote : (decide (c = '\'') || decide (c = '"')) = true
  · rw [if_pos hquote] at hcut
    cases hlength : quotedLength? c rest <;> simp only [hlength] at hcut <;>
      exact ⟨by rw [Region.next, hcut]; rfl, Or.inr (Or.inl (by simp [token, Token.placed, hcut]))⟩
  rw [if_neg hquote] at hcut
  refine ⟨by rw [Region.next, hcut, Region.wordCut_move]; rfl, Or.inr (Or.inr ?_)⟩
  by_cases hopen : c = '\x7b'
  · subst hopen
    exact Or.inl rfl
  · refine Or.inr fun d hd => ?_
    simp only [token, Token.placed, Region.front, hcut] at hd
    exact isBare_of_mem_word ⟨Bool.eq_false_iff.mpr hblank, hopen, hbrace⟩ hd

/-- However many tokens of a tag leave it open, it is open behind them, and each of them fills it. -/
lemma ReadsOn.tag_append {line : List Char} {front back : List Token} :
    ∀ {column : Nat}, ReadsOn line column .tag (front ++ back) →
      (∀ token ∈ front, ¬ token.ClosesTag) →
        ReadsOn line (column + (front.flatMap (·.text)).length) .tag back ∧
          ∀ token ∈ front, Fills token := by
  induction front with
  | nil => exact fun h _ => ⟨h, fun _ hmem => absurd hmem List.not_mem_nil⟩
  | cons token front ih =>
      intro column h hopen
      rw [List.forall_mem_cons] at hopen
      obtain ⟨-, hstop, -⟩ := ReadsOn.place h
      obtain ⟨before, c, rest, -, htoken, hback⟩ := ReadsOn.cons h
      rw [hstop, Int.toNat_natCast] at hback
      rcases token_of_tag before c rest column with hcloses | ⟨htag, hfills⟩
      · exact absurd (htoken ▸ hcloses) hopen.1
      · rw [htag] at hback
        obtain ⟨hread, hothers⟩ := ih hback hopen.2
        rw [List.flatMap_cons, List.length_append, ← Nat.add_assoc]
        exact ⟨hread, List.forall_mem_cons.mpr ⟨htoken ▸ hfills, hothers⟩⟩

/-- No token stands in front of the column from which it was read on. -/
lemma ReadsOn.le_start {line : List Char} {tokens : List Token} {token : Token} :
    ∀ {column : Nat} {region : Region}, ReadsOn line column region tokens → token ∈ tokens →
      (column : Int) ≤ token.start := by
  induction tokens with
  | nil => exact fun _ hmem => absurd hmem List.not_mem_nil
  | cons first tokens ih =>
      intro column region h hmem
      obtain ⟨hstart, hstop, -⟩ := ReadsOn.place h
      obtain ⟨_, _, _, -, -, hback⟩ := ReadsOn.cons h
      rcases List.mem_cons.mp hmem with rfl | hmem
      · exact Int.le_of_eq hstart.symm
      · have hlater := ih hback hmem
        omega

end Soy

/-! ## The site -/

/-- The name that some tokens call: the tokens up to the keyword of the first call, the token behind it, which is
left out, and the pieces of the name, up to a token that ends it. -/
structure CalledName (tokens : List Token) where
  front : List Token
  call : Token
  gap : Token
  pieces : List Token
  back : List Token
  tokens_eq : tokens = front ++ call :: gap :: (pieces ++ back)
  first : ∀ token ∈ front, Call.opens token = false
  opens : Call.opens call = true
  goesOn : ∀ piece ∈ pieces, Call.endsName piece = false
  ends : ∀ token ∈ back.head?, Call.endsName token = true
  nonempty : pieces.flatMap (·.text) ≠ []

/-- The characters of a name. -/
def CalledName.name {tokens : List Token} (site : CalledName tokens) : List Char :=
  site.pieces.flatMap (·.text)

/-- A name stands in the tag of the first call of a line: behind the keyword of the call, and in front of the
keyword that closes the tag, if there is one.  It is not empty, and holds neither blanks nor braces. -/
structure InsideCall (line : List Char) (tokens : List Token) (name : List Char) : Prop where
  nonempty : name ≠ []
  bare : ∀ c ∈ name, IsBare c
  stands : ∃ call back column,
    tokens.dropWhile (fun token => !Call.opens token) = call :: back ∧
      call.stop ≤ (column : Nat) ∧ (line.drop column).take name.length = name ∧
      ∀ closing ∈ back.find? fun token => decide token.ClosesTag,
        (column + name.length : Nat) ≤ closing.start

namespace CalledName

variable {line : List Char} {tokens : List Token} {region : Region}

/-- A name that is called has a site. -/
lemma exists_site (h : Call.calledName tokens ≠ []) :
    ∃ site : CalledName tokens, site.name = Call.calledName tokens := by
  have hsplit := List.takeWhile_append_dropWhile (p := fun token => !Call.opens token) (l := tokens)
  cases hbehind : tokens.dropWhile (fun token => !Call.opens token) with
  | nil => simp [Call.calledName, hbehind] at h
  | cons call behind =>
      cases behind with
      | nil => simp [Call.calledName, hbehind] at h
      | cons gap behind =>
          have hname : Call.calledName tokens
              = (behind.takeWhile fun token => !Call.endsName token).flatMap (·.text) := by
            rw [Call.calledName, hbehind]
            rfl
          have hhead := List.head?_dropWhile_not (fun token => !Call.opens token) tokens
          have hback := List.head?_dropWhile_not (fun token => !Call.endsName token) behind
          rw [hbehind] at hhead
          refine ⟨⟨tokens.takeWhile fun token => !Call.opens token, call, gap,
            behind.takeWhile fun token => !Call.endsName token,
            behind.dropWhile fun token => !Call.endsName token, ?_, ?_, ?_, ?_, ?_, ?_⟩, hname.symm⟩
          · rw [List.takeWhile_append_dropWhile, ← hbehind, hsplit]
          · exact fun token hmem => by simpa using List.mem_takeWhile_imp hmem
          · simpa using hhead
          · exact fun token hmem => by simpa using List.mem_takeWhile_imp hmem
          · intro token hmem
            rw [Option.mem_def] at hmem
            rw [hmem] at hback
            simpa using hback
          · rwa [hname] at h

/-- From the first call on, the tokens are those of the site. -/
lemma dropWhile_eq (site : CalledName tokens) :
    tokens.dropWhile (fun token => !Call.opens token)
      = site.call :: site.gap :: (site.pieces ++ site.back) := by
  have hfront : ∀ token ∈ site.front, (!Call.opens token) = true := by
    intro token htoken
    rw [site.first token htoken]
    rfl
  conv_lhs => rw [site.tokens_eq]
  rw [List.dropWhile_append_of_pos hfront, List.dropWhile_cons_of_neg (by simp [site.opens])]

/-- Behind the keyword the line is read on in the tag of the call. -/
lemma readsOn (site : CalledName tokens) (h : ReadsOn line 0 region tokens) :
    ReadsOn line site.call.stop.toNat .tag (site.gap :: (site.pieces ++ site.back)) ∧
      0 ≤ site.call.stop := by
  rw [site.tokens_eq] at h
  obtain ⟨⟨after, hafter⟩, -⟩ := h.append
  have hopens := site.opens
  rw [Call.opens, Bool.and_eq_true, decide_eq_true_eq, decide_eq_true_eq] at hopens
  obtain ⟨-, hstop, -⟩ := hafter.place
  obtain ⟨before, c, cs, -, hcall, htag⟩ := hafter.cons
  rw [hcall] at hopens
  rw [Region.next_of_opens hopens.1 hopens.2] at htag
  exact ⟨htag, by omega⟩

/-- **A called name is a piece of the line.**  It stands behind the keyword and the token that was left out. -/
theorem place (site : CalledName tokens) (h : ReadsOn line 0 region tokens) :
    site.call.stop ≤ site.gap.stop ∧ 0 ≤ site.call.stop ∧
      (line.drop site.gap.stop.toNat).take site.name.length = site.name := by
  obtain ⟨hread, hpos⟩ := site.readsOn h
  obtain ⟨-, hstop, -⟩ := hread.place
  obtain ⟨_, _, _, -, -, hpieces⟩ := hread.cons
  obtain ⟨-, htext⟩ := hpieces.append
  refine ⟨by omega, hpos, ?_⟩
  rw [htext]
  exact List.take_left

/-- A piece of a name does not close a tag. -/
lemma not_closesTag {piece : Token} (h : Call.endsName piece = false) : ¬ piece.ClosesTag := by
  rintro (⟨-, htext⟩ | ⟨-, htext⟩) <;> simp [Call.endsName, htext] at h

/-- A piece of a name that fills the tag is a string or a lone brace, or has neither blanks nor braces. -/
lemma isBare_of_fills {piece : Token} (hends : Call.endsName piece = false) (hfills : Fills piece)
    (hbrace : piece.text ≠ ['\x7b']) (hstring : piece.kind = .string → ∀ c ∈ piece.text, IsBare c) :
    ∀ c ∈ piece.text, IsBare c := by
  rcases hfills with hblank | hkind | htext | hbare
  · have hempty : piece.isBlank = true := by
      rw [Token.isBlank, List.isEmpty_iff]
      exact strip_eq_nil_iff.mpr hblank
    simp [Call.endsName, hempty] at hends
  · exact hstring hkind
  · exact absurd htext hbrace
  · exact hbare

/-- **Inside the call.**  A called name is in the tag of its call, without blanks and braces, exactly if the token
left out leaves the tag open, and no piece is a lone brace or a string with a blank or a brace. -/
theorem insideCall_iff (site : CalledName tokens) (h : ReadsOn line 0 region tokens) :
    InsideCall line tokens site.name ↔
      ¬ site.gap.ClosesTag ∧ ∀ piece ∈ site.pieces,
        piece.text ≠ ['\x7b'] ∧ (piece.kind = .string → ∀ c ∈ piece.text, IsBare c) := by
  obtain ⟨hread, -⟩ := site.readsOn h
  obtain ⟨hstart, hstop, -⟩ := hread.place
  constructor
  · rintro ⟨hnonempty, hbare, call, back, column, hbehind, hcolumn, -, hclosing⟩
    rw [site.dropWhile_eq, List.cons.injEq] at hbehind
    obtain ⟨rfl, rfl⟩ := hbehind
    refine ⟨fun hgap => ?_, fun piece hpiece => ?_⟩
    · have hbefore := hclosing site.gap (by rw [Option.mem_def, List.find?_cons_of_pos (by simpa using hgap)])
      have hlength := List.length_pos_iff.mpr hnonempty
      omega
    · have hpieces : ∀ c ∈ piece.text, IsBare c :=
        fun c hc => hbare c (List.mem_flatMap.mpr ⟨piece, hpiece, hc⟩)
      refine ⟨fun htext => ?_, fun _ => hpieces⟩
      exact (hpieces '\x7b' (by rw [htext]; exact List.mem_singleton_self _)).2.1 rfl
  · rintro ⟨hgap, hpieces⟩
    obtain ⟨hplace, hpos, htext⟩ := site.place h
    have hopen : ∀ token ∈ site.gap :: site.pieces, ¬ token.ClosesTag :=
      List.forall_mem_cons.mpr ⟨hgap, fun piece hpiece => not_closesTag (site.goesOn piece hpiece)⟩
    obtain ⟨hback, hfills⟩ := @ReadsOn.tag_append line (site.gap :: site.pieces) _ _ hread hopen
    refine ⟨site.nonempty, fun c hc => ?_, _, _, site.gap.stop.toNat, site.dropWhile_eq, by omega, htext,
      fun closing hclosing => ?_⟩
    · obtain ⟨piece, hpiece, hc⟩ := List.mem_flatMap.mp hc
      obtain ⟨hbrace, hstring⟩ := hpieces piece hpiece
      exact isBare_of_fills (site.goesOn piece hpiece) (hfills piece (List.mem_cons_of_mem _ hpiece))
        hbrace hstring c hc
    · rw [← List.cons_append, List.find?_append, List.find?_eq_none.mpr (by simpa using hopen),
        Option.none_or] at hclosing
      have hlater := hback.le_start (List.mem_of_find?_eq_some hclosing)
      rw [List.flatMap_cons, List.length_append] at hlater
      rw [CalledName.name]
      omega

end CalledName

namespace Call

/-- The tokens of a line of a text, numbered from zero; the lines before it are read first. -/
def tokensAt (text : List Char) (number : Nat) (line : List Char) (memory : Stack) : List Token :=
  (lexer.line line (lexer.readLines ((splitLines text).take number) (lexer.restart memory))).1

/-- A line of a text is read in some region. -/
lemma readsOn_tokensAt (text : List Char) (number : Nat) (line : List Char) (memory : Stack) :
    ∃ region, ReadsOn line 0 region (tokensAt text number line memory) := by
  obtain ⟨region, hregion⟩ := readLines_stack ((splitLines text).take number) .root
  have hbefore : lexer.readLines ((splitLines text).take number) (lexer.restart memory)
      = region.stack := hregion
  have hline : lexer.line line region.stack = readFrom 0 none region.stack line :=
    readLine_stack line region
  exact ⟨region, none, by rw [tokensAt, hbefore, hline, List.drop_zero]⟩

/-- A line that calls a name is there, and the name is what its tokens call. -/
lemma exists_of_nameAt {text : List Char} {number : Int} {memory : Stack} {called : String}
    (h : (nameAt lexer text number memory).1 = some called) :
    ∃ line, 0 ≤ number ∧ (splitLines text)[number.toNat]? = some line ∧
      calledName (tokensAt text number.toNat line memory) ≠ [] ∧
      called = resolveName text (calledName (tokensAt text number.toNat line memory)) := by
  rw [nameAt] at h
  split_ifs at h with hnumber
  cases hline : (splitLines text)[number.toNat]? with
  | none => simp [hline] at h
  | some line =>
      refine ⟨line, Int.not_lt.mp hnumber, rfl, ?_⟩
      simp only [hline] at h
      rw [tokensAt]
      split at h
      · simp at h
      · rename_i hname
        exact ⟨hname, (Option.some.inj h).symm⟩

/-- **Where a called name comes from.**  Let a line of a text call some qualified name.  The local name that it is
built from is a piece of that line, and stands behind the keyword of the first call and the token after it.  It stands
in the tag of that call, without blanks and braces, if and only if the token after the keyword does not close the
tag, and no piece of the name is a lone opening brace or a string in which there are blanks or braces. -/
theorem nameAt_insideCall_iff {text : List Char} {number : Int} {memory : Stack} {called : String}
    (h : (nameAt lexer text number memory).1 = some called) :
    ∃ line, 0 ≤ number ∧ (splitLines text)[number.toNat]? = some line ∧
      ∃ site : CalledName (tokensAt text number.toNat line memory),
        called = resolveName text site.name ∧
          (site.call.stop ≤ site.gap.stop ∧ 0 ≤ site.call.stop ∧
            (line.drop site.gap.stop.toNat).take site.name.length = site.name) ∧
          (InsideCall line (tokensAt text number.toNat line memory) site.name ↔
            ¬ site.gap.ClosesTag ∧ ∀ piece ∈ site.pieces,
              piece.text ≠ ['\x7b'] ∧ (piece.kind = .string → ∀ c ∈ piece.text, IsBare c)) := by
  obtain ⟨line, hnumber, hline, hname, hcalled⟩ := exists_of_nameAt h
  obtain ⟨region, hread⟩ := readsOn_tokensAt text number.toNat line memory
  obtain ⟨site, hsite⟩ := CalledName.exists_site hname
  exact ⟨line, hnumber, hline, site, by rw [hcalled, hsite], site.place hread, site.insideCall_iff hread⟩

/-- A call behind a comment, of a name that is made of two tokens. -/
def commentedCall : List Char := "/* \x7bcall */ \x7bcall .x$y data=\"all\"/\x7d".toList

/-- The tokens behind the blank of the call. -/
def behindCall : List Token :=
  [.placed ".x".toList .name 18, .placed "$y".toList .name 20, .placed [' '] .text 22,
    .placed "data".toList .name 23, .placed ['='] .operator 27, .placed "\"all\"".toList .string 28,
    .placed "/\x7d".toList .keyword 33]

/-- The name that is called there stands in its tag. -/
theorem nameAt_insideCall_iff_commented :
    (nameAt lexer commentedCall 0 []).1 = some ".x$y" ∧
      ∃ line, (splitLines commentedCall)[0]? = some line ∧
        ∃ name, ".x$y" = resolveName commentedCall name ∧
          InsideCall line (tokensAt commentedCall 0 line []) name := by
  have hcalled : (nameAt lexer commentedCall 0 []).1 = some ".x$y" := by decide +kernel
  obtain ⟨line, -, hline, site, hname, -, hinside⟩ := nameAt_insideCall_iff hcalled
  have hself : (splitLines commentedCall)[0]? = some commentedCall := by decide +kernel
  obtain rfl : commentedCall = line := Option.some.inj (hself.symm.trans hline)
  refine ⟨hcalled, _, hline, site.name, hname, hinside.mpr ?_⟩
  have htokens : (tokensAt commentedCall 0 commentedCall []).dropWhile (fun token => !opens token)
      = .placed opening .keyword 12 :: .placed [' '] .text 17 :: behindCall := by decide +kernel
  have hbehind := htokens.symm.trans site.dropWhile_eq
  rw [List.cons.injEq, List.cons.injEq] at hbehind
  obtain ⟨-, hgap, hpieces⟩ := hbehind
  refine ⟨by rw [← hgap]; decide, fun piece hpiece => ?_⟩
  have hbare : ∀ piece ∈ behindCall, endsName piece = false →
      piece.text ≠ ['\x7b'] ∧ (piece.kind = .string → piece.text.all (fun c => decide (IsBare c)) = true) := by
    decide +kernel
  obtain ⟨hbrace, hstring⟩ :=
    hbare piece (hpieces ▸ List.mem_append_left _ hpiece) (site.goesOn piece hpiece)
  exact ⟨hbrace, fun hkind c hc => of_decide_eq_true (List.all_eq_true.mp (hstring hkind) c hc)⟩

/-- A call whose tag is closed at once, with a word behind it. -/
def emptyCall : List Char := "\x7bcall\x7dabc".toList

/-- **A name may stand behind the tag.**  No name stands in the tag of this call, and yet one is called. -/
theorem name_behind_tag :
    (nameAt lexer emptyCall 0 []).1 = some "abc" ∧
      ∀ name, ¬ InsideCall emptyCall (tokensAt emptyCall 0 emptyCall []) name := by
  refine ⟨by decide +kernel, fun name hinside => ?_⟩
  obtain ⟨call, back, column, hbehind, hcolumn, -, hclosing⟩ := hinside.stands
  have htokens : (tokensAt emptyCall 0 emptyCall []).dropWhile (fun token => !opens token)
      = [.placed opening .keyword 0, .placed ['\x7d'] .keyword 5, .placed "abc".toList .other 6] := by
    decide +kernel
  rw [htokens, List.cons.injEq] at hbehind
  obtain ⟨rfl, rfl⟩ := hbehind
  have hbefore := hclosing (.placed ['\x7d'] .keyword 5) (by decide)
  have hlength := List.length_pos_iff.mpr hinside.nonempty
  have hstart : (Token.placed opening .keyword 0).stop = 5 := by decide
  rw [hstart] at hcolumn
  simp only [Token.placed] at hbefore
  omega

end Call

end TemplateAtlas
