import Mathlib.Tactic.Common
import TemplateAtlas.Call
import TemplateAtlas.Proofs.Rendering

/-!
# Calls lead to declarations

A template is declared by a scan of the raw text, and called by the tokens of a line.  The two ways of reading a
name agree: a name that is declared somewhere in a text and called on any line of it is the same name, so that
whoever asks for what is called finds what is declared.

**Declarations.**  Where a text reads as the declaration of a name, up to a character that ends it (`EndsName`), the
marker that stands there has that name in the namespace of the text (`Marker.name_of_declares`).

**Tokens.**  The tokens behind any token of a line are those of what is left of the line, read in some region
(`ReadsOn.append`).  The keyword of a call is one only in ordinary text, and what comes behind it is read in its
tag, whatever stands in front of it (`Region.next_of_opens`).

**Calls.**  In the tag the name is one token, and the token behind it ends the name: `CallSite.calledName_eq`.
Both names are put into the same namespace, so that the call leads to the declaration: `CallSite.leads`.
-/

namespace TemplateAtlas

open Rendering Soy Text

/-- What may stand behind a name, where it is declared and where it is called. -/
def EndsName (c : Char) : Prop := isBlank c = true ∨ c = '}' ∨ c = '/'

lemma EndsName.not_isNameChar {c : Char} (h : EndsName c) : Marker.isNameChar c = false := by
  rcases h with h | rfl | rfl
  · simp [Marker.isNameChar, h]
  · decide
  · decide

lemma EndsName.not_isDottedChar {c : Char} (h : EndsName c) : isDottedChar c = false := by
  rw [Bool.eq_false_iff]
  intro hdotted
  exact absurd (Marker.isNameChar_of_isDottedChar hdotted) (by simp [h.not_isNameChar])

/-! ## Declarations -/

/-- The text reads as the declaration of a template at an offset. -/
def Declares (text : List Char) (start : Nat) (name : LocalName) : Prop :=
  ∃ c rest, text.drop start = "\x7btemplate ".toList ++ (name.chars ++ c :: rest) ∧ EndsName c

namespace Marker

/-- **A marker has the name that is declared where it stands**, in the namespace of the text. -/
theorem name_of_declares {text : List Char} {marker : Marker} {name : LocalName}
    (hmarker : marker ∈ scan text) (hdeclares : Declares text marker.start name) :
    marker.name = qualify (declaredNamespace text) name.chars := by
  obtain ⟨⟨start, raw⟩, hmem, rfl⟩ := List.mem_map.mp hmarker
  obtain ⟨gap, hstart, hraw⟩ := mem_declarationsFrom hmem
  obtain ⟨c, rest, htext, hends⟩ := hdeclares
  have hname : declaredName? (name.chars ++ c :: rest) = some name.chars :=
    declaredName?_append (by decide)
      (fun _ hc => isNameChar_of_isDottedChar (name.isDottedChar hc)) hends.not_isNameChar rest
  rw [Nat.zero_add] at hstart
  have hafter : after? opening (text.drop gap) = some (name.chars ++ c :: rest) := by
    rw [← hstart, htext]
    exact after?_append opening _
  rw [hafter, Option.bind_some, hname, Option.some.injEq] at hraw
  rw [hraw]

end Marker

/-! ## Tokens -/

namespace Soy

/-- The tokens are those of what is left of a line from a column on, read in a region. -/
def ReadsOn (line : List Char) (column : Nat) (region : Region) (tokens : List Token) : Prop :=
  ∃ before, tokens = (readFrom column before region.stack (line.drop column)).1

/-- A token is the next one of what is left of the line, and behind it the line is read on in the region that the
token leads to. -/
lemma ReadsOn.cons {line : List Char} {column : Nat} {region : Region} {token : Token}
    {back : List Token} (h : ReadsOn line column region (token :: back)) :
    ∃ before c rest, line.drop column = c :: rest ∧
      token = .placed (region.front before c rest) (region.cut before c rest).kind column ∧
        ReadsOn line token.stop.toNat (region.next before c rest) back := by
  obtain ⟨before, hread⟩ := h
  cases hline : line.drop column with
  | nil => simp [hline, readFrom_nil] at hread
  | cons c rest =>
      rw [hline, readFrom_cons, List.cons.injEq] at hread
      obtain ⟨rfl, hback⟩ := hread
      have hstop : ((column : Int) + (region.front before c rest).length).toNat
          = column + (region.front before c rest).length := by omega
      have hdrop : line.drop (column + (region.front before c rest).length)
          = region.behind before c rest := by
        rw [← List.drop_drop, hline]
        conv_lhs => rw [← region.front_append_behind before c rest]
        exact List.drop_left
      refine ⟨before, c, rest, rfl, rfl, (region.front before c rest).getLast?, ?_⟩
      simp only [Token.placed, hstop, hdrop]
      exact hback

/-- A token takes the characters from its column on. -/
lemma ReadsOn.place {line : List Char} {column : Nat} {region : Region} {token : Token}
    {back : List Token} (h : ReadsOn line column region (token :: back)) :
    token.start = column ∧ token.stop = ((column + token.text.length : Nat) : Int) ∧
      line.drop column = token.text ++ line.drop (column + token.text.length) := by
  obtain ⟨before, c, rest, hline, rfl, -⟩ := h.cons
  refine ⟨rfl, by simp only [Token.placed]; omega, ?_⟩
  rw [← List.drop_drop, hline, ← region.front_append_behind before c rest]
  simp only [Token.placed, List.drop_left]

/-- However many tokens stand in front, they take as many characters as they have, and behind them the line is
read on in some region. -/
lemma ReadsOn.append {line : List Char} {front back : List Token} :
    ∀ {column : Nat} {region : Region}, ReadsOn line column region (front ++ back) →
      (∃ region, ReadsOn line (column + (front.flatMap (·.text)).length) region back) ∧
        line.drop column = front.flatMap (·.text)
          ++ line.drop (column + (front.flatMap (·.text)).length) := by
  induction front with
  | nil => exact fun h => ⟨⟨_, h⟩, rfl⟩
  | cons token front ih =>
      intro column region h
      obtain ⟨-, hstop, htext⟩ := ReadsOn.place h
      obtain ⟨_, _, _, -, -, hback⟩ := ReadsOn.cons h
      rw [hstop, Int.toNat_natCast] at hback
      obtain ⟨hread, hrest⟩ := ih hback
      rw [List.flatMap_cons, List.length_append, ← Nat.add_assoc]
      exact ⟨hread, by rw [htext, hrest, List.append_assoc]⟩

/-- A call is opened in ordinary text alone, and opens a tag. -/
lemma Region.next_of_opens {before : Option Char} {c : Char} {rest : List Char} {region : Region}
    (hkind : (region.cut before c rest).kind = .keyword)
    (htext : region.front before c rest = Call.opening) : region.next before c rest = tag := by
  have hopening : Call.opening = '{' :: ['c', 'a', 'l', 'l'] := by decide
  rw [hopening, Region.front, List.cons.injEq] at htext
  obtain ⟨rfl, htake⟩ := htext
  cases region with
  | root =>
      by_cases hliteral : "literal\x7d".toList.isPrefixOf rest = true
      · have hcut : Region.root.cut before '{' rest = ⟨8, .keyword, .enter .literal⟩ := by
          rw [Region.cut, rootCut, if_neg (by decide), if_pos rfl, if_pos hliteral]
        obtain ⟨behind, rfl⟩ := List.isPrefixOf_iff_prefix.mp hliteral
        rw [hcut] at htake
        exact absurd (List.cons.inj htake).1 (by decide)
      · cases hcommand : commandLength? rest with
        | some length =>
            have hcut : Region.root.cut before '{' rest = ⟨length, .keyword, .enter .tag⟩ := by
              rw [Region.cut, rootCut, if_neg (by decide), if_pos rfl, if_neg hliteral, hcommand]
            rw [Region.next, hcut]
            rfl
        | none =>
            have hcut : Region.root.cut before '{' rest = ⟨0, .punctuation, .enter .tag⟩ := by
              rw [Region.cut, rootCut, if_neg (by decide), if_pos rfl, if_neg hliteral, hcommand]
            rw [hcut] at hkind
            exact Kind.noConfusion hkind
  | comment =>
      have hcut : (Region.comment.cut before '{' rest).kind = .comment := rfl
      rw [hcut] at hkind
      exact Kind.noConfusion hkind
  | literal =>
      have hcut : Region.literal.cut before '{' rest
          = if "/literal\x7d".toList.isPrefixOf rest then ⟨9, .keyword, .leave⟩
            else ⟨0, .string, .stay⟩ := rfl
      rw [hcut] at hkind htake
      split_ifs at hkind htake with hend
      · obtain ⟨behind, rfl⟩ := List.isPrefixOf_iff_prefix.mp hend
        exact absurd (List.cons.inj htake).1 (by decide)
  | tag =>
      have hcut : (Region.tag.cut before '{' rest).kind = .operator := rfl
      rw [hcut] at hkind
      exact Kind.noConfusion hkind

/-- A token of a tag that starts with a blank is as long as there are blanks. -/
lemma Region.cut_blank {before : Option Char} {c : Char} {rest : List Char} (h : isBlank c = true) :
    Region.tag.cut before c rest = ⟨runLength isBlank rest, .text, .stay⟩ := by
  have hbrace : c ≠ '}' := by
    rintro rfl
    exact absurd h (by decide)
  have hslash : c ≠ '/' := by
    rintro rfl
    exact absurd h (by decide)
  rw [Region.cut, tagCut, if_neg hbrace, if_neg (by simp [hslash]), if_pos h]

/-- In a tag, a token that starts with the end of a name ends the name. -/
lemma endsName_front {before : Option Char} {c : Char} {rest : List Char} (h : EndsName c)
    (kind : Kind) (column : Nat) :
    Call.endsName (.placed (Region.tag.front before c rest) kind column) = true := by
  rcases h with h | rfl | rfl
  · have hblank : strip (Region.tag.front before c rest) = [] := by
      rw [strip_eq_nil_iff, Region.front, Region.cut_blank h, take_runLength]
      intro d hd
      rcases List.mem_cons.mp hd with rfl | hd
      · exact h
      · exact List.mem_takeWhile_imp hd
    simp [Call.endsName, Token.isBlank, Token.placed, hblank]
  · rfl
  · by_cases hbrace : rest.head? = some '}'
    · obtain ⟨others, rfl⟩ := List.head?_eq_some_iff.mp hbrace
      rfl
    · have hcut : Region.tag.cut before '/' rest = ⟨0, .operator, .stay⟩ := by
        rw [Region.cut, tagCut, if_neg (by decide), if_neg (by simp [hbrace])]
        rfl
      rw [Region.front, hcut]
      rfl

end Soy

/-! ## Calls -/

/-- The first call among the tokens of a line, followed by a token of blanks, and that by a name up to a character
that ends it or to the end of the line. -/
structure CallSite (line : List Char) (tokens : List Token) (name : LocalName) where
  front : List Token
  call : Token
  blank : Token
  back : List Token
  rest : List Char
  tokens_eq : tokens = front ++ call :: blank :: back
  first : ∀ token ∈ front, Call.opens token = false
  opens : Call.opens call = true
  isBlank : blank.isBlank = true
  behind : line.drop blank.stop.toNat = name.chars ++ rest
  ends : ∀ c ∈ rest.head?, EndsName c

namespace CallSite

/-- Behind the call and the blank the line is read on in the tag, wherever the line was read before. -/
lemma readsOn {line : List Char} {tokens : List Token} {name : LocalName}
    (site : CallSite line tokens name) {region : Region} (h : ReadsOn line 0 region tokens) :
    ReadsOn line site.blank.stop.toNat .tag site.back := by
  obtain ⟨front, call, blank, back, rest, htokens, -, hopens, hblank, -, -⟩ := site
  rw [htokens] at h
  obtain ⟨⟨after, hafter⟩, -⟩ := h.append
  rw [Call.opens, Bool.and_eq_true, decide_eq_true_eq, decide_eq_true_eq] at hopens
  obtain ⟨before, c, cs, -, hcall, htag⟩ := hafter.cons
  rw [hcall] at hopens
  rw [Region.next_of_opens hopens.1 hopens.2] at htag
  obtain ⟨last, d, ds, -, htoken, hback⟩ := htag.cons
  have hd : Text.isBlank d = true := by
    rw [Token.isBlank, List.isEmpty_iff, htoken] at hblank
    exact strip_eq_nil_iff.mp hblank d List.mem_cons_self
  rw [Region.next, Region.cut_blank hd] at hback
  exact hback

/-- In the tag a name is one token, and the token behind it ends the name. -/
lemma takeWhile_name (name : LocalName) {rest : List Char} (hends : ∀ c ∈ rest.head?, EndsName c)
    (column : Nat) (before : Option Char) :
    (readFrom column before Region.tag.stack (name.chars ++ rest)).1.takeWhile
        (fun token => !Call.endsName token) = [.placed name.chars .name column] := by
  have hdotted : ∀ c ∈ rest.head?, isDottedChar c = false :=
    fun c hc => (hends c hc).not_isDottedChar
  have hread : readFrom column before Region.tag.stack (name.chars ++ rest) = _ :=
    readFrom_token (cut_name name before hdotted) column
  have hname : Call.endsName (.placed ('.' :: name.first :: name.others) .name column) = false := by
    have hstrip : strip ('.' :: name.first :: name.others) ≠ [] := fun h =>
      absurd (strip_eq_nil_iff.mp h '.' List.mem_cons_self) (by decide)
    simp [Call.endsName, Token.isBlank, Token.placed, hstrip]
  rw [hread]
  simp only [Region.moved]
  rw [List.takeWhile_cons_of_pos (by simp only [hname, Bool.not_false])]
  cases rest with
  | nil =>
      rw [readFrom_nil]
      rfl
  | cons c rest =>
      rw [readFrom_cons, List.takeWhile_cons_of_neg]
      · rfl
      · simp [endsName_front (hends c rfl)]

/-- **The name that is called** is the name that stands there. -/
theorem calledName_eq {line : List Char} {tokens : List Token} {name : LocalName}
    (site : CallSite line tokens name) {region : Region} (h : ReadsOn line 0 region tokens) :
    Call.calledName tokens = name.chars := by
  obtain ⟨before, hback⟩ := site.readsOn h
  rw [site.behind] at hback
  have hfront : ∀ token ∈ site.front, (!Call.opens token) = true := by
    intro token htoken
    rw [site.first token htoken]
    rfl
  rw [site.tokens_eq, Call.calledName, List.dropWhile_append_of_pos hfront,
    List.dropWhile_cons_of_neg (by simp [site.opens])]
  simp only [List.drop_succ_cons, List.drop_zero]
  rw [hback, takeWhile_name name site.ends, List.flatMap_singleton]
  rfl

/-- The name called on a line is put into the namespace of the text. -/
lemma nameAt_eq {text : List Char} {name : LocalName} {number : Nat} {line : List Char}
    (hline : (splitLines text)[number]? = some line) (memory : Stack)
    (site : CallSite line
      (lexer.line line (lexer.readLines ((splitLines text).take number) (lexer.restart memory))).1
      name) :
    (Call.nameAt lexer text number memory).1
      = some (Marker.qualify (Marker.declaredNamespace text) name.chars) := by
  obtain ⟨region, hregion⟩ := readLines_stack ((splitLines text).take number) .root
  have hbefore : lexer.readLines ((splitLines text).take number) (lexer.restart memory)
      = region.stack := hregion
  have htokens : lexer.line line region.stack = readFrom 0 none region.stack line :=
    readLine_stack line region
  have hreads : ReadsOn line 0 region (lexer.line line
      (lexer.readLines ((splitLines text).take number) (lexer.restart memory))).1 := by
    rw [hbefore, htokens]
    exact ⟨none, rfl⟩
  have hcalled := site.calledName_eq hreads
  rw [Call.nameAt, if_neg (by omega), Int.toNat_natCast, hline]
  simp only [hcalled]
  rfl

end CallSite

/-- A marker is found under its own name, whatever the wildcard is. -/
lemma Finder.mem_selected {text : List Char} {marker : Marker} (h : marker ∈ Marker.scan text)
    (wildcard : String) : marker ∈ selected text marker.name wildcard := by
  by_cases hwildcard : marker.name = wildcard
  · rw [hwildcard, selected_wildcard]
    exact (groupedBy_perm _ _).mem_iff.mpr h
  · rw [selected_name text hwildcard, List.mem_filter]
    exact ⟨h, decide_eq_true rfl⟩

/-- **Calls lead to declarations.**  Let a text declare a name at a marker, and let the first call of a line be
followed by blanks and the same name.  Then the line calls some qualified name, and among the templates that are
found under this name is one that starts on the line of the declaration. -/
theorem CallSite.leads {text : List Char} {marker : Marker} {name : LocalName}
    (hmarker : marker ∈ Marker.scan text) (hdeclares : Declares text marker.start name)
    {number : Nat} {line : List Char} (hline : (splitLines text)[number]? = some line)
    (memory : Stack)
    (site : CallSite line
      (lexer.line line (lexer.readLines ((splitLines text).take number) (lexer.restart memory))).1
      name)
    (wildcard : String) :
    ∃ called found, (Call.nameAt lexer text number memory).1 = some called ∧
      (Finder.findInText lexer text called wildcard memory).1 = .ok found ∧
      ∃ template ∈ found, template.name = called ∧
        template.firstLine = (text.take marker.start).count '\n' := by
  have hcalled := site.nameAt_eq hline memory
  rw [← Marker.name_of_declares hmarker hdeclares] at hcalled
  refine ⟨marker.name, _, hcalled, findInText_eq text marker.name wildcard memory, ?_⟩
  exact ⟨_, List.mem_map_of_mem (Finder.mem_selected hmarker wildcard), rfl,
    LineMap.lineOf_eq_count text marker.start⟩

/-- What stands in the comment is no call; the one behind it is. -/
def hiddenCall : List Char := "/* \x7bcall .b\x7d */ \x7bcall  .b1/\x7d".toList

def callingText : List Char :=
  "\x7bnamespace ns\x7d\n\x7btemplate .b1 x\x7d\n".toList ++ hiddenCall

def hiddenCallSite :
    CallSite hiddenCall (lexer.line hiddenCall (lexer.readLines ((splitLines callingText).take 2)
      (lexer.restart []))).1 longerName where
  front := [.placed "/*".toList .comment 0, .placed " \x7bcall .b\x7d ".toList .comment 2,
    .placed "*/".toList .comment 13, .placed " ".toList .other 15]
  call := .placed Call.opening .keyword 16
  blank := .placed "  ".toList .text 21
  back := [.placed ".b1".toList .name 23, .placed "/\x7d".toList .keyword 26]
  rest := "/\x7d".toList
  tokens_eq := by decide +kernel
  first := by decide +kernel
  opens := by decide +kernel
  isBlank := by decide +kernel
  behind := by decide +kernel
  ends := by
    rintro c ⟨⟩
    exact Or.inr (Or.inr rfl)

theorem CallSite.leads_hidden :
    ∃ called found, (Call.nameAt lexer callingText 2 []).1 = some called ∧
      (Finder.findInText lexer callingText called "*" []).1 = .ok found ∧
      ∃ template ∈ found, template.name = called ∧ template.firstLine = 1 := by
  have hmarker : (⟨"ns.b1", 15⟩ : Marker) ∈ Marker.scan callingText := by decide +kernel
  have hdeclares : Declares callingText 15 longerName :=
    ⟨' ', "x\x7d\n".toList ++ hiddenCall, by decide +kernel, Or.inl (by decide)⟩
  have hline : (splitLines callingText)[2]? = some hiddenCall := by decide +kernel
  exact CallSite.leads hmarker hdeclares hline [] hiddenCallSite "*"

end TemplateAtlas
