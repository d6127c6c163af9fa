import Mathlib.Tactic.Common
import TemplateAtlas.Proofs.Declarations
import TemplateAtlas.Proofs.Groups
import TemplateAtlas.Proofs.LineNumbers
import TemplateAtlas.Proofs.Reading

/-!
# Rendered texts

A text that is put together from a namespace and templates can be taken apart again.  Rendering writes the
declaration of the namespace on the first line, and for every template the line that opens it, its body, and
the line that closes it (`render`).

**Parts.**  `Space`, `LocalName` and `Body` carry what the parts must satisfy.  Of a body it is asked that it
opens no template, that none of its tokens closes one, and that it ends as ordinary text.  The text of a
closing command may well stand in it, in a comment, a string or a literal.

**Declarations.**  The scan for markers finds the namespace (`declaredNamespace_render`) and each template at
its offset (`declarationsFrom_render`): it passes over every other line.

**Ends.**  Read from the start of a template on, its body closes nothing, and the line after the body closes it
(`scanEnd_render`).

**Lines.**  A template covers as many lines as were written for it (`found_render`), so that the direct search
in a rendered text gives back the templates that it was made of: `findInText_render`.
-/

namespace TemplateAtlas.Rendering

open Soy Text

/-! ## Parts -/

/-- A namespace: two characters or more, no blank and no closing brace among them, and no slash in front. -/
structure Space where
  chars : List Char
  long : 2 ≤ chars.length
  plain : ∀ c ∈ chars, isBlank c = false ∧ c ≠ '}'
  unslashed : chars.head? ≠ some '/'

/-- The name of a template in its namespace: a point, a character that may start a name, and any number of
word characters and points. -/
structure LocalName where
  first : Char
  others : List Char
  starts : isNameStart first = true
  dotted : ∀ c ∈ others, isDottedChar c = true

/-- The characters of a name. -/
def LocalName.chars (name : LocalName) : List Char := '.' :: name.first :: name.others

/-- The inside of a template, of one line or more. -/
structure Body where
  text : List Char
  /-- No template is opened in it. -/
  unopened : ¬"\x7btemplate ".toList <:+: text
  /-- No token of its lines closes a template. -/
  unclosed : ∀ token ∈ lexer.tokens (splitLines text) [.root], ¬token.Closes "\x7b/template".toList
  /-- After its lines one is back in ordinary text. -/
  balanced : lexer.readLines (splitLines text) [.root] = [.root]

/-- The number of lines of a body. -/
def Body.height (body : Body) : Nat := (splitLines body.text).length

/-- A template with its name and its body. -/
structure Template where
  name : LocalName
  body : Body

namespace Template

/-- The line that opens a template. -/
def openLine (template : Template) : List Char :=
  "\x7btemplate ".toList ++ (template.name.chars ++ ['}'])

/-- The line that closes a template. -/
def closeLine : List Char := "\x7b/template\x7d".toList

/-- The text of a template. -/
def render (template : Template) : List Char :=
  template.openLine ++ '\n' :: (template.body.text ++ '\n' :: (closeLine ++ ['\n']))

/-- The name of a template together with its namespace. -/
def qualified (space : Space) (template : Template) : String :=
  String.ofList (space.chars ++ template.name.chars)

end Template

/-- The line that declares a namespace. -/
def Space.header (space : Space) : List Char :=
  "\x7bnamespace ".toList ++ (space.chars ++ ['}'])

/-- The text of a namespace with its templates. -/
def render (space : Space) (templates : List Template) : List Char :=
  space.header ++ '\n' :: templates.flatMap Template.render

/-- Templates with the lines they cover, when the first of them starts on the given line. -/
def placedFrom (space : Space) (line : Nat) : List Template → List TextMatch
  | [] => []
  | template :: templates =>
    let last := line + template.body.height + 1
    ⟨template.qualified space, line, last⟩ :: placedFrom space (last + 1) templates

/-- The templates of a rendered text with the lines they cover.  The line before them is that of the
namespace. -/
def placed (space : Space) (templates : List Template) : List TextMatch :=
  placedFrom space 1 templates

/-! ## Declarations -/

lemma Space.header_eq (space : Space) :
    space.header = Marker.namespaceOpening ++ (space.chars ++ ['}']) := rfl

lemma Template.openLine_eq (template : Template) :
    template.openLine = Marker.opening ++ (template.name.chars ++ ['}']) := rfl

/-- The lines of a template and what follows them. -/
lemma Template.render_append (template : Template) (rest : List Char) :
    template.render ++ rest = template.openLine ++ '\n' ::
      (template.body.text ++ '\n' :: (closeLine ++ '\n' :: rest)) := by
  simp only [render, List.append_assoc, List.cons_append, List.nil_append]

/-- An opening ends in a blank, so that it cannot reach into characters without blanks. -/
lemma opening_isInfix_append {front behind : List Char} (hbehind : ' ' ∉ behind)
    (h : Marker.opening <:+: front ++ behind) : Marker.opening <:+: front := by
  obtain ⟨before, after, hsplit⟩ := h
  rcases List.append_eq_append_iff.mp hsplit with ⟨between, hfront, _⟩ | ⟨between, hopening, hafter⟩
  · exact ⟨before, between, hfront.symm⟩
  · have hlast : (before ++ Marker.opening).getLast? = some ' ' := by
      rw [List.getLast?_append]
      rfl
    cases hbetween : between.getLast? with
    | none =>
        rw [List.getLast?_eq_none_iff.mp hbetween, List.append_nil] at hopening
        exact ⟨before, [], by rw [List.append_nil, hopening]⟩
    | some c =>
        rw [hopening, List.getLast?_append, hbetween, Option.some_or, Option.some.injEq] at hlast
        refine absurd ?_ hbehind
        rw [hafter, ← hlast]
        exact List.mem_append_left _ (List.mem_of_getLast? hbetween)

/-- No blank stands in characters without blanks and the brace behind them. -/
lemma not_mem_brace {c : Char} (hc : isBlank c = true) {chars : List Char}
    (h : ∀ d ∈ chars, isBlank d = false) : c ∉ chars ++ ['}'] := by
  intro hmem
  rcases List.mem_append.mp hmem with hmem | hmem
  · exact not_mem_of_isBlank hc h hmem
  · rw [List.mem_singleton.mp hmem] at hc
    exact absurd hc (by decide)

lemma Space.isBlank (space : Space) : ∀ c ∈ space.chars, Text.isBlank c = false :=
  fun c hc => (space.plain c hc).1

/-- The namespace of a rendered text. -/
lemma declaredNamespace_render (space : Space) (templates : List Template) :
    Marker.declaredNamespace (render space templates) = space.chars := by
  have hrender : render space templates = Marker.namespaceOpening
      ++ (space.chars ++ '}' :: '\n' :: templates.flatMap Template.render) := by
    simp only [render, space.header_eq, List.append_assoc, List.cons_append, List.nil_append]
  rw [hrender]
  obtain ⟨chars, hlong, hplain, hslash⟩ := space
  match chars with
  | [] => simp at hlong
  | [c] => simp at hlong
  | c :: d :: more =>
      have hc : Marker.mayStartName c = true := by
        have hbrace := (hplain c List.mem_cons_self).2
        simp only [List.head?_cons, ne_eq, Option.some.injEq] at hslash
        simp [Marker.mayStartName, hbrace, hslash]
      exact Marker.declaredNamespace_header hc (fun e he => (hplain e he).1) _

/-- The first line opens no template. -/
lemma declarations_render (space : Space) (templates : List Template) :
    Marker.declarations (render space templates)
      = Marker.declarationsFrom (space.header.length + 1) (templates.flatMap Template.render) := by
  have hheader : ¬Marker.opening <:+: space.header := by
    intro h
    have hword := (opening_isInfix_append (not_mem_brace (by decide) space.isBlank) h).subset
      (by decide : 't' ∈ Marker.opening)
    exact absurd hword (by decide +kernel)
  rw [Marker.declarations, render, Marker.declarationsFrom_line hheader, Nat.zero_add]

lemma LocalName.isDottedChar (name : LocalName) {c : Char} (h : c ∈ name.first :: name.others) :
    Soy.isDottedChar c = true := by
  rcases List.mem_cons.mp h with rfl | h
  · exact isDottedChar_of_isNameStart name.starts
  · exact name.dotted c h

lemma LocalName.isBlank (name : LocalName) : ∀ c ∈ name.chars, Text.isBlank c = false := by
  intro c h
  rcases List.mem_cons.mp h with rfl | h
  · decide
  · have hname := Marker.isNameChar_of_isDottedChar (name.isDottedChar h)
    simp only [Marker.isNameChar, Bool.and_eq_true, Bool.not_eq_true'] at hname
    exact hname.1.1.1

lemma Template.qualify_eq (space : Space) (template : Template) :
    Marker.qualify space.chars template.name.chars = template.qualified space := by
  rw [Marker.qualify, strip_eq_self template.name.isBlank]
  rfl

/-- A line without blanks opens no template. -/
lemma not_opening_isInfix {line : List Char} (h : ' ' ∉ line) : ¬Marker.opening <:+: line :=
  fun hinside => h (List.IsInfix.subset hinside (by decide +kernel))

/-- **A template is declared at its start**, and nothing else is declared in its text. -/
theorem declarationsFrom_render (template : Template) (offset : Nat) (rest : List Char) :
    Marker.declarationsFrom offset (template.render ++ rest)
      = (offset, template.name.chars) ::
          Marker.declarationsFrom (offset + template.render.length) rest := by
  have hname : Marker.declaredName? (template.name.chars ++ (['}'] ++ '\n' ::
      (template.body.text ++ '\n' :: (Template.closeLine ++ '\n' :: rest))))
        = some template.name.chars :=
    Marker.declaredName?_append (by decide)
      (fun _ hc => Marker.isNameChar_of_isDottedChar (template.name.isDottedChar hc)) (by decide) _
  have hrender : template.render ++ rest
      = Marker.opening ++ (template.name.chars ++ (['}'] ++ '\n' ::
          (template.body.text ++ '\n' :: (Template.closeLine ++ '\n' :: rest)))) := by
    rw [template.render_append, template.openLine_eq, List.append_assoc, List.append_assoc]
  have hbrace : ¬Marker.opening <:+: ['}'] := not_opening_isInfix (by decide)
  have hclose : ¬Marker.opening <:+: Template.closeLine := not_opening_isInfix (by decide)
  rw [hrender, Marker.declarationsFrom_opening hname, Marker.declarationsFrom_line hbrace,
    Marker.declarationsFrom_line template.body.unopened, Marker.declarationsFrom_line hclose]
  have hlength := congrArg List.length hrender
  simp only [List.length_append, List.length_cons, List.length_nil] at hlength ⊢
  congr 2
  omega

/-! ## Ends -/

/-- The end of the line that opens a template: the brace leads back to ordinary text. -/
lemma readFrom_brace (column : Nat) (before : Option Char) :
    readFrom column before Region.tag.stack ['}']
      = ([.placed ['}'] .keyword column], Region.root.stack) := by
  have hcut : Region.tag.cut before '}' ([] ++ []) = ⟨0, .keyword, .leave⟩ := rfl
  have hread := readFrom_token hcut column
  rw [readFrom_nil] at hread
  exact hread

/-- In a tag a name is one token, up to a character that may not stand in it. -/
lemma cut_name (name : LocalName) (before : Option Char) {rest : List Char}
    (hrest : ∀ c ∈ rest.head?, isDottedChar c = false) :
    Region.tag.cut before '.' (name.first :: name.others ++ rest)
      = ⟨(name.first :: name.others).length, .name, .stay⟩ := by
  have hrun : runLength isDottedChar (name.first :: name.others ++ rest)
      = (name.first :: name.others).length := by
    have hstop : rest.takeWhile isDottedChar = [] := by
      cases rest with
      | nil => rfl
      | cons c rest => rw [List.takeWhile_cons_of_neg (by simp [hrest c rfl])]
    rw [runLength, List.takeWhile_append_of_pos fun _ => name.isDottedChar, hstop, List.append_nil]
  have hhead : (name.first :: name.others ++ rest).head?.any isNameStart = true := name.starts
  have hword : Region.tag.cut before '.' (name.first :: name.others ++ rest)
      = wordCut '.' (name.first :: name.others ++ rest) := rfl
  rw [hword, wordCut, hhead, hrun]
  rfl

/-- The name of a template is one token, up to the brace. -/
lemma readFrom_name (name : LocalName) (column : Nat) (before : Option Char) :
    readFrom column before Region.tag.stack (name.chars ++ ['}'])
      = ([.placed name.chars .name column, .placed ['}'] .keyword (column + name.chars.length)],
          Region.root.stack) := by
  have hbrace : ∀ c ∈ ['}'].head?, isDottedChar c = false := by
    rintro c ⟨⟩
    decide
  have hread := readFrom_token (cut_name name before hbrace) column
  rw [Region.moved, readFrom_brace] at hread
  exact hread

/-- The tokens of the line that opens a template. -/
lemma line_openLine (template : Template) :
    lexer.line template.openLine [.root]
      = ([.placed "\x7btemplate".toList .keyword 0, .placed [' '] .text 9,
          .placed template.name.chars .name 10,
          .placed ['}'] .keyword (10 + template.name.chars.length)], [.root]) := by
  have hopen : Region.root.cut none '{' ("template".toList ++ ' ' :: (template.name.chars ++ ['}']))
      = ⟨"template".toList.length, .keyword, .enter .tag⟩ := rfl
  have hblank : Region.tag.cut (some 'e') ' ' ([] ++ (template.name.chars ++ ['}']))
      = ⟨0, .text, .stay⟩ := rfl
  have hlast : ('{' :: "template".toList).getLast? = some 'e' := by decide +kernel
  have hlength : 0 + ('{' :: "template".toList).length = 9 := by decide +kernel
  have hline : lexer.line template.openLine Region.root.stack
      = readFrom 0 none Region.root.stack
          ('{' :: "template".toList ++ ' ' :: (template.name.chars ++ ['}'])) :=
    readLine_stack template.openLine .root
  have hrest := readFrom_token hblank 9
  rw [Region.moved, readFrom_name, List.singleton_append] at hrest
  rw [readFrom_token hopen, Region.moved, hlast, hlength, hrest] at hline
  exact hline

/-- The line that closes a template does so with its first token. -/
lemma closingToken?_closeLine :
    Block.closingToken? Block.closing (readFrom 0 none Region.root.stack Template.closeLine).1
      = some (.placed Block.closing .keyword 0) := by
  have hclose : Region.root.cut none '{' ("/template".toList ++ ['}'])
      = ⟨"/template".toList.length, .keyword, .enter .tag⟩ := rfl
  have hread : readFrom 0 none Region.root.stack Template.closeLine = _ := readFrom_token hclose 0
  rw [hread, Block.closingToken?, List.find?_cons_of_pos]
  · rfl
  · decide +kernel

lemma not_closes_openLine (template : Template) :
    ∀ token ∈ (lexer.line template.openLine [.root]).1, ¬token.Closes Block.closing := by
  have hword : "\x7btemplate".toList ≠ Block.closing := by decide +kernel
  have hbrace : ['}'] ≠ Block.closing := by decide +kernel
  rw [line_openLine]
  rintro token htoken ⟨hkind, htext⟩
  simp only [List.mem_cons, List.not_mem_nil, or_false] at htoken
  rcases htoken with rfl | rfl | rfl | rfl
  · exact hword htext
  · exact Kind.noConfusion hkind
  · exact Kind.noConfusion hkind
  · exact hbrace htext

/-- **The search for the end of a template** goes through its body and stops in the line after it. -/
theorem search_render (template : Template) (offset : Nat) (lines : List (List Char)) :
    (Block.search lexer Block.closing offset Region.root.stack
        (template.openLine :: (splitLines template.body.text ++ Template.closeLine :: lines))).1
      = .ok (some (offset + (template.openLine.length + 1) + (template.body.text.length + 1)
          + Block.closing.length)) := by
  have htokens : ∀ token ∈ lexer.tokens (template.openLine :: splitLines template.body.text)
      Region.root.stack, ¬token.Closes Block.closing := by
    change ∀ token ∈ lexer.tokens (template.openLine :: splitLines template.body.text) [.root], _
    rw [LineLexer.tokens, List.forall_mem_append, line_openLine]
    exact ⟨line_openLine template ▸ not_closes_openLine template, template.body.unclosed⟩
  have hread : lexer.readLines (template.openLine :: splitLines template.body.text)
      Region.root.stack = Region.root.stack := by
    change lexer.readLines _ [.root] = _
    rw [LineLexer.readLines, List.foldl_cons, line_openLine]
    exact template.body.balanced
  rw [← List.cons_append, search_append Block.closing htokens, hread, search_cons,
    closingToken?_closeLine, List.flatMap_cons, flatMap_splitLines]
  simp only [List.length_append, List.length_singleton, ← Nat.add_assoc]
  rfl

/-- The text of a template up to the end of the word that closes it. -/
def Template.upToEnd (template : Template) : List Char :=
  template.openLine ++ '\n' :: (template.body.text ++ '\n' :: Block.closing)

lemma Template.render_eq (template : Template) : template.render = template.upToEnd ++ ['}', '\n'] := by
  have hclose : closeLine = Block.closing ++ ['}'] := by decide +kernel
  simp only [render, upToEnd, hclose, List.append_assoc, List.cons_append, List.nil_append]

lemma Template.newline_not_mem_openLine (template : Template) : '\n' ∉ template.openLine := by
  intro h
  rcases List.mem_append.mp h with h | h
  · exact absurd h (by decide +kernel)
  · exact not_mem_brace (by decide) template.name.isBlank h

lemma terminatedLines_render (template : Template) (rest : List Char) :
    terminatedLines (template.render ++ rest) = template.openLine ::
      (splitLines template.body.text ++ Template.closeLine :: terminatedLines rest) := by
  have hclose : '\n' ∉ Template.closeLine := by decide +kernel
  rw [template.render_append, terminatedLines_append, terminatedLines_append, terminatedLines_append,
    splitLines_eq_singleton template.newline_not_mem_openLine, splitLines_eq_singleton hclose]
  rfl

/-- The end of a template is right behind the word that closes it. -/
theorem scanEnd_render (template : Template) (before rest : List Char) :
    scanEnd (before ++ (template.render ++ rest)) before.length
      = (before ++ template.upToEnd).length := by
  have hsearch := search_eq_scan (template.render ++ rest) .root before.length
  rw [terminatedLines_render, search_render, Except.ok.injEq] at hsearch
  rw [scanEnd, List.drop_left, ← hsearch, Option.getD_some, Template.upToEnd]
  simp only [List.length_append, List.length_cons]
  omega

/-! ## Lines -/

lemma Template.count_upToEnd (template : Template) :
    template.upToEnd.count '\n' = template.body.height + 1 := by
  have hclose : Block.closing.count '\n' = 0 := by decide +kernel
  rw [upToEnd, List.count_append, List.count_eq_zero.mpr template.newline_not_mem_openLine,
    List.count_cons_self, List.count_append, List.count_cons_self, hclose, Body.height,
    length_splitLines]
  omega

lemma Template.count_render (template : Template) :
    template.render.count '\n' = template.body.height + 2 := by
  rw [render_eq, List.count_append, count_upToEnd]
  rfl

/-- **A template covers its lines**, wherever it stands in a text. -/
theorem found_render (template : Template) (name : String) (before rest : List Char) :
    (Marker.mk name before.length).found (before ++ (template.render ++ rest))
      = ⟨name, before.count '\n', before.count '\n' + template.body.height + 1⟩ := by
  have hbehind : before ++ (template.render ++ rest)
      = (before ++ template.upToEnd) ++ (['}', '\n'] ++ rest) := by
    simp only [template.render_eq, List.append_assoc]
  rw [Marker.found, LineMap.lineOf_append, scanEnd_render, hbehind, LineMap.lineOf_append,
    List.count_append, template.count_upToEnd, ← Nat.add_assoc]

/-- What is found in a text that ends in templates is where it was written. -/
lemma found_declarations (space : Space) (templates : List Template) (before : List Char) :
    (Marker.declarationsFrom before.length (templates.flatMap Template.render)).map
        (fun declared => Marker.found (before ++ templates.flatMap Template.render)
          ⟨Marker.qualify space.chars declared.2, declared.1⟩)
      = placedFrom space (before.count '\n') templates := by
  induction templates generalizing before with
  | nil => rw [List.flatMap_nil, Marker.declarationsFrom, List.map_nil, placedFrom]
  | cons template templates ih =>
      have hrest := ih (before ++ template.render)
      rw [List.length_append, List.count_append, template.count_render, List.append_assoc] at hrest
      rw [List.flatMap_cons, declarationsFrom_render, List.map_cons, hrest, found_render,
        template.qualify_eq, placedFrom]
      rfl

lemma Space.count_header (space : Space) : space.header.count '\n' = 0 := by
  rw [List.count_eq_zero]
  intro h
  rcases List.mem_append.mp h with h | h
  · exact absurd h (by decide +kernel)
  · exact not_mem_brace (by decide) space.isBlank h

/-- **Every marker of a rendered text** is where its template was written. -/
theorem found_scan (space : Space) (templates : List Template) :
    (Marker.scan (render space templates)).map (Marker.found (render space templates))
      = placed space templates := by
  have hfound := found_declarations space templates (space.header ++ ['\n'])
  have hrender : space.header ++ ['\n'] ++ templates.flatMap Template.render
      = render space templates := List.append_assoc _ _ _
  rw [hrender, List.length_append, List.count_append, space.count_header] at hfound
  rw [Marker.scan, declaredNamespace_render, declarations_render, List.map_map]
  exact hfound

/-- **Indexing undoes rendering.**  In a rendered text the wildcard finds every template once, under its
qualified name and with the lines that it was written on, grouped by name in the order in which the names first
occur.  The qualified name of any template finds those of that name, in text order. -/
theorem findInText_render (space : Space) (templates : List Template) (memory : Stack) :
    (Finder.findInText lexer (render space templates) "*" "*" memory).1
        = .ok (groupedBy TextMatch.name (placed space templates)) ∧
      (groupedBy TextMatch.name (placed space templates)).Perm (placed space templates) ∧
      ∀ template : Template,
        (Finder.findInText lexer (render space templates) (template.qualified space) "*" memory).1
          = .ok ((placed space templates).filter (·.name = template.qualified space)) := by
  refine ⟨?_, groupedBy_perm _ _, ?_⟩
  · have hgroups : (groupedBy Marker.name (Marker.scan (render space templates))).map
        (Marker.found (render space templates))
          = groupedBy TextMatch.name (placed space templates) := by
      have hname : ∀ marker : Marker,
          (marker.found (render space templates)).name = marker.name := fun _ => rfl
      rw [← found_scan]
      exact map_groupedBy _ hname _
    rw [findInText_eq, Finder.selected_wildcard, hgroups]
  · intro template
    have hname : template.qualified space ≠ "*" := by
      intro heq
      have hlength := congrArg String.length heq
      have hlong := space.long
      rw [Template.qualified, String.length_ofList, List.length_append] at hlength
      have hstar : "*".length = 1 := rfl
      omega
    rw [findInText_eq, Finder.selected_name _ hname, ← found_scan, List.filter_map]
    rfl

/-- A body with three closing commands in it, none of which closes anything. -/
def hidingBody : Body where
  text := "/* \x7b/template\x7d */\n\x7bliteral\x7d\x7b/template\x7d\x7b/literal\x7d\n".toList
    ++ "\x7bcall x a='\x7b/template\x7d' /\x7d".toList
  unopened := by decide +kernel
  unclosed := by decide +kernel
  balanced := by decide +kernel

/-- A body of one empty line. -/
def emptyBody : Body where
  text := []
  unopened := by decide +kernel
  unclosed := by decide +kernel
  balanced := by decide +kernel

def shortSpace : Space where
  chars := ['n', 's']
  long := by decide
  plain := List.forall_mem_cons.mpr ⟨by decide, List.forall_mem_singleton.mpr (by decide)⟩
  unslashed := by decide

def shortName : LocalName := ⟨'a', [], by decide, List.forall_mem_nil _⟩

def longerName : LocalName := ⟨'b', ['1'], by decide, List.forall_mem_singleton.mpr (by decide)⟩

/-- Three templates, the first and the last of which have the same name. -/
def repeating : List Template :=
  [⟨shortName, hidingBody⟩, ⟨longerName, emptyBody⟩, ⟨shortName, emptyBody⟩]

/-- The templates of a text in which a name is declared twice and closing commands are hidden. -/
theorem findInText_render_repeating :
    (Finder.findInText lexer (render shortSpace repeating) "*" "*" []).1
        = .ok [⟨"ns.a", 1, 5⟩, ⟨"ns.a", 9, 11⟩, ⟨"ns.b1", 6, 8⟩] ∧
      (Finder.findInText lexer (render shortSpace repeating) "ns.a" "*" []).1
        = .ok [⟨"ns.a", 1, 5⟩, ⟨"ns.a", 9, 11⟩] := by
  have hfound := findInText_render shortSpace repeating []
  refine ⟨hfound.1.trans (by decide +kernel), ?_⟩
  exact (hfound.2.2 ⟨shortName, emptyBody⟩).trans (by decide +kernel)

end TemplateAtlas.Rendering
