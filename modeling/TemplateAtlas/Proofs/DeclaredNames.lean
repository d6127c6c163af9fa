import Mathlib.Tactic.Common
import TemplateAtlas.Proofs.Declarations
import TemplateAtlas.Proofs.Groups

/-!
# Which declared names are found

A text declares a namespace and a template, each closed by a brace right behind its name, with anything before,
between and after them.  The scan finds the template under its qualified name, with three exceptions.

**Templates.**  What the scan takes for a declaration has a name of two characters or more.  Outside other
declarations that is the only condition: `mem_declarations_iff`.

**The namespace.**  Its name has two characters or more as well; if the first one has a single character, the scan
goes on and takes the next one.  And the name ends at the last brace before a blank, so that it is longer than it was
declared if there is another brace: `declaredNamespace_eq_iff`.

Both conditions are put together in `mem_byName_iff`.
-/

namespace TemplateAtlas

open Text

/-- A name of letters, digits, underscores and dots. -/
structure DottedName where
  chars : List Char
  nonempty : chars ≠ []
  dotted : ∀ c ∈ chars, Soy.isDottedChar c = true

namespace DottedName

variable (name : DottedName)

lemma isNameChar {c : Char} (h : c ∈ name.chars) : Marker.isNameChar c = true :=
  Marker.isNameChar_of_isDottedChar (name.dotted c h)

lemma isBlank {c : Char} (h : c ∈ name.chars) : isBlank c = false := by
  have hchar := name.isNameChar h
  simp only [Marker.isNameChar, Bool.and_eq_true, Bool.not_eq_true'] at hchar
  exact hchar.1.1.1

lemma mayStartName {c : Char} (h : c ∈ name.chars) : Marker.mayStartName c = true := by
  have hchar := name.isNameChar h
  simp only [Marker.isNameChar, Bool.and_eq_true] at hchar
  rw [Marker.mayStartName, Bool.and_eq_true]
  exact ⟨hchar.1.2, hchar.2⟩

lemma brace_not_mem : '{' ∉ name.chars := by
  intro h
  have hdotted := name.dotted '{' h
  revert hdotted
  decide

end DottedName

namespace Marker

/-! ## Templates -/

/-- The text declares a template at an offset, and no other declaration reaches over it. -/
def DeclaresAlone (text : List Char) (name : DottedName) (start : Nat) : Prop :=
  (∃ rest, text.drop start = opening ++ (name.chars ++ '}' :: rest)) ∧
    ∀ found ∈ declarations text, ¬ (found.1 < start ∧ start < found.1 + opening.length + found.2.length)

/-- The scan does not miss what reads as a declaration outside all others. -/
lemma exists_declarationsFrom {raw : List Char} : ∀ {text : List Char} {offset gap : Nat},
    (after? opening (text.drop gap)).bind declaredName? = some raw →
      (∀ found ∈ declarationsFrom offset text,
        ¬ (found.1 < offset + gap ∧ offset + gap < found.1 + opening.length + found.2.length)) →
      (offset + gap, raw) ∈ declarationsFrom offset text
  | [], offset, gap, hraw, _ => by
      rw [List.drop_nil] at hraw
      cases hraw
  | c :: cs, offset, gap, hraw, halone => by
      rw [declarationsFrom] at halone ⊢
      cases hfirst : (after? opening (c :: cs)).bind declaredName? with
      | none =>
          simp only [hfirst] at halone ⊢
          cases gap with
          | zero =>
              rw [List.drop_zero, hfirst] at hraw
              cases hraw
          | succ gap =>
              have hoffset : offset + 1 + gap = offset + (gap + 1) := by omega
              rw [← hoffset] at halone ⊢
              exact exists_declarationsFrom hraw halone
      | some name =>
          simp only [hfirst] at halone ⊢
          cases gap with
          | zero =>
              rw [List.drop_zero, hfirst, Option.some.injEq] at hraw
              rw [hraw]
              exact List.mem_cons_self
          | succ gap =>
              have hlength : opening.length = 10 := rfl
              have hover := halone (offset, name) List.mem_cons_self
              simp only at hover
              obtain ⟨later, rfl⟩ : ∃ later, gap = opening.length - 1 + name.length + later :=
                Nat.exists_eq_add_of_le (by omega)
              have hoffset : offset + 1 + (opening.length - 1 + name.length) + later
                  = offset + (opening.length - 1 + name.length + later + 1) := by omega
              refine List.mem_cons_of_mem _ ?_
              rw [← hoffset] at halone ⊢
              refine exists_declarationsFrom ?_ fun found hfound =>
                halone found (List.mem_cons_of_mem _ hfound)
              rw [List.drop_drop]
              exact hraw
termination_by text => text.length
decreasing_by all_goals (simp only [List.length_drop, List.length_cons]; omega)

/-- A name that is closed by a brace is read if it has two characters or more. -/
lemma declaredName?_closed (name : DottedName) (rest : List Char) :
    declaredName? (name.chars ++ '}' :: rest)
      = if 2 ≤ name.chars.length then some name.chars else none := by
  have hchars : ∀ c ∈ name.chars, isNameChar c = true := fun _ => name.isNameChar
  have hstart : ∀ c ∈ name.chars, mayStartName c = true := fun _ => name.mayStartName
  match hname : name.chars, name.nonempty with
  | [c], _ => simp [declaredName?, show isNameChar '}' = false by decide]
  | c :: d :: cs, _ =>
      rw [hname] at hchars hstart
      rw [if_pos (by simp)]
      exact declaredName?_append (hstart c List.mem_cons_self)
        (fun e he => hchars e (List.mem_cons_of_mem c he)) (by decide) rest

/-- **Outside other declarations, a template is found if its name has two characters or more.** -/
lemma mem_declarations_iff {text : List Char} {name : DottedName} {start : Nat}
    (h : DeclaresAlone text name start) {raw : List Char} :
    (start, raw) ∈ declarations text ↔ raw = name.chars ∧ 2 ≤ name.chars.length := by
  obtain ⟨⟨rest, htext⟩, halone⟩ := h
  have hreads : (after? opening (text.drop start)).bind declaredName?
      = if 2 ≤ name.chars.length then some name.chars else none := by
    rw [htext, after?_append, Option.bind_some, declaredName?_closed]
  constructor
  · intro hmem
    obtain ⟨gap, hgap, hraw⟩ := mem_declarationsFrom hmem
    rw [Nat.zero_add] at hgap
    rw [← hgap, hreads] at hraw
    split_ifs at hraw with hlength
    exact ⟨(Option.some.inj hraw).symm, hlength⟩
  · rintro ⟨rfl, hlength⟩
    rw [if_pos hlength] at hreads
    have hmem : (0 + start, name.chars) ∈ declarationsFrom 0 text :=
      exists_declarationsFrom hreads (by rw [Nat.zero_add]; exact halone)
    rwa [Nat.zero_add] at hmem

/-! ## The namespace -/

/-- The first declaration of a namespace in a text, and what comes after it. -/
def DeclaresFirst (text : List Char) (space : DottedName) (rest : List Char) : Prop :=
  ∃ front, text = front ++ (namespaceOpening ++ (space.chars ++ '}' :: rest)) ∧
    ∀ gap < front.length, (after? namespaceOpening (text.drop gap)).bind namespaceName? = none

/-- What declares no namespace is passed over. -/
lemma firstNamespace?_append {front back : List Char} (h : ∀ gap < front.length,
    (after? namespaceOpening ((front ++ back).drop gap)).bind namespaceName? = none) :
    firstNamespace? (front ++ back) = firstNamespace? back := by
  induction front with
  | nil => rfl
  | cons c front ih =>
      have hfirst := h 0 (Nat.zero_lt_succ _)
      rw [List.drop_zero, List.cons_append] at hfirst
      rw [List.cons_append, firstNamespace?, hfirst]
      exact ih fun gap hgap => h (gap + 1) (Nat.succ_lt_succ hgap)

/-- Without an opening brace nothing is declared. -/
lemma firstNamespace?_plain {front : List Char} (h : '{' ∉ front) (back : List Char) :
    firstNamespace? (front ++ back) = firstNamespace? back := by
  induction front with
  | nil => rfl
  | cons c front ih =>
      rw [List.mem_cons, not_or] at h
      have hafter : after? namespaceOpening (c :: (front ++ back)) = none := by
        rw [after?, if_neg]
        have hopening : namespaceOpening = '{' :: namespaceOpening.tail := rfl
        rw [hopening, List.isPrefixOf_cons_cons]
        simp [h.1]
      rw [List.cons_append, firstNamespace?, hafter]
      exact ih h.2

lemma beforeLastBrace?_append {run : List Char} (h : '}' ∉ run) (before : List Char) :
    beforeLastBrace? (before ++ '}' :: run) = some before := by
  have hskip : ∀ c ∈ run.reverse, (decide (c ≠ '}')) = true := by
    intro c hc
    rw [decide_eq_true_eq]
    rintro rfl
    exact h (List.mem_reverse.mp hc)
  rw [beforeLastBrace?, List.reverse_append, List.reverse_cons, List.append_assoc,
    List.dropWhile_append_of_pos hskip]
  simp

/-- A run with a brace in it has a last one. -/
lemma exists_last_brace {run : List Char} (h : '}' ∈ run) :
    ∃ before after, run = before ++ '}' :: after ∧ '}' ∉ after := by
  obtain ⟨after, before, hrun, hnot⟩ := List.eq_append_cons_of_mem (List.mem_reverse.mpr h)
  refine ⟨before.reverse, after.reverse, ?_, by simpa using hnot⟩
  rw [← List.reverse_reverse run, hrun]
  simp

/-- The run behind the first character of a namespace goes on to the next blank. -/
lemma takeWhile_run {chars : List Char} (h : ∀ c ∈ chars, isBlank c = false) (rest : List Char) :
    (chars ++ '}' :: rest).takeWhile (fun d => !isBlank d)
      = chars ++ '}' :: rest.takeWhile (fun d => !isBlank d) := by
  have hchars : ∀ c ∈ chars, (!isBlank c) = true := fun c hc => by rw [h c hc]; rfl
  rw [List.takeWhile_append_of_pos hchars, List.takeWhile_cons_of_pos (by decide)]

/-- The brace that closes a namespace is the last one before a blank: the name is the declared one, if it has two
characters or more. -/
lemma namespaceName?_closed (space : DottedName) {rest : List Char}
    (hrest : '}' ∉ rest.takeWhile fun d => !isBlank d) :
    namespaceName? (space.chars ++ '}' :: rest)
      = if 2 ≤ space.chars.length then some space.chars else none := by
  have hblank : ∀ c ∈ space.chars, isBlank c = false := fun _ => space.isBlank
  have hstart : ∀ c ∈ space.chars, mayStartName c = true := fun _ => space.mayStartName
  match hspace : space.chars, space.nonempty with
  | c :: cs, _ =>
      rw [hspace] at hblank hstart
      rw [List.cons_append, namespaceName?, if_pos (hstart c List.mem_cons_self),
        takeWhile_run fun d hd => hblank d (List.mem_cons_of_mem c hd), beforeLastBrace?_append hrest]
      cases cs <;> simp

/-- There is another brace before the next blank: the name goes on to the last one. -/
lemma namespaceName?_longer (space : DottedName) {rest : List Char}
    (hrest : '}' ∈ rest.takeWhile fun d => !isBlank d) :
    ∃ more, namespaceName? (space.chars ++ '}' :: rest) = some (space.chars ++ '}' :: more) ∧
      ∀ c ∈ more, isBlank c = false := by
  obtain ⟨more, after, hrun, hlast⟩ := exists_last_brace hrest
  have hblank : ∀ c ∈ space.chars, isBlank c = false := fun _ => space.isBlank
  have hstart : ∀ c ∈ space.chars, mayStartName c = true := fun _ => space.mayStartName
  refine ⟨more, ?_, fun c hc => ?_⟩
  · match hspace : space.chars, space.nonempty with
    | c :: cs, _ =>
        rw [hspace] at hblank hstart
        have hbrace : beforeLastBrace? (cs ++ '}' :: (more ++ '}' :: after)) = some (cs ++ '}' :: more) := by
          rw [← List.cons_append, ← List.append_assoc]
          exact beforeLastBrace?_append hlast _
        rw [List.cons_append, namespaceName?, if_pos (hstart c List.mem_cons_self),
          takeWhile_run fun d hd => hblank d (List.mem_cons_of_mem c hd), hrun, hbrace]
        cases cs <;> rfl
  · have hmem : c ∈ rest.takeWhile fun d => !isBlank d := by
      rw [hrun]
      exact List.mem_append_left _ hc
    simpa using List.mem_takeWhile_imp hmem

/-- **A declared namespace is found as it was declared**, if no other brace follows before the next blank, and if its
name has two characters or more.  One with a single character is not found, and the scan goes on behind it. -/
lemma declaredNamespace_eq_iff {text rest : List Char} {space : DottedName}
    (h : DeclaresFirst text space rest) :
    declaredNamespace text = space.chars ↔
      '}' ∉ (rest.takeWhile fun d => !isBlank d) ∧
        (2 ≤ space.chars.length ∨ declaredNamespace rest = space.chars) := by
  obtain ⟨front, rfl, hfront⟩ := h
  have hskip := firstNamespace?_append hfront
  have hcons : namespaceOpening ++ (space.chars ++ '}' :: rest)
      = '{' :: ((namespaceOpening.tail ++ (space.chars ++ ['}'])) ++ rest) := by
    rw [List.append_assoc, List.append_assoc]
    rfl
  have hstep : firstNamespace? (namespaceOpening ++ (space.chars ++ '}' :: rest))
      = (namespaceName? (space.chars ++ '}' :: rest)).or (firstNamespace? rest) := by
    have hplain : '{' ∉ namespaceOpening.tail ++ (space.chars ++ ['}']) := by
      have htail : '{' ∉ namespaceOpening.tail := by decide
      simp [htail, space.brace_not_mem]
    rw [hcons, firstNamespace?, firstNamespace?_plain hplain, ← hcons, after?_append, Option.bind_some]
    cases namespaceName? (space.chars ++ '}' :: rest) with
    | none => rfl
    | some found => rfl
  rw [declaredNamespace, hskip, hstep]
  by_cases hrest : '}' ∈ rest.takeWhile fun d => !isBlank d
  · obtain ⟨more, hname, hmore⟩ := namespaceName?_longer space hrest
    have hblank : ∀ c ∈ space.chars ++ '}' :: more, isBlank c = false := by
      intro c hc
      rcases List.mem_append.mp hc with hc | hc
      · exact space.isBlank hc
      · rcases List.mem_cons.mp hc with rfl | hc
        · decide
        · exact hmore c hc
    rw [hname]
    simp only [Option.some_or, strip_eq_self hblank, hrest, not_true_eq_false, false_and, iff_false]
    intro hsame
    have hlength := congrArg List.length hsame
    simp at hlength
  · rw [namespaceName?_closed space hrest]
    split_ifs with hlength
    · simp [strip_eq_self fun c hc => space.isBlank hc, hrest, hlength]
    · simp only [Option.none_or, hrest, not_false_eq_true, true_and, hlength, false_or]
      rfl

-- A namespace of one character is passed over, and one with another brace behind it goes on to that brace.
example : declaredNamespace "\x7bnamespace n\x7d\n\x7bnamespace ns\x7d\n".toList = "ns".toList := by decide

example : declaredNamespace "\x7bnamespace ns\x7d\x7bnil\x7d\n".toList = "ns\x7d\x7bnil".toList := by
  decide

/-! ## Qualified names -/

/-- **Which declared names are found.**  Let `space` be the first namespace that a text declares, and let it declare
the template `name` outside all other declarations.  Under the name that is made of both there is a marker for that
declaration if and only if `name` has two characters or more, no other brace follows that of the namespace before the
next blank, and the namespace has two characters or more or is declared once more as the first one after it. -/
theorem mem_byName_iff {text rest : List Char} {space name : DottedName} {start : Nat}
    (hspace : DeclaresFirst text space rest) (hname : DeclaresAlone text name start) :
    ⟨String.ofList (space.chars ++ name.chars), start⟩
        ∈ ((byName (scan text)).lookup (String.ofList (space.chars ++ name.chars))).getD [] ↔
      2 ≤ name.chars.length ∧ '}' ∉ (rest.takeWhile fun d => !isBlank d) ∧
        (2 ≤ space.chars.length ∨ declaredNamespace rest = space.chars) := by
  have hscan : (⟨String.ofList (space.chars ++ name.chars), start⟩ : Marker) ∈ scan text ↔
      2 ≤ name.chars.length ∧ declaredNamespace text = space.chars := by
    have hqualify : qualify (declaredNamespace text) name.chars
          = String.ofList (space.chars ++ name.chars) ↔ declaredNamespace text = space.chars := by
      rw [qualify, strip_eq_self fun c hc => name.isBlank hc, String.ofList_inj, List.append_left_inj]
    rw [scan, List.mem_map]
    constructor
    · rintro ⟨⟨found, raw⟩, hmem, hsame⟩
      rw [Marker.mk.injEq] at hsame
      obtain ⟨hkey, rfl⟩ := hsame
      obtain ⟨rfl, hlength⟩ := (mem_declarations_iff hname).mp hmem
      exact ⟨hlength, hqualify.mp hkey⟩
    · rintro ⟨hlength, hsame⟩
      exact ⟨(start, name.chars), (mem_declarations_iff hname).mpr ⟨rfl, hlength⟩,
        congrArg (Marker.mk · start) (hqualify.mpr hsame)⟩
  have hnamed := named_eq text (String.ofList (space.chars ++ name.chars))
  rw [named, groups] at hnamed
  rw [hnamed, List.mem_filter, ← declaredNamespace_eq_iff hspace, ← hscan]
  simp

/-- The namespace of the two texts below. -/
def namespaceNs : DottedName := ⟨"ns".toList, by decide, List.all_eq_true.mp (by decide)⟩

/-- What stands in front of the declarations and between them does not matter. -/
theorem mem_byName_between :
    let text := "a \x7bnamespace ns\x7d\n\x7btemplate \x7d b \x7btemplate .bar\x7d\x7b/template\x7d".toList
    ⟨"ns.bar", 31⟩ ∈ ((byName (scan text)).lookup "ns.bar").getD [] := by
  intro text
  have hspace : DeclaresFirst text namespaceNs
      "\n\x7btemplate \x7d b \x7btemplate .bar\x7d\x7b/template\x7d".toList :=
    ⟨"a ".toList, by decide, by decide⟩
  have hname : DeclaresAlone text ⟨".bar".toList, by decide, List.all_eq_true.mp (by decide)⟩ 31 :=
    ⟨⟨"\x7b/template\x7d".toList, by decide⟩, by decide +kernel⟩
  have hfound := (mem_byName_iff hspace hname).mpr ⟨by decide, by decide, Or.inl (by decide)⟩
  exact hfound

/-- **A declared name is not found.**  It has a single character. -/
theorem single_character_not_found :
    let text := "\x7bnamespace ns\x7d\n\x7btemplate a\x7d\n\x7b/template\x7d\n".toList
    DeclaresFirst text namespaceNs "\n\x7btemplate a\x7d\n\x7b/template\x7d\n".toList ∧
      DeclaresAlone text ⟨"a".toList, by decide, List.all_eq_true.mp (by decide)⟩ 15 ∧
      ⟨"nsa", 15⟩ ∉ ((byName (scan text)).lookup "nsa").getD [] := by
  refine ⟨⟨[], by decide, by decide⟩, ⟨⟨"\n\x7b/template\x7d\n".toList, by decide⟩, ?_⟩, ?_⟩
  · decide +kernel
  · decide +kernel

end Marker

end TemplateAtlas
