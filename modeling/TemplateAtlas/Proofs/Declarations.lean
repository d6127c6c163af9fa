import Mathlib.Data.List.DropRight
import Mathlib.Tactic.Common
import TemplateAtlas.Marker
import TemplateAtlas.Proofs.PlainScan
import TemplateAtlas.Text.Word

/-!
# Declarations in a text made of lines

The scan for markers goes over a whole text, character by character.  Here it is followed over a text that is
known line by line.

**Templates.**  A line that opens no template is passed over (`declarationsFrom_line`), and where a template is
opened its name is read up to the first character that may not stand in it (`declarationsFrom_opening`,
`declaredName?_append`).

**The namespace.**  A namespace that is declared on the first line of a text is found, as it was written
(`declaredNamespace_header`).  This rests on what blanks and word characters have in common, which is nothing
(`isWordChar_of_isBlank`).
-/

namespace TemplateAtlas

open Text

/-! ## Blanks and words -/

namespace Text

/-- What is true of the characters of each range is true of the set. -/
lemma CharSet.of_contains (set : CharSet) (p : Char → Bool) {c : Char}
    (hranges : set.ranges.all (fun range =>
      (List.range' range.1 (range.2 + 1 - range.1)).all fun code => p (Char.ofNat code)) = true)
    (h : set.contains c = true) : p c = true := by
  obtain ⟨range, hrange, hcode⟩ := List.any_eq_true.mp h
  rw [Bool.and_eq_true, decide_eq_true_eq, decide_eq_true_eq] at hcode
  have hall := List.all_eq_true.mp (List.all_eq_true.mp hranges range hrange) c.toNat
    (List.mem_range'_1.mpr ⟨hcode.1, by omega⟩)
  rwa [Char.ofNat_toNat] at hall

/-- A blank is no word character. -/
lemma isWordChar_of_isBlank {c : Char} (h : isBlank c = true) : isWordChar c = false := by
  have hnot : (!isWordChar c) = true :=
    CharSet.of_contains blanks (fun c => !isWordChar c) (by decide +kernel) h
  simpa using hnot

lemma not_mem_of_isBlank {d : Char} (hd : isBlank d = true) {text : List Char}
    (h : ∀ c ∈ text, isBlank c = false) : d ∉ text := by
  intro hmem
  rw [h d hmem] at hd
  exact Bool.noConfusion hd

/-- There is nothing to strip from a text without blanks. -/
lemma strip_eq_self {text : List Char} (h : ∀ c ∈ text, isBlank c = false) : strip text = text := by
  have hdrop : ∀ cs : List Char, (∀ c ∈ cs, isBlank c = false) → cs.dropWhile isBlank = cs := by
    intro cs hcs
    cases cs with
    | nil => rfl
    | cons c cs =>
        rw [List.dropWhile_cons_of_neg]
        simp [hcs c List.mem_cons_self]
  rw [strip, stripStart, hdrop text h, stripEnd,
    hdrop text.reverse fun c hc => h c (List.mem_reverse.mp hc), List.reverse_reverse]

/-- A text of which nothing is left when it is stripped is made of blanks. -/
lemma strip_eq_nil_iff {text : List Char} : strip text = [] ↔ ∀ c ∈ text, isBlank c = true := by
  rw [strip, stripEnd, List.reverse_eq_nil_iff, List.dropWhile_eq_nil_iff]
  simp only [List.mem_reverse]
  rw [← List.dropWhile_eq_nil_iff, stripStart, List.dropWhile_idempotent, List.dropWhile_eq_nil_iff]

end Text

/-- What may start a name may also go on in it. -/
lemma isDottedChar_of_isNameStart {c : Char} (h : Soy.isNameStart c = true) :
    Soy.isDottedChar c = true := by
  have hascii : c.toNat < 128 := by
    simp only [Soy.isNameStart, isAsciiLetter, Bool.or_eq_true, Bool.and_eq_true,
      decide_eq_true_eq, beq_iff_eq] at h
    rcases h with (⟨_, h⟩ | ⟨_, h⟩) | rfl
    · exact Nat.lt_of_le_of_lt (Char.le_def.mp h) (by decide)
    · exact Nat.lt_of_le_of_lt (Char.le_def.mp h) (by decide)
    · decide
  rw [Soy.isNameStart, Bool.or_eq_true] at h
  rw [Soy.isDottedChar, isWordChar, if_pos hascii]
  rcases h with h | h <;> simp [h]

namespace Marker

lemma isNameChar_of_isDottedChar {c : Char} (h : Soy.isDottedChar c = true) :
    isNameChar c = true := by
  rw [Soy.isDottedChar, Bool.or_eq_true, beq_iff_eq] at h
  rcases h with hword | rfl
  · have hblank : isBlank c = false := by
      cases hblank : isBlank c with
      | false => rfl
      | true => rw [isWordChar_of_isBlank hblank] at hword; simp at hword
    have hne : ∀ d, isWordChar d = false → c ≠ d := by
      rintro d hd rfl
      rw [hd] at hword
      simp at hword
    simp [isNameChar, hblank, hne '^' (by decide), hne '}' (by decide), hne '/' (by decide)]
  · decide

/-! ## Templates -/

lemma declarationsFrom_pass {offset : Nat} {c : Char} {cs : List Char}
    (h : opening.isPrefixOf (c :: cs) = false) :
    declarationsFrom offset (c :: cs) = declarationsFrom (offset + 1) cs := by
  rw [declarationsFrom, after?, h]
  rfl

/-- A line in which no template is opened is passed over. -/
lemma declarationsFrom_line {line : List Char} (h : ¬ opening <:+: line) (offset : Nat)
    (rest : List Char) :
    declarationsFrom offset (line ++ '\n' :: rest)
      = declarationsFrom (offset + line.length + 1) rest := by
  induction line generalizing offset with
  | nil => exact declarationsFrom_pass rfl
  | cons c line ih =>
      have hline : ¬ opening <:+: line := fun hinside =>
        h (List.IsInfix.trans hinside (List.suffix_cons c line).isInfix)
      have hstart : opening.isPrefixOf (c :: (line ++ '\n' :: rest)) = false := by
        rw [← List.cons_append, Soy.isPrefixOf_afterLine (Or.inr ⟨rest, rfl⟩) _ _ (by decide),
          Bool.eq_false_iff]
        exact fun hstart => h (List.isPrefixOf_iff_prefix.mp hstart).isInfix
      rw [List.cons_append, declarationsFrom_pass hstart, ih hline, List.length_cons]
      congr 1
      omega

lemma after?_append (front behind : List Char) : after? front (front ++ behind) = some behind := by
  rw [after?, if_pos (List.isPrefixOf_iff_prefix.mpr (List.prefix_append _ _)), List.drop_left]

/-- A template is declared right behind its opening. -/
lemma declarationsFrom_opening {name behind : List Char}
    (h : declaredName? (name ++ behind) = some name) (offset : Nat) :
    declarationsFrom offset (opening ++ (name ++ behind))
      = (offset, name) :: declarationsFrom (offset + opening.length + name.length) behind := by
  have hcons : opening ++ (name ++ behind) = '{' :: ((opening.tail ++ name) ++ behind) := by
    rw [List.append_assoc]
    rfl
  have hlength : opening.length - 1 + name.length = (opening.tail ++ name).length := by
    rw [List.length_append, List.length_tail]
  rw [hcons, declarationsFrom, ← hcons, after?_append, Option.bind_some, h]
  simp only [hlength, List.drop_left]
  rw [← hlength, Nat.add_assoc offset 1]
  congr 2
  have hpos : opening.length = 10 := rfl
  omega

/-- Where the scan finds a declaration, the text reads as one. -/
lemma mem_declarationsFrom {start : Nat} {raw : List Char} : ∀ {text : List Char} {offset : Nat},
    (start, raw) ∈ declarationsFrom offset text →
      ∃ gap, start = offset + gap ∧ (after? opening (text.drop gap)).bind declaredName? = some raw
  | [], offset, h => by simp [declarationsFrom] at h
  | c :: cs, offset, h => by
      rw [declarationsFrom] at h
      cases hfirst : (after? opening (c :: cs)).bind declaredName? with
      | none =>
          simp only [hfirst] at h
          obtain ⟨gap, hstart, hgap⟩ := mem_declarationsFrom h
          exact ⟨gap + 1, by omega, hgap⟩
      | some name =>
          simp only [hfirst] at h
          rcases List.mem_cons.mp h with h | h
          · rw [Prod.mk.injEq] at h
            exact ⟨0, h.1, by rw [h.2]; exact hfirst⟩
          · obtain ⟨gap, hstart, hgap⟩ := mem_declarationsFrom h
            rw [List.drop_drop] at hgap
            exact ⟨opening.length - 1 + name.length + gap + 1, by omega, hgap⟩
termination_by text => text.length
decreasing_by all_goals (simp only [List.length_drop, List.length_cons]; omega)

/-- A name of two characters or more, up to a character that may not stand in it. -/
lemma declaredName?_append {c d e : Char} {name : List Char} (hc : mayStartName c = true)
    (hname : ∀ f ∈ d :: name, isNameChar f = true) (he : isNameChar e = false) (rest : List Char) :
    declaredName? (c :: d :: name ++ e :: rest) = some (c :: d :: name) := by
  have hd : isNameChar d = true := hname d List.mem_cons_self
  have hrun : (d :: name ++ e :: rest).takeWhile isNameChar = d :: name := by
    rw [List.takeWhile_append_of_pos hname, List.takeWhile_cons_of_neg (by simp [he]),
      List.append_nil]
  rw [List.cons_append, declaredName?, hrun]
  simp [hc, hd]

/-! ## The namespace -/

lemma beforeLastBrace?_concat (run : List Char) : beforeLastBrace? (run ++ ['}']) = some run := by
  simp [beforeLastBrace?]

/-- A text that starts with the declaration of a namespace. -/
lemma declaredNamespace_header {c d : Char} {space : List Char} (hc : mayStartName c = true)
    (hspace : ∀ e ∈ c :: d :: space, isBlank e = false) (rest : List Char) :
    declaredNamespace (namespaceOpening ++ (c :: d :: space ++ '}' :: '\n' :: rest))
      = c :: d :: space := by
  have hrun : (d :: space ++ '}' :: '\n' :: rest).takeWhile (fun e => !isBlank e)
      = (d :: space) ++ ['}'] := by
    have hplain : ∀ e ∈ d :: space, (!isBlank e) = true := by
      intro e he
      rw [hspace e (List.mem_cons_of_mem _ he)]
      rfl
    rw [List.takeWhile_append_of_pos hplain, List.takeWhile_cons_of_pos (by decide),
      List.takeWhile_cons_of_neg (by decide)]
  have hname : namespaceName? (c :: d :: space ++ '}' :: '\n' :: rest) = some (c :: d :: space) := by
    rw [List.cons_append, namespaceName?, if_pos hc, hrun, beforeLastBrace?_concat]
  have hfirst : firstNamespace? (namespaceOpening ++ (c :: d :: space ++ '}' :: '\n' :: rest))
      = some (c :: d :: space) := by
    have hcons : namespaceOpening ++ (c :: d :: space ++ '}' :: '\n' :: rest)
        = '{' :: (namespaceOpening.tail ++ (c :: d :: space ++ '}' :: '\n' :: rest)) := rfl
    rw [hcons, firstNamespace?, ← hcons, after?_append, Option.bind_some, hname]
  rw [declaredNamespace, hfirst]
  exact strip_eq_self hspace

end Marker

end TemplateAtlas
