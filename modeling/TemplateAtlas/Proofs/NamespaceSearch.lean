import Mathlib.Data.List.Infix
import Mathlib.Order.Bounds.Basic
import Mathlib.Tactic.Common
import TemplateAtlas.Proofs.DeclaredNames
import TemplateAtlas.Proofs.Patterns

/-!
# The search for a namespace

A namespace declaration has the form of a pattern: the opening, one character, a run of characters without blanks, and a
closing brace.  The run may go over braces, so there can be several ways to read one and the same declaration, and which
of them counts is a matter of the order in which they are tried.

**Ways.**  The declaration is a pattern in the sense of `Pattern.Ways`, and the search takes the first way at the first
offset that has one (`searchNamespace?`).

**The direct reading.**  The first way to close a run is to close it at its last brace (`head?_closedRun`).  So no way
has to be given up, and the scan needs no search: `firstNamespace?_eq_search`.

**Offsets.**  Where the name begins and ends is said by offsets into the text: the least offset at which a namespace is
declared (`DeclaresAt`), and the greatest one of a brace in the run.
-/

namespace TemplateAtlas

open Text

namespace Marker

open Pattern

/-- The names that a text can be taken to declare at its front, in the order in which they are tried. -/
def namespaceNames (text : List Char) : List (List Char) :=
  (word namespaceOpening text).flatMap fun opened =>
    before (both (one mayStartName) (run fun c => !isBlank c)) (one (· = '}')) opened.2

/-- The name that is found first, from the front of the text on. -/
def searchNamespace? (text : List Char) : Option (List Char) :=
  text.tails.findSome? fun rest => (namespaceNames rest).head?

/-! ## The direct reading -/

lemma beforeLastBrace?_eq_none_iff {chars : List Char} :
    beforeLastBrace? chars = none ↔ '}' ∉ chars := by
  constructor
  · intro hnone hmem
    obtain ⟨front, behind, rfl, hbehind⟩ := exists_last_brace hmem
    rw [beforeLastBrace?_append hbehind] at hnone
    cases hnone
  · intro hmem
    have hdrop : chars.reverse.dropWhile (· ≠ '}') = [] := by
      rw [List.dropWhile_eq_nil_iff]
      intro c hc
      rw [decide_eq_true_eq]
      rintro rfl
      exact hmem (List.mem_reverse.mp hc)
    rw [beforeLastBrace?, hdrop]

/-- What is behind the last brace has no other. -/
lemma eq_append_of_beforeLastBrace? {chars front : List Char} (h : beforeLastBrace? chars = some front) :
    ∃ behind, chars = front ++ '}' :: behind ∧ '}' ∉ behind := by
  have hmem : '}' ∈ chars := by
    by_contra hnot
    rw [beforeLastBrace?_eq_none_iff.mpr hnot] at h
    cases h
  obtain ⟨other, behind, rfl, hbehind⟩ := exists_last_brace hmem
  rw [beforeLastBrace?_append hbehind, Option.some.injEq] at h
  exact ⟨behind, by rw [h], hbehind⟩

lemma beforeLastBrace?_cons (c : Char) (chars : List Char) :
    beforeLastBrace? (c :: chars) =
      match beforeLastBrace? chars with
      | some front => some (c :: front)
      | none => if c = '}' then some [] else none := by
  cases hlast : beforeLastBrace? chars with
  | none =>
      have hmem := beforeLastBrace?_eq_none_iff.mp hlast
      by_cases hc : c = '}'
      · rw [hc, ← List.nil_append ('}' :: chars), beforeLastBrace?_append hmem]
        rfl
      · simp only [if_neg hc]
        exact beforeLastBrace?_eq_none_iff.mpr (by simp [hmem, Ne.symm hc])
  | some front =>
      obtain ⟨behind, rfl, hbehind⟩ := eq_append_of_beforeLastBrace? hlast
      rw [← List.cons_append, beforeLastBrace?_append hbehind]

/-- A run that is closed by a brace, and tried at its longest first, is closed by its last brace.  That brace cannot be
its first character, for a run is not empty. -/
lemma head?_closedRun (cs : List Char) :
    (before (run fun c => !isBlank c) (one (· = '}')) cs).head?
      = (beforeLastBrace? (cs.takeWhile fun c => !isBlank c)).filter (· ≠ []) := by
  induction cs with
  | nil => rfl
  | cons c cs ih =>
      cases hc : isBlank c with
      | true =>
          rw [before_run_stop (by simp [hc]), List.takeWhile_cons_of_neg (by simp [hc])]
          rfl
      | false =>
          rw [before_run_cons (by simp [hc]), List.head?_append, List.head?_map, ih,
            List.takeWhile_cons_of_pos (by simp [hc]), beforeLastBrace?_cons]
          cases hlast : beforeLastBrace? (cs.takeWhile fun c => !isBlank c) with
          | none =>
              have hone : one (· = '}') cs = [] := by
                cases cs with
                | nil => rfl
                | cons d cs =>
                    have hd : d ≠ '}' := by
                      rintro rfl
                      rw [beforeLastBrace?_eq_none_iff, List.takeWhile_cons_of_pos (by decide)] at hlast
                      exact hlast List.mem_cons_self
                    simp [one, hd]
              rw [hone]
              split_ifs <;> rfl
          | some front =>
              cases front with
              | nil =>
                  obtain ⟨behind, hrun, -⟩ := eq_append_of_beforeLastBrace? hlast
                  cases cs with
                  | nil => cases hrun
                  | cons d cs =>
                      rw [List.takeWhile_cons, List.nil_append] at hrun
                      split_ifs at hrun
                      rw [(List.cons.inj hrun).1]
                      rfl
              | cons d front => rfl

/-- The first name that a text can be taken to declare is the one that is read off it. -/
lemma head?_namespaceNames (text : List Char) :
    (namespaceNames text).head? = (after? namespaceOpening text).bind namespaceName? := by
  rw [namespaceNames, word, after?]
  split_ifs with hopening
  · rw [List.flatMap_singleton, Option.bind_some]
    cases text.drop namespaceOpening.length with
    | nil => rfl
    | cons c cs =>
        rw [before_both_one, namespaceName?]
        cases hc : mayStartName c with
        | false => rfl
        | true =>
            rw [if_pos rfl, if_pos rfl, List.head?_map, head?_closedRun]
            cases beforeLastBrace? (cs.takeWhile fun d => !isBlank d) with
            | none => rfl
            | some front => cases front <;> rfl
  · rfl

/-- **The scan finds what the search finds.** -/
theorem firstNamespace?_eq_search (text : List Char) :
    firstNamespace? text = searchNamespace? text := by
  induction text with
  | nil => rfl
  | cons c text ih =>
      rw [searchNamespace?, List.tails_cons, List.findSome?_cons, head?_namespaceNames,
        firstNamespace?, ih]
      cases (after? namespaceOpening (c :: text)).bind namespaceName? <;> rfl

/-! ## Offsets -/

/-- The characters from an offset on to the next blank. -/
def unbroken (text : List Char) (start : Nat) : List Char :=
  (text.drop start).takeWhile fun c => !isBlank c

/-- The text declares a namespace at an offset: behind the opening comes a character that is no brace and no slash, and
then a run without blanks that has a brace in it, and not only in front. -/
def DeclaresAt (text : List Char) (start : Nat) : Prop :=
  (text.drop start).take 11 = namespaceOpening ∧
    (∃ c, text[start + 11]? = some c ∧ c ≠ '}' ∧ c ≠ '/') ∧
    ∃ place, 1 ≤ place ∧ (unbroken text (start + 12))[place]? = some '}'

/-- The name that is read off a text at an offset. -/
def nameAt? (text : List Char) (start : Nat) : Option (List Char) :=
  (after? namespaceOpening (text.drop start)).bind namespaceName?

/-- The last brace has the greatest place of all. -/
lemma isGreatest_of_beforeLastBrace? {chars front : List Char} (h : beforeLastBrace? chars = some front) :
    IsGreatest {place | chars[place]? = some '}'} front.length ∧ chars.take front.length = front := by
  obtain ⟨behind, rfl, hbehind⟩ := eq_append_of_beforeLastBrace? h
  refine ⟨⟨by simp, ?_⟩, List.take_left⟩
  intro place hplace
  by_contra hlater
  obtain ⟨gap, rfl⟩ : ∃ gap, place = front.length + (gap + 1) := ⟨place - front.length - 1, by omega⟩
  simp only [Set.mem_ofPred_eq] at hplace
  rw [List.getElem?_append_right (Nat.le_add_right _ _), Nat.add_sub_cancel_left,
    List.getElem?_cons_succ] at hplace
  exact hbehind (List.mem_of_getElem? hplace)

lemma namespaceName?_eq_some_iff {c : Char} {cs name : List Char} :
    namespaceName? (c :: cs) = some name ↔
      (c ≠ '}' ∧ c ≠ '/') ∧ ∃ front, front ≠ [] ∧
        beforeLastBrace? (cs.takeWhile fun d => !isBlank d) = some front ∧ name = c :: front := by
  have hstart : mayStartName c = true ↔ c ≠ '}' ∧ c ≠ '/' := by simp [mayStartName]
  rw [namespaceName?, ← hstart]
  split_ifs with hc
  · rcases hlast : beforeLastBrace? (cs.takeWhile fun d => !isBlank d) with _ | _ | ⟨d, front⟩
    · simp
    · simp
    · simp [hc, eq_comm]
  · simp [hc]

/-- What is read at an offset, in terms of offsets. -/
lemma nameAt?_eq_some_iff {text name : List Char} {start : Nat} :
    nameAt? text start = some name ↔
      (text.drop start).take 11 = namespaceOpening ∧
        ∃ c, text[start + 11]? = some c ∧ (c ≠ '}' ∧ c ≠ '/') ∧
          ∃ front, front ≠ [] ∧ beforeLastBrace? (unbroken text (start + 12)) = some front ∧
            name = c :: front := by
  have hopens : namespaceOpening.isPrefixOf (text.drop start) = true ↔
      (text.drop start).take 11 = namespaceOpening := by
    rw [List.isPrefixOf_iff_prefix, List.prefix_iff_eq_take, eq_comm]
    rfl
  have hfirst : text[start + 11]? = (text.drop (start + 11)).head? := List.head?_drop.symm
  have hrun : unbroken text (start + 12)
      = (text.drop (start + 11)).tail.takeWhile fun c => !isBlank c := by
    rw [unbroken, List.tail_drop]
  have hlength : namespaceOpening.length = 11 := rfl
  rw [nameAt?, after?, ← hopens, hfirst, hrun]
  split_ifs with hopening
  · rw [Option.bind_some, List.drop_drop, hlength]
    cases text.drop (start + 11) with
    | nil => simp [namespaceName?]
    | cons c cs =>
        rw [namespaceName?_eq_some_iff, List.head?_cons, List.tail_cons]
        simp [hopening]
  · simp [hopening]

/-- A name is read exactly where a namespace is declared. -/
lemma declaresAt_iff {text : List Char} {start : Nat} :
    DeclaresAt text start ↔ ∃ name, nameAt? text start = some name := by
  constructor
  · rintro ⟨hopening, ⟨c, hc, hstart⟩, place, hplace, hbrace⟩
    cases hlast : beforeLastBrace? (unbroken text (start + 12)) with
    | none => exact absurd (List.mem_of_getElem? hbrace) (beforeLastBrace?_eq_none_iff.mp hlast)
    | some front =>
        have hgreatest := (isGreatest_of_beforeLastBrace? hlast).1.2 hbrace
        have hfront : front ≠ [] := by
          rintro rfl
          exact absurd (Nat.le_trans hplace hgreatest) (by simp)
        exact ⟨c :: front, nameAt?_eq_some_iff.mpr ⟨hopening, c, hc, hstart, front, hfront, hlast, rfl⟩⟩
  · rintro ⟨name, hname⟩
    obtain ⟨hopening, c, hc, hstart, front, hfront, hlast, -⟩ := nameAt?_eq_some_iff.mp hname
    exact ⟨hopening, ⟨c, hc, hstart⟩, front.length, List.length_pos_iff.mpr hfront,
      (isGreatest_of_beforeLastBrace? hlast).1.1⟩

lemma firstNamespace?_cons (c : Char) (text : List Char) :
    firstNamespace? (c :: text) = (nameAt? (c :: text) 0).or (firstNamespace? text) := by
  rw [firstNamespace?, nameAt?, List.drop_zero]
  cases (after? namespaceOpening (c :: text)).bind namespaceName? <;> rfl

/-- The name that the scan finds is the one at the first offset that has one. -/
lemma firstNamespace?_eq_some {name : List Char} : ∀ {text : List Char},
    firstNamespace? text = some name →
      ∃ start, nameAt? text start = some name ∧ ∀ earlier < start, nameAt? text earlier = none
  | [], h => by cases h
  | c :: text, h => by
      rw [firstNamespace?_cons, Option.or_eq_some_iff] at h
      rcases h with hfront | ⟨hfront, hbehind⟩
      · exact ⟨0, hfront, fun _ hlt => absurd hlt (Nat.not_lt_zero _)⟩
      · obtain ⟨start, hstart, hearlier⟩ := firstNamespace?_eq_some hbehind
        refine ⟨start + 1, hstart, ?_⟩
        rintro (_ | earlier) hlt
        · exact hfront
        · exact hearlier earlier (Nat.lt_of_succ_lt_succ hlt)

/-- Where the scan finds nothing, there is no name at any offset. -/
lemma firstNamespace?_eq_none : ∀ {text : List Char}, firstNamespace? text = none →
    ∀ start, nameAt? text start = none
  | [], _, start => by
      rw [nameAt?, List.drop_nil]
      rfl
  | c :: text, h, start => by
      rw [firstNamespace?_cons, Option.or_eq_none_iff] at h
      cases start with
      | zero => exact h.1
      | succ start => exact firstNamespace?_eq_none h.2 start

/-- Only the character in front of a name can be stripped from it. -/
lemma strip_name {c : Char} {front : List Char} (hfront : front ≠ [])
    (hblank : ∀ d ∈ front, isBlank d = false) :
    strip (c :: front) ≠ [] ∧ ∀ d ∈ strip (c :: front), isBlank d = false := by
  cases hc : isBlank c with
  | false =>
      have hall : ∀ d ∈ c :: front, isBlank d = false := List.forall_mem_cons.mpr ⟨hc, hblank⟩
      rw [strip_eq_self hall]
      exact ⟨List.cons_ne_nil _ _, hall⟩
  | true =>
      have hstrip : strip (c :: front) = front := by
        rw [strip, stripStart, List.dropWhile_cons_of_pos hc]
        exact strip_eq_self hblank
      rw [hstrip]
      exact ⟨hfront, hblank⟩

/-- **The declared namespace.**  It is what the search finds, without blanks around it.  If a namespace is declared at
any offset, it is read off the text at the least of them: the character behind the opening, and the run behind that up
to the last brace in it.  It is then not empty, and there is no blank in it.  Otherwise it is empty. -/
theorem declaredNamespace_exact (text : List Char) :
    declaredNamespace text = ((searchNamespace? text).map strip).getD [] ∧
      ((∃ (start : Nat) (c : Char) (last : Nat),
          IsLeast {offset | DeclaresAt text offset} start ∧ text[start + 11]? = some c ∧
          IsGreatest {place | (unbroken text (start + 12))[place]? = some '}'} last ∧
          declaredNamespace text = strip (c :: (unbroken text (start + 12)).take last) ∧
          declaredNamespace text ≠ [] ∧ ∀ d ∈ declaredNamespace text, isBlank d = false) ∨
        (∀ offset, ¬ DeclaresAt text offset) ∧ declaredNamespace text = []) := by
  rw [declaredNamespace, ← firstNamespace?_eq_search]
  cases hfirst : firstNamespace? text with
  | none =>
      refine ⟨rfl, Or.inr ⟨?_, rfl⟩⟩
      intro offset hdeclares
      obtain ⟨name, hname⟩ := declaresAt_iff.mp hdeclares
      rw [firstNamespace?_eq_none hfirst offset] at hname
      cases hname
  | some name =>
      obtain ⟨start, hname, hearlier⟩ := firstNamespace?_eq_some hfirst
      obtain ⟨-, c, hc, -, front, hfront, hlast, rfl⟩ := nameAt?_eq_some_iff.mp hname
      obtain ⟨hgreatest, htake⟩ := isGreatest_of_beforeLastBrace? hlast
      have hblank : ∀ d ∈ front, isBlank d = false := by
        intro d hd
        rw [← htake] at hd
        simpa using List.mem_takeWhile_imp (List.mem_of_mem_take hd)
      refine ⟨rfl, Or.inl ⟨start, c, front.length, ⟨declaresAt_iff.mpr ⟨_, hname⟩, ?_⟩, hc, hgreatest, ?_,
        strip_name hfront hblank⟩⟩
      · intro offset hdeclares
        by_contra hlt
        obtain ⟨other, hother⟩ := declaresAt_iff.mp hdeclares
        rw [hearlier offset (Nat.lt_of_not_le hlt)] at hother
        cases hother
      · rw [htake]

-- The run goes on over braces to the next blank, and a blank in front of the name is stripped.
example : declaredNamespace "\x7bnamespace  a\x7d.b\x7d\x7b c\x7d".toList = "a\x7d.b".toList := by decide

end Marker

end TemplateAtlas
