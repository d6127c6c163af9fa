import Mathlib.Tactic.Common

/-!
# Patterns

A pattern is given by the ways in which it can take the front of a text, in the order in which they are tried.  A run
is tried at its longest first, and given up character by character; the same goes for a pattern that is taken over and
over.  What counts is the first way, and for each way of putting patterns together there is a lemma about it.
-/

namespace TemplateAtlas.Pattern

/-- The ways in which the front of a text can be taken, each with what it takes and what it leaves, in the order in
which they are tried. -/
abbrev Ways := List Char → List (List Char × List Char)

/-- Takes a given word. -/
def word (text : List Char) : Ways := fun cs => if text.isPrefixOf cs then [(text, cs.drop text.length)] else []

/-- Takes one character of a kind. -/
def one (accepts : Char → Bool) : Ways
  | [] => []
  | c :: cs => if accepts c then [([c], cs)] else []

/-- Takes characters of a kind, at least one and at first as many as there are. -/
def run (accepts : Char → Bool) : Ways
  | [] => []
  | c :: cs =>
    if accepts c then (run accepts cs).map (fun way => (c :: way.1, way.2)) ++ [([c], cs)] else []

/-- Takes what two patterns take one after the other. -/
def both (first second : Ways) : Ways := fun cs =>
  (first cs).flatMap fun way => (second way.2).map fun next => (way.1 ++ next.1, next.2)

/-- Takes what one of two patterns takes; the first of them is tried first. -/
def either (first second : Ways) : Ways := fun cs => first cs ++ second cs

/-- Takes what a pattern takes, or else nothing. -/
def maybe (pattern : Ways) : Ways := fun cs => pattern cs ++ [([], cs)]

/-- Takes what a pattern takes over and over, at most so many times, and at first as often as that. -/
def upTo (item : Ways) : Nat → Ways
  | 0 => fun cs => [([], cs)]
  | count + 1 => maybe (both item (upTo item count))

/-- Takes what a pattern takes over and over, which is always at least one character. -/
def many (item : Ways) : Ways := fun cs => upTo item cs.length cs

/-- Takes what a pattern takes, under a condition. -/
def provided (condition : Bool) (pattern : Ways) : Ways := fun cs => if condition then pattern cs else []

/-- What a pattern takes first. -/
def taken? (pattern : Ways) (cs : List Char) : Option (List Char) := (pattern cs).head?.map Prod.fst

/-- What a pattern takes in the ways in which another one can go on behind it. -/
def before (first second : Ways) (cs : List Char) : List (List Char) :=
  (first cs).flatMap fun way => (second way.2).map fun _ => way.1

variable {accepts : Char → Bool} {first second item : Ways} {c : Char} {cs : List Char}

/-! ## What goes on behind a run -/

lemma before_run_cons (hc : accepts c = true) (second : Ways) (cs : List Char) :
    before (run accepts) second (c :: cs)
      = (before (run accepts) second cs).map (c :: ·) ++ (second cs).map fun _ => [c] := by
  simp only [before, run, if_pos hc, List.flatMap_append, List.flatMap_map, List.map_flatMap,
    List.map_map, List.flatMap_singleton, Function.comp_def]

lemma before_run_stop (hc : accepts c = false) (second : Ways) (cs : List Char) :
    before (run accepts) second (c :: cs) = [] := by
  simp [before, run, hc]

lemma before_both_one (accepts : Char → Bool) (first second : Ways) (c : Char) (cs : List Char) :
    before (both (one accepts) first) second (c :: cs)
      = if accepts c then (before first second cs).map (c :: ·) else [] := by
  by_cases hc : accepts c
  · simp only [before, both, one, hc, if_true, List.flatMap_singleton, List.flatMap_map, List.map_flatMap,
      List.map_map, List.singleton_append, Function.comp_def]
  · simp [before, both, one, hc]

/-! ## The first way -/

lemma both_assoc (first second third : Ways) : both (both first second) third = both first (both second third) := by
  funext cs
  simp only [both, List.flatMap_assoc, List.flatMap_map, List.map_flatMap, List.map_map, Function.comp_def,
    List.append_assoc]

lemma word_cons (d : Char) (text : List Char) (c : Char) (cs : List Char) :
    word (d :: text) (c :: cs) = if c = d then (word text cs).map fun way => (d :: way.1, way.2) else [] := by
  by_cases hc : c = d
  · simp only [word, hc, List.isPrefixOf_cons_cons, beq_self_eq_true, Bool.true_and, if_true, List.length_cons,
      List.drop_succ_cons]
    split_ifs <;> rfl
  · simp [word, hc, Ne.symm hc]

lemma word_empty (cs : List Char) : word [] cs = [([], cs)] := rfl

lemma word_two (a b : Char) : word [a, b] = both (word [a]) (word [b]) := by
  funext cs
  cases cs with
  | nil => rfl
  | cons c cs =>
      rw [word_cons, both, word_cons, word_empty]
      split_ifs
      · simp
      · rfl

lemma head?_run_cons (accepts : Char → Bool) (c : Char) (cs : List Char) :
    (run accepts (c :: cs)).head?
      = if accepts c then some (c :: cs.takeWhile accepts, cs.dropWhile accepts) else none := by
  induction cs generalizing c with
  | nil => simp only [run]; split_ifs <;> rfl
  | cons d cs ih =>
      rw [run]
      split_ifs with hc
      · rw [List.head?_append, List.head?_map, ih d]
        cases hd : accepts d <;> simp [hd]
      · rfl

lemma head?_maybe (pattern : Ways) (cs : List Char) :
    (maybe pattern cs).head? = (pattern cs).head?.or (some ([], cs)) := by
  rw [maybe, List.head?_append]
  rfl

/-- A run that may be empty. -/
lemma head?_maybe_run (accepts : Char → Bool) (cs : List Char) :
    (maybe (run accepts) cs).head? = some (cs.takeWhile accepts, cs.dropWhile accepts) := by
  rw [head?_maybe]
  cases cs with
  | nil => rfl
  | cons c cs =>
      rw [head?_run_cons, List.takeWhile_cons, List.dropWhile_cons]
      split_ifs <;> rfl

lemma both_of_nil (h : first cs = []) (second : Ways) : both first second cs = [] := by
  rw [both, h]
  rfl

/-- There is only one way to take the front. -/
lemma head?_both_single {way : List Char × List Char} (h : first cs = [way]) (second : Ways) :
    (both first second cs).head? = (second way.2).head?.map fun next => (way.1 ++ next.1, next.2) := by
  rw [both, h, List.flatMap_singleton, List.head?_map]

/-- The first way need not be given up. -/
lemma head?_both_first {way next : List Char × List Char} (h : (first cs).head? = some way)
    (hnext : (second way.2).head? = some next) :
    (both first second cs).head? = some (way.1 ++ next.1, next.2) := by
  obtain ⟨ways, hways⟩ := List.head?_eq_some_iff.mp h
  rw [both, hways, List.flatMap_cons, List.head?_append, List.head?_map, hnext]
  rfl

/-- A front that may be missing. -/
lemma head?_both_maybe (pattern second : Ways) (cs : List Char) :
    (both (maybe pattern) second cs).head? = (both pattern second cs).head?.or (second cs).head? := by
  simp [both, maybe]

/-- A pattern that could be taken over and over, where it has no way at all. -/
lemma head?_upTo_of_nil (h : item cs = []) (count : Nat) (second : Ways) :
    (both (upTo item count) second cs).head? = (second cs).head? := by
  cases count with
  | zero => simp [upTo, both]
  | succ count =>
      rw [upTo, head?_both_maybe, both_assoc, both_of_nil h]
      rfl

/-- There is one way to take a pattern that can be taken over and over, and nothing else can go on here. -/
lemma head?_upTo_single {way : List Char × List Char} (h : item cs = [way]) {second : Ways} (hstop : second cs = [])
    (count : Nat) :
    (both (upTo item (count + 1)) second cs).head?
      = (both (upTo item count) second way.2).head?.map fun next => (way.1 ++ next.1, next.2) := by
  rw [upTo, head?_both_maybe, both_assoc, head?_both_single h, hstop, List.head?_nil, Option.or_none]

/-! ## What is taken first -/

lemma taken?_one (accepts : Char → Bool) (c : Char) (cs : List Char) :
    taken? (one accepts) (c :: cs) = if accepts c then some [c] else none := by
  rw [taken?, one]
  split_ifs <;> rfl

lemma taken?_run (accepts : Char → Bool) (c : Char) (cs : List Char) :
    taken? (run accepts) (c :: cs) = if accepts c then some (c :: cs.takeWhile accepts) else none := by
  rw [taken?, head?_run_cons]
  split_ifs <;> rfl

lemma taken?_word (text cs : List Char) :
    taken? (word text) cs = if text.isPrefixOf cs then some text else none := by
  rw [taken?, word]
  split_ifs <;> rfl

lemma taken?_maybe (pattern : Ways) (cs : List Char) :
    taken? (maybe pattern) cs = (taken? pattern cs).or (some []) := by
  rw [taken?, head?_maybe, Option.map_or]
  rfl

lemma taken?_both_maybe (pattern second : Ways) (cs : List Char) :
    taken? (both (maybe pattern) second) cs = (taken? (both pattern second) cs).or (taken? second cs) := by
  rw [taken?, head?_both_maybe, Option.map_or]
  rfl

lemma taken?_both_first {way : List Char × List Char} {text : List Char} (h : (first cs).head? = some way)
    (htext : taken? second way.2 = some text) : taken? (both first second) cs = some (way.1 ++ text) := by
  rw [taken?, Option.map_eq_some_iff] at htext
  obtain ⟨next, hnext, rfl⟩ := htext
  rw [taken?, head?_both_first h hnext]
  rfl

/-- A pattern behind one character. -/
lemma taken?_both_one (accepts : Char → Bool) (pattern : Ways) (c : Char) (cs : List Char) :
    taken? (both (one accepts) pattern) (c :: cs)
      = if accepts c then (taken? pattern cs).map (c :: ·) else none := by
  rw [taken?, taken?]
  split_ifs with h
  · have hway : one accepts (c :: cs) = [([c], cs)] := by rw [one, if_pos h]
    rw [head?_both_single hway, Option.map_map, Option.map_map]
    rfl
  · rw [both_of_nil (by rw [one, if_neg h])]
    rfl

lemma taken?_maybe_run (accepts : Char → Bool) (cs : List Char) :
    taken? (maybe (run accepts)) cs = some (cs.takeWhile accepts) := by
  rw [taken?, head?_maybe_run]
  rfl

lemma taken?_provided (condition : Bool) (pattern : Ways) (cs : List Char) :
    taken? (provided condition pattern) cs = if condition then taken? pattern cs else none := by
  rw [taken?, provided]
  split_ifs <;> rfl

end TemplateAtlas.Pattern
