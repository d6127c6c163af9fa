import Mathlib.Tactic.Common
import TemplateAtlas.LineMap

/-!
# Line numbers count line feeds

A line map answers from a table of line starts.  The answer is the number of line feeds in front of the offset,
so that a line number can be computed without the table, and for the parts of a text one after the other.
-/

namespace TemplateAtlas.LineMap

lemma lt_of_mem_laterStarts {text : List Char} {offset start : Nat}
    (h : start ∈ laterStarts offset text) : offset < start := by
  induction text generalizing offset with
  | nil => simp [laterStarts] at h
  | cons c cs ih =>
      rw [laterStarts] at h
      split_ifs at h
      · rcases List.mem_cons.mp h with rfl | h
        · exact Nat.lt_succ_self offset
        · exact Nat.lt_of_succ_lt (ih h)
      · exact Nat.lt_of_succ_lt (ih h)

/-- The line starts up to a place are as many as the line feeds in front of it. -/
lemma takeWhile_laterStarts (text : List Char) (offset length : Nat) :
    ((laterStarts offset text).takeWhile (· ≤ offset + length)).length
      = (text.take length).count '\n' := by
  induction text generalizing offset length with
  | nil => simp [laterStarts]
  | cons c cs ih =>
      cases length with
      | zero =>
          rw [List.take_zero, List.count_nil]
          cases hstarts : laterStarts offset (c :: cs) with
          | nil => rfl
          | cons start starts =>
              have hlt : offset < start := lt_of_mem_laterStarts (hstarts ▸ List.mem_cons_self)
              rw [List.takeWhile_cons_of_neg (by simpa using hlt), List.length_nil]
      | succ length =>
          have hrest := ih (offset + 1) length
          rw [Nat.add_right_comm, Nat.add_assoc] at hrest
          rw [laterStarts, List.take_succ_cons]
          split_ifs with hc
          · rw [List.takeWhile_cons_of_pos (by simp), List.length_cons, hrest, hc,
              List.count_cons_self]
          · rw [hrest, List.count_cons_of_ne hc]

/-- **The line of an offset** is the number of line feeds in front of it. -/
theorem lineOf_eq_count (text : List Char) (offset : Int) :
    (ofText text).lineOf offset = (text.take offset.toNat).count '\n' := by
  have hlength : (ofText text).length = text.length := rfl
  have hclamp : text.take ((ofText text).clamp offset) = text.take offset.toNat := by
    rw [clamp, hlength, ← List.take_eq_take_min]
  have hstarts := takeWhile_laterStarts text 0 ((ofText text).clamp offset)
  rw [Nat.zero_add, hclamp] at hstarts
  rw [lineOf, ← hstarts]
  simp [ofText]

/-- The line that goes on behind the first part of a text. -/
lemma lineOf_append (front behind : List Char) :
    (ofText (front ++ behind)).lineOf front.length = front.count '\n' := by
  rw [lineOf_eq_count, Int.toNat_natCast, List.take_left]

end TemplateAtlas.LineMap
