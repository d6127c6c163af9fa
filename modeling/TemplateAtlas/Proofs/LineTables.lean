import Mathlib.Data.Int.ConditionallyCompleteOrder
import Mathlib.Order.ConditionallyCompleteLattice.Basic
import Mathlib.Tactic.Common
import TemplateAtlas.Proofs.LineNumbers

/-!
# Line numbers by halving

A line map need not be made character by character, nor searched from its first entry on.  The table of line starts can
be filled by looking for one line feed after the other, and as it is increasing, the entry for an offset can be found by
halving.

**The table.**  Looking for the next line feed behind each line start gives the line starts (`startsFrom_eq`), in
increasing order (`starts_increasing`).

**Halving.**  A search that keeps half of its range in each step ends at the number of entries up to a bound, for every
increasing table (`halve_eq`).  An entry that is equal to the bound is counted, so an offset that starts a line belongs
to that line.

Both together give the line number of every offset, also outside the text: `lineByHalving_eq`.
-/

namespace TemplateAtlas.LineMap

/-! ## The table -/

/-- The first line feed at an offset or behind it. -/
def feedFrom? (text : List Char) (offset : Nat) : Option Nat :=
  ((text.drop offset).findIdx? (· = '\n')).map (offset + ·)

lemma feedFrom?_bounds {text : List Char} {offset feed : Nat} (h : feedFrom? text offset = some feed) :
    offset ≤ feed ∧ feed < text.length := by
  obtain ⟨gap, hgap, rfl⟩ := Option.map_eq_some_iff.mp h
  have hlt : gap < (text.drop offset).length := (List.findIdx?_eq_some_iff_getElem.mp hgap).1
  rw [List.length_drop] at hlt
  omega

/-- The line starts behind an offset, each found from the one before. -/
def startsFrom (text : List Char) (offset : Nat) : List Nat :=
  match h : feedFrom? text offset with
  | none => []
  | some feed => (feed + 1) :: startsFrom text (feed + 1)
termination_by text.length - offset
decreasing_by
  have hbounds := feedFrom?_bounds h
  omega

/-- The first line start of a text is behind its first line feed. -/
lemma laterStarts_eq (text : List Char) (offset : Nat) :
    laterStarts offset text =
      match text.findIdx? (· = '\n') with
      | none => []
      | some gap => (offset + gap + 1) :: laterStarts (offset + gap + 1) (text.drop (gap + 1)) := by
  induction text generalizing offset with
  | nil => rfl
  | cons c text ih =>
      rw [laterStarts, List.findIdx?_cons]
      by_cases hc : c = '\n'
      · simp [hc]
      · rw [if_neg hc, ih]
        cases text.findIdx? (· = '\n') with
        | none => simp [hc]
        | some gap => simp [hc, Nat.add_comm, Nat.add_left_comm]

/-- **The table that is filled by looking for line feeds** holds the line starts. -/
theorem startsFrom_eq (text : List Char) (offset : Nat) :
    startsFrom text offset = laterStarts offset (text.drop offset) := by
  rw [startsFrom, laterStarts_eq]
  split
  case h_1 hnone =>
    rw [Option.map_eq_none_iff.mp hnone]
  case h_2 feed hfeed =>
    have hbounds := feedFrom?_bounds hfeed
    obtain ⟨gap, hgap, rfl⟩ := Option.map_eq_some_iff.mp hfeed
    have hbehind := startsFrom_eq text (offset + (gap + 1))
    simp only [hgap, List.drop_drop, Nat.add_assoc, hbehind]
termination_by text.length - offset
decreasing_by omega

/-- The line starts are in increasing order. -/
lemma starts_increasing (text : List Char) : (ofText text).starts.Pairwise (· < ·) := by
  have hlater : ∀ (text : List Char) (offset : Nat), (laterStarts offset text).Pairwise (· < ·) := by
    intro text
    induction text with
    | nil => intro offset; exact List.Pairwise.nil
    | cons c text ih =>
        intro offset
        rw [laterStarts]
        split_ifs
        · exact List.pairwise_cons.mpr ⟨fun _ => lt_of_mem_laterStarts, ih _⟩
        · exact ih _
  exact List.pairwise_cons.mpr ⟨fun _ => lt_of_mem_laterStarts, hlater text 0⟩

/-! ## Halving -/

/-- Narrows a range of places in a table, half by half, down to the first entry that exceeds a bound. -/
def halve (table : List Nat) (bound low high : Nat) : Nat :=
  if low < high then
    let middle := (low + high) / 2
    if bound < table.getD middle 0 then halve table bound low middle
    else halve table bound (middle + 1) high
  else low
termination_by high - low
decreasing_by all_goals omega

/-- In an increasing table the entries up to a bound come first. -/
lemma getD_le_iff {table : List Nat} (h : table.Pairwise (· < ·)) (bound : Nat) {place : Nat}
    (hplace : place < table.length) :
    table.getD place 0 ≤ bound ↔ place < (table.takeWhile (· ≤ bound)).length := by
  induction table generalizing place with
  | nil => simp at hplace
  | cons entry table ih =>
      obtain ⟨hentry, htable⟩ := List.pairwise_cons.mp h
      by_cases hbound : entry ≤ bound
      · rw [List.takeWhile_cons_of_pos (by simpa using hbound), List.length_cons]
        cases place with
        | zero => simpa using hbound
        | succ place =>
            rw [List.length_cons, Nat.succ_lt_succ_iff] at hplace
            rw [Nat.succ_lt_succ_iff, ← ih htable hplace, List.getD_cons_succ]
      · -- all entries behind this one exceed the bound too
        rw [List.takeWhile_cons_of_neg (by simpa using hbound), List.length_nil]
        refine iff_of_false ?_ (Nat.not_lt_zero place)
        cases place with
        | zero => simpa using hbound
        | succ place =>
            rw [List.length_cons, Nat.succ_lt_succ_iff] at hplace
            have hlater := hentry _ (List.getElem_mem hplace)
            rw [List.getD_cons_succ, List.getD_eq_getElem?_getD, List.getElem?_eq_getElem hplace,
              Option.getD_some]
            omega

/-- **Halving finds the number of entries up to a bound**, if it is in the range. -/
theorem halve_eq {table : List Nat} (h : table.Pairwise (· < ·)) (bound low high : Nat)
    (hlow : low ≤ (table.takeWhile (· ≤ bound)).length)
    (hhigh : (table.takeWhile (· ≤ bound)).length ≤ high) (hlength : high ≤ table.length) :
    halve table bound low high = (table.takeWhile (· ≤ bound)).length := by
  rw [halve]
  by_cases hrange : low < high
  · have hmiddle : table.getD ((low + high) / 2) 0 ≤ bound ↔
        (low + high) / 2 < (table.takeWhile (· ≤ bound)).length := getD_le_iff h bound (by omega)
    simp only [if_pos hrange]
    split_ifs with hentry
    · exact halve_eq h bound low _ hlow (by omega) (by omega)
    · exact halve_eq h bound _ high (by omega) hhigh hlength
  · rw [if_neg hrange]
    omega
termination_by high - low
decreasing_by all_goals omega

/-! ## Line numbers -/

/-- The line of an offset, by halving in the table of line starts. -/
def lineByHalving (text : List Char) (offset : Int) : Int :=
  let table := 0 :: startsFrom text 0
  halve table (min (max offset 0) text.length).toNat 0 table.length - 1

lemma clamp_eq (text : List Char) (offset : Int) :
    (ofText text).clamp offset = (min (max offset 0) text.length).toNat := by
  show min offset.toNat text.length = _
  omega

/-- The first line start is at or before every offset, so that there is a line to name. -/
lemma lineByHalving_eq (text : List Char) (offset : Int) :
    lineByHalving text offset = (ofText text).lineOf offset := by
  have hstarts : (ofText text).starts = 0 :: startsFrom text 0 := by
    rw [startsFrom_eq, List.drop_zero, ofText]
  have hhalve := halve_eq (starts_increasing text) ((ofText text).clamp offset) 0 _ (Nat.zero_le _)
    (List.takeWhile_prefix _).length_le (le_refl _)
  have hfirst : 0 < ((ofText text).starts.takeWhile (· ≤ (ofText text).clamp offset)).length := by
    rw [hstarts, List.takeWhile_cons_of_pos (by simp), List.length_cons]
    exact Nat.succ_pos _
  rw [lineByHalving, lineOf, ← hstarts, ← clamp_eq, hhalve]
  omega

/-- **Line numbers.**  The line of an offset that is moved into the bounds of the text is the number of line feeds in
front of it, whether it is looked up by halving or not.  It does not decrease when the offset grows, is never below
zero, and never above the number of line feeds in the text. -/
theorem lineOf_clamped (text : List Char) :
    (∀ offset : Int,
        lineByHalving text offset = (ofText text).lineOf offset ∧
          (ofText text).lineOf offset
            = (text.take (min (max offset 0) text.length).toNat).count '\n' ∧
          0 ≤ lineByHalving text offset ∧ (ofText text).lineOf offset ≤ text.count '\n') ∧
      Monotone (ofText text).lineOf := by
  have hcount : ∀ offset : Int, (ofText text).lineOf offset
      = (text.take (min (max offset 0) text.length).toNat).count '\n' := by
    intro offset
    have hplace : (min (max offset 0) (text.length : Int)).toNat = min offset.toNat text.length := by
      omega
    rw [lineOf_eq_count, hplace, ← List.take_eq_take_min]
  refine ⟨fun offset => ⟨lineByHalving_eq text offset, hcount offset, ?_, ?_⟩, ?_⟩
  · rw [lineByHalving_eq]
    exact Int.natCast_nonneg _
  · rw [hcount]
    exact (List.take_sublist _ _).count_le _
  · intro offset later hle
    rw [lineOf_eq_count, lineOf_eq_count]
    exact (List.take_prefix_take_left (Int.toNat_le_toNat hle)).sublist.count_le _

-- An offset behind a line feed at the end of a text is on a line of its own.
example : (ofText "ab\n".toList).lineOf 2 = 0 ∧ (ofText "ab\n".toList).lineOf 3 = 1 ∧
    (ofText "ab\n".toList).lineOf 9 = 1 ∧ (ofText "ab\n".toList).lineOf (-9) = 0 := by
  decide

end TemplateAtlas.LineMap
