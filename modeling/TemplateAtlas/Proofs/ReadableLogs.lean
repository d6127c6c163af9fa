import Mathlib.Data.List.DropRight
import Mathlib.Data.List.Infix
import Mathlib.Tactic.Common
import TemplateAtlas.Proofs.LogLines

/-!
# Which logs can be read

Anything may be in the file of a log.  Lines that are no entries are passed over, and yet there are lines that
keep the log from being read.

**Limits.**  A reader answers with the end of its text, and refuses a text for its nesting only if more brackets
open in it than there are levels left, and for its digits only if there are too many in a row in it: `Within`.
There is one lemma for each part of the grammar, and `readValue_within` is by induction on the levels.

**Lines.**  What becomes of the lines of a log is said line by line: the first that cannot be dealt with decides,
and if there is none, those that are entries since the moment are kept (`entriesOf_eq`).

**Logs.**  `QueryLog.recent_of_read` says which logs can be read, and what is read from them then.
-/

namespace TemplateAtlas

namespace JsonText

open Text

/-! ## Limits -/

/-- A bracket or a brace that opens. -/
def isOpening (c : Char) : Bool := c = '[' || c = '\x7b'

/-- What a reader with some levels left may answer about a text.  The rest is the end of the text.  Refused are only
texts in which more brackets open than there are levels, or in which there are too many digits in a row. -/
structure Within {α : Type} (depth : Nat) (s : List Char) (answer : Read α) : Prop where
  rest : ∀ value rest, answer = .ok (value, rest) → rest <:+ s
  deep : answer = .error .tooDeep → depth < s.countP isOpening
  long : ∀ count, answer = .error (.tooManyDigits count) →
    maxDigits < count ∧ ∃ run, run <:+: s ∧ run.length = count ∧ ∀ c ∈ run, isAsciiDigit c = true

namespace Within

variable {α β : Type} {depth : Nat} {s t : List Char} {answer : Read α}

lemma malformed : Within depth s (.error .malformed : Read α) where
  rest := nofun
  deep := nofun
  long := nofun

lemma ok {value : α} {rest : List Char} (h : rest <:+ s) : Within depth s (.ok (value, rest)) where
  rest := by
    intro other behind hanswer
    rw [Except.ok.injEq, Prod.mk.injEq] at hanswer
    exact hanswer.2 ▸ h
  deep := nofun
  long := nofun

lemma tooDeep (h : depth < s.countP isOpening) : Within depth s (.error .tooDeep : Read α) where
  rest := nofun
  deep _ := h
  long := nofun

lemma tooManyDigits {run : List Char} (hlong : maxDigits < run.length) (hrun : run <:+: s)
    (hdigits : ∀ c ∈ run, isAsciiDigit c = true) :
    Within depth s (.error (.tooManyDigits run.length) : Read α) where
  rest := nofun
  deep := nofun
  long count hcount := by
    obtain rfl : run.length = count := Fault.tooManyDigits.inj (Except.error.inj hcount)
    exact ⟨hlong, run, hrun, rfl, hdigits⟩

/-- What may be answered about the end of a text may be answered about the text. -/
lemma of_suffix (h : Within depth t answer) (hend : t <:+ s) : Within depth s answer where
  rest value rest hanswer := (h.rest value rest hanswer).trans hend
  deep hanswer := Nat.lt_of_lt_of_le (h.deep hanswer) hend.sublist.countP_le
  long count hanswer := by
    obtain ⟨hcount, run, hrun, hlength⟩ := h.long count hanswer
    exact ⟨hcount, run, hrun.trans hend.isInfix, hlength⟩

/-- A bracket takes up a level. -/
lemma opened {c : Char} (h : Within depth s answer) (hc : isOpening c = true) :
    Within (depth + 1) (c :: s) answer where
  rest value rest hanswer := (h.rest value rest hanswer).trans (List.suffix_cons c s)
  deep hanswer := by
    rw [List.countP_cons_of_pos hc]
    exact Nat.succ_lt_succ (h.deep hanswer)
  long := (h.of_suffix (List.suffix_cons c s)).long

/-- Faults are passed on, whatever is made of a value. -/
lemma error {fault : Fault} (h : Within depth s (.error fault : Read α)) :
    Within depth s (.error fault : Read β) where
  rest := nofun
  deep hanswer := h.deep (by rw [Except.error.inj hanswer])
  long count hanswer := h.long count (by rw [Except.error.inj hanswer])

/-- What is made of a value leaves the rest as it is. -/
lemma map (h : Within depth s answer) (f : α → β) :
    Within depth s (answer.map fun (value, rest) => (f value, rest)) := by
  cases answer with
  | error fault => exact h.error
  | ok read => exact .ok (h.rest read.1 read.2 rfl)

end Within

lemma skipSpace_suffix (s : List Char) : skipSpace s <:+ s := List.dropWhile_suffix _

/-- What follows the blanks behind the first character of a text. -/
lemma suffix_of_skipSpace_eq {c : Char} {s rest : List Char} (h : skipSpace s = c :: rest) : rest <:+ s :=
  (List.suffix_cons c rest).trans (h ▸ skipSpace_suffix s)

lemma splitString?_suffix {s body rest : List Char} (h : splitString? s = some (body, rest)) :
    rest <:+ s := by
  fun_induction splitString? s generalizing body with
  | case1 => simp at h
  | case2 behind =>
      rw [Option.some.injEq, Prod.mk.injEq] at h
      exact h.2 ▸ List.suffix_cons _ _
  | case3 c behind ih =>
      obtain ⟨⟨inner, after⟩, hinner, heq⟩ := Option.map_eq_some_iff.mp h
      rw [Prod.mk.injEq] at heq
      obtain ⟨-, rfl⟩ := heq
      exact ((ih hinner).trans (List.suffix_cons _ _)).trans (List.suffix_cons _ _)
  | case4 c behind _ _ ih =>
      obtain ⟨⟨inner, after⟩, hinner, heq⟩ := Option.map_eq_some_iff.mp h
      rw [Prod.mk.injEq] at heq
      obtain ⟨-, rfl⟩ := heq
      exact (ih hinner).trans (List.suffix_cons _ _)

lemma readString_within (depth : Nat) (s : List Char) : Within depth s (readString s) := by
  rw [readString]
  cases hsplit : splitString? s with
  | none => exact .malformed
  | some parts =>
      simp only
      cases decodeBody? parts.1.length parts.1 with
      | none => exact .malformed
      | some cs => exact .ok (splitString?_suffix hsplit)

lemma readWord_within (depth : Nat) (word : String) (value : Value Codes) (s : List Char) :
    Within depth s (readWord word value s) := by
  rw [readWord]
  split
  · exact .ok (List.drop_suffix _ _)
  · exact .malformed

/-- The digits of a whole number are those in front of what follows it. -/
lemma wholeDigits_spec (s : List Char) :
    (wholeDigits s).1 ++ (wholeDigits s).2 = s ∧ ∀ c ∈ (wholeDigits s).1, isAsciiDigit c = true := by
  rw [wholeDigits.eq_def]
  split
  · exact ⟨rfl, fun c hc => by rw [List.mem_singleton.mp hc]; decide⟩
  · exact ⟨List.takeWhile_append_dropWhile, fun c hc => List.mem_takeWhile_imp hc⟩

lemma fraction_suffix (s : List Char) : (fraction s).2 <:+ s := by
  rw [fraction.eq_def]
  split
  · split_ifs
    · exact List.suffix_refl _
    · exact (List.dropWhile_suffix _).trans (List.suffix_cons _ _)
  · exact List.suffix_refl _

lemma sign_suffix (s : List Char) : (sign s).2 <:+ s := by
  rw [sign.eq_def]
  split
  · exact List.suffix_cons _ _
  · exact List.suffix_cons _ _
  · exact List.suffix_refl _

lemma exponent?_suffix {s rest : List Char} {power : Int} (h : exponent? s = some (power, rest)) :
    rest <:+ s := by
  cases s with
  | nil => simp [exponent?] at h
  | cons c behind =>
      rw [exponent?] at h
      split_ifs at h
      simp only at h
      split_ifs at h
      rw [Option.some.injEq, Prod.mk.injEq] at h
      exact h.2 ▸ ((List.dropWhile_suffix _).trans (sign_suffix behind)).trans (List.suffix_cons _ _)

/-- A whole number is refused only for digits that are in its text. -/
lemma wholeNumber_within (depth : Nat) (negative : Bool) {s whole behind rest : List Char}
    (hparts : whole ++ behind = s) (hdigits : ∀ c ∈ whole, isAsciiDigit c = true) (hrest : rest <:+ s) :
    Within depth s ((wholeNumber negative whole : Except Fault (Value Codes)).map (·, rest)) := by
  rw [wholeNumber]
  split_ifs with hlong
  · exact .tooManyDigits hlong ⟨[], behind, hparts⟩ hdigits
  · exact .ok hrest

lemma readNumber_within (depth : Nat) (s : List Char) :
    Within depth s (readNumber s : Read (Value Codes)) := by
  rw [readNumber.eq_def]
  split
  rename_i negative unsigned hsigned
  have hunsigned : unsigned <:+ s := by
    split at hsigned
    · exact (Prod.mk.inj hsigned).2 ▸ List.suffix_cons _ _
    · exact (Prod.mk.inj hsigned).2 ▸ List.suffix_refl _
  refine Within.of_suffix ?_ hunsigned
  obtain ⟨hparts, hdigits⟩ := wholeDigits_spec unsigned
  have hfraction := (fraction_suffix (wholeDigits unsigned).2).trans ⟨_, hparts⟩
  simp only
  split
  · exact .malformed
  · split
    · rename_i power rest hpower
      exact .ok ((exponent?_suffix hpower).trans hfraction)
    · split
      · exact wholeNumber_within depth negative hparts hdigits hfraction
      · exact .ok hfraction

section Parts

variable {depth : Nat} {item : List Char → Read (Value Codes)}

lemma readItems_within (hitem : ∀ s, Within depth s (item s)) (fuel : Nat) (s : List Char) :
    Within depth s (readItems item fuel s) := by
  induction fuel generalizing s with
  | zero => exact .malformed
  | succ fuel ih =>
      have hfirst := (hitem (skipSpace s)).of_suffix (skipSpace_suffix s)
      rw [readItems]
      cases hread : item (skipSpace s) with
      | error fault => exact (hread ▸ hfirst).error
      | ok read =>
          have hrest := hfirst.rest read.1 read.2 hread
          simp only
          split
          · rename_i behind hbehind
            have hend := (suffix_of_skipSpace_eq hbehind).trans hrest
            have hothers := (ih behind).of_suffix hend
            cases hitems : readItems item fuel behind with
            | error fault => exact (hitems ▸ hothers).error
            | ok items => exact .ok (hothers.rest items.1 items.2 hitems)
          · rename_i behind hbehind
            exact .ok ((suffix_of_skipSpace_eq hbehind).trans hrest)
          · exact .malformed

lemma readName_within (depth : Nat) (s : List Char) : Within depth s (readName s) := by
  rw [readName]
  split
  · rename_i behind hbehind
    have hname := (readString_within depth behind).of_suffix (suffix_of_skipSpace_eq hbehind)
    cases hread : readString behind with
    | error fault => exact (hread ▸ hname).error
    | ok read =>
        simp only
        split
        · rename_i after hafter
          exact .ok ((skipSpace_suffix after).trans
            ((suffix_of_skipSpace_eq hafter).trans (hname.rest read.1 read.2 hread)))
        · exact .malformed
  · exact .malformed

lemma readFields_within (hitem : ∀ s, Within depth s (item s)) (fuel : Nat) (s : List Char) :
    Within depth s (readFields item fuel s) := by
  induction fuel generalizing s with
  | zero => exact .malformed
  | succ fuel ih =>
      have hname := readName_within depth s
      rw [readFields]
      cases hreadName : readName s with
      | error fault => exact (hreadName ▸ hname).error
      | ok name =>
          have hfirst := (hitem name.2).of_suffix (hname.rest name.1 name.2 hreadName)
          simp only
          cases hread : item name.2 with
          | error fault => exact (hread ▸ hfirst).error
          | ok read =>
              have hrest := hfirst.rest read.1 read.2 hread
              simp only
              split
              · rename_i behind hbehind
                have hothers := (ih behind).of_suffix ((suffix_of_skipSpace_eq hbehind).trans hrest)
                cases hfields : readFields item fuel behind with
                | error fault => exact (hfields ▸ hothers).error
                | ok fields => exact .ok (hothers.rest fields.1 fields.2 hfields)
              · rename_i behind hbehind
                exact .ok ((suffix_of_skipSpace_eq hbehind).trans hrest)
              · exact .malformed

end Parts

/-- **A value is refused for its nesting or its digits only if its text has that many brackets or digits.** -/
theorem readValue_within (size depth : Nat) (s : List Char) : Within depth s (readValue size depth s) := by
  induction depth generalizing s with
  | zero =>
      rw [readValue.eq_def]
      split
      · exact .tooDeep (List.countP_pos_iff.mpr ⟨_, List.mem_cons_self, rfl⟩)
      · exact .tooDeep (List.countP_pos_iff.mpr ⟨_, List.mem_cons_self, rfl⟩)
      · exact ((readString_within 0 _).map _).of_suffix (List.suffix_cons _ _)
      all_goals first | exact readWord_within _ _ _ _ | exact readNumber_within _ _
  | succ depth ih =>
      rw [readValue.eq_def]
      split
      · rename_i behind
        simp only
        split
        · rename_i rest hrest
          exact .ok ((suffix_of_skipSpace_eq hrest).trans (List.suffix_cons _ _))
        · exact ((readItems_within ih size behind).map _).opened (by decide)
      · rename_i behind
        simp only
        split
        · rename_i rest hrest
          exact .ok ((suffix_of_skipSpace_eq hrest).trans (List.suffix_cons _ _))
        · exact ((readFields_within ih size behind).map fun fields => Value.table (lastFields fields)).opened
            (by decide)
      · exact ((readString_within _ _).map _).of_suffix (List.suffix_cons _ _)
      all_goals first | exact readWord_within _ _ _ _ | exact readNumber_within _ _

/-- A text as a whole is refused for the same reasons. -/
lemma parse_refusal {levels : Nat} {s : List Char} {fault : Fault} (h : parse levels s = .error fault) :
    fault = .malformed ∨ (fault = .tooDeep ∧ levels < s.countP isOpening) ∨
      ∃ run, fault = .tooManyDigits run.length ∧ maxDigits < run.length ∧ run <:+: s ∧
        ∀ c ∈ run, isAsciiDigit c = true := by
  have hwithin := (readValue_within s.length levels (skipSpace s)).of_suffix (skipSpace_suffix s)
  rw [parse] at h
  cases hread : readValue s.length levels (skipSpace s) with
  | error other =>
      simp only [hread, Except.error.injEq] at h
      cases other with
      | malformed => exact Or.inl h.symm
      | tooDeep => exact Or.inr (Or.inl ⟨h.symm, hwithin.deep hread⟩)
      | tooManyDigits count =>
          obtain ⟨hcount, run, hrun, hlength, hdigits⟩ := hwithin.long count hread
          exact Or.inr (Or.inr ⟨run, by rw [hlength, h], hlength ▸ hcount, hrun, hdigits⟩)
  | ok read =>
      simp only [hread] at h
      split_ifs at h
      exact Or.inl (Except.error.inj h).symm

/-- A text with few brackets and no long numbers: no more brackets open in it than there is room for levels, and no more
digits follow each other than a whole number may have. -/
structure Moderate (levels : Nat) (s : List Char) : Prop where
  shallow : s.countP isOpening ≤ levels
  short : ∀ run, run <:+: s → (∀ c ∈ run, isAsciiDigit c = true) → run.length ≤ maxDigits

/-- A part of a moderate text is moderate. -/
lemma Moderate.of_part {levels : Nat} {s t : List Char} (h : Moderate levels s) (ht : t <:+: s) :
    Moderate levels t where
  shallow := ht.sublist.countP_le.trans h.shallow
  short run hrun := h.short run (hrun.trans ht)

/-- **A moderate text is read, or is malformed.** -/
theorem Moderate.refusal {levels : Nat} {s : List Char} {fault : Fault} (h : Moderate levels s)
    (hparse : parse levels s = .error fault) : fault = .malformed := by
  rcases parse_refusal hparse with hfault | ⟨-, hdeep⟩ | ⟨run, -, hlong, hrun, hdigits⟩
  · exact hfault
  · exact absurd h.shallow (Nat.not_le.mpr hdeep)
  · exact absurd (h.short run hrun hdigits) (Nat.not_le.mpr hlong)

end JsonText

open JsonText Text

/-! ## Lines -/

namespace LogEntry

lemma strip_part (line : List Char) : strip line <:+: line :=
  (stripEnd_front (stripStart line)).isInfix.trans (List.dropWhile_suffix _).isInfix

/-- A line with few brackets and no long numbers is an entry or is not, and nothing else. -/
lemma ofLine_of_moderate {levels : Nat} {line : List Char} (h : Moderate levels line) :
    ∃ entry?, LogEntry.ofLine levels line = .ok entry? := by
  rw [LogEntry.ofLine]
  split
  · exact ⟨none, rfl⟩
  · cases hparse : parse levels (strip line) with
    | ok value => exact ⟨_, rfl⟩
    | error fault =>
        obtain rfl := (h.of_part (strip_part line)).refusal hparse
        exact ⟨none, rfl⟩

/-- The fault that a line is for the reader of a log that asks for the entries since a moment. -/
def lineFault? (levels : Nat) (since? : Option Codes) (line : List Char) : Option LogFault :=
  match LogEntry.ofLine levels line with
  | .error fault => some fault
  | .ok none => none
  | .ok (some entry) =>
    match entry.isSince since? with
    | .error fault => some fault
    | .ok _ => none

/-- The entry that is kept of a line: that which it is, if it is one since the moment. -/
def kept? (levels : Nat) (since? : Option Codes) (line : List Char) : Option LogEntry :=
  match LogEntry.ofLine levels line with
  | .ok (some entry) =>
    match entry.isSince since? with
    | .ok true => some entry
    | _ => none
  | _ => none

/-- Reading goes on behind a line.  It is no text that is nested too deep or holds too long a number, and if it is an
entry and there is a moment to compare it with, it has a text for its timestamp. -/
structure Readable (levels : Nat) (since? : Option Codes) (line : List Char) : Prop where
  read : ∃ entry?, LogEntry.ofLine levels line = .ok entry?
  comparable : ∀ entry, LogEntry.ofLine levels line = .ok (some entry) → since? ≠ none →
    ∃ moment, entry.timestamp = .text moment

/-- An entry is compared with a moment by the text that it has for its timestamp. -/
lemma isSince_isOk_iff (since? : Option Codes) (entry : LogEntry) :
    (∃ since, entry.isSince since? = .ok since) ↔
      (since? ≠ none → ∃ moment, entry.timestamp = .text moment) := by
  cases since? with
  | none => exact ⟨fun _ hnone => absurd rfl hnone, fun _ => ⟨true, rfl⟩⟩
  | some since => cases htime : entry.timestamp <;> simp [LogEntry.isSince, htime]

lemma lineFault?_eq_none_iff (levels : Nat) (since? : Option Codes) (line : List Char) :
    lineFault? levels since? line = none ↔ Readable levels since? line := by
  rw [lineFault?]
  cases hline : LogEntry.ofLine levels line with
  | error fault => exact ⟨nofun, fun h => by simpa [hline] using h.read⟩
  | ok entry? =>
      cases entry? with
      | none => exact ⟨fun _ => ⟨⟨none, hline⟩, by simp [hline]⟩, fun _ => rfl⟩
      | some entry =>
          have hsince := isSince_isOk_iff since? entry
          simp only
          cases hmoment : entry.isSince since? with
          | error fault =>
              rw [hmoment] at hsince
              refine ⟨nofun, fun h => ?_⟩
              obtain ⟨_, hok⟩ := hsince.mpr (h.comparable entry hline)
              exact absurd hok nofun
          | ok since =>
              refine ⟨fun _ => ⟨⟨_, hline⟩, fun other hother => ?_⟩, fun _ => rfl⟩
              obtain rfl : entry = other := by simpa [hline] using hother
              exact hsince.mp ⟨since, hmoment⟩

variable {levels : Nat} {since? : Option Codes} {line : List Char}

/-- Reading goes on behind a line that is no entry, and nothing is kept of it. -/
lemma readable_of_none (h : LogEntry.ofLine levels line = .ok none) :
    Readable levels since? line ∧ kept? levels since? line = none := by
  rw [← lineFault?_eq_none_iff, lineFault?, kept?, h]
  exact ⟨rfl, rfl⟩

/-- Reading goes on behind an entry that can be compared with the moment. -/
lemma readable_of_isSince {entry : LogEntry} {since : Bool} (h : LogEntry.ofLine levels line = .ok (some entry))
    (hsince : entry.isSince since? = .ok since) :
    Readable levels since? line ∧ kept? levels since? line = if since then some entry else none := by
  rw [← lineFault?_eq_none_iff, lineFault?, kept?, h]
  cases since <;> simp [hsince]

end LogEntry

/-- **The first line that cannot be dealt with decides.**  If there is none, the entries since the moment are kept,
and all other lines are passed over. -/
theorem entriesOf_eq (levels : Nat) (since? : Option Codes) (lines : List (List Char)) :
    entriesOf levels since? lines =
      match lines.findSome? (LogEntry.lineFault? levels since?) with
      | some fault => .error fault
      | none => .ok (lines.filterMap (LogEntry.kept? levels since?)) := by
  induction lines with
  | nil => rfl
  | cons line lines ih =>
      rw [entriesOf, List.findSome?_cons, List.filterMap_cons, LogEntry.lineFault?, LogEntry.kept?]
      cases LogEntry.ofLine levels line with
      | error fault => rfl
      | ok entry? =>
          cases entry? with
          | none => exact ih
          | some entry =>
              simp only
              cases entry.isSince since? with
              | error fault => rfl
              | ok since =>
                  cases since with
                  | false => exact ih
                  | true =>
                      simp only [ih]
                      cases lines.findSome? (LogEntry.lineFault? levels since?) <;> rfl

/-! ## Logs -/

namespace QueryLog

/-- A file that can be read is there. -/
lemma recent_of_bytes {levels : Nat} {log : QueryLog} {disk : Disk} {bytes : List UInt8}
    (hread : disk.read log.path.text = .ok bytes) (since? : Option Codes) {limit : Int}
    (hpos : 1 ≤ limit) (hlimit : limit ≤ maxLimit) :
    recent levels log since? limit disk = newest levels bytes since? limit.toNat := by
  have hexists : disk.pathExists log.path.text = .ok true := by
    rw [Disk.read] at hread
    rw [Disk.pathExists]
    cases hnode : disk.nodeAt log.path.text with
    | error fault => simp [hnode] at hread
    | ok node => rfl
  rw [recent, if_neg (by omega), hexists]
  simp only [if_neg (Int.not_lt.mpr hlimit), hread]

/-- What is read from a log is decided by its lines, one after the other. -/
lemma recent_of_lines {levels : Nat} {log : QueryLog} {disk : Disk} {bytes : List UInt8} {text : List Char}
    (hread : disk.read log.path.text = .ok bytes) (htext : Utf8.decode? bytes = some text)
    (since? : Option Codes) {limit : Int} (hpos : 1 ≤ limit) (hlimit : limit < 0x8000000000000000) :
    recent levels log since? limit disk =
      match (terminatedLines (unifyNewlines text)).findSome? (LogEntry.lineFault? levels since?) with
      | some fault => .error fault
      | none => .ok (((terminatedLines (unifyNewlines text)).filterMap
          (LogEntry.kept? levels since?)).rtake limit.toNat) := by
  rw [recent_of_bytes hread since? hpos (Int.le_sub_one_of_lt hlimit), newest, htext]
  simp only [entriesOf_eq]
  cases (terminatedLines (unifyNewlines text)).findSome? (LogEntry.lineFault? levels since?) <;> rfl

/-- **Which logs can be read, and what is read from them.**  Let the file of a log be well-formed UTF-8, let there be
room for any number of levels of nesting, and let any number of entries be asked for, perhaps since a moment.  They are
given if and only if none is asked for, or reading goes on behind every line.  Then they are the newest of the entries
since the moment, no more than were asked for, and all other lines are passed over.  A line with no more brackets than
there is room for levels and no long numbers is always read: behind it, reading goes on unless it is an entry that
cannot be compared with the moment. -/
theorem recent_of_read {levels : Nat} {log : QueryLog} {disk : Disk} {bytes : List UInt8} {text : List Char}
    (hread : disk.read log.path.text = .ok bytes) (htext : Utf8.decode? bytes = some text)
    (since? : Option Codes) {limit : Int} (hlimit : limit < 0x8000000000000000) :
    let lines := terminatedLines (unifyNewlines text)
    ((∃ entries, recent levels log since? limit disk = .ok entries) ↔
        (1 ≤ limit → ∀ line ∈ lines, LogEntry.Readable levels since? line)) ∧
      (∀ entries, recent levels log since? limit disk = .ok entries →
        (entries.length : Int) ≤ max limit 0 ∧
          entries = (lines.filterMap (LogEntry.kept? levels since?)).rtake limit.toNat) ∧
      ∀ line, Moderate levels line → ∃ entry?, LogEntry.ofLine levels line = .ok entry? := by
  intro lines
  refine ⟨?_, ?_, fun line hline => LogEntry.ofLine_of_moderate hline⟩
  · by_cases hpos : 1 ≤ limit
    · have hnone : lines.findSome? (LogEntry.lineFault? levels since?) = none ↔
          ∀ line ∈ lines, LogEntry.Readable levels since? line := by
        simp only [List.findSome?_eq_none_iff, LogEntry.lineFault?_eq_none_iff]
      rw [recent_of_lines hread htext since? hpos hlimit, forall_prop_of_true hpos, ← hnone]
      cases hfault : lines.findSome? (LogEntry.lineFault? levels since?) with
      | none => simp
      | some fault => simp
    · rw [recent, if_pos (by omega)]
      exact ⟨fun _ h => absurd h hpos, fun _ => ⟨[], rfl⟩⟩
  · intro entries hentries
    by_cases hpos : 1 ≤ limit
    · rw [recent_of_lines hread htext since? hpos hlimit] at hentries
      cases hfault : lines.findSome? (LogEntry.lineFault? levels since?) with
      | some fault => simp [lines, hfault] at hentries
      | none =>
          obtain rfl : (lines.filterMap (LogEntry.kept? levels since?)).rtake limit.toNat = entries := by
            simpa [lines, hfault] using hentries
          refine ⟨?_, rfl⟩
          rw [List.rtake, List.length_drop]
          omega
    · rw [recent, if_pos (by omega), Except.ok.injEq] at hentries
      rw [← hentries, Int.toNat_of_nonpos (by omega), List.rtake_zero]
      exact ⟨Int.le_max_right limit 0, rfl⟩

/-- An entry with a number in each field but that of its timestamp. -/
def numbered (timestamp : Value Codes) : LogEntry :=
  ⟨timestamp, .int 5, .int 5, .int 5, .int 5, .int 5, .int 5, .int 5, .int 5⟩

/-- The texts of its fields, with the given one for its timestamp. -/
def numberedFields (timestamp : List Char) : List (String × List Char) :=
  [("timestamp", timestamp), ("query_id", ['5']), ("operation", ['5']), ("name", ['5']),
    ("candidate_count", ['5']), ("match_count", ['5']), ("cache_hits", ['5']), ("rebuilt", ['5']),
    ("failures", ['5'])]

/-- Its line. -/
def numberedLine (timestamp : List Char) : List Char :=
  '\x7b' :: separated ((sortedFields (numberedFields timestamp)).map renderField) ++ ['\x7d']

lemma spells_five (levels : Nat) : Spells levels ['5'] (.int 5) := spells_int levels (n := 5) (by decide)

/-- It is read back. -/
lemma ofLine_numbered {levels : Nat} {text : List Char} {timestamp : Value Codes}
    (h : Spells levels text timestamp) :
    ('\n' ∉ numberedLine text ∧ '\r' ∉ numberedLine text) ∧
      LogEntry.ofLine (levels + 1) (numberedLine text) = .ok (some (numbered timestamp)) := by
  have hfive := spells_five levels
  have hfields : List.Forall₂ (SpellsField levels) (numberedFields text) (numbered timestamp).table :=
    .cons ⟨rfl, h⟩ <| .cons ⟨rfl, hfive⟩ <| .cons ⟨rfl, hfive⟩ <| .cons ⟨rfl, hfive⟩ <|
    .cons ⟨rfl, hfive⟩ <| .cons ⟨rfl, hfive⟩ <| .cons ⟨rfl, hfive⟩ <| .cons ⟨rfl, hfive⟩ <|
    .cons ⟨rfl, hfive⟩ .nil
  obtain ⟨fields, hperm, hsorted⟩ := forall₂_sortedFields hfields
  have hspells := spells_table hsorted ((hperm.map (·.1)).nodup_iff.mpr (LogEntry.nodup_table _))
  exact ⟨unbroken_of_spells hspells, LogEntry.ofLine_of_spells (strip_braces _) hspells hperm⟩

/-- A text of one escaped unit. -/
def unitText (unit : Nat) : List Char := '"' :: escapeUnit unit ++ ['"']

/-- Two lines that are no entries, and two that are, although most of their fields hold what no event has there.  The
timestamp of the first is half a pair of surrogates, and that of the second a character. -/
def oddLines : List (List Char) :=
  ["no entry".toList, "[5, \x7b".toList, numberedLine (unitText 0xD800), numberedLine (unitText 0xFFFF)]

/-- With room for two levels the lines are read.  Half a pair of surrogates comes before the moment, although the
character that is often put in its place comes after it. -/
theorem recent_of_read_odd :
    (holding (fileText oddLines)).1.recent 2 (some (codes "\uE000")) 5 (holding (fileText oddLines)).2
      = .ok [numbered (.text ⟨[0xFFFF]⟩)] := by
  obtain ⟨hhalfLine, hhalf⟩ := ofLine_numbered (spells_unit 1 (show 0xD800 < 0x10000 by decide))
  obtain ⟨hwholeLine, hwhole⟩ := ofLine_numbered (spells_unit 1 (show 0xFFFF < 0x10000 by decide))
  rw [← unitText] at hhalfLine hhalf hwholeLine hwhole
  rw [oddLines]
  -- from here on it does not matter how the two entries are spelled
  generalize numberedLine (unitText 0xD800) = half at hhalfLine hhalf ⊢
  generalize numberedLine (unitText 0xFFFF) = whole at hwholeLine hwhole ⊢
  have hlines : terminatedLines (unifyNewlines (fileText ["no entry".toList, "[5, \x7b".toList, half, whole]))
      = ["no entry".toList, "[5, \x7b".toList, half, whole] :=
    lines_fileText (List.forall_mem_cons.mpr ⟨by decide, List.forall_mem_cons.mpr ⟨by decide,
      List.forall_mem_cons.mpr ⟨hhalfLine, List.forall_mem_singleton.mpr hwholeLine⟩⟩⟩)
  have hbefore : (numbered (.text ⟨[0xD800]⟩)).isSince (some (codes "\uE000")) = .ok false := rfl
  have hbehind : (numbered (.text ⟨[0xFFFF]⟩)).isSince (some (codes "\uE000")) = .ok true := rfl
  obtain ⟨hreadFirst, hfirst⟩ := LogEntry.readable_of_none
    (show LogEntry.ofLine 2 "no entry".toList = .ok none from rfl)
  obtain ⟨hreadSecond, hsecond⟩ := LogEntry.readable_of_none
    (show LogEntry.ofLine 2 "[5, \x7b".toList = .ok none from rfl)
  obtain ⟨hreadHalf, hnone⟩ := LogEntry.readable_of_isSince hhalf hbefore
  obtain ⟨hreadWhole, hsome⟩ := LogEntry.readable_of_isSince hwhole hbehind
  obtain ⟨hok, hentries, -⟩ := recent_of_read (holding_file _).1 (Utf8.decode?_encode _)
    (some (codes "\uE000")) (show 5 < 0x8000000000000000 by decide)
  rw [hlines] at hok hentries
  obtain ⟨entries, hrecent⟩ := hok.mpr fun _ => List.forall_mem_cons.mpr ⟨hreadFirst,
    List.forall_mem_cons.mpr ⟨hreadSecond, List.forall_mem_cons.mpr ⟨hreadHalf,
      List.forall_mem_singleton.mpr hreadWhole⟩⟩⟩
  rw [hrecent, (hentries entries hrecent).2, List.filterMap_cons_none hfirst, List.filterMap_cons_none hsecond,
    List.filterMap_cons_none hnone, List.filterMap_cons_some hsome]
  rfl

/-- The file of a log with one line: the nine fields of an entry, all of them numbers. -/
def numberedText : List Char := fileText [numberedLine ['5']]

/-- **A number for a timestamp.**  A line with the nine fields of an entry keeps a well-formed log from being read
since a moment, with room for a hundred levels. -/
theorem recent_incomparable :
    (∃ bytes text, (holding numberedText).2.read (holding numberedText).1.path.text = .ok bytes ∧
        Utf8.decode? bytes = some text) ∧
      (holding numberedText).1.recent 100 (some (codes "2024")) 50 (holding numberedText).2
        = .error .incomparable := by
  obtain ⟨hunbroken, hodd⟩ := ofLine_numbered (spells_five 99)
  have hlines : terminatedLines (unifyNewlines numberedText) = [numberedLine ['5']] :=
    lines_fileText (List.forall_mem_singleton.mpr hunbroken)
  have hread := (holding_file numberedText).1
  refine ⟨⟨_, _, hread, Utf8.decode?_encode _⟩, ?_⟩
  rw [recent_of_lines hread (Utf8.decode?_encode _) _ (by decide) (by decide), hlines]
  simp only [List.findSome?_cons, LogEntry.lineFault?, hodd]
  rfl

end QueryLog

end TemplateAtlas
