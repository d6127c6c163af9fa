import Mathlib.Data.List.Forall2
import Mathlib.Data.List.Perm.Basic
import Mathlib.Data.String.Basic
import Mathlib.Tactic.Common
import TemplateAtlas.JsonText

/-!
# Values survive being written

A value that is written as a line is read back from that line.

**Strings.**  A character is written in one of four ways: as itself, by a short escape, by one unit, or by a pair
of surrogates (`escapeChar_cases`).  In each of them it is read back, whatever follows, and none of them holds a
quote that would end the string (`readString_renderString`).

**Numbers.**  The digits of a whole number are read back up to the comma or bracket that follows
(`readNumber_renderInt`).  Numbers with too many digits are not, and neither are they written.

**Pieces.**  The items of a list and the fields of a table are read in the same way, one by one up to the bracket
behind the last: `ReadsPiece`, `read_separated`.

**Spellings.**  `Spells depth text value` says that a text is read as a value wherever values may stand, and that
it holds no control characters.  There is one lemma for each way in which a text is put together: `spells_text`,
`spells_int`, `spells_list` and `spells_table`.  A whole text is read by `Spells.parse`.
-/

namespace TemplateAtlas

namespace Text

/-- No two strings have the same code points. -/
lemma codes_injective : Function.Injective codes := by
  intro a b h
  have hchars : a.toList = b.toList :=
    (List.map_injective_iff.mpr fun _ _ hcode => Char.toNat_inj.mp hcode) (Codes.mk.inj h)
  exact String.toList_injective hchars

/-- Strings are ordered as their code points are. -/
lemma codes_le_codes_iff (a b : String) : codes a ≤ codes b ↔ a ≤ b := by
  have hmono : ∀ {a b : String}, a < b → List.lt (codes a).points (codes b).points := fun h =>
    List.map_lt (fun _ _ hlt => hlt) (String.lt_iff_toList_lt.mp h)
  have hle : codes a ≤ codes b ↔ ¬ List.lt (codes b).points (codes a).points := Iff.rfl
  rw [hle]
  constructor
  · exact fun hnot => le_of_not_gt fun hlt => hnot (hmono hlt)
  · intro h hlt
    rcases h.lt_or_eq with hless | rfl
    · exact List.lt_asymm hlt (hmono hless)
    · exact List.lt_irrefl _ hlt

end Text

namespace JsonText

open Text

/-! ## Hexadecimal digits -/

lemma hexDigit?_digitChar : ∀ n < 16, hexDigit? (Nat.digitChar n) = some n := by decide

lemma digitChar_plain :
    ∀ n < 16, Nat.digitChar n ≠ '"' ∧ Nat.digitChar n ≠ '\\' ∧ 0x20 ≤ (Nat.digitChar n).toNat := by
  decide

/-- Four digits are enough for a unit. -/
lemma hexDigits_four {unit : Nat} (h : unit < 0x10000) :
    hexDigits 4 unit
      = [Nat.digitChar (unit / 0x1000), Nat.digitChar (unit / 0x100 % 16),
          Nat.digitChar (unit / 0x10 % 16), Nat.digitChar (unit % 16)] := by
  rw [hexDigits]
  by_cases hone : unit < 16
  · rw [Nat.toDigits_of_lt_base hone]
    simp [Nat.div_eq_of_lt, hone, Nat.mod_eq_of_lt hone, show unit < 0x100 by omega,
      show unit < 0x1000 by omega, List.replicate]
  rw [Nat.toDigits_of_base_le (by omega) (by omega)]
  by_cases htwo : unit < 0x100
  · rw [Nat.toDigits_of_lt_base (by omega)]
    simp [Nat.div_eq_of_lt, htwo, show unit < 0x1000 by omega, List.replicate,
      Nat.mod_eq_of_lt (show unit / 16 < 16 by omega)]
  rw [Nat.toDigits_of_base_le (by omega) (by omega), Nat.div_div_eq_div_mul]
  by_cases hthree : unit < 0x1000
  · rw [Nat.toDigits_of_lt_base (by omega)]
    simp [Nat.div_eq_of_lt hthree, Nat.mod_eq_of_lt (show unit / 256 < 16 by omega)]
  rw [Nat.toDigits_of_base_le (by omega) (by omega), Nat.div_div_eq_div_mul,
    Nat.toDigits_of_lt_base (by omega)]
  rfl

lemma escapeUnit_eq {unit : Nat} (h : unit < 0x10000) :
    escapeUnit unit
      = ['\\', 'u', Nat.digitChar (unit / 0x1000), Nat.digitChar (unit / 0x100 % 16),
          Nat.digitChar (unit / 0x10 % 16), Nat.digitChar (unit % 16)] := by
  rw [escapeUnit, hexDigits_four h]

lemma escapedUnit?_escapeUnit {unit : Nat} (h : unit < 0x10000) (rest : List Char) :
    escapedUnit? (escapeUnit unit ++ rest) = some (unit, rest) := by
  rw [escapeUnit_eq h]
  simp only [List.cons_append, List.nil_append, escapedUnit?, unit?]
  rw [hexDigit?_digitChar _ (by omega), hexDigit?_digitChar _ (by omega),
    hexDigit?_digitChar _ (by omega), hexDigit?_digitChar _ (by omega)]
  simp only [Option.map_some, Option.some.injEq, Prod.mk.injEq, and_true]
  omega

/-! ## Characters -/

/-- A character is no surrogate. -/
lemma toNat_scalar (c : Char) : c.toNat < 0xD800 ∨ 0xDFFF < c.toNat ∧ c.toNat < 0x110000 := c.valid

lemma isHighSurrogate_iff {unit : Nat} :
    isHighSurrogate unit = true ↔ 0xD800 ≤ unit ∧ unit < 0xDC00 := by
  rw [isHighSurrogate, Bool.and_eq_true, decide_eq_true_eq, decide_eq_true_eq]

lemma isLowSurrogate_iff {unit : Nat} :
    isLowSurrogate unit = true ↔ 0xDC00 ≤ unit ∧ unit < 0xE000 := by
  rw [isLowSurrogate, Bool.and_eq_true, decide_eq_true_eq, decide_eq_true_eq]

/-- The ways in which a character is written: by a short escape, as itself, by one unit, or by two. -/
lemma escapeChar_cases (c : Char) :
    (∃ short, escapeChar c = ['\\', short] ∧ short ≠ 'u' ∧ 0x20 ≤ short.toNat ∧
        shortEscape? short = some c) ∨
      (escapeChar c = [c] ∧ c ≠ '"' ∧ c ≠ '\\' ∧ 0x20 ≤ c.toNat) ∨
      (escapeChar c = escapeUnit c.toNat ∧ c.toNat < 0x10000 ∧
        isHighSurrogate c.toNat = false ∧ isLowSurrogate c.toNat = false) ∨
      ∃ high low, escapeChar c = escapeUnit high ++ escapeUnit low ∧ isHighSurrogate high = true ∧
        isLowSurrogate low = true ∧ codeOfPair high low = c.toNat := by
  by_cases h1 : c = '"'
  · exact Or.inl ⟨'"', by rw [h1]; rfl, by decide, by decide, by rw [h1]; rfl⟩
  by_cases h2 : c = '\\'
  · exact Or.inl ⟨'\\', by rw [h2]; rfl, by decide, by decide, by rw [h2]; rfl⟩
  by_cases h3 : c = '\n'
  · exact Or.inl ⟨'n', by rw [h3]; rfl, by decide, by decide, by rw [h3]; rfl⟩
  by_cases h4 : c = '\r'
  · exact Or.inl ⟨'r', by rw [h4]; rfl, by decide, by decide, by rw [h4]; rfl⟩
  by_cases h5 : c = '\t'
  · exact Or.inl ⟨'t', by rw [h5]; rfl, by decide, by decide, by rw [h5]; rfl⟩
  by_cases h6 : c = '\x08'
  · exact Or.inl ⟨'b', by rw [h6]; rfl, by decide, by decide, by rw [h6]; rfl⟩
  by_cases h7 : c = '\x0c'
  · exact Or.inl ⟨'f', by rw [h7]; rfl, by decide, by decide, by rw [h7]; rfl⟩
  refine Or.inr ?_
  rw [escapeChar, if_neg h1, if_neg h2, if_neg h3, if_neg h4, if_neg h5, if_neg h6, if_neg h7]
  by_cases hplain : (decide (0x20 ≤ c.toNat) && decide (c.toNat < 0x7F)) = true
  · rw [if_pos hplain]
    rw [Bool.and_eq_true, decide_eq_true_eq] at hplain
    exact Or.inl ⟨rfl, h1, h2, hplain.1⟩
  refine Or.inr ?_
  rw [if_neg hplain]
  have hscalar := toNat_scalar c
  by_cases hunit : c.toNat < 0x10000
  · rw [if_pos hunit]
    refine Or.inl ⟨rfl, hunit, ?_, ?_⟩
    · rw [← Bool.not_eq_true, isHighSurrogate_iff]
      omega
    · rw [← Bool.not_eq_true, isLowSurrogate_iff]
      omega
  · rw [if_neg hunit]
    refine Or.inr ⟨_, _, rfl, ?_, ?_, ?_⟩
    · rw [isHighSurrogate_iff]
      omega
    · rw [isLowSurrogate_iff]
      omega
    · have hsum : 0x10000 + (0xD800 + (c.toNat - 0x10000) / 0x400 - 0xD800) * 0x400
          + (0xDC00 + (c.toNat - 0x10000) % 0x400 - 0xDC00) = c.toNat := by omega
      exact hsum

lemma control_not_mem_escapeUnit {unit : Nat} (hbound : unit < 0x10000) {d : Char} (h : d ∈ escapeUnit unit) :
    0x20 ≤ d.toNat := by
  rw [escapeUnit_eq hbound] at h
  simp only [List.mem_cons, List.not_mem_nil, or_false] at h
  rcases h with rfl | rfl | rfl | rfl | rfl | rfl
  · decide
  · decide
  all_goals exact (digitChar_plain _ (by omega)).2.2

/-- Nothing that a character is written as is a control character. -/
lemma control_not_mem_escapeChar {c d : Char} (h : d ∈ escapeChar c) : 0x20 ≤ d.toNat := by
  rcases escapeChar_cases c with ⟨short, hc, -, hshort, -⟩ | ⟨hc, -, -, hplain⟩ | ⟨hc, hbound, -, -⟩ |
    ⟨high, low, hc, hhigh, hlow, -⟩
  · rw [hc, List.mem_cons, List.mem_singleton] at h
    rcases h with rfl | rfl
    · decide
    · exact hshort
  · rw [hc, List.mem_singleton] at h
    exact h ▸ hplain
  · exact control_not_mem_escapeUnit hbound (hc ▸ h)
  · rw [hc, List.mem_append] at h
    rw [isHighSurrogate_iff] at hhigh
    rw [isLowSurrogate_iff] at hlow
    rcases h with h | h
    · exact control_not_mem_escapeUnit (by omega) h
    · exact control_not_mem_escapeUnit (by omega) h

lemma escapeChar_ne_nil (c : Char) : escapeChar c ≠ [] := by
  rcases escapeChar_cases c with ⟨_, hc, -⟩ | ⟨hc, -⟩ | ⟨hc, -⟩ | ⟨_, _, hc, -⟩ <;> simp [hc, escapeUnit]

/-- The code point of a character that was written is read back, whatever follows. -/
lemma readCode?_escapeChar (c : Char) (rest : List Char) :
    readCode? (escapeChar c ++ rest) = some (c.toNat, rest) := by
  rcases escapeChar_cases c with ⟨short, hc, hu, -, hshort⟩ | ⟨hc, -, hslash, hplain⟩ |
    ⟨hc, hbound, hhigh, hlow⟩ | ⟨high, low, hc, hhigh, hlow, hpair⟩
  · rw [hc, List.cons_append, List.cons_append, List.nil_append, readCode?]
    · rw [hshort, Option.map_some]
    · simp [hu]
  · rw [hc, List.cons_append, List.nil_append, readCode?]
    · rw [if_neg (by simp [hslash]; omega)]
    · simp [hslash]
    · simp [hslash]
  · have hread := escapedUnit?_escapeUnit hbound rest
    rw [hc]
    rw [escapeUnit] at hread ⊢
    simp only [List.cons_append, readCode?] at hread ⊢
    rw [hread]
    simp [hhigh]
  · have hbounds := isHighSurrogate_iff.mp hhigh
    have hlowBounds := isLowSurrogate_iff.mp hlow
    have hread := escapedUnit?_escapeUnit (show high < 0x10000 by omega) (escapeUnit low ++ rest)
    have hnext := escapedUnit?_escapeUnit (show low < 0x10000 by omega) rest
    rw [hc, List.append_assoc]
    generalize escapeUnit low ++ rest = behind at hread hnext ⊢
    rw [escapeUnit] at hread ⊢
    simp only [List.cons_append, readCode?] at hread ⊢
    rw [hread]
    simp only [hhigh, if_true, hnext, hlow, hpair]

/-- A unit at the end of a string stands for itself, whatever it is half of. -/
lemma readCode?_escapeUnit {unit : Nat} (hbound : unit < 0x10000) :
    readCode? (escapeUnit unit) = some (unit, []) := by
  have hread := escapedUnit?_escapeUnit hbound []
  rw [List.append_nil] at hread
  rw [escapeUnit] at hread ⊢
  simp only [readCode?]
  rw [hread]
  simp [escapedUnit?]

lemma splitString?_escapeUnit {unit : Nat} (hbound : unit < 0x10000) (rest : List Char) :
    splitString? (escapeUnit unit ++ rest)
      = (splitString? rest).map fun (body, rest) => (escapeUnit unit ++ body, rest) := by
  have hdigit : ∀ n < 16, ∀ others, splitString? (Nat.digitChar n :: others)
      = (splitString? others).map fun (body, rest) => (Nat.digitChar n :: body, rest) := by
    intro n hn others
    obtain ⟨hquote, hslash, -⟩ := digitChar_plain n hn
    rw [splitString?]
    · simp [hquote]
    · simp [hslash]
  rw [escapeUnit_eq hbound]
  simp only [List.cons_append, List.nil_append]
  rw [splitString?, hdigit _ (by omega), hdigit _ (by omega), hdigit _ (by omega), hdigit _ (by omega)]
  cases splitString? rest <;> rfl

/-- No quote of a character that is written ends a string. -/
lemma splitString?_escapeChar (c : Char) (rest : List Char) :
    splitString? (escapeChar c ++ rest)
      = (splitString? rest).map fun (body, rest) => (escapeChar c ++ body, rest) := by
  rcases escapeChar_cases c with ⟨short, hc, -⟩ | ⟨hc, hquote, hslash, -⟩ | ⟨hc, hbound, -⟩ |
    ⟨high, low, hc, hhigh, hlow, -⟩
  · rw [hc]
    rfl
  · rw [hc, List.cons_append, List.nil_append, splitString?]
    · rfl
    · simp [hquote]
    · simp [hslash]
  · rw [hc]
    exact splitString?_escapeUnit hbound rest
  · rw [isHighSurrogate_iff] at hhigh
    rw [isLowSurrogate_iff] at hlow
    rw [hc, List.append_assoc, splitString?_escapeUnit (by omega), splitString?_escapeUnit (by omega)]
    cases splitString? rest <;> simp

/-! ## Strings -/

lemma splitString?_body (cs rest : List Char) :
    splitString? (cs.flatMap escapeChar ++ '"' :: rest) = some (cs.flatMap escapeChar, rest) := by
  induction cs with
  | nil => rfl
  | cons c cs ih =>
      rw [List.flatMap_cons, List.append_assoc, splitString?_escapeChar, ih, Option.map_some]

lemma decodeBody?_body {fuel : Nat} {cs : List Char} (hfuel : cs.length ≤ fuel) :
    decodeBody? fuel (cs.flatMap escapeChar) = some (cs.map Char.toNat) := by
  induction cs generalizing fuel with
  | nil => rw [List.flatMap_nil, decodeBody?, List.map_nil]
  | cons c cs ih =>
      obtain ⟨less, rfl⟩ := Nat.exists_eq_add_of_le' (Nat.lt_of_lt_of_le (Nat.succ_pos _) hfuel)
      have hless : cs.length ≤ less := by simpa using hfuel
      rw [List.flatMap_cons, decodeBody?]
      · rw [readCode?_escapeChar]
        simp only [Option.bind_eq_bind, Option.bind_some, ih hless]
        rfl
      · simp [escapeChar_ne_nil]

lemma length_le_flatMap_escapeChar (cs : List Char) : cs.length ≤ (cs.flatMap escapeChar).length := by
  induction cs with
  | nil => exact Nat.le_refl _
  | cons c cs ih =>
      have hpos := List.length_pos_iff.mpr (escapeChar_ne_nil c)
      rw [List.flatMap_cons, List.length_append, List.length_cons]
      omega

/-- **Strings are read back**, whatever follows. -/
theorem readString_renderString (s : String) (rest : List Char) :
    readString (s.toList.flatMap escapeChar ++ '"' :: rest) = .ok (codes s, rest) := by
  rw [readString, splitString?_body]
  simp only [decodeBody?_body (length_le_flatMap_escapeChar s.toList)]
  rfl

/-! ## Whole numbers -/

/-- What may follow a value: nothing, or a comma or bracket. -/
def Ends (rest : List Char) : Prop := ∀ c ∈ rest.head?, c = ',' ∨ c = ']' ∨ c = '\x7d'

lemma isAsciiDigit_of_mem_toDigits {c : Char} {n : Nat} (h : c ∈ Nat.toDigits 10 n) :
    isAsciiDigit c = true := by
  have hdigit := Nat.isDigit_of_mem_toDigits (by decide) (by decide) h
  rw [Char.isDigit, Bool.and_eq_true, decide_eq_true_eq, decide_eq_true_eq] at hdigit
  rw [isAsciiDigit, Bool.and_eq_true, decide_eq_true_eq, decide_eq_true_eq]
  exact hdigit

lemma ofDigits_toDigits (n : Nat) : ofDigits (Nat.toDigits 10 n) = n := by
  have h := Nat.ofDigitChars_ten_toDigits (n := n)
  rw [Nat.ofDigitChars] at h
  rw [ofDigits]
  simpa only [Nat.mul_comm] using h

/-- The first digit of a number, whatever follows. -/
lemma head?_toDigits_append (n : Nat) (rest : List Char) :
    (Nat.toDigits 10 n ++ rest).head? = (Nat.toDigits 10 n).head? := by
  cases h : Nat.toDigits 10 n with
  | nil => exact absurd h Nat.toDigits_ne_nil
  | cons c others => rfl

/-- Only zero is written with a zero in front. -/
lemma head_toDigits {n : Nat} (hpos : 0 < n) : (Nat.toDigits 10 n).head? ≠ some '0' := by
  induction n using Nat.strongRecOn with
  | _ n ih =>
      by_cases hn : n < 10
      · rw [Nat.toDigits_of_lt_base hn]
        have hall : ∀ n < 10, 0 < n → [Nat.digitChar n].head? ≠ some '0' := by decide
        exact hall n hn hpos
      · rw [Nat.toDigits_of_base_le (by decide) (by omega), head?_toDigits_append]
        exact ih (n / 10) (by omega) (by omega)

lemma digits_append {front rest : List Char} (hfront : ∀ c ∈ front, isAsciiDigit c = true)
    (hrest : ∀ c ∈ rest.head?, isAsciiDigit c = false) : digits (front ++ rest) = (front, rest) := by
  have htake : rest.takeWhile isAsciiDigit = [] := by
    cases rest with
    | nil => rfl
    | cons c rest => simp [hrest c (by simp)]
  have hdrop : rest.dropWhile isAsciiDigit = rest := by
    cases rest with
    | nil => rfl
    | cons c rest => simp [hrest c (by simp)]
  rw [digits, List.takeWhile_append_of_pos hfront, List.dropWhile_append_of_pos hfront, htake, hdrop,
    List.append_nil]

/-- The digits of a whole number as they are written: some, and none in front of which a zero stands. -/
structure IsWhole (ds : List Char) : Prop where
  nonempty : ds ≠ []
  digits : ∀ c ∈ ds, isAsciiDigit c = true
  zero : ds.head? = some '0' → ds = ['0']

lemma isWhole_toDigits (n : Nat) : IsWhole (Nat.toDigits 10 n) where
  nonempty := Nat.toDigits_ne_nil
  digits _ := isAsciiDigit_of_mem_toDigits
  zero h := by
    rcases Nat.eq_zero_or_pos n with rfl | hpos
    · rfl
    · exact absurd h (head_toDigits hpos)

/-- What may follow the digits of a whole number: no further digit, no fraction and no power of ten. -/
structure EndsNumber (rest : List Char) : Prop where
  digits : ∀ c ∈ rest.head?, isAsciiDigit c = false
  fraction : fraction rest = ([], rest)
  exponent : exponent? rest = none

/-- A text that goes on with none of the characters that a number goes on with. -/
lemma endsNumber_of_head {rest : List Char}
    (h : ∀ c ∈ rest.head?, isAsciiDigit c = false ∧ c ≠ '.' ∧ c ≠ 'e' ∧ c ≠ 'E') : EndsNumber rest := by
  cases rest with
  | nil => exact ⟨fun c hc => absurd hc (by simp), rfl, rfl⟩
  | cons c rest =>
      obtain ⟨hdigit, hpoint, hlower, hupper⟩ := h c rfl
      refine ⟨fun d hd => by cases hd; exact hdigit, ?_, by simp [exponent?, hlower, hupper]⟩
      rw [JsonText.fraction]
      simp [hpoint]

lemma Ends.endsNumber {rest : List Char} (h : Ends rest) : EndsNumber rest :=
  endsNumber_of_head fun c hc => by rcases h c hc with rfl | rfl | rfl <;> decide

lemma IsWhole.wholeDigits {ds rest : List Char} (h : IsWhole ds)
    (hrest : ∀ c ∈ rest.head?, isAsciiDigit c = false) : wholeDigits (ds ++ rest) = (ds, rest) := by
  by_cases hzero : ds.head? = some '0'
  · rw [h.zero hzero]
    rfl
  · rw [JsonText.wholeDigits]
    · exact digits_append h.digits hrest
    · intro others hothers
      obtain ⟨c, ds, rfl⟩ := List.exists_cons_of_ne_nil h.nonempty
      exact hzero (by rw [List.head?_cons, (List.cons.inj hothers).1])

/-- Digits are read as a whole number, and so are digits behind a minus. -/
lemma IsWhole.readNumber {ds rest : List Char} (h : IsWhole ds) (hlength : ds.length ≤ maxDigits)
    (hrest : EndsNumber rest) :
    readNumber (ds ++ rest) = .ok ((.int (signed false (ofDigits ds)) : Value Codes), rest) ∧
      readNumber ('-' :: ds ++ rest) = .ok ((.int (signed true (ofDigits ds)) : Value Codes), rest) := by
  have hnonempty : ds.isEmpty = false := List.isEmpty_eq_false_iff.mpr h.nonempty
  have hsign : ∀ others, ds ++ rest ≠ '-' :: others := by
    obtain ⟨c, ds, rfl⟩ := List.exists_cons_of_ne_nil h.nonempty
    intro others hothers
    have hdigit := h.digits c List.mem_cons_self
    rw [(List.cons.inj hothers).1] at hdigit
    exact absurd hdigit (by decide)
  have hwhole : ∀ negative,
      wholeNumber negative ds = .ok (.int (signed negative (ofDigits ds)) : Value Codes) := by
    intro negative
    rw [wholeNumber, if_neg (Nat.not_lt.mpr hlength)]
  constructor
  · rw [readNumber.eq_def]
    split
    rename_i negative others hsigned
    split at hsigned
    · rename_i behind hbehind
      exact absurd hbehind (hsign behind)
    · obtain ⟨rfl, rfl⟩ := Prod.mk.inj hsigned
      simp only [h.wholeDigits hrest.digits, hnonempty, hrest.fraction, hrest.exponent, List.isEmpty_nil,
        if_true, if_false, Bool.false_eq_true, hwhole]
      rfl
  · rw [readNumber.eq_def, List.cons_append]
    simp only [h.wholeDigits hrest.digits, hnonempty, hrest.fraction, hrest.exponent, List.isEmpty_nil,
      if_true, if_false, Bool.false_eq_true, hwhole]
    rfl

/-- **Whole numbers are read back**, if they have not too many digits. -/
theorem readNumber_renderInt {n : Int} (hdigits : (Nat.toDigits 10 n.natAbs).length ≤ maxDigits)
    {rest : List Char} (hrest : Ends rest) :
    readNumber (renderInt n ++ rest) = .ok ((.int n : Value Codes), rest) := by
  cases n with
  | ofNat m =>
      have hread := ((isWhole_toDigits m).readNumber hdigits hrest.endsNumber).1
      rw [renderInt, hread, ofDigits_toDigits]
      rfl
  | negSucc m =>
      have hread := ((isWhole_toDigits (m + 1)).readNumber hdigits hrest.endsNumber).2
      rw [renderInt, hread, ofDigits_toDigits]
      rfl

/-! ## Spellings -/

/-- A text that is read as a value wherever values may stand, at most the given number of levels deep.  It does not
start with a blank or a closing bracket, and holds no control characters. -/
structure Spells (depth : Nat) (text : List Char) (value : Value Codes) : Prop where
  head : ∃ c rest, text = c :: rest ∧ isSpace c = false ∧ c ≠ ']'
  plain : ∀ c ∈ text, 0x20 ≤ c.toNat
  read : ∀ size rest, text.length ≤ size → Ends rest →
    readValue size depth (text ++ rest) = .ok (value, rest)

/-- Strings spell texts. -/
theorem spells_text (depth : Nat) (s : String) : Spells depth (renderString s) (.text (codes s)) where
  head := ⟨'"', _, rfl, by decide, by decide⟩
  plain := by
    intro c hc
    rw [renderString, List.mem_append, List.mem_cons, List.mem_singleton, List.mem_flatMap] at hc
    rcases hc with (rfl | ⟨d, -, hd⟩) | rfl
    · decide
    · exact control_not_mem_escapeChar hd
    · decide
  read := by
    intro size rest _ _
    rw [renderString, List.cons_append, List.cons_append, List.append_assoc, readValue]
    · rw [List.singleton_append, readString_renderString]
      rfl

/-- One escaped unit spells the text of its code point, also if it is half a pair of surrogates. -/
theorem spells_unit (depth : Nat) {unit : Nat} (hbound : unit < 0x10000) :
    Spells depth ('"' :: escapeUnit unit ++ ['"']) (.text ⟨[unit]⟩) where
  head := ⟨'"', _, rfl, by decide, by decide⟩
  plain := by
    intro c hc
    rw [List.mem_append, List.mem_cons, List.mem_singleton] at hc
    rcases hc with (rfl | hc) | rfl
    · decide
    · exact control_not_mem_escapeUnit hbound hc
    · decide
  read := by
    intro size rest _ _
    have hbody : decodeBody? (escapeUnit unit).length (escapeUnit unit) = some [unit] := by
      obtain ⟨others, hothers⟩ : ∃ others, escapeUnit unit = '\\' :: others := ⟨_, rfl⟩
      have hread := readCode?_escapeUnit hbound
      rw [hothers] at hread ⊢
      rw [List.length_cons, decodeBody?, hread]
      · simp [decodeBody?]
      · exact List.cons_ne_nil _ _
    have hsplit : splitString? ('"' :: rest) = some ([], rest) := rfl
    rw [List.cons_append, List.cons_append, List.append_assoc, List.singleton_append, readValue,
      readString, splitString?_escapeUnit hbound, hsplit, Option.map_some]
    simp only [List.append_nil, hbody]
    rfl

/-- Digits, and a minus before them, are read as a number. -/
lemma readValue_number (size depth : Nat) {c : Char} (hc : isAsciiDigit c = true) (s : List Char) :
    readValue size depth (c :: s) = readNumber (c :: s) ∧
      readValue size depth ('-' :: c :: s) = readNumber ('-' :: c :: s) := by
  have hne : ∀ d, isAsciiDigit d = false → c ≠ d := by
    rintro d hd rfl
    exact absurd hc (Bool.eq_false_iff.mp hd)
  constructor
  · rw [readValue.eq_def]
    split
    all_goals first | rfl | (rename_i h; exact absurd (List.cons.inj h).1 (hne _ (by decide)))
  · rw [readValue.eq_def]
    split
    all_goals first
      | rfl
      | (rename_i h
         simp only [List.cons.injEq, Char.reduceEq, false_and, true_and] at h
         try exact absurd h.1 (hne _ (by decide)))

/-- Whole numbers spell themselves. -/
theorem spells_int (depth : Nat) {n : Int}
    (hdigits : (Nat.toDigits 10 n.natAbs).length ≤ maxDigits) :
    Spells depth (renderInt n) (.int n) := by
  have hdigit : ∀ {c : Char} {m : Nat}, c ∈ Nat.toDigits 10 m →
      isSpace c = false ∧ c ≠ ']' ∧ 0x20 ≤ c.toNat := by
    intro c m hmem
    have hc := isAsciiDigit_of_mem_toDigits hmem
    rw [isAsciiDigit, Bool.and_eq_true, decide_eq_true_eq, decide_eq_true_eq] at hc
    have hbound : 48 ≤ c.toNat := hc.1
    have hne : ∀ d : Char, d.toNat < 48 → c ≠ d := fun d hd hcd => by rw [hcd] at hbound; omega
    refine ⟨?_, ?_, by omega⟩
    · simp [isSpace, hne ' ' (by decide), hne '\t' (by decide), hne '\n' (by decide),
        hne '\r' (by decide)]
    · rintro rfl
      exact absurd hc.2 (by decide)
  cases n with
  | ofNat m =>
      cases htext : Nat.toDigits 10 m with
      | nil => exact absurd htext Nat.toDigits_ne_nil
      | cons c others =>
          have hmem : c ∈ Nat.toDigits 10 m := by rw [htext]; exact List.mem_cons_self
          refine ⟨⟨c, others, htext, (hdigit hmem).1, (hdigit hmem).2.1⟩,
            fun d hd => (hdigit hd).2.2, fun size rest _ hrest => ?_⟩
          have hread := readNumber_renderInt hdigits hrest
          rw [renderInt, htext, List.cons_append] at hread ⊢
          rw [(readValue_number size depth (isAsciiDigit_of_mem_toDigits hmem) _).1, hread]
  | negSucc m =>
      cases htext : Nat.toDigits 10 (m + 1) with
      | nil => exact absurd htext Nat.toDigits_ne_nil
      | cons c others =>
          have hmem : c ∈ Nat.toDigits 10 (m + 1) := by rw [htext]; exact List.mem_cons_self
          refine ⟨⟨'-', _, rfl, by decide, by decide⟩, fun d hd => ?_, fun size rest _ hrest => ?_⟩
          · rw [renderInt, List.mem_cons] at hd
            rcases hd with rfl | hd
            · decide
            · exact (hdigit hd).2.2
          · have hread := readNumber_renderInt hdigits hrest
            rw [renderInt, htext, List.cons_append, List.cons_append] at hread ⊢
            rw [(readValue_number size depth (isAsciiDigit_of_mem_toDigits hmem) _).2, hread]

/-! ## Pieces between brackets -/

lemma separated_cons_cons (first second : List Char) (pieces : List (List Char)) :
    separated (first :: second :: pieces)
      = first ++ ',' :: ' ' :: separated (second :: pieces) := by
  simp [separated]

lemma separated_singleton (piece : List Char) : separated [piece] = piece := by
  simp [separated]

lemma skipSpace_blank (s : List Char) : skipSpace (' ' :: s) = skipSpace s := rfl

/-- A text that spells a value starts with no blanks. -/
lemma Spells.skipSpace {depth : Nat} {text : List Char} {value : Value Codes} (h : Spells depth text value)
    (rest : List Char) : skipSpace (text ++ rest) = text ++ rest := by
  obtain ⟨c, others, rfl, hc, -⟩ := h.head
  rw [JsonText.skipSpace, List.cons_append, List.dropWhile_cons_of_neg (by simp [hc])]

/-- There are at most as many pieces as characters, and no piece is longer than all of them together. -/
lemma length_separated (pieces : List (List Char)) :
    pieces.length ≤ (separated pieces).length + 1 ∧
      ∀ piece ∈ pieces, piece.length ≤ (separated pieces).length := by
  induction pieces with
  | nil => exact ⟨Nat.zero_le _, fun _ h => absurd h List.not_mem_nil⟩
  | cons piece pieces ih =>
      cases pieces with
      | nil =>
          rw [separated_singleton]
          refine ⟨by simp, fun other hmem => ?_⟩
          exact Nat.le_of_eq (congrArg List.length (List.mem_singleton.mp hmem))
      | cons second pieces =>
          obtain ⟨hcount, hpieces⟩ := ih
          rw [separated_cons_cons]
          simp only [List.length_append, List.length_cons] at hcount hpieces ⊢
          refine ⟨by omega, fun other hmem => ?_⟩
          rcases List.mem_cons.mp hmem with rfl | hmem
          · omega
          · have := hpieces other hmem
            omega

/-- A reader of pieces with commas between them, each with blanks in front of it. -/
structure ReadsPieces {α : Type} (read : Nat → List Char → Read (List α)) : Prop where
  none : ∀ s, read 0 s = .error .malformed
  blank : ∀ fuel s, read fuel (' ' :: s) = read fuel s

/-- What a reader of pieces makes of one of them. -/
structure ReadsPiece {α : Type} (read : Nat → List Char → Read (List α)) (close : Char) (size : Nat)
    (text : List Char) (piece : α) : Prop where
  /-- With a comma behind it, the others are read next. -/
  next : text.length ≤ size → ∀ fuel behind, read (fuel + 1) (text ++ ',' :: behind)
    = (read fuel behind).map fun (pieces, rest) => (piece :: pieces, rest)
  /-- With a bracket behind it, it is the last. -/
  last : text.length ≤ size → ∀ fuel rest, read (fuel + 1) (text ++ close :: rest) = .ok ([piece], rest)

/-- Pieces that are read one by one are read together. -/
lemma read_separated {α : Type} {read : Nat → List Char → Read (List α)} {close : Char} {size : Nat}
    (hread : ReadsPieces read) {texts : List (List Char)} {pieces : List α}
    (h : List.Forall₂ (ReadsPiece read close size) texts pieces) (hne : texts ≠ []) {fuel : Nat}
    (hfuel : texts.length ≤ fuel) (hsize : ∀ text ∈ texts, text.length ≤ size) (rest : List Char) :
    read fuel (separated texts ++ close :: rest) = .ok (pieces, rest) := by
  induction h generalizing fuel with
  | nil => exact absurd rfl hne
  | @cons text piece texts pieces hpiece hothers ih =>
      obtain ⟨less, rfl⟩ := Nat.exists_eq_add_of_le' (Nat.lt_of_lt_of_le (Nat.succ_pos _) hfuel)
      have htext := hsize text List.mem_cons_self
      cases hothers with
      | nil => rw [separated_singleton, hpiece.last htext]
      | @cons second next texts pieces hsecond hothers =>
          have hbehind := ih (List.cons_ne_nil _ _) (Nat.le_of_succ_le_succ hfuel)
            fun other hmem => hsize other (List.mem_cons_of_mem _ hmem)
          rw [separated_cons_cons, List.append_assoc, List.cons_append, List.cons_append,
            hpiece.next htext, hread.blank, hbehind]
          rfl

lemma mem_separated {c : Char} {pieces : List (List Char)} (h : c ∈ separated pieces) :
    c = ',' ∨ c = ' ' ∨ ∃ piece ∈ pieces, c ∈ piece := by
  induction pieces with
  | nil => exact absurd h List.not_mem_nil
  | cons piece pieces ih =>
      cases pieces with
      | nil =>
          rw [separated_singleton] at h
          exact Or.inr (Or.inr ⟨piece, List.mem_cons_self, h⟩)
      | cons second pieces =>
          rw [separated_cons_cons, List.mem_append, List.mem_cons, List.mem_cons] at h
          rcases h with h | rfl | rfl | h
          · exact Or.inr (Or.inr ⟨piece, List.mem_cons_self, h⟩)
          · exact Or.inl rfl
          · exact Or.inr (Or.inl rfl)
          · rcases ih h with rfl | rfl | ⟨other, hmem, hc⟩
            · exact Or.inl rfl
            · exact Or.inr (Or.inl rfl)
            · exact Or.inr (Or.inr ⟨other, List.mem_cons_of_mem _ hmem, hc⟩)

/-- Nothing but what the pieces hold, commas and blanks. -/
lemma plain_separated {pieces : List (List Char)} (h : ∀ piece ∈ pieces, ∀ c ∈ piece, 0x20 ≤ c.toNat) :
    ∀ c ∈ separated pieces, 0x20 ≤ c.toNat := by
  intro c hc
  rcases mem_separated hc with rfl | rfl | ⟨piece, hmem, hc⟩
  · decide
  · decide
  · exact h piece hmem c hc

/-- The pieces start as the first of them does. -/
lemma head_separated {c : Char} {others : List Char} (pieces : List (List Char)) :
    ∃ behind, separated ((c :: others) :: pieces) = c :: behind := by
  cases pieces with
  | nil => exact ⟨others, separated_singleton _⟩
  | cons second pieces => exact ⟨_, separated_cons_cons _ _ _⟩

/-! ## Lists -/

lemma readItems_pieces (item : List Char → Read (Value Codes)) : ReadsPieces (readItems item) where
  none _ := rfl
  blank fuel s := by
    cases fuel with
    | zero => rfl
    | succ fuel => rw [readItems, readItems, skipSpace_blank]

/-- The items of a list are read one by one. -/
lemma Spells.readsItem {size depth : Nat} {text : List Char} {value : Value Codes} (h : Spells depth text value) :
    ReadsPiece (readItems (readValue size depth)) ']' size text value where
  next hsize fuel behind := by
    rw [readItems, h.skipSpace, h.read size _ hsize (by simp [Ends])]
    simp only [JsonText.skipSpace]
    rw [List.dropWhile_cons_of_neg (by decide)]
    simp only
    cases readItems (readValue size depth) fuel behind <;> rfl
  last hsize fuel rest := by
    rw [readItems, h.skipSpace, h.read size _ hsize (by simp [Ends])]
    rfl

/-- Spellings between brackets, separated by commas, spell a list. -/
theorem spells_list {depth : Nat} {texts : List (List Char)} {values : List (Value Codes)}
    (h : List.Forall₂ (Spells depth) texts values) :
    Spells (depth + 1) ('[' :: separated texts ++ [']']) (.list values) where
  head := ⟨'[', _, rfl, by decide, by decide⟩
  plain := by
    have hplain := ((List.forall₂_and_left _ _).mp (h.imp fun _ _ hspells => ⟨hspells.plain, hspells⟩)).1
    intro c hc
    rw [List.mem_append, List.mem_cons, List.mem_singleton] at hc
    rcases hc with (rfl | hc) | rfl
    · decide
    · exact plain_separated hplain c hc
    · decide
  read := by
    intro size rest hsize _
    obtain ⟨hcount, hpieces⟩ := length_separated texts
    simp only [List.length_append, List.length_cons, List.length_nil] at hsize
    rw [List.cons_append, List.cons_append, List.append_assoc, List.singleton_append, readValue]
    cases h with
    | nil => rfl
    | @cons text value texts values hspells hothers =>
        have hitems : readItems (readValue size depth) size
            (separated (text :: texts) ++ ']' :: rest) = .ok (value :: values, rest) :=
          read_separated (readItems_pieces _)
            (.cons hspells.readsItem (hothers.imp fun _ _ hother => hother.readsItem))
            (List.cons_ne_nil _ _) (by omega)
            (fun piece hmem => by have := hpieces piece hmem; omega) rest
        obtain ⟨c, others, rfl, hspace, hbracket⟩ := hspells.head
        obtain ⟨behind, hseparated⟩ := head_separated texts
        rw [hseparated, List.cons_append] at hitems ⊢
        rw [JsonText.skipSpace, List.dropWhile_cons_of_neg (by simp [hspace])]
        simp only
        split
        · rename_i hclose
          exact absurd (List.cons.inj hclose).1 hbracket
        · rw [hitems]
          rfl

/-! ## Tables -/

lemma setField_of_not_mem {name : Codes} {value : Value Codes} :
    ∀ {table : List (Codes × Value Codes)}, name ∉ table.map (·.1) →
      Value.setField name value table = table ++ [(name, value)]
  | [], _ => rfl
  | (other, old) :: table, h => by
      rw [List.map_cons, List.mem_cons, not_or] at h
      rw [Value.setField, if_neg (Ne.symm h.1), setField_of_not_mem h.2, List.cons_append]

/-- Where no name occurs twice, all fields count. -/
lemma lastFields_of_nodup {fields : List (Codes × Value Codes)} (h : (fields.map (·.1)).Nodup) :
    lastFields fields = fields := by
  have hfold : ∀ (fields table : List (Codes × Value Codes)), ((table ++ fields).map (·.1)).Nodup →
      fields.foldl (fun table field => Value.setField field.1 field.2 table) table
        = table ++ fields := by
    intro fields
    induction fields with
    | nil => exact fun table _ => (List.append_nil table).symm
    | cons field fields ih =>
        obtain ⟨name, value⟩ := field
        intro table hnodup
        have hnew : name ∉ table.map (·.1) := by
          rw [List.map_append, List.map_cons, List.nodup_append] at hnodup
          exact fun hmem => hnodup.2.2 _ hmem _ List.mem_cons_self rfl
        rw [List.foldl_cons]
        simp only [setField_of_not_mem hnew]
        rw [ih, List.append_assoc, List.singleton_append]
        rwa [List.append_assoc, List.singleton_append]
  exact hfold fields [] h

/-- The text of a field spells its name and its value. -/
def SpellsField (depth : Nat) (text : String × List Char) (field : Codes × Value Codes) : Prop :=
  codes text.1 = field.1 ∧ Spells depth text.2 field.2

/-- A name and the colon behind it are read back, with the blanks that follow. -/
lemma readName_renderString (name : String) (rest : List Char) :
    readName (renderString name ++ ':' :: rest) = .ok (codes name, skipSpace rest) := by
  rw [renderString, readName]
  simp only [List.cons_append, List.append_assoc, List.nil_append, JsonText.skipSpace]
  rw [List.dropWhile_cons_of_neg (by decide)]
  simp only [readString_renderString]
  rw [List.dropWhile_cons_of_neg (by decide)]
  rfl

lemma readName_renderField (field : String × List Char) (rest : List Char) :
    readName (renderField field ++ rest) = .ok (codes field.1, skipSpace (field.2 ++ rest)) := by
  rw [renderField, List.append_assoc, List.cons_append, readName_renderString, List.cons_append,
    skipSpace_blank]

lemma readName_blank (s : List Char) : readName (' ' :: s) = readName s := by
  rw [readName, readName, skipSpace_blank]

lemma readFields_pieces (item : List Char → Read (Value Codes)) : ReadsPieces (readFields item) where
  none _ := rfl
  blank fuel s := by
    cases fuel with
    | zero => rfl
    | succ fuel => rw [readFields, readFields, readName_blank]

/-- No value is longer than its field. -/
lemma length_le_renderField (field : String × List Char) : field.2.length ≤ (renderField field).length := by
  rw [renderField, List.length_append, List.length_cons, List.length_cons]
  omega

/-- The fields of a table are read one by one. -/
lemma SpellsField.readsField {size depth : Nat} {text : String × List Char} {field : Codes × Value Codes}
    (h : SpellsField depth text field) :
    ReadsPiece (readFields (readValue size depth)) '\x7d' size (renderField text) field := by
  obtain ⟨name, value⟩ := field
  obtain ⟨rfl, hvalue⟩ := h
  constructor
  · intro hsize fuel behind
    rw [readFields, readName_renderField]
    simp only [hvalue.skipSpace]
    rw [hvalue.read size _ (Nat.le_trans (length_le_renderField text) hsize) (by simp [Ends])]
    simp only [JsonText.skipSpace]
    rw [List.dropWhile_cons_of_neg (by decide)]
    simp only
    cases readFields (readValue size depth) fuel behind <;> rfl
  · intro hsize fuel rest
    rw [readFields, readName_renderField]
    simp only [hvalue.skipSpace]
    rw [hvalue.read size _ (Nat.le_trans (length_le_renderField text) hsize) (by simp [Ends])]
    rfl

/-- Fields between braces, separated by commas, spell a table if no name occurs twice. -/
theorem spells_table {depth : Nat} {texts : List (String × List Char)}
    {fields : List (Codes × Value Codes)} (h : List.Forall₂ (SpellsField depth) texts fields)
    (hnodup : (fields.map (·.1)).Nodup) :
    Spells (depth + 1) ('\x7b' :: separated (texts.map renderField) ++ ['\x7d']) (.table fields) where
  head := ⟨'\x7b', _, rfl, by decide, by decide⟩
  plain := by
    have hplain := ((List.forall₂_and_left _ _).mp
      (h.imp fun _ _ hfield => ⟨hfield.2.plain, hfield⟩)).1
    intro c hc
    rw [List.mem_append, List.mem_cons, List.mem_singleton] at hc
    rcases hc with (rfl | hc) | rfl
    · decide
    · refine plain_separated (fun piece hpiece d hd => ?_) c hc
      obtain ⟨text, hmem, rfl⟩ := List.mem_map.mp hpiece
      rw [renderField, List.mem_append, List.mem_cons, List.mem_cons] at hd
      rcases hd with hd | rfl | rfl | hd
      · exact (spells_text depth text.1).plain d hd
      · decide
      · decide
      · exact hplain text hmem d hd
    · decide
  read := by
    intro size rest hsize _
    obtain ⟨hcount, hpieces⟩ := length_separated (texts.map renderField)
    simp only [List.length_append, List.length_cons, List.length_nil] at hsize
    rw [List.cons_append, List.cons_append, List.append_assoc, List.singleton_append, readValue]
    cases h with
    | nil => rfl
    | @cons text field texts fields hfield hothers =>
        have hfields : readFields (readValue size depth) size
            (separated ((text :: texts).map renderField) ++ '\x7d' :: rest)
              = .ok (field :: fields, rest) :=
          read_separated (readFields_pieces _)
            (.cons hfield.readsField
              (List.forall₂_map_left_iff.mpr (hothers.imp fun _ _ hother => hother.readsField)))
            (List.cons_ne_nil _ _) (by rw [← List.map_cons]; omega)
            (fun piece hmem => by have := hpieces piece hmem; omega) rest
        obtain ⟨behind, hseparated⟩ : ∃ behind,
            separated ((text :: texts).map renderField) = '"' :: behind := by
          rw [List.map_cons, renderField, renderString]
          exact head_separated _
        rw [hseparated, List.cons_append] at hfields ⊢
        rw [JsonText.skipSpace, List.dropWhile_cons_of_neg (by decide)]
        simp only
        rw [hfields]
        simp only [Except.map, lastFields_of_nodup hnodup]
        rfl

/-! ## Whole texts -/

lemma insertField_perm (field : String × List Char) (fields : List (String × List Char)) :
    (insertField field fields).Perm (field :: fields) := by
  induction fields with
  | nil => exact .refl _
  | cons other fields ih =>
      rw [insertField]
      split_ifs
      · exact .refl _
      · exact (ih.cons other).trans (.swap field other fields)

lemma sortedFields_perm (fields : List (String × List Char)) : (sortedFields fields).Perm fields := by
  induction fields with
  | nil => exact .refl _
  | cons field fields ih => exact (insertField_perm field _).trans (ih.cons field)

/-- The fields of a table are sorted by name when they are written: what is known of them one by one is known of the
sorted ones, in another order. -/
lemma forall₂_sortedFields {Spelled : String × List Char → Codes × Value Codes → Prop}
    {texts : List (String × List Char)} {read : List (Codes × Value Codes)}
    (h : List.Forall₂ Spelled texts read) :
    ∃ fields, fields.Perm read ∧ List.Forall₂ Spelled (sortedFields texts) fields := by
  obtain ⟨fields, hsorted, hperm⟩ := List.perm_comp_forall₂ (sortedFields_perm texts) h
  exact ⟨fields, hperm, hsorted⟩

lemma forall₂_renderFields {Spelled : String × List Char → Codes × Value Codes → Prop}
    {written : List (String × Value)} {read : List (Codes × Value Codes)}
    (h : List.Forall₂ (fun field value => Spelled (field.1, render field.2) value) written read) :
    List.Forall₂ Spelled (renderFields written) read := by
  induction h with
  | nil => exact .nil
  | cons hfield _ ih => exact .cons hfield ih

/-- **A spelling is read as the value that it spells.** -/
theorem Spells.parse {levels : Nat} {text : List Char} {value : Value Codes}
    (h : Spells levels text value) : parse levels text = .ok value := by
  have hskip := h.skipSpace []
  have hread := h.read text.length [] (Nat.le_refl _) (by simp [Ends])
  rw [List.append_nil] at hskip hread
  rw [JsonText.parse, hskip, hread]
  rfl

end JsonText

end TemplateAtlas
