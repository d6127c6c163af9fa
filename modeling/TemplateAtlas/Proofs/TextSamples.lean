import Mathlib.Tactic.Common
import TemplateAtlas.ProjectFiles
import TemplateAtlas.Proofs.Utf8Bytes

/-!
# What a sample of a file tells

A file is taken for text by its first bytes.  They may end within a character, and then the file is judged by whether
they can go on as a text.

**Characters.**  What is read as a character is made of the bytes of that character (`eq_encode_of_unit`), so bytes that
are decoded are the bytes of the text that they are decoded to (`eq_encode_of_decode?`).

**Cuts.**  Bytes that break off within a character can be completed (`exists_unit_of_cut`), and what is left of a
character that is cut off breaks off within it (`unit_of_append`).  So the bytes that pass for the beginning of a text
are beginnings of texts, but for one kind of exception: the first two bytes of a surrogate pass as well
(`isTextSample_iff`), though no text goes on after them (`not_startsText_of_endsInSurrogate`).

**Files.**  What this means for files is said in `isBinaryFile_eq_false_iff`, and `surrogate_taken_for_text` is a file
that is taken for text and is none.
-/

namespace TemplateAtlas

namespace Text.Utf8

/-! ## Characters -/

/-- What a first byte says, by its number.  The bounds of the second of three or four bytes rule out what could have been
written with fewer bytes, the surrogates, and what lies beyond the last code point. -/
inductive Leads : Nat → Lead → Prop
  | one {n : Nat} (last : n ≤ 0x7F) : Leads n ⟨0, 0x80, 0xBF, n⟩
  | two {n : Nat} (first : 0xC2 ≤ n) (last : n ≤ 0xDF) : Leads n ⟨1, 0x80, 0xBF, n - 0xC0⟩
  | three {n : Nat} {low high : UInt8} (first : 0xE0 ≤ n) (last : n ≤ 0xEF)
      (bounds : 0x80 ≤ low.toNat ∧ low ≤ high ∧ high.toNat ≤ 0xBF)
      (overlong : n = 0xE0 → 0xA0 ≤ low.toNat) (surrogate : n = 0xED → high.toNat ≤ 0x9F) :
      Leads n ⟨2, low, high, n - 0xE0⟩
  | four {n : Nat} {low high : UInt8} (first : 0xF0 ≤ n) (last : n ≤ 0xF4)
      (bounds : 0x80 ≤ low.toNat ∧ low ≤ high ∧ high.toNat ≤ 0xBF)
      (overlong : n = 0xF0 → 0x90 ≤ low.toNat) (beyond : n = 0xF4 → high.toNat ≤ 0x8F) :
      Leads n ⟨3, low, high, n - 0xF0⟩

lemma Leads.low_le_high {n : Nat} {lead : Lead} (h : Leads n lead) : lead.low ≤ lead.high := by
  cases h with
  | one => exact (by decide : (0x80 : UInt8) ≤ 0xBF)
  | two => exact (by decide : (0x80 : UInt8) ≤ 0xBF)
  | three _ _ bounds => exact bounds.2.1
  | four _ _ bounds => exact bounds.2.1

lemma leads_of_lead? {b : UInt8} {lead : Lead} (h : lead? b = some lead) : Leads b.toNat lead := by
  rw [← UInt8.ofNat_toNat (x := b), lead?_ofNat b.toNat_lt] at h
  generalize b.toNat = n at h
  split at h
  · obtain rfl := Option.some.inj h
    exact .one (by omega)
  split at h
  · cases h
  split at h
  · obtain rfl := Option.some.inj h
    exact .two (by omega) (by omega)
  -- Of three and four bytes there are three kinds each: the first, the last to be restricted, and the others.
  split at h
  · subst n
    obtain rfl := Option.some.inj h
    exact .three (by decide) (by decide) (by decide) (by decide) (by decide)
  split at h
  · subst n
    obtain rfl := Option.some.inj h
    exact .three (by decide) (by decide) (by decide) (by decide) (by decide)
  split at h
  · obtain rfl := Option.some.inj h
    exact .three (by omega) (by omega) (by decide) (by omega) (by omega)
  split at h
  · subst n
    obtain rfl := Option.some.inj h
    exact .four (by decide) (by decide) (by decide) (by decide) (by decide)
  split at h
  · obtain rfl := Option.some.inj h
    exact .four (by omega) (by omega) (by decide) (by omega) (by omega)
  split at h
  · subst n
    obtain rfl := Option.some.inj h
    exact .four (by decide) (by decide) (by decide) (by decide) (by decide)
  · cases h

/-- A further byte lies between the bounds, and goes on as the bytes after it do. -/
lemma exists_of_readTails {low high : UInt8} {bits taken tails extra : Nat} {bytes : List UInt8}
    {c : Char} (h : readTails low high bits taken (tails + 1) bytes = .char c extra) :
    ∃ b rest, bytes = b :: rest ∧ low.toNat ≤ b.toNat ∧ b.toNat ≤ high.toNat ∧
      readTails 0x80 0xBF (bits * 64 + (b.toNat - 0x80)) (taken + 1) tails rest = .char c extra := by
  cases bytes with
  | nil => simp [readTails] at h
  | cons b rest =>
      rw [readTails] at h
      split_ifs at h with hbounds
      rw [Bool.and_eq_true, decide_eq_true_eq, decide_eq_true_eq, UInt8.le_iff_toNat_le,
        UInt8.le_iff_toNat_le] at hbounds
      exact ⟨b, rest, rfl, hbounds.1, hbounds.2, h⟩

lemma eq_of_readTails_zero {low high : UInt8} {bits taken extra : Nat} {bytes : List UInt8} {c : Char}
    (h : readTails low high bits taken 0 bytes = .char c extra) : c = Char.ofNat bits ∧ extra = taken := by
  rw [readTails, Unit.char.injEq] at h
  exact ⟨h.1.symm, h.2.symm⟩

/-- The bytes of a code point. -/
lemma utf8EncodeChar_ofNat {v : Nat} (h : v.isValidChar) :
    String.utf8EncodeChar (Char.ofNat v)
      = if v ≤ 0x7F then [UInt8.ofNat v]
        else if v ≤ 0x7FF then [UInt8.ofNat (v / 64 % 32 + 0xC0), UInt8.ofNat (v % 64 + 0x80)]
        else if v ≤ 0xFFFF then
          [UInt8.ofNat (v / 4096 % 16 + 0xE0), UInt8.ofNat (v / 64 % 64 + 0x80),
            UInt8.ofNat (v % 64 + 0x80)]
        else
          [UInt8.ofNat (v / 262144 % 8 + 0xF0), UInt8.ofNat (v / 4096 % 64 + 0x80),
            UInt8.ofNat (v / 64 % 64 + 0x80), UInt8.ofNat (v % 64 + 0x80)] := by
  have hcode : (Char.ofNat v).val.toNat = v := by
    rw [Char.ofNat, dif_pos h]
    rfl
  rw [String.utf8EncodeChar, hcode]

/-- A byte is given by its number. -/
lemma ofNat_eq_of_toNat {n : Nat} {b : UInt8} (h : n = b.toNat) : UInt8.ofNat n = b := by
  rw [h, UInt8.ofNat_toNat]

/-- **A unit that is read as a character is made of the bytes of that character.** -/
lemma eq_encode_of_unit {b : UInt8} {bytes : List UInt8} {c : Char} {extra : Nat}
    (h : unit b bytes = .char c extra) : b :: bytes = String.utf8EncodeChar c ++ bytes.drop extra := by
  rw [unit] at h
  cases hlead : lead? b with
  | none => simp [hlead] at h
  | some lead =>
      simp only [hlead] at h
      generalize hn : b.toNat = n
      have hleads := leads_of_lead? hlead
      rw [hn] at hleads
      cases hleads with
      | one last =>
          dsimp only at h
          obtain ⟨hc, hextra⟩ := eq_of_readTails_zero h
          rw [hc, hextra, utf8EncodeChar_ofNat (Or.inl (by omega)), if_pos last, ofNat_eq_of_toNat hn.symm]
          rfl
      | two first last =>
          dsimp only at h
          obtain ⟨x, rest, rfl, hx, hx', h⟩ := exists_of_readTails h
          obtain ⟨hc, hextra⟩ := eq_of_readTails_zero h
          simp only [UInt8.reduceToNat] at hx hx'
          rw [hc, hextra, utf8EncodeChar_ofNat (Or.inl (by omega)), if_neg (by omega), if_pos (by omega),
            ofNat_eq_of_toNat (b := b) (by omega), ofNat_eq_of_toNat (b := x) (by omega)]
          rfl
      | three first last bounds overlong surrogate =>
          dsimp only at h
          obtain ⟨x, rest, rfl, hx, hx', h⟩ := exists_of_readTails h
          obtain ⟨y, rest, rfl, hy, hy', h⟩ := exists_of_readTails h
          obtain ⟨hc, hextra⟩ := eq_of_readTails_zero h
          simp only [UInt8.reduceToNat] at hy hy'
          have hvalid : (((n - 0xE0) * 64 + (x.toNat - 0x80)) * 64 + (y.toNat - 0x80)).isValidChar := by
            rw [Nat.isValidChar]
            omega
          rw [hc, hextra, utf8EncodeChar_ofNat hvalid, if_neg (by omega), if_neg (by omega), if_pos (by omega),
            ofNat_eq_of_toNat (b := b) (by omega), ofNat_eq_of_toNat (b := x) (by omega),
            ofNat_eq_of_toNat (b := y) (by omega)]
          rfl
      | four first last bounds overlong beyond =>
          dsimp only at h
          obtain ⟨x, rest, rfl, hx, hx', h⟩ := exists_of_readTails h
          obtain ⟨y, rest, rfl, hy, hy', h⟩ := exists_of_readTails h
          obtain ⟨z, rest, rfl, hz, hz', h⟩ := exists_of_readTails h
          obtain ⟨hc, hextra⟩ := eq_of_readTails_zero h
          simp only [UInt8.reduceToNat] at hy hy' hz hz'
          have hvalid : ((((n - 0xF0) * 64 + (x.toNat - 0x80)) * 64 + (y.toNat - 0x80)) * 64
              + (z.toNat - 0x80)).isValidChar := by
            rw [Nat.isValidChar]
            omega
          rw [hc, hextra, utf8EncodeChar_ofNat hvalid, if_neg (by omega), if_neg (by omega), if_neg (by omega),
            ofNat_eq_of_toNat (b := b) (by omega), ofNat_eq_of_toNat (b := x) (by omega),
            ofNat_eq_of_toNat (b := y) (by omega), ofNat_eq_of_toNat (b := z) (by omega)]
          rfl

/-! ## Texts -/

/-- Bytes that are the bytes of a text. -/
def IsText (bytes : List UInt8) : Prop := ∃ text, bytes = encode text

/-- Bytes that are the bytes of a text, once more bytes are put behind them. -/
def StartsText (bytes : List UInt8) : Prop := ∃ more, IsText (bytes ++ more)

/-- Bytes of a text, and behind them two bytes that start like a surrogate. -/
def EndsInSurrogate (bytes : List UInt8) : Prop :=
  ∃ text b, bytes = encode text ++ [0xED, b] ∧ 0xA0 ≤ b ∧ b ≤ 0xBF

lemma encode_cons (c : Char) (text : List Char) :
    encode (c :: text) = String.utf8EncodeChar c ++ encode text := List.flatMap_cons

/-- **Bytes that are decoded are the bytes of the text that they are decoded to.** -/
lemma eq_encode_of_decode? {bytes : List UInt8} {text : List Char} (h : decode? bytes = some text) :
    bytes = encode text := by
  fun_induction decode? bytes generalizing text with
  | case1 =>
      rw [← Option.some.inj h]
      rfl
  | case2 b bytes c extra hunit ih =>
      obtain ⟨behind, hbehind, rfl⟩ := Option.map_eq_some_iff.mp h
      rw [encode_cons, ← ih hbehind]
      exact eq_encode_of_unit hunit
  | case3 => exact absurd h (by simp)

lemma isSome_decode?_iff (bytes : List UInt8) : (decode? bytes).isSome = true ↔ IsText bytes := by
  constructor
  · intro h
    obtain ⟨text, htext⟩ := Option.isSome_iff_exists.mp h
    exact ⟨text, eq_encode_of_decode? htext⟩
  · rintro ⟨text, rfl⟩
    rw [decode?_encode]
    rfl

/-! ## Cuts -/

/-- The lowest bytes that are allowed make a character. -/
lemma exists_readTails {low high : UInt8} (h : low ≤ high) (bits taken tails : Nat) :
    ∃ more c, readTails low high bits taken tails more = .char c (taken + more.length) := by
  induction tails generalizing low high bits taken with
  | zero => exact ⟨[], _, rfl⟩
  | succ tails ih =>
      obtain ⟨more, c, hmore⟩ := ih (show (0x80 : UInt8) ≤ 0xBF by decide)
        (bits * 64 + (low.toNat - 0x80)) (taken + 1)
      refine ⟨low :: more, c, ?_⟩
      rw [readTails, if_pos (by simpa using h), hmore, List.length_cons]
      congr 1
      omega

/-- So do such bytes behind the beginning of a character. -/
lemma exists_readTails_of_cut {low high : UInt8} (h : low ≤ high) {bits taken tails extra : Nat}
    {bytes : List UInt8} (hcut : readTails low high bits taken tails bytes = .cut extra) :
    ∃ more c, readTails low high bits taken tails (bytes ++ more)
      = .char c (taken + (bytes ++ more).length) := by
  induction tails generalizing low high bits taken bytes with
  | zero => simp [readTails] at hcut
  | succ tails ih =>
      cases bytes with
      | nil => exact exists_readTails h bits taken (tails + 1)
      | cons b bytes =>
          rw [readTails] at hcut
          split_ifs at hcut with hbounds
          obtain ⟨more, c, hmore⟩ := ih (by decide) hcut
          refine ⟨more, c, ?_⟩
          rw [List.cons_append, readTails, if_pos hbounds, hmore, List.length_cons]
          congr 1
          omega

/-- A character that is cut off can be completed. -/
lemma exists_unit_of_cut {b : UInt8} {bytes : List UInt8} {extra : Nat} (h : unit b bytes = .cut extra) :
    ∃ more c, b :: (bytes ++ more) = String.utf8EncodeChar c := by
  rw [unit] at h
  cases hlead : lead? b with
  | none => simp [hlead] at h
  | some lead =>
      simp only [hlead] at h
      have hbounds := (leads_of_lead? hlead).low_le_high
      obtain ⟨more, c, hmore⟩ := exists_readTails_of_cut hbounds h
      have hunit : unit b (bytes ++ more) = .char c (bytes ++ more).length := by
        rw [unit, hlead]
        simp only
        rw [hmore, Nat.zero_add]
      refine ⟨more, c, ?_⟩
      rw [eq_encode_of_unit hunit, List.drop_length, List.append_nil]

/-- What is left of a character when bytes are cut off at its end is the character or a cut. -/
lemma readTails_of_append {low high : UInt8} {bits taken tails extra : Nat} {bytes more : List UInt8} {c : Char}
    (h : readTails low high bits taken tails (bytes ++ more) = .char c extra) :
    readTails low high bits taken tails bytes = .char c extra ∨
      ∃ extra, readTails low high bits taken tails bytes = .cut extra := by
  induction tails generalizing low high bits taken bytes with
  | zero => exact Or.inl h
  | succ tails ih =>
      cases bytes with
      | nil => exact Or.inr ⟨taken, rfl⟩
      | cons b bytes =>
          rw [List.cons_append, readTails] at h
          rw [readTails]
          split_ifs at h ⊢ with hbounds
          exact ih h

lemma unit_of_append {b : UInt8} {bytes more : List UInt8} {c : Char} {extra : Nat}
    (h : unit b (bytes ++ more) = .char c extra) :
    unit b bytes = .char c extra ∨ ∃ extra, unit b bytes = .cut extra := by
  rw [unit] at h ⊢
  cases hlead : lead? b with
  | none => simp [hlead] at h
  | some lead =>
      simp only [hlead] at h ⊢
      exact readTails_of_append h

/-- The two bytes that start like a surrogate are no beginning of a character. -/
lemma unit_surrogate {b : UInt8} (h : 0xA0 ≤ b) (more : List UInt8) :
    unit 0xED (b :: more) = .malformed 0 := by
  have hlead : lead? 0xED = some ⟨2, 0x80, 0x9F, 0xD⟩ := rfl
  have hbounds : ¬ (decide ((0x80 : UInt8) ≤ b) && decide (b ≤ 0x9F)) = true := by
    rw [UInt8.le_iff_toNat_le] at h
    simp only [Bool.and_eq_true, decide_eq_true_eq, UInt8.le_iff_toNat_le, UInt8.reduceToNat] at h ⊢
    omega
  rw [unit, hlead]
  simp only
  rw [readTails, if_neg hbounds]

lemma eq_of_isCutSurrogate {bytes : List UInt8} (h : isCutSurrogate bytes = true) :
    ∃ b, bytes = [0xED, b] ∧ 0xA0 ≤ b ∧ b ≤ 0xBF := by
  match bytes, h with
  | [first, b], h =>
      simp only [isCutSurrogate, Bool.and_eq_true, beq_iff_eq, decide_eq_true_eq] at h
      exact ⟨b, by rw [h.1.1], h.1.2, h.2⟩

lemma isTextSample_encode_append (text : List Char) (rest : List UInt8) :
    isTextSample (encode text ++ rest) = isTextSample rest := by
  induction text with
  | nil => rfl
  | cons c text ih =>
      obtain ⟨b, bytes, hbytes, hunit⟩ := unit_encode c (encode text ++ rest)
      rw [encode_cons, hbytes, List.cons_append, List.cons_append, List.append_assoc, isTextSample, hunit]
      simp only [List.drop_left]
      exact ih

/-- Bytes with which a text starts are taken for text. -/
lemma isTextSample_of_startsText {bytes : List UInt8} (h : StartsText bytes) :
    isTextSample bytes = true := by
  obtain ⟨more, text, htext⟩ := h
  induction text generalizing bytes with
  | nil =>
      have hnil : bytes = [] := (List.append_eq_nil_iff.mp htext).1
      rw [hnil, isTextSample]
  | cons c text ih =>
      cases bytes with
      | nil => rw [isTextSample]
      | cons b bytes =>
          obtain ⟨b', tail, htail, hunit⟩ := unit_encode c (encode text)
          rw [encode_cons, htail, List.cons_append, List.cons_append, List.cons.injEq] at htext
          obtain ⟨rfl, htext⟩ := htext
          rw [← htext] at hunit
          rw [isTextSample]
          rcases unit_of_append hunit with hchar | ⟨extra, hcut⟩
          · rw [hchar]
            have hsplit := eq_encode_of_unit hchar
            rw [htail, List.cons_append, List.cons.injEq] at hsplit
            refine ih ?_
            rw [hsplit.2, List.append_assoc] at htext
            exact List.append_cancel_left htext
          · rw [hcut]

lemma isTextSample_iff (bytes : List UInt8) :
    isTextSample bytes = true ↔ StartsText bytes ∨ EndsInSurrogate bytes := by
  constructor
  · intro h
    fun_induction isTextSample bytes with
    | case1 => exact Or.inl ⟨[], [], rfl⟩
    | case2 b bytes c extra hunit ih =>
        have hsplit := eq_encode_of_unit hunit
        rcases ih h with ⟨more, text, htext⟩ | ⟨text, last, htext, hbounds⟩
        · refine Or.inl ⟨more, c :: text, ?_⟩
          rw [hsplit, List.append_assoc, htext, encode_cons]
        · refine Or.inr ⟨c :: text, last, ?_, hbounds⟩
          rw [hsplit, htext, encode_cons, List.append_assoc]
    | case3 b bytes extra hunit =>
        obtain ⟨more, c, hmore⟩ := exists_unit_of_cut hunit
        refine Or.inl ⟨more, [c], ?_⟩
        rw [List.cons_append, hmore, encode_cons]
        exact (List.append_nil _).symm
    | case4 b bytes extra hunit =>
        obtain ⟨last, hbytes, hbounds⟩ := eq_of_isCutSurrogate h
        exact Or.inr ⟨[], last, hbytes, hbounds⟩
  · rintro (h | ⟨text, b, rfl, hlow, hhigh⟩)
    · exact isTextSample_of_startsText h
    · rw [isTextSample_encode_append, isTextSample, unit_surrogate hlow]
      simp [isCutSurrogate, hlow, hhigh]

lemma decode?_encode_append (text : List Char) (rest : List UInt8) :
    decode? (encode text ++ rest) = (decode? rest).map (text ++ ·) := by
  induction text with
  | nil => simp [encode]
  | cons c text ih =>
      obtain ⟨b, bytes, hbytes, hunit⟩ := unit_encode c (encode text ++ rest)
      rw [encode_cons, hbytes, List.cons_append, List.cons_append, List.append_assoc, decode?, hunit]
      simp only [List.drop_left]
      rw [ih, Option.map_map]
      rfl

/-- No text goes on after such two bytes. -/
lemma not_startsText_of_endsInSurrogate {bytes : List UInt8} (h : EndsInSurrogate bytes) :
    ¬ StartsText bytes := by
  rintro ⟨more, other, hother⟩
  obtain ⟨text, b, rfl, hlow, -⟩ := h
  have hdecoded := decode?_encode other
  rw [← hother, List.append_assoc, decode?_encode_append, List.cons_append, List.cons_append,
    List.nil_append, decode?, unit_surrogate hlow] at hdecoded
  simp at hdecoded

end Text.Utf8

open Text.Utf8

/-! ## Files -/

/-- No zero byte is in the sample.  A file that ends within the sample is a text, and the sample of a longer one can be
the beginning of a text. -/
def LooksLikeText (bytes : List UInt8) : Prop :=
  0 ∉ bytes.take sampleSize ∧
    if bytes.length < sampleSize then IsText (bytes.take sampleSize)
    else StartsText (bytes.take sampleSize)

/-- The sample of a file ends in two bytes that start like a surrogate, and nothing else is wrong with it. -/
def CutInSurrogate (bytes : List UInt8) : Prop :=
  0 ∉ bytes.take sampleSize ∧ sampleSize ≤ bytes.length ∧ EndsInSurrogate (bytes.take sampleSize)

lemma isBinary_eq_false_iff (bytes : List UInt8) :
    isBinary bytes = false ↔ LooksLikeText bytes ∨ CutInSurrogate bytes := by
  have hlength : (bytes.take sampleSize).length < sampleSize ↔ bytes.length < sampleSize := by
    rw [List.length_take]
    omega
  simp only [isBinary, LooksLikeText, CutInSurrogate, List.contains_iff_mem, hlength]
  by_cases hzero : 0 ∈ bytes.take sampleSize
  · simp [hzero]
  · by_cases hshort : bytes.length < sampleSize
    · rw [if_neg hzero, if_pos hshort, if_pos hshort, ← isSome_decode?_iff]
      simp [hzero, Nat.not_le.mpr hshort, ← Option.not_isSome]
    · rw [if_neg hzero, if_neg hshort, if_neg hshort, Bool.not_eq_false', isTextSample_iff]
      simp [hzero, Nat.not_lt.mp hshort]

lemma not_looksLikeText_of_cutInSurrogate {bytes : List UInt8} (h : CutInSurrogate bytes) :
    ¬ LooksLikeText bytes := by
  rintro ⟨-, hlooks⟩
  obtain ⟨-, hlong, hends⟩ := h
  have hshort : ¬ bytes.length < sampleSize := Nat.not_lt.mpr hlong
  rw [if_neg hshort] at hlooks
  exact not_startsText_of_endsInSurrogate hends hlooks

lemma looksLikeText_of_isText {bytes : List UInt8} (hzero : 0 ∉ bytes) (h : IsText bytes) :
    LooksLikeText bytes := by
  refine ⟨fun hmem => hzero (List.mem_of_mem_take hmem), ?_⟩
  split_ifs with hshort
  · rwa [List.take_of_length_le (Nat.le_of_lt hshort)]
  · exact ⟨bytes.drop sampleSize, by rwa [List.take_append_drop]⟩

/-- **Which files are taken for text.**  Those that look like text, and besides them the files of which the sample is
cut off in something that starts like a surrogate, which is no beginning of a text.  A file that is a text without a
zero byte is always among them, wherever the sample ends. -/
theorem isBinaryFile_eq_false_iff {disk : Disk} {path : String} {bytes : List UInt8}
    (h : disk.read (Path.ofText path).text = .ok bytes) :
    (isBinaryFile disk path = .ok false ↔ LooksLikeText bytes ∨ CutInSurrogate bytes) ∧
      (CutInSurrogate bytes → ¬ LooksLikeText bytes) ∧
      (0 ∉ bytes → IsText bytes → isTextFile disk path = .ok true) := by
  have hbinary : isBinaryFile disk path = .ok (isBinary bytes) := by
    rw [isBinaryFile, h]
    rfl
  refine ⟨?_, ?_, ?_⟩
  · rw [hbinary, Except.ok.injEq, isBinary_eq_false_iff]
  · exact not_looksLikeText_of_cutInSurrogate
  · intro hzero htext
    have hlooks : isBinary bytes = false :=
      (isBinary_eq_false_iff bytes).mpr (Or.inl (looksLikeText_of_isText hzero htext))
    rw [hlooks] at hbinary
    unfold isTextFile
    rw [hbinary]
    rfl

/-- A disk with a single file. -/
def singleFile (bytes : List UInt8) : Disk := ⟨.folder [("f", .file bytes 0)] 0, [], 0⟩

lemma read_singleFile (bytes : List UInt8) :
    (singleFile bytes).read (Path.ofText "f").text = .ok bytes := by
  have hpath : (Path.ofText "f").text = "f" := rfl
  have hcomponents : Disk.components "f" = ["f"] := by decide +kernel
  have horigin : (singleFile bytes).origin "f" = [] := rfl
  have hplace : (singleFile bytes).locate "f" = .ok ["f"] := by
    rw [Disk.locate, Disk.trace, if_neg (by decide +kernel), if_neg (by decide +kernel),
      if_neg (by decide +kernel), hcomponents, horigin]
    rfl
  rw [hpath, Disk.read, Disk.nodeAt, hplace]
  rfl

/-- Letters and then some bytes. -/
def behindLetters (count : Nat) (bytes : List UInt8) : List UInt8 := List.replicate count 0x61 ++ bytes

lemma zero_not_mem_behindLetters {count : Nat} {bytes : List UInt8} (h : 0 ∉ bytes) :
    0 ∉ behindLetters count bytes := by
  rw [behindLetters, List.mem_append, not_or]
  exact ⟨fun hmem => absurd (List.eq_of_mem_replicate hmem) (by decide), h⟩

lemma behindLetters_eq (count : Nat) (bytes : List UInt8) :
    behindLetters count bytes = encode (List.replicate count 'a') ++ bytes := by
  rw [behindLetters, encode, List.flatMap_replicate]
  exact congrArg (· ++ bytes) List.flatten_replicate_singleton.symm

/-- A text of which the sample ends within a character. -/
theorem isBinaryFile_eq_false_iff_cut :
    let disk := singleFile (behindLetters 4095 [0xC3, 0xA9, 0x0A])
    disk.read (Path.ofText "f").text = .ok (behindLetters 4095 [0xC3, 0xA9, 0x0A]) ∧
      isTextFile disk "f" = .ok true := by
  have htext : IsText (behindLetters 4095 [0xC3, 0xA9, 0x0A]) := by
    refine ⟨List.replicate 4095 'a' ++ ['é', '\n'], ?_⟩
    rw [encode_append, behindLetters_eq]
    rfl
  have hread := read_singleFile (behindLetters 4095 [0xC3, 0xA9, 0x0A])
  exact ⟨hread, (isBinaryFile_eq_false_iff hread).2.2 (zero_not_mem_behindLetters (by decide)) htext⟩

/-- **A file that is no text is taken for one.**  It ends with the sample, in two bytes that start like a surrogate. -/
theorem surrogate_taken_for_text :
    isBinaryFile (singleFile (behindLetters 4094 [0xED, 0xA0])) "f" = .ok false ∧
      ¬ LooksLikeText (behindLetters 4094 [0xED, 0xA0]) := by
  have hlength : (behindLetters 4094 [0xED, 0xA0]).length = sampleSize := by
    rw [behindLetters, List.length_append, List.length_replicate]
    rfl
  have hsample : (behindLetters 4094 [0xED, 0xA0]).take sampleSize = behindLetters 4094 [0xED, 0xA0] :=
    List.take_of_length_le (Nat.le_of_eq hlength)
  have hends : EndsInSurrogate (behindLetters 4094 [0xED, 0xA0]) :=
    ⟨_, 0xA0, behindLetters_eq 4094 _, by decide, by decide⟩
  have hcut : CutInSurrogate (behindLetters 4094 [0xED, 0xA0]) := by
    refine ⟨?_, Nat.le_of_eq hlength.symm, ?_⟩
    · rw [hsample]
      exact zero_not_mem_behindLetters (by decide)
    · rwa [hsample]
  refine ⟨?_, not_looksLikeText_of_cutInSurrogate hcut⟩
  rw [isBinaryFile, read_singleFile]
  exact congrArg Except.ok ((isBinary_eq_false_iff _).mpr (Or.inr hcut))

end TemplateAtlas
