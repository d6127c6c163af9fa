import Mathlib.Tactic.Common
import TemplateAtlas.Text.Utf8

/-!
# Texts as bytes and back

Every text can be written as bytes, and its bytes stand for it alone.

* `unit_encode` — the bytes of a character are read as that character, whatever follows them.
* `decode?_encode` — the bytes of a text are decoded to the text.

The first byte of a character says how many follow and which of them are ruled out, so there is a lemma for each
kind of first byte that sets bounds (`lead?_three`, `lead?_four`).
-/

namespace TemplateAtlas.Text.Utf8

/-! ## Bytes as numbers -/

lemma toNat_ofNat {n : Nat} (h : n < 256) : (UInt8.ofNat n).toNat = n := by
  rw [UInt8.toNat_ofNat', Nat.mod_eq_of_lt h]

lemma ofNat_le {n : Nat} (h : n < 256) (b : UInt8) : UInt8.ofNat n ≤ b ↔ n ≤ b.toNat := by
  rw [UInt8.le_iff_toNat_le, toNat_ofNat h]

lemma le_ofNat {n : Nat} (h : n < 256) (b : UInt8) : b ≤ UInt8.ofNat n ↔ b.toNat ≤ n := by
  rw [UInt8.le_iff_toNat_le, toNat_ofNat h]

lemma ofNat_lt {n : Nat} (h : n < 256) (b : UInt8) : UInt8.ofNat n < b ↔ n < b.toNat := by
  rw [UInt8.lt_iff_toNat_lt, toNat_ofNat h]

lemma ofNat_eq {n : Nat} (h : n < 256) (b : UInt8) : UInt8.ofNat n = b ↔ n = b.toNat := by
  rw [← UInt8.toNat_inj, toNat_ofNat h]

/-- What a first byte says, by its number. -/
lemma lead?_ofNat {n : Nat} (h : n < 256) :
    lead? (UInt8.ofNat n)
      = if n ≤ 0x7F then some ⟨0, 0x80, 0xBF, n⟩
        else if n < 0xC2 then none
        else if n ≤ 0xDF then some ⟨1, 0x80, 0xBF, n - 0xC0⟩
        else if n = 0xE0 then some ⟨2, 0xA0, 0xBF, 0⟩
        else if n = 0xED then some ⟨2, 0x80, 0x9F, 0xD⟩
        else if n ≤ 0xEF then some ⟨2, 0x80, 0xBF, n - 0xE0⟩
        else if n = 0xF0 then some ⟨3, 0x90, 0xBF, 0⟩
        else if n ≤ 0xF3 then some ⟨3, 0x80, 0xBF, n - 0xF0⟩
        else if n = 0xF4 then some ⟨3, 0x80, 0x8F, 4⟩
        else none := by
  rw [lead?]
  simp only [ofNat_le h, ofNat_lt h, ofNat_eq h, toNat_ofNat h, UInt8.reduceToNat]

/-! ## Characters -/

/-- A further byte adds its six bits. -/
lemma readTails_cons {low high : UInt8} {n : Nat} (hn : n < 64) (hlow : low.toNat ≤ n + 0x80)
    (hhigh : n + 0x80 ≤ high.toNat) (bits taken tails : Nat) (bytes : List UInt8) :
    readTails low high bits taken (tails + 1) (UInt8.ofNat (n + 0x80) :: bytes)
      = readTails 0x80 0xBF (bits * 64 + n) (taken + 1) tails bytes := by
  have hbyte : n + 0x80 < 256 := by omega
  have hbounds : (decide (low ≤ UInt8.ofNat (n + 0x80)) && decide (UInt8.ofNat (n + 0x80) ≤ high))
      = true := by
    rw [Bool.and_eq_true, decide_eq_true_eq, decide_eq_true_eq, le_ofNat hbyte, ofNat_le hbyte]
    exact ⟨hlow, hhigh⟩
  rw [readTails, if_pos hbounds, toNat_ofNat hbyte, Nat.add_sub_cancel]

lemma unit_two {v : Nat} (hlow : 0x80 ≤ v) (hhigh : v < 0x800) (rest : List UInt8) :
    unit (UInt8.ofNat (v / 64 % 32 + 0xC0)) (UInt8.ofNat (v % 64 + 0x80) :: rest)
      = .char (Char.ofNat v) 1 := by
  rw [unit, lead?_ofNat (by omega), if_neg (by omega), if_neg (by omega), if_pos (by omega)]
  simp only
  rw [readTails_cons (by omega) (by simp) (by simp; omega), readTails]
  congr 2
  omega

/-- The first of three bytes lets the second follow, whichever bounds it sets. -/
lemma lead?_three {v : Nat} (hlow : 0x800 ≤ v) (hhigh : v < 0x10000) (hscalar : v < 0xD800 ∨ 0xDFFF < v) :
    ∃ low high : UInt8, lead? (UInt8.ofNat (v / 4096 % 16 + 0xE0)) = some ⟨2, low, high, v / 4096⟩ ∧
      low.toNat ≤ v / 64 % 64 + 0x80 ∧ v / 64 % 64 + 0x80 ≤ high.toNat := by
  rw [lead?_ofNat (by omega), if_neg (by omega), if_neg (by omega), if_neg (by omega)]
  split_ifs with hfirst hsurrogate
  · have hbits : v / 4096 = 0 := by omega
    exact ⟨0xA0, 0xBF, by rw [hbits], by simp; omega, by simp; omega⟩
  · have hbits : v / 4096 = 0xD := by omega
    exact ⟨0x80, 0x9F, by rw [hbits], by simp, by simp; omega⟩
  · have hbits : v / 4096 % 16 + 0xE0 - 0xE0 = v / 4096 := by omega
    exact ⟨0x80, 0xBF, by rw [hbits], by simp, by simp; omega⟩
  all_goals omega

lemma unit_three {v : Nat} (hlow : 0x800 ≤ v) (hhigh : v < 0x10000)
    (hscalar : v < 0xD800 ∨ 0xDFFF < v) (rest : List UInt8) :
    unit (UInt8.ofNat (v / 4096 % 16 + 0xE0))
        (UInt8.ofNat (v / 64 % 64 + 0x80) :: UInt8.ofNat (v % 64 + 0x80) :: rest)
      = .char (Char.ofNat v) 2 := by
  obtain ⟨low, high, hlead, hfrom, hto⟩ := lead?_three hlow hhigh hscalar
  rw [unit, hlead]
  simp only
  rw [readTails_cons (by omega) hfrom hto, readTails_cons (by omega) (by simp) (by simp; omega),
    readTails]
  congr 2
  omega

/-- The first of four bytes lets the second follow, whichever bounds it sets. -/
lemma lead?_four {v : Nat} (hlow : 0x10000 ≤ v) (hhigh : v < 0x110000) :
    ∃ low high : UInt8,
      lead? (UInt8.ofNat (v / 262144 % 8 + 0xF0)) = some ⟨3, low, high, v / 262144⟩ ∧
        low.toNat ≤ v / 4096 % 64 + 0x80 ∧ v / 4096 % 64 + 0x80 ≤ high.toNat := by
  rw [lead?_ofNat (by omega), if_neg (by omega), if_neg (by omega), if_neg (by omega),
    if_neg (by omega), if_neg (by omega), if_neg (by omega)]
  split_ifs with hfirst hmiddle hlast
  · have hbits : v / 262144 = 0 := by omega
    exact ⟨0x90, 0xBF, by rw [hbits], by simp; omega, by simp; omega⟩
  · have hbits : v / 262144 % 8 + 0xF0 - 0xF0 = v / 262144 := by omega
    exact ⟨0x80, 0xBF, by rw [hbits], by simp, by simp; omega⟩
  · have hbits : v / 262144 = 4 := by omega
    exact ⟨0x80, 0x8F, by rw [hbits], by simp, by simp; omega⟩
  all_goals omega

lemma unit_four {v : Nat} (hlow : 0x10000 ≤ v) (hhigh : v < 0x110000) (rest : List UInt8) :
    unit (UInt8.ofNat (v / 262144 % 8 + 0xF0))
        (UInt8.ofNat (v / 4096 % 64 + 0x80) :: UInt8.ofNat (v / 64 % 64 + 0x80)
          :: UInt8.ofNat (v % 64 + 0x80) :: rest)
      = .char (Char.ofNat v) 3 := by
  obtain ⟨low, high, hlead, hfrom, hto⟩ := lead?_four hlow hhigh
  rw [unit, hlead]
  simp only
  rw [readTails_cons (by omega) hfrom hto, readTails_cons (by omega) (by simp) (by simp; omega),
    readTails_cons (by omega) (by simp) (by simp; omega), readTails]
  congr 2
  omega

/-- The bytes of a character are read as that character, whatever follows them. -/
lemma unit_encode (c : Char) (rest : List UInt8) :
    ∃ b bytes, String.utf8EncodeChar c = b :: bytes ∧
      unit b (bytes ++ rest) = .char c bytes.length := by
  have hvalid := c.valid
  rw [UInt32.isValidChar, Nat.isValidChar] at hvalid
  have hchar : Char.ofNat c.val.toNat = c := Char.ofNat_toNat c
  rw [String.utf8EncodeChar]
  split_ifs with hone htwo hthree
  · refine ⟨_, _, rfl, ?_⟩
    rw [unit, lead?_ofNat (by omega), if_pos hone, List.nil_append]
    simp only [readTails, hchar, List.length_nil]
  · refine ⟨_, _, rfl, ?_⟩
    rw [List.cons_append, List.nil_append, unit_two (by omega) (by omega), hchar]
    rfl
  · refine ⟨_, _, rfl, ?_⟩
    rw [List.cons_append, List.cons_append, List.nil_append,
      unit_three (by omega) (by omega) (by omega), hchar]
    rfl
  · refine ⟨_, _, rfl, ?_⟩
    rw [List.cons_append, List.cons_append, List.cons_append, List.nil_append,
      unit_four (by omega) (by omega), hchar]
    rfl

/-! ## Texts -/

lemma encode_append (front behind : List Char) : encode (front ++ behind) = encode front ++ encode behind :=
  List.flatMap_append

/-- **Texts survive being written**: the bytes of a text are decoded to the text. -/
theorem decode?_encode (text : List Char) : decode? (encode text) = some text := by
  induction text with
  | nil => rw [encode, List.flatMap_nil, decode?]
  | cons c text ih =>
      obtain ⟨b, bytes, hbytes, hunit⟩ := unit_encode c (encode text)
      rw [encode, List.flatMap_cons, hbytes, List.cons_append, decode?]
      rw [encode] at ih hunit
      rw [hunit]
      simp only [List.drop_left]
      rw [ih, Option.map_some]

end TemplateAtlas.Text.Utf8
