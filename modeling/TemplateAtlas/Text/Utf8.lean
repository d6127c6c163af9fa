/-!
# UTF-8

Bytes of a file and the characters they stand for.

* `unit` — what stands at the front of some bytes: a character, bytes that cannot start one, or
  the beginning of a character that the end of the input cuts off.
* `decode?` — strict decoding, which fails on anything that is not well formed.
* `decodeStart` — the characters before anything that is not well formed.
* `decodeReplacing` — decoding that puts one replacement character for each maximal piece that
  starts like a character but does not go on like one.
* `isTextSample` — whether bytes cut off at an arbitrary place may come from a text.
* `encode` — the bytes of a text.
-/

namespace TemplateAtlas.Text.Utf8

/-- What the first byte of a character says about the bytes after it: how many follow, between
which bounds the next one lies, and the bits that the first byte contributes. -/
structure Lead where
  tails : Nat
  low : UInt8
  high : UInt8
  bits : Nat

/-- The first bytes of characters.  Overlong forms, surrogates and code points beyond the last one
are ruled out by the bounds on the second byte. -/
def lead? (b : UInt8) : Option Lead :=
  if b ≤ 0x7F then some ⟨0, 0x80, 0xBF, b.toNat⟩
  else if b < 0xC2 then none
  else if b ≤ 0xDF then some ⟨1, 0x80, 0xBF, b.toNat - 0xC0⟩
  else if b = 0xE0 then some ⟨2, 0xA0, 0xBF, 0⟩
  else if b = 0xED then some ⟨2, 0x80, 0x9F, 0xD⟩
  else if b ≤ 0xEF then some ⟨2, 0x80, 0xBF, b.toNat - 0xE0⟩
  else if b = 0xF0 then some ⟨3, 0x90, 0xBF, 0⟩
  else if b ≤ 0xF3 then some ⟨3, 0x80, 0xBF, b.toNat - 0xF0⟩
  else if b = 0xF4 then some ⟨3, 0x80, 0x8F, 4⟩
  else none

/-- What stands at the front of some bytes; each case says how many bytes after the first it
takes. -/
inductive Unit where
  /-- A whole character. -/
  | char (c : Char) (extra : Nat)
  /-- Bytes that no character starts with. -/
  | malformed (extra : Nat)
  /-- The input ends inside a character. -/
  | cut (extra : Nat)
  deriving DecidableEq, Repr

/-- How many bytes after the first a unit takes. -/
def Unit.extra : Unit → Nat
  | char _ extra => extra
  | malformed extra => extra
  | cut extra => extra

/-- Reads `tails` further bytes, the first between the given bounds, after `taken` of them. -/
def readTails (low high : UInt8) (bits taken : Nat) : Nat → List UInt8 → Unit
  | 0, _ => .char (Char.ofNat bits) taken
  | _ + 1, [] => .cut taken
  | tails + 1, b :: bytes =>
    if low ≤ b && b ≤ high then
      readTails 0x80 0xBF (bits * 64 + (b.toNat - 0x80)) (taken + 1) tails bytes
    else .malformed taken

/-- The unit that starts with byte `b` and goes on with `bytes`. -/
def unit (b : UInt8) (bytes : List UInt8) : Unit :=
  match lead? b with
  | none => .malformed 0
  | some lead => readTails lead.low lead.high lead.bits 0 lead.tails bytes

/-- Strict decoding: every unit is a character. -/
def decode? : List UInt8 → Option (List Char)
  | [] => some []
  | b :: bytes =>
    match unit b bytes with
    | .char c extra => (decode? (bytes.drop extra)).map (c :: ·)
    | _ => none
termination_by bytes => bytes.length
decreasing_by simp only [List.length_drop, List.length_cons]; omega

/-- The characters before the first unit that is none. -/
def decodeStart : List UInt8 → List Char
  | [] => []
  | b :: bytes =>
    match unit b bytes with
    | .char c extra => c :: decodeStart (bytes.drop extra)
    | _ => []
termination_by bytes => bytes.length
decreasing_by simp only [List.length_drop, List.length_cons]; omega

/-- The character that stands for bytes that could not be decoded. -/
def replacement : Char := '\uFFFD'

/-- The character that a unit shows as. -/
def Unit.shown : Unit → Char
  | char c _ => c
  | _ => replacement

/-- Decoding with a replacement character for every unit that is no character. -/
def decodeReplacing : List UInt8 → List Char
  | [] => []
  | b :: bytes =>
    let next := unit b bytes
    next.shown :: decodeReplacing (bytes.drop next.extra)
termination_by bytes => bytes.length
decreasing_by simp only [List.length_drop, List.length_cons]; omega

/-- Two bytes that start like a surrogate.  A reader that waits for more input keeps them. -/
def isCutSurrogate : List UInt8 → Bool
  | [first, second] => first == 0xED && 0xA0 ≤ second && second ≤ 0xBF
  | _ => false

/-- Bytes cut off at an arbitrary place are taken for text when all units are characters, the last
one perhaps incomplete. -/
def isTextSample : List UInt8 → Bool
  | [] => true
  | b :: bytes =>
    match unit b bytes with
    | .char _ extra => isTextSample (bytes.drop extra)
    | .cut _ => true
    | .malformed _ => isCutSurrogate (b :: bytes)
termination_by bytes => bytes.length
decreasing_by simp only [List.length_drop, List.length_cons]; omega

/-- The bytes of a text. -/
def encode (s : List Char) : List UInt8 := s.flatMap String.utf8EncodeChar

end TemplateAtlas.Text.Utf8
