import TemplateAtlas.Text.Newline
import TemplateAtlas.Text.Utf8

/-!
# Encodings of text files

A file is read as text by decoding its bytes and then bringing its line breaks into one form.  Bytes
that the encoding does not know show up as replacement characters, so reading a text never fails
because of its bytes.

* `Encoding.ofName` — the encoding with a given name, whatever its case and punctuation.
* `Encoding.decode?` — the characters that bytes stand for, if the encoding is known.
* `Encoding.text?` — those characters with their line breaks in one form.
-/

namespace TemplateAtlas.Text

/-- How bytes stand for characters. -/
inductive Encoding where
  | utf8
  | latin1
  | ascii
  /-- An encoding of which only the name is known. -/
  | unknown (name : String)
  deriving DecidableEq, Repr

namespace Encoding

/-- A character that tells names of encodings apart. -/
def isNameChar (c : Char) : Bool := c.isAlphanum || c = '.'

/-- The words of a name, in lower case; whatever stands between them does not matter. -/
def nameWords (name : String) : List (List Char) :=
  ((name.toList.map Char.toLower).splitBy fun c d => isNameChar c == isNameChar d).filter
    (·.all isNameChar)

/-- A name in the form in which names are compared. -/
def plainName (name : String) : String :=
  String.intercalate "_" ((nameWords name).map String.ofList)

/-- The chief names of the encodings. -/
def chiefNames : List (String × Encoding) :=
  [("utf_8", utf8), ("latin_1", latin1), ("ascii", ascii)]

/-- The other names of UTF-8. -/
def namesOfUtf8 : List String := ["u8", "utf", "utf8", "utf8_ucs2", "utf8_ucs4", "cp65001"]

/-- The other names of Latin-1. -/
def namesOfLatin1 : List String :=
  ["8859", "cp819", "csisolatin1", "ibm819", "iso8859", "iso8859_1", "iso_8859_1",
    "iso_8859_1_1987", "iso_ir_100", "l1", "latin", "latin1"]

/-- The other names of ASCII. -/
def namesOfAscii : List String :=
  ["646", "ansi_x3.4_1968", "ansi_x3_4_1968", "ansi_x3.4_1986", "cp367", "csascii", "ibm367",
    "iso646_us", "iso_646.irv_1991", "iso_ir_6", "us", "us_ascii"]

/-- The encoding of which the given text is another name. -/
def ofOtherName? (name : String) : Option Encoding :=
  if namesOfUtf8.contains name then some utf8
  else if namesOfLatin1.contains name then some latin1
  else if namesOfAscii.contains name then some ascii
  else none

/-- The name with each point read as a break between words. -/
def withoutPoints (name : String) : String :=
  String.ofList (name.toList.map fun c => if c = '.' then '_' else c)

/-- The encoding with a given name.  In one of its other names, not in its chief name, a point may
stand between two words. -/
def ofName (name : String) : Encoding :=
  let plain := plainName name
  (ofOtherName? plain <|> ofOtherName? (withoutPoints plain) <|> chiefNames.lookup plain).getD
    (unknown name)

/-- The characters that bytes stand for. -/
def decode? (encoding : Encoding) (bytes : List UInt8) : Option (List Char) :=
  match encoding with
  | utf8 => some (Utf8.decodeReplacing bytes)
  | latin1 => some (bytes.map fun b => Char.ofNat b.toNat)
  | ascii => some (bytes.map fun b => if b < 0x80 then Char.ofNat b.toNat else Utf8.replacement)
  | unknown _ => none

/-- The text of a file with the given bytes. -/
def text? (encoding : Encoding) (bytes : List UInt8) : Option (List Char) :=
  (encoding.decode? bytes).map unifyNewlines

end Encoding

end TemplateAtlas.Text
