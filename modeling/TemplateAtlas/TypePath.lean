import TemplateAtlas.Text.Capital
import TemplateAtlas.Text.Split
import TemplateAtlas.Token

/-!
# Token types as paths

Highlighters name their token types by paths from the general to the special, such as
`Literal.String.Double`.  A type belongs to every type whose path its own path starts with, and the
kind of a token is that of the first known family its type belongs to.

* `TypePath.follow?` — a dotted name is followed word by word.  A word with a capital in front leads to a
  subtype, which need not be known.  The word `parent` leads back to the type above.  A few other words
  lead to something that types have and that is no type, and all others lead nowhere.
* `TypePath.kind` — the kind of a type.
-/

namespace TemplateAtlas.TypePath

/-- The families in the order in which they are tried. -/
def families : List (List String × Kind) :=
  [(["Keyword"], .keyword), (["Comment"], .comment), (["Literal", "String"], .string),
    (["Name"], .name), (["Literal", "Number"], .number), (["Operator"], .operator),
    (["Punctuation"], .punctuation), (["Text", "Whitespace"], .text)]

/-- What a dotted name leads to. -/
inductive Referent where
  | type (path : List String)
  /-- Something that is no type. -/
  | feature
  deriving DecidableEq, Repr

/-- The words for what types have beside their subtypes and the type above them. -/
def features : List String := ["split", "subtypes", "count", "index"]

/-- The word stands between double underscores, like the names of what every value has. -/
def isReserved (word : String) : Bool :=
  let cs := word.toList
  4 < cs.length && ['_', '_'].isPrefixOf cs && ['_', '_'].isSuffixOf cs

/-- The subtype of a type.  The root is also a word below itself, and strings and numbers may be named
below the root without the word `Literal`. -/
def subtype (path : List String) (word : String) : List String :=
  if path ≠ [] then path ++ [word]
  else if word = "Token" then []
  else if word = "String" || word = "Number" then ["Literal", word]
  else [word]

/-- Where a word leads from a referent. -/
def follow? : Referent → String → Option Referent
  | .feature, word => if isReserved word then some .feature else none
  | .type path, word =>
    if word.toList.head?.any Text.isCapital then some (.type (subtype path word))
    else if word = "parent" then
      some (if path = [] then .feature else .type path.dropLast)
    else if features.contains word || isReserved word then some .feature
    else none

/-- The referent of a dotted name; the empty name is the root. -/
def ofName? (name : String) : Option Referent :=
  if name.isEmpty then some (.type [])
  else
    ((Text.splitAtChar '.' name.toList).map String.ofList).foldlM follow? (.type [])

/-- The kind of the first family that a type belongs to. -/
def kind : Referent → Kind
  | .feature => .other
  | .type path =>
    match families.find? fun family => family.1.isPrefixOf path with
    | some family => family.2
    | none => .other

end TemplateAtlas.TypePath
