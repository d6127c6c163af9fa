import TemplateAtlas.Disk
import TemplateAtlas.Text.Blank
import TemplateAtlas.Text.Utf8
import TemplateAtlas.TomlText

/-!
# Configuration

The settings of a project come from three places: the defaults, the settings file in the root of the
project, and overrides given by the caller.  Each later one takes precedence, field by field.

* `normalizeExtension` — a file extension in small letters with one point in front.
* `Config.merge` — the settings of a project from the fields of its settings file and the overrides.  Every
  recognised field that is present has to be valid, even if an override replaces it; fields that are
  not recognised are passed over.
* `Config.load` — the settings of a project on disk.  A project need not have a settings file.
-/

namespace TemplateAtlas

open Text

/-- Why settings are refused. -/
inductive ConfigFault where
  | notATable (name : String)
  | notAString (field : String)
  | notAnExtension (field : String)
  | notAList (field : String)
  | notOnlyStrings (field : String)
  | emptyWildcard
  | notPositive (field : String)
  | aboveCap (field : String) (cap : Nat)
  | notABoolean
  /-- An override that has to be a text is none. -/
  | notText
  | disk (fault : DiskFault)
  /-- The settings file is not well-formed UTF-8. -/
  | undecodable
  /-- The settings file is no TOML. -/
  | syntaxFault (fault : JsonText.Fault)
  deriving DecidableEq, Repr

/-- The fault in words. -/
def ConfigFault.message : ConfigFault → String
  | notATable name => s!"Config section '{name}' must be a table."
  | notAString field => s!"Config field '{field}' must be a string."
  | notAnExtension field => s!"Config field '{field}' must be a file extension such as '.soy'."
  | notAList field => s!"Config field '{field}' must be a list of strings."
  | notOnlyStrings field => s!"Config field '{field}' must contain only strings."
  | emptyWildcard => "Config field 'index.wildcard' must be a non-empty string."
  | notPositive field => s!"Config field '{field}' must be a positive integer."
  | aboveCap field cap => s!"Config field '{field}' must be <= {cap}."
  | notABoolean => "Config field 'query.reflag_failed_paths' must be a boolean."
  | notText => "An override must be a text."
  | disk fault => fault.message
  | undecodable => "The settings file is not well-formed UTF-8."
  | syntaxFault _ => "The settings file is malformed."

/-- The settings of a project.  Whether failed paths are flagged again is kept as it was given. -/
structure Config where
  root : Path
  extension : String
  excludeGlobs : List String
  wildcard : String
  maxConcurrency : Nat
  reflag : Value
  auditLog : Option Path
  deriving Repr

/-- Settings given by the caller; null stands for none. -/
structure Overrides where
  extension : Value := .null
  maxConcurrency : Value := .null
  reflag : Value := .null
  auditLog : Option Path := none
  deriving Repr

/-- The characters that an extension may not hold. -/
def extensionSpecials : List Char := ['/', '\\', '*', '?']

/-- The extension in small letters, without blanks around it and with one point in front. -/
def normalizeExtension (field : String) (value : String) : Except ConfigFault String :=
  let bare := (lower (strip value.toList)).dropWhile (· = '.')
  if bare.isEmpty || bare.any extensionSpecials.contains then .error (.notAnExtension field)
  else .ok (String.ofList ('.' :: bare))

namespace Config

/-- The largest number of files that may be under way at a time. -/
def concurrencyCap : Nat := 64

/-- The settings without a settings file and overrides, for a resolved root. -/
def defaults (root : Path) : Config where
  root := root
  extension := ".soy"
  excludeGlobs := ["**/.git/**", "**/node_modules/**", "**/.venv/**"]
  wildcard := "*"
  maxConcurrency := 8
  reflag := .bool true
  auditLog := none

/-- A section of the settings file, empty when it is not there. -/
def sectionOf (payload : List (String × Value)) (name : String) :
    Except ConfigFault (List (String × Value)) :=
  match payload.lookup name with
  | none => .ok []
  | some (.table fields) => .ok fields
  | some _ => .error (.notATable name)

/-- A value that has to be a string. -/
def stringOf (field : String) : Value → Except ConfigFault String
  | .text text => .ok text
  | _ => .error (.notAString field)

/-- A value that has to be a list of strings. -/
def stringsOf (field : String) : Value → Except ConfigFault (List String)
  | .list items =>
    match items.mapM fun | .text text => some text | _ => none with
    | some texts => .ok texts
    | none => .error (.notOnlyStrings field)
  | _ => .error (.notAList field)

/-- A value that has to be a whole number from one to the cap; null keeps the present number. -/
def concurrencyOf (field : String) (present : Nat) : Value → Except ConfigFault Nat
  | .null => .ok present
  | .int n =>
    if n < 1 then .error (.notPositive field)
    else if (concurrencyCap : Int) < n then .error (.aboveCap field concurrencyCap)
    else .ok n.toNat
  | _ => .error (.notPositive field)

/-- A field of a section read by the given reader; the present setting stays if it is not there. -/
def fieldOr {α : Type} (fields : List (String × Value)) (name : String) (present : α)
    (read : Value → Except ConfigFault α) : Except ConfigFault α :=
  match fields.lookup name with
  | none => .ok present
  | some value => read value

/-- An extension given in the settings file. -/
def extensionOf (field : String) (value : Value) : Except ConfigFault String := do
  normalizeExtension field (← stringOf field value)

/-- A wildcard given in the settings file. -/
def wildcardOf (value : Value) : Except ConfigFault String := do
  let text ← stringOf "index.wildcard" value
  if text.isEmpty then .error .emptyWildcard else .ok text

/-- A boolean given in the settings file. -/
def reflagOf : Value → Except ConfigFault Value
  | .bool value => .ok (.bool value)
  | _ => .error .notABoolean

/-- A resolved path. -/
def resolved (disk : Disk) (path : Path) : Except ConfigFault Path :=
  (disk.resolve path).mapError .disk

/-- The log file given in the settings file, seen from the root; an empty text stands for none. -/
def auditLogOf (disk : Disk) (root : Path) (value : Value) : Except ConfigFault (Option Path) := do
  let text ← stringOf "logging.audit_log" value
  if text.isEmpty then .ok none
  else some <$> resolved disk (root.join (.ofText text))

/-- The settings with the fields of a settings file put in. -/
def withPayload (disk : Disk) (payload : List (String × Value)) (config : Config) :
    Except ConfigFault Config := do
  let index ← sectionOf payload "index"
  let query ← sectionOf payload "query"
  let logging ← sectionOf payload "logging"
  let extension ← fieldOr index "extension" config.extension (extensionOf "index.extension")
  let excludeGlobs ← fieldOr index "exclude_globs" config.excludeGlobs
    (stringsOf "index.exclude_globs")
  let wildcard ← fieldOr index "wildcard" config.wildcard wildcardOf
  let maxConcurrency ← fieldOr query "max_concurrency" config.maxConcurrency
    (concurrencyOf "query.max_concurrency" config.maxConcurrency)
  let reflag ← fieldOr query "reflag_failed_paths" config.reflag reflagOf
  let auditLog ← fieldOr logging "audit_log" config.auditLog (auditLogOf disk config.root)
  .ok { config with extension, excludeGlobs, wildcard, maxConcurrency, reflag, auditLog }

/-- An extension given by an override; null keeps the present one. -/
def overriddenExtension (present : String) : Value → Except ConfigFault String
  | .null => .ok present
  | .text text => normalizeExtension "overrides.extension" text
  | _ => .error .notText

/-- The settings with the overrides put in. -/
def withOverrides (disk : Disk) (overrides : Overrides) (config : Config) :
    Except ConfigFault Config := do
  let extension ← overriddenExtension config.extension overrides.extension
  let maxConcurrency ← concurrencyOf "overrides.max_concurrency" config.maxConcurrency
    overrides.maxConcurrency
  let reflag := match overrides.reflag with
    | .null => config.reflag
    | value => value
  let auditLog ← match overrides.auditLog with
    | none => .ok config.auditLog
    | some path => some <$> resolved disk path
  .ok { config with extension, maxConcurrency, reflag, auditLog }

/-- The settings of a project with the given root, settings file and overrides. -/
def merge (disk : Disk) (root : Path) (payload : List (String × Value)) (overrides : Overrides) :
    Except ConfigFault Config := do
  let config ← withPayload disk payload (defaults (← resolved disk root))
  withOverrides disk overrides config

/-- The fields of a settings file, nested at most so deep that they have the given weight; none if there is no such
file. -/
def readPayload (weight : Nat) (disk : Disk) (path : Path) : Except ConfigFault (List (String × Value)) :=
  match disk.pathExists path.text with
  | .error fault => .error (.disk fault)
  | .ok false => .ok []
  | .ok true =>
    match disk.read path.text with
    | .error fault => .error (.disk fault)
    | .ok bytes =>
      match Utf8.decode? bytes with
      | none => .error .undecodable
      | some text => (TomlText.parse weight text).mapError .syntaxFault

/-- The settings of a project on disk, whose settings file has the given name. -/
def load (weight : Nat) (disk : Disk) (fileName : String) (root : Path) (overrides : Overrides) :
    Except ConfigFault Config := do
  let root ← resolved disk root
  merge disk root (← readPayload weight disk (root.join (.ofText fileName))) overrides

end Config

end TemplateAtlas
