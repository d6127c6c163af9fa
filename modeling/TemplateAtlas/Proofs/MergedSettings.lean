import Mathlib.Tactic.Common
import TemplateAtlas.Config
import TemplateAtlas.Proofs.WrittenFiles

/-!
# How settings are put together

Settings are given in three layers.  What the payload and the overrides have to be like is said here without the
functions that read them, and so is what comes out.

* `MeansExtension`, `MeansGlobs`, `MeansWildcard`, `MeansCount`, `MeansFlag`, `MeansLog` — which values a field takes,
  and what it is then set to.
* `ValidPayload`, `ValidOverrides` — every field that is given takes its value, also a field of the payload that an
  override replaces.
* `Merged` — field by field, the settings come from the override, or else from the payload, or else from the defaults.
* `Settles` — how a computation of settings ends.  Each reader has one lemma about it, and `Settles.bind` puts them
  together.

`merge_spec` says that settings are merged if and only if payload and overrides are valid.  There is one more way to
fail.  The path of a log is resolved on the disk, and a path that runs into a loop of links has no absolute form.  On a
disk without links every path has one: `not_unresolvable`.

`load_pos` says that queries can be answered with whatever settings are loaded.
-/

namespace TemplateAtlas

open Text

lemma Except.bind_eq_ok_iff {ε α β : Type} {first : Except ε α} {next : α → Except ε β} {result : β} :
    (first >>= next) = .ok result ↔ ∃ value, first = .ok value ∧ next value = .ok result := by
  cases first with
  | error fault => simp [bind, Except.bind]
  | ok value => simp [bind, Except.bind]

lemma Except.bind_eq_error_iff {ε α β : Type} {first : Except ε α} {next : α → Except ε β} {fault : ε} :
    (first >>= next) = .error fault
      ↔ first = .error fault ∨ ∃ value, first = .ok value ∧ next value = .error fault := by
  cases first with
  | error fault => simp [bind, Except.bind]
  | ok value => simp [bind, Except.bind]

/-- The fault lies in the settings themselves.  It lies elsewhere if an override is no text, if the settings file is
nested too deep to be read, or if the disk refuses a path that other disks take. -/
def ConfigFault.isInvalid : ConfigFault → Bool
  | notText => false
  | syntaxFault fault => fault ≠ .tooDeep
  | disk fault => fault = .nulInPath
  | _ => true

namespace Config

variable {α : Type}

/-! ## What the values of settings mean -/

/-- An extension as it is spelled, in small letters and without blanks around it and points in front of it. -/
def bareExtension (text : String) : List Char :=
  (lower (strip text.toList)).dropWhile (· = '.')

/-- A text of which something is left, but none of the special characters, is an extension with one point in front. -/
def MeansExtension (value : Value) (extension : String) : Prop :=
  ∃ text, value = .text text ∧ bareExtension text ≠ [] ∧
    (∀ c ∈ bareExtension text, c ∉ extensionSpecials) ∧
    extension = String.ofList ('.' :: bareExtension text)

/-- A list of texts is a list of globs. -/
def MeansGlobs (value : Value) (globs : List String) : Prop := value = .list (globs.map .text)

/-- A text that is not empty is a wildcard. -/
def MeansWildcard (value : Value) (wildcard : String) : Prop := value = .text wildcard ∧ wildcard ≠ ""

/-- A whole number from 1 to 64 is a number of files. -/
def MeansCount (value : Value) (count : Nat) : Prop := value = .int count ∧ 1 ≤ count ∧ count ≤ 64

/-- A boolean is a flag. -/
def MeansFlag (value flag : Value) : Prop := (∃ on, value = .bool on) ∧ flag = value

/-- An empty text is no log.  Any other is the path of the log, seen from the root and resolved. -/
def MeansLog (disk : Disk) (base : Path) (value : Value) (log : Option Path) : Prop :=
  ∃ text, value = .text text ∧
    if text = "" then log = none
    else ∃ path, disk.resolve (base.join (.ofText text)) = .ok path ∧ log = some path

/-- A reader takes the values that mean something, and finds the settings invalid at all others. -/
structure Reads (read : Value → Except ConfigFault α) (means : Value → α → Prop) : Prop where
  ok_iff : ∀ {value setting}, read value = .ok setting ↔ means value setting
  invalid : ∀ {value fault}, read value = .error fault → fault.isInvalid = true

lemma stringOf_reads (field : String) : Reads (stringOf field) fun value text => value = .text text where
  ok_iff {value setting} := by cases value <;> simp [stringOf]
  invalid {value fault} h := by
    cases value <;> simp [stringOf] at h <;> rw [← h] <;> rfl

lemma normalizeExtension_eq_ok_iff {field text extension : String} :
    normalizeExtension field text = .ok extension ↔ MeansExtension (.text text) extension := by
  have hbare : normalizeExtension field text
      = if (bareExtension text).isEmpty || (bareExtension text).any extensionSpecials.contains then
          .error (.notAnExtension field)
        else .ok (String.ofList ('.' :: bareExtension text)) := rfl
  rw [hbare]
  split_ifs with h
  · rw [Bool.or_eq_true, List.isEmpty_iff, List.any_eq_true] at h
    constructor
    · intro hok
      cases hok
    · rintro ⟨other, hother, hne, hplain, -⟩
      obtain rfl := Value.text.inj hother
      rcases h with h | ⟨c, hc, hspecial⟩
      · exact absurd h hne
      · exact absurd (List.contains_iff_mem.mp hspecial) (hplain c hc)
  · rw [Bool.or_eq_true, not_or, List.isEmpty_iff, List.any_eq_true] at h
    have hplain : ∀ c ∈ bareExtension text, c ∉ extensionSpecials := fun c hc hspecial =>
      h.2 ⟨c, hc, List.contains_iff_mem.mpr hspecial⟩
    constructor
    · intro hok
      exact ⟨text, rfl, h.1, hplain, (Except.ok.inj hok).symm⟩
    · rintro ⟨other, hother, -, -, rfl⟩
      rw [Value.text.inj hother]

lemma normalizeExtension_invalid {field text : String} {fault : ConfigFault}
    (h : normalizeExtension field text = .error fault) : fault.isInvalid = true := by
  simp only [normalizeExtension] at h
  split_ifs at h
  rw [← Except.error.inj h]
  rfl

lemma extensionOf_reads (field : String) : Reads (extensionOf field) MeansExtension where
  ok_iff {value extension} := by
    rw [extensionOf, Except.bind_eq_ok_iff]
    simp only [(stringOf_reads field).ok_iff, normalizeExtension_eq_ok_iff]
    constructor
    · rintro ⟨text, rfl, h⟩
      exact h
    · rintro ⟨text, rfl, h⟩
      exact ⟨text, rfl, text, rfl, h⟩
  invalid {value fault} h := by
    rcases Except.bind_eq_error_iff.mp h with h | ⟨text, -, h⟩
    · exact (stringOf_reads field).invalid h
    · exact normalizeExtension_invalid h

lemma mapM_texts_iff {items : List Value} {texts : List String} :
    (items.mapM fun | .text text => some text | _ => none) = some texts ↔ items = texts.map .text := by
  induction items generalizing texts with
  | nil => cases texts <;> simp
  | cons item items ih =>
      cases item with
      | text text =>
          cases texts with
          | nil => simp [Option.bind_eq_some_iff]
          | cons other texts => simp [Option.bind_eq_some_iff, ih, and_comm]
      | _ => cases texts <;> simp

lemma stringsOf_reads (field : String) : Reads (stringsOf field) MeansGlobs where
  ok_iff {value globs} := by
    cases value with
    | list items =>
        have hglobs : MeansGlobs (.list items) globs ↔ items = globs.map .text :=
          Value.list.injEq .. ▸ Iff.rfl
        rw [hglobs]
        simp only [stringsOf]
        split
        case h_1 texts htexts =>
          rw [Except.ok.injEq]
          constructor
          · rintro rfl
            exact mapM_texts_iff.mp htexts
          · intro hitems
            exact Option.some.inj (htexts.symm.trans (mapM_texts_iff.mpr hitems))
        case h_2 hnone =>
          constructor
          · intro hok
            cases hok
          · intro hitems
            cases hnone.symm.trans (mapM_texts_iff.mpr hitems)
    | _ => simp [stringsOf, MeansGlobs]
  invalid {value fault} h := by
    cases value with
    | list items =>
        simp only [stringsOf] at h
        split at h
        · cases h
        · rw [← Except.error.inj h]
          rfl
    | _ =>
        rw [← Except.error.inj h]
        rfl

lemma wildcardOf_reads : Reads wildcardOf MeansWildcard where
  ok_iff {value wildcard} := by
    rw [wildcardOf, Except.bind_eq_ok_iff]
    simp only [(stringOf_reads _).ok_iff, String.isEmpty_iff]
    constructor
    · rintro ⟨text, rfl, h⟩
      split_ifs at h with hempty
      obtain rfl := Except.ok.inj h
      exact ⟨rfl, hempty⟩
    · rintro ⟨rfl, hne⟩
      exact ⟨wildcard, rfl, if_neg hne⟩
  invalid {value fault} h := by
    rcases Except.bind_eq_error_iff.mp h with h | ⟨text, -, h⟩
    · exact (stringOf_reads _).invalid h
    · split_ifs at h
      rw [← Except.error.inj h]
      rfl

lemma reflagOf_reads : Reads reflagOf MeansFlag where
  ok_iff {value flag} := by
    cases value <;> simp [reflagOf, MeansFlag, eq_comm]
  invalid {value fault} h := by
    cases value <;> simp [reflagOf] at h <;> rw [← h] <;> rfl

/-! ## How computations of settings end -/

/-- A computation that has a result has read what is valid.  If it fails, then either what it read is invalid and the
fault says so, or there is a cause on the disk. -/
structure Settles (outcome : Except ConfigFault α) (valid : Prop) (stuck : DiskFault → Prop) (result : α → Prop) :
    Prop where
  ok : ∀ {setting}, outcome = .ok setting → valid ∧ result setting
  error : ∀ {fault}, outcome = .error fault →
    (fault.isInvalid = true ∧ ¬ valid) ∨ ∃ cause, stuck cause ∧ fault = .disk cause

namespace Settles

variable {β : Type} {outcome : Except ConfigFault α} {valid valid' : Prop} {stuck : DiskFault → Prop}
  {result : α → Prop}

lemma mono {result' : α → Prop} (h : Settles outcome valid stuck result) (hvalid : valid ↔ valid')
    (hresult : ∀ setting, result setting → result' setting) : Settles outcome valid' stuck result' where
  ok hok := by
    obtain ⟨hv, hr⟩ := h.ok hok
    exact ⟨hvalid.mp hv, hresult _ hr⟩
  error herror := by
    rcases h.error herror with ⟨hinvalid, hv⟩ | hcause
    · exact .inl ⟨hinvalid, fun hv' => hv (hvalid.mpr hv')⟩
    · exact .inr hcause

lemma congr (h : Settles outcome valid stuck result) (hvalid : valid ↔ valid') : Settles outcome valid' stuck result :=
  h.mono hvalid fun _ hr => hr

lemma pure {setting : α} (hvalid : valid) (hresult : result setting) :
    Settles (.ok setting) valid stuck result where
  ok hok := ⟨hvalid, Except.ok.inj hok ▸ hresult⟩
  error herror := by cases herror

lemma invalid {fault : ConfigFault} (hinvalid : fault.isInvalid = true) (hvalid : ¬ valid) :
    Settles (.error fault) valid stuck result where
  ok hok := by cases hok
  error herror := .inl ⟨Except.error.inj herror ▸ hinvalid, hvalid⟩

lemma unresolved {cause : DiskFault} (hcause : stuck cause) :
    Settles (.error (.disk cause)) valid stuck result where
  ok hok := by cases hok
  error herror := .inr ⟨cause, hcause, (Except.error.inj herror).symm⟩

lemma bind {next : α → Except ConfigFault β} {result' : β → Prop} (h : Settles outcome valid stuck result)
    (hnext : ∀ setting, result setting → Settles (next setting) valid' stuck result') :
    Settles (outcome >>= next) (valid ∧ valid') stuck result' where
  ok hok := by
    obtain ⟨setting, hsetting, hok⟩ := Except.bind_eq_ok_iff.mp hok
    obtain ⟨hv, hr⟩ := h.ok hsetting
    obtain ⟨hv', hr'⟩ := (hnext setting hr).ok hok
    exact ⟨⟨hv, hv'⟩, hr'⟩
  error herror := by
    rcases Except.bind_eq_error_iff.mp herror with hfirst | ⟨setting, hsetting, herror⟩
    · rcases h.error hfirst with ⟨hinvalid, hv⟩ | hcause
      · exact .inl ⟨hinvalid, fun hboth => hv hboth.1⟩
      · exact .inr hcause
    · rcases (hnext setting (h.ok hsetting).2).error herror with ⟨hinvalid, hv'⟩ | hcause
      · exact .inl ⟨hinvalid, fun hboth => hv' hboth.2⟩
      · exact .inr hcause

lemma map {f : α → β} {result' : β → Prop} (h : Settles outcome valid stuck result)
    (hf : ∀ setting, result setting → result' (f setting)) :
    Settles (outcome >>= fun setting => .ok (f setting)) valid stuck result' :=
  (h.bind fun setting hr => .pure trivial (hf setting hr)).congr (Iff.of_eq (and_true _))

end Settles

/-! ## Fields and sections -/

/-- Null is no setting. -/
def nonNull : Value → Option Value
  | .null => none
  | value => some value

/-- A field in a section of the payload. -/
def setting? (payload : List (String × Value)) (section' field : String) : Option Value :=
  (payload.lookup section').bind (·.field? field)

/-- A setting that is given has a value that means something. -/
def Allowed (means : Value → α → Prop) (given : Option Value) : Prop := ∀ value ∈ given, ∃ setting, means value setting

lemma allowed_none {means : Value → α → Prop} : Allowed means none := by simp [Allowed]

lemma allowed_some {means : Value → α → Prop} {value : Value} {setting : α} (h : means value setting) :
    Allowed means (some value) := by
  intro other hother
  obtain rfl := Option.some.inj hother
  exact ⟨setting, h⟩

/-- The setting is what the given value means, or the present one if none is given. -/
def Chosen (means : Value → α → Prop) (given : Option Value) (present setting : α) : Prop :=
  match given with
  | none => setting = present
  | some value => means value setting

/-- What is given first takes precedence. -/
lemma Chosen.or {means : Value → α → Prop} {first second : Option Value} {default present setting : α}
    (hsecond : Chosen means second default present) (hfirst : Chosen means first present setting) :
    Chosen means (first.or second) default setting := by
  cases first with
  | none =>
      obtain rfl : setting = present := hfirst
      exact hsecond
  | some value => exact hfirst

variable {stuck : DiskFault → Prop}

lemma Reads.settles {read : Value → Except ConfigFault α} {means : Value → α → Prop} (h : Reads read means)
    (value : Value) : Settles (read value) (∃ setting, means value setting) stuck (means value) where
  ok hok := ⟨⟨_, h.ok_iff.mp hok⟩, h.ok_iff.mp hok⟩
  error herror := by
    refine .inl ⟨h.invalid herror, ?_⟩
    rintro ⟨setting, hsetting⟩
    rw [h.ok_iff.mpr hsetting] at herror
    cases herror

lemma fieldOr_settles {fields : List (String × Value)} {name : String} {present : α}
    {read : Value → Except ConfigFault α} {valid : Value → Prop} {means : Value → α → Prop}
    (hread : ∀ value, fields.lookup name = some value → Settles (read value) (valid value) stuck (means value)) :
    Settles (fieldOr fields name present read) (∀ value ∈ fields.lookup name, valid value) stuck
      (Chosen means (fields.lookup name) present) := by
  rw [fieldOr]
  cases hgiven : fields.lookup name with
  | none => exact .pure (by simp) rfl
  | some value => exact (hread value hgiven).congr (by simp)

lemma field_settles {fields : List (String × Value)} {name : String} {present : α}
    {read : Value → Except ConfigFault α} {means : Value → α → Prop} (h : Reads read means) :
    Settles (fieldOr fields name present read) (Allowed means (fields.lookup name)) stuck
      (Chosen means (fields.lookup name) present) :=
  fieldOr_settles fun value _ => h.settles value

/-- A section is a table, if it is there. -/
def IsSection (payload : List (String × Value)) (name : String) : Prop :=
  ∀ value ∈ payload.lookup name, ∃ fields, value = .table fields

lemma sectionOf_settles (payload : List (String × Value)) (name : String) :
    Settles (sectionOf payload name) (IsSection payload name) stuck
      fun fields => ∀ field, fields.lookup field = setting? payload name field := by
  rw [sectionOf, IsSection]
  simp only [setting?]
  cases payload.lookup name with
  | none => exact .pure (by simp) fun field => by simp
  | some value =>
      cases value with
      | table fields => exact .pure (by simp) fun field => by simp [Value.field?, Value.fields]
      | _ => exact .invalid rfl (by simp)

lemma allowed_count_iff {n : Int} : Allowed MeansCount (nonNull (.int n)) ↔ 1 ≤ n ∧ n ≤ 64 := by
  simp only [Allowed, nonNull, Option.mem_some, forall_eq', MeansCount, Value.int.injEq]
  constructor
  · rintro ⟨count, rfl, hbounds⟩
    omega
  · intro hbounds
    exact ⟨n.toNat, by omega⟩

/-- Settings for the number of files let null stand for none. -/
lemma concurrencyOf_settles (field : String) (present : Nat) (value : Value) :
    Settles (concurrencyOf field present value) (Allowed MeansCount (nonNull value)) stuck
      (Chosen MeansCount (nonNull value) present) := by
  cases value with
  | null => exact .pure allowed_none rfl
  | int n =>
      rw [allowed_count_iff]
      rw [concurrencyOf]
      split
      case isTrue hsmall => exact .invalid rfl (by omega)
      case isFalse hsmall =>
        split
        case isTrue hlarge =>
          simp only [concurrencyCap] at hlarge
          exact .invalid rfl (by omega)
        case isFalse hlarge =>
          simp only [concurrencyCap] at hlarge
          refine .pure (by omega) ⟨?_, by omega⟩
          rw [Value.int.injEq]
          omega
  | _ => exact .invalid rfl (by simp [Allowed, nonNull, MeansCount])

lemma maxConcurrency_settles {fields : List (String × Value)} {name field : String} {present : Nat} :
    Settles (fieldOr fields name present (concurrencyOf field present))
      (Allowed MeansCount ((fields.lookup name).bind nonNull)) stuck
      (Chosen MeansCount ((fields.lookup name).bind nonNull) present) := by
  have hread : Settles (fieldOr fields name present (concurrencyOf field present)) _ stuck _ :=
    fieldOr_settles fun value _ => concurrencyOf_settles field present value
  cases hgiven : fields.lookup name with
  | none => exact (hgiven ▸ hread).congr (by simp [allowed_none])
  | some value => exact (hgiven ▸ hread).congr (by simp)

/-! ## Paths -/

/-- A path that holds no U+0000. -/
def IsClean (path : Path) : Prop := ∀ part ∈ path.parts, '\x00' ∉ part.toList

/-- A path that has no absolute form on the disk, for another reason than a U+0000 in it. -/
def Unresolvable (disk : Disk) (path : Path) (cause : DiskFault) : Prop :=
  disk.resolve path = .error cause ∧ cause ≠ .nulInPath

lemma resolve_eq_nulInPath_iff {disk : Disk} {path : Path} :
    disk.resolve path = .error .nulInPath ↔ ¬ IsClean path := by
  have hclean : path.parts.any (·.toList.contains '\x00') = true ↔ ¬ IsClean path := by
    simp [IsClean]
  rw [← hclean, Disk.resolve]
  by_cases hnul : path.parts.any (·.toList.contains '\x00') = true
  · rw [if_pos hnul]
    exact iff_of_true rfl hnul
  · rw [if_neg hnul]
    refine iff_of_false ?_ hnul
    by_cases hgone : (!path.isAbsolute && Disk.isGone disk.current) = true
    · rw [if_pos hgone]
      simp
    · rw [if_neg hgone]
      dsimp only
      split <;> simp

lemma resolved_settles {disk : Disk} {path : Path} (hstuck : ∀ cause, Unresolvable disk path cause → stuck cause) :
    Settles (resolved disk path) (IsClean path) stuck fun found => disk.resolve path = .ok found := by
  rw [resolved]
  cases hresolve : disk.resolve path with
  | ok found =>
      refine .pure ?_ rfl
      by_contra hnul
      rw [resolve_eq_nulInPath_iff.mpr hnul] at hresolve
      cases hresolve
  | error cause =>
      by_cases hnul : cause = .nulInPath
      · subst hnul
        exact .invalid rfl (resolve_eq_nulInPath_iff.mp hresolve)
      · exact .unresolved (hstuck cause ⟨hresolve, hnul⟩)

/-- Nothing on the disk is a link. -/
def IsLinkless (disk : Disk) : Prop := ∀ place node, disk.root.at? place = some node → ¬ node.IsLink

lemma walk_ne_tooManyLinks {disk : Disk} (hdisk : IsLinkless disk) (last : Disk.LastStep)
    (onward : List String → List String → Except DiskFault (List String)) (place names : List String) :
    disk.walk last onward place names ≠ .error .tooManyLinks := by
  induction names generalizing place with
  | nil => simp [Disk.walk]
  | cons name names ih =>
      rw [Disk.walk]
      split
      case h_1 => simp
      case h_3 => simp
      case h_2 entries time hfolder =>
        have hsolid : ∀ target, entries.lookup name ≠ some (.link target) := by
          intro target hlink
          refine hdisk (place ++ [name]) (.link target) ?_ trivial
          rw [Node.at?_append, hfolder, Option.bind_some, Node.at?, hlink]
          rfl
        cases hentry : entries.lookup name with
        | none =>
            dsimp only
            split_ifs <;> first | exact ih _ | simp
        | some node =>
            cases node with
            | link target => exact absurd hentry (hsolid target)
            | _ =>
                dsimp only
                split_ifs <;> first | exact ih _ | simp

/-- Without links every path has an absolute form, as long as the current folder is there. -/
lemma not_unresolvable {disk : Disk} (hdisk : IsLinkless disk) (hhere : Disk.isGone disk.current = false)
    (path : Path) (cause : DiskFault) : ¬ Unresolvable disk path cause := by
  rintro ⟨hresolve, hnul⟩
  have hnode : ∀ text, disk.nodeAt text ≠ .error .tooManyLinks := by
    intro text hnode
    rw [Disk.nodeAt, Disk.locate, Disk.trace] at hnode
    split at hnode
    case h_1 fault hfault =>
      rw [Except.error.inj hnode] at hfault
      split_ifs at hfault
      · cases hfault
      · cases hfault
      · cases hfault
      · exact walk_ne_tooManyLinks hdisk _ _ _ _ hfault
    case h_2 => split at hnode <;> cases hnode
  rw [Disk.resolve, hhere, Bool.and_false] at hresolve
  split at hresolve
  case isTrue => exact hnul (Except.error.inj hresolve).symm
  case isFalse =>
    rw [if_neg Bool.false_ne_true] at hresolve
    dsimp only at hresolve
    split at hresolve
    case h_1 hloop => exact hnode _ hloop
    case h_2 => cases hresolve

/-- The value of a log is a text.  It is empty, or it spells a path without U+0000. -/
def IsLog (base : Path) (value : Value) : Prop :=
  ∃ text, value = .text text ∧ (text = "" ∨ IsClean (base.join (.ofText text)))

lemma auditLogOf_settles {disk : Disk} {base : Path} (value : Value)
    (hstuck : ∀ text cause, value = .text text → text ≠ "" →
      Unresolvable disk (base.join (.ofText text)) cause → stuck cause) :
    Settles (auditLogOf disk base value) (IsLog base value) stuck (MeansLog disk base value) := by
  cases value with
  | text text =>
      have hlog : auditLogOf disk base (.text text)
          = if text = "" then .ok none else
              resolved disk (base.join (.ofText text)) >>= fun path => .ok (some path) := by
        simp only [auditLogOf, stringOf, String.isEmpty_iff]
        rfl
      rw [hlog]
      split_ifs with hempty
      · refine .pure ⟨text, rfl, .inl hempty⟩ ⟨text, rfl, ?_⟩
        rw [if_pos hempty]
      · have hresolved := resolved_settles fun cause => hstuck text cause rfl hempty
        refine Settles.congr (hresolved.map fun path hpath => ⟨text, rfl, ?_⟩) (by simp [IsLog, hempty])
        rw [if_neg hempty]
        exact ⟨path, hpath, rfl⟩
  | _ => exact .invalid rfl (by simp [IsLog])

/-! ## The payload -/

/-- Every section of the payload is a table, and every field in it takes its value. -/
structure ValidPayload (base : Path) (payload : List (String × Value)) : Prop where
  sections : ∀ name ∈ ["index", "query", "logging"], IsSection payload name
  extension : Allowed MeansExtension (setting? payload "index" "extension")
  excludeGlobs : Allowed MeansGlobs (setting? payload "index" "exclude_globs")
  wildcard : Allowed MeansWildcard (setting? payload "index" "wildcard")
  maxConcurrency : Allowed MeansCount ((setting? payload "query" "max_concurrency").bind nonNull)
  reflag : Allowed MeansFlag (setting? payload "query" "reflag_failed_paths")
  auditLog : ∀ value ∈ setting? payload "logging" "audit_log", IsLog base value

/-- The settings with every field that the payload gives. -/
structure WithPayload (disk : Disk) (payload : List (String × Value)) (present config : Config) : Prop where
  root : config.root = present.root
  extension : Chosen MeansExtension (setting? payload "index" "extension") present.extension config.extension
  excludeGlobs : Chosen MeansGlobs (setting? payload "index" "exclude_globs") present.excludeGlobs config.excludeGlobs
  wildcard : Chosen MeansWildcard (setting? payload "index" "wildcard") present.wildcard config.wildcard
  maxConcurrency : Chosen MeansCount ((setting? payload "query" "max_concurrency").bind nonNull)
    present.maxConcurrency config.maxConcurrency
  reflag : Chosen MeansFlag (setting? payload "query" "reflag_failed_paths") present.reflag config.reflag
  auditLog : Chosen (MeansLog disk present.root) (setting? payload "logging" "audit_log") present.auditLog config.auditLog

lemma withPayload_settles {disk : Disk} {payload : List (String × Value)} {present : Config}
    (hstuck : ∀ text cause, setting? payload "logging" "audit_log" = some (.text text) → text ≠ "" →
      Unresolvable disk (present.root.join (.ofText text)) cause → stuck cause) :
    Settles (withPayload disk payload present) (ValidPayload present.root payload) stuck
      (WithPayload disk payload present) := by
  -- one reader after the other, in the order in which they read
  refine Settles.congr
    (.bind (sectionOf_settles payload "index") fun index hindex =>
    .bind (sectionOf_settles payload "query") fun query hquery =>
    .bind (sectionOf_settles payload "logging") fun logging hlogging =>
    .bind (hindex "extension" ▸ field_settles (extensionOf_reads _)) fun extension hextension =>
    .bind (hindex "exclude_globs" ▸ field_settles (stringsOf_reads _)) fun globs hglobs =>
    .bind (hindex "wildcard" ▸ field_settles wildcardOf_reads) fun wildcard hwildcard =>
    .bind (hquery "max_concurrency" ▸ maxConcurrency_settles) fun count hcount =>
    .bind (hquery "reflag_failed_paths" ▸ field_settles reflagOf_reads) fun reflag hreflag =>
    .map (hlogging "audit_log" ▸ fieldOr_settles fun value hvalue => auditLogOf_settles value fun text cause htext =>
      hstuck text cause (by rw [← hlogging, hvalue, htext])) fun log hlog =>
    ⟨rfl, hextension, hglobs, hwildcard, hcount, hreflag, hlog⟩) ?_
  constructor
  · rintro ⟨hindex, hquery, hlogging, hextension, hglobs, hwildcard, hcount, hreflag, hlog⟩
    exact ⟨by simp [hindex, hquery, hlogging], hextension, hglobs, hwildcard, hcount, hreflag, hlog⟩
  · intro h
    exact ⟨h.sections _ (by simp), h.sections _ (by simp), h.sections _ (by simp), h.extension, h.excludeGlobs,
      h.wildcard, h.maxConcurrency, h.reflag, h.auditLog⟩

/-! ## The overrides -/

/-- The overrides that are taken without a look at their type have the type that they are declared with, or are
none. -/
structure Declared (overrides : Overrides) : Prop where
  extension : overrides.extension = .null ∨ ∃ text, overrides.extension = .text text
  reflag : overrides.reflag = .null ∨ ∃ on, overrides.reflag = .bool on

/-- Every override takes its value. -/
structure ValidOverrides (overrides : Overrides) : Prop where
  extension : Allowed MeansExtension (nonNull overrides.extension)
  maxConcurrency : Allowed MeansCount (nonNull overrides.maxConcurrency)
  auditLog : ∀ path ∈ overrides.auditLog, IsClean path

/-- The path of a log given as an override is resolved. -/
def ChosenPath (disk : Disk) (given : Option Path) (present log : Option Path) : Prop :=
  match given with
  | none => log = present
  | some path => ∃ found, disk.resolve path = .ok found ∧ log = some found

/-- The settings with every override. -/
structure WithOverrides (disk : Disk) (overrides : Overrides) (present config : Config) : Prop where
  root : config.root = present.root
  extension : Chosen MeansExtension (nonNull overrides.extension) present.extension config.extension
  excludeGlobs : config.excludeGlobs = present.excludeGlobs
  wildcard : config.wildcard = present.wildcard
  maxConcurrency : Chosen MeansCount (nonNull overrides.maxConcurrency) present.maxConcurrency config.maxConcurrency
  reflag : Chosen MeansFlag (nonNull overrides.reflag) present.reflag config.reflag
  auditLog : ChosenPath disk overrides.auditLog present.auditLog config.auditLog

lemma overriddenExtension_settles {present : String} {value : Value}
    (hdeclared : value = .null ∨ ∃ text, value = .text text) :
    Settles (overriddenExtension present value) (Allowed MeansExtension (nonNull value)) stuck
      (Chosen MeansExtension (nonNull value) present) := by
  rcases hdeclared with rfl | ⟨text, rfl⟩
  · exact .pure allowed_none rfl
  · have hread : Settles (extensionOf "overrides.extension" (.text text)) _ stuck _ :=
      (extensionOf_reads _).settles (.text text)
    exact hread.congr (by simp [Allowed, nonNull])

/-- The log after an override. -/
def overriddenLog (disk : Disk) (present : Option Path) : Option Path → Except ConfigFault (Option Path)
  | none => .ok present
  | some path => resolved disk path >>= fun found => .ok (some found)

lemma overriddenLog_settles {disk : Disk} {present given : Option Path}
    (hstuck : ∀ path cause, given = some path → Unresolvable disk path cause → stuck cause) :
    Settles (overriddenLog disk present given) (∀ path ∈ given, IsClean path) stuck
      (ChosenPath disk given present) := by
  cases given with
  | none => exact .pure (by simp) rfl
  | some path =>
      have hresolved := resolved_settles fun cause => hstuck path cause rfl
      exact Settles.congr (hresolved.map fun found hfound => ⟨found, hfound, rfl⟩) (by simp)

/-- Whether paths are flagged again, after an override. -/
def overriddenReflag (present : Value) : Value → Value
  | .null => present
  | value => value

lemma overriddenReflag_chosen {present value : Value} (hdeclared : value = .null ∨ ∃ on, value = .bool on) :
    Chosen MeansFlag (nonNull value) present (overriddenReflag present value) := by
  rcases hdeclared with rfl | ⟨on, rfl⟩
  · exact rfl
  · exact ⟨⟨on, rfl⟩, rfl⟩

lemma withOverrides_eq (disk : Disk) (overrides : Overrides) (present : Config) :
    withOverrides disk overrides present
      = overriddenExtension present.extension overrides.extension >>= fun extension =>
        concurrencyOf "overrides.max_concurrency" present.maxConcurrency overrides.maxConcurrency >>= fun count =>
        overriddenLog disk present.auditLog overrides.auditLog >>= fun log =>
        .ok { present with
          extension := extension, maxConcurrency := count, auditLog := log,
          reflag := overriddenReflag present.reflag overrides.reflag } := by
  rw [withOverrides]
  cases overrides.auditLog <;> rfl

lemma withOverrides_settles {disk : Disk} {overrides : Overrides} {present : Config} (hdeclared : Declared overrides)
    (hstuck : ∀ path cause, overrides.auditLog = some path → Unresolvable disk path cause → stuck cause) :
    Settles (withOverrides disk overrides present) (ValidOverrides overrides) stuck
      (WithOverrides disk overrides present) := by
  rw [withOverrides_eq]
  refine Settles.congr
    (.bind (overriddenExtension_settles hdeclared.extension) fun extension hextension =>
    .bind (concurrencyOf_settles _ _ _) fun count hcount =>
    .map (overriddenLog_settles hstuck) fun log hlog =>
    ⟨rfl, hextension, rfl, rfl, hcount, overriddenReflag_chosen hdeclared.reflag, hlog⟩) ?_
  exact ⟨fun ⟨hextension, hcount, hlog⟩ => ⟨hextension, hcount, hlog⟩,
    fun h => ⟨h.extension, h.maxConcurrency, h.auditLog⟩⟩

/-! ## All layers -/

/-- The log comes from the override, or else from the payload.  Without both there is none. -/
def ChosenLog (disk : Disk) (base : Path) (override : Option Path) (given : Option Value)
    (log : Option Path) : Prop :=
  match override with
  | none => Chosen (MeansLog disk base) given none log
  | some path => ∃ found, disk.resolve path = .ok found ∧ log = some found

/-- Field by field, the settings are what the override means.  Without one they are what the payload means, and
without that field in it they are the defaults. -/
structure Merged (disk : Disk) (base : Path) (payload : List (String × Value)) (overrides : Overrides)
    (config : Config) : Prop where
  root : config.root = base
  extension : Chosen MeansExtension ((nonNull overrides.extension).or (setting? payload "index" "extension"))
    (defaults base).extension config.extension
  excludeGlobs : Chosen MeansGlobs (setting? payload "index" "exclude_globs") (defaults base).excludeGlobs
    config.excludeGlobs
  wildcard : Chosen MeansWildcard (setting? payload "index" "wildcard") (defaults base).wildcard config.wildcard
  wildcard_ne : config.wildcard ≠ ""
  maxConcurrency : Chosen MeansCount
    ((nonNull overrides.maxConcurrency).or ((setting? payload "query" "max_concurrency").bind nonNull))
    (defaults base).maxConcurrency config.maxConcurrency
  maxConcurrency_bounds : 1 ≤ config.maxConcurrency ∧ config.maxConcurrency ≤ 64
  reflag : Chosen MeansFlag ((nonNull overrides.reflag).or (setting? payload "query" "reflag_failed_paths"))
    (defaults base).reflag config.reflag
  auditLog : ChosenLog disk base overrides.auditLog (setting? payload "logging" "audit_log") config.auditLog

/-- The path of a log is among the settings, also if another one takes precedence over it. -/
def GivesLog (base : Path) (payload : List (String × Value)) (overrides : Overrides) (path : Path) : Prop :=
  overrides.auditLog = some path ∨ ∃ text, setting? payload "logging" "audit_log" = some (.text text) ∧ text ≠ "" ∧
    path = base.join (.ofText text)

/-- The path of a log has no absolute form. -/
def LogUnresolvable (disk : Disk) (base : Path) (payload : List (String × Value)) (overrides : Overrides)
    (cause : DiskFault) : Prop :=
  ∃ path, GivesLog base payload overrides path ∧ Unresolvable disk path cause

lemma Chosen.induct {means : Value → α → Prop} {given : Option Value} {present setting : α} {motive : α → Prop}
    (h : Chosen means given present setting) (hpresent : motive present)
    (hmeans : ∀ value other, means value other → motive other) : motive setting := by
  cases given with
  | none =>
      obtain rfl : setting = present := h
      exact hpresent
  | some value => exact hmeans value setting h

lemma merged_of_layers {disk : Disk} {base : Path} {payload : List (String × Value)} {overrides : Overrides}
    {present config : Config} (hpayload : WithPayload disk payload (defaults base) present)
    (hoverrides : WithOverrides disk overrides present config) : Merged disk base payload overrides config where
  root := hoverrides.root.trans hpayload.root
  extension := hpayload.extension.or hoverrides.extension
  excludeGlobs := hoverrides.excludeGlobs ▸ hpayload.excludeGlobs
  wildcard := hoverrides.wildcard ▸ hpayload.wildcard
  wildcard_ne := by
    rw [hoverrides.wildcard]
    exact hpayload.wildcard.induct (motive := (· ≠ "")) (by simp [defaults]) fun _ _ h => h.2
  maxConcurrency := hpayload.maxConcurrency.or hoverrides.maxConcurrency
  maxConcurrency_bounds := by
    have hcount := hpayload.maxConcurrency.or hoverrides.maxConcurrency
    exact hcount.induct (motive := fun count => 1 ≤ count ∧ count ≤ 64) (by simp [defaults]) fun _ _ h => h.2
  reflag := hpayload.reflag.or hoverrides.reflag
  auditLog := by
    have hlog := hoverrides.auditLog
    cases hgiven : overrides.auditLog with
    | none =>
        rw [hgiven] at hlog
        obtain hlog : config.auditLog = present.auditLog := hlog
        exact hlog ▸ hpayload.auditLog
    | some path =>
        rw [hgiven] at hlog
        exact hlog

section

variable {disk : Disk} {root base : Path} {payload : List (String × Value)} {overrides : Overrides}

lemma merge_settles (hroot : disk.resolve root = .ok base) (hdeclared : Declared overrides) :
    Settles (merge disk root payload overrides) (ValidPayload base payload ∧ ValidOverrides overrides)
      (LogUnresolvable disk base payload overrides) (Merged disk base payload overrides) := by
  have hlayers : merge disk root payload overrides
      = withPayload disk payload (defaults base) >>= withOverrides disk overrides := by
    rw [merge, resolved, hroot]
    rfl
  rw [hlayers]
  refine .bind (withPayload_settles fun text cause htext hne hcause => ⟨_, .inr ⟨text, htext, hne, rfl⟩, hcause⟩)
    fun present hpresent => ?_
  have hoverrides : Settles (withOverrides disk overrides present) _ (LogUnresolvable disk base payload overrides) _ :=
    withOverrides_settles hdeclared fun path cause hpath hcause => ⟨path, .inl hpath, hcause⟩
  exact hoverrides.mono Iff.rfl fun config hconfig => merged_of_layers hpresent hconfig

/-- Payload and overrides are refused if and only if they are invalid, and otherwise they are merged.  That is so if
the paths of logs have absolute forms on the disk.  Whatever the disk is like, what was merged was valid, and nothing
else goes wrong than that one of these paths has no absolute form. -/
theorem merge_spec (hroot : disk.resolve root = .ok base) (hdeclared : Declared overrides) :
    ((∀ cause, ¬ LogUnresolvable disk base payload overrides cause) →
      ((∃ fault, merge disk root payload overrides = .error fault ∧ fault.isInvalid = true)
        ↔ ¬ (ValidPayload base payload ∧ ValidOverrides overrides)) ∧
      (ValidPayload base payload ∧ ValidOverrides overrides →
        ∃ config, merge disk root payload overrides = .ok config ∧ Merged disk base payload overrides config)) ∧
    (∀ config, merge disk root payload overrides = .ok config →
      (ValidPayload base payload ∧ ValidOverrides overrides) ∧ Merged disk base payload overrides config) ∧
    ∀ fault, merge disk root payload overrides = .error fault → fault.isInvalid = false →
      ∃ cause, LogUnresolvable disk base payload overrides cause ∧ fault = .disk cause := by
  have hmerge : Settles (merge disk root payload overrides) _ _ _ := merge_settles hroot hdeclared
  refine ⟨fun hresolves => ?_, fun config => hmerge.ok, fun fault herror hfault => ?_⟩
  · have herrors : ∀ fault, merge disk root payload overrides = .error fault →
        fault.isInvalid = true ∧ ¬ (ValidPayload base payload ∧ ValidOverrides overrides) := by
      intro fault herror
      exact (hmerge.error herror).resolve_right fun ⟨cause, hcause, _⟩ => hresolves cause hcause
    cases hresult : merge disk root payload overrides with
    | ok config =>
        obtain ⟨hvalid, hmerged⟩ := hmerge.ok hresult
        refine ⟨iff_of_false ?_ fun hnot => hnot hvalid, fun _ => ⟨config, rfl, hmerged⟩⟩
        rintro ⟨fault, herror, -⟩
        cases herror
    | error fault =>
        obtain ⟨hinvalid, hnot⟩ := herrors fault hresult
        exact ⟨iff_of_true ⟨fault, rfl, hinvalid⟩ hnot, fun hvalid => absurd hvalid hnot⟩
  · rcases hmerge.error herror with ⟨hinvalid, -⟩ | hcause
    · rw [hfault] at hinvalid
      cases hinvalid
    · exact hcause

end

/-- The override for the number of files goes before the payload, and the extension of the payload before the
default one. -/
theorem merge_spec_three_files :
    (Disk.mk (.folder [("p", .folder [] 0)] 0) ["p"] 0).resolve (.ofText ".") = .ok ⟨.slash, ["p"]⟩ ∧
    Declared { maxConcurrency := .int 3 } ∧
    ∃ config, merge (Disk.mk (.folder [("p", .folder [] 0)] 0) ["p"] 0) (.ofText ".")
        [("index", .table [("extension", .text " .TXT")]), ("query", .table [("max_concurrency", .int 5)])]
        { maxConcurrency := .int 3 } = .ok config ∧
      config.extension = ".txt" ∧ config.maxConcurrency = 3 := by
  have hroot : (Disk.mk (.folder [("p", .folder [] 0)] 0) ["p"] 0).resolve (.ofText ".") = .ok ⟨.slash, ["p"]⟩ := by
    decide
  have hdeclared : Declared { maxConcurrency := .int 3 } := ⟨.inl rfl, .inl rfl⟩
  have hlinkless : IsLinkless (Disk.mk (.folder [("p", .folder [] 0)] 0) ["p"] 0) := by
    intro place node hnode
    rcases place with _ | ⟨name, _ | ⟨inner, place⟩⟩
    · obtain rfl := Option.some.inj hnode
      exact id
    · simp only [Node.at?, List.lookup_cons, List.lookup_nil] at hnode
      split at hnode
      · obtain rfl := Option.some.inj hnode
        exact id
      · cases hnode
    · simp only [Node.at?, List.lookup_cons, List.lookup_nil] at hnode
      split at hnode <;> cases hnode
  have hpayload : ValidPayload ⟨.slash, ["p"]⟩
      [("index", .table [("extension", .text " .TXT")]), ("query", .table [("max_concurrency", .int 5)])] := by
    have hbare : bareExtension " .TXT" = ['t', 'x', 't'] := rfl
    refine ⟨by simp [IsSection, List.lookup_cons], allowed_some ⟨" .TXT", rfl, ?_, ?_, rfl⟩, allowed_none, allowed_none,
      allowed_count_iff.mpr (by decide), allowed_none, ?_⟩
    · rw [hbare]
      decide
    · simp [hbare, extensionSpecials]
    · intro value hvalue
      cases hvalue
  have hoverrides : ValidOverrides { maxConcurrency := .int 3 } :=
    ⟨allowed_none, allowed_count_iff.mpr (by decide), by simp⟩
  refine ⟨hroot, hdeclared, ?_⟩
  have hresolvable : ∀ path cause, ¬ Unresolvable (Disk.mk (.folder [("p", .folder [] 0)] 0) ["p"] 0) path cause :=
    not_unresolvable hlinkless (by decide)
  obtain ⟨config, hconfig, hmerged⟩ := ((merge_spec hroot hdeclared).1 (by
    rintro cause ⟨path, -, hcause⟩
    exact hresolvable path cause hcause)).2 ⟨hpayload, hoverrides⟩
  obtain ⟨text, htext, -, -, hextension⟩ := hmerged.extension
  obtain rfl := Value.text.inj htext
  obtain ⟨hcount, -⟩ := hmerged.maxConcurrency
  refine ⟨config, hconfig, ?_, ?_⟩
  · rw [hextension]
    decide
  · have := Value.int.inj hcount
    omega

/-- **The absolute form of a log can be wanting.**  The log of the payload is a link to itself: payload and overrides
are valid, and yet they are neither merged nor refused as invalid.  A text that spells no path at all, for the U+0000
in it, is refused as invalid, by the disk and not by a rule about the field. -/
theorem merge_loop :
    let disk := Disk.mk (.folder [("p", .folder [("loop", .link "loop")] 0)] 0) ["p"] 0
    let logging (text : String) := [("logging", Value.table [("audit_log", .text text)])]
    disk.resolve (.ofText ".") = .ok ⟨.slash, ["p"]⟩ ∧ Declared {} ∧
      ValidPayload ⟨.slash, ["p"]⟩ (logging "loop") ∧ ValidOverrides {} ∧
      (∃ fault, merge disk (.ofText ".") (logging "loop") {} = .error fault ∧ fault.isInvalid = false ∧
        fault.message = "Symlink loop from '/p/loop'") ∧
      ∃ fault, merge disk (.ofText ".") (logging "a\x00b") {} = .error fault ∧ fault.isInvalid = true ∧
        fault.message = "embedded null byte" := by
  intro disk logging
  have hroot : disk.resolve (.ofText ".") = .ok ⟨.slash, ["p"]⟩ := by decide
  have hpayload : ValidPayload ⟨.slash, ["p"]⟩ (logging "loop") := by
    refine ⟨by simp [logging, IsSection, List.lookup_cons], allowed_none, allowed_none, allowed_none, allowed_none,
      allowed_none, ?_⟩
    intro value hvalue
    obtain rfl : value = .text "loop" := (Option.some.inj hvalue).symm
    refine ⟨"loop", rfl, .inr ?_⟩
    unfold IsClean
    decide
  have hmerge : ∀ text cause, text ≠ "" → disk.resolve (Path.join ⟨.slash, ["p"]⟩ (.ofText text)) = .error cause →
      merge disk (.ofText ".") (logging text) {} = .error (.disk cause) := by
    intro text cause hne hcause
    simp [merge, withPayload, auditLogOf, resolved, hroot, hcause, hne, logging, defaults, sectionOf, fieldOr, stringOf,
      List.lookup_cons, List.lookup_nil, bind, Except.bind, Functor.map, Except.map, Except.mapError]
  refine ⟨hroot, ⟨.inl rfl, .inl rfl⟩, hpayload, ⟨allowed_none, allowed_none, by simp⟩, ?_, ?_⟩
  · exact ⟨_, hmerge "loop" (.linkLoop "/p/loop") (by decide) (by decide +kernel), rfl, by decide⟩
  · exact ⟨_, hmerge "a\x00b" .nulInPath (by decide) (by decide +kernel), rfl, rfl⟩

/-! ## Places for loads -/

lemma concurrencyOf_pos {field : String} {present number : Nat} {value : Value}
    (hpresent : 0 < present) (h : concurrencyOf field present value = .ok number) : 0 < number := by
  have hsettles : Settles (concurrencyOf field present value) _ (fun _ => False) _ := concurrencyOf_settles _ _ _
  exact (hsettles.ok h).2.induct (motive := (0 < ·)) hpresent fun _ _ hcount => hcount.2.1

lemma withPayload_pos {disk : Disk} {payload : List (String × Value)} {config merged : Config}
    (hpresent : 0 < config.maxConcurrency) (h : withPayload disk payload config = .ok merged) :
    0 < merged.maxConcurrency := by
  have hsettles : Settles (withPayload disk payload config) _ (fun _ => True) _ :=
    withPayload_settles fun _ _ _ _ _ => trivial
  exact (hsettles.ok h).2.maxConcurrency.induct (motive := (0 < ·)) hpresent fun _ _ hcount => hcount.2.1

lemma withOverrides_pos {disk : Disk} {overrides : Overrides} {config merged : Config}
    (hpresent : 0 < config.maxConcurrency) (h : withOverrides disk overrides config = .ok merged) :
    0 < merged.maxConcurrency := by
  rw [withOverrides] at h
  obtain ⟨extension, -, h⟩ := Except.bind_eq_ok_iff.mp h
  obtain ⟨number, hnumber, h⟩ := Except.bind_eq_ok_iff.mp h
  cases hlog : overrides.auditLog
  all_goals
    simp only [hlog] at h
    obtain ⟨auditLog, -, h⟩ := Except.bind_eq_ok_iff.mp h
    rw [Except.ok.injEq] at h
    rw [← h]
    exact concurrencyOf_pos hpresent hnumber

/-- **Settings that were loaded leave a place for at least one load**, so that queries can be answered with them. -/
theorem load_pos {weight : Nat} {disk : Disk} {fileName : String} {root : Path} {overrides : Overrides}
    {config : Config} (h : load weight disk fileName root overrides = .ok config) :
    0 < config.maxConcurrency := by
  rw [load] at h
  obtain ⟨resolved, -, h⟩ := Except.bind_eq_ok_iff.mp h
  obtain ⟨payload, -, h⟩ := Except.bind_eq_ok_iff.mp h
  rw [merge] at h
  obtain ⟨root, -, h⟩ := Except.bind_eq_ok_iff.mp h
  obtain ⟨merged, hmerged, h⟩ := Except.bind_eq_ok_iff.mp h
  exact withOverrides_pos (withPayload_pos (Nat.succ_pos _) hmerged) h

end Config

end TemplateAtlas
