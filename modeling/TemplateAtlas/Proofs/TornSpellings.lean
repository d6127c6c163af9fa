import Mathlib.Data.List.Infix
import Mathlib.Tactic.Common
import TemplateAtlas.Proofs.JsonSpelling

/-!
# Spellings that break off

The spelling of a value may break off anywhere, and something else may follow at once.  What is read then is no
table, whatever character it breaks off at.

**What follows.**  Nothing follows, or a table that has a name in front: `Sequel`.  No text that may follow goes
on with a list or a table that is open, or closes one: it is `Unfinished`, and so is what is left of it behind a
string that it ends.

**Halting.**  A reader that comes to the place where a spelling breaks off finds nothing that is well formed, or
stops in front of a text that is unfinished: `Halts`.  `Severable` says this of a spelling, and there is one lemma
for each way in which a spelling is put together, as in `Proofs.JsonSpelling`.  Inside brackets that have not been
closed, nothing well formed is left, whether they hold items or fields: `pieces_cut`.
-/

namespace TemplateAtlas.JsonText

open Text

/-! ## What follows -/

/-- A text that does not go on with the next item, the value of a field, or a bracket that closes. -/
def Unfinished (rest : List Char) : Prop :=
  ∀ c ∈ (skipSpace rest).head?, c ≠ ',' ∧ c ≠ ':' ∧ c ≠ ']' ∧ c ≠ '\x7d'

/-- What is read up to the end of something that breaks off: nothing well formed, or a value in front of a text that
is unfinished. -/
def Halts {α : Type} (answer : Read α) : Prop :=
  answer = .error .malformed ∨ ∃ value rest, answer = .ok (value, rest) ∧ Unfinished rest

/-- What is read of brackets that break off: nothing well formed, unless they have been closed before. -/
def Closes {α : Type} (front text sequel : List Char) (answer : Read α) : Prop :=
  answer = .error .malformed ∨ front = text ∧ ∃ value, answer = .ok (value, sequel)

/-- What may follow at once where a spelling breaks off: nothing, or a table that has a name in front and is nested at
most the given number of levels deep. -/
structure Sequel (levels : Nat) (sequel : List Char) : Prop where
  start : sequel = [] ∨ ∃ rest, sequel = '\x7b' :: '"' :: rest ∧ Unfinished rest
  value : ∀ size depth, levels ≤ depth → sequel.length ≤ size → Halts (readValue size depth sequel)

/-- A spelling that may break off anywhere. -/
structure Severable (sequel : List Char) (depth : Nat) (text : List Char) (value : Value Codes) : Prop
    extends Spells depth text value where
  halts : ∀ front size, front <+: text → (front ++ sequel).length ≤ size →
    Halts (readValue size depth (front ++ sequel))

/-- The spelling of a table that may break off anywhere.  Where it does, nothing well formed is left. -/
structure SeverableTable (sequel : List Char) (depth : Nat) (text : List Char)
    (fields : List (Codes × Value Codes)) : Prop extends Severable sequel depth text (.table fields) where
  closes : ∀ front size, front ≠ [] → front <+: text → (front ++ sequel).length ≤ size →
    Closes front text sequel (readValue size depth (front ++ sequel))

lemma Halts.map {α β : Type} {answer : Read α} (h : Halts answer) (f : α → β) :
    Halts (answer.map fun (value, rest) => (f value, rest)) := by
  obtain rfl | ⟨value, rest, rfl, hrest⟩ := h
  · exact Or.inl rfl
  · exact Or.inr ⟨f value, rest, rfl, hrest⟩

/-- What is made of brackets that break off, behind more of the same text. -/
lemma Closes.map {α β : Type} {front text sequel : List Char} {answer : Read α}
    (h : Closes front text sequel answer) (before : List Char) (f : α → β) :
    Closes (before ++ front) (before ++ text) sequel
      (answer.map fun (value, rest) => (f value, rest)) := by
  obtain rfl | ⟨rfl, value, rfl⟩ := h
  · exact Or.inl rfl
  · exact Or.inr ⟨rfl, f value, rfl⟩

/-- Nothing may always follow. -/
lemma Sequel.nil : Sequel 0 [] where
  start := Or.inl rfl
  value _ _ _ _ := Or.inl (by rw [readValue.eq_def]; rfl)

section

variable {levels : Nat} {sequel : List Char} (hsequel : Sequel levels sequel)

include hsequel

/-- What follows has no blanks in front. -/
lemma Sequel.skipSpace : skipSpace sequel = sequel := by
  obtain rfl | ⟨rest, rfl, -⟩ := hsequel.start
  · rfl
  · rfl

lemma Sequel.unfinished : Unfinished sequel := by
  rw [Unfinished, hsequel.skipSpace]
  obtain rfl | ⟨rest, rfl, -⟩ := hsequel.start
  · exact fun c hc => absurd hc (by simp)
  · intro c hc
    obtain rfl : '\x7b' = c := by simpa using hc
    decide

lemma Sequel.endsNumber : EndsNumber sequel := by
  refine endsNumber_of_head ?_
  obtain rfl | ⟨rest, rfl, -⟩ := hsequel.start
  · exact fun c hc => absurd hc (by simp)
  · intro c hc
    obtain rfl : '\x7b' = c := by simpa using hc
    decide

/-- Brackets that break off are not well formed, or something that is unfinished follows them. -/
lemma Closes.halts {α : Type} {front text : List Char} {answer : Read α}
    (h : Closes front text sequel answer) : Halts answer :=
  h.imp_right fun ⟨_, value, hanswer⟩ => ⟨value, sequel, hanswer, hsequel.unfinished⟩

end

/-- A text breaks off in its first part or in its second. -/
lemma prefix_append_cases {α : Type} {front first second : List α} (h : front <+: first ++ second) :
    front <+: first ∨ ∃ behind, front = first ++ behind ∧ behind <+: second := by
  rcases List.prefix_or_prefix_of_prefix h (List.prefix_append first second) with hfront | ⟨behind, rfl⟩
  · exact Or.inl hfront
  · exact Or.inr ⟨behind, rfl, (List.prefix_append_right_inj first).mp h⟩

/-- Of two parts with two characters between them, a text breaks off in the first, between the characters, or in the
second. -/
lemma prefix_between_cases {α : Type} {front first second : List α} {a b : α}
    (h : front <+: first ++ a :: b :: second) :
    front <+: first ∨ front = first ++ [a] ∨
      ∃ behind, front = first ++ a :: b :: behind ∧ behind <+: second := by
  rcases prefix_append_cases h with hfront | ⟨_, rfl, hnext⟩
  · exact Or.inl hfront
  rcases List.prefix_cons_iff.mp hnext with rfl | ⟨_, rfl, hlast⟩
  · exact Or.inl (by rw [List.append_nil])
  rcases List.prefix_cons_iff.mp hlast with rfl | ⟨behind, rfl, hbehind⟩
  · exact Or.inr (Or.inl rfl)
  · exact Or.inr (Or.inr ⟨behind, rfl, hbehind⟩)

/-! ## Pieces between brackets -/

/-- A piece between brackets that may break off anywhere.  Where it does, nothing well formed is left. -/
structure SeverablePiece {α : Type} (read : Nat → List Char → Read (List α)) (close : Char) (size : Nat)
    (sequel text : List Char) (piece : α) : Prop extends ReadsPiece read close size text piece where
  cut : ∀ front fuel, front <+: text → (front ++ sequel).length ≤ size →
    read fuel (front ++ sequel) = .error .malformed

/-- Pieces that break off are not well formed, unless the bracket behind them is there. -/
lemma pieces_cut {α : Type} {read : Nat → List Char → Read (List α)} {close : Char} {size : Nat}
    {sequel : List Char} (hread : ReadsPieces read) {texts : List (List Char)}
    {pieces : List α} (h : List.Forall₂ (SeverablePiece read close size sequel) texts pieces)
    (hne : texts ≠ []) {front : List Char} (hfront : front <+: separated texts ++ [close])
    (hsize : (front ++ sequel).length ≤ size) (fuel : Nat) :
    Closes front (separated texts ++ [close]) sequel (read fuel (front ++ sequel)) := by
  induction h generalizing front fuel with
  | nil => exact absurd rfl hne
  | @cons text piece texts pieces hpiece hothers ih =>
      have hcut : front <+: text → read fuel (front ++ sequel) = .error .malformed :=
        fun hfront => hpiece.cut front fuel hfront hsize
      cases fuel with
      | zero => exact Or.inl (hread.none _)
      | succ fuel =>
          cases hothers with
          | nil =>
              rw [separated_singleton] at hfront ⊢
              rcases List.prefix_concat_iff.mp hfront with rfl | hfront
              · have hlength : text.length ≤ size := by simp at hsize; omega
                rw [List.append_assoc, List.singleton_append, hpiece.last hlength]
                exact Or.inr ⟨rfl, _, rfl⟩
              · exact Or.inl (hcut hfront)
          | @cons second other texts pieces hsecond hothers =>
              rw [separated_cons_cons, List.append_assoc] at hfront ⊢
              rcases prefix_between_cases hfront with hfront | rfl | ⟨behind, rfl, hbehind⟩
              · exact Or.inl (hcut hfront)
              · have hlength : text.length ≤ size ∧ sequel.length ≤ size := by
                  simp at hsize
                  omega
                have hnone : read fuel sequel = .error .malformed :=
                  hsecond.cut [] fuel List.nil_prefix hlength.2
                rw [List.append_assoc, List.singleton_append, hpiece.next hlength.1, hnone]
                exact Or.inl rfl
              · have hlength : text.length ≤ size ∧ (behind ++ sequel).length ≤ size := by
                  simp at hsize ⊢
                  omega
                have hothers := ih (List.cons_ne_nil _ _) hbehind hlength.2 fuel
                have hnext := hpiece.next hlength.1 fuel (' ' :: (behind ++ sequel))
                rw [hread.blank] at hnext
                have hcloses := hothers.map (text ++ [',', ' ']) (piece :: ·)
                rw [← hnext] at hcloses
                simpa using hcloses

/-! ## Strings -/

lemma splitString?_cons {c : Char} (hquote : c ≠ '"') (hslash : c ≠ '\\') (rest : List Char) :
    splitString? (c :: rest) = (splitString? rest).map fun (body, rest) => (c :: body, rest) := by
  rw [splitString?]
  · simp [hquote]
  · simp [hslash]

/-- A string that breaks off does not end, or it ends with the quote of the name that follows. -/
lemma splitString?_cut {s body rest front : List Char} (h : splitString? s = some (body, rest))
    (hfront : front <+: body) :
    splitString? front = none ∧
      ∀ behind, splitString? (front ++ '\x7b' :: '"' :: behind) = some (front ++ ['\x7b'], behind) := by
  fun_induction splitString? s generalizing body front with
  | case1 => simp at h
  | case2 after =>
      rw [Option.some.injEq, Prod.mk.injEq] at h
      obtain ⟨rfl, -⟩ := h
      obtain rfl := List.prefix_nil.mp hfront
      exact ⟨rfl, fun behind => rfl⟩
  | case3 c after ih =>
      obtain ⟨⟨inner, _⟩, hinner, heq⟩ := Option.map_eq_some_iff.mp h
      obtain ⟨rfl, rfl⟩ := Prod.mk.inj heq
      -- The text may break off behind the backslash: what follows is escaped then, but not the quote behind it.
      rcases List.prefix_cons_iff.mp hfront with rfl | ⟨front, rfl, hescape⟩
      · exact ⟨rfl, fun behind => rfl⟩
      rcases List.prefix_cons_iff.mp hescape with rfl | ⟨front, rfl, hbehind⟩
      · exact ⟨rfl, fun behind => rfl⟩
      obtain ⟨hnone, hsome⟩ := ih hinner hbehind
      simp [splitString?, hnone, hsome]
  | case4 c after hquote hslash ih =>
      obtain ⟨⟨inner, _⟩, hinner, heq⟩ := Option.map_eq_some_iff.mp h
      obtain ⟨rfl, rfl⟩ := Prod.mk.inj heq
      have hplain : c ≠ '\\' := by
        rintro rfl
        cases after with
        | nil => simp [splitString?] at hinner
        | cons d after => exact hslash d after rfl rfl
      rcases List.prefix_cons_iff.mp hfront with rfl | ⟨front, rfl, hbehind⟩
      · refine ⟨rfl, fun behind => ?_⟩
        rfl
      obtain ⟨hnone, hsome⟩ := ih hinner hbehind
      simp [splitString?_cons hquote hplain, hnone, hsome]

section

variable {levels depth : Nat} {sequel : List Char} (hsequel : Sequel levels sequel)

include hsequel

/-- Behind a string that breaks off, what is left of what follows is unfinished. -/
lemma readString_cut (s : String) {front : List Char}
    (hfront : front <+: s.toList.flatMap escapeChar ++ ['"']) : Halts (readString (front ++ sequel)) := by
  rcases List.prefix_concat_iff.mp hfront with rfl | hbody
  · rw [List.append_assoc, List.singleton_append, readString_renderString]
    exact Or.inr ⟨codes s, sequel, rfl, hsequel.unfinished⟩
  obtain ⟨hnone, hsome⟩ := splitString?_cut (splitString?_body s.toList []) hbody
  obtain rfl | ⟨rest, rfl, hrest⟩ := hsequel.start
  · rw [List.append_nil, readString, hnone]
    exact Or.inl rfl
  · rw [readString, hsome]
    simp only
    cases decodeBody? (front ++ ['\x7b']).length (front ++ ['\x7b']) with
    | none => exact Or.inl rfl
    | some cs => exact Or.inr ⟨_, rest, rfl, hrest⟩

/-- A string may break off. -/
theorem severable_text (hdepth : levels ≤ depth) (s : String) :
    Severable sequel depth (renderString s) (.text (codes s)) where
  toSpells := spells_text depth s
  halts := by
    intro front size hfront hsize
    rw [renderString, List.cons_append] at hfront
    rcases List.prefix_cons_iff.mp hfront with rfl | ⟨front, rfl, hbody⟩
    · exact hsequel.value size depth hdepth hsize
    rw [List.cons_append, readValue]
    exact (readString_cut hsequel s hbody).map _

/-! ## Whole numbers -/

omit hsequel in
/-- The first digits of a whole number are a whole number. -/
lemma IsWhole.of_front {front ds : List Char} (h : IsWhole ds) (hfront : front <+: ds) (hne : front ≠ []) :
    IsWhole front where
  nonempty := hne
  digits c hc := h.digits c (hfront.subset hc)
  zero hzero := by
    obtain ⟨c, front, rfl⟩ := List.exists_cons_of_ne_nil hne
    obtain ⟨behind, rfl⟩ := hfront
    have hsingle := h.zero hzero
    rw [List.cons_append, List.cons.injEq, List.append_eq_nil_iff] at hsingle
    rw [hsingle.1, hsingle.2.1]

/-- A whole number may break off. -/
theorem severable_int (hdepth : levels ≤ depth) {n : Int}
    (hdigits : (Nat.toDigits 10 n.natAbs).length ≤ maxDigits) :
    Severable sequel depth (renderInt n) (.int n) where
  toSpells := spells_int depth hdigits
  halts := by
    intro front size hfront hsize
    have hread : ∀ {m : Nat} {front : List Char}, front <+: Nat.toDigits 10 m → front ≠ [] →
        (Nat.toDigits 10 m).length ≤ maxDigits →
        Halts (readValue size depth (front ++ sequel)) ∧
          Halts (readValue size depth ('-' :: front ++ sequel)) := by
      intro m front hfront hne hlength
      have hwhole := (isWhole_toDigits m).of_front hfront hne
      obtain ⟨hplain, hminus⟩ := hwhole.readNumber (hfront.length_le.trans hlength) hsequel.endsNumber
      obtain ⟨c, others, rfl⟩ := List.exists_cons_of_ne_nil hne
      obtain ⟨hvalue, hnegative⟩ := readValue_number size depth
        (hwhole.digits c List.mem_cons_self) (others ++ sequel)
      simp only [List.cons_append] at hplain hminus ⊢
      rw [hvalue, hnegative, hplain, hminus]
      exact ⟨Or.inr ⟨_, sequel, rfl, hsequel.unfinished⟩, Or.inr ⟨_, sequel, rfl, hsequel.unfinished⟩⟩
    rcases eq_or_ne front [] with rfl | hne
    · exact hsequel.value size depth hdepth hsize
    cases n with
    | ofNat m => exact (hread hfront hne hdigits).1
    | negSucc m =>
        rw [renderInt] at hfront
        rcases List.prefix_cons_iff.mp hfront with rfl | ⟨front, rfl, hbehind⟩
        · exact absurd rfl hne
        rcases eq_or_ne front [] with rfl | hdigit
        · obtain rfl | ⟨rest, rfl, -⟩ := hsequel.start
          · exact Or.inl (by rw [readValue.eq_def]; rfl)
          · exact Or.inl (by rw [readValue.eq_def]; rfl)
        · exact (hread hbehind hdigit hdigits).2

/-! ## Lists -/

omit hsequel in
/-- No list goes on behind an item that halts. -/
lemma readItems_halted {item : List Char → Read (Value Codes)} {s : List Char} (h : Halts (item (skipSpace s)))
    (fuel : Nat) : readItems item fuel s = .error .malformed := by
  cases fuel with
  | zero => rfl
  | succ fuel =>
      rw [readItems]
      obtain hread | ⟨value, rest, hread, hrest⟩ := h
      · rw [hread]
      · rw [hread]
        simp only
        split
        · rename_i hcomma
          exact absurd rfl (hrest ',' (by rw [hcomma]; rfl)).1
        · rename_i hbracket
          exact absurd rfl (hrest ']' (by rw [hbracket]; rfl)).2.2.1
        · rfl

/-- A spelling that breaks off has no blanks in front, and neither has what follows. -/
lemma Severable.skipSpace_cut {text front : List Char} {value : Value Codes}
    (h : Severable sequel depth text value) (hfront : front <+: text) :
    JsonText.skipSpace (front ++ sequel) = front ++ sequel := by
  obtain ⟨c, others, rfl, hc, -⟩ := h.head
  rcases List.prefix_cons_iff.mp hfront with rfl | ⟨front, rfl, -⟩
  · exact hsequel.skipSpace
  · rw [JsonText.skipSpace, List.cons_append, List.dropWhile_cons_of_neg (by simp [hc])]

/-- A spelling that breaks off halts, also where blanks are skipped before it. -/
lemma Severable.halts_skipSpace {size : Nat} {text front : List Char} {value : Value Codes}
    (h : Severable sequel depth text value) (hfront : front <+: text)
    (hsize : (front ++ sequel).length ≤ size) :
    Halts (readValue size depth (JsonText.skipSpace (front ++ sequel))) := by
  rw [h.skipSpace_cut hsequel hfront]
  exact h.halts front size hfront hsize

/-- The items of a list may break off one by one. -/
lemma Severable.severableItem {size : Nat} {text : List Char} {value : Value Codes}
    (h : Severable sequel depth text value) :
    SeverablePiece (readItems (readValue size depth)) ']' size sequel text value where
  toReadsPiece := h.toSpells.readsItem
  cut _ fuel hfront hsize := readItems_halted (h.halts_skipSpace hsequel hfront hsize) fuel

omit hsequel in
/-- Behind a bracket, items are read unless it is closed at once. -/
lemma readValue_items {s : List Char} (h : ∀ rest, skipSpace s ≠ ']' :: rest) (size : Nat) :
    readValue size (depth + 1) ('[' :: s)
      = (readItems (readValue size depth) size s).map fun (items, rest) => (.list items, rest) := by
  rw [readValue]
  split
  · rename_i rest hclose
    exact absurd hclose (h rest)
  · rfl

/-- What follows closes no bracket. -/
lemma Sequel.not_closed (rest : List Char) :
    JsonText.skipSpace sequel ≠ ']' :: rest ∧ JsonText.skipSpace sequel ≠ '\x7d' :: rest := by
  have hunfinished := hsequel.unfinished
  constructor
  · intro hclose
    exact (hunfinished ']' (by rw [hclose]; rfl)).2.2.1 rfl
  · intro hclose
    exact (hunfinished '\x7d' (by rw [hclose]; rfl)).2.2.2 rfl

/-- A list may break off, if its items may. -/
theorem severable_list (hdepth : levels ≤ depth) {texts : List (List Char)} {values : List (Value Codes)}
    (h : List.Forall₂ (Severable sequel depth) texts values) :
    Severable sequel (depth + 1) ('[' :: separated texts ++ [']']) (.list values) where
  toSpells := spells_list (h.imp fun _ _ hitem => hitem.toSpells)
  halts := by
    intro front size hfront hsize
    rw [List.cons_append] at hfront
    rcases List.prefix_cons_iff.mp hfront with rfl | ⟨front, rfl, hitems⟩
    · exact hsequel.value size (depth + 1) (Nat.le_succ_of_le hdepth) hsize
    have hlength : (front ++ sequel).length ≤ size := by
      simp at hsize ⊢
      omega
    rw [List.cons_append]
    cases h with
    | nil =>
        rcases List.prefix_cons_iff.mp hitems with rfl | ⟨front, rfl, hnil⟩
        · rw [List.nil_append, readValue_items fun rest => (hsequel.not_closed rest).1, readItems_halted]
          · exact Or.inl rfl
          · rw [hsequel.skipSpace]
            exact hsequel.value size depth hdepth hlength
        · obtain rfl := List.prefix_nil.mp hnil
          rw [readValue]
          exact Or.inr ⟨_, sequel, rfl, hsequel.unfinished⟩
    | @cons text value texts values htext hothers =>
        obtain ⟨c, others, rfl, hspace, hbracket⟩ := htext.head
        obtain ⟨behind, hseparated⟩ : ∃ behind, separated ((c :: others) :: texts) = c :: behind :=
          head_separated texts
        have hopen : ∀ rest, JsonText.skipSpace (front ++ sequel) ≠ ']' :: rest := by
          rw [hseparated, List.cons_append] at hitems
          rcases List.prefix_cons_iff.mp hitems with rfl | ⟨front, rfl, -⟩
          · exact fun rest => (hsequel.not_closed rest).1
          · intro rest hclose
            rw [JsonText.skipSpace, List.cons_append, List.dropWhile_cons_of_neg (by simp [hspace])] at hclose
            exact hbracket (List.cons.inj hclose).1
        rw [readValue_items hopen]
        have hpieces : List.Forall₂ (SeverablePiece (readItems (readValue size depth)) ']' size sequel)
            ((c :: others) :: texts) (value :: values) :=
          (List.Forall₂.cons htext hothers).imp fun _ _ hitem => hitem.severableItem hsequel
        exact ((pieces_cut (readItems_pieces _) hpieces (List.cons_ne_nil _ _) hitems hlength
          size).halts hsequel).map _

/-! ## Tables -/

omit hsequel in
/-- No table goes on behind a name that is not well formed. -/
lemma readFields_unnamed {item : List Char → Read (Value Codes)} {s : List Char}
    (h : readName s = .error .malformed) (fuel : Nat) : readFields item fuel s = .error .malformed := by
  cases fuel with
  | zero => rfl
  | succ fuel => rw [readFields, h]

omit hsequel in
/-- No table goes on behind a value that halts. -/
lemma readFields_halted {item : List Char → Read (Value Codes)} {s rest : List Char} {name : Codes}
    (hname : readName s = .ok (name, rest)) (h : Halts (item rest)) (fuel : Nat) :
    readFields item fuel s = .error .malformed := by
  cases fuel with
  | zero => rfl
  | succ fuel =>
      rw [readFields, hname]
      simp only
      obtain hread | ⟨value, behind, hread, hbehind⟩ := h
      · rw [hread]
      · rw [hread]
        simp only
        split
        · rename_i hcomma
          exact absurd rfl (hbehind ',' (by rw [hcomma]; rfl)).1
        · rename_i hbrace
          exact absurd rfl (hbehind '\x7d' (by rw [hbrace]; rfl)).2.2.2
        · rfl

/-- What follows is no name of a field. -/
lemma Sequel.readName : readName sequel = .error .malformed := by
  obtain rfl | ⟨rest, rfl, -⟩ := hsequel.start
  · rfl
  · rfl

/-- A name that breaks off is not well formed. -/
lemma readName_cut (name : String) {front : List Char} (hfront : front <+: renderString name) :
    readName (front ++ sequel) = .error .malformed := by
  rw [renderString, List.cons_append] at hfront
  rcases List.prefix_cons_iff.mp hfront with rfl | ⟨front, rfl, hbody⟩
  · exact hsequel.readName
  have hquote : skipSpace ('"' :: front ++ sequel) = '"' :: (front ++ sequel) := rfl
  rw [JsonText.readName, hquote]
  simp only
  obtain hread | ⟨read, rest, hread, hrest⟩ := readString_cut hsequel name hbody
  · rw [hread]
  · rw [hread]
    simp only
    split
    · rename_i hcolon
      exact absurd rfl (hrest ':' (by rw [hcolon]; rfl)).2.1
    · rfl

/-- A field that breaks off ends every table. -/
lemma readFields_cut_field {size : Nat} {field : String × List Char} {value : Value Codes}
    (h : Severable sequel depth field.2 value) {front : List Char} (hfront : front <+: renderField field)
    (hsize : (front ++ sequel).length ≤ size) (fuel : Nat) :
    readFields (readValue size depth) fuel (front ++ sequel) = .error .malformed := by
  rw [renderField] at hfront
  rcases prefix_between_cases hfront with hname | rfl | ⟨behind, rfl, hbehind⟩
  · exact readFields_unnamed (readName_cut hsequel field.1 hname) fuel
  · have hread := readName_renderString field.1 sequel
    rw [List.append_assoc, List.singleton_append]
    refine readFields_halted hread (h.halts_skipSpace hsequel List.nil_prefix ?_) fuel
    simp at hsize ⊢
    omega
  · have hread := readName_renderField (field.1, behind) sequel
    rw [renderField] at hread
    refine readFields_halted hread (h.halts_skipSpace hsequel hbehind ?_) fuel
    simp at hsize ⊢
    omega

/-- The text of a field spells its name and its value, and may break off. -/
def SeverableField (sequel : List Char) (depth : Nat) (text : String × List Char)
    (field : Codes × Value Codes) : Prop :=
  codes text.1 = field.1 ∧ Severable sequel depth text.2 field.2

/-- The fields of a table may break off one by one. -/
lemma SeverableField.severableField {size : Nat} {text : String × List Char} {field : Codes × Value Codes}
    (h : SeverableField sequel depth text field) :
    SeverablePiece (readFields (readValue size depth)) '\x7d' size sequel (renderField text) field where
  toReadsPiece := SpellsField.readsField ⟨h.1, h.2.toSpells⟩
  cut _ fuel hfront hsize := readFields_cut_field hsequel h.2 hfront hsize fuel

omit hsequel in
/-- Behind a brace, fields are read unless it is closed at once. -/
lemma readValue_fields {s : List Char} (h : ∀ rest, skipSpace s ≠ '\x7d' :: rest) (size : Nat) :
    readValue size (depth + 1) ('\x7b' :: s)
      = (readFields (readValue size depth) size s).map fun (fields, rest) =>
          (.table (lastFields fields), rest) := by
  rw [readValue]
  split
  · rename_i rest hclose
    exact absurd hclose (h rest)
  · rfl

/-- Fields behind a brace that break off are no table, unless it has been closed. -/
lemma readValue_cut {size : Nat} {texts : List (String × List Char)} {fields : List (Codes × Value Codes)}
    (h : List.Forall₂ (SeverableField sequel depth) texts fields) {front : List Char}
    (hfront : front <+: separated (texts.map renderField) ++ ['\x7d'])
    (hsize : (front ++ sequel).length ≤ size) :
    Closes front (separated (texts.map renderField) ++ ['\x7d']) sequel
      (readValue size (depth + 1) ('\x7b' :: (front ++ sequel))) := by
  cases h with
  | nil =>
      rcases List.prefix_cons_iff.mp hfront with rfl | ⟨front, rfl, hnil⟩
      · rw [List.nil_append, readValue_fields fun rest => (hsequel.not_closed rest).2,
          readFields_unnamed hsequel.readName]
        exact Or.inl rfl
      · obtain rfl := List.prefix_nil.mp hnil
        rw [List.singleton_append, readValue]
        exact Or.inr ⟨rfl, _, rfl⟩
  | @cons text field texts fields hfield hothers =>
      obtain ⟨behind, hseparated⟩ : ∃ behind,
          separated ((text :: texts).map renderField) = '"' :: behind := by
        rw [List.map_cons, renderField, renderString]
        exact head_separated _
      have hopen : ∀ rest, JsonText.skipSpace (front ++ sequel) ≠ '\x7d' :: rest := by
        rw [hseparated, List.cons_append] at hfront
        rcases List.prefix_cons_iff.mp hfront with rfl | ⟨front, rfl, -⟩
        · exact fun rest => (hsequel.not_closed rest).2
        · intro rest hclose
          rw [JsonText.skipSpace, List.cons_append, List.dropWhile_cons_of_neg (by decide)] at hclose
          exact absurd (List.cons.inj hclose).1 (by decide)
      rw [readValue_fields hopen]
      have hpieces : List.Forall₂ (SeverablePiece (readFields (readValue size depth)) '\x7d' size sequel)
          ((text :: texts).map renderField) (field :: fields) :=
        List.forall₂_map_left_iff.mpr
          ((List.Forall₂.cons hfield hothers).imp fun _ _ hother => hother.severableField hsequel)
      have hcloses := (pieces_cut (readFields_pieces _) hpieces (List.cons_ne_nil _ _) hfront hsize
        size).map [] fun fields => Value.table (lastFields fields)
      simpa using hcloses

/-- A table may break off, if its values may. -/
theorem severable_table (hdepth : levels ≤ depth) {texts : List (String × List Char)}
    {fields : List (Codes × Value Codes)} (h : List.Forall₂ (SeverableField sequel depth) texts fields)
    (hnodup : (fields.map (·.1)).Nodup) :
    SeverableTable sequel (depth + 1) ('\x7b' :: separated (texts.map renderField) ++ ['\x7d']) fields := by
  have hcloses : ∀ front size, front ≠ [] →
      front <+: '\x7b' :: separated (texts.map renderField) ++ ['\x7d'] →
      (front ++ sequel).length ≤ size →
      Closes front ('\x7b' :: separated (texts.map renderField) ++ ['\x7d']) sequel
        (readValue size (depth + 1) (front ++ sequel)) := by
    intro front size hne hfront hsize
    rw [List.cons_append] at hfront ⊢
    rcases List.prefix_cons_iff.mp hfront with rfl | ⟨front, rfl, hfields⟩
    · exact absurd rfl hne
    have hlength : (front ++ sequel).length ≤ size := by
      simp at hsize ⊢
      omega
    exact (readValue_cut hsequel h hfields hlength).imp_right
      fun ⟨hwhole, value, hanswer⟩ => ⟨by rw [hwhole], value, hanswer⟩
  refine { toSpells := spells_table (h.imp fun _ _ hfield => ⟨hfield.1, hfield.2.toSpells⟩) hnodup,
           halts := fun front size hfront hsize => ?_, closes := hcloses }
  rcases eq_or_ne front [] with rfl | hne
  · exact hsequel.value size (depth + 1) (Nat.le_succ_of_le hdepth) hsize
  · exact (hcloses front size hne hfront hsize).halts hsequel

/-! ## Whole texts -/

/-- The text of a list may break off, if those of its items may. -/
lemma severable_render_list (hdepth : levels ≤ depth) {items : List Value}
    {values : List (Value Codes)}
    (h : List.Forall₂ (fun item value => Severable sequel depth (render item) value) items values) :
    Severable sequel (depth + 1) (render (.list items)) (.list values) := by
  rw [render]
  refine severable_list hsequel hdepth ?_
  induction h with
  | nil => exact .nil
  | cons hitem _ ih => exact .cons hitem ih

/-- The text of a table may break off, if those of its values may. -/
lemma severable_render_table (hdepth : levels ≤ depth) {written : List (String × Value)}
    {read : List (Codes × Value Codes)}
    (h : List.Forall₂
      (fun field value => codes field.1 = value.1 ∧ Severable sequel depth (render field.2) value.2) written read)
    (hnodup : (read.map (·.1)).Nodup) :
    ∃ fields, fields.Perm read ∧ SeverableTable sequel (depth + 1) (render (.table written)) fields := by
  have hrendered : List.Forall₂ (SeverableField sequel depth) (renderFields written) read :=
    forall₂_renderFields h
  obtain ⟨fields, hperm, hsorted⟩ := forall₂_sortedFields hrendered
  refine ⟨fields, hperm, ?_⟩
  rw [render]
  exact severable_table hsequel hdepth hsorted ((hperm.map (·.1)).nodup_iff.mpr hnodup)

/-- **A table that breaks off is not well formed**, whatever follows at once; and neither is a whole one that something
follows. -/
theorem SeverableTable.parse_cut {text front : List Char} {fields : List (Codes × Value Codes)}
    (h : SeverableTable sequel depth text fields) (hne : front ≠ []) (hfront : front <+: text)
    (hmore : front = text → sequel ≠ []) : parse depth (front ++ sequel) = .error .malformed := by
  rw [parse, h.skipSpace_cut hsequel hfront]
  obtain hread | ⟨hwhole, value, hread⟩ := h.closes front _ hne hfront (Nat.le_refl _)
  · rw [hread]
  · rw [hread]
    simp only [hsequel.skipSpace, List.isEmpty_iff, if_neg (hmore hwhole)]

end

end TemplateAtlas.JsonText
