import Mathlib.Tactic.Common
import TemplateAtlas.Proofs.Sessions

/-!
# Which text an answer is taken from

An index lists where the templates of one text start.  Where they end is looked for when somebody asks for
them, and if the index was taken from the cache, the file is read again for that.  By then it may have another
text, and nobody may have said so.

**Sources.**  A search goes by one version of each file (`Session.version?`): the text that its cached index was
built from, if that is used, and the present text otherwise.  The ranges that it reports start at the markers of
that version, but each of them is measured in one of the texts that were consulted (`Consults`).  All of them
are texts that the file had at some moment of the session.  This is kept by whatever comes of an action, as long as
nothing is under way from an earlier search: `Sourced.next`.

**Mixtures.**  Hence the answer about a file is the direct one for a single version if the texts that were
consulted are the same (`Unmixed`), and otherwise it may be that of no text at all.  Both is stated in
`search_versions`, and `answer_of_no_version` is a session in which the latter happens.
-/

namespace TemplateAtlas

open Soy Search

/-- An index whose markers come from the base of an origin, and whose ranges come from its texts. -/
def Origin.Covers (origin : Origin) (index : FileIndex) : Prop :=
  index.Stems (fun read => read = origin.base ∨ read ∈ origin.reads) origin.base

namespace Session

/-! ## Sources -/

/-- The file had the text at some moment of the session. -/
def Had (session : Session) (path : String) (text : List Char) : Prop :=
  ∃ moment ∈ session.moments, moment.view.text path = .ok text

/-- The version of a file that a search goes by. -/
def version? (session : Session) (path : String) : Option (List Char) :=
  if session.serves path then (session.origins path).map (·.base)
  else (session.view.text path).toOption

/-- The names that a search would select in an index. -/
def names (session : Session) (name : String) (index : FileIndex) : List String :=
  index.matching name session.service.config.wildcard

/-- The cached index of a path lacks ranges that a search for the name has to report. -/
def Lacks (session : Session) (name path : String) : Prop :=
  ∃ entry ∈ session.service.atlas.cache.get? path,
    entry.version.index.isResolved (session.names name entry.version.index) = false

/-- A text in which a search for the name may measure the templates of a version: the version itself, and if
the index is taken from the cache, the texts that were read for its ranges and the one that is read for those
it lacks. -/
def Consults (session : Session) (name path : String) (version read : List Char) : Prop :=
  read = version ∨ session.serves path = true ∧
    ((∃ origin ∈ session.origins path, read ∈ origin.reads) ∨
      session.Lacks name path ∧ session.view.text path = .ok read)

/-- All texts that are consulted about a path are the same. -/
def Unmixed (session : Session) (name path : String) : Prop :=
  ∀ version ∈ session.version? path, ∀ read, session.Consults name path version read → read = version

/-- What is true throughout a session: every cached index has an origin, and origins are texts that the file
has had. -/
structure Sourced (session : Session) : Prop where
  texts : ∀ path, ∀ origin ∈ session.origins path, session.Had path origin.base ∧
    ∀ read ∈ origin.reads, session.Had path read
  entries : ∀ path, ∀ entry ∈ session.service.atlas.cache.get? path,
    ∃ origin ∈ session.origins path, origin.Covers entry.version.index

variable {session : Session} {name path : String} {entry : Cached} {text read : List Char}

lemma serves_iff : session.serves path = true ↔
    ∃ version, (session.service.atlas.usable? session.view path).1 = .ok (some version) := by
  rw [serves]
  split
  · rename_i version husable
    exact ⟨fun _ => ⟨version, husable⟩, fun _ => rfl⟩
  · rename_i hother
    refine ⟨fun h => absurd h Bool.false_ne_true, ?_⟩
    rintro ⟨version, husable⟩
    exact absurd husable (hother version)

lemma serves_of_unusable (h : Unusable session.view session.service.atlas path) :
    session.serves path = false := by
  rw [← Bool.not_eq_true, serves_iff]
  rintro ⟨version, husable⟩
  exact h version husable

lemma version?_of_origin {origin : Origin} (hserves : session.serves path = true)
    (horigin : session.origins path = some origin) :
    session.version? path = some origin.base := by
  rw [version?, if_pos hserves, horigin]
  rfl

lemma version?_of_text (hserves : session.serves path = false)
    (htext : session.view.text path = .ok text) : session.version? path = some text := by
  rw [version?, hserves, if_neg Bool.false_ne_true, htext]
  rfl

lemma Had.of_now (h : session.view.text path = .ok text) : session.Had path text :=
  ⟨session.now, List.mem_cons_self, h⟩

lemma Had.goOn (h : session.Had path text) (service : Service Stack) (disk : Disk)
    (pending : List String) : (session.goOn service disk pending).Had path text := by
  obtain ⟨moment, hmoment, htext⟩ := h
  exact ⟨moment, List.mem_cons_of_mem _ hmoment, htext⟩

/-- The version that a search goes by is one that the file has had. -/
lemma Sourced.had_version (h : session.Sourced) (hversion : session.version? path = some text) :
    session.Had path text := by
  rw [version?] at hversion
  split_ifs at hversion
  · obtain ⟨origin, horigin, rfl⟩ := Option.map_eq_some_iff.mp hversion
    exact (h.texts path origin horigin).1
  · exact .of_now (Except.mem_toOption.mp hversion)

lemma Sourced.had_consulted (h : session.Sourced) (hversion : session.version? path = some text)
    (hread : session.Consults name path text read) : session.Had path read := by
  rcases hread with rfl | ⟨-, ⟨origin, horigin, hread⟩ | ⟨-, hread⟩⟩
  · exact h.had_version hversion
  · exact (h.texts path origin horigin).2 read hread
  · exact .of_now hread

/-! ## Searches -/

/-- An index that a search may report from. -/
def Grounded (session : Session) (name path : String) (index : FileIndex) : Prop :=
  ∃ text ∈ session.version? path, index.Stems (session.Consults name path text) text

/-- An index that a load may hand out: if it comes from the cache, it is the one that was there before. -/
def Handed (session : Session) (name path : String) (entry : Cached) : Prop :=
  session.Grounded name path entry.version.index ∧ (session.serves path = true →
    ∃ old ∈ session.service.atlas.cache.get? path, old.version = entry.version)

/-- What a search may use without looking at the file is grounded. -/
lemma Sourced.vouches (h : session.Sourced) (name : String) :
    Vouches session.view session.service.atlas (session.Handed name) := by
  refine ⟨?_, ?_⟩
  · intro path entry hentry husable
    have hserves : session.serves path = true := serves_iff.mpr ⟨_, husable⟩
    obtain ⟨origin, horigin, hcovers⟩ := h.entries path entry hentry
    refine ⟨⟨origin.base, version?_of_origin hserves horigin, hcovers.mono ?_⟩,
      fun _ => ⟨entry, hentry, rfl⟩⟩
    rintro read (rfl | hread)
    · exact Or.inl rfl
    · exact Or.inr ⟨hserves, Or.inl ⟨origin, horigin, hread⟩⟩
  · intro path text time serial hunusable htext htime
    have hserves := serves_of_unusable hunusable
    refine ⟨⟨text, version?_of_text hserves htext, FileIndex.stems_ofText _ path text⟩, ?_⟩
    simp [hserves]

/-- If the index is built anew, the present text is the version. -/
lemma consults_now (name : String) (hserves : session.serves path = false)
    (hversion : session.version? path = some text) (hread : session.view.text path = .ok read) :
    session.Consults name path text read := by
  rw [version?_of_text hserves hread, Option.some.injEq] at hversion
  exact Or.inl hversion

/-- A loaded index can be resolved in a text that is consulted. -/
lemma handed_ready {item : Loaded}
    (h : Delivers session.view session.service.atlas (session.Handed name) path (.ok item)) :
    ∃ text, Ready session.view (fun path text => session.version? path = some text)
      (session.Consults name) text (selectedIn session.service.config.settings name item) := by
  cases h with
  | loaded hpath hgood htext =>
      obtain ⟨⟨text, hversion, hstems⟩, hold⟩ := hgood
      subst hpath
      refine ⟨text, hversion, hstems, ?_, ?_⟩
      · intro read hread
        obtain ⟨hunusable, hnow⟩ := htext read hread
        exact consults_now name (serves_of_unusable hunusable) hversion hnow
      · intro _ hopen read hread
        cases hserves : session.serves item.path with
        | false => exact consults_now name hserves hversion hread
        | true =>
            obtain ⟨old, hcached, hsame⟩ := hold hserves
            exact Or.inr ⟨hserves, Or.inr ⟨⟨old, hcached, hsame ▸ hopen⟩, hread⟩⟩

lemma Sourced.course (h : session.Sourced) {candidates : List String}
    {outcome : Except QueryFault Report × Atlas Stack}
    (hscheduled : Scheduled lexer session.view session.service.config.settings name candidates
      session.service.atlas outcome) :
    Course session.view session.service.atlas (session.Handed name)
      (fun path entry => session.Grounded name path entry.version.index)
      (fun path text => session.version? path = some text) (session.Consults name)
      session.service.config.settings name candidates outcome :=
  hscheduled.course (h.vouches name) (fun _ text _ _ _ hversion hstems _ => ⟨text, hversion, hstems⟩)
    (fun _ _ hgood => hgood.1) (fun _ _ hdelivers => handed_ready hdelivers)

lemma Sourced.queried (h : session.Sourced) {candidates : List Candidate} {all : Bool}
    {outcome : Except QueryFault Report × Atlas Stack} {late : List Late}
    (hends : session.service.Ends lexer name candidates all session.disk outcome late)
    (hentry : outcome.2.cache.get? path = some entry) :
    session.service.atlas.cache.get? path = some entry ∨
      session.Grounded name path entry.version.index := by
  cases hends with
  | notPaths => exact Or.inl hentry
  | queried _ hends =>
      cases h.course ⟨late, hends⟩ with
      | calledOff _ _ hkept =>
          exact (hkept.cache path entry hentry).imp_right fun hbuilt => hbuilt.1.1
      | abandoned _ _ _ hsettled =>
          exact (hsettled.cache path entry hentry).symm.imp_left And.left
      | answered _ _ _ hsettled =>
          exact (hsettled.cache path entry hentry).symm.imp_left And.left

/-! ## Actions -/

/-- The origin of an index in the next session. -/
abbrev originAfter (session : Session) (cache : Cache) (path : String) : Option Origin :=
  session.originIn session.view session.serves cache path

lemma originAfter_same {cache : Cache}
    (h : cache.get? path = session.service.atlas.cache.get? path) :
    session.originAfter cache path = session.origins path := by
  rw [originAfter, originIn, if_pos h]

/-- Origins are texts that the file has had. -/
lemma Sourced.texts_originAfter (h : session.Sourced) (cache : Cache) {origin : Origin}
    (horigin : session.originAfter cache path = some origin) :
    session.Had path origin.base ∧ ∀ read ∈ origin.reads, session.Had path read := by
  rw [originAfter, originIn] at horigin
  split at horigin
  · exact h.texts path origin horigin
  · split at horigin
    · exact h.texts path origin horigin
    · rename_i text htext
      split at horigin
      · obtain ⟨old, hold, rfl⟩ := Option.map_eq_some_iff.mp horigin
        obtain ⟨hbase, hreads⟩ := h.texts path old hold
        refine ⟨hbase, fun read hread => ?_⟩
        rcases List.mem_cons.mp hread with rfl | hread
        · exact .of_now htext
        · exact hreads read hread
      · rw [Option.some.injEq] at horigin
        rw [← horigin]
        exact ⟨.of_now htext, by simp⟩

/-- A grounded index that is new in the cache is covered by its origin there. -/
lemma Grounded.covers {index : FileIndex} (h : session.Grounded name path index) {cache : Cache}
    (hnew : cache.get? path ≠ session.service.atlas.cache.get? path) :
    ∃ origin ∈ session.originAfter cache path, origin.Covers index := by
  obtain ⟨text, hversion, hstems⟩ := h
  rw [originAfter, originIn, if_neg hnew]
  cases hserves : session.serves path with
  | false =>
      -- built anew, from the present text and nothing else
      have htext : session.view.text path = .ok text := by
        rw [version?, hserves, if_neg Bool.false_ne_true] at hversion
        exact Except.mem_toOption.mp hversion
      rw [htext]
      refine ⟨⟨text, []⟩, rfl, hstems.mono ?_⟩
      rintro read (rfl | ⟨hother, -⟩)
      · exact Or.inl rfl
      · simp [hserves] at hother
  | true =>
      -- taken from the cache, so that only ranges measured in the present text are new
      rw [version?, if_pos hserves] at hversion
      obtain ⟨old, hold, rfl⟩ := Option.map_eq_some_iff.mp hversion
      have hreads : ∀ origin ∈ session.origins path, origin = old := by
        intro origin horigin
        rw [Option.mem_def, hold, Option.some.injEq] at horigin
        exact horigin.symm
      split
      · rename_i cause htext
        refine ⟨old, hold, hstems.mono ?_⟩
        rintro read (rfl | ⟨-, ⟨origin, horigin, hread⟩ | ⟨-, hread⟩⟩)
        · exact Or.inl rfl
        · exact Or.inr (hreads origin horigin ▸ hread)
        · simp [htext] at hread
      · rename_i cur htext
        refine ⟨{ old with reads := cur :: old.reads }, by simp [hold], hstems.mono ?_⟩
        rintro read (rfl | ⟨-, ⟨origin, horigin, hread⟩ | ⟨-, hread⟩⟩)
        · exact Or.inl rfl
        · exact Or.inr (List.mem_cons_of_mem _ (hreads origin horigin ▸ hread))
        · rw [htext, Except.ok.injEq] at hread
          exact Or.inr (hread ▸ List.mem_cons_self)

/-- A later session is sourced if its cache has old entries and entries that are covered. -/
lemma Sourced.goOn (h : session.Sourced) (service : Service Stack) (disk : Disk) (pending : List String)
    (hentries : ∀ path entry, service.atlas.cache.get? path = some entry →
      session.service.atlas.cache.get? path = some entry ∨
        ∃ name, session.Grounded name path entry.version.index) :
    (session.goOn service disk pending).Sourced := by
  refine ⟨?_, ?_⟩
  · intro path origin horigin
    obtain ⟨hbase, hreads⟩ := h.texts_originAfter service.atlas.cache horigin
    exact ⟨hbase.goOn service disk pending,
      fun read hread => (hreads read hread).goOn service disk pending⟩
  · intro path entry hentry
    by_cases hsame : service.atlas.cache.get? path = session.service.atlas.cache.get? path
    · obtain ⟨origin, horigin, hcovers⟩ := h.entries path entry (hsame ▸ hentry)
      exact ⟨origin, (originAfter_same hsame).trans horigin, hcovers⟩
    · rcases hentries path entry hentry with hold | ⟨name, hgrounded⟩
      · exact absurd ((Option.mem_def.mp hentry).trans hold.symm) hsame
      · exact hgrounded.covers hsame

/-- What is under way does not matter for what is in the cache. -/
lemma Sourced.withLate (h : session.Sourced) (late : List Late) : { session with late := late }.Sourced :=
  ⟨h.texts, h.entries⟩

lemma Sourced.edit (h : session.Sourced) (target : String) (edit : Documents → Documents) :
    (session.request (session.service.editDocuments target edit)).Sourced := by
  rw [request, Service.editDocuments]
  split <;> exact h.goOn _ _ _ fun _ _ hentry => Or.inl hentry

lemma Sourced.searched (h : session.Sourced) {candidates : List Candidate} {all : Bool} {now : Int}
    {outcome : Except QueryFault Report × Atlas Stack} {late : List Late}
    (hends : session.service.Ends lexer name candidates all session.disk outcome late) :
    (session.searched now outcome late).Sourced := by
  obtain ⟨hatlas, -⟩ := session.service.conclude_service "search" now session.disk outcome
  rw [Session.searched]
  generalize session.service.conclude "search" now session.disk outcome = concluded at hatlas ⊢
  refine (h.goOn concluded.2.1 concluded.2.2 _ fun path entry hentry => ?_).withLate _
  rw [hatlas] at hentry
  exact (h.queried hends hentry).imp_right fun hgrounded => ⟨name, hgrounded⟩

/-- An action that is no search keeps indexes sourced. -/
lemma Sourced.acted (h : session.Sourced) {action : Action} (hasks : action.asks? = none)
    (hidle : session.Idle action) : (session.act action).Sourced := by
  cases action with
  | write path bytes time => exact h.goOn _ _ _ fun _ _ hentry => Or.inl hentry
  | delete path => exact h.goOn _ _ _ fun _ _ hentry => Or.inl hentry
  | notify paths =>
      rw [Session.act, Service.notifyChanged_spelled]
      exact h.goOn _ _ _ fun _ _ hentry => Or.inl hentry
  | openDocument path document => exact h.edit path _
  | updateDocument path text => exact h.edit path _
  | saveDocument path => exact h.edit path _
  | closeDocument path => exact h.edit path _
  | resetCache =>
      refine h.goOn _ _ _ fun path entry hentry => ?_
      simp [Service.resetCache, Atlas.reset] at hentry
  | search => simp [Action.asks?] at hasks
  | lateTurn task ago =>
      -- nothing is under way that could take a turn
      have hlate : session.late = [] := hidle
      rw [Session.act, lateTurn, hlate, List.getElem?_nil]
      exact h
  | callOff => exact h.withLate []

/-- **Whatever comes of an action, indexes stay sourced.** -/
theorem Sourced.next (h : session.Sourced) {action : Action} {after : Session} (hnext : session.Next action after)
    (hidle : session.Idle action) : after.Sourced := by
  cases hnext with
  | searched hends => exact h.searched hends
  | acted hasks => exact h.acted hasks hidle

/-- What every action keeps, a run keeps. -/
theorem Sourced.reaches {start : Session} (h : start.Sourced)
    (hreach : start.Reaches (fun session action _ => session.Idle action) session) : session.Sourced := by
  induction hreach with
  | start => exact h
  | next _ hnext hidle ih => exact ih.next hnext hidle

lemma Begins.sourced (h : session.Begins) : session.Sourced := by
  obtain ⟨hcache, -, -, -, horigins⟩ := h.spec
  refine ⟨?_, ?_⟩
  · intro path origin horigin
    simp [horigins] at horigin
  · intro path entry hentry
    simp [hcache, Cache.get?] at hentry

/-! ## Reports -/

/-- Part of a report is what the direct search finds in a text. -/
def Direct (session : Session) (name path : String) (text : List Char) (part : List Location) :
    Prop :=
  ∀ memory, ∃ found,
    (Finder.findInText lexer text name session.service.config.wildcard memory).1 = .ok found ∧
      part = found.map (TextMatch.locate path)

/-- What a search may say about a file.  It goes by one version of it, and each of the templates that are
selected there is measured in a text that is consulted; the file has had all of these texts.  This is what the
direct search finds in the version if and only if every template covers the same lines in both texts. -/
def Reports (session : Session) (name path : String) (part : List Location) : Prop :=
  ∃ version ∈ session.version? path, session.Had path version ∧ ∃ reads,
    List.Forall₂ (fun _ read => session.Consults name path version read ∧ session.Had path read)
      (Finder.selected version name session.service.config.wildcard) reads ∧
    part = List.zipWith (fun marker read => locate path (marker.range read))
      (Finder.selected version name session.service.config.wildcard) reads ∧
    (session.Direct name path version part ↔ List.Forall₂
      (fun marker read => locate path (marker.range read) = locate path (marker.range version))
      (Finder.selected version name session.service.config.wildcard) reads) ∧
    (session.Unmixed name path → session.Direct name path version part)

/-- The templates that the direct search finds are the ranges of the selected markers. -/
lemma direct_iff {part : List Location} : session.Direct name path text part ↔
    part = (Finder.selected text name session.service.config.wildcard).map fun marker =>
      locate path (marker.range text) := by
  have hmap := locationsIn_eq session.service.config.settings name path text
  constructor
  · intro hdirect
    obtain ⟨found, hfound, rfl⟩ := hdirect []
    rw [findInText_eq, Except.ok.injEq] at hfound
    rw [← hfound]
    exact hmap.symm
  · intro hpart memory
    exact ⟨_, findInText_eq text name _ memory, hpart.trans hmap⟩

/-- Ranges in known texts, with these texts named. -/
lemma exists_reads {known : List Char → Prop} {markers : List Marker} {spans : List Span}
    (h : List.Forall₂ (Span.Stems known) markers spans) :
    ∃ reads, List.Forall₂ (fun _ read => known read) markers reads ∧
      spans = List.zipWith (fun marker read => marker.range read) markers reads := by
  induction h with
  | nil => exact ⟨[], .nil, rfl⟩
  | cons hspan _ ih =>
      obtain ⟨read, hread, rfl⟩ := hspan
      obtain ⟨reads, hreads, rfl⟩ := ih
      exact ⟨read :: reads, .cons hread hreads, rfl⟩

lemma zipWith_eq_map_iff {α β γ : Type} {f : α → β → γ} {g : α → γ} {related : α → β → Prop}
    {items : List α} {others : List β} (h : List.Forall₂ related items others) :
    List.zipWith f items others = items.map g ↔
      List.Forall₂ (fun item other => f item other = g item) items others := by
  induction h with
  | nil => simp
  | cons _ _ ih => simp [ih]

lemma Sourced.reports (h : session.Sourced) {item : Loaded} {part : List Location}
    (hanswer : Answer session.view (fun path text => session.version? path = some text)
      (session.Consults name) (selectedIn session.service.config.settings name item) (.ok part)) :
    session.Reports name item.path part := by
  cases hanswer with
  | @found text spans hready hspans =>
      have hversion : session.version? item.path = some text := hready.base
      have hselected : (selectedIn session.service.config.settings name item).names.flatMap
            (Marker.named text)
          = Finder.selected text name session.service.config.wildcard :=
        hready.stems.matching name session.service.config.wildcard
      rw [hselected] at hspans
      obtain ⟨reads, hreads, rfl⟩ := exists_reads hspans
      have hexact : session.Direct name item.path text
          ((List.zipWith (fun marker read => marker.range read)
            (Finder.selected text name session.service.config.wildcard) reads).map
              (locate item.path)) ↔ List.Forall₂ (fun marker read =>
            locate item.path (marker.range read) = locate item.path (marker.range text))
          (Finder.selected text name session.service.config.wildcard) reads := by
        rw [direct_iff, List.map_zipWith]
        exact zipWith_eq_map_iff hreads
      refine ⟨text, hversion, h.had_version hversion, reads, ?_, List.map_zipWith .., hexact, ?_⟩
      · exact hreads.imp fun _ read hread => ⟨hread, h.had_consulted hversion hread⟩
      · intro hunmixed
        refine hexact.mpr (hreads.imp fun marker read hread => ?_)
        rw [hunmixed text hversion read hread]

/-- **Which text an answer is taken from.**  In every session in which nothing that a search has left under way goes on
later, what a search says about a file starts from one version of the file and is measured in texts that the file had;
and if these texts are that version, it is exactly what the direct search finds in it.  This is so in whatever order
the loads and the resolves of all these searches take their turns. -/
theorem search_versions {start session : Session} (hstart : start.Begins)
    (hreach : start.Reaches (fun session action _ => session.Idle action) session)
    {name : String} {candidates : List Candidate} {all : Bool} {now : Int} {report : Report}
    (hanswer : session.Answers name candidates all now (.ok report)) :
    ∃ paths, Candidate.spellings? candidates = some paths ∧
      ∃ parts : List (List Location), report.locations = parts.flatten ∧
        List.Forall₂ (fun path part => part ≠ [] → session.Reports name path part)
          (filterCandidates session.service.config.extension all paths) parts := by
  have hsourced := hstart.sourced.reaches hreach
  obtain ⟨-, after, hsearches⟩ := hanswer
  obtain ⟨paths, hpaths, hscheduled, -⟩ := hsearches.answered
  refine ⟨paths, hpaths, ?_⟩
  cases hsourced.course hscheduled with
  | @answered loads resolves _ hloads _ hresolves _ =>
      obtain ⟨parts, hparts, hall⟩ := exists_parts hloads hresolves
      refine ⟨parts, hparts, hall.imp ?_⟩
      rintro path part (rfl | ⟨item, hdelivers, hanswer⟩) hne
      · exact absurd rfl hne
      · cases hdelivers with
        | loaded hpath _ _ => exact hpath ▸ hsourced.reports hanswer

/-- Two templates. -/
def twoTemplates : String :=
  "\x7bnamespace ns\x7d\n\x7btemplate .aa\x7d\n\x7b/template\x7d\n\x7btemplate .bb\x7d\n\x7b/template\x7d\n"

/-- A file with two templates is written, and asked for the first of them. -/
def asked : List Action :=
  [.write "a.soy" twoTemplates.toUTF8.toList 5, .search "ns.aa" [.spelled "a.soy"] false 0]

theorem search_versions_asked :
    ∃ paths, Candidate.spellings? [.spelled "a.soy"] = some paths ∧
      ∃ parts : List (List Location), [⟨"a.soy", "ns.bb", 3, 4⟩] = parts.flatten ∧
        List.Forall₂ (fun path part => part ≠ [] → (onEmptyDisk.run asked).Reports "ns.bb" path part)
          (filterCandidates ".soy" false paths) parts := by
  have hreport : ((onEmptyDisk.run asked).service.search lexer "ns.bb" [.spelled "a.soy"] false 0
      (onEmptyDisk.run asked).disk).1
      = .ok ⟨"ns.bb", [⟨"a.soy", "ns.bb", 3, 4⟩], [], 1, 1, 0⟩ := by decide +kernel
  have hanswer : (onEmptyDisk.run asked).Answers "ns.bb" [.spelled "a.soy"] false 0
      (.ok ⟨"ns.bb", [⟨"a.soy", "ns.bb", 3, 4⟩], [], 1, 1, 0⟩) := by
    rw [← hreport]
    exact ⟨by decide +kernel, Service.search_answers _ _ _ _ _ (by decide +kernel)⟩
  have hextension : (onEmptyDisk.run asked).service.config.extension = ".soy" := by decide +kernel
  rw [← hextension]
  exact search_versions onEmptyDisk_begins (Reaches.start.run (by decide +kernel) (by decide +kernel))
    hanswer

/-- Then it is written anew with three blank lines in front, and nobody says so. -/
def shifted : List Action :=
  asked ++ [.write "a.soy" ("\n\n\n" ++ twoTemplates).toUTF8.toList 6]

/-- **An answer of no version.**  The second template is reported where neither the old text nor the new one
has it. -/
theorem answer_of_no_version :
    onEmptyDisk.Begins ∧
      ((onEmptyDisk.run shifted).service.search lexer "ns.bb" [.spelled "a.soy"] false 0
          (onEmptyDisk.run shifted).disk).1.map Report.answer
        = .ok ([⟨"a.soy", "ns.bb", 5, 7⟩], []) ∧
      ∀ text, (onEmptyDisk.run shifted).Had "a.soy" text →
        ¬ (onEmptyDisk.run shifted).Direct "ns.bb" "a.soy" text [⟨"a.soy", "ns.bb", 5, 7⟩] := by
  refine ⟨onEmptyDisk_begins, by decide +kernel, ?_⟩
  rintro text ⟨moment, hmoment, htext⟩
  have hnone : ∀ moment ∈ (onEmptyDisk.run shifted).moments,
      ∀ text ∈ (moment.view.text "a.soy").toOption,
        [⟨"a.soy", "ns.bb", 5, 7⟩]
          ≠ (Finder.selected text "ns.bb" (onEmptyDisk.run shifted).service.config.wildcard).map
            fun marker => locate "a.soy" (marker.range text) := by
    decide +kernel
  rw [direct_iff]
  exact hnone moment hmoment text (Except.mem_toOption.mpr htext)

end Session

end TemplateAtlas
