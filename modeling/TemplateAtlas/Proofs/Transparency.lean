import Mathlib.Tactic.Common
import TemplateAtlas.Proofs.Sessions

/-!
# The cache is transparent

A service that has been at work for a while answers like one that was just created.  This is not true of
every session: a change on disk that is never notified is not seen, and neither is one that leaves the time
of a file as it was.  The conditions come in three groups.

**Order.**  `Orderly` says what users of the service are expected to do: they notify changes on disk before
they ask, they never give a file a time that it had before, a document without unsaved edits has the text of
its file, and whoever asks asks about all files that were flagged and are cached.

**Separation.**  `Separate` says that a change on disk concerns only the path it was made under.  It is broken
when the query log is a file that is asked for: each search adds a line to it, and nobody flags it.

**Nothing under way.**  `Idle` says that loads do not go on when their search has ended with a fault.  A load that does
may store the index of a text that it has read long ago.

Order alone is not enough (`search_ne_fresh`).  Under all these conditions every cached index is right for its path,
unless the path is flagged or about to be (`Session.Trustworthy`), and this is kept by whatever comes of an action:
`Inv.next`.  Hence `search_eq_fresh`.
-/

namespace TemplateAtlas

open Soy Search

/-- The disk says the same about a path before and after. -/
def Disk.Agrees (before after : Disk) (path : String) : Prop :=
  after.stat path = before.stat path ∧ readText after .utf8 path = readText before .utf8 path

lemma Disk.Agrees.refl (disk : Disk) (path : String) : disk.Agrees disk path := ⟨rfl, rfl⟩

/-- The path under which an action changes the disk. -/
def Action.target? : Action → Option String
  | .write path _ _ => some path
  | .delete path => some path
  | _ => none

namespace Session

/-- The open documents. -/
def documents (session : Session) : Documents :=
  match session.service.source with
  | .documents documents => documents
  | .memory _ => {}

/-! ## Orderly sessions -/

/-- The time that a path has after a change was never its time before. -/
def DatesAnew (session : Session) (after : Disk) (path : String) : Prop :=
  ∀ stat, after.stat path = .ok stat → ∀ moment ∈ session.moments, ∀ old,
    moment.disk.stat path = .ok old → old.time ≠ stat.time

/-- A document without unsaved edits whose file exists has the text of the file. -/
def BuffersAgree (session : Session) : Prop :=
  ∀ path document, session.documents.get? path = some document → document.dirty = false →
    (∃ stat, session.disk.stat path = .ok stat) →
      readText session.disk .utf8 path = .ok document.text

/-- Everything that is flagged and cached is asked about. -/
def Covered (session : Session) (candidates : List Candidate) (all : Bool) : Prop :=
  ∀ paths, Candidate.spellings? candidates = some paths → ∀ path, session.Flags path →
    session.Caches path → path ∈ filterCandidates session.service.config.extension all paths

/-- What is expected of those who ask. -/
def Prepared (session : Session) (candidates : List Candidate) (all : Bool) : Prop :=
  session.pending = [] ∧ session.BuffersAgree ∧ session.Covered candidates all

/-- What is expected of those who use a service. -/
def Orderly (session : Session) (action : Action) (after : Session) : Prop :=
  (∀ path ∈ action.target?, session.disk.Agrees after.disk path ∨ session.DatesAnew after.disk path) ∧
    ∀ asked ∈ action.asks?, session.Prepared asked.1 asked.2

/-- A change on disk concerns only the path it was made under. -/
def Separate (session : Session) (action : Action) (after : Session) : Prop :=
  ∀ path, after.Caches path → action.target? ≠ some path → session.disk.Agrees after.disk path

/-- Users do what is expected of them, changes on disk keep to their paths, and nothing is under way from before. -/
def Fair (session : Session) (action : Action) (after : Session) : Prop :=
  session.Orderly action after ∧ session.Separate action after ∧ session.Idle action

/-! ## Runs can be checked -/

instance (before after : Disk) (path : String) : Decidable (before.Agrees after path) :=
  inferInstanceAs (Decidable (_ ∧ _))

instance (session : Session) (after : Disk) (path : String) :
    Decidable (session.DatesAnew after path) :=
  decidable_of_iff (∀ stat ∈ (after.stat path).toOption, ∀ moment ∈ session.moments,
    ∀ old ∈ (moment.disk.stat path).toOption, old.time ≠ stat.time) (by
      simp only [DatesAnew, Except.mem_toOption])

instance (session : Session) : Decidable session.BuffersAgree :=
  decidable_of_iff (∀ path ∈ session.documents.entries.map Prod.fst,
    ∀ document ∈ session.documents.get? path, document.dirty = false →
      (session.disk.stat path).toOption.isSome = true →
        readText session.disk .utf8 path = .ok document.text) (by
      constructor
      · rintro h path document hdocument hclean ⟨stat, hstat⟩
        refine h path ?_ document hdocument hclean ?_
        · exact isSome_lookup.mp (Option.isSome_of_mem hdocument)
        · rw [hstat]
          rfl
      · intro h path _ document hdocument hclean hstat
        obtain ⟨stat, hstat⟩ := Option.isSome_iff_exists.mp hstat
        exact h path document hdocument hclean ⟨stat, Except.mem_toOption.mp hstat⟩)

instance (session : Session) (candidates : List Candidate) (all : Bool) :
    Decidable (session.Covered candidates all) :=
  decidable_of_iff (∀ paths ∈ Candidate.spellings? candidates,
    ∀ path ∈ session.service.atlas.cache.entries.map Prod.fst, session.Flags path →
      path ∈ filterCandidates session.service.config.extension all paths) (by
      constructor
      · exact fun h paths hpaths path hflag hcaches =>
          h paths hpaths path (isSome_lookup.mp hcaches) hflag
      · exact fun h paths hpaths path hcaches hflag =>
          h paths hpaths path hflag (isSome_lookup.mpr hcaches))

instance (session : Session) (candidates : List Candidate) (all : Bool) :
    Decidable (session.Prepared candidates all) :=
  inferInstanceAs (Decidable (_ ∧ _))

instance (session : Session) (action : Action) (after : Session) :
    Decidable (session.Orderly action after) :=
  inferInstanceAs (Decidable (_ ∧ _))

instance (session : Session) (action : Action) (after : Session) :
    Decidable (session.Separate action after) :=
  decidable_of_iff (∀ path ∈ after.service.atlas.cache.entries.map Prod.fst,
    action.target? ≠ some path → session.disk.Agrees after.disk path) (by
      simp only [Separate, Caches, Cache.contains, Cache.get?, isSome_lookup])

instance (session : Session) (action : Action) (after : Session) : Decidable (session.Fair action after) :=
  inferInstanceAs (Decidable (_ ∧ _))

/-! ## Trustworthy entries -/

/-- A stamp is a time that the path has had, and if the path has it now, the text is that on disk. -/
def Dated (session : Session) (path : String) (text : List Char) (stamp : Option Int) : Prop :=
  ∀ time, stamp = some time →
    (∃ moment ∈ session.moments, ∃ stat, moment.disk.stat path = .ok stat ∧ stat.time = time) ∧
      ∀ stat, session.disk.stat path = .ok stat → stat.time = time →
        readText session.disk .utf8 path = .ok text

/-- The index of an entry is right for the text it was built from, its stamp can be relied on, and it is
right for its path unless that is flagged or about to be. -/
def Trustworthy (session : Session) (path : String) (entry : Cached) : Prop :=
  ∃ text, entry.version.index.Stems (· = text) text ∧ session.Dated path text entry.stamp ∧
    (¬ session.Flags path → path ∉ session.pending → Current session.view path text)

/-- What is true throughout an orderly session. -/
structure Inv (session : Session) : Prop where
  source : session.service.source = .documents session.documents
  places : 0 < session.service.config.maxConcurrency
  reflag : session.service.config.reflag.isTruthy = true
  entries : ∀ path entry, session.service.atlas.cache.get? path = some entry →
    session.Trustworthy path entry

variable {session after : Session} {path : String} {entry : Cached}

lemma view_eq (h : session.service.source = .documents session.documents) :
    session.view = session.documents.view session.service.pace session.disk .utf8 := by
  rw [view, Moment.view, now, h]
  rfl

/-- What is said about a path depends only on its document and on what the disk says about it. -/
lemma outcome_congr {documents documents' : Documents} {pace pace' : Pace} {disk disk' : Disk}
    (hdocuments : documents'.get? path = documents.get? path) (hdisk : disk.Agrees disk' path) :
    (documents'.view pace' disk' .utf8).outcome path = (documents.view pace disk .utf8).outcome path := by
  simp only [Workspace.outcome, Documents.view, Documents.diskTime, Documents.text, hdocuments,
    hdisk.1, hdisk.2]

/-- What one action does to a path. -/
structure Moves (session after : Session) (path : String) : Prop where
  disk : session.disk.Agrees after.disk path ∨ session.DatesAnew after.disk path
  seen : after.Flags path ∨ path ∈ after.pending ∨ ¬ session.Flags path ∧
    path ∉ session.pending ∧ session.disk.Agrees after.disk path ∧
      after.documents.get? path = session.documents.get? path

lemma Dated.moves {text : List Char} {stamp : Option Int} (h : session.Dated path text stamp)
    (hpast : after.past = session.moments)
    (hdisk : session.disk.Agrees after.disk path ∨ session.DatesAnew after.disk path) :
    after.Dated path text stamp := by
  intro time htime
  obtain ⟨⟨moment, hmoment, stat, hstat, hsame⟩, hread⟩ := h time htime
  refine ⟨⟨moment, List.mem_cons_of_mem _ (hpast ▸ hmoment), stat, hstat, hsame⟩, ?_⟩
  intro now hnow heq
  rcases hdisk with hagrees | hanew
  · rw [hagrees.2]
    rw [hagrees.1] at hnow
    exact hread now hnow heq
  · exact absurd (hsame.trans heq.symm) (hanew now hnow moment hmoment stat hstat)

lemma Trustworthy.moves (h : session.Trustworthy path entry) (hpast : after.past = session.moments)
    (hsource : session.service.source = .documents session.documents)
    (hafter : after.service.source = .documents after.documents)
    (hmoves : Moves session after path) : after.Trustworthy path entry := by
  obtain ⟨text, hstems, hdated, hcurrent⟩ := h
  refine ⟨text, hstems, hdated.moves hpast hmoves.disk, ?_⟩
  intro hflag hpending
  rcases hmoves.seen with hflagged | hwaiting | ⟨hclear, hdone, hagrees, hdocuments⟩
  · exact absurd hflagged hflag
  · exact absurd hwaiting hpending
  · have hnow := hcurrent hclear hdone
    rw [Current, view_eq hsource] at hnow
    rw [Current, view_eq hafter, outcome_congr hdocuments hagrees, hnow]

/-! ## Actions other than searches -/

/-- An action that leaves the cache alone keeps the invariant if it moves paths as it should. -/
lemma Inv.goOn (h : session.Inv) {service : Service Stack} {disk : Disk} {pending : List String}
    {documents : Documents} (hsource : service.source = .documents documents)
    (hconfig : service.config = session.service.config)
    (hcache : service.atlas.cache = session.service.atlas.cache)
    (hmoves : ∀ path, (session.goOn service disk pending).Caches path →
      Moves session (session.goOn service disk pending) path) :
    (session.goOn service disk pending).Inv := by
  have hafter : (session.goOn service disk pending).service.source
      = .documents (session.goOn service disk pending).documents := by
    simp only [Session.goOn, Session.documents, hsource]
  refine ⟨hafter, ?_, ?_, ?_⟩
  · simpa only [Session.goOn, hconfig] using h.places
  · simpa only [Session.goOn, hconfig] using h.reflag
  · intro path entry hentry
    have hold : session.service.atlas.cache.get? path = some entry := by
      simpa only [Session.goOn, hcache] using hentry
    have hcaches : (session.goOn service disk pending).Caches path := by
      simp only [Caches, Cache.contains, hentry, Option.isSome_some]
    exact (h.entries path entry hold).moves rfl h.source hafter (hmoves path hcaches)

/-- A change on disk that is about to be notified. -/
lemma Inv.change (h : session.Inv) {target : String} {disk : Disk}
    (hown : session.disk.Agrees disk target ∨ session.DatesAnew disk target)
    (hothers : ∀ path, session.Caches path → path ≠ target → session.disk.Agrees disk path) :
    (session.goOn session.service disk (target :: session.pending)).Inv := by
  refine h.goOn h.source rfl rfl ?_
  intro path hcaches
  by_cases htarget : path = target
  · subst htarget
    exact ⟨hown, Or.inr (Or.inl List.mem_cons_self)⟩
  · have hagrees := hothers path hcaches htarget
    refine ⟨Or.inl hagrees, ?_⟩
    by_cases hflag : session.Flags path
    · exact Or.inl hflag
    · by_cases hpending : path ∈ session.pending
      · exact Or.inr (Or.inl (List.mem_cons_of_mem _ hpending))
      · exact Or.inr (Or.inr ⟨hflag, hpending, hagrees, rfl⟩)

lemma Inv.notify (h : session.Inv) (paths : List String) : (session.act (.notify paths)).Inv := by
  rw [act, Service.notifyChanged_spelled]
  refine h.goOn h.source rfl rfl ?_
  intro path _
  refine ⟨Or.inl (.refl _ _), ?_⟩
  by_cases hflag : session.Flags path ∨ path ∈ paths
  · exact Or.inl ((TemplateAtlas.Flags.isChanged_markAll _ _ _).mpr hflag)
  · rw [not_or] at hflag
    by_cases hpending : path ∈ session.pending
    · exact Or.inr (Or.inl (List.mem_filter.mpr ⟨hpending, by simpa using hflag.2⟩))
    · exact Or.inr (Or.inr ⟨hflag.1, hpending, .refl _ _, rfl⟩)

/-- A change of one open document flags its path. -/
lemma Inv.edit (h : session.Inv) (target : String) (edit : Documents → Documents)
    (hedit : ∀ path, path ≠ target →
      (edit session.documents).get? path = session.documents.get? path) :
    (session.request (session.service.editDocuments target edit)).Inv := by
  have hedited : session.service.editDocuments target edit
      = .ok (Service.mark target
          { session.service with source := .documents (edit session.documents) }) := by
    rw [Service.editDocuments, h.source]
  rw [request, hedited]
  refine h.goOn rfl rfl rfl ?_
  intro path _
  refine ⟨Or.inl (.refl _ _), ?_⟩
  by_cases hflag : session.Flags path ∨ path = target
  · refine Or.inl ?_
    show (session.service.atlas.flags.mark target).isChanged path = true
    rw [TemplateAtlas.Flags.isChanged_mark, Bool.or_eq_true, beq_iff_eq]
    exact hflag
  · rw [not_or] at hflag
    by_cases hpending : path ∈ session.pending
    · exact Or.inr (Or.inl hpending)
    · exact Or.inr (Or.inr ⟨hflag.1, hpending, .refl _ _, hedit path hflag.2⟩)

lemma Inv.reset (h : session.Inv) : (session.act .resetCache).Inv := by
  refine ⟨h.source, h.places, h.reflag, ?_⟩
  intro path entry hentry
  simp [act, Session.goOn, Service.resetCache, Atlas.reset] at hentry

/-! ## Searches -/

/-- An entry that a search may use: right for the text of now, with a stamp that can be relied on. -/
def Vouched (session : Session) (path : String) (entry : Cached) : Prop :=
  ∃ text, Current session.view path text ∧ entry.version.index.Stems (· = text) text ∧
    session.Dated path text entry.stamp

lemma Vouched.right (h : session.Vouched path entry) :
    Right session.view path entry.version.index := by
  obtain ⟨text, hcurrent, hstems, -⟩ := h
  exact ⟨text, hcurrent, hstems⟩

/-- The text of a file without unsaved edits is that on disk, if it is there. -/
lemma BuffersAgree.text (h : session.BuffersAgree) (hclean : session.documents.isDirty path = false)
    {stat : FileStat} (hstat : session.disk.stat path = .ok stat) :
    session.documents.text session.disk .utf8 path = readText session.disk .utf8 path := by
  cases hdocument : session.documents.get? path with
  | none => simp only [Documents.text, hdocument]
  | some document =>
      have hsaved : document.dirty = false := by
        simpa [Documents.isDirty, hdocument] using hclean
      simp only [Documents.text, hdocument]
      exact (h path document hdocument hsaved ⟨stat, hstat⟩).symm

lemma stat_of_diskTime {documents : Documents} {disk : Disk} {time : Int}
    (h : documents.diskTime disk path = .ok (some time)) :
    ∃ stat, disk.stat path = .ok stat ∧ stat.time = time := by
  rw [Documents.diskTime] at h
  split at h
  · rename_i stat hstat
    rw [Except.ok.injEq, Option.some.injEq] at h
    exact ⟨stat, hstat, h⟩
  · split_ifs at h
    simp at h
  · simp at h

lemma Inv.plain (h : session.Inv) : session.view.Plain := by
  rw [view_eq h.source]
  exact Documents.view_plain _ _ _

lemma Inv.vouches_usable (h : session.Inv) (hpending : session.pending = [])
    (hbuffers : session.BuffersAgree)
    (hentry : session.service.atlas.cache.get? path = some entry)
    (husable : (session.service.atlas.usable? session.view path).1 = .ok (some entry.version)) :
    session.Vouched path entry := by
  obtain ⟨text, hstems, hdated, hcurrent⟩ := h.entries path entry hentry
  by_cases hflag : session.Flags path
  · refine ⟨text, ?_, hstems, hdated⟩
    rw [Flags] at hflag
    rw [view_eq h.source] at husable ⊢
    cases hdirty : session.documents.isDirty path with
    | true =>
        rw [Atlas.usable?_of_refused (Atlas.trust_of_edited hentry hflag hdirty)] at husable
        cases husable
    | false =>
        rw [Atlas.usable?_of_undecided (Atlas.trust_of_flagged hentry hflag hdirty)] at husable
        cases hstat : session.disk.stat path with
        | error fault => simp [Documents.view, hstat, Except.map, Except.mapError] at husable
        | ok stat =>
            have hstamp : entry.stamp = some stat.time := by
              simpa [Documents.view, hstat, Except.map, Except.mapError] using husable
            have hread := (hdated stat.time hstamp).2 stat hstat rfl
            have htime : session.documents.diskTime session.disk path = .ok (some stat.time) := by
              simp only [Documents.diskTime, hstat]
            exact current_of_ok ((hbuffers.text hdirty hstat).trans hread) htime
  · exact ⟨text, hcurrent hflag (by simp [hpending]), hstems, hdated⟩

lemma Inv.vouches (h : session.Inv) (hpending : session.pending = [])
    (hbuffers : session.BuffersAgree) :
    Vouches session.view session.service.atlas session.Vouched := by
  refine ⟨fun path entry => h.vouches_usable hpending hbuffers, ?_⟩
  intro path text time serial _ htext htime
  refine ⟨text, current_of_ok htext htime, FileIndex.stems_ofText _ path text, ?_⟩
  intro date hdate
  rw [view_eq h.source] at htext htime hdate
  cases hdirty : session.documents.isDirty path with
  | true => simp [Workspace.stamp, Documents.view, hdirty] at hdate
  | false =>
      have hsame : time = some date := by
        simpa [Workspace.stamp, Documents.view, hdirty] using hdate
      obtain ⟨stat, hstat, hdated⟩ := stat_of_diskTime (hsame ▸ htime)
      refine ⟨⟨session.now, List.mem_cons_self, stat, hstat, hdated⟩, fun _ _ _ => ?_⟩
      exact (hbuffers.text hdirty hstat).symm.trans htext

lemma upholds_vouched (session : Session) :
    Upholds (Current session.view) (fun _ text read => read = text) session.Vouched := by
  rintro path text entry index serial hbase hstems ⟨old, hcurrent, -, hdated⟩
  have hsame : old = text := by
    rw [Current, hbase, Except.ok.injEq] at hcurrent
    exact hcurrent.symm
  exact ⟨text, hbase, hstems, hsame ▸ hdated⟩

/-- A candidate that was not loaded is reported as left out. -/
lemma exists_failure {workspace : Workspace} {before : Atlas Stack} {good : String → Cached → Prop}
    {candidates : List String} {loads : List (Except Mishap Loaded)}
    (h : List.Forall₂ (Delivers workspace before good) candidates loads)
    (hcalm : ∀ fault, .error (.fatal fault) ∉ loads) (hpath : path ∈ candidates)
    (hnone : ∀ item ∈ successesOf loads, item.path ≠ path) :
    ∃ failure ∈ failuresOf loads, failure.path = path := by
  induction h with
  | nil => simp at hpath
  | @cons first load candidates loads hfirst _ ih =>
      rcases List.mem_cons.mp hpath with rfl | hpath
      · cases hfirst with
        | @loaded item _ hitem _ _ => exact absurd hitem (hnone item (by simp))
        | @refused mishap hrefused =>
            obtain ⟨fault, hrefuses, rfl⟩ := hrefused
            cases hmishap : fault.mishap with
            | fatal cause => exact absurd (by simp [hmishap]) (hcalm cause)
            | contained failure =>
                refine ⟨failure, mem_failuresOf.mpr (by simp), ?_⟩
                rw [LoadFault.path_of_contained hmishap, hrefuses.path_eq]
      · obtain ⟨failure, hmem, hsame⟩ := ih
          (fun fault hmem => hcalm fault (List.mem_cons_of_mem _ hmem)) hpath
          (fun item hitem => hnone item
            (mem_successesOf.mpr (List.mem_cons_of_mem _ (mem_successesOf.mp hitem))))
        exact ⟨failure, mem_failuresOf.mpr (List.mem_cons_of_mem _ (mem_failuresOf.mp hmem)), hsame⟩

/-- What a query leaves in the cache: entries that it may use itself, and entries that it has not touched.
An untouched entry of a flagged path is still flagged. -/
lemma Inv.queried (h : session.Inv) {name : String} {candidates : List Candidate} {all : Bool}
    (hprepared : session.Prepared candidates all)
    {outcome : Except QueryFault Report × Atlas Stack} {late : List Late}
    (hends : session.service.Ends lexer name candidates all session.disk outcome late)
    (hentry : outcome.2.cache.get? path = some entry) :
    session.Vouched path entry ∨ session.service.atlas.cache.get? path = some entry ∧
      (outcome.2.flags.isChanged path = true ∨ ¬ session.Flags path) := by
  obtain ⟨hpending, hbuffers, hcovered⟩ := hprepared
  cases hends with
  | notPaths => exact Or.inr ⟨hentry, Classical.em (session.Flags path)⟩
  | @queried paths _ _ hpaths hends =>
      have hright : ∀ path entry, session.Vouched path entry →
          Right session.view path entry.version.index := fun _ _ h => h.right
      have hcourse := Scheduled.course (h.vouches hpending hbuffers) session.upholds_vouched
        (fun _ _ h => h) (fun _ _ h => h.ready hright) ⟨late, hends⟩
      cases hcourse with
      | calledOff _ _ hkept =>
          rcases hkept.cache path entry hentry with hold | hbuilt
          · refine Or.inr ⟨hold, ?_⟩
            rw [hkept.flags]
            exact Classical.em (session.Flags path)
          · exact Or.inl hbuilt.1
      | @abandoned loads item _ _ hloads hitem hfault _ =>
          obtain ⟨-, -, hall, -⟩ :=
            loads_outcome h.plain session.service.config.settings name hright hloads
          obtain ⟨text, hcurrent, -⟩ := hall item hitem
          exact absurd (hfault.eq_locationsIn hcurrent) (by simp)
      | @answered loads _ _ hloads hcalm _ hsettled =>
          rcases hsettled.cache path entry hentry with hfine | ⟨hold, hnone⟩
          · exact Or.inl hfine
          · refine Or.inr ⟨hold, ?_⟩
            by_cases hflag : session.Flags path
            · refine Or.inl ?_
              have hcaches : session.Caches path := by
                simp only [Caches, Cache.contains, hold, Option.isSome_some]
              obtain ⟨failure, hfailure, hsame⟩ :=
                exists_failure hloads hcalm (hcovered paths hpaths path hflag hcaches) hnone
              have hreflag : session.service.config.settings.reflag = true := h.reflag
              rw [hsettled.flags, hreflag, TemplateAtlas.Flags.isChanged_markAll]
              exact Or.inr (List.mem_map.mpr ⟨failure, hfailure, hsame⟩)
            · exact Or.inr hflag

/-- A search keeps the invariant, if its log does not get in the way. -/
lemma Inv.searched (h : session.Inv) {name : String} {candidates : List Candidate} {all : Bool}
    {now : Int} {outcome : Except QueryFault Report × Atlas Stack} {late : List Late}
    (hends : session.service.Ends lexer name candidates all session.disk outcome late)
    (hprepared : session.Prepared candidates all)
    (hseparate : session.Separate (.search name candidates all now) (session.searched now outcome late)) :
    (session.searched now outcome late).Inv := by
  obtain ⟨hatlas, halike⟩ := session.service.conclude_service "search" now session.disk outcome
  set after := session.searched now outcome late with hafter
  have hsource : after.service.source = session.service.source := halike.source
  have hconfig : after.service.config = session.service.config := halike.config
  have hdocuments : after.documents = session.documents := by
    rw [documents, hsource]
    rfl
  have hsourceAfter : after.service.source = .documents after.documents := by
    rw [hdocuments, ← h.source]
    exact hsource
  refine ⟨hsourceAfter, ?_, ?_, ?_⟩
  · rw [hconfig]
    exact h.places
  · rw [hconfig]
    exact h.reflag
  · intro path entry hentry
    have hcaches : after.Caches path := by
      simp only [Caches, Cache.contains, hentry, Option.isSome_some]
    have hagrees := hseparate path hcaches (by simp [Action.target?])
    have hleft : after.service.atlas = outcome.2 := hatlas
    rcases h.queried hprepared hends (hleft ▸ hentry) with ⟨text, hcurrent, hstems, hdated⟩ | ⟨hold, hflag⟩
    · refine ⟨text, hstems, hdated.moves rfl (Or.inl hagrees), fun _ _ => ?_⟩
      rw [Current, view_eq hsourceAfter, hdocuments, outcome_congr rfl hagrees,
        ← view_eq h.source]
      exact hcurrent
    · refine (h.entries path entry hold).moves rfl h.source hsourceAfter ⟨Or.inl hagrees, ?_⟩
      rcases hflag with hflag | hflag
      · refine Or.inl ?_
        rw [Flags, hleft]
        exact hflag
      · exact Or.inr (Or.inr ⟨hflag, by simp [hprepared.1], hagrees, by rw [hdocuments]⟩)

/-! ## Runs -/

/-- An action that is no search keeps the invariant. -/
lemma Inv.acted (h : session.Inv) {action : Action} (hasks : action.asks? = none)
    (hfair : session.Fair action (session.act action)) : (session.act action).Inv := by
  obtain ⟨⟨hown, -⟩, hseparate, hidle⟩ := hfair
  cases action with
  | write path bytes time =>
      have hown := hown path rfl
      rw [Separate] at hseparate
      rw [Session.act] at hown hseparate ⊢
      generalize (session.disk.write (.ofText path) bytes time).2 = disk at hown hseparate ⊢
      exact h.change hown fun other hcaches hne =>
        hseparate other hcaches fun heq => hne (Option.some.inj heq).symm
  | delete path =>
      have hown := hown path rfl
      rw [Separate] at hseparate
      rw [Session.act] at hown hseparate ⊢
      generalize (session.disk.remove (.ofText path)).2 = disk at hown hseparate ⊢
      exact h.change hown fun other hcaches hne =>
        hseparate other hcaches fun heq => hne (Option.some.inj heq).symm
  | notify paths => exact h.notify paths
  | openDocument path document =>
      exact h.edit path _ fun other hne => Documents.get?_openAt_ne _ hne document
  | updateDocument path text =>
      exact h.edit path _ fun other hne => Documents.get?_openAt_ne _ hne ⟨text, true⟩
  | saveDocument path => exact h.edit path _ fun other hne => Documents.get?_save_ne _ hne
  | closeDocument path => exact h.edit path _ fun other hne => Documents.get?_close_ne _ hne
  | resetCache => exact h.reset
  | search => simp [Action.asks?] at hasks
  | lateTurn task ago =>
      -- nothing is under way that could take a turn
      have hlate : session.late = [] := hidle
      rw [Session.act, lateTurn, hlate, List.getElem?_nil]
      exact h
  | callOff => exact ⟨h.source, h.places, h.reflag, h.entries⟩

/-- **Whatever comes of a fair action, the invariant is kept.** -/
theorem Inv.next (h : session.Inv) {action : Action} {after : Session} (hnext : session.Next action after)
    (hfair : session.Fair action after) : after.Inv := by
  cases hnext with
  | @searched name candidates all now outcome late hends =>
      exact h.searched hends (hfair.1.2 (candidates, all) rfl) hfair.2.1
  | acted hasks => exact h.acted hasks hfair

/-- What every action keeps, a run keeps. -/
theorem Inv.reaches {start : Session} (h : start.Inv) (hreach : start.Reaches Fair session) :
    session.Inv := by
  induction hreach with
  | start => exact h
  | next _ hnext hfair ih => exact ih.next hnext hfair

lemma Begins.inv (h : session.Begins) (hreflag : session.service.config.reflag.isTruthy = true) :
    session.Inv := by
  obtain ⟨hcache, -, ⟨documents, hsource⟩, hplaces, -⟩ := h.spec
  refine ⟨?_, hplaces, hreflag, ?_⟩
  · simp only [Session.documents, hsource]
  · intro path entry hentry
    simp [hcache, Cache.get?] at hentry

end Session

/-- A service as it is when it was just created, with the settings, the log and the open documents of
another one. -/
structure Service.FreshLike (service fresh : Service Stack) : Prop where
  config : fresh.config = service.config
  source : fresh.source = service.source
  log : fresh.log? = service.log?
  cache : fresh.atlas.cache = {}
  flags : fresh.atlas.flags = {}

namespace Session

/-- What the query of a search comes to follows from the disk and the open documents. -/
lemma Inv.answer {session : Session} (h : session.Inv) {name : String} {candidates : List Candidate}
    {all : Bool} (hprepared : session.Prepared candidates all)
    {outcome : Except QueryFault Report × Atlas Stack} {late : List Late}
    (hends : session.service.Ends lexer name candidates all session.disk outcome late) :
    outcome.1.map Report.answer
      = directCandidates session.view session.service.config.settings name candidates all :=
  hends.eq_direct h.plain fun _ _ hentry husable =>
    (h.vouches_usable hprepared.1 hprepared.2.1 hentry husable).right

/-- On a service that was just created it follows from them, too. -/
lemma Inv.fresh_answer {session : Session} (h : session.Inv) {fresh : Service Stack}
    (hfresh : session.service.FreshLike fresh) {name : String} {candidates : List Candidate} {all : Bool}
    {outcome : Except QueryFault Report × Atlas Stack} {late : List Late}
    (hends : fresh.Ends lexer name candidates all session.disk outcome late) :
    outcome.1.map Report.answer
      = directCandidates session.view session.service.config.settings name candidates all := by
  have hview : directCandidates (fresh.view session.disk) fresh.config.settings name candidates all
      = directCandidates session.view session.service.config.settings name candidates all := by
    rw [hfresh.config, view_eq h.source, Service.view, hfresh.source, h.source]
    rfl
  have hplain : (fresh.view session.disk).Plain := by
    rw [Service.view, hfresh.source, h.source]
    exact Documents.view_plain _ _ _
  rw [← hview]
  refine hends.eq_direct hplain ?_
  intro path entry hentry
  simp [hfresh.cache, Cache.get?] at hentry

/-- **The cache is transparent.**  In an orderly session whose changes keep to themselves, and in which nothing that a
search has left under way goes on later, every search gives the same locations and the same failures as on a service
that was just created, in whatever order the loads and the resolves of all these searches take their turns. -/
theorem search_eq_fresh {start session : Session} (hstart : start.Begins)
    (hreflag : start.service.config.reflag.isTruthy = true) (hreach : start.Reaches Fair session)
    {name : String} {candidates : List Candidate} {all : Bool} {now : Int}
    (hprepared : session.Prepared candidates all) {fresh : Service Stack}
    (hfresh : session.service.FreshLike fresh) {answer freshAnswer : Except ServiceFault Report}
    (hanswer : session.Answers name candidates all now answer)
    (hfreshAnswer : fresh.Answers lexer name candidates all now session.disk freshAnswer) :
    answer.map Report.answer = freshAnswer.map Report.answer := by
  have hinv := (hstart.inv hreflag).reaches hreach
  obtain ⟨-, after, outcome, late, hends, hresult⟩ := hanswer
  obtain ⟨freshAfter, freshOutcome, freshLate, hfreshEnds, hfreshResult⟩ := hfreshAnswer
  obtain rfl := congrArg Prod.fst hresult
  obtain rfl := congrArg Prod.fst hfreshResult
  have hlog : fresh.logFault? session.disk = session.service.logFault? session.disk := by
    rw [Service.logFault?, Service.logFault?, hfresh.log]
  rw [Service.conclude_answer, Service.conclude_answer, hinv.answer hprepared hends,
    hinv.fresh_answer hfresh hfreshEnds, hlog]

/-! ## Runs on an empty disk -/

/-- The service that is created anew beside the one of a session. -/
def fresh (session : Session) : Service Stack :=
  { session.service with atlas := { memory := [] } }

lemma freshLike_fresh (session : Session) : session.service.FreshLike session.fresh :=
  ⟨rfl, rfl, rfl, rfl, rfl⟩

/-- A file is written, asked for, written anew with another time, and asked for once more. -/
def rewriting : List Action :=
  [.write "a.soy" "\x7btemplate .aa\x7d".toUTF8.toList 5, .notify ["a.soy"],
    .search "*" [.spelled "a.soy"] false 0,
    .write "a.soy" "\n\x7btemplate .bb\x7d".toUTF8.toList 6, .notify ["a.soy"]]

theorem search_eq_fresh_rewriting :
    ((onEmptyDisk.run rewriting).service.search lexer "*" [.spelled "a.soy"] false 0
        (onEmptyDisk.run rewriting).disk).1.map Report.answer
      = ((onEmptyDisk.run rewriting).fresh.search lexer "*" [.spelled "a.soy"] false 0
          (onEmptyDisk.run rewriting).disk).1.map Report.answer :=
  search_eq_fresh onEmptyDisk_begins (by decide +kernel)
    (Reaches.start.run (by decide +kernel) (by decide +kernel)) (by decide +kernel) (freshLike_fresh _)
    ⟨by decide +kernel, Service.search_answers _ _ _ _ _ (by decide +kernel)⟩
    (Service.search_answers _ _ _ _ _ (by decide +kernel))

/-- Each action of a session meets a condition, and whoever asks then is prepared, but the answer is not that of a new
service. -/
structure Stale (meets : Session → Action → Session → Prop) (start : Session) (actions : List Action)
    (name : String) (candidates : List Candidate) : Prop where
  begins : start.Begins
  reflag : start.service.config.reflag.isTruthy = true
  along : start.Along meets actions
  prepared : (start.run actions).Prepared candidates false
  differs : ((start.run actions).service.search lexer name candidates false 0
      (start.run actions).disk).1.map Report.answer
    ≠ ((start.run actions).fresh.search lexer name candidates false 0
        (start.run actions).disk).1.map Report.answer

/-- A session on an empty disk whose query log is a file that can be asked for. -/
def withLog : Session :=
  (start? 1 "soy_index.toml" ⟨.relative, []⟩ { auditLog := some (.ofText "log.soy") } {} ⟨1, 1, 0⟩ false []
    emptyDisk).toOption.get (by decide +kernel)

lemma withLog_begins : withLog.Begins :=
  ⟨_, _, _, _, _, _, _, _, _, Except.mem_toOption.mp (Option.get_mem _)⟩

/-- A file is written and asked for, which adds a line to it. -/
def askingLog : List Action :=
  [.write "log.soy" "\x7btemplate .aa\x7d".toUTF8.toList 5, .notify ["log.soy"],
    .search "*" [.spelled "log.soy"] false 0]

/-- A path that no file can have ends a search while a file is read.  The file is written anew and asked for.  Then the
first read comes to its end. -/
def readingOn : List Action :=
  [.write "a.soy" "\x7btemplate .aa\x7d".toUTF8.toList 5, .notify ["a.soy"],
    .search "*" [.spelled "a.soy", .spelled "\x00.soy"] false 0,
    .write "a.soy" "\n\x7btemplate .bb\x7d".toUTF8.toList 6, .notify ["a.soy"],
    .search "*" [.spelled "a.soy"] false 0, .lateTurn 0 3]

/-- Nobody notifies the lines that searches add to their log. -/
lemma withLog_stale :
    Stale (fun session action after => session.Orderly action after ∧ session.Idle action) withLog askingLog
      "*" [.spelled "log.soy"] where
  begins := withLog_begins
  reflag := by decide +kernel
  along := by decide +kernel
  prepared := by decide +kernel
  differs := by decide +kernel

lemma onEmptyDisk_stale :
    Stale (fun session action after => session.Orderly action after ∧ session.Separate action after)
      onEmptyDisk readingOn "*" [.spelled "a.soy"] where
  begins := onEmptyDisk_begins
  reflag := by decide +kernel
  along := by decide +kernel
  prepared := by decide +kernel
  differs := by decide +kernel

/-- **Order is not enough.**  Nobody notifies the lines that searches add to their log.  And a load that goes on after
its search has ended stores what it has read by then, though the file was written anew and checked since. -/
theorem search_ne_fresh :
    Stale (fun session action after => session.Orderly action after ∧ session.Idle action) withLog askingLog
        "*" [.spelled "log.soy"] ∧
      Stale (fun session action after => session.Orderly action after ∧ session.Separate action after)
        onEmptyDisk readingOn "*" [.spelled "a.soy"] :=
  ⟨withLog_stale, onEmptyDisk_stale⟩

end Session

end TemplateAtlas
