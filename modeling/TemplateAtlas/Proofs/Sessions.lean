import Mathlib.Tactic.Common
import TemplateAtlas.Proofs.MergedSettings
import TemplateAtlas.Proofs.Queries
import TemplateAtlas.Service

/-!
# Sessions

A session is a service at work: somebody writes and deletes files, an editor opens, changes, saves and
closes documents, changes are notified, and in between the service is asked.  Whatever is said about whole
runs is said about lists of such actions, or about all sessions that can be reached by them.

* `Action`, `Session.act`, `Session.run` — what can happen, in any order.
* `Session.Next`, `Session.Reaches` — the same, but the loads and the resolves of a search take their turns in
  any order.  `Session.act` is one of the things that can come of an action: `Session.next_act`.
* `Session.Begins` — a session begins when a service is created.  Its cache is empty, it has a place for at
  least one load, and it reads from disk: `Session.Begins.spec`.
* `Session.past`, `Session.pending`, `Session.origins` — what nobody stores, but what is needed to speak about
  runs: the moments of the session so far, the paths that were changed on disk and have not been notified
  since, and the texts that cached indexes come from.
* `Session.late` — the loads and resolves that are still under way because a fault has ended their search.  They
  may go on later (`Action.lateTurn`), unless they are called off (`Action.callOff`), as an event loop does with
  them when it is closed.  `Session.Idle` says that nothing of that kind is under way.
-/

namespace TemplateAtlas

open Soy Search

/-! ## What can come of a search -/

namespace Service

variable {σ : Type} (lexer : LineLexer σ) (service : Service σ) (name : String) (candidates : List Candidate)
  (all : Bool) (now : Int) (disk : Disk)

/-- The query that a search asks. -/
def queried : Except QueryFault Report × Atlas σ :=
  queryCandidates lexer (service.view disk) service.config.settings name candidates all service.atlas

/-- What it leaves under way. -/
def left : List Late :=
  candidatesLeft lexer (service.view disk) service.config.settings name service.atlas candidates all

/-- What can come of the query that a search asks, whatever the order of the turns, and what is left under way
then. -/
def Ends (outcome : Except QueryFault Report × Atlas σ) (late : List Late) : Prop :=
  CandidatesEnd lexer (service.view disk) service.config.settings name service.atlas candidates all outcome late

/-- What can come of a search, whatever the order of the turns. -/
def Searches (result : Except ServiceFault Report × Service σ × Disk) : Prop :=
  ∃ outcome late, service.Ends lexer name candidates all disk outcome late ∧
    result = service.conclude "search" now disk outcome

/-- What a search can answer, whatever the order of the turns. -/
def Answers (answer : Except ServiceFault Report) : Prop :=
  ∃ after, service.Searches lexer name candidates all now disk (answer, after)

variable {lexer service}

lemma queried_ends (hplaces : 0 < service.config.maxConcurrency) :
    service.Ends lexer name candidates all disk (service.queried lexer name candidates all disk)
      (service.left lexer name candidates all disk) :=
  queryCandidates_ends lexer (service.view disk) hplaces name candidates all service.atlas

/-- **A search is one of the things that can come of it.** -/
theorem search_searches (hplaces : 0 < service.config.maxConcurrency) :
    service.Searches lexer name candidates all now disk (service.search lexer name candidates all now disk) :=
  ⟨_, _, queried_ends name candidates all disk hplaces, rfl⟩

lemma search_answers (hplaces : 0 < service.config.maxConcurrency) :
    service.Answers lexer name candidates all now disk (service.search lexer name candidates all now disk).1 :=
  ⟨_, search_searches name candidates all now disk hplaces⟩

end Service

/-! ## Actions -/

/-- What the outside world looks like: the open documents and the disk, and how long it takes to answer. -/
structure Moment where
  source : TextSource
  pace : Pace
  disk : Disk

/-- What queries see at a moment. -/
def Moment.view (moment : Moment) : Workspace := moment.source.view moment.pace moment.disk

/-- Something that happens to a service or to the disk. -/
inductive Action where
  | write (path : String) (bytes : List UInt8) (time : Int)
  | delete (path : String)
  | notify (paths : List String)
  | openDocument (path : String) (document : Document)
  | updateDocument (path : String) (text : List Char)
  | saveDocument (path : String)
  | closeDocument (path : String)
  | resetCache
  | search (name : String) (candidates : List Candidate) (all : Bool) (now : Int)
  /-- Something that was left under way takes its next turn.  The answer that it has waited for was given the
  number of actions ago. -/
  | lateTurn (task ago : Nat)
  /-- Whatever was left under way is called off. -/
  | callOff

/-- What an action asks about, if it is a search. -/
def Action.asks? : Action → Option (List Candidate × Bool)
  | .search _ candidates all _ => some (candidates, all)
  | _ => none

/-- Where a cached index comes from: the text it was built from, and the texts in which ranges were looked
for later. -/
structure Origin where
  base : List Char
  reads : List (List Char) := []

/-- A service, the disk, the moments before this one, the changed paths that were not notified, the origins of the
cached indexes, and what is still under way. -/
structure Session where
  service : Service Stack
  disk : Disk
  past : List Moment := []
  pending : List String := []
  origins : String → Option Origin := fun _ => none
  late : List Late := []

/-- A task after a turn, if it is still under way. -/
def Search.Late.after {κ α : Type} (task : Option (Step κ α) → Late) : Step κ α → List Late
  | .wait rounds held => [task (some (.wait rounds held))]
  | .done _ => []

/-- It is a resolve. -/
def Search.Late.isResolve : Late → Bool
  | .load .. => false
  | .resolve .. => true

/-- The next turn of a load or a resolve that was left under way. -/
def Search.Late.take (workspace : Workspace) (atlas : Atlas Stack) : Late → List Late × Atlas Stack
  | .load path last? =>
    let (step, atlas) := (loading workspace).step path last? atlas
    (Late.after (.load path) step, atlas)
  | .resolve selected last? =>
    let (step, atlas) := (resolving lexer workspace).step selected last? atlas
    (Late.after (.resolve selected) step, atlas)

namespace Session

/-- The present moment. -/
def now (session : Session) : Moment := ⟨session.service.source, session.service.pace, session.disk⟩

/-- All moments so far. -/
def moments (session : Session) : List Moment := session.now :: session.past

/-- What queries see now. -/
def view (session : Session) : Workspace := session.now.view

/-- The cached index of a path would be used as it is. -/
def serves (session : Session) (path : String) : Bool :=
  match (session.service.atlas.usable? session.view path).1 with
  | .ok (some _) => true
  | _ => false

/-- The origin of the index that a path has in a later cache.  An index that differs was made from the text that the
workspace gives: either it has got new ranges there, or it was built from it. -/
def originIn (session : Session) (workspace : Workspace) (resolves : String → Bool) (cache : Cache)
    (path : String) : Option Origin :=
  if cache.get? path = session.service.atlas.cache.get? path then session.origins path
  else
    match workspace.text path with
    | .error _ => session.origins path
    | .ok text =>
      if resolves path then
        (session.origins path).map fun origin => { origin with reads := text :: origin.reads }
      else some ⟨text, []⟩

/-- A later session with the given service and disk.  In between, a cached index that would have been used as it is
may have got new ranges, and any other one may have been built. -/
def goOn (session : Session) (service : Service Stack) (disk : Disk) (pending : List String) :
    Session :=
  { service, disk, pending
    past := session.moments
    origins := session.originIn session.view session.serves service.atlas.cache
    late := session.late }

/-- The session after a request to the service, which stays as it is if it refuses. -/
def request (session : Session) (outcome : Except ServiceFault (Service Stack)) : Session :=
  session.goOn (outcome.toOption.getD session.service) session.disk session.pending

/-- The session after a search, given what its query has come to and what it leaves under way. -/
def searched (session : Session) (now : Int) (outcome : Except QueryFault Report × Atlas Stack)
    (late : List Late) : Session :=
  let (_, service, disk) := session.service.conclude "search" now session.disk outcome
  { session.goOn service disk session.pending with late := session.late ++ late }

/-- The session after the turn of a task that was left under way. -/
def lateTurn (session : Session) (task ago : Nat) : Session :=
  match session.late[task]?, session.moments[ago]? with
  | some late, some moment =>
    let (next, atlas) := late.take moment.view session.service.atlas
    { session.goOn { session.service with atlas := atlas } session.disk session.pending with
      origins := session.originIn moment.view (fun _ => late.isResolve) atlas.cache
      late := session.late.eraseIdx task ++ next }
  | _, _ => session

/-- What comes of an action. -/
def act (session : Session) : Action → Session
  | .write path bytes time =>
    session.goOn session.service (session.disk.write (.ofText path) bytes time).2
      (path :: session.pending)
  | .delete path =>
    session.goOn session.service (session.disk.remove (.ofText path)).2 (path :: session.pending)
  | .notify paths =>
    session.goOn (session.service.notifyChanged (paths.map .spelled)).2 session.disk
      (session.pending.filter (· ∉ paths))
  | .openDocument path document => session.request (session.service.openDocument path document)
  | .updateDocument path text => session.request (session.service.updateDocument path text)
  | .saveDocument path => session.request (session.service.saveDocument path)
  | .closeDocument path => session.request (session.service.closeDocument path)
  | .resetCache => session.goOn session.service.resetCache session.disk session.pending
  | .search name candidates all now =>
    session.searched now (session.service.queried lexer name candidates all session.disk)
      (session.service.left lexer name candidates all session.disk)
  | .lateTurn task ago => session.lateTurn task ago
  | .callOff => { session with late := [] }

/-- What comes of some actions, one after the other. -/
def run (session : Session) (actions : List Action) : Session := actions.foldl act session

/-- What can come of an action: of a search, whatever can come of its query in some order of the turns. -/
inductive Next (session : Session) : Action → Session → Prop
  | searched {name : String} {candidates : List Candidate} {all : Bool} {now : Int}
      {outcome : Except QueryFault Report × Atlas Stack} {late : List Late}
      (h : session.service.Ends lexer name candidates all session.disk outcome late) :
      Next session (.search name candidates all now) (session.searched now outcome late)
  | acted {action : Action} (h : action.asks? = none) : Next session action (session.act action)

/-- A session can be reached by actions that all meet a condition, which is about the session before the action, the
action, and the session after it. -/
inductive Reaches (meets : Session → Action → Session → Prop) (start : Session) : Session → Prop
  | start : Reaches meets start start
  | next {session after : Session} {action : Action} (h : Reaches meets start session)
      (hnext : session.Next action after) (hmeets : meets session action after) : Reaches meets start after

/-- Every action of a run meets a condition when its turn comes. -/
def Along (meets : Session → Action → Session → Prop) : List Action → Session → Prop
  | [], _ => True
  | action :: actions, session =>
    meets session action (session.act action) ∧ Along meets actions (session.act action)

/-- Nothing is under way from before when the action happens, or the action is that it is called off. -/
def Idle (session : Session) : Action → Prop
  | .callOff => True
  | _ => session.late = []

/-- What a search can answer, if nothing is under way from before that would take its turns in between. -/
structure Answers (session : Session) (name : String) (candidates : List Candidate) (all : Bool) (now : Int)
    (answer : Except ServiceFault Report) : Prop where
  idle : session.late = []
  answers : session.service.Answers lexer name candidates all now session.disk answer

/-- The session of a service that is created to read from disk, under some open documents. -/
def start? (weight : Nat) (fileName : String) (root : Path) (overrides : Overrides) (documents : Documents)
    (pace : Pace) (watch : Bool) (memory : Stack) (disk : Disk) : Except ServiceFault Session :=
  (Service.create weight fileName root overrides (.documents documents) pace watch memory disk).map
    fun (service, disk) => { service, disk }

/-- The session begins with a service that was just created. -/
def Begins (session : Session) : Prop :=
  ∃ weight fileName root overrides documents pace watch memory disk,
    start? weight fileName root overrides documents pace watch memory disk = .ok session

/-- The path has an index in the cache. -/
def Caches (session : Session) (path : String) : Prop :=
  session.service.atlas.cache.contains path = true

/-- The path is flagged. -/
def Flags (session : Session) (path : String) : Prop :=
  session.service.atlas.flags.isChanged path = true

instance (session : Session) (path : String) : Decidable (session.Caches path) :=
  inferInstanceAs (Decidable (_ = true))

instance (session : Session) (path : String) : Decidable (session.Flags path) :=
  inferInstanceAs (Decidable (_ = true))

instance (session : Session) : Decidable (session.late = []) :=
  decidable_of_iff (session.late.isEmpty = true) List.isEmpty_iff

instance (session : Session) : ∀ action, Decidable (session.Idle action)
  | .callOff => .isTrue trivial
  | .write .. | .delete _ | .notify _ | .openDocument .. | .updateDocument .. | .saveDocument _
  | .closeDocument _ | .resetCache | .search .. | .lateTurn .. =>
    inferInstanceAs (Decidable (session.late = []))

instance decidableAlong {meets : Session → Action → Session → Prop}
    [∀ session action after, Decidable (meets session action after)] :
    ∀ (actions : List Action) (session : Session), Decidable (Along meets actions session)
  | [], _ => .isTrue trivial
  | action :: actions, session =>
    have : Decidable (Along meets actions (session.act action)) := decidableAlong actions _
    inferInstanceAs (Decidable (_ ∧ _))

lemma Along.append {meets : Session → Action → Session → Prop} {first second : List Action}
    {session : Session} : Along meets (first ++ second) session ↔
      Along meets first session ∧ Along meets second (session.run first) := by
  induction first generalizing session with
  | nil => simp [Along, run]
  | cons action actions ih => simp only [List.cons_append, Along, ih, and_assoc, run, List.foldl_cons]

end Session

/-! ## Created services -/

lemma Except.mem_toOption {ε α : Type} {outcome : Except ε α} {value : α} :
    value ∈ outcome.toOption ↔ outcome = .ok value := by
  cases outcome <;> simp [Except.toOption]

lemma Except.ok_of_mapError {ε ε' α : Type} {outcome : Except ε α} {f : ε → ε'} {value : α}
    (h : outcome.mapError f = .ok value) : outcome = .ok value := by
  cases outcome with
  | error fault => simp [Except.mapError] at h
  | ok found => simpa [Except.mapError] using h

/-- Accepted settings leave a place for at least one load. -/
lemma Settings.pos_of_accept {settings accepted : Settings} (h : settings.accept = .ok accepted) :
    0 < settings.maxConcurrency := by
  rw [accept] at h
  split_ifs at h with hnone
  exact Nat.not_lt.mp hnone

/-- What is known of a created service. -/
theorem Service.create_spec {weight : Nat} {fileName : String} {root : Path} {overrides : Overrides}
    {source : TextSource} {pace : Pace} {watch : Bool} {memory : Stack} {disk after : Disk}
    {service : Service Stack}
    (h : Service.create weight fileName root overrides source pace watch memory disk = .ok (service, after)) :
    service.atlas = { memory := memory } ∧ service.source = source ∧
      0 < service.config.maxConcurrency := by
  rw [Service.create] at h
  obtain ⟨config, -, h⟩ := Except.bind_eq_ok_iff.mp h
  obtain ⟨watcher?, -, h⟩ := Except.bind_eq_ok_iff.mp h
  obtain ⟨⟨log?, disk⟩, -, h⟩ := Except.bind_eq_ok_iff.mp h
  obtain ⟨settings, haccept, h⟩ := Except.bind_eq_ok_iff.mp h
  rw [Except.ok.injEq, Prod.mk.injEq] at h
  rw [← h.1]
  exact ⟨rfl, rfl, Settings.pos_of_accept (Except.ok_of_mapError haccept)⟩

/-- What is known of a session that begins. -/
theorem Session.Begins.spec {session : Session} (h : session.Begins) :
    session.service.atlas.cache = {} ∧ session.service.atlas.flags = {} ∧
      (∃ documents, session.service.source = .documents documents) ∧
      0 < session.service.config.maxConcurrency ∧ session.origins = fun _ => none := by
  obtain ⟨weight, fileName, root, overrides, documents, pace, watch, memory, disk, hstart⟩ := h
  rw [Session.start?] at hstart
  cases hcreate : Service.create weight fileName root overrides (.documents documents) pace watch memory disk with
  | error fault => simp [hcreate, Except.map] at hstart
  | ok created =>
      obtain ⟨service, after⟩ := created
      rw [hcreate, Except.map, Except.ok.injEq] at hstart
      obtain ⟨hatlas, hsource, hplaces⟩ := Service.create_spec hcreate
      rw [← hstart]
      exact ⟨by rw [hatlas], by rw [hatlas], ⟨documents, hsource⟩, hplaces, rfl⟩

namespace Session

/-- A disk with nothing on it. -/
def emptyDisk : Disk := ⟨.folder [] 0, [], 1⟩

/-- A session on an empty disk that answers in the next round. -/
def onEmptyDisk : Session :=
  (start? 1 "soy_index.toml" ⟨.relative, []⟩ {} {} ⟨1, 1, 0⟩ false [] emptyDisk).toOption.get
    (by decide +kernel)

lemma onEmptyDisk_begins : onEmptyDisk.Begins :=
  ⟨_, _, _, _, _, _, _, _, _, Except.mem_toOption.mp (Option.get_mem _)⟩

end Session

/-! ## Open documents -/

namespace Documents

variable {path other : String}

lemma get?_close_ne (documents : Documents) (h : other ≠ path) :
    (documents.close path).get? other = documents.get? other := by
  rw [get?, get?, close]
  induction documents.entries with
  | nil => rfl
  | cons entry entries ih =>
      obtain ⟨key, document⟩ := entry
      rw [List.filter_cons]
      split_ifs with hkey
      · rw [List.lookup_cons, List.lookup_cons, ih]
      · have hne : (other == key) = false := by
          have heq : key = path := by simpa using hkey
          exact beq_false_of_ne (heq ▸ h)
        rw [List.lookup_cons, hne, ih]

lemma get?_openAt_ne (documents : Documents) (h : other ≠ path) (document : Document) :
    (documents.openAt path document).get? other = documents.get? other := by
  rw [← get?_close_ne documents h, get?, openAt, List.lookup_cons, beq_false_of_ne h]
  rfl

lemma get?_save_ne (documents : Documents) (h : other ≠ path) :
    (documents.save path).get? other = documents.get? other := by
  rw [save]
  split
  · exact get?_openAt_ne documents h _
  · rfl

end Documents

/-! ## What queries see -/

open Text in
/-- UTF-8 is always read, so that only the disk can refuse a text. -/
lemma readText_error {disk : Disk} {path : String} {cause : SourceFault}
    (h : readText disk .utf8 path = .error cause) :
    ∃ fault : DiskFault, cause = fault.toSource := by
  unfold readText at h
  generalize disk.read (Path.ofText path).text = outcome at h
  cases outcome with
  | error fault => exact ⟨fault, (Except.error.inj h).symm⟩
  | ok bytes =>
      have hsome : ∃ text, Encoding.utf8.text? bytes = some text := ⟨_, rfl⟩
      obtain ⟨text, htext⟩ := hsome
      simp only [htext] at h
      simp at h

namespace Documents

variable {documents : Documents} {disk : Disk} {path : String}

lemma diskTime_error {cause : SourceFault} (h : documents.diskTime disk path = .error cause) :
    ∃ fault, disk.stat path = .error fault ∧ cause = fault.toSource := by
  rw [diskTime] at h
  split at h
  · simp at h
  · rename_i hstat
    split_ifs at h
    exact ⟨_, hstat, (Except.error.inj h).symm⟩
  · rename_i fault _ hstat
    exact ⟨fault, hstat, (Except.error.inj h).symm⟩

lemma text_error {cause : SourceFault} (h : documents.text disk .utf8 path = .error cause) :
    ∃ fault : DiskFault, cause = fault.toSource := by
  cases hdocument : documents.get? path with
  | some document => simp [text, hdocument] at h
  | none =>
      simp only [text, hdocument] at h
      exact readText_error h

/-- **A disk under open documents is plain.** -/
theorem view_plain (documents : Documents) (pace : Pace) (disk : Disk) :
    (documents.view pace disk .utf8).Plain := by
  have hcause : ∀ {fault : DiskFault}, (∀ reason, fault.toSource ≠ .unavailable reason) →
      fault = .nulInPath := by
    intro fault hfault
    cases fault <;> simp [DiskFault.toSource] at hfault ⊢
  have hfatal : ∀ {path : String} {stage : Stage} {fault : DiskFault} {cause : QueryFault},
      (LoadFault.mk path stage fault.toSource).mishap = .fatal cause →
        cause = .source .nulInPath := by
    intro path stage fault cause h
    cases fault <;> simp [LoadFault.mishap, DiskFault.toSource] at h
    exact h.symm
  refine ⟨?_, ?_⟩
  · intro path cause h hnot
    simp only [view] at h ⊢
    cases hstat : disk.stat path with
    | ok stat => simp [hstat, Except.map, Except.mapError] at h
    | error fault =>
        simp only [hstat, Except.map, Except.mapError, Except.error.injEq] at h
        subst h
        rw [hcause hnot] at hstat ⊢
        simp [diskTime, hstat]
  · intro path fault cause hrefuses hmishap
    cases hrefuses with
    | stat h =>
        obtain ⟨fault, -, rfl⟩ := diskTime_error h
        exact hfatal hmishap
    | read htime h =>
        obtain ⟨fault, rfl⟩ := text_error h
        exact hfatal hmishap
    | check h hnot =>
        simp only [view] at h
        cases hstat : disk.stat path with
        | ok stat => simp [hstat, Except.map, Except.mapError] at h
        | error fault =>
            simp only [hstat, Except.map, Except.mapError, Except.error.injEq] at h
            subst h
            exact hfatal hmishap

end Documents

/-! ## Searches and notifications -/

namespace Service

/-- Why a report cannot be logged, if it cannot. -/
def logFault? {σ : Type} (service : Service σ) (disk : Disk) : Option DiskFault :=
  service.log?.bind fun log =>
    match disk.openFile log.path with
    | .error fault => some fault
    | .ok _ => none

/-- What a report becomes when it is logged. -/
def logged (fault? : Option DiskFault) {α : Type} (report : α) : Except ServiceFault α :=
  match fault? with
  | some fault => .error (.disk fault)
  | none => .ok report

/-- Two services that differ in their atlas, and in the number of queries they have logged. -/
structure Alike {σ : Type} (service after : Service σ) : Prop where
  config : after.config = service.config
  source : after.source = service.source
  pace : after.pace = service.pace
  log : after.log? = service.log?

section

variable {σ : Type} (service : Service σ) (operation : String) (now : Int) (disk : Disk)
  (outcome : Except QueryFault Report × Atlas σ)

lemma logReport_spec (report : Report) :
    (service.logReport operation report now disk).1 = logged (service.logFault? disk) report ∧
      (service.logReport operation report now disk).2.1.atlas = service.atlas ∧
      service.Alike (service.logReport operation report now disk).2.1 := by
  cases hlog : service.log? with
  | none =>
      simp only [logReport, logFault?, logged, hlog, Option.bind_none, true_and]
      exact ⟨rfl, rfl, rfl, rfl⟩
  | some log =>
      simp only [logReport, logFault?, logged, hlog, nextQueryId, QueryLog.appendLine, Disk.append,
        Option.bind_some]
      cases disk.openFile log.path <;> exact ⟨rfl, rfl, rfl, rfl, rfl, hlog.symm⟩

/-- The service goes on with the atlas that the query leaves. -/
lemma conclude_service : (service.conclude operation now disk outcome).2.1.atlas = outcome.2 ∧
    service.Alike (service.conclude operation now disk outcome).2.1 := by
  obtain ⟨outcome, atlas⟩ := outcome
  cases outcome with
  | error fault => exact ⟨rfl, rfl, rfl, rfl, rfl⟩
  | ok report =>
      obtain ⟨-, hatlas, halike⟩ := { service with atlas := atlas }.logReport_spec operation now disk report
      exact ⟨hatlas, halike.config, halike.source, halike.pace, halike.log⟩

/-- What is answered is what the query has come to, if it can be logged. -/
lemma conclude_outcome : (service.conclude operation now disk outcome).1
    = (outcome.1.mapError .query).bind (logged (service.logFault? disk)) := by
  obtain ⟨outcome, atlas⟩ := outcome
  cases outcome with
  | error fault => rfl
  | ok report => exact ({ service with atlas := atlas }.logReport_spec operation now disk report).1

lemma conclude_answer :
    (service.conclude operation now disk outcome).1.map Report.answer
      = ((outcome.1.map Report.answer).mapError .query).bind (logged (service.logFault? disk)) := by
  rw [conclude_outcome]
  cases outcome.1 with
  | error fault => rfl
  | ok report => cases service.logFault? disk <;> rfl

variable {service operation now disk outcome}

/-- A report that is answered is that of the query. -/
lemma report_of_conclude {report : Report}
    (h : (service.conclude operation now disk outcome).1 = .ok report) : outcome.1 = .ok report := by
  rw [conclude_outcome] at h
  cases houtcome : outcome.1 with
  | error fault => simp [houtcome, Except.mapError, Except.bind] at h
  | ok found =>
      rw [houtcome] at h
      cases hfault : service.logFault? disk with
      | some fault => simp [hfault, Except.mapError, Except.bind, logged] at h
      | none =>
          rw [hfault] at h
          rw [show found = report from Except.ok.inj h]

/-- A search that answers with a report has got it from its query, and goes on with what that leaves. -/
lemma Searches.answered {lexer : LineLexer σ} {name : String} {candidates : List Candidate} {all : Bool}
    {report : Report} {after : Service σ} {last : Disk}
    (h : service.Searches lexer name candidates all now disk (.ok report, after, last)) :
    ∃ paths, Candidate.spellings? candidates = some paths ∧
      Scheduled lexer (service.view disk) service.config.settings name
        (filterCandidates service.config.extension all paths) service.atlas (.ok report, after.atlas) ∧
      service.Alike after := by
  obtain ⟨outcome, late, hends, hresult⟩ := h
  obtain ⟨hatlas, halike⟩ := service.conclude_service "search" now disk outcome
  have hreport : outcome.1 = .ok report := report_of_conclude (congrArg Prod.fst hresult).symm
  rw [← hresult] at hatlas halike
  obtain rfl : outcome = (.ok report, after.atlas) := Prod.ext hreport hatlas.symm
  cases hends with
  | queried hpaths hends => exact ⟨_, hpaths, ⟨late, hends⟩, halike⟩

end

lemma notifyChanged_spelled (paths : List String) (service : Service Stack) :
    (service.notifyChanged (paths.map .spelled)).2
      = { service with atlas :=
          { service.atlas with flags := service.atlas.flags.markAll paths } } := by
  induction paths generalizing service with
  | nil => rfl
  | cons path paths ih =>
      rw [List.map_cons, notifyChanged]
      simp only [Candidate.spelling?]
      rw [ih]
      rfl

end Service

namespace Session

/-! ## What can be reached -/

lemma editDocuments_config (service : Service Stack) (path : String) (edit : Documents → Documents) :
    ((service.editDocuments path edit).toOption.getD service).config = service.config := by
  rw [Service.editDocuments]
  cases service.source <;> rfl

/-- No action changes the settings. -/
lemma act_config (session : Session) (action : Action) :
    (session.act action).service.config = session.service.config := by
  cases action with
  | write | delete | resetCache | callOff => rfl
  | notify paths => rw [act, goOn, Service.notifyChanged_spelled]
  | openDocument | updateDocument | saveDocument | closeDocument =>
      exact editDocuments_config session.service _ _
  | search name candidates all now =>
      exact (session.service.conclude_service "search" now session.disk _).2.config
  | lateTurn task ago =>
      rw [act, lateTurn]
      split <;> rfl

/-- What comes of an action is one of the things that can. -/
lemma next_act {session : Session} (hplaces : 0 < session.service.config.maxConcurrency) (action : Action) :
    session.Next action (session.act action) := by
  cases hasks : action.asks? with
  | none => exact .acted hasks
  | some asked =>
      cases action with
      | search name candidates all now => exact .searched (Service.queried_ends _ _ _ _ hplaces)
      | _ => simp [Action.asks?] at hasks

/-- **A run reaches its end**, if its actions meet the condition. -/
theorem Reaches.run {meets : Session → Action → Session → Prop} {start session : Session}
    (hplaces : 0 < session.service.config.maxConcurrency) (h : start.Reaches meets session)
    {actions : List Action} (halong : session.Along meets actions) :
    start.Reaches meets (session.run actions) := by
  induction actions generalizing session with
  | nil => exact h
  | cons action actions ih =>
      have hafter : 0 < (session.act action).service.config.maxConcurrency := by rwa [act_config]
      exact ih hafter (h.next (next_act hplaces action) halong.1) halong.2

end Session

end TemplateAtlas
