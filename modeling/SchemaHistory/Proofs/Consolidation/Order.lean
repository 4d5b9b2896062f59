import SchemaHistory.Command.Consolidate
import SchemaHistory.Proofs.Files.Content

/-!
The order in which a consolidation changes files.

A consolidation changes files three times over: the backup moves the history, the two steps of the tool do
what they do, and the reports are written. A run is told by its events, each with the files before and
after it: they occur in this order, each only if the one before it succeeded, and nothing else changes the
files. A run that stops without a failed event could not read what it was about to read.
-/

namespace SchemaHistory

open Session FileSystem

variable {α β : Type}

/-! ### Events -/

/-- What changes files in a consolidation. -/
inductive Effect where
  | backup
  | tool (step : ToolStep)
  | reports
  deriving Repr, DecidableEq

/-- The call of the tool that an effect is due to. -/
def Effect.call? : Effect → Option ToolStep
  | tool step => some step
  | _ => none

/-- One change, as far as it got. -/
structure Event where
  effect : Effect
  before : FileSystem
  after : FileSystem
  succeeded : Bool

/-- The events lead from one state of the files to another, and nothing else changes them. -/
inductive Course : FileSystem → List Event → FileSystem → Prop
  | done (fs : FileSystem) : Course fs [] fs
  | next {e : Event} {rest : List Event} {fs : FileSystem} :
    Course e.after rest fs → Course e.before (e :: rest) fs

theorem Course.eq_of_nil {fs fs' : FileSystem} (course : Course fs [] fs') : fs' = fs := by
  cases course
  rfl

theorem Course.append {fs fs' fs'' : FileSystem} {first second : List Event}
    (here : Course fs first fs') (there : Course fs' second fs'') : Course fs (first ++ second) fs'' := by
  induction here with
  | done => exact there
  | next _ ih => exact .next (ih there)

/-! ### Runs that follow a plan -/

/-- What changes the files in a run are events in the order of a plan. Each but the last one succeeded, and
a run that succeeds carries out the whole plan. One that does not ends with an event that failed, or there
is a reason to stop after the effects it had. -/
structure Follows (occurs : Event → Prop) (stops : List Effect → FileSystem → Prop) (plan : List Effect)
    (x : Session.Action α) (s : Session) (events : List Event) : Prop where
  course : Course s.files events (leftBy (x s)).files
  occurring : ∀ e ∈ events, occurs e
  planned : events.map (·.effect) <+: plan
  done : ∀ e ∈ events.dropLast, e.succeeded = true
  calls : (leftBy (x s)).calls = s.calls ++ events.filterMap (·.effect.call?)
  whole : SchemaHistory.succeeded (x s) = true →
    events.map (·.effect) = plan ∧ ∀ e ∈ events, e.succeeded = true
  stopped : SchemaHistory.succeeded (x s) = false →
    (∃ e ∈ events.getLast?, e.succeeded = false) ∨
      stops (events.map (·.effect)) (leftBy (x s)).files

namespace Follows

variable {occurs : Event → Prop} {stops : List Effect → FileSystem → Prop} {plan plan' : List Effect}
  {s : Session}

theorem throw {a : Abort} (reason : stops [] s.files) :
    ∃ events, Follows occurs stops plan (throw a : Session.Action α) s events :=
  ⟨[], .done _, by simp, List.nil_prefix, by simp, (List.append_nil _).symm,
    fun h => Bool.noConfusion h, fun _ => Or.inr reason⟩

theorem pure (a : α) : ∃ events, Follows occurs stops [] (pure a : Session.Action α) s events :=
  ⟨[], .done _, by simp, List.nil_prefix, by simp, (List.append_nil _).symm, fun _ => ⟨rfl, by simp⟩,
    fun h => Bool.noConfusion h⟩

theorem ask {activity : Activity} {f : FileSystem → Except Failure α}
    (reason : ∀ e, f s.files = .error e → stops [] s.files) :
    ∃ events, Follows occurs stops [] (ask activity f) s events := by
  cases answer : f s.files with
  | ok a =>
    have result : Session.ask activity f s = .ok a s := by rw [Session.ask, answer]
    refine ⟨[], ?_, by simp, List.nil_prefix, by simp, ?_, fun _ => ⟨rfl, by simp⟩, ?_⟩ <;> rw [result]
    · exact .done _
    · exact (List.append_nil _).symm
    · exact fun h => Bool.noConfusion h
  | error e =>
    have result : Session.ask activity f s = .error (.failed activity e) s := by rw [Session.ask, answer]
    refine ⟨[], ?_, by simp, List.nil_prefix, by simp, ?_, ?_, fun _ => Or.inr ?_⟩ <;> rw [result]
    · exact .done _
    · exact (List.append_nil _).symm
    · exact fun h => Bool.noConfusion h
    · exact reason e answer

theorem of_event {x : Session.Action α} (e : Event) (before : e.before = s.files)
    (after : (leftBy (x s)).files = e.after) (ended : SchemaHistory.succeeded (x s) = e.succeeded)
    (calls : (leftBy (x s)).calls = s.calls ++ e.effect.call?.toList) (occurring : occurs e) :
    ∃ events, Follows occurs stops [e.effect] x s events := by
  refine ⟨[e], ?_, by simpa using occurring, List.prefix_rfl, by simp, ?_, by simp [ended], ?_⟩
  · rw [← before, after]
    exact .next (.done _)
  · rw [calls]
    cases named : e.effect.call? <;> simp [named]
  · rw [ended]
    exact fun failed => Or.inl ⟨e, rfl, failed⟩

theorem act {effect : Effect} {activity : Activity} {x : FileSystem.Action Failure α}
    (noCall : effect.call? = none)
    (occurring : occurs ⟨effect, s.files, leftBy (x s.files), SchemaHistory.succeeded (x s.files)⟩) :
    ∃ events, Follows occurs stops [effect] (act activity x) s events := by
  refine of_event _ rfl ?_ ?_ ?_ occurring <;>
    simp only [Session.act, EStateM.run, noCall, Option.toList_none, List.append_nil] <;>
    cases x s.files <;> rfl

theorem call {tool : Tool} {step : ToolStep}
    (occurring : occurs ⟨.tool step, s.files, (tool.run step s.files).1.files,
      (tool.run step s.files).2.isOk⟩) :
    ∃ events, Follows occurs stops [.tool step] (call tool step) s events := by
  refine of_event _ rfl ?_ ?_ ?_ occurring <;>
    simp only [Session.call] <;> cases (tool.run step s.files).2 <;> rfl

/-- The events of two steps are those of the first, and those of the second if the first succeeds. -/
theorem bind {x : Session.Action α} {f : α → Session.Action β}
    (first : ∃ events, Follows occurs stops plan x s events)
    (second : ∀ a t, x s = .ok a t →
      ∃ events, Follows occurs (fun had => stops (plan ++ had)) plan' (f a) t events) :
    ∃ events, Follows occurs stops (plan ++ plan') (x >>= f) s events := by
  obtain ⟨events, course, occurring, planned, done, calls, whole, stopped⟩ := first
  cases result : x s with
  | error a t =>
    have ends : (x >>= f) s = .error a t := by
      change EStateM.bind x f s = _
      rw [EStateM.bind, result]
    rw [result] at course calls stopped
    refine ⟨events, ?_, occurring, planned.trans (List.prefix_append plan plan'), done, ?_, ?_, ?_⟩ <;>
      rw [ends]
    · exact course
    · exact calls
    · exact fun h => Bool.noConfusion h
    · exact stopped
  | ok a t =>
    have goesOn : (x >>= f) s = f a t := by
      change EStateM.bind x f s = _
      rw [EStateM.bind, result]
    rw [result] at course calls whole
    obtain ⟨names, allDone⟩ := whole rfl
    obtain ⟨events', here⟩ := second a t result
    refine ⟨events ++ events', ?course, List.forall_mem_append.2 ⟨occurring, here.occurring⟩, ?planned,
      ?done, ?calls, ?whole, ?stopped⟩
    case course =>
      rw [goesOn]
      exact course.append here.course
    case planned =>
      rw [List.map_append, names]
      exact (List.prefix_append_right_inj plan).2 here.planned
    case done =>
      intro e member
      cases events' with
      | nil =>
        rw [List.append_nil] at member
        exact done e member
      | cons e' rest =>
        rw [List.dropLast_append_cons] at member
        rcases List.mem_append.1 member with early | late
        · exact allDone e early
        · exact here.done e late
    case calls =>
      rw [leftBy] at calls
      rw [goesOn, here.calls, calls, List.filterMap_append, List.append_assoc]
    case whole =>
      intro all
      rw [goesOn] at all
      obtain ⟨names', allDone'⟩ := here.whole all
      exact ⟨by rw [List.map_append, names, names'], List.forall_mem_append.2 ⟨allDone, allDone'⟩⟩
    case stopped =>
      intro failed
      rw [goesOn] at failed ⊢
      rw [List.map_append, names]
      refine (here.stopped failed).imp_left fun ⟨e, last, unsuccessful⟩ => ⟨e, ?_, unsuccessful⟩
      rw [List.getLast?_append, Option.mem_def.1 last]
      rfl

theorem bind_ask {activity : Activity} {g : FileSystem → Except Failure α} {f : α → Session.Action β}
    (reason : ∀ e, g s.files = .error e → stops [] s.files)
    (second : ∀ a, g s.files = .ok a → ∃ events, Follows occurs stops plan (f a) s events) :
    ∃ events, Follows occurs stops plan (Session.ask activity g >>= f) s events := by
  refine bind (ask reason) fun a t answer => ?_
  obtain ⟨found, rfl⟩ := ask_eq_ok_iff.1 answer
  exact second a found

theorem bind_event {effect : Effect} {x : Session.Action α} {f : α → Session.Action β}
    (first : ∃ events, Follows occurs stops [effect] x s events)
    (second : ∀ a t, ∃ events, Follows occurs (fun had => stops (effect :: had)) plan (f a) t events) :
    ∃ events, Follows occurs stops (effect :: plan) (x >>= f) s events :=
  bind first fun a t _ => second a t

end Follows

/-! ### The plan of a consolidation -/

/-- The event is a run of these steps. -/
def Event.IsRunOf (e : Event) (x : FileSystem.Action Failure α) : Prop :=
  e.after = leftBy (x e.before) ∧ e.succeeded = SchemaHistory.succeeded (x e.before)

namespace Command

/-- The effects of a consolidation. -/
def plan : List Effect := [.backup, .tool .reset, .tool .generate, .reports]

/-- The folders and the texts of a history that can be read. -/
def Reads (config : Config) (schema : Path) (fs : FileSystem) (folders : List Folder)
    (sources : List Source) : Prop :=
  Folder.discover (config.migrationsPath schema) fs = .ok folders ∧ folders ≠ [] ∧
    Folder.sources folders config.migrationFile fs = .ok sources

/-- What takes place in an event of a consolidation of some files, whose history has been read. The reports
are about a new migration that has been found. -/
def Occurs (at_ : Circumstances) (config : Config) (policy : Policy) (tool : Tool) (schema : Path)
    (start : FileSystem) (e : Event) : Prop :=
  ∃ folders sources, Reads config schema start folders sources ∧
    match e.effect with
    | .backup => e.IsRunOf (Backup.make folders (config.migrationsPath schema)
        (config.backupPath schema) config.lockFile)
    | .tool step =>
      e.after = (tool.run step e.before).1.files ∧ e.succeeded = (tool.run step e.before).2.isOk
    | .reports => ∃ m, Folder.findNew (config.migrationsPath schema) config.migrationFile e.before = .ok m ∧
        e.IsRunOf (
          let outcome := (History.ofFiltered sources policy).outcomeAgainst m.sql
          Report.write at_.run m.folder.path outcome.filtered outcome.missing at_.now)

/-- The reasons for a consolidation to stop that are no failed events: there is no history that can be read,
or no new migration. -/
def Stops (config : Config) (schema : Path) (had : List Effect) (fs : FileSystem) : Prop :=
  had = [] ∧ (¬ ∃ folders sources, Reads config schema fs folders sources) ∨
    had = [.backup, .tool .reset, .tool .generate] ∧
      ∃ e, Folder.findNew (config.migrationsPath schema) config.migrationFile fs = .error e

variable (at_ : Circumstances) (config : Config) (policy : Policy) (tool : Tool) (schema : Path)
  (fs : FileSystem)

theorem follows_consolidateWith : ∃ events,
    Follows (Occurs at_ config policy tool schema fs) (Stops config schema) plan
      (consolidateWith at_ config policy tool schema) (.start fs) events := by
  rw [consolidateWith]
  have unread : (¬ ∃ folders sources, Reads config schema fs folders sources) →
      Stops config schema [] fs := fun none => Or.inl ⟨rfl, none⟩
  refine Follows.bind_ask (fun e failed => unread ?_) fun folders listed => ?_
  · rintro ⟨folders, sources, listed, -, -⟩
    exact nomatch failed.symm.trans listed
  dsimp only
  split
  · rename_i empty
    refine Follows.throw (unread ?_)
    rintro ⟨folders', sources, listed', some, -⟩
    obtain rfl := Except.ok.inj (listed.symm.trans listed')
    exact some (List.isEmpty_iff.1 empty)
  rename_i some
  refine Follows.bind_ask (fun e failed => unread ?_) fun sources read => ?_
  · rintro ⟨folders', sources, listed', -, read⟩
    obtain rfl := Except.ok.inj (listed.symm.trans listed')
    exact nomatch failed.symm.trans read
  have reads : Reads config schema fs folders sources :=
    ⟨listed, fun none => some (List.isEmpty_iff.2 none), read⟩
  refine Follows.bind_event (Follows.act rfl ⟨folders, sources, reads, rfl, rfl⟩) fun backup s => ?_
  refine Follows.bind_event (Follows.call ⟨folders, sources, reads, rfl, rfl⟩) fun _ s => ?_
  refine Follows.bind_event (Follows.call ⟨folders, sources, reads, rfl, rfl⟩) fun _ s => ?_
  refine Follows.bind_ask (fun e failed => Or.inr ⟨rfl, e, failed⟩) fun m found => ?_
  refine Follows.bind_event (Follows.act rfl ⟨folders, sources, reads, m, found, rfl, rfl⟩)
    fun reports s => ?_
  exact Follows.pure _

/-- A consolidation has its effects in the order of the plan, each only after the one before it succeeded,
and calls the tool only for them. If the history cannot be read, there are none. Reports are written about
a new migration that was found; what the backup leaves holds nothing that was not there before. A run
succeeds with the whole plan, and it stops for no other reason than an effect that failed, a history that
cannot be read, or a new migration that is not found. -/
theorem effects_in_order :
    let run := (consolidateWith at_ config policy tool schema).run (.start fs)
    ((¬ ∃ folders sources, Reads config schema fs folders sources) →
      (leftBy run).files = fs ∧ (leftBy run).calls = []) ∧
    ∃ events, Course fs events (leftBy run).files ∧
      (∀ e ∈ events, Occurs at_ config policy tool schema fs e) ∧
      events.map (·.effect) <+: [.backup, .tool .reset, .tool .generate, .reports] ∧
      (∀ e ∈ events.dropLast, e.succeeded = true) ∧
      (leftBy run).calls = events.filterMap (·.effect.call?) ∧
      (∀ e ∈ events, e.effect = .backup → NoNewContent e.before e.after) ∧
      (succeeded run = true → events.length = 4 ∧ ∀ e ∈ events, e.succeeded = true) ∧
      (succeeded run = false → (∃ e ∈ events.getLast?, e.succeeded = false) ∨
        Stops config schema (events.map (·.effect)) (leftBy run).files) := by
  obtain ⟨events, follows⟩ := follows_consolidateWith at_ config policy tool schema fs
  have calls : (leftBy (consolidateWith at_ config policy tool schema (.start fs))).calls =
      events.filterMap (·.effect.call?) := follows.calls
  refine ⟨fun unread => ?_, events, follows.course, follows.occurring, follows.planned, follows.done, calls,
    fun e member backup => ?_, fun all => ?_, follows.stopped⟩
  · cases events with
    | nil =>
      exact ⟨follows.course.eq_of_nil, calls⟩
    | cons e rest =>
      obtain ⟨folders, sources, reads, -⟩ := follows.occurring e List.mem_cons_self
      exact absurd ⟨folders, sources, reads⟩ unread
  · obtain ⟨folders, sources, -, there⟩ := follows.occurring e member
    rw [backup] at there
    rw [there.1]
    exact Backup.keeps_noNewContent _ _ _ _ e.before
  · obtain ⟨names, done⟩ := follows.whole all
    exact ⟨by simpa [plan] using congrArg List.length names, done⟩

end Command

end SchemaHistory
