import CallAtlas.Proofs.CallGraph.Assembly
import CallAtlas.Proofs.Scope

set_option autoImplicit false
set_option relaxedAutoImplicit false

/-!
The lifetime of a scratch directory.  An assembly makes one directory if there is something to
expand, puts the whole manifest into it before the build, asks its queries after the build while the
directory is there, and has removed it when it ends, whichever step fails.
-/

namespace CallAtlas

/-! A session told from its events. -/

namespace Session

/-- What an event does to a session. -/
def after (session : Session) : Event → Session
  | .create workdir =>
    { session.note (.create workdir) with directories := workdir :: session.directories }
  | .write file text =>
    { session.note (.write file text) with files := (file, text) :: session.files }
  | .remove workdir =>
    { session.note (.remove workdir) with
      directories := session.directories.filter (· ≠ workdir)
      files := session.files.filter fun entry => (Path.below? workdir entry.1).isNone }
  | event => session.note event

def replay (session : Session) (events : List Event) : Session := events.foldl after session

variable {session : Session}

theorem replay_append (first second : List Event) :
    session.replay (first ++ second) = (session.replay first).replay second :=
  List.foldl_append

theorem journal_replay (session : Session) (events : List Event) :
    (session.replay events).journal = session.journal ++ events := by
  have noted (session : Session) (event : Event) :
      (session.after event).journal = session.journal ++ [event] := by
    cases event <;> rfl
  induction events generalizing session with
  | nil => exact (List.append_nil _).symm
  | cons event rest ih =>
    change ((session.after event).replay rest).journal = _
    rw [ih, noted, List.append_assoc, List.singleton_append]

theorem after_of_isCall {event : Event} (call : event.isCall = true) :
    session.after event = session.note event := by
  cases event with
  | search pattern root => rfl
  | tag file => rfl
  | build workdir manifest listing => rfl
  | query workdir function => rfl
  | create workdir => cases call
  | write file text => cases call
  | remove workdir => cases call

theorem replay_calls {events : List Event} (calls : ∀ event ∈ events, event.isCall = true) :
    session.replay events = { session with journal := session.journal ++ events } := by
  induction events generalizing session with
  | nil => rw [List.append_nil]; rfl
  | cons event rest ih =>
    have first : session.after event = session.note event :=
      after_of_isCall (calls event List.mem_cons_self)
    have others := @ih (session.note event)
      fun other inside => calls other (List.mem_cons_of_mem _ inside)
    rw [note, List.append_assoc] at others
    change (session.after event).replay rest = _
    rw [first]
    exact others

end Session

/-! Scratch spaces with faults. -/

/-- The faults of a scratch space, given the events before. -/
structure Scratch.Faults where
  create : List Event → Option SystemError
  write : List Event → Option SystemError

/-- Scratch directories of a session, where making one or writing to it can fail. -/
def Scratch.faulty (faults : Faults) : Scratch (StateM Session) where
  create := do
    let session ← get
    match faults.create session.journal with
    | some cause => pure (.error cause)
    | none => recorded.create
  write file text := do
    let session ← get
    match faults.write session.journal with
    | some cause => pure (.error cause)
    | none => recorded.write file text
  remove := recorded.remove

def Scratch.Faults.none : Faults := ⟨fun _ => Option.none, fun _ => Option.none⟩

theorem Scratch.faulty_none : faulty Faults.none = recorded := rfl

def Event.made? : Event → Option Path
  | .create workdir => some workdir
  | .search _ _ | .tag _ | .build _ _ _ | .query _ _ | .write _ _ | .remove _ => none

namespace CallGraph

variable {behaviour : Behaviour} {faults : Scratch.Faults} {session : Session} {scope : Scope}
  {functions : List String} {column : Reference.Column}

/-- The events of an assembly that makes its directory and writes its manifest, with the functions
that it comes to ask about. -/
def lifecycle (workdir : Path) (scope : Scope) (asked : List String) : List Event :=
  opening workdir scope ++ (asked.map (.query workdir) ++ [.remove workdir])

theorem replay_opening (session : Session) (scope : Scope) :
    session.replay (opening session.nextDirectory scope) = opened session scope := by
  simp [Session.replay, opening, opened, Session.after, Session.note]

theorem replay_queries (workdir : Path) (asked : List String) :
    session.replay (asked.map (.query workdir)) =
      { session with journal := session.journal ++ asked.map (.query workdir) } := by
  apply Session.replay_calls
  intro event inside
  obtain ⟨function, -, rfl⟩ := List.mem_map.mp inside
  rfl

/-! Runs in a space with faults. -/

theorem assemble_run_of_refused {cause : SystemError}
    (refused : faults.create session.journal = some cause) (filled : functions ≠ []) :
    (assemble (Services.recorded behaviour) (Scratch.faulty faults) functions scope
        column).run session = (.error ⟨.build, .workspace cause⟩, session) := by
  rw [assemble, if_neg (by simpa using filled)]
  simp [Reference.Database.build, Scratch.faulty, refused]
  rfl

theorem assemble_run_of_unwritten {cause : SystemError}
    (made : faults.create session.journal = none)
    (unwritten : faults.write (session.journal ++ [.create session.nextDirectory]) = some cause)
    (filled : functions ≠ []) :
    (assemble (Services.recorded behaviour) (Scratch.faulty faults) functions scope
        column).run session =
      (.error ⟨.build, .workspace cause⟩,
        session.replay [.create session.nextDirectory, .remove session.nextDirectory]) := by
  rw [assemble, if_neg (by simpa using filled)]
  simp [Reference.Database.build, Reference.Database.buildIn, Scratch.faulty, Scratch.recorded,
    made, Session.note, unwritten, Session.replay, Session.after]
  rfl

theorem assemble_run_faulty (made : faults.create session.journal = none)
    (written : faults.write (session.journal ++ [.create session.nextDirectory]) = none)
    (column : Reference.Column) :
    (assemble (Services.recorded behaviour) (Scratch.faulty faults) functions scope
        column).run session =
      (assemble (Services.recorded behaviour) Scratch.recorded functions scope
        column).run session := by
  have built : (Reference.Database.build (Services.recorded behaviour) (Scratch.faulty faults)
        scope column).run session =
      (Reference.Database.build (Services.recorded behaviour) Scratch.recorded scope
        column).run session := by
    simp [Reference.Database.build, Reference.Database.buildIn, Scratch.faulty, Scratch.recorded,
      made, Session.note, written]
  rw [assemble, assemble]
  split
  · rfl
  · rw [StateT.run_bind, StateT.run_bind, built]
    rfl

/-- A run in a space without faults is a lifecycle with the functions that it comes to ask about,
which are none unless the build succeeds. -/
theorem exists_lifecycle (behaviour : Behaviour) (session : Session) (scope : Scope)
    (column : Reference.Column) (filled : functions ≠ []) :
    ∃ result asked, (assemble (Services.recorded behaviour) Scratch.recorded functions scope
        column).run session =
          (result, session.replay (lifecycle session.nextDirectory scope asked)) ∧
      (asked ≠ [] → buildReply behaviour session scope = .ok ()) := by
  have ends (asked : List String) :
      session.replay (lifecycle session.nextDirectory scope asked) =
        closed session.nextDirectory { opened session scope with
          journal := (opened session scope).journal ++
            asked.map (.query session.nextDirectory) } := by
    rw [lifecycle, Session.replay_append, Session.replay_append, replay_opening, replay_queries]
    rfl
  cases reply : buildReply behaviour session scope with
  | error error =>
    refine ⟨.error error, [], ?_, fun some => absurd rfl some⟩
    rw [assemble_run_of_error reply filled column, ends, List.map_nil, List.append_nil]
  | ok _ =>
    obtain ⟨result, queries, -⟩ := (expand_loop behaviour (databaseOf session scope column)).run_eq
      (behaviour.calls_query _) empty functions (opened session scope)
    obtain ⟨happened, first, journal⟩ := behaviour.perform_prefix (opened session scope).journal
      (functions.map (.query session.nextDirectory))
    obtain ⟨asked, -, rfl⟩ := List.prefix_map_iff.mp first
    refine ⟨result, asked, ?_, fun _ => rfl⟩
    have workdir : (databaseOf session scope column).workdir = session.nextDirectory := rfl
    rw [assemble_run_of_ok reply filled column, queries, ends, workdir, journal]

/-! The order of the events. -/

/-- A directory is there, and the whole manifest of a scope is in it, which lists its files. -/
structure Holds (session : Session) (workdir : Path) (scope : Scope) : Prop where
  directory : workdir ∈ session.directories
  manifest : session.textOf? (workdir.join Reference.manifestName) = some scope.manifest
  complete : scope.IsList scope.manifest

/-- Every build and every query happens in the next directory of a session while it holds the
manifest, queries only after a build that succeeded, and every directory made is gone at the end. -/
structure Orderly (behaviour : Behaviour) (session : Session) (scope : Scope)
    (events : List Event) : Prop where
  build : ∀ before workdir manifest listing later,
    events = before ++ .build workdir manifest listing :: later →
      workdir = session.nextDirectory ∧ manifest = workdir.join Reference.manifestName ∧
        listing = some scope.manifest ∧ Holds (session.replay before) workdir scope
  query : ∀ before workdir function later, events = before ++ .query workdir function :: later →
    workdir = session.nextDirectory ∧ Holds (session.replay before) workdir scope ∧
      ∃ earlier manifest listing between,
        before = earlier ++ .build workdir manifest listing :: between ∧
          behaviour.build (session.journal ++ earlier) listing = .ok ()
  gone : ∀ workdir ∈ events.filterMap Event.made?,
    workdir ∉ (session.replay events).directories ∧
      ∀ entry ∈ (session.replay events).files, Path.below? workdir entry.1 = none

theorem holds_opening (session : Session) (scope : Scope) (asked : List String) :
    Holds (session.replay (opening session.nextDirectory scope ++
      asked.map (.query session.nextDirectory))) session.nextDirectory scope := by
  rw [Session.replay_append, replay_opening, replay_queries]
  exact ⟨List.mem_cons_self, List.lookup_cons_self, scope.isList_manifest⟩

theorem split_queries {workdir : Path} {asked : List String} {before later : List Event}
    {event : Event}
    (split : asked.map (.query workdir) ++ [.remove workdir] = before ++ event :: later) :
    (∃ done function, before = List.map (Event.query workdir) done ∧ asked ≠ [] ∧
      event = .query workdir function) ∨ event = .remove workdir := by
  rcases List.append_eq_append_iff.mp split with ⟨front, -, last⟩ | ⟨back, queries, last⟩
  · rcases List.append_eq_cons_iff.mp last.symm with ⟨-, same⟩ | ⟨rest, -, same⟩
    · exact .inr (List.cons.inj same).1
    · cases (List.append_eq_nil_iff.mp same.symm).2
  · cases back with
    | nil => exact .inr (List.cons.inj last).1
    | cons first rest =>
      obtain ⟨rfl, -⟩ := List.cons.inj last
      obtain ⟨done, others, rfl, rfl, tail⟩ := List.map_eq_append_iff.mp queries
      obtain ⟨function, more, rfl, rfl, -⟩ := List.map_eq_cons_iff.mp tail
      exact .inl ⟨done, function, rfl, by simp, rfl⟩

/-- Where an event of a lifecycle stands. -/
inductive Stands (workdir : Path) (scope : Scope) (asked : List String) :
    List Event → Event → Prop
  | create : Stands workdir scope asked [] (.create workdir)
  | write : Stands workdir scope asked [.create workdir]
      (.write (workdir.join Reference.manifestName) scope.manifest)
  | build : Stands workdir scope asked
      [.create workdir, .write (workdir.join Reference.manifestName) scope.manifest]
      (.build workdir (workdir.join Reference.manifestName) scope.manifest)
  | query (done : List String) (function : String) (some : asked ≠ []) :
      Stands workdir scope asked (opening workdir scope ++ done.map (.query workdir))
        (.query workdir function)
  | remove (before : List Event) : Stands workdir scope asked before (.remove workdir)

theorem stands_of_split {workdir : Path} {asked : List String} {before later : List Event}
    {event : Event} (split : lifecycle workdir scope asked = before ++ event :: later) :
    Stands workdir scope asked before event := by
  rcases List.cons_eq_append_iff.mp split with ⟨rfl, here⟩ | ⟨others, rfl, written⟩
  · obtain ⟨rfl, -⟩ := List.cons.inj here
    exact .create
  rcases List.cons_eq_append_iff.mp written with ⟨rfl, here⟩ | ⟨others, rfl, built⟩
  · obtain ⟨rfl, -⟩ := List.cons.inj here
    exact .write
  rcases List.cons_eq_append_iff.mp built with ⟨rfl, here⟩ | ⟨others, rfl, queried⟩
  · obtain ⟨rfl, -⟩ := List.cons.inj here
    exact .build
  rcases split_queries queried with ⟨done, function, rfl, some, rfl⟩ | rfl
  · exact .query done function some
  · exact .remove _

theorem gone_of_removed (session : Session) (events : List Event) (workdir : Path) :
    workdir ∉ (session.replay (events ++ [.remove workdir])).directories ∧
      ∀ entry ∈ (session.replay (events ++ [.remove workdir])).files,
        Path.below? workdir entry.1 = none := by
  rw [Session.replay_append]
  constructor
  · intro kept
    simpa using (List.mem_filter.mp kept).2
  · intro entry kept
    simpa using (List.mem_filter.mp kept).2

theorem made_lifecycle (workdir : Path) (scope : Scope) (asked : List String) :
    (lifecycle workdir scope asked).filterMap Event.made? = [workdir] := by
  have none : (asked.map (Event.query workdir)).filterMap Event.made? = [] := by
    rw [List.filterMap_map]
    exact List.filterMap_eq_nil_iff.mpr fun _ _ => rfl
  rw [lifecycle, List.filterMap_append, List.filterMap_append, none]
  rfl

theorem orderly_lifecycle {asked : List String}
    (replied : asked ≠ [] → buildReply behaviour session scope = .ok ()) :
    Orderly behaviour session scope (lifecycle session.nextDirectory scope asked) := by
  refine ⟨?_, ?_, ?_⟩
  · intro before workdir manifest listing later split
    cases stands_of_split split with
    | build =>
      exact ⟨rfl, rfl, rfl, List.mem_cons_self, List.lookup_cons_self, scope.isList_manifest⟩
  · intro before workdir function later split
    cases stands_of_split split with
    | query done function some =>
      exact ⟨rfl, holds_opening session scope done, [.create _, .write _ _], _, _,
        done.map (.query _), rfl, replied some⟩
  · intro workdir made
    rw [made_lifecycle, List.mem_singleton] at made
    rw [made, lifecycle, ← List.append_assoc]
    exact gone_of_removed session _ _

theorem orderly_of_no_calls {events : List Event}
    (silent : ∀ event ∈ events, event.isCall = false)
    (gone : ∀ workdir ∈ events.filterMap Event.made?,
      workdir ∉ (session.replay events).directories ∧
        ∀ entry ∈ (session.replay events).files, Path.below? workdir entry.1 = none) :
    Orderly behaviour session scope events := by
  refine ⟨?_, ?_, gone⟩
  · rintro before workdir manifest listing later rfl
    exact absurd (silent (.build workdir manifest listing) (by simp)) (by simp [Event.isCall])
  · rintro before workdir function later rfl
    exact absurd (silent (.query workdir function) (by simp)) (by simp [Event.isCall])

/-- An assembly makes one scratch directory if there is something to expand and the directory can be
made, and none otherwise.  The whole manifest is in it when the build is called, every query comes
after a build that succeeded and while the directory is there, and at the end the directory is gone,
however the run ended.  Where neither the directory nor the manifest fails, the events are the
planned ones up to the first call that fails, and the removal. -/
theorem assemble_in_one_directory (behaviour : Behaviour) (faults : Scratch.Faults)
    (functions : List String) (scope : Scope) (column : Reference.Column) (session : Session) :
    ∃ result events, (assemble (Services.recorded behaviour) (Scratch.faulty faults) functions
        scope column).run session = (result, session.replay events) ∧
      events.filterMap Event.made? =
        (if functions = [] ∨ (faults.create session.journal).isSome then []
          else [session.nextDirectory]) ∧
      Orderly behaviour session scope events ∧
      (faults.create session.journal = none →
        faults.write (session.journal ++ [.create session.nextDirectory]) = none →
        session.journal ++ events =
            (behaviour.perform session.journal (plan session.nextDirectory scope functions)).1 ++
              (if functions = [] then [] else [.remove session.nextDirectory]) ∧
          Tool.fault? result =
            (behaviour.perform session.journal
              (plan session.nextDirectory scope functions)).2) := by
  by_cases bare : functions = []
  · subst bare
    refine ⟨.ok empty, [], rfl, rfl, orderly_of_no_calls (by simp) (by simp), fun _ _ => ?_⟩
    exact ⟨rfl, rfl⟩
  cases made : faults.create session.journal with
  | some cause =>
    refine ⟨_, [], assemble_run_of_refused made bare, by simp, ?_, fun passes => by cases passes⟩
    exact orderly_of_no_calls (by simp) (by simp)
  | none =>
    cases written : faults.write (session.journal ++ [.create session.nextDirectory]) with
    | some cause =>
      refine ⟨_, _, assemble_run_of_unwritten made written bare, by simp [bare, Event.made?], ?_,
        fun _ passes => by cases passes⟩
      refine orderly_of_no_calls (by simp [Event.isCall]) fun workdir inside => ?_
      obtain rfl : workdir = session.nextDirectory := by simpa [Event.made?] using inside
      exact gone_of_removed session [.create session.nextDirectory] _
    | none =>
      obtain ⟨result, asked, run, replied⟩ := exists_lifecycle behaviour session scope column bare
      obtain ⟨result', final, run', journal, failure⟩ :=
        assemble_run behaviour functions scope column session
      obtain ⟨rfl, rfl⟩ := Prod.mk.inj (run.symm.trans run')
      refine ⟨result, _, (assemble_run_faulty made written column).trans run, ?_,
        orderly_lifecycle replied, fun _ _ => ⟨?_, failure⟩⟩
      · rw [made_lifecycle]
        simp [bare]
      · rw [← Session.journal_replay, journal]
        simp [bare]

/-- A run that fails in the second of its three queries, below two files that the manifest lists
when the build is called. -/
theorem assemble_in_one_directory_failed_query :
    let error : Tool.Error := ⟨.query, .failed (some 2) "g"⟩
    let behaviour : Behaviour :=
      ⟨fun _ _ _ => .ok Hits.empty, fun _ _ => .ok [], fun _ _ => .ok (),
        fun _ function => if function = "g" then .error error else .ok []⟩
    let scope := Scope.ofList [⟨"/r/x"⟩, ⟨"/r/a/y"⟩]
    let workdir := Session.start.nextDirectory
    ∃ final listing, (assemble (Services.recorded behaviour) Scratch.recorded ["f", "g", "h"]
        scope .last).run Session.start = (.error error, final) ∧
      final.journal = [.create workdir, .write (workdir.join Reference.manifestName) listing,
        .build workdir (workdir.join Reference.manifestName) listing,
        .query workdir "f", .query workdir "g", .remove workdir] ∧
      Scope.listed listing = [⟨"/r/a/y"⟩, ⟨"/r/x"⟩] ∧ workdir ∉ final.directories := by
  intro error behaviour scope workdir
  obtain ⟨result, events, run, made, orderly, calls⟩ := assemble_in_one_directory behaviour .none
    ["f", "g", "h"] scope .last Session.start
  obtain ⟨journal, failure⟩ := calls rfl rfl
  obtain rfl : result = .error error := Tool.fault?_eq_some.mp failure
  obtain ⟨-, -, -, holds⟩ := orderly.build [.create workdir, .write _ scope.manifest] workdir _ _
    [.query workdir "f", .query workdir "g", .remove workdir] journal
  have files : scope.files = [⟨"/r/a/y"⟩, ⟨"/r/x"⟩] := by decide
  refine ⟨_, scope.manifest, run, ?_, ?_, ?_⟩
  · rw [Session.journal_replay]
    exact journal
  · rw [← files]
    exact holds.complete.files (by rw [files]; simp) (by rw [files]; decide)
  · exact (orderly.gone workdir (by rw [made]; decide)).1

end CallGraph

end CallAtlas
