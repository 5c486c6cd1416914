import CallAtlas.Proofs.Attribution
import CallAtlas.Proofs.CallGraph.Assembly
import CallAtlas.Survey

set_option autoImplicit false
set_option relaxedAutoImplicit false

/-!
The calls of a run.  One search, one tag call for each file, and, if there is something to expand,
one build and one query for each function: what is planned happens in order, and the first call
that fails is the last one and ends the run with its failure.
-/

namespace CallAtlas

def Session.directoryAfter (history : List Event) : Path := nextDirectory ⟨history, [], []⟩

namespace Survey

def attributedOf (request : Request) (hits : Hits) (table : Occurrence.Table) : Attributed where
  hits
  inventory := Inventory.ofHits request.root hits
  table
  selection := Occurrence.select table request.root request.limit

/-- The events before the assembly: the search, then the tags of the files that it found. -/
def asked (request : Request) (survey : Survey) : List Event :=
  .search request.pattern request.root ::
    survey.located?.elim [] fun found => found.hits.paths.map .tag

/-- The events of a run in the order of its stages, up to the removal of the directory. -/
def plan (history : List Event) (request : Request) (survey : Survey) : List Event :=
  survey.asked request ++ survey.attributed?.elim [] fun found =>
    CallGraph.plan (Session.directoryAfter (history ++ survey.asked request))
      found.selection.scope found.selection.functions

variable {behaviour : Behaviour} {request : Request} {session : Session}

def assembled (found : Attributed) : Except Tool.Error CallGraph → Survey
  | .error error => .unassembled found error
  | .ok graph => .complete found graph

theorem search_run (behaviour : Behaviour) (request : Request) (session : Session) :
    ((Services.recorded behaviour).search request.pattern request.root).run session =
      (behaviour.search session.journal request.pattern request.root,
        session.note (.search request.pattern request.root)) := rfl

theorem run_of_search_error {error : Tool.Error}
    (h : behaviour.search session.journal request.pattern request.root = .error error) :
    (run (Services.recorded behaviour) Scratch.recorded request).run session =
      (.unlocated error, session.note (.search request.pattern request.root)) := by
  rw [run, StateT.run_bind, search_run, h]
  rfl

theorem finish_run (services : Services (StateM Session)) (scratch : Scratch (StateM Session))
    (request : Request) (found : Attributed) (session : Session) :
    (finish services scratch request found).run session =
      let (result, final) := (CallGraph.assemble services scratch found.selection.functions
        found.selection.scope request.column).run session
      (assembled found result, final) := by
  rw [finish, StateT.run_bind]
  cases (CallGraph.assemble services scratch found.selection.functions
      found.selection.scope request.column).run session with
  | mk result final =>
    cases result with
    | error error => rfl
    | ok graph => rfl

theorem assembled_failure? (found : Attributed) (result : Except Tool.Error CallGraph) :
    (assembled found result).failure? = Tool.fault? result := by
  cases result <;> rfl

theorem assembled_attributed? (found : Attributed) (result : Except Tool.Error CallGraph) :
    (assembled found result).attributed? = some found := by
  cases result <;> rfl

theorem assembled_located? (found : Attributed) (result : Except Tool.Error CallGraph) :
    (assembled found result).located? = some found.toLocated := by
  cases result <;> rfl

theorem complete_of_failure? {survey : Survey} (h : survey.failure? = none) :
    ∃ found graph, survey = .complete found graph := by
  cases survey with
  | unlocated error => cases h
  | unattributed found error => cases h
  | unassembled found error => cases h
  | complete found graph => exact ⟨found, graph, rfl⟩

/-- What a run keeps about its stages: the hits are the answer of the search, and the table and
the selection come from them and the tags of their files. -/
structure Follows (behaviour : Behaviour) (history : List Event) (request : Request)
    (survey : Survey) : Prop where
  located : ∀ found, survey.located? = some found →
    behaviour.search history request.pattern request.root = .ok found.hits
  attributed : ∀ found, survey.attributed? = some found →
    ∃ tags, behaviour.Tagged (history ++ [.search request.pattern request.root])
        found.hits.paths tags ∧
      found = attributedOf request found.hits (Occurrence.tableOf request.root tags found.hits)

/-- A run does what its survey plans up to the first failure, and ends with that failure. -/
structure Obeys (behaviour : Behaviour) (request : Request) (session : Session)
    (outcome : Survey × Session) : Prop where
  follows : outcome.1.Follows behaviour session.journal request
  events : outcome.2.journal.filter Event.isCall =
    (behaviour.perform session.journal (outcome.1.plan session.journal request)).1.filter
      Event.isCall
  failure : outcome.1.failure? =
    (behaviour.perform session.journal (outcome.1.plan session.journal request)).2

theorem obeys_of_search_error {error : Tool.Error}
    (h : behaviour.search session.journal request.pattern request.root = .error error) :
    Obeys behaviour request session
      (.unlocated error, session.note (.search request.pattern request.root)) := by
  have stops : behaviour.perform session.journal
      [.search request.pattern request.root] =
        (session.journal ++ [.search request.pattern request.root], some error) :=
    Behaviour.perform_cons_of_fault (by rw [Behaviour.fault?, h]; rfl) []
  refine ⟨⟨?_, ?_⟩, ?_, ?_⟩
  · intro found located
    cases located
  · intro found attributed
    cases attributed
  · exact (congrArg (fun outcome => outcome.1.filter Event.isCall) stops).symm
  · exact (congrArg Prod.snd stops).symm

section Found

variable {hits : Hits}
  (h : behaviour.search session.journal request.pattern request.root = .ok hits)

include h

theorem search_passes :
    behaviour.fault? session.journal (.search request.pattern request.root) = none := by
  rw [Behaviour.fault?, h]
  rfl

theorem run_of_search_ok :
    (run (Services.recorded behaviour) Scratch.recorded request).run session =
      match (Occurrence.tabulate (Services.recorded behaviour) request.root hits).run
        (session.note (.search request.pattern request.root)) with
      | (.error error, after) =>
        (.unattributed ⟨hits, Inventory.ofHits request.root hits⟩ error, after)
      | (.ok table, after) =>
        (finish (Services.recorded behaviour) Scratch.recorded request
          (attributedOf request hits table)).run after := by
  rw [run, StateT.run_bind, search_run, h]
  change StateT.run _ _ = _
  cases charged : (Occurrence.tabulate (Services.recorded behaviour) request.root hits).run
      (session.note (.search request.pattern request.root)) with
  | mk result after =>
    dsimp only
    rw [StateT.run_bind, charged]
    cases result with
    | error error => rfl
    | ok table => rfl

theorem run_of_tag_error {error : Tool.Error}
    (fails : (behaviour.perform (session.journal ++ [.search request.pattern request.root])
      (hits.paths.map .tag)).2 = some error) :
    ∃ after : Session,
      behaviour.perform (session.journal ++ [.search request.pattern request.root])
        (hits.paths.map .tag) = (after.journal, some error) ∧
      (run (Services.recorded behaviour) Scratch.recorded request).run session =
        (.unattributed ⟨hits, Inventory.ofHits request.root hits⟩ error, after) := by
  obtain ⟨result, tabulated, failure⟩ := Occurrence.tabulate_run behaviour request.root hits
    (session.note (.search request.pattern request.root))
  obtain rfl := Tool.fault?_eq_some.mp (failure.trans fails)
  rw [run_of_search_ok h, tabulated]
  exact ⟨_, Prod.ext rfl fails, rfl⟩

theorem run_of_tagged {tags : Path → List Tag.Record}
    (tagged : behaviour.Tagged (session.journal ++ [.search request.pattern request.root])
      hits.paths tags) :
    ∃ after : Session,
      after.journal = session.journal ++ [.search request.pattern request.root] ++
        hits.paths.map .tag ∧
      (run (Services.recorded behaviour) Scratch.recorded request).run session =
        (finish (Services.recorded behaviour) Scratch.recorded request
          (attributedOf request hits (Occurrence.tableOf request.root tags hits))).run after := by
  obtain ⟨result, tabulated, -⟩ := Occurrence.tabulate_run behaviour request.root hits
    (session.note (.search request.pattern request.root))
  have charged : ((Occurrence.tabulate (Services.recorded behaviour) request.root hits).run
      (session.note (.search request.pattern request.root))).1 =
        .ok (Occurrence.tableOf request.root tags hits) := Occurrence.tabulate_answered tagged
  rw [tabulated] at charged
  obtain rfl : result = _ := charged
  rw [run_of_search_ok h, tabulated]
  exact ⟨_, congrArg Prod.fst (Behaviour.perform_eq (Occurrence.perform_tagged tagged)), rfl⟩

theorem obeys_of_tag_error {error : Tool.Error} {after : Session}
    (stops : behaviour.perform (session.journal ++ [.search request.pattern request.root])
      (hits.paths.map .tag) = (after.journal, some error)) :
    Obeys behaviour request session
      (.unattributed ⟨hits, Inventory.ofHits request.root hits⟩ error, after) := by
  have all : behaviour.perform session.journal
      (plan session.journal request
        (.unattributed ⟨hits, Inventory.ofHits request.root hits⟩ error)) =
        (after.journal, some error) := by
    rw [← stops, ← Behaviour.perform_cons (search_passes h)]
    exact congrArg _ (List.append_nil _)
  refine ⟨⟨?_, ?_⟩, ?_, ?_⟩
  · intro found located
    obtain rfl := Option.some.inj located
    exact h
  · intro found attributed
    cases attributed
  · exact (congrArg (fun outcome => outcome.1.filter Event.isCall) all).symm
  · exact (congrArg Prod.snd all).symm

theorem obeys_of_tagged {tags : Path → List Tag.Record} {after : Session}
    (tagged : behaviour.Tagged (session.journal ++ [.search request.pattern request.root])
      hits.paths tags)
    (journal : after.journal = session.journal ++ [.search request.pattern request.root] ++
      hits.paths.map .tag) :
    Obeys behaviour request session
      ((finish (Services.recorded behaviour) Scratch.recorded request
        (attributedOf request hits (Occurrence.tableOf request.root tags hits))).run after) := by
  generalize equal :
    attributedOf request hits (Occurrence.tableOf request.root tags hits) = found
  obtain ⟨result, final, run, events, failure⟩ := CallGraph.assemble_run behaviour
    found.selection.functions found.selection.scope request.column after
  rw [finish_run, run]
  have planned : (assembled found result).plan session.journal request =
      (.search request.pattern request.root :: hits.paths.map .tag) ++
        CallGraph.plan after.nextDirectory found.selection.scope found.selection.functions := by
    have asked : (assembled found result).asked request =
        .search request.pattern request.root :: hits.paths.map .tag := by
      rw [asked, assembled_located?, ← equal]
      rfl
    have directory : after.nextDirectory = Session.directoryAfter after.journal := rfl
    rw [plan, asked, assembled_attributed?, directory, journal, List.append_assoc]
    rfl
  have all : behaviour.perform session.journal
      ((assembled found result).plan session.journal request) =
        behaviour.perform after.journal
          (CallGraph.plan after.nextDirectory found.selection.scope
            found.selection.functions) := by
    rw [planned, List.cons_append, Behaviour.perform_cons (search_passes h),
      Behaviour.perform_append (Occurrence.perform_tagged tagged), journal]
  refine ⟨⟨?_, ?_⟩, ?_, ?_⟩
  · intro other located
    obtain rfl := Option.some.inj ((assembled_located? found result).symm.trans located)
    rw [← equal]
    exact h
  · intro other attributed
    obtain rfl := Option.some.inj ((assembled_attributed? found result).symm.trans attributed)
    exact ⟨tags, equal ▸ tagged, equal ▸ rfl⟩
  · dsimp only
    rw [all, events, List.filter_append]
    -- The removal of the directory is no call.
    by_cases none : found.selection.functions.isEmpty
    · rw [if_pos none, List.filter_nil, List.append_nil]
    · rw [if_neg none]
      exact List.append_nil _
  · dsimp only
    rw [all, assembled_failure?, failure]

end Found

theorem run_obeys (behaviour : Behaviour) (request : Request) (session : Session) :
    Obeys behaviour request session
      ((run (Services.recorded behaviour) Scratch.recorded request).run session) := by
  cases found : behaviour.search session.journal request.pattern request.root with
  | error error =>
    rw [run_of_search_error found]
    exact obeys_of_search_error found
  | ok hits =>
    cases fails : (behaviour.perform (session.journal ++ [.search request.pattern request.root])
        (hits.paths.map .tag)).2 with
    | some error =>
      obtain ⟨after, stops, run⟩ := run_of_tag_error found fails
      rw [run]
      exact obeys_of_tag_error found stops
    | none =>
      obtain ⟨tags, tagged⟩ := Occurrence.exists_tagged hits.paths_nodup fails
      obtain ⟨after, journal, run⟩ := run_of_tagged found tagged
      rw [run]
      exact obeys_of_tagged found tagged journal

/-- The calls of a run are one search, a tag call for each file of the hits in their order, and,
if the selection has functions, one build and a query for each of them by rank, up to the first
call that fails.  The run ends with the failure of that call, and without one it completes. -/
theorem run_stops_at_first_failure (behaviour : Behaviour) (request : Request)
    (session : Session) :
    ∃ survey final, (run (Services.recorded behaviour) Scratch.recorded request).run session =
        (survey, final) ∧
      final.journal.filter Event.isCall =
        (behaviour.perform session.journal (survey.plan session.journal request)).1.filter
          Event.isCall ∧
      survey.failure? =
        (behaviour.perform session.journal (survey.plan session.journal request)).2 ∧
      (survey.failure? = none → ∃ found graph, survey = .complete found graph) ∧
      survey.Follows behaviour session.journal request ∧
      (∀ found, survey.located? = some found →
        found.hits.paths.Pairwise fun a b => ¬a.Same b) ∧
      ∀ found, survey.attributed? = some found → found.selection.functions.Nodup := by
  have obeys := run_obeys behaviour request session
  cases outcome : (run (Services.recorded behaviour) Scratch.recorded request).run session with
  | mk survey final =>
    rw [outcome] at obeys
    obtain ⟨follows, events, failure⟩ := obeys
    refine ⟨survey, final, rfl, events, failure, complete_of_failure?, follows, ?_, ?_⟩
    · intro found _
      exact found.hits.paths_distinct
    · intro found attributed
      obtain ⟨tags, -, equal⟩ := follows.attributed found attributed
      rw [equal]
      exact Distinct.nodup_eraseDups _

end Survey

end CallAtlas
