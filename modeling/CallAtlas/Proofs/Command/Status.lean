import CallAtlas.Proofs.Command.Failure
import CallAtlas.Proofs.Tool.Error
import CallAtlas.Proofs.World.Fate

set_option autoImplicit false
set_option relaxedAutoImplicit false

/-!
Exit statuses in the failures of whole runs.  A status that a run reports is one that the service it
names refuses, and the program that was started last ended with it.
-/

namespace CallAtlas

variable {α β γ : Type}

def Ending.status? : Ending → Option Int
  | .exited code => some ((code % 256 : Nat) : Int)
  | .signalled _ => none
  | .hanging => none

/-- What an error tells of a program is so: the program that was started last ended in that way, and
not in one that the service accepts. -/
def Tool.Error.StemsFrom (error : Tool.Error) (world : World) : Prop :=
  match error.fault with
  | .failed status diagnostic => ∃ invocation, world.started.getLast? = some invocation ∧
      (world.react invocation).ending.status? = status ∧
      (∀ n, status = some n → ¬error.service.Accepts n) ∧
      diagnostic = Text.decodeLossy (world.react invocation).errors
  | .timedOut _ => ∃ invocation, world.started.getLast? = some invocation ∧
      (world.react invocation).ending = .hanging
  | .unavailable _ => True
  | .workspace _ => True

namespace World

def record (world : World) : List Invocation × (Invocation → Reaction) :=
  (world.started, world.react)

def Reports (question : StateM World (Except Tool.Error α)) : Prop :=
  ∀ world error, (question.run world).1 = .error error → error.StemsFrom (question.run world).2

def HandsOn (error : Tool.Error) (step : StateM World (Except Tool.Error α)) : Prop :=
  ∀ world, (step.run world).1 = .error error ∧ (step.run world).2.record = world.record

end World

theorem Tool.Error.StemsFrom.of_record {error : Tool.Error} {world after : World}
    (stems : error.StemsFrom world) (same : after.record = world.record) :
    error.StemsFrom after := by
  obtain ⟨started, react⟩ := Prod.mk.inj same
  unfold StemsFrom
  rw [started, react]
  exact stems

theorem Tool.Error.StemsFrom.refused {error : Tool.Error} {world : World}
    (stems : error.StemsFrom world) {status : Int} (exited : error.exitStatus? = some status) :
    ¬error.service.Accepts status := by
  obtain ⟨service, fault⟩ := error
  cases fault with
  | failed known diagnostic =>
    obtain ⟨invocation, -, -, refused, -⟩ := stems
    exact refused status exited
  | unavailable cause => cases exited
  | timedOut limit => cases exited
  | workspace cause => cases exited

namespace Fate

variable {limit : Option Duration} {reaction : Reaction}

theorem ended_of_ofReaction {status : Option Int} {output errors : List UInt8}
    (ended : ofReaction limit reaction = .ended status output errors) :
    reaction.ending.status? = status ∧ reaction.errors = errors := by
  unfold ofReaction at ended
  cases ending : reaction.ending with
  | exited code =>
    rw [ending] at ended
    cases ended
    exact ⟨rfl, rfl⟩
  | signalled signal =>
    rw [ending] at ended
    cases ended
    exact ⟨rfl, rfl⟩
  | hanging =>
    rw [ending] at ended
    cases limit with
    | none =>
      cases ended
      exact ⟨rfl, rfl⟩
    | some limit => cases ended

theorem hanging_of_ofReaction {after : Duration}
    (expired : ofReaction limit reaction = .expired after) : reaction.ending = .hanging := by
  unfold ofReaction at expired
  split at expired <;> first | assumption | cases expired

end Fate

namespace World

theorem Asks.reports {service : Tool.Service} {limit : Option Duration} {command : Command}
    {read : Int → String → α} {question : StateM World (Except Tool.Error α)}
    (asks : Asks service limit command read question) : Reports question := by
  rintro world ⟨named, fault⟩ failed
  cases fault with
  | failed status diagnostic =>
    obtain ⟨rfl, output, errors, ended, refused, rfl⟩ :=
      ((asks.answered world).failed named status diagnostic).mp failed
    obtain ⟨invocation, last, reacted⟩ := exists_started_of_fate ended nofun nofun
    obtain ⟨ending, rfl⟩ := Fate.ended_of_ofReaction reacted
    unfold Tool.Error.StemsFrom
    rw [asks.after, begin_react]
    exact ⟨invocation, last, ending, refused, rfl⟩
  | unavailable cause => trivial
  | timedOut after =>
    obtain ⟨rfl, expired⟩ := ((asks.answered world).timedOut named after).mp failed
    obtain ⟨invocation, last, reacted⟩ := exists_started_of_fate expired nofun nofun
    unfold Tool.Error.StemsFrom
    rw [asks.after, begin_react]
    exact ⟨invocation, last, Fate.hanging_of_ofReaction reacted⟩
  | workspace cause => trivial

namespace Reports

theorem ok (a : α) : Reports (pure (.ok a) : StateM World (Except Tool.Error α)) := nofun

theorem workspace (service : Tool.Service) (cause : SystemError) :
    Reports (pure (.error ⟨service, .workspace cause⟩) :
      StateM World (Except Tool.Error α)) := by
  intro world error failed
  cases failed
  trivial

theorem after {step : StateM World β} {next : β → StateM World (Except Tool.Error γ)}
    (others : ∀ b, Reports (next b)) : Reports (step >>= next) := by
  intro world error failed
  rw [StateT.run_bind] at failed ⊢
  exact others _ _ error failed

theorem bind {question : StateM World (Except Tool.Error α)}
    {next : Except Tool.Error α → StateM World (Except Tool.Error γ)} (first : Reports question)
    (stops : ∀ error, HandsOn error (next (.error error)))
    (others : ∀ a, Reports (next (.ok a))) : Reports (question >>= next) := by
  intro world error failed
  rw [World.run_bind] at failed ⊢
  cases answer : (question.run world).1 with
  | error cause =>
    obtain ⟨handed, same⟩ := stops cause (question.run world).2
    rw [answer, handed] at failed
    cases failed
    exact (first world _ answer).of_record same
  | ok a =>
    rw [answer] at failed
    exact others a _ error failed

end Reports

theorem handsOn_pure (error : Tool.Error) :
    HandsOn error (pure (.error error) : StateM World (Except Tool.Error α)) :=
  fun _ => ⟨rfl, rfl⟩

theorem handsOn_remove (error : Tool.Error) (path : Path) :
    HandsOn error (do
      removeScratch path
      pure (.error error) : StateM World (Except Tool.Error α)) := by
  intro world
  refine ⟨rfl, ?_⟩
  change ((removeScratch path).run world).2.record = world.record
  unfold removeScratch
  simp only [StateT.run_bind, StateT.run_get, pure_bind]
  split <;> rfl

end World

/-! The questions of a run. -/

section Questions

variable {services : Services (StateM World)}

structure Services.Report (services : Services (StateM World)) : Prop where
  search : ∀ pattern root, World.Reports (services.search pattern root)
  tag : ∀ file, World.Reports (services.tag file)
  build : ∀ workdir manifest, World.Reports (services.build workdir manifest)
  query : ∀ workdir function, World.Reports (services.query workdir function)

theorem Services.programs_report (toolbox : Toolbox) : (Services.programs toolbox).Report where
  search pattern root := (toolbox.asks.search pattern root).reports
  tag file := (toolbox.asks.tag file).reports
  build workdir manifest := (toolbox.asks.build workdir manifest).reports
  query workdir function := (toolbox.asks.query workdir function).reports

theorem Occurrence.tabulateFrom_reports (report : services.Report) (root : Path) (table : Table)
    (entries : List FileHits) : World.Reports (tabulateFrom services root table entries) := by
  induction entries generalizing table with
  | nil => exact .ok table
  | cons entry rest ih =>
    rw [tabulateFrom]
    exact (report.tag entry.file).bind World.handsOn_pure fun records => ih _

theorem CallGraph.expand_reports (report : services.Report) (database : Reference.Database)
    (graph : CallGraph) (functions : List String) :
    World.Reports (expand services database graph functions) := by
  induction functions generalizing graph with
  | nil => exact .ok graph
  | cons function rest ih =>
    rw [expand]
    refine World.Reports.bind ?_ World.handsOn_pure fun calls => ih _
    exact (report.query database.workdir function).bind World.handsOn_pure fun rows => .ok _

namespace Reference.Database

theorem buildIn_reports (report : services.Report) (scope : Scope) (column : Column)
    (workdir : Path) :
    World.Reports (buildIn services Scratch.temporary scope column workdir) := by
  refine .after fun written => ?_
  cases written with
  | error cause => exact .workspace .build cause
  | ok _ => exact (report.build _ _).bind World.handsOn_pure fun _ => .ok _

theorem build_reports (report : services.Report) (scope : Scope) (column : Column) :
    World.Reports (build services Scratch.temporary scope column) := by
  refine .after fun created => ?_
  cases created with
  | error cause => exact .workspace .build cause
  | ok workdir =>
    exact (buildIn_reports report scope column workdir).bind
      (fun error => World.handsOn_remove error workdir) .ok

end Reference.Database

theorem CallGraph.assemble_reports (report : services.Report) (functions : List String)
    (scope : Scope) (column : Reference.Column) :
    World.Reports (assemble services Scratch.temporary functions scope column) := by
  unfold assemble
  split
  · exact .ok empty
  · refine (Reference.Database.build_reports report scope column).bind World.handsOn_pure
      fun database => ?_
    exact (expand_reports report database empty functions).bind
      (fun error => World.handsOn_remove error database.workdir)
      fun graph => .after fun _ => .ok graph

end Questions

/-! The failures of actions. -/

/-- A failure from the tools or from the writing, and not from the preparation. -/
inductive Failure.Arises (after : World) : Failure → Prop
  | tool (context : String) {error : Tool.Error} (stems : error.StemsFrom after) :
      Arises after (.ofTool context error)
  | writing (path : String) {cause : SystemError} (foreign : cause.IsForeign) :
      Arises after (.ofSystem ("Failed to write " ++ path) cause)

namespace Action

variable {kind : World → Failure → Prop} {action : Action α} {next : α → Action γ}
  {world : World} {failure : Failure}

/-- An action whose failures are of one kind in the world that they leave behind. -/
def FailsOnly (kind : World → Failure → Prop) (action : Action α) : Prop :=
  ∀ world failure, (action.run.run world).1 = .error failure → kind (action.run.run world).2 failure

theorem ofTool_run (context : String) (question : StateM World (Except Tool.Error α))
    (world : World) : (ofTool context question).run.run world =
      (match (question.run world).1 with
        | .ok answer => .ok answer
        | .error error => .error (Failure.ofTool context error), (question.run world).2) := by
  change StateT.run (question >>= _) world = _
  rw [World.run_bind]
  cases (question.run world).1 <;> rfl

theorem bind_failed (failed : ((action >>= next).run.run world).1 = .error failure) :
    (action.run.run world).1 = .error failure ∧
        ((action >>= next).run.run world).2 = (action.run.run world).2 ∨
      ∃ a, (action.run.run world).1 = .ok a ∧
        (action >>= next).run.run world = (next a).run.run (action.run.run world).2 := by
  cases done : (action.run.run world).1 with
  | error cause =>
    rw [run_bind_of_error done] at failed ⊢
    cases failed
    exact .inl ⟨rfl, rfl⟩
  | ok a => exact .inr ⟨a, rfl, run_bind_of_ok done⟩

theorem failed_of_bind_succeeds (others : ∀ a, Succeeds (next a))
    (failed : ((action >>= next).run.run world).1 = .error failure) :
    (action.run.run world).1 = .error failure := by
  rcases bind_failed failed with ⟨first, -⟩ | ⟨a, -, second⟩
  · exact first
  · obtain ⟨b, ended⟩ := others a (action.run.run world).2
    rw [second, ended] at failed
    cases failed

theorem Succeeds.failsOnly (succeeds : Succeeds action) : FailsOnly kind action := by
  intro world failure failed
  obtain ⟨a, done⟩ := succeeds world
  rw [done] at failed
  cases failed

namespace FailsOnly

theorem bind (first : FailsOnly kind action) (others : ∀ a, FailsOnly kind (next a)) :
    FailsOnly kind (action >>= next) := by
  intro world failure failed
  rcases bind_failed failed with ⟨stopped, same⟩ | ⟨a, -, second⟩
  · rw [same]
    exact first world failure stopped
  · rw [second] at failed ⊢
    exact others a _ failure failed

theorem ofTool (context : String) {question : StateM World (Except Tool.Error α)}
    (reports : World.Reports question) :
    FailsOnly Failure.Arises (Action.ofTool context question) := by
  intro world failure failed
  rw [ofTool_run] at failed ⊢
  cases answer : (question.run world).1 with
  | ok a =>
    rw [answer] at failed
    cases failed
  | error cause =>
    rw [answer] at failed
    cases failed
    exact .tool context (reports world cause answer)

theorem write (path text : String) (file : Path) :
    FailsOnly Failure.Arises
      (ofSystem ("Failed to write " ++ path) (World.writeFile file text)) := by
  intro world failure failed
  rw [writeFile_run] at failed
  cases written : world.disk.write world.workdir file text with
  | error cause =>
    rw [written] at failed
    cases failed
    exact .writing path (Disk.isForeign_of_write written)
  | ok disk =>
    rw [written] at failed
    cases failed

end FailsOnly

end Action

/-! Failures that tell no exit status. -/

namespace Failure

/-- A failure that reads like no error with an exit status. -/
def IsMute (failure : Failure) : Prop :=
  ∀ context error, failure = .ofTool context error → error.exitStatus? = none

theorem isMute_of_length {failure : Failure} (several : failure.causes.length ≠ 1) :
    failure.IsMute := by
  rintro context ⟨service, fault⟩ rfl
  cases fault with
  | failed status diagnostic => exact absurd rfl several
  | unavailable cause => rfl
  | timedOut limit => rfl
  | workspace cause => rfl

theorem isMute_of_isForeign (context : String) {cause : SystemError} (foreign : cause.IsForeign) :
    (ofSystem context cause).IsMute := by
  intro context' error same
  have causes : [cause.message] = error.chain := congrArg causes same
  exact absurd (List.cons.inj causes).1 (foreign.ne_message error)

theorem Arises.refused {after : World} {failure : Failure} (arises : failure.Arises after)
    {context : String} {error : Tool.Error} (same : failure = .ofTool context error)
    {status : Int} (exited : error.exitStatus? = some status) :
    ¬error.service.Accepts status := by
  cases arises with
  | tool context' stems =>
    rename_i cause
    have chains : cause.chain = error.chain := congrArg causes same
    have messages := (List.cons.inj chains).1.symm
    have exited' := Tool.Error.exitStatus?_of_message messages exited
    rw [Tool.Error.service_of_message messages]
    exact stems.refused exited'
  | writing path foreign =>
    have none := isMute_of_isForeign _ foreign context error same
    rw [none] at exited
    cases exited

end Failure

theorem Root.isMute_of_resolve {world : World} {given settings : Option Path} {failure : Failure}
    (failed : resolve world given settings = .error failure) : failure.IsMute := by
  unfold resolve at failed
  dsimp only at failed
  split at failed
  · cases failed
    exact Failure.isMute_of_length (show 2 ≠ 1 by decide)
  · split at failed
    · rename_i expanded _ _ _ unreached
      unfold canonical at unreached
      cases found : world.disk.lookup world.workdir ⟨expanded⟩ with
      | ok place =>
        rw [found] at unreached
        cases unreached
      | error cause =>
        rw [found] at unreached
        cases unreached
        cases failed
        exact Failure.isMute_of_isForeign _ (Disk.isForeign_of_lookup found)
    · cases failed

/-! The commands that search. -/

theorem SearchRequest.prepare_failsOnly (request : SearchRequest) :
    Action.FailsOnly (fun _ failure => failure.IsMute) request.prepare := by
  have loads : Action.Succeeds (ExceptT.lift Settings.loadOrStandard) := fun world => ⟨_, rfl⟩
  have looks : Action.Succeeds (get : Action World) := fun world => ⟨world, rfl⟩
  refine loads.failsOnly.bind fun settings => looks.failsOnly.bind fun world => ?_
  refine Action.FailsOnly.bind (fun _ _ => Root.isMute_of_resolve) fun root => ?_
  dsimp only
  split
  · rintro after failure failed
    cases failed
    exact Failure.isMute_of_length (show 0 ≠ 1 by decide)
  · exact Action.Succeeds.failsOnly fun world => ⟨_, rfl⟩

theorem Occurrence.functions_select_empty (root : Path) (limit : Nat) :
    (select Tally.empty root limit).functions = [] := by
  simp [select, topKeys, Tally.byCount, Tally.empty]

namespace SearchJob

variable (job : SearchJob) (manner : Manner)

theorem services_report : (job.services manner).Report := Services.programs_report _

theorem locate_failsOnly : Action.FailsOnly Failure.Arises (job.locate (job.services manner)) :=
  .ofTool _ ((job.services_report manner).search _ _)

theorem tabulate_failsOnly (hits : Hits) :
    Action.FailsOnly Failure.Arises (job.tabulate (job.services manner) hits) :=
  .ofTool _ (Occurrence.tabulateFrom_reports (job.services_report manner) _ _ _)

end SearchJob

namespace Command

def search? : Command → Option SearchRequest
  | .inventory search => some search
  | .index search _ => some search
  | .callGraph search _ _ => some search
  | .init _ _ => none
  | .completions _ _ _ => none

variable {search : SearchRequest} {manner : Manner}

theorem searches_of_search? {command : Command} (searches : command.search? = some search) :
    command.searches = true := by
  cases command <;> first | rfl | cases searches

theorem prepared_failsOnly (plan : SearchJob → List String) {work : SearchJob → Action Unit}
    (only : ∀ job, Action.FailsOnly Failure.Arises (work job)) {world : World} {failure : Failure} :
    let action := search.prepare >>= fun job =>
      if manner.dryRun then manner.say (plan job) else work job
    (action.run.run world).1 = .error failure →
      (search.prepare.run.run world).1 = .error failure ∨
        failure.Arises (action.run.run world).2 := by
  intro action failed
  rcases Action.bind_failed failed with ⟨unprepared, -⟩ | ⟨job, -, second⟩
  · exact .inl unprepared
  · have works : Action.FailsOnly Failure.Arises
        (if manner.dryRun then manner.say (plan job) else work job) := by
      split
      · exact (Action.succeeds_say manner _).failsOnly
      · exact only job
    rw [second] at failed ⊢
    exact .inr (works _ failure failed)

theorem run_failsOnly {command : Command} (searches : command.search? = some search)
    {world : World} {failure : Failure}
    (failed : ((command.run manner).run.run world).1 = .error failure) :
    (search.prepare.run.run world).1 = .error failure ∨
      failure.Arises ((command.run manner).run.run world).2 := by
  cases command with
  | inventory search =>
    cases searches
    refine prepared_failsOnly _ (fun job => ?_) failed
    refine (job.locate_failsOnly manner).bind fun hits => ?_
    exact ((Action.succeeds_print _).bind fun _ => Action.succeeds_say manner _).failsOnly
  | index search byCount =>
    cases searches
    refine prepared_failsOnly _ (fun job => ?_) failed
    refine (job.locate_failsOnly manner).bind fun hits => ?_
    refine (job.tabulate_failsOnly manner hits).bind fun table => ?_
    exact ((Action.succeeds_print _).bind fun _ => Action.succeeds_say manner _).failsOnly
  | callGraph search limit output =>
    cases searches
    refine prepared_failsOnly _ (fun job => ?_) failed
    refine (job.locate_failsOnly manner).bind fun hits => ?_
    refine (job.tabulate_failsOnly manner hits).bind fun table => ?_
    have notices (event : Notice) : Action.Succeeds (ExceptT.lift (World.notice event)) :=
      fun world => ⟨_, rfl⟩
    refine (notices _).failsOnly.bind fun _ => ?_
    have assembles := CallGraph.assemble_reports (job.services_report manner)
    refine (Action.FailsOnly.ofTool _ (assembles _ _ _)).bind fun graph => ?_
    exact (Action.FailsOnly.write _ _ _).bind fun _ => (Action.succeeds_say manner _).failsOnly
  | init directory force => cases searches
  | completions shell directory toOutput => cases searches

section Nothing

variable {world after : World} {job : SearchJob}

/-- The search of a job finds nothing. -/
def FindsNothing (job : SearchJob) (manner : Manner) (world : World) : Prop :=
  (((job.services manner).search job.pattern job.root).run world).1 = .ok Hits.empty

theorem locate_of_nothing (nothing : FindsNothing job manner world) :
    ((job.locate (job.services manner)).run.run world).1 = .ok Hits.empty := by
  rw [SearchJob.locate, Action.ofTool_run, nothing]

theorem runIndex_of_nothing (byCount : Bool)
    (prepared : search.prepare.run.run world = (.ok job, after))
    (nothing : FindsNothing job manner after) :
    ((runIndex search byCount manner).run.run world).1 = .ok () := by
  have ready : (search.prepare.run.run world).1 = .ok job := by rw [prepared]
  unfold runIndex
  rw [Action.run_bind_of_ok ready, prepared]
  dsimp only
  split
  · exact (Action.succeeds_say manner _ _).choose_spec
  · rw [Action.run_bind_of_ok (locate_of_nothing nothing)]
    exact (((Action.succeeds_print _).bind fun _ => Action.succeeds_say manner _) _).choose_spec

theorem runCallGraph_of_nothing (limit : Option Nat) (output : Option Path) {failure : Failure}
    (prepared : search.prepare.run.run world = (.ok job, after))
    (nothing : FindsNothing job manner after)
    (failed : ((runCallGraph search limit output manner).run.run world).1 = .error failure) :
    ∃ cause, failure = .ofSystem
      ("Failed to write " ++ (output.getD job.settings.graph.output).text) cause := by
  have ready : (search.prepare.run.run world).1 = .ok job := by rw [prepared]
  unfold runCallGraph at failed
  rw [Action.run_bind_of_ok ready, prepared] at failed
  dsimp only at failed
  split at failed
  · obtain ⟨_, done⟩ := Action.succeeds_say manner
      (callGraphPlan job (limit.getD job.settings.graph.limit)
        (output.getD job.settings.graph.output) manner) after
    rw [done] at failed
    cases failed
  · -- Nothing is attributed and nothing is chosen, so that no other program is started.
    rw [Action.run_bind_of_ok (locate_of_nothing nothing)] at failed
    rw [Action.run_bind_of_ok (a := Tally.empty) rfl, Action.run_bind_of_ok (a := ()) rfl,
      Occurrence.functions_select_empty, Action.run_bind_of_ok (a := CallGraph.empty) rfl] at failed
    have unwritten := Action.failed_of_bind_succeeds
      (fun _ => Action.succeeds_say manner _) failed
    rw [Action.ofSystem_run] at unwritten
    split at unwritten
    · cases unwritten
    · cases unwritten
      exact ⟨_, rfl⟩

end Nothing

end Command

/-- All four services tell the fate of their program alike.  What a run of a command that searches
fails by is its preparation, the writing of its graph, or an error that stems from the program
started last, and no exit status that it tells is one that the service it names accepts.  Where the
search finds nothing, no run fails by a tool. -/
theorem Request.perform_classifies_statuses :
    (∀ toolbox : Toolbox, toolbox.Asks) ∧
    (∀ (request : Request) (search : SearchRequest) (world : World) (failure : Failure),
      request.command.search? = some search → (request.perform world).1 = .error failure →
      (request.perform world).2.react = world.react ∧
      ((search.prepare.run.run world).1 = .error failure ∨
        failure.Arises (request.perform world).2) ∧
      ∀ (context : String) (error : Tool.Error) (status : Int),
        failure = .ofTool context error → error.exitStatus? = some status →
        ¬error.service.Accepts status) ∧
    (∀ (search : SearchRequest) (manner : Manner) (world after : World) (job : SearchJob),
      search.prepare.run.run world = (.ok job, after) →
      (((job.services manner).search job.pattern job.root).run after).1 = .ok Hits.empty →
      (∀ byCount, ((Command.runIndex search byCount manner).run.run world).1 = .ok ()) ∧
      ∀ limit output failure,
        ((Command.runCallGraph search limit output manner).run.run world).1 = .error failure →
        ∃ cause, failure = .ofSystem
          ("Failed to write " ++ (output.getD job.settings.graph.output).text) cause) := by
  refine ⟨Toolbox.asks, ?_, ?_⟩
  · intro request search world failure searches failed
    have scene : (request.perform world).2.scene = world.scene :=
      Command.run_failsClean (Command.searches_of_search? searches) world failure failed
    have comes := Command.run_failsOnly searches failed
    refine ⟨World.react_eq_of_scene scene, comes, fun context error status same exited => ?_⟩
    rcases comes with unprepared | arises
    · have none := search.prepare_failsOnly world failure unprepared context error same
      rw [none] at exited
      cases exited
    · exact arises.refused same exited
  · intro search manner world after job prepared nothing
    exact ⟨fun byCount => Command.runIndex_of_nothing byCount prepared nothing,
      fun limit output failure => Command.runCallGraph_of_nothing limit output prepared nothing⟩

/-- A search that ends with status one and some output finds nothing, and the run succeeds; with
status three it fails, and the failure is the one of the search. -/
theorem Request.perform_classifies_statuses_one_and_three :
    let world (code : Nat) : World :=
      { disk := ⟨[(["tmp"], .directory), (["bin"], .directory), (["bin", "rg"], .program)]⟩
        workdir := []
        environment := []
        react := fun _ => ⟨[97, 0, 49, 58, 10], [98, 97, 100], .exited code⟩
        completion := id
        started := []
        printed := []
        notices := [] }
    let search : SearchRequest := ⟨some "x", none, .literal⟩
    let request : Request := ⟨.index search false, ⟨false, false, false, none⟩, 0⟩
    let failure : Failure :=
      .ofTool "Failed to search for 'x' under /" ⟨.search, .failed (some 3) "bad"⟩
    (request.perform (world 1)).1 = .ok () ∧
      (request.perform (world 3)).1 = .error failure ∧
      failure.Arises (request.perform (world 3)).2 ∧ ¬Tool.Service.search.Accepts 3 := by
  intro world search request failure
  have prepared : search.prepare.run.run (world 1) =
      (.ok ⟨Settings.standard, ⟨"/"⟩, "x", .literal⟩, world 1) := by
    dsimp only [world, search]
    rfl
  have ready : (search.prepare.run.run (world 3)).1 =
      .ok ⟨Settings.standard, ⟨"/"⟩, "x", .literal⟩ := by
    dsimp only [world, search]
    rfl
  have nothing : Command.FindsNothing ⟨Settings.standard, ⟨"/"⟩, "x", .literal⟩
      request.manner (world 1) := by
    dsimp only [world, search, request]
    rfl
  have failed : (request.perform (world 3)).1 = .error failure := by
    dsimp only [world, search, request, failure]
    rfl
  obtain ⟨-, fails, finds⟩ := perform_classifies_statuses
  obtain ⟨-, comes, refused⟩ := fails request search (world 3) failure rfl failed
  refine ⟨(finds _ _ _ _ _ prepared nothing).1 false, failed, ?_, ?_⟩
  · refine comes.resolve_left fun unprepared => ?_
    rw [ready] at unprepared
    cases unprepared
  · exact refused _ ⟨.search, .failed (some 3) "bad"⟩ 3 rfl rfl

end CallAtlas
