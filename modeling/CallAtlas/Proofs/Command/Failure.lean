import CallAtlas.Program
import CallAtlas.Proofs.World.Scratch

set_option autoImplicit false
set_option relaxedAutoImplicit false

namespace CallAtlas

namespace Action

variable {α β γ : Type} {view : World → β} {action : Action α} {next : α → Action γ}

/-- An action that, if it fails, has changed nothing that a view shows. -/
def FailsClean (view : World → β) (action : Action α) : Prop :=
  ∀ world failure, (action.run.run world).1 = .error failure →
    view (action.run.run world).2 = view world

/-- An action that never fails. -/
def Succeeds (action : Action α) : Prop := ∀ world, ∃ a, (action.run.run world).1 = .ok a

theorem run_bind_of_ok {world : World} {a : α} (first : (action.run.run world).1 = .ok a) :
    (action >>= next).run.run world = (next a).run.run (action.run.run world).2 := by
  change (ExceptT.bindCont next (action.run.run world).1).run (action.run.run world).2 = _
  rw [first]
  rfl

theorem run_bind_of_error {world : World} {failure : Failure}
    (first : (action.run.run world).1 = .error failure) :
    (action >>= next).run.run world = (.error failure, (action.run.run world).2) := by
  change (ExceptT.bindCont next (action.run.run world).1).run (action.run.run world).2 = _
  rw [first]
  rfl

theorem Succeeds.failsClean (succeeds : Succeeds action) : FailsClean view action := by
  intro world failure failed
  obtain ⟨a, done⟩ := succeeds world
  rw [done] at failed
  cases failed

theorem Keeps.bind_failsClean (first : Keeps view action) (others : ∀ a, FailsClean view (next a)) :
    FailsClean view (action >>= next) := by
  intro world failure failed
  cases done : (action.run.run world).1 with
  | error cause =>
    rw [run_bind_of_error done]
    exact first world
  | ok a =>
    rw [run_bind_of_ok done] at failed ⊢
    exact (others a _ failure failed).trans (first world)

theorem FailsClean.bind_succeeds (first : FailsClean view action) (others : ∀ a, Succeeds (next a)) :
    FailsClean view (action >>= next) := by
  intro world failure failed
  cases done : (action.run.run world).1 with
  | error cause =>
    rw [run_bind_of_error done]
    exact first world cause done
  | ok a =>
    obtain ⟨b, ended⟩ := others a (action.run.run world).2
    rw [run_bind_of_ok done, ended] at failed
    cases failed

theorem Succeeds.bind (first : Succeeds action) (others : ∀ a, Succeeds (next a)) :
    Succeeds (action >>= next) := by
  intro world
  obtain ⟨a, done⟩ := first world
  rw [run_bind_of_ok done]
  exact others a _

theorem succeeds_print (lines : List String) : Succeeds (print lines) := fun _ => ⟨(), rfl⟩

theorem succeeds_say (manner : Manner) (lines : List String) : Succeeds (manner.say lines) := by
  unfold Manner.say
  split
  · exact fun _ => ⟨(), rfl⟩
  · exact succeeds_print lines

theorem ofSystem_run {context : String} {request : StateM World (Except SystemError α)}
    (world : World) : (ofSystem context request).run.run world =
      (match (request.run world).1 with
        | .ok answer => .ok answer
        | .error error => .error (Failure.ofSystem context error), (request.run world).2) := by
  change StateT.run (request >>= _) world = _
  rw [World.run_bind]
  cases (request.run world).1 <;> rfl

theorem writeFile_run (context : String) (path : Path) (text : String) (world : World) :
    (ofSystem context (World.writeFile path text)).run.run world =
      match world.disk.write world.workdir path text with
      | .error error => (.error (Failure.ofSystem context error), world)
      | .ok disk => (.ok (), { world with disk }) := by
  rw [ofSystem_run, World.writeFile_run]
  cases world.disk.write world.workdir path text <;> rfl

theorem failsClean_write (context : String) (path : Path) (text : String) :
    FailsClean view (ofSystem context (World.writeFile path text)) := by
  intro world failure failed
  rw [ofSystem_run, World.writeFile_run] at failed ⊢
  cases written : world.disk.write world.workdir path text with
  | error error => rfl
  | ok disk =>
    rw [written] at failed
    cases failed

end Action

namespace SearchJob

variable (job : SearchJob) (manner : Manner)

theorem services_keep : (job.services manner).Keep World.scene := Services.programs_keep _

theorem locate_keeps : Action.Keeps World.scene (job.locate (job.services manner)) :=
  .ofTool _ ((job.services_keep manner).search _ _)

theorem tabulate_keeps (hits : Hits) :
    Action.Keeps World.scene (job.tabulate (job.services manner) hits) :=
  .ofTool _ (Occurrence.tabulate_keeps (job.services_keep manner) _ hits)

end SearchJob

namespace Command

variable {search : SearchRequest} {manner : Manner}

theorem prepared_failsClean (plan : SearchJob → List String) {work : SearchJob → Action Unit}
    (clean : ∀ job, Action.FailsClean World.scene (work job)) :
    Action.FailsClean World.scene
      (search.prepare >>= fun job => if manner.dryRun then manner.say (plan job) else work job) := by
  refine (search.prepare_keeps.part fun world => { world with started := [] }).bind_failsClean
    fun job => ?_
  split
  · exact (Action.succeeds_say manner _).failsClean
  · exact clean job

theorem runInventory_failsClean :
    Action.FailsClean World.scene (runInventory search manner) := by
  refine prepared_failsClean _ fun job => ?_
  refine (job.locate_keeps manner).bind_failsClean fun hits => ?_
  exact ((Action.succeeds_print _).bind fun _ => Action.succeeds_say manner _).failsClean

theorem runIndex_failsClean (byCount : Bool) :
    Action.FailsClean World.scene (runIndex search byCount manner) := by
  refine prepared_failsClean _ fun job => ?_
  refine (job.locate_keeps manner).bind_failsClean fun hits => ?_
  refine (job.tabulate_keeps manner hits).bind_failsClean fun table => ?_
  exact ((Action.succeeds_print _).bind fun _ => Action.succeeds_say manner _).failsClean

theorem runCallGraph_failsClean (limit : Option Nat) (output : Option Path) :
    Action.FailsClean World.scene (runCallGraph search limit output manner) := by
  refine prepared_failsClean _ fun job => ?_
  refine (job.locate_keeps manner).bind_failsClean fun hits => ?_
  refine (job.tabulate_keeps manner hits).bind_failsClean fun table => ?_
  refine (Action.Keeps.lift fun world => rfl).bind_failsClean fun _ => ?_
  have assembles := CallGraph.assemble_keeps (job.services_keep manner)
  refine (Action.Keeps.ofTool _ (assembles _ _ _)).bind_failsClean fun graph => ?_
  -- The scene changes from here on: only the writing can still fail, and then nothing is written.
  exact (Action.failsClean_write _ _ _).bind_succeeds fun _ => Action.succeeds_say manner _

theorem run_failsClean {command : Command} (searches : command.searches = true) :
    Action.FailsClean World.scene (command.run manner) := by
  cases command with
  | inventory search => exact runInventory_failsClean
  | index search byCount => exact runIndex_failsClean byCount
  | callGraph search limit output => exact runCallGraph_failsClean limit output
  | init directory force => cases searches
  | completions shell directory toOutput => cases searches

end Command

namespace Program

/-- A run of a command that searches and ends without success has printed nothing and left the disk
as it was: no report, no scratch directory, and the old graph if there was one. -/
theorem run_failed (arguments : List String) (world : World) (request : Request)
    (parsed : CommandLine.parse arguments = .ok request)
    (searches : request.command.searches = true) (failed : (run arguments world).status ≠ 0) :
    (run arguments world).output = world.output ∧
      (run arguments world).world.disk = world.disk := by
  rw [run_of_parsed parsed] at failed ⊢
  obtain ⟨failure, ended⟩ := failed_of_status failed
  have same : (request.perform world).2.scene = world.scene :=
    Command.run_failsClean searches world failure ended
  rw [output_perform, world_perform]
  exact ⟨World.output_eq_of_scene same, World.disk_eq_of_scene same⟩

/-- A run beside an old graph that fails in its fourth and last program, the query about the one
function: the search found a line, the tags gave the function, and the database was built. -/
theorem run_failed_in_query :
    let world : World :=
      { disk := ⟨[(["trace_callgraph.dot"], .file "old"), (["tmp"], .directory),
          (["bin"], .directory), (["bin", "rg"], .program), (["bin", "ctags"], .program),
          (["bin", "cscope"], .program)]⟩
        workdir := []
        environment := []
        react := fun invocation =>
          if invocation.program = ["bin", "rg"] then ⟨[97, 0, 49, 58, 10], [], .exited 0⟩
          else if invocation.program = ["bin", "ctags"] then
            ⟨"\x7b\"kind\":\"function\",\"name\":\"f\",\"line\":1\x7d".toList.map fun c =>
              UInt8.ofNat c.toNat, [], .exited 0⟩
          else ⟨[], [], .exited (if invocation.arguments.head? = some "-b" then 0 else 1)⟩
        completion := id
        started := []
        printed := []
        notices := [] }
    (run ["callgraph", "x"] world).world.started.length = 4 ∧
      (run ["callgraph", "x"] world).output = world.output ∧
      (run ["callgraph", "x"] world).world.disk = world.disk := by
  intro world
  have ended : (run ["callgraph", "x"] world).status ≠ 0 ∧
      (run ["callgraph", "x"] world).world.started.length = 4 := by decide +kernel
  have clean := run_failed ["callgraph", "x"] world
    ⟨.callGraph ⟨some "x", none, .literal⟩ none none, ⟨false, false, false, none⟩, 0⟩ rfl rfl ended.1
  exact ⟨ended.2, clean⟩

end Program

end CallAtlas
