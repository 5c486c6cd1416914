import CallAtlas.Program
import CallAtlas.Proofs.World.Frame

set_option autoImplicit false
set_option relaxedAutoImplicit false

namespace CallAtlas

namespace World

theorem writeFile_keeps_started (path : Path) (text : String) :
    Keeps World.started (writeFile path text) := by
  intro world
  rw [writeFile_run]
  split <;> rfl

theorem makeDirectories_keeps_started (path : Path) :
    Keeps World.started (makeDirectories path) := by
  intro world
  unfold makeDirectories
  simp only [StateT.run_bind, StateT.run_get, pure_bind]
  split <;> rfl

end World

namespace Command

variable {search : SearchRequest} {manner : Manner}

theorem prepared_keeps (dry : manner.dryRun = true) (plan : SearchJob → List String)
    (work : SearchJob → Action Unit) :
    Action.Keeps World.unreported
      (search.prepare >>= fun job => if manner.dryRun then manner.say (plan job) else work job) := by
  refine (search.prepare_keeps.part fun world => { world with printed := [] }).bind fun job => ?_
  rw [if_pos dry]
  exact manner.say_keeps _

theorem runInit_keeps_started (directory : Path) (force : Bool) (manner : Manner) :
    Action.Keeps World.started (runInit directory force manner) := by
  unfold runInit
  refine Action.Keeps.get.bind fun world => ?_
  split
  · exact .fail _
  · refine (Action.Keeps.ofSystem _ (World.writeFile_keeps_started _ _)).bind fun _ => ?_
    exact (manner.say_keeps _).part World.started

theorem runCompletions_keeps_started (shell : Shell) (directory : Option Path) (toOutput : Bool)
    (manner : Manner) :
    Action.Keeps World.started (runCompletions shell directory toOutput manner) := by
  unfold runCompletions
  refine Action.Keeps.get.bind fun world => ?_
  dsimp only
  split
  · exact .lift ((World.print_keeps _).part World.started)
  · split
    · exact .fail _
    · refine (Action.Keeps.ofSystem _ (World.makeDirectories_keeps_started _)).bind fun _ => ?_
      refine (Action.Keeps.ofSystem _ (World.writeFile_keeps_started _ _)).bind fun _ => ?_
      exact (manner.say_keeps _).part World.started

theorem run_keeps_of_searches {command : Command} (searches : command.searches = true)
    (dry : manner.dryRun = true) : Action.Keeps World.unreported (command.run manner) := by
  cases command with
  | inventory search => exact prepared_keeps dry _ _
  | index search byCount => exact prepared_keeps dry _ _
  | callGraph search limit output => exact prepared_keeps dry _ _
  | init directory force => cases searches
  | completions shell directory toOutput => cases searches

theorem run_keeps_started (command : Command) (dry : manner.dryRun = true) :
    Action.Keeps World.started (command.run manner) := by
  cases command with
  | inventory search => exact (run_keeps_of_searches rfl dry).part World.started
  | index search byCount => exact (run_keeps_of_searches rfl dry).part World.started
  | callGraph search limit output => exact (run_keeps_of_searches rfl dry).part World.started
  | init directory force => exact runInit_keeps_started directory force manner
  | completions shell directory toOutput =>
    exact runCompletions_keeps_started shell directory toOutput manner

theorem run_eq_of_not_searches {command : Command} (other : command.searches = false)
    (dryRun : Bool) : command.run { manner with dryRun } = command.run manner := by
  cases command with
  | inventory search => cases other
  | index search byCount => cases other
  | callGraph search limit output => cases other
  | init directory force => rfl
  | completions shell directory toOutput => rfl

end Command

namespace Program

/-- A dry run starts no program.  If the command searches, it also leaves the disk as it is; any
other command does what it does without the switch. -/
theorem run_dry (arguments : List String) (world : World) (request : Request)
    (parsed : CommandLine.parse arguments = .ok request) (dry : request.manner.dryRun = true) :
    (run arguments world).world.started = world.started ∧
      (request.command.searches = true → (run arguments world).world.disk = world.disk) ∧
      (request.command.searches = false →
        run arguments world =
          perform { request with manner := { request.manner with dryRun := false } } world) := by
  rw [run_of_parsed parsed, world_perform]
  refine ⟨?_, ?_, ?_⟩
  · exact request.command.run_keeps_started dry world
  · intro searches
    exact (Command.run_keeps_of_searches searches dry).part World.disk world
  · intro other
    have same : request.command.run { request.manner with dryRun := false } =
        request.command.run request.manner := Command.run_eq_of_not_searches other false
    unfold perform Request.perform
    rw [same]

/-- A dry run of a call graph beside an old one, and one that makes completions. -/
theorem run_dry_beside_old_graph :
    let world : World :=
      ⟨⟨[(["callgraph.dot"], .file "old"), (["bin"], .directory), (["bin", "rg"], .program)]⟩, [],
        [], fun _ => ⟨[], [], .exited 0⟩, id, [], [], []⟩
    (run ["callgraph", "--dry-run", "x"] world).status = 0 ∧
      (run ["callgraph", "--dry-run", "x"] world).world.started = [] ∧
      (run ["callgraph", "--dry-run", "x"] world).world.disk = world.disk ∧
      (run ["completions", "bash", "--dry-run", "--out-dir", "/c"] world).world.started = [] := by
  intro world
  have draws := run_dry ["callgraph", "--dry-run", "x"] world
    ⟨.callGraph ⟨some "x", none, .literal⟩ none none, ⟨false, false, true, none⟩, 0⟩ rfl rfl
  have writes := run_dry ["completions", "bash", "--dry-run", "--out-dir", "/c"] world
    ⟨.completions .bash (some ⟨"/c"⟩) false, ⟨false, false, true, none⟩, 0⟩ rfl rfl
  have status : (run ["callgraph", "--dry-run", "x"] world).status = 0 := by decide +kernel
  exact ⟨status, draws.1, draws.2.1 rfl, writes.1⟩

/-- Not every dry run leaves the disk as it is: one of the command that makes a settings file makes
it. -/
theorem run_dry_init_writes :
    ¬∀ (arguments : List String) (world : World) (request : Request),
      CommandLine.parse arguments = .ok request → request.manner.dryRun = true →
        (run arguments world).world.disk = world.disk := by
  intro unchanged
  let world : World := ⟨⟨[]⟩, [], [], fun _ => ⟨[], [], .exited 0⟩, id, [], [], []⟩
  have same := unchanged ["init", "--dry-run"] world
    ⟨.init ⟨"."⟩ false, ⟨false, false, true, none⟩, 0⟩ rfl rfl
  have made : (run ["init", "--dry-run"] world).world.disk.node? ["tracegraph.toml"] ≠ none := by
    decide +kernel
  rw [same] at made
  exact made rfl

end Program

end CallAtlas
