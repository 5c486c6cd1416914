import CallAtlas.CallGraph.Assembly
import CallAtlas.Command.Search

set_option autoImplicit false
set_option relaxedAutoImplicit false

/-!
What steps leave alone.  A view shows a part of the world, and a step keeps the view if the part is
the same afterwards, however the step ends.
-/

namespace CallAtlas

section Steps

variable {α β γ δ : Type} {view : World → β}

/-- A step changes nothing that a view shows. -/
def World.Keeps (view : World → β) (step : StateM World α) : Prop :=
  ∀ world, view (step.run world).2 = view world

theorem World.run_bind (step : StateM World α) (next : α → StateM World γ) (world : World) :
    (step >>= next).run world = (next (step.run world).1).run (step.run world).2 := rfl

namespace World.Keeps

theorem pure (a : α) : Keeps view (Pure.pure a : StateM World α) := fun _ => rfl

theorem get : Keeps view (MonadState.get : StateM World World) := fun _ => rfl

theorem bind {step : StateM World α} {next : α → StateM World γ} (first : Keeps view step)
    (others : ∀ a, Keeps view (next a)) : Keeps view (step >>= next) := fun world =>
  (others (step.run world).1 (step.run world).2).trans (first world)

theorem part (f : β → γ) {step : StateM World α} (kept : Keeps view step) :
    Keeps (fun world => f (view world)) step := fun world => congrArg f (kept world)

end World.Keeps

def Action.Keeps (view : World → β) (action : Action α) : Prop := World.Keeps view action.run

namespace Action.Keeps

theorem pure (a : α) : Keeps view (Pure.pure a : Action α) := fun _ => rfl

theorem ofExcept (result : Except Failure α) : Keeps view (Action.ofExcept result) := fun _ => rfl

theorem fail (message : String) : Keeps view (Action.fail message : Action α) := fun _ => rfl

theorem get : Keeps view (MonadState.get : Action World) := fun _ => rfl

theorem lift {step : StateM World α} (kept : World.Keeps view step) :
    Keeps view (ExceptT.lift step : Action α) := kept

theorem ofTool (context : String) {question : StateM World (Except Tool.Error α)}
    (kept : World.Keeps view question) : Keeps view (Action.ofTool context question) :=
  World.Keeps.bind kept fun answer => by
    cases answer <;> exact World.Keeps.pure _

theorem ofSystem (context : String) {request : StateM World (Except SystemError α)}
    (kept : World.Keeps view request) : Keeps view (Action.ofSystem context request) :=
  World.Keeps.bind kept fun answer => by
    cases answer <;> exact World.Keeps.pure _

theorem bind {action : Action α} {next : α → Action γ} (first : Keeps view action)
    (others : ∀ a, Keeps view (next a)) : Keeps view (action >>= next) := by
  change World.Keeps view (action.run >>= ExceptT.bindCont next)
  refine World.Keeps.bind first fun result => ?_
  cases result with
  | ok a => exact others a
  | error failure => exact World.Keeps.pure _

theorem part (f : β → γ) {action : Action α} (kept : Keeps view action) :
    Keeps (fun world => f (view world)) action := World.Keeps.part f kept

end Action.Keeps

end Steps

section Questions

variable {β : Type} {view : World → β} {services : Services (StateM World)}

structure Services.Keep (view : World → β) (services : Services (StateM World)) : Prop where
  search : ∀ pattern root, World.Keeps view (services.search pattern root)
  tag : ∀ file, World.Keeps view (services.tag file)
  build : ∀ workdir manifest, World.Keeps view (services.build workdir manifest)
  query : ∀ workdir function, World.Keeps view (services.query workdir function)

theorem Occurrence.tabulateFrom_keeps (kept : services.Keep view) (root : Path) (table : Table)
    (entries : List FileHits) : World.Keeps view (tabulateFrom services root table entries) := by
  induction entries generalizing table with
  | nil => exact .pure _
  | cons entry rest ih =>
    rw [tabulateFrom]
    refine (kept.tag entry.file).bind fun answer => ?_
    cases answer with
    | error error => exact .pure _
    | ok records => exact ih _

theorem Occurrence.tabulate_keeps (kept : services.Keep view) (root : Path) (hits : Hits) :
    World.Keeps view (tabulate services root hits) := tabulateFrom_keeps kept root _ hits.files

theorem CallGraph.expand_keeps (kept : services.Keep view) (database : Reference.Database)
    (graph : CallGraph) (functions : List String) :
    World.Keeps view (expand services database graph functions) := by
  induction functions generalizing graph with
  | nil => exact .pure _
  | cons function rest ih =>
    rw [expand]
    refine World.Keeps.bind ?_ fun answer => ?_
    · refine (kept.query database.workdir function).bind fun answer => ?_
      cases answer <;> exact .pure _
    · cases answer with
      | error error => exact .pure _
      | ok calls => exact ih _

end Questions

namespace World

def unnoticed (world : World) : World := { world with notices := [] }

/-- All of a world but what has been started and noticed in it. -/
def scene (world : World) : World := { world with started := [], notices := [] }

section Scenes

variable {world after : World}

theorem disk_eq_of_scene (same : after.scene = world.scene) : after.disk = world.disk := by
  change after.scene.disk = world.scene.disk
  rw [same]

theorem output_eq_of_scene (same : after.scene = world.scene) : after.output = world.output := by
  change after.scene.output = world.scene.output
  rw [same]

theorem workdir_eq_of_scene (same : after.scene = world.scene) :
    after.workdir = world.workdir := by
  change after.scene.workdir = world.scene.workdir
  rw [same]

theorem react_eq_of_scene (same : after.scene = world.scene) : after.react = world.react := by
  change after.scene.react = world.scene.react
  rw [same]

end Scenes

/-- All of a world but what has been printed and noticed in it. -/
def unreported (world : World) : World := { world with printed := [], notices := [] }

theorem notice_keeps (event : Notice) : Keeps unnoticed (notice event) := fun _ => rfl

theorem print_keeps (lines : List String) : Keeps unreported (print lines) := fun _ => rfl

theorem writeFile_run (path : Path) (text : String) (world : World) :
    (writeFile path text).run world =
      match world.disk.write world.workdir path text with
      | .error error => (.error error, world)
      | .ok disk => (.ok (), { world with disk }) := by
  unfold writeFile
  simp only [StateT.run_bind, StateT.run_get, pure_bind]
  cases world.disk.write world.workdir path text <;> rfl

theorem run_keeps (service : Tool.Service) (limit : Option Duration) (command : Command) :
    Keeps scene (run service limit command) := by
  intro world
  unfold run
  simp only [StateT.run_bind, StateT.run_get, pure_bind]
  split
  · rfl
  · split
    · rfl
    · rfl

end World

theorem Toolbox.runChecked_keeps (toolbox : Toolbox) (service : Tool.Service)
    (command : World.Command) : World.Keeps World.scene (toolbox.runChecked service command) :=
  (World.run_keeps service toolbox.limit command).bind fun result => by
    cases result <;> exact .pure _

theorem Services.programs_keep (toolbox : Toolbox) :
    (Services.programs toolbox).Keep World.scene where
  search _ _ := (World.run_keeps _ _ _).bind fun result => by
    cases result <;> exact .pure _
  tag _ := (toolbox.runChecked_keeps _ _).bind fun result => by
    cases result <;> exact .pure _
  build _ _ := (toolbox.runChecked_keeps _ _).bind fun result => by
    cases result <;> exact .pure _
  query _ _ := (toolbox.runChecked_keeps _ _).bind fun result => by
    cases result <;> exact .pure _

theorem Settings.loadOrStandard_keeps : World.Keeps World.unnoticed loadOrStandard := by
  unfold loadOrStandard
  refine World.Keeps.get.bind fun world => ?_
  split
  · exact .pure _
  · exact (World.notice_keeps _).bind fun _ => .pure _

theorem Manner.say_keeps (manner : Manner) (lines : List String) :
    Action.Keeps World.unreported (manner.say lines) := by
  unfold say
  split
  · exact .pure _
  · exact .lift (World.print_keeps lines)

theorem SearchRequest.prepare_keeps (request : SearchRequest) :
    Action.Keeps World.unnoticed request.prepare := by
  unfold prepare
  refine (Action.Keeps.lift Settings.loadOrStandard_keeps).bind fun settings => ?_
  refine Action.Keeps.get.bind fun world => ?_
  refine (Action.Keeps.ofExcept _).bind fun root => ?_
  dsimp only
  split
  · exact .fail _
  · exact .pure _

end CallAtlas
