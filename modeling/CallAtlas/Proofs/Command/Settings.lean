import CallAtlas.Command.Run
import CallAtlas.Proofs.Settings.Precedence

set_option autoImplicit false
set_option relaxedAutoImplicit false

namespace CallAtlas

open Settings (Leaf)

namespace Settings

/-- What the arguments of a command give of its settings. -/
structure Flags where
  pattern : Option String
  root : Option Path
  limit : Option Nat
  output : Option Path
  seconds : Option Nat

def Leaf.flag? : (leaf : Leaf) → Flags → Option leaf.Content
  | .pattern, flags => flags.pattern
  | .root, flags => flags.root.map some
  | .search, _ => none
  | .tags, _ => none
  | .crossReference, _ => none
  | .seconds, flags => flags.seconds
  | .column, _ => none
  | .limit, flags => flags.limit
  | .output, flags => flags.output

def Flags.onto (flags : Flags) (settings : Settings) : Settings :=
  ofContents fun leaf => (leaf.flag? flags).getD (leaf.get settings)

theorem Flags.get_onto (flags : Flags) (settings : Settings) (leaf : Leaf) :
    leaf.get (flags.onto settings) = (leaf.flag? flags).getD (leaf.get settings) :=
  get_ofContents _ leaf

/-- What a setting is by the flag, the variable and the raw value in the file that there are for
it. -/
def Leaf.Resolved (leaf : Leaf) (flag : Option leaf.Content) (given : Option String)
    (raw : Option (String × Value)) (content : leaf.Content) : Prop :=
  match flag with
  | some wanted => content = wanted
  | none => leaf.Layered given raw content

end Settings

def SearchJob.ready (settings : Settings) (root : Option Path) (pattern : String)
    (mode : SearchMode) : Action SearchJob := do
  let root ← Action.ofExcept (Root.resolve (← get) root settings.root)
  if pattern = "" then Action.fail "Search pattern must not be empty"
  else pure ⟨settings, root, pattern, mode⟩

namespace Command

open Settings (Fits Flags Group Shape Touched)

def flags (manner : Manner) : Command → Flags
  | .inventory search => ⟨search.pattern, search.root, none, none, manner.seconds⟩
  | .index search _ => ⟨search.pattern, search.root, none, none, manner.seconds⟩
  | .callGraph search limit output =>
    ⟨search.pattern, search.root, limit, output, manner.seconds⟩
  | .init _ _ => ⟨none, none, none, none, manner.seconds⟩
  | .completions _ _ _ => ⟨none, none, none, none, manner.seconds⟩

/-- A command that searches, under settings alone; whatever its arguments give of them does not
count. -/
def runWith (used : Settings) (manner : Manner) : Command → Action Unit
  | .inventory search => do
    let job ← SearchJob.ready used none used.pattern search.mode
    if manner.dryRun then
      manner.say (job.planHead "count occurrences per file" ++
        ["  Search tool: " ++ used.tools.search])
    else do
      let hits ← job.locate (job.services { manner with seconds := none })
      let counts := Inventory.ofHits job.root hits
      Action.print (counts.entries.map inventoryRow)
      manner.say [totalLine "files" job.pattern counts.size]
  | .index search byCount => do
    let job ← SearchJob.ready used none used.pattern search.mode
    if manner.dryRun then
      manner.say (job.planHead "index" ++
        ["  Search tool: " ++ used.tools.search, "  Tag tool: " ++ used.tools.tags])
    else do
      let services := job.services { manner with seconds := none }
      let hits ← job.locate services
      let table ← job.tabulate services hits
      Action.print ((if byCount then table.byCount else table.entries).map indexRow)
      manner.say [totalLine "(file, function) pairs" job.pattern table.size]
  | .callGraph search _ _ => do
    let job ← SearchJob.ready used none used.pattern search.mode
    let output := used.graph.output
    if manner.dryRun then manner.say (callGraphPlan job used.graph.limit output manner)
    else do
      let services := job.services { manner with seconds := none }
      let hits ← job.locate services
      let table ← job.tabulate services hits
      let chosen := Occurrence.select table job.root used.graph.limit
      ExceptT.lift (World.notice (.expanding chosen.functions.length chosen.scope.size))
      let graph ← Action.ofTool "Failed to assemble call graph"
        (CallGraph.assemble services Scratch.temporary chosen.functions chosen.scope
          used.tools.column)
      Action.ofSystem ("Failed to write " ++ output.text) (World.writeFile output graph.dot)
      let mark := if manner.plain then "" else manner.coloured "32" "✓" ++ " "
      manner.say [mark ++ "wrote " ++ output.text]
  | command => command.run manner

section Runs

variable {world next : World} {manner : Manner} {settings : Settings}

theorem run_ready_bind (root : Option Path) (pattern : String) (mode : SearchMode)
    (rest : SearchJob → Action Unit) :
    (SearchJob.ready settings root pattern mode >>= rest).run.run world =
      match Root.resolve world none (root.or settings.root) with
      | .error failure => (.error failure, world)
      | .ok root =>
        if pattern = "" then (.error (Failure.plain "Search pattern must not be empty"), world)
        else (rest ⟨settings, root, pattern, mode⟩).run.run world := by
  have start : (SearchJob.ready settings root pattern mode >>= rest).run.run world =
      (((do
        let root ← Action.ofExcept (Root.resolve world none (root.or settings.root))
        if pattern = "" then Action.fail "Search pattern must not be empty"
        else pure ⟨settings, root, pattern, mode⟩) : Action SearchJob) >>=
          rest).run.run world := rfl
  rw [start]
  cases Root.resolve world none (root.or settings.root) with
  | error failure => rfl
  | ok root =>
    by_cases empty : pattern = ""
    · simp only [if_pos empty]
      rfl
    · simp only [if_neg empty]
      rfl

/-- A search that is prepared is ready with the settings that were loaded; it may as well be ready
with the flags in them. -/
theorem run_prepare_bind (request : SearchRequest) (flags : Flags)
    (pattern : flags.pattern = request.pattern) (root : flags.root = request.root)
    (loaded : Settings.loadOrStandard.run world = (settings, next))
    {rest alone : SearchJob → Action Unit}
    (same : ∀ root pattern, rest ⟨settings, root, pattern, request.mode⟩ =
      alone ⟨flags.onto settings, root, pattern, request.mode⟩) :
    let used := flags.onto settings
    (request.prepare >>= rest).run.run world =
      (SearchJob.ready used none used.pattern request.mode >>= alone).run.run next := by
  intro used
  have prepared : (request.prepare >>= rest).run.run world =
      (SearchJob.ready (Settings.loadOrStandard.run world).1 request.root
        (request.pattern.getD (Settings.loadOrStandard.run world).1.pattern) request.mode >>=
          rest).run.run (Settings.loadOrStandard.run world).2 := rfl
  have place : used.root = request.root.or settings.root := by
    change (flags.root.map some).getD settings.root = request.root.or settings.root
    rw [← root]
    cases flags.root <;> rfl
  have text : used.pattern = request.pattern.getD settings.pattern := by
    change flags.pattern.getD settings.pattern = request.pattern.getD settings.pattern
    rw [pattern]
  rw [prepared, loaded, run_ready_bind, run_ready_bind, text, ← place]
  simp only [same]
  rfl

theorem run_eq_runWith {command : Command} (searches : command.searches = true)
    (loaded : Settings.loadOrStandard.run world = (settings, next)) :
    (command.run manner).run.run world =
      (command.runWith ((command.flags manner).onto settings) manner).run.run next := by
  obtain ⟨quiet, plain, dryRun, seconds⟩ := manner
  -- A flag that is there decides on both sides, and one that is not leaves both to the settings.
  cases command with
  | inventory search =>
    refine run_prepare_bind search _ rfl rfl loaded fun root pattern => ?_
    cases seconds <;> rfl
  | index search byCount =>
    refine run_prepare_bind search _ rfl rfl loaded fun root pattern => ?_
    cases seconds <;> rfl
  | callGraph search limit output =>
    refine run_prepare_bind search _ rfl rfl loaded fun root pattern => ?_
    cases seconds <;> cases limit <;> cases output <;> rfl
  | init directory force => cases searches
  | completions shell directory toOutput => cases searches

theorem loadOrStandard_of_ok (loaded : Settings.load world = .ok settings) :
    Settings.loadOrStandard.run world = (settings, world) := by
  unfold Settings.loadOrStandard
  simp only [StateT.run_bind, StateT.run_get, pure_bind, loaded]
  rfl

theorem loadOrStandard_of_error {failure : Failure}
    (failed : Settings.load world = .error failure) :
    (Settings.loadOrStandard.run world).1 = Settings.standard := by
  unfold Settings.loadOrStandard
  simp only [StateT.run_bind, StateT.run_get, pure_bind, failed]
  rfl

end Runs

/-- A command that searches uses one complete set of settings and nothing else of them.  If none are
loaded, each of these is what a flag gives or else the standard one.  If some are loaded, each is
what a flag gives, else what a variable says, else what is left of the file, else the standard one;
and variables for one setting change no other, unless a list stands for the table of both. -/
theorem run_of_layers {command : Command} (searches : command.searches = true) (manner : Manner)
    (world : World) :
    let flags := command.flags manner
    let environment := world.environment
    ∃ used : Settings,
      (command.run manner).run.run world =
        (command.runWith used manner).run.run (Settings.loadOrStandard.run world).2 ∧
      (∀ failure, Settings.load world = .error failure → ∀ leaf : Leaf,
        leaf.get used = (leaf.flag? flags).getD (leaf.get Settings.standard)) ∧
      ∀ layer, Settings.fileLayer? world = some layer → Fits environment →
        let fields := layer.onto []
        ((∃ settings, Settings.load world = .ok settings) ↔
          (∀ group : Group, group.shape fields = .scalar → Touched environment group.name) ∧
          ∀ leaf : Leaf, ∃ content,
            leaf.Layered (leaf.given? environment) (leaf.left? environment fields) content) ∧
        ∀ settings, Settings.load world = .ok settings →
          (∀ leaf : Leaf, leaf.Resolved (leaf.flag? flags) (leaf.given? environment)
            (leaf.left? environment fields) (leaf.get used)) ∧
          ∀ (other : List (String × String)) (leaf : Leaf) (changed : Settings),
            Fits other →
            (∀ any ≠ leaf, any.given? other = any.given? environment) →
            Settings.load { world with environment := other } = .ok changed →
            ∀ third ≠ leaf,
              ¬(third.top = leaf.top ∧ Shape.of (fields.lookup leaf.top) = .list) →
              third.get changed = third.get settings := by
  intro flags environment
  refine ⟨flags.onto (Settings.loadOrStandard.run world).1, run_eq_runWith searches rfl, ?_, ?_⟩
  · intro failure failed leaf
    rw [flags.get_onto, loadOrStandard_of_error failed]
  · intro layer file fits fields
    have read (settings : Settings) := @Settings.load_eq_ok_of_file world layer file settings
    refine ⟨?_, ?_⟩
    · simp only [read]
      exact fits.ofFields_succeeds
    · intro settings loaded
      refine ⟨fun leaf => ?_, ?_⟩
      · rw [flags.get_onto, loadOrStandard_of_ok loaded]
        cases flag : leaf.flag? flags with
        | some wanted => rfl
        | none => exact (fits.ofFields_eq_ok.mp ((read settings).mp loaded)).2 leaf
      · intro other leaf changed fitsOther same loadedOther third different free
        let beside : World := { world with environment := other }
        have fileBeside : Settings.fileLayer? beside = some layer := file
        have readOther := (Settings.load_eq_ok_of_file fileBeside).mp loadedOther
        exact Settings.get_eq_of_given?_eq fits fitsOther ((read settings).mp loaded) readOther
          different same free

/-- A call graph with two settings from its flags, two from the environment, one from the file and
the rest standard. -/
theorem run_of_layers_four_sources :
    let world : World :=
      { disk := ⟨[(["tracegraph.toml"], .file "[tools]\nsearch = 'mine'\ntags = 'hers'\n")]⟩
        workdir := []
        environment := [("TRACEGRAPH__TOOLS__TAGS", "ct"), ("TRACEGRAPH__CALLGRAPH__LIMIT", "5")]
        react := fun _ => ⟨[], [], .exited 0⟩
        completion := id
        started := []
        printed := []
        notices := [] }
    let command : Command := .callGraph ⟨some "f", none, .literal⟩ none none
    let manner : Manner := ⟨false, false, true, some 7⟩
    ∃ used : Settings,
      (command.run manner).run.run world = (command.runWith used manner).run.run world ∧
        used.pattern = "f" ∧ used.tools.seconds = 7 ∧ used.tools.tags = "ct" ∧
        used.graph.limit = 5 ∧ used.tools.search = "mine" ∧
        used.tools.crossReference = "cscope" := by
  intro world command manner
  have silent : ∀ leaf ∈ Leaf.all, leaf ≠ .tags → leaf ≠ .limit →
      leaf.given? world.environment = none := by decide
  have tags : Leaf.tags.given? world.environment = some "ct" := by decide
  have limit : Leaf.limit.given? world.environment = some "5" := by decide
  have known : Settings.Known world.environment := by
    intro entry inside
    rcases List.mem_cons.mp inside with rfl | inside
    · exact .inr ⟨.tags, by decide⟩
    · obtain rfl := List.mem_singleton.mp inside
      exact .inr ⟨.limit, by decide⟩
  have fits : Fits world.environment := by
    refine ⟨known, fun leaf text given => ?_⟩
    by_cases first : leaf = .tags
    · subst first
      obtain rfl := Option.some.inj (tags.symm.trans given)
      exact ⟨by decide, by decide, by decide⟩
    · by_cases second : leaf = .limit
      · subst second
        obtain rfl := Option.some.inj (limit.symm.trans given)
        exact ⟨5, by decide⟩
      · cases (silent leaf leaf.mem_all first second).symm.trans given
  let layer := (Settings.fileLayer? world).getD []
  have file : Settings.fileLayer? world = some layer := by
    have readable : (Settings.fileLayer? world).isSome = true := by decide +kernel
    obtain ⟨found, h⟩ := Option.isSome_iff_exists.mp readable
    rw [h, show layer = found by simp [layer, h]]
  obtain ⟨settings, loaded⟩ : ∃ settings, Settings.load world = .ok settings := by
    have ok : (Settings.load world).toOption.isSome = true := by decide +kernel
    obtain ⟨settings, h⟩ := Option.isSome_iff_exists.mp ok
    exact ⟨settings, Settings.ok_of_toOption h⟩
  obtain ⟨used, ran, -, layers⟩ := @run_of_layers command rfl manner world
  obtain ⟨resolved, -⟩ := (layers layer file fits).2 settings loaded
  rw [loadOrStandard_of_ok loaded] at ran
  have pattern : used.pattern = "f" := resolved .pattern
  have seconds : used.tools.seconds = 7 := resolved .seconds
  have tagProgram : used.tools.tags = "ct" := by
    have said := resolved .tags
    rw [tags] at said
    exact (Option.some.inj said).symm
  have size : used.graph.limit = 5 := by
    have said := resolved .limit
    rw [limit] at said
    exact (Option.some.inj said).symm
  have search : used.tools.search = "mine" := by
    have kept := resolved .search
    rw [silent .search (by decide) (by decide) (by decide)] at kept
    exact Leaf.ReadsAs.unique kept (Settings.ok_of_toOption (by decide +kernel))
  have crossReference : used.tools.crossReference = "cscope" := by
    have kept := resolved .crossReference
    rw [silent .crossReference (by decide) (by decide) (by decide)] at kept
    exact Leaf.ReadsAs.unique kept (Settings.ok_of_toOption (by decide +kernel))
  exact ⟨used, ran, pattern, seconds, tagProgram, size, search, crossReference⟩

end Command

end CallAtlas
