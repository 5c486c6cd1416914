import CallAtlas.Proofs.Command.Failure
import CallAtlas.Proofs.Settings.Leaf

set_option autoImplicit false
set_option relaxedAutoImplicit false

namespace CallAtlas

/-- What is a file of its own, neither a directory nor a link to another place. -/
def Node.IsRegular : Node → Prop
  | .file _ | .program => True
  | .directory | .link _ => False

namespace Disk

variable {disk : Disk} {directory : Path} {workdir there : Location} {name text : String}

/-- A place with a regular file or with nothing. -/
def IsPlainAt (disk : Disk) (location : Location) : Prop :=
  ∀ node, disk.node? location = some node → node.IsRegular

theorem IsPlainAt.not_link (plain : disk.IsPlainAt there) (target : String) :
    disk.node? there ≠ some (.link target) := fun linked => plain _ linked

theorem IsPlainAt.not_directory (plain : disk.IsPlainAt there) :
    disk.node? there ≠ some .directory := fun inside => plain _ inside

theorem lookup_name (inside : disk.node? there = some .directory) (proper : IsName name)
    (short : ¬nameMax < name.utf8ByteSize) {node : Node}
    (stands : disk.node? (there ++ [name]) = some node) (solid : ∀ target, node ≠ .link target) :
    disk.lookup there ⟨name⟩ = .ok (there ++ [name], node) := by
  have filled : name ≠ "" := fun empty => proper.1 (by rw [empty]; rfl)
  have fits : ¬pathMax < name.utf8ByteSize := by
    unfold nameMax at short
    unfold pathMax
    omega
  have spelled : steps name = [.down name] := by
    rw [steps, Text.pieces_of_notMem proper.2.1, List.map_singleton, ofPiece_of_isName proper]
  have solid : ∀ target, disk.node? (there ++ [name]) ≠ some (.link target) := by
    intro target linked
    exact solid target (Option.some.inj (stands.symm.trans linked))
  unfold lookup arrive
  rw [Path.text_mk, if_neg (by simp [holdsNul, proper.2.2.1]), if_neg filled,
    if_neg (not_not_intro (Path.isText_mk name)), if_neg fits, spelled,
    not_isAbsolute_of_isName proper, if_neg Bool.false_ne_true, walk_name inside solid,
    if_neg short, stands]

theorem write_join_of_plain (found : disk.lookup workdir directory = .ok (there, .directory))
    (proper : IsName name) (plain : disk.IsPlainAt (there ++ [name])) (text : String) :
    disk.write workdir (directory.join ⟨name⟩) text =
      if TooLong directory name then .error .nameTooLong
      else .ok (disk.put (there ++ [name]) (.file text)) := by
  cases stands : disk.node? (there ++ [name]) with
  | none => exact write_join found proper stands text
  | some node =>
    have arrival := arrive_join found proper true plain.not_link
    have unclosed : (directory.join ⟨name⟩).text.toList.getLast? ≠ some '/' := by
      obtain ⟨-, filled, -⟩ := walk_of_lookup found
      rw [getLast?_join proper filled]
      exact fun slash => proper.2.1 (List.mem_of_getLast? slash)
    unfold write target
    rw [arrival, stands]
    by_cases long : TooLong directory name
    · simp only [if_pos long, if_neg unclosed]
    · cases node with
      | directory => exact absurd stands plain.not_directory
      | file old => simp only [if_neg long]
      | program => simp only [if_neg long]
      | link target => exact absurd stands (plain.not_link target)

theorem node?_of_lookup (found : disk.lookup workdir directory = .ok (there, .directory)) :
    disk.node? there = some .directory := by
  obtain ⟨-, -, -, -, walked⟩ := walk_of_lookup found
  rw [← List.append_nil (steps directory.text)] at walked
  obtain ⟨left, leads, inside⟩ := leads_of_walk (.inl rfl) walked
  exact inside

theorem exists?_join (found : disk.lookup workdir directory = .ok (there, .directory))
    (proper : IsName name) (plain : disk.IsPlainAt (there ++ [name])) :
    disk.exists? workdir (directory.join ⟨name⟩) = true ↔
      ¬TooLong directory name ∧ disk.node? (there ++ [name]) ≠ none := by
  have arrival := arrive_join found proper true plain.not_link
  unfold exists? lookup
  rw [arrival]
  by_cases long : TooLong directory name
  · simp [long, Except.toOption]
  · rw [if_neg long]
    cases disk.node? (there ++ [name]) <;> simp [long, Except.toOption]

end Disk

/-! The file read back. -/

namespace Settings

theorem isName_fileName : Disk.IsName fileName := by decide

/-- No variable of an environment is named like a setting, in whatever letter case. -/
def Unset (environment : List (String × String)) : Prop :=
  ∀ entry ∈ environment,
    (entry.1.toList.take variableStart.length).map Char.toLower ≠ variableStart.toList

instance (environment : List (String × String)) : Decidable (Unset environment) :=
  inferInstanceAs (Decidable (∀ entry ∈ environment, _))

theorem Unset.layer {environment : List (String × String)} (unset : Unset environment) :
    Layer.ofEnvironment environment = [] := by
  rw [Layer.ofEnvironment, List.filterMap_eq_nil_iff]
  intro entry inside
  dsimp only
  rw [keyOfVariable?, if_neg (unset entry inside), Option.map_none]

theorem exists_standardLayer : ∃ layer,
    Layer.read? .toml fileName (fileText standard) = some layer ∧
      ofLayers [layer, []] = .ok standard := by
  have read : (Layer.read? .toml fileName (fileText standard)).map
      (fun layer => (ofLayers [layer, []]).toOption) = some (some standard) := by decide +kernel
  obtain ⟨layer, found, settings⟩ := Option.map_eq_some_iff.mp read
  exact ⟨layer, found, ok_of_toOption settings⟩

def place (there : Location) : Location := there ++ [fileName]

def loadIn (there : Location) (world : World) : Except Failure Settings :=
  load { world with workdir := there }

def putStandard (there : Location) (world : World) : World :=
  { world with disk := world.disk.put (place there) (.file (fileText standard)) }

theorem loadIn_of_unreported {world after : World} (there : Location)
    (same : after.unreported = world.unreported) : loadIn there after = loadIn there world := by
  change loadIn there after.unreported = loadIn there world.unreported
  rw [same]

/-- Where the standard settings are written they are loaded, whatever other settings files there
are. -/
theorem loadIn_putStandard {world : World} {there : Location}
    (inside : world.disk.node? there = some .directory) (unset : Unset world.environment) :
    loadIn there (putStandard there world) = .ok standard := by
  have written : (putStandard there world).disk.node? (there ++ [fileName]) =
      some (.file (fileText standard)) := Disk.node?_put_self (by simp [place])
  have still : (putStandard there world).disk.node? there = some .directory := by
    have apart : there ≠ place there := fun same => by simpa [place] using congrArg List.length same
    exact (Disk.node?_put_of_ne apart).trans inside
  have found := Disk.lookup_name still isName_fileName (by decide) written (by simp)
  have first : file? { putStandard there world with workdir := there } =
      some (fileName, .toml) := by
    rw [file?, files, List.find?_cons_of_pos]
    rw [Disk.exists?, found]
    rfl
  obtain ⟨layer, read, settings⟩ := exists_standardLayer
  have layered : fileLayer? { putStandard there world with workdir := there } = some layer := by
    rw [fileLayer?, first]
    dsimp only
    rw [Disk.read, found]
    exact read
  have none : Layer.ofEnvironment (putStandard there world).environment = [] := unset.layer
  rw [loadIn, load, layered]
  dsimp only
  rw [none, settings]

end Settings

/-! The command. -/

namespace Command

variable {directory : Path} {force : Bool} {manner : Manner} {world : World} {there : Location}

/-- The command ends in one of three ways: it finds a file that it may not overwrite, it cannot
write the file, or it writes it. -/
theorem runInit_run :
    (runInit directory force manner).run.run world =
      let file := directory.join ⟨Settings.fileName⟩
      if world.disk.exists? world.workdir file && !force then
        (.error (Failure.plain
          ("Config file already exists at " ++ file.text ++ ". Use --force to overwrite.")), world)
      else
        match world.disk.write world.workdir file (Settings.fileText Settings.standard) with
        | .error error => (.error (Failure.ofSystem "Failed to write config file" error), world)
        | .ok disk =>
          (manner.say ["Created config file at " ++ file.text]).run.run { world with disk } := by
  unfold runInit
  dsimp only
  rw [Action.run_bind_of_ok (a := world) rfl]
  split
  · rfl
  · have write := Action.writeFile_run "Failed to write config file"
      (directory.join ⟨Settings.fileName⟩) (Settings.fileText Settings.standard) world
    cases written : world.disk.write world.workdir (directory.join ⟨Settings.fileName⟩)
        (Settings.fileText Settings.standard) with
    | error error =>
      rw [written] at write
      exact (Action.run_bind_of_error (congrArg Prod.fst write)).trans
        (congrArg (Prod.mk _) (congrArg Prod.snd write))
    | ok disk =>
      rw [written] at write
      refine (Action.run_bind_of_ok (congrArg Prod.fst write)).trans ?_
      exact congrArg _ (congrArg Prod.snd write)

/-- The settings file of a directory can be made: its path is not too long, and there is no such
file or it may be overwritten. -/
def MayInit (directory : Path) (force : Bool) (there : Location) (world : World) : Prop :=
  ¬Disk.TooLong directory Settings.fileName ∧
    (world.disk.node? (Settings.place there) = none ∨ force = true)

theorem refused_iff (force : Bool)
    (leads : world.disk.lookup world.workdir directory = .ok (there, .directory))
    (plain : world.disk.IsPlainAt (Settings.place there)) :
    (world.disk.exists? world.workdir (directory.join ⟨Settings.fileName⟩) && !force) = true ↔
      ¬Disk.TooLong directory Settings.fileName ∧ ¬MayInit directory force there world := by
  have old := Disk.exists?_join leads Settings.isName_fileName plain
  rw [Bool.and_eq_true, old, MayInit, Settings.place]
  cases force with
  | false =>
    simp only [Bool.not_false, Bool.false_eq_true, or_false, and_true]
    tauto
  | true => simp

theorem runInit_of_mayInit (manner : Manner)
    (leads : world.disk.lookup world.workdir directory = .ok (there, .directory))
    (plain : world.disk.IsPlainAt (Settings.place there))
    (may : MayInit directory force there world) :
    ((runInit directory force manner).run.run world).1 = .ok () ∧
      ((runInit directory force manner).run.run world).2.unreported =
        (Settings.putStandard there world).unreported := by
  have passed := mt (refused_iff force leads plain).mp fun refused => refused.2 may
  have written := Disk.write_join_of_plain leads Settings.isName_fileName plain
    (Settings.fileText Settings.standard)
  rw [if_neg may.1] at written
  have carried : (runInit directory force manner).run.run world =
      (manner.say ["Created config file at " ++ (directory.join ⟨Settings.fileName⟩).text]).run.run
        (Settings.putStandard there world) := by
    rw [runInit_run]
    dsimp only
    rw [if_neg passed, written]
    rfl
  rw [carried]
  exact ⟨(Action.succeeds_say manner _ _).choose_spec, manner.say_keeps _ _⟩

theorem runInit_of_not_mayInit (manner : Manner)
    (leads : world.disk.lookup world.workdir directory = .ok (there, .directory))
    (plain : world.disk.IsPlainAt (Settings.place there))
    (may : ¬MayInit directory force there world) :
    ∃ failure, (runInit directory force manner).run.run world = (.error failure, world) := by
  rw [runInit_run]
  dsimp only
  by_cases long : Disk.TooLong directory Settings.fileName
  · have written := Disk.write_join_of_plain leads Settings.isName_fileName plain
      (Settings.fileText Settings.standard)
    have passed := mt (refused_iff force leads plain).mp fun refused => refused.1 long
    rw [if_neg passed, written, if_pos long]
    exact ⟨_, rfl⟩
  · rw [if_pos ((refused_iff force leads plain).mpr ⟨long, may⟩)]
    exact ⟨_, rfl⟩

end Command

namespace Program

/-- The command that makes a settings file succeeds in a directory unless the path of the file is
too long, or there is such a file and it may not be overwritten.  If it succeeds, it changes nothing
but this file, and without variables for settings the standard settings are loaded there, whatever
the other files say.  If it fails, the disk is as it was and so is what is loaded. -/
theorem run_init (arguments : List String) (world : World) (directory : Path) (there : Location)
    (force : Bool) (manner : Manner) (verbosity : Nat)
    (parsed : CommandLine.parse arguments = .ok ⟨.init directory force, manner, verbosity⟩)
    (leads : world.disk.lookup world.workdir directory = .ok (there, .directory))
    (plain : world.disk.IsPlainAt (Settings.place there)) :
    let ended := run arguments world
    (ended.status = 0 ↔
      ¬Disk.TooLong directory Settings.fileName ∧
        (world.disk.node? (Settings.place there) = none ∨ force = true)) ∧
    (ended.status = 0 →
      (∀ other ≠ Settings.place there,
        ended.world.disk.node? other = world.disk.node? other) ∧
      (Settings.Unset world.environment →
        Settings.loadIn there ended.world = .ok Settings.standard)) ∧
    (ended.status ≠ 0 →
      ended.world.disk = world.disk ∧
      Settings.loadIn there ended.world = Settings.loadIn there world) := by
  intro ended
  have same : ended = perform ⟨.init directory force, manner, verbosity⟩ world :=
    run_of_parsed parsed world
  have after : ended.world = ((Command.runInit directory force manner).run.run world).2 := by
    rw [same, world_perform]
    rfl
  by_cases may : Command.MayInit directory force there world
  · obtain ⟨done, kept⟩ := Command.runInit_of_mayInit manner leads plain may
    rw [← after] at kept
    have success : ended.status = 0 := by
      rw [same]
      exact status_of_done done
    refine ⟨iff_of_true success may, fun _ => ⟨?_, ?_⟩, fun failed => absurd success failed⟩
    · intro other apart
      have disk : ended.world.disk = (Settings.putStandard there world).disk := by
        change ended.world.unreported.disk = (Settings.putStandard there world).unreported.disk
        rw [kept]
      rw [disk]
      exact Disk.node?_put_of_ne apart
    · intro unset
      rw [Settings.loadIn_of_unreported there kept]
      exact Settings.loadIn_putStandard (Disk.node?_of_lookup leads) unset
  · obtain ⟨failure, stopped⟩ := Command.runInit_of_not_mayInit manner leads plain may
    have failed : ended.status = 1 := by
      rw [same]
      exact status_of_failed (congrArg Prod.fst stopped)
    have failed : ended.status ≠ 0 := by omega
    have unchanged : ended.world = world := after.trans (congrArg Prod.snd stopped)
    refine ⟨iff_of_false failed may, fun success => absurd success failed, fun _ => ?_⟩
    rw [unchanged]
    exact ⟨rfl, rfl⟩

/-- Beside an old file the command fails, and what is loaded stays; on demand it replaces the file.
In a directory with broken files of other names it succeeds at once. -/
theorem run_init_beside_others :
    let old : World :=
      { disk := ⟨[(["p"], .directory), (["p", "tracegraph.toml"], .file "pattern = \"a\""),
          (["p", "tracegraph.yaml"], .file "pattern: b"), (["q"], .directory),
          (["q", "tracegraph.json"], .file "\x7b"),
          (["q", ".tracegraph.toml"], .file "pattern = 1")]⟩
        workdir := []
        environment := [("TRACEGRAPH_", "x")]
        react := fun _ => ⟨[], [], .hanging⟩
        completion := id
        started := []
        printed := []
        notices := [] }
    (run ["init", "p"] old).status ≠ 0 ∧
      (Settings.loadIn ["p"] (run ["init", "p"] old).world).toOption.map Settings.pattern =
        some "a" ∧
      (run ["init", "p", "--force"] old).status = 0 ∧
      Settings.loadIn ["p"] (run ["init", "p", "--force"] old).world = .ok Settings.standard ∧
      (run ["init", "q"] old).status = 0 ∧
      Settings.loadIn ["q"] (run ["init", "q"] old).world = .ok Settings.standard := by
  intro old
  have file : old.disk.IsPlainAt (Settings.place ["p"]) := by
    have found : old.disk.node? (Settings.place ["p"]) = some (.file "pattern = \"a\"") := rfl
    intro node stands
    cases found.symm.trans stands
    trivial
  have free : old.disk.IsPlainAt (Settings.place ["q"]) := fun _ stands => nomatch stands
  have unset : Settings.Unset old.environment := by decide
  have kept := run_init ["init", "p"] old ⟨"p"⟩ ["p"] false ⟨false, false, false, none⟩ 0 rfl rfl
    file
  have forced := run_init ["init", "p", "--force"] old ⟨"p"⟩ ["p"] true
    ⟨false, false, false, none⟩ 0 rfl rfl file
  have fresh := run_init ["init", "q"] old ⟨"q"⟩ ["q"] false ⟨false, false, false, none⟩ 0 rfl rfl
    free
  have failed : (run ["init", "p"] old).status ≠ 0 := mt kept.1.mp (by decide)
  have replaced := forced.1.mpr (by decide)
  have made := fresh.1.mpr (by decide)
  refine ⟨failed, ?_, replaced, (forced.2.1 replaced).2 unset, made, (fresh.2.1 made).2 unset⟩
  rw [(kept.2.2 failed).2]
  decide +kernel

end Program

end CallAtlas
