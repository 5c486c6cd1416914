import CallAtlas.Proofs.World.Disk
import CallAtlas.Proofs.World.Frame
import Mathlib.Data.List.Nodup
import Mathlib.Data.List.Perm.Subperm

set_option autoImplicit false
set_option relaxedAutoImplicit false

namespace CallAtlas

namespace World

variable {disk : Disk} {location other : Location}

theorem isFree_iff :
    isFree disk location = true ↔ ∀ entry ∈ disk.entries, ¬location <+: entry.1 := by
  simp [isFree, ← List.isPrefixOf_iff_prefix]

theorem node?_of_isFree (free : isFree disk location = true) (below : location <+: other)
    (some : other ≠ []) : disk.node? other = none := by
  rw [Disk.node?, if_neg some, List.lookup_eq_none_iff]
  intro entry inside
  rw [bne_iff_ne]
  rintro rfl
  exact isFree_iff.mp free entry inside below

theorem toList_scratchName (number : Nat) :
    (scratchName number).toList = "tracegraph-xref-".toList ++ Text.decimal number := by
  change ("tracegraph-xref-" ++ String.ofList (Text.decimal number)).toList = _
  rw [String.toList_append]
  exact congrArg (_ ++ ·) String.toList_ofList

theorem scratchName_injective : Function.Injective scratchName := by
  intro n m same
  have same := congrArg String.toList same
  rw [toList_scratchName, toList_scratchName] at same
  exact Text.decimal_injective (List.append_cancel_left same)

theorem isName_scratchName (number : Nat) : Disk.IsName (scratchName number) := by
  have slash := Text.notMem_decimal (c := '/') (by decide) number
  have nul := Text.notMem_decimal (c := '\x00') (by decide) number
  unfold Disk.IsName
  rw [toList_scratchName]
  simp [slash, nul]

/-- More names are tried than there are entries, and every entry can take only one of them. -/
theorem exists_isFree (disk : Disk) (directory : Location) :
    ∃ number ∈ List.range (disk.entries.length + 1),
      isFree disk (directory ++ [scratchName number]) = true := by
  by_contra unfree
  let names := (List.range (disk.entries.length + 1)).map scratchName
  have taken : names ⊆ disk.entries.map fun entry => entry.1.getD directory.length "" := by
    intro name tried
    obtain ⟨number, small, rfl⟩ := List.mem_map.mp tried
    have occupied : ¬isFree disk (directory ++ [scratchName number]) = true := fun free =>
      unfree ⟨number, small, free⟩
    rw [isFree_iff] at occupied
    push Not at occupied
    obtain ⟨entry, inside, rest, spelled⟩ := occupied
    exact List.mem_map.mpr ⟨entry, inside, by simp [← spelled]⟩
  have distinct : names.Nodup := List.nodup_range.map scratchName_injective
  have few := (distinct.subperm taken).length_le
  simp only [names, List.length_map, List.length_range] at few
  exact Nat.not_succ_le_self _ few

theorem isFree_freeScratchName (disk : Disk) (directory : Location) :
    ∃ number, freeScratchName disk directory = scratchName number ∧
      isFree disk (directory ++ [scratchName number]) = true := by
  obtain ⟨free, tried, fits⟩ := exists_isFree disk directory
  unfold freeScratchName
  dsimp only
  cases chosen : (List.range (disk.entries.length + 1)).find? fun number =>
      isFree disk (directory ++ [scratchName number]) with
  | none => exact absurd fits (List.find?_eq_none.mp chosen free tried)
  | some number =>
    have free := List.find?_some chosen
    exact ⟨number, rfl, free⟩

/-- A world that differs from an earlier one only in a scratch directory, which a path leads to,
and in what has been started and noticed since. -/
structure InScratch (origin : World) (path : Path) (world : World) : Prop where
  scene : { world with disk := origin.disk }.scene = origin.scene
  place : ∃ location, world.disk.lookup world.workdir path = .ok (location, .directory) ∧
    world.disk.remove location = origin.disk

variable {origin world after : World} {path : Path}

theorem InScratch.of_scene (inside : InScratch origin path world)
    (same : after.scene = world.scene) : InScratch origin path after := by
  refine ⟨?_, ?_⟩
  · rw [← inside.scene]
    exact congrArg (fun world : World => { world with disk := origin.disk }) same
  · rw [disk_eq_of_scene same, workdir_eq_of_scene same]
    exact inside.place

theorem InScratch.remove (inside : InScratch origin path world) :
    ((removeScratch path).run world).2.scene = origin.scene := by
  obtain ⟨location, found, restored⟩ := inside.place
  unfold removeScratch
  simp only [StateT.run_bind, StateT.run_get, pure_bind]
  rw [found]
  dsimp only
  rw [← inside.scene, ← restored]
  rfl

def withScratch (world : World) (location : Location) : World :=
  { world with disk := world.disk.put location .directory }

/-- A place for a scratch directory, which a path leads to once the directory is made. -/
structure IsScratch (world : World) (path : Path) (location : Location) : Prop where
  free : isFree world.disk location = true
  found : (world.withScratch location).disk.lookup world.workdir path = .ok (location, .directory)

theorem createScratch_run (world : World) :
    (∃ cause, createScratch.run world = (.error cause, world)) ∨
      ∃ path location, createScratch.run world = (.ok path, world.withScratch location) ∧
        world.IsScratch path location := by
  rw [createScratch, run_bind, StateT.run_get]
  dsimp only [pure]
  split
  · rename_i directory found
    obtain ⟨number, chosen, free⟩ := isFree_freeScratchName world.disk directory
    have proper := isName_scratchName number
    have place : directory ++ [scratchName number] ≠ [] := by simp
    have vacant := node?_of_isFree free (List.prefix_refl _) place
    rw [chosen, Disk.makeDirectory_join found proper vacant]
    by_cases long : Disk.TooLong world.temporary (scratchName number)
    · rw [if_pos long]
      exact .inl ⟨_, rfl⟩
    · rw [if_neg long]
      refine .inr ⟨_, directory ++ [scratchName number], rfl, free, ?_⟩
      exact Disk.lookup_join (Disk.lookup_within found (Disk.within_put vacant)) proper long
        (Disk.node?_put_self place)
  · exact .inl ⟨_, rfl⟩
  · exact .inl ⟨_, rfl⟩

theorem IsScratch.restored (scratch : world.IsScratch path location) :
    (world.withScratch location).disk.remove location = world.disk := by
  rw [withScratch, Disk.remove_put (List.prefix_refl _),
    Disk.remove_of_free (isFree_iff.mp scratch.free)]

theorem IsScratch.write (scratch : world.IsScratch path location) {name : String}
    (proper : Disk.IsName name) (text : String) :
    InScratch world path ((writeFile (path.join ⟨name⟩) text).run (world.withScratch location)).2 := by
  have below : location <+: location ++ [name] := List.prefix_append _ _
  have vacant : (world.withScratch location).disk.node? (location ++ [name]) = none := by
    rw [withScratch, Disk.node?_put_of_ne (by simp)]
    exact node?_of_isFree scratch.free below (by simp)
  have written := Disk.write_join scratch.found proper vacant text
  have workdir : (world.withScratch location).workdir = world.workdir := rfl
  rw [writeFile_run, workdir, written]
  by_cases long : Disk.TooLong path name
  · rw [if_pos long]
    exact ⟨rfl, location, scratch.found, scratch.restored⟩
  · rw [if_neg long]
    refine ⟨rfl, location, Disk.lookup_within scratch.found (Disk.within_put vacant), ?_⟩
    exact (Disk.remove_put below).trans scratch.restored

end World

section Databases

variable {services : Services (StateM World)} {world : World}

theorem Reference.isName_manifestName : Disk.IsName manifestName.text := by decide

namespace Reference.Database

/-- Whether or not the database can be built, only its directory is left to remove. -/
theorem buildIn_run (kept : services.Keep World.scene) {path : Path} {location : Location}
    (scratch : world.IsScratch path location) (scope : Scope) (column : Column) :
    let ended := (buildIn services Scratch.temporary scope column path).run
      (world.withScratch location)
    World.InScratch world path ended.2 ∧ ∀ database, ended.1 = .ok database →
      database.workdir = path := by
  have inside := scratch.write isName_manifestName scope.manifest
  unfold buildIn
  dsimp only
  rw [World.run_bind]
  cases ((Scratch.temporary.write (path.join manifestName) scope.manifest).run
    (world.withScratch location)).1 with
  | error cause => exact ⟨inside, fun _ built => by cases built⟩
  | ok done =>
    have still := inside.of_scene (kept.build path (path.join manifestName) _)
    dsimp only
    rw [World.run_bind]
    cases ((services.build path (path.join manifestName)).run _).1 with
    | error error => exact ⟨still, fun _ built => by cases built⟩
    | ok done => exact ⟨still, fun _ built => by cases built; rfl⟩

theorem build_run (kept : services.Keep World.scene) (scope : Scope) (column : Column)
    (world : World) :
    let ended := (build services Scratch.temporary scope column).run world
    (∀ error, ended.1 = .error error → ended.2.scene = world.scene) ∧
      ∀ database, ended.1 = .ok database → World.InScratch world database.workdir ended.2 := by
  have creates : Scratch.temporary.create = World.createScratch := rfl
  unfold build
  dsimp only
  rw [World.run_bind, creates]
  rcases world.createScratch_run with ⟨cause, created⟩ | ⟨path, location, created, scratch⟩
  · rw [created]
    exact ⟨fun _ _ => rfl, fun _ built => by cases built⟩
  · obtain ⟨inside, same⟩ := buildIn_run kept scratch scope column
    rw [created]
    dsimp only
    rw [World.run_bind]
    cases result : ((buildIn services Scratch.temporary scope column path).run
      (world.withScratch location)).1 with
    | error error => exact ⟨fun _ _ => inside.remove, fun _ built => by cases built⟩
    | ok database =>
      refine ⟨fun _ failed => (by cases failed), fun _ built => ?_⟩
      cases built
      rw [same database result]
      exact inside

end Reference.Database

theorem CallGraph.assemble_keeps (kept : services.Keep World.scene) (functions : List String)
    (scope : Scope) (column : Reference.Column) :
    World.Keeps World.scene (assemble services Scratch.temporary functions scope column) := by
  intro world
  unfold assemble
  split
  · rfl
  · obtain ⟨failed, opened⟩ := Reference.Database.build_run kept scope column world
    rw [World.run_bind]
    cases built : ((Reference.Database.build services Scratch.temporary scope column).run
      world).1 with
    | error error => exact failed error built
    | ok database =>
      have inside := (opened database built).of_scene (expand_keeps kept database empty functions _)
      exact inside.remove

end Databases

end CallAtlas
