import CallAtlas.Proofs.Command.Failure

set_option autoImplicit false
set_option relaxedAutoImplicit false

/-!
What the manner of output touches.  Quiet or not, plain or coloured, a command asks the same
programs, leaves the same files and ends in the same way; only what it says is different, and it
says it at the end.
-/

namespace CallAtlas

namespace World

def unprinted (world : World) : World := { world with printed := [] }

section Unprinted

variable {world other : World}

theorem started_eq_of_unprinted (same : other.unprinted = world.unprinted) :
    other.started = world.started := by
  change other.unprinted.started = world.unprinted.started
  rw [same]

theorem disk_eq_of_unprinted (same : other.unprinted = world.unprinted) :
    other.disk = world.disk := by
  change other.unprinted.disk = world.unprinted.disk
  rw [same]

end Unprinted

theorem output_append {world other : World} (longer : world.printed <+: other.printed) :
    ∃ more, other.output = world.output ++ more := by
  obtain ⟨rest, printed⟩ := longer
  refine ⟨String.ofList (Text.unlines (rest.map String.toList)), ?_⟩
  rw [output, output, ← printed, List.map_append, Text.unlines_append, String.ofList_append]

end World

namespace Action

variable {α γ : Type} {related : List String → List String → Prop}

/-- Two actions that end alike and leave alike worlds, but for the lines printed in them, which are
related. -/
structure AlikeAt (related : List String → List String → Prop) (one other : Action α)
    (world : World) : Prop where
  result : (other.run.run world).1 = (one.run.run world).1
  rest : (other.run.run world).2.unprinted = (one.run.run world).2.unprinted
  printed : related (one.run.run world).2.printed (other.run.run world).2.printed

def Alike (related : List String → List String → Prop) (one other : Action α) : Prop :=
  ∀ world, AlikeAt related one other world

theorem Alike.refl (reflexive : ∀ lines, related lines lines) (action : Action α) :
    Alike related action action := fun _ => ⟨rfl, rfl, reflexive _⟩

theorem Alike.bind (reflexive : ∀ lines, related lines lines) (first : Action α)
    {one other : α → Action γ} (ends : ∀ a, Alike related (one a) (other a)) :
    Alike related (first >>= one) (first >>= other) := by
  intro world
  cases done : (first.run.run world).1 with
  | error failure =>
    refine ⟨?_, ?_, ?_⟩ <;> rw [run_bind_of_error done, run_bind_of_error done]
    exact reflexive _
  | ok a =>
    obtain ⟨result, rest, printed⟩ := ends a (first.run.run world).2
    refine ⟨?_, ?_, ?_⟩ <;> rw [run_bind_of_ok done, run_bind_of_ok done]
    · exact result
    · exact rest
    · exact printed

theorem say_result (manner : Manner) (lines : List String) (world : World) :
    ((manner.say lines).run.run world).1 = .ok () := by
  unfold Manner.say
  split <;> rfl

theorem say_unprinted (manner : Manner) (lines : List String) (world : World) :
    ((manner.say lines).run.run world).2.unprinted = world.unprinted := by
  unfold Manner.say
  split <;> rfl

theorem say_printed (manner : Manner) (lines : List String) (world : World) :
    ((manner.say lines).run.run world).2.printed =
      world.printed ++ if manner.quiet then [] else lines := by
  unfold Manner.say
  split
  · exact (List.append_nil _).symm
  · rfl

theorem alike_say (one other : Manner) (lines others : List String) :
    Alike (fun _ _ => True) (one.say lines) (other.say others) := fun world =>
  ⟨by rw [say_result, say_result], by rw [say_unprinted, say_unprinted], trivial⟩

/-- Who is quiet says the beginning of what anybody says. -/
theorem alike_say_of_quiet {one : Manner} (quiet : one.quiet = true) (other : Manner)
    (lines others : List String) :
    Alike (fun few many => few <+: many) (one.say lines) (other.say others) := by
  intro world
  refine ⟨by rw [say_result, say_result], by rw [say_unprinted, say_unprinted], ?_⟩
  rw [say_printed, say_printed, quiet, if_pos rfl, List.append_nil]
  exact List.prefix_append _ _

end Action

namespace Command

variable {related : List String → List String → Prop}

theorem run_alike (reflexive : ∀ lines, related lines lines) (one other : Manner)
    (dry : other.dryRun = one.dryRun) (limit : other.seconds = one.seconds)
    (spoken : ∀ lines others, Action.Alike related (one.say lines) (other.say others))
    (command : Command) : Action.Alike related (command.run one) (command.run other) := by
  obtain ⟨quiet, plain, dryRun, seconds⟩ := one
  obtain ⟨quiet', plain', dryRun', seconds'⟩ := other
  obtain rfl : dryRun' = dryRun := dry
  obtain rfl : seconds' = seconds := limit
  -- The programs are the same from here on: their time limit is all that a manner gives them.
  cases command with
  | inventory search =>
    refine .bind reflexive search.prepare fun job => ?_
    cases dryRun' with
    | true => exact spoken _ _
    | false =>
      refine .bind reflexive (job.locate _) fun hits => ?_
      exact .bind reflexive (Action.print _) fun _ => spoken _ _
  | index search byCount =>
    refine .bind reflexive search.prepare fun job => ?_
    cases dryRun' with
    | true => exact spoken _ _
    | false =>
      refine .bind reflexive (job.locate _) fun hits => ?_
      refine .bind reflexive (job.tabulate _ hits) fun table => ?_
      exact .bind reflexive (Action.print _) fun _ => spoken _ _
  | callGraph search limit output =>
    refine .bind reflexive search.prepare fun job => ?_
    cases dryRun' with
    | true => exact spoken _ _
    | false =>
      refine .bind reflexive (job.locate _) fun hits => ?_
      refine .bind reflexive (job.tabulate _ hits) fun table => ?_
      refine .bind reflexive (ExceptT.lift (World.notice _)) fun _ => ?_
      refine .bind reflexive (Action.ofTool _ _) fun graph => ?_
      exact .bind reflexive (Action.ofSystem _ _) fun _ => spoken _ _
  | init directory force =>
    refine .bind reflexive get fun world => ?_
    split
    · exact .refl reflexive _
    · exact .bind reflexive (Action.ofSystem _ _) fun _ => spoken _ _
  | completions shell directory toOutput =>
    refine .bind reflexive get fun world => ?_
    cases toOutput with
    | true => exact .refl reflexive _
    | false =>
      cases directory with
      | none => exact .refl reflexive _
      | some directory =>
        refine .bind reflexive (Action.ofSystem _ _) fun _ => ?_
        exact .bind reflexive (Action.ofSystem _ _) fun _ => spoken _ _

end Command

namespace Program

/-- Two runs that differ only in being quiet or plain start the same programs on the same disks,
leave the same disk and end with the same success or failure; what a quiet one prints is the
beginning of what the other prints. -/
theorem perform_of_output_manner (request : Request) (world : World) (quiet plain : Bool) :
    let other : Request := { request with manner := { request.manner with quiet, plain } }
    (other.perform world).1 = (request.perform world).1 ∧
      (perform other world).status = (perform request world).status ∧
      (perform other world).world.started = (perform request world).world.started ∧
      (perform other world).world.disk = (perform request world).world.disk ∧
      (request.manner.quiet = true →
        ∃ more, (perform other world).output = (perform request world).output ++ more) := by
  intro other
  obtain ⟨result, rest, -⟩ := request.command.run_alike (fun _ => trivial) request.manner
    other.manner rfl rfl (Action.alike_say _ _) world
  have ends : (other.perform world).1 = (request.perform world).1 := result
  rw [world_perform, world_perform]
  refine ⟨ends, ?_, ?_, ?_, ?_⟩
  · unfold perform
    dsimp only
    rw [ends]
    split <;> rfl
  · exact World.started_eq_of_unprinted rest
  · exact World.disk_eq_of_unprinted rest
  · intro silent
    rw [output_perform, output_perform]
    exact World.output_append (request.command.run_alike (fun _ => List.prefix_rfl) request.manner
      other.manner rfl rfl (Action.alike_say_of_quiet silent _) world).printed

/-- A quiet inventory and one that is not: the row is the same, and one of them goes on. -/
theorem perform_of_output_manner_inventory :
    let world : World :=
      { disk := ⟨[(["tmp"], .directory), (["bin"], .directory), (["bin", "rg"], .program)]⟩
        workdir := []
        environment := []
        react := fun _ => ⟨[97, 0, 49, 58, 10], [], .exited 0⟩
        completion := id
        started := []
        printed := []
        notices := [] }
    let silent : Request := ⟨.inventory ⟨some "x", none, .literal⟩, ⟨true, true, false, none⟩, 0⟩
    let loud : Request := ⟨.inventory ⟨some "x", none, .literal⟩, ⟨false, false, false, none⟩, 0⟩
    (perform loud world).world.started = (perform silent world).world.started ∧
      (perform silent world).output = "a\t1\n" ∧
      ∃ more, (perform loud world).output = (perform silent world).output ++ more := by
  intro world silent loud
  obtain ⟨-, -, started, -, longer⟩ := perform_of_output_manner silent world false false
  have row : (perform silent world).output = "a\t1\n" := by decide +kernel
  exact ⟨started, row, longer rfl⟩

end Program

end CallAtlas
