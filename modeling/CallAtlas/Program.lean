import CallAtlas.Command.Run
import CallAtlas.CommandLine.Parse
import CallAtlas.Log

set_option autoImplicit false
set_option relaxedAutoImplicit false

/-!
The whole program: from its arguments and the world to what it prints and the status it ends with.
Status zero is success, one a failure, and two a refusal of the arguments.
-/

namespace CallAtlas

def Failure.indented (first other message : String) : String :=
  match (Text.pieces '\n' message.toList).map String.ofList with
  | [] => first
  | line :: rest => first ++ line ++ String.join (rest.map fun line => "\n" ++ other ++ line)

/-- The number of a cause, in a column of five. -/
def Failure.causeNumber (number : Nat) : String :=
  let digits := Text.decimal number
  String.ofList (List.replicate (5 - digits.length) ' ' ++ digits) ++ ": "

def Failure.causeLines : List String → String
  | [] => ""
  | [cause] => "\n\nCaused by:\n" ++ indented "    " "    " cause
  | causes =>
    "\n\nCaused by:" ++
      String.join (causes.zipIdx.map fun (cause, number) =>
        "\n" ++ indented (causeNumber number) "       " cause)

def Failure.report (failure : Failure) : String :=
  "Error: " ++ failure.message ++ causeLines failure.causes ++ "\n"

structure Conclusion where
  status : Nat
  output : String
  errors : String
  world : World

namespace Program

def refuse (refusal : CommandLine.Refusal) (world : World) : Conclusion :=
  if refusal.isWanted then ⟨0, refusal.message, "", world⟩
  else ⟨2, "", refusal.message ++ "\n", world⟩

def perform (request : Request) (world : World) : Conclusion :=
  let (result, world) := request.perform world
  let log := Log.lines (Log.filterOf world request.verbosity) world.notices
  let logged := String.join (log.map (· ++ "\n"))
  match result with
  | .ok () => ⟨0, world.output, logged, world⟩
  | .error failure => ⟨1, world.output, logged ++ failure.report, world⟩

def run (arguments : List String) (world : World) : Conclusion :=
  match CommandLine.parse arguments with
  | .error refusal => refuse refusal world
  | .ok request => perform request world

theorem run_of_parsed {arguments : List String} {request : Request}
    (parsed : CommandLine.parse arguments = .ok request) (world : World) :
    run arguments world = perform request world := by
  rw [run, parsed]

section Performed

variable (request : Request) (world : World)

theorem world_perform : (perform request world).world = (request.perform world).2 := by
  unfold perform
  dsimp only
  split <;> rfl

theorem output_perform : (perform request world).output = (request.perform world).2.output := by
  unfold perform
  dsimp only
  split <;> rfl

theorem failed_of_status {request : Request} {world : World}
    (failed : (perform request world).status ≠ 0) :
    ∃ failure, (request.perform world).1 = .error failure := by
  cases result : (request.perform world).1 with
  | ok done =>
    unfold perform at failed
    dsimp only at failed
    rw [result] at failed
    exact absurd rfl failed
  | error failure => exact ⟨failure, rfl⟩

theorem status_of_failed {request : Request} {world : World} {failure : Failure}
    (failed : (request.perform world).1 = .error failure) :
    (perform request world).status = 1 := by
  unfold perform
  dsimp only
  rw [failed]

theorem status_of_done {request : Request} {world : World}
    (done : (request.perform world).1 = .ok ()) : (perform request world).status = 0 := by
  unfold perform
  dsimp only
  rw [done]

end Performed

end Program

end CallAtlas
