import CallAtlas.Proofs.World.Frame

set_option autoImplicit false
set_option relaxedAutoImplicit false

/-!
What becomes of a program that a service is asked with, and what the service makes of it.  All four
services make the same of the same fate; they differ in the exit statuses that they accept and in
what they read from the output.
-/

namespace CallAtlas

/-- What became of a program: the files for its output could not be made, it could not be started,
the time limit expired, or it ended, with an exit status if no signal ended it, and left its
output. -/
inductive Fate
  | unspooled (cause : SystemError)
  | unstarted (cause : SystemError)
  | expired (limit : Duration)
  | ended (status : Option Int) (output errors : List UInt8)

/-- What becomes of a program that was started; one that hangs without a time limit is waited for
until a signal ends it. -/
def Fate.ofReaction (limit : Option Duration) (reaction : Reaction) : Fate :=
  match reaction.ending, limit with
  | .exited status, _ => .ended (some ((status % 256 : Nat) : Int)) reaction.output reaction.errors
  | .signalled _, _ => .ended none reaction.output reaction.errors
  | .hanging, some limit => .expired limit
  | .hanging, none => .ended none reaction.output reaction.errors

def World.fate (world : World) (limit : Option Duration) (command : World.Command) : Fate :=
  match world.spoolFault? with
  | some cause => .unspooled cause
  | none =>
    match world.invocation command with
    | .error cause => .unstarted cause
    | .ok invocation => .ofReaction limit (world.react invocation)

def World.begin (world : World) (command : World.Command) : World :=
  match world.spoolFault?, world.invocation command with
  | none, .ok invocation => { world with started := world.started ++ [invocation] }
  | _, _ => world

/-- The exit statuses that a service accepts: zero, and for the search also one. -/
def Tool.Service.Accepts (service : Tool.Service) (status : Int) : Prop :=
  status = 0 ∨ service = .search ∧ status = 1

instance (service : Tool.Service) (status : Int) : Decidable (service.Accepts status) :=
  inferInstanceAs (Decidable (_ ∨ _))

/-- The answer of a service tells the fate of its program.  It is what is read from the decoded
output if the program ended with a status that the service accepts, and else the one error, under
the name of the service, that stands for the fate. -/
structure Fate.Answered {α : Type} (fate : Fate) (service : Tool.Service) (read : Int → String → α)
    (answer : Except Tool.Error α) : Prop where
  ok : ∀ a, answer = .ok a ↔ ∃ status output errors,
    fate = .ended (some status) output errors ∧ service.Accepts status ∧
      a = read status (Text.decodeLossy output)
  failed : ∀ named status diagnostic, answer = .error ⟨named, .failed status diagnostic⟩ ↔
    named = service ∧ ∃ output errors, fate = .ended status output errors ∧
      (∀ n, status = some n → ¬service.Accepts n) ∧ diagnostic = Text.decodeLossy errors
  unavailable : ∀ named cause, answer = .error ⟨named, .unavailable cause⟩ ↔
    named = service ∧ fate = .unstarted cause
  timedOut : ∀ named limit, answer = .error ⟨named, .timedOut limit⟩ ↔
    named = service ∧ fate = .expired limit
  workspace : ∀ named cause, answer = .error ⟨named, .workspace cause⟩ ↔
    named = service ∧ fate = .unspooled cause

theorem Fate.Answered.isTimeout_iff {α : Type} {fate : Fate} {service : Tool.Service}
    {read : Int → String → α} {answer : Except Tool.Error α}
    (answered : fate.Answered service read answer) :
    (∃ error, answer = .error error ∧ error.isTimeout = true) ↔ ∃ limit, fate = .expired limit := by
  constructor
  · rintro ⟨⟨named, fault⟩, failed, timeout⟩
    cases fault with
    | timedOut limit => exact ⟨limit, ((answered.timedOut named limit).mp failed).2⟩
    | failed status diagnostic => cases timeout
    | unavailable cause => cases timeout
    | workspace cause => cases timeout
  · rintro ⟨limit, expired⟩
    exact ⟨_, (answered.timedOut service limit).mpr ⟨rfl, expired⟩, rfl⟩

/-- A question that starts the program of a command and nothing else, and whose answer tells the
fate of the program. -/
structure World.Asks {α : Type} (service : Tool.Service) (limit : Option Duration)
    (command : World.Command) (read : Int → String → α)
    (question : StateM World (Except Tool.Error α)) : Prop where
  answered : ∀ world : World,
    (world.fate limit command).Answered service read (question.run world).1
  after : ∀ world : World, (question.run world).2 = world.begin command

namespace Fate

variable {α : Type} {service : Tool.Service} {read : Int → String → α}

def outcome (service : Tool.Service) : Fate → Except Tool.Error World.Outcome
  | .unspooled cause => .error ⟨service, .workspace cause⟩
  | .unstarted cause => .error ⟨service, .unavailable cause⟩
  | .expired limit => .error ⟨service, .timedOut limit⟩
  | .ended status output errors =>
    .ok ⟨status, Text.decodeLossy output, Text.decodeLossy errors⟩

def judge (service : Tool.Service) (read : Int → String → α) (outcome : World.Outcome) :
    Except Tool.Error α :=
  match outcome.status with
  | none => .error (outcome.failure service)
  | some status =>
    if service.Accepts status then .ok (read status outcome.output)
    else .error (outcome.failure service)

theorem outcome_ofReaction (limit : Option Duration) (reaction : Reaction) :
    (ofReaction limit reaction).outcome service =
      World.Outcome.ofReaction service limit reaction := by
  unfold ofReaction World.Outcome.ofReaction
  cases reaction.ending with
  | exited status => rfl
  | signalled signal => rfl
  | hanging => cases limit <;> rfl

theorem answered_of_accepted {status : Int} {output errors : List UInt8}
    (accepted : service.Accepts status) :
    (ended (some status) output errors).Answered service read
      (.ok (read status (Text.decodeLossy output))) where
  ok a := by
    constructor
    · rintro ⟨⟩
      exact ⟨status, output, errors, rfl, accepted, rfl⟩
    · rintro ⟨_, _, _, ⟨⟩, -, rfl⟩
      rfl
  failed named other diagnostic := by
    refine iff_of_false nofun ?_
    rintro ⟨-, _, _, ⟨⟩, refused, -⟩
    exact refused status rfl accepted
  unavailable named cause := iff_of_false nofun nofun
  timedOut named limit := iff_of_false nofun nofun
  workspace named cause := iff_of_false nofun nofun

theorem answered_of_refused {status : Option Int} {output errors : List UInt8}
    (refused : ∀ n, status = some n → ¬service.Accepts n) :
    (ended status output errors).Answered service read
      (.error ⟨service, .failed status (Text.decodeLossy errors)⟩) where
  ok a := by
    refine iff_of_false nofun ?_
    rintro ⟨_, _, _, ⟨⟩, accepted, -⟩
    exact refused _ rfl accepted
  failed named other diagnostic := by
    constructor
    · rintro ⟨⟩
      exact ⟨rfl, output, errors, rfl, refused, rfl⟩
    · rintro ⟨rfl, _, _, ⟨⟩, -, rfl⟩
      rfl
  unavailable named cause := iff_of_false nofun nofun
  timedOut named limit := iff_of_false nofun nofun
  workspace named cause := iff_of_false nofun nofun

theorem answered_judge (fate : Fate) (service : Tool.Service) (read : Int → String → α) :
    fate.Answered service read (fate.outcome service >>= judge service read) := by
  cases fate with
  | unspooled cause => constructor <;> simp [outcome, bind, Except.bind, eq_comm]
  | unstarted cause => constructor <;> simp [outcome, bind, Except.bind, eq_comm]
  | expired limit => constructor <;> simp [outcome, bind, Except.bind, eq_comm]
  | ended status output errors =>
    have judged : (Fate.ended status output errors).outcome service >>= judge service read =
        judge service read ⟨status, Text.decodeLossy output, Text.decodeLossy errors⟩ := rfl
    rw [judged]
    cases status with
    | none => exact answered_of_refused nofun
    | some n =>
      unfold judge
      by_cases accepted : service.Accepts n
      · simp only [if_pos accepted]
        exact answered_of_accepted accepted
      · simp only [if_neg accepted]
        refine answered_of_refused fun m same => ?_
        cases same
        exact accepted

end Fate

namespace World

variable {limit : Option Duration} {command : Command}

theorem run_run (service : Tool.Service) (limit : Option Duration) (command : Command)
    (world : World) : (run service limit command).run world =
      ((world.fate limit command).outcome service, world.begin command) := by
  unfold run fate begin
  simp only [StateT.run_bind, StateT.run_get, pure_bind]
  cases world.spoolFault? with
  | some cause => rfl
  | none =>
    cases world.invocation command with
    | error cause => rfl
    | ok invocation =>
      exact congrArg (Prod.mk · _) (Fate.outcome_ofReaction limit _).symm

theorem exists_started_of_fate {world : World} {fate : Fate}
    (became : world.fate limit command = fate) (spooled : ∀ cause, fate ≠ .unspooled cause)
    (started : ∀ cause, fate ≠ .unstarted cause) :
    ∃ invocation, (world.begin command).started.getLast? = some invocation ∧
      Fate.ofReaction limit (world.react invocation) = fate := by
  subst became
  unfold World.fate at spooled started ⊢
  unfold begin
  cases fault : world.spoolFault? with
  | some cause =>
    rw [fault] at spooled
    exact absurd rfl (spooled cause)
  | none =>
    rw [fault] at started
    cases begun : world.invocation command with
    | error cause =>
      rw [begun] at started
      exact absurd rfl (started cause)
    | ok invocation => exact ⟨invocation, List.getLast?_concat, rfl⟩

theorem begin_react (world : World) (command : Command) :
    (world.begin command).react = world.react := by
  unfold begin
  split <;> rfl

end World

namespace Toolbox

variable (toolbox : Toolbox)

def searchCommand (pattern : String) (root : Path) : World.Command :=
  ⟨toolbox.search, searchArguments toolbox.mode pattern root, none⟩

def tagCommand (file : Path) : World.Command :=
  ⟨toolbox.tags, ["--output-format=json", "--fields=+n", "-o", "-", file.text], none⟩

def buildCommand (workdir manifest : Path) : World.Command :=
  ⟨toolbox.crossReference, ["-b", "-q", "-i", manifest.text], some workdir⟩

def queryCommand (workdir : Path) (function : String) : World.Command :=
  ⟨toolbox.crossReference, ["-d", "-L", "-2", function], some workdir⟩

/-- What a search finds; with status one it finds nothing, whatever the output. -/
def readHits (status : Int) (text : String) : Hits :=
  if status = 0 then Hits.read text else Hits.empty

def readRows (text : String) : List String := (Text.lines text.toList).map String.ofList

/-- Each of the four questions is put to one program and answered by its fate. -/
structure Asks (toolbox : Toolbox) : Prop where
  search : ∀ pattern root, World.Asks .search toolbox.limit (toolbox.searchCommand pattern root)
    readHits ((Services.programs toolbox).search pattern root)
  tag : ∀ file, World.Asks .tag toolbox.limit (toolbox.tagCommand file) (fun _ => Tag.read)
    ((Services.programs toolbox).tag file)
  build : ∀ workdir manifest, World.Asks .build toolbox.limit
    (toolbox.buildCommand workdir manifest) (fun _ _ => ())
    ((Services.programs toolbox).build workdir manifest)
  query : ∀ workdir function, World.Asks .query toolbox.limit
    (toolbox.queryCommand workdir function) (fun _ => readRows)
    ((Services.programs toolbox).query workdir function)

variable {α : Type}

theorem readSearch_eq_judge (outcome : World.Outcome) :
    readSearch outcome = Fate.judge .search readHits outcome := by
  obtain ⟨status, output, errors⟩ := outcome
  unfold readSearch Fate.judge readHits Tool.Service.Accepts
  cases status with
  | none => rfl
  | some n =>
    by_cases zero : n = 0
    · simp [zero]
    · by_cases one : n = 1
      · simp [one]
      · simp [zero, one]

theorem requireSuccess_eq_judge {service : Tool.Service} (other : service ≠ .search)
    (read : String → α) (outcome : World.Outcome) :
    (outcome.requireSuccess service >>= fun outcome => Except.ok (read outcome.output)) =
      Fate.judge service (fun _ => read) outcome := by
  obtain ⟨status, output, errors⟩ := outcome
  unfold World.Outcome.requireSuccess Fate.judge Tool.Service.Accepts
  cases status with
  | none => rfl
  | some n =>
    by_cases zero : n = 0
    · simp [zero, bind, Except.bind]
    · simp [zero, other, bind, Except.bind]

theorem asks_of_judge {service : Tool.Service} (limit : Option Duration)
    (command : World.Command) {read : Int → String → α}
    {make : World.Outcome → Except Tool.Error α}
    (judges : ∀ outcome, make outcome = Fate.judge service read outcome) :
    World.Asks service limit command read (do
      match ← World.run service limit command with
      | .error error => pure (.error error)
      | .ok outcome => pure (make outcome)) where
  answered world := by
    have told := Fate.answered_judge (world.fate limit command) service read
    rw [StateT.run_bind, World.run_run]
    cases left : (world.fate limit command).outcome service with
    | error error =>
      rw [left] at told
      exact told
    | ok outcome =>
      rw [left] at told
      change Fate.Answered _ _ _ (make outcome)
      rw [judges]
      exact told
  after world := by
    rw [StateT.run_bind, World.run_run]
    cases (world.fate limit command).outcome service <;> rfl

theorem asks_checked {service : Tool.Service} (other : service ≠ .search)
    (command : World.Command) (read : String → α) :
    World.Asks service toolbox.limit command (fun _ => read) (do
      match ← toolbox.runChecked service command with
      | .error error => pure (.error error)
      | .ok outcome => pure (.ok (read outcome.output))) := by
  have asks := asks_of_judge toolbox.limit command (requireSuccess_eq_judge other read)
  rw [runChecked, bind_assoc]
  refine Eq.subst (congrArg (World.run service toolbox.limit command >>= ·)
    (funext fun result => ?_)) asks
  cases result with
  | error error => rfl
  | ok outcome =>
    change pure (outcome.requireSuccess service >>= _) =
      (pure (outcome.requireSuccess service) >>= _ : StateM World (Except Tool.Error α))
    rw [pure_bind]
    cases outcome.requireSuccess service <;> rfl

theorem asks (toolbox : Toolbox) : toolbox.Asks where
  search _ _ := asks_of_judge _ _ readSearch_eq_judge
  tag file := toolbox.asks_checked (by decide) (toolbox.tagCommand file) Tag.read
  build workdir manifest :=
    toolbox.asks_checked (by decide) (toolbox.buildCommand workdir manifest) fun _ => ()
  query workdir function :=
    toolbox.asks_checked (by decide) (toolbox.queryCommand workdir function) readRows

end Toolbox

end CallAtlas
