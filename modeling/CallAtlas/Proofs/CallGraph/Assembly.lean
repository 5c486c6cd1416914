import CallAtlas.Proofs.CallGraph.Appearance
import CallAtlas.Proofs.Journal

set_option autoImplicit false
set_option relaxedAutoImplicit false

namespace CallAtlas

namespace CallGraph

variable {column : Reference.Column} {answers : List (String × List String)}

/-- The functions asked about, each followed by the ones that its rows name. -/
def mentions (column : Reference.Column) (answers : List (String × List String)) : List String :=
  answers.flatMap fun answer => answer.1 :: answer.2.filterMap (Reference.calleeOf? column)

def reported (column : Reference.Column) (answers : List (String × List String)) :
    List (String × String) :=
  answers.flatMap fun answer =>
    (answer.2.filterMap (Reference.calleeOf? column)).map fun callee => (answer.1, callee)

def ofAnswers (column : Reference.Column) (answers : List (String × List String)) : CallGraph :=
  answers.foldl
    (fun graph answer =>
      graph.addFunction answer.1 (Reference.calls column answer.1 answer.2))
    empty

theorem mem_mentions {name : String} :
    name ∈ mentions column answers ↔
      name ∈ answers.map Prod.fst ∨
        ∃ answer ∈ answers, ∃ row ∈ answer.2, column.Names row name := by
  simp only [mentions, List.mem_flatMap, List.mem_cons, List.mem_filterMap, List.mem_map,
    Reference.calleeOf?_eq_some]
  constructor
  · rintro ⟨answer, inside, rfl | named⟩
    · exact .inl ⟨answer, inside, rfl⟩
    · exact .inr ⟨answer, inside, named⟩
  · rintro (⟨answer, inside, rfl⟩ | ⟨answer, inside, named⟩)
    · exact ⟨answer, inside, .inl rfl⟩
    · exact ⟨answer, inside, .inr named⟩

theorem mem_reported {caller callee : String} :
    (caller, callee) ∈ reported column answers ↔
      ∃ answer ∈ answers, answer.1 = caller ∧ ∃ row ∈ answer.2, column.Names row callee := by
  simp only [reported, List.mem_flatMap, List.mem_map, List.mem_filterMap,
    Reference.calleeOf?_eq_some, Prod.mk.injEq]
  constructor
  · rintro ⟨answer, inside, _, named, rfl, rfl⟩
    exact ⟨answer, inside, rfl, named⟩
  · rintro ⟨answer, inside, rfl, named⟩
    exact ⟨answer, inside, callee, named, rfl, rfl⟩

theorem shows_ofAnswers (column : Reference.Column) (answers : List (String × List String)) :
    Shows (ofAnswers column answers) (mentions column answers) (reported column answers) := by
  unfold ofAnswers
  suffices ∀ graph mentioned called, Shows graph mentioned called →
      Shows (answers.foldl (fun graph answer =>
          graph.addFunction answer.1 (Reference.calls column answer.1 answer.2)) graph)
        (mentioned ++ mentions column answers) (called ++ reported column answers) from
    this empty [] [] shows_empty
  induction answers with
  | nil =>
    intro graph mentioned called h
    simpa [mentions, reported] using h
  | cons answer rest ih =>
    intro graph mentioned called h
    have all := ih _ _ _ (h.addFunction column answer.1 answer.2)
    rw [List.append_assoc, List.append_assoc] at all
    exact all

/-- What happens before the first query: a directory, the manifest in it, the database. -/
def opening (workdir : Path) (scope : Scope) : List Event :=
  let manifest := workdir.join Reference.manifestName
  [.create workdir, .write manifest scope.manifest, .build workdir manifest scope.manifest]

def plan (workdir : Path) (scope : Scope) (functions : List String) : List Event :=
  if functions.isEmpty then [] else opening workdir scope ++ functions.map (.query workdir)

def buildReply (behaviour : Behaviour) (session : Session) (scope : Scope) :
    Except Tool.Error Unit :=
  behaviour.build
    (session.journal ++ [.create session.nextDirectory,
      .write (session.nextDirectory.join Reference.manifestName) scope.manifest])
    scope.manifest

/-- The database is built unless there is nothing to expand, and every query gets its rows. -/
structure Expands (behaviour : Behaviour) (session : Session) (scope : Scope)
    (answers : List (String × List String)) : Prop where
  build : answers ≠ [] → buildReply behaviour session scope = .ok ()
  rows : Behaviour.Answered behaviour.query (.query session.nextDirectory)
    (session.journal ++ opening session.nextDirectory scope) answers

def opened (session : Session) (scope : Scope) : Session where
  journal := session.journal ++ opening session.nextDirectory scope
  directories := session.nextDirectory :: session.directories
  files := (session.nextDirectory.join Reference.manifestName, scope.manifest) :: session.files

def closed (workdir : Path) (session : Session) : Session :=
  ((Scratch.recorded.remove workdir).run session).2

def databaseOf (session : Session) (scope : Scope) (column : Reference.Column) :
    Reference.Database :=
  ⟨session.nextDirectory, session.nextDirectory.join Reference.manifestName, scope.size, column⟩

theorem expand_loop (behaviour : Behaviour) (database : Reference.Database) :
    Behaviour.Loop behaviour.query (.query database.workdir)
      (fun graph function rows =>
        graph.addFunction function (Reference.calls database.column function rows))
      (expand (Services.recorded behaviour) database) where
  done _ _ := rfl
  stop {session function error} reply graph rest := by
    simp [expand, Reference.Database.callsOf, Services.recorded, reply]
    rfl
  next {session function rows} reply graph rest := by
    simp [expand, Reference.Database.callsOf, Services.recorded, reply]

theorem perform_opening (behaviour : Behaviour) (session : Session) (scope : Scope) :
    behaviour.perform session.journal (opening session.nextDirectory scope) =
      ((opened session scope).journal, Tool.fault? (buildReply behaviour session scope)) := by
  have reply : behaviour.fault?
      (session.journal ++ [.create session.nextDirectory] ++
        [.write (session.nextDirectory.join Reference.manifestName) scope.manifest])
      (.build session.nextDirectory (session.nextDirectory.join Reference.manifestName)
        scope.manifest) = Tool.fault? (buildReply behaviour session scope) := by
    rw [List.append_assoc]
    rfl
  have all : (opened session scope).journal =
      session.journal ++ [.create session.nextDirectory] ++
        [.write (session.nextDirectory.join Reference.manifestName) scope.manifest] ++
        [.build session.nextDirectory (session.nextDirectory.join Reference.manifestName)
          scope.manifest] := by
    simp [opened, opening]
  rw [all]
  unfold opening
  dsimp only
  rw [Behaviour.perform_cons rfl, Behaviour.perform_cons rfl]
  cases failed : Tool.fault? (buildReply behaviour session scope) with
  | some error => rw [Behaviour.perform_cons_of_fault (reply.trans failed)]
  | none => rw [Behaviour.perform_cons (reply.trans failed), Behaviour.perform]

variable {behaviour : Behaviour} {session : Session} {scope : Scope} {functions : List String}

theorem perform_plan_of_error {error : Tool.Error}
    (h : buildReply behaviour session scope = .error error) (filled : functions ≠ []) :
    behaviour.perform session.journal (plan session.nextDirectory scope functions) =
      ((opened session scope).journal, some error) := by
  have opens := perform_opening behaviour session scope
  rw [h] at opens
  rw [plan, if_neg (by simpa using filled),
    Behaviour.perform_append_of_fault (congrArg Prod.snd opens), opens]
  rfl

theorem perform_plan_of_ok (h : buildReply behaviour session scope = .ok ())
    (filled : functions ≠ []) :
    behaviour.perform session.journal (plan session.nextDirectory scope functions) =
      behaviour.perform (opened session scope).journal
        (functions.map (.query session.nextDirectory)) := by
  have opens := perform_opening behaviour session scope
  rw [h] at opens
  rw [plan, if_neg (by simpa using filled), Behaviour.perform_append (congrArg Prod.snd opens)]
  rfl

theorem build_run_of_error {error : Tool.Error}
    (h : buildReply behaviour session scope = .error error) (column : Reference.Column) :
    (Reference.Database.build (Services.recorded behaviour) Scratch.recorded scope
        column).run session =
      (.error error, closed session.nextDirectory (opened session scope)) := by
  rw [buildReply] at h
  simp [Reference.Database.build, Reference.Database.buildIn, Services.recorded,
    Scratch.recorded, Session.note, Session.textOf?, closed, opened, opening, h]
  rfl

theorem build_run_of_ok (h : buildReply behaviour session scope = .ok ())
    (column : Reference.Column) :
    (Reference.Database.build (Services.recorded behaviour) Scratch.recorded scope
        column).run session =
      (.ok (databaseOf session scope column), opened session scope) := by
  rw [buildReply] at h
  simp [Reference.Database.build, Reference.Database.buildIn, Services.recorded,
    Scratch.recorded, Session.note, Session.textOf?, opened, opening, h]
  rfl

theorem assemble_run_of_error {error : Tool.Error}
    (h : buildReply behaviour session scope = .error error) (filled : functions ≠ [])
    (column : Reference.Column) :
    (assemble (Services.recorded behaviour) Scratch.recorded functions scope
        column).run session =
      (.error error, closed session.nextDirectory (opened session scope)) := by
  have build := build_run_of_error h column
  rw [assemble, if_neg (by simpa using filled), StateT.run_bind, build]
  rfl

theorem assemble_run_of_ok (h : buildReply behaviour session scope = .ok ())
    (filled : functions ≠ []) (column : Reference.Column) :
    (assemble (Services.recorded behaviour) Scratch.recorded functions scope
        column).run session =
      let (result, after) := (expand (Services.recorded behaviour)
        (databaseOf session scope column) empty functions).run (opened session scope)
      (result, closed session.nextDirectory after) := by
  have build := build_run_of_ok h column
  rw [assemble, if_neg (by simpa using filled), StateT.run_bind, build]
  rfl

/-- An assembly does what it plans up to the first failure and then removes its directory. -/
theorem assemble_run (behaviour : Behaviour) (functions : List String) (scope : Scope)
    (column : Reference.Column) (session : Session) :
    ∃ result final, (assemble (Services.recorded behaviour) Scratch.recorded functions scope
        column).run session = (result, final) ∧
      final.journal =
        (behaviour.perform session.journal (plan session.nextDirectory scope functions)).1 ++
          (if functions.isEmpty then [] else [.remove session.nextDirectory]) ∧
      Tool.fault? result =
        (behaviour.perform session.journal (plan session.nextDirectory scope functions)).2 := by
  by_cases bare : functions = []
  · subst bare
    exact ⟨.ok empty, session, rfl, (List.append_nil _).symm, rfl⟩
  · rw [if_neg (by simpa using bare)]
    cases reply : buildReply behaviour session scope with
    | error error =>
      rw [perform_plan_of_error reply bare]
      exact ⟨_, _, assemble_run_of_error reply bare column, rfl, rfl⟩
    | ok _ =>
      obtain ⟨result, queries, failure⟩ :=
        (expand_loop behaviour (databaseOf session scope column)).run_eq
          (behaviour.calls_query _) empty functions (opened session scope)
      have run := assemble_run_of_ok reply bare column
      rw [queries] at run
      rw [perform_plan_of_ok reply bare]
      exact ⟨result, _, run, rfl, failure⟩

theorem exists_expands
    (h : (behaviour.perform session.journal
      (plan session.nextDirectory scope functions)).2 = none) :
    ∃ answers, answers.map Prod.fst = functions ∧
      Expands behaviour session scope answers := by
  by_cases bare : functions = []
  · subst bare
    exact ⟨[], rfl, fun filled => absurd rfl filled, Behaviour.answered_nil⟩
  · cases reply : buildReply behaviour session scope with
    | error error =>
      rw [perform_plan_of_error reply bare] at h
      cases h
    | ok _ =>
      rw [perform_plan_of_ok reply bare] at h
      obtain ⟨answers, same, rows⟩ := Behaviour.exists_answered (behaviour.calls_query _) h
      exact ⟨answers, same, fun _ => reply, rows⟩

theorem assemble_answered (h : Expands behaviour session scope answers)
    (column : Reference.Column) :
    ((assemble (Services.recorded behaviour) Scratch.recorded (answers.map Prod.fst) scope
        column).run session).1 = .ok (ofAnswers column answers) := by
  by_cases bare : answers = []
  · subst bare
    rfl
  · have filled : answers.map Prod.fst ≠ [] := by simpa using bare
    have rows : Behaviour.Answered behaviour.query (.query session.nextDirectory)
        (opened session scope).journal answers := h.rows
    rw [assemble_run_of_ok (h.build bare) filled column]
    exact (expand_loop behaviour (databaseOf session scope column)).run_answered rows empty

/-- Where the build and all the queries succeed, the nodes are the functions and the ones that
their rows name, the edges are the calls that the rows report, and both are numbered by their
first appearance.  Asking in another order, or again, gives the same two sets. -/
theorem assemble_by_first_appearance (behaviour : Behaviour) (session : Session) (scope : Scope)
    (column : Reference.Column) (answers : List (String × List String))
    (expands : Expands behaviour session scope answers) :
    ∃ graph, ((assemble (Services.recorded behaviour) Scratch.recorded (answers.map Prod.fst)
        scope column).run session).1 = .ok graph ∧
      graph.names = (mentions column answers).eraseDups ∧
      graph.links.map graph.ends? = (reported column answers).eraseDups.map some ∧
      (∀ name, name ∈ graph.nodes ↔ name ∈ answers.map Prod.fst ∨
        ∃ answer ∈ answers, ∃ row ∈ answer.2, column.Names row name) ∧
      (∀ caller callee, (caller, callee) ∈ graph.edges ↔
        ∃ answer ∈ answers, answer.1 = caller ∧ ∃ row ∈ answer.2, column.Names row callee) ∧
      (graph.nodes.Nodup ∧ graph.nodeCount = graph.nodes.length) ∧
      (graph.edges.Nodup ∧ graph.edgeCount = graph.edges.length) ∧
      ∀ behaviour' session' scope' answers', Expands behaviour' session' scope' answers' →
        (∀ answer, answer ∈ answers' ↔ answer ∈ answers) →
        ∃ other, ((assemble (Services.recorded behaviour') Scratch.recorded
            (answers'.map Prod.fst) scope' column).run session').1 = .ok other ∧
          other.nodes = graph.nodes ∧ other.edges = graph.edges := by
  have shows := shows_ofAnswers column answers
  refine ⟨ofAnswers column answers, assemble_answered expands column, shows.names,
    shows.links_ends, ?_, ?_, ?_, ?_, ?_⟩
  · intro name
    rw [shows.mem_nodes, mem_mentions]
  · intro caller callee
    rw [shows.mem_edges, mem_reported]
  · exact ⟨(Ordered.increasing_ofList _ _).nodup, shows.nodeCount_eq⟩
  · exact ⟨(Ordered.increasing_ofList _ _).nodup, shows.edgeCount_eq⟩
  · intro behaviour' session' scope' answers' expands' same
    refine ⟨ofAnswers column answers', assemble_answered expands' column, ?_⟩
    apply (shows_ofAnswers column answers').same_sets shows
    · intro name
      simp only [mem_mentions, List.mem_map, same]
    · rintro ⟨caller, callee⟩
      simp only [mem_reported, same]

/-- A function that calls itself and one that it has called before, is asked about twice, and has
a row that is too short. -/
theorem assemble_by_first_appearance_repeated :
    let rows := ["x h 1 a", "x g", "x f 2 b", "x g 3 c"]
    let behaviour : Behaviour :=
      ⟨fun _ _ _ => .ok Hits.empty, fun _ _ => .ok [], fun _ _ => .ok (),
        fun _ function => .ok (if function = "f" then rows else [])⟩
    ∃ graph, ((assemble (Services.recorded behaviour) Scratch.recorded ["f", "g", "f"]
        (Scope.ofList [⟨"x"⟩]) .second).run Session.start).1 = .ok graph ∧
      graph.names = ["f", "h", "g"] ∧
      graph.links.map graph.ends? = [some ("f", "h"), some ("f", "f"), some ("f", "g")] ∧
      graph.nodeCount = graph.nodes.length ∧ graph.edgeCount = graph.edges.length := by
  intro rows behaviour
  obtain ⟨graph, run, names, links, -, -, ⟨-, nodes⟩, ⟨-, edges⟩, -⟩ :=
    assemble_by_first_appearance behaviour Session.start (Scope.ofList [⟨"x"⟩]) .second
      [("f", rows), ("g", []), ("f", rows)]
      ⟨fun _ => rfl, Behaviour.answered_cons.mpr ⟨rfl, Behaviour.answered_cons.mpr ⟨rfl,
        Behaviour.answered_cons.mpr ⟨rfl, Behaviour.answered_nil⟩⟩⟩⟩
  exact ⟨graph, run, names.trans (by decide), links.trans (by decide), nodes, edges⟩

end CallGraph

end CallAtlas
