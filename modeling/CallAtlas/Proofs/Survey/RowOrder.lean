import CallAtlas.CallGraph.Dot
import CallAtlas.Proofs.Survey.Protocol

set_option autoImplicit false
set_option relaxedAutoImplicit false

namespace CallAtlas

/-- The answers of collaborators that only look at what they are asked for. -/
structure Answers where
  tags : Path → Except Tool.Error (List Tag.Record)
  build : Option String → Except Tool.Error Unit
  rows : String → Except Tool.Error (List String)

def Answers.behaviour (answers : Answers) (output : String) : Behaviour where
  search _ _ _ := .ok (Hits.read output)
  tag _ file := answers.tags file
  build _ listing := answers.build listing
  query _ function := answers.rows function

def Answers.records (answers : Answers) (file : Path) : List Tag.Record :=
  (answers.tags file).toOption.getD []

theorem Session.nextDirectory_eq {a b : Session} (h : a.journal.length = b.journal.length) :
    a.nextDirectory = b.nextDirectory :=
  congrArg (fun size => (⟨String.ofList ("/scratch/".toList ++ Nat.toDigits 10 size)⟩ : Path)) h

def Event.isExpansion : Event → Bool
  | .build _ _ _ | .query _ _ => true
  | .search _ _ | .tag _ | .create _ | .write _ _ | .remove _ => false

theorem Hits.Spelled.perm {files others : List Path} (h : Spelled files)
    (same : files.Perm others) : Spelled others := by
  intro a ha b hb
  exact h a (same.mem_iff.mpr ha) b (same.mem_iff.mpr hb)

namespace Hits

variable {first second : String}

theorem occurrences_read (spelled : Spelled ((reported first).map Occurrence.file)) :
    (read first).occurrences.Perm (reported first) :=
  occurrences_ofOccurrences spelled

theorem occurrences_read_perm (rows : (Text.lines first.toList).Perm (Text.lines second.toList))
    (spelled : Spelled ((reported first).map Occurrence.file)) :
    (read first).occurrences.Perm (read second).occurrences := by
  have reports : (reported first).Perm (reported second) := rows.filterMap _
  have spelled' := spelled.perm (reports.map Occurrence.file)
  exact ((occurrences_read spelled).trans reports).trans (occurrences_read spelled').symm

theorem lineCounts_read_perm (rows : (Text.lines first.toList).Perm (Text.lines second.toList))
    (spelled : Spelled ((reported first).map Occurrence.file)) :
    (read first).lineCounts.Perm (read second).lineCounts :=
  lineCounts_perm (lines_ofOccurrences_ne_nil _) (lines_ofOccurrences_ne_nil _)
    (occurrences_read_perm rows spelled)

end Hits

theorem Inventory.ofHits_eq (root : Path) (hits : Hits) :
    ofHits root hits = hits.lineCounts.foldl
      (fun counts known => counts.add (Path.label root known.1) known.2) Tally.empty := by
  rw [ofHits, Hits.lineCounts, List.foldl_map]

theorem Inventory.ofHits_perm (root : Path) {hits others : Hits}
    (h : hits.lineCounts.Perm others.lineCounts) : ofHits root hits = ofHits root others := by
  rw [ofHits_eq, ofHits_eq]
  exact Tally.foldl_add_perm h _ _ Tally.empty

theorem Occurrence.tableOf_perm (root : Path) (tags : Path → List Tag.Record)
    {hits others : Hits} (h : hits.occurrences.Perm others.occurrences) :
    tableOf root tags hits = tableOf root tags others :=
  Table.ofKeys_perm (h.map (keyOf root tags))

namespace Answers

variable (answers : Answers) (first second : String)

theorem tagged {files : List Path}
    (succeed : ∀ file ∈ files, ∃ records, answers.tags file = .ok records)
    (history : List Event) :
    (answers.behaviour first).Tagged history files answers.records := by
  rw [Behaviour.Tagged]
  induction files generalizing history with
  | nil => exact Behaviour.answered_nil
  | cons file rest ih =>
    obtain ⟨records, reply⟩ := succeed file List.mem_cons_self
    have answer : answers.tags file = .ok (answers.records file) := by
      rw [Answers.records, reply]
      rfl
    exact Behaviour.answered_cons.mpr
      ⟨answer, ih (fun other inside => succeed other (List.mem_cons_of_mem _ inside)) _⟩

theorem fault?_eq (history history' : List Event) (event : Event) :
    (answers.behaviour first).fault? history event =
      (answers.behaviour second).fault? history' event := by
  cases event <;> rfl

theorem assemble_eq (functions : List String) (scope : Scope) (column : Reference.Column)
    {session session' : Session} (directory : session.nextDirectory = session'.nextDirectory) :
    ∃ result final final' happened,
      (CallGraph.assemble (Services.recorded (answers.behaviour first)) Scratch.recorded functions
        scope column).run session = (result, final) ∧
      (CallGraph.assemble (Services.recorded (answers.behaviour second)) Scratch.recorded
        functions scope column).run session' = (result, final') ∧
      final.journal = session.journal ++ happened ∧
      final'.journal = session'.journal ++ happened := by
  obtain ⟨result, final, run, events, failure⟩ :=
    CallGraph.assemble_run (answers.behaviour first) functions scope column session
  obtain ⟨result', final', run', events', failure'⟩ :=
    CallGraph.assemble_run (answers.behaviour second) functions scope column session'
  obtain ⟨happened, failed, one, two⟩ := Behaviour.perform_congr
    (answers.fault?_eq first second) session.journal session'.journal
    (CallGraph.plan session.nextDirectory scope functions)
  rw [one] at events failure
  rw [← directory, two] at events' failure'
  have same : result' = result := by
    cases failed with
    | some error =>
      rw [Tool.fault?_eq_some.mp failure, Tool.fault?_eq_some.mp failure']
    | none =>
      obtain ⟨known, rfl, expands⟩ := CallGraph.exists_expands (congrArg Prod.snd one)
      rw [directory] at two
      obtain ⟨known', equal, expands'⟩ := CallGraph.exists_expands (congrArg Prod.snd two)
      -- Rows do not depend on the events before, so both runs got the same ones.
      have steady : ∀ history history' function,
          (answers.behaviour second).query history function =
            (answers.behaviour first).query history' function := fun _ _ _ => rfl
      obtain rfl := expands'.rows.unique steady expands.rows equal
      have graph := CallGraph.assemble_answered expands column
      have graph' := CallGraph.assemble_answered expands' column
      rw [run] at graph
      rw [run'] at graph'
      exact graph'.trans graph.symm
  subst same
  exact ⟨result', final, final', _, run, run', by rw [events, List.append_assoc],
    by rw [events', List.append_assoc]⟩

end Answers

namespace Survey

theorem filter_isExpansion_tags (history : List Event) (request : Request) (files : List Path) :
    (history ++ [Event.search request.pattern request.root] ++ files.map Event.tag).filter
      Event.isExpansion = history.filter Event.isExpansion := by
  have tags : (files.map Event.tag).filter Event.isExpansion = [] := by
    apply List.filter_eq_nil_iff.mpr
    intro event member
    obtain ⟨file, -, rfl⟩ := List.mem_map.mp member
    exact Bool.false_ne_true
  rw [List.filter_append, List.filter_append, tags, List.append_nil]
  exact List.append_nil _

def attributedBy (answers : Answers) (request : Request) (output : String) : Attributed :=
  attributedOf request (Hits.read output)
    (Occurrence.tableOf request.root answers.records (Hits.read output))

theorem attributedBy_table (answers : Answers) (request : Request) (output : String) :
    (attributedBy answers request output).table = Occurrence.Table.ofKeys
      ((Hits.read output).occurrences.map (Occurrence.keyOf request.root answers.records)) := rfl

theorem attributedBy_selection (answers : Answers) (request : Request) (output : String) :
    (attributedBy answers request output).selection = Occurrence.select
      (attributedBy answers request output).table request.root request.limit := rfl

theorem run_answered {answers : Answers} {output : String}
    (succeed : ∀ o ∈ Hits.reported output, ∃ records, answers.tags o.file = .ok records)
    (request : Request) (session : Session) :
    ∃ after : Session,
      after.journal = session.journal ++ [.search request.pattern request.root] ++
        (Hits.read output).paths.map .tag ∧
      (run (Services.recorded (answers.behaviour output)) Scratch.recorded request).run session =
        (finish (Services.recorded (answers.behaviour output)) Scratch.recorded request
          (attributedBy answers request output)).run after := by
  have asked : ∀ file ∈ (Hits.read output).paths, ∃ records, answers.tags file = .ok records := by
    intro file inside
    obtain ⟨o, member, rfl⟩ := Hits.mem_paths_ofOccurrences inside
    exact succeed o member
  exact run_of_tagged rfl (answers.tagged output asked _)

theorem assembled_graph? (found : Attributed) (result : Except Tool.Error CallGraph) :
    (assembled found result).graph? = result.toOption := by
  cases result <;> rfl

/-- Where all tag calls succeed, two searches that report the same rows in another order, under one
spelling for each path, make no difference to what a run finds, builds and queries, nor to how it
ends. -/
theorem run_of_rows_perm (answers : Answers) (request : Request) (session : Session)
    (first second : String) (rows : (Text.lines first.toList).Perm (Text.lines second.toList))
    (spelled : Hits.Spelled ((Hits.reported first).map Hits.Occurrence.file))
    (succeed : ∀ o ∈ Hits.reported first, ∃ records, answers.tags o.file = .ok records) :
    ∃ survey survey' final final' found found',
      (run (Services.recorded (answers.behaviour first)) Scratch.recorded request).run session =
        (survey, final) ∧
      (run (Services.recorded (answers.behaviour second)) Scratch.recorded request).run session =
        (survey', final') ∧
      survey.attributed? = some found ∧ survey'.attributed? = some found' ∧
      found.inventory = found'.inventory ∧ found.table = found'.table ∧
      found.table.byCount = found'.table.byCount ∧ found.selection = found'.selection ∧
      found.selection.scope.manifest = found'.selection.scope.manifest ∧
      final.journal.filter Event.isExpansion = final'.journal.filter Event.isExpansion ∧
      survey.failure? = survey'.failure? ∧ survey.graph? = survey'.graph? ∧
      survey.graph?.map CallGraph.dot = survey'.graph?.map CallGraph.dot := by
  have succeed' : ∀ o ∈ Hits.reported second, ∃ records, answers.tags o.file = .ok records :=
    fun o member => succeed o ((rows.filterMap _).mem_iff.mpr member)
  obtain ⟨after, journal, run⟩ := run_answered succeed request session
  obtain ⟨after', journal', run'⟩ := run_answered succeed' request session
  have counts := Hits.lineCounts_read_perm rows spelled
  have inventory : (attributedBy answers request first).inventory =
      (attributedBy answers request second).inventory :=
    Inventory.ofHits_perm request.root counts
  have table : (attributedBy answers request first).table =
      (attributedBy answers request second).table :=
    Occurrence.tableOf_perm request.root answers.records (Hits.occurrences_read_perm rows spelled)
  have selection : (attributedBy answers request first).selection =
      (attributedBy answers request second).selection :=
    congrArg (fun table => Occurrence.select table request.root request.limit) table
  -- Both runs have put as many questions, so their scratch directories have one name.
  have directory : after.nextDirectory = after'.nextDirectory := by
    have files : (Hits.read first).paths.length = (Hits.read second).paths.length := by
      simpa [Hits.lineCounts, Hits.paths] using counts.length_eq
    apply Session.nextDirectory_eq
    simp only [journal, journal', List.length_append, List.length_map, files]
  obtain ⟨result, final, final', happened, assembly, assembly', events, events'⟩ :=
    answers.assemble_eq first second (attributedBy answers request first).selection.functions
      (attributedBy answers request first).selection.scope request.column directory
  rw [finish_run, assembly] at run
  rw [finish_run, ← selection, assembly'] at run'
  refine ⟨_, _, _, _, _, _, run, run', assembled_attributed? _ _, assembled_attributed? _ _,
    inventory, table, congrArg Tally.byCount table, selection,
    congrArg (fun selection => selection.scope.manifest) selection, ?_, ?_, ?_, ?_⟩
  · rw [events, events', List.filter_append, List.filter_append, journal, journal',
      filter_isExpansion_tags, filter_isExpansion_tags]
  · rw [assembled_failure?, assembled_failure?]
  · rw [assembled_graph?, assembled_graph?]
  · rw [assembled_graph?, assembled_graph?]

/-- Three rows in two orders, two of them under paths that share a label. -/
theorem run_of_rows_perm_shared_label :
    let answers : Answers :=
      ⟨fun _ => .ok [[("kind", .string Tag.functionKind), ("line", .integer 2),
        ("name", .string "f")]], fun _ => .ok (), fun _ => .ok ["x g 2 f"]⟩
    let request : Request := ⟨"f", ⟨"/r"⟩, 10, .second⟩
    let first := "a:1:f\n/r/a:3:f\nb:2:f\n"
    let second := "b:2:f\n/r/a:3:f\na:1:f\n"
    (Hits.read first).files ≠ (Hits.read second).files ∧
      ∃ survey survey' final final',
        (run (Services.recorded (answers.behaviour first)) Scratch.recorded request).run
          Session.start = (survey, final) ∧
        (run (Services.recorded (answers.behaviour second)) Scratch.recorded request).run
          Session.start = (survey', final') ∧
        survey.failure? = survey'.failure? ∧ survey.graph? = survey'.graph? := by
  intro answers request first second
  have rows : (Text.lines first.toList).Perm (Text.lines second.toList) := by decide
  have spelled : Hits.Spelled ((Hits.reported first).map Hits.Occurrence.file) := by
    unfold Hits.Spelled
    decide
  obtain ⟨survey, survey', final, final', _, _, run, run', -, -, -, -, -, -, -, -, failure, graph,
    -⟩ := run_of_rows_perm answers request Session.start first second rows spelled
      fun _ _ => ⟨_, rfl⟩
  exact ⟨by decide, survey, survey', final, final', run, run', failure, graph⟩

end Survey

end CallAtlas
