import CallAtlas.Proofs.Hits
import CallAtlas.Proofs.Journal
import CallAtlas.Proofs.Span
import CallAtlas.Proofs.Tally

set_option autoImplicit false
set_option relaxedAutoImplicit false

namespace CallAtlas

/-- The tag answers that a list of files gets in its order, and all of them are records. -/
def Behaviour.Tagged (behaviour : Behaviour) (history : List Event) (files : List Path)
    (tags : Path → List Tag.Record) : Prop :=
  Answered behaviour.tag Event.tag history (files.map fun file => (file, tags file))

namespace Occurrence

def keyOf (root : Path) (tags : Path → List Tag.Record) (o : Hits.Occurrence) : Key :=
  ⟨Path.label root o.file, owner (Span.ofRecords (tags o.file)) o.line⟩

def tableOf (root : Path) (tags : Path → List Tag.Record) (hits : Hits) : Table :=
  Table.ofKeys (hits.occurrences.map (keyOf root tags))

theorem keyOf_eq (root : Path) (tags : Path → List Tag.Record) {o : Hits.Occurrence}
    (small : o.line ≤ Text.wordMax) :
    keyOf root tags o = ⟨Path.label root o.file, Tag.owner (tags o.file) o.line⟩ := by
  rw [keyOf, owner_ofRecords _ small]

theorem charge_eq (root : Path) (tags : Path → List Tag.Record) (table : Table)
    (entry : FileHits) :
    charge table (Path.label root entry.file) (Span.ofRecords (tags entry.file)) entry.lines =
      ((entry.lines.map fun line => (⟨entry.file, line⟩ : Hits.Occurrence)).map
        (keyOf root tags)).foldl Table.record table := by
  rw [charge, List.map_map, List.foldl_map]
  rfl

theorem tabulateFrom_loop (behaviour : Behaviour) (root : Path) :
    Behaviour.Loop (fun history (entry : FileHits) => behaviour.tag history entry.file)
      (fun entry => .tag entry.file)
      (fun table entry records =>
        charge table (Path.label root entry.file) (Span.ofRecords records) entry.lines)
      (tabulateFrom (Services.recorded behaviour) root) where
  done _ _ := rfl
  stop {session entry error} reply table rest := by
    simp [tabulateFrom, Services.recorded, reply]
    rfl
  next {session entry records} reply table rest := by
    simp [tabulateFrom, Services.recorded, reply]

theorem tabulate_run (behaviour : Behaviour) (root : Path) (hits : Hits) (session : Session) :
    ∃ result, (tabulate (Services.recorded behaviour) root hits).run session =
        (result, { session with
          journal := (behaviour.perform session.journal (hits.paths.map Event.tag)).1 }) ∧
      Tool.fault? result = (behaviour.perform session.journal (hits.paths.map Event.tag)).2 := by
  rw [Hits.paths, List.map_map]
  exact (tabulateFrom_loop behaviour root).run_eq (fun _ _ => rfl) Tally.empty hits.files session

theorem tabulate_answered {behaviour : Behaviour} {root : Path} {tags : Path → List Tag.Record}
    {hits : Hits} {session : Session} (h : behaviour.Tagged session.journal hits.paths tags) :
    ((tabulate (Services.recorded behaviour) root hits).run session).1 =
      .ok (tableOf root tags hits) := by
  have answers : hits.paths.map (fun file => (file, tags file)) =
      (hits.files.map fun entry => (entry, tags entry.file)).map
        fun known => (known.1.file, known.2) := by
    simp [Hits.paths]
  rw [Behaviour.Tagged, answers] at h
  have charged := (tabulateFrom_loop behaviour root).run_answered
    ((Behaviour.answered_map FileHits.file).mp h) Tally.empty
  rw [List.map_map, List.foldl_map] at charged
  have files : hits.files.map (Prod.fst ∘ fun entry => (entry, tags entry.file)) = hits.files :=
    List.map_id _
  rw [files] at charged
  rw [tabulate, charged, tableOf, Table.ofKeys, Hits.occurrences, Hits.occurrencesIn,
    List.map_flatMap, List.foldl_flatMap]
  simp only [charge_eq]

theorem perform_tagged {behaviour : Behaviour} {history : List Event} {files : List Path}
    {tags : Path → List Tag.Record} (h : behaviour.Tagged history files tags) :
    (behaviour.perform history (files.map .tag)).2 = none := by
  have all := Behaviour.perform_answered behaviour.calls_tag h
  rwa [List.map_map] at all

theorem exists_tagged {behaviour : Behaviour} {history : List Event} {files : List Path}
    (nodup : files.Nodup) (h : (behaviour.perform history (files.map Event.tag)).2 = none) :
    ∃ tags, behaviour.Tagged history files tags := by
  obtain ⟨answers, rfl, answered⟩ := Behaviour.exists_answered behaviour.calls_tag h
  -- No file is asked for twice, so its answer is found by its path.
  refine ⟨fun file => (answers.lookup file).getD [], ?_⟩
  rwa [Behaviour.Tagged, Distinct.map_lookup_getD nodup]

/-- Where all tag calls get their answers, attribution gives a table, and every key of it counts
the occurrences of its label whose owner, told from the tag records, is its function.  Line numbers
are words. -/
theorem tabulate_charges_owners (behaviour : Behaviour) (session : Session) (root : Path)
    (hits : Hits) (tags : Path → List Tag.Record)
    (tagged : behaviour.Tagged session.journal hits.paths tags)
    (words : ∀ o ∈ hits.occurrences, o.line ≤ Text.wordMax) :
    ∃ table, ((tabulate (Services.recorded behaviour) root hits).run session).1 = .ok table ∧
      (∀ label name, table.count ⟨label, name⟩ = hits.occurrences.countP fun o =>
        Path.label root o.file = label ∧ Tag.owner (tags o.file) o.line = name) ∧
      table.total = (hits.files.flatMap FileHits.lines).length := by
  refine ⟨tableOf root tags hits, tabulate_answered tagged, ?_, ?_⟩
  · intro label name
    rw [tableOf, Table.count_ofKeys, List.count, List.countP_map]
    apply List.countP_congr
    intro o member
    simp only [Function.comp_apply, keyOf, owner_ofRecords _ (words o member), beq_iff_eq,
      Key.mk.injEq, decide_eq_true_eq]
  · rw [tableOf, Table.total_ofKeys, List.length_map, ← Hits.map_line_occurrences, List.length_map]

/-- Two spellings with one label, functions out of order and with one start, and the greatest line
there is. -/
theorem tabulate_charges_owners_shared_label :
    let start (name : String) (line : Int) : Tag.Record :=
      [("kind", .string Tag.functionKind), ("line", .integer line), ("name", .string name)]
    let behaviour : Behaviour :=
      ⟨fun _ _ _ => .ok Hits.empty, fun _ _ => .ok [start "c" 9, start "a" 4, start "b" 4],
        fun _ _ => .ok (), fun _ _ => .ok []⟩
    let hits := Hits.ofList [⟨⟨"/r/x"⟩, [4, 8, 8, Text.wordMax]⟩, ⟨⟨"x"⟩, [1, 5]⟩]
    ∃ table, ((tabulate (Services.recorded behaviour) ⟨"/r"⟩ hits).run Session.start).1 =
        .ok table ∧
      table.count ⟨"x", "a"⟩ = 4 ∧ table.count ⟨"x", "c"⟩ = 1 ∧
      table.count ⟨"x", Key.globalScope⟩ = 1 ∧ table.total = 6 := by
  intro start behaviour hits
  obtain ⟨table, found, counts, total⟩ := tabulate_charges_owners behaviour Session.start ⟨"/r"⟩
    hits (fun _ => [start "c" 9, start "a" 4, start "b" 4])
    (Behaviour.answered_cons.mpr ⟨rfl, Behaviour.answered_cons.mpr ⟨rfl, Behaviour.answered_nil⟩⟩)
    (by decide)
  refine ⟨table, found, ?_, ?_, ?_, total⟩
  · exact (counts _ _).trans (by decide)
  · exact (counts _ _).trans (by decide)
  · exact (counts _ _).trans (by decide)

end Occurrence

end CallAtlas
