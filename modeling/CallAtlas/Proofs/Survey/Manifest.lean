import CallAtlas.Proofs.Hits.Record
import CallAtlas.Proofs.Path
import CallAtlas.Proofs.Selection
import CallAtlas.Proofs.Survey.RowOrder

set_option autoImplicit false
set_option relaxedAutoImplicit false

namespace CallAtlas

/-- The manifest that a build finds, if the event is a build. -/
def Event.listing? : Event → Option (Option String)
  | .build _ _ listing => some listing
  | .search _ _ | .tag _ | .query _ _ | .create _ | .write _ _ | .remove _ => none

theorem Event.filterMap_listing?_filter_isCall (journal : List Event) :
    (journal.filter isCall).filterMap listing? = journal.filterMap listing? := by
  rw [List.filterMap_filter]
  congr 1
  funext event
  cases event <;> rfl

theorem Behaviour.filterMap_listing?_perform (behaviour : Behaviour) (history : List Event)
    {plan : List Event} (none : ∀ event ∈ plan, event.listing? = Option.none) :
    (behaviour.perform history plan).1.filterMap Event.listing? =
      history.filterMap Event.listing? := by
  obtain ⟨happened, first, same⟩ := behaviour.perform_prefix history plan
  have silent : happened.filterMap Event.listing? = [] :=
    List.filterMap_eq_nil_iff.mpr fun event inside => none event (first.subset inside)
  rw [same, List.filterMap_append, silent, List.append_nil]

/-! No line breaks. -/

theorem Hits.isLine_of_mem_read {output : String} {file : Path}
    (h : file ∈ (read output).paths) : file.IsLine := by
  obtain ⟨o, reported, rfl⟩ := mem_paths_ofOccurrences h
  obtain ⟨row, inside, read⟩ := List.mem_filterMap.mp reported
  obtain ⟨whole, rest, cut, -⟩ := Occurrence.read?_eq_some.mp read
  refine ⟨whole, fun broken => Text.newline_notMem_of_mem_lines inside ?_⟩
  rcases cut with ⟨rfl, -⟩ | ⟨-, rfl, -⟩
  · exact List.mem_append_left _ broken
  · exact List.mem_append_left _ broken

namespace Occurrence

theorem mem_keys_tableOf {root : Path} {tags : Path → List Tag.Record} {hits : Hits} {key : Key} :
    key ∈ (tableOf root tags hits).keys ↔ ∃ o ∈ hits.occurrences, keyOf root tags o = key := by
  rw [tableOf, Table.mem_keys_ofKeys, List.mem_map]

theorem exists_file_of_mem_tableOf {root : Path} {tags : Path → List Tag.Record} {hits : Hits}
    {key : Key} (known : key ∈ (tableOf root tags hits).keys) :
    ∃ file ∈ hits.paths, Path.label root file = key.file := by
  obtain ⟨o, inside, rfl⟩ := mem_keys_tableOf.mp known
  exact ⟨o.file, Hits.file_mem_paths inside, rfl⟩

theorem newline_notMem_of_mem_tableOf {root : Path} {tags : Path → List Tag.Record}
    {output : String} {key : Key} (h : key ∈ (tableOf root tags (Hits.read output)).keys) :
    '\n' ∉ key.file.toList := by
  obtain ⟨file, inside, label⟩ := exists_file_of_mem_tableOf h
  rw [← label]
  exact (Path.isLine_part (Hits.isLine_of_mem_read inside)).2

theorem isLine_of_mem_scope {table : Table} {root : Path} {limit : Nat} (line : root.IsLine)
    (plain : ∀ key ∈ table.keys, '\n' ∉ key.file.toList) {file : Path}
    (h : file ∈ (select table root limit).scope.files) : file.IsLine := by
  obtain ⟨key, known, rfl⟩ := exists_key_of_mem_scope h
  exact Path.isLine_join line (Path.isLine_mk.mpr (plain key known))

end Occurrence

/-! The build of a run. -/

theorem CallGraph.filterMap_listing?_plan (behaviour : Behaviour) (session : Session)
    (scope : Scope) {functions : List String} (filled : functions ≠ []) :
    (behaviour.perform session.journal
        (plan session.nextDirectory scope functions)).1.filterMap Event.listing? =
      session.journal.filterMap Event.listing? ++ [some scope.manifest] := by
  have opens : (opened session scope).journal.filterMap Event.listing? =
      session.journal.filterMap Event.listing? ++ [some scope.manifest] :=
    List.filterMap_append
  cases reply : buildReply behaviour session scope with
  | error error => rw [perform_plan_of_error reply filled, opens]
  | ok _ =>
    rw [perform_plan_of_ok reply filled, Behaviour.filterMap_listing?_perform, opens]
    intro event inside
    obtain ⟨function, -, rfl⟩ := List.mem_map.mp inside
    rfl

theorem Reference.Database.size_of_build {behaviour : Behaviour} {scope : Scope}
    {column : Reference.Column} {session after : Session} {database : Reference.Database}
    (h : (build (Services.recorded behaviour) Scratch.recorded scope column).run session =
      (.ok database, after)) : database.size = scope.size := by
  cases reply : CallGraph.buildReply behaviour session scope with
  | error error =>
    rw [CallGraph.build_run_of_error reply] at h
    cases h
  | ok _ =>
    rw [CallGraph.build_run_of_ok reply] at h
    obtain rfl := Except.ok.inj (Prod.mk.inj h).1
    rfl

namespace Survey

variable {behaviour : Behaviour} {request : Request} {session final : Session} {survey : Survey}
  {found : Attributed}

theorem exists_finish_run (services : Services (StateM Session))
    (scratch : Scratch (StateM Session)) (request : Request) (found : Attributed)
    (session : Session) :
    ∃ result final,
      (finish services scratch request found).run session = (assembled found result, final) := by
  rw [finish_run]
  exact ⟨_, _, rfl⟩

theorem located?_of_attributed? (h : survey.attributed? = some found) :
    survey.located? = some found.toLocated := by
  cases survey with
  | unlocated error => cases h
  | unattributed located error => cases h
  | unassembled other error => exact congrArg (Option.map Attributed.toLocated) h
  | complete other graph => exact congrArg (Option.map Attributed.toLocated) h

theorem filterMap_listing?_asked (request : Request) (survey : Survey) :
    (survey.asked request).filterMap Event.listing? = [] := by
  rw [asked, List.filterMap_cons_none rfl]
  cases survey.located? with
  | none => rfl
  | some found =>
    apply List.filterMap_eq_nil_iff.mpr
    intro event inside
    obtain ⟨file, -, rfl⟩ := List.mem_map.mp inside
    rfl

theorem perform_asked (follows : survey.Follows behaviour session.journal request)
    (attributed : survey.attributed? = some found) :
    (behaviour.perform session.journal (survey.asked request)).2 = none := by
  have located := located?_of_attributed? attributed
  obtain ⟨tags, tagged, -⟩ := follows.attributed found attributed
  rw [asked, located, Option.elim_some, Behaviour.perform_cons (search_passes
    (follows.located _ located))]
  exact Occurrence.perform_tagged tagged

/-- A run whose selection has functions builds one database, from the manifest of its scope. -/
theorem filterMap_listing?_run (obeys : Obeys behaviour request session (survey, final))
    (attributed : survey.attributed? = some found) (filled : found.selection.functions ≠ []) :
    final.journal.filterMap Event.listing? =
      session.journal.filterMap Event.listing? ++ [some found.selection.scope.manifest] := by
  have asked := perform_asked obeys.follows attributed
  calc final.journal.filterMap Event.listing?
      = (final.journal.filter Event.isCall).filterMap Event.listing? :=
        (Event.filterMap_listing?_filter_isCall _).symm
    _ = (behaviour.perform session.journal
          (survey.plan session.journal request)).1.filterMap Event.listing? := by
        rw [obeys.events, Event.filterMap_listing?_filter_isCall]
    _ = (session.journal ++ survey.asked request).filterMap Event.listing? ++
          [some found.selection.scope.manifest] := by
        rw [plan, attributed, Option.elim_some, Behaviour.perform_append asked]
        exact CallGraph.filterMap_listing?_plan behaviour
          ⟨session.journal ++ survey.asked request, [], []⟩ _ filled
    _ = session.journal.filterMap Event.listing? ++ [some found.selection.scope.manifest] := by
        rw [List.filterMap_append, filterMap_listing?_asked, List.append_nil]

theorem selection_eq (follows : survey.Follows behaviour session.journal request)
    (attributed : survey.attributed? = some found) :
    found.selection = Occurrence.select found.table request.root request.limit := by
  obtain ⟨tags, -, equal⟩ := follows.attributed found attributed
  rw [equal]
  rfl

theorem table_eq (follows : survey.Follows behaviour session.journal request)
    (attributed : survey.attributed? = some found) :
    ∃ tags, found.table = Occurrence.tableOf request.root tags found.hits := by
  obtain ⟨tags, -, equal⟩ := follows.attributed found attributed
  refine ⟨tags, ?_⟩
  rw [equal]
  rfl

theorem isLine_of_mem_scope (follows : survey.Follows behaviour session.journal request)
    (attributed : survey.attributed? = some found) {output : String}
    (searched : behaviour.search session.journal request.pattern request.root =
      .ok (Hits.read output))
    (line : request.root.IsLine) {file : Path}
    (inside : file ∈ found.selection.scope.files) : file.IsLine := by
  have located := follows.located _ (located?_of_attributed? attributed)
  have hits : found.hits = Hits.read output := Except.ok.inj (located.symm.trans searched)
  obtain ⟨tags, table⟩ := table_eq follows attributed
  rw [selection_eq follows attributed] at inside
  refine Occurrence.isLine_of_mem_scope line (fun key known => ?_) inside
  rw [table, hits] at known
  exact Occurrence.newline_notMem_of_mem_tableOf known

theorem exists_run_attributed {answers : Answers} {output : String}
    (succeed : ∀ o ∈ Hits.reported output, ∃ records, answers.tags o.file = .ok records)
    (request : Request) (session : Session) :
    ∃ survey final,
      (run (Services.recorded (answers.behaviour output)) Scratch.recorded request).run session =
        (survey, final) ∧ survey.attributed? = some (attributedBy answers request output) := by
  obtain ⟨after, -, ran⟩ := run_answered succeed request session
  obtain ⟨result, final, ended⟩ := exists_finish_run (Services.recorded (answers.behaviour output))
    Scratch.recorded request (attributedBy answers request output) after
  exact ⟨_, final, ran.trans ended, assembled_attributed? _ _⟩

/-- Below a root that is a text without newlines a run whose selection has functions hands one
manifest to the build, and its lines are the scope: as many as a database of the scope counts,
each a path of its own, by increasing segments, and exactly the files of the selected keys below
the root. -/
theorem run_lists_scope_in_manifest (behaviour : Behaviour) (request : Request)
    (session final : Session) (survey : Survey) (found : Attributed) (output : String)
    (searched : behaviour.search session.journal request.pattern request.root =
      .ok (Hits.read output))
    (whole : request.root.IsText) (plain : '\n' ∉ request.root.text.toList)
    (run : (run (Services.recorded behaviour) Scratch.recorded request).run session =
      (survey, final))
    (attributed : survey.attributed? = some found)
    (selected : found.selection.functions ≠ []) :
    ∃ manifest,
      final.journal.filterMap Event.listing? =
        session.journal.filterMap Event.listing? ++ [some manifest] ∧
      Scope.listed manifest = found.selection.scope.files ∧
      Ordered.Increasing Path.segments (Scope.listed manifest) ∧
      (∀ session' column database after,
        (Reference.Database.build (Services.recorded behaviour) Scratch.recorded
          found.selection.scope column).run session' = (.ok database, after) →
        database.size = (Scope.listed manifest).length) ∧
      (∀ file ∈ Scope.listed manifest, ∃ key ∈ Occurrence.topKeys found.table request.limit,
        request.root.join ⟨key.file⟩ = file) ∧
      ∀ key ∈ Occurrence.topKeys found.table request.limit,
        ∃ file ∈ Scope.listed manifest, file.Same (request.root.join ⟨key.file⟩) := by
  have obeys := run_obeys behaviour request session
  rw [run] at obeys
  have follows := obeys.follows
  have selection := selection_eq follows attributed
  have filled : found.selection.scope.files ≠ [] := by
    rw [selection] at selected ⊢
    exact Occurrence.scope_select_ne_nil selected
  have lines : Scope.listed found.selection.scope.manifest = found.selection.scope.files :=
    Scope.listed_manifest filled fun file inside =>
      isLine_of_mem_scope follows attributed searched ⟨whole, plain⟩ inside
  refine ⟨found.selection.scope.manifest, filterMap_listing?_run obeys attributed selected, lines,
    ?_, ?_, ?_, ?_⟩
  · rw [lines]
    exact found.selection.scope.increasing
  · intro session' column database after built
    rw [lines]
    exact Reference.Database.size_of_build built
  · intro file inside
    rw [lines, selection] at inside
    obtain ⟨entry, chosen, joined⟩ := Occurrence.mem_scope_select inside
    exact ⟨entry.1, Occurrence.mem_topKeys.mpr ⟨entry, chosen, rfl⟩, joined⟩
  · intro key chosen
    obtain ⟨entry, inside, rfl⟩ := Occurrence.mem_topKeys.mp chosen
    rw [lines, selection]
    exact Occurrence.holds_scope_select.mpr ⟨entry, inside, Path.Same.refl _⟩

/-- A file under two spellings, and another one that comes after it by segments, though not by
text. -/
theorem run_lists_scope_in_manifest_by_segments :
    let answers : Answers :=
      ⟨fun _ => .ok [[("kind", .string Tag.functionKind), ("line", .integer 1),
        ("name", .string "f")]], fun _ => .ok (), fun _ => .ok []⟩
    let request : Request := ⟨"f", ⟨"/r"⟩, 10, .second⟩
    let output := "a.c:2:f\n/r/a/b.c:2:f\na/b.c:9:f\n"
    ∃ survey final manifest,
      (run (Services.recorded (answers.behaviour output)) Scratch.recorded request).run
        Session.start = (survey, final) ∧
      final.journal.filterMap Event.listing? = [some manifest] ∧
      Scope.listed manifest = [⟨"/r/a/b.c"⟩, ⟨"/r/a.c"⟩] := by
  intro answers request output
  have keys : (Hits.read output).occurrences.map (Occurrence.keyOf request.root answers.records) =
      [⟨"a.c", "f"⟩, ⟨"a/b.c", "f"⟩, ⟨"a/b.c", "f"⟩] := by
    have words : ∀ o ∈ (Hits.read output).occurrences, o.line ≤ Text.wordMax := by decide
    have owners := List.map_congr_left fun o inside =>
      Occurrence.keyOf_eq request.root answers.records (words o inside)
    exact owners.trans (by decide)
  have table : (attributedBy answers request output).table =
      Occurrence.Table.ofKeys [⟨"a.c", "f"⟩, ⟨"a/b.c", "f"⟩, ⟨"a/b.c", "f"⟩] := by
    rw [attributedBy_table, keys]
  have chosen (key : Occurrence.Key) :
      key ∈ Occurrence.topKeys (attributedBy answers request output).table request.limit ↔
        key = ⟨"a.c", "f"⟩ ∨ key = ⟨"a/b.c", "f"⟩ := by
    rw [table, Occurrence.mem_topKeys_of_le (by decide)]
    constructor
    · rintro ⟨known, -⟩
      simpa using Occurrence.Table.mem_keys_ofKeys.mp known
    · rintro (rfl | rfl)
      · exact ⟨Occurrence.Table.mem_keys_ofKeys.mpr (by decide), by decide⟩
      · exact ⟨Occurrence.Table.mem_keys_ofKeys.mpr (by decide), by decide⟩
  have selected : (attributedBy answers request output).selection.functions ≠ [] := by
    rw [attributedBy_selection]
    exact Occurrence.functions_select_ne_nil ((chosen _).mpr (.inl rfl))
  have succeed : ∀ o ∈ Hits.reported output, ∃ records, answers.tags o.file = .ok records :=
    fun _ _ => ⟨_, rfl⟩
  obtain ⟨survey, final, ran, attributed⟩ := exists_run_attributed succeed request Session.start
  obtain ⟨manifest, built, -, increasing, -, only, every⟩ :=
    run_lists_scope_in_manifest (answers.behaviour output) request Session.start _ _ _ output rfl
      (by decide) (by decide) ran attributed selected
  refine ⟨_, _, manifest, ran, built, ?_⟩
  have sorted : Ordered.Increasing Path.segments [⟨"/r/a/b.c"⟩, ⟨"/r/a.c"⟩] := by
    unfold Ordered.Increasing
    decide
  have spelled : ∀ file ∈ Scope.listed manifest, file = ⟨"/r/a/b.c"⟩ ∨ file = ⟨"/r/a.c"⟩ := by
    intro file inside
    obtain ⟨key, member, rfl⟩ := only file inside
    rcases (chosen key).mp member with rfl | rfl
    · exact .inr (by decide)
    · exact .inl (by decide)
  obtain ⟨first, inside, same⟩ := every _ ((chosen _).mpr (.inr rfl))
  obtain ⟨second, inside', same'⟩ := every _ ((chosen _).mpr (.inl rfl))
  apply increasing.eq_of_mem_iff sorted
  intro file
  constructor
  · intro listed
    simpa using spelled file listed
  · intro named
    rcases spelled first inside with rfl | rfl
    · rcases spelled second inside' with rfl | rfl
      · exact absurd same' (by decide)
      · rcases List.mem_cons.mp named with rfl | named
        · exact inside
        · exact List.mem_singleton.mp named ▸ inside'
    · exact absurd same (by decide)

/-- Below another root the manifest names other paths than the scope holds: bytes that are no text
are listed as replacement characters. -/
theorem run_mislists_scope_below_root_of_other_bytes :
    let answers : Answers :=
      ⟨fun _ => .ok [[("kind", .string Tag.functionKind), ("line", .integer 1),
        ("name", .string "f")]], fun _ => .ok (), fun _ => .ok []⟩
    let root : Path := ⟨[0x2F, 0xFF]⟩
    let request : Request := ⟨"f", root, 10, .second⟩
    let output := "a.c:2:f\n"
    '\n' ∉ root.text.toList ∧ ∃ survey final found manifest,
      (run (Services.recorded (answers.behaviour output)) Scratch.recorded request).run
        Session.start = (survey, final) ∧
      survey.attributed? = some found ∧ found.selection.functions ≠ [] ∧
      final.journal.filterMap Event.listing? = [some manifest] ∧
      found.selection.scope.files = [root.join ⟨"a.c"⟩] ∧
      Scope.listed manifest = [⟨"/\uFFFD/a.c"⟩] ∧ root.join ⟨"a.c"⟩ ≠ ⟨"/\uFFFD/a.c"⟩ := by
  intro answers root request output
  have keys : (Hits.read output).occurrences.map (Occurrence.keyOf request.root answers.records) =
      [⟨"a.c", "f"⟩] := by
    have words : ∀ o ∈ (Hits.read output).occurrences, o.line ≤ Text.wordMax := by decide
    have owners := List.map_congr_left fun o inside =>
      Occurrence.keyOf_eq request.root answers.records (words o inside)
    exact owners.trans (by decide)
  have table : (attributedBy answers request output).table =
      Occurrence.Table.ofKeys [⟨"a.c", "f"⟩] := by
    rw [attributedBy_table, keys]
  have chosen : ⟨"a.c", "f"⟩ ∈
      Occurrence.topKeys (attributedBy answers request output).table request.limit := by
    rw [table, Occurrence.mem_topKeys_of_le (by decide)]
    exact ⟨Occurrence.Table.mem_keys_ofKeys.mpr (by decide), by decide⟩
  have selected : (attributedBy answers request output).selection.functions ≠ [] := by
    rw [attributedBy_selection]
    exact Occurrence.functions_select_ne_nil chosen
  have only : ∀ file ∈ (attributedBy answers request output).selection.scope.files,
      file = root.join ⟨"a.c"⟩ := by
    intro file inside
    rw [attributedBy_selection] at inside
    obtain ⟨key, known, rfl⟩ := Occurrence.exists_key_of_mem_scope inside
    rw [table] at known
    rw [List.mem_singleton.mp (Occurrence.Table.mem_keys_ofKeys.mp known)]
  have files : (attributedBy answers request output).selection.scope.files =
      [root.join ⟨"a.c"⟩] := by
    have filled : (attributedBy answers request output).selection.scope.files ≠ [] := by
      rw [attributedBy_selection] at selected ⊢
      exact Occurrence.scope_select_ne_nil selected
    have single : Ordered.Increasing Path.segments [root.join ⟨"a.c"⟩] :=
      List.pairwise_singleton _ _
    apply Ordered.Increasing.eq_of_mem_iff (Scope.increasing _) single
    obtain ⟨first, rest, split⟩ := List.exists_cons_of_ne_nil filled
    intro file
    rw [List.mem_singleton]
    constructor
    · exact only file
    · rintro rfl
      have first_eq := only first (split ▸ List.mem_cons_self)
      rw [split, ← first_eq]
      exact List.mem_cons_self
  have succeed : ∀ o ∈ Hits.reported output, ∃ records, answers.tags o.file = .ok records :=
    fun _ _ => ⟨_, rfl⟩
  obtain ⟨survey, final, ran, attributed⟩ := exists_run_attributed succeed request Session.start
  have obeys := run_obeys (answers.behaviour output) request Session.start
  rw [ran] at obeys
  have built := filterMap_listing?_run obeys attributed selected
  refine ⟨by decide, survey, final, _, _, ran, attributed, selected, built, files, ?_, by decide⟩
  rw [Scope.manifest, files]
  decide

end Survey

end CallAtlas
