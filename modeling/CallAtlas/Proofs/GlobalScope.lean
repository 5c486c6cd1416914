import CallAtlas.Proofs.Inventory
import CallAtlas.Proofs.Selection

set_option autoImplicit false
set_option relaxedAutoImplicit false

namespace CallAtlas.Occurrence

/-- The number of occurrences that a table has under the global scopes of all files. -/
def Table.globalCount (table : Table) : Nat :=
  ((table.keys.filter Key.isGlobal).map table.count).sum

def spanOf? (tags : Path → List Tag.Record) (o : Hits.Occurrence) : Option Span :=
  Span.containing? (Span.ofRecords (tags o.file)) o.line

/-- The line of an occurrence lies in no span of its file. -/
def LiesOutside (tags : Path → List Tag.Record) (o : Hits.Occurrence) : Prop :=
  ∀ span ∈ Span.ofRecords (tags o.file), span.contains o.line = false

instance (tags : Path → List Tag.Record) (o : Hits.Occurrence) : Decidable (LiesOutside tags o) :=
  inferInstanceAs (Decidable (∀ span ∈ Span.ofRecords (tags o.file), span.contains o.line = false))

/-- An occurrence in a function with the name of the global scope. -/
def LiesInNamesake (tags : Path → List Tag.Record) (o : Hits.Occurrence) : Prop :=
  (spanOf? tags o).map Span.name = some Key.globalScope

instance (tags : Path → List Tag.Record) (o : Hits.Occurrence) :
    Decidable (LiesInNamesake tags o) :=
  inferInstanceAs (Decidable (_ = _))

theorem spanOf?_eq_none {tags : Path → List Tag.Record} {o : Hits.Occurrence} :
    spanOf? tags o = none ↔ LiesOutside tags o := by
  rw [spanOf?, Span.containing?, List.find?_eq_none]
  simp only [LiesOutside, Bool.not_eq_true]

variable {root : Path} {tags : Path → List Tag.Record}

theorem keyOf_of_span {o : Hits.Occurrence} {span : Span} (inside : spanOf? tags o = some span) :
    keyOf root tags o = ⟨Path.label root o.file, span.name⟩ := by
  rw [spanOf?] at inside
  rw [keyOf, owner, inside]

theorem isGlobal_keyOf (o : Hits.Occurrence) :
    (keyOf root tags o).isGlobal = true ↔ LiesOutside tags o ∨ LiesInNamesake tags o := by
  rw [← spanOf?_eq_none, LiesInNamesake, keyOf, Key.isGlobal, decide_eq_true_eq, owner, ← spanOf?]
  cases spanOf? tags o with
  | none => simp
  | some span => simp

theorem not_liesInNamesake {o : Hits.Occurrence} (outside : LiesOutside tags o) :
    ¬LiesInNamesake tags o := by
  rw [LiesInNamesake, spanOf?_eq_none.mpr outside]
  exact nofun

theorem countP_isGlobal_keyOf (occurrences : List Hits.Occurrence) :
    (occurrences.countP fun o => (keyOf root tags o).isGlobal) =
      occurrences.countP (LiesOutside tags ·) + occurrences.countP (LiesInNamesake tags ·) := by
  induction occurrences with
  | nil => rfl
  | cons o rest ih =>
    have global := @isGlobal_keyOf root tags o
    rw [List.countP_cons, List.countP_cons, List.countP_cons, ih]
    simp only [decide_eq_true_eq]
    by_cases outside : LiesOutside tags o
    · rw [if_pos (global.mpr (.inl outside)), if_pos outside, if_neg (not_liesInNamesake outside)]
      omega
    · by_cases namesake : LiesInNamesake tags o
      · rw [if_pos (global.mpr (.inr namesake)), if_neg outside, if_pos namesake]
        omega
      · rw [if_neg fun found => (global.mp found).elim outside namesake, if_neg outside,
          if_neg namesake]
        omega

theorem globalCount_tableOf (root : Path) (tags : Path → List Tag.Record) (hits : Hits) :
    (tableOf root tags hits).globalCount =
      hits.occurrences.countP (LiesOutside tags ·) +
        hits.occurrences.countP (LiesInNamesake tags ·) := by
  rw [Table.globalCount, tableOf, Table.sum_count_ofKeys, List.countP_map]
  exact countP_isGlobal_keyOf hits.occurrences

theorem countP_liesInNamesake_eq_zero {hits : Hits}
    (apart : ∀ file ∈ hits.paths, ∀ span ∈ Span.ofRecords (tags file),
      span.name ≠ Key.globalScope) :
    hits.occurrences.countP (LiesInNamesake tags ·) = 0 := by
  refine List.countP_eq_zero.mpr fun o inside namesake => ?_
  rw [decide_eq_true_eq, LiesInNamesake, Option.map_eq_some_iff] at namesake
  obtain ⟨span, found, named⟩ := namesake
  exact apart o.file (Hits.file_mem_paths inside) span (List.mem_of_find?_eq_some found) named

/-- Where all tag calls get their answers, the keys of the global scopes count the occurrences
outside of every function, and those in functions that have the name of the global scope; where no
function of a file with hits has it, they count the first alone.  An occurrence in a function is
charged to the label of its file and the name of the function, and this key can be selected unless
the function has that name. -/
theorem tabulate_separates_global_scope (behaviour : Behaviour) (session : Session) (root : Path)
    (hits : Hits) (tags : Path → List Tag.Record)
    (tagged : behaviour.Tagged session.journal hits.paths tags) :
    ∃ table, ((tabulate (Services.recorded behaviour) root hits).run session).1 = .ok table ∧
      table.globalCount = hits.occurrences.countP (LiesOutside tags ·) +
        hits.occurrences.countP (LiesInNamesake tags ·) ∧
      ((∀ file ∈ hits.paths, ∀ span ∈ Span.ofRecords (tags file),
          span.name ≠ Key.globalScope) →
        table.globalCount = hits.occurrences.countP (LiesOutside tags ·)) ∧
      ∀ o ∈ hits.occurrences, ∀ span, spanOf? tags o = some span →
        let key : Key := ⟨Path.label root o.file, span.name⟩
        key ∈ table.keys ∧ (key.isGlobal = true ↔ span.name = Key.globalScope) ∧
          ∀ limit, table.entries.length ≤ limit →
            (key ∈ topKeys table limit ↔ span.name ≠ Key.globalScope) := by
  have counts := globalCount_tableOf root tags hits
  refine ⟨tableOf root tags hits, tabulate_answered tagged, counts, ?_, ?_⟩
  · intro apart
    rw [counts, countP_liesInNamesake_eq_zero apart, Nat.add_zero]
  · intro o inside span found key
    have charged : key ∈ (tableOf root tags hits).keys := by
      rw [tableOf, Table.mem_keys_ofKeys]
      exact List.mem_map.mpr ⟨o, inside, keyOf_of_span found⟩
    have global : key.isGlobal = true ↔ span.name = Key.globalScope := decide_eq_true_iff
    refine ⟨charged, global, fun limit room => ?_⟩
    rw [mem_topKeys_of_le room, and_iff_right charged, ← Bool.not_eq_true, global]

/-- Lines before and in a function. -/
theorem tabulate_separates_global_scope_one_function :
    let start : Tag.Record :=
      [("kind", .string Tag.functionKind), ("line", .integer 4), ("name", .string "f")]
    let behaviour : Behaviour :=
      ⟨fun _ _ _ => .ok Hits.empty, fun _ _ => .ok [start], fun _ _ => .ok (), fun _ _ => .ok []⟩
    let hits := Hits.ofList [⟨⟨"/r/x"⟩, [3, 4, 9]⟩]
    ∃ table, ((tabulate (Services.recorded behaviour) ⟨"/r"⟩ hits).run Session.start).1 =
        .ok table ∧ table.globalCount = 1 ∧
      ∃ key : Key, key = ⟨"x", "f"⟩ ∧ key.isGlobal = false ∧
        ∀ limit, table.entries.length ≤ limit → key ∈ topKeys table limit := by
  intro start behaviour hits
  obtain ⟨table, found, -, outside, inside⟩ := tabulate_separates_global_scope behaviour
    Session.start ⟨"/r"⟩ hits (fun _ => [start])
    (Behaviour.answered_cons.mpr ⟨rfl, Behaviour.answered_nil⟩)
  obtain ⟨-, global, chosen⟩ := inside ⟨⟨"/r/x"⟩, 9⟩ (by decide) ⟨"f", 4, Span.openEnd⟩
    (by decide +kernel)
  refine ⟨table, found, (outside (by decide +kernel)).trans (by decide +kernel), _, by decide, ?_,
    fun limit room => (chosen limit room).mpr (by decide)⟩
  exact Bool.eq_false_iff.mpr fun found => absurd (global.mp found) (by decide)

/-- An occurrence in a function with the name of the global scope counts as one outside of every
function, and is never selected. -/
theorem tabulate_confuses_namesake :
    let start : Tag.Record := [("kind", .string Tag.functionKind), ("line", .integer 1),
      ("name", .string Key.globalScope)]
    let behaviour : Behaviour :=
      ⟨fun _ _ _ => .ok Hits.empty, fun _ _ => .ok [start], fun _ _ => .ok (), fun _ _ => .ok []⟩
    let hits := Hits.ofList [⟨⟨"/r/a.c"⟩, [5]⟩]
    ∃ table, ((tabulate (Services.recorded behaviour) ⟨"/r"⟩ hits).run Session.start).1 =
        .ok table ∧ table.globalCount = 1 ∧
      hits.occurrences.countP (LiesOutside (fun _ => [start]) ·) = 0 ∧
        (select table ⟨"/r"⟩ 10).functions = [] := by
  intro start behaviour hits
  have tagged : behaviour.Tagged Session.start.journal hits.paths fun _ => [start] :=
    Behaviour.answered_cons.mpr ⟨rfl, Behaviour.answered_nil⟩
  refine ⟨_, tabulate_answered tagged, ?_, ?_, ?_⟩
  · decide +kernel
  · decide +kernel
  · decide +kernel

end CallAtlas.Occurrence
