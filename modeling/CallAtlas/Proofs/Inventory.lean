import CallAtlas.Inventory
import CallAtlas.Proofs.Attribution
import Mathlib.Algebra.BigOperators.Group.List.Lemmas
import Mathlib.Algebra.GroupWithZero.Nat

set_option autoImplicit false
set_option relaxedAutoImplicit false

namespace CallAtlas

namespace Occurrence.Table

def files (table : Table) : List String := table.keys.map Key.file

def functionsIn (table : Table) (label : String) : List String :=
  (table.keys.filter fun key => key.file = label).map Key.function

def countIn (table : Table) (label : String) : Nat :=
  ((table.functionsIn label).map fun function => table.count ⟨label, function⟩).sum

theorem keys_ofKeys_perm (keys : List Key) : (ofKeys keys).keys.Perm keys.dedup := by
  apply (List.perm_ext_iff_of_nodup (Tally.keys_nodup _) keys.nodup_dedup).mpr
  intro key
  rw [mem_keys_ofKeys, List.mem_dedup]

theorem countIn_eq (table : Table) (label : String) :
    table.countIn label = ((table.keys.filter fun key => key.file = label).map table.count).sum := by
  rw [countIn, functionsIn, List.map_map]
  congr 1
  apply List.map_congr_left
  intro key inside
  have here : key.file = label := by simpa using (List.mem_filter.mp inside).2
  rw [Function.comp_apply, ← here]

theorem sum_count_ofKeys (keys : List Key) (p : Key → Bool) :
    (((ofKeys keys).keys.filter p).map (ofKeys keys).count).sum = keys.countP p :=
  calc (((ofKeys keys).keys.filter p).map (ofKeys keys).count).sum
      = (((ofKeys keys).keys.filter p).map keys.count).sum := by
        rw [funext (count_ofKeys keys)]
    _ = ((keys.dedup.filter p).map keys.count).sum :=
        (((keys_ofKeys_perm keys).filter _).map _).sum_nat
    _ = keys.countP p := List.sum_map_count_dedup_filter_eq_countP _ keys

theorem countIn_ofKeys (keys : List Key) (label : String) :
    (ofKeys keys).countIn label = keys.countP fun key => key.file = label := by
  rw [countIn_eq]
  exact sum_count_ofKeys keys _

end Occurrence.Table

namespace Inventory

theorem count_ofHits (root : Path) (hits : Hits) (label : String) :
    (ofHits root hits).count label =
      hits.occurrences.countP fun o => Path.label root o.file = label := by
  rw [ofHits, Tally.count_foldl_add, Tally.count_empty, Nat.zero_add]
  exact (hits.countP_file_occurrences fun file => Path.label root file = label).symm

theorem total_ofHits (root : Path) (hits : Hits) :
    (ofHits root hits).total = hits.occurrences.length := by
  rw [ofHits, Tally.total_foldl_add, Hits.length_occurrences]
  exact Nat.zero_add _

theorem mem_keys_ofHits {root : Path} {hits : Hits} {label : String} :
    label ∈ (ofHits root hits).keys ↔ ∃ file ∈ hits.paths, Path.label root file = label := by
  have none : label ∉ (Tally.empty : Inventory).keys := List.not_mem_nil
  rw [ofHits, Tally.mem_keys_foldl_add]
  simp only [none, false_or, Hits.paths, List.mem_map, exists_exists_and_eq_and]

end Inventory

namespace Occurrence

theorem countIn_tableOf (root : Path) (tags : Path → List Tag.Record) (hits : Hits)
    (label : String) : (tableOf root tags hits).countIn label =
      hits.occurrences.countP fun o => Path.label root o.file = label := by
  rw [tableOf, Table.countIn_ofKeys, List.countP_map]
  rfl

theorem mem_files_tableOf {root : Path} {tags : Path → List Tag.Record} {hits : Hits}
    {label : String} : label ∈ (tableOf root tags hits).files ↔
      ∃ o ∈ hits.occurrences, Path.label root o.file = label := by
  rw [Table.files, List.mem_map]
  simp only [tableOf, Table.mem_keys_ofKeys, List.mem_map]
  constructor
  · rintro ⟨_, ⟨o, inside, rfl⟩, rfl⟩
    exact ⟨o, inside, rfl⟩
  · rintro ⟨o, inside, rfl⟩
    exact ⟨_, ⟨o, inside, rfl⟩, rfl⟩

theorem mem_keys_iff_mem_files {root : Path} {tags : Path → List Tag.Record} {hits : Hits}
    (filled : ∀ entry ∈ hits.files, entry.lines ≠ []) {label : String} :
    label ∈ (Inventory.ofHits root hits).keys ↔ label ∈ (tableOf root tags hits).files := by
  rw [Inventory.mem_keys_ofHits, mem_files_tableOf]
  constructor
  · rintro ⟨file, inside, rfl⟩
    obtain ⟨entry, member, rfl⟩ := List.mem_map.mp inside
    obtain ⟨line, first⟩ := List.exists_mem_of_ne_nil _ (filled entry member)
    exact ⟨⟨entry.file, line⟩, Hits.mem_occurrencesIn.mpr ⟨entry, member, rfl, first⟩, rfl⟩
  · rintro ⟨o, member, rfl⟩
    exact ⟨o.file, Hits.file_mem_paths member, rfl⟩

/-- Where all tag calls get their answers, the inventory of the hits and the table that attribution
gives count as many occurrences under every label and in total, and for the hits of a search output
they have the same labels. -/
theorem tabulate_agrees_with_inventory (behaviour : Behaviour) (session : Session) (root : Path)
    (hits : Hits) (tags : Path → List Tag.Record)
    (tagged : behaviour.Tagged session.journal hits.paths tags) :
    ∃ table, ((tabulate (Services.recorded behaviour) root hits).run session).1 = .ok table ∧
      (∀ label, (Inventory.ofHits root hits).count label = table.countIn label) ∧
      (Inventory.ofHits root hits).total = table.total ∧
      ∀ output, hits = Hits.read output →
        ∀ label, label ∈ (Inventory.ofHits root hits).keys ↔ label ∈ table.files := by
  refine ⟨tableOf root tags hits, tabulate_answered tagged, ?_, ?_, ?_⟩
  · intro label
    rw [Inventory.count_ofHits, countIn_tableOf]
  · rw [Inventory.total_ofHits, tableOf, Table.total_ofKeys, List.length_map]
  · rintro output rfl label
    exact mem_keys_iff_mem_files (Hits.lines_ofOccurrences_ne_nil _)

/-- Two paths with one label, a line twice, lines in and outside of a function, and a row that is
no record. -/
theorem tabulate_agrees_with_inventory_shared_label :
    let start : Tag.Record :=
      [("kind", .string Tag.functionKind), ("line", .integer 4), ("name", .string "f")]
    let behaviour : Behaviour :=
      ⟨fun _ _ _ => .ok Hits.empty, fun _ _ => .ok [start], fun _ _ => .ok (), fun _ _ => .ok []⟩
    let hits := Hits.read "/r/x:4:m\nx:1:m\ny:0:m\nx:9:m\n/r/x:4:m\n"
    ∃ table, ((tabulate (Services.recorded behaviour) ⟨"/r"⟩ hits).run Session.start).1 =
        .ok table ∧
      (Inventory.ofHits ⟨"/r"⟩ hits).count "x" = table.countIn "x" ∧
      table.countIn "x" = 4 ∧ table.total = 4 ∧ "x" ∈ table.files ∧ "y" ∉ table.files := by
  intro start behaviour hits
  obtain ⟨table, found, counts, totals, labels⟩ := tabulate_agrees_with_inventory behaviour
    Session.start ⟨"/r"⟩ hits (fun _ => [start])
    (Behaviour.answered_cons.mpr ⟨rfl, Behaviour.answered_cons.mpr ⟨rfl, Behaviour.answered_nil⟩⟩)
  refine ⟨table, found, counts _, ?_, ?_, ?_, ?_⟩
  · exact (counts _).symm.trans (by decide)
  · exact totals.symm.trans (by decide)
  · exact (labels _ rfl _).mp (by decide)
  · exact fun inside => absurd ((labels _ rfl _).mpr inside) (by decide)

end Occurrence

end CallAtlas
