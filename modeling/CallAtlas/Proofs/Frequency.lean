import CallAtlas.Proofs.Inventory
import CallAtlas.Proofs.Selection

set_option autoImplicit false
set_option relaxedAutoImplicit false

namespace CallAtlas.Occurrence.Table

variable {keys others : List Key}

theorem size_ofKeys (keys : List Key) : (ofKeys keys).size = keys.dedup.length := by
  have known := (keys_ofKeys_perm keys).length_eq
  rwa [Tally.keys, List.length_map] at known

theorem mem_entries_ofKeys {entry : Key × Nat} :
    entry ∈ (ofKeys keys).entries ↔ entry.1 ∈ keys ∧ entry.2 = keys.count entry.1 := by
  obtain ⟨key, count⟩ := entry
  have counted : ((ofKeys keys).entries.lookup key).getD 0 = keys.count key := count_ofKeys keys key
  rw [Tally.mem_entries_iff, ← mem_keys_ofKeys, Tally.mem_keys_iff, ← counted]
  cases found : (ofKeys keys).entries.lookup key with
  | none => simp
  | some times => simp [eq_comm]

theorem entries_pairwise (table : Table) :
    table.entries.Pairwise fun a b => a.1.Precedes b.1 := by
  apply table.increasing.imp
  intro a b before
  exact Key.precedes_iff.mpr before

theorem ofKeys_eq_iff : ofKeys keys = ofKeys others ↔ keys.Perm others := by
  constructor
  · intro same
    apply List.perm_iff_count.mpr
    intro key
    rw [← count_ofKeys keys, ← count_ofKeys others, same]
  · exact ofKeys_perm

/-- After any sequence of records the table counts each key as often as it was recorded, has as many
entries as there are different keys, and counts as many occurrences as there were records.  Its
entries are the recorded keys with their counts, strictly increasing by the bytes of the file and
then of the function; by frequency the same entries stand with the greater counts first and, among
equal ones, the lesser keys.  Sequences give the same table exactly if they are permutations. -/
theorem ofKeys_counts_records (keys : List Key) :
    let table := ofKeys keys
    (∀ key, table.count key = keys.count key) ∧ table.size = keys.dedup.length ∧
      table.total = keys.length ∧
      (∀ entry, entry ∈ table.entries ↔ entry.1 ∈ keys ∧ entry.2 = keys.count entry.1) ∧
      (table.entries.Pairwise fun a b => a.1.Precedes b.1) ∧
      table.byCount.Perm table.entries ∧ table.byCount.Pairwise Outranks ∧
      ∀ others, ofKeys others = table ↔ others.Perm keys := by
  intro table
  refine ⟨count_ofKeys keys, size_ofKeys keys, total_ofKeys keys, fun entry => mem_entries_ofKeys,
    entries_pairwise table, Tally.byCount_perm table, byCount_outranks table, ?_⟩
  intro others
  exact ofKeys_eq_iff

end CallAtlas.Occurrence.Table
