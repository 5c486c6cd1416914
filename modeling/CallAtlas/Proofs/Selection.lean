import CallAtlas.Occurrence.Selection
import CallAtlas.Proofs.Scope
import CallAtlas.Proofs.Tally
import CallAtlas.Proofs.Text.ByteOrder

set_option autoImplicit false
set_option relaxedAutoImplicit false

namespace CallAtlas.Occurrence

/-- Keys in the order of the bytes of their files, then of their functions. -/
def Key.Precedes (a b : Key) : Prop :=
  Text.encode a.file < Text.encode b.file ∨
    a.file = b.file ∧ Text.encode a.function < Text.encode b.function

/-- A key with its count ranks before another one. -/
def Outranks (a b : Key × Nat) : Prop := b.2 < a.2 ∨ a.2 = b.2 ∧ a.1.Precedes b.1

theorem Key.precedes_iff {a b : Key} : a.Precedes b ↔ KeyOrder.below a b := by
  rw [Precedes, Text.encode_lt_iff, Text.encode_lt_iff]
  simp only [KeyOrder.below, Bool.or_eq_true, Bool.and_eq_true, decide_eq_true_eq]

def ranked (table : Table) : List (Key × Nat) :=
  table.byCount.filter fun entry => !entry.1.isGlobal

theorem mem_ranked {table : Table} {entry : Key × Nat} :
    entry ∈ ranked table ↔ entry ∈ table.entries ∧ entry.1.isGlobal = false := by
  rw [ranked, List.mem_filter, (Tally.byCount_perm table).mem_iff, Bool.not_eq_true']

theorem byCount_outranks (table : Table) : table.byCount.Pairwise Outranks := by
  apply (Tally.byCount_pairwise table).imp
  intro a b order
  exact order.imp_right fun ⟨same, before⟩ => ⟨same, Key.precedes_iff.mpr before⟩

theorem ranked_pairwise (table : Table) : (ranked table).Pairwise Outranks :=
  (byCount_outranks table).filter _

theorem topKeys_eq (table : Table) (limit : Nat) :
    topKeys table limit = ((ranked table).take limit).map Prod.fst := by
  rw [topKeys, ranked, List.map_take, List.filter_map]
  rfl

theorem mem_topKeys {table : Table} {limit : Nat} {key : Key} :
    key ∈ topKeys table limit ↔ ∃ entry ∈ (ranked table).take limit, entry.1 = key := by
  rw [topKeys_eq, List.mem_map]

theorem mem_keys_of_mem_topKeys {table : Table} {limit : Nat} {key : Key}
    (h : key ∈ topKeys table limit) : key ∈ table.keys := by
  obtain ⟨entry, inside, rfl⟩ := mem_topKeys.mp h
  exact List.mem_map_of_mem (mem_ranked.mp (List.mem_of_mem_take inside)).1

theorem mem_topKeys_of_le {table : Table} {limit : Nat} (room : table.entries.length ≤ limit)
    {key : Key} : key ∈ topKeys table limit ↔ key ∈ table.keys ∧ key.isGlobal = false := by
  have fits : (ranked table).length ≤ limit :=
    Nat.le_trans (List.length_filter_le _ _) ((Tally.byCount_perm table).length_eq ▸ room)
  rw [mem_topKeys, List.take_of_length_le fits, Tally.keys, List.mem_map]
  constructor
  · rintro ⟨entry, inside, rfl⟩
    obtain ⟨known, named⟩ := mem_ranked.mp inside
    exact ⟨⟨entry, known, rfl⟩, named⟩
  · rintro ⟨⟨entry, known, rfl⟩, named⟩
    exact ⟨entry, mem_ranked.mpr ⟨known, named⟩, rfl⟩

section Selected

variable (table : Table) (root : Path) (limit : Nat)

theorem functions_select : (select table root limit).functions =
    (((ranked table).take limit).map fun entry => entry.1.function).eraseDups := by
  change ((topKeys table limit).map Key.function).eraseDups = _
  rw [topKeys_eq, List.map_map]
  rfl

theorem scope_select : (select table root limit).scope =
    Scope.ofList (((ranked table).take limit).map fun entry => root.join ⟨entry.1.file⟩) := by
  change Scope.ofList ((topKeys table limit).map fun key => root.join ⟨key.file⟩) = _
  rw [topKeys_eq, List.map_map]
  rfl

variable {table root limit}

theorem outranks_of_notMem {left : Key × Nat} (known : left ∈ ranked table)
    (out : left ∉ (ranked table).take limit) :
    ∀ entry ∈ (ranked table).take limit, Outranks entry left := by
  intro entry inside
  have sorted := ranked_pairwise table
  rw [← List.take_append_drop limit (ranked table)] at sorted known
  have last := (List.mem_append.mp known).resolve_left out
  exact (List.pairwise_append.mp sorted).2.2 entry inside left last

theorem mem_functions_select {function : String} :
    function ∈ (select table root limit).functions ↔
      ∃ entry ∈ (ranked table).take limit, entry.1.function = function := by
  rw [functions_select, List.mem_eraseDups, List.mem_map]

theorem holds_scope_select {path : Path} :
    (select table root limit).scope.Holds path ↔
      ∃ entry ∈ (ranked table).take limit, (root.join ⟨entry.1.file⟩).Same path := by
  rw [scope_select, Scope.holds_ofList]
  constructor
  · rintro ⟨_, inside, same⟩
    obtain ⟨entry, member, rfl⟩ := List.mem_map.mp inside
    exact ⟨entry, member, same⟩
  · rintro ⟨entry, member, same⟩
    exact ⟨_, List.mem_map.mpr ⟨entry, member, rfl⟩, same⟩

theorem functions_select_ne_nil {key : Key} (h : key ∈ topKeys table limit) :
    (select table root limit).functions ≠ [] :=
  List.ne_nil_of_mem (List.mem_eraseDups.mpr (List.mem_map_of_mem h))

theorem mem_scope_select {file : Path} (inside : file ∈ (select table root limit).scope.files) :
    ∃ entry ∈ (ranked table).take limit, root.join ⟨entry.1.file⟩ = file := by
  rw [scope_select] at inside
  exact List.mem_map.mp (Scope.mem_of_mem_ofList inside)

theorem exists_key_of_mem_scope {file : Path}
    (inside : file ∈ (select table root limit).scope.files) :
    ∃ key ∈ table.keys, root.join ⟨key.file⟩ = file := by
  obtain ⟨entry, chosen, joined⟩ := mem_scope_select inside
  exact ⟨entry.1, mem_keys_of_mem_topKeys (mem_topKeys.mpr ⟨entry, chosen, rfl⟩), joined⟩

theorem scope_select_ne_nil (selected : (select table root limit).functions ≠ []) :
    (select table root limit).scope.files ≠ [] := by
  obtain ⟨function, rest, equal⟩ := List.exists_cons_of_ne_nil selected
  have first : function ∈ (select table root limit).functions := equal ▸ List.mem_cons_self
  obtain ⟨entry, inside, -⟩ := mem_functions_select.mp first
  obtain ⟨file, member, -⟩ := holds_scope_select.mpr ⟨entry, inside, Path.Same.refl _⟩
  exact List.ne_nil_of_mem member

end Selected

/-- A selection is made of the first keys of functions by rank, as many as the limit allows: its
functions are theirs by rank, each once, and its scope holds exactly their files below the root.
Every key of a function that is left out ranks after all of them.  Each function comes with a file
of the scope and each file of the scope with a function, and a greater limit keeps the functions in
front and the files in the scope. -/
theorem select_by_rank (table : Table) (root : Path) (limit : Nat) :
    let chosen := (ranked table).take limit
    let selection := select table root limit
    (ranked table).Pairwise Outranks ∧ chosen.length = min limit (ranked table).length ∧
      selection.functions = (chosen.map fun entry => entry.1.function).eraseDups ∧
      (∀ path, selection.scope.Holds path ↔
        ∃ entry ∈ chosen, (root.join ⟨entry.1.file⟩).Same path) ∧
      (∀ left ∈ table.entries, left.1.isGlobal = false → left ∉ chosen →
        ∀ entry ∈ chosen, Outranks entry left) ∧
      (∀ function ∈ selection.functions, ∃ entry ∈ chosen,
        entry.1.function = function ∧ selection.scope.Holds (root.join ⟨entry.1.file⟩)) ∧
      (∀ file ∈ selection.scope.files, ∃ entry ∈ chosen,
        entry.1.function ∈ selection.functions ∧ root.join ⟨entry.1.file⟩ = file) ∧
      ∀ more, limit ≤ more →
        selection.functions <+: (select table root more).functions ∧
          ∀ path, selection.scope.Holds path → (select table root more).scope.Holds path := by
  intro chosen selection
  refine ⟨ranked_pairwise table, List.length_take, functions_select table root limit,
    fun path => holds_scope_select, ?_, ?_, ?_, ?_⟩
  · intro left known named out
    exact outranks_of_notMem (mem_ranked.mpr ⟨known, named⟩) out
  · intro function inside
    obtain ⟨entry, member, same⟩ := mem_functions_select.mp inside
    exact ⟨entry, member, same, holds_scope_select.mpr ⟨entry, member, Path.Same.refl _⟩⟩
  · intro file inside
    obtain ⟨entry, member, same⟩ := mem_scope_select inside
    exact ⟨entry, member, mem_functions_select.mpr ⟨entry, member, rfl⟩, same⟩
  · intro more notLess
    have first : chosen <+: (ranked table).take more := List.take_prefix_take_left notLess
    constructor
    · rw [functions_select, functions_select]
      exact Distinct.eraseDups_prefix (first.map _)
    · intro path held
      obtain ⟨entry, member, same⟩ := holds_scope_select.mp held
      exact holds_scope_select.mpr ⟨entry, first.subset member, same⟩

end CallAtlas.Occurrence
