import CallAtlas.Proofs.Collected
import CallAtlas.Proofs.Text.Field
import CallAtlas.Reference.Row
import Mathlib.Data.List.Forall2

set_option autoImplicit false
set_option relaxedAutoImplicit false

namespace CallAtlas.Reference

/-- A row has enough fields, and one of them names a called function. -/
def Column.Names (column : Column) (row callee : String) : Prop :=
  fieldsMin ≤ (Text.fields row.toList).length ∧
    column.pick? (Text.fields row.toList) = some callee.toList

/-- The run that names the called function: the last one or the second one. -/
def Column.Picks : Column → List (List Char) → List Char → Prop
  | .last, runs, run => ∃ front, runs = front ++ [run]
  | .second, runs, run => ∃ first others, runs = first :: run :: others

def IsLong (row : String) : Prop := ∃ runs, Text.Runs row.toList runs ∧ 4 ≤ runs.length

/-- A long row reports a call by the function that was asked about. -/
def Call.ReportedBy (column : Column) (caller row : String) (call : Call) : Prop :=
  call.caller = caller ∧ ∃ runs, Text.Runs row.toList runs ∧ 4 ≤ runs.length ∧
    column.Picks runs call.callee.toList

/-- Two rows of the same runs, each with its own blanks around them. -/
def Respaced (row other : String) : Prop :=
  ∃ runs, Text.Runs row.toList runs ∧ Text.Runs other.toList runs

theorem isLong_iff {row : String} : IsLong row ↔ 4 ≤ (Text.fields row.toList).length := by
  simp only [IsLong, Text.runs_iff, exists_eq_left']

theorem respaced_iff {row other : String} :
    Respaced row other ↔ Text.fields other.toList = Text.fields row.toList := by
  simp only [Respaced, Text.runs_iff, exists_eq_left']

instance (row : String) : Decidable (IsLong row) := decidable_of_iff _ isLong_iff.symm

instance (row other : String) : Decidable (Respaced row other) :=
  decidable_of_iff _ respaced_iff.symm

namespace Column

variable {column : Column} {runs : List (List Char)} {run : List Char}

theorem pick?_eq_some : column.pick? runs = some run ↔ column.Picks runs run := by
  cases column with
  | last => exact List.getLast?_eq_some_iff
  | second =>
    constructor
    · intro found
      rw [pick?, List.getElem?_eq_some_iff] at found
      obtain ⟨inside, same⟩ := found
      match runs with
      | first :: next :: others =>
        have same : next = run := same
        exact ⟨first, others, by rw [same]⟩
    · rintro ⟨first, others, rfl⟩
      rfl

theorem exists_picks (column : Column) (enough : 4 ≤ runs.length) :
    ∃ run, column.Picks runs run := by
  cases column with
  | last =>
    have some : runs ≠ [] := List.ne_nil_of_length_pos (by omega)
    exact ⟨_, _, (List.dropLast_concat_getLast some).symm⟩
  | second =>
    match runs with
    | first :: next :: others => exact ⟨next, first, others, rfl⟩

theorem mem_of_picks (h : column.Picks runs run) : run ∈ runs := by
  cases column with
  | last =>
    obtain ⟨front, rfl⟩ := h
    simp
  | second =>
    obtain ⟨first, others, rfl⟩ := h
    simp

end Column

section Rows

variable {column : Column} {caller row callee : String} {call : Call} {rows : List String}

theorem calleeOf?_eq_some : calleeOf? column row = some callee ↔ column.Names row callee := by
  unfold calleeOf? Column.Names
  dsimp only
  split
  · rename_i short
    constructor
    · intro found
      cases found
    · rintro ⟨enough, -⟩
      omega
  · rename_i enough
    rw [Option.map_eq_some_iff]
    constructor
    · rintro ⟨field, found, rfl⟩
      exact ⟨by omega, by rw [found, String.toList_ofList]⟩
    · rintro ⟨-, found⟩
      exact ⟨callee.toList, found, String.ofList_toList⟩

def callOf? (column : Column) (caller row : String) : Option Call :=
  (calleeOf? column row).map fun callee => ⟨caller, callee⟩

theorem callOf?_eq_some : callOf? column caller row = some call ↔
    call.ReportedBy column caller row := by
  obtain ⟨other, callee⟩ := call
  have named : column.Names row callee ↔ ∃ runs, Text.Runs row.toList runs ∧ 4 ≤ runs.length ∧
      column.Picks runs callee.toList := by
    simp only [Column.Names, fieldsMin, Text.runs_iff, exists_eq_left', Column.pick?_eq_some]
  rw [callOf?, Option.map_eq_some_iff]
  constructor
  · rintro ⟨_, found, same⟩
    obtain ⟨rfl, rfl⟩ := Call.mk.inj same
    exact ⟨rfl, named.mp (calleeOf?_eq_some.mp found)⟩
  · rintro ⟨rfl, picked⟩
    exact ⟨callee, calleeOf?_eq_some.mpr (named.mpr picked), rfl⟩

theorem calls_eq (column : Column) (caller : String) (rows : List String) :
    calls column caller rows =
      (rows.filterMap (calleeOf? column)).map fun callee => ⟨caller, callee⟩ := by
  rw [List.map_filterMap]
  rfl

theorem calls_append (column : Column) (caller : String) (rows more : List String) :
    calls column caller (rows ++ more) = calls column caller rows ++ calls column caller more :=
  List.filterMap_append

theorem collected_calls (column : Column) (caller : String) (rows : List String) :
    Collected (fun row call => call.ReportedBy column caller row) rows
      (calls column caller rows) :=
  collected_filterMap (fun _ _ => callOf?_eq_some) rows

theorem exists_reportedBy_iff :
    (∃ call, Call.ReportedBy column caller row call) ↔ IsLong row := by
  constructor
  · rintro ⟨call, -, runs, found, enough, -⟩
    exact ⟨runs, found, enough⟩
  · rintro ⟨runs, found, enough⟩
    obtain ⟨run, picked⟩ := column.exists_picks enough
    refine ⟨⟨caller, String.ofList run⟩, rfl, runs, found, enough, ?_⟩
    rwa [String.toList_ofList]

theorem isSome_callOf? : (callOf? column caller row).isSome ↔ IsLong row := by
  rw [Option.isSome_iff_exists, ← @exists_reportedBy_iff column caller row]
  simp only [callOf?_eq_some]

theorem length_calls (column : Column) (caller : String) (rows : List String) :
    (calls column caller rows).length = rows.countP fun row => IsLong row := by
  have reads : (fun row => (callOf? column caller row).isSome) = fun row => decide (IsLong row) := by
    funext row
    rw [Bool.eq_iff_iff, isSome_callOf?, decide_eq_true_eq]
  rw [← reads]
  exact List.length_filterMap_eq_countP

theorem calls_eq_nil (short : ∀ row ∈ rows, ¬IsLong row) : calls column caller rows = [] := by
  apply List.eq_nil_of_length_eq_zero
  rw [length_calls, List.countP_eq_zero]
  simpa using short

theorem callee_solid (h : call ∈ calls column caller rows) :
    call.callee ≠ "" ∧ ∀ c ∈ call.callee.toList, Text.isBlank c = false := by
  obtain ⟨row, -, found⟩ := List.mem_filterMap.mp h
  obtain ⟨-, runs, split, -, picked⟩ := callOf?_eq_some.mp found
  obtain ⟨some, solid⟩ := Text.fields_proper row.toList call.callee.toList
    (Text.runs_iff.mp split ▸ Column.mem_of_picks picked)
  refine ⟨?_, solid⟩
  rintro none
  exact some (by rw [none]; rfl)

theorem calls_respaced {others : List String} (respaced : List.Forall₂ Respaced rows others) :
    calls column caller others = calls column caller rows := by
  induction respaced with
  | nil => rfl
  | @cons row other rest rest' same _ ih =>
    have callee : calleeOf? column other = calleeOf? column row := by
      rw [calleeOf?, calleeOf?, respaced_iff.mp same]
    rw [calls, calls, List.filterMap_cons, List.filterMap_cons, callee]
    rw [calls, calls] at ih
    rw [ih]

end Rows

/-- Of the rows of a query each long one is read as one call, in the order of the rows, and the
others as none.  The called function is the last or the second run of its row, so it is a name
without blanks.  The same rows are read under both columns, other blanks around the runs of a row
and short rows at any place change nothing, and rows that are put together are read one part after
the other. -/
theorem calls_of_runs (column : Column) (caller : String) (rows : List String) :
    Collected (fun row call => call.ReportedBy column caller row) rows
        (calls column caller rows) ∧
      (∀ call ∈ calls column caller rows,
        call.callee ≠ "" ∧ ∀ c ∈ call.callee.toList, Text.isBlank c = false) ∧
      (∀ other row, (calls other caller [row]).length = if IsLong row then 1 else 0) ∧
      (∀ others, List.Forall₂ Respaced rows others →
        calls column caller others = calls column caller rows) ∧
      (∀ front back short, rows = front ++ back → (∀ row ∈ short, ¬IsLong row) →
        calls column caller (front ++ short ++ back) = calls column caller rows) ∧
      ∀ more, calls column caller (rows ++ more) =
        calls column caller rows ++ calls column caller more := by
  refine ⟨collected_calls column caller rows, fun call => callee_solid, ?_,
    fun others => calls_respaced, ?_, calls_append column caller rows⟩
  · intro other row
    rw [length_calls, List.countP_singleton]
    simp only [decide_eq_true_eq]
  · rintro front back short rfl silent
    rw [calls_append, calls_append, calls_append, calls_eq_nil silent, List.append_nil]

/-- Blanks of several kinds, around the runs and between them, and a row of three runs. -/
theorem calls_of_runs_respaced :
    let rows := ["a.c f 1 g x", "b.c g 2 f"]
    let others := ["\u2003a.c\tf  1\u00a0g x", "b.c g 2\u2028\nf "]
    let found : List Call := [⟨"h", "x"⟩, ⟨"h", "f"⟩]
    List.Forall₂ Respaced rows others ∧ ¬IsLong " a b \u3000c" ∧
      calls .last "h" others = found ∧
      calls .last "h" (["a.c f 1 g x"] ++ [" a b \u3000c"] ++ ["b.c g 2 f"]) = found := by
  intro rows others found
  have respaced : List.Forall₂ Respaced rows others := by decide
  have short : ∀ row ∈ [" a b \u3000c"], ¬IsLong row := by decide
  have read : calls .last "h" rows = found := by decide
  obtain ⟨-, -, -, again, between, -⟩ := calls_of_runs .last "h" rows
  exact ⟨respaced, short _ List.mem_cons_self, (again others respaced).trans read,
    (between _ _ _ rfl short).trans read⟩

end CallAtlas.Reference
