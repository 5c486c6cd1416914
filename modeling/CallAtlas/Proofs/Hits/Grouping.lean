import CallAtlas.Proofs.Collected
import CallAtlas.Proofs.Hits.Record
import CallAtlas.Proofs.Text.Line

set_option autoImplicit false
set_option relaxedAutoImplicit false

/-!
Grouping told at once.  Hits are known by their paths and by the lines that they hold under each
path; adding an entry adds its path, if it is new, and its lines.  So what a search output is read
as can be told from its records: the first spellings, each with all lines of its path.
-/

namespace CallAtlas.Hits

/-- The paths in the order of their first appearance, each in its first spelling. -/
def firstSpellings : List Path → List Path
  | [] => []
  | path :: rest => path :: (firstSpellings rest).filter fun other => ¬path.Same other

/-- The lines of a file under any spelling, entry by entry. -/
def linesOf (file : Path) (entries : List FileHits) : List Nat :=
  (entries.filter fun entry => entry.file.Same file).flatMap FileHits.lines

/-- Every file once, with all its lines. -/
def grouping (entries : List FileHits) : List FileHits :=
  (firstSpellings (entries.map FileHits.file)).map fun file => ⟨file, linesOf file entries⟩

def Occurrence.entry (o : Occurrence) : FileHits := ⟨o.file, [o.line]⟩

/-! First spellings. -/

section Spellings

variable {paths more : List Path} {path : Path}

theorem mem_of_mem_firstSpellings (h : path ∈ firstSpellings paths) : path ∈ paths := by
  induction paths with
  | nil => exact h
  | cons first rest ih =>
    rcases List.mem_cons.mp h with rfl | later
    · exact List.mem_cons_self
    · exact List.mem_cons_of_mem _ (ih (List.mem_filter.mp later).1)

theorem exists_mem_firstSpellings (h : path ∈ paths) :
    ∃ first ∈ firstSpellings paths, first.Same path := by
  induction paths with
  | nil => cases h
  | cons first rest ih =>
    by_cases same : first.Same path
    · exact ⟨first, List.mem_cons_self, same⟩
    · have inside : path ∈ rest := by
        rcases List.mem_cons.mp h with rfl | inside
        · exact absurd (Path.Same.refl path) same
        · exact inside
      obtain ⟨other, member, equal⟩ := ih inside
      have apart : ¬first.Same other := fun found => same (found.trans equal)
      refine ⟨other, List.mem_cons_of_mem _ (List.mem_filter.mpr ⟨member, ?_⟩), equal⟩
      simpa using apart

theorem firstSpellings_pairwise (paths : List Path) :
    (firstSpellings paths).Pairwise fun a b => ¬a.Same b := by
  induction paths with
  | nil => exact List.Pairwise.nil
  | cons first rest ih =>
    refine List.pairwise_cons.mpr ⟨?_, ih.filter _⟩
    intro other inside
    simpa using (List.mem_filter.mp inside).2

theorem firstSpellings_of_pairwise (apart : paths.Pairwise fun a b => ¬a.Same b) :
    firstSpellings paths = paths := by
  induction paths with
  | nil => rfl
  | cons first rest ih =>
    obtain ⟨new, others⟩ := List.pairwise_cons.mp apart
    rw [firstSpellings, ih others, List.filter_eq_self.mpr]
    simpa using new

theorem firstSpellings_append (paths more : List Path) :
    firstSpellings (paths ++ more) = firstSpellings paths ++
      (firstSpellings more).filter fun path => ∀ first ∈ paths, ¬first.Same path := by
  induction paths with
  | nil => exact (List.filter_eq_self.mpr fun _ _ => by simp).symm
  | cons first rest ih =>
    rw [List.cons_append, firstSpellings, ih, List.filter_append, List.filter_filter, firstSpellings,
      List.cons_append]
    simp only [List.forall_mem_cons, Bool.decide_and]

theorem firstSpellings_onto (paths more : List Path) :
    firstSpellings (firstSpellings paths ++ more) = firstSpellings (paths ++ more) := by
  have known (path : Path) : (∀ first ∈ firstSpellings paths, ¬first.Same path) ↔
      ∀ first ∈ paths, ¬first.Same path := by
    constructor
    · intro new first inside same
      obtain ⟨other, member, equal⟩ := exists_mem_firstSpellings inside
      exact new other member (equal.trans same)
    · intro new first inside
      exact new first (mem_of_mem_firstSpellings inside)
  rw [firstSpellings_append, firstSpellings_append,
    firstSpellings_of_pairwise (firstSpellings_pairwise paths)]
  simp only [known]

theorem firstSpellings_before (paths more : List Path) :
    firstSpellings (paths ++ firstSpellings more) = firstSpellings (paths ++ more) := by
  rw [firstSpellings_append, firstSpellings_append,
    firstSpellings_of_pairwise (firstSpellings_pairwise more)]

end Spellings

/-! Lines of a file. -/

section Lines

variable {entries : List FileHits} {file other : Path} {lines : List Nat}

theorem linesOf_cons (entry : FileHits) (rest : List FileHits) :
    linesOf file (entry :: rest) =
      (if entry.file.Same file then entry.lines else []) ++ linesOf file rest := by
  by_cases same : entry.file.Same file <;> simp [linesOf, same]

theorem linesOf_of_new (new : ∀ entry ∈ entries, ¬entry.file.Same file) :
    linesOf file entries = [] := by
  have none : entries.filter (fun entry => entry.file.Same file) = [] := by
    apply List.filter_eq_nil_iff.mpr
    simpa using new
  rw [linesOf, none, List.flatMap_nil]

theorem linesOf_addTo (distinct : entries.Pairwise fun a b => ¬a.file.Same b.file) :
    linesOf file (addTo other lines entries) =
      linesOf file entries ++ if other.Same file then lines else [] := by
  induction entries with
  | nil =>
    rw [addTo, linesOf_cons]
    simp [linesOf]
  | cons entry rest ih =>
    obtain ⟨apart, others⟩ := List.pairwise_cons.mp distinct
    unfold addTo
    split
    · rename_i same
      rw [linesOf_cons, linesOf_cons]
      by_cases here : other.Same file
      · -- No later entry has the path, so the new lines are the last ones.
        have new : ∀ later ∈ rest, ¬later.file.Same file := fun later inside equal =>
          apart later inside ((same.trans here).trans equal.symm)
        rw [if_pos (same.trans here), if_pos (same.trans here), if_pos here, linesOf_of_new new,
          List.append_nil, List.append_nil]
      · have there : ¬entry.file.Same file := fun found => here (same.symm.trans found)
        rw [if_neg there, if_neg there, if_neg here, List.append_nil]
    · rw [linesOf_cons, linesOf_cons, ih others, List.append_assoc]

theorem map_file_addTo : (addTo other lines entries).map FileHits.file =
    entries.map FileHits.file ++
      [other].filter fun path => ∀ first ∈ entries.map FileHits.file, ¬first.Same path := by
  induction entries with
  | nil => simp [addTo]
  | cons entry rest ih =>
    unfold addTo
    split
    · rename_i same
      simp [same]
    · rename_i apart
      rw [List.map_cons, List.map_cons, ih]
      simp [List.filter_cons, apart]

theorem paths_add (hits : Hits) (file : Path) (lines : List Nat) :
    (hits.add file lines).paths = firstSpellings (hits.paths ++ [file]) := by
  rw [firstSpellings_append, firstSpellings_of_pairwise hits.paths_distinct]
  exact map_file_addTo

end Lines

/-! Adding entries. -/

def addAll (hits : Hits) (entries : List FileHits) : Hits :=
  entries.foldl (fun hits entry => hits.add entry.file entry.lines) hits

theorem linesOf_addAll (file : Path) (hits : Hits) (entries : List FileHits) :
    linesOf file (hits.addAll entries).files = linesOf file hits.files ++ linesOf file entries := by
  induction entries generalizing hits with
  | nil => simp [addAll, linesOf]
  | cons entry rest ih =>
    have later := ih (hits.add entry.file entry.lines)
    rw [files_add, linesOf_addTo hits.distinct, List.append_assoc, ← linesOf_cons] at later
    exact later

theorem paths_addAll (hits : Hits) (entries : List FileHits) :
    (hits.addAll entries).paths = firstSpellings (hits.paths ++ entries.map FileHits.file) := by
  induction entries generalizing hits with
  | nil =>
    rw [List.map_nil, List.append_nil]
    exact (firstSpellings_of_pairwise hits.paths_distinct).symm
  | cons entry rest ih =>
    have later := ih (hits.add entry.file entry.lines)
    rw [paths_add, firstSpellings_onto, List.append_assoc] at later
    exact later

theorem map_linesOf_file {entries : List FileHits}
    (distinct : entries.Pairwise fun a b => ¬a.file.Same b.file) :
    (entries.map fun entry => (⟨entry.file, linesOf entry.file entries⟩ : FileHits)) = entries := by
  induction entries with
  | nil => rfl
  | cons entry rest ih =>
    obtain ⟨apart, others⟩ := List.pairwise_cons.mp distinct
    have new : ∀ later ∈ rest, ¬later.file.Same entry.file := fun later inside same =>
      apart later inside same.symm
    have first : linesOf entry.file (entry :: rest) = entry.lines := by
      rw [linesOf_cons, if_pos (Path.Same.refl _), linesOf_of_new new, List.append_nil]
    rw [List.map_cons, first]
    congr 1
    refine Eq.trans (List.map_congr_left ?_) (ih others)
    intro later inside
    rw [linesOf_cons, if_neg (apart later inside), List.nil_append]

/-- Hits are known by their paths and the lines of each. -/
theorem files_eq (hits : Hits) :
    hits.files = hits.paths.map fun file => ⟨file, linesOf file hits.files⟩ := by
  rw [paths, List.map_map]
  exact (map_linesOf_file hits.distinct).symm

theorem files_addAll (hits : Hits) (entries : List FileHits) :
    (hits.addAll entries).files = grouping (hits.files ++ entries) := by
  rw [files_eq, paths_addAll, grouping, List.map_append]
  apply List.map_congr_left
  intro file _
  rw [linesOf_addAll, linesOf, linesOf, linesOf, List.filter_append, List.flatMap_append]

theorem addAll_files_addAll (hits : Hits) (entries : List FileHits) :
    hits.addAll (empty.addAll entries).files = hits.addAll entries := by
  have grouped := paths_addAll empty entries
  have kept (file : Path) := linesOf_addAll file empty entries
  rw [paths] at grouped
  apply ext
  rw [files_eq (hits.addAll _), files_eq (hits.addAll entries), paths_addAll, paths_addAll, grouped]
  simp only [linesOf_addAll, kept]
  rw [← firstSpellings_before hits.paths (entries.map FileHits.file)]
  rfl

theorem sum_lengths_addTo (file : Path) (lines : List Nat) (entries : List FileHits) :
    ((addTo file lines entries).map fun entry => entry.lines.length).sum =
      (entries.map fun entry => entry.lines.length).sum + lines.length := by
  induction entries with
  | nil => simp [addTo]
  | cons entry rest ih =>
    unfold addTo
    split
    · simp only [List.map_cons, List.sum_cons, List.length_append]
      omega
    · simp only [List.map_cons, List.sum_cons, ih]
      omega

theorem sum_lengths_addAll (hits : Hits) (entries : List FileHits) :
    ((hits.addAll entries).files.map fun entry => entry.lines.length).sum =
      (hits.files.map fun entry => entry.lines.length).sum +
        (entries.map fun entry => entry.lines.length).sum := by
  induction entries generalizing hits with
  | nil => rfl
  | cons entry rest ih =>
    have later := ih (hits.add entry.file entry.lines)
    rw [files_add, sum_lengths_addTo] at later
    rw [List.map_cons, List.sum_cons, ← Nat.add_assoc]
    exact later

/-! Records of a search output. -/

def rowsOf (output : String) : List (List Char) :=
  (Text.pieces '\n' output.toList).map Text.withoutReturn

/-- Some occurrences are the records of an output, row by row. -/
def Records (output : String) (records : List Occurrence) : Prop :=
  Collected (fun row o => Occurrence.WrittenIn o row) (rowsOf output) records

theorem reported_eq (output : String) :
    reported output = (rowsOf output).filterMap Occurrence.read? := by
  rw [reported, Text.filterMap_lines (by decide) Occurrence.read?_withoutReturn, rowsOf,
    List.filterMap_map]
  simp only [Function.comp_def, Occurrence.read?_withoutReturn]

theorem records_iff {output : String} {records : List Occurrence} :
    Records output records ↔ records = reported output := by
  rw [Records, collected_iff fun _ _ => Occurrence.read?_eq_some, reported_eq, eq_comm]

theorem read_eq (output : String) :
    read output = empty.addAll ((reported output).map Occurrence.entry) := by
  rw [addAll, List.foldl_map]
  rfl

/-- A newline at the end of an output divides its records from the next ones. -/
theorem reported_append {output : String} (closed : output.toList.getLast? = some '\n')
    (more : String) : reported (output ++ more) = reported output ++ reported more := by
  obtain ⟨before, whole⟩ := List.getLast?_eq_some_iff.mp closed
  have silent : (Text.pieces '\n' []).filterMap Occurrence.read? = [] := by decide
  have told (text : String) : reported text =
      (Text.pieces '\n' text.toList).filterMap Occurrence.read? :=
    Text.filterMap_lines (by decide) Occurrence.read?_withoutReturn _
  rw [told, told, told, String.toList_append, whole, List.append_assoc, List.singleton_append,
    Text.filterMap_pieces_newline, Text.filterMap_pieces_newline, silent, List.append_nil]

theorem read_append {output : String} (closed : output.toList.getLast? = some '\n')
    (more : String) :
    read (output ++ more) = (read output).addAll ((reported more).map Occurrence.entry) := by
  rw [read_eq (output ++ more), reported_append closed, List.map_append, addAll, List.foldl_append,
    read_eq output]
  rfl

theorem sum_lengths_read (output : String) :
    ((read output).files.map fun entry => entry.lines.length).sum = (reported output).length := by
  have one : (fun o : Occurrence => o.entry.lines.length) = fun _ => 1 := rfl
  rw [read_eq, sum_lengths_addAll, List.map_map, Function.comp_def, one, List.map_const',
    List.sum_replicate_nat, Nat.mul_one]
  exact Nat.zero_add _

theorem line_of_mem_read {output : String} {entry : FileHits} {line : Nat}
    (inside : entry ∈ (read output).files) (member : line ∈ entry.lines) :
    line ≠ 0 ∧ line ≤ Text.wordMax := by
  rw [read_eq, files_addAll] at inside
  obtain ⟨file, -, rfl⟩ := List.mem_map.mp inside
  obtain ⟨_, kept, here⟩ := List.mem_flatMap.mp member
  obtain ⟨o, told, rfl⟩ := List.mem_map.mp (List.mem_filter.mp kept).1
  obtain rfl := List.mem_singleton.mp here
  obtain ⟨row, -, found⟩ := List.mem_filterMap.mp told
  obtain ⟨rest, -, -, -, number, text, -, -, ⟨_, -, -, -, -, small⟩, positive⟩ :=
    Occurrence.read?_eq_some.mp found
  exact ⟨positive, small⟩

/-- A search output has one list of records, one for each of its rows that is a path, a separator, a
positive line number and a colon, and it is read as these records grouped: every path once, in its
first spelling and in the order of first appearance, with the lines of all its records in their
order.  So there are as many lines as records, no file without lines, no line zero and no path
twice.  Reading an output that follows on a newline adds its entries to what was read before, the
records as well as the groups. -/
theorem read_groups_records (output : String) :
    ∃ records, (∀ others, Records output others ↔ others = records) ∧
      (read output).files = grouping (records.map Occurrence.entry) ∧
      ((read output).files.map fun entry => entry.lines.length).sum = records.length ∧
      (∀ entry ∈ (read output).files,
        entry.lines ≠ [] ∧ ∀ line ∈ entry.lines, line ≠ 0 ∧ line ≤ Text.wordMax) ∧
      ((read output).files.Pairwise fun a b => ¬a.file.Same b.file) ∧
      ∀ more, output.toList.getLast? = some '\n' →
        read (output ++ more) = (read output).addAll (read more).files ∧
        ∀ later, Records more later →
          read (output ++ more) = (read output).addAll (later.map Occurrence.entry) := by
  refine ⟨reported output, fun others => records_iff, ?_, sum_lengths_read output, ?_,
    (read output).distinct, ?_⟩
  · rw [read_eq, files_addAll]
    rfl
  · intro entry inside
    exact ⟨lines_ofOccurrences_ne_nil _ entry inside, fun line => line_of_mem_read inside⟩
  · intro more closed
    have appended := read_append closed more
    refine ⟨?_, ?_⟩
    · rw [appended, read_eq more, addAll_files_addAll]
    · intro later told
      rw [records_iff.mp told, appended]

/-- One path in three spellings, numbers with a sign and between blanks, and rows that are no
records. -/
theorem read_groups_records_across_spellings :
    let output := "a//b:3:x\r\nc:0:z\n:4:\na/./b:1:y\n"
    let more := "c\x00 +07\t:t:\nd:5\na/b/:3:"
    let later : List Occurrence := [⟨⟨"c"⟩, 7⟩, ⟨⟨"a/b/"⟩, 3⟩]
    output.toList.getLast? = some '\n' ∧ Records more later ∧
      read (output ++ more) = (read output).addAll (read more).files ∧
      read (output ++ more) = (read output).addAll (later.map Occurrence.entry) ∧
      (read (output ++ more)).files = [⟨⟨"a//b"⟩, [3, 1, 3]⟩, ⟨⟨"c"⟩, [7]⟩] := by
  intro output more later
  obtain ⟨-, -, -, -, -, -, appends⟩ := read_groups_records output
  have closed : output.toList.getLast? = some '\n' := by decide
  have told : Records more later := records_iff.mpr (by decide)
  obtain ⟨groups, records⟩ := appends more closed
  have added := records later told
  refine ⟨closed, told, groups, added, ?_⟩
  rw [added]
  decide

end CallAtlas.Hits
