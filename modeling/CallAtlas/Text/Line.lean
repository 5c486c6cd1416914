set_option autoImplicit false
set_option relaxedAutoImplicit false

namespace CallAtlas.Text

/-- The lines of a text, without their ends. -/
def lines : List Char → List (List Char)
  | [] => []
  | '\r' :: '\n' :: rest => [] :: lines rest
  | '\n' :: rest => [] :: lines rest
  | c :: rest =>
    match lines rest with
    | [] => [[c]]
    | line :: others => (c :: line) :: others

def unlines (rows : List (List Char)) : List Char := rows.flatMap (· ++ ['\n'])

theorem unlines_append (rows others : List (List Char)) :
    unlines (rows ++ others) = unlines rows ++ unlines others := List.flatMap_append

/-- A row without one carriage return at its end. -/
def withoutReturn : List Char → List Char
  | [] => []
  | ['\r'] => []
  | c :: rest => c :: withoutReturn rest

@[simp] theorem lines_nil : lines [] = [] := by simp [lines]

@[simp] theorem lines_newline (rest : List Char) : lines ('\n' :: rest) = [] :: lines rest := by
  simp [lines]

@[simp] theorem lines_return_newline (rest : List Char) :
    lines ('\r' :: '\n' :: rest) = [] :: lines rest := by
  simp [lines]

theorem lines_cons {c : Char} {rest : List Char} (plain : c ≠ '\n')
    (alone : c = '\r' → rest.head? ≠ some '\n') :
    lines (c :: rest) =
      match lines rest with
      | [] => [[c]]
      | line :: others => (c :: line) :: others := by
  rw [lines.eq_def]
  split
  · contradiction
  · rename_i equal
    obtain ⟨rfl, rfl⟩ := List.cons.inj equal
    simp at alone
  · rename_i equal
    exact absurd (List.cons.inj equal).1 plain
  · rename_i equal
    obtain ⟨rfl, rfl⟩ := List.cons.inj equal
    rfl

theorem withoutReturn_cons {c : Char} {rest : List Char} (more : c = '\r' → rest ≠ []) :
    withoutReturn (c :: rest) = c :: withoutReturn rest := by
  rw [withoutReturn.eq_def]
  split
  · contradiction
  · simp_all
  · rename_i equal
    obtain ⟨rfl, rfl⟩ := List.cons.inj equal
    rfl

theorem withoutReturn_or (row : List Char) :
    row = withoutReturn row ∨ row = withoutReturn row ++ ['\r'] := by
  induction row with
  | nil => exact .inl rfl
  | cons c rest ih =>
    by_cases last : c = '\r' ∧ rest = []
    · obtain ⟨rfl, rfl⟩ := last
      exact .inr rfl
    · rw [withoutReturn_cons fun mark bare => last ⟨mark, bare⟩, List.cons_append,
        List.cons.injEq, List.cons.injEq]
      exact ih.imp (⟨rfl, ·⟩) (⟨rfl, ·⟩)

theorem withoutReturn_concat (row : List Char) {c : Char} (last : c ≠ '\r') :
    withoutReturn (row ++ [c]) = row ++ [c] := by
  rcases withoutReturn_or (row ++ [c]) with same | longer
  · exact same.symm
  · exact absurd (List.singleton_inj.mp (List.append_inj' longer rfl).2) last

theorem lines_append_newline {row : List Char} (plain : '\n' ∉ row) (rest : List Char) :
    lines (row ++ '\n' :: rest) = withoutReturn row :: lines rest := by
  induction row with
  | nil => exact lines_newline rest
  | cons c others ih =>
    obtain ⟨first, later⟩ := not_or.mp fun equal => plain (List.mem_cons.mpr equal)
    by_cases last : c = '\r' ∧ others = []
    · obtain ⟨rfl, rfl⟩ := last
      exact lines_return_newline rest
    · have alone : c = '\r' → (others ++ '\n' :: rest).head? ≠ some '\n' := by
        intro mark same
        cases others with
        | nil => exact last ⟨mark, rfl⟩
        | cons d more => exact later (Option.some.inj same ▸ List.mem_cons_self)
      rw [List.cons_append, lines_cons (Ne.symm first) alone, ih later,
        withoutReturn_cons fun mark bare => last ⟨mark, bare⟩]

theorem newline_notMem_of_mem_lines {row text : List Char} (h : row ∈ lines text) :
    '\n' ∉ row := by
  fun_induction lines text generalizing row with
  | case1 => cases h
  | case2 rest ih | case3 rest ih =>
    rcases List.mem_cons.mp h with rfl | later
    · exact List.not_mem_nil
    · exact ih later
  | case4 c rest _ plain bare ih =>
    obtain rfl := List.mem_singleton.mp h
    exact fun inside => plain (List.mem_singleton.mp inside).symm
  | case5 c rest _ plain line others equal ih =>
    rw [equal] at ih
    rcases List.mem_cons.mp h with rfl | later
    · intro inside
      rcases List.mem_cons.mp inside with same | inside
      · exact plain same.symm
      · exact ih List.mem_cons_self inside
    · exact ih (List.mem_cons_of_mem _ later)

/-- Rows that were put together come apart again, but for the returns at their ends. -/
theorem lines_unlines {rows : List (List Char)} (plain : ∀ row ∈ rows, '\n' ∉ row) :
    lines (unlines rows) = rows.map withoutReturn := by
  induction rows with
  | nil => rfl
  | cons row rest ih =>
    have later := ih fun other inside => plain other (List.mem_cons_of_mem _ inside)
    rw [unlines, List.flatMap_cons, List.append_assoc, List.singleton_append,
      lines_append_newline (plain row List.mem_cons_self), List.map_cons, ← later]
    rfl

end CallAtlas.Text
