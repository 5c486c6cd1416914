import CallAtlas.Text.Blank

set_option autoImplicit false
set_option relaxedAutoImplicit false

namespace CallAtlas.Text

/-- The runs of a text: none in a text of blanks, else the characters after the first blanks up to
the next blank or the end, and then the runs from there on. -/
inductive Runs : List Char → List (List Char) → Prop
  | bare {gap : List Char} (blank : ∀ c ∈ gap, isBlank c = true) : Runs gap []
  | run {gap run rest : List Char} {runs : List (List Char)}
      (blank : ∀ c ∈ gap, isBlank c = true) (some : run ≠ [])
      (solid : ∀ c ∈ run, isBlank c = false)
      (ends : ∀ c, rest.head? = Option.some c → isBlank c = true) (others : Runs rest runs) :
      Runs (gap ++ (run ++ rest)) (run :: runs)

theorem fields_append_of_blank {gap : List Char} (blank : ∀ c ∈ gap, isBlank c = true)
    (text : List Char) : fields (gap ++ text) = fields text := by
  induction gap with
  | nil => rfl
  | cons c rest ih =>
    have later := ih fun d inside => blank d (List.mem_cons_of_mem c inside)
    rw [List.cons_append, fields_cons_blank (blank c List.mem_cons_self), later]

theorem fields_append_of_solid {run rest : List Char} (some : run ≠ [])
    (solid : ∀ c ∈ run, isBlank c = false)
    (ends : ∀ c, rest.head? = Option.some c → isBlank c = true) :
    fields (run ++ rest) = run :: fields rest := by
  induction run with
  | nil => exact absurd rfl some
  | cons c others ih =>
    have first := solid c List.mem_cons_self
    cases others with
    | nil =>
      cases rest with
      | nil => simp [fields, first]
      | cons d tail => simp [fields, first, ends d rfl]
    | cons d tail =>
      have next := solid d (by simp)
      have later := ih (List.cons_ne_nil d tail) fun e inside =>
        solid e (List.mem_cons_of_mem c inside)
      rw [List.cons_append] at later
      rw [List.cons_append, List.cons_append, fields, later]
      simp [first, next]

theorem fields_of_runs {text : List Char} {runs : List (List Char)} (h : Runs text runs) :
    fields text = runs := by
  induction h with
  | bare blank =>
    have all := fields_append_of_blank blank []
    rwa [List.append_nil] at all
  | run blank some solid ends others ih =>
    rw [fields_append_of_blank blank, fields_append_of_solid some solid ends, ih]

theorem exists_first_run {text : List Char} (some : text.dropWhile isBlank ≠ []) :
    ∃ gap run rest, text = gap ++ (run ++ rest) ∧ (∀ c ∈ gap, isBlank c = true) ∧ run ≠ [] ∧
      (∀ c ∈ run, isBlank c = false) ∧ ∀ c, rest.head? = Option.some c → isBlank c = true := by
  let body := text.dropWhile isBlank
  let run := body.takeWhile fun c => !isBlank c
  let rest := body.dropWhile fun c => !isBlank c
  have split : run ++ rest = body := List.takeWhile_append_dropWhile
  refine ⟨text.takeWhile isBlank, run, rest, ?_, List.all_eq_true.mp List.all_takeWhile, ?_, ?_, ?_⟩
  · rw [split]
    exact List.takeWhile_append_dropWhile.symm
  · obtain ⟨c, tail, filled⟩ := List.exists_cons_of_ne_nil some
    have stops := List.head?_dropWhile_not isBlank text
    rw [filled] at stops
    have solid : isBlank c = false := by simpa using stops
    simp [run, body, filled, solid]
  · intro c inside
    have kept := List.all_eq_true.mp List.all_takeWhile c inside
    simpa using kept
  · intro c found
    have stops := List.head?_dropWhile_not (fun c => !isBlank c) body
    rw [found] at stops
    simpa using stops

theorem exists_runs (text : List Char) : ∃ runs, Runs text runs := by
  induction equal : text.length using Nat.strongRecOn generalizing text with
  | ind size ih =>
    by_cases none : text.dropWhile isBlank = []
    · refine ⟨[], .bare fun c inside => ?_⟩
      have all := List.takeWhile_append_dropWhile (p := isBlank) (l := text)
      rw [none, List.append_nil] at all
      rw [← all] at inside
      exact List.all_eq_true.mp List.all_takeWhile c inside
    · obtain ⟨gap, run, rest, rfl, blank, some, solid, ends⟩ := exists_first_run none
      have shorter : rest.length < size := by
        have filled := List.length_pos_iff.mpr some
        simp only [List.length_append] at equal
        omega
      obtain ⟨runs, others⟩ := ih rest.length shorter rest rfl
      exact ⟨run :: runs, .run blank some solid ends others⟩

/-- A text has one list of runs, and its fields are these. -/
theorem runs_iff {text : List Char} {runs : List (List Char)} :
    Runs text runs ↔ fields text = runs := by
  constructor
  · exact fields_of_runs
  · rintro rfl
    obtain ⟨runs, found⟩ := exists_runs text
    rwa [fields_of_runs found]

end CallAtlas.Text
