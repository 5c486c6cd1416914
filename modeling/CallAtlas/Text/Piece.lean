set_option autoImplicit false
set_option relaxedAutoImplicit false

namespace CallAtlas.Text

variable {α : Type}

def joinWith (separator : α) : List (List α) → List α
  | [] => []
  | [piece] => piece
  | piece :: rest => piece ++ separator :: joinWith separator rest

theorem exists_joinWith_concat (separator : α) (parts : List (List α)) (last : List α) :
    ∃ before, joinWith separator (parts ++ [last]) = before ++ last := by
  induction parts with
  | nil => exact ⟨[], rfl⟩
  | cons part rest ih =>
    obtain ⟨before, joined⟩ := ih
    refine ⟨part ++ separator :: before, ?_⟩
    rw [List.cons_append, joinWith, joined, List.append_assoc, List.cons_append]
    exact List.append_ne_nil_of_right_ne_nil _ (List.cons_ne_nil _ _)

theorem mem_joinWith {separator c : α} {parts : List (List α)}
    (h : c ∈ joinWith separator parts) : c = separator ∨ ∃ part ∈ parts, c ∈ part := by
  induction parts with
  | nil => cases h
  | cons part rest ih =>
    cases rest with
    | nil => exact .inr ⟨part, List.mem_cons_self, h⟩
    | cons next others =>
      rw [joinWith, List.mem_append, List.mem_cons] at h
      · rcases h with first | rfl | later
        · exact .inr ⟨part, List.mem_cons_self, first⟩
        · exact .inl rfl
        · exact (ih later).imp_right fun ⟨other, inside, member⟩ =>
            ⟨other, List.mem_cons_of_mem _ inside, member⟩
      · simp

variable [DecidableEq α]

/-- The pieces between separators: one more than there are separators. -/
def pieces (separator : α) : List α → List (List α)
  | [] => [[]]
  | c :: rest =>
    if c = separator then [] :: pieces separator rest
    else
      match pieces separator rest with
      | [] => [[c]]
      | piece :: others => (c :: piece) :: others

/-- Cuts a text at the first separator, which belongs to neither part. -/
def cutAt? (separator : α) : List α → Option (List α × List α)
  | [] => none
  | c :: rest =>
    if c = separator then some ([], rest)
    else (cutAt? separator rest).map fun (before, after) => (c :: before, after)

def after? : List α → List α → Option (List α)
  | [], text => some text
  | _ :: _, [] => none
  | c :: beginning, d :: text => if c = d then after? beginning text else none

theorem after?_append (beginning text : List α) :
    after? beginning (beginning ++ text) = some text := by
  induction beginning with
  | nil => rfl
  | cons c rest ih => rw [List.cons_append, after?, if_pos rfl, ih]

theorem cutAt?_eq_some {separator : α} {text before after : List α} :
    cutAt? separator text = some (before, after) ↔
      text = before ++ separator :: after ∧ separator ∉ before := by
  induction text generalizing before with
  | nil => simp [cutAt?]
  | cons c rest ih =>
    unfold cutAt?
    split
    · rename_i same
      subst same
      cases before with
      | nil => simp [eq_comm]
      | cons d head =>
        simp only [Option.some.injEq, Prod.mk.injEq, List.nil_eq, reduceCtorEq, false_and,
          List.cons_append, List.cons.injEq, false_iff, not_and, Classical.not_not]
        rintro ⟨rfl, -⟩
        exact List.mem_cons_self
    · rename_i apart
      cases before with
      | nil => simp [apart]
      | cons d head =>
        simp only [Option.map_eq_some_iff, Prod.exists, Prod.mk.injEq, List.cons.injEq,
          List.cons_append, List.mem_cons, not_or]
        constructor
        · rintro ⟨_, _, found, ⟨rfl, rfl⟩, rfl⟩
          obtain ⟨rfl, absent⟩ := ih.mp found
          exact ⟨⟨rfl, rfl⟩, Ne.symm apart, absent⟩
        · rintro ⟨⟨rfl, rfl⟩, -, absent⟩
          exact ⟨head, after, ih.mpr ⟨rfl, absent⟩, ⟨rfl, rfl⟩, rfl⟩

theorem cutAt?_eq_none {separator : α} {text : List α} :
    cutAt? separator text = none ↔ separator ∉ text := by
  induction text with
  | nil => simp [cutAt?]
  | cons c rest ih =>
    unfold cutAt?
    split
    · rename_i same
      simp [same]
    · rename_i apart
      simp [ih, Ne.symm apart]

theorem pieces_ne_nil (separator : α) (text : List α) : pieces separator text ≠ [] := by
  cases text with
  | nil => simp [pieces]
  | cons c rest =>
    unfold pieces
    split
    · simp
    · split <;> simp

theorem pieces_of_notMem {separator : α} {text : List α} (absent : separator ∉ text) :
    pieces separator text = [text] := by
  induction text with
  | nil => rfl
  | cons c rest ih =>
    simp only [List.mem_cons, not_or] at absent
    rw [pieces, if_neg (Ne.symm absent.1), ih absent.2]

theorem pieces_append_cons (separator : α) (text rest : List α) :
    pieces separator (text ++ separator :: rest) = pieces separator text ++ pieces separator rest := by
  induction text with
  | nil => simp [pieces]
  | cons c head ih =>
    rw [List.cons_append, pieces, pieces]
    split
    · rw [ih, List.cons_append]
    · rw [ih]
      cases found : pieces separator head with
      | nil => exact absurd found (pieces_ne_nil separator head)
      | cons piece others => rfl

theorem exists_pieces_append {separator : α} {tail : List α} (absent : separator ∉ tail)
    (text : List α) : ∃ last,
      pieces separator (text ++ tail) = (pieces separator text).dropLast ++ [last ++ tail] := by
  induction text with
  | nil => exact ⟨[], pieces_of_notMem absent⟩
  | cons c rest ih =>
    obtain ⟨last, split⟩ := ih
    rw [List.cons_append, pieces, pieces]
    split
    · refine ⟨last, ?_⟩
      rw [split, List.dropLast_cons_of_ne_nil (pieces_ne_nil _ _), List.cons_append]
    · rw [split]
      cases found : pieces separator rest with
      | nil => exact absurd found (pieces_ne_nil separator rest)
      | cons piece others =>
        cases others with
        | nil => exact ⟨c :: last, rfl⟩
        | cons next others => exact ⟨last, rfl⟩

theorem joinWith_pieces (separator : α) (text : List α) :
    joinWith separator (pieces separator text) = text := by
  induction text with
  | nil => rfl
  | cons c rest ih =>
    unfold pieces
    split
    · rename_i same
      have some := pieces_ne_nil separator rest
      cases found : pieces separator rest with
      | nil => exact absurd found some
      | cons piece others => rw [found] at ih; simp [joinWith, ih, same]
    · have some := pieces_ne_nil separator rest
      cases found : pieces separator rest with
      | nil => exact absurd found some
      | cons piece others =>
        rw [found] at ih
        cases others <;> simp [joinWith] at ih ⊢ <;> exact ih

theorem pieces_joinWith {separator : α} {parts : List (List α)} (some : parts ≠ [])
    (absent : ∀ part ∈ parts, separator ∉ part) :
    pieces separator (joinWith separator parts) = parts := by
  induction parts with
  | nil => exact absurd rfl some
  | cons part rest ih =>
    have first := absent part List.mem_cons_self
    cases rest with
    | nil => exact pieces_of_notMem first
    | cons next others =>
      have later := ih (by simp) fun other inside => absent other (List.mem_cons_of_mem _ inside)
      rw [joinWith, pieces_append_cons, pieces_of_notMem first, later, List.singleton_append]
      simp

theorem pieces_joinWith_flatMap {separator : α} {parts : List (List α)} (some : parts ≠ []) :
    pieces separator (joinWith separator parts) = parts.flatMap (pieces separator) := by
  induction parts with
  | nil => exact absurd rfl some
  | cons part rest ih =>
    cases rest with
    | nil => rw [joinWith, List.flatMap_singleton]
    | cons next others =>
      have more : next :: others ≠ [] := List.cons_ne_nil _ _
      rw [joinWith, pieces_append_cons, ih more]
      · exact List.flatMap_cons.symm
      · exact more

theorem notMem_of_mem_pieces {separator : α} {text piece : List α}
    (h : piece ∈ pieces separator text) : separator ∉ piece := by
  induction text generalizing piece with
  | nil =>
    obtain rfl : piece = [] := by simpa [pieces] using h
    exact List.not_mem_nil
  | cons c rest ih =>
    unfold pieces at h
    split at h
    · rcases List.mem_cons.mp h with rfl | later
      · exact List.not_mem_nil
      · exact ih later
    · rename_i apart
      cases found : pieces separator rest with
      | nil => exact absurd found (pieces_ne_nil separator rest)
      | cons first others =>
        rw [found] at h ih
        rcases List.mem_cons.mp h with rfl | later
        · have absent := ih List.mem_cons_self
          exact List.not_mem_cons_of_ne_of_not_mem (Ne.symm apart) absent
        · exact ih (List.mem_cons_of_mem _ later)

theorem mem_of_mem_pieces {separator c : α} {text piece : List α}
    (h : piece ∈ pieces separator text) (inside : c ∈ piece) : c ∈ text := by
  induction text generalizing piece with
  | nil =>
    obtain rfl : piece = [] := by simpa [pieces] using h
    cases inside
  | cons d rest ih =>
    unfold pieces at h
    split at h
    · rcases List.mem_cons.mp h with rfl | later
      · cases inside
      · exact List.mem_cons_of_mem _ (ih later inside)
    · cases found : pieces separator rest with
      | nil => exact absurd found (pieces_ne_nil separator rest)
      | cons first others =>
        rw [found] at h
        rcases List.mem_cons.mp h with rfl | later
        · rcases List.mem_cons.mp inside with rfl | inside
          · exact List.mem_cons_self
          · exact List.mem_cons_of_mem _ (ih (found ▸ List.mem_cons_self) inside)
        · exact List.mem_cons_of_mem _ (ih (found ▸ List.mem_cons_of_mem _ later) inside)

end CallAtlas.Text
