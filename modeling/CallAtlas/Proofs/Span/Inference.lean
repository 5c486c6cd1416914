import CallAtlas.Proofs.Sorting
import CallAtlas.Proofs.Span

set_option autoImplicit false
set_option relaxedAutoImplicit false

namespace CallAtlas

/-- A list holds starts by increasing line, and those of one line in the order they had. -/
structure Tag.StablySorts (starts sorted : List Start) : Prop where
  perm : sorted.Perm starts
  increasing : sorted.Pairwise fun a b => a.line ≤ b.line
  keeps : ∀ line, sorted.filter (fun start => start.line = line) =
    starts.filter fun start => start.line = line

theorem Tag.stablySorts_mergeSort (starts : List Start) :
    StablySorts starts (starts.mergeSort fun a b => a.line ≤ b.line) where
  perm := List.mergeSort_perm _ _
  increasing := (List.pairwise_mergeSort lineLe_trans lineLe_total starts).imp (by simp)
  keeps line := by
    apply Sorting.filter_mergeSort_of_tied lineLe_trans lineLe_total
    intro a b first second
    rw [decide_eq_true_eq] at *
    omega

namespace Span

open Tag (nearest? mem_of_nearest? le_of_nearest? lt_of_nearest?_eq_none)

def start (span : Span) : Tag.Start := ⟨span.name, span.first⟩

theorem map_start_close (starts : List Tag.Start) : (close starts).map start = starts := by
  induction starts with
  | nil => rfl
  | cons head rest ih => rw [close, List.map_cons, ih]; rfl

theorem ends_of_mem_close {starts : List Tag.Start}
    (sorted : starts.Pairwise fun a b => a.line ≤ b.line) {span : Span}
    (inside : span ∈ close starts) : Ends starts span.first span.last := by
  induction starts with
  | nil => cases inside
  | cons head rest ih =>
    obtain ⟨least, others⟩ := List.pairwise_cons.mp sorted
    rcases List.mem_cons.mp inside with rfl | later
    · exact (ends_cons_of_le (Nat.le_refl _)).mpr (ends_lastBefore others least)
    · have member : span.start ∈ rest := by
        rw [← map_start_close rest]
        exact List.mem_map_of_mem later
      exact (ends_cons_of_le (least _ member)).mpr (ih others later)

theorem Ends.congr {starts others : List Tag.Start}
    (same : ∀ start, start ∈ starts ↔ start ∈ others) {first last : Nat}
    (h : Ends starts first last) : Ends others first last := by
  simpa only [Ends, same] using h

theorem Ends.first_le {starts : List Tag.Start} {first last : Nat} (h : Ends starts first last)
    (word : first ≤ openEnd) : first ≤ last := by
  rcases h with ⟨next, -, greater, -, ends⟩ | ⟨-, ends⟩
  · omega
  · omega

theorem Ends.eq_openEnd_iff {starts : List Tag.Start} {first last : Nat}
    (h : Ends starts first last) (words : ∀ start ∈ starts, start.line ≤ openEnd) :
    last = openEnd ↔ ∀ start ∈ starts, start.line ≤ first := by
  rcases h with ⟨next, inside, greater, -, ends⟩ | ⟨none, ends⟩
  · have word := words next inside
    constructor
    · intro last
      omega
    · intro all
      have := all next inside
      omega
  · exact ⟨fun _ => none, fun _ => ends⟩

section Infer

variable (starts : List Tag.Start)

theorem stablySorts_infer : Tag.StablySorts starts ((infer starts).map start) := by
  rw [infer, map_start_close]
  exact Tag.stablySorts_mergeSort starts

variable {starts}

theorem start_mem_of_mem_infer {span : Span} (inside : span ∈ infer starts) :
    span.start ∈ starts :=
  (stablySorts_infer starts).perm.mem_iff.mp (List.mem_map_of_mem inside)

theorem exists_mem_infer {start : Tag.Start} (inside : start ∈ starts) :
    ∃ span ∈ infer starts, span.start = start :=
  List.mem_map.mp ((stablySorts_infer starts).perm.mem_iff.mpr inside)

theorem ends_of_mem_infer {span : Span} (inside : span ∈ infer starts) :
    Ends starts span.first span.last :=
  (ends_of_mem_close (Tag.stablySorts_mergeSort starts).increasing inside).congr fun _ =>
    List.mem_mergeSort

theorem contains_iff {span : Span} (inside : span ∈ infer starts) {line : Nat}
    (small : line ≤ openEnd) :
    span.contains line ↔
      span.first ≤ line ∧ ∀ start ∈ starts, span.first < start.line → line < start.line := by
  rw [contains, Bool.and_eq_true, decide_eq_true_eq, decide_eq_true_eq,
    (ends_of_mem_infer inside).le_iff small]

theorem contains_iff_of_nearest? {line : Nat} (small : line ≤ openEnd) {nearest : Tag.Start}
    (found : nearest? starts line = some nearest) {span : Span} (inside : span ∈ infer starts) :
    span.contains line ↔ span.first = nearest.line := by
  obtain ⟨member, reached⟩ := mem_of_nearest? found
  rw [contains_iff inside small]
  constructor
  · rintro ⟨above, next⟩
    have before := le_of_nearest? found (start_mem_of_mem_infer inside) above
    have after := next nearest member
    have same : span.start.line = span.first := rfl
    omega
  · intro same
    refine ⟨by omega, fun other member' greater => ?_⟩
    rcases Nat.lt_or_ge line other.line with below | above
    · exact below
    · have := le_of_nearest? found member' above
      omega

theorem filter_contains_eq_nil_iff {line : Nat} (small : line ≤ openEnd) :
    (infer starts).filter (fun span => span.contains line) = [] ↔
      ∀ start ∈ starts, line < start.line := by
  rw [List.filter_eq_nil_iff]
  constructor
  · intro none
    cases found : nearest? starts line with
    | none => exact fun start inside => lt_of_nearest?_eq_none found inside
    | some nearest =>
      obtain ⟨span, inside, same⟩ := exists_mem_infer (mem_of_nearest? found).1
      have first : span.first = nearest.line := congrArg Tag.Start.line same
      exact absurd ((contains_iff_of_nearest? small found inside).mpr first) (none span inside)
  · intro below span inside within
    have above := ((contains_iff inside small).mp within).1
    have := below span.start (start_mem_of_mem_infer inside)
    have same : span.start.line = span.first := rfl
    omega

theorem exists_filter_contains_eq {line : Nat} (small : line ≤ openEnd)
    (some : (infer starts).filter (fun span => span.contains line) ≠ []) :
    ∃ start ∈ starts, (infer starts).filter (fun span => span.contains line) =
      (infer starts).filter fun span => span.first = start.line := by
  cases found : nearest? starts line with
  | none =>
    have below : ∀ start ∈ starts, line < start.line :=
      fun start inside => lt_of_nearest?_eq_none found inside
    exact absurd ((filter_contains_eq_nil_iff small).mpr below) some
  | some nearest =>
    refine ⟨nearest, (mem_of_nearest? found).1, List.filter_congr fun span inside => ?_⟩
    rw [Bool.eq_iff_iff, decide_eq_true_eq]
    exact contains_iff_of_nearest? small found inside

theorem infer_eq_iff {others : List Tag.Start} :
    infer others = infer starts ↔ ∀ line, others.filter (fun start => start.line = line) =
      starts.filter fun start => start.line = line := by
  have sorts := Tag.stablySorts_mergeSort starts
  have sorts' := Tag.stablySorts_mergeSort others
  constructor
  · intro same line
    have known := (stablySorts_infer others).keeps line
    rw [same, (stablySorts_infer starts).keeps line] at known
    exact known.symm
  · intro same
    rw [infer, infer, Sorting.eq_of_filter_eq sorts'.increasing sorts.increasing fun line =>
      (sorts'.keeps line).trans ((same line).trans (sorts.keeps line).symm)]

end Infer

/-- The spans of starts in any order are their stable sort.  Each ends right before the least start
after its own and only those of the greatest start are open, none ends before it starts, and a line
lies in no span, if it is before every start, or in all the spans of one start.  Other starts have
the same spans exactly if they have the same starts of each line in the same order.  Line numbers
are words. -/
theorem infer_closes_at_next_start (starts : List Tag.Start)
    (words : ∀ start ∈ starts, start.line ≤ Text.wordMax) :
    Tag.StablySorts starts ((infer starts).map start) ∧
      (∀ span ∈ infer starts, Ends starts span.first span.last ∧ span.first ≤ span.last ∧
        (span.isOpen ↔ ∀ start ∈ starts, start.line ≤ span.first)) ∧
      (∀ line ≤ Text.wordMax,
        ((infer starts).filter (fun span => span.contains line) = [] ↔
          ∀ start ∈ starts, line < start.line) ∧
        ((infer starts).filter (fun span => span.contains line) ≠ [] →
          ∃ start ∈ starts, (infer starts).filter (fun span => span.contains line) =
            (infer starts).filter fun span => span.first = start.line)) ∧
      ∀ others, infer others = infer starts ↔
        ∀ line, others.filter (fun start => start.line = line) =
          starts.filter fun start => start.line = line := by
  refine ⟨stablySorts_infer starts, ?_, ?_, fun others => infer_eq_iff⟩
  · intro span inside
    have ends := ends_of_mem_infer inside
    refine ⟨ends, ends.first_le (words span.start (start_mem_of_mem_infer inside)), ?_⟩
    rw [isOpen, decide_eq_true_eq]
    exact ends.eq_openEnd_iff words
  · intro line small
    exact ⟨filter_contains_eq_nil_iff small, exists_filter_contains_eq small⟩

/-- Starts out of order, two at zero, two at the greatest line and two that are neighbours. -/
theorem infer_closes_at_next_start_at_ends :
    let starts : List Tag.Start :=
      [⟨"z", Text.wordMax⟩, ⟨"c", 8⟩, ⟨"a", 0⟩, ⟨"d", 9⟩, ⟨"b", 0⟩, ⟨"y", Text.wordMax⟩]
    (∀ start ∈ starts, start.line ≤ Text.wordMax) ∧
      ∀ span ∈ infer starts,
        (span.first = 8 → span.last = 8) ∧ (span.isOpen ↔ span.first = Text.wordMax) := by
  intro starts
  have words : ∀ start ∈ starts, start.line ≤ Text.wordMax := by decide
  obtain ⟨sorts, spans, -⟩ := infer_closes_at_next_start starts words
  refine ⟨words, fun span inside => ?_⟩
  obtain ⟨ends, -, opens⟩ := spans span inside
  constructor
  · intro first
    rw [first] at ends
    rcases ends with ⟨next, -, after, least, last⟩ | ⟨none, -⟩
    · have before : next.line ≤ 9 := least ⟨"d", 9⟩ (by decide) (by decide)
      omega
    · have before : 9 ≤ 8 := none ⟨"d", 9⟩ (by decide)
      omega
  · have known := words span.start (sorts.perm.mem_iff.mp (List.mem_map_of_mem inside))
    rw [opens]
    constructor
    · intro all
      exact Nat.le_antisymm known (all ⟨"z", Text.wordMax⟩ (by decide))
    · intro first
      rw [first]
      exact words

end Span

end CallAtlas
