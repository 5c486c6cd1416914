import CallAtlas.Occurrence.Attribution

set_option autoImplicit false
set_option relaxedAutoImplicit false

/-!
The owner of a line, told from the tag records alone: of the functions that start at or above the
line the one that starts last, and of several with that start the first one.  Looking the line up
in the spans gives the same function, however the records are ordered.
-/

namespace CallAtlas

namespace Tag

/-- Of the starts at or above a line the last one, and of equal ones the first. -/
def nearest? (starts : List Start) (line : Nat) : Option Start :=
  (starts.filter fun start => start.line ≤ line).maxOn? Start.line

/-- The function that owns a line of the file with some tag records. -/
def owner (records : List Record) (line : Nat) : String :=
  match nearest? (records.filterMap start?) line with
  | some start => start.name
  | none => Occurrence.Key.globalScope

@[simp] theorem nearest?_nil (line : Nat) : nearest? [] line = none := rfl

theorem nearest?_cons_of_lt {start : Start} {line : Nat} (below : line < start.line)
    (rest : List Start) : nearest? (start :: rest) line = nearest? rest line := by
  have skipped : ¬start.line ≤ line := by omega
  simp [nearest?, skipped]

theorem nearest?_cons_of_le {start : Start} {line : Nat} (above : start.line ≤ line)
    (rest : List Start) :
    nearest? (start :: rest) line =
      some ((nearest? rest line).elim start (maxOn Start.line start)) := by
  rw [nearest?, List.filter_cons_of_pos (by simpa using above), List.maxOn?_cons]
  rfl

theorem nearest?_cons_congr (start : Start) {rest others : List Start} {line : Nat}
    (h : nearest? rest line = nearest? others line) :
    nearest? (start :: rest) line = nearest? (start :: others) line := by
  rcases Nat.lt_or_ge line start.line with below | above
  · rw [nearest?_cons_of_lt below, nearest?_cons_of_lt below, h]
  · rw [nearest?_cons_of_le above, nearest?_cons_of_le above, h]

theorem mem_of_nearest? {starts : List Start} {line : Nat} {start : Start}
    (h : nearest? starts line = some start) : start ∈ starts ∧ start.line ≤ line := by
  have member := List.maxOn?_mem h
  simpa using member

theorem le_of_nearest? {starts : List Start} {line : Nat} {start : Start}
    (h : nearest? starts line = some start) {other : Start} (inside : other ∈ starts)
    (above : other.line ≤ line) : other.line ≤ start.line := by
  have member : other ∈ starts.filter fun start => start.line ≤ line := by
    simp [inside, above]
  have most := List.le_apply_get_maxOn?_of_mem (f := Start.line) member
  have found : ((starts.filter fun start => start.line ≤ line).maxOn? Start.line).get
      (List.isSome_maxOn?_of_mem member) = start := by
    apply Option.get_of_eq_some
    exact h
  rwa [found] at most

theorem lt_of_nearest?_eq_none {starts : List Start} {line : Nat}
    (h : nearest? starts line = none) {other : Start} (inside : other ∈ starts) :
    line < other.line := by
  rcases Nat.lt_or_ge line other.line with below | above
  · exact below
  · have member : other ∈ starts.filter fun start => start.line ≤ line := by
      simp [inside, above]
    have some := List.isSome_maxOn?_of_mem (f := Start.line) member
    rw [show (starts.filter fun start => start.line ≤ line).maxOn? Start.line = none from h] at some
    cases some

theorem nearest?_swap {early late : Start} (h : early.line < late.line) (rest : List Start)
    (line : Nat) :
    nearest? (early :: late :: rest) line = nearest? (late :: early :: rest) line := by
  rcases Nat.lt_or_ge line late.line with below | above
  · rw [nearest?_cons_of_lt below]
    apply nearest?_cons_congr
    exact nearest?_cons_of_lt below rest
  · have above' : early.line ≤ line := by omega
    rw [nearest?_cons_of_le above', nearest?_cons_of_le above, nearest?_cons_of_le above,
      nearest?_cons_of_le above']
    cases nearest? rest line with
    | none => simp only [Option.elim_none, Option.elim_some, maxOn_eq_if]; grind
    | some other => simp only [Option.elim_some, maxOn_eq_if]; grind

theorem nearest?_append_cons {start : Start} {before : List Start}
    (earlier : ∀ other ∈ before, other.line < start.line) (after : List Start) (line : Nat) :
    nearest? (before ++ start :: after) line = nearest? (start :: (before ++ after)) line := by
  induction before with
  | nil => rfl
  | cons head rest ih =>
    have moved := ih fun other inside => earlier other (List.mem_cons_of_mem _ inside)
    calc nearest? (head :: (rest ++ start :: after)) line
        = nearest? (head :: start :: (rest ++ after)) line := nearest?_cons_congr head moved
      _ = nearest? (start :: head :: (rest ++ after)) line :=
        nearest?_swap (earlier head List.mem_cons_self) _ _

theorem lineLe_trans (a b c : Start) (first : decide (a.line ≤ b.line) = true)
    (second : decide (b.line ≤ c.line) = true) : decide (a.line ≤ c.line) = true := by
  rw [decide_eq_true_eq] at *
  omega

theorem lineLe_total (a b : Start) : decide (a.line ≤ b.line) || decide (b.line ≤ a.line) := by
  rw [Bool.or_eq_true, decide_eq_true_eq, decide_eq_true_eq]
  omega

theorem nearest?_mergeSort (starts : List Start) (line : Nat) :
    nearest? (starts.mergeSort fun a b => a.line ≤ b.line) line = nearest? starts line := by
  induction starts with
  | nil => simp
  | cons start rest ih =>
    obtain ⟨before, after, whole, others, earlier⟩ :=
      List.mergeSort_cons lineLe_trans lineLe_total start rest
    rw [whole, nearest?_append_cons]
    · apply nearest?_cons_congr
      rw [← others, ih]
    · intro other inside
      have late := earlier other inside
      simpa using late

end Tag

namespace Span

open Tag (nearest? nearest?_cons_of_lt nearest?_cons_of_le mem_of_nearest? le_of_nearest?
  lt_of_nearest?_eq_none nearest?_mergeSort)

/-- The end of a span with some start: the line before the least greater start, and the open end
if there is none. -/
def Ends (starts : List Tag.Start) (first last : Nat) : Prop :=
  (∃ next ∈ starts, first < next.line ∧
      (∀ other ∈ starts, first < other.line → next.line ≤ other.line) ∧ last + 1 = next.line) ∨
    (∀ other ∈ starts, other.line ≤ first) ∧ last = openEnd

theorem ends_cons_of_le {first last : Nat} {head : Tag.Start} {rest : List Tag.Start}
    (before : head.line ≤ first) : Ends (head :: rest) first last ↔ Ends rest first last := by
  have never : ¬first < head.line := Nat.not_lt.mpr before
  simp [Ends, before, never]

theorem lastBefore_close_cons (first : Nat) (head : Tag.Start) (rest : List Tag.Start) :
    lastBefore first (close (head :: rest)) =
      if first < head.line then head.line - 1 else lastBefore head.line (close rest) := rfl

theorem ends_lastBefore {first : Nat} {starts : List Tag.Start}
    (sorted : starts.Pairwise fun a b => a.line ≤ b.line)
    (above : ∀ start ∈ starts, first ≤ start.line) :
    Ends starts first (lastBefore first (close starts)) := by
  induction starts generalizing first with
  | nil => exact .inr ⟨by simp, rfl⟩
  | cons head rest ih =>
    obtain ⟨least, others⟩ := List.pairwise_cons.mp sorted
    have start := above head List.mem_cons_self
    rw [lastBefore_close_cons]
    split
    · rename_i greater
      refine .inl ⟨head, List.mem_cons_self, greater, ?_, Nat.sub_add_cancel (by omega)⟩
      intro other inside _
      rcases List.mem_cons.mp inside with rfl | inside
      · exact Nat.le_refl _
      · exact least other inside
    · rename_i notGreater
      have same : head.line = first := by omega
      have later := ih others least
      rw [same] at later ⊢
      exact (ends_cons_of_le (Nat.le_of_eq same)).mpr later

theorem Ends.le_iff {starts : List Tag.Start} {first last line : Nat} (h : Ends starts first last)
    (small : line ≤ openEnd) :
    line ≤ last ↔ ∀ start ∈ starts, first < start.line → line < start.line := by
  rcases h with ⟨next, inside, greater, least, ends⟩ | ⟨none, ends⟩
  · constructor
    · intro within other member after
      have := least other member after
      omega
    · intro all
      have := all next inside greater
      omega
  · constructor
    · intro _ other member after
      have := none other member
      omega
    · intro _
      omega

theorem containing?_close {starts : List Tag.Start} {line : Nat}
    (sorted : starts.Pairwise fun a b => a.line ≤ b.line) (small : line ≤ openEnd) :
    (containing? (close starts) line).map Span.name = (nearest? starts line).map Tag.Start.name := by
  induction starts with
  | nil => rfl
  | cons head rest ih =>
    obtain ⟨least, others⟩ := List.pairwise_cons.mp sorted
    have last := (ends_lastBefore others least).le_iff small
    simp only [containing?, close, List.find?_cons, contains] at ih ⊢
    -- The head's span reaches up to the next greater start, so it has the line unless a start
    -- further on is nearer.
    rcases Nat.lt_or_ge line head.line with below | above
    · have outside : ¬head.line ≤ line := by omega
      rw [nearest?_cons_of_lt below, ← ih others]
      simp [outside]
    · rw [nearest?_cons_of_le above]
      cases found : nearest? rest line with
      | none =>
        have within : line ≤ lastBefore head.line (close rest) :=
          last.mpr fun other inside _ => lt_of_nearest?_eq_none found inside
        simp [above, within]
      | some other =>
        obtain ⟨member, reached⟩ := mem_of_nearest? found
        rcases Nat.lt_or_ge head.line other.line with later | first
        · have beyond : ¬line ≤ lastBefore head.line (close rest) := by
            intro within
            have := last.mp within other member later
            omega
          have notFirst : ¬other.line ≤ head.line := by omega
          rw [Option.elim_some, maxOn_eq_right notFirst, Option.map_some]
          simp [beyond, ih others, found]
        · have within : line ≤ lastBefore head.line (close rest) := by
            apply last.mpr
            intro another inside greater
            rcases Nat.lt_or_ge line another.line with after | before
            · exact after
            · have := le_of_nearest? found inside before
              omega
          rw [Option.elim_some, maxOn_eq_left first]
          simp [above, within]

/-- Looking a line up in the spans finds the function that starts last at or above it. -/
theorem containing?_infer (starts : List Tag.Start) {line : Nat} (small : line ≤ openEnd) :
    (containing? (infer starts) line).map Span.name = (nearest? starts line).map Tag.Start.name := by
  have sorted := List.pairwise_mergeSort Tag.lineLe_trans Tag.lineLe_total starts
  rw [infer, containing?_close (sorted.imp (by simp)) small, nearest?_mergeSort]

end Span

theorem Occurrence.owner_ofRecords (records : List Tag.Record) {line : Nat}
    (small : line ≤ Text.wordMax) :
    owner (Span.ofRecords records) line = Tag.owner records line := by
  have names := Span.containing?_infer (records.filterMap Tag.start?) small
  rw [owner, Tag.owner, Span.ofRecords]
  cases spans : Span.containing? (Span.infer (records.filterMap Tag.start?)) line <;>
    cases starts : Tag.nearest? (records.filterMap Tag.start?) line <;>
      simp_all

end CallAtlas
