set_option autoImplicit false
set_option relaxedAutoImplicit false

namespace CallAtlas.Sorting

variable {α : Type}

section Stable

variable {le : α → α → Bool}
  (trans : ∀ a b c : α, le a b → le b c → le a c) (total : ∀ a b : α, le a b || le b a)

include trans total

/-- What holds between earlier and later items holds after sorting of those that tie. -/
theorem pairwise_mergeSort_of_pairwise {R : α → α → Prop} {items : List α}
    (h : items.Pairwise R) :
    (items.mergeSort le).Pairwise fun a b => le b a = false ∨ le a b ∧ R a b := by
  induction items with
  | nil => simp
  | cons item rest ih =>
    obtain ⟨related, others⟩ := List.pairwise_cons.mp h
    obtain ⟨before, after, whole, tail, later⟩ := List.mergeSort_cons trans total item rest
    have sorted := List.pairwise_mergeSort trans total (item :: rest)
    have known := ih others
    rw [tail] at known
    rw [whole] at sorted ⊢
    obtain ⟨firsts, lasts, across⟩ := List.pairwise_append.mp known
    have least := (List.pairwise_cons.mp (List.pairwise_append.mp sorted).2.1).1
    refine List.pairwise_append.mpr ⟨firsts, List.pairwise_cons.mpr ⟨?_, lasts⟩, ?_⟩
    · intro other inside
      have member : other ∈ rest.mergeSort le := by
        rw [tail]
        exact List.mem_append_right _ inside
      exact .inr ⟨least other inside, related other (List.mem_mergeSort.mp member)⟩
    · intro other inside last member
      rcases List.mem_cons.mp member with rfl | member
      · exact .inl (by simpa using later other inside)
      · exact across other inside last member

theorem filter_mergeSort_of_tied {p : α → Bool} (tied : ∀ a b, p a → p b → le a b)
    (items : List α) : (items.mergeSort le).filter p = items.filter p := by
  induction items with
  | nil => simp
  | cons item rest ih =>
    obtain ⟨before, after, whole, tail, later⟩ := List.mergeSort_cons trans total item rest
    rw [tail, List.filter_append] at ih
    rw [whole, List.filter_append]
    cases chosen : p item with
    | false =>
      have left : ¬p item = true := by simp [chosen]
      rw [List.filter_cons_of_neg left, List.filter_cons_of_neg left, ih]
    | true =>
      -- The items that moved before it are strictly less, so none of them ties with it.
      have none : before.filter p = [] := by
        apply List.filter_eq_nil_iff.mpr
        intro other inside also
        have greater := later other inside
        rw [tied item other chosen also] at greater
        cases greater
      rw [none, List.nil_append] at ih ⊢
      rw [List.filter_cons_of_pos chosen, List.filter_cons_of_pos chosen, ih]

end Stable

variable {key : α → Nat}

theorem mem_iff_of_filter_eq {items others : List α}
    (h : ∀ k, items.filter (fun item => key item = k) = others.filter fun item => key item = k)
    (item : α) : item ∈ items ↔ item ∈ others := by
  have same := congrArg (item ∈ ·) (h (key item))
  simpa using same

/-- Two sorted lists with the same items of each key in the same order are one. -/
theorem eq_of_filter_eq {items others : List α}
    (sorted : items.Pairwise fun a b => key a ≤ key b)
    (sorted' : others.Pairwise fun a b => key a ≤ key b)
    (h : ∀ k, items.filter (fun item => key item = k) = others.filter fun item => key item = k) :
    items = others := by
  induction items generalizing others with
  | nil =>
    cases others with
    | nil => rfl
    | cons other rest =>
      have inside := (mem_iff_of_filter_eq h other).mpr List.mem_cons_self
      cases inside
  | cons item rest ih =>
    cases others with
    | nil => exact absurd ((mem_iff_of_filter_eq h item).mp List.mem_cons_self) (by simp)
    | cons other rest' =>
      obtain ⟨least, later⟩ := List.pairwise_cons.mp sorted
      obtain ⟨least', later'⟩ := List.pairwise_cons.mp sorted'
      have below : key item ≤ key other := by
        rcases List.mem_cons.mp ((mem_iff_of_filter_eq h other).mpr List.mem_cons_self) with
          rfl | inside
        · exact Nat.le_refl _
        · exact least other inside
      have above : key other ≤ key item := by
        rcases List.mem_cons.mp ((mem_iff_of_filter_eq h item).mp List.mem_cons_self) with
          rfl | inside
        · exact Nat.le_refl _
        · exact least' item inside
      have tied : key other = key item := Nat.le_antisymm above below
      have heads := h (key item)
      rw [List.filter_cons_of_pos (by simp), List.filter_cons_of_pos (by simp [tied])] at heads
      obtain ⟨rfl, same⟩ := List.cons.inj heads
      rw [ih later later']
      intro k
      by_cases first : key item = k
      · rw [← first, same]
      · have rests := h k
        rwa [List.filter_cons_of_neg (by simp [first]), List.filter_cons_of_neg (by simp [first])]
          at rests

end CallAtlas.Sorting
