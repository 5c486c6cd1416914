import CallAtlas.Ordered.Basic

set_option autoImplicit false
set_option relaxedAutoImplicit false

namespace CallAtlas

namespace Distinct

variable {α : Type} [BEq α] [LawfulBEq α]

theorem nodup_eraseDups (items : List α) : items.eraseDups.Nodup := by
  induction equal : items.length using Nat.strongRecOn generalizing items with
  | ind size ih =>
    cases items with
    | nil => simp
    | cons item rest =>
      have fewer := List.length_filter_le (fun other => !other == item) rest
      have shorter : (rest.filter fun other => !other == item).length < size := by
        rw [List.length_cons] at equal
        omega
      rw [List.eraseDups_cons, List.nodup_cons]
      exact ⟨by simp, ih _ shorter _ rfl⟩

theorem eraseDups_concat_of_mem {items : List α} {item : α} (h : item ∈ items) :
    (items ++ [item]).eraseDups = items.eraseDups := by
  have known : [item].removeAll items = [] := by
    simp [List.removeAll, h]
  rw [List.eraseDups_append, known, List.eraseDups_nil, List.append_nil]

theorem eraseDups_concat_of_notMem {items : List α} {item : α} (h : item ∉ items) :
    (items ++ [item]).eraseDups = items.eraseDups ++ [item] := by
  have unknown : [item].removeAll items = [item] := by
    simp [List.removeAll, h]
  rw [List.eraseDups_append, unknown, List.eraseDups_cons]
  rfl

theorem eraseDups_prefix {items others : List α} (h : items <+: others) :
    items.eraseDups <+: others.eraseDups := by
  obtain ⟨rest, rfl⟩ := h
  rw [List.eraseDups_append]
  exact List.prefix_append _ _

theorem idxOf?_of_mem {items : List α} {item : α} (h : item ∈ items) :
    items.idxOf? item = some (items.idxOf item) := by
  induction items with
  | nil => cases h
  | cons head rest ih =>
    rw [List.idxOf?_cons, List.idxOf_cons]
    by_cases same : head == item
    · simp [same]
    · have inside : item ∈ rest := by
        rcases List.mem_cons.mp h with rfl | inside
        · simp at same
        · exact inside
      simp [same, ih inside]

theorem mem_of_idxOf?_eq_some {items : List α} {item : α} {number : Nat}
    (h : items.idxOf? item = some number) : item ∈ items := by
  apply Decidable.byContradiction
  intro absent
  rw [List.idxOf?_eq_none_iff.mpr absent] at h
  cases h

theorem idxOf?_concat {κ : Type} [DecidableEq κ] {items : List κ} {item : κ}
    (absent : item ∉ items) (other : κ) :
    (items ++ [item]).idxOf? other =
      if other = item then some items.length else items.idxOf? other := by
  by_cases same : other = item
  · subst same
    rw [if_pos rfl, idxOf?_of_mem (by simp), List.idxOf_append, if_neg absent]
    simp
  · rw [if_neg same]
    by_cases inside : other ∈ items
    · rw [idxOf?_of_mem inside, idxOf?_of_mem (List.mem_append_left _ inside), List.idxOf_append,
        if_pos inside]
    · rw [List.idxOf?_eq_none_iff.mpr inside, List.idxOf?_eq_none_iff.mpr (by simp [inside, same])]

theorem getElem?_idxOf {items : List α} {item : α} (h : item ∈ items) :
    items[items.idxOf item]? = some item := by
  rw [List.getElem?_eq_getElem (List.idxOf_lt_length_of_mem h), List.getElem_idxOf]

theorem idxOf_inj {items : List α} {a b : α} (ha : a ∈ items) (hb : b ∈ items)
    (h : items.idxOf a = items.idxOf b) : a = b := by
  have first := getElem?_idxOf ha
  rw [h, getElem?_idxOf hb] at first
  exact (Option.some.inj first).symm

theorem lookup_cons_eq_ite {κ β : Type} [DecidableEq κ] (key other : κ) (value : β)
    (rest : List (κ × β)) :
    ((key, value) :: rest).lookup other =
      if other = key then some value else rest.lookup other := by
  by_cases same : other = key
  · simp [same]
  · rw [List.lookup_cons, beq_eq_false_iff_ne.mpr same, if_neg same]

theorem map_lookup_getD {β : Type} {default : β} {entries : List (α × β)}
    (nodup : (entries.map Prod.fst).Nodup) :
    (entries.map Prod.fst).map (fun key => (key, (entries.lookup key).getD default)) =
      entries := by
  induction entries with
  | nil => rfl
  | cons entry rest ih =>
    obtain ⟨absent, others⟩ := List.nodup_cons.mp nodup
    rw [List.map_cons, List.map_cons, List.lookup_cons_self]
    congr 1
    refine Eq.trans (List.map_congr_left ?_) (ih others)
    intro key inside
    have apart : (key == entry.1) = false := by
      apply beq_eq_false_iff_ne.mpr
      intro same
      exact absent (same ▸ inside)
    rw [List.lookup_cons, apart]

end Distinct

namespace Ordered

variable {α κ : Type} [KeyOrder κ] {key : α → κ}

theorem mem_place_self (item : α) (items : List α) : item ∈ place key item items := by
  induction items with
  | nil => simp [place]
  | cons other rest ih =>
    unfold place
    split
    · exact List.mem_cons_self
    · split
      · exact List.mem_cons_of_mem _ ih
      · exact List.mem_cons_self

theorem mem_place_of_mem {item x : α} {items : List α} (h : x ∈ items)
    (apart : key x ≠ key item) : x ∈ place key item items := by
  induction items with
  | nil => cases h
  | cons other rest ih =>
    unfold place
    split
    · exact List.mem_cons_of_mem _ h
    · rename_i notBelow
      split
      · rcases List.mem_cons.mp h with rfl | inside
        · exact List.mem_cons_self
        · exact List.mem_cons_of_mem _ (ih inside)
      · rename_i notAbove
        rcases List.mem_cons.mp h with rfl | inside
        · exact absurd (KeyOrder.eq_of_not_below notAbove notBelow) apart
        · exact List.mem_cons_of_mem _ inside

theorem mem_ofList (injective : ∀ a b, key a = key b → a = b) {x : α} {items : List α} :
    x ∈ ofList key items ↔ x ∈ items := by
  unfold ofList
  suffices ∀ sorted : List α,
      x ∈ items.foldl (fun sorted item => place key item sorted) sorted ↔
        x ∈ sorted ∨ x ∈ items by simpa using this []
  induction items with
  | nil => simp
  | cons item rest ih =>
    intro sorted
    rw [List.foldl_cons, ih, List.mem_cons]
    constructor
    · rintro (placed | inside)
      · rcases mem_of_mem_place placed with same | old
        · exact .inr (.inl same)
        · exact .inl old
      · exact .inr (.inr inside)
    · rintro (old | rfl | inside)
      · by_cases same : key x = key item
        · obtain rfl := injective _ _ same
          exact .inl (mem_place_self _ _)
        · exact .inl (mem_place_of_mem old same)
      · exact .inl (mem_place_self _ _)
      · exact .inr inside

theorem mem_of_mem_ofList {x : α} {items : List α} (h : x ∈ ofList key items) : x ∈ items := by
  unfold ofList at h
  suffices ∀ sorted : List α,
      x ∈ items.foldl (fun sorted item => place key item sorted) sorted →
        x ∈ sorted ∨ x ∈ items by simpa using this [] h
  clear h
  induction items with
  | nil => simp
  | cons item rest ih =>
    intro sorted h
    rcases ih _ h with placed | inside
    · rcases mem_of_mem_place placed with same | old
      · exact .inr (same ▸ List.mem_cons_self)
      · exact .inl old
    · exact .inr (List.mem_cons_of_mem _ inside)

theorem exists_mem_place (key : α → κ) (item : α) {x : α} {items : List α} (h : x ∈ items) :
    ∃ y ∈ place key item items, key y = key x := by
  by_cases same : key x = key item
  · exact ⟨item, mem_place_self item items, same.symm⟩
  · exact ⟨x, mem_place_of_mem h same, rfl⟩

theorem exists_mem_ofList (key : α → κ) {x : α} {items : List α} (h : x ∈ items) :
    ∃ y ∈ ofList key items, key y = key x := by
  unfold ofList
  suffices ∀ sorted : List α, (∃ y ∈ sorted, key y = key x) ∨ x ∈ items →
      ∃ y ∈ items.foldl (fun sorted item => place key item sorted) sorted, key y = key x from
    this [] (.inr h)
  clear h
  induction items with
  | nil =>
    rintro sorted (known | inside)
    · exact known
    · cases inside
  | cons item rest ih =>
    rintro sorted (⟨y, inside, same⟩ | inside)
    · obtain ⟨z, placed, same'⟩ := exists_mem_place key item inside
      exact ih _ (.inl ⟨z, placed, same'.trans same⟩)
    · rcases List.mem_cons.mp inside with rfl | later
      · exact ih _ (.inl ⟨x, mem_place_self x sorted, rfl⟩)
      · exact ih _ (.inr later)

theorem Increasing.nodup {items : List α} (h : Increasing key items) : items.Nodup := by
  apply List.nodup_iff_pairwise_ne.mpr
  apply h.imp
  intro a b before same
  exact KeyOrder.ne_of_below before (congrArg key same)

theorem Increasing.eq_of_mem_iff {items others : List α} (h : Increasing key items)
    (k : Increasing key others) (same : ∀ x, x ∈ items ↔ x ∈ others) : items = others := by
  have perm : items.Perm others := (List.perm_ext_iff_of_nodup h.nodup k.nodup).mpr same
  apply perm.eq_of_pairwise _ h k
  intro a b _ _ before after
  exact absurd after (KeyOrder.asymm before)

theorem Increasing.lookup_eq_some {β : Type} [BEq κ] [LawfulBEq κ] {entries : List (κ × β)}
    (h : Increasing Prod.fst entries) {name : κ} {value : β} :
    entries.lookup name = some value ↔ (name, value) ∈ entries := by
  constructor
  · intro found
    obtain ⟨before, after, split, -⟩ := List.lookup_eq_some_iff.mp found
    simp [split]
  · intro inside
    obtain ⟨before, after, split⟩ := List.append_of_mem inside
    refine List.lookup_eq_some_iff.mpr ⟨before, after, split, ?_⟩
    intro entry early
    rw [Increasing, split] at h
    have below := (List.pairwise_append.mp h).2.2 entry early _ List.mem_cons_self
    exact bne_iff_ne.mpr (KeyOrder.ne_of_below below).symm

theorem ofList_perm (injective : ∀ a b, key a = key b → a = b) {items : List α}
    (nodup : items.Nodup) : (ofList key items).Perm items :=
  (List.perm_ext_iff_of_nodup (increasing_ofList key items).nodup nodup).mpr
    fun _ => mem_ofList injective

end Ordered

end CallAtlas
