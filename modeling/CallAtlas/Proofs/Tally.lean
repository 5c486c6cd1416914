import CallAtlas.Occurrence.Table
import CallAtlas.Proofs.Distinct
import CallAtlas.Proofs.Sorting
import Mathlib.Algebra.GroupWithZero.Nat

set_option autoImplicit false
set_option relaxedAutoImplicit false

namespace CallAtlas

namespace Tally

open Distinct (lookup_cons_eq_ite)

variable {κ : Type} [KeyOrder κ] [DecidableEq κ]

def keys (tally : Tally κ) : List κ := tally.entries.map Prod.fst

private theorem lookup_eq_none_of_below {key : κ} {entries : List (κ × Nat)}
    (above : ∀ entry ∈ entries, KeyOrder.below key entry.1) : entries.lookup key = none := by
  apply List.lookup_eq_none_iff.mpr
  intro entry member
  exact bne_iff_ne.mpr (KeyOrder.ne_of_below (above entry member))

theorem lookup_addTo {key : κ} {times : Nat} {entries : List (κ × Nat)}
    (h : Ordered.Increasing Prod.fst entries) (other : κ) :
    (addTo key times entries).lookup other =
      if other = key then some ((entries.lookup key).getD 0 + times)
      else entries.lookup other := by
  induction entries with
  | nil => simp [addTo, lookup_cons_eq_ite]
  | cons entry rest ih =>
    obtain ⟨head, count⟩ := entry
    obtain ⟨above, sorted⟩ := List.pairwise_cons.mp h
    unfold addTo
    split
    · rename_i before
      -- All keys from here on are greater.
      have absent : ((head, count) :: rest).lookup key = none := by
        apply lookup_eq_none_of_below
        intro entry member
        rcases List.mem_cons.mp member with rfl | inside
        · exact before
        · exact KeyOrder.trans before (above entry inside)
      rw [absent, lookup_cons_eq_ite]
      simp
    · rename_i notBefore
      split
      · rename_i after
        have apart : key ≠ head := (KeyOrder.ne_of_below after).symm
        rw [lookup_cons_eq_ite, ih sorted, lookup_cons_eq_ite, lookup_cons_eq_ite, if_neg apart]
        by_cases first : other = head
        · rw [if_pos first, if_pos first, if_neg (first ▸ apart.symm)]
        · rw [if_neg first, if_neg first]
      · rename_i notAfter
        obtain rfl := KeyOrder.eq_of_not_below notBefore notAfter
        by_cases same : other = key
        · simp [same]
        · simp [lookup_cons_eq_ite, same]

theorem mem_entries_iff {tally : Tally κ} {key : κ} {count : Nat} :
    (key, count) ∈ tally.entries ↔ tally.entries.lookup key = some count :=
  tally.increasing.lookup_eq_some.symm

theorem ext_lookup {a b : Tally κ}
    (h : ∀ key, a.entries.lookup key = b.entries.lookup key) : a = b := by
  have equal : a.entries = b.entries := by
    apply a.increasing.eq_of_mem_iff b.increasing
    rintro ⟨key, count⟩
    rw [mem_entries_iff, mem_entries_iff, h key]
  obtain ⟨entries, _⟩ := a
  obtain ⟨others, _⟩ := b
  cases equal
  rfl

theorem lookup_add (tally : Tally κ) (key other : κ) (times : Nat) :
    (tally.add key times).entries.lookup other =
      if other = key then some (tally.count key + times) else tally.entries.lookup other :=
  lookup_addTo tally.increasing other

@[simp] theorem count_empty (key : κ) : (empty : Tally κ).count key = 0 := rfl

theorem count_add (tally : Tally κ) (key other : κ) (times : Nat) :
    (tally.add key times).count other =
      tally.count other + if other = key then times else 0 := by
  rw [count, lookup_add]
  by_cases same : other = key
  · simp [same]
  · simp [same, count]

theorem add_right_comm (tally : Tally κ) (a b : κ) (m n : Nat) :
    (tally.add a m).add b n = (tally.add b n).add a m := by
  apply ext_lookup
  intro key
  simp only [lookup_add, count_add]
  by_cases first : key = a <;> by_cases second : key = b
  · subst first
    subst second
    simp only [if_true]
    congr 1
    omega
  · subst first
    simp [second]
  · subst second
    simp [first]
  · simp [first, second]

omit [DecidableEq κ] in
theorem sum_addTo (key : κ) (times : Nat) (entries : List (κ × Nat)) :
    (addTo key times entries).foldr (fun entry sum => entry.2 + sum) 0 =
      entries.foldr (fun entry sum => entry.2 + sum) 0 + times := by
  induction entries with
  | nil => simp [addTo]
  | cons entry rest ih =>
    unfold addTo
    split
    · simp only [List.foldr_cons]
      omega
    · split
      · simp only [List.foldr_cons, ih]
        omega
      · simp only [List.foldr_cons]
        omega

omit [DecidableEq κ] in
theorem total_add (tally : Tally κ) (key : κ) (times : Nat) :
    (tally.add key times).total = tally.total + times :=
  sum_addTo key times tally.entries

theorem foldl_add_perm {α : Type} {items others : List α} (h : items.Perm others)
    (key : α → κ) (times : α → Nat) (tally : Tally κ) :
    items.foldl (fun tally item => tally.add (key item) (times item)) tally =
      others.foldl (fun tally item => tally.add (key item) (times item)) tally :=
  h.foldl_eq' (fun _ _ _ _ tally => add_right_comm tally _ _ _ _) tally

omit [DecidableEq κ] in
theorem keys_nodup (tally : Tally κ) : tally.keys.Nodup := by
  rw [keys, List.nodup_iff_pairwise_ne, List.pairwise_map]
  exact tally.increasing.imp KeyOrder.ne_of_below

omit [KeyOrder κ] [DecidableEq κ] in
theorem countGe_trans (a b c : κ × Nat) (first : decide (b.2 ≤ a.2) = true)
    (second : decide (c.2 ≤ b.2) = true) : decide (c.2 ≤ a.2) = true := by
  rw [decide_eq_true_eq] at *
  omega

omit [KeyOrder κ] [DecidableEq κ] in
theorem countGe_total (a b : κ × Nat) : decide (b.2 ≤ a.2) || decide (a.2 ≤ b.2) := by
  rw [Bool.or_eq_true, decide_eq_true_eq, decide_eq_true_eq]
  omega

omit [DecidableEq κ] in
theorem byCount_perm (tally : Tally κ) : tally.byCount.Perm tally.entries :=
  List.mergeSort_perm _ _

omit [DecidableEq κ] in
theorem byCount_pairwise (tally : Tally κ) :
    tally.byCount.Pairwise fun a b => b.2 < a.2 ∨ a.2 = b.2 ∧ KeyOrder.below a.1 b.1 := by
  have sorted := Sorting.pairwise_mergeSort_of_pairwise countGe_trans countGe_total
    tally.increasing
  apply sorted.imp
  intro a b order
  simp only [decide_eq_false_iff_not, decide_eq_true_eq] at order
  rcases order with greater | ⟨notLess, before⟩
  · exact .inl (by omega)
  · rcases Nat.lt_or_eq_of_le notLess with greater | same
    · exact .inl greater
    · exact .inr ⟨same.symm, before⟩

theorem mem_keys_iff {tally : Tally κ} {key : κ} :
    key ∈ tally.keys ↔ (tally.entries.lookup key).isSome := by
  rw [Option.isSome_iff_exists, keys, List.mem_map]
  constructor
  · rintro ⟨⟨_, count⟩, inside, rfl⟩
    exact ⟨count, mem_entries_iff.mp inside⟩
  · rintro ⟨count, found⟩
    exact ⟨(key, count), mem_entries_iff.mpr found, rfl⟩

theorem mem_keys_add {tally : Tally κ} {key other : κ} {times : Nat} :
    other ∈ (tally.add key times).keys ↔ other = key ∨ other ∈ tally.keys := by
  rw [mem_keys_iff, mem_keys_iff, lookup_add]
  by_cases same : other = key <;> simp [same]

variable {α : Type} (key : α → κ) (times : α → Nat)

theorem mem_keys_foldl_add {items : List α} {tally : Tally κ} {other : κ} :
    other ∈ (items.foldl (fun tally item => tally.add (key item) (times item)) tally).keys ↔
      other ∈ tally.keys ∨ ∃ item ∈ items, key item = other := by
  induction items generalizing tally with
  | nil => simp
  | cons item rest ih =>
    rw [List.foldl_cons, ih, mem_keys_add]
    constructor
    · rintro ((rfl | old) | ⟨later, inside, same⟩)
      · exact .inr ⟨item, List.mem_cons_self, rfl⟩
      · exact .inl old
      · exact .inr ⟨later, List.mem_cons_of_mem _ inside, same⟩
    · rintro (old | ⟨later, inside, rfl⟩)
      · exact .inl (.inr old)
      · rcases List.mem_cons.mp inside with rfl | inside
        · exact .inl (.inl rfl)
        · exact .inr ⟨later, inside, rfl⟩

theorem count_foldl_add (items : List α) (tally : Tally κ) (other : κ) :
    (items.foldl (fun tally item => tally.add (key item) (times item)) tally).count other =
      tally.count other + ((items.filter fun item => key item = other).map times).sum := by
  induction items generalizing tally with
  | nil => simp
  | cons item rest ih =>
    rw [List.foldl_cons, ih, count_add, Nat.add_assoc]
    by_cases same : key item = other
    · simp [same]
    · simp [same, Ne.symm same]

omit [DecidableEq κ] in
theorem total_foldl_add (items : List α) (tally : Tally κ) :
    (items.foldl (fun tally item => tally.add (key item) (times item)) tally).total =
      tally.total + (items.map times).sum := by
  induction items generalizing tally with
  | nil => rfl
  | cons item rest ih =>
    rw [List.foldl_cons, ih, total_add, List.map_cons, List.sum_cons, Nat.add_assoc]

end Tally

namespace Occurrence.Table

theorem count_foldl_record (keys : List Key) (table : Table) (key : Key) :
    (keys.foldl record table).count key = table.count key + keys.count key := by
  induction keys generalizing table with
  | nil => rfl
  | cons other rest ih =>
    rw [List.foldl_cons, ih, record, Tally.count_add, List.count_cons]
    by_cases same : key = other
    · subst same
      simp only [if_true, beq_self_eq_true]
      omega
    · simp [same, Ne.symm same]

theorem count_ofKeys (keys : List Key) (key : Key) :
    (ofKeys keys).count key = keys.count key := by
  rw [ofKeys, count_foldl_record, Tally.count_empty, Nat.zero_add]

theorem total_foldl_record (keys : List Key) (table : Table) :
    (keys.foldl record table).total = table.total + keys.length := by
  induction keys generalizing table with
  | nil => rfl
  | cons other rest ih =>
    rw [List.foldl_cons, ih, record, Tally.total_add, List.length_cons]
    omega

theorem total_ofKeys (keys : List Key) : (ofKeys keys).total = keys.length := by
  rw [ofKeys, total_foldl_record]
  exact Nat.zero_add _

theorem mem_keys_ofKeys {keys : List Key} {key : Key} :
    key ∈ (ofKeys keys).keys ↔ key ∈ keys := by
  have all : key ∈ (ofKeys keys).keys ↔
      key ∈ (Tally.empty : Table).keys ∨ ∃ item ∈ keys, id item = key :=
    Tally.mem_keys_foldl_add id fun _ => 1
  have none : key ∉ (Tally.empty : Table).keys := List.not_mem_nil
  simpa only [none, false_or, id_eq, exists_eq_right] using all

theorem ofKeys_perm {keys others : List Key} (h : keys.Perm others) :
    ofKeys keys = ofKeys others :=
  Tally.foldl_add_perm h id (fun _ => 1) Tally.empty

end Occurrence.Table

end CallAtlas
