import CallAtlas.Ordered.Basic

set_option autoImplicit false
set_option relaxedAutoImplicit false

namespace CallAtlas

/-- The number of times each key was counted.  No key stands twice. -/
structure Tally (κ : Type) [KeyOrder κ] where
  entries : List (κ × Nat)
  increasing : Ordered.Increasing Prod.fst entries

namespace Tally

variable {κ : Type} [KeyOrder κ]

def addTo (key : κ) (times : Nat) : List (κ × Nat) → List (κ × Nat)
  | [] => [(key, times)]
  | (other, count) :: rest =>
    if KeyOrder.below key other then (key, times) :: (other, count) :: rest
    else if KeyOrder.below other key then (other, count) :: addTo key times rest
    else (other, count + times) :: rest

theorem mem_of_mem_addTo {key : κ} {times : Nat} {x : κ × Nat} {entries : List (κ × Nat)}
    (h : x ∈ addTo key times entries) : x.1 = key ∨ ∃ y ∈ entries, y.1 = x.1 := by
  induction entries with
  | nil =>
    have h : x = (key, times) := by simpa [addTo] using h
    exact .inl (h ▸ rfl)
  | cons entry rest ih =>
    obtain ⟨other, count⟩ := entry
    unfold addTo at h
    split at h
    · rcases List.mem_cons.mp h with rfl | inside
      · exact .inl rfl
      · exact .inr ⟨x, inside, rfl⟩
    · split at h
      · rcases List.mem_cons.mp h with rfl | inside
        · exact .inr ⟨_, List.mem_cons_self, rfl⟩
        · rcases ih inside with same | ⟨y, inside, same⟩
          · exact .inl same
          · exact .inr ⟨y, List.mem_cons_of_mem _ inside, same⟩
      · rcases List.mem_cons.mp h with rfl | inside
        · exact .inr ⟨_, List.mem_cons_self, rfl⟩
        · exact .inr ⟨x, List.mem_cons_of_mem _ inside, rfl⟩

theorem increasing_addTo {key : κ} {times : Nat} {entries : List (κ × Nat)}
    (h : Ordered.Increasing Prod.fst entries) :
    Ordered.Increasing Prod.fst (addTo key times entries) := by
  induction entries with
  | nil => simp [addTo, Ordered.Increasing]
  | cons entry rest ih =>
    obtain ⟨other, count⟩ := entry
    obtain ⟨above, sorted⟩ := List.pairwise_cons.mp h
    unfold addTo
    split
    · rename_i below
      refine List.pairwise_cons.mpr ⟨fun x inside => ?_, h⟩
      rcases List.mem_cons.mp inside with rfl | inside
      · exact below
      · exact KeyOrder.trans below (above x inside)
    · split
      · rename_i after
        refine List.pairwise_cons.mpr ⟨fun x inside => ?_, ih sorted⟩
        rcases mem_of_mem_addTo inside with same | ⟨y, inside, same⟩
        · exact same ▸ after
        · exact same ▸ above y inside
      · exact List.pairwise_cons.mpr ⟨above, sorted⟩

def empty : Tally κ := ⟨[], List.Pairwise.nil⟩

def add (tally : Tally κ) (key : κ) (times : Nat) : Tally κ :=
  ⟨addTo key times tally.entries, increasing_addTo tally.increasing⟩

def count [DecidableEq κ] (tally : Tally κ) (key : κ) : Nat :=
  (tally.entries.lookup key).getD 0

def size (tally : Tally κ) : Nat := tally.entries.length

def total (tally : Tally κ) : Nat := tally.entries.foldr (fun entry sum => entry.2 + sum) 0

/-- The entries by decreasing count, and by increasing key among equal counts. -/
def byCount (tally : Tally κ) : List (κ × Nat) :=
  tally.entries.mergeSort fun a b => b.2 ≤ a.2

@[simp] theorem entries_add (tally : Tally κ) (key : κ) (times : Nat) :
    (tally.add key times).entries = addTo key times tally.entries := rfl

end Tally

end CallAtlas
