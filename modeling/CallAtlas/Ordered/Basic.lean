set_option autoImplicit false
set_option relaxedAutoImplicit false

/-!
Keys in a strict total order, and lists kept sorted by a key.  Putting an item into such a list
keeps it strictly increasing, so a key never stands twice.
-/

namespace CallAtlas

/-- Keys in a strict total order. -/
class KeyOrder (κ : Type) where
  below : κ → κ → Bool
  irrefl : ∀ a : κ, below a a = false
  trans : ∀ {a b c : κ}, below a b → below b c → below a c
  total : ∀ a b : κ, below a b ∨ a = b ∨ below b a

namespace KeyOrder

variable {κ : Type} [KeyOrder κ]

theorem not_below_self (a : κ) : ¬below a a := by simp [irrefl]

theorem ne_of_below {a b : κ} (h : below a b) : a ≠ b :=
  fun same => not_below_self b (same ▸ h)

theorem asymm {a b : κ} (h : below a b) : ¬below b a :=
  fun back => not_below_self a (trans h back)

theorem eq_of_not_below {a b : κ} (h : ¬below a b) (k : ¬below b a) : a = b := by
  rcases total a b with first | same | second
  · exact absurd first h
  · exact same
  · exact absurd second k

/-- The order of lists by their first difference; a list comes after its beginnings. -/
def listBelow : List κ → List κ → Bool
  | _, [] => false
  | [], _ :: _ => true
  | a :: rest, b :: others => below a b || (!below b a && listBelow rest others)

theorem listBelow_cons {a b : κ} {rest others : List κ} :
    listBelow (a :: rest) (b :: others) ↔ below a b ∨ a = b ∧ listBelow rest others := by
  rw [listBelow, Bool.or_eq_true, Bool.and_eq_true, Bool.not_eq_true']
  constructor
  · rintro (first | ⟨notSecond, later⟩)
    · exact .inl first
    · rcases total a b with first | same | second
      · exact .inl first
      · exact .inr ⟨same, later⟩
      · exact absurd second (by simp [notSecond])
  · rintro (first | ⟨rfl, later⟩)
    · exact .inl first
    · exact .inr ⟨irrefl a, later⟩

end KeyOrder

instance : KeyOrder Char where
  below a b := decide (a.toNat < b.toNat)
  irrefl a := by simp
  trans {a b c} := by
    simp only [decide_eq_true_eq]
    exact Nat.lt_trans
  total a b := by
    simp only [decide_eq_true_eq]
    rcases Nat.lt_trichotomy a.toNat b.toNat with first | same | second
    · exact .inl first
    · exact .inr (.inl (Char.toNat_inj.mp same))
    · exact .inr (.inr second)

instance : KeyOrder UInt8 where
  below a b := decide (a.toNat < b.toNat)
  irrefl a := by simp
  trans {a b c} := by
    simp only [decide_eq_true_eq]
    exact Nat.lt_trans
  total a b := by
    simp only [decide_eq_true_eq]
    rcases Nat.lt_trichotomy a.toNat b.toNat with first | same | second
    · exact .inl first
    · exact .inr (.inl (UInt8.toNat_inj.mp same))
    · exact .inr (.inr second)

instance {κ : Type} [KeyOrder κ] : KeyOrder (List κ) where
  below := KeyOrder.listBelow
  irrefl a := by
    induction a with
    | nil => simp [KeyOrder.listBelow]
    | cons x rest ih => simp [KeyOrder.listBelow, KeyOrder.irrefl, ih]
  trans {a b c} := by
    induction a generalizing b c with
    | nil => cases b <;> cases c <;> simp [KeyOrder.listBelow]
    | cons x rest ih =>
      cases b with
      | nil => simp [KeyOrder.listBelow]
      | cons y _ =>
        cases c with
        | nil => simp [KeyOrder.listBelow]
        | cons z _ =>
          simp only [KeyOrder.listBelow_cons]
          rintro (first | ⟨rfl, first⟩) (second | ⟨rfl, second⟩)
          · exact .inl (KeyOrder.trans first second)
          · exact .inl first
          · exact .inl second
          · exact .inr ⟨rfl, ih first second⟩
  total a b := by
    induction a generalizing b with
    | nil => cases b <;> simp [KeyOrder.listBelow]
    | cons x rest ih =>
      cases b with
      | nil => simp [KeyOrder.listBelow]
      | cons y others =>
        simp only [KeyOrder.listBelow_cons, List.cons.injEq]
        rcases KeyOrder.total x y with first | rfl | second
        · exact .inl (.inl first)
        · rcases ih others with first | rfl | second
          · exact .inl (.inr ⟨rfl, first⟩)
          · exact .inr (.inl ⟨rfl, rfl⟩)
          · exact .inr (.inr (.inr ⟨rfl, second⟩))
        · exact .inr (.inr (.inl second))

instance : KeyOrder String where
  below a b := KeyOrder.below a.toList b.toList
  irrefl a := KeyOrder.irrefl a.toList
  trans := KeyOrder.trans
  total a b := (KeyOrder.total a.toList b.toList).imp_right (.imp_left String.toList_inj.mp)

namespace Ordered

variable {α κ : Type} [KeyOrder κ]

def Increasing (key : α → κ) (items : List α) : Prop :=
  items.Pairwise fun a b => KeyOrder.below (key a) (key b)

/-- Puts an item at the place of its key; it takes the place of an item with that key. -/
def place (key : α → κ) (item : α) : List α → List α
  | [] => [item]
  | other :: rest =>
    if KeyOrder.below (key item) (key other) then item :: other :: rest
    else if KeyOrder.below (key other) (key item) then other :: place key item rest
    else item :: rest

/-- The items by increasing key, the last one of each key. -/
def ofList (key : α → κ) (items : List α) : List α :=
  items.foldl (fun sorted item => place key item sorted) []

theorem mem_of_mem_place {key : α → κ} {item x : α} {items : List α}
    (h : x ∈ place key item items) : x = item ∨ x ∈ items := by
  induction items with
  | nil => simpa [place] using h
  | cons other rest ih =>
    unfold place at h
    split at h
    · simpa using h
    · split at h
      · rcases List.mem_cons.mp h with rfl | inside
        · exact .inr List.mem_cons_self
        · exact (ih inside).imp_right (List.mem_cons_of_mem _)
      · rcases List.mem_cons.mp h with rfl | inside
        · exact .inl rfl
        · exact .inr (List.mem_cons_of_mem _ inside)

theorem increasing_place {key : α → κ} {item : α} {items : List α}
    (h : Increasing key items) : Increasing key (place key item items) := by
  induction items with
  | nil => simp [place, Increasing]
  | cons other rest ih =>
    obtain ⟨above, sorted⟩ := List.pairwise_cons.mp h
    unfold place
    split
    · rename_i below
      refine List.pairwise_cons.mpr ⟨fun x inside => ?_, h⟩
      rcases List.mem_cons.mp inside with rfl | inside
      · exact below
      · exact KeyOrder.trans below (above x inside)
    · rename_i notBelow
      split
      · rename_i after
        refine List.pairwise_cons.mpr ⟨fun x inside => ?_, ih sorted⟩
        rcases mem_of_mem_place inside with rfl | inside
        · exact after
        · exact above x inside
      · rename_i notAfter
        have same := KeyOrder.eq_of_not_below notBelow notAfter
        exact List.pairwise_cons.mpr ⟨fun x inside => same ▸ above x inside, sorted⟩

theorem increasing_ofList (key : α → κ) (items : List α) :
    Increasing key (ofList key items) := by
  unfold ofList
  suffices ∀ sorted, Increasing key sorted →
      Increasing key (items.foldl (fun sorted item => place key item sorted) sorted) from
    this [] List.Pairwise.nil
  induction items with
  | nil => exact fun _ h => h
  | cons item rest ih => exact fun sorted h => ih _ (increasing_place h)

end Ordered

end CallAtlas
