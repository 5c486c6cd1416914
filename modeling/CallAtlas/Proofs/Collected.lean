set_option autoImplicit false
set_option relaxedAutoImplicit false

namespace CallAtlas

/-- The items that rows say, in the order of the rows: one for a row that says one, and none for a
row that says nothing. -/
inductive Collected {ρ α : Type} (tells : ρ → α → Prop) : List ρ → List α → Prop
  | done : Collected tells [] []
  | said {row : ρ} {item : α} {rows : List ρ} {items : List α} (this : tells row item)
      (others : Collected tells rows items) : Collected tells (row :: rows) (item :: items)
  | silent {row : ρ} {rows : List ρ} {items : List α} (nothing : ∀ item, ¬tells row item)
      (others : Collected tells rows items) : Collected tells (row :: rows) items

variable {ρ α : Type} {tells : ρ → α → Prop} {read : ρ → Option α}
  (reads : ∀ row item, read row = some item ↔ tells row item)

include reads

theorem collected_filterMap (rows : List ρ) : Collected tells rows (rows.filterMap read) := by
  induction rows with
  | nil => exact .done
  | cons row rest ih =>
    cases found : read row with
    | none =>
      have nothing : ∀ item, ¬tells row item := by
        intro item this
        rw [(reads row item).mpr this] at found
        cases found
      rw [List.filterMap_cons_none found]
      exact .silent nothing ih
    | some item =>
      rw [List.filterMap_cons_some found]
      exact .said ((reads row item).mp found) ih

theorem collected_iff {rows : List ρ} {items : List α} :
    Collected tells rows items ↔ rows.filterMap read = items := by
  constructor
  · intro h
    induction h with
    | done => rfl
    | said this others ih => rw [List.filterMap_cons_some ((reads _ _).mpr this), ih]
    | @silent row rows items nothing others ih =>
      have unread : read row = none := by
        apply Option.eq_none_iff_forall_ne_some.mpr
        intro item found
        exact nothing item ((reads row item).mp found)
      rw [List.filterMap_cons_none unread, ih]
  · rintro rfl
    exact collected_filterMap reads rows

end CallAtlas
