import CallAtlas.Proofs.Distinct
import CallAtlas.Proofs.Settings.Leaf

set_option autoImplicit false
set_option relaxedAutoImplicit false

/-!
Assigning one setting.  An assignment changes the setting it is for and no other, but where a list
stands for the table that it goes into: the list gives way to a table with nothing else in it.
-/

namespace CallAtlas.Settings

open Distinct (lookup_cons_eq_ite)

theorem Fields.lookup_modify (change : Value → Value) (name other : String) (fields : Fields) :
    (Fields.modify change name fields).lookup other =
      if other = name then some (change ((fields.lookup name).getD Value.missing))
      else fields.lookup other := by
  induction fields with
  | nil =>
    rw [Fields.modify, lookup_cons_eq_ite]
    rfl
  | cons field rest ih =>
    obtain ⟨first, value⟩ := field
    rw [Fields.modify]
    by_cases here : first = name
    · rw [if_pos here, lookup_cons_eq_ite, lookup_cons_eq_ite, lookup_cons_eq_ite, here]
      by_cases same : other = name
      · simp [same]
      · simp [same]
    · rw [if_neg here, lookup_cons_eq_ite, lookup_cons_eq_ite, lookup_cons_eq_ite, ih,
        if_neg (Ne.symm here)]
      by_cases same : other = first
      · subst same
        simp [here]
      · simp [same]

namespace Leaf

def steps (leaf : Leaf) : List Step := (leaf.group?.map fun _ => Step.field leaf.name).toList

theorem ofText_key (leaf : Leaf) : Key.ofText leaf.key = ⟨leaf.top, leaf.steps⟩ := by
  cases leaf <;> decide

theorem group?_eq_of_top_eq {leaf other : Leaf} (same : leaf.top = other.top) :
    leaf.group? = other.group? := by
  have apart : ∀ leaf ∈ all, ∀ other ∈ all, leaf.top = other.top →
      leaf.group? = other.group? := by decide
  exact apart leaf leaf.mem_all other other.mem_all same

theorem eq_of_name_eq {leaf other : Leaf} (same : leaf.top = other.top)
    (named : leaf.name = other.name) : leaf = other := by
  have distinct : ∀ leaf ∈ all, ∀ other ∈ all, leaf.top = other.top → leaf.name = other.name →
      leaf = other := by decide
  exact distinct leaf leaf.mem_all other other.mem_all same named

theorem eq_of_top_eq {leaf other : Leaf} (free : leaf.group? = none)
    (same : leaf.top = other.top) : leaf = other := by
  apply eq_of_name_eq same
  rwa [top, top, ← group?_eq_of_top_eq same, free] at same

theorem top_eq_name_iff {leaf : Leaf} {group : Group} :
    group.name = leaf.top ↔ leaf.group? = some group := by
  cases leaf <;> cases group <;> decide

end Leaf

theorem Value.modifyAt_field (change : Value → Value) (name : String) (rest : List Step)
    (value : Value) :
    ∃ origin, modifyAt change (.field name :: rest) value =
      .table origin (Fields.modify (modifyAt change rest) name value.fields) := by
  cases value <;> exact ⟨_, rfl⟩

/-- What the assignment of a setting makes of its field of the root table. -/
def Leaf.place (leaf : Leaf) (scalar : Value) (old : Option Value) : Value :=
  Value.modifyAt scalar.overlay leaf.steps (old.getD Value.missing)

section Assignments

variable (leaf other : Leaf) (origin : Option Origin) (scalar : Scalar) (fields : Fields)

theorem Leaf.place_of_root (free : leaf.group? = none) (old : Option Value) :
    leaf.place (.leaf origin scalar) old = .leaf origin scalar := by
  rw [place, steps, free]
  rfl

theorem Leaf.place_of_group {group : Group} (inside : leaf.group? = some group)
    (old : Option Value) :
    ∃ from?, leaf.place (.leaf origin scalar) old =
      .table from? (Fields.modify (fun _ => .leaf origin scalar) leaf.name
        (old.getD Value.missing).fields) := by
  rw [place, steps, inside]
  exact Value.modifyAt_field _ _ _ _

theorem Leaf.shape_place (old : Option Value) :
    Shape.of (some (leaf.place (.leaf origin scalar) old)) ≠ .list := by
  cases inside : leaf.group? with
  | none =>
    rw [leaf.place_of_root origin scalar inside]
    exact Shape.noConfusion
  | some group =>
    obtain ⟨from?, placed⟩ := leaf.place_of_group origin scalar inside old
    rw [placed]
    exact Shape.noConfusion

theorem Fields.lookup_assign (name : String) :
    (fields.assign leaf.key (.leaf origin scalar)).lookup name =
      if name = leaf.top then some (leaf.place (.leaf origin scalar) (fields.lookup leaf.top))
      else fields.lookup name := by
  rw [Fields.assign, leaf.ofText_key]
  exact Fields.lookup_modify _ _ _ _

theorem Group.shape_assign (group : Group) :
    group.shape (fields.assign leaf.key (.leaf origin scalar)) =
      if leaf.group? = some group then .table else group.shape fields := by
  rw [shape, Fields.lookup_assign]
  by_cases inside : leaf.group? = some group
  · obtain ⟨from?, placed⟩ :=
      leaf.place_of_group origin scalar inside (fields.lookup leaf.top)
    rw [if_pos inside, if_pos (Leaf.top_eq_name_iff.mpr inside), placed]
    rfl
  · rw [if_neg inside, if_neg fun same => inside (Leaf.top_eq_name_iff.mp same), shape]

/-- The assigned setting is what was assigned.  Any other is what it was, or nothing any more if a
list stood for the table of both. -/
theorem Leaf.raw?_assign :
    leaf.raw? (fields.assign other.key (.leaf origin scalar)) =
      if leaf = other then some (other.key, .leaf origin scalar)
      else if leaf.top = other.top ∧ Shape.of (fields.lookup leaf.top) = .list then none
      else leaf.raw? fields := by
  rw [raw?, Fields.lookup_assign]
  by_cases same : leaf.top = other.top
  · have together := group?_eq_of_top_eq same
    rw [if_pos same]
    cases inside : other.group? with
    | none =>
      have free := together.trans inside
      have equal : leaf = other := eq_of_top_eq free same
      rw [if_pos equal, other.place_of_root origin scalar inside, rawIn?, free, equal, key, inside]
      rfl
    | some group =>
      have within := together.trans inside
      obtain ⟨from?, placed⟩ := other.place_of_group origin scalar inside (fields.lookup other.top)
      rw [placed, rawIn?, within, raw?, rawIn?, within, ← same]
      dsimp only [Option.bind_some, part?]
      rw [Fields.lookup_modify]
      by_cases equal : leaf = other
      · rw [if_pos equal, equal, if_pos rfl, key, inside]
        rfl
      · rw [if_neg equal, if_neg fun named => equal (eq_of_name_eq same named)]
        -- What is left is in the table that stood there, if it was a table.
        cases fields.lookup leaf.top with
        | none => simp [Shape.of, Value.missing, Value.fields]
        | some old => cases old <;> simp [Shape.of, Value.fields, part?]
  · have apart : leaf ≠ other := fun equal => same (congrArg top equal)
    rw [if_neg same, if_neg apart, if_neg fun both => same both.1, raw?]

end Assignments

def Fields.within (fields : Fields) (name : String) : Fields :=
  ((fields.lookup name).getD Value.missing).fields

theorem Fields.within_modify (change : Value → Value) (name : String) (rest : List Step)
    (top : String) (fields : Fields) :
    (Fields.modify (Value.modifyAt change (.field name :: rest)) top fields).within top =
      Fields.modify (Value.modifyAt change rest) name (fields.within top) := by
  obtain ⟨origin, made⟩ :=
    Value.modifyAt_field change name rest ((fields.lookup top).getD Value.missing)
  rw [within, within, Fields.lookup_modify, if_pos rfl, Option.getD_some, made]
  rfl

/-- An assignment that leaves a setting as it is, and the table of the setting a table. -/
def Leaf.KeepsOff (leaf : Leaf) (key : Key) : Prop :=
  key.name ≠ leaf.top ∨
    leaf.group? ≠ none ∧ ∃ name rest, key.steps = .field name :: rest ∧ name ≠ leaf.name

/-- Fields with a value for a setting, beside fields that are the same but for it: where those have
no table for the setting, it is alone in its table. -/
structure Beside (leaf : Leaf) (value : Value) (fields other : Fields) : Prop where
  apart : ∀ name ≠ leaf.top, other.lookup name = fields.lookup name
  free : leaf.group? = none → other.lookup leaf.top = some value
  inside : leaf.group? ≠ none → ∃ origin parts, other.lookup leaf.top = some (.table origin parts) ∧
    parts.lookup leaf.name = some value ∧
      ∀ name ≠ leaf.name, parts.lookup name = (fields.within leaf.top).lookup name

section Companions

variable {leaf : Leaf} {fields other : Fields} {origin : Option Origin} {scalar : Scalar}
  {value : Value}

theorem lookup_assign_inside (leaf : Leaf) (grouped : leaf.group? ≠ none) (fields : Fields)
    (origin : Option Origin) (scalar : Scalar) :
    ∃ from?, (fields.assign leaf.key (.leaf origin scalar)).lookup leaf.top =
      some (.table from? (Fields.modify (fun _ => .leaf origin scalar) leaf.name
        (fields.within leaf.top))) := by
  obtain ⟨group, inside⟩ := Option.ne_none_iff_exists'.mp grouped
  obtain ⟨from?, placed⟩ := leaf.place_of_group origin scalar inside (fields.lookup leaf.top)
  refine ⟨from?, ?_⟩
  rw [Fields.lookup_assign, if_pos rfl, placed]
  rfl

theorem beside_assign (leaf : Leaf) (fields : Fields) (origin : Option Origin) (scalar : Scalar) :
    Beside leaf (.leaf origin scalar) fields (fields.assign leaf.key (.leaf origin scalar)) := by
  refine ⟨?_, ?_, ?_⟩
  · intro name apart
    rw [Fields.lookup_assign, if_neg apart]
  · intro free
    rw [Fields.lookup_assign, if_pos rfl, leaf.place_of_root origin scalar free]
  · intro grouped
    obtain ⟨from?, found⟩ := lookup_assign_inside leaf grouped fields origin scalar
    refine ⟨from?, _, found, ?_, ?_⟩
    · rw [Fields.lookup_modify, if_pos rfl]
    · intro name different
      rw [Fields.lookup_modify, if_neg different]

theorem Beside.over_assign (beside : Beside leaf value fields other) (origin : Option Origin)
    (scalar : Scalar) :
    Beside leaf value (fields.assign leaf.key (.leaf origin scalar)) other := by
  refine ⟨?_, beside.free, ?_⟩
  · intro name apart
    rw [beside.apart name apart, Fields.lookup_assign, if_neg apart]
  · intro grouped
    obtain ⟨from?, parts, found, here, rest⟩ := beside.inside grouped
    obtain ⟨_, made⟩ := lookup_assign_inside leaf grouped fields origin scalar
    refine ⟨from?, parts, found, here, ?_⟩
    intro name different
    rw [rest name different, Fields.within, Fields.within, made]
    exact ((Fields.lookup_modify _ _ _ _).trans (if_neg different)).symm

theorem Beside.assign (beside : Beside leaf value fields other) {key : String}
    (off : leaf.KeepsOff (.ofText key)) (incoming : Value) :
    Beside leaf value (fields.assign key incoming) (other.assign key incoming) := by
  unfold Fields.assign
  dsimp only
  generalize Key.ofText key = key at off
  obtain ⟨top, steps⟩ := key
  by_cases same : top = leaf.top
  · -- The assignment is to another part of the table of the setting.
    obtain ⟨grouped, name, rest, rfl, different⟩ := off.resolve_left (absurd same)
    obtain rfl := same
    refine ⟨?_, fun free => absurd free grouped, ?_⟩
    · intro name apart
      rw [Fields.lookup_modify, Fields.lookup_modify, if_neg apart, if_neg apart,
        beside.apart name apart]
    · intro _
      obtain ⟨origin, parts, found, here, others⟩ := beside.inside grouped
      obtain ⟨from?, made⟩ :=
        Value.modifyAt_field incoming.overlay name rest (.table origin parts)
      refine ⟨from?, Fields.modify (Value.modifyAt incoming.overlay rest) name parts, ?_, ?_, ?_⟩
      · rw [Fields.lookup_modify, if_pos rfl, found, Option.getD_some, made]
        rfl
      · rw [Fields.lookup_modify, if_neg (Ne.symm different), here]
      · intro part other
        rw [Fields.within_modify, Fields.lookup_modify, Fields.lookup_modify, others part other,
          others name different]
  · -- The assignment is to another field of the root table, which is the same in both.
    have kept (fields : Fields) (change : Value → Value) :
        (Fields.modify change top fields).lookup leaf.top = fields.lookup leaf.top := by
      rw [Fields.lookup_modify, if_neg (Ne.symm same)]
    refine ⟨?_, ?_, ?_⟩
    · intro name apart
      rw [Fields.lookup_modify, Fields.lookup_modify, beside.apart name apart,
        beside.apart top same]
    · intro free
      rw [kept, beside.free free]
    · intro grouped
      rw [Fields.within, kept, kept]
      exact beside.inside grouped

theorem Beside.raw?_self (beside : Beside leaf value fields other) :
    leaf.raw? other = some (leaf.key, value) := by
  cases place : leaf.group? with
  | none =>
    rw [Leaf.raw?, beside.free place, Leaf.rawIn?, Leaf.key, place]
    rfl
  | some group =>
    obtain ⟨origin, parts, found, here, -⟩ := beside.inside (by rw [place]; exact nofun)
    rw [Leaf.raw?, found, Leaf.rawIn?, Leaf.key, place]
    dsimp only [Option.bind_some, part?]
    rw [here]
    rfl

theorem Beside.raw?_of_ne (beside : Beside leaf value fields other) {third : Leaf}
    (different : third ≠ leaf) :
    third.raw? other = third.raw? fields ∨ third.raw? other = none := by
  by_cases same : third.top = leaf.top
  · cases place : third.group? with
    | none => exact absurd (Leaf.eq_of_top_eq place same) different
    | some group =>
      obtain ⟨origin, parts, found, -, others⟩ := beside.inside (by
        rw [← Leaf.group?_eq_of_top_eq same, place]
        exact nofun)
      have named : third.name ≠ leaf.name := fun named => different (Leaf.eq_of_name_eq same named)
      rw [Leaf.raw?, Leaf.raw?, Leaf.rawIn?, Leaf.rawIn?, place, same, found]
      dsimp only [Option.bind_some, part?]
      rw [others _ named, Fields.within]
      cases fields.lookup leaf.top with
      | none => exact .inr rfl
      | some old =>
        cases old with
        | leaf => exact .inr rfl
        | list => exact .inr rfl
        | table => exact .inl rfl
  · left
    rw [Leaf.raw?, Leaf.raw?, beside.apart _ same]

theorem Beside.shape (beside : Beside leaf value fields other) (group : Group) :
    group.shape other = group.shape fields ∨ group.shape other = .table := by
  by_cases inside : leaf.group? = some group
  · right
    obtain ⟨origin, parts, found, -⟩ := beside.inside (by rw [inside]; exact nofun)
    rw [Group.shape, Leaf.top_eq_name_iff.mpr inside, found]
    rfl
  · left
    rw [Group.shape, Group.shape, beside.apart _ fun same => inside (Leaf.top_eq_name_iff.mp same)]

end Companions

end CallAtlas.Settings
