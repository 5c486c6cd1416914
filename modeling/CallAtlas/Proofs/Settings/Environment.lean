import CallAtlas.Proofs.Settings.Assignment
import CallAtlas.Settings.Load

set_option autoImplicit false
set_option relaxedAutoImplicit false

namespace CallAtlas.Settings

namespace Leaf

def ofVariable? (name : String) : Option Leaf :=
  (keyOfVariable? name).bind fun key => all.find? fun leaf => leaf.key = key

/-- The text of a setting in an environment: that of the last variable that holds it. -/
def given? (leaf : Leaf) : List (String × String) → Option String
  | [] => none
  | (name, text) :: rest =>
    (leaf.given? rest).or (if ofVariable? name = some leaf then some text else none)

theorem keyOfVariable?_of_ofVariable? {name : String} {leaf : Leaf}
    (holds : ofVariable? name = some leaf) : keyOfVariable? name = some leaf.key := by
  obtain ⟨key, found, chosen⟩ := Option.bind_eq_some_iff.mp holds
  have same : leaf.key = key := by simpa using List.find?_some chosen
  rw [found, same]

end Leaf

def said (text : String) : Value := .leaf (some .environment) (scalarOfVariable text)

/-- No variable of an environment is taken for a setting that is none. -/
def Known (environment : List (String × String)) : Prop :=
  ∀ entry ∈ environment,
    keyOfVariable? entry.1 = none ∨ ∃ leaf, Leaf.ofVariable? entry.1 = some leaf

/-- Some variable goes into a field of the root table. -/
def Touched (environment : List (String × String)) (top : String) : Prop :=
  ∃ leaf : Leaf, leaf.top = top ∧ leaf.given? environment ≠ none

instance (environment : List (String × String)) (top : String) :
    Decidable (Touched environment top) :=
  decidable_of_iff (∃ leaf ∈ Leaf.all, leaf.top = top ∧ leaf.given? environment ≠ none)
    ⟨fun ⟨leaf, _, touched⟩ => ⟨leaf, touched⟩,
      fun ⟨leaf, touched⟩ => ⟨leaf, leaf.mem_all, touched⟩⟩

/-- What of the fields of a file is left for a setting under an environment: a list that stands for
a table is lost as soon as a variable goes into the table. -/
def Leaf.left? (leaf : Leaf) (environment : List (String × String)) (fields : Fields) :
    Option (String × Value) :=
  if Touched environment leaf.top ∧ Shape.of (fields.lookup leaf.top) = .list then none
  else leaf.raw? fields

section Environments

variable {name text : String} {environment rest : List (String × String)} {fields : Fields}

theorem Known.tail (known : Known ((name, text) :: rest)) : Known rest := fun _ inside =>
  known _ (List.mem_cons_of_mem _ inside)

theorem onto_cons_of_none (free : keyOfVariable? name = none) :
    (Layer.ofEnvironment ((name, text) :: rest)).onto fields =
      (Layer.ofEnvironment rest).onto fields := by
  rw [Layer.ofEnvironment, List.filterMap_cons_none (by simp [free])]
  rfl

theorem onto_cons_of_some {key : String} (found : keyOfVariable? name = some key) :
    (Layer.ofEnvironment ((name, text) :: rest)).onto fields =
      (Layer.ofEnvironment rest).onto (fields.assign key (said text)) := by
  rw [Layer.ofEnvironment, List.filterMap_cons_some (b := (key, said text)) (by simp [found, said])]
  rfl

theorem onto_append (before after : List (String × String)) (fields : Fields) :
    (Layer.ofEnvironment (before ++ after)).onto fields =
      (Layer.ofEnvironment after).onto ((Layer.ofEnvironment before).onto fields) := by
  rw [Layer.ofEnvironment, List.filterMap_append]
  exact List.foldl_append

theorem ofVariable?_eq_none (free : keyOfVariable? name = none) : Leaf.ofVariable? name = none := by
  rw [Leaf.ofVariable?, free]
  rfl

theorem given?_cons_of_none (free : Leaf.ofVariable? name = none) (leaf : Leaf) :
    leaf.given? ((name, text) :: rest) = leaf.given? rest := by
  rw [Leaf.given?, free, if_neg (by simp), Option.or_none]

theorem touched_cons_of_none (free : Leaf.ofVariable? name = none) (top : String) :
    Touched ((name, text) :: rest) top ↔ Touched rest top := by
  simp only [Touched, given?_cons_of_none free]

theorem touched_cons_of_holds {leaf : Leaf} (holds : Leaf.ofVariable? name = some leaf)
    (top : String) : Touched ((name, text) :: rest) top ↔ leaf.top = top ∨ Touched rest top := by
  constructor
  · rintro ⟨other, below, set⟩
    by_cases same : leaf = other
    · exact .inl (same ▸ below)
    · refine .inr ⟨other, below, ?_⟩
      rwa [Leaf.given?, holds, if_neg (by simpa using same), Option.or_none] at set
  · rintro (below | ⟨other, below, set⟩)
    · refine ⟨leaf, below, ?_⟩
      rw [Leaf.given?, holds, if_pos rfl]
      cases leaf.given? rest <;> simp
    · refine ⟨other, below, ?_⟩
      rw [Leaf.given?]
      cases found : other.given? rest with
      | none => exact absurd found set
      | some text => simp

theorem shape_onto (known : Known environment) (group : Group) (fields : Fields) :
    group.shape ((Layer.ofEnvironment environment).onto fields) =
      if Touched environment group.name then .table else group.shape fields := by
  induction environment generalizing fields with
  | nil =>
    rw [if_neg]
    · rfl
    · rintro ⟨leaf, -, set⟩
      exact set rfl
  | cons entry rest ih =>
    obtain ⟨name, text⟩ := entry
    rcases known _ List.mem_cons_self with free | ⟨leaf, holds⟩
    · rw [onto_cons_of_none free, ih known.tail]
      simp only [touched_cons_of_none (ofVariable?_eq_none free)]
    · rw [onto_cons_of_some (Leaf.keyOfVariable?_of_ofVariable? holds), ih known.tail, said,
        Group.shape_assign]
      simp only [touched_cons_of_holds holds, eq_comm (a := leaf.top), Leaf.top_eq_name_iff]
      by_cases later : Touched rest group.name
      · simp [later]
      · simp [later]

/-- A variable says what its setting is.  For a setting that no variable holds, what is left of the
file does. -/
theorem raw?_onto (known : Known environment) (leaf : Leaf) (fields : Fields) :
    leaf.raw? ((Layer.ofEnvironment environment).onto fields) =
      match leaf.given? environment with
      | some text => some (leaf.key, said text)
      | none => leaf.left? environment fields := by
  unfold Leaf.left?
  induction environment generalizing fields with
  | nil =>
    have nothing : ¬Touched [] leaf.top := by
      rintro ⟨other, -, set⟩
      exact set rfl
    rw [Leaf.given?]
    dsimp only
    rw [if_neg fun both => nothing both.1]
    rfl
  | cons entry rest ih =>
    obtain ⟨name, text⟩ := entry
    rcases known _ List.mem_cons_self with free | ⟨other, holds⟩
    · rw [onto_cons_of_none free, ih known.tail, given?_cons_of_none (ofVariable?_eq_none free)]
      simp only [touched_cons_of_none (ofVariable?_eq_none free)]
    · rw [onto_cons_of_some (Leaf.keyOfVariable?_of_ofVariable? holds), ih known.tail, Leaf.given?,
        holds]
      -- Later variables go before this one, which decides only where they leave the setting alone.
      cases leaf.given? rest with
      | some later => rfl
      | none =>
        rw [said, Leaf.raw?_assign, Fields.lookup_assign]
        simp only [touched_cons_of_holds holds, Option.none_or, Option.some.injEq]
        by_cases same : leaf.top = other.top
        · have gone := other.shape_place (some .environment) (scalarOfVariable text)
            (fields.lookup other.top)
          rw [if_pos same, if_neg fun both => gone both.2]
          by_cases equal : leaf = other
          · simp [equal, said]
          · simp [equal, Ne.symm equal, same]
        · have apart : leaf ≠ other := fun equal => same (congrArg Leaf.top equal)
          simp [same, apart, Ne.symm same, Ne.symm apart]

end Environments

/-- Settings are loaded if the file is readable and the fields are read that the environment leaves
of those of the file. -/
theorem load_eq_ok {world : World} {settings : Settings} :
    load world = .ok settings ↔
      ∃ layer, fileLayer? world = some layer ∧
        ofFields ((Layer.ofEnvironment world.environment).onto (layer.onto [])) = .ok settings := by
  unfold load
  cases fileLayer? world with
  | none =>
    constructor
    · intro h
      cases h
    · rintro ⟨layer, h, -⟩
      cases h
  | some layer =>
    have layers : ofLayers [layer, Layer.ofEnvironment world.environment] =
        ofFields ((Layer.ofEnvironment world.environment).onto (layer.onto [])) := rfl
    simp only [layers, Option.some.injEq, exists_eq_left']
    cases ofFields ((Layer.ofEnvironment world.environment).onto (layer.onto [])) <;> simp

theorem load_eq_ok_of_file {world : World} {layer : Layer} (file : fileLayer? world = some layer)
    {settings : Settings} :
    load world = .ok settings ↔
      ofFields ((Layer.ofEnvironment world.environment).onto (layer.onto [])) = .ok settings := by
  rw [load_eq_ok, file]
  simp

end CallAtlas.Settings
