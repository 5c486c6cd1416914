import CallAtlas.Proofs.Json.Grammar
import CallAtlas.Proofs.Json.Magnitude
import CallAtlas.Text.Piece
import Mathlib.Data.List.Forall2

set_option autoImplicit false
set_option relaxedAutoImplicit false

namespace CallAtlas.Json

def IsPadded (text padded : List Char) : Prop :=
  ∃ before after, padded = before ++ (text ++ after) ∧ IsGap before ∧ IsGap after

def IsString (meant : String) (text : List Char) : Prop :=
  ∃ body, text = '"' :: (body ++ ['"']) ∧ IsQuoted body meant.toList

def IsMember (member : String × List Char) (text : List Char) : Prop :=
  ∃ name before after, text = before ++ ':' :: after ∧ IsString member.1 name ∧
    IsPadded name before ∧ IsPadded member.2 after

def IsItems (items : List (List Char)) (text : List Char) : Prop :=
  items = [] ∧ IsGap text ∨
    items ≠ [] ∧ ∃ texts, text = Text.joinWith ',' texts ∧ List.Forall₂ IsPadded items texts

def IsMembers (members : List (String × List Char)) (text : List Char) : Prop :=
  members = [] ∧ IsGap text ∨
    members ≠ [] ∧ ∃ texts, text = Text.joinWith ',' texts ∧ List.Forall₂ IsMember members texts

/-- A text of a value, with room for the given number of nested containers. -/
inductive IsValue : Nat → List Char → Prop
  | null {room : Nat} : IsValue room ['n', 'u', 'l', 'l']
  | yes {room : Nat} : IsValue room ['t', 'r', 'u', 'e']
  | no {room : Nat} : IsValue room ['f', 'a', 'l', 's', 'e']
  | number {room : Nat} {text : List Char} (below : IsBelow 300 text) : IsValue room text
  | string {room : Nat} {meant : String} {text : List Char} (spelled : IsString meant text) :
      IsValue room text
  | list {room : Nat} {items : List (List Char)} {text : List Char} (split : IsItems items text)
      (values : ∀ item ∈ items, IsValue room item) : IsValue (room + 1) ('[' :: (text ++ [']']))
  | object {room : Nat} {members : List (String × List Char)} {text : List Char}
      (split : IsMembers members text) (values : ∀ member ∈ members, IsValue room member.2) :
      IsValue (room + 1) ('{' :: (text ++ ['}']))

/-- A text of an object and its members as they stand in it, with texts for their values. -/
def IsRecord (source : List Char) (members : List (String × List Char)) : Prop :=
  ∃ text, IsPadded ('{' :: (text ++ ['}'])) source ∧ IsMembers members text

theorem spellsItems_joinWith {room : Nat} {items texts : List (List Char)} (some : items ≠ [])
    (padded : List.Forall₂ IsPadded items texts)
    (each : ∀ item ∈ items, ∃ value, Spells room item value) :
    ∃ values, SpellsItems room (Text.joinWith ',' texts) values := by
  induction padded with
  | nil => exact absurd rfl some
  | @cons item text items texts first later ih =>
    obtain ⟨before, after, rfl, ahead, behind⟩ := first
    obtain ⟨value, spelled⟩ := each item List.mem_cons_self
    cases later with
    | nil => exact ⟨[value], .one ahead spelled behind⟩
    | cons next others =>
      obtain ⟨values, rest⟩ := ih (List.cons_ne_nil _ _)
        fun other inside => each other (List.mem_cons_of_mem _ inside)
      refine ⟨value :: values, ?_⟩
      simpa [Text.joinWith] using SpellsItems.more ahead spelled behind rest

/-- A member stands for a field: under its name, with the value that its text spells. -/
def StandsFor (room : Nat) (member : String × List Char) (field : String × Json) : Prop :=
  member.1 = field.1 ∧ Spells room member.2 field.2

theorem IsMember.spellsField {room : Nat} {member : String × List Char} {field : String × Json}
    {text : List Char} (written : IsMember member text) (meaning : StandsFor room member field) :
    SpellsField room text field := by
  obtain ⟨_, _, _, rfl, ⟨body, rfl, quoted⟩, ⟨before, middle, rfl, ahead, between⟩,
    ⟨inner, after, rfl, within, behind⟩⟩ := written
  obtain ⟨name, _⟩ := field
  obtain ⟨same, spelled⟩ := meaning
  rw [same] at quoted
  simpa using SpellsField.mk ahead quoted between within spelled behind

theorem spellsFields_joinWith {room : Nat} {members : List (String × List Char)} {fields : Fields}
    {texts : List (List Char)} (some : members ≠ []) (written : List.Forall₂ IsMember members texts)
    (meaning : List.Forall₂ (StandsFor room) members fields) :
    SpellsFields room (Text.joinWith ',' texts) fields := by
  induction written generalizing fields with
  | nil => exact absurd rfl some
  | cons first later ih =>
    cases meaning with
    | cons field fields =>
      have spelled := first.spellsField field
      cases later with
      | nil =>
        cases fields
        exact .one spelled
      | cons next others => exact .more spelled (ih (List.cons_ne_nil _ _) fields)

theorem exists_fields {room : Nat} {members : List (String × List Char)}
    (each : ∀ member ∈ members, ∃ value, Spells room member.2 value) :
    ∃ fields, List.Forall₂ (StandsFor room) members fields := by
  induction members with
  | nil => exact ⟨[], .nil⟩
  | cons member rest ih =>
    obtain ⟨value, spelled⟩ := each member List.mem_cons_self
    obtain ⟨fields, others⟩ := ih fun other inside => each other (List.mem_cons_of_mem _ inside)
    exact ⟨(member.1, value) :: fields, .cons ⟨rfl, spelled⟩ others⟩

theorem names_eq_of_standsFor {room : Nat} {members : List (String × List Char)} {fields : Fields}
    (meaning : List.Forall₂ (StandsFor room) members fields) :
    fields.map Prod.fst = members.map Prod.fst := by
  induction meaning with
  | nil => rfl
  | cons first later ih => rw [List.map_cons, List.map_cons, first.1, ih]

/-- A text of a value stands for one. -/
theorem IsValue.exists_spells {room : Nat} {text : List Char} (value : IsValue room text) :
    ∃ meant, Spells room text meant := by
  induction value with
  | null => exact ⟨_, .null⟩
  | yes => exact ⟨_, .yes⟩
  | no => exact ⟨_, .no⟩
  | number below =>
    obtain ⟨_, meaning⟩ := below.exists_denotes (Nat.le_refl _)
    exact ⟨_, .number meaning⟩
  | string spelled =>
    obtain ⟨body, rfl, quoted⟩ := spelled
    exact ⟨_, .string quoted⟩
  | list split _ each =>
    obtain ⟨rfl, blank⟩ | ⟨some, texts, rfl, padded⟩ := split
    · exact ⟨_, .emptyList blank⟩
    · obtain ⟨values, inside⟩ := spellsItems_joinWith some padded each
      exact ⟨_, .list inside⟩
  | object split _ each =>
    obtain ⟨rfl, blank⟩ | ⟨some, texts, rfl, written⟩ := split
    · exact ⟨_, .emptyObject blank⟩
    · obtain ⟨fields, meaning⟩ := exists_fields each
      exact ⟨_, .object (spellsFields_joinWith some written meaning)⟩

end CallAtlas.Json
