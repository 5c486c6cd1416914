import CallAtlas.Proofs.Distinct
import CallAtlas.Proofs.Json.Value

set_option autoImplicit false
set_option relaxedAutoImplicit false

namespace CallAtlas.Json

/-- A text of one object, and its members as they stand in it. -/
def IsObject (source : List Char) (members : Fields) : Prop :=
  ∃ before text after, source = before ++ '{' :: (text ++ '}' :: after) ∧ IsGap before ∧
    IsGap after ∧ (IsGap text ∧ members = [] ∨ SpellsFields (depthMax - 1) text members)

theorem exists_members_of_spells {room : Nat} {text : List Char} {record : Fields}
    (spelled : Spells room text (.object record)) :
    ∃ inner members, text = '{' :: (inner ++ ['}']) ∧ record = Fields.ofList members ∧
      (IsGap inner ∧ members = [] ∨ SpellsFields (room - 1) inner members) := by
  cases spelled with
  | number meaning => cases meaning
  | emptyObject blank => exact ⟨_, [], rfl, rfl, .inl ⟨blank, rfl⟩⟩
  | object inside => exact ⟨_, _, rfl, rfl, .inr inside⟩

theorem read?_eq_some_object {source : List Char} {record : Fields} :
    read? source = some (.object record) ↔
      ∃ members, IsObject source members ∧ record = Fields.ofList members := by
  rw [read?_eq_some]
  constructor
  · rintro ⟨before, _, after, rfl, ahead, behind, spelled⟩
    obtain ⟨text, members, rfl, same, inside⟩ := exists_members_of_spells spelled
    exact ⟨members, ⟨before, text, after, by simp, ahead, behind, inside⟩, same⟩
  · rintro ⟨members, ⟨before, text, after, rfl, ahead, behind, inside⟩, rfl⟩
    refine ⟨before, '{' :: (text ++ ['}']), after, by simp, ahead, behind, ?_⟩
    rcases inside with ⟨blank, rfl⟩ | inside
    · exact .emptyObject blank
    · exact .object inside

theorem SpellsFields.exists_spells {room : Nat} {text : List Char} {members : Fields}
    {name : String} {value : Json} (spelled : SpellsFields room text members)
    (inside : (name, value) ∈ members) : ∃ written, Spells room written value := by
  induction members generalizing text with
  | nil => cases inside
  | cons field rest ih =>
    obtain first | ⟨first, others⟩ := spelled
    · obtain rfl := List.mem_singleton.mp inside
      obtain ⟨_, _, _, _, value, _⟩ := first
      exact ⟨_, value⟩
    · rcases List.mem_cons.mp inside with rfl | later
      · obtain ⟨_, _, _, _, value, _⟩ := first
        exact ⟨_, value⟩
      · exact ih others later

theorem IsObject.integer_le {source : List Char} {members : Fields} {name : String} {n : Int}
    (object : IsObject source members) (inside : (name, .integer n) ∈ members) :
    n ≤ Text.wordMax := by
  obtain ⟨_, text, _, -, -, -, ⟨-, rfl⟩ | spelled⟩ := object
  · cases inside
  · obtain ⟨written, number⟩ := spelled.exists_spells inside
    cases number with
    | number meaning => exact meaning.integer_le

theorem Fields.get?_ofList_eq_some {members : Fields} {name : String} {value : Json} :
    (ofList members).get? name = some value ↔ (name, value) ∈ ofList members :=
  (Ordered.increasing_ofList Prod.fst members).lookup_eq_some

theorem Fields.mem_of_get?_ofList {members : Fields} {name : String} {value : Json}
    (found : (ofList members).get? name = some value) : (name, value) ∈ members :=
  Ordered.mem_of_mem_ofList (get?_ofList_eq_some.mp found)

theorem Fields.get?_ofList_of_mem {members : Fields} {name : String} {value : Json}
    (inside : (name, value) ∈ members)
    (only : ∀ other, (name, other) ∈ members → other = value) :
    (ofList members).get? name = some value := by
  obtain ⟨⟨_, other⟩, kept, rfl⟩ := Ordered.exists_mem_ofList Prod.fst inside
  obtain rfl := only other (Ordered.mem_of_mem_ofList kept)
  exact get?_ofList_eq_some.mpr kept

theorem IsRecord.isObject {source : List Char} {members : List (String × List Char)}
    {fields : Fields} (record : IsRecord source members)
    (meaning : List.Forall₂ (StandsFor (depthMax - 1)) members fields) : IsObject source fields := by
  obtain ⟨text, ⟨before, after, rfl, ahead, behind⟩, split⟩ := record
  refine ⟨before, text, after, by simp, ahead, behind, ?_⟩
  rcases split with ⟨rfl, blank⟩ | ⟨some, texts, rfl, written⟩
  · cases meaning
    exact .inl ⟨blank, rfl⟩
  · exact .inr (spellsFields_joinWith some written meaning)

theorem isString_quote (text : String) : IsString text (quote text) :=
  ⟨_, rfl, isQuoted_flatMap_quoteChar text.toList⟩

def writeField (field : String × List Char) : List Char := quote field.1 ++ ':' :: field.2

def writeObject (fields : List (String × List Char)) : List Char :=
  '{' :: (Text.joinWith ',' (fields.map writeField) ++ ['}'])

theorem isPadded_self (text : List Char) : IsPadded text text :=
  ⟨[], [], (List.append_nil text).symm, List.forall_mem_nil _, List.forall_mem_nil _⟩

theorem isMember_writeField (field : String × List Char) : IsMember field (writeField field) :=
  ⟨_, _, _, rfl, isString_quote _, isPadded_self _, isPadded_self _⟩

theorem isRecord_writeObject (fields : List (String × List Char)) :
    IsRecord (writeObject fields) fields := by
  refine ⟨_, isPadded_self _, ?_⟩
  by_cases none : fields = []
  · subst none
    exact .inl ⟨rfl, List.forall_mem_nil _⟩
  · refine .inr ⟨none, fields.map writeField, rfl, ?_⟩
    rw [List.forall₂_map_right_iff, List.forall₂_same]
    exact fun field _ => isMember_writeField field

end CallAtlas.Json
