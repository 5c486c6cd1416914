import CallAtlas.Proofs.Path
import CallAtlas.Proofs.Settings.Environment

set_option autoImplicit false
set_option relaxedAutoImplicit false

namespace CallAtlas.Settings

/-- What a text is after it was taken for a boolean or a number. -/
def respelled (text : String) : String :=
  match scalarOfVariable text with
  | .boolean value => if value then "true" else "false"
  | .integer value => String.ofList (Text.signedDecimal value)
  | .real value => value.toText
  | .nothing | .text _ => text

/-- A text that is spelled neither like a boolean nor like a number. -/
structure IsPlain (text : String) : Prop where
  word : String.ofList (text.toList.map Char.toLower) ∉ ["true", "false"]
  integer : Text.readSigned? text.toList = none
  real : Binary64.read? text.toList = none

section Texts

variable {text key : String}

theorem scalarOfVariable_of_plain (plain : IsPlain text) : scalarOfVariable text = .text text := by
  obtain ⟨word, integer, real⟩ := plain
  simp only [List.mem_cons, List.not_mem_nil, or_false, not_or] at word
  rw [scalarOfVariable, if_neg word.1, if_neg word.2, integer, real]

theorem respelled_of_plain (plain : IsPlain text) : respelled text = text := by
  rw [respelled, scalarOfVariable_of_plain plain]

theorem readText_said : readText key (said text) = .ok (respelled text) := by
  rw [said, respelled, scalarOfVariable]
  split
  · rfl
  · split
    · rfl
    · split
      · rfl
      · split <;> rfl

theorem readPath?_said : readPath? key (said text) = .ok (some ⟨respelled text⟩) := by
  have path : readPath key (said text) = .ok ⟨respelled text⟩ := by
    rw [readPath, readText_said]
    rfl
  have some? : scalarOfVariable text ≠ .nothing := by
    intro nothing
    have read : readText key (said text) = .ok (respelled text) := readText_said
    rw [said, nothing] at read
    cases read
  rw [readPath?, path]
  · rfl
  · intro origin nothing
    exact some? (Value.leaf.inj nothing).2

end Texts

namespace Leaf

def textOf? : (leaf : Leaf) → leaf.Content → Option String
  | .pattern, text => some text
  | .root, place => place.map Path.text
  | .search, text => some text
  | .tags, text => some text
  | .crossReference, text => some text
  | .seconds, _ => none
  | .column, _ => none
  | .limit, _ => none
  | .output, path => some path.text

def isText : Leaf → Bool
  | .pattern | .root | .search | .tags | .crossReference | .output => true
  | .seconds | .column | .limit => false

theorem read_said_of_isText {leaf : Leaf} (textual : leaf.isText = true) (key text : String) :
    ∃ content, leaf.read key (said text) = .ok content ∧
      leaf.textOf? content = some (respelled text) := by
  have path : readPath key (said text) = .ok ⟨respelled text⟩ := by
    rw [readPath, readText_said]
    rfl
  cases leaf with
  | pattern => exact ⟨_, readText_said, rfl⟩
  | search => exact ⟨_, readText_said, rfl⟩
  | tags => exact ⟨_, readText_said, rfl⟩
  | crossReference => exact ⟨_, readText_said, rfl⟩
  | root => exact ⟨_, readPath?_said, congrArg some (Path.text_mk _)⟩
  | output => exact ⟨_, path, congrArg some (Path.text_mk _)⟩
  | seconds => cases textual
  | column => cases textual
  | limit => cases textual

end Leaf

theorem Beside.onto {leaf : Leaf} {value : Value} {after : List (String × String)}
    (off : ∀ entry ∈ after, ∀ key, keyOfVariable? entry.1 = some key →
      leaf.KeepsOff (.ofText key))
    {fields other : Fields} (beside : Beside leaf value fields other) :
    Beside leaf value ((Layer.ofEnvironment after).onto fields)
      ((Layer.ofEnvironment after).onto other) := by
  induction after generalizing fields other with
  | nil => exact beside
  | cons entry rest ih =>
    obtain ⟨name, text⟩ := entry
    have tail := fun entry inside => off entry (List.mem_cons_of_mem _ inside)
    cases found : keyOfVariable? name with
    | none =>
      rw [onto_cons_of_none found, onto_cons_of_none found]
      exact ih tail beside
    | some key =>
      rw [onto_cons_of_some found, onto_cons_of_some found]
      exact ih tail (beside.assign (off _ List.mem_cons_self key found) _)

theorem Beside.ofFields {leaf : Leaf} {value : Value} {fields other : Fields} {base : Settings}
    (beside : Beside leaf value fields other) (read : ofFields fields = .ok base)
    {content : leaf.Content} (fits : leaf.read leaf.key value = .ok content) :
    ∃ settings, Settings.ofFields other = .ok settings ∧ leaf.get settings = content := by
  obtain ⟨shapes, reads⟩ := ofFields_eq_ok.mp read
  have here : leaf.ReadsAs (leaf.raw? other) content := by
    rw [Leaf.ReadsAs, beside.raw?_self]
    exact fits
  obtain ⟨settings, loaded⟩ : ∃ settings, Settings.ofFields other = .ok settings := by
    refine ofFields_succeeds.mpr ⟨fun group scalar => ?_, fun third => ?_⟩
    · rcases beside.shape group with same | made
      · exact shapes group (same ▸ scalar)
      · rw [made] at scalar
        cases scalar
    · by_cases same : third = leaf
      · subst same
        exact ⟨content, here⟩
      · rcases beside.raw?_of_ne same with kept | gone
        · exact ⟨_, kept ▸ reads third⟩
        · exact ⟨third.get standard, gone ▸ rfl⟩
  exact ⟨settings, loaded, ((ofFields_eq_ok.mp loaded).2 leaf).unique here⟩

/-- If settings are loaded with any text or none in the variable of a text, they are loaded with
every text in it, and the setting is what the text is respelled to: the text itself, unless it is
spelled like a boolean or a number.  What comes before the variable does not matter. -/
theorem load_text {world : World} {name text : String} {leaf : Leaf}
    {before after : List (String × String)} {given : Option String} {base : Settings}
    (holds : Leaf.ofVariable? name = some leaf) (textual : leaf.isText = true)
    (off : ∀ entry ∈ after, ∀ key, keyOfVariable? entry.1 = some key →
      leaf.KeepsOff (.ofText key))
    (valid : load { world with
      environment := before ++ (given.map fun text => (name, text)).toList ++ after } = .ok base) :
    ∃ settings,
      load { world with environment := before ++ [(name, text)] ++ after } = .ok settings ∧
        leaf.textOf? (leaf.get settings) = some (respelled text) ∧
        (IsPlain text → leaf.textOf? (leaf.get settings) = some text) := by
  have key := Leaf.keyOfVariable?_of_ofVariable? holds
  obtain ⟨layer, file, read⟩ := load_eq_ok.mp valid
  dsimp only at read
  rw [onto_append, onto_append] at read
  -- The two runs differ in one assignment; what follows keeps off it and is the same in both.
  have beside : Beside leaf (said text)
      ((Layer.ofEnvironment (given.map fun text => (name, text)).toList).onto
        ((Layer.ofEnvironment before).onto (layer.onto [])))
      ((Layer.ofEnvironment [(name, text)]).onto
        ((Layer.ofEnvironment before).onto (layer.onto []))) := by
    rw [onto_cons_of_some key]
    cases given with
    | none => exact beside_assign _ _ _ _
    | some old =>
      rw [Option.map_some, Option.toList_some, onto_cons_of_some key]
      exact (beside_assign _ _ _ _).over_assign _ _
  obtain ⟨content, fits, spelled⟩ := Leaf.read_said_of_isText textual leaf.key text
  obtain ⟨settings, loaded, same⟩ := (beside.onto off).ofFields read fits
  rw [← onto_append, ← onto_append, ← List.append_assoc] at loaded
  refine ⟨settings, load_eq_ok.mpr ⟨layer, file, loaded⟩, ?_, ?_⟩
  · rw [same, spelled]
  · intro plain
    rw [same, spelled, respelled_of_plain plain]

/-- A variable with the path of the search program. -/
theorem load_text_path :
    let world : World :=
      ⟨⟨[]⟩, [], [("TRACEGRAPH__TOOLS__SEARCH", "/opt/bin/rg")], fun _ => ⟨[], [], .exited 0⟩, id,
        [], [], []⟩
    ∃ settings, load world = .ok settings ∧ settings.tools.search = "/opt/bin/rg" := by
  intro world
  obtain ⟨settings, loaded, -, same⟩ := @load_text world "TRACEGRAPH__TOOLS__SEARCH" "/opt/bin/rg"
    .search [] [] none standard (by decide) rfl nofun rfl
  have plain : IsPlain "/opt/bin/rg" := ⟨by decide, by decide, by decide⟩
  exact ⟨settings, loaded, Option.some.inj (same plain)⟩

/-- Not every text arrives: zeros in front of a number are lost. -/
theorem load_text_numeral :
    ¬∀ (world : World) (text : String) (base : Settings), load world = .ok base →
      ∃ settings, load { world with
          environment := world.environment ++ [("TRACEGRAPH__PATTERN", text)] } = .ok settings ∧
        settings.pattern = text := by
  intro verbatim
  let world : World := ⟨⟨[]⟩, [], [], fun _ => ⟨[], [], .exited 0⟩, id, [], [], []⟩
  obtain ⟨settings, loaded, same⟩ := verbatim world "007" standard rfl
  have numeral : load { world with environment := [("TRACEGRAPH__PATTERN", "007")] } =
      .ok { standard with pattern := "7" } := ok_of_toOption (by decide +kernel)
  have other : settings = { standard with pattern := "7" } :=
    Except.ok.inj (loaded.symm.trans numeral)
  rw [other] at same
  revert same
  decide

end CallAtlas.Settings
