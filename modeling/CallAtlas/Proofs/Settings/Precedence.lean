import CallAtlas.Proofs.Settings.Respelling

set_option autoImplicit false
set_option relaxedAutoImplicit false

namespace CallAtlas.Settings

namespace Leaf

def ofText? : (leaf : Leaf) → String → Option leaf.Content
  | .pattern, text => some text
  | .root, text => some (some ⟨text⟩)
  | .search, text => some text
  | .tags, text => some text
  | .crossReference, text => some text
  | .seconds, text => (Text.readSigned? text.toList).map Int.toNat
  | .column, text => columnOf? text
  | .limit, text => (Text.readSigned? text.toList).map Int.toNat
  | .output, text => some ⟨text⟩

/-- A text of the kind of a setting: a numeral of a signed word for a number, and for any other
setting a text that is not spelled like a boolean or a number. -/
def Admits : Leaf → String → Prop
  | .seconds, text | .limit, text => ∃ n : Nat, Text.readSigned? text.toList = some (n : Int)
  | .pattern, text | .root, text | .search, text | .tags, text | .crossReference, text
  | .column, text | .output, text => IsPlain text

/-- What a setting is by its variable and its raw value in the file. -/
def Layered (leaf : Leaf) (given : Option String) (raw : Option (String × Value))
    (content : leaf.Content) : Prop :=
  match given with
  | some text => leaf.ofText? text = some content
  | none => leaf.ReadsAs raw content

end Leaf

section Numerals

theorem toLower_of_not_isAlpha {c : Char} (other : c.isAlpha = false) : c.toLower = c := by
  refine dif_neg fun upper => ?_
  have capital : c.isUpper = true := decide_eq_true upper
  have alpha : (c.isUpper || c.isLower) = false := other
  rw [capital] at alpha
  cases alpha

variable {text key : String} {value : Int}

theorem word_of_readSigned? (numeral : Text.readSigned? text.toList = some value) :
    String.ofList (text.toList.map Char.toLower) ∉ ["true", "false"] := by
  intro word
  cases chars : text.toList with
  | nil =>
    rw [chars] at numeral
    cases numeral
  | cons c rest =>
    rw [chars] at numeral word
    have other := Text.not_isAlpha_of_readSigned? numeral
    have letters : ∀ word ∈ ["true", "false"], word.toList.head?.all Char.isAlpha = true := by
      decide
    have first := letters _ word
    rw [String.toList_ofList, List.map_cons, List.head?_cons, toLower_of_not_isAlpha other,
      Option.all_some, other] at first
    cases first

theorem scalarOfVariable_of_numeral (numeral : Text.readSigned? text.toList = some value) :
    scalarOfVariable text = .integer value := by
  have word := word_of_readSigned? numeral
  simp only [List.mem_cons, List.not_mem_nil, or_false, not_or] at word
  rw [scalarOfVariable, if_neg word.1, if_neg word.2, numeral]

theorem readNumber_said {n : Nat} (numeral : Text.readSigned? text.toList = some (n : Int)) :
    readNumber key (said text) = .ok n := by
  rw [said, scalarOfVariable_of_numeral numeral, readNumber, if_pos (Int.natCast_nonneg n),
    Int.toNat_natCast]

theorem readColumn_said (plain : IsPlain text) {column : Reference.Column} :
    readColumn key (said text) = .ok column ↔ columnOf? text = some column := by
  rw [said, scalarOfVariable_of_plain plain, readColumn]
  dsimp only
  cases columnOf? text <;> simp

end Numerals

theorem reads_iff {α : Type} {reading : Reading α} {known : Option α} {a b : α}
    (read : reading = .ok a) (found : known = some a) : reading = .ok b ↔ known = some b := by
  rw [read, found, Except.ok.injEq, Option.some.injEq]

namespace Leaf

theorem read_said {leaf : Leaf} {text : String} (fits : leaf.Admits text) (key : String)
    (content : leaf.Content) :
    leaf.read key (said text) = .ok content ↔ leaf.ofText? text = some content := by
  have texts (plain : IsPlain text) : readText key (said text) = .ok text := by
    rw [readText_said, respelled_of_plain plain]
  have places (plain : IsPlain text) : readPath key (said text) = .ok ⟨text⟩ := by
    rw [readPath, texts plain]
    rfl
  have numbers (numeral : ∃ n : Nat, Text.readSigned? text.toList = some (n : Int)) (m : Nat) :
      readNumber key (said text) = .ok m ↔
        (Text.readSigned? text.toList).map Int.toNat = some m := by
    obtain ⟨n, numeral⟩ := numeral
    exact reads_iff (readNumber_said numeral) (by rw [numeral]; rfl)
  cases leaf with
  | pattern => exact reads_iff (texts fits) rfl
  | root => exact reads_iff (readPath?_said.trans (by rw [respelled_of_plain fits]; rfl)) rfl
  | search => exact reads_iff (texts fits) rfl
  | tags => exact reads_iff (texts fits) rfl
  | crossReference => exact reads_iff (texts fits) rfl
  | seconds => exact numbers fits content
  | column => exact readColumn_said fits
  | limit => exact numbers fits content
  | output => exact reads_iff (places fits) rfl

theorem Layered.unique {leaf : Leaf} {given : Option String} {raw : Option (String × Value)}
    {one other : leaf.Content} (h : leaf.Layered given raw one) (k : leaf.Layered given raw other) :
    one = other := by
  cases given with
  | none => exact ReadsAs.unique h k
  | some text => exact Option.some.inj (h.symm.trans k)

end Leaf

/-- An environment whose settings have texts of their kind. -/
structure Fits (environment : List (String × String)) : Prop where
  known : Known environment
  admitted : ∀ (leaf : Leaf) (text : String), leaf.given? environment = some text →
    leaf.Admits text

section Layers

variable {environment other : List (String × String)} {fields : Fields}

/-- Settings are read from an environment on top of a file if every value without parts that stands
for a table gives way to a variable, and each setting is what its own two layers make it. -/
theorem Fits.ofFields_eq_ok (fits : Fits environment) {settings : Settings} :
    ofFields ((Layer.ofEnvironment environment).onto fields) = .ok settings ↔
      (∀ group : Group, group.shape fields = .scalar → Touched environment group.name) ∧
        ∀ leaf : Leaf,
          leaf.Layered (leaf.given? environment) (leaf.left? environment fields)
            (leaf.get settings) := by
  have shapes (group : Group) :
      group.shape ((Layer.ofEnvironment environment).onto fields) ≠ .scalar ↔
        (group.shape fields = .scalar → Touched environment group.name) := by
    rw [shape_onto fits.known]
    by_cases touched : Touched environment group.name
    · simp [touched]
    · simp [touched]
  have reads (leaf : Leaf) :
      leaf.ReadsAs (leaf.raw? ((Layer.ofEnvironment environment).onto fields))
          (leaf.get settings) ↔
        leaf.Layered (leaf.given? environment) (leaf.left? environment fields)
          (leaf.get settings) := by
    rw [raw?_onto fits.known]
    cases given : leaf.given? environment with
    | none => exact Iff.rfl
    | some text =>
      exact Leaf.read_said (fits.admitted leaf text given) _ _
  rw [Settings.ofFields_eq_ok, forall_congr' shapes, forall_congr' reads]

theorem Fits.ofFields_succeeds (fits : Fits environment) :
    (∃ settings, ofFields ((Layer.ofEnvironment environment).onto fields) = .ok settings) ↔
      (∀ group : Group, group.shape fields = .scalar → Touched environment group.name) ∧
        ∀ leaf : Leaf, ∃ content,
          leaf.Layered (leaf.given? environment) (leaf.left? environment fields) content := by
  simp only [fits.ofFields_eq_ok, exists_and_left, exists_forall_get]

theorem left?_eq_of_given?_eq {leaf third : Leaf}
    (same : ∀ any ≠ leaf, any.given? other = any.given? environment)
    (free : ¬(third.top = leaf.top ∧ Shape.of (fields.lookup leaf.top) = .list)) :
    third.left? other fields = third.left? environment fields := by
  unfold Leaf.left?
  by_cases together : third.top = leaf.top
  · have scattered : Shape.of (fields.lookup third.top) ≠ .list := fun list =>
      free ⟨together, together ▸ list⟩
    rw [if_neg fun both => scattered both.2, if_neg fun both => scattered both.2]
  · have touched : Touched other third.top ↔ Touched environment third.top := by
      refine exists_congr fun any => and_congr_right fun below => ?_
      rw [same any fun equal => together (equal ▸ below.symm)]
    simp only [touched]

/-- Of two environments that differ in one setting, both with settings that are read, the second
changes no other setting, unless a list stands for the table of both. -/
theorem get_eq_of_given?_eq (fits : Fits environment) (fitsOther : Fits other)
    {settings changed : Settings}
    (read : ofFields ((Layer.ofEnvironment environment).onto fields) = .ok settings)
    (readOther : ofFields ((Layer.ofEnvironment other).onto fields) = .ok changed)
    {leaf third : Leaf} (different : third ≠ leaf)
    (same : ∀ any ≠ leaf, any.given? other = any.given? environment)
    (free : ¬(third.top = leaf.top ∧ Shape.of (fields.lookup leaf.top) = .list)) :
    third.get changed = third.get settings := by
  have one := (fits.ofFields_eq_ok.mp read).2 third
  have two := (fitsOther.ofFields_eq_ok.mp readOther).2 third
  rw [same third different, left?_eq_of_given?_eq same free] at two
  exact two.unique one

end Layers

/-- A variable can change another setting than its own: where a list stands for the tools, its first
item is the search program, until a variable sets the tag program. -/
theorem load_list_lost :
    ¬∀ (world : World) (name text : String) (leaf third : Leaf) (settings changed : Settings),
      Leaf.ofVariable? name = some leaf → leaf.Admits text → third ≠ leaf →
        load world = .ok settings →
          load { world with environment := (name, text) :: world.environment } = .ok changed →
            third.get changed = third.get settings := by
  intro unchanged
  let world : World :=
    ⟨⟨[(["tracegraph.toml"], .file "tools = ['myrg']")]⟩, [], [], fun _ => ⟨[], [], .exited 0⟩, id,
      [], [], []⟩
  have plain : IsPlain "ct" := ⟨by decide, by decide, by decide⟩
  have before : load world =
      .ok { standard with tools := { Tools.standard with search := "myrg" } } :=
    ok_of_toOption (by decide +kernel)
  have after : load { world with environment := [("TRACEGRAPH__TOOLS__TAGS", "ct")] } =
      .ok { standard with tools := { Tools.standard with tags := "ct" } } :=
    ok_of_toOption (by decide +kernel)
  have same : "rg" = "myrg" := unchanged world "TRACEGRAPH__TOOLS__TAGS" "ct" .tags .search _ _
    (by decide) plain nofun before after
  exact absurd same (by decide)

end CallAtlas.Settings
