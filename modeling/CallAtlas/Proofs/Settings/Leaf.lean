import CallAtlas.Settings.Reading

set_option autoImplicit false
set_option relaxedAutoImplicit false

/-!
Settings one by one.  Reading settings from raw fields is reading each of them where it stands: in
the root table, or in the table of the tools or of the call graph, which may be a list as well but
no value without parts.
-/

namespace CallAtlas.Settings

inductive Group
  | tools
  | graph
  deriving DecidableEq

def Group.name : Group → String
  | .tools => "tools"
  | .graph => "callgraph"

inductive Leaf
  | pattern
  | root
  | search
  | tags
  | crossReference
  | seconds
  | column
  | limit
  | output
  deriving DecidableEq

namespace Leaf

def all : List Leaf :=
  [pattern, root, search, tags, crossReference, seconds, column, limit, output]

def Content : Leaf → Type
  | .pattern | .search | .tags | .crossReference => String
  | .root => Option Path
  | .seconds | .limit => Nat
  | .column => Reference.Column
  | .output => Path

instance : (leaf : Leaf) → DecidableEq leaf.Content
  | .pattern | .search | .tags | .crossReference => inferInstanceAs (DecidableEq String)
  | .root => inferInstanceAs (DecidableEq (Option Path))
  | .seconds | .limit => inferInstanceAs (DecidableEq Nat)
  | .column => inferInstanceAs (DecidableEq Reference.Column)
  | .output => inferInstanceAs (DecidableEq Path)

def get : (leaf : Leaf) → Settings → leaf.Content
  | .pattern, settings => settings.pattern
  | .root, settings => settings.root
  | .search, settings => settings.tools.search
  | .tags, settings => settings.tools.tags
  | .crossReference, settings => settings.tools.crossReference
  | .seconds, settings => settings.tools.seconds
  | .column, settings => settings.tools.column
  | .limit, settings => settings.graph.limit
  | .output, settings => settings.graph.output

def group? : Leaf → Option Group
  | .pattern | .root => none
  | .search | .tags | .crossReference | .seconds | .column => some .tools
  | .limit | .output => some .graph

def name : Leaf → String
  | .pattern => "pattern"
  | .root => "root"
  | .search => "search"
  | .tags => "tags"
  | .crossReference => "xref"
  | .seconds => "timeout_secs"
  | .column => "callee_column"
  | .limit => "limit"
  | .output => "output"

/-- The place of a setting in a list that stands for its table. -/
def position : Leaf → Nat
  | .pattern | .root | .search | .limit => 0
  | .tags | .output => 1
  | .crossReference => 2
  | .seconds => 3
  | .column => 4

/-- The field of the root table that a setting is or stands in. -/
def top (leaf : Leaf) : String := (leaf.group?.map Group.name).getD leaf.name

def key (leaf : Leaf) : String :=
  match leaf.group? with
  | none => leaf.name
  | some group => group.name ++ "." ++ leaf.name

def read : (leaf : Leaf) → String → Value → Reading leaf.Content
  | .pattern | .search | .tags | .crossReference => readText
  | .root => readPath?
  | .seconds | .limit => readNumber
  | .column => readColumn
  | .output => readPath

def rawIn? (leaf : Leaf) (value : Option Value) : Option (String × Value) :=
  match leaf.group? with
  | none => value.map (leaf.name, ·)
  | some group => value.bind (part? group.name leaf.position leaf.name)

def raw? (leaf : Leaf) (fields : Fields) : Option (String × Value) :=
  leaf.rawIn? (fields.lookup leaf.top)

/-- Fields are read as the content of a setting: what stands there, or else the standard one. -/
def ReadsAs (leaf : Leaf) (raw : Option (String × Value)) (content : leaf.Content) : Prop :=
  readPart leaf.read (leaf.get standard) raw = .ok content

theorem mem_all (leaf : Leaf) : leaf ∈ all := by cases leaf <;> decide

theorem ReadsAs.unique {leaf : Leaf} {raw : Option (String × Value)} {one other : leaf.Content}
    (h : leaf.ReadsAs raw one) (k : leaf.ReadsAs raw other) : one = other :=
  Except.ok.inj (h.symm.trans k)

end Leaf

def ofContents (content : (leaf : Leaf) → leaf.Content) : Settings :=
  ⟨content .pattern, content .root,
    ⟨content .search, content .tags, content .crossReference, content .seconds, content .column⟩,
    ⟨content .limit, content .output⟩⟩

theorem get_ofContents (content : (leaf : Leaf) → leaf.Content) (leaf : Leaf) :
    leaf.get (ofContents content) = content leaf := by cases leaf <;> rfl

theorem exists_forall_get {holds : (leaf : Leaf) → leaf.Content → Prop} :
    (∃ settings : Settings, ∀ leaf : Leaf, holds leaf (leaf.get settings)) ↔
      ∀ leaf : Leaf, ∃ content, holds leaf content := by
  constructor
  · rintro ⟨settings, all⟩ leaf
    exact ⟨_, all leaf⟩
  · intro each
    refine ⟨ofContents fun leaf => (each leaf).choose, fun leaf => ?_⟩
    rw [get_ofContents]
    exact (each leaf).choose_spec

/-- What stands for a table. -/
inductive Shape
  | table
  | list
  | scalar
  deriving DecidableEq

def Shape.of : Option Value → Shape
  | none => .table
  | some (.table _ _) => .table
  | some (.list _ _) => .list
  | some (.leaf _ _) => .scalar

def Group.shape (group : Group) (fields : Fields) : Shape := .of (fields.lookup group.name)

theorem bind_eq_ok {α β : Type} {reading : Reading α} {next : α → Reading β} {b : β} :
    reading >>= next = .ok b ↔ ∃ a, reading = .ok a ∧ next a = .ok b := by
  cases reading with
  | error mismatch =>
    constructor
    · intro h
      cases h
    · rintro ⟨a, h, -⟩
      cases h
  | ok a =>
    constructor
    · intro h
      exact ⟨a, rfl, h⟩
    · rintro ⟨_, h, done⟩
      cases h
      exact done

theorem ok_of_toOption {ε α : Type} {result : Except ε α} {a : α}
    (found : result.toOption = some a) : result = .ok a := by
  cases result with
  | error failure => cases found
  | ok b => exact congrArg Except.ok (Option.some.inj found)

theorem checkRecord_eq_ok {record key : String} {value : Value} :
    checkRecord record key value = .ok () ↔ Shape.of (some value) ≠ .scalar := by
  cases value <;> simp [checkRecord, Shape.of]

theorem readTools_eq_ok {value : Option Value} {tools : Tools} :
    readPart readTools Tools.standard (value.map ("tools", ·)) = .ok tools ↔
      Shape.of value ≠ .scalar ∧
      readPart readText Tools.standard.search (value.bind (part? "tools" 0 "search")) =
        .ok tools.search ∧
      readPart readText Tools.standard.tags (value.bind (part? "tools" 1 "tags")) =
        .ok tools.tags ∧
      readPart readText Tools.standard.crossReference (value.bind (part? "tools" 2 "xref")) =
        .ok tools.crossReference ∧
      readPart readNumber Tools.standard.seconds (value.bind (part? "tools" 3 "timeout_secs")) =
        .ok tools.seconds ∧
      readPart readColumn Tools.standard.column (value.bind (part? "tools" 4 "callee_column")) =
        .ok tools.column := by
  obtain ⟨search, tags, crossReference, seconds, column⟩ := tools
  cases value with
  | none => simp [readPart, Shape.of, Tools.standard]
  | some value =>
    simp only [Option.map_some, Option.bind_some, readPart, readTools, bind_eq_ok]
    constructor
    · rintro ⟨_, shape, _, h, _, k, _, l, _, m, _, n, done⟩
      cases done
      exact ⟨checkRecord_eq_ok.mp shape, h, k, l, m, n⟩
    · rintro ⟨shape, h, k, l, m, n⟩
      exact ⟨_, checkRecord_eq_ok.mpr shape, _, h, _, k, _, l, _, m, _, n, rfl⟩

theorem readGraph_eq_ok {value : Option Value} {graph : Graph} :
    readPart readGraph Graph.standard (value.map ("callgraph", ·)) = .ok graph ↔
      Shape.of value ≠ .scalar ∧
      readPart readNumber Graph.standard.limit (value.bind (part? "callgraph" 0 "limit")) =
        .ok graph.limit ∧
      readPart readPath Graph.standard.output (value.bind (part? "callgraph" 1 "output")) =
        .ok graph.output := by
  obtain ⟨limit, output⟩ := graph
  cases value with
  | none => simp [readPart, Shape.of, Graph.standard]
  | some value =>
    simp only [Option.map_some, Option.bind_some, readPart, readGraph, bind_eq_ok]
    constructor
    · rintro ⟨_, shape, _, h, _, k, done⟩
      cases done
      exact ⟨checkRecord_eq_ok.mp shape, h, k⟩
    · rintro ⟨shape, h, k⟩
      exact ⟨_, checkRecord_eq_ok.mpr shape, _, h, _, k, rfl⟩

/-- Settings are read if what stands for a table has parts and every setting is read. -/
theorem ofFields_eq_ok {fields : Fields} {settings : Settings} :
    ofFields fields = .ok settings ↔
      (∀ group : Group, group.shape fields ≠ .scalar) ∧
        ∀ leaf : Leaf, leaf.ReadsAs (leaf.raw? fields) (leaf.get settings) := by
  obtain ⟨pattern, root, tools, graph⟩ := settings
  simp only [ofFields, bind_eq_ok]
  constructor
  · rintro ⟨_, h, _, k, _, l, _, m, done⟩
    cases done
    obtain ⟨toolsShape, search, tags, crossReference, seconds, column⟩ := readTools_eq_ok.mp l
    obtain ⟨graphShape, limit, output⟩ := readGraph_eq_ok.mp m
    constructor
    · intro group
      cases group with
      | tools => exact toolsShape
      | graph => exact graphShape
    · intro leaf
      cases leaf <;> assumption
  · rintro ⟨shapes, reads⟩
    have tools := readTools_eq_ok.mpr ⟨shapes .tools, reads .search, reads .tags,
      reads .crossReference, reads .seconds, reads .column⟩
    have graph := readGraph_eq_ok.mpr ⟨shapes .graph, reads .limit, reads .output⟩
    exact ⟨_, reads .pattern, _, reads .root, _, tools, _, graph, rfl⟩

theorem ofFields_succeeds {fields : Fields} :
    (∃ settings, ofFields fields = .ok settings) ↔
      (∀ group : Group, group.shape fields ≠ .scalar) ∧
        ∀ leaf : Leaf, ∃ content, leaf.ReadsAs (leaf.raw? fields) content := by
  simp only [ofFields_eq_ok, exists_and_left, exists_forall_get]

end CallAtlas.Settings
