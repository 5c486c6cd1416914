import CallAtlas.CallGraph.Dot
import CallAtlas.Proofs.CallGraph.Appearance
import CallAtlas.Text.Line
import CallAtlas.Text.Piece

set_option autoImplicit false
set_option relaxedAutoImplicit false

/-!
Reading DOT texts.  Every node and every edge has one line of the text, whatever the names are, and
from these lines the graph is read back: nothing is lost, and no two graphs have one text.
-/

namespace CallAtlas.CallGraph

/-! Names in quotes. -/

def unescapeChar (c : Char) : Char := if c = 'l' then '\n' else c

/-- Reads an escaped name up to the quote that ends it, either right after a backslash or not. -/
def readName? : Bool → List Char → Option (List Char)
  | _, [] => none
  | true, c :: rest => (readName? false rest).map (unescapeChar c :: ·)
  | false, c :: rest =>
    if c = '"' then some []
    else if c = '\\' then readName? true rest
    else (readName? false rest).map (c :: ·)

theorem readName?_escapeChar (c : Char) (rest : List Char) :
    readName? false (escapeChar c ++ rest) = (readName? false rest).map (c :: ·) := by
  unfold escapeChar
  split
  · rename_i quote
    rw [quote]
    rfl
  · rename_i unquoted
    split
    · rename_i backslash
      rw [backslash]
      rfl
    · rename_i plain
      split
      · rename_i newline
        rw [newline]
        rfl
      · rw [List.singleton_append, readName?, if_neg unquoted, if_neg plain]

/-- The quote that ends a name is the first one that is not escaped. -/
theorem readName?_escape (name rest : List Char) :
    readName? false (escape name ++ '"' :: rest) = some name := by
  unfold escape
  induction name with
  | nil => rfl
  | cons c others ih =>
    rw [List.flatMap_cons, List.append_assoc, readName?_escapeChar, ih]
    rfl

theorem newline_notMem_escape (name : List Char) : '\n' ∉ escape name := by
  intro inside
  obtain ⟨c, -, inside⟩ := List.mem_flatMap.mp inside
  unfold escapeChar at inside
  split at inside
  · simp at inside
  · split at inside
    · simp at inside
    · split at inside
      · simp at inside
      · rename_i other
        exact other (List.mem_singleton.mp inside).symm

/-! Numbers. -/

def readNumber (text : List Char) : Nat × List Char :=
  (Nat.ofDigitChars 10 (text.takeWhile Char.isDigit) 0, text.dropWhile Char.isDigit)

theorem readNumber_decimal (n : Nat) {c : Char} (other : c.isDigit = false) (rest : List Char) :
    readNumber (Text.decimal n ++ c :: rest) = (n, c :: rest) := by
  have digits : ∀ d ∈ Text.decimal n, d.isDigit = true := fun _ => Text.isDigit_of_mem_decimal
  have value : Nat.ofDigitChars 10 (Text.decimal n) 0 = n := Nat.ofDigitChars_ten_toDigits
  rw [readNumber, List.takeWhile_append_of_pos digits, List.dropWhile_append_of_pos digits,
    List.takeWhile_cons_of_neg (by simp [other]), List.dropWhile_cons_of_neg (by simp [other]),
    List.append_nil, value]

/-! Statements. -/

inductive Statement
  | node (index : Nat) (name : String)
  | edge (link : Nat × Nat)
  deriving DecidableEq

namespace Statement

def print : Statement → List Char
  | .node index name =>
    "    ".toList ++ (Text.decimal index ++ (" [ label = \"".toList ++
      (escape name.toList ++ "\" ]".toList)))
  | .edge link =>
    "    ".toList ++ (Text.decimal link.1 ++ (" -> ".toList ++
      (Text.decimal link.2 ++ " [ ]".toList)))

theorem print_node (index : Nat) (name : String) :
    print (.node index name) =
      "    ".toList ++ (Text.decimal index ++ (" [ label = \"".toList ++
        (escape name.toList ++ "\" ]".toList))) := rfl

theorem print_edge (link : Nat × Nat) :
    print (.edge link) =
      "    ".toList ++ (Text.decimal link.1 ++ (" -> ".toList ++
        (Text.decimal link.2 ++ " [ ]".toList))) := rfl

def read? (line : List Char) : Option Statement :=
  match Text.after? "    ".toList line with
  | none => none
  | some numbered =>
    let (number, rest) := readNumber numbered
    match Text.after? " [ label = \"".toList rest with
    | some quoted => (readName? false quoted).map fun name => .node number (String.ofList name)
    | none => (Text.after? " -> ".toList rest).map fun rest => .edge (number, (readNumber rest).1)

def name? : Statement → Option String
  | .node _ name => some name
  | .edge _ => none

def link? : Statement → Option (Nat × Nat)
  | .node _ _ => none
  | .edge link => some link

theorem read?_print (statement : Statement) : read? statement.print = some statement := by
  have blank : ' '.isDigit = false := by decide
  unfold read?
  cases statement with
  | node index name =>
    have number : readNumber (Text.decimal index ++ (" [ label = \"".toList ++
        (escape name.toList ++ "\" ]".toList))) = _ := readNumber_decimal index blank _
    have quoted : readName? false (escape name.toList ++ "\" ]".toList) = some name.toList :=
      readName?_escape _ _
    rw [print_node, Text.after?_append]
    dsimp only
    rw [number]
    dsimp only
    rw [show ' ' :: _ = " [ label = \"".toList ++ (escape name.toList ++ "\" ]".toList) from rfl,
      Text.after?_append]
    dsimp only
    rw [quoted, Option.map_some, String.ofList_toList]
  | edge link =>
    have number : readNumber (Text.decimal link.1 ++ (" -> ".toList ++
        (Text.decimal link.2 ++ " [ ]".toList))) = _ := readNumber_decimal link.1 blank _
    have second : readNumber (Text.decimal link.2 ++ " [ ]".toList) = _ :=
      readNumber_decimal link.2 blank _
    have unlabelled : Text.after? " [ label = \"".toList
        (" -> ".toList ++ (Text.decimal link.2 ++ " [ ]".toList)) = none := rfl
    rw [print_edge, Text.after?_append]
    dsimp only
    rw [number]
    dsimp only
    rw [show ' ' :: _ = " -> ".toList ++ (Text.decimal link.2 ++ " [ ]".toList) from rfl,
      unlabelled, Text.after?_append, Option.map_some, second]

theorem newline_notMem_print (statement : Statement) : '\n' ∉ statement.print := by
  have digits (n : Nat) : '\n' ∉ Text.decimal n := Text.notMem_decimal (by decide) n
  have both {one other : List Char} (h : '\n' ∉ one) (k : '\n' ∉ other) : '\n' ∉ one ++ other :=
    fun inside => (List.mem_append.mp inside).elim h k
  cases statement with
  | node index name =>
    exact both (by decide) (both (digits index) (both (by decide)
      (both (newline_notMem_escape _) (by decide))))
  | edge link =>
    exact both (by decide) (both (digits link.1) (both (by decide)
      (both (digits link.2) (by decide))))

theorem print_eq_concat (statement : Statement) :
    ∃ beginning, statement.print = beginning ++ [']'] := by
  cases statement with
  | node index name =>
    refine ⟨"    ".toList ++ (Text.decimal index ++ (" [ label = \"".toList ++
      (escape name.toList ++ ['"', ' ']))), ?_⟩
    simp only [List.append_assoc]
    rfl
  | edge link =>
    refine ⟨"    ".toList ++ (Text.decimal link.1 ++ (" -> ".toList ++
      (Text.decimal link.2 ++ [' ', '[', ' ']))), ?_⟩
    simp only [List.append_assoc]
    rfl

end Statement

/-! Whole texts. -/

def statements (graph : CallGraph) : List Statement :=
  (graph.names.zipIdx.map fun (name, index) => .node index name) ++ graph.links.map .edge

def dotLines (graph : CallGraph) : List (List Char) :=
  "digraph \x7b".toList :: graph.statements.map Statement.print ++ ["\x7d".toList]

/-- The graph that a DOT text describes. -/
def ofDot (text : String) : CallGraph :=
  let statements := (Text.lines text.toList).filterMap Statement.read?
  ⟨statements.filterMap Statement.name?, statements.filterMap Statement.link?⟩

theorem nodeLine_eq (index : Nat) (name : String) :
    nodeLine index name = (Statement.node index name).print ++ ['\n'] := by
  unfold nodeLine
  simp only [Statement.print_node, List.append_assoc]
  rfl

theorem edgeLine_eq (link : Nat × Nat) :
    edgeLine link = (Statement.edge link).print ++ ['\n'] := by
  unfold edgeLine
  simp only [Statement.print_edge, List.append_assoc]
  rfl

theorem nodeLines_eq (index : Nat) (names : List String) :
    nodeLines index names =
      Text.unlines ((names.zipIdx index).map fun (name, index) =>
        (Statement.node index name).print) := by
  induction names generalizing index with
  | nil => rfl
  | cons name rest ih =>
    rw [nodeLines, ih, List.zipIdx_cons, List.map_cons, Text.unlines, Text.unlines,
      List.flatMap_cons, nodeLine_eq]

theorem edgeLines_eq (links : List (Nat × Nat)) :
    links.flatMap edgeLine =
      Text.unlines (links.map fun link => (Statement.edge link).print) := by
  rw [Text.unlines, List.flatMap_map, funext edgeLine_eq]

theorem map_print_statements (graph : CallGraph) :
    graph.statements.map Statement.print =
      (graph.names.zipIdx.map fun (name, index) => (Statement.node index name).print) ++
        graph.links.map fun link => (Statement.edge link).print := by
  rw [statements, List.map_append, List.map_map, List.map_map]
  rfl

theorem dotChars_eq (graph : CallGraph) : graph.dotChars = Text.unlines graph.dotLines :=
  calc graph.dotChars
      = Text.unlines ["digraph \x7b".toList] ++
          Text.unlines (graph.statements.map Statement.print) ++ Text.unlines ["\x7d".toList] := by
        rw [map_print_statements, Text.unlines_append, ← edgeLines_eq, ← nodeLines_eq,
          ← List.append_assoc]
        rfl
    _ = Text.unlines graph.dotLines := by
        rw [← Text.unlines_append, ← Text.unlines_append]
        rfl

theorem mem_dotLines {graph : CallGraph} {line : List Char} :
    line ∈ graph.dotLines ↔
      line = "digraph \x7b".toList ∨ (∃ statement ∈ graph.statements, statement.print = line) ∨
        line = "\x7d".toList := by
  rw [dotLines, List.mem_append, List.mem_cons, List.mem_map, List.mem_singleton, or_assoc]

theorem newline_notMem_dotLines {graph : CallGraph} {line : List Char}
    (inside : line ∈ graph.dotLines) : '\n' ∉ line := by
  rcases mem_dotLines.mp inside with rfl | ⟨statement, -, rfl⟩ | rfl
  · decide
  · exact statement.newline_notMem_print
  · decide

theorem withoutReturn_dotLines {graph : CallGraph} {line : List Char}
    (inside : line ∈ graph.dotLines) : Text.withoutReturn line = line := by
  rcases mem_dotLines.mp inside with rfl | ⟨statement, -, rfl⟩ | rfl
  · rfl
  · obtain ⟨beginning, spelled⟩ := statement.print_eq_concat
    rw [spelled, Text.withoutReturn_concat beginning (by decide)]
  · rfl

theorem lines_dot (graph : CallGraph) : Text.lines graph.dot.toList = graph.dotLines := by
  have plain : ∀ line ∈ graph.dotLines, '\n' ∉ line := fun _ => newline_notMem_dotLines
  have bare : ∀ line ∈ graph.dotLines, Text.withoutReturn line = line := fun _ =>
    withoutReturn_dotLines
  calc Text.lines graph.dot.toList
      = Text.lines (Text.unlines graph.dotLines) := by
        rw [dot, String.toList_ofList, dotChars_eq]
    _ = graph.dotLines.map Text.withoutReturn := Text.lines_unlines plain
    _ = graph.dotLines.map id := List.map_congr_left bare
    _ = graph.dotLines := List.map_id _

theorem filterMap_dotLines (graph : CallGraph) :
    graph.dotLines.filterMap Statement.read? = graph.statements := by
  have opening : Statement.read? "digraph \x7b".toList = none := rfl
  have closing : Statement.read? "\x7d".toList = none := rfl
  have same : Statement.read? ∘ Statement.print = some := funext Statement.read?_print
  rw [dotLines, List.filterMap_append, List.filterMap_cons_none opening, List.filterMap_map, same,
    List.filterMap_some, List.filterMap_cons_none closing, List.filterMap_nil, List.append_nil]

theorem ofDot_dot (graph : CallGraph) : ofDot graph.dot = graph := by
  have names : graph.statements.filterMap Statement.name? = graph.names := by
    simp [statements, List.filterMap_map, Function.comp_def, Statement.name?]
  have links : graph.statements.filterMap Statement.link? = graph.links := by
    simp [statements, List.filterMap_map, Function.comp_def, Statement.link?]
  rw [ofDot, lines_dot, filterMap_dotLines, names, links]

/-- However a graph was built, its text has a line for each node and each edge and two more, and
is read back as the names and the calls in the order of their first appearance; a graph with the
same text is the same graph. -/
theorem ofDot_dot_ofAdditions (additions : List Addition) :
    let graph := ofAdditions additions
    (ofDot graph.dot).names = (additions.flatMap Addition.names).eraseDups ∧
      (ofDot graph.dot).links.map (ofDot graph.dot).ends? =
        (additions.flatMap Addition.pairs).eraseDups.map some ∧
      ofDot graph.dot = graph ∧
      (∀ others, (ofAdditions others).dot = graph.dot → ofAdditions others = graph) ∧
      (Text.lines graph.dot.toList).length = graph.nodeCount + graph.edgeCount + 2 := by
  intro graph
  have shows : Shows graph _ _ := shows_ofAdditions additions
  rw [ofDot_dot]
  refine ⟨shows.names, shows.links_ends, rfl, ?_, ?_⟩
  · intro others same
    rw [← ofDot_dot (ofAdditions others), same, ofDot_dot]
  · rw [lines_dot]
    simp [dotLines, statements, nodeCount, edgeCount, Nat.add_assoc]

/-- A name with a quote, a backslash and a newline, and one that looks like an edge. -/
example :
    let graph := ofAdditions [.call ⟨"\"\\\n", "    0 -> 1 [ ]"⟩]
    ofDot graph.dot = graph := by
  decide +kernel

end CallAtlas.CallGraph
