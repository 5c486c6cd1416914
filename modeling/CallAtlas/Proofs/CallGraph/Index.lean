import CallAtlas.Proofs.CallGraph.Appearance

set_option autoImplicit false
set_option relaxedAutoImplicit false

/-!
The numbers of a graph's nodes.  Whatever is added, names and numbers stand for each other, all
that is seen of the graph agrees, and a number once given to a name stays its number.  An index
of the names that is only ever added to tells the same numbers.
-/

namespace CallAtlas.CallGraph

open Distinct

/-- Names and numbers stand for each other, and what is seen of a graph agrees with its nodes and
edges, none of which stands twice. -/
structure Sound (graph : CallGraph) : Prop where
  index_iff : ∀ name number, graph.index? name = some number ↔ graph.names[number]? = some name
  names_nodup : graph.names.Nodup
  ends_nodup : (graph.links.map graph.ends?).Nodup
  ends_isSome : ∀ link ∈ graph.links, (graph.ends? link).isSome
  nodes : graph.nodes.Nodup ∧ graph.nodeCount = graph.nodes.length
  edges : graph.edges.Nodup ∧ graph.edgeCount = graph.edges.length
  ends_mem : ∀ pair ∈ graph.edges, pair.1 ∈ graph.nodes ∧ pair.2 ∈ graph.nodes
  hasNode_iff : ∀ name, graph.hasNode name ↔ name ∈ graph.nodes
  hasEdge_iff : ∀ caller callee, graph.hasEdge caller callee ↔ (caller, callee) ∈ graph.edges
  mem_callees_iff : ∀ caller callee,
    callee ∈ graph.callees caller ↔ (caller, callee) ∈ graph.edges

namespace Shows

variable {graph : CallGraph} {mentioned : List String} {called : List (String × String)}

theorem names_nodup (h : Shows graph mentioned called) : graph.names.Nodup := by
  rw [h.names]
  exact nodup_eraseDups mentioned

theorem index?_eq_some (h : Shows graph mentioned called) {name : String} {number : Nat} :
    graph.index? name = some number ↔ graph.names[number]? = some name := by
  rw [index?]
  constructor
  · intro found
    have inside := mem_of_idxOf?_eq_some found
    rw [idxOf?_of_mem inside] at found
    obtain rfl := Option.some.inj found
    exact getElem?_idxOf inside
  · intro stored
    obtain ⟨within, rfl⟩ := List.getElem?_eq_some_iff.mp stored
    rw [idxOf?_of_mem (List.getElem_mem within), h.names_nodup.idxOf_getElem number within]

theorem index?_of_mem {name : String} (inside : name ∈ graph.names) :
    graph.index? name = some (graph.names.idxOf name) := idxOf?_of_mem inside

theorem ends_nodup (h : Shows graph mentioned called) : (graph.links.map graph.ends?).Nodup := by
  have distinct := nodup_eraseDups called
  rw [List.nodup_iff_pairwise_ne] at distinct
  rw [h.links_ends, List.nodup_iff_pairwise_ne, List.pairwise_map]
  exact distinct.imp fun apart same => apart (Option.some.inj same)

theorem ends_isSome (h : Shows graph mentioned called) {link : Nat × Nat}
    (inside : link ∈ graph.links) : (graph.ends? link).isSome := by
  have seen : graph.ends? link ∈ graph.links.map graph.ends? := List.mem_map_of_mem inside
  rw [h.links_ends] at seen
  obtain ⟨pair, -, same⟩ := List.mem_map.mp seen
  rw [← same]
  rfl

theorem hasNode_iff (h : Shows graph mentioned called) {name : String} :
    graph.hasNode name ↔ name ∈ mentioned := by
  rw [hasNode, ← h.mem_names]
  by_cases inside : name ∈ graph.names
  · simp [index?_of_mem inside, inside]
  · simp [index?, List.idxOf?_eq_none_iff.mpr inside, inside]

theorem hasEdge_iff (h : Shows graph mentioned called) {caller callee : String} :
    graph.hasEdge caller callee ↔ (caller, callee) ∈ called := by
  by_cases first : caller ∈ graph.names
  · by_cases second : callee ∈ graph.names
    · rw [hasEdge, index?_of_mem first, index?_of_mem second, ← h.mem_links_iff first second]
      exact decide_eq_true_iff
    · have unknown : (caller, callee) ∉ called := fun inside => second (h.known_names inside).2
      simp [hasEdge, index?, List.idxOf?_eq_none_iff.mpr second, unknown]
  · have unknown : (caller, callee) ∉ called := fun inside => first (h.known_names inside).1
    simp [hasEdge, index?, List.idxOf?_eq_none_iff.mpr first, unknown]

theorem mem_callees_iff (h : Shows graph mentioned called) {caller callee : String} :
    callee ∈ graph.callees caller ↔ (caller, callee) ∈ called := by
  by_cases first : caller ∈ graph.names
  · rw [callees, index?_of_mem first]
    dsimp only
    rw [Ordered.mem_ofList nameKey_injective, List.mem_filterMap]
    simp only [List.mem_filter, decide_eq_true_eq]
    constructor
    · rintro ⟨link, ⟨inside, from_⟩, to_⟩
      rw [h.links] at inside
      obtain ⟨pair, member, rfl⟩ := List.mem_map.mp inside
      have member := List.mem_eraseDups.mp member
      obtain ⟨known, known'⟩ := h.known_names member
      obtain rfl := idxOf_inj known first from_
      rw [linkOf, getElem?_idxOf known'] at to_
      obtain rfl := Option.some.inj to_
      exact member
    · intro member
      obtain ⟨-, second⟩ := h.known_names member
      exact ⟨linkOf graph.names (caller, callee),
        ⟨(h.mem_links_iff first second).mpr member, rfl⟩, getElem?_idxOf second⟩
  · have unknown : (caller, callee) ∉ called := fun inside => first (h.known_names inside).1
    simp [callees, index?, List.idxOf?_eq_none_iff.mpr first, unknown]

theorem sound (h : Shows graph mentioned called) : Sound graph where
  index_iff _ _ := h.index?_eq_some
  names_nodup := h.names_nodup
  ends_nodup := h.ends_nodup
  ends_isSome _ := h.ends_isSome
  nodes := ⟨(Ordered.increasing_ofList _ _).nodup, h.nodeCount_eq⟩
  edges := ⟨(Ordered.increasing_ofList _ _).nodup, h.edgeCount_eq⟩
  ends_mem pair inside := by
    rw [h.mem_nodes, h.mem_nodes]
    exact h.known pair (h.mem_edges.mp inside)
  hasNode_iff name := by rw [h.hasNode_iff, h.mem_nodes]
  hasEdge_iff caller callee := by rw [h.hasEdge_iff, h.mem_edges]
  mem_callees_iff caller callee := by rw [h.mem_callees_iff, h.mem_edges]

end Shows

/-! Numbers stay. -/

def connect (graph : CallGraph) (caller callee : Nat) : CallGraph :=
  if graph.links.contains (caller, callee) then graph
  else { graph with links := graph.links ++ [(caller, callee)] }

theorem addCall_eq (graph : CallGraph) (call : Reference.Call) :
    graph.addCall call =
      let (caller, graph) := graph.addNode call.caller
      let (callee, graph) := graph.addNode call.callee
      graph.connect caller callee := by
  simp only [addCall, connect, List.contains_iff_mem]

theorem connect_names (graph : CallGraph) (caller callee : Nat) :
    (graph.connect caller callee).names = graph.names := by
  unfold connect
  split <;> rfl

theorem addCall_names (graph : CallGraph) (call : Reference.Call) :
    (graph.addCall call).names =
      ((graph.addNode call.caller).2.addNode call.callee).2.names := by
  rw [addCall_eq]
  exact connect_names _ _ _

theorem Addition.onto_names (addition : Addition) (graph : CallGraph) :
    graph.names <+: (addition.onto graph).names := by
  cases addition with
  | node name =>
    obtain ⟨more, same⟩ := Shows.addNode_names graph name
    exact ⟨more, same.symm⟩
  | call added =>
    obtain ⟨first, same⟩ := Shows.addNode_names graph added.caller
    obtain ⟨second, same'⟩ := Shows.addNode_names (graph.addNode added.caller).2 added.callee
    refine ⟨first ++ second, ?_⟩
    rw [Addition.onto, addCall_names, same', same, List.append_assoc]

theorem foldl_onto_names (additions : List Addition) (graph : CallGraph) :
    graph.names <+: (additions.foldl Addition.onto graph).names := by
  induction additions generalizing graph with
  | nil => exact List.prefix_rfl
  | cons addition rest ih => exact (addition.onto_names graph).trans (ih _)

theorem mem_names_addNode (graph : CallGraph) (name : String) :
    name ∈ (graph.addNode name).2.names := by
  unfold addNode
  split
  · rename_i number found
    exact mem_of_idxOf?_eq_some found
  · exact List.mem_append_right _ List.mem_cons_self

theorem addNode_of_mem {graph : CallGraph} {name : String} (inside : name ∈ graph.names) :
    graph.addNode name = (graph.names.idxOf name, graph) := by
  rw [addNode, Shows.index?_of_mem inside]

/-- The number that a name was given stays its number, whatever is added later. -/
theorem addNode_foldl_onto (graph : CallGraph) (name : String) (additions : List Addition) :
    ((additions.foldl Addition.onto (graph.addNode name).2).addNode name).1 =
      (graph.addNode name).1 := by
  have inside := mem_names_addNode graph name
  obtain ⟨more, grown⟩ := foldl_onto_names additions (graph.addNode name).2
  have later : name ∈ (additions.foldl Addition.onto (graph.addNode name).2).names := by
    rw [← grown]
    exact List.mem_append_left _ inside
  rw [addNode_of_mem later, ← grown, List.idxOf_append, if_pos inside, Shows.addNode_index]

/-! Graphs that keep an index. -/

/-- A graph beside an index of its nodes, which is looked up instead of the names. -/
structure Indexed where
  index : List (String × Nat)
  graph : CallGraph

namespace Indexed

def addNode (indexed : Indexed) (name : String) : Nat × Indexed :=
  match indexed.index.lookup name with
  | some number => (number, indexed)
  | none =>
    let number := indexed.graph.names.length
    (number, ⟨(name, number) :: indexed.index,
      { indexed.graph with names := indexed.graph.names ++ [name] }⟩)

def addCall (indexed : Indexed) (call : Reference.Call) : Indexed :=
  let (caller, indexed) := indexed.addNode call.caller
  let (callee, indexed) := indexed.addNode call.callee
  { indexed with graph := indexed.graph.connect caller callee }

def add (indexed : Indexed) : Addition → Indexed
  | .node name => (indexed.addNode name).2
  | .call added => indexed.addCall added

def ofAdditions (additions : List Addition) : Indexed := additions.foldl add ⟨[], empty⟩

def Tells (indexed : Indexed) : Prop :=
  ∀ name, indexed.index.lookup name = indexed.graph.index? name

variable {indexed : Indexed}

theorem addNode_step (h : indexed.Tells) (name : String) :
    (indexed.addNode name).1 = (indexed.graph.addNode name).1 ∧
      (indexed.addNode name).2.graph = (indexed.graph.addNode name).2 ∧
      (indexed.addNode name).2.Tells := by
  unfold addNode CallGraph.addNode
  rw [h name]
  cases found : indexed.graph.index? name with
  | some number => exact ⟨rfl, rfl, h⟩
  | none =>
    refine ⟨rfl, rfl, fun other => ?_⟩
    have absent := List.idxOf?_eq_none_iff.mp found
    dsimp only
    rw [lookup_cons_eq_ite, h other, index?, index?, idxOf?_concat absent]

theorem addCall_step (h : indexed.Tells) (call : Reference.Call) :
    (indexed.addCall call).graph = indexed.graph.addCall call ∧ (indexed.addCall call).Tells := by
  obtain ⟨caller, first, tells⟩ := addNode_step h call.caller
  obtain ⟨callee, second, tells'⟩ := addNode_step tells call.callee
  rw [addCall_eq, addCall]
  dsimp only
  rw [callee, second, first, caller]
  refine ⟨rfl, fun name => ?_⟩
  have known := tells' name
  rw [second, first] at known
  rw [known, index?, index?, connect_names]

theorem add_step (h : indexed.Tells) (addition : Addition) :
    (indexed.add addition).graph = addition.onto indexed.graph ∧ (indexed.add addition).Tells := by
  cases addition with
  | node name => exact (addNode_step h name).2
  | call added => exact addCall_step h added

theorem foldl_add (h : indexed.Tells) (additions : List Addition) :
    (additions.foldl add indexed).graph = additions.foldl Addition.onto indexed.graph ∧
      (additions.foldl add indexed).Tells := by
  induction additions generalizing indexed with
  | nil => exact ⟨rfl, h⟩
  | cons addition rest ih =>
    obtain ⟨same, tells⟩ := add_step h addition
    rw [List.foldl_cons, List.foldl_cons, ← same]
    exact ih tells

theorem ofAdditions_tells (additions : List Addition) :
    (ofAdditions additions).graph = CallGraph.ofAdditions additions ∧
      (ofAdditions additions).Tells :=
  foldl_add (fun _ => rfl) additions

end Indexed

/-- However a graph was built, names and numbers stand for each other, also in an index that is
kept beside the nodes, all that is seen of the graph agrees, its nodes and edges are the names and
the calls that were added, and a name keeps the number that it was given. -/
theorem ofAdditions_sound (additions : List Addition) :
    let graph := ofAdditions additions
    let indexed := Indexed.ofAdditions additions
    graph.Sound ∧
      (∀ name, name ∈ graph.nodes ↔ ∃ addition ∈ additions, name ∈ addition.names) ∧
      (∀ pair, pair ∈ graph.edges ↔ ∃ addition ∈ additions, pair ∈ addition.pairs) ∧
      (indexed.graph = graph ∧ ∀ name number,
        indexed.index.lookup name = some number ↔ graph.names[number]? = some name) ∧
      ∀ name later, ((ofAdditions (additions ++ .node name :: later)).addNode name).1 =
        (graph.addNode name).1 := by
  intro graph indexed
  have shows : Shows graph _ _ := shows_ofAdditions additions
  obtain ⟨same, tells⟩ := Indexed.ofAdditions_tells additions
  refine ⟨shows.sound, ?_, ?_, ⟨same, ?_⟩, ?_⟩
  · intro name
    rw [shows.mem_nodes, List.mem_flatMap]
  · intro pair
    rw [shows.mem_edges, List.mem_flatMap]
  · intro name number
    rw [tells name, same]
    exact shows.index?_eq_some
  · intro name later
    rw [ofAdditions, List.foldl_append, List.foldl_cons]
    exact addNode_foldl_onto graph name later

end CallAtlas.CallGraph
