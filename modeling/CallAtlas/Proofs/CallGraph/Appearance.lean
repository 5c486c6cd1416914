import CallAtlas.CallGraph.Assembly
import CallAtlas.Proofs.Distinct
import CallAtlas.Proofs.Reference.Row

set_option autoImplicit false
set_option relaxedAutoImplicit false

namespace CallAtlas

namespace CallGraph

open Distinct

def linkOf (names : List String) (pair : String × String) : Nat × Nat :=
  (names.idxOf pair.1, names.idxOf pair.2)

/-- A graph of the names mentioned and the calls made so far, both in their order. -/
structure Shows (graph : CallGraph) (mentioned : List String) (called : List (String × String)) :
    Prop where
  names : graph.names = mentioned.eraseDups
  links : graph.links = called.eraseDups.map (linkOf graph.names)
  known : ∀ pair ∈ called, pair.1 ∈ mentioned ∧ pair.2 ∈ mentioned

theorem linkOf_append {names : List String} {pair : String × String} (first : pair.1 ∈ names)
    (second : pair.2 ∈ names) (more : List String) :
    linkOf (names ++ more) pair = linkOf names pair := by
  rw [linkOf, linkOf, List.idxOf_append, List.idxOf_append, if_pos first, if_pos second]

theorem linkOf_inj {names : List String} {a b : String × String}
    (ha : a.1 ∈ names ∧ a.2 ∈ names) (hb : b.1 ∈ names ∧ b.2 ∈ names)
    (h : linkOf names a = linkOf names b) : a = b := by
  obtain ⟨first, second⟩ := Prod.mk.inj h
  exact Prod.ext (idxOf_inj ha.1 hb.1 first) (idxOf_inj ha.2 hb.2 second)

theorem shows_empty : Shows empty [] [] := ⟨rfl, rfl, by simp⟩

namespace Shows

variable {graph : CallGraph} {mentioned : List String} {called : List (String × String)}

theorem mem_names (h : Shows graph mentioned called) {name : String} :
    name ∈ graph.names ↔ name ∈ mentioned := by
  rw [h.names, List.mem_eraseDups]

theorem known_names (h : Shows graph mentioned called) {pair : String × String}
    (member : pair ∈ called) : pair.1 ∈ graph.names ∧ pair.2 ∈ graph.names := by
  obtain ⟨first, second⟩ := h.known pair member
  exact ⟨h.mem_names.mpr first, h.mem_names.mpr second⟩

theorem known_append (h : Shows graph mentioned called) (name : String) :
    ∀ pair ∈ called, pair.1 ∈ mentioned ++ [name] ∧ pair.2 ∈ mentioned ++ [name] := by
  intro pair member
  obtain ⟨first, second⟩ := h.known pair member
  exact ⟨List.mem_append_left _ first, List.mem_append_left _ second⟩

theorem addNode (h : Shows graph mentioned called) (name : String) :
    Shows (graph.addNode name).2 (mentioned ++ [name]) called := by
  unfold CallGraph.addNode index?
  by_cases old : name ∈ mentioned
  · rw [idxOf?_of_mem (h.mem_names.mpr old)]
    exact ⟨by rw [eraseDups_concat_of_mem old, h.names], h.links, h.known_append name⟩
  · have absent : name ∉ graph.names := fun inside => old (h.mem_names.mp inside)
    rw [List.idxOf?_eq_none_iff.mpr absent]
    refine ⟨by rw [eraseDups_concat_of_notMem old, h.names], ?_, h.known_append name⟩
    dsimp only
    rw [h.links]
    apply List.map_congr_left
    intro pair member
    obtain ⟨first, second⟩ := h.known_names (List.mem_eraseDups.mp member)
    exact (linkOf_append first second [name]).symm

theorem addNode_index (graph : CallGraph) (name : String) :
    (graph.addNode name).1 = (graph.addNode name).2.names.idxOf name := by
  unfold CallGraph.addNode index?
  by_cases old : name ∈ graph.names
  · rw [idxOf?_of_mem old]
  · rw [List.idxOf?_eq_none_iff.mpr old]
    simp [List.idxOf_append, old]

theorem addNode_names (graph : CallGraph) (name : String) :
    ∃ more, (graph.addNode name).2.names = graph.names ++ more := by
  unfold CallGraph.addNode
  split
  · exact ⟨[], by simp⟩
  · exact ⟨[name], rfl⟩

theorem mem_links_iff (h : Shows graph mentioned called) {pair : String × String}
    (first : pair.1 ∈ graph.names) (second : pair.2 ∈ graph.names) :
    linkOf graph.names pair ∈ graph.links ↔ pair ∈ called := by
  rw [h.links, List.mem_map]
  constructor
  · rintro ⟨other, member, same⟩
    have inside := List.mem_eraseDups.mp member
    rwa [← linkOf_inj (h.known_names inside) ⟨first, second⟩ same]
  · intro member
    exact ⟨pair, List.mem_eraseDups.mpr member, rfl⟩

theorem addCall (h : Shows graph mentioned called) (call : Reference.Call) :
    Shows (graph.addCall call) (mentioned ++ [call.caller] ++ [call.callee])
      (called ++ [(call.caller, call.callee)]) := by
  have both := (h.addNode call.caller).addNode call.callee
  have link : ((graph.addNode call.caller).1,
      ((graph.addNode call.caller).2.addNode call.callee).1) =
        linkOf ((graph.addNode call.caller).2.addNode call.callee).2.names
          (call.caller, call.callee) := by
    obtain ⟨more, equal⟩ := addNode_names (graph.addNode call.caller).2 call.callee
    have inside : call.caller ∈ (graph.addNode call.caller).2.names :=
      (h.addNode call.caller).mem_names.mpr (by simp)
    rw [linkOf, ← addNode_index, equal, List.idxOf_append, if_pos inside, ← addNode_index]
  -- Both ends are numbered before the pair is looked for, so numbers stand for names.
  have first : call.caller ∈ ((graph.addNode call.caller).2.addNode call.callee).2.names :=
    both.mem_names.mpr (by simp)
  have second : call.callee ∈ ((graph.addNode call.caller).2.addNode call.callee).2.names :=
    both.mem_names.mpr (by simp)
  have known : ∀ pair ∈ called ++ [(call.caller, call.callee)],
      pair.1 ∈ mentioned ++ [call.caller] ++ [call.callee] ∧
        pair.2 ∈ mentioned ++ [call.caller] ++ [call.callee] := by
    intro pair member
    rcases List.mem_append.mp member with old | new
    · exact both.known pair old
    · obtain rfl := List.mem_singleton.mp new
      simp
  unfold CallGraph.addCall
  dsimp only
  rw [link]
  by_cases old : (call.caller, call.callee) ∈ called
  · rw [if_pos ((both.mem_links_iff first second).mpr old)]
    exact ⟨both.names, by rw [eraseDups_concat_of_mem old, both.links], known⟩
  · rw [if_neg fun inside => old ((both.mem_links_iff first second).mp inside)]
    refine ⟨both.names, ?_, known⟩
    rw [eraseDups_concat_of_notMem old, List.map_append, ← both.links]
    rfl

theorem of_mentioned {name : String} {rest : List String} (inside : name ∈ mentioned)
    (h : Shows graph (mentioned ++ [name] ++ rest) called) :
    Shows graph (mentioned ++ rest) called := by
  have fewer : ∀ other, other ∈ mentioned ++ [name] ++ rest → other ∈ mentioned ++ rest := by
    intro other member
    simp only [List.mem_append, List.mem_singleton] at member ⊢
    rcases member with (old | rfl) | later
    · exact .inl old
    · exact .inl inside
    · exact .inr later
  refine ⟨?_, h.links, ?_⟩
  · rw [h.names, List.eraseDups_append, eraseDups_concat_of_mem inside, List.eraseDups_append]
    have same : rest.removeAll (mentioned ++ [name]) = rest.removeAll mentioned := by
      apply List.filter_congr
      intro other _
      by_cases equal : other = name
      · simp [equal, inside]
      · simp [equal]
    rw [same]
  · intro pair member
    obtain ⟨first, second⟩ := h.known pair member
    exact ⟨fewer _ first, fewer _ second⟩

theorem addCalls (h : Shows graph mentioned called) {function : String}
    (inside : function ∈ mentioned) (callees : List String) :
    Shows (graph.addCalls (callees.map fun callee => ⟨function, callee⟩)) (mentioned ++ callees)
      (called ++ callees.map fun callee => (function, callee)) := by
  induction callees generalizing graph mentioned called with
  | nil => simpa [CallGraph.addCalls] using h
  | cons callee rest ih =>
    -- Every call names its caller once more, which has been mentioned.
    have next := of_mentioned inside (h.addCall ⟨function, callee⟩)
    have all := ih next (List.mem_append_left _ inside)
    simpa [CallGraph.addCalls] using all

theorem addFunction (h : Shows graph mentioned called) (column : Reference.Column)
    (function : String) (rows : List String) :
    Shows (graph.addFunction function (Reference.calls column function rows))
      (mentioned ++ function :: rows.filterMap (Reference.calleeOf? column))
      (called ++ (rows.filterMap (Reference.calleeOf? column)).map fun callee =>
        (function, callee)) := by
  have inside : function ∈ mentioned ++ [function] := by simp
  have all := (h.addNode function).addCalls inside (rows.filterMap (Reference.calleeOf? column))
  rw [List.append_assoc, List.singleton_append] at all
  rw [CallGraph.addFunction, Reference.calls_eq]
  exact all

/-! What is seen of a graph. -/

theorem ends?_linkOf (h : Shows graph mentioned called) {pair : String × String}
    (member : pair ∈ called) : graph.ends? (linkOf graph.names pair) = some pair := by
  obtain ⟨first, second⟩ := h.known_names member
  rw [ends?, linkOf, getElem?_idxOf first, getElem?_idxOf second]

theorem links_ends (h : Shows graph mentioned called) :
    graph.links.map graph.ends? = called.eraseDups.map some := by
  rw [h.links, List.map_map]
  apply List.map_congr_left
  intro pair member
  exact h.ends?_linkOf (List.mem_eraseDups.mp member)

theorem filterMap_ends (h : Shows graph mentioned called) :
    graph.links.filterMap graph.ends? = called.eraseDups := by
  have all := congrArg (List.filterMap id) h.links_ends
  rw [List.filterMap_map, List.filterMap_map] at all
  simpa using all

theorem nameKey_injective (a b : String) (h : id a = id b) : a = b := h

private theorem pairKey_injective (a b : String × String) (h : [a.1, a.2] = [b.1, b.2]) :
    a = b := by
  obtain ⟨first, rest⟩ := List.cons.inj h
  exact Prod.ext first (List.cons.inj rest).1

theorem mem_nodes (h : Shows graph mentioned called) {name : String} :
    name ∈ graph.nodes ↔ name ∈ mentioned := by
  rw [nodes, Ordered.mem_ofList nameKey_injective, h.mem_names]

theorem mem_edges (h : Shows graph mentioned called) {pair : String × String} :
    pair ∈ graph.edges ↔ pair ∈ called := by
  rw [edges, Ordered.mem_ofList pairKey_injective, h.filterMap_ends, List.mem_eraseDups]

theorem nodeCount_eq (h : Shows graph mentioned called) :
    graph.nodeCount = graph.nodes.length := by
  have distinct : graph.names.Nodup := h.names ▸ nodup_eraseDups mentioned
  exact (Ordered.ofList_perm nameKey_injective distinct).length_eq.symm

theorem edgeCount_eq (h : Shows graph mentioned called) :
    graph.edgeCount = graph.edges.length := by
  have sorted := Ordered.ofList_perm pairKey_injective (nodup_eraseDups called)
  have numbered : graph.links.length = called.eraseDups.length := by
    simpa using congrArg List.length h.links_ends
  rw [edges, h.filterMap_ends, sorted.length_eq, edgeCount, numbered]

theorem same_sets (h : Shows graph mentioned called) {other : CallGraph}
    {mentioned' : List String} {called' : List (String × String)}
    (k : Shows other mentioned' called') (names : ∀ name, name ∈ mentioned ↔ name ∈ mentioned')
    (calls : ∀ pair, pair ∈ called ↔ pair ∈ called') :
    graph.nodes = other.nodes ∧ graph.edges = other.edges := by
  constructor
  · apply (Ordered.increasing_ofList id graph.names).eq_of_mem_iff (Ordered.increasing_ofList _ _)
    intro name
    exact h.mem_nodes.trans ((names name).trans k.mem_nodes.symm)
  · apply (Ordered.increasing_ofList (fun pair : String × String => [pair.1, pair.2])
      (graph.links.filterMap graph.ends?)).eq_of_mem_iff (Ordered.increasing_ofList _ _)
    intro pair
    exact h.mem_edges.trans ((calls pair).trans k.mem_edges.symm)

end Shows

/-! Graphs that grow step by step. -/

/-- What can be added to a graph: a node, or a call with its ends. -/
inductive Addition
  | node (name : String)
  | call (added : Reference.Call)

namespace Addition

def onto (graph : CallGraph) : Addition → CallGraph
  | .node name => (graph.addNode name).2
  | .call added => graph.addCall added

def names : Addition → List String
  | .node name => [name]
  | .call added => [added.caller, added.callee]

def pairs : Addition → List (String × String)
  | .node _ => []
  | .call added => [(added.caller, added.callee)]

end Addition

def ofAdditions (additions : List Addition) : CallGraph := additions.foldl Addition.onto empty

theorem Shows.addition {graph : CallGraph} {mentioned : List String}
    {called : List (String × String)} (h : Shows graph mentioned called) (addition : Addition) :
    Shows (addition.onto graph) (mentioned ++ addition.names) (called ++ addition.pairs) := by
  cases addition with
  | node name => simpa [Addition.onto, Addition.names, Addition.pairs] using h.addNode name
  | call added => simpa [Addition.onto, Addition.names, Addition.pairs] using h.addCall added

theorem shows_ofAdditions (additions : List Addition) :
    Shows (ofAdditions additions) (additions.flatMap Addition.names)
      (additions.flatMap Addition.pairs) := by
  unfold ofAdditions
  suffices ∀ graph mentioned called, Shows graph mentioned called →
      Shows (additions.foldl Addition.onto graph) (mentioned ++ additions.flatMap Addition.names)
        (called ++ additions.flatMap Addition.pairs) from this empty [] [] shows_empty
  induction additions with
  | nil =>
    intro graph mentioned called h
    simpa using h
  | cons addition rest ih =>
    intro graph mentioned called h
    have all := ih _ _ _ (h.addition addition)
    rw [List.append_assoc, List.append_assoc] at all
    exact all

end CallGraph

end CallAtlas
