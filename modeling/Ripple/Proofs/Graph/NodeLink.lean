-- SUMMARY: Graphs of chains are read back from their nodes and links as they were.
import Ripple.Graph.NodeLink
import Ripple.Proofs.Fields
import Ripple.Proofs.Graph.Union
import Ripple.Proofs.Json.Scalar

/-!
# Graphs of chains as nodes and links

A graph of chains that is written as nodes and links is read back with all its nodes and edges, in
the order in which they are written.
-/

namespace Ripple

theorem ChainNode.id_injective : Function.Injective ChainNode.id := by
  intro first second h
  have hchars := congrArg String.toList h
  cases first <;> cases second <;> simp [id, String.toList_append] at hchars ⊢ <;>
    exact String.toList_inj.1 hchars

namespace ChainGraph

/-- No node and no edge is there twice, and the edges lead between the nodes. -/
structure IsSimple (graph : ChainGraph) : Prop where
  distinctNodes : (graph.nodes.map (·.1)).Nodup
  distinctEdges : (graph.edges.map (·.1)).Nodup
  ends : ∀ edge ∈ graph.edges,
    edge.1.1 ∈ graph.nodes.map (·.1) ∧ edge.1.2 ∈ graph.nodes.map (·.1)

theorem Holds.isSimple {graph : ChainGraph} {table : ChainNode} {chains : List CallChain}
    (h : graph.Holds table chains) : graph.IsSimple where
  distinctNodes := h.distinctNodes
  distinctEdges := h.distinctEdges
  ends := by
    rintro ⟨⟨source, target⟩, line?⟩ hedge
    obtain ⟨chain, hchain, hnamed⟩ := h.lined source target line? hedge
    have hstop {node : ChainNode} (hnode : node ∈ chain.stops) : node ∈ graph.nodes.map (·.1) :=
      (h.mem_nodes node).2 (.inr ⟨chain, hchain, hnode⟩)
    cases line? with
    | none =>
      obtain ⟨rfl, rfl⟩ := hnamed
      exact ⟨hstop (by simp [CallChain.stops]), (h.mem_nodes _).2 (.inl rfl)⟩
    | some line =>
      obtain ⟨i, hsource, htarget, -⟩ := hnamed
      exact ⟨hstop (List.mem_of_getElem? hsource), hstop (List.mem_of_getElem? htarget)⟩

/-! ## The order of the links -/

section
variable {graph : ChainGraph}

theorem links_eq : graph.links =
    graph.nodes.flatMap fun entry => graph.edges.filter (·.1.1 == entry.1) := rfl

theorem mem_links (h : graph.IsSimple) {link : (ChainNode × ChainNode) × Option Int} :
    link ∈ graph.links ↔ link ∈ graph.edges := by
  simp only [links_eq, List.mem_flatMap, List.mem_filter, beq_iff_eq]
  constructor
  · rintro ⟨_, -, hlink, -⟩
    exact hlink
  · intro hlink
    obtain ⟨entry, hentry, heq⟩ := List.mem_map.1 (h.ends link hlink).1
    exact ⟨entry, hentry, hlink, heq.symm⟩

theorem nodup_links (h : graph.IsSimple) : (graph.links.map (·.1)).Nodup := by
  rw [links_eq, List.map_flatMap, List.nodup_flatMap]
  constructor
  · intro entry _
    exact h.distinctEdges.sublist (List.filter_sublist.map _)
  · refine (List.pairwise_map.1 h.distinctNodes).imp fun {first second} hne => ?_
    -- the links of two nodes have different sources
    intro ends hfirst hsecond
    obtain ⟨edge, hedge, rfl⟩ := List.mem_map.1 hfirst
    obtain ⟨other, hother, heq⟩ := List.mem_map.1 hsecond
    have hsource := beq_iff_eq.1 (List.mem_filter.1 hedge).2
    have hsource' := beq_iff_eq.1 (List.mem_filter.1 hother).2
    exact hne (by rw [← hsource, ← hsource', heq])

/-- The links of a node are its edges. -/
theorem filter_links (h : graph.IsSimple) {entry : ChainNode × Bool}
    (hentry : entry ∈ graph.nodes) :
    graph.links.filter (·.1.1 == entry.1) = graph.edges.filter (·.1.1 == entry.1) := by
  have hblock (nodes : List (ChainNode × Bool)) (hnodes : (nodes.map (·.1)).Nodup) :
      (nodes.flatMap fun node => graph.edges.filter (·.1.1 == node.1)).filter (·.1.1 == entry.1) =
        if entry.1 ∈ nodes.map (·.1) then graph.edges.filter (·.1.1 == entry.1) else [] := by
    induction nodes with
    | nil => rfl
    | cons node nodes ih =>
      rw [List.map_cons, List.nodup_cons] at hnodes
      rw [List.flatMap_cons, List.filter_append, ih hnodes.2, List.filter_filter]
      -- the block of the entry stays whole and of any other nothing is left
      by_cases heq : node.1 = entry.1
      · rw [heq] at hnodes
        simp [heq, hnodes.1]
      · have hnone : graph.edges.filter (fun edge => edge.1.1 == entry.1 && edge.1.1 == node.1) =
            [] := by
          rw [List.filter_eq_nil_iff]
          intro edge _ hedge
          simp only [Bool.and_eq_true, beq_iff_eq] at hedge
          exact heq (hedge.2.symm.trans hedge.1)
        simp [hnone, Ne.symm heq]
  have hlinks := hblock graph.nodes h.distinctNodes
  rwa [if_pos (List.mem_map_of_mem hentry)] at hlinks

end

/-- The attributes of a node. -/
def nodeAttributes : ChainNode × Bool → Attributes
  | (.table name, _) => [("type", .str "table"), ("name", .str name)]
  | (.repository name, _) => [("type", .str "repository"), ("name", .str name)]
  | (.method name, entryPoint) => [("type", .str "method"), ("name", .str name),
      ("label", .str (Name.simpleMethod name)), ("entry_point", .bool entryPoint)]

/-- The attributes of an edge. -/
def linkAttributes : Option Int → Attributes
  | none => [("type", .str "touches_table")]
  | some line => [("type", .str "calls"), ("line", .int line)]

def linkedNode (entry : ChainNode × Bool) : Json × Attributes :=
  (.str entry.1.id, nodeAttributes entry)

def linkedEdge (link : (ChainNode × ChainNode) × Option Int) : LinkedEdge :=
  ⟨.str link.1.1.id, .str link.1.2.id, .null, linkAttributes link.2⟩

/-- The graph as one of nodes and links. -/
def linked (graph : ChainGraph) : NodeLinkGraph where
  directed := true
  parallel := false
  nodes := graph.nodes.map linkedNode
  edges := graph.links.map linkedEdge

end ChainGraph

/-! ## Reading -/

/-- A value that is found under a key and put there again changes nothing. -/
theorem putField_of_find? {α β : Type} [BEq α] {key : α} {fields : List (α × β)} {field : α × β}
    (h : fields.find? (·.1 == key) = some field) : putField key field.2 fields = fields := by
  induction fields with
  | nil => cases h
  | cons first fields ih =>
    obtain ⟨k, v⟩ := first
    rw [putField]
    cases hkey : k == key with
    | true =>
      simp only [List.find?_cons, hkey, Option.some.injEq] at h
      rw [if_pos rfl, ← h]
    | false =>
      simp only [List.find?_cons, hkey] at h
      rw [if_neg Bool.false_ne_true, ih h]

/-- A key that is not found goes to the end. -/
theorem putField_of_find?_eq_none {α β : Type} [BEq α] {key : α} (value : β)
    {fields : List (α × β)} (h : fields.find? (·.1 == key) = none) :
    putField key value fields = fields ++ [(key, value)] := by
  induction fields with
  | nil => rfl
  | cons first fields ih =>
    obtain ⟨k, v⟩ := first
    rw [putField]
    cases hkey : k == key with
    | true => simp [hkey] at h
    | false =>
      simp only [List.find?_cons, hkey] at h
      rw [if_neg Bool.false_ne_true, ih h]
      rfl

namespace NodeLinkGraph

open ChainGraph

variable {graph : NodeLinkGraph}

theorem addNode_of_find? {id : Json} {node : Json × Attributes}
    (h : graph.nodes.find? (·.1 == id) = some node) : graph.addNode id [] = graph := by
  have hnodes : putField id node.2 graph.nodes = graph.nodes := putField_of_find? h
  unfold addNode
  dsimp only
  rw [h]
  exact congrArg (fun nodes => { graph with nodes }) hnodes

theorem find?_linkedNode {nodes : List (ChainNode × Bool)} {node : ChainNode} :
    (nodes.map linkedNode).find? (·.1 == .str node.id) =
      (nodes.find? (·.1 == node)).map linkedNode := by
  rw [List.find?_map]
  congr 2
  funext entry
  exact (Json.beq_str _ _).trans (by simp [ChainNode.id_injective.eq_iff])

/-- A node that is new comes after the others. -/
theorem readNode_nodeJson {nodes : List (ChainNode × Bool)}
    (hgraph : graph.nodes = nodes.map linkedNode) {entry : ChainNode × Bool}
    (hnew : entry.1 ∉ nodes.map (·.1)) (position : Nat) :
    graph.readNode (nodeJson entry, position) =
      .ok { graph with nodes := (nodes ++ [entry]).map linkedNode } := by
  have hread : graph.readNode (nodeJson entry, position) =
      .ok (graph.addNode (.str entry.1.id) (nodeAttributes entry)) := by
    obtain ⟨node, entryPoint⟩ := entry
    cases node <;> simp [readNode, nodeJson, fieldsExcept, nodeNames, Json.field?, checkId,
      isNodeId, nodeAttributes, bind, Except.bind, pure, Except.pure]
  have hmerge : merge [] (nodeAttributes entry) = nodeAttributes entry := by
    obtain ⟨node, entryPoint⟩ := entry
    cases node <;> simp [merge, nodeAttributes, putField]
  have hnone : nodes.find? (·.1 == entry.1) = none := by
    rw [List.find?_eq_none]
    intro other hother heq
    exact hnew (List.mem_map.2 ⟨other, hother, by simpa using heq⟩)
  have hput : putField (Json.str entry.1.id) (nodeAttributes entry) (nodes.map linkedNode) =
      nodes.map linkedNode ++ [linkedNode entry] :=
    putField_of_find?_eq_none _ (by rw [find?_linkedNode, hnone]; rfl)
  rw [hread, addNode, hgraph, find?_linkedNode, hnone]
  dsimp only [Option.map_none, Option.getD_none]
  rw [hmerge, hput, List.map_append, List.map_singleton]

theorem foldlM_readNode {nodes later : List (ChainNode × Bool)}
    (hgraph : graph.nodes = nodes.map linkedNode) (hnodup : ((nodes ++ later).map (·.1)).Nodup)
    (position : Nat) :
    ((later.map nodeJson).zipIdx position).foldlM readNode graph =
      .ok { graph with nodes := (nodes ++ later).map linkedNode } := by
  induction later generalizing graph nodes position with
  | nil =>
    rw [List.append_nil, ← hgraph]
    rfl
  | cons entry later ih =>
    have hnew : entry.1 ∉ nodes.map (·.1) := by
      rw [List.map_append, List.nodup_append] at hnodup
      exact fun hmem => hnodup.2.2 _ hmem _ (by simp) rfl
    rw [List.append_cons] at hnodup ⊢
    rw [List.map_cons, List.zipIdx_cons, List.foldlM_cons, readNode_nodeJson hgraph hnew]
    exact ih rfl hnodup (position + 1)

theorem joins_linkedEdge (hdirected : graph.directed = true) (source target : ChainNode)
    (link : (ChainNode × ChainNode) × Option Int) :
    graph.joins (.str source.id) (.str target.id) (linkedEdge link) =
      (link.1 == (source, target)) := by
  simp only [joins, linkedEdge, hdirected, Json.beq_str, Bool.not_true, Bool.false_and,
    Bool.or_false]
  rw [Bool.eq_iff_iff]
  simp [ChainNode.id_injective.eq_iff, Prod.ext_iff]

/-- A link between nodes that are there, and that no other joins, comes after the others. -/
theorem readLink_linkJson {nodes : List (ChainNode × Bool)}
    {links : List ((ChainNode × ChainNode) × Option Int)}
    (hdirected : graph.directed = true) (hparallel : graph.parallel = false)
    (hnodes : graph.nodes = nodes.map linkedNode) (hedges : graph.edges = links.map linkedEdge)
    {link : (ChainNode × ChainNode) × Option Int} (hsource : link.1.1 ∈ nodes.map (·.1))
    (htarget : link.1.2 ∈ nodes.map (·.1)) (hnew : link.1 ∉ links.map (·.1)) :
    graph.readLink (linkJson link) =
      .ok { graph with edges := (links ++ [link]).map linkedEdge } := by
  have hread : graph.readLink (linkJson link) = .ok (graph.addEdge (.str link.1.1.id)
      (.str link.1.2.id) .null (linkAttributes link.2)) := by
    obtain ⟨⟨source, target⟩, line?⟩ := link
    cases line? <;> simp [readLink, linkJson, Json.required, Json.field?, hparallel, fieldsExcept,
      edgeNames, readEnd, checkId, isNodeId, Json.isKey, linkAttributes, bind, Except.bind, pure,
      Except.pure]
  -- a link adds its ends as nodes, which changes nothing if they are there
  have hold {node : ChainNode} (hnode : node ∈ nodes.map (·.1)) :
      graph.addNode (.str node.id) [] = graph := by
    obtain ⟨entry, hentry⟩ : ∃ entry, nodes.find? (·.1 == node) = some entry := by
      rw [← Option.isSome_iff_exists, List.find?_isSome]
      obtain ⟨entry, hentry, heq⟩ := List.mem_map.1 hnode
      exact ⟨entry, hentry, by simpa using heq⟩
    have hfind : graph.nodes.find? (·.1 == .str node.id) = some (linkedNode entry) := by
      rw [hnodes, find?_linkedNode, hentry]
      rfl
    exact addNode_of_find? hfind
  have hnone : (links.map linkedEdge).any (fun edge =>
      graph.joins (.str link.1.1.id) (.str link.1.2.id) edge && edge.key == .null) = false := by
    rw [List.any_map, List.any_eq_false]
    intro other hother hsame
    rw [Function.comp_apply, joins_linkedEdge hdirected, Bool.and_eq_true, beq_iff_eq] at hsame
    exact hnew (List.mem_map.2 ⟨other, hother, hsame.1⟩)
  rw [hread]
  unfold addEdge
  rw [hold hsource, hold htarget]
  simp only [hparallel, Bool.false_and, Bool.false_eq_true, if_false, hedges, hnone,
    List.map_append]
  rfl

theorem foldlM_readLink {nodes : List (ChainNode × Bool)}
    {links later : List ((ChainNode × ChainNode) × Option Int)}
    (hdirected : graph.directed = true) (hparallel : graph.parallel = false)
    (hnodes : graph.nodes = nodes.map linkedNode) (hedges : graph.edges = links.map linkedEdge)
    (hends : ∀ link ∈ later, link.1.1 ∈ nodes.map (·.1) ∧ link.1.2 ∈ nodes.map (·.1))
    (hnodup : ((links ++ later).map (·.1)).Nodup) :
    (later.map linkJson).foldlM readLink graph =
      .ok { graph with edges := (links ++ later).map linkedEdge } := by
  induction later generalizing graph links with
  | nil =>
    rw [List.append_nil, ← hedges]
    rfl
  | cons link later ih =>
    obtain ⟨⟨hsource, htarget⟩, hrest⟩ := List.forall_mem_cons.1 hends
    have hnew : link.1 ∉ links.map (·.1) := by
      rw [List.map_append, List.nodup_append] at hnodup
      exact fun hmem => hnodup.2.2 _ hmem _ (by simp) rfl
    rw [List.append_cons] at hnodup ⊢
    rw [List.map_cons, List.foldlM_cons,
      readLink_linkJson hdirected hparallel hnodes hedges hsource htarget hnew]
    exact ih hdirected hparallel hnodes rfl hrest hnodup

/-- A graph of chains is read as it was written. -/
theorem ofJson_toJson {graph : ChainGraph} (h : graph.IsSimple) :
    ofJson graph.toJson = .ok graph.linked := by
  let empty : NodeLinkGraph := { directed := true, parallel := false }
  let listed : NodeLinkGraph := { empty with nodes := graph.nodes.map linkedNode }
  have hnodes : ((graph.nodes.map nodeJson).zipIdx 0).foldlM readNode empty = .ok listed :=
    foldlM_readNode (by rfl : empty.nodes = [].map linkedNode) h.distinctNodes 0
  have hlinks : (graph.links.map linkJson).foldlM readLink listed = .ok graph.linked :=
    foldlM_readLink rfl rfl rfl (by rfl : listed.edges = [].map linkedEdge)
      (fun link hlink => h.ends link ((mem_links h).1 hlink)) (nodup_links h)
  have hread : ofJson graph.toJson = (do
      let listed ← ((graph.nodes.map nodeJson).zipIdx 0).foldlM readNode empty
      (graph.links.map linkJson).foldlM readLink listed) := by
    simp [ofJson, toJson, Json.field?, Json.required, Json.items, Json.isEmpty, bind, Except.bind,
      empty]
  rw [hread, hnodes]
  exact hlinks

/-! ## The order of the edges -/

theorem edgeList_of_directed (hdirected : graph.directed = true) (earlier nodes : List Json) :
    graph.edgeList earlier nodes = nodes.flatMap (graph.edgesFrom []) := by
  induction nodes generalizing earlier with
  | nil => rfl
  | cons node nodes ih =>
    rw [edgeList, ih, List.flatMap_cons, edgesFrom, edgesFrom]
    simp only [hdirected, Bool.true_or]

/-- A link as an edge of the graph that is read. -/
def shownLink (link : (ChainNode × ChainNode) × Option Int) : Json × Json × Attributes :=
  (.str link.1.1.id, .str link.1.2.id, linkAttributes link.2)

theorem neighbours_linked {graph : ChainGraph} (h : graph.IsSimple) (node : ChainNode) :
    graph.linked.neighbours (.str node.id) =
      (graph.links.filter (·.1.1 == node)).map fun link => .str link.1.2.id := by
  have htargets (links : List ((ChainNode × ChainNode) × Option Int)) :
      ((links.map linkedEdge).filterMap fun edge =>
        if edge.source == .str node.id then some edge.target
        else if !true && edge.target == .str node.id then some edge.source
        else none) = (links.filter (·.1.1 == node)).map fun link => .str link.1.2.id := by
    induction links with
    | nil => rfl
    | cons link links ih =>
      have hsource : ((linkedEdge link).source == .str node.id) = (link.1.1 == node) := by
        rw [Bool.eq_iff_iff]
        simp [linkedEdge, Json.beq_str, ChainNode.id_injective.eq_iff]
      rw [List.map_cons, List.filterMap_cons, hsource, List.filter_cons, ih]
      cases link.1.1 == node <;> rfl
  refine (congrArg List.eraseDups (htargets graph.links)).trans (eraseDups_of_pairwise ?_)
  rw [List.pairwise_map]
  -- links from one node to one node are the same
  refine ((List.pairwise_map.1 (nodup_links h)).sublist List.filter_sublist).imp_of_mem ?_
  intro first later hfirst hlater hne
  have hsource := beq_iff_eq.1 (List.mem_filter.1 hfirst).2
  have hsource' := beq_iff_eq.1 (List.mem_filter.1 hlater).2
  rw [Json.beq_str, beq_eq_false_iff_ne]
  intro heq
  exact hne (Prod.ext (hsource.trans hsource'.symm) (ChainNode.id_injective heq).symm)

theorem filter_beq_of_nodup {α β : Type} [BEq α] [LawfulBEq α] {fields : List (α × β)}
    (h : (fields.map (·.1)).Nodup) {field : α × β} (hmem : field ∈ fields) :
    fields.filter (·.1 == field.1) = [field] := by
  induction fields with
  | nil => cases hmem
  | cons first fields ih =>
    rw [List.map_cons, List.nodup_cons] at h
    obtain rfl | hlater := List.mem_cons.1 hmem
    · have hnone : fields.filter (·.1 == field.1) = [] := by
        rw [List.filter_eq_nil_iff]
        intro other hother heq
        exact h.1 (List.mem_map.2 ⟨other, hother, beq_iff_eq.1 heq⟩)
      rw [List.filter_cons, if_pos (beq_self_eq_true _), hnone]
    · have hne : ¬(first.1 == field.1) = true := by
        rw [beq_iff_eq]
        exact fun heq => h.1 (List.mem_map.2 ⟨field, hlater, heq.symm⟩)
      rw [List.filter_cons, if_neg hne, ih h.2 hlater]

theorem edgesFrom_linked {graph : ChainGraph} (h : graph.IsSimple) (node : ChainNode) :
    graph.linked.edgesFrom [] (.str node.id) =
      (graph.links.filter (·.1.1 == node)).map shownLink := by
  have hother {link : (ChainNode × ChainNode) × Option Int}
      (hlink : link ∈ graph.links.filter (·.1.1 == node)) :
      (graph.linked.edges.filter (graph.linked.joins (.str node.id) (.str link.1.2.id))).map
        (fun edge => (Json.str node.id, Json.str link.1.2.id, edge.attributes)) =
          [shownLink link] := by
    obtain ⟨hmem, hsource⟩ := List.mem_filter.1 hlink
    obtain rfl := beq_iff_eq.1 hsource
    have hjoins : graph.linked.joins (.str link.1.1.id) (.str link.1.2.id) ∘ linkedEdge =
        fun other => other.1 == link.1 :=
      funext fun other => joins_linkedEdge rfl link.1.1 link.1.2 other
    have hedges : graph.linked.edges = graph.links.map linkedEdge := rfl
    rw [hedges, List.filter_map, hjoins, filter_beq_of_nodup (nodup_links h) hmem]
    rfl
  have hkept (others : List Json) :
      others.filter (fun other => graph.linked.directed || !([] : List Json).contains other) =
        others :=
    List.filter_eq_self.2 fun _ _ => rfl
  rw [edgesFrom, neighbours_linked h, hkept, List.flatMap_map,
    List.flatMap_congr fun link hlink => hother hlink]
  exact List.map_eq_flatMap.symm

/-- The edges are in the order of the links. -/
theorem allEdges_linked {graph : ChainGraph} (h : graph.IsSimple) :
    graph.linked.allEdges = graph.links.map shownLink := by
  have hnodes : graph.linked.nodes.map (·.1) = graph.nodes.map fun entry => .str entry.1.id := by
    rw [linked, List.map_map]
    rfl
  rw [allEdges, edgeList_of_directed rfl, hnodes, List.flatMap_map]
  conv_rhs => rw [links_eq, List.map_flatMap]
  refine List.flatMap_congr fun entry hentry => ?_
  rw [edgesFrom_linked h, filter_links h hentry]

end NodeLinkGraph

end Ripple
