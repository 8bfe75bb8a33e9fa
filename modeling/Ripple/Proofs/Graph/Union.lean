-- SUMMARY: The graph of a result is the union of its chains, with entry points that are told rightly.
import Ripple.Graph.Chains
import Ripple.Proofs.Chain.Hops
import Ripple.Proofs.Impact.Affected
import Mathlib.Logic.Relation

/-!
# The graph of a result is the union of its chains

Adding a node or an edge again replaces what is known about it, so of all that the chains say about
a method only the last is kept. Whether the method is an entry point is still told rightly: a search
goes on above a method or ends there, and which of them does not depend on where it began.
-/

namespace Ripple

section
variable {α β : Type} [BEq α] [LawfulBEq α]

/-- Puts values under their keys, one after the other. -/
def putAll (entries fields : List (α × β)) : List (α × β) :=
  entries.foldl (fun fields entry => putField entry.1 entry.2 fields) fields

variable {entries fields : List (α × β)}

theorem mem_keys_putField {key other : α} {value : β} :
    other ∈ (putField key value fields).map (·.1) ↔ other = key ∨ other ∈ fields.map (·.1) := by
  by_cases hkey : key ∈ fields.map (·.1)
  · rw [keys_putField_of_mem value hkey]
    exact ⟨.inr, fun h => h.elim (fun heq => heq ▸ hkey) id⟩
  · rw [putField_of_notMem value hkey, List.map_append, List.mem_append, or_comm]
    simp

theorem nodup_keys_putAll (h : (fields.map (·.1)).Nodup) :
    ((putAll entries fields).map (·.1)).Nodup := by
  induction entries generalizing fields with
  | nil => exact h
  | cons entry entries ih => exact ih (nodup_keys_putField entry.1 entry.2 h)

theorem mem_keys_putAll {key : α} : key ∈ (putAll entries fields).map (·.1) ↔
    key ∈ entries.map (·.1) ∨ key ∈ fields.map (·.1) := by
  induction entries generalizing fields with
  | nil => simp [putAll]
  | cons entry entries ih =>
    have hcons : putAll (entry :: entries) fields =
        putAll entries (putField entry.1 entry.2 fields) := rfl
    rw [hcons, ih, mem_keys_putField, List.map_cons, List.mem_cons]
    tauto

/-- What is there in the end was put there or was there before. -/
theorem mem_of_mem_putAll {field : α × β} (h : field ∈ putAll entries fields) :
    field ∈ entries ∨ field ∈ fields := by
  induction entries generalizing fields with
  | nil => exact .inr h
  | cons entry entries ih =>
    obtain hlater | hput := ih h
    · exact .inl (List.mem_cons_of_mem _ hlater)
    · exact (mem_putField hput).imp_left fun heq => by rw [heq]; exact List.mem_cons_self

end

namespace CallChain

/-- The nodes along a chain: its methods from the outermost on, and the repository method. -/
def stops (chain : CallChain) : List ChainNode :=
  chain.path.map .method ++ [.repository chain.method]

/-- A call along a chain: from one node to the next, on the line that the chain has for it. -/
def IsHop (chain : CallChain) (source target : ChainNode) (line : Int) : Prop :=
  ∃ i : Nat, chain.stops[i]? = some source ∧ chain.stops[i + 1]? = some target ∧
    chain.lines[i]? = some line

/-- What a chain to a table says about an edge: that it is a call on a line, or that a repository
method touches the table. -/
def Says (table : ChainNode) (chain : CallChain) (source target : ChainNode) :
    Option Int → Prop
  | none => source = .repository chain.method ∧ target = table
  | some line => chain.IsHop source target line

end CallChain

namespace ChainGraph

/-! ## One chain -/

/-- The calls along a path are those from one node to the next, if every caller has a line. -/
theorem pathCalls_of_length (last : ChainNode) {path : List String} {lines : List Int}
    (h : path.length ≤ lines.length) :
    ∃ calls, pathCalls last path lines = .ok calls ∧ ∀ source target line,
      (source, target, line) ∈ calls ↔ ∃ i : Nat, (path.map .method ++ [last])[i]? = some source ∧
        (path.map .method ++ [last])[i + 1]? = some target ∧ lines[i]? = some line := by
  induction path generalizing lines with
  | nil => exact ⟨[], rfl, by simp⟩
  | cons name rest ih =>
    obtain ⟨first, lines, rfl⟩ := List.exists_cons_of_ne_nil (List.ne_nil_of_length_pos
      (Nat.lt_of_lt_of_le (Nat.succ_pos _) h))
    obtain ⟨calls, hcalls, hmem⟩ := ih (Nat.le_of_succ_le_succ h)
    -- the first call leads to whatever comes next
    obtain ⟨next, hnext, hfirst⟩ : ∃ next, (rest.map .method ++ [last])[0]? = some next ∧
        pathCalls last (name :: rest) (first :: lines) =
          .ok ((.method name, next, first) :: calls) := by
      cases rest with
      | nil => exact ⟨last, rfl, by rw [pathCalls, hcalls]; rfl⟩
      | cons other rest => exact ⟨.method other, rfl, by rw [pathCalls, hcalls]; rfl⟩
    refine ⟨_, hfirst, ?_⟩
    intro source target line
    rw [List.mem_cons, hmem]
    constructor
    · rintro (heq | ⟨i, hsource, htarget, hline⟩)
      · cases heq
        exact ⟨0, rfl, hnext, rfl⟩
      · exact ⟨i + 1, hsource, htarget, hline⟩
    · rintro ⟨i, hsource, htarget, hline⟩
      cases i with
      | zero =>
        cases hsource
        cases hline
        cases hnext.symm.trans htarget
        exact .inl rfl
      | succ i => exact .inr ⟨i, hsource, htarget, hline⟩

theorem length_le_of_pathCalls {last : ChainNode} {path : List String} {lines : List Int}
    {calls : List (ChainNode × ChainNode × Int)} (h : pathCalls last path lines = .ok calls) :
    path.length ≤ lines.length := by
  induction path generalizing lines calls with
  | nil => exact Nat.zero_le _
  | cons name rest ih =>
    cases lines with
    | nil => cases h
    | cons line lines =>
      unfold pathCalls at h
      obtain ⟨later, hlater, -⟩ := bind_eq_ok.1 h
      exact Nat.succ_le_succ (ih hlater)

/-- What a chain puts into a graph. -/
theorem addChain_eq {table : ChainNode} {chain : CallChain}
    {calls : List (ChainNode × ChainNode × Int)}
    (h : pathCalls (.repository chain.method) chain.path chain.lines = .ok calls)
    (graph : ChainGraph) :
    addChain table graph chain = .ok {
      nodes := putAll ((.repository chain.method, false) :: pathNodes chain.path) graph.nodes
      edges := putAll (((.repository chain.method, table), none) ::
        calls.map fun call => ((call.1, call.2.1), some call.2.2)) graph.edges } := by
  have hnodes (entries : List (ChainNode × Bool)) (graph : ChainGraph) :
      entries.foldl (fun graph entry => graph.addNode entry.1 entry.2) graph =
        { graph with nodes := putAll entries graph.nodes } := by
    induction entries generalizing graph with
    | nil => rfl
    | cons entry entries ih => exact ih (graph.addNode entry.1 entry.2)
  have hedges (graph : ChainGraph) : calls.foldl
      (fun graph call => graph.addEdge call.1 call.2.1 (some call.2.2)) graph =
        { graph with
          edges := putAll (calls.map fun call => ((call.1, call.2.1), some call.2.2))
            graph.edges } := by
    clear h
    induction calls generalizing graph with
    | nil => rfl
    | cons call calls ih => exact ih (graph.addEdge call.1 call.2.1 (some call.2.2))
  unfold addChain
  dsimp only
  rw [h]
  refine congrArg Except.ok ((hedges _).trans ?_)
  rw [hnodes]
  rfl

/-! ## All chains -/

/-- A graph holds a table and some chains: their nodes and edges and nothing else, with what the
chains say about them. -/
structure Holds (graph : ChainGraph) (table : ChainNode) (chains : List CallChain) : Prop where
  distinctNodes : (graph.nodes.map (·.1)).Nodup
  distinctEdges : (graph.edges.map (·.1)).Nodup
  mem_nodes (node : ChainNode) :
    node ∈ graph.nodes.map (·.1) ↔ node = table ∨ ∃ chain ∈ chains, node ∈ chain.stops
  marked (name : String) (entryPoint : Bool) (h : (.method name, entryPoint) ∈ graph.nodes) :
    ∃ chain ∈ chains, (.method name, entryPoint) ∈ pathNodes chain.path
  mem_edges (source target : ChainNode) : (source, target) ∈ graph.edges.map (·.1) ↔
    ∃ chain ∈ chains, ∃ line?, chain.Says table source target line?
  lined (source target : ChainNode) (line? : Option Int)
    (h : ((source, target), line?) ∈ graph.edges) :
    ∃ chain ∈ chains, chain.Says table source target line?
  lengths : ∀ chain ∈ chains, chain.path.length ≤ chain.lines.length

theorem keys_pathNodes (path : List String) : (pathNodes path).map (·.1) = path.map .method := by
  cases path with
  | nil => rfl
  | cons first rest => simp [pathNodes, Function.comp_def]

theorem holds_table (name : String) : (addNode {} (.table name) false).Holds (.table name) [] where
  distinctNodes := List.nodup_singleton _
  distinctEdges := List.nodup_nil
  mem_nodes node := by simp [addNode, putField]
  marked name entryPoint h := by simp [addNode, putField] at h
  mem_edges source target := by simp [addNode]
  lined source target line? h := by simp [addNode] at h
  lengths := by simp

section
variable {graph graph' : ChainGraph} {table : ChainNode} {before chains : List CallChain}
  {chain : CallChain}

/-- A chain that is added is held beside the others. -/
theorem holds_addChain (h : graph.Holds table before)
    (hadd : addChain table graph chain = .ok graph') : graph'.Holds table (before ++ [chain]) := by
  obtain ⟨_, hcalls, -⟩ := bind_eq_ok.1 hadd
  have hlength := length_le_of_pathCalls hcalls
  obtain ⟨calls, hcalls, hmem⟩ := pathCalls_of_length (.repository chain.method) hlength
  rw [addChain_eq hcalls] at hadd
  cases hadd
  have hnodes : ((.repository chain.method, false) :: pathNodes chain.path).map (·.1) =
      .repository chain.method :: chain.path.map .method := by
    rw [List.map_cons, keys_pathNodes]
  have hnamed (source target : ChainNode) (line? : Option Int) :
      ((source, target), line?) ∈ ((.repository chain.method, table), none) ::
          calls.map (fun call => ((call.1, call.2.1), some call.2.2)) ↔
        chain.Says table source target line? := by
    rw [List.mem_cons, List.mem_map]
    cases line? with
    | none => simp [CallChain.Says]
    | some line =>
      rw [CallChain.Says, CallChain.IsHop, CallChain.stops, ← hmem]
      simp
  have hlast {property : CallChain → Prop} :
      (∃ other ∈ before ++ [chain], property other) ↔
        property chain ∨ ∃ other ∈ before, property other := by
    simp [or_and_right, exists_or, or_comm]
  refine ⟨nodup_keys_putAll h.distinctNodes, nodup_keys_putAll h.distinctEdges, ?_, ?_, ?_, ?_, ?_⟩
  · intro node
    rw [mem_keys_putAll, hnodes, h.mem_nodes, hlast, CallChain.stops]
    simp only [List.mem_cons, List.mem_append, List.not_mem_nil, or_false]
    tauto
  · intro name entryPoint hnode
    rw [hlast]
    obtain hnew | hold := mem_of_mem_putAll hnode
    · exact .inl (by simpa using hnew)
    · exact .inr (h.marked name entryPoint hold)
  · intro source target
    rw [mem_keys_putAll, h.mem_edges, hlast]
    refine or_congr_left ?_
    rw [List.mem_map]
    constructor
    · rintro ⟨⟨ends, line?⟩, hedge, rfl⟩
      exact ⟨line?, (hnamed _ _ _).1 hedge⟩
    · rintro ⟨line?, hedge⟩
      exact ⟨_, (hnamed _ _ _).2 hedge, rfl⟩
  · intro source target line? hedge
    rw [hlast]
    exact (mem_of_mem_putAll hedge).imp (hnamed _ _ _).1 (h.lined source target line?)
  · intro other hother
    obtain hold | hnew := List.mem_append.1 hother
    · exact h.lengths other hold
    · rwa [List.mem_singleton.1 hnew]

theorem holds_foldlM (h : graph.Holds table before)
    (hadd : chains.foldlM (addChain table) graph = .ok graph') :
    graph'.Holds table (before ++ chains) := by
  induction chains generalizing graph before with
  | nil =>
    cases hadd
    rwa [List.append_nil]
  | cons chain chains ih =>
    obtain ⟨next, hnext, hrest⟩ := bind_eq_ok.1 hadd
    have hlater := ih (holds_addChain h hnext) hrest
    rwa [List.append_assoc] at hlater

/-- Whatever the graph of a result is, it holds the table and the chains. -/
theorem holds_of_ofResult {result : ImpactResult ν} (h : ofResult result = .ok graph) :
    graph.Holds (.table result.table) result.chains :=
  holds_foldlM (holds_table result.table) h

/-- Chains can be added if every caller has a line. -/
theorem exists_foldlM (h : ∀ chain ∈ chains, chain.path.length ≤ chain.lines.length)
    (start : ChainGraph) : ∃ graph, chains.foldlM (addChain table) start = .ok graph := by
  induction chains generalizing start with
  | nil => exact ⟨start, rfl⟩
  | cons chain chains ih =>
    obtain ⟨hchain, hrest⟩ := List.forall_mem_cons.1 h
    obtain ⟨calls, hcalls, -⟩ := pathCalls_of_length (.repository chain.method) hchain
    obtain ⟨graph, hgraph⟩ := ih hrest _
    exact ⟨graph, bind_eq_ok.2 ⟨_, addChain_eq hcalls start, hgraph⟩⟩

end

/-! ## Ways to the table -/

/-- The edges of a graph, whatever they stand for. -/
def Joins (graph : ChainGraph) (source target : ChainNode) : Prop :=
  (source, target) ∈ graph.edges.map (·.1)

section
variable {graph : ChainGraph} {table : ChainNode} {chains : List CallChain} {chain : CallChain}

/-- Along a chain every node leads to the repository method, and from there to the table. -/
theorem Holds.reaches_of_mem_stops (h : graph.Holds table chains) (hchain : chain ∈ chains)
    {node : ChainNode} (hnode : node ∈ chain.stops) :
    Relation.ReflTransGen graph.Joins node table := by
  have hlines := h.lengths chain hchain
  obtain ⟨i, hi⟩ := List.mem_iff_getElem?.1 hnode
  have hlength : chain.stops.length = chain.path.length + 1 := by simp [CallChain.stops]
  obtain ⟨hlt, -⟩ := List.getElem?_eq_some_iff.1 hi
  -- the induction is on the number of nodes that are left up to the repository method
  induction hleft : chain.path.length - i generalizing i node with
  | zero =>
    obtain rfl : i = chain.path.length := by omega
    obtain rfl : .repository chain.method = node := by simpa [CallChain.stops] using hi
    exact .single ((h.mem_edges _ _).2 ⟨chain, hchain, none, rfl, rfl⟩)
  | succ left ih =>
    have hnext : chain.stops[i + 1]? = some chain.stops[i + 1] := List.getElem?_eq_getElem _
    have hline : chain.lines[i]? = some chain.lines[i] := List.getElem?_eq_getElem _
    refine .head ((h.mem_edges _ _).2 ⟨chain, hchain, some chain.lines[i], i, hi, hnext, hline⟩) ?_
    exact ih (List.getElem_mem _) (i + 1) hnext (by omega) (by omega)

theorem Holds.reaches (h : graph.Holds table chains) {node : ChainNode}
    (hnode : node ∈ graph.nodes.map (·.1)) : Relation.ReflTransGen graph.Joins node table := by
  obtain rfl | ⟨chain, hchain, hstop⟩ := (h.mem_nodes node).1 hnode
  · exact .refl
  · exact h.reaches_of_mem_stops hchain hstop

end

/-- The graph is the union of the chains of a result. Its nodes are the table, the repository
methods and the methods on the paths, its edges the calls along the chains and the ones from
repository methods to the table. From every node there is a way to the table, and the methods marked
as entry points are the outermost of chains. -/
structure IsUnion (graph : ChainGraph) (result : ImpactResult ν) : Prop where
  distinctNodes : (graph.nodes.map (·.1)).Nodup
  nodes (node : ChainNode) : node ∈ graph.nodes.map (·.1) ↔ node = .table result.table ∨
    ∃ chain ∈ result.chains,
      node = .repository chain.method ∨ ∃ name ∈ chain.path, node = .method name
  distinctEdges : (graph.edges.map (·.1)).Nodup
  touches (source target : ChainNode) : ((source, target), none) ∈ graph.edges ↔
    ∃ chain ∈ result.chains, source = .repository chain.method ∧ target = .table result.table
  calls (source target : ChainNode) : (∃ line, ((source, target), some line) ∈ graph.edges) ↔
    ∃ chain ∈ result.chains, ∃ line, chain.IsHop source target line
  lines (source target : ChainNode) (line : Int) (h : ((source, target), some line) ∈ graph.edges) :
    ∃ chain ∈ result.chains, chain.IsHop source target line
  reaches (node : ChainNode) (h : node ∈ graph.nodes.map (·.1)) :
    Relation.ReflTransGen graph.Joins node (.table result.table)
  entryPoints (name : String) (entryPoint : Bool) (h : (.method name, entryPoint) ∈ graph.nodes) :
    entryPoint = true ↔ ∃ chain ∈ result.chains, chain.path.head? = some name

/-- No chain begins at a method that another goes through. -/
def EntriesApart (chains : List CallChain) : Prop :=
  ∀ chain ∈ chains, ∀ name ∈ chain.path.tail, ∀ other ∈ chains, other.path.head? ≠ some name

theorem mem_stops {chain : CallChain} {node : ChainNode} : node ∈ chain.stops ↔
    node = .repository chain.method ∨ ∃ name ∈ chain.path, node = .method name := by
  simp [CallChain.stops, or_comm, eq_comm]

/-- A call is made by a method, and a repository method is none. -/
theorem isHop_ne_repository {chain : CallChain} {source target : ChainNode} {line : Int}
    (h : chain.IsHop source target line) (name : String) : source ≠ .repository name := by
  obtain ⟨i, hsource, htarget, -⟩ := h
  obtain ⟨hlt, -⟩ := List.getElem?_eq_some_iff.1 htarget
  have hi : i < (chain.path.map ChainNode.method).length := by
    simpa [CallChain.stops] using hlt
  rw [CallChain.stops, List.getElem?_append_left hi, List.getElem?_map] at hsource
  obtain ⟨caller, -, rfl⟩ := Option.map_eq_some_iff.1 hsource
  nofun

theorem mem_pathNodes {path : List String} {name : String} {entryPoint : Bool} :
    (.method name, entryPoint) ∈ pathNodes path ↔
      entryPoint = true ∧ path.head? = some name ∨ entryPoint = false ∧ name ∈ path.tail := by
  cases path with
  | nil => simp [pathNodes]
  | cons first rest => simp [pathNodes, and_comm, eq_comm]

theorem Holds.isUnion {graph : ChainGraph} {result : ImpactResult ν}
    (h : graph.Holds (.table result.table) result.chains)
    (hapart : EntriesApart result.chains) : graph.IsUnion result where
  distinctNodes := h.distinctNodes
  nodes node := by simp only [h.mem_nodes, mem_stops]
  distinctEdges := h.distinctEdges
  touches source target := by
    refine ⟨h.lined source target none, ?_⟩
    rintro ⟨chain, hchain, rfl, rfl⟩
    obtain ⟨⟨ends, line?⟩, hedge, rfl⟩ := List.mem_map.1
      ((h.mem_edges _ _).2 ⟨chain, hchain, none, rfl, rfl⟩)
    cases line? with
    | none => exact hedge
    | some line =>
      obtain ⟨other, -, hhop⟩ := h.lined _ _ _ hedge
      exact absurd rfl (isHop_ne_repository hhop chain.method)
  calls source target := by
    constructor
    · rintro ⟨line, hedge⟩
      obtain ⟨chain, hchain, hhop⟩ := h.lined _ _ _ hedge
      exact ⟨chain, hchain, line, hhop⟩
    · rintro ⟨chain, hchain, line, hhop⟩
      obtain ⟨⟨ends, line?⟩, hedge, rfl⟩ := List.mem_map.1
        ((h.mem_edges _ _).2 ⟨chain, hchain, some line, hhop⟩)
      cases line? with
      | none =>
        obtain ⟨other, -, hsource, -⟩ := h.lined _ _ _ hedge
        exact absurd hsource (isHop_ne_repository hhop other.method)
      | some kept => exact ⟨kept, hedge⟩
  lines source target line := h.lined source target (some line)
  reaches _ := h.reaches
  entryPoints name entryPoint hnode := by
    obtain ⟨chain, hchain, hmark⟩ := h.marked name entryPoint hnode
    obtain ⟨rfl, hhead⟩ | ⟨rfl, htail⟩ := mem_pathNodes.1 hmark
    · exact iff_of_true rfl ⟨chain, hchain, hhead⟩
    · refine iff_of_false Bool.false_ne_true ?_
      rintro ⟨other, hother, hhead⟩
      exact hapart chain hchain name htail other hother hhead

end ChainGraph

/-! ## The chains of an analysis -/

namespace ChainSearch

variable {s : Setting} {trail : Trail}

/-- Where a search ends is in the business layer, or nothing calls it. -/
theorem Setting.IsComplete.final_of_head (h : s.IsComplete trail) {table name : String}
    (hhead : (trail.chain s.method table).path.head? = some name) :
    s.isBusiness name = true ∨ s.index.callersOf name = [] := by
  refine h.ends name ?_
  rwa [Trail.chain, List.head?_reverse] at hhead

/-- Where a search goes on is below the business layer, and something calls it. -/
theorem Setting.IsComplete.ongoing_of_tail (h : s.IsComplete trail) {table name : String}
    (htail : name ∈ (trail.chain s.method table).path.tail) :
    s.isBusiness name = false ∧ s.index.callersOf name ≠ [] := by
  rw [Trail.chain, List.tail_reverse, List.mem_reverse] at htail
  refine ⟨h.below name htail, ?_⟩
  obtain ⟨i, hi⟩ := List.mem_iff_getElem?.1 htail
  obtain ⟨hlt, -⟩ := List.getElem?_eq_some_iff.1 hi
  rw [List.length_dropLast, Trail.length_callers] at hlt
  rw [List.getElem?_dropLast, Trail.length_callers, if_pos hlt, Trail.callers,
    List.getElem?_map] at hi
  obtain ⟨first, hfirst, rfl⟩ := Option.map_eq_some_iff.1 hi
  have hsecond : trail[i + 1]? = some trail[i + 1] := List.getElem?_eq_getElem _
  exact List.ne_nil_of_mem (h.leads.mem_callersOf hfirst hsecond)

end ChainSearch

namespace Impact

open ChainSearch

variable {calls : CallIndex} {layers : Layers} {table : String}

/-- Every chain of a result leads to one of the methods that were found. -/
theorem exists_method_of_mem_chains {finding : Finding} {chain : CallChain}
    (h : chain ∈ (ofFinding calls layers table finding).chains) :
    ∃ method, chain ∈ chains calls layers method table := by
  cases finding with
  | unknown => cases h
  | unlinked methods => cases h
  | linked statements methods =>
    obtain ⟨⟨method, found⟩, hfound, hchain⟩ := List.mem_flatMap.1 h
    obtain ⟨_, -, heq⟩ := List.mem_map.1 hfound
    cases heq
    exact ⟨method, hchain⟩

/-- Whether a search ends at a method depends on the calls and layers only, not on the repository
method that it began at. -/
theorem entriesApart_ofFinding (finding : Finding) :
    ChainGraph.EntriesApart (ofFinding calls layers table finding).chains := by
  intro chain hchain name htail other hother hhead
  obtain ⟨method, hchain⟩ := exists_method_of_mem_chains hchain
  obtain ⟨method', hother⟩ := exists_method_of_mem_chains hother
  obtain ⟨trail, htrail, rfl⟩ := mem_chains_of_path_ne_nil.1
    ⟨hchain, List.ne_nil_of_mem (List.mem_of_mem_tail htail)⟩
  obtain ⟨trail', htrail', rfl⟩ := mem_chains_of_path_ne_nil.1
    ⟨hother, fun hnil => by rw [hnil] at hhead; cases hhead⟩
  obtain ⟨hbelow, hcalled⟩ := htrail.ongoing_of_tail htail
  obtain hbusiness | huncalled := htrail'.final_of_head hhead
  · cases hbelow.symm.trans hbusiness
  · exact hcalled huncalled

theorem length_lines_ofFinding {finding : Finding} {chain : CallChain}
    (h : chain ∈ (ofFinding calls layers table finding).chains) :
    chain.path.length ≤ chain.lines.length := by
  obtain ⟨method, hchain⟩ := exists_method_of_mem_chains h
  exact Nat.le_of_eq (restsOn_of_mem_chains hchain).lines.symm

end Impact

namespace Analyzer

variable {analyzer : Analyzer}

/-- An answer is made from what is found for the table. -/
theorem exists_finding_of_analyze {query : String} {messages : List Message}
    {result : ImpactResult Json} (h : analyzer.analyze query = .ok (messages, result)) :
    ∃ finding, result = Impact.ofFinding analyzer.indices.calls analyzer.layers
      (TableName.normalize query) finding := by
  obtain ⟨-, -, h⟩ := bind_eq_ok.1 h
  obtain ⟨finding, -, h⟩ := bind_eq_ok.1 h
  obtain ⟨-, -, h⟩ := bind_eq_ok.1 h
  dsimp only at h
  split at h
  · cases h
    exact ⟨finding, rfl⟩
  · cases h

/-- The graph of every answer is the union of its chains. -/
theorem ofResult_isUnion (analyzer : Analyzer) (query : String) (messages : List Message)
    (result : ImpactResult Json) (hanswer : analyzer.analyze query = .ok (messages, result)) :
    ∃ graph, ChainGraph.ofResult result = .ok graph ∧ graph.IsUnion result := by
  obtain ⟨finding, rfl⟩ := exists_finding_of_analyze hanswer
  obtain ⟨graph, hgraph⟩ := ChainGraph.exists_foldlM
    (fun chain hchain => Impact.length_lines_ofFinding hchain) _
  exact ⟨graph, hgraph,
    (ChainGraph.holds_of_ofResult hgraph).isUnion (Impact.entriesApart_ofFinding finding)⟩

theorem ofResult_isUnion_overOrders :
    ∃ messages result, overOrders.analyze "shop.orders" = .ok (messages, result) ∧
      ∃ graph, ChainGraph.ofResult result = .ok graph ∧ graph.IsUnion result := by
  -- rewriting the policy first keeps its texts from being compared
  have hpolicy : overOrders.policy = Policy.standard.map .text := rfl
  have hchecked (finding : Impact.Finding) : overOrders.checkFinding finding = .ok () := by
    refine checkFinding_eq_ok ?_ ?_ finding
    · intro type
      rw [hpolicy]
      exact ⟨_, Policy.isAccessTypeAny_map_text Policy.standard type⟩
    · intro method
      rw [hpolicy]
      exact ⟨_, Policy.isBusinessMethodAny_map_text Policy.standard method⟩
  have hanswer := (analyze_eq_ok_iff rfl isLinked_overOrders.find_eq).2
    ⟨hchecked _, rfl, Impact.isKey_ofFinding, rfl⟩
  exact ⟨_, _, hanswer, ofResult_isUnion overOrders "shop.orders" _ _ hanswer⟩

-- of two calls from one method to another the line of the last is kept
example : (ChainGraph.ofResult (Impact.ofMethods (.ofSites cyclicSites) Policy.standard.layers
    "ORDERS" orderStatements orderMethods)).toOption.map (fun graph => graph.edges) = some
      [((.repository "OrderDao.find", .table "ORDERS"), none),
        ((.method "shop.OrderService.place", .method "shop.Desk.open"), some 4),
        ((.method "shop.Desk.open", .method "shop.Cart.load"), some 2),
        ((.method "shop.Cart.load", .repository "OrderDao.find"), some 5)] := by
  decide +kernel

end Analyzer

end Ripple
