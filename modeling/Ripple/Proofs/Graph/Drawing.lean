-- SUMMARY: When two nodes of a drawing share an identifier, and the lines that draw nodes and edges.
import Ripple.Graph.Drawing
import Ripple.Proofs.Graph.NodeLink
import Mathlib.Data.List.Forall2

/-!
# Nodes in a drawing

A drawing has a line for each node and each edge of a graph. In the identifiers of the nodes points
are replaced by underscores, so two nodes have one identifier if their names are alike but for that.
-/

namespace Ripple

namespace Name

/-- Names of identifiers with points between them. -/
def IsDotted (name : String) : Prop :=
  ∀ c ∈ name.toList, Text.isIdentifierPart c = true ∨ c = '.'

instance (name : String) : Decidable (IsDotted name) :=
  decidable_of_iff (name.toList.all fun c => Text.isIdentifierPart c || c == '.')
    (by simp [IsDotted])

/-- Where two names differ, one has a point and the other an underscore. -/
def Alike (first second : String) : Prop :=
  List.Forall₂ (fun a b => a = b ∨ a ∈ ['.', '_'] ∧ b ∈ ['.', '_']) first.toList second.toList

theorem IsDotted.notMem {name : String} (h : IsDotted name) :
    ':' ∉ name.toList ∧ '"' ∉ name.toList ∧ '\\' ∉ name.toList := by
  have hnone {c : Char} (hpart : Text.isIdentifierPart c = false) (hpoint : c ≠ '.') :
      c ∉ name.toList := fun hmem =>
    (h c hmem).elim (fun htrue => Bool.false_ne_true (hpart.symm.trans htrue)) hpoint
  exact ⟨hnone (by decide +kernel) (by decide), hnone (by decide +kernel) (by decide),
    hnone (by decide +kernel) (by decide)⟩

end Name

namespace Drawing

/-! ## Identifiers -/

/-- What a character of an identifier is replaced by. -/
def cleanedChar (c : Char) : Char :=
  if c == ':' || c == '.' then '_' else c

theorem toList_cleaned (text : String) : (cleaned text).toList = text.toList.map cleanedChar := by
  simp [cleaned, cleanedChar]

theorem cleanedChar_eq_iff {a b : Char} (ha : a ≠ ':') (hb : b ≠ ':') :
    cleanedChar a = cleanedChar b ↔ a = b ∨ a ∈ ['.', '_'] ∧ b ∈ ['.', '_'] := by
  simp only [cleanedChar, Bool.or_eq_true, beq_iff_eq, ha, hb, false_or, List.mem_cons,
    List.not_mem_nil, or_false]
  grind

theorem notMem_map_cleanedChar {c : Char} (hc : c ≠ '_') {s : List Char} (h : c ∉ s) :
    c ∉ s.map cleanedChar := by
  rw [List.mem_map]
  rintro ⟨a, ha, rfl⟩
  unfold cleanedChar at h hc
  split at h
  · rename_i hreplaced
    rw [if_pos hreplaced] at hc
    exact hc rfl
  · exact h ha

theorem cleaned_eq_iff {first second : String} (hfirst : ':' ∉ first.toList)
    (hsecond : ':' ∉ second.toList) : cleaned first = cleaned second ↔ Name.Alike first second := by
  rw [← String.toList_inj, toList_cleaned, toList_cleaned, Name.Alike]
  generalize first.toList = s at hfirst
  generalize second.toList = t at hsecond
  induction s generalizing t with
  | nil => cases t <;> simp
  | cons a s ih =>
    cases t with
    | nil => simp
    | cons b t =>
      rw [List.mem_cons, not_or] at hfirst hsecond
      rw [List.map_cons, List.map_cons, List.cons.injEq, List.forall₂_cons,
        cleanedChar_eq_iff (Ne.symm hfirst.1) (Ne.symm hsecond.1), ih hfirst.2 t hsecond.2]

theorem identifier_eq_or (text : String) : identifier text = text ∨
    identifier text = "\"" ++ String.ofList (escapeQuotes false text.toList) ++ "\"" := by
  unfold identifier
  dsimp only
  split
  · exact .inl rfl
  · split
    · exact .inl rfl
    · exact .inr rfl

theorem escapeQuotes_eq_self {s : List Char} (hquote : '"' ∉ s) (hslash : '\\' ∉ s) :
    escapeQuotes false s = s := by
  induction s with
  | nil => rfl
  | cons c s ih =>
    rw [List.mem_cons, not_or] at hquote hslash
    have hkept : escapeQuotes false (c :: s) = c :: escapeQuotes false s :=
      escapeQuotes.eq_4 _ _ _ (Ne.symm hquote.1) (Ne.symm hslash.1)
    rw [hkept, ih hquote.2 hslash.2]

/-- Texts without quotes and backslashes are told apart. -/
theorem identifier_inj {first second : String}
    (hfirst : '"' ∉ first.toList ∧ '\\' ∉ first.toList)
    (hsecond : '"' ∉ second.toList ∧ '\\' ∉ second.toList) :
    identifier first = identifier second ↔ first = second := by
  have hcases {text : String} (htext : '"' ∉ text.toList ∧ '\\' ∉ text.toList) :
      (identifier text).toList = text.toList ∨
        (identifier text).toList = '"' :: text.toList ++ ['"'] := by
    refine (identifier_eq_or text).imp (fun h => by rw [h]) fun h => ?_
    rw [h, escapeQuotes_eq_self htext.1 htext.2]
    simp [String.toList_append]
  refine ⟨fun h => ?_, fun h => by rw [h]⟩
  rw [← String.toList_inj]
  have hchars := congrArg String.toList h
  -- a quoted identifier begins with a quote and a plain one has none
  obtain hplain | hquoted := hcases hfirst <;> obtain hplain' | hquoted' := hcases hsecond
  · rwa [hplain, hplain'] at hchars
  · rw [hplain, hquoted'] at hchars
    exact absurd (by rw [hchars]; simp) hfirst.1
  · rw [hquoted, hplain'] at hchars
    exact absurd (by rw [← hchars]; simp) hsecond.1
  · rw [hquoted, hquoted'] at hchars
    simpa using hchars

end Drawing

namespace ChainNode

/-- The identifier of a node in a drawing. -/
def drawnId (node : ChainNode) : String :=
  Drawing.identifier (Drawing.nodeId (.str node.id))

def name : ChainNode → String
  | .table name | .repository name | .method name => name

/-- What the identifiers of nodes of one kind begin with. -/
def mark : ChainNode → List Char
  | .table _ => ['t', 'a', 'b', 'l', 'e', '_']
  | .repository _ => ['r', 'e', 'p', 'o', 's', 'i', 't', 'o', 'r', 'y', '_']
  | .method _ => ['m', 'e', 't', 'h', 'o', 'd', '_']

theorem toList_nodeId (node : ChainNode) : (Drawing.nodeId (.str node.id)).toList =
    node.mark ++ (Drawing.cleaned node.name).toList := by
  rw [Drawing.toList_cleaned]
  refine (Drawing.toList_cleaned node.id).trans ?_
  cases node <;> simp [id, mark, name, Drawing.cleanedChar]

/-- Behind a quote, if there is one, the identifier begins with the first letter of its kind. -/
theorem find?_drawnId (node : ChainNode) :
    node.drawnId.toList.find? (· != '"') = node.mark.head? := by
  obtain hplain | hquoted := Drawing.identifier_eq_or (Drawing.nodeId (.str node.id))
  · rw [drawnId, hplain, toList_nodeId]
    cases node <;> rfl
  · simp only [drawnId, hquoted, String.toList_append, String.toList_ofList, toList_nodeId]
    cases node <;> rfl

/-- Only nodes of one kind can have one identifier. -/
theorem mark_eq_of_drawnId_eq {first second : ChainNode} (h : first.drawnId = second.drawnId) :
    first.mark = second.mark := by
  have hhead : first.mark.head? = second.mark.head? := by
    rw [← find?_drawnId, ← find?_drawnId, h]
  revert hhead
  cases first <;> cases second <;> simp [mark]

/-- Two nodes of one kind have one identifier if their names are alike. -/
theorem drawnId_eq_iff {first second : ChainNode} (hmark : first.mark = second.mark)
    (hfirst : Name.IsDotted first.name) (hsecond : Name.IsDotted second.name) :
    first.drawnId = second.drawnId ↔ Name.Alike first.name second.name := by
  have hplain {node : ChainNode} (hnode : Name.IsDotted node.name) :
      '"' ∉ (Drawing.nodeId (.str node.id)).toList ∧
        '\\' ∉ (Drawing.nodeId (.str node.id)).toList := by
    obtain ⟨-, hquote, hslash⟩ := hnode.notMem
    rw [toList_nodeId, Drawing.toList_cleaned]
    constructor <;> rw [List.mem_append, not_or] <;> refine ⟨by cases node <;> simp [mark], ?_⟩
    · exact Drawing.notMem_map_cleanedChar (by decide) hquote
    · exact Drawing.notMem_map_cleanedChar (by decide) hslash
  rw [drawnId, drawnId, Drawing.identifier_inj (hplain hfirst) (hplain hsecond),
    ← String.toList_inj, toList_nodeId, toList_nodeId, hmark, List.append_cancel_left_eq,
    String.toList_inj, Drawing.cleaned_eq_iff hfirst.notMem.1 hsecond.notMem.1]

end ChainNode

/-! ## Lines -/

namespace ChainGraph

/-- A graph is drawn by a line for each of its nodes, which names its identifier, and one for each
of its edges, which names those of its ends. -/
def IsDrawnBy (graph : ChainGraph) (text : String) : Prop :=
  ∃ links nodeLines edgeLines, links.Perm graph.edges ∧
    text = "digraph \x7b\n" ++ Drawing.header ++ String.join nodeLines ++ String.join edgeLines ++
      "\x7d\n" ∧
    List.Forall₂ (fun entry text => ∃ label others,
      text = Drawing.line entry.1.drawnId label others) graph.nodes nodeLines ∧
    List.Forall₂ (fun link text => ∃ label others,
      text = Drawing.line (link.1.1.drawnId ++ " -> " ++ link.1.2.drawnId) label others)
      links edgeLines

theorem nodeLine_nodeAttributes (entry : ChainNode × Bool) : ∃ label others,
    Drawing.nodeLine (.str entry.1.id) (nodeAttributes entry) =
      .ok (Drawing.line entry.1.drawnId label others) := by
  have hname : Drawing.valueOf (nodeAttributes entry) "name" (.str "") = .str entry.1.name := by
    obtain ⟨node, entryPoint⟩ := entry
    cases node <;> simp [Drawing.valueOf, nodeAttributes, ChainNode.name, List.lookup_cons]
  have hlabel : Drawing.valueOf (nodeAttributes entry) "label" .null = .null ∨
      ∃ label, Drawing.valueOf (nodeAttributes entry) "label" .null = .str label := by
    obtain ⟨node, entryPoint⟩ := entry
    cases node <;> simp [Drawing.valueOf, nodeAttributes, List.lookup_cons]
  obtain ⟨shown, hshown⟩ : ∃ shown,
      (if (Drawing.valueOf (nodeAttributes entry) "label" .null).isEmpty then .str entry.1.name
        else Drawing.valueOf (nodeAttributes entry) "label" .null) = Json.str shown := by
    obtain hnull | ⟨label, hlabel⟩ := hlabel
    · exact ⟨entry.1.name, by rw [hnull]; rfl⟩
    · rw [hlabel]
      split <;> exact ⟨_, rfl⟩
  unfold Drawing.nodeLine
  dsimp only
  rw [hname, hshown]
  split
  · exact ⟨_, _, rfl⟩
  · split <;> exact ⟨_, _, rfl⟩

theorem edgeLine_linkAttributes (source target : ChainNode) (line? : Option Int) :
    ∃ label others, Drawing.edgeLine (.str source.id) (.str target.id) (linkAttributes line?) =
      Drawing.line (source.drawnId ++ " -> " ++ target.drawnId) label others := by
  unfold Drawing.edgeLine
  dsimp only
  split
  · exact ⟨_, _, rfl⟩
  · split <;> exact ⟨_, _, rfl⟩

/-- Every graph of chains can be drawn. -/
theorem exists_isDrawnBy {graph : ChainGraph} (h : graph.IsSimple) :
    ∃ text, Drawing.ofJson graph.toJson = .ok text ∧ graph.IsDrawnBy text := by
  -- labels and colours of the lines do not matter
  choose label others hnode using nodeLine_nodeAttributes
  choose label' others' hedge using edgeLine_linkAttributes
  let nodeText (entry : ChainNode × Bool) : String :=
    Drawing.line entry.1.drawnId (label entry) (others entry)
  let linkText (link : (ChainNode × ChainNode) × Option Int) : String :=
    Drawing.edgeLine (.str link.1.1.id) (.str link.1.2.id) (linkAttributes link.2)
  have hnodes : graph.linked.nodes.mapM (fun node => Drawing.nodeLine node.1 node.2) =
      .ok (graph.nodes.map nodeText) :=
    mapM_map_eq_ok hnode graph.nodes
  have hlinks : graph.linked.allEdges.map
      (fun edge => Drawing.edgeLine edge.1 edge.2.1 edge.2.2) = graph.links.map linkText := by
    rw [NodeLinkGraph.allEdges_linked h, List.map_map]
    rfl
  have htext : Drawing.ofJson graph.toJson = .ok ("digraph \x7b\n" ++ Drawing.header ++
      String.join (graph.nodes.map nodeText) ++ String.join (graph.links.map linkText) ++
        "\x7d\n") := by
    rw [Drawing.ofJson, NodeLinkGraph.ofJson_toJson h, ← hlinks]
    exact congrArg (Except.map _) hnodes
  have hperm : graph.links.Perm graph.edges :=
    (List.perm_ext_iff_of_nodup (nodup_links h).of_map h.distinctEdges.of_map).2
      fun _ => mem_links h
  refine ⟨_, htext, graph.links, _, _, hperm, rfl, ?_, ?_⟩
  · rw [List.forall₂_map_right_iff, List.forall₂_same]
    exact fun entry _ => ⟨label entry, others entry, rfl⟩
  · rw [List.forall₂_map_right_iff, List.forall₂_same]
    exact fun link _ => ⟨_, _, hedge link.1.1 link.1.2 link.2⟩

/-- Methods on the chains whose names are alike are the same, and so are repository methods. -/
def NamesApart (chains : List CallChain) : Prop :=
  ∀ chain ∈ chains, ∀ other ∈ chains,
    (Name.Alike chain.method other.method → chain.method = other.method) ∧
    ∀ name ∈ chain.path, ∀ name' ∈ other.path, Name.Alike name name' → name = name'

section
variable {result : ImpactResult ν} {graph : ChainGraph}

/-- The identifiers tell nodes apart if the names do. -/
theorem drawnId_injOn_iff (h : graph.Holds (.table result.table) result.chains)
    (hnames : ∀ chain ∈ result.chains, ∀ name ∈ chain.method :: chain.path, Name.IsDotted name) :
    (∀ first ∈ graph.nodes.map (·.1), ∀ second ∈ graph.nodes.map (·.1),
      first.drawnId = second.drawnId → first = second) ↔ NamesApart result.chains := by
  have hmem {chain : CallChain} (hchain : chain ∈ result.chains) {node : ChainNode}
      (hnode : node ∈ chain.stops) : node ∈ graph.nodes.map (·.1) :=
    (h.mem_nodes node).2 (.inr ⟨chain, hchain, hnode⟩)
  have hdotted {chain : CallChain} (hchain : chain ∈ result.chains) {node : ChainNode}
      (hnode : node ∈ chain.stops) : Name.IsDotted node.name := by
    obtain rfl | ⟨name, hname, rfl⟩ := mem_stops.1 hnode
    · exact hnames chain hchain _ List.mem_cons_self
    · exact hnames chain hchain name (List.mem_cons_of_mem _ hname)
  constructor
  · intro hinj chain hchain other hother
    have hsame {first second : ChainNode} (hfirst : first ∈ chain.stops)
        (hsecond : second ∈ other.stops) (hmark : first.mark = second.mark)
        (halike : Name.Alike first.name second.name) : first = second :=
      hinj first (hmem hchain hfirst) second (hmem hother hsecond) ((ChainNode.drawnId_eq_iff hmark
        (hdotted hchain hfirst) (hdotted hother hsecond)).2 halike)
    constructor
    · intro halike
      exact ChainNode.repository.inj
        (hsame (mem_stops.2 (.inl rfl)) (mem_stops.2 (.inl rfl)) rfl halike)
    · intro name hname name' hname' halike
      exact ChainNode.method.inj (hsame (mem_stops.2 (.inr ⟨name, hname, rfl⟩))
        (mem_stops.2 (.inr ⟨name', hname', rfl⟩)) rfl halike)
  · intro hapart first hfirst second hsecond heq
    have hmark := ChainNode.mark_eq_of_drawnId_eq heq
    obtain rfl | ⟨chain, hchain, hstop⟩ := (h.mem_nodes first).1 hfirst
    · -- there is one table only
      obtain rfl | ⟨other, hother, hstop⟩ := (h.mem_nodes second).1 hsecond
      · rfl
      · obtain rfl | ⟨name, -, rfl⟩ := mem_stops.1 hstop <;> cases hmark
    · obtain rfl | ⟨other, hother, hstop'⟩ := (h.mem_nodes second).1 hsecond
      · obtain rfl | ⟨name, -, rfl⟩ := mem_stops.1 hstop <;> cases hmark
      · have halike := (ChainNode.drawnId_eq_iff hmark (hdotted hchain hstop)
          (hdotted hother hstop')).1 heq
        -- nodes of different kinds have different marks
        obtain rfl | ⟨name, hname, rfl⟩ := mem_stops.1 hstop <;>
          obtain rfl | ⟨name', hname', rfl⟩ := mem_stops.1 hstop'
        · exact congrArg _ ((hapart chain hchain other hother).1 halike)
        · cases hmark
        · cases hmark
        · exact congrArg _ ((hapart chain hchain other hother).2 name hname name' hname' halike)

/-- An edge between two nodes is drawn as the edge between others if these are drawn as the two. -/
theorem edges_apart_iff (h : graph.Holds (.table result.table) result.chains) :
    (∀ edge ∈ graph.edges, ∀ source ∈ graph.nodes.map (·.1), ∀ target ∈ graph.nodes.map (·.1),
      source.drawnId = edge.1.1.drawnId → target.drawnId = edge.1.2.drawnId →
        (source, target) = edge.1) ↔
    ∀ first ∈ graph.nodes.map (·.1), ∀ second ∈ graph.nodes.map (·.1),
      first.drawnId = second.drawnId → first = second := by
  have hends := h.isSimple.ends
  constructor
  · intro hedges first hfirst second hsecond heq
    have hsame {node other target : ChainNode} (hjoins : graph.Joins node target)
        (hother : other ∈ graph.nodes.map (·.1)) (heq : node.drawnId = other.drawnId) :
        node = other := by
      obtain ⟨edge, hedge, hedgeEnds⟩ := List.mem_map.1 hjoins
      obtain ⟨rfl, rfl⟩ := Prod.mk.inj hedgeEnds
      have hboth := hedges edge hedge other hother edge.1.2 (hends edge hedge).2 heq.symm rfl
      exact (congrArg Prod.fst hboth).symm
    -- from a node that is not the table an edge leads on
    obtain rfl | ⟨target, hjoins, -⟩ := (h.reaches hfirst).cases_head
    · obtain rfl | ⟨target, hjoins, -⟩ := (h.reaches hsecond).cases_head
      · rfl
      · exact (hsame hjoins hfirst heq.symm).symm
    · exact hsame hjoins hsecond heq
  · intro hinj edge hedge source hsource target htarget heq heq'
    obtain ⟨hin, hin'⟩ := hends edge hedge
    exact Prod.ext (hinj source hsource _ hin heq) (hinj target htarget _ hin' heq')

end

/-- The graph of a result is drawn by a line for each node and each edge. The nodes have identifiers
of their own, and every edge stands for one pair of nodes only, if and only if no two names are
alike but for points and underscores. -/
theorem drawnIds_distinct_iff (result : ImpactResult ν) (graph : ChainGraph)
    (hgraph : ofResult result = .ok graph)
    (hnames : ∀ chain ∈ result.chains, ∀ name ∈ chain.method :: chain.path, Name.IsDotted name) :
    ∃ text, Drawing.ofJson graph.toJson = .ok text ∧ graph.IsDrawnBy text ∧
      ((graph.nodes.map (·.1.drawnId)).Nodup ↔ NamesApart result.chains) ∧
      ((∀ edge ∈ graph.edges, ∀ source ∈ graph.nodes.map (·.1), ∀ target ∈ graph.nodes.map (·.1),
        source.drawnId = edge.1.1.drawnId → target.drawnId = edge.1.2.drawnId →
          (source, target) = edge.1) ↔ NamesApart result.chains) := by
  have hholds := holds_of_ofResult hgraph
  have hsimple := hholds.isSimple
  obtain ⟨text, htext, hdrawn⟩ := exists_isDrawnBy hsimple
  have hapart := drawnId_injOn_iff hholds hnames
  have hids : graph.nodes.map (·.1.drawnId) = (graph.nodes.map (·.1)).map ChainNode.drawnId := by
    rw [List.map_map]
    rfl
  refine ⟨text, htext, hdrawn, ?_, (edges_apart_iff hholds).trans hapart⟩
  rw [hids, List.nodup_map_iff_inj_on hholds.distinctNodes]
  exact hapart

end ChainGraph

/-! ## Names that are alike -/

namespace Impact

/-- Calls of one repository method from two methods whose names are alike. -/
def alikeSites : List CallSite :=
  [⟨"shop.OrderDao.find", "shop.Order_list.open", "Order_list.java", 3⟩,
    ⟨"shop.OrderDao.find", "shop.Order.list_open", "Order.java", 5⟩]

def alikeResult : ImpactResult :=
  ofMethods (.ofSites alikeSites) Policy.standard.layers "ORDERS" Analyzer.orderStatements
    ["OrderDao.find"]

/-- The graph of these calls. -/
def alikeGraph : ChainGraph where
  nodes := [(.table "ORDERS", false), (.repository "OrderDao.find", false),
    (.method "shop.Order_list.open", true), (.method "shop.Order.list_open", true)]
  edges := [((.repository "OrderDao.find", .table "ORDERS"), none),
    ((.method "shop.Order_list.open", .repository "OrderDao.find"), some 3),
    ((.method "shop.Order.list_open", .repository "OrderDao.find"), some 5)]

theorem ofResult_alikeResult : ChainGraph.ofResult alikeResult = .ok alikeGraph := by
  decide +kernel

theorem isDotted_alikeResult :
    ∀ chain ∈ alikeResult.chains, ∀ name ∈ chain.method :: chain.path, Name.IsDotted name := by
  decide +kernel

theorem drawnIds_distinct_iff_alikeResult :
    ChainGraph.ofResult alikeResult = .ok alikeGraph ∧
    ∃ text, Drawing.ofJson alikeGraph.toJson = .ok text ∧ alikeGraph.IsDrawnBy text ∧
      ((alikeGraph.nodes.map (·.1.drawnId)).Nodup ↔ ChainGraph.NamesApart alikeResult.chains) := by
  obtain ⟨text, htext, hdrawn, hdistinct, -⟩ := ChainGraph.drawnIds_distinct_iff alikeResult
    alikeGraph ofResult_alikeResult isDotted_alikeResult
  exact ⟨ofResult_alikeResult, text, htext, hdrawn, hdistinct⟩

/-- Two nodes of one graph have one identifier. -/
theorem drawnId_eq_alikeResult :
    ChainGraph.ofResult alikeResult = .ok alikeGraph ∧
    (∀ chain ∈ alikeResult.chains, ∀ name ∈ chain.method :: chain.path, Name.IsDotted name) ∧
    ∃ first ∈ alikeGraph.nodes, ∃ second ∈ alikeGraph.nodes, first.1 ≠ second.1 ∧
      first.1.drawnId = second.1.drawnId := by
  refine ⟨ofResult_alikeResult, isDotted_alikeResult, (.method "shop.Order_list.open", true),
    by simp [alikeGraph], (.method "shop.Order.list_open", true), by simp [alikeGraph], by simp,
    ?_⟩
  refine (ChainNode.drawnId_eq_iff ?_ ?_ ?_).2 ?_
  · rfl
  · decide +kernel
  · decide +kernel
  · simp [Name.Alike, ChainNode.name]

end Impact

end Ripple
