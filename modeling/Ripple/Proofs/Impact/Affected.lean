-- SUMMARY: The impacts of a table are the pairs of its statements and the business methods that they affect, each once.
import Ripple.Proofs.Analyzer.Coverage
import Ripple.Proofs.Chain.Reachability

/-!
# The impacts of a table are the affected pairs

A business method is affected by a method if it calls it, directly or through methods of other
layers. The impacts of a table pair each of its statements with the business methods that are
affected by the method which runs it. Statements and methods belong together by their places,
several statements may be run by one method, and several chains may begin at one business method;
every pair is still listed, and once.
-/

namespace Ripple

section
variable {α : Type} [BEq α]

/-- Of the items left without repetitions, none equals one before it. -/
theorem pairwise_eraseDups (items : List α) :
    items.eraseDups.Pairwise fun first later => (later == first) = false := by
  cases items with
  | nil => exact .nil
  | cons item rest =>
    rw [List.eraseDups_cons]
    refine .cons ?_ (pairwise_eraseDups _)
    intro later hlater
    have hkept := (List.mem_filter.1 (mem_of_mem_eraseDups hlater)).2
    simpa using hkept
termination_by items.length
decreasing_by exact Nat.lt_succ_of_le (List.length_filter_le _ _)

/-- Of every item there is itself or an equal one left without repetitions. -/
theorem exists_mem_eraseDups {item : α} :
    ∀ {items : List α}, item ∈ items →
      ∃ kept ∈ items.eraseDups, kept = item ∨ (item == kept) = true
  | first :: rest, h => by
    rw [List.eraseDups_cons]
    obtain rfl | h := List.mem_cons.1 h
    · exact ⟨item, List.mem_cons_self, .inl rfl⟩
    · cases hequal : item == first with
      | true => exact ⟨first, List.mem_cons_self, .inr hequal⟩
      | false =>
        have hrest : item ∈ rest.filter fun later => !later == first :=
          List.mem_filter.2 ⟨h, by simp [hequal]⟩
        obtain ⟨kept, hkept, hsame⟩ := exists_mem_eraseDups hrest
        exact ⟨kept, List.mem_cons_of_mem _ hkept, hsame⟩
termination_by items => items.length
decreasing_by exact Nat.lt_succ_of_le (List.length_filter_le _ _)

end

namespace TableImpact

/-- The impact on a statement that a business method reaches. -/
def ofPair (statement : Statement ν) (goal : String) : TableImpact ν where
  moduleName := statement.moduleName
  mapperFile := statement.mapperPath
  space := statement.space
  statementId := statement.statementId
  serviceClass := (Name.splitMethod goal).1
  serviceMethod := (Name.splitMethod goal).2

/-- Impacts of texts are equal only if they are the same. -/
theorem map_str_beq_iff {first second : TableImpact} :
    (first.map Json.str == second.map Json.str) = true ↔ first = second := by
  have hparts : (first.map Json.str == second.map Json.str) =
      ((first.moduleName == second.moduleName && (first.mapperFile == second.mapperFile &&
        (first.space == second.space && first.statementId == second.statementId))) &&
          (first.serviceClass == second.serviceClass &&
            first.serviceMethod == second.serviceMethod)) := rfl
  cases first
  cases second
  simp only [hparts, Bool.and_eq_true, beq_iff_eq, mk.injEq, and_assoc]

end TableImpact

namespace Impact

open ChainSearch

/-- A business method that a change to a repository method reaches, other than those that stand for
the repository method. -/
structure IsAffected (calls : CallIndex) (layers : Layers) (method goal : String) : Prop where
  business : layers.isBusiness goal = true
  noKey : goal ∉ calls.calleeKeys method
  other : goal ≠ method
  reached : (search calls layers method).Reaches goal

/-- An impact pairs a statement with a business method that is affected by the found method in the
statement's place. -/
def IsImpact (calls : CallIndex) (layers : Layers) (statements : List (Statement ν))
    (methods : List String) (impact : TableImpact ν) : Prop :=
  ∃ (i : Nat) (statement : Statement ν) (method goal : String),
    statements[i]? = some statement ∧ methods[i]? = some method ∧
    Name.isUnresolved method = false ∧ IsAffected calls layers method goal ∧
    impact = .ofPair statement goal

section
variable {calls : CallIndex} {layers : Layers} {method goal table : String}
  {statements : List (Statement ν)} {methods : List String}

theorem method_of_mem_chains {chain : CallChain} (h : chain ∈ chains calls layers method table) :
    chain.method = method := by
  obtain ⟨climb, -, rfl⟩ := List.mem_map.1 h
  rfl

theorem notMem_seeds {goal : String} : goal ∉ (search calls layers method).seeds ↔
    goal ∉ calls.calleeKeys method ∧ goal ≠ method := by
  simp [Setting.seeds, search]

/-- The affected methods are those of the business layer that chains begin at. -/
theorem isAffected_iff (table : String) :
    IsAffected calls layers method goal ↔ layers.isBusiness goal = true ∧
      ∃ chain ∈ chains calls layers method table, chain.path ≠ [] ∧ chain.entryPoint = goal := by
  constructor
  · rintro ⟨hbusiness, hkey, hother, hreached⟩
    have hgoal : (search calls layers method).IsGoal goal :=
      ⟨notMem_seeds.2 ⟨hkey, hother⟩, .inl hbusiness⟩
    obtain ⟨trail, htrail, hlast⟩ := (Setting.reaches_iff hgoal).1 hreached
    obtain ⟨hchain, hpath⟩ := mem_chains_of_path_ne_nil.2 ⟨trail, htrail, rfl⟩
    exact ⟨hbusiness, _, hchain, hpath, entryPoint_chain hlast⟩
  · rintro ⟨hbusiness, chain, hchain, hpath, rfl⟩
    obtain ⟨trail, htrail, rfl⟩ := mem_chains_of_path_ne_nil.1 ⟨hchain, hpath⟩
    obtain ⟨goal, hgoal, hlast⟩ := htrail.exists_goal
    rw [entryPoint_chain hlast] at hbusiness ⊢
    obtain ⟨hkey, hother⟩ := notMem_seeds.1 hgoal.apart
    exact ⟨hbusiness, hkey, hother, (Setting.reaches_iff hgoal).2 ⟨trail, htrail, hlast⟩⟩

theorem mem_zip_iff {statement : Statement ν} :
    (statement, method) ∈ statements.zip methods ↔
      ∃ i : Nat, statements[i]? = some statement ∧ methods[i]? = some method := by
  simp only [List.mem_iff_getElem?, List.getElem?_zip_eq_some]

theorem mem_ofChain {chain : CallChain} {impact : TableImpact ν} :
    impact ∈ ofChain layers statements methods chain ↔
      (chain.path ≠ [] ∧ layers.isBusiness chain.entryPoint = true) ∧
        ∃ (i : Nat) (statement : Statement ν), statements[i]? = some statement ∧
          methods[i]? = some chain.method ∧ impact = .ofPair statement chain.entryPoint := by
  have hempty : (chain.path.isEmpty || !layers.isBusiness chain.entryPoint) = false ↔
      chain.path ≠ [] ∧ layers.isBusiness chain.entryPoint = true := by
    simp
  unfold ofChain
  rw [← hempty]
  cases chain.path.isEmpty || !layers.isBusiness chain.entryPoint with
  | true => simp
  | false =>
    simp only [Bool.false_eq_true, if_false, true_and, List.mem_map, List.mem_filter]
    constructor
    · rintro ⟨⟨statement, method⟩, ⟨hzip, hmethod⟩, rfl⟩
      obtain ⟨i, hi, hmethods⟩ := mem_zip_iff.1 hzip
      exact ⟨i, statement, hi, hmethods.trans (congrArg some (beq_iff_eq.1 hmethod)), rfl⟩
    · rintro ⟨i, statement, hi, hmethods, rfl⟩
      exact ⟨(statement, chain.method), ⟨mem_zip_iff.2 ⟨i, hi, hmethods⟩, beq_self_eq_true _⟩, rfl⟩

theorem mem_resolvedOf : method ∈ TableMapping.resolvedOf methods ↔
    method ∈ methods ∧ Name.isUnresolved method = false := by
  simp [TableMapping.resolvedOf]

/-- What the chains to the methods that were found have an impact on. -/
theorem mem_flatMap_ofChain {impact : TableImpact ν} :
    impact ∈ ((TableMapping.resolvedOf methods).flatMap fun method =>
        chains calls layers method table).flatMap (ofChain layers statements methods) ↔
      IsImpact calls layers statements methods impact := by
  simp only [List.mem_flatMap, mem_ofChain]
  constructor
  · rintro ⟨chain, ⟨method, hmethod, hchain⟩, ⟨hpath, hbusiness⟩, i, statement, hi, hmethods, rfl⟩
    rw [method_of_mem_chains hchain] at hmethods
    exact ⟨i, statement, method, chain.entryPoint, hi, hmethods, (mem_resolvedOf.1 hmethod).2,
      (isAffected_iff table).2 ⟨hbusiness, chain, hchain, hpath, rfl⟩, rfl⟩
  · rintro ⟨i, statement, method, goal, hi, hmethods, hresolved, haffected, rfl⟩
    obtain ⟨hbusiness, chain, hchain, hpath, rfl⟩ := (isAffected_iff table).1 haffected
    have hmethod := mem_resolvedOf.2 ⟨List.mem_of_getElem? hmethods, hresolved⟩
    rw [← method_of_mem_chains hchain] at hmethods
    exact ⟨chain, ⟨method, hmethod, hchain⟩, ⟨hpath, hbusiness⟩, i, statement, hi, hmethods, rfl⟩

theorem impacts_ofMethods [BEq ν] :
    (ofMethods calls layers table statements methods).impacts =
      (((TableMapping.resolvedOf methods).flatMap fun method =>
        chains calls layers method table).flatMap (ofChain layers statements methods)).eraseDups := by
  simp only [ofMethods, ofChains, List.flatMap_map]

theorem isImpact_of_mem_impacts [BEq ν] {impact : TableImpact ν}
    (h : impact ∈ (ofMethods calls layers table statements methods).impacts) :
    IsImpact calls layers statements methods impact := by
  rw [impacts_ofMethods] at h
  exact mem_flatMap_ofChain.1 (mem_of_mem_eraseDups h)

/-- Every impact is listed, as far as its values can be told apart from those of another. -/
theorem IsImpact.exists_listed [BEq ν] {impact : TableImpact ν}
    (h : IsImpact calls layers statements methods impact) (table : String) :
    ∃ listed ∈ (ofMethods calls layers table statements methods).impacts,
      listed = impact ∨ (impact == listed) = true := by
  rw [impacts_ofMethods]
  exact exists_mem_eraseDups (mem_flatMap_ofChain.2 h)

theorem pairwise_impacts [BEq ν] :
    (ofMethods calls layers table statements methods).impacts.Pairwise fun first later =>
      (later == first) = false := by
  rw [impacts_ofMethods]
  exact pairwise_eraseDups _

end

/-! ## Statements of texts -/

section
variable {calls : CallIndex} {layers : Layers} {table : String} {methods : List String}
  {statements : List Statement}

/-- The impacts on statements of texts hold texts. -/
theorem IsImpact.exists_texts {impact : TableImpact Json}
    (h : IsImpact calls layers (statements.map (Statement.map .str)) methods impact) :
    ∃ plain : TableImpact, impact = plain.map .str := by
  obtain ⟨i, statement, method, goal, hi, -, -, -, rfl⟩ := h
  rw [List.getElem?_map] at hi
  obtain ⟨plain, -, rfl⟩ := Option.map_eq_some_iff.1 hi
  exact ⟨.ofPair plain goal, rfl⟩

theorem nodup_impacts_texts :
    (ofMethods calls layers table (statements.map (Statement.map Json.str)) methods).impacts.Nodup := by
  refine pairwise_impacts.imp_of_mem ?_
  rintro first later hfirst - hdiffer rfl
  obtain ⟨plain, rfl⟩ := (isImpact_of_mem_impacts hfirst).exists_texts
  rw [TableImpact.map_str_beq_iff.2 rfl] at hdiffer
  cases hdiffer

theorem mem_impacts_texts {impact : TableImpact Json} :
    impact ∈ (ofMethods calls layers table (statements.map (Statement.map Json.str))
        methods).impacts ↔
      IsImpact calls layers (statements.map (Statement.map Json.str)) methods impact := by
  refine ⟨isImpact_of_mem_impacts, fun himpact => ?_⟩
  obtain ⟨listed, hlisted, rfl | hequal⟩ := himpact.exists_listed table
  · exact hlisted
  · obtain ⟨plain, rfl⟩ := himpact.exists_texts
    obtain ⟨other, rfl⟩ := (isImpact_of_mem_impacts hlisted).exists_texts
    rwa [TableImpact.map_str_beq_iff.1 hequal]

end

/-! ## Answers -/

/-- A table has statements, and a mapping to methods of which at least one was found. -/
structure IsLinked (indices : Indices) (table : String) (statements : List (Statement Json))
    (methods : List String) : Prop where
  stated : indices.tables.statements table = statements
  inhabited : statements ≠ []
  mapped : ∃ mapping, indices.mappings.mapping? table = some mapping ∧
    mapping.methodTexts = .ok methods
  resolved : ∃ method ∈ methods, Name.isUnresolved method = false

theorem IsLinked.find_eq {indices : Indices} {table : String} {statements : List (Statement Json)}
    {methods : List String} (h : IsLinked indices table statements methods) :
    find indices table = .ok (.linked statements methods) := by
  obtain ⟨mapping, hmapping, htexts⟩ := h.mapped
  obtain ⟨method, hmethod, hfound⟩ := h.resolved
  have hsome : (TableMapping.resolvedOf methods).isEmpty = false := by
    simpa using List.ne_nil_of_mem (mem_resolvedOf.2 ⟨hmethod, hfound⟩)
  unfold find
  rw [h.stated, hmapping]
  cases statements with
  | nil => exact absurd rfl h.inhabited
  | cons first rest =>
    simp only [htexts, hsome, bind, Except.bind, Bool.false_eq_true, if_false]
    rfl

end Impact

namespace Analyzer

open Impact

/-- The impacts that a query about a linked table answers with. No two of them are equal, and they
are the pairs of a statement and a business method that is affected by the method in the statement's
place. Where the policy tells layers apart and the statements hold texts, the query is answered. -/
theorem analyze_impacts_exact (analyzer : Analyzer) (query : String)
    (statements : List (Statement Json)) (methods : List String) (hready : analyzer.ready = true)
    (hlinked : IsLinked analyzer.indices (TableName.normalize query) statements methods) :
    (∀ messages result, analyzer.analyze query = .ok (messages, result) →
      (result.impacts.Pairwise fun first later => (later == first) = false) ∧
      (∀ impact ∈ result.impacts,
        IsImpact analyzer.indices.calls analyzer.layers statements methods impact) ∧
      ∀ impact, IsImpact analyzer.indices.calls analyzer.layers statements methods impact →
        ∃ listed ∈ result.impacts, listed = impact ∨ (impact == listed) = true) ∧
    ((∀ type, ∃ b, analyzer.policy.isAccessTypeAny type = .ok b) →
      (∀ method, ∃ b, analyzer.policy.isBusinessMethodAny method = .ok b) →
      (∃ texts : List Statement, statements = texts.map (Statement.map .str)) →
        ∃ messages result, analyzer.analyze query = .ok (messages, result) ∧
          result.impacts.Nodup ∧ ∀ impact, impact ∈ result.impacts ↔
            IsImpact analyzer.indices.calls analyzer.layers statements methods impact) := by
  have hfind := hlinked.find_eq
  constructor
  · intro messages result hanswer
    obtain ⟨-, rfl, -, -⟩ := (analyze_eq_ok_iff hready hfind).1 hanswer
    exact ⟨pairwise_impacts, fun impact => isImpact_of_mem_impacts,
      fun impact himpact => himpact.exists_listed _⟩
  · rintro haccess hbusiness ⟨texts, rfl⟩
    refine ⟨_, _, (analyze_eq_ok_iff hready hfind).2
      ⟨checkFinding_eq_ok haccess hbusiness _, rfl, isKey_ofFinding, rfl⟩, ?_⟩
    exact ⟨nodup_impacts_texts, fun impact => mem_impacts_texts⟩

/-- Three statements on orders. One method runs the first and the last, and the second has none. -/
def orderStatements : List Statement :=
  ["list", "purge", "count"].map fun id =>
    ⟨"shop", "shop/OrderDao.xml", "shop.OrderDao", id, "select", "FROM orders"⟩

def orderMethods : List String :=
  ["OrderDao.find", "[N/A]-OrderDao.purge", "OrderDao.find"]

/-- An analyzer over these statements and the calls of `cyclicSites`. -/
def overOrders : Analyzer :=
  ofIndices { settings := .standard, policy := Policy.standard.map .text } {
    tables := TableIndex.map .str [("ORDERS", orderStatements)]
    mappings := RepositoryMappings.map .str
      [("ORDERS", { table := "ORDERS", methods := orderMethods })]
    calls := .ofSites cyclicSites }

theorem isLinked_overOrders :
    IsLinked overOrders.indices (TableName.normalize "shop.orders")
      (orderStatements.map (Statement.map .str)) orderMethods := by
  have hname : TableName.normalize "shop.orders" = "ORDERS" := by decide +kernel
  rw [hname]
  exact ⟨rfl, by simp [orderStatements], ⟨_, rfl, methodTexts_map_str _⟩, "OrderDao.find",
    by simp [orderMethods], by decide⟩

theorem analyze_impacts_exact_overOrders :
    overOrders.ready = true ∧
    IsLinked overOrders.indices (TableName.normalize "shop.orders")
      (orderStatements.map (Statement.map .str)) orderMethods ∧
    ∃ messages result, overOrders.analyze "shop.orders" = .ok (messages, result) ∧
      result.impacts.Nodup ∧ ∀ impact, impact ∈ result.impacts ↔
        IsImpact overOrders.indices.calls overOrders.layers
          (orderStatements.map (Statement.map .str)) orderMethods impact :=
  ⟨rfl, isLinked_overOrders,
    (analyze_impacts_exact overOrders "shop.orders" _ _ rfl isLinked_overOrders).2
      (fun type => ⟨_, Policy.isAccessTypeAny_map_text _ type⟩)
      (fun method => ⟨_, Policy.isBusinessMethodAny_map_text _ method⟩)
      ⟨orderStatements, rfl⟩⟩

example : (ofMethods (.ofSites cyclicSites) Policy.standard.layers "ORDERS" orderStatements
    orderMethods).impacts.map (fun impact => (impact.statementId, impact.businessMethod)) =
      [("list", "shop.OrderService.place"), ("count", "shop.OrderService.place")] := by
  decide +kernel

end Analyzer

end Ripple
