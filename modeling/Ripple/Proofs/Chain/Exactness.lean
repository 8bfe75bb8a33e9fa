-- SUMMARY: The chains that are found are the complete trails, each once.
import Ripple.Analyzer
import Ripple.Proofs.Chain.Worklist
import Ripple.Proofs.Policy.Layers
import Ripple.Proofs.Settings.Standard

/-!
# The chains are the complete trails

`findChains` gives one chain for each complete trail, and the chain without callers if there is no
complete trail.
-/

namespace Ripple

/-- The chain along a trail, outermost caller first. -/
def Trail.chain (method table : String) (trail : Trail) : CallChain :=
  ⟨trail.callers.reverse, trail.lines.reverse, method, table⟩

namespace ChainSearch

variable (s : Setting) (table : String)

theorem chains_of_no_trail (h : s.completeTrails = []) :
    chains s table = [⟨[], [], s.method, table⟩] := by
  simp [chains, s.complete_eq, h]

theorem chains_of_trails (h : s.completeTrails ≠ []) :
    chains s table = s.completeTrails.map (Trail.chain s.method table) := by
  have hsome : (s.completeTrails.map Trail.climb).isEmpty = false := by simpa using h
  simp only [chains, s.complete_eq, hsome, Bool.false_eq_true, if_false, List.map_map]
  rfl

theorem path_chain_ne_nil {s : Setting} {trail : Trail} (h : s.IsComplete trail) :
    (trail.chain s.method table).path ≠ [] := by
  simpa [Trail.chain, Trail.callers] using h.nonempty

/-- The chains that have callers are those along the complete trails. -/
theorem filter_chains :
    (chains s table).filter (!·.path.isEmpty) =
      s.completeTrails.map (Trail.chain s.method table) := by
  by_cases h : s.completeTrails = []
  · simp [chains_of_no_trail s table h, h]
  · rw [chains_of_trails s table h]
    refine List.filter_eq_self.2 ?_
    intro chain hchain
    obtain ⟨trail, htrail, rfl⟩ := List.mem_map.1 hchain
    simpa using path_chain_ne_nil table (Setting.mem_completeTrails.1 htrail)

end ChainSearch

namespace Analyzer

variable {analyzer : Analyzer} {policy : Policy}

/-- A ready analyzer with a policy of texts answers with the chains of the search. -/
theorem findChains_eq (hready : analyzer.ready = true)
    (hpolicy : analyzer.policy = policy.map .text) (method table : String) :
    analyzer.findChains method table =
      .ok (ChainSearch.chains (Impact.search analyzer.indices.calls policy.layers method)
        table) := by
  simp only [findChains, checkReady, hready, checkCallers, hpolicy, Policy.hasOnlyTexts_map_text,
    layers, Policy.layersAny_map_text, Impact.chains, if_true]
  rfl

/-- The chains with callers that lead to a repository method are in one to one correspondence with
the complete trails: different trails give the chains at different places of the answer. Without a
complete trail there is exactly the chain without callers. -/
theorem findChains_exact (analyzer : Analyzer) (policy : Policy) (method table : String)
    (hready : analyzer.ready = true) (hpolicy : analyzer.policy = policy.map .text) :
    ∃ chains trails, analyzer.findChains method table = .ok chains ∧
      trails.Nodup ∧
      (∀ trail, trail ∈ trails ↔
        (Impact.search analyzer.indices.calls policy.layers method).IsComplete trail) ∧
      chains.filter (!·.path.isEmpty) = trails.map (Trail.chain method table) ∧
      (trails ≠ [] → chains = trails.map (Trail.chain method table)) ∧
      (trails = [] → chains = [⟨[], [], method, table⟩]) := by
  let s := Impact.search analyzer.indices.calls policy.layers method
  refine ⟨_, s.completeTrails, findChains_eq hready hpolicy method table, ?_, ?_, ?_, ?_, ?_⟩
  · exact ChainSearch.Setting.nodup_completeTrails
  · intro trail
    exact ChainSearch.Setting.mem_completeTrails
  · exact ChainSearch.filter_chains s table
  · exact ChainSearch.chains_of_trails s table
  · exact ChainSearch.chains_of_no_trail s table

/-- A ready analyzer over some call sites, with the standard settings and policy. -/
def overSites (sites : List CallSite) : Analyzer :=
  ofIndices { settings := .standard, policy := Policy.standard.map .text }
    { calls := .ofSites sites }

/-- Two calls of a repository method from one caller, a cycle above that caller, and a way out of
the cycle to the business layer. -/
def cyclicSites : List CallSite :=
  [⟨"shop.OrderDao.find", "shop.OrderDao.find", "OrderDao.java", 7⟩,
    ⟨"shop.OrderDao.find", "shop.Cart.load", "Cart.java", 3⟩,
    ⟨"shop.OrderDao.find", "shop.Cart.load", "Cart.java", 5⟩,
    ⟨"shop.Cart.load", "shop.Desk.open", "Desk.java", 2⟩,
    ⟨"shop.Desk.open", "shop.Cart.load", "Cart.java", 9⟩,
    ⟨"shop.Desk.open", "shop.OrderService.place", "OrderService.java", 4⟩]

theorem findChains_exact_cyclicSites :
    (overSites cyclicSites).ready = true ∧
    (overSites cyclicSites).policy = Policy.standard.map .text ∧
    ∃ chains trails, (overSites cyclicSites).findChains "OrderDao.find" "ORDERS" = .ok chains ∧
      trails.Nodup ∧
      (∀ trail, trail ∈ trails ↔
        (Impact.search (overSites cyclicSites).indices.calls Policy.standard.layers
          "OrderDao.find").IsComplete trail) ∧
      chains.filter (!·.path.isEmpty) = trails.map (Trail.chain "OrderDao.find" "ORDERS") ∧
      (trails ≠ [] → chains = trails.map (Trail.chain "OrderDao.find" "ORDERS")) ∧
      (trails = [] → chains = [⟨[], [], "OrderDao.find", "ORDERS"⟩]) :=
  ⟨rfl, rfl, findChains_exact _ _ _ _ rfl rfl⟩

example : (Impact.chains (overSites cyclicSites).indices.calls Policy.standard.layers
    "OrderDao.find" "ORDERS").map (·.lines) = [[4, 2, 3], [4, 2, 5]] := by
  decide +kernel

end Analyzer

end Ripple
