-- SUMMARY: The search reaches exactly the goals that walks reach, by cutting walks into trails.
import Ripple.Proofs.Chain.Exactness

/-!
# The search decides reachability

A walk climbs from caller to caller and may come to a method again, and to the repository method
too. Every goal that a walk reaches is the end of a complete trail. For this a walk is cut twice:
what comes before its last visit to the repository method goes, since whoever calls an identifier
that stands for the repository method is one of its callers, and then its loops go.
-/

namespace Ripple

/-- Each caller on a walk calls the method before it, the first one `method`. -/
def CallIndex.IsWalk (index : CallIndex) : String → List String → Prop
  | _, [] => True
  | method, caller :: rest =>
    (∃ ref ∈ index.callersOf method, ref.caller = caller) ∧ IsWalk index caller rest

namespace CallIndex

variable {index : CallIndex} {method : String} {walk : List String}

/-- The callers on a trail are a walk. -/
theorem IsWalk.of_leadsFrom {trail : Trail} (h : trail.LeadsFrom index method) :
    index.IsWalk method trail.callers := by
  induction trail generalizing method with
  | nil => trivial
  | cons first rest ih =>
    exact ⟨⟨first.reference, reference_mem_of_mem_occurrences h.1, rfl⟩, ih h.2⟩

/-- For every walk there is a trail with its callers. -/
theorem IsWalk.exists_trail (h : index.IsWalk method walk) :
    ∃ trail : Trail, trail.LeadsFrom index method ∧ trail.callers = walk := by
  induction walk generalizing method with
  | nil => exact ⟨[], trivial, rfl⟩
  | cons caller rest ih =>
    obtain ⟨⟨ref, href, rfl⟩, hrest⟩ := h
    obtain ⟨trail, hleads, rfl⟩ := ih hrest
    obtain ⟨place, hplace⟩ := List.mem_iff_getElem?.1 href
    exact ⟨⟨place, ref⟩ :: trail, ⟨mem_occurrences.2 hplace, hleads⟩, rfl⟩

/-- What follows a caller on a walk is a walk from that caller. -/
theorem IsWalk.after {before after : List String} {caller : String}
    (h : index.IsWalk method (before ++ caller :: after)) : index.IsWalk caller after := by
  induction before generalizing method with
  | nil => exact h.2
  | cons first before ih => exact ih h.2

/-- A walk without loops to the same end. -/
theorem IsWalk.exists_nodup (h : index.IsWalk method walk) :
    ∃ short, index.IsWalk method short ∧ short.Nodup ∧ short ⊆ walk ∧
      short.getLast? = walk.getLast? := by
  induction walk generalizing method with
  | nil => exact ⟨[], trivial, List.nodup_nil, List.Subset.refl _, rfl⟩
  | cons caller rest ih =>
    obtain ⟨hcall, hrest⟩ := h
    obtain ⟨short, hwalk, hnodup, hsub, hlast⟩ := ih hrest
    by_cases hmem : caller ∈ short
    · -- the short walk comes back to this caller: take only what follows
      obtain ⟨before, after, rfl⟩ := List.append_of_mem hmem
      refine ⟨caller :: after, ⟨hcall, hwalk.after⟩, hnodup.of_append_right, ?_, ?_⟩
      · intro other hother
        exact List.mem_cons_of_mem _ (hsub (List.mem_append_right before hother))
      · have hne : rest ≠ [] := by
          rintro rfl
          simp at hlast
        rw [List.getLast?_append_of_ne_nil _ (by simp)] at hlast
        rw [hlast, List.getLast?_cons_of_ne_nil hne]
    · refine ⟨caller :: short, ⟨hcall, hwalk⟩, List.nodup_cons.2 ⟨hmem, hnodup⟩, ?_, ?_⟩
      · exact List.cons_subset_cons caller hsub
      · rw [List.getLast?_cons, List.getLast?_cons, hlast]

end CallIndex

namespace ChainSearch.Setting

open CallIndex

/-- A method that a search may end at: it does not stand for the repository method, and it is in the
business layer or nothing calls it. -/
structure IsGoal (s : Setting) (goal : String) : Prop where
  apart : goal ∉ s.seeds
  final : s.isBusiness goal = true ∨ s.index.callersOf goal = []

/-- A walk from the repository method ends at a method, without business methods before its end. -/
def Reaches (s : Setting) (goal : String) : Prop :=
  ∃ walk, s.index.IsWalk s.method walk ∧ walk.getLast? = some goal ∧
    ∀ caller ∈ walk.dropLast, s.isBusiness caller = false

variable {s : Setting} {goal : String} {walk : List String}

/-- A walk from an identifier that stands for the repository method is one from that method. -/
theorem isWalk_of_mem_seeds {seed : String} (hseed : seed ∈ s.seeds)
    (h : s.index.IsWalk seed walk) : s.index.IsWalk s.method walk := by
  cases walk with
  | nil => trivial
  | cons caller rest =>
    obtain ⟨⟨ref, href, hcaller⟩, hrest⟩ := h
    rw [seeds, List.mem_append, List.mem_singleton] at hseed
    rcases hseed with hkey | rfl
    · exact ⟨⟨ref, callersOf_subset_of_mem_calleeKeys hkey href, hcaller⟩, hrest⟩
    · exact ⟨⟨ref, href, hcaller⟩, hrest⟩

/-- The rest of a walk behind its last visit to the repository method, if there was one. -/
theorem exists_walk_apart {method : String} (h : s.index.IsWalk method walk)
    (hgoal : goal ∉ s.seeds) (hlast : walk.getLast? = some goal) :
    ∃ rest, rest ⊆ walk ∧ rest.getLast? = some goal ∧ (∀ caller ∈ rest, caller ∉ s.seeds) ∧
      (s.index.IsWalk s.method rest ∨ s.index.IsWalk method rest) := by
  induction walk generalizing method with
  | nil => simp at hlast
  | cons caller rest ih =>
    obtain ⟨hcall, hrest⟩ := h
    by_cases hnil : rest = []
    · subst hnil
      obtain rfl : caller = goal := by simpa using hlast
      exact ⟨[caller], by simp, by simp, by simpa using hgoal, .inr ⟨hcall, hrest⟩⟩
    · rw [List.getLast?_cons_of_ne_nil hnil] at hlast
      obtain ⟨part, hsub, hpartLast, hapart, hwalk⟩ := ih hrest hlast
      have hsub' := List.Subset.trans hsub (List.subset_cons_self caller rest)
      rcases hwalk with hwalk | hwalk
      · exact ⟨part, hsub', hpartLast, hapart, .inl hwalk⟩
      · by_cases hseed : caller ∈ s.seeds
        · exact ⟨part, hsub', hpartLast, hapart, .inl (isWalk_of_mem_seeds hseed hwalk)⟩
        · have hne : part ≠ [] := by rintro rfl; simp at hpartLast
          refine ⟨caller :: part, List.cons_subset_cons caller hsub, ?_, ?_, .inr ⟨hcall, hwalk⟩⟩
          · rw [List.getLast?_cons_of_ne_nil hne, hpartLast]
          · simpa [hseed] using hapart

/-- A goal is reached exactly if a complete trail ends at it. -/
theorem reaches_iff (hgoal : s.IsGoal goal) :
    s.Reaches goal ↔ ∃ trail, s.IsComplete trail ∧ trail.callers.getLast? = some goal := by
  constructor
  · rintro ⟨walk, hwalk, hlast, hbelow⟩
    obtain ⟨rest, hrestSub, hrestLast, hrestApart, hrest⟩ :=
      exists_walk_apart hwalk hgoal.apart hlast
    obtain ⟨short, hshort, hnodup, hshortSub, hshortLast⟩ := (or_self_iff.1 hrest).exists_nodup
    obtain ⟨trail, hleads, rfl⟩ := hshort.exists_trail
    rw [hrestLast] at hshortLast
    refine ⟨trail, ⟨⟨hleads, hnodup, fun c hc => hrestApart c (hshortSub hc)⟩, ?_, ?_, ?_⟩,
      hshortLast⟩
    · rintro rfl
      simp [Trail.callers] at hshortLast
    · intro caller hcaller
      -- the goal comes once, so a caller before it is another one, which the walk has before its end
      refine hbelow caller (List.mem_dropLast_of_mem_of_ne_getLast?
        (hrestSub (hshortSub (List.dropLast_subset _ hcaller))) ?_)
      rw [hlast]
      rintro heq
      obtain rfl := Option.some_inj.1 heq
      obtain ⟨before, hsplit⟩ := List.getLast?_eq_some_iff.1 hshortLast
      rw [hsplit, List.dropLast_concat] at hcaller
      rw [hsplit] at hnodup
      exact List.disjoint_of_nodup_append hnodup hcaller (by simp)
    · intro caller hcaller
      obtain rfl := Option.some_inj.1 (hshortLast.symm.trans hcaller)
      exact hgoal.final
  · rintro ⟨trail, htrail, hlast⟩
    exact ⟨trail.callers, .of_leadsFrom htrail.leads, hlast, htrail.below⟩

/-- A complete trail ends at a goal. -/
theorem IsComplete.exists_goal {trail : Trail} (h : s.IsComplete trail) :
    ∃ goal, s.IsGoal goal ∧ trail.callers.getLast? = some goal := by
  obtain hnil | ⟨shorter, occurrence, rfl⟩ := List.eq_nil_or_concat' trail
  · exact absurd hnil h.nonempty
  · have hlast : (Trail.callers (shorter ++ [occurrence])).getLast? =
        some occurrence.reference.caller := by simp
    exact ⟨_, ⟨h.apart _ (by simp), h.ends _ hlast⟩, hlast⟩

end ChainSearch.Setting

namespace ChainSearch

variable {s : Setting} {table : String}

theorem mem_chains_of_path_ne_nil {chain : CallChain} :
    (chain ∈ chains s table ∧ chain.path ≠ []) ↔
      ∃ trail, s.IsComplete trail ∧ trail.chain s.method table = chain := by
  have hfilter : chain ∈ (chains s table).filter (!·.path.isEmpty) ↔
      chain ∈ chains s table ∧ chain.path ≠ [] := by simp
  rw [← hfilter, filter_chains, List.mem_map]
  simp only [Setting.mem_completeTrails]

theorem entryPoint_chain {trail : Trail} {goal : String}
    (h : trail.callers.getLast? = some goal) : (trail.chain s.method table).entryPoint = goal := by
  simp [CallChain.entryPoint, Trail.chain, h]

/-- The answer is the chain without callers exactly if there is no complete trail. -/
theorem chains_eq_hollow_iff :
    chains s table = [⟨[], [], s.method, table⟩] ↔ ∀ trail, ¬ s.IsComplete trail := by
  constructor
  · intro h trail htrail
    obtain ⟨hmem, hne⟩ := mem_chains_of_path_ne_nil.2 ⟨trail, htrail, rfl⟩
    rw [h, List.mem_singleton] at hmem
    exact hne (by rw [hmem])
  · intro h
    apply chains_of_no_trail
    exact List.eq_nil_iff_forall_not_mem.2 fun trail htrail =>
      h trail (Setting.mem_completeTrails.1 htrail)

end ChainSearch

namespace Analyzer

open ChainSearch

/-- The chains with callers begin at the goals that are reached, and at all of them. There is only
the chain without callers exactly if no goal is reached. -/
theorem findChains_entryPoint_iff_reaches (analyzer : Analyzer) (policy : Policy)
    (method table : String) (hready : analyzer.ready = true)
    (hpolicy : analyzer.policy = policy.map .text) :
    ∃ chains, analyzer.findChains method table = .ok chains ∧
      (∀ goal, (Impact.search analyzer.indices.calls policy.layers method).IsGoal goal →
        ((∃ chain ∈ chains, chain.path ≠ [] ∧ chain.entryPoint = goal) ↔
          (Impact.search analyzer.indices.calls policy.layers method).Reaches goal)) ∧
      (∀ chain ∈ chains, chain.path ≠ [] →
        (Impact.search analyzer.indices.calls policy.layers method).IsGoal chain.entryPoint) ∧
      (chains = [⟨[], [], method, table⟩] ↔
        ¬ ∃ goal, (Impact.search analyzer.indices.calls policy.layers method).IsGoal goal ∧
          (Impact.search analyzer.indices.calls policy.layers method).Reaches goal) := by
  refine ⟨_, findChains_eq hready hpolicy method table, ?_⟩
  generalize hs : Impact.search analyzer.indices.calls policy.layers method = s
  obtain rfl : s.method = method := by rw [← hs]; rfl
  refine ⟨?_, ?_, ?_⟩
  · intro goal hgoal
    rw [Setting.reaches_iff hgoal]
    constructor
    · rintro ⟨chain, hchain, hne, rfl⟩
      obtain ⟨trail, htrail, rfl⟩ := mem_chains_of_path_ne_nil.1 ⟨hchain, hne⟩
      obtain ⟨goal, -, hlast⟩ := htrail.exists_goal
      exact ⟨trail, htrail, by rw [entryPoint_chain hlast, hlast]⟩
    · rintro ⟨trail, htrail, hlast⟩
      obtain ⟨hmem, hne⟩ := mem_chains_of_path_ne_nil.2 ⟨trail, htrail, rfl⟩
      exact ⟨_, hmem, hne, entryPoint_chain hlast⟩
  · intro chain hchain hne
    obtain ⟨trail, htrail, rfl⟩ := mem_chains_of_path_ne_nil.1 ⟨hchain, hne⟩
    obtain ⟨goal, hgoal, hlast⟩ := htrail.exists_goal
    rwa [entryPoint_chain hlast]
  · rw [chains_eq_hollow_iff]
    constructor
    · rintro hnone ⟨goal, hgoal, hreaches⟩
      obtain ⟨trail, htrail, -⟩ := (Setting.reaches_iff hgoal).1 hreaches
      exact hnone trail htrail
    · intro hnone trail htrail
      obtain ⟨goal, hgoal, hlast⟩ := htrail.exists_goal
      exact hnone ⟨goal, hgoal, (Setting.reaches_iff hgoal).2 ⟨trail, htrail, hlast⟩⟩

/-- A walk may go round the cycle and through the repository method before it leaves. -/
theorem findChains_entryPoint_iff_reaches_cyclicSites :
    (overSites cyclicSites).ready = true ∧
    (overSites cyclicSites).policy = Policy.standard.map .text ∧
    ∃ chains, (overSites cyclicSites).findChains "OrderDao.find" "ORDERS" = .ok chains ∧
      (∀ goal, (Impact.search (overSites cyclicSites).indices.calls Policy.standard.layers
          "OrderDao.find").IsGoal goal →
        ((∃ chain ∈ chains, chain.path ≠ [] ∧ chain.entryPoint = goal) ↔
          (Impact.search (overSites cyclicSites).indices.calls Policy.standard.layers
            "OrderDao.find").Reaches goal)) ∧
      (∀ chain ∈ chains, chain.path ≠ [] →
        (Impact.search (overSites cyclicSites).indices.calls Policy.standard.layers
          "OrderDao.find").IsGoal chain.entryPoint) ∧
      (chains = [⟨[], [], "OrderDao.find", "ORDERS"⟩] ↔
        ¬ ∃ goal, (Impact.search (overSites cyclicSites).indices.calls Policy.standard.layers
            "OrderDao.find").IsGoal goal ∧
          (Impact.search (overSites cyclicSites).indices.calls Policy.standard.layers
            "OrderDao.find").Reaches goal) :=
  ⟨rfl, rfl, findChains_entryPoint_iff_reaches _ _ _ _ rfl rfl⟩

end Analyzer

end Ripple
