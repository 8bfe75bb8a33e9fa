-- SUMMARY: The recorded calls that the steps of a chain rest on.
import Ripple.Proofs.Chain.Exactness

/-!
# The calls that a chain rests on

Every call of a chain is recorded under a method that the called one stands for. It is recorded
under the called method itself exactly if that method is indexed. A method of a type without a
package need not be: then the chain goes on from the methods of the same name in all packages.
-/

namespace Ripple

namespace CallIndex

/-- A call is recorded under a called method. -/
def Records (index : CallIndex) (callee caller : String) (line : Int) : Prop :=
  ∃ ref ∈ index.referencesTo callee, ref.caller = caller ∧ ref.line = line

instance (index : CallIndex) (callee caller : String) (line : Int) :
    Decidable (index.Records callee caller line) :=
  inferInstanceAs (Decidable (∃ ref ∈ index.referencesTo callee, ref.caller = caller ∧ ref.line = line))

variable {index : CallIndex} {method callee caller : String} {line : Int}

theorem records_of_mem_callersOf {ref : CallReference} (h : ref ∈ index.callersOf method) :
    ∃ key ∈ index.calleeKeys method, index.Records key ref.caller ref.line := by
  obtain ⟨key, hkey, href⟩ := List.mem_flatMap.1 h
  exact ⟨key, hkey, ref, href, rfl, rfl⟩

theorem Records.contains (h : index.Records callee caller line) : index.contains callee = true := by
  obtain ⟨ref, href, -⟩ := h
  unfold referencesTo at href
  unfold CallIndex.contains
  cases hfound : index.callers.lookup callee with
  | none =>
    rw [hfound] at href
    cases href
  | some references => rfl

/-- A method of a type with a package stands for nothing but itself. -/
theorem contains_of_isQualified (hqualified : Name.isQualified (Name.ownerOf method) = true)
    {key : String} (hkey : key ∈ index.calleeKeys method) : index.contains method = true := by
  cases hmethod : index.contains method with
  | true => rfl
  | false => simp [calleeKeys, hmethod, hqualified] at hkey

end CallIndex

namespace CallChain

/-- Each call between two methods of a chain is recorded under one of the keys of the called method,
and the call of the repository method under one that this stands for. -/
structure RestsOn (index : CallIndex) (keys : String → List String) (chain : CallChain) :
    Prop where
  lines : chain.lines.length = chain.path.length
  inner (i : Nat) (caller callee : String) (line : Int) (hcaller : chain.path[i]? = some caller)
    (hline : chain.lines[i]? = some line) (hcallee : chain.path[i + 1]? = some callee) :
    ∃ key ∈ keys callee, index.Records key caller line
  last (caller : String) (line : Int) (hcaller : chain.path.getLast? = some caller)
    (hline : chain.lines.getLast? = some line) :
    ∃ key ∈ index.calleeKeys chain.method, index.Records key caller line

/-- Every call between two methods of a chain is recorded under the called method itself. -/
def IsRecorded (index : CallIndex) (chain : CallChain) : Prop :=
  chain.RestsOn index fun callee => [callee]

variable {index : CallIndex} {chain : CallChain}

/-- Every method of a chain but the outermost is called, and the call is recorded. -/
theorem RestsOn.exists_records {keys : String → List String} (h : chain.RestsOn index keys)
    {callee : String} (hcallee : callee ∈ chain.path.drop 1) :
    ∃ key ∈ keys callee, ∃ caller line, index.Records key caller line := by
  obtain ⟨i, hi⟩ := List.mem_iff_getElem?.1 hcallee
  rw [List.getElem?_drop, Nat.add_comm] at hi
  obtain ⟨hlength, -⟩ := List.getElem?_eq_some_iff.1 hi
  have hlines := h.lines
  have hcaller : chain.path[i]? = some chain.path[i] := List.getElem?_eq_getElem _
  have hline : chain.lines[i]? = some chain.lines[i] := List.getElem?_eq_getElem _
  obtain ⟨key, hkey, hrecords⟩ := h.inner i _ callee _ hcaller hline hi
  exact ⟨key, hkey, _, _, hrecords⟩

/-- The calls are recorded under the called methods if and only if these are indexed. -/
theorem RestsOn.isRecorded_iff (h : chain.RestsOn index index.calleeKeys) :
    chain.IsRecorded index ↔ ∀ callee ∈ chain.path.drop 1, index.contains callee = true := by
  constructor
  · intro hrecorded callee hcallee
    obtain ⟨key, hkey, caller, line, hrecords⟩ := hrecorded.exists_records hcallee
    rw [List.mem_singleton.1 hkey] at hrecords
    exact hrecords.contains
  · intro hindexed
    refine ⟨h.lines, ?_, h.last⟩
    intro i caller callee line hcaller hline hcallee
    have hmem : callee ∈ chain.path.drop 1 := by
      refine List.mem_iff_getElem?.2 ⟨i, ?_⟩
      rwa [List.getElem?_drop, Nat.add_comm]
    have hrests := h.inner i caller callee line hcaller hline hcallee
    rwa [CallIndex.calleeKeys_of_contains (hindexed callee hmem)] at hrests

/-- The calls are recorded under the called methods if all types have a package. -/
theorem RestsOn.isRecorded_of_isQualified (h : chain.RestsOn index index.calleeKeys)
    (hqualified : ∀ callee ∈ chain.path.drop 1, Name.isQualified (Name.ownerOf callee) = true) :
    chain.IsRecorded index := by
  refine h.isRecorded_iff.2 fun callee hcallee => ?_
  obtain ⟨key, hkey, -⟩ := h.exists_records hcallee
  exact CallIndex.contains_of_isQualified (hqualified callee hcallee) hkey

end CallChain

namespace Trail

variable {index : CallIndex} {method : String} {trail : Trail}

/-- Each occurrence of a trail is among the references to the caller before it. -/
theorem LeadsFrom.mem_callersOf (h : trail.LeadsFrom index method) {i : Nat}
    {first second : Occurrence} (hfirst : trail[i]? = some first)
    (hsecond : trail[i + 1]? = some second) :
    second.reference ∈ index.callersOf first.reference.caller := by
  induction trail generalizing method i with
  | nil => cases hfirst
  | cons occurrence rest ih =>
    obtain ⟨-, hrest⟩ := h
    cases i with
    | succ i => exact ih hrest hfirst hsecond
    | zero =>
      obtain rfl : occurrence = first := by simpa using hfirst
      cases rest with
      | nil => cases hsecond
      | cons next rest =>
        obtain rfl : next = second := by simpa using hsecond
        exact CallIndex.reference_mem_of_mem_occurrences hrest.1

theorem LeadsFrom.head_mem_callersOf (h : trail.LeadsFrom index method) {first : Occurrence}
    (hfirst : trail.head? = some first) : first.reference ∈ index.callersOf method := by
  cases trail with
  | nil => cases hfirst
  | cons occurrence rest =>
    obtain rfl : occurrence = first := by simpa using hfirst
    exact CallIndex.reference_mem_of_mem_occurrences h.1

/-- The chain along a trail rests on the references of the trail. -/
theorem LeadsFrom.restsOn (h : trail.LeadsFrom index method) (table : String) :
    (trail.chain method table).RestsOn index index.calleeKeys where
  lines := by simp [chain, callers, lines]
  inner i caller callee line hcaller hline hcallee := by
    simp only [chain, callers, lines, ← List.map_reverse, List.getElem?_map,
      Option.map_eq_some_iff] at hcaller hline hcallee
    obtain ⟨upper, hupper, rfl⟩ := hcaller
    obtain ⟨upper', hupper', rfl⟩ := hline
    obtain ⟨lower, hlower, rfl⟩ := hcallee
    obtain rfl := Option.some.inj (hupper.symm.trans hupper')
    -- Chains are read from the other end.
    obtain ⟨hi, -⟩ := List.getElem?_eq_some_iff.1 hlower
    rw [List.length_reverse] at hi
    rw [List.getElem?_reverse (by omega)] at hupper hlower
    have hplace : trail.length - 1 - i = trail.length - 1 - (i + 1) + 1 := by omega
    rw [hplace] at hupper
    exact CallIndex.records_of_mem_callersOf (h.mem_callersOf hlower hupper)
  last caller line hcaller hline := by
    simp only [chain, callers, lines, List.getLast?_reverse, List.head?_map,
      Option.map_eq_some_iff] at hcaller hline
    obtain ⟨first, hfirst, rfl⟩ := hcaller
    obtain ⟨first', hfirst', rfl⟩ := hline
    obtain rfl := Option.some.inj (hfirst.symm.trans hfirst')
    exact CallIndex.records_of_mem_callersOf (h.head_mem_callersOf hfirst)

end Trail

namespace ChainSearch

/-- Every chain of a search rests on recorded calls. -/
theorem restsOn_of_mem_chains {s : Setting} {table : String} {chain : CallChain}
    (h : chain ∈ chains s table) : chain.RestsOn s.index s.index.calleeKeys := by
  by_cases hnone : s.completeTrails = []
  · rw [chains_of_no_trail s table hnone, List.mem_singleton] at h
    subst h
    have hempty : Trail.LeadsFrom s.index s.method [] := trivial
    exact hempty.restsOn table
  · rw [chains_of_trails s table hnone] at h
    obtain ⟨trail, htrail, rfl⟩ := List.mem_map.1 h
    exact (Setting.mem_completeTrails.1 htrail).leads.restsOn table

end ChainSearch

namespace Analyzer

/-- Every call of a chain is recorded under a method that the called one stands for. The calls
between methods of the chain are recorded under the called methods themselves if and only if all of
these are indexed, which they are if their types have packages. -/
theorem findChains_isRecorded_iff (analyzer : Analyzer) (policy : Policy) (method table : String)
    (hready : analyzer.ready = true) (hpolicy : analyzer.policy = policy.map .text) :
    ∃ chains, analyzer.findChains method table = .ok chains ∧ ∀ chain ∈ chains,
      chain.RestsOn analyzer.indices.calls analyzer.indices.calls.calleeKeys ∧
      (chain.IsRecorded analyzer.indices.calls ↔
        ∀ callee ∈ chain.path.drop 1, analyzer.indices.calls.contains callee = true) ∧
      ((∀ callee ∈ chain.path.drop 1, Name.isQualified (Name.ownerOf callee) = true) →
        chain.IsRecorded analyzer.indices.calls) := by
  refine ⟨_, findChains_eq hready hpolicy method table, fun chain hchain => ?_⟩
  have hrests : chain.RestsOn analyzer.indices.calls analyzer.indices.calls.calleeKeys :=
    ChainSearch.restsOn_of_mem_chains hchain
  exact ⟨hrests, hrests.isRecorded_iff, hrests.isRecorded_of_isQualified⟩

/-- A type without a package has the name of one in a package. -/
def namesakeSites : List CallSite :=
  [⟨"shop.OrderDao.find", "Main.run", "Main.java", 3⟩,
    ⟨"app.Main.run", "app.Boot.start", "Boot.java", 8⟩]

theorem findChains_isRecorded_iff_namesakeSites :
    (overSites namesakeSites).ready = true ∧
    (overSites namesakeSites).policy = Policy.standard.map .text ∧
    ∃ chains, (overSites namesakeSites).findChains "OrderDao.find" "ORDERS" = .ok chains ∧
      ∀ chain ∈ chains,
        (chain.IsRecorded (overSites namesakeSites).indices.calls ↔ ∀ callee ∈ chain.path.drop 1,
          (overSites namesakeSites).indices.calls.contains callee = true) := by
  obtain ⟨chains, hchains, hall⟩ := findChains_isRecorded_iff (overSites namesakeSites)
    Policy.standard "OrderDao.find" "ORDERS" rfl rfl
  exact ⟨rfl, rfl, chains, hchains, fun chain hchain => (hall chain hchain).2.1⟩

/-- The chain goes on from the namesake. -/
theorem not_isRecorded_namesakeSites :
    ∃ chain, (overSites namesakeSites).findChains "OrderDao.find" "ORDERS" = .ok [chain] ∧
      chain.path = ["app.Boot.start", "Main.run"] ∧ chain.lines = [8, 3] ∧
      ¬ (overSites namesakeSites).indices.calls.Records "Main.run" "app.Boot.start" 8 ∧
      ¬ chain.IsRecorded (overSites namesakeSites).indices.calls := by
  have hrecords : ¬ (overSites namesakeSites).indices.calls.Records "Main.run" "app.Boot.start" 8 := by
    decide +kernel
  refine ⟨⟨["app.Boot.start", "Main.run"], [8, 3], "OrderDao.find", "ORDERS"⟩, by decide +kernel,
    rfl, rfl, hrecords, ?_⟩
  intro hrecorded
  obtain ⟨key, hkey, hkeyed⟩ := hrecorded.inner 0 "app.Boot.start" "Main.run" 8 rfl rfl rfl
  rw [List.mem_singleton.1 hkey] at hkeyed
  exact hrecords hkeyed

end Analyzer

end Ripple
