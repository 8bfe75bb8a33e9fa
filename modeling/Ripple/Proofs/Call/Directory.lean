-- SUMMARY: A directory of calls answers as a new one would, whatever was asked before.
import Ripple.Call.Directory
import Ripple.Proofs.Call.Index
import Ripple.Proofs.Fields
import Ripple.Proofs.Name.Method

/-!
# Answers about calls

However calls are added and asked about, the table of short identifiers is not made or up to date.
So every question is answered from the calls that were added up to then, as it would be by a
directory of these calls that was never asked anything.
-/

namespace Ripple

namespace CallIndex

/-! ## Values under keys -/

section
variable {α β : Type} [BEq α]

/-- The values of pairs under their keys, in the order of the pairs. -/
def grouped (pairs : List (α × β)) : List (α × List β) :=
  pairs.foldl (fun table pair => addTo pair.1 pair.2 table) []

theorem grouped_concat (pairs : List (α × β)) (pair : α × β) :
    grouped (pairs ++ [pair]) = addTo pair.1 pair.2 (grouped pairs) := by
  simp [grouped]

variable [LawfulBEq α]

theorem keys_addTo (key : α) (value : β) (table : List (α × List β)) :
    (addTo key value table).map (·.1) =
      table.map (·.1) ++ if key ∈ table.map (·.1) then [] else [key] := by
  induction table with
  | nil => rfl
  | cons entry table ih =>
    obtain ⟨k, values⟩ := entry
    by_cases hkey : k = key
    · simp [addTo, hkey]
    · have hmem : key ∈ k :: table.map (·.1) ↔ key ∈ table.map (·.1) := by
        simp [Ne.symm hkey]
      simp only [addTo, beq_eq_false_iff_ne.2 hkey, Bool.false_eq_true, if_false, hmem,
        List.map_cons, ih, List.cons_append]

theorem lookup_addTo (key : α) (value : β) (table : List (α × List β)) (asked : α) :
    ((addTo key value table).lookup asked).getD [] =
      (table.lookup asked).getD [] ++ if asked == key then [value] else [] := by
  induction table with
  | nil => cases hasked : asked == key <;> simp [addTo, List.lookup_cons, hasked]
  | cons entry table ih =>
    obtain ⟨k, values⟩ := entry
    by_cases hkey : k = key
    · subst hkey
      cases hasked : asked == k <;> simp [addTo, List.lookup_cons, hasked]
    · -- the entries up to the key are passed over
      have hpassed : addTo key value ((k, values) :: table) =
          (k, values) :: addTo key value table := by simp [addTo, hkey]
      rw [hpassed, List.lookup_cons, List.lookup_cons]
      cases hasked : asked == k with
      | true =>
        have hne : (asked == key) = false := by simpa [eq_of_beq hasked] using hkey
        simp [hne]
      | false => exact ih

theorem length_values_addTo (key : α) (value : β) (table : List (α × List β)) :
    ((addTo key value table).flatMap (·.2)).length = (table.flatMap (·.2)).length + 1 := by
  induction table with
  | nil => rfl
  | cons entry table ih =>
    obtain ⟨k, values⟩ := entry
    by_cases hkey : k = key
    · simp only [addTo, hkey, beq_self_eq_true, if_true, List.flatMap_cons, List.length_append,
        List.length_singleton]
      omega
    · simp only [addTo, beq_eq_false_iff_ne.2 hkey, Bool.false_eq_true, if_false,
        List.flatMap_cons, List.length_append, ih]
      omega

theorem keys_grouped (pairs : List (α × β)) :
    (grouped pairs).map (·.1) = (pairs.map (·.1)).eraseDups := by
  induction pairs using List.reverseRecOn with
  | nil => rfl
  | append_singleton pairs pair ih =>
    rw [grouped_concat, keys_addTo, ih, List.map_append, List.eraseDups_append]
    by_cases hmem : pair.1 ∈ pairs.map (·.1)
    · simp [List.removeAll, hmem, List.mem_eraseDups]
    · simp [List.removeAll, hmem, List.mem_eraseDups, List.eraseDups_cons]

theorem lookup_grouped (pairs : List (α × β)) (asked : α) :
    ((grouped pairs).lookup asked).getD [] = (pairs.filter (asked == ·.1)).map (·.2) := by
  induction pairs using List.reverseRecOn with
  | nil => rfl
  | append_singleton pairs pair ih =>
    rw [grouped_concat, lookup_addTo, ih, List.filter_append, List.map_append]
    cases hasked : asked == pair.1 <;> simp [hasked]

theorem length_values_grouped (pairs : List (α × β)) :
    ((grouped pairs).flatMap (·.2)).length = pairs.length := by
  induction pairs using List.reverseRecOn with
  | nil => rfl
  | append_singleton pairs pair ih =>
    rw [grouped_concat, length_values_addTo, ih, List.length_append, List.length_singleton]

end

/-! ## The index of call sites -/

theorem callers_ofSites (sites : List CallSite) :
    (ofSites sites).callers = grouped (sites.map fun site => (site.callee, site.reference)) := by
  induction sites using List.reverseRecOn with
  | nil => rfl
  | append_singleton sites site ih =>
    rw [List.map_append, List.map_singleton, grouped_concat, ← ih, ofSites, List.foldl_append]
    rfl

theorem callees_ofSites (sites : List CallSite) :
    (ofSites sites).callees = (sites.map (·.callee)).eraseDups := by
  rw [callees, callers_ofSites, keys_grouped, List.map_map]
  rfl

theorem referencesTo_ofSites (sites : List CallSite) (callee : String) :
    (ofSites sites).referencesTo callee =
      (sites.filter (callee == ·.callee)).map (·.reference) := by
  rw [referencesTo, callers_ofSites, lookup_grouped, List.filter_map, List.map_map]
  rfl

theorem totalReferences_ofSites (sites : List CallSite) :
    (ofSites sites).totalReferences = sites.length := by
  rw [totalReferences, callers_ofSites, length_values_grouped, List.length_map]

theorem contains_iff_mem_callees {index : CallIndex} {method : String} :
    index.contains method = true ↔ method ∈ index.callees := by
  refine ⟨fun h => ?_, contains_of_mem_callees⟩
  obtain ⟨references, hfound⟩ := Option.isSome_iff_exists.1 h
  exact List.mem_map.2 ⟨_, mem_of_lookup hfound, rfl⟩

end CallIndex

namespace CallDirectory

/-! ## The table is up to date -/

/-- The table of short identifiers is that of the index, if it is made. -/
def IsCurrent (directory : CallDirectory) : Prop :=
  ∀ table, directory.shortNames? = some table → table = shortNames directory.index

variable {directory : CallDirectory}

theorem isCurrent_add (directory : CallDirectory) (site : CallSite) :
    (directory.add site).IsCurrent :=
  fun _ h => nomatch h

theorem withShortNames_spec (h : directory.IsCurrent) :
    directory.withShortNames.1 = shortNames directory.index ∧
      directory.withShortNames.2.index = directory.index ∧
      directory.withShortNames.2.IsCurrent := by
  unfold withShortNames
  split
  next table hmade => exact ⟨h table hmade, rfl, h⟩
  next =>
    refine ⟨rfl, rfl, fun table htable => ?_⟩
    exact (Option.some.inj htable).symm

/-- The methods under a short identifier are those with this short form. -/
theorem lookup_shortNames (index : CallIndex) (short : String) :
    ((shortNames index).lookup short).getD [] =
      index.callees.filter (Name.simpleMethod · == short) := by
  have htable : shortNames index =
      CallIndex.grouped (index.callees.map fun callee => (Name.simpleMethod callee, callee)) := by
    rw [shortNames, CallIndex.grouped, List.foldl_map]
  rw [htable, CallIndex.lookup_grouped, List.filter_map, List.map_map]
  simp only [Function.comp_def, List.map_id_fun', id]
  exact List.filter_congr fun callee _ => BEq.comm

theorem calleeKeys_spec (h : directory.IsCurrent) (method : String) :
    (directory.calleeKeys method).1 = directory.index.calleeKeys method ∧
      (directory.calleeKeys method).2.index = directory.index ∧
      (directory.calleeKeys method).2.IsCurrent := by
  obtain ⟨htable, hindex, hcurrent⟩ := withShortNames_spec h
  unfold calleeKeys CallIndex.calleeKeys
  split
  · exact ⟨rfl, rfl, h⟩
  · dsimp only
    split
    · exact ⟨rfl, rfl, h⟩
    · exact ⟨by rw [htable, lookup_shortNames], hindex, hcurrent⟩

theorem callersOf_spec (h : directory.IsCurrent) (method : String) :
    (directory.callersOf method).1 = directory.index.callersOf method ∧
      (directory.callersOf method).2.index = directory.index ∧
      (directory.callersOf method).2.IsCurrent := by
  obtain ⟨hkeys, hindex, hcurrent⟩ := calleeKeys_spec h method
  refine ⟨?_, hindex, hcurrent⟩
  simp only [callersOf, CallIndex.callersOf, hkeys, hindex]

/-- A question changes no call, and leaves the table up to date. -/
theorem ask_spec (h : directory.IsCurrent) (query : Query) :
    (directory.ask query).2.index = directory.index ∧ (directory.ask query).2.IsCurrent := by
  cases query with
  | keys method => exact (calleeKeys_spec h method).2
  | callers method => exact (callersOf_spec h method).2
  | contains method => exact ⟨rfl, h⟩
  | callees => exact ⟨rfl, h⟩
  | size => exact ⟨rfl, h⟩

/-- Directories of the same calls give the same answers. -/
theorem ask_congr {other : CallDirectory} (h : directory.IsCurrent) (hother : other.IsCurrent)
    (hindex : directory.index = other.index) (query : Query) :
    (directory.ask query).1 = (other.ask query).1 := by
  cases query with
  | keys method =>
    simp only [ask, (calleeKeys_spec h method).1, (calleeKeys_spec hother method).1, hindex]
  | callers method =>
    simp only [ask, (callersOf_spec h method).1, (callersOf_spec hother method).1, hindex]
  | contains method => simp only [ask, hindex]
  | callees => simp only [ask, hindex]
  | size => simp only [ask, hindex]

/-! ## Any requests -/

/-- The call that a request adds. -/
def Request.site? : Request → Option CallSite
  | .add site => some site
  | .ask _ => none

/-- A directory of some calls whose table is up to date. -/
structure Holds (directory : CallDirectory) (sites : List CallSite) : Prop where
  index : directory.index = CallIndex.ofSites sites
  current : directory.IsCurrent

theorem holds_empty : Holds {} [] :=
  ⟨rfl, fun _ h => nomatch h⟩

theorem Holds.add {sites : List CallSite} (h : directory.Holds sites) (site : CallSite) :
    (directory.add site).Holds (sites ++ [site]) where
  index := by simp [CallDirectory.add, h.index, CallIndex.ofSites]
  current := isCurrent_add directory site

theorem Holds.handle {sites : List CallSite} (h : directory.Holds sites) (request : Request) :
    (directory.handle request).2.Holds (sites ++ request.site?.toList) := by
  cases request with
  | add site =>
    obtain ⟨hindex, hcurrent⟩ := ask_spec (h.add site).current .size
    exact ⟨hindex.trans (h.add site).index, hcurrent⟩
  | ask query =>
    obtain ⟨hindex, hcurrent⟩ := ask_spec h.current query
    rw [Request.site?, Option.toList_none, List.append_nil]
    exact ⟨hindex.trans h.index, hcurrent⟩

theorem Holds.run {sites : List CallSite} (h : directory.Holds sites) (requests : List Request) :
    (directory.run requests).2.Holds (sites ++ requests.filterMap Request.site?) := by
  induction requests generalizing directory sites with
  | nil => simpa [CallDirectory.run] using h
  | cons request requests ih =>
    have hrest := ih (h.handle request)
    rw [List.append_assoc] at hrest
    cases hsite : request.site? <;> simpa [CallDirectory.run, hsite] using hrest

theorem holds_ofSites (sites : List CallSite) : (ofSites sites).Holds sites := by
  induction sites using List.reverseRecOn with
  | nil => exact holds_empty
  | append_singleton sites site ih =>
    rw [ofSites, List.foldl_append]
    exact ih.add site

/-! ## Which methods an identifier stands for -/

/-- The called methods that an identifier stands for: the one that it names, or else, if its type is
a bare name, all whose last two segments it is, each once and in the order of their first call. -/
def keysAmong (sites : List CallSite) (method : String) : List String :=
  let callees := sites.map (·.callee)
  if method ∈ callees then [method]
  else if Name.ownerOf method ≠ "" ∧ '.' ∉ (Name.ownerOf method).toList then
    callees.eraseDups.filter (Name.lastTwo · = method)
  else []

/-- The references of the calls of a method, in the order of the calls. -/
def referencesAmong (sites : List CallSite) (callee : String) : List CallReference :=
  (sites.filter (·.callee = callee)).map (·.reference)

theorem calleeKeys_ofSites (sites : List CallSite) (method : String) :
    (CallIndex.ofSites sites).calleeKeys method = keysAmong sites method := by
  have hcontains : (CallIndex.ofSites sites).contains method = true ↔
      method ∈ sites.map (·.callee) := by
    rw [CallIndex.contains_iff_mem_callees, CallIndex.callees_ofSites, List.mem_eraseDups]
  have howner : ((Name.ownerOf method).isEmpty || Name.isQualified (Name.ownerOf method)) = true ↔
      ¬ (Name.ownerOf method ≠ "" ∧ '.' ∉ (Name.ownerOf method).toList) := by
    simp [Name.isQualified, Name.isPoint, or_iff_not_imp_left]
  simp only [CallIndex.calleeKeys, keysAmong, hcontains, howner, CallIndex.callees_ofSites, ite_not]
  split
  · rfl
  · split
    next hshort =>
      refine List.filter_congr fun callee _ => ?_
      rw [Bool.eq_iff_iff, beq_iff_eq, decide_eq_true_iff, Name.simpleMethod_eq_iff hshort.1]
    · rfl

/-- After any requests, each question is answered as by a new directory of the calls that were
added. An identifier stands for the called methods that `keysAmong` tells, the references to it are
those to these methods, one method after the other, and there are as many references as calls were
added. -/
theorem run_answers_as_new (requests : List Request) :
    let directory := (run {} requests).2
    let sites := requests.filterMap Request.site?
    (∀ query, (directory.ask query).1 = ((ofSites sites).ask query).1) ∧
      (∀ method, (directory.calleeKeys method).1 = keysAmong sites method) ∧
      (∀ method, (directory.callersOf method).1 =
        (keysAmong sites method).flatMap (referencesAmong sites)) ∧
      directory.index.totalReferences = sites.length := by
  intro directory sites
  have hheld : directory.Holds sites := holds_empty.run requests
  refine ⟨fun query => ?_, fun method => ?_, fun method => ?_, ?_⟩
  · exact ask_congr hheld.current (holds_ofSites sites).current
      (hheld.index.trans (holds_ofSites sites).index.symm) query
  · rw [(calleeKeys_spec hheld.current method).1, hheld.index, calleeKeys_ofSites]
  · have hreferences : (CallIndex.ofSites sites).referencesTo = referencesAmong sites := by
      funext callee
      rw [CallIndex.referencesTo_ofSites, referencesAmong]
      refine congrArg _ (List.filter_congr fun site _ => ?_)
      rw [Bool.eq_iff_iff, beq_iff_eq, decide_eq_true_iff, eq_comm]
    rw [(callersOf_spec hheld.current method).1, hheld.index, CallIndex.callersOf,
      calleeKeys_ofSites, hreferences]
  · rw [hheld.index, CallIndex.totalReferences_ofSites]

end CallDirectory

end Ripple
