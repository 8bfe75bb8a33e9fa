-- SUMMARY: The call index: adding call sites, and looking up what calls a method.
import Ripple.Call.Site
import Ripple.Json.Basic
import Ripple.Name.Method

/-! # The index of calls

Which calls lead to a method.
-/

namespace Ripple

/-- The references to each called method, in the order in which the methods were first called. -/
structure CallIndex (ν : Type := String) where
  callers : List (ν × List (CallReference ν)) := []
  filesIndexed : Nat := 0
  filesFailed : Nat := 0
  unresolved : Nat := 0

namespace CallIndex

/-- Adds an element to the list of a key, which is put at the end if it is new. -/
def addTo [BEq α] (key : α) (value : β) : List (α × List β) → List (α × List β)
  | [] => [(key, [value])]
  | (k, values) :: rest =>
    if k == key then (k, values ++ [value]) :: rest else (k, values) :: addTo key value rest

def add [BEq ν] (index : CallIndex ν) (site : CallSite ν) : CallIndex ν :=
  { index with callers := addTo site.callee site.reference index.callers }

def ofSites [BEq ν] (sites : List (CallSite ν)) : CallIndex ν :=
  sites.foldl add {}

def callees (index : CallIndex ν) : List ν :=
  index.callers.map (·.1)

def totalReferences (index : CallIndex ν) : Nat :=
  (index.callers.flatMap (·.2)).length

/-- The references under a called method. -/
def referencesTo [BEq ν] (index : CallIndex ν) (callee : ν) : List (CallReference ν) :=
  (index.callers.lookup callee).getD []

def contains [BEq ν] (index : CallIndex ν) (callee : ν) : Bool :=
  (index.callers.lookup callee).isSome

/-- The called methods that an identifier stands for: itself, or, if the name of its type has no
package, all with the same last two segments. -/
def calleeKeys (index : CallIndex) (method : String) : List String :=
  if index.contains method then [method]
  else
    let owner := Name.ownerOf method
    if owner.isEmpty || Name.isQualified owner then []
    else index.callees.filter fun callee => Name.simpleMethod callee == method

/-- The references to a method. -/
def callersOf (index : CallIndex) (method : String) : List CallReference :=
  (index.calleeKeys method).flatMap index.referencesTo

variable {index : CallIndex} {method callee : String} {ref : CallReference}

theorem mem_references_of_mem_referencesTo (h : ref ∈ index.referencesTo callee) :
    ref ∈ index.callers.flatMap (·.2) := by
  unfold referencesTo at h
  cases hfound : index.callers.lookup callee with
  | none => simp [hfound] at h
  | some references =>
    obtain ⟨before, after, hsplit, -⟩ := List.lookup_eq_some_iff.1 hfound
    have hentry : (callee, references) ∈ index.callers := by rw [hsplit]; simp
    exact List.mem_flatMap.2 ⟨_, hentry, by simpa [hfound] using h⟩

theorem mem_references_of_mem_callersOf (h : ref ∈ index.callersOf method) :
    ref ∈ index.callers.flatMap (·.2) := by
  obtain ⟨callee, -, hown⟩ := List.mem_flatMap.1 h
  exact mem_references_of_mem_referencesTo hown

end CallIndex

end Ripple
