-- SUMMARY: References to a method in the call index, and how identifiers share them.
import Ripple.Call.Index
import Mathlib.Data.List.Nodup

/-!
# References in the call index

What an identifier stands for is indexed under itself, so a called method that stands in for another
has no references beyond the references to that one. All references are among those that the index
counts.
-/

namespace Ripple.CallIndex

variable {index : CallIndex} {method callee : String} {ref : CallReference}

theorem contains_of_mem_callees (h : callee ∈ index.callees) : index.contains callee = true := by
  obtain ⟨entry, hmem, rfl⟩ := List.mem_map.1 h
  have hkey : index.callers.lookup entry.1 ≠ none := by
    intro hnone
    have := List.lookup_eq_none_iff.1 hnone entry hmem
    simp at this
  exact Option.isSome_iff_ne_none.2 hkey

theorem calleeKeys_of_contains (h : index.contains method = true) :
    index.calleeKeys method = [method] := by
  simp [calleeKeys, h]

/-- What an identifier stands for is indexed. -/
theorem contains_of_mem_calleeKeys (h : callee ∈ index.calleeKeys method) :
    index.contains callee = true := by
  unfold calleeKeys at h
  split at h
  next hmethod => rwa [List.mem_singleton.1 h]
  next =>
    dsimp only at h
    split at h
    · cases h
    · exact contains_of_mem_callees (List.mem_of_mem_filter h)

/-- Whoever calls a method that an identifier stands for is found under the identifier too. -/
theorem callersOf_subset_of_mem_calleeKeys (h : callee ∈ index.calleeKeys method) :
    index.callersOf callee ⊆ index.callersOf method := by
  intro ref href
  unfold callersOf at href ⊢
  rw [calleeKeys_of_contains (contains_of_mem_calleeKeys h)] at href
  have hown : ref ∈ index.referencesTo callee := by simpa using href
  exact List.mem_flatMap.2 ⟨callee, h, hown⟩

end Ripple.CallIndex
