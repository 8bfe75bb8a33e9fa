-- SUMMARY: A table with statements and a mapping of texts is found, without a warning that it is unknown.
import Ripple.Impact.Analysis
import Ripple.Proofs.Repository.Mapping

/-!
# What is found for a table

A table that has statements and a mapping of texts is known: its result is under its name, and there
is no warning that nothing is known about it.
-/

namespace Ripple

/-- What is left without repetitions was there before. -/
theorem mem_of_mem_eraseDups [BEq α] {item : α} :
    ∀ {items : List α}, item ∈ items.eraseDups → item ∈ items
  | [], h => by cases h
  | first :: rest, h => by
    rw [List.eraseDups_cons] at h
    obtain rfl | h := List.mem_cons.1 h
    · exact List.mem_cons_self
    · exact List.mem_cons_of_mem _ (List.mem_filter.1 (mem_of_mem_eraseDups h)).1
termination_by items => items.length
decreasing_by exact Nat.lt_succ_of_le (List.length_filter_le _ _)

/-- Of two beginnings of a text, one is a beginning of the other. -/
theorem begins_of_append_eq {first second rest rest' : String}
    (h : first ++ rest = second ++ rest') :
    first.toList <+: second.toList ∨ second.toList <+: first.toList := by
  have hlists : first.toList ++ rest.toList = second.toList ++ rest'.toList := by
    rw [← String.toList_append, ← String.toList_append, h]
  have hsecond : second.toList <+: first.toList ++ rest.toList := by
    rw [hlists]
    exact List.prefix_append _ _
  exact List.prefix_or_prefix_of_prefix (List.prefix_append _ _) hsecond

namespace Impact

theorem methodTexts_map_str (m : TableMapping) : (m.map Json.str).methodTexts = .ok m.methods := by
  simp only [TableMapping.methodTexts, TableMapping.map]
  induction m.methods with
  | nil => rfl
  | cons method methods ih =>
    rw [List.map_cons, List.mapM_cons, ih]
    rfl

section
variable {indices : Indices} {table : String} {calls : CallIndex} {layers : Layers}

/-- What is found for a table with a mapping: its methods, and its statements if there is one. -/
def known (indices : Indices) (table : String) (mapping : TableMapping) : Finding :=
  if (TableMapping.resolvedOf mapping.methods).isEmpty then .unlinked mapping.methods
  else .linked (indices.tables.statements table) mapping.methods

theorem find_of_mapping (hstatements : indices.tables.statements table ≠ [])
    {mapping : TableMapping}
    (hmapping : indices.mappings.mapping? table = some (mapping.map .str)) :
    find indices table = .ok (known indices table mapping) := by
  unfold find known
  rw [hmapping]
  split
  · contradiction
  · contradiction
  · rename_i found hfound _
    cases hfound
    rw [methodTexts_map_str]
    rfl

theorem known_ne_unknown (mapping : TableMapping) : known indices table mapping ≠ .unknown := by
  unfold known
  split <;> nofun

@[simp]
theorem table_ofFinding (finding : Finding) : (ofFinding calls layers table finding).table = table := by
  cases finding <;> rfl

/-- No other warning reads as the one that nothing is known about a table. -/
theorem unknownWarning_notMem {finding : Finding} (h : finding ≠ .unknown) (other : String) :
    unknownWarning other ∉ (ofFinding calls layers table finding).warnings := by
  intro hmem
  -- The texts of the warnings differ in what stands before the names.
  cases finding with
  | unknown => exact h rfl
  | unlinked methods =>
    have hbegins := begins_of_append_eq (List.mem_singleton.1 hmem)
    revert hbegins
    decide
  | linked statements methods =>
    obtain hmem | hmem := List.mem_append.1 hmem
    · obtain ⟨owner, -, howner⟩ := List.mem_map.1 hmem
      have hbegins := begins_of_append_eq howner
      revert hbegins
      decide
    · obtain ⟨⟨method, chains⟩, -, hmem⟩ := List.mem_flatMap.1 hmem
      simp only [callerWarning] at hmem
      split at hmem
      · have hbegins := begins_of_append_eq (List.mem_singleton.1 hmem)
        revert hbegins
        decide
      · cases hmem

/-- Where statements hold texts, every impact can be told apart from others. -/
theorem isKey_ofFinding {statements : List Statement} {methods : List String} :
    (ofFinding calls layers table
      (.linked (statements.map (Statement.map .str)) methods)).impacts.all TableImpact.isKey =
        true := by
  refine List.all_eq_true.2 fun impact himpact => ?_
  obtain ⟨chain, -, hchain⟩ := List.mem_flatMap.1 (mem_of_mem_eraseDups himpact)
  unfold ofChain at hchain
  split at hchain
  · cases hchain
  · obtain ⟨⟨statement, method⟩, hpair, rfl⟩ := List.mem_map.1 hchain
    obtain ⟨hzip, -⟩ := List.mem_filter.1 hpair
    obtain ⟨s, -, rfl⟩ := List.mem_map.1 (List.of_mem_zip hzip).1
    rfl

end

end Impact

end Ripple
