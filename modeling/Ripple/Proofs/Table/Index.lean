-- SUMMARY: The table index is read back from its JSON form.
import Ripple.Table.Index
import Ripple.Proofs.Except
import Ripple.Proofs.Json.RoundTrip

/-! # The index of tables in JSON

The index is read back from its JSON data as it was, and its tables are different.
-/

namespace Ripple

namespace Statement

theorem plain_record (s : Statement) : s.record.Plain := by
  refine .obj (by simp) ?_
  intro field hfield
  simp only [map, List.mem_cons, List.not_mem_nil, or_false] at hfield
  obtain rfl | rfl | rfl | rfl | rfl | rfl := hfield <;> exact .str _

theorem ofRecord_record (s : Statement) : ofRecord s.record = .ok (s.map .str) := rfl

end Statement

namespace TableIndex

theorem json_eq (index : TableIndex) :
    index.json = .obj (List.map (fun (table, statements) =>
      (table, .arr (statements.map Statement.record))) index) := by
  simp [json, toJson, map, Statement.record, Function.comp_def]

theorem ofJson_json (index : TableIndex) : ofJson index.json = .ok (index.map .str) := by
  rw [json_eq]
  refine mapM_map_eq_ok (fun (table, statements) => ?_) index
  simp only [Json.items, bind, Except.bind, mapM_map_eq_ok Statement.ofRecord_record]
  rfl

/-- The tables of an index are different. -/
def IsDistinct (index : TableIndex) : Prop :=
  index.tables.Nodup

theorem plain_json {index : TableIndex} (h : index.IsDistinct) : index.json.Plain := by
  rw [json_eq]
  refine .obj (by rw [List.map_map]; exact h) ?_
  intro field hfield
  obtain ⟨entry, -, rfl⟩ := List.mem_map.1 hfield
  refine .arr fun item hitem => ?_
  obtain ⟨statement, -, rfl⟩ := List.mem_map.1 hitem
  exact statement.plain_record

theorem isEmpty_json (index : TableIndex) : index.json.isEmpty = List.isEmpty index := by
  rw [json_eq]
  cases index <;> rfl

theorem IsDistinct.add {index : TableIndex} (h : index.IsDistinct) (statement : Statement)
    (table : String) : (index.add statement table).IsDistinct :=
  nodup_keys_putField table _ h

theorem IsDistinct.addMention {index : TableIndex} (h : index.IsDistinct)
    (mention : Statement × List String) : (index.addMention mention).IsDistinct := by
  unfold TableIndex.addMention
  induction mention.2 generalizing index with
  | nil => exact h
  | cons table tables ih => exact ih (h.add mention.1 table)

/-- Every statement has a name. -/
def IsNamed (index : TableIndex) : Prop :=
  ∀ entry ∈ index, ∀ s ∈ entry.2, s.statementId ≠ ""

theorem mem_addNew {statement s : Statement} {statements : List Statement}
    (h : s ∈ addNew statement statements) : s = statement ∨ s ∈ statements := by
  unfold addNew at h
  split at h
  · exact .inr h
  · obtain h | h := List.mem_append.1 h
    · exact .inr h
    · exact .inl (List.mem_singleton.1 h)

theorem IsNamed.add {index : TableIndex} (h : index.IsNamed) {statement : Statement}
    (hstatement : statement.statementId ≠ "") (table : String) :
    (index.add statement table).IsNamed := by
  intro entry hentry s hs
  obtain rfl | hentry := mem_putField hentry
  · obtain rfl | hs := mem_addNew hs
    · exact hstatement
    · unfold statements at hs
      cases hlookup : index.lookup table with
      | none =>
        rw [hlookup] at hs
        cases hs
      | some old =>
        rw [hlookup] at hs
        exact h _ (mem_of_lookup hlookup) s hs
  · exact h entry hentry s hs

theorem IsNamed.addMention {index : TableIndex} (h : index.IsNamed)
    {mention : Statement × List String} (hmention : mention.1.statementId ≠ "") :
    (index.addMention mention).IsNamed := by
  unfold TableIndex.addMention
  induction mention.2 generalizing index with
  | nil => exact h
  | cons table tables ih => exact ih (h.add hmention table)

end TableIndex

end Ripple
