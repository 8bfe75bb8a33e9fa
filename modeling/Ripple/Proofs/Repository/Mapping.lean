-- SUMMARY: Mappings are read back from their JSON form.
import Ripple.Repository.Mapping
import Ripple.Proofs.Except
import Ripple.Proofs.Fields
import Ripple.Proofs.Json.RoundTrip

/-!
# Mappings as JSON

Mappings that stand under their tables are read back as they were written.
-/

namespace Ripple

namespace TableMapping

theorem plain_record (m : TableMapping) : m.record.Plain := by
  have hlist (values : List String) : (Json.arr (values.map .str)).Plain := by
    refine .arr fun item hitem => ?_
    obtain ⟨value, -, rfl⟩ := List.mem_map.1 hitem
    exact .str value
  refine .obj (by simp) ?_
  intro field hfield
  simp only [map, List.mem_cons, List.not_mem_nil, or_false] at hfield
  obtain rfl | rfl | rfl | rfl := hfield
  · exact .str m.table
  · exact hlist m.mapperFiles
  · exact hlist m.classes
  · exact hlist m.methods

theorem ofRecord_record (m : TableMapping) : ofRecord m.record = .ok (m.map .str) := rfl

theorem map_str_injective : (TableMapping.map Json.str).Injective := by
  have hlist : (List.map Json.str).Injective := List.map_injective_iff.2 fun _ _ => Json.str.inj
  rintro ⟨⟩ ⟨⟩ h
  simp only [map, mk.injEq, Json.str.injEq, hlist.eq_iff] at h ⊢
  exact h

end TableMapping

namespace RepositoryMappings

theorem json_eq (mappings : RepositoryMappings) :
    mappings.json = .arr (List.map (fun entry => entry.2.record) mappings) := by
  simp [json, toJson, map, TableMapping.record, Function.comp_def]

theorem plain_json (mappings : RepositoryMappings) : mappings.json.Plain := by
  rw [json_eq]
  refine .arr fun item hitem => ?_
  obtain ⟨entry, -, rfl⟩ := List.mem_map.1 hitem
  exact entry.2.plain_record

theorem isEmpty_json (mappings : RepositoryMappings) :
    mappings.json.isEmpty = List.isEmpty mappings := by
  rw [json_eq]
  cases mappings <;> rfl

theorem map_str_injective : (RepositoryMappings.map Json.str).Injective := by
  refine List.map_injective_iff.2 ?_
  rintro ⟨table, mapping⟩ ⟨table', mapping'⟩ h
  obtain ⟨htable, hmapping⟩ := Prod.mk.inj h
  rw [Json.str.inj htable, TableMapping.map_str_injective hmapping]

/-- Every mapping stands under its table, and no table has two. -/
structure IsKeyed (mappings : RepositoryMappings) : Prop where
  distinct : (List.map (·.1) mappings).Nodup
  table : ∀ entry ∈ mappings, entry.2.table = entry.1

theorem putField_map_str (table : String) (m : TableMapping) (mappings : RepositoryMappings) :
    putField (.str table) (m.map .str) (mappings.map .str) =
      RepositoryMappings.map Json.str (putField table m mappings) := by
  induction mappings with
  | nil => rfl
  | cons entry mappings ih =>
    obtain ⟨t, m'⟩ := entry
    simp only [map] at ih
    simp only [map, List.map_cons, putField, Json.beq_str, ih]
    cases t == table <;> rfl

theorem mapping?_map_str (table : String) (mappings : RepositoryMappings) :
    (mappings.map .str).mapping? table =
      (List.lookup table mappings).map (TableMapping.map .str) := by
  induction mappings with
  | nil => rfl
  | cons entry mappings ih =>
    obtain ⟨t, m⟩ := entry
    simp only [mapping?, map, List.map_cons, List.lookup_cons, Json.beq_str] at ih ⊢
    split
    · rfl
    · exact ih

/-- Mappings are taken over one after the other. -/
theorem foldlM_put {done rest : RepositoryMappings}
    (h : IsKeyed (done ++ rest)) :
    (List.map (fun entry => entry.2.map Json.str) rest).foldlM put (done.map .str) =
      .ok (RepositoryMappings.map .str (done ++ rest)) := by
  induction rest generalizing done with
  | nil =>
    rw [List.append_nil]
    rfl
  | cons entry rest ih =>
    obtain ⟨table, m⟩ := entry
    obtain rfl : m.table = table := h.table (table, m) (by simp)
    have hnew : m.table ∉ List.map (·.1) done := by
      have hnodup := h.distinct
      rw [List.map_append, List.nodup_append] at hnodup
      exact fun hmem => hnodup.2.2 _ hmem _ (by simp) rfl
    have hput : put (done.map .str) (m.map .str) =
        .ok (RepositoryMappings.map .str (done ++ [(m.table, m)])) := by
      rw [← putField_of_notMem m hnew, ← putField_map_str]
      rfl
    rw [List.append_cons] at h ⊢
    rw [List.map_cons, List.foldlM_cons, hput]
    exact ih h

theorem ofJson_json {mappings : RepositoryMappings} (h : mappings.IsKeyed) :
    ofJson mappings.json = .ok (mappings.map .str) := by
  have hrecords : (List.map (fun entry => entry.2.record) mappings).mapM TableMapping.ofRecord =
      .ok (List.map (fun entry => entry.2.map Json.str) mappings) :=
    mapM_map_eq_ok (fun entry => TableMapping.ofRecord_record entry.2) mappings
  rw [json_eq]
  unfold ofJson
  simp only [Json.items, bind, Except.bind, hrecords]
  have hnone : IsKeyed ([] ++ mappings) := h
  exact foldlM_put hnone

end RepositoryMappings

end Ripple
