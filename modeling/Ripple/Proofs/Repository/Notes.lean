-- SUMMARY: Which indices have the same notes for their mappings.
import Ripple.Proofs.Repository.Resolution

/-!
# What the notes tell of an index

The notes of an index are in order, so they do not tell the order of its statements. They tell all
else that statements are linked by, as long as no name holds the bar between the parts of a note.
-/

namespace Ripple.Repository

/-- The note of a statement under a table. -/
def note (table : String) (s : Statement) : String :=
  table ++ "|" ++ s.mapperPath ++ "|" ++ s.space ++ "|" ++ s.statementId

/-- The part of a statement that its note tells. -/
def outline (s : Statement) : Statement :=
  { s with moduleName := "", kind := "", rawSql := "" }

theorem resolution_outline (settings : Settings) (files : Disk) (s : Statement) :
    resolution settings files (outline s) = resolution settings files s := by
  unfold resolution
  dsimp only [outline]
  cases declared? settings files (repositoryFile (Path.ofText s.mapperPath)) <;> rfl

/-- The statement that a note tells of, with its table. -/
def ofNote? (text : String) : Option (String × Statement) :=
  match (text.toList.splitOn '|').map String.ofList with
  | [table, mapperPath, space, statementId] =>
    some (table, { moduleName := "", mapperPath, space, statementId, kind := "", rawSql := "" })
  | _ => none

/-- No name holds the bar. -/
def IsUnbarred (index : TableIndex) : Prop :=
  ∀ entry ∈ index, '|' ∉ entry.1.toList ∧ ∀ s ∈ entry.2,
    '|' ∉ s.mapperPath.toList ∧ '|' ∉ s.space.toList ∧ '|' ∉ s.statementId.toList

theorem ofNote?_note {table : String} {s : Statement} (htable : '|' ∉ table.toList)
    (hmapper : '|' ∉ s.mapperPath.toList) (hspace : '|' ∉ s.space.toList)
    (hid : '|' ∉ s.statementId.toList) : ofNote? (note table s) = some (table, outline s) := by
  have hnote : (note table s).toList = ['|'].intercalate
      [table.toList, s.mapperPath.toList, s.space.toList, s.statementId.toList] := by
    simp [note, List.intercalate]
  have hsplit : (note table s).toList.splitOn '|' =
      [table.toList, s.mapperPath.toList, s.space.toList, s.statementId.toList] := by
    rw [hnote]
    exact List.splitOn_intercalate '|' (by simp [htable, hmapper, hspace, hid]) (by simp)
  simp [ofNote?, hsplit, outline]

/-- The outlines of all statements, each with its table. -/
def outlines (index : TableIndex) : List (String × Statement) :=
  index.flatMap fun entry => entry.2.map fun s => (entry.1, outline s)

/-- The notes tell the outlines, but not their order. -/
theorem filterMap_notes {index : TableIndex} (h : IsUnbarred index) :
    ((notes index).filterMap ofNote?).Perm (outlines index) := by
  have hperm : (notes index).Perm (index.flatMap fun entry => entry.2.map (note entry.1)) :=
    Text.sortWith_perm _ _
  refine (hperm.filterMap ofNote?).trans (.of_eq ?_)
  unfold outlines
  rw [List.filterMap_flatMap]
  refine List.flatMap_congr fun entry hentry => ?_
  obtain ⟨htable, hstatements⟩ := h entry hentry
  rw [List.filterMap_map, ← List.filterMap_eq_map]
  refine List.filterMap_congr fun s hs => ?_
  obtain ⟨hmapper, hspace, hid⟩ := hstatements s hs
  exact ofNote?_note htable hmapper hspace hid

/-- The outlines that stand with a table are those of its statements. -/
theorem filter_outlines {index : TableIndex} (h : index.IsDistinct) (table : String) :
    ((outlines index).filter (·.1 == table)).map (·.2) =
      (index.statements table).map outline := by
  induction index with
  | nil => rfl
  | cons entry index ih =>
    obtain ⟨t, statements⟩ := entry
    obtain ⟨hnew, hrest⟩ := List.nodup_cons.1 h
    have hcons : outlines ((t, statements) :: index) =
        statements.map (fun s => (t, outline s)) ++ outlines index := rfl
    rw [hcons, List.filter_append, List.map_append, ih hrest, List.filter_map, List.map_map]
    unfold TableIndex.statements
    rw [List.lookup_cons]
    by_cases htable : table = t
    · subst htable
      have hnone : index.lookup table = none :=
        List.lookup_eq_none_iff.2 fun entry hentry => by
          simp only [bne_iff_ne, ne_eq]
          rintro rfl
          exact hnew (List.mem_map.2 ⟨entry, hentry, rfl⟩)
      simp [hnone, Function.comp_def]
    · have hne : (table == t) = false := beq_eq_false_iff_ne.2 htable
      have hne' : (t == table) = false := beq_eq_false_iff_ne.2 (Ne.symm htable)
      simp [hne, hne', Function.comp_def]

/-- Indices with the same notes have the same outlines under each table. -/
theorem outline_perm_of_notes {index index' : TableIndex} (hnotes : notes index' = notes index)
    (h : index.IsDistinct) (h' : index'.IsDistinct) (hbar : IsUnbarred index)
    (hbar' : IsUnbarred index') (table : String) :
    ((index'.statements table).map outline).Perm ((index.statements table).map outline) := by
  have houtlines : (outlines index').Perm (outlines index) := by
    have hnotes' := filterMap_notes hbar'
    rw [hnotes] at hnotes'
    exact hnotes'.symm.trans (filterMap_notes hbar)
  rw [← filter_outlines h, ← filter_outlines h']
  exact (houtlines.filter _).map _

end Ripple.Repository
