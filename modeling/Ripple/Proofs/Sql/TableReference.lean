-- SUMMARY: The normal form of a table's name is its own normal form, and statements have no other names.
import Ripple.Sql.TableReference
import Ripple.Proofs.Text.Lines
import Ripple.Proofs.Text.Order
import Ripple.Proofs.Text.Upper

/-!
# The names of tables in statements

Every table of a statement is under its normal name, and a normal name is its own normal form. So a
table is found again under the name that it was found by.
-/

namespace Ripple

namespace TableName

/-- A character that only a name has: no blank, no quote, and none of the marks around names. -/
def isBare (c : Char) : Bool :=
  Sql.isNameChar c && c != '.' && !isQuote c

theorem isBare_iff {c : Char} :
    isBare c = true ↔
      Text.isBlank c = false ∧ c ∉ [',', ';', '(', ')', '.'] ∧ isQuote c = false := by
  simp only [isBare, Sql.isNameChar, Bool.and_eq_true, bne_iff_ne, Bool.not_eq_true',
    ne_eq, List.mem_cons, List.not_mem_nil, or_false, not_or, and_assoc]

theorem mem_marks_of_not_isBare {c : Char} (h : isBare c = false) : c.toNat ∈ Text.marks := by
  cases hblank : Text.isBlank c with
  | true => exact Text.mem_marks_of_isBlank hblank
  | false =>
    -- The other marks are few.
    have hmarks : c ∈ [',', ';', '(', ')', '.', '\x60', '\'', '"', '[', ']'] := by
      simp only [isBare, Sql.isNameChar, isQuote, hblank, Bool.not_false, Bool.true_and,
        Bool.and_eq_false_iff, bne_eq_false_iff_eq, Bool.not_eq_false', Bool.or_eq_true,
        beq_iff_eq, or_assoc] at h
      simpa only [List.mem_cons, List.not_mem_nil, or_false] using h
    have hcodes : [',', ';', '(', ')', '.', '\x60', '\'', '"', '[', ']'].map Char.toNat ⊆
        Text.marks := by
      decide
    exact hcodes (List.mem_map_of_mem hmarks)

/-- A name in its normal form: upper case, and nothing but characters of names. -/
structure IsNormal (name : List Char) : Prop where
  bare : ∀ c ∈ name, isBare c = true
  upper : Text.upper name = name

/-- A name in its normal form stays as it is. -/
theorem IsNormal.normalChars_eq {name : List Char} (h : IsNormal name) : normalChars name = name := by
  have hblank : ∀ c ∈ name, Text.isBlank c = false := fun c hc => (isBare_iff.1 (h.bare c hc)).1
  have hpoint : ∀ c ∈ name, (c == '.') = false := by
    intro c hc
    have hmarks := (isBare_iff.1 (h.bare c hc)).2.1
    simp only [beq_eq_false_iff_ne]
    rintro rfl
    exact hmarks (by simp)
  have hquotes : name.filter (!isQuote ·) = name := by
    refine List.filter_eq_self.2 fun c hc => ?_
    simp [(isBare_iff.1 (h.bare c hc)).2.2]
  unfold normalChars
  simp only [Text.trim_eq_self hblank, Text.afterLast_eq_self hpoint, hquotes, h.upper]

/-- The normal form of a name is one. -/
theorem isNormal_normalChars {name : List Char} (h : ∀ c ∈ name, Sql.isNameChar c = true) :
    IsNormal (normalChars name) where
  bare c hc := by
    obtain hc | hmark := Text.mem_or_notMem_marks hc
    · -- What is left of the name has no point and no quote.
      obtain ⟨hlast, hquote⟩ := List.mem_filter.1 (Text.mem_of_mem_trim hc)
      obtain ⟨htrim, hpoint⟩ := Text.mem_of_mem_afterLast hlast
      have hname := h c (Text.mem_of_mem_trim htrim)
      simp_all [isBare]
    · cases hbare : isBare c with
      | true => rfl
      | false => exact absurd (mem_marks_of_not_isBare hbare) hmark
  upper := Text.upper_upper _

end TableName

namespace Sql

theorem isNameChar_of_item? {s name rest : List Char} (h : item? s = some (name, rest)) :
    ∀ c ∈ name, isNameChar c = true := by
  unfold item? at h
  dsimp only at h
  split at h
  · cases h
  · cases h
    exact List.all_eq_true.1 List.all_takeWhile

theorem isNameChar_of_mem_moreItems {fuel : Nat} {s name : List Char} (h : name ∈ moreItems fuel s) :
    ∀ c ∈ name, isNameChar c = true := by
  induction fuel generalizing s with
  | zero => cases h
  | succ fuel ih =>
    rw [moreItems] at h
    split at h
    · rename_i first rest hfirst
      obtain ⟨behind, -, hitem⟩ := Option.bind_eq_some_iff.1 hfirst
      obtain rfl | h := List.mem_cons.1 h
      · exact isNameChar_of_item? hitem
      · exact ih h
    · cases h

theorem isNameChar_of_mem_itemNames {s name : List Char} (h : name ∈ itemNames s) :
    ∀ c ∈ name, isNameChar c = true := by
  unfold itemNames at h
  split at h
  · rename_i first rest hitem
    obtain rfl | h := List.mem_cons.1 h
    · exact isNameChar_of_item? hitem
    · exact isNameChar_of_mem_moreItems h
  · cases h

theorem isNameChar_of_mem_namesFrom {before : Option Char} {s name : List Char}
    (h : name ∈ namesFrom before s) : ∀ c ∈ name, isNameChar c = true := by
  induction s generalizing before with
  | nil => cases h
  | cons c s ih =>
    obtain h | h := List.mem_append.1 h
    · unfold namesAt at h
      split at h
      · cases h
      · split at h
        · exact isNameChar_of_mem_itemNames h
        · cases h
    · exact ih h

/-- A name under which a table can be indexed. -/
structure IsTable (table : String) : Prop where
  normal : TableName.normalize table = table
  named : table ≠ ""
  bound : table ≠ placeholder
  word : table ∉ keywords
  bare : ∀ c ∈ table.toList, Text.isBlank c = false ∧ c ∉ [',', ';', '(', ')', '.'] ∧
    TableName.isQuote c = false

theorem isNormal_of_mem_tablesExcept {excluded : List String} {sql table : String}
    (h : table ∈ tablesExcept excluded sql) :
    TableName.IsNormal table.toList ∧ table ≠ "" ∧ table ≠ placeholder ∧ table ∉ excluded := by
  unfold tablesExcept Text.sortedSet at h
  dsimp only at h
  rw [Text.mem_sorted, List.mem_eraseDups] at h
  obtain ⟨hmem, htable⟩ := List.mem_filter.1 h
  obtain ⟨name, hname, rfl⟩ := List.mem_map.1 hmem
  refine ⟨?_, ?_⟩
  · rw [String.toList_ofList]
    exact TableName.isNormal_normalChars (isNameChar_of_mem_namesFrom hname)
  · simpa [isTableName, and_assoc] using htable

/-- Every table of a statement can be indexed. -/
theorem isTable_of_mem_tables {sql table : String} (h : table ∈ tables sql) : IsTable table := by
  obtain ⟨hnormal, hnamed, hbound, hword⟩ := isNormal_of_mem_tablesExcept h
  refine ⟨?_, hnamed, hbound, hword, fun c hc => TableName.isBare_iff.1 (hnormal.bare c hc)⟩
  rw [TableName.normalize, hnormal.normalChars_eq, String.ofList_toList]

end Sql

end Ripple
