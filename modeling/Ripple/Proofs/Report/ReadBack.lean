-- SUMMARY: JSON reports are read back as the values that were written, or are not written at all.
import Ripple.Proofs.Json.Line
import Ripple.Report.Rendering

/-!
# JSON reports are read back

Whatever texts a result holds and however many parts it has, its JSON report is read back as the
value that was written, with the fields in their order and in every layout. A report is not written
at all if the indentation does not fit into 64 bits, or if an integer has too many digits.
-/

namespace Ripple

namespace Json

theorem isBlank_replicate (count : Nat) : IsBlank (List.replicate count ' ') := by
  intro c hc
  rw [List.eq_of_mem_replicate hc]
  decide

theorem Layout.indented_isPlain (indent : Nat) : (Layout.indented indent).IsPlain := by
  have hline (depth : Nat) : IsBlank ('\n' :: List.replicate (indent * depth) ' ') :=
    List.forall_mem_cons.2 ⟨by decide, isBlank_replicate (indent * depth)⟩
  exact ⟨hline, fun depth => ⟨_, rfl, hline depth⟩⟩

theorem areWritable_iff {items : List Json} :
    areWritable items = true ↔ ∀ item ∈ items, item.isWritable = true := by
  induction items with
  | nil => simp [areWritable]
  | cons item items ih => rw [areWritable, Bool.and_eq_true, ih, List.forall_mem_cons]

theorem areFieldsWritable_iff {fields : List (String × Json)} :
    areFieldsWritable fields = true ↔ ∀ field ∈ fields, field.2.isWritable = true := by
  induction fields with
  | nil => simp [areFieldsWritable]
  | cons field fields ih =>
    obtain ⟨key, value⟩ := field
    rw [areFieldsWritable, Bool.and_eq_true, ih, List.forall_mem_cons]

/-- A number has as many digits as it takes to reach it. -/
theorem lt_pow_length_toDigits (n : Nat) : n < Nat.pow 10 (Nat.toDigits 10 n).length := by
  induction n using Nat.strongRecOn with
  | ind n ih =>
    rw [Nat.toDigits_eq_if (by omega)]
    split
    · simpa using ‹n < 10›
    · have hless := ih (n / 10) (by omega)
      rw [List.length_append, List.length_singleton, Nat.pow_eq, Nat.pow_succ, ← Nat.pow_eq]
      omega

theorem length_toDigits_le_iff {n count : Nat} (hcount : 0 < count) :
    (Nat.toDigits 10 n).length ≤ count ↔ n < Nat.pow 10 count := by
  constructor
  · intro hle
    exact Nat.lt_of_lt_of_le (lt_pow_length_toDigits n) (Nat.pow_le_pow_right (by decide) hle)
  · exact Nat.toDigits_length 10 n count hcount

/-- The least number with too many digits. -/
def longNumber : Nat := Nat.pow 10 Text.maxIntegerDigits

/-- The integers that can be written are those below the first that is too long. -/
theorem isShort_iff {n : Int} : IsShort n ↔ n.natAbs < longNumber := by
  have hpos : 0 < Text.maxIntegerDigits := by decide
  unfold IsShort longNumber
  generalize Text.maxIntegerDigits = count at hpos
  exact length_toDigits_le_iff hpos

theorem isWritable_int {n : Int} : (Json.int n).isWritable = true ↔ IsShort n := by
  rw [isWritable, decide_eq_true_eq, IsShort]

end Json

open Json (Plain)

/-- Texts make an array of strings. -/
theorem Json.plain_texts (texts : List String) : Plain (.arr (texts.map .str)) := by
  refine .arr ?_
  intro item hitem
  obtain ⟨text, -, rfl⟩ := List.mem_map.1 hitem
  exact .str text

namespace CallChain

/-- A chain whose line numbers are below the bound for integers that are written. -/
def HasShortLines (chain : CallChain) : Prop :=
  ∀ line ∈ chain.lines, line.natAbs < Json.longNumber

theorem plain_toJson {chain : CallChain} (h : chain.HasShortLines) : Plain chain.toJson := by
  have hlines : Plain (.arr (chain.lines.map .int)) := by
    refine .arr ?_
    intro item hitem
    obtain ⟨line, hline, rfl⟩ := List.mem_map.1 hitem
    exact .int (Json.isShort_iff.2 (h line hline))
  refine .obj (by simp) ?_
  simp only [List.forall_mem_cons]
  exact ⟨Json.plain_texts chain.path, hlines, .str chain.method, .str chain.table, by simp⟩

theorem hasShortLines_of_isWritable {chain : CallChain} (h : chain.toJson.isWritable = true) :
    chain.HasShortLines := by
  intro line hline
  have hlines := Json.areFieldsWritable_iff.1 h ("lineNumbers", .arr (chain.lines.map .int)) (by simp)
  exact Json.isShort_iff.1
    (Json.isWritable_int.1 (Json.areWritable_iff.1 hlines _ (List.mem_map_of_mem hline)))

end CallChain

theorem TableImpact.plain_toJson (impact : TableImpact) : Plain (impact.map Json.str).toJson := by
  refine .obj (by simp) ?_
  simp only [List.forall_mem_cons]
  exact ⟨.str impact.moduleName, .str impact.mapperFile, .str _, .str _, by simp⟩

namespace ImpactResult

/-- The value that a result is written as. -/
def json (result : ImpactResult) : Json :=
  (result.map Json.str).toJson

/-- A result with no line number that is too long to be written. -/
def HasShortLines (result : ImpactResult) : Prop :=
  ∀ chain ∈ result.chains, chain.HasShortLines

theorem plain_json {result : ImpactResult} (h : result.HasShortLines) : Plain result.json := by
  have himpacts : Plain (.arr ((result.map Json.str).impacts.map TableImpact.toJson)) := by
    refine .arr ?_
    simp only [map, List.forall_mem_map]
    exact fun impact _ => impact.plain_toJson
  have hchains : Plain (.arr (result.chains.map CallChain.toJson)) := by
    refine .arr ?_
    simp only [List.forall_mem_map]
    exact fun chain hchain => CallChain.plain_toJson (h chain hchain)
  refine .obj (by simp) ?_
  simp only [List.forall_mem_cons]
  exact ⟨.str result.table, himpacts, hchains, Json.plain_texts result.unresolved,
    Json.plain_texts result.warnings, by simp⟩

theorem isWritable_json {result : ImpactResult} :
    result.json.isWritable = true ↔ result.HasShortLines := by
  constructor
  · intro hwritable chain hchain
    have hchains := Json.areFieldsWritable_iff.1 hwritable
      ("callChains", .arr (result.chains.map CallChain.toJson)) (by simp [map])
    exact CallChain.hasShortLines_of_isWritable
      (Json.areWritable_iff.1 hchains _ (List.mem_map_of_mem hchain))
  · intro hshort
    exact (plain_json hshort).isWritable

end ImpactResult

namespace Report

/-- No indentation, or one that fits into 64 bits. -/
def Fits (indent : Option Int) : Prop :=
  ∀ n ∈ indent, -0x8000000000000000 ≤ n ∧ n < 0x8000000000000000

theorem isIndentation_iff {n : Int} :
    isIndentation n = true ↔ -0x8000000000000000 ≤ n ∧ n < 0x8000000000000000 := by
  simp [isIndentation]

/-- There is a layout for each indentation that fits, and it adds nothing but blanks and commas. -/
theorem layout_cases (indent : Option Int) :
    (Fits indent ∧ ∃ layout, Report.layout indent = .ok layout ∧ layout.IsPlain) ∨
      (¬Fits indent ∧ Report.layout indent = .error .overflow) := by
  cases indent with
  | none => exact .inl ⟨by simp [Fits], .line, rfl, Json.Layout.line_isPlain⟩
  | some n =>
    rw [Fits, Report.layout]
    split
    · rename_i hfits
      refine .inl ⟨?_, .indented n.toNat, rfl, Json.Layout.indented_isPlain n.toNat⟩
      simpa using isIndentation_iff.1 hfits
    · rename_i hfits
      exact .inr ⟨by simpa using fun h => hfits (isIndentation_iff.2 h), rfl⟩

/-- What becomes of a report: it can be read back, or it is not written for one of two reasons. -/
theorem json_cases (indent : Option Int) (result : ImpactResult) :
    (Fits indent ∧ result.HasShortLines ∧ ∃ text, Report.json indent (result.map .str) = .ok text ∧
      Json.read text.toList = .ok result.json) ∨
    (Fits indent ∧ ¬result.HasShortLines ∧
      Report.json indent (result.map .str) = .error .invalidValue) ∨
    (¬Fits indent ∧ Report.json indent (result.map .str) = .error .overflow) := by
  unfold Report.json
  obtain ⟨hfits, layout, hlayout, hplain⟩ | ⟨hfits, hlayout⟩ := layout_cases indent
  · rw [hlayout]
    by_cases hshort : result.HasShortLines
    · refine .inl ⟨hfits, hshort, _, if_pos (ImpactResult.isWritable_json.2 hshort), ?_⟩
      rw [Json.render, String.toList_ofList]
      exact Json.read_render hplain (ImpactResult.plain_json hshort)
    · exact .inr (.inl ⟨hfits, hshort, if_neg (hshort ∘ ImpactResult.isWritable_json.1)⟩)
  · rw [hlayout]
    exact .inr (.inr ⟨hfits, rfl⟩)

/-- A JSON report is read back as the result that it reports, whatever the result holds, exactly if
the indentation fits into 64 bits and no line number is too long. Otherwise it is a fault to ask for
it. -/
theorem json_readable_iff (indent : Option Int) (result : ImpactResult) :
    ((∃ text, Report.json indent (result.map .str) = .ok text ∧
      Json.read text.toList = .ok result.json) ↔ Fits indent ∧ result.HasShortLines) ∧
    (Report.json indent (result.map .str) = .error .overflow ↔ ¬Fits indent) ∧
    (Report.json indent (result.map .str) = .error .invalidValue ↔
      Fits indent ∧ ¬result.HasShortLines) := by
  obtain ⟨hfits, hshort, text, hjson, hread⟩ | ⟨hfits, hshort, hjson⟩ | ⟨hfits, hjson⟩ :=
    json_cases indent result
  · simp [hjson, hread, hfits, hshort]
  · simp [hjson, hfits, hshort]
  · simp [hjson, hfits]

/-- A result with nothing in it. -/
def bareResult : ImpactResult := { table := "T" }

/-- A result with a line number that is too long. -/
def farResult : ImpactResult where
  table := "T"
  chains := [⟨["A.a"], [Json.longNumber], "B.b", "T"⟩]

/-- An indentation one below the least of 64 bits keeps a result from being reported, and so does a
line number with one digit too many. -/
theorem json_unreadable :
    ¬(∃ text, Report.json (some (-0x8000000000000001)) (bareResult.map .str) = .ok text ∧
      Json.read text.toList = .ok bareResult.json) ∧
    ¬∃ text, Report.json none (farResult.map .str) = .ok text ∧
      Json.read text.toList = .ok farResult.json := by
  constructor
  · rintro ⟨text, hjson, -⟩
    cases hjson
  · rintro ⟨text, hjson, -⟩
    obtain ⟨-, hshort, -⟩ | ⟨-, -, hfault⟩ | ⟨-, hfault⟩ := json_cases none farResult
    · have hline := hshort _ (List.mem_singleton_self _) _ (List.mem_singleton_self _)
      rw [Int.natAbs_natCast] at hline
      exact Nat.lt_irrefl _ hline
    · rw [hjson] at hfault
      cases hfault
    · rw [hjson] at hfault
      cases hfault

end Report

end Ripple
