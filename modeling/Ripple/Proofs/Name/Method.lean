-- SUMMARY: The last segments of method identifiers.
import Ripple.Name.Method
import Ripple.Proofs.Text.Lines
import Mathlib.Data.List.DropRight

/-!
# Segments of method identifiers

The last point of an identifier stands in front of its last segment, so its last two segments are
the last segment of its type and the name of the method.
-/

namespace Ripple

namespace Text

variable {α : Type} {p : α → Bool}

theorem splitWhen_ne_nil (s : List α) : splitWhen p s ≠ [] := by
  cases s with
  | nil => exact List.cons_ne_nil _ _
  | cons a s =>
    rw [splitWhen]
    split
    · exact List.cons_ne_nil _ _
    · split <;> exact List.cons_ne_nil _ _

/-- Any cut divides the pieces. -/
theorem splitWhen_append_mark (first : List α) {mark : α} (hmark : p mark = true)
    (second : List α) :
    splitWhen p (first ++ mark :: second) = splitWhen p first ++ splitWhen p second := by
  induction first with
  | nil => simp [splitWhen, hmark]
  | cons a first ih =>
    rw [List.cons_append, splitWhen, splitWhen, ih]
    cases ha : p a with
    | true => rfl
    | false =>
      obtain ⟨piece, pieces, hsplit⟩ := List.exists_cons_of_ne_nil (splitWhen_ne_nil (p := p) first)
      rw [hsplit]
      rfl

theorem cutLast?_eq_none {s : List α} (h : cutLast? p s = none) : ∀ a ∈ s, p a = false := by
  induction s with
  | nil => simp
  | cons a s ih =>
    rw [cutLast?] at h
    split at h
    · cases h
    next hnone =>
      cases ha : p a with
      | true => simp [ha] at h
      | false => simpa [ha] using ih hnone

/-- The last cut stands behind the first part, and there is none in the second. -/
theorem cutLast?_eq_some {s before after : List α} (h : cutLast? p s = some (before, after)) :
    ∃ mark, p mark = true ∧ s = before ++ mark :: after ∧ ∀ a ∈ after, p a = false := by
  induction s generalizing before with
  | nil => cases h
  | cons a s ih =>
    rw [cutLast?] at h
    split at h
    next before' after' hsome =>
      cases h
      obtain ⟨mark, hmark, rfl, hafter⟩ := ih hsome
      exact ⟨mark, hmark, rfl, hafter⟩
    next hnone =>
      split at h
      next ha =>
        cases h
        exact ⟨a, ha, rfl, cutLast?_eq_none hnone⟩
      next => cases h

theorem cutLast?_of_no_mark {s : List α} (h : ∀ a ∈ s, p a = false) : cutLast? p s = none := by
  induction s with
  | nil => rfl
  | cons a s ih => simp [cutLast?, ih fun b hb => h b (by simp [hb]), h a (by simp)]

theorem cutLast?_append_mark (before : List α) {mark : α} (hmark : p mark = true) {after : List α}
    (hafter : ∀ a ∈ after, p a = false) :
    cutLast? p (before ++ mark :: after) = some (before, after) := by
  induction before with
  | nil => simp [cutLast?, cutLast?_of_no_mark hafter, hmark]
  | cons a before ih => simp [cutLast?, ih]

end Text

namespace Name

/-- The last two segments of a name. -/
def lastTwo (name : String) : String :=
  join ((segments name).rtake 2)

theorem join_singleton (segment : String) : join [segment] = segment := by
  apply String.toList_injective
  simp [join]

theorem join_pair (first second : String) : join [first, second] = first ++ "." ++ second := by
  apply String.toList_injective
  simp [join]

/-- An identifier without a point is the name of a method. -/
theorem splitMethod_of_no_point {id : String} (h : Text.cutLast? isPoint id.toList = none) :
    splitMethod id = ("", id) ∧ segments id = [id] := by
  constructor
  · simp [splitMethod, h]
  · simp [segments, Text.splitWhen_eq_singleton (Text.cutLast?_eq_none h)]

/-- An identifier with a point is the name of a type and of a method, and this is its last
segment. -/
theorem splitMethod_of_point {id : String} {owner method : List Char}
    (h : Text.cutLast? isPoint id.toList = some (owner, method)) :
    splitMethod id = (String.ofList owner, String.ofList method) ∧
      segments id = segments (String.ofList owner) ++ [String.ofList method] := by
  constructor
  · simp [splitMethod, h]
  · obtain ⟨mark, hmark, hid, hmethod⟩ := Text.cutLast?_eq_some h
    simp [segments, hid, Text.splitWhen_append_mark _ hmark, Text.splitWhen_eq_singleton hmethod]

theorem segments_ne_nil (name : String) : segments name ≠ [] := by
  simp [segments, Text.splitWhen_ne_nil]

theorem simple_eq_getLast (name : String) :
    simple name = (segments name).getLast (segments_ne_nil name) := by
  simp only [simple, segments, Text.afterLast, List.getLast_map]
  rw [List.getLastD_eq_getLast?, List.getLast?_eq_some_getLast (Text.splitWhen_ne_nil _)]
  rfl

theorem ownerOf_of_no_point {id : String} (h : ∀ c ∈ id.toList, isPoint c = false) :
    ownerOf id = "" := by
  simp [ownerOf, splitMethod, Text.cutLast?_of_no_mark h]

theorem ownerOf_append {method : String} (h : ∀ c ∈ method.toList, isPoint c = false)
    (owner : String) : ownerOf (owner ++ "." ++ method) = owner := by
  have hcut : Text.cutLast? isPoint (owner ++ "." ++ method).toList =
      some (owner.toList, method.toList) := by
    have hpoint : isPoint '.' = true := rfl
    simpa using Text.cutLast?_append_mark owner.toList hpoint h
  simp only [ownerOf, splitMethod, hcut, String.ofList_toList]

/-- The short form of an identifier is another identifier with a type exactly if its last two
segments are. -/
theorem simpleMethod_eq_iff {id short : String} (hshort : ownerOf short ≠ "") :
    simpleMethod id = short ↔ lastTwo id = short := by
  cases hcut : Text.cutLast? isPoint id.toList with
  | none =>
    obtain ⟨hsplit, hsegments⟩ := splitMethod_of_no_point hcut
    simp [simpleMethod, lastTwo, hsplit, hsegments, List.rtake, join_singleton]
  | some parts =>
    obtain ⟨owner, method⟩ := parts
    obtain ⟨hsplit, hsegments⟩ := splitMethod_of_point hcut
    have hlast : lastTwo id = simple (String.ofList owner) ++ "." ++ String.ofList method := by
      obtain ⟨outer, last, houter⟩ :=
        (List.eq_nil_or_concat' _).resolve_left (segments_ne_nil (String.ofList owner))
      rw [lastTwo, hsegments, simple_eq_getLast, ← join_pair]
      simp [houter, List.rtake]
    cases howner : (String.ofList owner).isEmpty with
    | false => simp [simpleMethod, hsplit, howner, hlast]
    | true =>
      -- the bare method has no type, and neither has it one with a point in front
      obtain ⟨-, -, -, hmethod⟩ := Text.cutLast?_eq_some hcut
      have hplain : ∀ c ∈ (String.ofList method).toList, isPoint c = false := by simpa using hmethod
      have hempty : String.ofList owner = "" := by simpa using howner
      have hbare : simpleMethod id ≠ short := by
        rintro rfl
        simp [simpleMethod, hsplit, howner, ownerOf_of_no_point hplain] at hshort
      have hpoint : lastTwo id ≠ short := by
        rintro rfl
        rw [hlast, ownerOf_append hplain, hempty] at hshort
        exact hshort rfl
      simp only [hbare, hpoint]

end Name

end Ripple
