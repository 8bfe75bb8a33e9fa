-- SUMMARY: The expansion of fragments ends, for all documents, by what its stack holds at every step.
import Ripple.Mapper.Collection
import Mathlib.Data.Nat.Find
import Mathlib.Logic.Function.Iterate

/-!
# Expanding fragments ends

Every element that is entered is left again, with the same names being expanded as when it was
entered. This is so whatever the fragments refer to: a fragment may include itself, directly,
through others or under its other name.
-/

namespace Ripple.Collection

variable {fragments : Fragments}

/-! ## Steps -/

section
variable {rest : List Xml.Node} {name : Option String} {outer : List Reading}
  {expanding : List String} {pieces : List (List Char)}

theorem step_included {node fragment : Xml.Node} {included : String}
    (h : included? fragments expanding node = some (included, fragment)) :
    step fragments ⟨⟨node :: rest, name⟩ :: outer, expanding, pieces⟩ =
      ⟨⟨fragment.content, some included⟩ :: ⟨rest, name⟩ :: outer, included :: expanding,
        pieces⟩ := by
  cases node with
  | text content =>
    -- a text refers to nothing
    obtain ⟨hreference, -⟩ := included?_eq_some.1 h
    cases hreference
  | element tag attributes content => simp only [step, read, h]

theorem step_element {tag : String} {attributes : List (String × String)} {content : List Xml.Node}
    (h : included? fragments expanding (.element tag attributes content) = none) :
    step fragments ⟨⟨.element tag attributes content :: rest, name⟩ :: outer, expanding, pieces⟩ =
      ⟨⟨content, none⟩ :: ⟨rest, name⟩ :: outer, expanding, pieces⟩ := by
  simp only [step, read, h]

end

theorem step_of_readings_eq_nil (fragments : Fragments) {c : Collection} (h : c.readings = []) :
    step fragments c = c := by
  simp only [step, h]

/-! ## Runs -/

/-- One collection comes to another, and until then more than `floor` elements are being read. -/
inductive Reaches (fragments : Fragments) (floor : Nat) : Collection → Collection → Prop
  | refl {c : Collection} (above : floor < c.readings.length) : Reaches fragments floor c c
  | next {c d : Collection} (above : floor < c.readings.length)
      (rest : Reaches fragments floor (step fragments c) d) : Reaches fragments floor c d

namespace Reaches

variable {floor : Nat} {c d e : Collection}

theorem trans (h : Reaches fragments floor c d) (h' : Reaches fragments floor d e) :
    Reaches fragments floor c e := by
  induction h with
  | refl _ => exact h'
  | next above _ ih => exact .next above (ih h')

theorem mono {lower : Nat} (hle : lower ≤ floor) (h : Reaches fragments floor c d) :
    Reaches fragments lower c d := by
  induction h with
  | refl above => exact .refl (Nat.lt_of_le_of_lt hle above)
  | next above _ ih => exact .next (Nat.lt_of_le_of_lt hle above) ih

theorem exists_iterate (h : Reaches fragments floor c d) : ∃ n, (step fragments)^[n] c = d := by
  induction h with
  | refl _ => exact ⟨0, rfl⟩
  | next _ _ ih =>
    obtain ⟨n, hn⟩ := ih
    exact ⟨n + 1, hn⟩

section
variable {rest : List Xml.Node} {name : Option String} {outer : List Reading}
  {expanding : List String} {pieces found : List (List Char)}

theorem of_text {content : String}
    (h : Reaches fragments outer.length
      ⟨⟨rest, name⟩ :: outer, expanding, pieces ++ Xml.Node.piece content⟩ d) :
    Reaches fragments outer.length
      ⟨⟨.text content :: rest, name⟩ :: outer, expanding, pieces⟩ d :=
  .next (by simp) h

/-- An element has been passed when what is inside it has been read. -/
theorem of_element {tag : String} {attributes : List (String × String)} {content : List Xml.Node}
    (h : included? fragments expanding (.element tag attributes content) = none)
    (hinside : Reaches fragments (outer.length + 1)
      ⟨⟨content, none⟩ :: ⟨rest, name⟩ :: outer, expanding, pieces⟩
      ⟨⟨[], none⟩ :: ⟨rest, name⟩ :: outer, expanding, found⟩)
    (hrest : Reaches fragments outer.length ⟨⟨rest, name⟩ :: outer, expanding, found⟩ d) :
    Reaches fragments outer.length
      ⟨⟨.element tag attributes content :: rest, name⟩ :: outer, expanding, pieces⟩ d := by
  refine .next (by simp) ?_
  rw [step_element h]
  exact (hinside.mono (Nat.le_succ _)).trans (.next (by simp only [List.length_cons]; omega) hrest)

/-- The same for an element that stands for a fragment, with the name of the fragment added while it
is read. -/
theorem of_included {node fragment : Xml.Node} {included : String}
    (h : included? fragments expanding node = some (included, fragment))
    (hinside : Reaches fragments (outer.length + 1)
      ⟨⟨fragment.content, some included⟩ :: ⟨rest, name⟩ :: outer, included :: expanding, pieces⟩
      ⟨⟨[], some included⟩ :: ⟨rest, name⟩ :: outer, included :: expanding, found⟩)
    (hrest : Reaches fragments outer.length ⟨⟨rest, name⟩ :: outer, expanding, found⟩ d) :
    Reaches fragments outer.length ⟨⟨node :: rest, name⟩ :: outer, expanding, pieces⟩ d := by
  refine .next (by simp) ?_
  rw [step_included h]
  refine (hinside.mono (Nat.le_succ _)).trans (.next (by simp only [List.length_cons]; omega) ?_)
  have hleave : step fragments ⟨⟨[], some included⟩ :: ⟨rest, name⟩ :: outer,
      included :: expanding, found⟩ = ⟨⟨rest, name⟩ :: outer, expanding, found⟩ := by
    simp [step]
  rwa [hleave]

end

end Reaches

/-- What is inside an element is read to its end, and then the same names are being expanded as
before. Inside a fragment there are fewer names left to expand, inside an element fewer nodes. -/
theorem reaches_end (fragments : Fragments) (expanding : List String) (nodes : List Xml.Node)
    (name : Option String) (outer : List Reading) (pieces : List (List Char)) :
    ∃ found, Reaches fragments outer.length ⟨⟨nodes, name⟩ :: outer, expanding, pieces⟩
      ⟨⟨[], name⟩ :: outer, expanding, found⟩ := by
  match nodes with
  | [] => exact ⟨pieces, .refl (by simp)⟩
  | .text content :: rest =>
    obtain ⟨found, hrest⟩ :=
      reaches_end fragments expanding rest name outer (pieces ++ Xml.Node.piece content)
    exact ⟨found, .of_text hrest⟩
  | .element tag attributes content :: rest =>
    cases hincluded : included? fragments expanding (.element tag attributes content) with
    | none =>
      obtain ⟨inside, hinside⟩ :=
        reaches_end fragments expanding content none (⟨rest, name⟩ :: outer) pieces
      obtain ⟨found, hrest⟩ := reaches_end fragments expanding rest name outer inside
      exact ⟨found, .of_element hincluded hinside hrest⟩
    | some entry =>
      obtain ⟨included, fragment⟩ := entry
      obtain ⟨-, hlookup, hnew⟩ := included?_eq_some.1 hincluded
      have hfewer : unexpanded fragments (included :: expanding) < unexpanded fragments expanding :=
        unexpanded_cons_lt hlookup (by simpa using hnew)
      obtain ⟨inside, hinside⟩ := reaches_end fragments (included :: expanding) fragment.content
        (some included) (⟨rest, name⟩ :: outer) pieces
      obtain ⟨found, hrest⟩ := reaches_end fragments expanding rest name outer inside
      exact ⟨found, .of_included hincluded hinside hrest⟩
termination_by (unexpanded fragments expanding, Xml.Node.sizeAll nodes)
decreasing_by
  · exact .right _ (by simp only [Xml.Node.sizeAll, Xml.Node.size]; omega)
  · exact .right _ (by simp only [Xml.Node.sizeAll, Xml.Node.size]; omega)
  · exact .right _ (by simp only [Xml.Node.sizeAll, Xml.Node.size]; omega)
  · exact .left _ _ hfewer
  · exact .right _ (by simp only [Xml.Node.sizeAll, Xml.Node.size]; omega)

/-- The innermost element is read to its end, whatever has been read of it. -/
theorem exists_reaches_left {c : Collection} {reading : Reading} {outer : List Reading}
    (h : c.readings = reading :: outer) :
    ∃ last, Reaches fragments outer.length c last ∧
      last.readings = { reading with rest := [] } :: outer ∧ last.expanding = c.expanding := by
  obtain ⟨readings, expanding, pieces⟩ := c
  obtain rfl : readings = reading :: outer := h
  obtain ⟨found, hreaches⟩ :=
    reaches_end fragments expanding reading.rest reading.name outer pieces
  exact ⟨_, hreaches, rfl, rfl⟩

/-! ## Names -/

/-- The names under which fragments are being read, as the elements tell them. -/
def names (c : Collection) : List String :=
  c.readings.filterMap (·.name)

/-- The names being expanded are those that were expanded at the start, with those of the elements
that are being read, each once and new. -/
structure IsNested (expanding : List String) (c : Collection) : Prop where
  expanding_eq : c.expanding = c.names ++ expanding
  distinct : c.names.Nodup
  new : ∀ name ∈ c.names, name ∉ expanding

theorem IsNested.step {expanding : List String} {c : Collection} (h : c.IsNested expanding) :
    (step fragments c).IsNested expanding := by
  obtain ⟨readings, current, pieces⟩ := c
  obtain ⟨hcurrent, hdistinct, hnew⟩ := h
  match readings with
  | [] => exact ⟨hcurrent, hdistinct, hnew⟩
  | ⟨[], none⟩ :: outer => exact ⟨hcurrent, hdistinct, hnew⟩
  | ⟨[], some name⟩ :: outer =>
    -- the name of the element that is left is in front
    refine ⟨?_, (List.nodup_cons.1 hdistinct).2, (List.forall_mem_cons.1 hnew).2⟩
    simp only [names, List.filterMap_cons] at hcurrent
    simp only [Collection.step, hcurrent, List.cons_append, released_some_cons]
    rfl
  | ⟨.text content :: rest, name⟩ :: outer => exact ⟨hcurrent, hdistinct, hnew⟩
  | ⟨.element tag attributes content :: rest, name⟩ :: outer =>
    cases hincluded : included? fragments current (.element tag attributes content) with
    | none =>
      rw [step_element hincluded]
      exact ⟨hcurrent, hdistinct, hnew⟩
    | some entry =>
      obtain ⟨included, fragment⟩ := entry
      rw [step_included hincluded]
      -- a name that is entered is neither among those of the elements nor among the first ones
      obtain ⟨-, -, hentered⟩ := included?_eq_some.1 hincluded
      rw [show current = _ from hcurrent, List.mem_append, not_or] at hentered
      exact ⟨congrArg (included :: ·) hcurrent, List.nodup_cons.2 ⟨hentered.1, hdistinct⟩,
        List.forall_mem_cons.2 ⟨hentered.2, hnew⟩⟩

theorem IsNested.iterate {expanding : List String} {c : Collection} (h : c.IsNested expanding)
    (n : Nat) : ((Collection.step fragments)^[n] c).IsNested expanding := by
  induction n with
  | zero => exact h
  | succ n ih =>
    rw [Function.iterate_succ_apply']
    exact ih.step

/-! ## The end -/

theorem run_of_readings_eq_nil {c : Collection} (h : c.readings = []) : run fragments c = c := by
  rw [run, if_pos]
  simpa using h

theorem run_of_readings_ne_nil {c : Collection} (h : c.readings ≠ []) :
    run fragments c = run fragments (step fragments c) := by
  rw [run, if_neg]
  simpa using h

/-- Nothing happens any more once every element is left behind. -/
theorem readings_iterate_of_le {c : Collection} {n m : Nat}
    (h : ((step fragments)^[n] c).readings = []) (hle : n ≤ m) :
    ((step fragments)^[m] c).readings = [] := by
  obtain ⟨k, rfl⟩ := Nat.exists_eq_add_of_le' hle
  rw [Function.iterate_add_apply, Function.iterate_fixed (step_of_readings_eq_nil fragments h)]
  exact h

theorem run_eq_iterate {c : Collection} {n : Nat} (h : ((step fragments)^[n] c).readings = []) :
    run fragments c = (step fragments)^[n] c := by
  induction n generalizing c with
  | zero => exact run_of_readings_eq_nil h
  | succ n ih =>
    rw [Function.iterate_succ_apply] at h ⊢
    by_cases hdone : c.readings = []
    · have hfixed := step_of_readings_eq_nil fragments hdone
      rw [hfixed, Function.iterate_fixed hfixed]
      exact run_of_readings_eq_nil hdone
    · rw [run_of_readings_ne_nil hdone]
      exact ih h

/-- A collection that has one element to read ends with the names that it began with. -/
theorem exists_iterate_eq (fragments : Fragments) (nodes : List Xml.Node)
    (expanding : List String) :
    ∃ n found, (step fragments)^[n] { readings := [⟨nodes, none⟩], expanding } =
      ⟨[], expanding, found⟩ := by
  obtain ⟨found, hreaches⟩ := reaches_end fragments expanding nodes none [] []
  obtain ⟨n, hn⟩ := hreaches.exists_iterate
  refine ⟨n + 1, found, ?_⟩
  rw [Function.iterate_succ_apply', hn]
  rfl

/-- Collecting the text of an element ends, whatever the fragments are and whichever names are being
expanded already. At every step no fragment is being read twice under one name or under one of
those, and the element that is being read will be left again, with the same names being expanded as
now. -/
theorem expansion_ends (fragments : Fragments) (node : Xml.Node) (expanding : List String) :
    let start : Collection := { readings := [⟨node.content, none⟩], expanding }
    ∃ turns, (∀ n, ((step fragments)^[n] start).readings = [] ↔ turns ≤ n) ∧
      run fragments start = (step fragments)^[turns] start ∧
      (run fragments start).expanding = expanding ∧
      ∀ n, ((step fragments)^[n] start).IsNested expanding ∧
        ∀ reading outer, ((step fragments)^[n] start).readings = reading :: outer →
          ∃ last, Reaches fragments outer.length ((step fragments)^[n] start) last ∧
            last.readings = { reading with rest := [] } :: outer ∧
            last.expanding = ((step fragments)^[n] start).expanding := by
  intro start
  obtain ⟨n, found, hn⟩ := exists_iterate_eq fragments node.content expanding
  have hends : ∃ n, ((step fragments)^[n] start).readings = [] := ⟨n, by rw [hn]⟩
  have hlast : run fragments start = ⟨[], expanding, found⟩ := by
    rw [← hn]
    exact run_eq_iterate (by rw [hn])
  refine ⟨Nat.find hends, ?_, ?_, by rw [hlast], ?_⟩
  · intro m
    constructor
    · intro hm
      exact Nat.find_min' hends hm
    · intro hm
      exact readings_iterate_of_le (Nat.find_spec hends) hm
  · exact run_eq_iterate (Nat.find_spec hends)
  · intro m
    have hstart : start.IsNested expanding := ⟨rfl, List.nodup_nil, List.forall_mem_nil _⟩
    refine ⟨hstart.iterate m, ?_⟩
    intro reading outer hreadings
    exact exists_reaches_left hreadings

/-- A fragment that includes itself under its other name is read once under each. -/
example :
    let fragment : Xml.Node := .element "sql" [("id", "f")]
      [.text "a", .element "include" [("refid", "n.f")] [], .text "b"]
    (Fragments.ofRoot "n" fragment).textOf
      (.element "select" [] [.element "include" [("refid", "f")] []]) = "a a b b" := by
  decide +kernel

end Ripple.Collection
