-- SUMMARY: Trails as sequences of occurrences of references: open, complete, and without repetition.
import Ripple.Chain.Search
import Ripple.Proofs.Call.Index
import Mathlib.Data.List.Nodup
import Mathlib.Data.List.Perm.Subperm

/-!
# Trails of references

A climb names the callers that it comes to, but not by which of several references to the same
method it comes there. A trail does: it is a sequence of occurrences, the first among the references
to the repository method and each later one among the references to the caller before it.

The search follows trails without repetition. `level n` holds the open trails of length `n`, each
once, and `completeTrails` those that the search ends with, each once.
-/

namespace Ripple

/-- A reference together with its place among the references to a method. -/
structure Occurrence where
  place : Nat
  reference : CallReference
deriving DecidableEq, Repr

/-- The occurrences of references to a method. -/
def CallIndex.occurrences (index : CallIndex) (method : String) : List Occurrence :=
  (index.callersOf method).zipIdx.map fun (ref, place) => ⟨place, ref⟩

/-- A sequence of occurrences, nearest to the repository method first. -/
abbrev Trail := List Occurrence

namespace Trail

/-- The callers on a trail. -/
def callers (trail : Trail) : List String :=
  trail.map (·.reference.caller)

/-- The lines of the calls on a trail. -/
def lines (trail : Trail) : List Int :=
  trail.map (·.reference.line)

/-- The climb along a trail. -/
def climb (trail : Trail) : Climb :=
  ⟨trail.callers.reverse, trail.lines.reverse⟩

/-- Each occurrence is one among the references to the caller before it, the first to `method`. -/
def LeadsFrom (index : CallIndex) : String → Trail → Prop
  | _, [] => True
  | method, occurrence :: rest =>
    occurrence ∈ index.occurrences method ∧ LeadsFrom index occurrence.reference.caller rest

@[simp] theorem callers_concat (trail : Trail) (occurrence : Occurrence) :
    callers (trail ++ [occurrence]) = callers trail ++ [occurrence.reference.caller] := by
  simp [callers]

@[simp] theorem climb_path (trail : Trail) : trail.climb.path = trail.callers.reverse := rfl

theorem climb_concat (trail : Trail) (occurrence : Occurrence) :
    climb (trail ++ [occurrence]) =
      ⟨occurrence.reference.caller :: trail.climb.path,
        occurrence.reference.line :: trail.climb.lines⟩ := by
  simp [climb, callers, lines]

theorem length_callers (trail : Trail) : trail.callers.length = trail.length := by
  simp [callers]

theorem leadsFrom_concat {index : CallIndex} {method : String} {trail : Trail}
    {occurrence : Occurrence} :
    LeadsFrom index method (trail ++ [occurrence]) ↔
      LeadsFrom index method trail ∧
        occurrence ∈ index.occurrences (trail.callers.getLastD method) := by
  induction trail generalizing method with
  | nil => simp [LeadsFrom, callers]
  | cons first rest ih =>
    have hlast : (callers (first :: rest)).getLastD method =
        (callers rest).getLastD first.reference.caller := by
      simp only [callers, List.map_cons, List.getLastD_cons]
    simp only [List.cons_append, LeadsFrom, ih, hlast, and_assoc]

end Trail

namespace CallIndex

theorem mem_occurrences {index : CallIndex} {method : String} {occurrence : Occurrence} :
    occurrence ∈ index.occurrences method ↔
      (index.callersOf method)[occurrence.place]? = some occurrence.reference := by
  constructor
  · intro h
    obtain ⟨⟨ref, place⟩, hmem, rfl⟩ := List.mem_map.1 h
    exact List.mem_zipIdx_iff_getElem?.1 hmem
  · intro h
    exact List.mem_map.2 ⟨(occurrence.reference, occurrence.place),
      List.mem_zipIdx_iff_getElem?.2 h, rfl⟩

theorem map_reference_occurrences (index : CallIndex) (method : String) :
    (index.occurrences method).map (·.reference) = index.callersOf method := by
  simp only [occurrences, List.map_map]
  exact List.zipIdx_map_fst 0 (index.callersOf method)

theorem reference_mem_of_mem_occurrences {index : CallIndex} {method : String}
    {occurrence : Occurrence} (h : occurrence ∈ index.occurrences method) :
    occurrence.reference ∈ index.callersOf method := by
  rw [← map_reference_occurrences]
  exact List.mem_map_of_mem h

theorem nodup_occurrences (index : CallIndex) (method : String) :
    (index.occurrences method).Nodup := by
  have hplaces : ((index.occurrences method).map (·.place)).Nodup := by
    have hrange : (index.occurrences method).map (·.place) =
        List.range' 0 (index.callersOf method).length := by
      simp only [occurrences, List.map_map]
      exact List.zipIdx_map_snd 0 (index.callersOf method)
    rw [hrange]
    exact List.nodup_range'
  exact hplaces.of_map

end CallIndex

namespace ChainSearch

open Trail

/-- A trail that the search may follow: no caller comes twice or stands for the repository
method. -/
structure Setting.IsSimple (s : Setting) (trail : Trail) : Prop where
  leads : trail.LeadsFrom s.index s.method
  distinct : trail.callers.Nodup
  apart : ∀ caller ∈ trail.callers, caller ∉ s.seeds

/-- A trail on which the search goes on: it is still below the business layer. -/
structure Setting.IsOpen (s : Setting) (trail : Trail) : Prop extends s.IsSimple trail where
  below : ∀ caller ∈ trail.callers, s.isBusiness caller = false

/-- A trail that the search ends with: its last caller is the first one of the business layer, or
nothing calls it. -/
structure Setting.IsComplete (s : Setting) (trail : Trail) : Prop extends s.IsSimple trail where
  nonempty : trail ≠ []
  below : ∀ caller ∈ trail.callers.dropLast, s.isBusiness caller = false
  ends : ∀ caller, trail.callers.getLast? = some caller →
    s.isBusiness caller = true ∨ s.index.callersOf caller = []

namespace Setting

variable (s : Setting)

/-- The method that a trail has come to. -/
def reached (trail : Trail) : String :=
  trail.callers.getLastD s.method

/-- The trails that are one occurrence longer. -/
def longerTrails (trail : Trail) : List Trail :=
  ((s.index.occurrences (s.reached trail)).filter fun occurrence =>
    !trail.callers.contains occurrence.reference.caller &&
      !s.seeds.contains occurrence.reference.caller).map fun occurrence => trail ++ [occurrence]

/-- Whether a trail has come to the business layer. -/
def entersBusiness (trail : Trail) : Bool :=
  trail.callers.getLast?.any s.isBusiness

/-- The trails that end when a trail is extended. -/
def endedTrails (trail : Trail) : List Trail :=
  if (s.index.callersOf (s.reached trail)).isEmpty && !trail.isEmpty then [trail]
  else (s.longerTrails trail).filter s.entersBusiness

/-- The trails that go on when a trail is extended. -/
def ongoingTrails (trail : Trail) : List Trail :=
  (s.longerTrails trail).filter fun longer => !s.entersBusiness longer

/-- The open trails of a length. -/
def level : Nat → List Trail
  | 0 => [[]]
  | n + 1 => (level n).flatMap s.ongoingTrails

/-- A trail has no more occurrences than there are references, so that many levels and one more are
enough. -/
def rounds : Nat :=
  s.index.totalReferences + 1

/-- The complete trails. -/
def completeTrails : List Trail :=
  ((List.range s.rounds).flatMap s.level).flatMap s.endedTrails

/-! ## Which trails there are -/

/-- An occurrence that a trail may be continued with. -/
structure Continues (trail : Trail) (occurrence : Occurrence) : Prop where
  leads : occurrence ∈ s.index.occurrences (s.reached trail)
  fresh : occurrence.reference.caller ∉ trail.callers
  apart : occurrence.reference.caller ∉ s.seeds

variable {s} {trail longer : Trail} {occurrence : Occurrence}

theorem mem_longerTrails : longer ∈ s.longerTrails trail ↔
    ∃ occurrence, s.Continues trail occurrence ∧ longer = trail ++ [occurrence] := by
  simp only [longerTrails, List.mem_map, List.mem_filter, Bool.and_eq_true, Bool.not_eq_true',
    List.contains_eq_mem, decide_eq_false_iff_not]
  constructor
  · rintro ⟨occurrence, ⟨hmem, hfresh, hapart⟩, rfl⟩
    exact ⟨occurrence, ⟨hmem, hfresh, hapart⟩, rfl⟩
  · rintro ⟨occurrence, h, rfl⟩
    exact ⟨occurrence, ⟨h.leads, h.fresh, h.apart⟩, rfl⟩

theorem entersBusiness_concat :
    s.entersBusiness (trail ++ [occurrence]) = s.isBusiness occurrence.reference.caller := by
  simp [entersBusiness]

theorem isSimple_concat :
    s.IsSimple (trail ++ [occurrence]) ↔ s.IsSimple trail ∧ s.Continues trail occurrence := by
  constructor
  · intro h
    have hdistinct := h.distinct
    have hapart := h.apart
    rw [callers_concat] at hdistinct hapart
    obtain ⟨hleads, hmem⟩ := leadsFrom_concat.1 h.leads
    refine ⟨⟨hleads, hdistinct.of_append_left, fun c hc => hapart c (by simp [hc])⟩,
      hmem, ?_, hapart _ (by simp)⟩
    intro hold
    exact List.disjoint_of_nodup_append hdistinct hold (by simp)
  · rintro ⟨h, hnext⟩
    refine ⟨leadsFrom_concat.2 ⟨h.leads, hnext.leads⟩, ?_, ?_⟩
    · rw [callers_concat, ← List.concat_eq_append]
      exact h.distinct.concat hnext.fresh
    · intro caller hcaller
      rw [callers_concat, List.mem_append, List.mem_singleton] at hcaller
      rcases hcaller with hcaller | rfl
      · exact h.apart caller hcaller
      · exact hnext.apart

theorem isOpen_concat :
    s.IsOpen (trail ++ [occurrence]) ↔ s.IsOpen trail ∧ s.Continues trail occurrence ∧
      s.isBusiness occurrence.reference.caller = false := by
  constructor
  · intro h
    have hbelow := h.below
    rw [callers_concat] at hbelow
    obtain ⟨hsimple, hnext⟩ := isSimple_concat.1 h.toIsSimple
    exact ⟨⟨hsimple, fun c hc => hbelow c (by simp [hc])⟩, hnext, hbelow _ (by simp)⟩
  · rintro ⟨h, hnext, hlayer⟩
    refine ⟨isSimple_concat.2 ⟨h.toIsSimple, hnext⟩, ?_⟩
    intro caller hcaller
    rw [callers_concat, List.mem_append, List.mem_singleton] at hcaller
    rcases hcaller with hcaller | rfl
    · exact h.below caller hcaller
    · exact hlayer

theorem isComplete_concat :
    s.IsComplete (trail ++ [occurrence]) ↔ s.IsOpen trail ∧ s.Continues trail occurrence ∧
      (s.isBusiness occurrence.reference.caller = true ∨
        s.index.callersOf occurrence.reference.caller = []) := by
  constructor
  · intro h
    have hbelow := h.below
    rw [callers_concat, List.dropLast_concat] at hbelow
    obtain ⟨hsimple, hnext⟩ := isSimple_concat.1 h.toIsSimple
    exact ⟨⟨hsimple, hbelow⟩, hnext, h.ends _ (by simp)⟩
  · rintro ⟨h, hnext, hend⟩
    refine ⟨isSimple_concat.2 ⟨h.toIsSimple, hnext⟩, by simp, ?_, ?_⟩
    · rw [callers_concat, List.dropLast_concat]
      exact h.below
    · intro caller hlast
      rw [callers_concat, List.getLast?_concat, Option.some_inj] at hlast
      exact hlast ▸ hend

theorem isOpen_nil : s.IsOpen [] :=
  ⟨⟨trivial, List.nodup_nil, by simp [callers]⟩, by simp [callers]⟩

/-- An open trail goes on to the open trails that are one occurrence longer. -/
theorem mem_ongoingTrails (h : s.IsOpen trail) :
    longer ∈ s.ongoingTrails trail ↔
      s.IsOpen longer ∧ ∃ occurrence, longer = trail ++ [occurrence] := by
  simp only [ongoingTrails, List.mem_filter, mem_longerTrails, Bool.not_eq_true']
  constructor
  · rintro ⟨⟨occurrence, hnext, rfl⟩, hlayer⟩
    rw [entersBusiness_concat] at hlayer
    exact ⟨isOpen_concat.2 ⟨h, hnext, hlayer⟩, occurrence, rfl⟩
  · rintro ⟨hopen, occurrence, rfl⟩
    obtain ⟨-, hnext, hlayer⟩ := isOpen_concat.1 hopen
    exact ⟨⟨occurrence, hnext, rfl⟩, by rwa [entersBusiness_concat]⟩

/-- A level holds the open trails of its length. -/
theorem mem_level {n : Nat} : trail ∈ s.level n ↔ s.IsOpen trail ∧ trail.length = n := by
  induction n generalizing trail with
  | zero =>
    simp only [level, List.mem_singleton, List.length_eq_zero_iff]
    exact ⟨fun h => ⟨h ▸ isOpen_nil, h⟩, fun h => h.2⟩
  | succ n ih =>
    simp only [level, List.mem_flatMap]
    constructor
    · rintro ⟨shorter, hshorter, hmem⟩
      obtain ⟨hopen, hlength⟩ := ih.1 hshorter
      obtain ⟨htrail, occurrence, rfl⟩ := (mem_ongoingTrails hopen).1 hmem
      exact ⟨htrail, by simp [hlength]⟩
    · rintro ⟨hopen, hlength⟩
      cases List.eq_nil_or_concat' trail with
      | inl hnil => simp [hnil] at hlength
      | inr hsplit =>
        obtain ⟨shorter, occurrence, rfl⟩ := hsplit
        have hshorter := (isOpen_concat.1 hopen).1
        exact ⟨shorter, ih.2 ⟨hshorter, by simpa using hlength⟩,
          (mem_ongoingTrails hshorter).2 ⟨hopen, occurrence, rfl⟩⟩

/-- The trails that end when a trail is extended: the trail itself if nothing calls its end, and the
trails that come to the business layer. -/
theorem mem_endedTrails : longer ∈ s.endedTrails trail ↔
    (longer = trail ∧ trail ≠ [] ∧ s.index.callersOf (s.reached trail) = []) ∨
      ∃ occurrence, s.Continues trail occurrence ∧
        s.isBusiness occurrence.reference.caller = true ∧ longer = trail ++ [occurrence] := by
  have hbusiness : longer ∈ (s.longerTrails trail).filter s.entersBusiness ↔
      ∃ occurrence, s.Continues trail occurrence ∧
        s.isBusiness occurrence.reference.caller = true ∧ longer = trail ++ [occurrence] := by
    simp only [List.mem_filter, mem_longerTrails]
    constructor
    · rintro ⟨⟨occurrence, hnext, rfl⟩, hlayer⟩
      exact ⟨occurrence, hnext, by rwa [entersBusiness_concat] at hlayer, rfl⟩
    · rintro ⟨occurrence, hnext, hlayer, rfl⟩
      exact ⟨⟨occurrence, hnext, rfl⟩, by rwa [entersBusiness_concat]⟩
  unfold endedTrails
  split
  next hdead =>
    simp only [Bool.and_eq_true, List.isEmpty_iff, Bool.not_eq_true', List.isEmpty_eq_false_iff]
      at hdead
    -- without references nothing continues the trail
    have hnone : ∀ occurrence, ¬ s.Continues trail occurrence := by
      intro occurrence hnext
      have := CallIndex.reference_mem_of_mem_occurrences hnext.leads
      simp [hdead.1] at this
    simp [hdead, hnone]
  next halive =>
    have hcalled : ¬ (trail ≠ [] ∧ s.index.callersOf (s.reached trail) = []) := by
      rintro ⟨hne, hnone⟩
      simp [hnone, hne] at halive
    rw [hbusiness]
    constructor
    · exact .inr
    · rintro (⟨-, hdead⟩ | h)
      · exact absurd hdead hcalled
      · exact h

/-! ## No trail is missed and none comes twice -/

theorem references_of_leadsFrom {method : String} (h : trail.LeadsFrom s.index method) :
    ∀ occurrence ∈ trail, occurrence.reference ∈ s.index.callers.flatMap (·.2) := by
  induction trail generalizing method with
  | nil => simp
  | cons first rest ih =>
    intro occurrence hmem
    rcases List.mem_cons.1 hmem with rfl | hrest
    · exact CallIndex.mem_references_of_mem_callersOf
        (CallIndex.reference_mem_of_mem_occurrences h.1)
    · exact ih h.2 occurrence hrest

/-- An open trail is shorter than the number of rounds: its callers are different, and each of them
makes a reference. -/
theorem IsOpen.length_lt_rounds (h : s.IsOpen trail) : trail.length < s.rounds := by
  have hsub : trail.callers ⊆ (s.index.callers.flatMap (·.2)).map (·.caller) := by
    intro caller hcaller
    obtain ⟨occurrence, hmem, rfl⟩ := List.mem_map.1 hcaller
    exact List.mem_map_of_mem (references_of_leadsFrom h.leads occurrence hmem)
  have hle := (List.subperm_of_subset h.distinct hsub).length_le
  rw [length_callers, List.length_map] at hle
  exact Nat.lt_succ_of_le hle

theorem mem_open : trail ∈ (List.range s.rounds).flatMap s.level ↔ s.IsOpen trail := by
  simp only [List.mem_flatMap, List.mem_range, mem_level]
  constructor
  · rintro ⟨n, -, h, -⟩
    exact h
  · intro h
    exact ⟨trail.length, h.length_lt_rounds, h, rfl⟩

theorem mem_completeTrails : trail ∈ s.completeTrails ↔ s.IsComplete trail := by
  simp only [completeTrails, List.mem_flatMap (b := trail), mem_open, mem_endedTrails]
  constructor
  · rintro ⟨shorter, hopen, ⟨rfl, hne, hdead⟩ | ⟨occurrence, hnext, hlayer, rfl⟩⟩
    · obtain hnil | ⟨shorter, occurrence, rfl⟩ := List.eq_nil_or_concat' trail
      · exact absurd hnil hne
      · obtain ⟨hshorter, hnext, -⟩ := isOpen_concat.1 hopen
        exact isComplete_concat.2 ⟨hshorter, hnext, .inr (by simpa [reached] using hdead)⟩
    · exact isComplete_concat.2 ⟨hopen, hnext, .inl hlayer⟩
  · intro h
    obtain hnil | ⟨shorter, occurrence, rfl⟩ := List.eq_nil_or_concat' trail
    · exact absurd hnil h.nonempty
    · obtain ⟨hopen, hnext, hend⟩ := isComplete_concat.1 h
      cases hlayer : s.isBusiness occurrence.reference.caller with
      | true => exact ⟨shorter, hopen, .inr ⟨occurrence, hnext, hlayer, rfl⟩⟩
      | false =>
        have hdead : s.index.callersOf occurrence.reference.caller = [] := by
          simpa [hlayer] using hend
        exact ⟨shorter ++ [occurrence], isOpen_concat.2 ⟨hopen, hnext, hlayer⟩,
          .inl ⟨rfl, by simp, by simpa [reached] using hdead⟩⟩

theorem nodup_longerTrails : (s.longerTrails trail).Nodup := by
  refine List.Nodup.map ?_ ((CallIndex.nodup_occurrences ..).filter _)
  intro first second heq
  simpa using heq

theorem nodup_endedTrails : (s.endedTrails trail).Nodup := by
  unfold endedTrails
  split
  · exact List.nodup_singleton _
  · exact nodup_longerTrails.filter _

theorem nodup_level (n : Nat) : (s.level n).Nodup := by
  induction n with
  | zero => exact List.nodup_singleton _
  | succ n ih =>
    rw [level, List.nodup_flatMap]
    refine ⟨fun trail _ => nodup_longerTrails.filter _, ih.pairwise_of_forall_ne ?_⟩
    intro first hfirst second hsecond hne
    -- a trail goes on to longer ones only, so these tell where they come from
    refine List.disjoint_left.2 fun longer hlonger hlonger' => hne ?_
    obtain ⟨-, _, rfl⟩ := (mem_ongoingTrails (mem_level.1 hfirst).1).1 hlonger
    obtain ⟨-, _, heq⟩ := (mem_ongoingTrails (mem_level.1 hsecond).1).1 hlonger'
    exact (List.append_inj' heq rfl).1

theorem nodup_open : ((List.range s.rounds).flatMap s.level).Nodup := by
  rw [List.nodup_flatMap]
  refine ⟨fun n _ => nodup_level n, List.nodup_range.pairwise_of_forall_ne ?_⟩
  intro m _ n _ hne
  refine List.disjoint_left.2 fun trail hm hn => hne ?_
  exact (mem_level.1 hm).2.symm.trans (mem_level.1 hn).2

/-- A complete trail comes from one open trail only: it is that trail, or enters the business layer
from it, and an open trail never is in the business layer. -/
theorem eq_of_mem_endedTrails {first second : Trail} (hfirst : s.IsOpen first)
    (hsecond : s.IsOpen second) (h : longer ∈ s.endedTrails first)
    (h' : longer ∈ s.endedTrails second) : first = second := by
  obtain ⟨rfl, -⟩ | ⟨_, -, hlayer, rfl⟩ := mem_endedTrails.1 h <;>
    obtain ⟨heq, -⟩ | ⟨_, -, hlayer', heq⟩ := mem_endedTrails.1 h'
  · exact heq
  · have := (isOpen_concat.1 (heq ▸ hfirst)).2.2
    simp [hlayer'] at this
  · have := (isOpen_concat.1 (heq ▸ hsecond)).2.2
    simp [hlayer] at this
  · exact (List.append_inj' heq rfl).1

theorem nodup_completeTrails : s.completeTrails.Nodup := by
  rw [completeTrails, List.nodup_flatMap]
  refine ⟨fun trail _ => nodup_endedTrails, nodup_open.pairwise_of_forall_ne ?_⟩
  intro first hfirst second hsecond hne
  refine List.disjoint_left.2 fun longer h h' => hne ?_
  exact eq_of_mem_endedTrails (mem_open.1 hfirst) (mem_open.1 hsecond) h h'

end Setting

end ChainSearch

end Ripple
