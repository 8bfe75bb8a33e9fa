-- SUMMARY: The invariant of the queue, the number of its turns, and what it has found when it is empty.
import Ripple.Proofs.Chain.Trail
import Mathlib.Data.Finset.Card
import Mathlib.Logic.Function.Iterate

/-!
# The queue of the search

Whatever waits in the queue follows an open trail, so it comes to no method twice and is no longer
than there are callers. The search takes one turn for each climb that is ever in the queue, and when
the queue is empty the climbs that have ended are the complete trails, each once.
-/

namespace Ripple

/-- The different methods that make the calls of an index. -/
def CallIndex.distinctCallers (index : CallIndex) : Finset String :=
  ((index.callers.flatMap (·.2)).map (·.caller)).toFinset

namespace ChainSearch.Setting

open Trail

variable (s : Setting)

/-! ## The queue runs over trails -/

/-- What waits in the queue while the search is on a trail. -/
def pendingOn (trail : Trail) : Pending where
  method := s.reached trail
  climb := trail.climb
  visited := trail.callers.reverse

theorem follow_pendingOn (trail : Trail) (occurrence : Occurrence) :
    (s.pendingOn trail).follow occurrence.reference = s.pendingOn (trail ++ [occurrence]) := by
  simp [Pending.follow, pendingOn, reached, climb_concat, callers_concat]

theorem longer_pendingOn (trail : Trail) :
    s.longer (s.pendingOn trail) = (s.longerTrails trail).map s.pendingOn := by
  have hreferences : s.references (s.pendingOn trail) =
      (s.index.occurrences (s.reached trail)).map (·.reference) :=
    (CallIndex.map_reference_occurrences ..).symm
  simp only [longer, longerTrails, hreferences, List.filter_map, List.map_map]
  have htest : ∀ occurrence : Occurrence,
      (s.pendingOn trail).visited.contains occurrence.reference.caller =
        trail.callers.contains occurrence.reference.caller :=
    fun occurrence => List.contains_reverse
  simp only [Function.comp_def, htest, follow_pendingOn]

theorem inBusiness_pendingOn {trail longer : Trail} (h : longer ∈ s.longerTrails trail) :
    s.inBusiness (s.pendingOn longer) = s.entersBusiness longer := by
  obtain ⟨occurrence, -, rfl⟩ := mem_longerTrails.1 h
  simp [inBusiness, pendingOn, reached, entersBusiness]

theorem ongoing_pendingOn (trail : Trail) :
    s.ongoing (s.pendingOn trail) = (s.ongoingTrails trail).map s.pendingOn := by
  rw [ongoing, longer_pendingOn, List.filter_map, ongoingTrails]
  refine congrArg _ (List.filter_congr fun longer hlonger => ?_)
  simp only [Function.comp_apply, s.inBusiness_pendingOn hlonger]

theorem ended_pendingOn (trail : Trail) :
    s.ended (s.pendingOn trail) = (s.endedTrails trail).map Trail.climb := by
  have hempty : (s.pendingOn trail).climb.path.isEmpty = trail.isEmpty := by
    simp [pendingOn, callers]
  have hreferences : s.references (s.pendingOn trail) = s.index.callersOf (s.reached trail) := rfl
  simp only [ended, endedTrails, hreferences, hempty]
  split
  · rfl
  · rw [longer_pendingOn, List.filter_map, List.map_map]
    refine congrArg _ (List.filter_congr fun longer hlonger => ?_)
    exact s.inBusiness_pendingOn hlonger

/-! ## The turns of the search -/

theorem offspring_ne_nil (pending : Pending) : s.offspring pending ≠ [] := by
  rw [offspring]
  exact List.cons_ne_nil _ _

theorem turnsLeft_eq_zero {progress : Progress} :
    s.turnsLeft progress = 0 ↔ progress.waiting = [] := by
  rw [turnsLeft, List.length_eq_zero_iff, List.flatMap_eq_nil_iff, List.eq_nil_iff_forall_not_mem]
  simp only [offspring_ne_nil, imp_false]

theorem turnsLeft_iterate (progress : Progress) (n : Nat) :
    s.turnsLeft (s.step^[n] progress) = s.turnsLeft progress - n := by
  induction n with
  | zero => rfl
  | succ n ih =>
    rw [Function.iterate_succ_apply']
    by_cases hwaiting : (s.step^[n] progress).waiting = []
    · have hnone := s.turnsLeft_eq_zero.2 hwaiting
      rw [s.step_of_waiting_eq_nil hwaiting]
      omega
    · have hturn := s.turnsLeft_step hwaiting
      omega

theorem run_of_waiting_eq_nil {progress : Progress} (h : progress.waiting = []) :
    s.run progress = progress := by
  rw [run, if_pos]
  simpa [Progress.waiting, Std.Queue.isEmpty] using h

theorem run_of_waiting_ne_nil {progress : Progress} (h : progress.waiting ≠ []) :
    s.run progress = s.run (s.step progress) := by
  rw [run, if_neg]
  simpa [Progress.waiting, Std.Queue.isEmpty] using h

/-- A search takes as many turns as are left. -/
theorem run_eq_iterate (progress : Progress) :
    s.run progress = s.step^[s.turnsLeft progress] progress := by
  generalize hturns : s.turnsLeft progress = turns
  induction turns generalizing progress with
  | zero => exact s.run_of_waiting_eq_nil (s.turnsLeft_eq_zero.1 hturns)
  | succ turns ih =>
    have hwaiting : progress.waiting ≠ [] := by
      intro hnone
      simp [s.turnsLeft_eq_zero.2 hnone] at hturns
    have hturn := s.turnsLeft_step hwaiting
    rw [s.run_of_waiting_ne_nil hwaiting, Function.iterate_succ_apply]
    exact ih (s.step progress) (by omega)

/-! ## What waits in the queue -/

/-- Everything in the queue follows an open trail. -/
def IsOnTrails (progress : Progress) : Prop :=
  ∀ pending ∈ progress.waiting, ∃ trail, s.IsOpen trail ∧ pending = s.pendingOn trail

theorem isOnTrails_start : s.IsOnTrails s.start := by
  intro pending hpending
  refine ⟨[], isOpen_nil, ?_⟩
  rwa [waiting_start, List.mem_singleton] at hpending

theorem IsOnTrails.step {s : Setting} {progress : Progress} (h : s.IsOnTrails progress) :
    s.IsOnTrails (s.step progress) := by
  cases hwaiting : progress.waiting with
  | nil => rwa [s.step_of_waiting_eq_nil hwaiting]
  | cons first rest =>
    intro pending hpending
    rw [(s.step_of_waiting_eq_cons hwaiting).1, List.mem_append] at hpending
    rcases hpending with hrest | hnew
    · exact h pending (by simp [hwaiting, hrest])
    · -- an open trail is only continued to open trails
      obtain ⟨trail, hopen, rfl⟩ := h first (by simp [hwaiting])
      rw [ongoing_pendingOn] at hnew
      obtain ⟨longer, hlonger, rfl⟩ := List.mem_map.1 hnew
      exact ⟨longer, ((mem_ongoingTrails hopen).1 hlonger).1, rfl⟩

theorem isOnTrails_iterate (n : Nat) : s.IsOnTrails (s.step^[n] s.start) := by
  induction n with
  | zero => exact s.isOnTrails_start
  | succ n ih =>
    rw [Function.iterate_succ_apply']
    exact ih.step

/-- A climb that comes to no method twice nor to the repository method, remembers where it has been,
and is no longer than there are callers. -/
structure IsSound (pending : Pending) : Prop where
  distinct : pending.climb.path.Nodup
  visited : ∀ method, method ∈ pending.visited ↔ method ∈ pending.climb.path
  apart : ∀ method ∈ pending.climb.path, method ∉ s.seeds
  bounded : pending.climb.path.length ≤ s.index.distinctCallers.card

theorem isSound_pendingOn {trail : Trail} (h : s.IsOpen trail) : s.IsSound (s.pendingOn trail) where
  distinct := List.nodup_reverse.2 h.distinct
  visited _ := Iff.rfl
  apart method hmethod := h.apart method (List.mem_reverse.1 hmethod)
  bounded := by
    have hsub : trail.callers.toFinset ⊆ s.index.distinctCallers := by
      intro caller hcaller
      obtain ⟨occurrence, hmem, rfl⟩ := List.mem_map.1 (List.mem_toFinset.1 hcaller)
      exact List.mem_toFinset.2
        (List.mem_map_of_mem (references_of_leadsFrom h.leads occurrence hmem))
    calc (s.pendingOn trail).climb.path.length
      _ = trail.callers.length := List.length_reverse
      _ = trail.callers.toFinset.card := (List.toFinset_card_of_nodup h.distinct).symm
      _ ≤ s.index.distinctCallers.card := Finset.card_le_card hsub

/-- The search ends: after some number of turns, and not before, its queue is empty, and the climbs
that have ended by then are its result. At each turn everything in the queue is a climb without
repetition that remembers where it has been, keeps away from the repository method and is no longer
than there are callers. -/
theorem queue_runs_empty :
    ∃ turns, (∀ n, (s.step^[n] s.start).waiting = [] ↔ turns ≤ n) ∧
      s.complete = (s.step^[turns] s.start).complete.toList ∧
      ∀ n, ∀ pending ∈ (s.step^[n] s.start).waiting, s.IsSound pending := by
  refine ⟨s.turnsLeft s.start, ?_, ?_, ?_⟩
  · intro n
    rw [← s.turnsLeft_eq_zero, turnsLeft_iterate, Nat.sub_eq_zero_iff_le]
  · rw [complete, run_eq_iterate]
  · intro n pending hpending
    obtain ⟨trail, hopen, rfl⟩ := s.isOnTrails_iterate n pending hpending
    exact s.isSound_pendingOn hopen

/-! ## The climbs that end -/

/-- The climbs in front of the queue are extended one after the other, before those that come from
them. -/
theorem exists_run_append {progress : Progress} {batch rest : List Pending}
    (h : progress.waiting = batch ++ rest) : ∃ later, s.run progress = s.run later ∧
      later.waiting = rest ++ batch.flatMap s.ongoing ∧
      later.complete.toList = progress.complete.toList ++ batch.flatMap s.ended := by
  induction batch generalizing progress rest with
  | nil => exact ⟨progress, rfl, by simpa using h, by simp⟩
  | cons pending batch ih =>
    rw [List.cons_append] at h
    obtain ⟨hwaiting, hcomplete⟩ := s.step_of_waiting_eq_cons h
    rw [List.append_assoc] at hwaiting
    obtain ⟨later, hrun, hlater, hended⟩ := ih hwaiting
    refine ⟨later, ?_, ?_, ?_⟩
    · rw [s.run_of_waiting_ne_nil (by simp [h]), hrun]
    · rw [hlater, List.flatMap_cons, List.append_assoc]
    · rw [hended, hcomplete, List.flatMap_cons]
      simp

/-- From one level on, the search comes through some levels. -/
theorem exists_run_level (rounds : Nat) {n : Nat} {progress : Progress}
    (h : progress.waiting = (s.level n).map s.pendingOn) : ∃ later, s.run progress = s.run later ∧
      later.waiting = (s.level (n + rounds)).map s.pendingOn ∧
      later.complete.toList = progress.complete.toList ++
        (((List.range' n rounds).flatMap s.level).flatMap s.endedTrails).map Trail.climb := by
  induction rounds generalizing n progress with
  | zero => exact ⟨progress, rfl, by simpa using h, by simp⟩
  | succ rounds ih =>
    have hended : ((s.level n).map s.pendingOn).flatMap s.ended =
        ((s.level n).flatMap s.endedTrails).map Trail.climb := by
      simp only [List.flatMap_map, List.map_flatMap, ended_pendingOn]
    have hongoing : ((s.level n).map s.pendingOn).flatMap s.ongoing =
        (s.level (n + 1)).map s.pendingOn := by
      simp only [level, List.flatMap_map, List.map_flatMap, ongoing_pendingOn]
    rw [← List.append_nil (List.map _ _)] at h
    obtain ⟨next, hrun, hwaiting, hcomplete⟩ := s.exists_run_append h
    rw [List.nil_append, hongoing] at hwaiting
    obtain ⟨later, hrun', hwaiting', hcomplete'⟩ := ih hwaiting
    refine ⟨later, hrun.trans hrun', ?_, ?_⟩
    · rw [hwaiting', Nat.add_right_comm, Nat.add_assoc]
    · rw [hcomplete', hcomplete, hended, List.range'_succ, List.flatMap_cons, List.flatMap_append,
        List.map_append, List.append_assoc]

/-- The climbs that end are the complete trails. -/
theorem complete_eq : s.complete = s.completeTrails.map Trail.climb := by
  -- an open trail is too short for the level behind the last
  have hlast : s.level s.rounds = [] := by
    refine List.eq_nil_iff_forall_not_mem.2 fun trail htrail => ?_
    obtain ⟨hopen, hlength⟩ := mem_level.1 htrail
    have := hopen.length_lt_rounds
    omega
  have hstart : s.start.waiting = (s.level 0).map s.pendingOn := rfl
  obtain ⟨later, hrun, hwaiting, hcomplete⟩ := s.exists_run_level s.rounds hstart
  rw [Nat.zero_add, hlast, List.map_nil] at hwaiting
  rw [complete, hrun, s.run_of_waiting_eq_nil hwaiting, hcomplete, completeTrails,
    List.range_eq_range']
  rfl

end ChainSearch.Setting

end Ripple
