-- SUMMARY: The search for call chains: climbs that wait in a queue, the turn of the queue, and its end.
import Ripple.Call.Index
import Ripple.Chain.Basic

/-! # The search for call chains

From a repository method the search climbs to its callers, to their callers, and so on. A climb ends
at the first method of the business layer, or at a method that nothing calls. It never comes to a
method twice, nor back to the repository method. The climbs that wait to be extended are in a queue,
so all climbs of one length are extended before the longer ones.
-/

namespace Ripple

/-- A climb: the callers so far, outermost first, and the line of the call in each of them. -/
structure Climb where
  path : List String := []
  lines : List Int := []
deriving DecidableEq, Repr

namespace ChainSearch

/-- What a search is made in. -/
structure Setting where
  index : CallIndex
  /-- Which methods belong to the business layer. -/
  isBusiness : String → Bool
  method : String

/-- A climb that waits to be extended, with the method that it has come to and the methods that it
may not come to again. -/
structure Pending where
  method : String
  climb : Climb := {}
  visited : List String := []
deriving DecidableEq, Repr

/-- How far a search has come: the climbs that wait, those that have ended, and the callers whose
layer was asked for. -/
structure Progress where
  queue : Std.Queue Pending
  complete : Array Climb := #[]
  met : Array String := #[]

/-- The climbs in the queue, the one that is extended next first. -/
def Progress.waiting (progress : Progress) : List Pending :=
  progress.queue.dList ++ progress.queue.eList.reverse

/-- A climb with one more call. -/
def Pending.follow (pending : Pending) (ref : CallReference) : Pending where
  method := ref.caller
  climb := ⟨ref.caller :: pending.climb.path, ref.line :: pending.climb.lines⟩
  visited := ref.caller :: pending.visited

namespace Setting

variable (s : Setting)

/-- The identifiers that stand for the repository method. -/
def seeds : List String :=
  s.index.calleeKeys s.method ++ [s.method]

/-- The references to the method that a climb has come to. -/
def references (pending : Pending) : List CallReference :=
  s.index.callersOf pending.method

/-- The climbs that are one call longer. -/
def longer (pending : Pending) : List Pending :=
  ((s.references pending).filter fun ref =>
    !pending.visited.contains ref.caller && !s.seeds.contains ref.caller).map pending.follow

/-- Whether a climb has come to the business layer. -/
def inBusiness (pending : Pending) : Bool :=
  s.isBusiness pending.method

/-- The climbs that end when a climb is extended: itself if nothing calls its top, and those that
come to the business layer. -/
def ended (pending : Pending) : List Climb :=
  -- At the repository method itself no climb ends, even if nothing calls it.
  if (s.references pending).isEmpty && !pending.climb.path.isEmpty then [pending.climb]
  else ((s.longer pending).filter s.inBusiness).map (·.climb)

/-- The climbs that go on when a climb is extended. -/
def ongoing (pending : Pending) : List Pending :=
  (s.longer pending).filter fun longer => !s.inBusiness longer

/-- A search begins at the repository method. -/
def start : Progress where
  queue := Std.Queue.empty.enqueue { method := s.method }

/-- One turn of the search: the first climb of the queue is extended. -/
def step (progress : Progress) : Progress :=
  match progress.queue.dequeue? with
  | none => progress
  | some (pending, rest) => {
      -- Of a list that is put in at once, the last comes out first.
      queue := rest.enqueueAll (s.ongoing pending).reverse
      complete := progress.complete ++ s.ended pending
      met := progress.met ++ (s.longer pending).map (·.method) }

theorem waiting_start : s.start.waiting = [{ method := s.method }] := rfl

theorem step_of_waiting_eq_nil {progress : Progress} (h : progress.waiting = []) :
    s.step progress = progress := by
  obtain ⟨⟨back, front⟩, complete, met⟩ := progress
  simp only [Progress.waiting, List.append_eq_nil_iff, List.reverse_eq_nil_iff] at h
  obtain ⟨rfl, rfl⟩ := h
  rfl

/-- A turn takes the first climb away and puts those that come from it behind all others. -/
theorem step_of_waiting_eq_cons {progress : Progress} {pending : Pending} {rest : List Pending}
    (h : progress.waiting = pending :: rest) :
    (s.step progress).waiting = rest ++ s.ongoing pending ∧
      (s.step progress).complete = progress.complete ++ s.ended pending := by
  obtain ⟨⟨back, front⟩, complete, met⟩ := progress
  simp only [Progress.waiting] at h
  cases front with
  | cons first front =>
    obtain ⟨rfl, rfl⟩ := List.cons.inj h
    simp [step, Std.Queue.dequeue?, Std.Queue.enqueueAll, Progress.waiting]
  | nil =>
    rw [List.nil_append] at h
    simp [step, Std.Queue.dequeue?, Std.Queue.enqueueAll, Progress.waiting, h]

/-! ## The search ends

Every call of a climb leads to a caller that the climb has not been at, so the references to other
callers become fewer. The turns that are left are one for each climb in the queue and each that will
come from it.
-/

/-- The references by callers that a climb has not been at. -/
def unvisited (pending : Pending) : List CallReference :=
  (s.index.callers.flatMap (·.2)).filter fun ref => !pending.visited.contains ref.caller

theorem length_unvisited_lt {pending longer : Pending} (h : longer ∈ s.longer pending) :
    (s.unvisited longer).length < (s.unvisited pending).length := by
  obtain ⟨ref, href, rfl⟩ := List.mem_map.1 h
  obtain ⟨hcalls, hfresh⟩ := List.mem_filter.1 href
  have hvisited : pending.visited.contains ref.caller = false := by simp_all
  -- what the longer climb has not been at is the same without the references by the new caller
  have hfewer : s.unvisited (pending.follow ref) =
      (s.unvisited pending).filter (·.caller != ref.caller) := by
    simp only [unvisited, Pending.follow, List.filter_filter, List.contains_cons, Bool.not_or]
    rfl
  rw [hfewer]
  have hmem : ref ∈ s.unvisited pending :=
    List.mem_filter.2 ⟨CallIndex.mem_references_of_mem_callersOf hcalls, by simpa using hvisited⟩
  exact List.length_filter_lt_length_iff_exists.2 ⟨ref, hmem, by simp⟩

theorem length_unvisited_lt_of_ongoing {pending longer : Pending} (h : longer ∈ s.ongoing pending) :
    (s.unvisited longer).length < (s.unvisited pending).length :=
  s.length_unvisited_lt (List.mem_filter.1 h).1

/-- A climb and all those that come from it. -/
def offspring (pending : Pending) : List Pending :=
  pending :: (s.ongoing pending).attach.flatMap fun longer => offspring longer.1
termination_by (s.unvisited pending).length
decreasing_by exact s.length_unvisited_lt_of_ongoing longer.2

/-- The number of turns that a search will still take. -/
def turnsLeft (progress : Progress) : Nat :=
  (progress.waiting.flatMap s.offspring).length

theorem turnsLeft_step {progress : Progress} (h : progress.waiting ≠ []) :
    s.turnsLeft (s.step progress) + 1 = s.turnsLeft progress := by
  obtain ⟨pending, rest, hwaiting⟩ := List.exists_cons_of_ne_nil h
  have hown : s.offspring pending = pending :: (s.ongoing pending).flatMap s.offspring := by
    rw [offspring, List.flatMap_subtype (fun _ _ => rfl), List.unattach_attach]
  simp only [turnsLeft, (s.step_of_waiting_eq_cons hwaiting).1, hwaiting, List.flatMap_append,
    List.flatMap_cons, hown, List.length_append, List.length_cons]
  omega

theorem waiting_ne_nil {progress : Progress} (h : ¬ progress.queue.isEmpty = true) :
    progress.waiting ≠ [] := by
  simpa [Progress.waiting, Std.Queue.isEmpty] using h

/-- Extends climbs until none is left in the queue. -/
def run (progress : Progress) : Progress :=
  if progress.queue.isEmpty then progress else run (s.step progress)
termination_by s.turnsLeft progress
decreasing_by
  rename_i h
  have := s.turnsLeft_step (waiting_ne_nil h)
  omega

/-- The climbs from the repository method that end. -/
def complete : List Climb :=
  (s.run s.start).complete.toList

/-- The methods whose layer matters for the search. -/
def met : List String :=
  (s.run s.start).met.toList

end Setting

/-- The chains that lead to a repository method: one without callers if no climb ends. -/
def chains (s : Setting) (table : String) : List CallChain :=
  let complete := s.complete
  let shown := if complete.isEmpty then [{}] else complete
  shown.map fun climb => ⟨climb.path, climb.lines, s.method, table⟩

end ChainSearch

end Ripple
