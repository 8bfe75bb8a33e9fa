-- SUMMARY: Every order in which a pool can finish its tasks, step by step, and that none makes a difference.
import Ripple.Proofs.Settings.Standard
import Ripple.Proofs.Workers

/-!
# The order in which a pool finishes its tasks

A pool at work is described step by step: any of its tasks may be finished next, and the reader of
the results goes on when the oldest one is. Whatever the order, the results are handed on as one
worker would hand them on, and end as they would end.
-/

namespace Ripple.Workers

variable {α β σ : Type}

/-- The work that is nothing but a function of the item. -/
def ofFunction (f : α → Except Fault β) : Labor α β :=
  fun _ item => (f item).map fun b => ([], b)

section
variable {f : α → Except Fault β} {consume : σ → β → Work σ} {w w' : Workspace}

/-- A function is asked for its result if the signal was not given, and has no messages to keep. -/
theorem outcome_result_ofFunction (keepMessages : Bool) (item : α)
    (h : Work.isCancelled.outcome w = (.ok false, w')) :
    (result (ofFunction f) keepMessages item).outcome w = (.ok (f item), w') := by
  unfold result
  rw [Work.outcome_bind_ok h]
  simp only [Bool.false_eq_true, if_false]
  rw [Work.outcome_bind_ok (Work.outcome_files w')]
  cases hitem : f item with
  | error fault =>
    simp only [ofFunction, hitem, Except.map]
    rfl
  | ok b =>
    simp only [ofFunction, hitem, Except.map]
    cases keepMessages with
    | false => rfl
    | true =>
      simp only [if_true]
      rw [Work.outcome_bind_ok (Work.outcome_report [] w'), List.append_nil]
      rfl

/-- Asking the signal is never a fault. -/
theorem isCancelled_returns : Work.isCancelled.Returns := by
  intro w
  obtain ⟨cancelled, w', hasked, -⟩ := Work.isCancelled_spec w
  exact ⟨cancelled, w', hasked⟩

/-- Whether messages are kept makes no difference where there are none. -/
theorem inOrder_ofFunction (keepMessages : Bool) (state : σ) (items : List α) :
    inOrder (ofFunction f) keepMessages consume state items =
      alone (ofFunction f) consume state items := by
  have hresult (item : α) :
      result (ofFunction f) keepMessages item = result (ofFunction f) true item := by
    refine funext fun w => ?_
    change (result (ofFunction f) keepMessages item).outcome w =
      (result (ofFunction f) true item).outcome w
    obtain ⟨cancelled, w', hasked⟩ := isCancelled_returns w
    cases cancelled with
    | true => rw [outcome_result_of_cancelled _ _ _ hasked, outcome_result_of_cancelled _ _ _ hasked]
    | false => rw [outcome_result_ofFunction _ _ hasked, outcome_result_ofFunction _ _ hasked]
  rw [alone_eq]
  induction items generalizing state with
  | nil => rfl
  | cons item rest ih => simp only [inOrder, hresult, ih]

/-- What is done for the next item once the signal was asked. -/
def proceed (f : α → Except Fault β) (consume : σ → β → Work σ) (state : σ) :
    List α → Work (σ × Option Fault)
  | [] => return (state, none)
  | item :: rest =>
    match f item with
    | .error fault => return (state, some fault)
    | .ok b => do alone (ofFunction f) consume (← consume state b) rest

theorem outcome_alone_of_cancelled (state : σ) (item : α) (rest : List α)
    (h : Work.isCancelled.outcome w = (.ok true, w')) :
    (alone (ofFunction f) consume state (item :: rest)).outcome w =
      (.ok (state, some .cancelled), w') := by
  rw [alone, Work.outcome_bind_ok (outcome_result_of_cancelled _ true item h)]
  rfl

theorem outcome_alone_of_asked (state : σ) (item : α) (rest : List α)
    (h : Work.isCancelled.outcome w = (.ok false, w')) :
    (alone (ofFunction f) consume state (item :: rest)).outcome w =
      (proceed f consume state (item :: rest)).outcome w' := by
  rw [alone, Work.outcome_bind_ok (outcome_result_ofFunction true item h)]
  cases hitem : f item <;> simp only [proceed, hitem]

end

/-! ## Pools at work -/

/-- A task of a pool, with its result once it is finished. -/
structure Task (α β : Type) where
  item : α
  result? : Option (Except Fault β) := none

/-- What the reader of the results does. -/
inductive Turn where
  /-- It is about to ask the signal, and to take the oldest task. -/
  | asks
  /-- It waits for the result of the oldest task. -/
  | waits
  /-- It has come to the end, or to a fault of the work. -/
  | ended (fault? : Option Fault)
  /-- Taking a result over was a fault. -/
  | failed (fault : Fault)

/-- A pool at work, with what its reader has reached. -/
structure PoolRun (α β σ : Type) where
  /-- The tasks whose results are not handed on yet, oldest first. -/
  tasks : List (Task α β) := []
  /-- The items that the pool was not given yet. -/
  waiting : List α
  /-- The items that the pool was given, in the order in which it was. -/
  submitted : List α := []
  turn : Turn := .asks
  state : σ
  workspace : Workspace

/-- What happens next. -/
inductive Event where
  /-- The task behind so many older ones is finished. -/
  | finishes (older : Nat)
  /-- The reader goes on. -/
  | reads
deriving DecidableEq, Repr

namespace PoolRun

/-- Gives the pool the next items that wait, up to a number. -/
def submit (count : Nat) (s : PoolRun α β σ) : PoolRun α β σ :=
  { s with
    tasks := s.tasks ++ (s.waiting.take count).map fun item => { item }
    waiting := s.waiting.drop count
    submitted := s.submitted ++ s.waiting.take count }

/-- A pool at its start. -/
def start (workers : Nat) (items : List α) (state : σ) (workspace : Workspace) : PoolRun α β σ :=
  submit (WorkPlan.lead workers) { waiting := items, state, workspace }

/-- A task is finished that was not yet. -/
def finish? (f : α → Except Fault β) (s : PoolRun α β σ) (older : Nat) : Option (PoolRun α β σ) :=
  match s.tasks[older]? with
  | some ⟨item, none⟩ => some { s with tasks := s.tasks.set older ⟨item, some (f item)⟩ }
  | _ => none

/-- The reader goes on, unless it has ended or waits for a task that is not finished. -/
def read? (consume : σ → β → Work σ) (s : PoolRun α β σ) : Option (PoolRun α β σ) :=
  match s.turn, s.tasks with
  | .asks, [] => some { s with turn := .ended none }
  | .asks, _ :: _ =>
    match Work.isCancelled.outcome s.workspace with
    | (.ok false, workspace) => some { s with turn := .waits, workspace }
    | (_, workspace) => some { s with turn := .ended (some .cancelled), workspace }
  | .waits, ⟨_, some (.error fault)⟩ :: rest =>
    some { s with tasks := rest, turn := .ended (some fault) }
  | .waits, ⟨_, some (.ok b)⟩ :: rest =>
    match (consume s.state b).outcome s.workspace with
    | (.ok state, workspace) =>
      some (submit 1 { s with tasks := rest, turn := .asks, state, workspace })
    | (.error fault, workspace) =>
      some (submit 1 { s with tasks := rest, turn := .failed fault, workspace })
  | _, _ => none

section
variable (f : α → Except Fault β) (consume : σ → β → Work σ)

def step? (s : PoolRun α β σ) : Event → Option (PoolRun α β σ)
  | .finishes older => s.finish? f older
  | .reads => s.read? consume

/-- What comes of events one after the other, if they can happen. -/
def run? (s : PoolRun α β σ) (events : List Event) : Option (PoolRun α β σ) :=
  events.foldlM (step? f consume) s

end

/-- What has come out, once the reader has ended. -/
def outcome? (s : PoolRun α β σ) : Option (Except Fault (σ × Option Fault) × Workspace) :=
  match s.turn with
  | .ended fault? => some (.ok (s.state, fault?), s.workspace)
  | .failed fault => some (.error fault, s.workspace)
  | _ => none

/-! ## Single steps -/

section
variable {f : α → Except Fault β} {consume : σ → β → Work σ} {s s' : PoolRun α β σ}

/-- What a step can do. -/
inductive Step (f : α → Except Fault β) (consume : σ → β → Work σ) (s : PoolRun α β σ) :
    PoolRun α β σ → Prop where
  | finished {older : Nat} {item : α} (task : s.tasks[older]? = some ⟨item, none⟩) :
      Step f consume s { s with tasks := s.tasks.set older ⟨item, some (f item)⟩ }
  | exhausted (turn : s.turn = .asks) (tasks : s.tasks = []) :
      Step f consume s { s with turn := .ended none }
  | cancelled {workspace : Workspace} (turn : s.turn = .asks) (tasks : s.tasks ≠ [])
      (asked : Work.isCancelled.outcome s.workspace = (.ok true, workspace)) :
      Step f consume s { s with turn := .ended (some .cancelled), workspace }
  | taken {workspace : Workspace} (turn : s.turn = .asks) (tasks : s.tasks ≠ [])
      (asked : Work.isCancelled.outcome s.workspace = (.ok false, workspace)) :
      Step f consume s { s with turn := .waits, workspace }
  | faulted {item : α} {fault : Fault} {rest : List (Task α β)} (turn : s.turn = .waits)
      (tasks : s.tasks = ⟨item, some (.error fault)⟩ :: rest) :
      Step f consume s { s with tasks := rest, turn := .ended (some fault) }
  | handedOn {item : α} {b : β} {rest : List (Task α β)} {state : σ} {workspace : Workspace}
      (turn : s.turn = .waits) (tasks : s.tasks = ⟨item, some (.ok b)⟩ :: rest)
      (consumed : (consume s.state b).outcome s.workspace = (.ok state, workspace)) :
      Step f consume s (submit 1 { s with tasks := rest, turn := .asks, state, workspace })
  | failed {item : α} {b : β} {rest : List (Task α β)} {fault : Fault} {workspace : Workspace}
      (turn : s.turn = .waits) (tasks : s.tasks = ⟨item, some (.ok b)⟩ :: rest)
      (consumed : (consume s.state b).outcome s.workspace = (.error fault, workspace)) :
      Step f consume s (submit 1 { s with tasks := rest, turn := .failed fault, workspace })

theorem step_of_read? (h : s.read? consume = some s') : Step f consume s s' := by
  unfold read? at h
  split at h
  · rename_i hturn htasks
    cases h
    exact .exhausted hturn htasks
  · rename_i hturn htasks
    have hne : s.tasks ≠ [] := by simp [htasks]
    obtain ⟨asked, workspace, hasked⟩ := isCancelled_returns s.workspace
    rw [hasked] at h
    cases asked with
    | false =>
      cases h
      exact .taken hturn hne hasked
    | true =>
      cases h
      exact .cancelled hturn hne hasked
  · rename_i hturn htasks
    cases h
    exact .faulted hturn htasks
  · rename_i hturn htasks
    split at h
    · rename_i hconsumed
      cases h
      exact .handedOn hturn htasks hconsumed
    · rename_i hconsumed
      cases h
      exact .failed hturn htasks hconsumed
  · cases h

theorem step_of_finish? {older : Nat} (h : s.finish? f older = some s') : Step f consume s s' := by
  unfold finish? at h
  split at h
  · rename_i htask
    cases h
    exact .finished htask
  · cases h

theorem step_of_step? {event : Event} (h : s.step? f consume event = some s') :
    Step f consume s s' := by
  cases event with
  | finishes older => exact step_of_finish? h
  | reads => exact step_of_read? h

end

/-! ## What every step keeps -/

/-- The items were given to the pool in their order, each of them once, and no more of them than its
window holds. What is finished has the right result. -/
structure IsSound (f : α → Except Fault β) (workers : Nat) (items : List α)
    (s : PoolRun α β σ) : Prop where
  submits : s.submitted ++ s.waiting = items
  window : s.tasks.length ≤ WorkPlan.lead workers
  fed : s.turn = .asks → s.tasks = [] → s.waiting = []
  awaited : s.turn = .waits → s.tasks ≠ []
  results : ∀ task ∈ s.tasks, ∀ result, task.result? = some result → result = f task.item

section
variable {f : α → Except Fault β} {consume : σ → β → Work σ} {workers : Nat} {items : List α}
  {s s' : PoolRun α β σ}

theorem submitted_append_waiting_submit (count : Nat) (s : PoolRun α β σ) :
    (submit count s).submitted ++ (submit count s).waiting = s.submitted ++ s.waiting := by
  simp only [submit, List.append_assoc, List.take_append_drop]

theorem length_tasks_submit_le (count : Nat) (s : PoolRun α β σ) :
    (submit count s).tasks.length ≤ s.tasks.length + count := by
  simp only [submit, List.length_append, List.length_map, List.length_take]
  omega

/-- Nothing is known yet of what was just given to the pool. -/
theorem mem_tasks_submit {count : Nat} {task : Task α β} (h : task ∈ (submit count s).tasks) :
    task ∈ s.tasks ∨ task.result? = none := by
  obtain h | h := List.mem_append.1 h
  · exact .inl h
  · obtain ⟨item, -, rfl⟩ := List.mem_map.1 h
    exact .inr rfl

/-- If the pool has nothing although it could be given something, nothing waits. -/
theorem waiting_submit_eq_nil {count : Nat} (hcount : 0 < count)
    (h : (submit count s).tasks = []) : (submit count s).waiting = [] := by
  simp only [submit, List.append_eq_nil_iff, List.map_eq_nil_iff, List.take_eq_nil_iff] at h ⊢
  obtain ⟨-, rfl | hwaiting⟩ := h
  · cases hcount
  · rw [hwaiting, List.drop_nil]

theorem isSound_start (hworkers : 0 < workers) (state : σ) (w : Workspace) :
    (start workers items state w : PoolRun α β σ).IsSound f workers items where
  submits := submitted_append_waiting_submit _ _
  window := Nat.le_trans (length_tasks_submit_le _ _) (Nat.le_of_eq (Nat.zero_add _))
  fed _ htasks := waiting_submit_eq_nil (by unfold WorkPlan.lead; omega) htasks
  awaited := nofun
  results task htask result hresult := by
    obtain htask | hnone := mem_tasks_submit htask
    · cases htask
    · cases hnone.symm.trans hresult

/-- For a result that is handed on the pool is given one item, which keeps the window. -/
theorem IsSound.submit_one (h : s.IsSound f workers items) {first : Task α β}
    {rest : List (Task α β)} (htasks : s.tasks = first :: rest) (turn : Turn)
    (hturn : turn ≠ .waits) (state : σ) (workspace : Workspace) :
    (submit 1 { s with tasks := rest, turn, state, workspace }).IsSound f workers items where
  submits := (submitted_append_waiting_submit 1 _).trans h.submits
  window := by
    have hwindow := h.window
    rw [htasks] at hwindow
    exact Nat.le_trans (length_tasks_submit_le 1 _) hwindow
  fed _ hempty := waiting_submit_eq_nil Nat.one_pos hempty
  awaited hwaits := absurd hwaits hturn
  results task htask result hresult := by
    obtain hrest | hnone := mem_tasks_submit htask
    · exact h.results task (htasks ▸ List.mem_cons_of_mem first hrest) result hresult
    · cases hnone.symm.trans hresult

theorem IsSound.step (h : s.IsSound f workers items) (hstep : Step f consume s s') :
    s'.IsSound f workers items := by
  cases hstep with
  | @finished older item htask =>
    refine ⟨h.submits, by simpa using h.window, ?_, ?_, ?_⟩
    · intro hturn hempty
      exact h.fed hturn (by simpa using hempty)
    · intro hturn hempty
      exact h.awaited hturn (by simpa using hempty)
    · intro task hmem result hresult
      obtain hmem | rfl := List.mem_or_eq_of_mem_set hmem
      · exact h.results task hmem result hresult
      · cases hresult
        rfl
  | exhausted hturn htasks => exact ⟨h.submits, h.window, nofun, nofun, h.results⟩
  | cancelled hturn htasks hasked => exact ⟨h.submits, h.window, nofun, nofun, h.results⟩
  | taken hturn htasks hasked => exact ⟨h.submits, h.window, nofun, fun _ => htasks, h.results⟩
  | faulted hturn htasks =>
    have hwindow := h.window
    rw [htasks] at hwindow
    exact ⟨h.submits, Nat.le_of_succ_le hwindow, nofun, nofun,
      fun task hmem => h.results task (htasks ▸ List.mem_cons_of_mem _ hmem)⟩
  | handedOn hturn htasks hconsumed => exact h.submit_one htasks .asks nofun _ _
  | failed hturn htasks hconsumed => exact h.submit_one htasks (.failed _) nofun _ _

end

/-! ## What will come out -/

/-- The items whose results are not handed on yet. -/
def remaining (s : PoolRun α β σ) : List α :=
  s.tasks.map (·.item) ++ s.waiting

/-- What one worker would make of the items that remain. -/
def prospect (f : α → Except Fault β) (consume : σ → β → Work σ) (s : PoolRun α β σ) :
    Except Fault (σ × Option Fault) × Workspace :=
  match s.turn with
  | .asks => (alone (ofFunction f) consume s.state s.remaining).outcome s.workspace
  | .waits => (proceed f consume s.state s.remaining).outcome s.workspace
  | .ended fault? => (.ok (s.state, fault?), s.workspace)
  | .failed fault => (.error fault, s.workspace)

section
variable {f : α → Except Fault β} {consume : σ → β → Work σ} {workers : Nat} {items : List α}
  {s s' : PoolRun α β σ}

theorem remaining_submit (count : Nat) (s : PoolRun α β σ) :
    (submit count s).remaining = s.remaining := by
  simp [remaining, submit, Function.comp_def, List.append_assoc]

/-- A task that is finished keeps its item. -/
theorem remaining_finished {older : Nat} {item : α} {result? : Option (Except Fault β)}
    (h : s.tasks[older]? = some ⟨item, none⟩) :
    (s.tasks.set older ⟨item, result?⟩).map (·.item) = s.tasks.map (·.item) := by
  obtain ⟨holder, htask⟩ := List.getElem?_eq_some_iff.1 h
  have hlength : older < (s.tasks.map (·.item)).length := by simpa using holder
  have hitem : (s.tasks.map (·.item))[older] = item := by simp [htask]
  calc (s.tasks.set older ⟨item, result?⟩).map (·.item)
      = (s.tasks.map (·.item)).set older item := List.map_set
    _ = (s.tasks.map (·.item)).set older (s.tasks.map (·.item))[older] := by rw [hitem]
    _ = s.tasks.map (·.item) := List.set_getElem_self hlength

/-- No step changes what will come out. -/
theorem IsSound.prospect_step (h : s.IsSound f workers items) (hstep : Step f consume s s') :
    s'.prospect f consume = s.prospect f consume := by
  cases hstep with
  | finished htask => simp only [prospect, remaining, remaining_finished htask]
  | exhausted hturn htasks =>
    simp [prospect, hturn, remaining, htasks, h.fed hturn htasks, alone]
  | cancelled hturn htasks hasked =>
    obtain ⟨task, rest, htasks⟩ := List.exists_cons_of_ne_nil htasks
    simp [prospect, hturn, remaining, htasks, outcome_alone_of_cancelled _ _ _ hasked]
  | taken hturn htasks hasked =>
    obtain ⟨task, rest, htasks⟩ := List.exists_cons_of_ne_nil htasks
    simp [prospect, hturn, remaining, htasks, outcome_alone_of_asked _ _ _ hasked]
  | faulted hturn htasks =>
    -- Whenever the oldest task was finished, one worker would have its result now.
    have hresult := h.results _ (htasks ▸ List.mem_cons_self) _ rfl
    simp [prospect, hturn, remaining, htasks, proceed, ← hresult]
  | handedOn hturn htasks hconsumed =>
    have hresult := h.results _ (htasks ▸ List.mem_cons_self) _ rfl
    simp only [prospect, remaining_submit]
    simp [submit, hturn, remaining, htasks, proceed, ← hresult, Work.outcome_bind_ok hconsumed]
  | failed hturn htasks hconsumed =>
    have hresult := h.results _ (htasks ▸ List.mem_cons_self) _ rfl
    simp [prospect, submit, hturn, remaining, htasks, proceed, ← hresult,
      Work.outcome_bind_error hconsumed]

end

/-! ## How many steps there are -/

/-- A bound on the number of steps to come: every item has to be finished, asked for and handed
on. -/
def effort (s : PoolRun α β σ) : Nat :=
  s.tasks.countP (·.result?.isNone) + 2 * s.tasks.length + 3 * s.waiting.length +
    match s.turn with
    | .asks => 1
    | _ => 0

section
variable {f : α → Except Fault β} {consume : σ → β → Work σ} {workers : Nat} {items : List α}
  {s s' : PoolRun α β σ}

theorem effort_submit (count : Nat) (s : PoolRun α β σ) : (submit count s).effort = s.effort := by
  have hnew (items : List α) :
      (items.map fun item => ({ item } : Task α β)).countP (·.result?.isNone) = items.length := by
    simp [List.countP_map]
  have hlength := congrArg List.length (List.take_append_drop count s.waiting)
  rw [List.length_append] at hlength
  simp only [effort, submit, List.countP_append, hnew, List.length_append, List.length_map]
  omega

theorem countP_finished {older : Nat} {item : α} (result : Except Fault β)
    (h : s.tasks[older]? = some ⟨item, none⟩) :
    (s.tasks.set older ⟨item, some result⟩).countP (·.result?.isNone) <
      s.tasks.countP (·.result?.isNone) := by
  obtain ⟨holder, htask⟩ := List.getElem?_eq_some_iff.1 h
  have hpos : 0 < s.tasks.countP (·.result?.isNone) :=
    List.countP_pos_iff.2 ⟨_, List.mem_of_getElem? h, rfl⟩
  rw [List.countP_set holder, htask]
  simp only [Option.isNone_none, Option.isNone_some, if_true, Bool.false_eq_true, if_false]
  omega

theorem effort_step (h : Step f consume s s') : s'.effort < s.effort := by
  cases h with
  | @finished older item htask =>
    have hcount := countP_finished (f item) htask
    simp only [effort, List.length_set]
    omega
  | exhausted hturn htasks => simp [effort, hturn]
  | cancelled hturn htasks hasked => simp [effort, hturn]
  | taken hturn htasks hasked => simp [effort, hturn]
  | faulted hturn htasks =>
    simp only [effort, hturn, htasks, List.countP_cons, List.length_cons]
    omega
  | handedOn hturn htasks hconsumed =>
    -- The task that is gone counts for two, and only the next question is new.
    simp only [effort_submit]
    simp only [effort, hturn, htasks, List.countP_cons, List.length_cons]
    omega
  | failed hturn htasks hconsumed =>
    simp only [effort_submit]
    simp only [effort, hturn, htasks, List.countP_cons, List.length_cons]
    omega

/-- Until the reader has ended, something can happen. -/
theorem IsSound.exists_step (h : s.IsSound f workers items) (hends : s.outcome? = none) :
    ∃ event s', s.step? f consume event = some s' := by
  cases hturn : s.turn with
  | asks =>
    refine ⟨.reads, ?_⟩
    obtain ⟨cancelled, w, hasked⟩ := isCancelled_returns s.workspace
    cases htasks : s.tasks with
    | nil => exact ⟨_, by simp [step?, read?, hturn, htasks]; rfl⟩
    | cons task rest =>
      cases cancelled with
      | true => exact ⟨_, by simp [step?, read?, hturn, htasks, hasked]; rfl⟩
      | false => exact ⟨_, by simp [step?, read?, hturn, htasks, hasked]; rfl⟩
  | waits =>
    obtain ⟨⟨item, result?⟩, rest, htasks⟩ := List.exists_cons_of_ne_nil (h.awaited hturn)
    cases result? with
    -- The reader waits for the oldest task, and that one can be finished whatever the others do.
    | none => exact ⟨.finishes 0, _, by simp [step?, finish?, htasks]; rfl⟩
    | some result =>
      refine ⟨.reads, ?_⟩
      cases result with
      | error fault => exact ⟨_, by simp [step?, read?, hturn, htasks]; rfl⟩
      | ok b =>
        rcases hconsumed : (consume s.state b).outcome s.workspace with ⟨reached, w⟩
        cases reached with
        | error fault => exact ⟨_, by simp [step?, read?, hturn, htasks, hconsumed]; rfl⟩
        | ok state => exact ⟨_, by simp [step?, read?, hturn, htasks, hconsumed]; rfl⟩
  | ended fault? => simp [outcome?, hturn] at hends
  | failed fault => simp [outcome?, hturn] at hends

/-! ## Runs -/

/-- What a run keeps. -/
theorem IsSound.run (h : s.IsSound f workers items) {events : List Event}
    (hrun : s.run? f consume events = some s') :
    s'.IsSound f workers items ∧ s'.prospect f consume = s.prospect f consume ∧
      events.length + s'.effort ≤ s.effort := by
  induction events generalizing s with
  | nil =>
    cases hrun
    exact ⟨h, rfl, by simp⟩
  | cons event events ih =>
    obtain ⟨next, hnext, hrest⟩ := Option.bind_eq_some_iff.1 hrun
    have hstep : Step f consume s next := step_of_step? hnext
    obtain ⟨hsound, hprospect, heffort⟩ := ih (h.step hstep) hrest
    refine ⟨hsound, hprospect.trans (h.prospect_step hstep), ?_⟩
    have hless := effort_step hstep
    simp only [List.length_cons]
    omega

theorem prospect_of_outcome? {outcome : Except Fault (σ × Option Fault) × Workspace}
    (h : s.outcome? = some outcome) : s.prospect f consume = outcome := by
  unfold outcome? at h
  unfold prospect
  cases hturn : s.turn <;> simp_all

/-- However the tasks of a pool finish one after the other, its items were submitted in their order,
each of them once, and never more than four for a worker are pending. The pool never gets stuck and
comes to an end, and this is the end that one worker comes to. -/
theorem run?_start (hworkers : 0 < workers) (state : σ) {w : Workspace} {events : List Event}
    (hrun : (start workers items state w).run? f consume events = some s) :
    s.submitted ++ s.waiting = items ∧ s.tasks.length ≤ 4 * workers ∧
      events.length ≤ 3 * items.length + 1 ∧
      (∀ outcome, s.outcome? = some outcome →
        outcome = (alone (ofFunction f) consume state items).outcome w) ∧
      (s.outcome? = none → ∃ event s', s.step? f consume event = some s') := by
  obtain ⟨hsound, hprospect, heffort⟩ := (isSound_start hworkers state w).run hrun
  refine ⟨hsound.submits, hsound.window, ?_, ?_, hsound.exists_step⟩
  · have hstart : (start workers items state w : PoolRun α β σ).effort = 3 * items.length + 1 := by
      rw [start, effort_submit]
      simp [effort]
    omega
  · intro outcome houtcome
    rw [← prospect_of_outcome? houtcome, hprospect, prospect]
    simp only [start, remaining_submit]
    simp [submit, remaining]

end

end PoolRun

/-! ## Settings -/

section
variable {settings : Settings} {workers : Nat} {f : α → Except Fault β}
  {consume : σ → β → Work σ} {state : σ} {items : List α}

theorem choose_of_refusal? (hsetting : settings.workers = .int workers) (hitems : 2 ≤ items.length)
    (hmany : 1 < workers) :
    WorkPlan.choose settings.workers settings.executor items.length =
      (WorkPlan.refusal? workers settings.executor).elim
        (.ok (.pool workers settings.executor)) .error := by
  have hpool : ¬((workers : Int) ≤ 1 ∨ items.length < 2) := by omega
  simp only [hsetting, WorkPlan.choose, WorkPlan.ofCount, Bool.or_eq_true, decide_eq_true_eq,
    if_neg hpool, Int.toNat_natCast]
  cases WorkPlan.refusal? workers settings.executor <;> rfl

theorem choose_alone (hsetting : settings.workers = .int workers)
    (h : items.length < 2 ∨ workers ≤ 1) :
    WorkPlan.choose settings.workers settings.executor items.length = .ok .alone := by
  have halone : (workers : Int) ≤ 1 ∨ items.length < 2 := by omega
  simp only [hsetting, WorkPlan.choose, WorkPlan.ofCount, Bool.or_eq_true, decide_eq_true_eq,
    if_pos halone]

/-- A pool can be made of one worker. -/
theorem one_lt_of_refusal? {executor : Executor} {fault : Fault} (hpos : 1 ≤ workers)
    (h : WorkPlan.refusal? workers executor = some fault) : 1 < workers := by
  refine Nat.lt_of_not_le fun hone => ?_
  rw [Nat.le_antisymm hone hpos] at h
  cases executor <;> simp [WorkPlan.refusal?, WorkPlan.maxProcesses, WorkPlan.maxTaken,
    WorkPlan.lead] at h

theorem foldWith_of_accepted (hsetting : settings.workers = .int workers) (hpos : 1 ≤ workers)
    (h : items.length < 2 ∨ WorkPlan.refusal? workers settings.executor = none) :
    foldWith settings (ofFunction f) consume state items =
      alone (ofFunction f) consume state items := by
  unfold foldWith
  -- A pool is made of two workers or more for two items or more.
  by_cases hpool : 2 ≤ items.length ∧ 1 < workers
  · obtain ⟨hitems, hmany⟩ := hpool
    have haccepted : WorkPlan.refusal? workers settings.executor = none :=
      h.resolve_left (Nat.not_lt.2 hitems)
    have hfed : (Pool.start workers items).IsFed := Pool.isFed_start hpos items
    rw [choose_of_refusal? hsetting hitems hmany, haccepted]
    simp only [Option.elim_none, fold]
    rw [pooled_eq _ _ _ _ _ hfed, inOrder_ofFunction]
    simp [Pool.start]
  · rw [choose_alone hsetting (by omega)]
    rfl

theorem foldWith_of_refused (hsetting : settings.workers = .int workers) (hpos : 1 ≤ workers)
    (hitems : 2 ≤ items.length) {fault : Fault}
    (h : WorkPlan.refusal? workers settings.executor = some fault) (labor : Labor α β) :
    foldWith settings labor consume state items = return (state, some fault) := by
  unfold foldWith
  rw [choose_of_refusal? hsetting hitems (one_lt_of_refusal? hpos h), h]
  rfl

end

/-- A pool that can be made hands the results on as one worker does, and ends as it does, in
whatever order its tasks are finished, whatever is done with the results and whenever the signal is
given. Of more workers than there can be no pool is made: the work on two items and more ends before
the first one. -/
theorem foldWith_refines_alone (settings : Settings) {workers : Nat}
    (hsetting : settings.workers = .int workers) (hpos : 1 ≤ workers) (f : α → Except Fault β)
    (consume : σ → β → Work σ) (state : σ) (items : List α) :
    (items.length < 2 ∨ WorkPlan.refusal? workers settings.executor = none →
      foldWith settings (ofFunction f) consume state items =
        alone (ofFunction f) consume state items) ∧
    (∀ fault, 2 ≤ items.length → WorkPlan.refusal? workers settings.executor = some fault →
      foldWith settings (ofFunction f) consume state items = return (state, some fault)) ∧
    (∀ (w : Workspace) (events : List Event) (s : PoolRun α β σ),
      (PoolRun.start workers items state w).run? f consume events = some s →
        s.submitted ++ s.waiting = items ∧ s.tasks.length ≤ 4 * workers ∧
        events.length ≤ 3 * items.length + 1 ∧
        (∀ outcome, s.outcome? = some outcome →
          outcome = (alone (ofFunction f) consume state items).outcome w) ∧
        (s.outcome? = none → ∃ event s', s.step? f consume event = some s')) := by
  refine ⟨foldWith_of_accepted hsetting hpos, ?_, ?_⟩
  · intro fault hitems hrefused
    exact foldWith_of_refused hsetting hpos hitems hrefused (ofFunction f)
  · intro w events s hrun
    exact PoolRun.run?_start hpos state hrun

/-- Squares of all numbers but one. -/
def squareBut (missing n : Nat) : Except Fault Nat :=
  if n = missing then .error .outOfRange else .ok (n * n)

/-- Collects results, and gives the signal after some of them. -/
def collectUpTo (limit : Nat) (results : List Nat) (result : Nat) : Work (List Nat) := do
  if results.length + 1 = limit then Work.cancel
  return results ++ [result]

def pairSettings : Settings :=
  { Settings.standard with workers := .int 2, executor := .thread }

/-- The youngest task is finished first. -/
def lateFirst : List Event :=
  (List.range 8).reverse.map .finishes ++ List.replicate 7 .reads

theorem foldWith_refines_alone_lateFirst :
    pairSettings.workers = .int (2 : Nat) ∧
    foldWith pairSettings (ofFunction (squareBut 5)) (collectUpTo 3) [] (List.range 9) =
      alone (ofFunction (squareBut 5)) (collectUpTo 3) [] (List.range 9) ∧
    ∃ s, (PoolRun.start 2 (List.range 9) [] {}).run? (squareBut 5) (collectUpTo 3) lateFirst =
        some s ∧
      s.submitted = List.range 9 ∧
      s.outcome? = some (.ok ([0, 1, 4], some .cancelled), { signal := some 0 }) ∧
      (alone (ofFunction (squareBut 5)) (collectUpTo 3) [] (List.range 9)).outcome {} =
        (.ok ([0, 1, 4], some .cancelled), { signal := some 0 }) := by
  obtain ⟨haccepted, -, hruns⟩ :=
    foldWith_refines_alone pairSettings (show _ = Datum.int (2 : Nat) from rfl) (by decide)
      (squareBut 5) (collectUpTo 3) [] (List.range 9)
  refine ⟨rfl, haccepted (.inr (by decide)), _, rfl, rfl, rfl, ?_⟩
  exact ((hruns {} lateFirst _ rfl).2.2.2.1 _ rfl).symm

/-- More workers than a pool can be made of. -/
def crowdedSettings : Settings :=
  { Settings.standard with workers := .int 0x2000000000000000, executor := .thread }

theorem foldWith_ne_alone_crowded :
    crowdedSettings.workers = .int (0x2000000000000000 : Nat) ∧
    ((foldWith crowdedSettings (ofFunction (squareBut 0)) (collectUpTo 0) [] [1, 2]).outcome {}).1 =
      .ok ([], some .invalidValue) ∧
    ((alone (ofFunction (squareBut 0)) (collectUpTo 0) [] [1, 2]).outcome {}).1 =
      .ok ([1, 4], none) :=
  ⟨rfl, rfl, rfl⟩

end Ripple.Workers
