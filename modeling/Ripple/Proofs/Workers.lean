-- SUMMARY: A pool hands on the results that one worker would hand on, in the order of the items.
import Ripple.Workers
import Ripple.Proofs.Workspace

/-!
# Working on items in order

A pool hands on the results in the order of the items, as one worker does. While the files that the
work reads stay as they are, what is reached in the end is made of the results of all items.
-/

namespace Ripple.Workers

variable {α β σ : Type}

/-- One item after the other, with or without their messages. -/
def inOrder (labor : Labor α β) (keepMessages : Bool) (consume : σ → β → Work σ) :
    σ → List α → Work (σ × Option Fault)
  | state, [] => return (state, none)
  | state, item :: rest => do
    match ← result labor keepMessages item with
    | .error fault => return (state, some fault)
    | .ok result => inOrder labor keepMessages consume (← consume state result) rest

section
variable (labor : Labor α β) (consume : σ → β → Work σ)

theorem alone_eq (state : σ) (items : List α) :
    alone labor consume state items = inOrder labor true consume state items := by
  induction items generalizing state with
  | nil => rfl
  | cons item rest ih =>
    rw [alone, inOrder]
    refine bind_congr fun made => ?_
    cases made with
    | error fault => rfl
    | ok b => exact bind_congr ih

/-- A pool has workers. -/
theorem workers_pos {setting : Datum} {executor executor' : Executor} {items workers : Nat}
    (h : WorkPlan.choose setting executor items = .ok (.pool workers executor')) : 0 < workers := by
  unfold WorkPlan.choose at h
  split at h
  · cases h
  · unfold WorkPlan.ofCount at h
    split at h
    · cases h
    · rename_i hcount
      split at h
      · cases h
      · cases h
        simp only [Bool.or_eq_true, decide_eq_true_eq, not_or] at hcount
        omega
  · split at h <;> cases h
  · cases h

/-- Where there is a plan for some items, there is one for fewer. -/
theorem choose_of_le {setting : Datum} {executor : Executor} {items fewer : Nat} {plan : WorkPlan}
    (h : WorkPlan.choose setting executor items = .ok plan) (hle : fewer ≤ items) :
    ∃ plan', WorkPlan.choose setting executor fewer = .ok plan' := by
  unfold WorkPlan.choose WorkPlan.ofCount at *
  grind

/-- A pool that has taken nothing has nothing left. -/
def Pool.IsFed (pool : Pool α) : Prop :=
  pool.taken = [] → pool.waiting = []

theorem Pool.isFed_start {workers : Nat} (hworkers : 0 < workers) (items : List α) :
    (Pool.start workers items).IsFed := by
  intro htaken
  simp only [Pool.start, List.take_eq_nil_iff, List.drop_eq_nil_iff, WorkPlan.lead] at htaken ⊢
  obtain hlead | rfl := htaken
  · omega
  · simp

theorem Pool.isFed_advance (pool : Pool α) : pool.advance.IsFed := by
  intro htaken
  simp only [Pool.advance, List.append_eq_nil_iff, List.take_eq_nil_iff] at htaken ⊢
  obtain ⟨-, hwaiting⟩ := htaken
  obtain hwaiting | hwaiting := hwaiting
  · omega
  · simp [hwaiting]

/-- A pool takes the items in their order. -/
theorem pooled_eq (keepMessages : Bool) (state : σ) (pool : Pool α) (hpool : pool.IsFed) :
    pooled labor keepMessages consume state pool =
      inOrder labor keepMessages consume state (pool.taken ++ pool.waiting) := by
  induction hitems : pool.taken ++ pool.waiting generalizing pool state with
  | nil =>
    obtain ⟨htaken, -⟩ := List.append_eq_nil_iff.1 hitems
    rw [pooled]
    split
    · rfl
    · rename_i h
      rw [htaken] at h
      cases h
  | cons item rest ih =>
    obtain ⟨taken, waiting⟩ := pool
    cases taken with
    | nil =>
      rw [show waiting = [] from hpool rfl] at hitems
      cases hitems
    | cons first taken =>
      obtain ⟨rfl, hrest⟩ := List.cons.inj hitems
      -- The pool takes from the front of what waits, so the items that are left keep their order.
      have hadvance : (Pool.advance ⟨first :: taken, waiting⟩).taken ++
          (Pool.advance ⟨first :: taken, waiting⟩).waiting = rest := by
        simp only [Pool.advance, List.append_assoc, List.take_append_drop]
        exact hrest
      rw [pooled, inOrder]
      refine bind_congr fun made => ?_
      cases made with
      | error fault => rfl
      | ok b => exact bind_congr fun next => ih next _ (Pool.isFed_advance _) hadvance

/-- The work that the settings ask for takes the items in their order, if there is a plan for it. -/
theorem foldWith_eq (settings : Settings) (state : σ) (items : List α) :
    (∃ fault, WorkPlan.choose settings.workers settings.executor items.length = .error fault ∧
      foldWith settings labor consume state items = return (state, some fault)) ∨
    (∃ plan keepMessages,
      WorkPlan.choose settings.workers settings.executor items.length = .ok plan ∧
      foldWith settings labor consume state items =
        inOrder labor keepMessages consume state items) := by
  unfold foldWith
  cases hplan : WorkPlan.choose settings.workers settings.executor items.length with
  | error fault => exact .inl ⟨fault, rfl, rfl⟩
  | ok plan =>
    refine .inr ⟨plan, ?_⟩
    cases plan with
    | alone => exact ⟨true, rfl, alone_eq labor consume state items⟩
    | pool workers executor =>
      refine ⟨executor == .thread, rfl, ?_⟩
      have hfed : (Pool.start workers items).IsFed := Pool.isFed_start (workers_pos hplan) items
      simp only [fold, pooled_eq labor consume _ state _ hfed]
      simp [Pool.start]

end

/-! ## Results -/

/-- The results of all items, as the files stand. -/
def results (labor : Labor α β) (files : Disk) (items : List α) : Except Fault (List β) :=
  items.mapM fun item => (labor files item).map (·.2)

theorem results_cons_eq_ok {labor : Labor α β} {files : Disk} {item : α} {rest : List α}
    {bs : List β} :
    results labor files (item :: rest) = .ok bs ↔
      ∃ b later, (labor files item).map (·.2) = .ok b ∧ results labor files rest = .ok later ∧
        bs = b :: later := by
  unfold results
  exact mapM_cons_eq_ok

section
variable (labor : Labor α β) (keepMessages : Bool) (item : α)

theorem outcome_result_of_cancelled {w w' : Workspace}
    (h : Work.isCancelled.outcome w = (.ok true, w')) :
    (result labor keepMessages item).outcome w = (.ok (.error .cancelled), w') := by
  unfold result
  rw [Work.outcome_bind_ok h]
  rfl

/-- Where the work goes on, the result of an item is what the files as they stand make of it, and
nothing changes but what is told. -/
theorem outcome_result_of_asked {w w' : Workspace}
    (h : Work.isCancelled.outcome w = (.ok false, w')) :
    ∃ journal, (result labor keepMessages item).outcome w =
      (.ok ((labor w'.files item).map (·.2)), { w' with journal := journal }) := by
  unfold result
  rw [Work.outcome_bind_ok h]
  simp only [Bool.false_eq_true, if_false]
  rw [Work.outcome_bind_ok (Work.outcome_files w')]
  cases labor w'.files item with
  | error fault => exact ⟨w'.journal, rfl⟩
  | ok found =>
    cases keepMessages with
    | false => exact ⟨w'.journal, rfl⟩
    | true => exact ⟨w'.journal ++ found.1, rfl⟩

/-- What becomes of one item: its result, or a reason to stop. Only the signal can keep a result
back. -/
theorem result_spec (w : Workspace) :
    ∃ answer w', (result labor keepMessages item).outcome w = (.ok answer, w') ∧
      w'.files = w.files ∧ (w.signal = none → w'.signal = none) ∧
      (∀ b, answer = .ok b → (labor w.files item).map (·.2) = .ok b) ∧
      (w.signal = none → answer = (labor w.files item).map (·.2)) := by
  obtain ⟨cancelled, w₁, hasked, hfiles, hsignal⟩ := Work.isCancelled_spec w
  cases cancelled with
  | true =>
    refine ⟨.error .cancelled, w₁, outcome_result_of_cancelled labor keepMessages item hasked,
      hfiles, fun hnone => (hsignal hnone).2, ?_, ?_⟩
    · intro b hb
      cases hb
    · intro hnone
      cases (hsignal hnone).1
  | false =>
    obtain ⟨journal, hresult⟩ := outcome_result_of_asked labor keepMessages item hasked
    refine ⟨_, _, hresult, hfiles, fun hnone => (hsignal hnone).2, ?_, ?_⟩
    · rw [hfiles]
      exact fun _ hb => hb
    · rw [hfiles]
      exact fun _ => rfl

end

/-- The state that is reached by taking over all results, or those before the first stop. -/
theorem inOrder_spec {labor : Labor α β} {consume : σ → β → Work σ} {next : σ → β → σ}
    {place : Path} {allowed : Bytes → Prop} {inv : σ → Prop} {start : Workspace} {items : List α}
    (hconsume : ∀ item ∈ items, ∀ b, (labor start.files item).map (·.2) = .ok b →
      ∀ state w, inv state → inv (next state b) ∧
        ∃ w', (consume state b).outcome w = (.ok (next state b), w') ∧ w.Touches place allowed w')
    (hlabor : ∀ w, start.Touches place allowed w → ∀ item ∈ items,
      labor w.files item = labor start.files item)
    (keepMessages : Bool) {state : σ} (hstate : inv state) {w : Workspace}
    (hw : start.Touches place allowed w) :
    ∃ reached fault? w', (inOrder labor keepMessages consume state items).outcome w =
        (.ok (reached, fault?), w') ∧ inv reached ∧ start.Touches place allowed w' ∧
      (fault? = none → ∃ bs, results labor start.files items = .ok bs ∧
        reached = bs.foldl next state) ∧
      (w.signal = none → ∀ bs, results labor start.files items = .ok bs → fault? = none) := by
  induction items generalizing state w with
  | nil => exact ⟨state, none, w, rfl, hstate, hw, fun _ => ⟨[], rfl, rfl⟩, fun _ _ _ => rfl⟩
  | cons item rest ih =>
    obtain ⟨answer, w₁, hresult, hfiles, hsignal, hsound, hcomplete⟩ :=
      result_spec labor keepMessages item w
    rw [hlabor w hw item (by simp)] at hsound hcomplete
    have hw₁ := hw.trans (.of_files hfiles hsignal)
    rw [inOrder, Work.outcome_bind_ok hresult]
    cases answer with
    | error fault =>
      refine ⟨state, some fault, w₁, rfl, hstate, hw₁, (fun h => by cases h), ?_⟩
      intro hnone bs hbs
      obtain ⟨b, later, hb, -⟩ := results_cons_eq_ok.1 hbs
      cases (hcomplete hnone).trans hb
    | ok b =>
      obtain ⟨hinv, w₂, hconsumed, htouch⟩ :=
        hconsume item (by simp) b (hsound b rfl) state w₁ hstate
      simp only
      rw [Work.outcome_bind_ok hconsumed]
      obtain ⟨reached, fault?, w', hrest, hfinal, hw', hreached, hends⟩ :=
        ih (fun item hitem => hconsume item (by simp [hitem]))
          (fun w hw item hitem => hlabor w hw item (by simp [hitem])) hinv (hw₁.trans htouch)
      refine ⟨reached, fault?, w', hrest, hfinal, hw', ?_, ?_⟩
      · intro hnone
        obtain ⟨later, hlater, rfl⟩ := hreached hnone
        exact ⟨b :: later, results_cons_eq_ok.2 ⟨b, later, hsound b rfl, hlater, rfl⟩, rfl⟩
      · intro hnone bs hbs
        obtain ⟨_, later, -, hlater, -⟩ := results_cons_eq_ok.1 hbs
        exact hends (htouch.signal (hsignal hnone)) later hlater

/-- The same for the work that the settings ask for. -/
theorem foldWith_spec {labor : Labor α β} {consume : σ → β → Work σ} {next : σ → β → σ}
    {place : Path} {allowed : Bytes → Prop} {inv : σ → Prop} {w : Workspace} {items : List α}
    (hconsume : ∀ item ∈ items, ∀ b, (labor w.files item).map (·.2) = .ok b →
      ∀ state w, inv state → inv (next state b) ∧
        ∃ w', (consume state b).outcome w = (.ok (next state b), w') ∧ w.Touches place allowed w')
    (hlabor : ∀ w', w.Touches place allowed w' → ∀ item ∈ items,
      labor w'.files item = labor w.files item)
    (settings : Settings) {state : σ} (hstate : inv state) :
    ∃ reached fault? w', (foldWith settings labor consume state items).outcome w =
        (.ok (reached, fault?), w') ∧ inv reached ∧ w.Touches place allowed w' ∧
      (fault? = none →
        (∃ plan, WorkPlan.choose settings.workers settings.executor items.length = .ok plan) ∧
        ∃ bs, results labor w.files items = .ok bs ∧ reached = bs.foldl next state) ∧
      (w.signal = none →
        (∃ plan, WorkPlan.choose settings.workers settings.executor items.length = .ok plan) →
        ∀ bs, results labor w.files items = .ok bs → fault? = none) := by
  obtain ⟨fault, hplan, hfold⟩ | ⟨plan, keepMessages, hplan, hfold⟩ :=
    foldWith_eq labor consume settings state items
  · rw [hfold]
    refine ⟨state, some fault, w, rfl, hstate, .refl place allowed w, (fun h => by cases h), ?_⟩
    rintro - ⟨plan, hchosen⟩
    rw [hplan] at hchosen
    cases hchosen
  · rw [hfold]
    obtain ⟨reached, fault?, w', hrest, hfinal, hw', hreached, hends⟩ :=
      inOrder_spec hconsume hlabor keepMessages hstate (.refl place allowed w)
    exact ⟨reached, fault?, w', hrest, hfinal, hw', fun hnone => ⟨⟨plan, hplan⟩, hreached hnone⟩,
      fun hnone _ => hends hnone⟩

/-- The work on items touches what taking over a result touches. -/
theorem inOrder_touches {labor : Labor α β} {consume : σ → β → Work σ} {place : Path}
    {allowed : Bytes → Prop} {inv : σ → Prop}
    (htouches : ∀ state b, inv state → (consume state b).Touches place allowed)
    (hgives : ∀ state b, inv state → (consume state b).Gives inv) (keepMessages : Bool)
    {state : σ} (hstate : inv state) (items : List α) :
    (inOrder labor keepMessages consume state items).Touches place allowed ∧
      (inOrder labor keepMessages consume state items).Gives fun reached => inv reached.1 := by
  induction items generalizing state with
  | nil => exact ⟨.pure _, .pure hstate⟩
  | cons item rest ih =>
    constructor
    · refine .bind ?_ fun answer => ?_
      · intro w
        obtain ⟨answer, w', hresult, hfiles, hsignal, -⟩ := result_spec labor keepMessages item w
        rw [hresult]
        exact .of_files hfiles hsignal
      · cases answer with
        | error fault => exact .pure _
        | ok b =>
          exact .bind_gives (htouches state b hstate) (hgives state b hstate)
            fun next hnext => (ih hnext).1
    · refine .of_bind fun answer => ?_
      cases answer with
      | error fault => exact .pure hstate
      | ok b => exact .bind (hgives state b hstate) fun next hnext => (ih hnext).2

theorem foldWith_touches {labor : Labor α β} {consume : σ → β → Work σ} {place : Path}
    {allowed : Bytes → Prop} {inv : σ → Prop}
    (htouches : ∀ state b, inv state → (consume state b).Touches place allowed)
    (hgives : ∀ state b, inv state → (consume state b).Gives inv) (settings : Settings)
    {state : σ} (hstate : inv state) (items : List α) :
    (foldWith settings labor consume state items).Touches place allowed ∧
      (foldWith settings labor consume state items).Gives fun reached => inv reached.1 := by
  obtain ⟨fault, -, hfold⟩ | ⟨plan, keepMessages, -, hfold⟩ :=
    foldWith_eq labor consume settings state items
  · rw [hfold]
    exact ⟨.pure _, .pure hstate⟩
  · rw [hfold]
    exact inOrder_touches htouches hgives keepMessages hstate items

/-- What taking over the result of an item keeps true, and what hangs on nothing but the files, is
true of the state that is reached. -/
theorem inOrder_keeps {labor : Labor α β} {consume : σ → β → Work σ} {inv : σ → Workspace → Prop}
    (hfiles : ∀ state w w', w'.files = w.files → inv state w → inv state w')
    (hconsume : ∀ files item b, (labor files item).map (·.2) = .ok b → ∀ state w state' w',
      inv state w → (consume state b).outcome w = (.ok state', w') → inv state' w')
    {keepMessages : Bool} {state : σ} {items : List α} {w w' : Workspace} (h : inv state w)
    {reached : σ × Option Fault}
    (hreached : (inOrder labor keepMessages consume state items).outcome w = (.ok reached, w')) :
    inv reached.1 w' := by
  induction items generalizing state w with
  | nil =>
    cases hreached
    exact h
  | cons item rest ih =>
    obtain ⟨answer, w₁, hresult, hkept, -, hmade, -⟩ := result_spec labor keepMessages item w
    have hasked := hfiles state w w₁ hkept h
    rw [inOrder, Work.outcome_bind_ok hresult] at hreached
    cases answer with
    | error fault =>
      cases hreached
      exact hasked
    | ok b =>
      obtain ⟨next, w₂, hnext, hrest⟩ := Work.outcome_bind_eq_ok hreached
      exact ih (hconsume _ _ b (hmade b rfl) state w₁ next w₂ hasked hnext) hrest

theorem foldWith_keeps {labor : Labor α β} {consume : σ → β → Work σ} {inv : σ → Workspace → Prop}
    (hfiles : ∀ state w w', w'.files = w.files → inv state w → inv state w')
    (hconsume : ∀ state b w state' w', inv state w →
      (consume state b).outcome w = (.ok state', w') → inv state' w')
    {settings : Settings} {state : σ} {items : List α} {w w' : Workspace} (h : inv state w)
    {reached : σ × Option Fault}
    (hreached : (foldWith settings labor consume state items).outcome w = (.ok reached, w')) :
    inv reached.1 w' := by
  obtain ⟨fault, -, hfold⟩ | ⟨plan, keepMessages, -, hfold⟩ :=
    foldWith_eq labor consume settings state items
  · rw [hfold] at hreached
    cases hreached
    exact h
  · rw [hfold] at hreached
    refine inOrder_keeps hfiles ?_ h hreached
    exact fun _ _ b _ state w state' w' => hconsume state b w state' w'

/-- What taking over the result of an item gives is given at last, whatever the files are when an
item is worked on. -/
theorem foldWith_gives {labor : Labor α β} {consume : σ → β → Work σ} {inv : σ → Prop}
    (hconsume : ∀ files item b, (labor files item).map (·.2) = .ok b → ∀ state, inv state →
      (consume state b).Gives inv)
    (settings : Settings) {state : σ} (hstate : inv state) (items : List α) :
    (foldWith settings labor consume state items).Gives fun reached => inv reached.1 := by
  obtain ⟨fault, -, hfold⟩ | ⟨plan, keepMessages, -, hfold⟩ :=
    foldWith_eq labor consume settings state items
  · rw [hfold]
    exact .pure hstate
  · rw [hfold]
    intro w reached w' hreached
    have hfiles (state : σ) (w w' : Workspace) (_ : w'.files = w.files) (h : inv state) :
        inv state := h
    refine inOrder_keeps hfiles ?_ hstate hreached
    intro files item b hb state w state' w' hinv hnext
    exact hconsume files item b hb state hinv w state' w' hnext

/-- The work on items ends in no fault of its own if taking over a result does not. -/
theorem inOrder_returns {labor : Labor α β} {consume : σ → β → Work σ}
    (hconsume : ∀ state b, (consume state b).Returns) (keepMessages : Bool) (state : σ)
    (items : List α) : (inOrder labor keepMessages consume state items).Returns := by
  induction items generalizing state with
  | nil => exact .pure _
  | cons item rest ih =>
    refine .bind ?_ fun answer => ?_
    · intro w
      obtain ⟨answer, w', hresult, -⟩ := result_spec labor keepMessages item w
      exact ⟨answer, w', hresult⟩
    · cases answer with
      | error fault => exact .pure _
      | ok b => exact .bind (hconsume state b) fun next => ih next

theorem foldWith_returns {labor : Labor α β} {consume : σ → β → Work σ}
    (hconsume : ∀ state b, (consume state b).Returns) (settings : Settings) (state : σ)
    (items : List α) : (foldWith settings labor consume state items).Returns := by
  obtain ⟨fault, -, hfold⟩ | ⟨plan, keepMessages, -, hfold⟩ :=
    foldWith_eq labor consume settings state items
  · rw [hfold]
    exact .pure _
  · rw [hfold]
    exact inOrder_returns hconsume keepMessages state items

end Ripple.Workers
