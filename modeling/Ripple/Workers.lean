-- SUMMARY: The work on a list of items by one worker or by a pool, with signals and faults.
import Ripple.Settings.Basic
import Ripple.Workspace

/-! # Working on items in order

Every item gives a result, or a fault that ends the work. The results are handed on in the order of
the items, whether one worker takes them one after the other or a pool takes several ahead. Before
each result the signal is asked. The outcome is the state that was reached, with the fault that
ended the work before its end.
-/

namespace Ripple

/-- What working on an item gives: messages and a result. -/
abbrev Labor (α β : Type) := Disk → α → Except Fault (List Message × β)

/-- How items are worked on. -/
inductive WorkPlan where
  | alone
  /-- By so many workers. Workers in processes of their own keep their messages to themselves. -/
  | pool (workers : Nat) (executor : Executor)
deriving DecidableEq, Repr

namespace WorkPlan

/-- The largest number of items that can be asked for at once. -/
def maxTaken : Nat := 0x7FFFFFFFFFFFFFFF

/-- The largest number of processes that a pool can be made of. -/
def maxProcesses : Nat := 0x7FFFFFFE

/-- A pool takes four items for each worker ahead. -/
def lead (workers : Nat) : Nat := 4 * workers

/-- Why no pool can be made of so many workers. -/
def refusal? (workers : Nat) : Executor → Option Fault
  | .process => if maxProcesses < workers then some .overflow else none
  | .thread => if maxTaken < lead workers then some .invalidValue else none

def ofCount (workers : Int) (executor : Executor) (items : Nat) : Except Fault WorkPlan :=
  if workers ≤ 1 || items < 2 then .ok .alone
  else
    match refusal? workers.toNat executor with
    | some fault => .error fault
    | none => .ok (.pool workers.toNat executor)

/-- Why no pool can be made if the workers are not counted by an integer. -/
def uncounted : Executor → Fault
  | .process => .wrongType
  | .thread => .invalidValue

/-- The plan for a number of items. The workers have to be given as a number of at least one, and by
an integer if a pool is made. -/
def choose (workers : Datum) (executor : Executor) (items : Nat) : Except Fault WorkPlan :=
  match workers with
  | .bool _ => .ok .alone
  | .int n => ofCount n executor items
  | .real x =>
    if items < 2 || x.integer? == some 1 then .ok .alone else .error (uncounted executor)
  | _ => .error .wrongType

end WorkPlan

namespace Workers

/-- The result of one item, or why there is none. -/
def result (labor : Labor α β) (keepMessages : Bool) (item : α) : Work (Except Fault β) := do
  if ← Work.isCancelled then return .error .cancelled
  else
    match labor (← Work.files) item with
    | .error fault => return .error fault
    | .ok (messages, result) =>
      if keepMessages then Work.report messages
      return .ok result

/-- One item after the other. -/
def alone (labor : Labor α β) (consume : σ → β → Work σ) : σ → List α → Work (σ × Option Fault)
  | state, [] => return (state, none)
  | state, item :: rest => do
    match ← result labor true item with
    | .error fault => return (state, some fault)
    | .ok result => alone labor consume (← consume state result) rest

/-- The items that a pool has taken, oldest first, and those that wait. -/
structure Pool (α : Type) where
  taken : List α
  waiting : List α
deriving DecidableEq, Repr

namespace Pool

/-- A pool at its start. -/
def start (workers : Nat) (items : List α) : Pool α :=
  ⟨items.take (WorkPlan.lead workers), items.drop (WorkPlan.lead workers)⟩

/-- The pool behind the oldest item: one that waits is taken instead. -/
def advance (pool : Pool α) : Pool α :=
  ⟨pool.taken.drop 1 ++ pool.waiting.take 1, pool.waiting.drop 1⟩

end Pool

/-- The results of a pool, oldest item first. -/
def pooled (labor : Labor α β) (keepMessages : Bool) (consume : σ → β → Work σ) (state : σ)
    (pool : Pool α) : Work (σ × Option Fault) :=
  match _h : pool.taken with
  | [] => return (state, none)
  | item :: _ => do
    match ← result labor keepMessages item with
    | .error fault => return (state, some fault)
    | .ok result => pooled labor keepMessages consume (← consume state result) pool.advance
termination_by pool.taken.length + pool.waiting.length
decreasing_by simp [Pool.advance, _h]; omega

/-- Works on all items by a plan. -/
def fold (plan : WorkPlan) (labor : Labor α β) (consume : σ → β → Work σ) (state : σ)
    (items : List α) : Work (σ × Option Fault) :=
  match plan with
  | .alone => alone labor consume state items
  | .pool workers executor =>
    pooled labor (executor == .thread) consume state (Pool.start workers items)

/-- Works on all items as the settings say. -/
def foldWith (settings : Settings) (labor : Labor α β) (consume : σ → β → Work σ) (state : σ)
    (items : List α) : Work (σ × Option Fault) :=
  match WorkPlan.choose settings.workers settings.executor items.length with
  | .ok plan => fold plan labor consume state items
  | .error fault => return (state, some fault)

end Workers

end Ripple
