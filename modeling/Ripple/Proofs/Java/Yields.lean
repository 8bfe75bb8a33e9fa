-- SUMMARY: A logic for parsers: what every result of a parser has, by the combinators that it is made of.
import Ripple.Java.Parse

/-! # What parsers give

A property that everything has that a parser can give from some tokens, wherever it begins. There is
a lemma for each way to put parsers together, so that the property of a rule follows from those of
its parts.
-/

namespace Ripple.Java

/-- Whether whatever a parser gives has a property. -/
def Yields (tokens : Array Token) {α : Type} (P : α → Prop) (p : Parse α) : Prop :=
  ∀ cursor a after, p tokens cursor = (.ok a, after) → P a

namespace Yields

variable {tokens : Array Token} {α β : Type} {P : α → Prop} {Q : β → Prop}

theorem mono {P' : α → Prop} {p : Parse α} (h : Yields tokens P p) (himp : ∀ a, P a → P' a) :
    Yields tokens P' p :=
  fun cursor a after heq => himp a (h cursor a after heq)

theorem any (p : Parse α) : Yields tokens (fun _ => True) p :=
  fun _ _ _ _ => trivial

theorem pure {a : α} (h : P a) : Yields tokens P (Pure.pure a) := by
  intro cursor a' after heq
  cases heq
  exact h

theorem fail (e : ParseError) : Yields tokens P (Parse.fail e) := by
  intro cursor a after heq
  cases heq

theorem bind {p : Parse α} {f : α → Parse β} (hp : Yields tokens P p)
    (hf : ∀ a, P a → Yields tokens Q (f a)) : Yields tokens Q (p >>= f) := by
  intro cursor b after heq
  cases hfirst : p tokens cursor with
  | mk result next =>
    cases result with
    | ok a =>
      have hrest : (p >>= f) tokens cursor = f a tokens next := by
        simp only [Bind.bind, hfirst]
      rw [hrest] at heq
      exact hf a (hp cursor a next hfirst) next b after heq
    | error e =>
      have hrest : (p >>= f) tokens cursor = (.error e, next) := by
        simp only [Bind.bind, hfirst]
      rw [hrest] at heq
      cases heq

/-- The result of the first parser does not matter. -/
theorem skip {p : Parse α} {f : α → Parse β} (hf : ∀ a, Yields tokens Q (f a)) :
    Yields tokens Q (p >>= f) :=
  bind (any p) fun a _ => hf a

theorem ite {c : Prop} [Decidable c] {p q : Parse α} (hp : Yields tokens P p)
    (hq : Yields tokens P q) : Yields tokens P (if c then p else q) := by
  split
  · exact hp
  · exact hq

/-- A parser that goes on in one of two ways. -/
theorem branch {c : Parse Bool} {p q : Parse α} (hp : Yields tokens P p)
    (hq : Yields tokens P q) : Yields tokens P (c >>= fun b => if b = true then p else q) :=
  skip fun _ => ite hp hq

theorem pure_none : Yields tokens (fun found => ∀ a ∈ found, P a) (Pure.pure none) :=
  pure (by simp)

theorem pure_some {a : α} (h : P a) :
    Yields tokens (fun found => ∀ a ∈ found, P a) (Pure.pure (some a)) :=
  pure (by simpa using h)

theorem attempt {p : Parse α} (h : Yields tokens P p) :
    Yields tokens (fun found => ∀ a ∈ found, P a) p.attempt := by
  intro cursor found after heq a hfound
  unfold Parse.attempt at heq
  split at heq
  · rename_i a' next hp
    cases heq
    cases hfound
    exact h _ _ _ hp
  · cases heq
    cases hfound
  · cases heq

theorem closed {p : Parse α} (h : Yields tokens P p) : Yields tokens P p.closed := by
  intro cursor a after heq
  unfold Parse.closed at heq
  split at heq
  · cases heq
  · exact h cursor a after heq

theorem repeatUpTo {step : Parse (Option α)}
    (h : Yields tokens (fun found => ∀ a ∈ found, P a) step) (n : Nat) :
    Yields tokens (fun items => ∀ a ∈ items, P a) (Parse.repeatUpTo step n) := by
  induction n with
  | zero => exact fail _
  | succ n ih =>
    refine bind h fun found hfound => ?_
    cases found with
    | none => exact pure (by simp)
    | some a =>
      refine bind ih fun rest hrest => pure ?_
      exact List.forall_mem_cons.2 ⟨hfound a rfl, hrest⟩

theorem collect {step : Parse (Option α)}
    (h : Yields tokens (fun found => ∀ a ∈ found, P a) step) :
    Yields tokens (fun items => ∀ a ∈ items, P a) (Parse.collect step) :=
  skip fun _ => repeatUpTo h _

/-- Items that follow as long as a test says so. -/
theorem collectWhile {c : Parse Bool} {item : Parse α} (h : Yields tokens P item) :
    Yields tokens (fun items => ∀ a ∈ items, P a)
      (Parse.collect do if ← c then return some (← item) else return none) := by
  exact collect (branch (bind h fun a ha => pure_some ha) pure_none)

/-- Items among others, which are left out. -/
theorem filterMap {p : Parse (List (Option α))}
    (h : Yields tokens (fun items => ∀ item ∈ items, ∀ a ∈ item, P a) p) :
    Yields tokens (fun items => ∀ a ∈ items, P a) (do return (← p).filterMap id) := by
  refine bind h fun items hitems => pure ?_
  intro a ha
  obtain ⟨item, hitem, rfl⟩ := List.mem_filterMap.1 ha
  exact hitems _ hitem a rfl

theorem separated {separator : String} {item : Parse α} (h : Yields tokens P item) :
    Yields tokens (fun items => ∀ a ∈ items, P a) (Java.separated separator item) := by
  refine bind h fun first hfirst => bind (collectWhile h) fun rest hrest => pure ?_
  exact List.forall_mem_cons.2 ⟨hfirst, hrest⟩

theorem itemsUntil {close : String} {item : Parse α} (h : Yields tokens P item) :
    Yields tokens (fun items => ∀ a ∈ items, P a) (Java.itemsUntil close item) := by
  exact collect (branch pure_none (bind h fun a ha => pure_some ha))

/-- A token that is taken is one of the tokens. -/
theorem next : Yields tokens (fun token => token ∈ tokens) Parse.next := by
  intro cursor token after heq
  unfold Parse.next at heq
  split at heq
  · rename_i found hfound
    cases heq
    exact Array.mem_of_getElem? hfound
  · cases heq

theorem expectToken (expected : Expect) :
    Yields tokens (fun token => token ∈ tokens ∧ expected.accepts token = true)
      (Java.expectToken expected) := by
  refine bind next fun token htoken => ?_
  split
  · exact pure ⟨htoken, ‹_›⟩
  · exact fail _

theorem identifier :
    Yields tokens (fun name => ∃ token ∈ tokens, token.kind = .identifier ∧ token.text = name)
      Java.identifier := by
  refine bind (expectToken anIdentifier) fun token htoken => pure ?_
  exact ⟨token, htoken.1, by simpa [anIdentifier, Expect.accepts] using htoken.2, rfl⟩

end Yields

end Ripple.Java
