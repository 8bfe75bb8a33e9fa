-- SUMMARY: Lemmas about computations that may end with a fault, their sequences and loops.
import Mathlib.Logic.Basic

/-! # Results that may be faults

What is known of the parts of a computation whose result is known.
-/

namespace Ripple

variable {ε α β : Type}

theorem bind_eq_ok {x : Except ε α} {f : α → Except ε β} {b : β} :
    x >>= f = .ok b ↔ ∃ a, x = .ok a ∧ f a = .ok b := by
  cases x with
  | error e => simp [bind, Except.bind]
  | ok a => simp [bind, Except.bind]

theorem map_eq_ok {x : Except ε α} {f : α → β} {b : β} :
    x.map f = .ok b ↔ ∃ a, x = .ok a ∧ f a = b := by
  cases x with
  | error e => simp [Except.map]
  | ok a => simp [Except.map]

theorem exists_map_iff {x : Except ε α} {f : α → β} :
    (∃ b, x.map f = .ok b) ↔ ∃ a, x = .ok a := by
  simp only [map_eq_ok]
  constructor
  · rintro ⟨_, a, ha, -⟩
    exact ⟨a, ha⟩
  · rintro ⟨a, ha⟩
    exact ⟨f a, a, ha, rfl⟩

/-- Reading what each item was turned into gives the items back. -/
theorem mapM_map_eq_ok {γ : Type} {write : α → β} {read : β → Except ε γ} {back : α → γ}
    (h : ∀ a, read (write a) = .ok (back a)) (items : List α) :
    (items.map write).mapM read = .ok (items.map back) := by
  induction items with
  | nil => rfl
  | cons item items ih =>
    rw [List.map_cons, List.mapM_cons, h, ih]
    rfl

theorem mapM_cons_eq_ok {f : α → Except ε β} {item : α} {items : List α} {found : List β} :
    (item :: items).mapM f = .ok found ↔
      ∃ b later, f item = .ok b ∧ items.mapM f = .ok later ∧ found = b :: later := by
  simp only [List.mapM_cons, bind_eq_ok]
  constructor
  · rintro ⟨b, hb, later, hlater, hfound⟩
    cases hfound
    exact ⟨b, later, hb, hlater, rfl⟩
  · rintro ⟨b, later, hb, hlater, rfl⟩
    exact ⟨b, hb, later, hlater, rfl⟩

theorem mapM_congr {f g : α → Except ε β} {items : List α} (h : ∀ item ∈ items, f item = g item) :
    items.mapM f = items.mapM g := by
  induction items with
  | nil => rfl
  | cons item items ih =>
    rw [List.mapM_cons, List.mapM_cons, h item (by simp), ih fun i hi => h i (by simp [hi])]

/-- Results can be changed one by one or all together. -/
theorem mapM_map {γ : Type} (f : α → Except ε β) (g : β → γ) (items : List α) :
    (items.mapM fun item => (f item).map g) = (items.mapM f).map (List.map g) := by
  induction items with
  | nil => rfl
  | cons item items ih =>
    rw [List.mapM_cons, List.mapM_cons, ih]
    cases f item with
    | error e => rfl
    | ok b => cases items.mapM f <;> rfl

theorem exists_of_mem_mapM {f : α → Except ε β} {items : List α} {found : List β}
    (h : items.mapM f = .ok found) {b : β} (hb : b ∈ found) : ∃ a ∈ items, f a = .ok b := by
  induction items generalizing found with
  | nil =>
    cases h
    cases hb
  | cons item items ih =>
    obtain ⟨first, later, hfirst, hlater, rfl⟩ := mapM_cons_eq_ok.1 h
    obtain rfl | hb := List.mem_cons.1 hb
    · exact ⟨item, by simp, hfirst⟩
    · obtain ⟨a, ha, hfa⟩ := ih hlater hb
      exact ⟨a, by simp [ha], hfa⟩

/-- There are results for all items if there is one for each. -/
theorem exists_mapM_iff {f : α → Except ε β} {items : List α} :
    (∃ found, items.mapM f = .ok found) ↔ ∀ item ∈ items, ∃ b, f item = .ok b := by
  induction items with
  | nil => exact ⟨by simp, fun _ => ⟨[], rfl⟩⟩
  | cons item items ih =>
    rw [List.forall_mem_cons, ← ih]
    constructor
    · rintro ⟨found, hfound⟩
      obtain ⟨b, later, hb, hlater, -⟩ := mapM_cons_eq_ok.1 hfound
      exact ⟨⟨b, hb⟩, later, hlater⟩
    · rintro ⟨⟨b, hb⟩, later, hlater⟩
      exact ⟨b :: later, mapM_cons_eq_ok.2 ⟨b, later, hb, hlater, rfl⟩⟩

/-- A check passes on a list if it does on each item. -/
theorem forM_eq_ok {f : α → Except ε PUnit} {items : List α} :
    items.forM f = .ok () ↔ ∀ item ∈ items, f item = .ok () := by
  induction items with
  | nil => simp [List.forM, pure, Except.pure]
  | cons item items ih =>
    rw [List.forM, bind_eq_ok, List.forall_mem_cons, ih]
    constructor
    · rintro ⟨⟨⟩, hitem, hitems⟩
      exact ⟨hitem, hitems⟩
    · rintro ⟨hitem, hitems⟩
      exact ⟨(), hitem, hitems⟩

/-- A computation that ends in no other errors than some. -/
def EndsOnlyIn (errors : List ε) (x : Except ε α) : Prop :=
  ∀ e, x = .error e → e ∈ errors

namespace EndsOnlyIn

variable {errors : List ε}

theorem ok (a : α) : EndsOnlyIn errors (.ok a) := nofun

theorem error {e : ε} (h : e ∈ errors) : EndsOnlyIn errors (.error e : Except ε α) := by
  rintro _ ⟨⟩
  exact h

theorem of_ok {x : Except ε α} (h : ∃ a, x = .ok a) : EndsOnlyIn errors x := by
  obtain ⟨a, rfl⟩ := h
  exact ok a

theorem exists_ok {x : Except ε α} (h : EndsOnlyIn [] x) : ∃ a, x = .ok a := by
  cases x with
  | error e => cases h e rfl
  | ok a => exact ⟨a, rfl⟩

theorem bind {x : Except ε α} {f : α → Except ε β} (hx : EndsOnlyIn errors x)
    (hf : ∀ a, EndsOnlyIn errors (f a)) : EndsOnlyIn errors (x >>= f) := by
  cases x with
  | error e => exact error (hx e rfl)
  | ok a => exact hf a

theorem forM {f : α → Except ε PUnit} (hf : ∀ a, EndsOnlyIn errors (f a)) (items : List α) :
    EndsOnlyIn errors (items.forM f) := by
  induction items with
  | nil => exact ok _
  | cons item items ih => exact bind (hf item) fun _ => ih

theorem mapM {f : α → Except ε β} {items : List α}
    (hf : ∀ item ∈ items, EndsOnlyIn errors (f item)) : EndsOnlyIn errors (items.mapM f) := by
  induction items with
  | nil => exact ok _
  | cons item items ih =>
    rw [List.mapM_cons]
    refine bind (hf item (by simp)) fun b => ?_
    exact bind (ih fun i hi => hf i (by simp [hi])) fun later => ok _

end EndsOnlyIn

section
variable {p : α → Except ε Bool} {items found : List α}

theorem filterAuxM_eq_ok {kept all : List α} :
    items.filterAuxM p kept = .ok all ↔ (∀ item ∈ items, ∃ b, p item = .ok b) ∧
      all = (items.filter fun item => (p item).toOption.getD false).reverse ++ kept := by
  induction items generalizing kept with
  | nil => simp [List.filterAuxM, pure, Except.pure, eq_comm]
  | cons first items ih =>
    rw [List.filterAuxM, bind_eq_ok, List.forall_mem_cons]
    cases hfirst : p first with
    | error e => simp
    | ok b => cases b <;> simp [ih, hfirst, Except.toOption]

/-- A test that is no fault for any item lets those through that pass it. -/
theorem filterM_eq_ok :
    items.filterM p = .ok found ↔ (∀ item ∈ items, ∃ b, p item = .ok b) ∧
      found = items.filter fun item => (p item).toOption.getD false := by
  unfold List.filterM
  simp only [bind_eq_ok, filterAuxM_eq_ok, List.append_nil]
  constructor
  · rintro ⟨all, ⟨hitems, rfl⟩, hfound⟩
    cases hfound
    exact ⟨hitems, List.reverse_reverse _⟩
  · rintro ⟨hitems, rfl⟩
    exact ⟨_, ⟨hitems, rfl⟩, congrArg Except.ok (List.reverse_reverse _)⟩

theorem mem_filterM (h : items.filterM p = .ok found) {item : α} :
    item ∈ found ↔ item ∈ items ∧ p item = .ok true := by
  rw [(filterM_eq_ok.1 h).2, List.mem_filter]
  refine and_congr_right fun _ => ?_
  cases p item with
  | error e => simp [Except.toOption]
  | ok b => simp [Except.toOption]

theorem exists_of_filterAuxM_eq_error {e : ε} {kept : List α}
    (h : items.filterAuxM p kept = .error e) : ∃ item ∈ items, p item = .error e := by
  induction items generalizing kept with
  | nil => cases h
  | cons first items ih =>
    rw [List.filterAuxM] at h
    cases hfirst : p first with
    | error e' =>
      rw [hfirst] at h
      cases h
      exact ⟨first, List.mem_cons_self, hfirst⟩
    | ok b =>
      rw [hfirst] at h
      obtain ⟨item, hitem, herror⟩ := ih h
      exact ⟨item, List.mem_cons_of_mem first hitem, herror⟩

/-- A test of a list is a fault only if it is one for some item. -/
theorem exists_of_filterM_eq_error {e : ε} (h : items.filterM p = .error e) :
    ∃ item ∈ items, p item = .error e := by
  unfold List.filterM at h
  cases haux : items.filterAuxM p [] with
  | error e' =>
    rw [haux] at h
    cases h
    exact exists_of_filterAuxM_eq_error haux
  | ok all =>
    rw [haux] at h
    cases h

end

end Ripple
