-- SUMMARY: Lemmas about lists of keys with values: putting, looking up and leaving out repetitions.
import Ripple.Json.Basic
import Mathlib.Data.List.Nodup

/-! # Lists of keys with values

What putting a value under a key does to the keys and to what is found under them. Keys that are
different from each other stay when repetitions are left out.
-/

namespace Ripple

section
variable {α β : Type} [BEq α] [LawfulBEq α]

theorem map_snd_find? (fields : List (α × β)) (key : α) :
    (fields.find? (·.1 == key)).map (·.2) = fields.lookup key := by
  induction fields with
  | nil => rfl
  | cons field fields ih =>
    obtain ⟨k, v⟩ := field
    by_cases hkey : k = key
    · simp [hkey]
    · have hne : (key == k) = false := beq_eq_false_iff_ne.2 (Ne.symm hkey)
      simp [hkey, List.lookup_cons, hne, ih]

/-- A new key goes to the end. -/
theorem putField_of_notMem {key : α} (value : β) {fields : List (α × β)}
    (h : key ∉ fields.map (·.1)) : putField key value fields = fields ++ [(key, value)] := by
  induction fields with
  | nil => rfl
  | cons field fields ih =>
    obtain ⟨k, v⟩ := field
    simp only [List.map_cons, List.mem_cons, not_or] at h
    have hne : (k == key) = false := beq_eq_false_iff_ne.2 fun heq => h.1 heq.symm
    rw [putField, hne, if_neg Bool.false_ne_true, ih h.2]
    rfl

/-- An old key stays where it is. -/
theorem keys_putField_of_mem {key : α} (value : β) {fields : List (α × β)}
    (h : key ∈ fields.map (·.1)) : (putField key value fields).map (·.1) = fields.map (·.1) := by
  induction fields with
  | nil => cases h
  | cons field fields ih =>
    obtain ⟨k, v⟩ := field
    by_cases hkey : k = key
    · simp [putField, hkey]
    · have hrest : key ∈ fields.map (·.1) := by
        simpa [List.mem_cons, Ne.symm hkey] using h
      simp only [putField, beq_eq_false_iff_ne.2 hkey, Bool.false_eq_true, if_false,
        List.map_cons, ih hrest]

theorem nodup_keys_putField (key : α) (value : β) {fields : List (α × β)}
    (h : (fields.map (·.1)).Nodup) : ((putField key value fields).map (·.1)).Nodup := by
  by_cases hmem : key ∈ fields.map (·.1)
  · rwa [keys_putField_of_mem value hmem]
  · rw [putField_of_notMem value hmem, List.map_append]
    exact List.nodup_append.2 ⟨h, List.nodup_singleton _, by
      intro a ha b hb hab
      obtain rfl : b = key := by simpa using hb
      exact hmem (hab ▸ ha)⟩

theorem mem_putField {key : α} {value : β} {fields : List (α × β)} {field : α × β}
    (h : field ∈ putField key value fields) : field = (key, value) ∨ field ∈ fields := by
  induction fields with
  | nil => exact .inl (by simpa [putField] using h)
  | cons first fields ih =>
    obtain ⟨k, v⟩ := first
    by_cases hkey : k = key
    · subst hkey
      simp only [putField, beq_self_eq_true, if_true, List.mem_cons] at h ⊢
      exact h.imp_right .inr
    · simp only [putField, beq_eq_false_iff_ne.2 hkey, Bool.false_eq_true, if_false,
        List.mem_cons] at h ⊢
      obtain h | h := h
      · exact .inr (.inl h)
      · exact (ih h).imp_right .inr

@[simp]
theorem lookup_putField_self (key : α) (value : β) (fields : List (α × β)) :
    (putField key value fields).lookup key = some value := by
  induction fields with
  | nil => simp [putField]
  | cons field fields ih =>
    obtain ⟨k, v⟩ := field
    by_cases hkey : k = key
    · simp [putField, hkey]
    · have hne : (key == k) = false := beq_eq_false_iff_ne.2 (Ne.symm hkey)
      simp [putField, beq_eq_false_iff_ne.2 hkey, List.lookup_cons, hne, ih]

theorem lookup_putField_of_ne {key other : α} (hne : other ≠ key) (value : β)
    (fields : List (α × β)) : (putField key value fields).lookup other = fields.lookup other := by
  induction fields with
  | nil => simp [putField, List.lookup_cons, beq_eq_false_iff_ne.2 hne]
  | cons field fields ih =>
    obtain ⟨k, v⟩ := field
    by_cases hkey : k = key
    · simp [putField, hkey, List.lookup_cons, beq_eq_false_iff_ne.2 hne]
    · simp only [putField, beq_eq_false_iff_ne.2 hkey, Bool.false_eq_true, if_false, List.lookup_cons, ih]

theorem lookup_of_mem {fields : List (α × β)} (hkeys : (fields.map (·.1)).Nodup) {key : α}
    {value : β} (hmem : (key, value) ∈ fields) : fields.lookup key = some value := by
  induction fields with
  | nil => cases hmem
  | cons field fields ih =>
    obtain ⟨k, v⟩ := field
    rw [List.map_cons, List.nodup_cons] at hkeys
    obtain heq | hrest := List.mem_cons.1 hmem
    · cases heq
      simp
    · have hne : (key == k) = false := by
        rw [beq_eq_false_iff_ne]
        rintro rfl
        exact hkeys.1 (List.mem_map.2 ⟨_, hrest, rfl⟩)
      simp [List.lookup_cons, hne, ih hkeys.2 hrest]

theorem mem_of_lookup {fields : List (α × β)} {key : α} {value : β}
    (h : fields.lookup key = some value) : (key, value) ∈ fields := by
  induction fields with
  | nil => cases h
  | cons field fields ih =>
    obtain ⟨k, v⟩ := field
    by_cases hkey : key = k
    · subst hkey
      simp only [List.lookup_cons, beq_self_eq_true] at h
      cases h
      simp
    · have hne : (key == k) = false := beq_eq_false_iff_ne.2 hkey
      rw [List.lookup_cons, hne] at h
      exact List.mem_cons_of_mem _ (ih h)

/-- Where every key is there once, it does not matter from which end it is looked for. -/
theorem lookup_reverse {fields : List (α × β)} (hkeys : (fields.map (·.1)).Nodup) (key : α) :
    fields.reverse.lookup key = fields.lookup key := by
  have hreverse : (fields.reverse.map (·.1)).Nodup := by
    rwa [List.map_reverse, List.nodup_reverse]
  ext value
  constructor
  · intro h
    exact lookup_of_mem hkeys (List.mem_reverse.1 (mem_of_lookup h))
  · intro h
    exact lookup_of_mem hreverse (List.mem_reverse.2 (mem_of_lookup h))

/-- The fields that keys have are found under the keys. -/
theorem lookup_filterMap_keys (value? : α → Option β) (keys : List α) (key : α) :
    (keys.filterMap fun k => (value? k).map fun value => (k, value)).lookup key =
      if key ∈ keys then value? key else none := by
  induction keys with
  | nil => rfl
  | cons first keys ih =>
    by_cases hfirst : key = first
    · subst hfirst
      cases hvalue : value? key with
      | none => simp [hvalue, ih]
      | some value => simp [hvalue]
    · have hne : (key == first) = false := beq_eq_false_iff_ne.2 hfirst
      cases hvalue : value? first with
      | none => simp [hvalue, ih, hfirst]
      | some value => simp [hvalue, ih, hfirst, List.lookup_cons, hne]

theorem lookup_filter_self (key : α) (fields : List (α × β)) :
    (fields.filter (·.1 != key)).lookup key = none := by
  rw [List.lookup_eq_none_iff]
  intro field hfield
  have hne : field.1 ≠ key := by simpa using (List.mem_filter.1 hfield).2
  simpa using hne.symm

theorem lookup_filter_of_ne {key other : α} (hne : other ≠ key) (fields : List (α × β)) :
    (fields.filter (·.1 != key)).lookup other = fields.lookup other := by
  induction fields with
  | nil => rfl
  | cons field fields ih =>
    obtain ⟨k, v⟩ := field
    by_cases hkey : k = key
    · subst hkey
      simp [List.lookup_cons, beq_eq_false_iff_ne.2 hne, ih]
    · simp [hkey, List.lookup_cons, ih]

end

theorem eraseDups_of_pairwise {α : Type} [BEq α] {items : List α}
    (h : items.Pairwise fun first later => (later == first) = false) : items.eraseDups = items := by
  induction h with
  | nil => rfl
  | @cons first items hfirst _ ih =>
    have hkept : items.filter (fun later => !later == first) = items :=
      List.filter_eq_self.2 fun later hlater => by rw [hfirst later hlater]; rfl
    rw [List.eraseDups_cons, hkept, ih]

end Ripple
