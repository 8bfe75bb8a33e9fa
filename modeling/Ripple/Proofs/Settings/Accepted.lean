-- SUMMARY: What accepted settings promise: a known validation and executor, counts of at least one, and workers to plan by.
import Ripple.Proofs.Except
import Ripple.Proofs.Fields
import Ripple.Proofs.Settings.Standard
import Ripple.Settings.Listing
import Ripple.Settings.Reading
import Ripple.Workers

/-! # What accepted settings promise

A value comes from the caller, else from the settings file, else from the defaults, and what is said
last under a name counts. Settings that are accepted validate snapshots in a known way, have a known
executor, and their counts are at least one. The number of workers is checked like a count but kept
as it is given: it is an integer for those who plan the work only if it is given as one.
-/

namespace Ripple

/-- Values that are integers: true and false are one and zero. -/
inductive Datum.IsInteger : Datum → Int → Prop where
  | int (n : Int) : IsInteger (.int n) n
  | bool (b : Bool) : IsInteger (.bool b) (if b then 1 else 0)

namespace Settings

/-! ## Values over each other -/

/-- What was put last under a name is found there. -/
theorem Values.lookup_update (values others : Values) (name : String) :
    (values.update others).lookup name = (others.reverse.lookup name).or (values.lookup name) := by
  induction others generalizing values with
  | nil => rfl
  | cons other others ih =>
    obtain ⟨key, value⟩ := other
    have hstep : values.update ((key, value) :: others) =
        Values.update (putField key value values) others := rfl
    rw [hstep, ih, List.reverse_cons, List.lookup_append, Option.or_assoc]
    by_cases hkey : name = key
    · simp [hkey]
    · have hne : (name == key) = false := beq_eq_false_iff_ne.2 hkey
      simp [lookup_putField_of_ne hkey, List.lookup_cons, hne]

/-- The last value under a name, which may be in any letter case. -/
def lastValue? (fields : List (String × Datum)) (name : String) : Option Datum :=
  (fields.reverse.map fun field => (upperName field.1, field.2)).lookup name

theorem Values.ofFields_eq_update (fields : List (String × Datum)) :
    Values.ofFields fields =
      Values.update [] (fields.map fun field => (upperName field.1, field.2)) := by
  rw [Values.update, List.foldl_map]
  rfl

theorem Values.lookup_ofFields (fields : List (String × Datum)) (name : String) :
    (Values.ofFields fields).lookup name = lastValue? fields name := by
  rw [ofFields_eq_update, lookup_update, ← List.map_reverse, List.lookup_nil, Option.or_none,
    lastValue?]

theorem Values.nodup_update {values : Values} (h : (values.map (·.1)).Nodup) (others : Values) :
    ((values.update others).map (·.1)).Nodup := by
  induction others generalizing values with
  | nil => exact h
  | cons other others ih => exact ih (nodup_keys_putField other.1 other.2 h)

/-- The value under a name: from the caller, from the settings file or from the defaults. -/
def effective (fields overrides : List (String × Datum)) (name : String) : Datum :=
  ((lastValue? overrides name).or ((lastValue? fields name).or (defaults.lookup name))).getD .null

theorem get_layers (fields overrides : List (String × Datum)) (name : String) :
    ((defaults.update (Values.ofFields fields)).update (Values.ofFields overrides)).get name =
      effective fields overrides name := by
  have hnodup (given : List (String × Datum)) : ((Values.ofFields given).map (·.1)).Nodup := by
    rw [Values.ofFields_eq_update]
    exact Values.nodup_update (by simp) _
  rw [Values.get, Values.lookup_update, Values.lookup_update, lookup_reverse (hnodup overrides),
    lookup_reverse (hnodup fields), Values.lookup_ofFields, Values.lookup_ofFields, effective]

/-! ## Checks -/

section

variable {values : Values} {validation : Validation} {executor : Executor} {value : Datum} {s : Settings}
  {processors : Option Nat}

theorem validation?_eq_some : validation? value = some validation ↔ value = .text validation.name := by
  cases validation <;> unfold validation? <;> split <;> simp_all [Validation.name]

theorem executor?_eq_some : executor? value = some executor ↔ value = .text executor.name := by
  cases executor <;> unfold executor? <;> split <;> simp_all [Executor.name]

theorem checkCount_eq_ok {name : String} {n : Int} :
    checkCount values name = .ok n ↔ (values.get name).integer = .ok n ∧ 1 ≤ n := by
  unfold checkCount
  rw [bind_eq_ok]
  constructor
  · rintro ⟨count, hcount, h⟩
    split at h
    · cases h
    · cases h
      exact ⟨hcount, by omega⟩
  · rintro ⟨hcount, hn⟩
    exact ⟨n, hcount, if_neg (by omega)⟩

/-- What values that pass the checks are. -/
theorem check_eq_ok (h : check values = .ok (validation, executor)) :
    values.get "CACHE_VALIDATION" = .text validation.name ∧
    values.get "EXECUTOR" = .text executor.name ∧
    (∀ name ∈ counts, ∃ n, (values.get name).integer = .ok n ∧ 1 ≤ n) ∧
    (values.get "WORKERS" = .null ∨ ∃ n, (values.get "WORKERS").integer = .ok n ∧ 1 ≤ n) := by
  unfold check at h
  dsimp only at h
  -- nothing is missing, nothing is unknown, and both words are known
  split at h
  · cases h
  split at h
  · cases h
  split at h
  · cases h
  · cases h
  · rename_i hvalidation hexecutor
    obtain ⟨found, hcounts, h⟩ := bind_eq_ok.1 h
    have hcount : ∀ name ∈ counts, ∃ n, (values.get name).integer = .ok n ∧ 1 ≤ n := by
      intro name hname
      obtain ⟨n, hn⟩ := exists_mapM_iff.1 ⟨found, hcounts⟩ name hname
      exact ⟨n, checkCount_eq_ok.1 hn⟩
    split at h
    · rename_i hworkers
      cases h
      exact ⟨validation?_eq_some.1 hvalidation, executor?_eq_some.1 hexecutor, hcount, .inl hworkers⟩
    · obtain ⟨n, hworkers, h⟩ := bind_eq_ok.1 h
      cases h
      exact ⟨validation?_eq_some.1 hvalidation, executor?_eq_some.1 hexecutor, hcount,
        .inr ⟨n, checkCount_eq_ok.1 hworkers⟩⟩

theorem ofValues_eq_ok (h : ofValues processors values = .ok s) :
    check values = .ok (s.cacheValidation, s.executor) ∧
    (values.get "TABLE_INDEX_FLUSH_EVERY").integer = .ok s.tableIndexFlush ∧
    (values.get "REPOSITORY_MAPPING_FLUSH_EVERY").integer = .ok s.repositoryMappingFlush ∧
    (values.get "CALL_SITE_LOG_BATCH_SIZE").integer = .ok s.callSiteLogBatch ∧
    s.workers = if (values.get "WORKERS").isEmpty then .int (workersFor processors)
      else values.get "WORKERS" := by
  unfold ofValues at h
  -- one step for each value that can be refused, in the order of the fields
  obtain ⟨checked, hcheck, h⟩ := bind_eq_ok.1 h
  obtain ⟨cacheDir, -, h⟩ := bind_eq_ok.1 h
  obtain ⟨tableIndexFile, -, h⟩ := bind_eq_ok.1 h
  obtain ⟨repositoryMappingFile, -, h⟩ := bind_eq_ok.1 h
  obtain ⟨callSiteLogFile, -, h⟩ := bind_eq_ok.1 h
  obtain ⟨tableIndexFlush, htable, h⟩ := bind_eq_ok.1 h
  obtain ⟨repositoryMappingFlush, hmapping, h⟩ := bind_eq_ok.1 h
  obtain ⟨callSiteLogBatch, hlog, h⟩ := bind_eq_ok.1 h
  obtain ⟨resourceDirs, -, h⟩ := bind_eq_ok.1 h
  obtain ⟨excludedDirs, -, h⟩ := bind_eq_ok.1 h
  obtain ⟨mapperPathMarkers, -, h⟩ := bind_eq_ok.1 h
  obtain ⟨businessMarkers, -, h⟩ := bind_eq_ok.1 h
  obtain ⟨businessSuffixes, -, h⟩ := bind_eq_ok.1 h
  obtain ⟨accessMarkers, -, h⟩ := bind_eq_ok.1 h
  obtain ⟨accessSuffixes, -, h⟩ := bind_eq_ok.1 h
  obtain ⟨namingPolicyFile, -, h⟩ := bind_eq_ok.1 h
  cases h
  exact ⟨hcheck, htable, hmapping, hlog, rfl⟩

/-! ## Workers -/

theorem integer_of_isInteger {n : Int} (h : value.IsInteger n) : value.integer = .ok n := by
  cases h <;> rfl

/-- Values that count as absent stand for no other integer than zero. -/
theorem eq_zero_of_isEmpty (hempty : value.isEmpty = true) {n : Int} (h : value.integer = .ok n) :
    n = 0 := by
  cases value with
  | bool b =>
    cases b with
    | false =>
      cases h
      rfl
    | true => cases hempty
  | int m =>
    cases h
    exact beq_iff_eq.1 hempty
  | real x =>
    cases x with
    | finite negative m e =>
      obtain rfl : m = 0 := beq_iff_eq.1 hempty
      cases h
      simp
    | infinite negative => cases h
    | nan => cases h
  | text t =>
    obtain rfl := String.isEmpty_iff.1 hempty
    cases h
  | bytes content =>
    obtain rfl := List.isEmpty_iff.1 hempty
    cases h
  | null | moment | seq | map | set | pair | knot => cases h

/-- The workers of accepted values are as they are given, or as many as there are processors. -/
theorem workers_cases (h : ofValues processors values = .ok s) :
    (values.get "WORKERS" = .null ∧ s.workers = .int (workersFor processors)) ∨
    ∃ n, (values.get "WORKERS").integer = .ok n ∧ 1 ≤ n ∧ s.workers = values.get "WORKERS" := by
  obtain ⟨hcheck, -, -, -, hworkers⟩ := ofValues_eq_ok h
  obtain ⟨-, -, -, hnull | ⟨n, hinteger, hn⟩⟩ := check_eq_ok hcheck
  · refine .inl ⟨hnull, ?_⟩
    rw [hworkers, hnull]
    rfl
  · refine .inr ⟨n, hinteger, hn, ?_⟩
    rw [hworkers, if_neg]
    intro hempty
    have hzero := eq_zero_of_isEmpty hempty hinteger
    omega

/-- Integers make plans by their count. -/
theorem choose_of_isInteger {n : Int} (h : value.IsInteger n) (executor : Executor) (items : Nat) :
    WorkPlan.choose value executor items = WorkPlan.ofCount n executor items := by
  cases h with
  | int => rfl
  | bool b => cases b <;> rfl

/-- Nothing but integers and the number one makes plans for several items. -/
theorem choose_of_not_isInteger (h : ¬∃ n, value.IsInteger n) (executor : Executor) {items : Nat}
    (hitems : 2 ≤ items) :
    (∃ x, value = .real x ∧ x.integer? = some 1) ∨
      ∃ fault, WorkPlan.choose value executor items = .error fault := by
  cases value with
  | bool b => exact absurd ⟨_, .bool b⟩ h
  | int n => exact absurd ⟨_, .int n⟩ h
  | real x =>
    by_cases hone : x.integer? = some 1
    · exact .inl ⟨x, rfl, hone⟩
    · have hmany : ¬items < 2 := by omega
      exact .inr ⟨WorkPlan.uncounted executor, by simp [WorkPlan.choose, hone, hmany]⟩
  | null | text | moment | bytes | seq | map | set | pair | knot => exact .inr ⟨.wrongType, rfl⟩

end

/-- Accepted settings have known ways to work and counts of at least one. Their number of workers is
an integer exactly if it is left out or given as one; then it is at least one, and the work is
planned by it. -/
theorem load_usable {processors : Option Nat} {files : Disk} {file : Option Path}
    {overrides : List (String × Datum)} {s : Settings}
    (h : load processors files file overrides = .ok s) :
    ∃ fields, givenFields files file = .ok fields ∧
      effective fields overrides "CACHE_VALIDATION" = .text s.cacheValidation.name ∧
      effective fields overrides "EXECUTOR" = .text s.executor.name ∧
      (effective fields overrides "TABLE_INDEX_FLUSH_EVERY").integer = .ok s.tableIndexFlush ∧
      (effective fields overrides "REPOSITORY_MAPPING_FLUSH_EVERY").integer =
        .ok s.repositoryMappingFlush ∧
      (effective fields overrides "CALL_SITE_LOG_BATCH_SIZE").integer = .ok s.callSiteLogBatch ∧
      1 ≤ s.tableIndexFlush ∧ 1 ≤ s.repositoryMappingFlush ∧ 1 ≤ s.callSiteLogBatch ∧
      ((∃ n, 1 ≤ n ∧ s.workers.IsInteger n) ↔
        effective fields overrides "WORKERS" = .null ∨
          ∃ n, (effective fields overrides "WORKERS").IsInteger n) ∧
      (∀ n, s.workers.IsInteger n → ∀ items,
        WorkPlan.choose s.workers s.executor items = WorkPlan.ofCount n s.executor items) ∧
      ((¬∃ n, s.workers.IsInteger n) → ∀ items, 2 ≤ items →
        (∃ x, s.workers = .real x ∧ x.integer? = some 1) ∨
          ∃ fault, WorkPlan.choose s.workers s.executor items = .error fault) := by
  unfold load at h
  split at h
  · cases h
  obtain ⟨-, -, h⟩ := bind_eq_ok.1 h
  obtain ⟨fields, hfields, h⟩ := bind_eq_ok.1 h
  obtain ⟨hcheck, htable, hmapping, hlog, -⟩ := ofValues_eq_ok h
  obtain ⟨hvalidation, hexecutor, hcounts, -⟩ := check_eq_ok hcheck
  have hworkers := workers_cases h
  simp only [get_layers] at htable hmapping hlog hvalidation hexecutor hcounts hworkers
  have hpositive {name : String} {n : Int} (hname : name ∈ counts)
      (hn : (effective fields overrides name).integer = .ok n) : 1 ≤ n := by
    obtain ⟨count, hcount, hle⟩ := hcounts name hname
    cases hn.symm.trans hcount
    exact hle
  refine ⟨fields, hfields, hvalidation, hexecutor, htable, hmapping, hlog,
    hpositive (by simp [counts]) htable, hpositive (by simp [counts]) hmapping,
    hpositive (by simp [counts]) hlog, ?_, fun n hn => choose_of_isInteger hn s.executor,
    fun hn items => choose_of_not_isInteger hn s.executor⟩
  -- what is left is when the number of workers is an integer
  obtain ⟨hnull, hprocessors⟩ | ⟨n, hn, hle, hgiven⟩ := hworkers
  · have hone : (1 : Int) ≤ workersFor processors := Int.ofNat_le.2 (Nat.le_max_left ..)
    rw [hprocessors]
    exact iff_of_true ⟨workersFor processors, hone, .int _⟩ (.inl hnull)
  · rw [hgiven]
    constructor
    · rintro ⟨m, -, hm⟩
      exact .inr ⟨m, hm⟩
    · rintro (hnull | ⟨m, hm⟩)
      · rw [hnull] at hn
        cases hn
      · cases hn.symm.trans (integer_of_isInteger hm)
        exact ⟨n, hle, hm⟩

/-- A disk without a settings file. -/
def noFiles : Disk where
  home := []
  tree := .folder []

/-- The last number of workers counts, and names may be in any letter case. -/
theorem load_usable_threads : ∃ s,
    load none noFiles none [("workers", .int 2), ("Executor", .text "thread"), ("Workers", .int 3)] =
      .ok s ∧
    s.executor.name = "thread" ∧ 1 ≤ s.tableIndexFlush ∧ (∃ n, 1 ≤ n ∧ s.workers.IsInteger n) ∧
    ∀ items, WorkPlan.choose s.workers s.executor items = WorkPlan.ofCount 3 .thread items := by
  have hload : load none noFiles none
      [("workers", .int 2), ("Executor", .text "thread"), ("Workers", .int 3)] =
        .ok { standard with workers := .int 3, executor := .thread } := rfl
  obtain ⟨fields, hfields, -, -, -, -, -, htable, -, -, hworkers, hplan, -⟩ :=
    load_usable hload
  cases hfields
  exact ⟨_, hload, rfl, htable, hworkers.2 (.inr ⟨3, .int 3⟩), hplan 3 (.int 3)⟩

/-- A text that reads as a count is accepted as the number of workers, and no work can be planned
with it. -/
theorem load_text_workers : ∃ s,
    load (some 4) noFiles none [("workers", .text "4")] = .ok s ∧
    (¬∃ n, 1 ≤ n ∧ s.workers.IsInteger n) ∧
    ∀ items, WorkPlan.choose s.workers s.executor items = .error .wrongType := by
  refine ⟨{ standard with workers := .text "4" }, rfl, ?_, fun items => rfl⟩
  rintro ⟨n, -, hn⟩
  cases hn

end Settings

end Ripple
