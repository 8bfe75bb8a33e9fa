-- SUMMARY: Sessions of preparations and queries with one analyzer, and the invariant that its parts fit together.
import Ripple.Proofs.Analyzer.History

/-!
# Sessions with one analyzer

Preparations and queries follow each other. A preparation that does not complete leaves the modules
and indices of an earlier one in place, all of them, but no query is answered until one completes.

The calls of a tree are indexed beside its tables. So the parts of a preparation need not find what
the part before has left: a session may give each of them a workspace of its own, with its own files
and a signal that it meets at any of its checks.
-/

namespace Ripple.Analyzer

/-! ## Queries -/

/-- What can be asked of an analyzer. -/
inductive Query where
  | analyze (table : String)
  | analyzeAll (tables : List String) (workers : Datum)
  | findChains (method table : String)

namespace Query

/-- The name under which a query is refused. -/
def operation : Query → String
  | analyze _ => "analyze_table_impact"
  | analyzeAll _ _ => "analyze_tables"
  | findChains _ _ => "find_call_chains"

/-- What becomes of a query, whatever the answer is. -/
def outcome (analyzer : Analyzer) (w : Workspace) : Query → Except Fault Unit
  | analyze table => discard (analyzer.analyze table)
  | analyzeAll tables workers => discard ((analyzer.analyzeAll tables workers).outcome w).1
  | findChains method table => discard (analyzer.findChains method table)

end Query

/-- The faults of queries that are not refused. -/
def answerFaults : List Fault := [.wrongType, .missingPart, .invalidValue]

theorem endsOnlyIn_discard {errors : List ε} {x : Except ε α} (h : EndsOnlyIn errors x) :
    EndsOnlyIn errors (discard x) := by
  cases x with
  | error e => exact .error (h e rfl)
  | ok a => exact .ok _

theorem endsOnlyIn_ofExcept_bind {errors : List Fault} {x : Except Fault α} {next : α → Work β}
    {w : Workspace} (hx : EndsOnlyIn errors x)
    (hnext : ∀ a, EndsOnlyIn errors ((next a).outcome w).1) :
    EndsOnlyIn errors ((Work.ofExcept x >>= next).outcome w).1 := by
  cases x with
  | error fault =>
    rw [Work.outcome_bind_error (Work.outcome_ofExcept_error _ _)]
    exact .error (hx fault rfl)
  | ok a =>
    rw [Work.outcome_bind_ok (Work.outcome_ofExcept_ok _ _)]
    exact hnext a

theorem endsOnlyIn_classifiesAny (markers suffixes : List Datum) (type : String) :
    EndsOnlyIn answerFaults (Policy.classifiesAny markers suffixes type) := by
  unfold Policy.classifiesAny
  dsimp only
  repeat' split
  all_goals first | exact .ok _ | exact .error (by decide)

theorem endsOnlyIn_isBusinessMethodAny (policy : Policy Datum) (method : String) :
    EndsOnlyIn answerFaults (policy.isBusinessMethodAny method) := by
  unfold Policy.isBusinessMethodAny
  split
  · exact .ok _
  · exact endsOnlyIn_classifiesAny _ _ _

theorem endsOnlyIn_find (indices : Impact.Indices) (table : String) :
    EndsOnlyIn answerFaults (Impact.find indices table) := by
  unfold Impact.find
  split
  · exact .ok _
  · exact .ok _
  · refine .bind (.mapM fun method _ => ?_) fun _ => .ok _
    split
    · exact .ok _
    · exact .ok _
    · exact .error (by decide)

section
variable {analyzer : Analyzer} {errors : List Fault}

/-- Callers are checked for nothing but whether the policy can classify them. -/
theorem endsOnlyIn_checkCallers
    (hbusiness : ∀ method, EndsOnlyIn errors (analyzer.policy.isBusinessMethodAny method))
    (method : String) : EndsOnlyIn errors (analyzer.checkCallers method) := by
  unfold checkCallers
  split
  · exact .ok _
  · exact .forM (fun caller => endsOnlyIn_discard (hbusiness caller)) _

theorem endsOnlyIn_checkFinding
    (haccess : ∀ type, EndsOnlyIn errors (analyzer.policy.isAccessTypeAny type))
    (hbusiness : ∀ method, EndsOnlyIn errors (analyzer.policy.isBusinessMethodAny method))
    (finding : Impact.Finding) : EndsOnlyIn errors (analyzer.checkFinding finding) := by
  cases finding with
  | unknown => exact .ok _
  | unlinked methods => exact .ok _
  | linked statements methods =>
    refine .bind (.forM (fun owner => endsOnlyIn_discard (haccess owner)) _) fun _ => ?_
    exact .forM (endsOnlyIn_checkCallers hbusiness) _

theorem endsOnlyIn_analyze (hready : analyzer.ready = true) (table : String) :
    EndsOnlyIn answerFaults (analyzer.analyze table) := by
  unfold analyze checkReady
  rw [if_pos hready]
  refine .bind (.ok _) fun _ => .bind (endsOnlyIn_find _ _) fun finding => ?_
  have hchecked := endsOnlyIn_checkFinding
    (fun type => endsOnlyIn_classifiesAny analyzer.policy.accessMarkers
      analyzer.policy.accessSuffixes type)
    (endsOnlyIn_isBusinessMethodAny analyzer.policy) finding
  refine .bind hchecked fun _ => ?_
  dsimp only
  split
  · exact .ok _
  · exact .error (by decide)

theorem endsOnlyIn_findChains (hready : analyzer.ready = true) (method table : String) :
    EndsOnlyIn answerFaults (analyzer.findChains method table) := by
  unfold findChains checkReady
  rw [if_pos hready]
  have hchecked := endsOnlyIn_checkCallers (endsOnlyIn_isBusinessMethodAny analyzer.policy) method
  exact .bind (.ok _) fun _ => .bind hchecked fun _ => .ok _

theorem endsOnlyIn_checkWorkers (analyzer : Analyzer) (workers : Datum) :
    EndsOnlyIn answerFaults (analyzer.checkWorkers workers) := by
  unfold checkWorkers
  dsimp only
  repeat' split
  all_goals first | exact .ok _ | exact .error (by decide)

theorem endsOnlyIn_analyzeAll (hready : analyzer.ready = true) (tables : List String)
    (workers : Datum) (w : Workspace) :
    EndsOnlyIn answerFaults ((analyzer.analyzeAll tables workers).outcome w).1 := by
  unfold analyzeAll checkReady
  rw [if_pos hready]
  refine endsOnlyIn_ofExcept_bind (.ok _) fun _ => ?_
  refine endsOnlyIn_ofExcept_bind (endsOnlyIn_checkWorkers analyzer workers) fun _ => ?_
  rw [Work.outcome_bind_ok (Work.outcome_report _ _)]
  -- What is left is to put the answers together.
  refine endsOnlyIn_ofExcept_bind (.mapM fun entry hentry => ?_) fun _ => .ok _
  obtain ⟨table, -, rfl⟩ := List.mem_map.1 hentry
  exact .bind (endsOnlyIn_analyze hready table) fun _ => .ok _

end

/-- A query is refused exactly before the indices are built, under its own name. -/
theorem Query.outcome_eq_refused_iff (query : Query) (analyzer : Analyzer) (w : Workspace)
    (operation : String) :
    query.outcome analyzer w = .error (.notInitialized operation) ↔
      analyzer.ready = false ∧ operation = query.operation := by
  cases hready : analyzer.ready with
  | false =>
    have hrefused : query.outcome analyzer w = .error (.notInitialized query.operation) := by
      have hcheck (operation : String) :
          analyzer.checkReady operation = .error (.notInitialized operation) := by
        simp [checkReady, hready]
      cases query <;> simp only [outcome, Analyzer.analyze, Analyzer.analyzeAll,
        Analyzer.findChains, hcheck] <;> rfl
    simp [hrefused, eq_comm]
  | true =>
    have honly : EndsOnlyIn answerFaults (query.outcome analyzer w) := by
      cases query with
      | analyze table => exact endsOnlyIn_discard (endsOnlyIn_analyze hready table)
      | analyzeAll tables workers =>
        exact endsOnlyIn_discard (endsOnlyIn_analyzeAll hready tables workers w)
      | findChains method table =>
        exact endsOnlyIn_discard (endsOnlyIn_findChains hready method table)
    refine ⟨fun h => ?_, nofun⟩
    simpa [answerFaults] using honly _ h

/-! ## Preparations -/

/-- The workspaces that the parts of a preparation find. -/
structure Circumstances where
  modules : Workspace
  tables : Workspace
  mappings : Workspace
  calls : Workspace

/-- The tables and mappings of modules, each made in its own workspace. -/
def tablesIn (analyzer : Analyzer) (indexing linking : Workspace) (modules : List BuildModule) :
    Repository.Declared × Except Fault (TableIndex Json × RepositoryMappings Json) :=
  match ((TableIndex.build analyzer.settings tableJournal modules).outcome indexing).1 with
  | .error fault => (analyzer.declared, .error fault)
  | .ok tables =>
    match ((Repository.link analyzer.linker analyzer.declared tables).outcome linking).1 with
    | .error fault => (analyzer.declared, .error fault)
    | .ok (declared, mappings) => (declared, mappings.map fun mappings => (tables, mappings))

/-- The modules and indices of a tree, each made in its own workspace. -/
def builtIn (analyzer : Analyzer) (root : Path) (c : Circumstances) :
    Repository.Declared × Except Fault (List BuildModule × Impact.Indices) :=
  match ((start analyzer.settings root).outcome c.modules).1 with
  | .error fault => (analyzer.declared, .error fault)
  | .ok (modules, sources) =>
    let (declared, tables) := analyzer.tablesIn c.tables c.mappings modules
    let calls := ((CallIndex.build analyzer.settings callJournal sources).outcome c.calls).1
    (declared, do
      let (tables, mappings) ← tables
      return (modules, { tables, mappings, calls := ← calls }))

/-- The analyzer after a preparation in some circumstances, and the fault that it ends in. -/
def prepareIn (analyzer : Analyzer) (root : Path) (c : Circumstances) : Analyzer × Option Fault :=
  let (declared, built) := analyzer.builtIn root c
  match built with
  | .error fault => ({ analyzer with declared, ready := false }, some fault)
  | .ok (modules, indices) => ({ analyzer with declared, modules, indices, ready := true }, none)

/-- The modules and indices that the parts of one preparation have made. -/
structure Makes (analyzer : Analyzer) (root : Path) (c : Circumstances)
    (modules : List BuildModule) (indices : Impact.Indices) : Prop where
  calls : ∃ sources,
    ((start analyzer.settings root).outcome c.modules).1 = .ok (modules, sources) ∧
    ((CallIndex.build analyzer.settings callJournal sources).outcome c.calls).1 = .ok indices.calls
  tables : ((TableIndex.build analyzer.settings tableJournal modules).outcome c.tables).1 =
    .ok indices.tables
  mappings : ∃ declared,
    ((Repository.link analyzer.linker analyzer.declared indices.tables).outcome c.mappings).1 =
      .ok (declared, .ok indices.mappings)

section
variable {analyzer : Analyzer} {root : Path} {c : Circumstances}

/-- Each part of a preparation finds what the part before has left. -/
structure Circumstances.InTurn (c : Circumstances) (analyzer : Analyzer) (root : Path)
    (w : Workspace) : Prop where
  modules : c.modules = w
  tables : c.tables = ((start analyzer.settings root).outcome w).2
  mappings {modules : List BuildModule} {sources : List Path}
    (h : ((start analyzer.settings root).outcome w).1 = .ok (modules, sources)) :
    c.mappings = ((TableIndex.build analyzer.settings tableJournal modules).outcome c.tables).2
  calls {modules : List BuildModule} {sources : List Path}
    (h : ((start analyzer.settings root).outcome w).1 = .ok (modules, sources)) :
    c.calls = ((analyzer.buildTables modules).outcome c.tables).2

theorem buildTables_eq_tablesIn (analyzer : Analyzer) (modules : List BuildModule)
    (w : Workspace) :
    ∃ w', (analyzer.buildTables modules).outcome w = (.ok (analyzer.tablesIn w
      ((TableIndex.build analyzer.settings tableJournal modules).outcome w).2 modules), w') := by
  unfold buildTables tablesIn
  rcases htables : (TableIndex.build analyzer.settings tableJournal modules).outcome w with
    ⟨tables, w₁⟩
  rw [Work.outcome_bind_attempt htables]
  cases tables with
  | error fault => exact ⟨w₁, rfl⟩
  | ok tables =>
    obtain ⟨⟨declared, mappings⟩, w₂, hlink⟩ :=
      Repository.link_returns analyzer.linker analyzer.declared tables w₁
    refine ⟨w₂, ?_⟩
    rw [Work.outcome_bind_ok hlink]
    simp only [hlink]
    rfl

/-- After a tree without modules there is no turn of another part. -/
theorem Circumstances.inTurn_of_fault {w w₁ : Workspace} {fault : Fault}
    (hstart : (start analyzer.settings root).outcome w = (.error fault, w₁)) :
    InTurn ⟨w, w₁, w₁, w₁⟩ analyzer root w := by
  refine ⟨rfl, by rw [hstart], ?_, ?_⟩
  · intro modules sources h
    rw [hstart] at h
    cases h
  · intro modules sources h
    rw [hstart] at h
    cases h

theorem Circumstances.inTurn_of_started {w w₁ : Workspace} {modules : List BuildModule}
    {sources : List Path}
    (hstart : (start analyzer.settings root).outcome w = (.ok (modules, sources), w₁)) :
    InTurn ⟨w, w₁, ((TableIndex.build analyzer.settings tableJournal modules).outcome w₁).2,
      ((analyzer.buildTables modules).outcome w₁).2⟩ analyzer root w := by
  refine ⟨rfl, by rw [hstart], ?_, ?_⟩
  · intro modules' sources' h
    rw [hstart] at h
    cases h
    rfl
  · intro modules' sources' h
    rw [hstart] at h
    cases h
    rfl

/-- A preparation is one in some circumstances, and never fails to end. -/
theorem prepare_eq_prepareIn (analyzer : Analyzer) (root : Path) (w : Workspace) :
    ∃ c w', c.InTurn analyzer root w ∧
      (analyzer.prepare root).outcome w = (.ok (analyzer.prepareIn root c), w') := by
  unfold prepare build prepareIn builtIn
  rcases hstart : (start analyzer.settings root).outcome w with ⟨started, w₁⟩
  rw [Work.outcome_bind, Work.outcome_bind_attempt hstart]
  cases started with
  | error fault =>
    refine ⟨⟨w, w₁, w₁, w₁⟩, w₁, Circumstances.inTurn_of_fault hstart, ?_⟩
    simp only [hstart]
    rfl
  | ok started =>
    obtain ⟨modules, sources⟩ := started
    have hturn := Circumstances.inTurn_of_started hstart
    obtain ⟨w₂, htables⟩ := buildTables_eq_tablesIn analyzer modules w₁
    rw [htables] at hturn
    rcases hcalls : (CallIndex.build analyzer.settings callJournal sources).outcome w₂ with
      ⟨calls, w₃⟩
    rw [Work.outcome_bind_ok htables]
    simp only
    rw [Work.outcome_bind_attempt hcalls]
    refine ⟨_, exists_and_left.2 ⟨hturn, ?_⟩⟩
    simp only [hstart, hcalls]
    -- The only message after the parts is about a preparation that was cancelled.
    generalize analyzer.tablesIn w₁ _ modules = made
    obtain ⟨declared, tables⟩ := made
    cases tables with
    | error fault => cases fault <;> exact ⟨_, rfl⟩
    | ok tables =>
      cases calls with
      | error fault => cases fault <;> exact ⟨_, rfl⟩
      | ok calls => exact ⟨_, rfl⟩

theorem tablesIn_eq_ok_iff {indexing linking : Workspace} {modules : List BuildModule}
    {tables : TableIndex Json} {mappings : RepositoryMappings Json} :
    (analyzer.tablesIn indexing linking modules).2 = .ok (tables, mappings) ↔
      ((TableIndex.build analyzer.settings tableJournal modules).outcome indexing).1 =
        .ok tables ∧
      ∃ declared, ((Repository.link analyzer.linker analyzer.declared tables).outcome linking).1 =
        .ok (declared, .ok mappings) := by
  unfold tablesIn
  cases ((TableIndex.build analyzer.settings tableJournal modules).outcome indexing).1 with
  | error fault => simp
  | ok found =>
    obtain ⟨⟨declared, made⟩, w', hlink⟩ :=
      Repository.link_returns analyzer.linker analyzer.declared found linking
    simp only [hlink, map_eq_ok, Except.ok.injEq, Prod.mk.injEq]
    constructor
    · rintro ⟨mappings', rfl, rfl, rfl⟩
      exact ⟨rfl, declared, by rw [hlink]⟩
    · rintro ⟨rfl, declared', hmade⟩
      rw [hlink] at hmade
      cases hmade
      exact ⟨mappings, rfl, rfl, rfl⟩

/-- Modules and indices are there if all parts have made theirs. -/
theorem builtIn_eq_ok_iff {modules : List BuildModule} {indices : Impact.Indices} :
    (analyzer.builtIn root c).2 = .ok (modules, indices) ↔
      analyzer.Makes root c modules indices := by
  unfold builtIn
  cases hstart : ((start analyzer.settings root).outcome c.modules).1 with
  | error fault =>
    refine ⟨nofun, fun hmakes => ?_⟩
    obtain ⟨sources, hsources, -⟩ := hmakes.calls
    cases hstart.symm.trans hsources
  | ok started =>
    obtain ⟨found, sources⟩ := started
    simp only [bind_eq_ok]
    constructor
    · rintro ⟨⟨tables, mappings⟩, htables, calls, hcalls, hmade⟩
      cases hmade
      obtain ⟨hindex, hlink⟩ := tablesIn_eq_ok_iff.1 htables
      exact ⟨⟨sources, hstart, hcalls⟩, hindex, hlink⟩
    · intro hmakes
      obtain ⟨sources', hsources, hcalls⟩ := hmakes.calls
      cases hstart.symm.trans hsources
      exact ⟨(indices.tables, indices.mappings),
        tablesIn_eq_ok_iff.2 ⟨hmakes.tables, hmakes.mappings⟩, indices.calls, hcalls, rfl⟩

/-- A preparation that completes takes over all that its parts have made, and one that does not
takes over none of it. -/
theorem prepareIn_cases (analyzer : Analyzer) (root : Path) (c : Circumstances) :
    ∃ declared,
      (∃ modules indices, analyzer.Makes root c modules indices ∧ analyzer.prepareIn root c =
        ({ analyzer with declared, modules, indices, ready := true }, none)) ∨
      (∃ fault, analyzer.prepareIn root c =
        ({ analyzer with declared, ready := false }, some fault)) := by
  unfold prepareIn
  rcases hbuilt : analyzer.builtIn root c with ⟨declared, built⟩
  refine ⟨declared, ?_⟩
  cases built with
  | error fault => exact .inr ⟨fault, rfl⟩
  | ok built =>
    obtain ⟨modules, indices⟩ := built
    exact .inl ⟨modules, indices, builtIn_eq_ok_iff.1 (by rw [hbuilt]), rfl⟩

end

/-! ## Sessions -/

/-- A preparation that was asked for: the analyzer before it, and what it was over. -/
structure Attempt where
  analyzer : Analyzer
  root : Path
  circumstances : Circumstances

namespace Attempt

/-- A preparation completes if it ends in no fault. -/
def Completes (attempt : Attempt) : Prop :=
  (attempt.analyzer.prepareIn attempt.root attempt.circumstances).2 = none

/-- The modules and indices that the parts of a preparation have made. -/
def Made (attempt : Attempt) (modules : List BuildModule) (indices : Impact.Indices) : Prop :=
  attempt.analyzer.Makes attempt.root attempt.circumstances modules indices

end Attempt

/-- What is done in a session. -/
inductive Event where
  | prepares (root : Path) (c : Circumstances)
  | asks (query : Query)

/-- An analyzer and the preparations so far, latest first. -/
structure Session where
  analyzer : Analyzer
  attempts : List Attempt := []

namespace Session

/-- Queries change nothing. -/
def step (s : Session) : Event → Session
  | .prepares root c =>
    ⟨(s.analyzer.prepareIn root c).1, ⟨s.analyzer, root, c⟩ :: s.attempts⟩
  | .asks _ => s

def run (s : Session) (events : List Event) : Session :=
  events.foldl step s

/-- The modules and indices that are kept are those of the latest preparation that was completed, if
there is one. Queries can be answered if that is the latest one of all. -/
structure IsConsistent (settings : Settings) (policy : Policy Datum) (s : Session) : Prop where
  ready : s.analyzer.ready = true ↔ ∃ attempt, s.attempts.head? = some attempt ∧ attempt.Completes
  kept : (s.analyzer.modules = [] ∧ s.analyzer.indices = {} ∧
      ∀ attempt ∈ s.attempts, ¬ attempt.Completes) ∨
    ∃ later attempt earlier, s.attempts = later ++ attempt :: earlier ∧
      (∀ other ∈ later, ¬ other.Completes) ∧ attempt.Completes ∧
      attempt.Made s.analyzer.modules s.analyzer.indices
  own : ∀ analyzer ∈ s.analyzer :: s.attempts.map (·.analyzer),
    analyzer.settings = settings ∧ analyzer.policy = policy

section
variable {settings : Settings} {policy : Policy Datum} {s : Session}

theorem isConsistent_new (settings : Settings) (policy : Policy Datum) :
    IsConsistent settings policy ⟨{ settings, policy }, []⟩ where
  ready := by simp
  kept := .inl ⟨rfl, rfl, by simp⟩
  own := by simp

theorem IsConsistent.completed (h : s.IsConsistent settings policy) {attempt : Attempt}
    (hown : attempt.analyzer = s.analyzer) (hcompletes : attempt.Completes)
    {modules : List BuildModule} {indices : Impact.Indices} (hmade : attempt.Made modules indices)
    (declared : Repository.Declared) :
    IsConsistent settings policy ⟨{ s.analyzer with declared, modules, indices, ready := true },
      attempt :: s.attempts⟩ where
  ready := by simpa using hcompletes
  kept := .inr ⟨[], attempt, s.attempts, rfl, by simp, hcompletes, hmade⟩
  own := by simpa [hown] using h.own

/-- What was kept before is kept on, below one more preparation that did not complete. -/
theorem IsConsistent.failed (h : s.IsConsistent settings policy) {attempt : Attempt}
    (hown : attempt.analyzer = s.analyzer) (hfails : ¬ attempt.Completes)
    (declared : Repository.Declared) :
    IsConsistent settings policy ⟨{ s.analyzer with declared, ready := false },
      attempt :: s.attempts⟩ where
  ready := by simpa using hfails
  kept := by
    obtain ⟨hmodules, hindices, hnone⟩ | ⟨later, latest, earlier, hattempts, hlater, hmade⟩ :=
      h.kept
    · exact .inl ⟨hmodules, hindices, List.forall_mem_cons.2 ⟨hfails, hnone⟩⟩
    · refine .inr ⟨attempt :: later, latest, earlier, ?_, ?_, hmade⟩
      · simp [hattempts]
      · exact List.forall_mem_cons.2 ⟨hfails, hlater⟩
  own := by simpa [hown] using h.own

theorem IsConsistent.step (h : s.IsConsistent settings policy) (event : Event) :
    (s.step event).IsConsistent settings policy := by
  cases event with
  | asks query => exact h
  | prepares root c =>
    obtain ⟨declared, ⟨modules, indices, hmakes, hprepare⟩ | ⟨fault, hprepare⟩⟩ :=
      prepareIn_cases s.analyzer root c
    · have hcompletes : Attempt.Completes ⟨s.analyzer, root, c⟩ := by
        simp only [Attempt.Completes, hprepare]
      have hdone := h.completed rfl hcompletes hmakes declared
      simpa only [Session.step, hprepare] using hdone
    · have hfails : ¬ Attempt.Completes ⟨s.analyzer, root, c⟩ := by
        simp [Attempt.Completes, hprepare]
      have hdone := h.failed rfl hfails declared
      simpa only [Session.step, hprepare] using hdone

theorem IsConsistent.run (h : s.IsConsistent settings policy) (events : List Event) :
    (s.run events).IsConsistent settings policy := by
  unfold Session.run
  induction events generalizing s with
  | nil => exact h
  | cons event events ih =>
    rw [List.foldl_cons]
    exact ih (h.step event)

/-- A new analyzer has made nothing yet. -/
theorem isConsistent_create {policy? : Option (Policy Datum)} {w w' : Workspace}
    {analyzer : Analyzer} (h : (create settings policy?).outcome w = (.ok analyzer, w')) :
    IsConsistent settings analyzer.policy ⟨analyzer, []⟩ := by
  cases policy? with
  | some policy =>
    cases h
    exact isConsistent_new settings policy
  | none =>
    obtain ⟨files, w₁, -, h⟩ := Work.outcome_bind_eq_ok h
    obtain ⟨⟨messages, policy⟩, w₂, -, h⟩ := Work.outcome_bind_eq_ok h
    obtain ⟨_, w₃, -, h⟩ := Work.outcome_bind_eq_ok h
    cases h
    exact isConsistent_new settings policy

end

/-- Throughout a session queries are refused exactly if no preparation was asked for or the latest
one did not complete. The modules and indices come from one and the same preparation, the latest
that completed, or there are none. Each preparation ends in some circumstances, with an analyzer and
the fault that is reported, if any. -/
theorem run_allOrNothing {settings : Settings} {policy? : Option (Policy Datum)}
    {w w' : Workspace} {analyzer : Analyzer}
    (hcreate : (create settings policy?).outcome w = (.ok analyzer, w')) {events : List Event}
    {s : Session} (hs : run ⟨analyzer, []⟩ events = s) :
    (∀ (query : Query) (v : Workspace) (operation : String),
      query.outcome s.analyzer v = .error (.notInitialized operation) ↔
        operation = query.operation ∧
          ∀ attempt, s.attempts.head? = some attempt → ¬ attempt.Completes) ∧
    ((s.analyzer.modules = [] ∧ s.analyzer.indices = {} ∧
        ∀ attempt ∈ s.attempts, ¬ attempt.Completes) ∨
      ∃ later attempt earlier, s.attempts = later ++ attempt :: earlier ∧
        (∀ other ∈ later, ¬ other.Completes) ∧ attempt.Completes ∧
        attempt.Made s.analyzer.modules s.analyzer.indices) ∧
    (∀ attempt ∈ s.attempts,
      attempt.analyzer.settings = settings ∧ attempt.analyzer.policy = analyzer.policy) ∧
    (∀ (root : Path) (v : Workspace), ∃ c v', c.InTurn s.analyzer root v ∧
      (s.analyzer.prepare root).outcome v = (.ok (s.analyzer.prepareIn root c), v')) := by
  have hconsistent : s.IsConsistent settings analyzer.policy :=
    hs ▸ (isConsistent_create hcreate).run events
  refine ⟨?_, hconsistent.kept, ?_, fun root v => prepare_eq_prepareIn s.analyzer root v⟩
  · intro query v operation
    rw [query.outcome_eq_refused_iff, and_comm, ← Bool.not_eq_true, hconsistent.ready]
    simp
  · intro attempt hattempt
    exact hconsistent.own _ (List.mem_cons_of_mem _ (List.mem_map_of_mem hattempt))

/-- A preparation completes. In the next one the calls cannot be indexed, because it is cancelled
beside the tables. -/
def interrupted : List Event :=
  let w : Workspace := { files := sampleDisk "a" "b" [] }
  [.prepares { names := ["m"] } ⟨w, w, w, w⟩, .asks (.analyze "t"),
    .prepares { names := ["m"] } ⟨w, w, w, { w with signal := some 0 }⟩]

/-- An analyzer with the standard settings, before its first preparation. -/
def untouched : Analyzer :=
  { settings := .standard, policy := Policy.standard.map .text }

theorem interrupted_facts :
    (run ⟨untouched, []⟩ interrupted).attempts.map
      (fun attempt => (attempt.analyzer.prepareIn attempt.root attempt.circumstances).2) =
        [some .cancelled, none] ∧
    (run ⟨untouched, []⟩ interrupted).analyzer.indices.tables.length = 1 := by
  decide +kernel

theorem run_allOrNothing_interrupted :
    (create .standard (some untouched.policy)).outcome {} = (.ok untouched, {}) ∧
    ∃ s, run ⟨untouched, []⟩ interrupted = s ∧ s.analyzer.indices.tables.length = 1 ∧
      (Query.analyze "t").outcome s.analyzer {} = .error (.notInitialized "analyze_table_impact") ∧
      ∃ attempt ∈ s.attempts, attempt.Completes ∧
        attempt.Made s.analyzer.modules s.analyzer.indices := by
  obtain ⟨hfaults, htables⟩ := interrupted_facts
  have hcreate : (create .standard (some untouched.policy)).outcome {} = (.ok untouched, {}) := rfl
  generalize hs : run ⟨untouched, []⟩ interrupted = s at hfaults htables
  obtain ⟨hrefused, hkept, -⟩ := run_allOrNothing hcreate hs
  obtain ⟨latest, rest, hattempts, hlatest, hrest⟩ := List.map_eq_cons_iff.1 hfaults
  obtain ⟨first, rest, rfl, hfirst, -⟩ := List.map_eq_cons_iff.1 hrest
  refine ⟨hcreate, s, rfl, htables, (hrefused _ _ _).2 ⟨rfl, ?_⟩, ?_⟩
  · intro attempt hattempt
    rw [hattempts] at hattempt
    cases hattempt
    simp [Attempt.Completes, hlatest]
  · obtain ⟨-, -, hnone⟩ | ⟨later, attempt, earlier, hsplit, -, hcompletes, hmade⟩ := hkept
    · exact absurd hfirst (hnone first (by simp [hattempts]))
    · exact ⟨attempt, by simp [hsplit], hcompletes, hmade⟩

end Session

end Ripple.Analyzer
