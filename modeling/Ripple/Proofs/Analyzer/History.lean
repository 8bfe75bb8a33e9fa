-- SUMMARY: When the methods of a table fit its statements after runs that share their snapshots.
import Ripple.Proofs.Analyzer.Preparation
import Ripple.Proofs.Repository.Notes
import Ripple.Proofs.Settings.Standard

/-!
# Statements and repository methods after cached runs

Runs of new analyzers follow each other and share their snapshots. The methods of a table are looked
up beside its statements, by position. They fit exactly if no run finds the mappings of an earlier
one whose statements, in the order that they had then, lead to other methods.
-/

namespace Ripple

theorem TableIndex.map_shown_map_str (index : TableIndex) :
    (index.map Json.str).map Json.shown = index := by
  simp [TableIndex.map, Function.comp_def]

theorem TableIndex.lookup_map (f : α → β) (index : TableIndex α) (table : String) :
    (index.map f).lookup table = (index.lookup table).map (List.map (Statement.map f)) := by
  induction index with
  | nil => rfl
  | cons entry index ih =>
    obtain ⟨t, statements⟩ := entry
    simp only [TableIndex.map, List.map_cons, List.lookup_cons] at ih ⊢
    split
    · rfl
    · exact ih

theorem TableIndex.statements_map (f : α → β) (index : TableIndex α) (table : String) :
    (index.map f).statements table = (index.statements table).map (Statement.map f) := by
  unfold TableIndex.statements
  rw [lookup_map]
  cases index.lookup table <;> rfl

namespace Analyzer

/-- A run of a new analyzer, with the workspace that it starts in. -/
structure Run where
  settings : Settings
  policy : Policy Datum
  root : Path
  before : Workspace

namespace Run

section
variable (run : Run)

/-- What the run gives, and the workspace that it leaves. -/
def outcome : Except Fault (Analyzer × Option Fault) × Workspace :=
  (prepare { settings := run.settings, policy := run.policy } run.root).outcome run.before

def after : Workspace :=
  run.outcome.2

/-- The modules and the source files. -/
def started : Except Fault (List BuildModule × List Path) × Workspace :=
  (start run.settings run.root).outcome run.before

/-- The index of tables, and the workspace in which its statements are linked. -/
def indexed : Except Fault (TableIndex Json) × Workspace :=
  (indexTables run.settings run.root).outcome run.before

/-- The index of tables as texts, empty if there is none. -/
def index : TableIndex :=
  TableIndex.map Json.shown (run.indexed.1.toOption.getD [])

/-- The files as they stand when statements are linked. -/
def linking : Disk :=
  run.indexed.2.files

/-- The mapper files and the three files of the caches are different files, and no snapshot is taken
for a source file. -/
structure IsSteady : Prop where
  mappers {modules : List BuildModule} {sources : List Path}
    (h : run.started.1 = .ok (modules, sources)) :
    TableIndex.IsSteady run.settings modules run.before.files
  caches : [run.settings.tableIndexFile, run.settings.repositoryMappingFile,
    run.settings.callSiteLogFile].Pairwise fun place place' =>
      run.before.files.wayTo place ≠ run.before.files.wayTo place'
  sources : ∀ path ∈ Repository.sources run.index,
    run.linking.wayTo path ≠ run.linking.wayTo run.settings.repositoryMappingFile

end

variable {run : Run}

theorem IsSteady.tables_ne_mappings (h : run.IsSteady) :
    run.before.files.wayTo run.settings.tableIndexFile ≠
      run.before.files.wayTo run.settings.repositoryMappingFile :=
  (List.pairwise_cons.1 h.caches).1 _ (by simp)

theorem IsSteady.tables_ne_calls (h : run.IsSteady) :
    run.before.files.wayTo run.settings.tableIndexFile ≠
      run.before.files.wayTo run.settings.callSiteLogFile :=
  (List.pairwise_cons.1 h.caches).1 _ (by simp)

theorem IsSteady.mappings_ne_calls (h : run.IsSteady) :
    run.before.files.wayTo run.settings.repositoryMappingFile ≠
      run.before.files.wayTo run.settings.callSiteLogFile :=
  (List.pairwise_cons.1 (List.pairwise_cons.1 h.caches).2).1 _ (by simp)

theorem indexed_of_started_error {fault : Fault} {w : Workspace}
    (h : run.started = (.error fault, w)) : run.indexed = (.error fault, w) :=
  Work.outcome_bind_error h _

theorem indexed_of_started {modules : List BuildModule} {sources : List Path} {w : Workspace}
    (h : run.started = (.ok (modules, sources), w)) :
    run.indexed = (TableIndex.build run.settings tableJournal modules).outcome w :=
  Work.outcome_bind_ok h _

/-- Where there is nothing but what earlier runs left, the index holds texts, and the run leaves no
other snapshot of it than they did. -/
theorem indexed_spec (hmode : run.settings.cacheValidation = .fingerprint)
    (hsteady : run.IsSteady)
    (hleft : ∀ bytes, run.before.files.contentAt run.settings.tableIndexFile = some bytes →
      TableIndex.IsLeft (TableIndex.snapshotFile run.settings tableJournal) bytes) :
    run.before.Touches run.settings.tableIndexFile
        (TableIndex.IsLeft (TableIndex.snapshotFile run.settings tableJournal)) run.indexed.2 ∧
      run.index.IsDistinct ∧ run.index.IsNamed ∧
      ∀ found, run.indexed.1 = .ok found → found = run.index.map .str := by
  obtain ⟨hfiles, hsignal⟩ := start_files run.settings run.root run.before
  rcases hstarted : run.started with ⟨started, w⟩
  change run.started.2.files = _ at hfiles
  change run.started.2.signal = _ at hsignal
  rw [hstarted] at hfiles hsignal
  have htouch : run.before.Touches run.settings.tableIndexFile
      (TableIndex.IsLeft (TableIndex.snapshotFile run.settings tableJournal)) w :=
    .of_files hfiles fun h => hsignal.trans h
  -- A run that has no index links the empty one, of which all of this is true.
  have hempty : ∀ fault, run.indexed.1 = .error fault →
      run.index.IsDistinct ∧ run.index.IsNamed ∧
      ∀ found, run.indexed.1 = .ok found → found = run.index.map .str := by
    intro fault hfault
    have hindex : run.index = [] := by simp [index, hfault, Except.toOption, TableIndex.map]
    rw [hindex, hfault]
    exact ⟨List.nodup_nil, by simp [TableIndex.IsNamed], fun _ h => by cases h⟩
  cases started with
  | error fault =>
    have hindexed := indexed_of_started_error hstarted
    exact ⟨by rw [hindexed]; exact htouch, hempty fault (by rw [hindexed])⟩
  | ok found =>
    obtain ⟨modules, sources⟩ := found
    have hindexed := indexed_of_started hstarted
    have hmappers := hsteady.mappers (congrArg Prod.fst hstarted)
    rw [← hfiles] at hmappers hleft
    obtain ⟨result, w', hbuild, htouch', -⟩ := TableIndex.build_spec tableJournal hmappers
    rw [hbuild] at hindexed
    have hindices : run.index.IsDistinct ∧ run.index.IsNamed ∧
        ∀ found, run.indexed.1 = .ok found → found = run.index.map .str := by
      cases result with
      | error fault => exact hempty fault (by rw [hindexed])
      | ok found =>
        obtain ⟨index, hdistinct, hnamed, hfound⟩ :=
          TableIndex.build_texts tableJournal hmode hmappers hleft (congrArg Prod.fst hbuild)
        have hindex : run.index = index := by
          simp [Run.index, hindexed, Except.toOption, hfound, TableIndex.map_shown_map_str]
        rw [hindex, hindexed]
        exact ⟨hdistinct, hnamed, fun found' h => by cases h; exact hfound⟩
    refine ⟨?_, hindices⟩
    rw [hindexed]
    exact htouch.trans (htouch'.mono fun bytes hbytes => ⟨run.settings, modules, w.files, hbytes⟩)

/-- What the linking and the calls do to the caches, and what a run takes over that succeeds. -/
theorem after_spec (hsteady : run.IsSteady) (hdistinct : run.index.IsDistinct)
    (hfound : ∀ found, run.indexed.1 = .ok found → found = run.index.map .str) :
    ∃ w, run.indexed.2.Touches run.settings.repositoryMappingFile
        (Repository.IsLeft run.settings linkerJournal run.linking [] run.index) w ∧
      w.Touches run.settings.callSiteLogFile (fun _ => True) run.after ∧
      ∀ analyzer, run.outcome.1 = .ok (analyzer, none) →
        analyzer.indices.tables = run.index.map .str ∧
        ∃ fingerprint state, Repository.print run.linking run.index = .ok fingerprint ∧
          (Repository.snapshotFile run.settings linkerJournal).state run.linking
            (.str fingerprint) = .ok state ∧
          (state.value? RepositoryMappings.ofJson = some analyzer.indices.mappings ∨
            state.value? RepositoryMappings.ofJson = none ∧ analyzer.indices.mappings =
              (Repository.linked run.settings run.linking run.index).map .str) := by
  rcases hstarted : run.started with ⟨started, w₁⟩
  let analyzer : Analyzer := { settings := run.settings, policy := run.policy }
  cases started with
  | error fault =>
    obtain ⟨analyzer', hprepare⟩ := prepare_of_start_error analyzer hstarted
    have houtcome : run.outcome = (.ok (analyzer', some fault), w₁) := hprepare
    rw [indexed_of_started_error hstarted]
    refine ⟨w₁, .refl _ _ w₁, ?_, ?_⟩
    · rw [after, houtcome]
      exact .refl _ _ w₁
    · intro analyzer'' hsuccess
      rw [houtcome] at hsuccess
      cases hsuccess
  | ok found =>
    obtain ⟨modules, sources⟩ := found
    have hindexed := indexed_of_started hstarted
    rcases hbuild : (TableIndex.build run.settings tableJournal modules).outcome w₁ with
      ⟨result, w₂⟩
    rw [hbuild] at hindexed
    have hlinking : run.linking = w₂.files := by rw [linking, hindexed]
    have hsources := hsteady.sources
    rw [hlinking] at hsources ⊢
    rw [hindexed] at hfound ⊢
    obtain ⟨declared, tables, w₃, htables, htouch, hmappings⟩ :=
      buildTables_spec analyzer rfl hbuild hfound hdistinct hsources
    obtain ⟨analyzer', fault?, w₄, hprepare, htouch', htaken⟩ :=
      prepare_of_buildTables analyzer hstarted htables
    have houtcome : run.outcome = (.ok (analyzer', fault?), w₄) := hprepare
    refine ⟨w₃, htouch, ?_, ?_⟩
    · rw [after, houtcome]
      exact htouch'
    · intro analyzer'' hsuccess
      rw [houtcome] at hsuccess
      cases hsuccess
      obtain ⟨hresult, hlinked⟩ := hmappings _ _ (htaken rfl)
      exact ⟨hfound _ hresult, hlinked⟩

end Run

/-- Settings with the same places for the two snapshots, and with which source files are read in the
same way. -/
structure Shares (base settings : Settings) : Prop where
  tables : settings.tableIndexFile = base.tableIndexFile
  mappings : settings.repositoryMappingFile = base.repositoryMappingFile
  validation : settings.cacheValidation = base.cacheValidation
  encoding : settings.encoding = base.encoding

/-- Runs with the same places for their snapshots, the latest first. Between two of them the files
may change in any way, but nobody else puts files at those places. -/
inductive History (base : Settings) : List Run → Prop where
  | nil : History base []
  | cons {run : Run} {earlier : List Run} (rest : History base earlier)
      (shares : Shares base run.settings) (steady : run.IsSteady)
      (kept : ∀ place ∈ [base.tableIndexFile, base.repositoryMappingFile], ∀ bytes,
        run.before.files.contentAt place = some bytes →
          ∃ last ∈ earlier.head?, last.after.files.contentAt place = some bytes) :
      History base (run :: earlier)

section
variable {base : Settings} {run past : Run} {runs earlier : List Run}

theorem Shares.tableFile (h : Shares base run.settings) (journal : String) :
    TableIndex.snapshotFile run.settings journal = TableIndex.snapshotFile base journal := by
  simp [TableIndex.snapshotFile, h.tables, h.validation]

theorem Shares.mappingFile (h : Shares base run.settings) (journal : String) :
    Repository.snapshotFile run.settings journal = Repository.snapshotFile base journal := by
  simp [Repository.snapshotFile, h.mappings, h.validation]

/-- What runs have left at the places of their snapshots. -/
structure HasLeft (base : Settings) (runs : List Run) (files : Disk) : Prop where
  tables (bytes : Bytes) (h : files.contentAt base.tableIndexFile = some bytes) :
    TableIndex.IsLeft (TableIndex.snapshotFile base tableJournal) bytes
  mappings (bytes : Bytes) (h : files.contentAt base.repositoryMappingFile = some bytes) :
    ∃ past ∈ runs, Repository.IsLeft past.settings linkerJournal past.linking [] past.index bytes

/-- The index of a run is one of texts, and the snapshot of the mappings is not touched before they
are looked up. -/
theorem HasLeft.index (hmode : base.cacheValidation = .fingerprint)
    (h : HasLeft base earlier run.before.files) (hshares : Shares base run.settings)
    (hsteady : run.IsSteady) :
    HasLeft base earlier run.linking ∧
      (∀ path, run.linking.wayTo path = run.before.files.wayTo path) ∧
      run.index.IsDistinct ∧ run.index.IsNamed ∧
      ∀ found, run.indexed.1 = .ok found → found = run.index.map .str := by
  have hleft := h.tables
  rw [← hshares.tableFile, ← hshares.tables] at hleft
  obtain ⟨htouch, hindex⟩ := Run.indexed_spec (hshares.validation.trans hmode) hsteady hleft
  refine ⟨⟨?_, ?_⟩, htouch.keeps.wayTo, hindex⟩
  · intro bytes hbytes
    rw [← hshares.tables] at hbytes
    obtain hbefore | hnew := htouch.content bytes hbytes
    · rw [hshares.tables] at hbefore
      exact h.tables bytes hbefore
    · rwa [hshares.tableFile] at hnew
  · intro bytes hbytes
    rw [Run.linking, ← hshares.mappings, htouch.contentAt hsteady.tables_ne_mappings.symm,
      hshares.mappings] at hbytes
    exact h.mappings bytes hbytes

/-- A run leaves nothing but snapshots of its own and what was left before. -/
theorem HasLeft.step (hmode : base.cacheValidation = .fingerprint)
    (h : HasLeft base earlier run.before.files) (hshares : Shares base run.settings)
    (hsteady : run.IsSteady) : HasLeft base (run :: earlier) run.after.files := by
  obtain ⟨hlinking, hways, hdistinct, -, hfound⟩ := h.index hmode hshares hsteady
  obtain ⟨w, htouch, htouch', -⟩ := Run.after_spec hsteady hdistinct hfound
  -- The three places stay apart while the run writes to them, since no way changes.
  have hways' (path : Path) : w.files.wayTo path = run.before.files.wayTo path :=
    (htouch.keeps.wayTo path).trans (hways path)
  constructor
  · intro bytes hbytes
    have hcalls := hsteady.tables_ne_calls
    have hmappings := hsteady.tables_ne_mappings
    rw [← hways', ← hways'] at hcalls
    rw [← hways, ← hways] at hmappings
    rw [← hshares.tables, htouch'.contentAt hcalls, htouch.contentAt hmappings,
      hshares.tables] at hbytes
    exact hlinking.tables bytes hbytes
  · intro bytes hbytes
    have hcalls := hsteady.mappings_ne_calls
    rw [← hways', ← hways'] at hcalls
    rw [← hshares.mappings, htouch'.contentAt hcalls] at hbytes
    obtain hbefore | hnew := htouch.content bytes hbytes
    · rw [hshares.mappings] at hbefore
      obtain ⟨past, hpast, hleft⟩ := hlinking.mappings bytes hbefore
      exact ⟨past, List.mem_cons_of_mem run hpast, hleft⟩
    · exact ⟨run, List.mem_cons_self, hnew⟩

/-- What is kept from the end of a run to the start of the next one. -/
theorem HasLeft.of_kept {files : Disk}
    (hkept : ∀ place ∈ [base.tableIndexFile, base.repositoryMappingFile], ∀ bytes,
      files.contentAt place = some bytes →
        ∃ last ∈ earlier.head?, last.after.files.contentAt place = some bytes)
    (h : ∀ last ∈ earlier.head?, HasLeft base earlier last.after.files) :
    HasLeft base earlier files where
  tables bytes hbytes := by
    obtain ⟨last, hlast, hbytes'⟩ := hkept base.tableIndexFile (by simp) bytes hbytes
    exact (h last hlast).tables bytes hbytes'
  mappings bytes hbytes := by
    obtain ⟨last, hlast, hbytes'⟩ := hkept base.repositoryMappingFile (by simp) bytes hbytes
    exact (h last hlast).mappings bytes hbytes'

/-- After a run there is nothing but what this one and earlier ones left. -/
theorem History.hasLeft_after (hmode : base.cacheValidation = .fingerprint)
    (h : History base runs) : ∀ last ∈ runs.head?, HasLeft base runs last.after.files := by
  induction h with
  | nil =>
    intro last hlast
    cases hlast
  | cons rest shares steady kept ih =>
    rintro last ⟨⟩
    exact (HasLeft.of_kept kept ih).step hmode shares steady

/-- The same before a run, and what that says of its index. -/
theorem History.index_spec (hmode : base.cacheValidation = .fingerprint)
    (h : History base (run :: earlier)) :
    Shares base run.settings ∧ run.IsSteady ∧ HasLeft base earlier run.linking ∧
      run.index.IsDistinct ∧ run.index.IsNamed ∧
      ∀ found, run.indexed.1 = .ok found → found = run.index.map .str := by
  cases h with
  | cons rest shares steady kept =>
    obtain ⟨hlinking, -, hindex⟩ :=
      (HasLeft.of_kept kept (rest.hasLeft_after hmode)).index hmode shares steady
    exact ⟨shares, steady, hlinking, hindex⟩

theorem History.of_mem (h : History base runs) (hmem : past ∈ runs) :
    ∃ before, History base (past :: before) := by
  induction h with
  | nil => cases hmem
  | @cons run earlier rest shares steady kept ih =>
    obtain rfl | hmem := List.mem_cons.1 hmem
    · exact ⟨earlier, .cons rest shares steady kept⟩
    · exact ih hmem

/-! ## What a run finds -/

/-- What the fingerprint of mappings is made of: the notes of the index, and the source files with
their stamps. -/
def Run.inputs (run : Run) : List String × List (Path × Option (Nat × Int)) :=
  (Repository.notes run.index,
    (Repository.sources run.index).map fun path => (path, Repository.stamp? run.linking path))

/-- The mappings that the run would make. -/
def Run.linked (run : Run) : RepositoryMappings :=
  Repository.linked run.settings run.linking run.index

/-- A run finds the whole snapshot of the mappings of an earlier one. -/
structure Run.Finds (run past : Run) : Prop where
  inputs : past.inputs = run.inputs
  nonempty : past.index ≠ []
  read : ∃ fingerprint, Repository.print run.linking run.index = .ok fingerprint ∧
    run.linking.read run.settings.repositoryMappingFile =
      .ok ((Repository.snapshotFile run.settings linkerJournal).bytesOf past.linked.json
        (.str fingerprint) (.bool true))

/-- The entries that the statements of each table call for. -/
def Run.entries (run : Run) (index : TableIndex) (table : String) : Option (List String) :=
  (index.lookup table).map (List.map (Repository.resolution run.settings run.linking))

theorem Run.entries_getD (run : Run) (index : TableIndex) (table : String) :
    ((run.entries index table).map (List.map Json.str)).getD [] =
      (index.statements table).map fun s =>
        .str (Repository.resolution run.settings run.linking s) := by
  unfold entries TableIndex.statements
  cases index.lookup table <;> simp

/-- The methods of each table are the entries of its statements, one for each and in their order. -/
def IsParallel (settings : Settings) (files : Disk) (indices : Impact.Indices) : Prop :=
  ∀ table, (indices.mappings.mapping? table).map (·.methods) =
    (indices.tables.lookup table).map fun statements => statements.map fun s =>
      .str (Repository.resolution settings files (s.map Json.shown))

/-- A snapshot that is found so is used. -/
theorem Run.Finds.value?_eq (hmode : run.settings.cacheValidation = .fingerprint)
    (h : run.Finds past) (hdistinct : past.index.IsDistinct) {fingerprint : String}
    (hprint : Repository.print run.linking run.index = .ok fingerprint) {state : SnapshotState}
    (hstate : (Repository.snapshotFile run.settings linkerJournal).state run.linking
      (.str fingerprint) = .ok state) :
    state.value? RepositoryMappings.ofJson = some (past.linked.map .str) := by
  obtain ⟨fingerprint', hprint', hread⟩ := h.read
  obtain rfl := Except.ok.inj (hprint'.symm.trans hprint)
  have hempty : past.linked.json.isEmpty = false := by
    rw [RepositoryMappings.isEmpty_json]
    simpa [Run.linked, Repository.linked, Repository.mappingsOf, Repository.anchors]
      using h.nonempty
  rw [SnapshotFile.state_whole past.linked.plain_json (by simp [Repository.snapshotFile, hmode])
    hread] at hstate
  cases hstate
  have hkeyed : past.linked.IsKeyed := Repository.isKeyed_linked _ _ hdistinct
  simp [hempty, SnapshotState.value?, SnapshotState.data?,
    RepositoryMappings.ofJson_json hkeyed, Except.toOption]

/-- The mappings of a run that succeeds are those that it would make, or those of an earlier run
whose snapshot it finds. -/
theorem History.mappings_cases (hmode : base.cacheValidation = .fingerprint)
    (h : History base (run :: earlier))
    (hdigest : ∀ past ∈ earlier, ∀ fingerprint,
      Repository.print past.linking past.index = .ok fingerprint →
        Repository.print run.linking run.index = .ok fingerprint → past.inputs = run.inputs)
    {analyzer : Analyzer} (hsuccess : run.outcome.1 = .ok (analyzer, none)) :
    analyzer.indices.mappings = run.linked.map .str ∨
      ∃ past ∈ earlier, run.Finds past ∧ analyzer.indices.mappings = past.linked.map .str := by
  obtain ⟨hshares, hsteady, hleft, hdistinct, -, hfound⟩ := h.index_spec hmode
  obtain ⟨-, -, -, htaken⟩ := Run.after_spec hsteady hdistinct hfound
  obtain ⟨-, fingerprint, state, hprint, hstate, hused | ⟨-, hmade⟩⟩ := htaken analyzer hsuccess
  · -- The snapshot is used, so it is a whole one of an earlier run.
    obtain ⟨data, hdata, hjson⟩ := Option.bind_eq_some_iff.1 hused
    obtain ⟨bytes, hread⟩ := SnapshotFile.read_of_data? hstate hdata
    have hbytes : run.linking.contentAt base.repositoryMappingFile = some bytes :=
      Disk.contentAt_of_read (hshares.mappings ▸ hread)
    obtain ⟨past, hpast, stored, hstored, hremnant⟩ := hleft.mappings bytes hbytes
    obtain ⟨before, hpast'⟩ := h.of_mem (List.mem_cons_of_mem run hpast)
    obtain ⟨hshares', -, -, hdistinct', -⟩ := hpast'.index_spec hmode
    rw [hshares'.mappingFile, ← hshares.mappingFile, Repository.relinked_nil] at hremnant
    obtain ⟨rfl, hnonempty, rfl, hread⟩ := hremnant.whole_of_used
      (by simp [Repository.snapshotFile, hshares.validation, hmode]) hread hstate hdata
    have hkeyed : past.linked.IsKeyed := Repository.isKeyed_linked _ _ hdistinct'
    have hmappings : RepositoryMappings.ofJson past.linked.json = .ok (past.linked.map .str) :=
      RepositoryMappings.ofJson_json hkeyed
    have hindex : past.index ≠ [] := by
      rintro hempty
      rw [RepositoryMappings.isEmpty_json, hempty] at hnonempty
      cases hnonempty
    refine .inr ⟨past, hpast, ⟨hdigest past hpast stored hstored hprint, hindex, stored, hprint,
      hread⟩, ?_⟩
    rw [← Run.linked, hmappings] at hjson
    exact (Option.some.inj hjson).symm
  · exact .inl hmade

/-! ## What its mappings hold -/

/-- The mappings of a run with the same inputs hold the entries that its statements call for. -/
theorem History.methods_linked (hmode : base.cacheValidation = .fingerprint)
    (hhistory : History base (run :: earlier))
    (hedits : ∀ past ∈ earlier, ∀ path ∈ Repository.sources run.index,
      Repository.IsStamped past.linking run.linking path)
    (hpast : past ∈ run :: earlier) (hinputs : past.inputs = run.inputs) (table : String) :
    ((past.linked.map .str).mapping? table).map (·.methods) =
      (run.entries past.index table).map (List.map .str) := by
  obtain ⟨hshares, -⟩ := hhistory.index_spec hmode
  obtain ⟨before, hhistory'⟩ := hhistory.of_mem hpast
  obtain ⟨hshares', -, -, -, hnamed, -⟩ := hhistory'.index_spec hmode
  have hstamped : ∀ path ∈ Repository.sources run.index,
      Repository.IsStamped past.linking run.linking path := by
    obtain rfl | hpast := List.mem_cons.1 hpast
    · exact fun path _ => .refl past.linking path
    · exact hedits past hpast
  obtain ⟨-, hstamps⟩ := Prod.mk.inj hinputs
  -- The two indices may differ, but not in their source files and the stamps of these.
  have hpaths : Repository.sources past.index = Repository.sources run.index := by
    simpa [Function.comp_def] using congrArg (List.map Prod.fst) hstamps
  rw [hpaths, List.map_inj_left] at hstamps
  have hmethods : (List.lookup table past.linked).map (·.methods) =
      run.entries past.index table := by
    rw [Run.linked, Repository.methods_linked hnamed]
    refine Option.map_congr fun statements hstatements => ?_
    refine List.map_congr_left fun s hs => ?_
    have hsource := Repository.anchorOf_file_mem_sources (mem_of_lookup hstatements) hs
    rw [hpaths] at hsource
    exact Repository.resolution_congr (hshares'.encoding.trans hshares.encoding.symm)
      (hstamped _ hsource) (Prod.mk.inj (hstamps _ hsource)).2
  rw [← hmethods, RepositoryMappings.mapping?_map_str, Option.map_map, Option.map_map]
  rfl

theorem Run.isParallel_iff {indices : Impact.Indices}
    (htables : indices.tables = run.index.map .str) :
    IsParallel run.settings run.linking indices ↔
      ∀ table, (indices.mappings.mapping? table).map (·.methods) =
        (run.entries run.index table).map (List.map .str) := by
  refine forall_congr' fun table => ?_
  rw [htables, TableIndex.lookup_map]
  simp only [Run.entries, Option.map_map, Function.comp_def, List.map_map,
    Statement.map_shown_map_str]

/-- The methods of a table, none if there is no mapping. -/
def methodsOf (indices : Impact.Indices) (table : String) : List Json :=
  ((indices.mappings.mapping? table).map (·.methods)).getD []

/-- The entries that the statements of a table call for, in their order. -/
def entriesOf (settings : Settings) (files : Disk) (indices : Impact.Indices) (table : String) :
    List Json :=
  (indices.tables.statements table).map fun s =>
    .str (Repository.resolution settings files (s.map Json.shown))

/-- Methods stay parallel to statements if and only if no run finds the mappings of an earlier one
whose statements, as they stood then, call for other entries or for the same in another order. If
no name holds a bar, each table has the right entries, whatever their order. -/
theorem History.isParallel_iff_finds (hmode : base.cacheValidation = .fingerprint)
    (hhistory : History base (run :: earlier))
    (hdigest : ∀ past ∈ earlier, ∀ fingerprint,
      Repository.print past.linking past.index = .ok fingerprint →
        Repository.print run.linking run.index = .ok fingerprint → past.inputs = run.inputs)
    (hedits : ∀ past ∈ earlier, ∀ path ∈ Repository.sources run.index,
      Repository.IsStamped past.linking run.linking path)
    {analyzer : Analyzer} (hsuccess : run.outcome.1 = .ok (analyzer, none)) :
    (IsParallel run.settings run.linking analyzer.indices ↔
      ∀ past ∈ earlier, run.Finds past → run.entries past.index = run.entries run.index) ∧
    ((∀ past ∈ run :: earlier, Repository.IsUnbarred past.index) →
      ∀ table, (methodsOf analyzer.indices table).Perm
        (entriesOf run.settings run.linking analyzer.indices table)) := by
  obtain ⟨hshares, hsteady, -, hdistinct, -, hfound⟩ := hhistory.index_spec hmode
  obtain ⟨-, -, -, htaken⟩ := Run.after_spec hsteady hdistinct hfound
  obtain ⟨htables, fingerprint, state, hprint, hstate, hused⟩ := htaken analyzer hsuccess
  have hmethods {past : Run} (hpast : past ∈ run :: earlier) (hinputs : past.inputs = run.inputs) :=
    hhistory.methods_linked hmode hedits hpast hinputs
  have hcases := hhistory.mappings_cases hmode hdigest hsuccess
  constructor
  · rw [Run.isParallel_iff htables]
    constructor
    · intro hparallel past hpast hfinds
      have hpast' := List.mem_cons_of_mem run hpast
      obtain ⟨before, hhistory'⟩ := hhistory.of_mem hpast'
      obtain ⟨-, -, -, hdistinct', -⟩ := hhistory'.index_spec hmode
      -- What is found is used, so the methods are those of the earlier index.
      rw [hfinds.value?_eq (hshares.validation.trans hmode) hdistinct' hprint hstate] at hused
      obtain hmappings | ⟨hnone, -⟩ := hused
      · funext table
        have htable := hparallel table
        rw [← Option.some.inj hmappings, hmethods hpast' hfinds.inputs] at htable
        exact Option.map_injective (List.map_injective_iff.2 fun _ _ => Json.str.inj) htable
      · cases hnone
    · intro hsame table
      obtain hmade | ⟨past, hpast, hfinds, hmappings⟩ := hcases
      · rw [hmade]
        exact hmethods List.mem_cons_self rfl table
      · rw [hmappings, hmethods (List.mem_cons_of_mem run hpast) hfinds.inputs,
          hsame past hpast hfinds]
  · intro hbars table
    -- Made or found, the mappings are those of a run with the same notes.
    obtain ⟨source, hsource, hinputs, hmappings⟩ : ∃ source ∈ run :: earlier,
        source.inputs = run.inputs ∧ analyzer.indices.mappings = source.linked.map .str := by
      obtain hmade | ⟨past, hpast, hfinds, hmappings⟩ := hcases
      · exact ⟨run, List.mem_cons_self, rfl, hmade⟩
      · exact ⟨past, List.mem_cons_of_mem run hpast, hfinds.inputs, hmappings⟩
    obtain ⟨before, hhistory'⟩ := hhistory.of_mem hsource
    obtain ⟨-, -, -, hdistinct', -⟩ := hhistory'.index_spec hmode
    have hperm := (Repository.outline_perm_of_notes (Prod.mk.inj hinputs).1 hdistinct hdistinct'
      (hbars run List.mem_cons_self) (hbars source hsource) table).map fun s =>
        Json.str (Repository.resolution run.settings run.linking s)
    simp only [List.map_map, Function.comp_def, Repository.resolution_outline] at hperm
    rw [methodsOf, hmappings, hmethods hsource hinputs, Run.entries_getD, entriesOf, htables,
      TableIndex.statements_map]
    simpa [Function.comp_def] using hperm

/-! ## Statements that change places -/

/-- A mapper with two statements on a table, the source file beside it, which declares nothing, and
what is in the folder of the caches. -/
def sampleDisk (first second : String) (caches : List (String × Entry)) : Disk where
  home := ["home"]
  tree := .folder [("home", .folder [
    ("m", .folder [("src", .folder [("A.java", .file [] 0), ("com", .folder [("A.xml", .file
      (Utf8.encode ("<mapper namespace=\"n\"><select id=\"" ++ first ++
        "\">FROM T</select><select id=\"" ++ second ++ "\">FROM T</select></mapper>").toList) 0)])])]),
    (".impact_cache", .folder caches)])]

def sampleRun (files : Disk) : Run where
  settings := .standard
  policy := Policy.standard.map .text
  root := { names := ["m"] }
  before := { files }

def firstRun : Run :=
  sampleRun (sampleDisk "a" "b" [])

/-- A run that finds the mappings of the first one, after the statements have changed places. -/
def swappedRun : Run :=
  sampleRun (sampleDisk "b" "a" [("table_repo_mapping.json", .file
    ((firstRun.after.files.contentAt Settings.standard.repositoryMappingFile).getD []) 0)])

/-- The modules that a run is over. -/
def Run.modules (run : Run) : List BuildModule :=
  (run.started.1.toOption.map (·.1)).getD []

theorem Run.isSteady_of_modules {run : Run}
    (hmappers : TableIndex.IsSteady run.settings run.modules run.before.files)
    (hcaches : [run.settings.tableIndexFile, run.settings.repositoryMappingFile,
      run.settings.callSiteLogFile].Pairwise fun place place' =>
        run.before.files.wayTo place ≠ run.before.files.wayTo place')
    (hsources : ∀ path ∈ Repository.sources run.index,
      run.linking.wayTo path ≠ run.linking.wayTo run.settings.repositoryMappingFile) :
    run.IsSteady where
  mappers h := by simpa [Run.modules, h, Except.toOption] using hmappers
  caches := hcaches
  sources := hsources

/-- The analyzer after a run that succeeds. -/
def Run.analyzer? (run : Run) : Option Analyzer :=
  match run.outcome.1 with
  | .ok (analyzer, none) => some analyzer
  | _ => none

theorem Run.outcome_of_analyzer? {run : Run} {analyzer : Analyzer}
    (h : run.analyzer? = some analyzer) : run.outcome.1 = .ok (analyzer, none) := by
  unfold Run.analyzer? at h
  split at h
  · rename_i heq
    rw [heq, Option.some.inj h]
  · cases h

/-- The texts of the methods of a table and of the entries that its statements call for. -/
def Run.texts? (run : Run) (table : String) : Option (List String × List String) :=
  run.analyzer?.map fun analyzer => ((methodsOf analyzer.indices table).map Json.shown,
    (entriesOf run.settings run.linking analyzer.indices table).map Json.shown)

theorem swappedRun_facts :
    (∀ run ∈ [firstRun, swappedRun],
      TableIndex.IsSteady run.settings run.modules run.before.files ∧
      [run.settings.tableIndexFile, run.settings.repositoryMappingFile,
        run.settings.callSiteLogFile].Pairwise (fun place place' =>
          run.before.files.wayTo place ≠ run.before.files.wayTo place') ∧
      (∀ path ∈ Repository.sources run.index,
        run.linking.wayTo path ≠ run.linking.wayTo run.settings.repositoryMappingFile) ∧
      run.before.files.contentAt run.settings.tableIndexFile = none) ∧
    firstRun.inputs = swappedRun.inputs ∧
    (∀ source ∈ swappedRun.inputs.2, source.2 = some (0, 0)) ∧
    (firstRun.after.files.contentAt Settings.standard.repositoryMappingFile).isSome = true ∧
    swappedRun.texts? "T" = some (["[N/A]-A.a", "[N/A]-A.b"], ["[N/A]-A.b", "[N/A]-A.a"]) := by
  decide +kernel

theorem history_swappedRun : History .standard [swappedRun, firstRun] := by
  obtain ⟨hsteady, -, -, hleft, -⟩ := swappedRun_facts
  obtain ⟨hmappers, hcaches, hsources, hnone⟩ := hsteady firstRun (by simp)
  obtain ⟨hmappers', hcaches', hsources', hnone'⟩ := hsteady swappedRun (by simp)
  have hshares : Shares .standard Settings.standard := ⟨rfl, rfl, rfl, rfl⟩
  refine .cons (.cons .nil hshares (Run.isSteady_of_modules hmappers hcaches hsources) ?_) hshares
    (Run.isSteady_of_modules hmappers' hcaches' hsources') ?_
  · intro place hplace bytes hbytes
    obtain rfl | rfl : place = _ ∨ place = _ := by simpa using hplace
    · cases hnone.symm.trans hbytes
    · have hempty : firstRun.before.files.contentAt Settings.standard.repositoryMappingFile = none :=
        by decide +kernel
      cases hempty.symm.trans hbytes
  · intro place hplace bytes hbytes
    refine ⟨firstRun, rfl, ?_⟩
    obtain rfl | rfl : place = _ ∨ place = _ := by simpa using hplace
    · cases hnone'.symm.trans hbytes
    · obtain ⟨left, hcontent⟩ := Option.isSome_iff_exists.1 hleft
      have hfound : swappedRun.before.files.contentAt Settings.standard.repositoryMappingFile =
          some ((firstRun.after.files.contentAt Settings.standard.repositoryMappingFile).getD []) :=
        rfl
      rw [hfound, hcontent] at hbytes
      rw [hcontent, ← hbytes]
      rfl

theorem Run.mem_inputs {run : Run} {path : Path} (h : path ∈ Repository.sources run.index) :
    (path, Repository.stamp? run.linking path) ∈ run.inputs.2 :=
  List.mem_map.2 ⟨path, h, rfl⟩

/-- The source file has not been edited: it is empty before both runs. -/
theorem isStamped_swappedRun : ∀ past ∈ [firstRun], ∀ path ∈ Repository.sources swappedRun.index,
    Repository.IsStamped past.linking swappedRun.linking path := by
  obtain ⟨-, -, hempty, -⟩ := swappedRun_facts
  intro past _ path hpath content content' modified _ hfind' hsize
  have hstamp : Repository.stamp? swappedRun.linking path = some (0, 0) :=
    hempty (path, _) (Run.mem_inputs hpath)
  obtain ⟨found, hfound, hlength⟩ := Repository.stamp?_eq_some.1 hstamp
  cases hfind'.symm.trans hfound
  rw [hlength] at hsize
  rw [List.length_eq_zero_iff.1 hsize, List.length_eq_zero_iff.1 hlength]

theorem isParallel_iff_finds_swappedRun : History .standard [swappedRun, firstRun] ∧
    ∃ analyzer, swappedRun.outcome.1 = .ok (analyzer, none) ∧
      (IsParallel swappedRun.settings swappedRun.linking analyzer.indices ↔
        ∀ past ∈ [firstRun], swappedRun.Finds past →
          swappedRun.entries past.index = swappedRun.entries swappedRun.index) := by
  obtain ⟨-, hinputs, -, -, htexts⟩ := swappedRun_facts
  obtain ⟨analyzer, hanalyzer, -⟩ := Option.map_eq_some_iff.1 htexts
  have hsuccess := Run.outcome_of_analyzer? hanalyzer
  refine ⟨history_swappedRun, analyzer, hsuccess, ?_⟩
  refine (History.isParallel_iff_finds rfl history_swappedRun ?_ isStamped_swappedRun hsuccess).1
  intro past hpast _ _ _
  rw [List.mem_singleton.1 hpast, hinputs]

/-- The fingerprint does not tell the order of statements. So the methods of the first run are taken
over, and stand beside the wrong statements. -/
theorem not_isParallel_swappedRun : History .standard [swappedRun, firstRun] ∧
    (∀ past ∈ [firstRun], ∀ path ∈ Repository.sources swappedRun.index,
      Repository.IsStamped past.linking swappedRun.linking path) ∧
    ∃ analyzer, swappedRun.outcome.1 = .ok (analyzer, none) ∧
      ¬ IsParallel swappedRun.settings swappedRun.linking analyzer.indices := by
  obtain ⟨-, -, -, -, htexts⟩ := swappedRun_facts
  obtain ⟨analyzer, hanalyzer, htexts⟩ := Option.map_eq_some_iff.1 htexts
  refine ⟨history_swappedRun, isStamped_swappedRun, analyzer, Run.outcome_of_analyzer? hanalyzer, ?_⟩
  intro hparallel
  have hsame : methodsOf analyzer.indices "T" =
      entriesOf swappedRun.settings swappedRun.linking analyzer.indices "T" := by
    rw [methodsOf, hparallel "T", entriesOf, TableIndex.statements]
    cases analyzer.indices.tables.lookup "T" <;> rfl
  rw [hsame] at htexts
  simp only [Prod.mk.injEq] at htexts
  exact absurd (htexts.1.symm.trans htexts.2) (by decide)

end

end Analyzer

end Ripple
