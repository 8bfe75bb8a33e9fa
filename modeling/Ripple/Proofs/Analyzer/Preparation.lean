-- SUMMARY: What a preparation does, part by part, and which file each part may change.
import Ripple.Analyzer
import Ripple.Proofs.Call.Building
import Ripple.Proofs.Repository.Linking
import Ripple.Proofs.Table.Building

/-!
# What a preparation does

First the index of tables is built, then its statements are linked, and then the calls are indexed.
Each part changes a file of its own.
-/

namespace Ripple.Analyzer

theorem start_files (settings : Settings) (root : Path) (w : Workspace) :
    ((start settings root).outcome w).2.files = w.files ∧
      ((start settings root).outcome w).2.signal = w.signal := by
  simp only [start, scan, Work.outcome_bind, Work.outcome_log, Work.outcome_files,
    Work.outcome_report]
  cases (BuildModule.scan w.files settings scannerJournal root).2 with
  | error fault => exact ⟨rfl, rfl⟩
  | ok modules => exact ⟨rfl, rfl⟩

/-- The first part of a preparation: the index of tables. -/
def indexTables (settings : Settings) (root : Path) : Work (TableIndex Json) := do
  let (modules, _) ← start settings root
  TableIndex.build settings tableJournal modules

section
variable (analyzer : Analyzer) {modules : List BuildModule} {w w₁ w₂ : Workspace}

/-- After the index its statements are linked, if there is one. -/
theorem buildTables_spec (hnew : analyzer.declared = [])
    {result : Except Fault (TableIndex Json)}
    (hbuild : (TableIndex.build analyzer.settings tableJournal modules).outcome w = (result, w₁))
    {index : TableIndex} (hresult : ∀ found, result = .ok found → found = index.map .str)
    (hindex : index.IsDistinct)
    (hapart : ∀ path ∈ Repository.sources index,
      w₁.files.wayTo path ≠ w₁.files.wayTo analyzer.settings.repositoryMappingFile) :
    ∃ declared tables w', (analyzer.buildTables modules).outcome w = (.ok (declared, tables), w') ∧
      w₁.Touches analyzer.settings.repositoryMappingFile
        (Repository.IsLeft analyzer.settings linkerJournal w₁.files [] index) w' ∧
      ∀ found mappings, tables = .ok (found, mappings) → result = .ok found ∧
        ∃ fingerprint state, Repository.print w₁.files index = .ok fingerprint ∧
          (Repository.snapshotFile analyzer.settings linkerJournal).state w₁.files
            (.str fingerprint) = .ok state ∧
          (state.value? RepositoryMappings.ofJson = some mappings ∨
            state.value? RepositoryMappings.ofJson = none ∧
              mappings = (Repository.linked analyzer.settings w₁.files index).map .str) := by
  unfold buildTables
  rw [Work.outcome_bind_attempt hbuild]
  cases result with
  | error fault => exact ⟨_, _, _, rfl, .refl _ _ w₁, nofun⟩
  | ok found =>
    obtain rfl := hresult found rfl
    obtain ⟨declared, mappings?, w', hlink, htouch, hmappings⟩ :=
      Repository.link_spec analyzer.linker hindex hapart
    simp only [hnew]
    rw [Work.outcome_bind_ok hlink]
    refine ⟨_, _, _, rfl, htouch, ?_⟩
    intro found mappings htables
    cases mappings? with
    | error fault => cases htables
    | ok mappings' =>
      cases htables
      exact ⟨rfl, hmappings mappings rfl⟩

/-- Whatever became of the tables, the calls are indexed. -/
theorem build_of_buildTables {root : Path} {sources : List Path}
    (hstart : (start analyzer.settings root).outcome w = (.ok (modules, sources), w₁))
    {declared : Repository.Declared}
    {tables : Except Fault (TableIndex Json × RepositoryMappings Json)}
    (htables : (analyzer.buildTables modules).outcome w₁ = (.ok (declared, tables), w₂)) :
    ∃ built w', (analyzer.build root).outcome w = (.ok (declared, built), w') ∧
      w₂.Touches analyzer.settings.callSiteLogFile (fun _ => True) w' ∧
      ∀ found indices, built = .ok (found, indices) →
        tables = .ok (indices.tables, indices.mappings) := by
  rcases hcalls : (CallIndex.build analyzer.settings callJournal sources).outcome w₂ with
    ⟨calls, w₃⟩
  have htouch := CallIndex.build_touches analyzer.settings callJournal sources w₂
  rw [hcalls] at htouch
  unfold build
  rw [Work.outcome_bind_attempt hstart]
  simp only
  rw [Work.outcome_bind_ok htables]
  simp only
  rw [Work.outcome_bind_attempt hcalls]
  cases tables with
  | error fault =>
    cases fault with
    | cancelled => exact ⟨_, _, rfl, htouch.trans (.of_files rfl id), nofun⟩
    | _ => exact ⟨_, _, rfl, htouch, nofun⟩
  | ok found =>
    cases calls with
    | error fault =>
      cases fault with
      | cancelled => exact ⟨_, _, rfl, htouch.trans (.of_files rfl id), nofun⟩
      | _ => exact ⟨_, _, rfl, htouch, nofun⟩
    | ok calls =>
      refine ⟨_, _, rfl, htouch, fun modules' indices hindices => ?_⟩
      cases hindices
      rfl

/-- A preparation that succeeds takes the tables and their mappings over. -/
theorem prepare_of_buildTables {root : Path} {sources : List Path}
    (hstart : (start analyzer.settings root).outcome w = (.ok (modules, sources), w₁))
    {declared : Repository.Declared}
    {tables : Except Fault (TableIndex Json × RepositoryMappings Json)}
    (htables : (analyzer.buildTables modules).outcome w₁ = (.ok (declared, tables), w₂)) :
    ∃ analyzer' fault? w', (analyzer.prepare root).outcome w = (.ok (analyzer', fault?), w') ∧
      w₂.Touches analyzer.settings.callSiteLogFile (fun _ => True) w' ∧
      (fault? = none →
        tables = .ok (analyzer'.indices.tables, analyzer'.indices.mappings)) := by
  obtain ⟨built, w', hbuild, htouch, hbuilt⟩ := build_of_buildTables analyzer hstart htables
  unfold prepare
  rw [Work.outcome_bind_ok hbuild]
  cases built with
  | error fault => exact ⟨_, _, _, rfl, htouch, nofun⟩
  | ok built =>
    obtain ⟨found, indices⟩ := built
    exact ⟨_, _, _, rfl, htouch.trans (.of_files rfl id), fun _ => hbuilt found indices rfl⟩

/-- A preparation that does not find the modules changes nothing. -/
theorem prepare_of_start_error {root : Path} {fault : Fault}
    (hstart : (start analyzer.settings root).outcome w = (.error fault, w₁)) :
    ∃ analyzer', (analyzer.prepare root).outcome w = (.ok (analyzer', some fault), w₁) := by
  unfold prepare build
  rw [Work.outcome_bind, Work.outcome_bind_attempt hstart]
  exact ⟨_, rfl⟩

end

end Ripple.Analyzer
