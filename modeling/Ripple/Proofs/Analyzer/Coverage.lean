-- SUMMARY: The proof that every spelling of an indexed table is answered after a preparation without snapshots.
import Ripple.Proofs.Analyzer.Session
import Ripple.Proofs.Impact.Finding
import Ripple.Proofs.Policy.Layers
import Ripple.Proofs.Table.Keys

/-!
# Every table of the index can be asked for

Where there are no snapshots, a preparation indexes tables under their normal names and maps all of
them. So a table is found by whatever spelling has its name as the normal form.
-/

namespace Ripple

theorem Disk.contentAt_congr {disk : Disk} {path path' : Path}
    (h : disk.wayTo path = disk.wayTo path') : disk.contentAt path = disk.contentAt path' := by
  simp only [contentAt, h]

/-- In an index without gaps a table has statements. -/
theorem TableIndex.IsSound.statements_ne_nil {index : TableIndex} (h : index.IsSound)
    {table : String} (htable : table ∈ index.tables) : index.statements table ≠ [] := by
  obtain ⟨⟨_, statements⟩, hentry, rfl⟩ := List.mem_map.1 htable
  unfold TableIndex.statements
  rw [lookup_of_mem h.distinct hentry]
  exact (h.filled _ hentry).2

/-- Every table of an index has its mapping. -/
theorem Repository.exists_mapping? (declared : Declared) {index : TableIndex}
    (h : index.IsDistinct) {table : String} (htable : table ∈ index.tables) :
    ∃ mapping : TableMapping, RepositoryMappings.mapping?
      ((mappingsOf declared (anchors index)).map .str) table = some (mapping.map .str) := by
  obtain ⟨⟨table, statements⟩, hentry, rfl⟩ := List.mem_map.1 htable
  have hmapped : (table, mappingOf declared table (statements.map anchorOf)) ∈
      mappingsOf declared (anchors index) :=
    List.mem_map.2 ⟨_, List.mem_map.2 ⟨_, hentry, rfl⟩, rfl⟩
  refine ⟨mappingOf declared table (statements.map anchorOf), ?_⟩
  rw [RepositoryMappings.mapping?_map_str,
    lookup_of_mem (isKeyed_mappingsOf declared h).distinct hmapped]
  rfl

namespace Analyzer

/-! ## Indices without snapshots -/

section
variable {analyzer analyzer' : Analyzer} {root : Path} {w w' : Workspace}

/-- After the tables are indexed there is no snapshot of mappings to use, if there was none before:
what the index leaves is of another kind. -/
theorem data?_of_build {modules : List BuildModule}
    (htables : w.files.contentAt analyzer.settings.tableIndexFile = none)
    (hmappings : w.files.contentAt analyzer.settings.repositoryMappingFile = none)
    {wanted : Json} {state : SnapshotState}
    (hstate : (Repository.snapshotFile analyzer.settings linkerJournal).state
      ((TableIndex.build analyzer.settings tableJournal modules).outcome w).2.files wanted =
        .ok state) : state.data? = none := by
  have htouch := TableIndex.build_leaves analyzer.settings tableJournal modules w
  generalize ((TableIndex.build analyzer.settings tableJournal modules).outcome w).2 = w₁
    at htouch hstate
  cases hdata : state.data? with
  | none => rfl
  | some data =>
    obtain ⟨bytes, hread⟩ := SnapshotFile.read_of_data? hstate hdata
    have hcontent : w₁.files.contentAt analyzer.settings.repositoryMappingFile = some bytes :=
      Disk.contentAt_of_read hread
    -- Settings may name one file for both snapshots.
    by_cases hplace : w.files.wayTo analyzer.settings.repositoryMappingFile =
      w.files.wayTo analyzer.settings.tableIndexFile
    · have hplace₁ : w₁.files.wayTo analyzer.settings.repositoryMappingFile =
          w₁.files.wayTo analyzer.settings.tableIndexFile := by
        rw [htouch.keeps.wayTo, htouch.keeps.wayTo, hplace]
      rw [Disk.contentAt_congr hplace₁] at hcontent
      obtain hbefore | ⟨fingerprint, hremnant⟩ := htouch.content bytes hcontent
      · cases htables.symm.trans hbefore
      · have hkind : (TableIndex.snapshotFile analyzer.settings tableJournal).kind ≠
            (Repository.snapshotFile analyzer.settings linkerJournal).kind := by
          simp [TableIndex.snapshotFile, Repository.snapshotFile]
        cases hdata.symm.trans (hremnant.data?_of_kind hkind hread hstate)
    · rw [htouch.contentAt hplace, hmappings] at hcontent
      cases hcontent

/-- Without snapshots a preparation makes an index of the mapper files and maps all its tables. -/
theorem indices_of_prepare (htables : w.files.contentAt analyzer.settings.tableIndexFile = none)
    (hmappings : w.files.contentAt analyzer.settings.repositoryMappingFile = none)
    (hprepare : (analyzer.prepare root).outcome w = (.ok (analyzer', none), w')) :
    analyzer'.ready = true ∧ analyzer'.policy = analyzer.policy ∧
      ∃ (index : TableIndex) (declared : Repository.Declared), index.IsSound ∧
        analyzer'.indices.tables = index.map .str ∧ analyzer'.indices.mappings =
          (Repository.mappingsOf declared (Repository.anchors index)).map .str := by
  obtain ⟨c, v, hturn, hin⟩ := prepare_eq_prepareIn analyzer root w
  rw [hprepare] at hin
  have hin : (analyzer', none) = analyzer.prepareIn root c :=
    Except.ok.inj (congrArg Prod.fst hin)
  obtain ⟨declared, ⟨modules, indices, hmakes, hdone⟩ | ⟨fault, hdone⟩⟩ :=
    prepareIn_cases analyzer root c
  · cases hin.trans hdone
    refine ⟨rfl, rfl, ?_⟩
    obtain ⟨sources, hstart, -⟩ := hmakes.calls
    rw [hturn.modules] at hstart
    -- Looking for modules changes no file, so the index is made where there are no snapshots.
    have hfiles : c.tables.files = w.files := by
      rw [hturn.tables]
      exact (start_files analyzer.settings root w).1
    rw [← hfiles] at htables hmappings
    obtain ⟨index, hsound, hindex⟩ :=
      TableIndex.build_of_absent htables (Prod.ext hmakes.tables rfl)
    obtain ⟨declared', hlink⟩ := hmakes.mappings
    rw [hturn.mappings hstart, hindex] at hlink
    refine ⟨index, declared', hsound, hindex, ?_⟩
    refine Repository.link_gives hsound.distinct ?_ (Prod.ext hlink rfl)
    exact fun wanted state hstate => data?_of_build htables hmappings hstate
  · cases hin.trans hdone

end

/-! ## Answers -/

section
variable {analyzer : Analyzer}

theorem checkFinding_eq_ok (haccess : ∀ type, ∃ b, analyzer.policy.isAccessTypeAny type = .ok b)
    (hbusiness : ∀ method, ∃ b, analyzer.policy.isBusinessMethodAny method = .ok b)
    (finding : Impact.Finding) : analyzer.checkFinding finding = .ok () := by
  have hchecked : EndsOnlyIn [] (analyzer.checkFinding finding) :=
    endsOnlyIn_checkFinding (fun type => .of_ok (haccess type))
      (fun method => .of_ok (hbusiness method)) finding
  obtain ⟨⟨⟩, hok⟩ := hchecked.exists_ok
  exact hok

/-- The answer about a table for which something is found. -/
theorem analyze_eq_ok_iff (hready : analyzer.ready = true) {table : String}
    {finding : Impact.Finding}
    (hfind : Impact.find analyzer.indices (TableName.normalize table) = .ok finding)
    {messages : List Message} {result : ImpactResult Json} :
    analyzer.analyze table = .ok (messages, result) ↔
      analyzer.checkFinding finding = .ok () ∧
      Impact.ofFinding analyzer.indices.calls analyzer.layers (TableName.normalize table) finding =
        result ∧
      result.impacts.all TableImpact.isKey = true ∧ resultMessages result finding = messages := by
  unfold analyze checkReady
  rw [if_pos hready]
  simp only [hfind, bind, Except.bind]
  cases analyzer.checkFinding finding with
  | error fault => simp
  | ok _ =>
    simp only [true_and]
    constructor
    · intro hresult
      split at hresult
      · rename_i hkeys
        cases hresult
        exact ⟨rfl, hkeys, rfl⟩
      · cases hresult
    · rintro ⟨rfl, hkeys, rfl⟩
      rw [if_pos hkeys]
      rfl

/-- A table that has statements of texts and a mapping of texts is known, whatever its spelling. -/
theorem analyze_known (hready : analyzer.ready = true) {index : TableIndex}
    (htables : analyzer.indices.tables = index.map .str) {query : String} {mapping : TableMapping}
    (hstatements : index.statements (TableName.normalize query) ≠ [])
    (hmapping : analyzer.indices.mappings.mapping? (TableName.normalize query) =
      some (mapping.map .str)) :
    (∀ messages result, analyzer.analyze query = .ok (messages, result) →
      result.table = TableName.normalize query ∧
        (∀ other, Impact.unknownWarning other ∉ result.warnings) ∧
        ∀ message ∈ messages, message.severity ≠ .warning) ∧
    ((∀ type, ∃ b, analyzer.policy.isAccessTypeAny type = .ok b) →
      (∀ method, ∃ b, analyzer.policy.isBusinessMethodAny method = .ok b) →
        ∃ messages result, analyzer.analyze query = .ok (messages, result)) := by
  have htexts : analyzer.indices.tables.statements (TableName.normalize query) =
      (index.statements (TableName.normalize query)).map (Statement.map .str) := by
    rw [htables, TableIndex.statements_map]
  have hfind := Impact.find_of_mapping (by simpa [htexts] using hstatements) hmapping
  constructor
  · intro messages result hanswer
    obtain ⟨-, rfl, -, rfl⟩ := (analyze_eq_ok_iff hready hfind).1 hanswer
    refine ⟨Impact.table_ofFinding _, Impact.unknownWarning_notMem (Impact.known_ne_unknown _), ?_⟩
    intro message hmessage
    unfold Impact.known at hmessage
    split at hmessage
    · cases hmessage
    · rw [List.mem_singleton.1 hmessage]
      nofun
  · intro haccess hbusiness
    refine ⟨_, _, (analyze_eq_ok_iff hready hfind).2
      ⟨checkFinding_eq_ok haccess hbusiness _, rfl, ?_, rfl⟩⟩
    unfold Impact.known
    split
    · rfl
    · rw [htexts]
      exact Impact.isKey_ofFinding

end

/-- Where there are no snapshots, the names of the tables of an index are in their normal form and
have nothing but characters of names. After a preparation a table is known by every spelling with
that normal form, and the query is answered where the policy can tell layers apart. -/
theorem indexed_tables_answered :
    (∀ (settings : Settings) (journal : String) (modules : List BuildModule) (w w' : Workspace)
        (found : TableIndex Json),
      w.files.contentAt settings.tableIndexFile = none →
      (TableIndex.build settings journal modules).outcome w = (.ok found, w') →
        ∀ table ∈ found.tables, Sql.IsTable table) ∧
    (∀ (analyzer analyzer' : Analyzer) (root : Path) (w w' : Workspace),
      w.files.contentAt analyzer.settings.tableIndexFile = none →
      w.files.contentAt analyzer.settings.repositoryMappingFile = none →
      (analyzer.prepare root).outcome w = (.ok (analyzer', none), w') →
        ∀ table ∈ analyzer'.indices.tables.tables, Sql.IsTable table ∧
          ∀ query, TableName.normalize query = table →
            (∀ messages result, analyzer'.analyze query = .ok (messages, result) →
              result.table = table ∧ (∀ other, Impact.unknownWarning other ∉ result.warnings) ∧
                ∀ message ∈ messages, message.severity ≠ .warning) ∧
            ((∀ type, ∃ b, analyzer.policy.isAccessTypeAny type = .ok b) →
              (∀ method, ∃ b, analyzer.policy.isBusinessMethodAny method = .ok b) →
                ∃ messages result, analyzer'.analyze query = .ok (messages, result))) := by
  have hkeys (index : TableIndex) (hsound : index.IsSound) (table : String)
      (htable : table ∈ (index.map Json.str).tables) :
      table ∈ index.tables ∧ Sql.IsTable table := by
    have htable : table ∈ index.tables := by
      simpa [TableIndex.tables, TableIndex.map] using htable
    obtain ⟨entry, hentry, rfl⟩ := List.mem_map.1 htable
    exact ⟨htable, (hsound.filled entry hentry).1⟩
  constructor
  · intro settings journal modules w w' found habsent hbuild table htable
    obtain ⟨index, hsound, rfl⟩ := TableIndex.build_of_absent habsent hbuild
    exact (hkeys index hsound table htable).2
  · intro analyzer analyzer' root w w' hnoTables hnoMappings hprepare table htable
    obtain ⟨hready, hpolicy, index, declared, hsound, htables, hmappings⟩ :=
      indices_of_prepare hnoTables hnoMappings hprepare
    rw [htables] at htable
    obtain ⟨hmem, hname⟩ := hkeys index hsound table htable
    refine ⟨hname, ?_⟩
    rintro query rfl
    obtain ⟨mapping, hmapping⟩ := Repository.exists_mapping? declared hsound.distinct hmem
    rw [← hmappings] at hmapping
    rw [← hpolicy]
    exact analyze_known hready htables (hsound.statements_ne_nil hmem) hmapping

/-- A statement that has its table in quotes, behind a schema, and with a letter that becomes
two. -/
def quotedStart : Workspace where
  files := {
    home := ["home"]
    tree := .folder [("home", .folder [("m", .folder [("src", .folder [("com", .folder [("A.xml",
      .file (Utf8.encode ("<mapper namespace=\"n\"><select id=\"a\">FROM shop.[straße] s</select>" ++
        "</mapper>").toList) 0)])])])])] }

/-- What becomes of the first preparation of an analyzer there, with the tables that it indexes. -/
def quotedOutcome : Except Fault (Analyzer × Option Fault) × Workspace :=
  (Session.untouched.prepare { names := ["m"] }).outcome quotedStart

theorem quotedOutcome_facts :
    quotedStart.files.contentAt Settings.standard.tableIndexFile = none ∧
    quotedStart.files.contentAt Settings.standard.repositoryMappingFile = none ∧
    quotedOutcome.1.toOption.map (fun prepared => (prepared.2, prepared.1.indices.tables.tables)) =
      some (none, ["STRASSE"]) := by
  decide +kernel

theorem indexed_tables_answered_quoted :
    ∃ analyzer w', quotedOutcome = (.ok (analyzer, none), w') ∧
      analyzer.indices.tables.tables = ["STRASSE"] ∧ Sql.IsTable "STRASSE" ∧
      TableName.normalize "db.\"Straße\"" = "STRASSE" ∧
      ∃ messages result, analyzer.analyze "db.\"Straße\"" = .ok (messages, result) ∧
        result.table = "STRASSE" ∧ Impact.unknownWarning "STRASSE" ∉ result.warnings := by
  obtain ⟨htables, hmappings, hprepared⟩ := quotedOutcome_facts
  rcases houtcome : quotedOutcome with ⟨prepared, w'⟩
  rw [houtcome] at hprepared
  obtain ⟨⟨analyzer, fault?⟩, hok, hfacts⟩ := Option.map_eq_some_iff.1 hprepared
  cases prepared with
  | error fault => cases hok
  | ok prepared =>
    cases hok
    obtain ⟨rfl, hkeys⟩ := Prod.mk.inj hfacts
    have hnormal : TableName.normalize "db.\"Straße\"" = "STRASSE" := by decide +kernel
    obtain ⟨hname, hquery⟩ := indexed_tables_answered.2 Session.untouched analyzer _ _ _ htables
      hmappings houtcome "STRASSE" (by simp [hkeys])
    obtain ⟨hsound, hcomplete⟩ := hquery _ hnormal
    obtain ⟨messages, result, hanswer⟩ := hcomplete
      (fun type => ⟨_, Policy.isAccessTypeAny_map_text _ type⟩)
      (fun method => ⟨_, Policy.isBusinessMethodAny_map_text _ method⟩)
    obtain ⟨htable, hknown, -⟩ := hsound messages result hanswer
    exact ⟨analyzer, w', rfl, hkeys, hname, hnormal, messages, result, hanswer, htable, hknown _⟩

end Analyzer

end Ripple
