-- SUMMARY: The table index of the mapper files, and what a build gives and leaves.
import Ripple.Table.Building
import Ripple.Proofs.Cache.Snapshot
import Ripple.Proofs.Files.Walk
import Ripple.Proofs.Table.Index
import Ripple.Proofs.Workers

/-!
# What building the index of tables gives

The index that the mapper files give is defined without snapshots. Building gives that index, or the
one in a usable snapshot; and it leaves no snapshot but beginnings of those that it wrote.
-/

namespace Ripple

namespace Mapper

/-- A statement has a name, or it would not be one. -/
theorem statementId_of_mem_statementsOfKind {path moduleName space kind : String}
    {fragments : Fragments} {root : Xml.Node} {s : Statement}
    (h : s ∈ statementsOfKind path moduleName space fragments root kind) : s.statementId ≠ "" := by
  obtain ⟨node, -, hnode⟩ := List.mem_filterMap.1 h
  unfold statement? at hnode
  split at hnode
  · cases hnode
  · rename_i hid
    cases hnode
    exact hid

theorem statementId_of_load {files : Disk} {includes : Bool} {path : Path} {moduleName : String}
    {messages : List Message} {statements : List Statement}
    (h : load files includes path moduleName = .ok (messages, statements)) {s : Statement}
    (hs : s ∈ statements) : s.statementId ≠ "" := by
  have hparsed : statements = [] ∨ ∃ root,
      statements? includes path.text moduleName root = some statements := by
    unfold load at h
    split at h
    · cases h
    · cases h
      exact .inl rfl
    · split at h
      · cases h
        exact .inl rfl
      · cases h
      · cases h
      · cases h
      · cases h
      · rename_i root _
        split at h
        · rename_i found hfound
          cases h
          exact .inr ⟨root, hfound⟩
        · cases h
          exact .inl rfl
  obtain rfl | ⟨root, hroot⟩ := hparsed
  · cases hs
  · unfold statements? at hroot
    split at hroot
    · cases hroot
    · cases hroot
      obtain ⟨kind, -, hs⟩ := List.mem_flatMap.1 hs
      exact statementId_of_mem_statementsOfKind hs

end Mapper

namespace TableIndex

/-! ## Mapper files -/

/-- Every mapper file was found by walking the files of a module. -/
theorem mem_filesBelow_of_locate {files : Disk} {settings : Settings} {modules : List BuildModule}
    {mappers : List LocatedMapper} (h : locate files settings modules = .ok mappers)
    {mapper : LocatedMapper} (hmapper : mapper ∈ mappers) :
    ∃ folder excluded pruned, mapper.1 ∈ files.filesBelow folder ".xml" excluded pruned := by
  unfold locate at h
  obtain ⟨found, hfound, hmappers⟩ := bind_eq_ok.1 h
  cases hmappers
  obtain ⟨located, hlocated, hmem⟩ := List.mem_flatten.1 hmapper
  obtain ⟨m, -, hm⟩ := exists_of_mem_mapM hfound hlocated
  obtain ⟨paths, hpaths, hreturn⟩ := bind_eq_ok.1 hm
  cases hreturn
  obtain ⟨path, hpath, rfl⟩ := List.mem_map.1 hmem
  unfold BuildModule.mapperFiles at hpaths
  exact ⟨_, _, _, (List.mem_filter.1 ((mem_filterM hpaths).1 hpath).1).1⟩

/-- A mapper file that was found can be read, unless its path is too long. -/
theorem read_of_locate {files : Disk} (hwf : files.tree.wellFormed = true) {settings : Settings}
    {modules : List BuildModule} {mappers : List LocatedMapper}
    (h : locate files settings modules = .ok mappers) {mapper : LocatedMapper}
    (hmapper : mapper ∈ mappers) :
    (∃ e, Disk.checkPath mapper.1 = .error e) ∨ ∃ content, files.read mapper.1 = .ok content := by
  obtain ⟨folder, excluded, pruned, hmem⟩ := mem_filesBelow_of_locate h hmapper
  exact Disk.read_of_mem_filesBelow hwf hmem

/-- What a mapper file gives depends on its content and on whether includes are resolved. -/
theorem readMapper_congr {settings settings' : Settings} {files files' : Disk}
    {mapper : LocatedMapper} (hincludes : settings'.resolveIncludes = settings.resolveIncludes)
    (hread : files'.read mapper.1 = files.read mapper.1) :
    readMapper settings' files' mapper = readMapper settings files mapper := by
  simp only [readMapper, Mapper.loadMentions, Mapper.load, hincludes, hread]

/-- The mapper files that are found. -/
def located (settings : Settings) (modules : List BuildModule) (files : Disk) :
    List LocatedMapper :=
  (locate files settings modules).toOption.getD []

theorem located_eq {settings : Settings} {modules : List BuildModule} {files : Disk}
    {mappers : List LocatedMapper} (h : locate files settings modules = .ok mappers) :
    located settings modules files = mappers := by
  simp [located, h, Except.toOption]

/-- The files of a build can be told apart from its snapshot, and their names are such as a file
system has. -/
structure IsSteady (settings : Settings) (modules : List BuildModule) (files : Disk) : Prop where
  wellFormed : files.tree.wellFormed = true
  apart : ∀ mapper ∈ located settings modules files,
    files.wayTo mapper.1 ≠ files.wayTo settings.tableIndexFile

instance (settings : Settings) (modules : List BuildModule) (files : Disk) :
    Decidable (IsSteady settings modules files) :=
  decidable_of_iff (files.tree.wellFormed = true ∧ ∀ mapper ∈ located settings modules files,
    files.wayTo mapper.1 ≠ files.wayTo settings.tableIndexFile)
    ⟨fun h => ⟨h.1, h.2⟩, fun h => ⟨h.1, h.2⟩⟩

/-- Writing the snapshot changes nothing about the mapper files. -/
theorem IsSteady.readMapper_eq {settings : Settings} {modules : List BuildModule} {w w' : Workspace}
    (h : IsSteady settings modules w.files) {mappers : List LocatedMapper}
    (hlocate : locate w.files settings modules = .ok mappers) {allowed : Bytes → Prop}
    (htouch : w.Touches settings.tableIndexFile allowed w') {mapper : LocatedMapper}
    (hmapper : mapper ∈ mappers) :
    readMapper settings w'.files mapper = readMapper settings w.files mapper := by
  apply readMapper_congr rfl
  obtain ⟨e, hcheck⟩ | ⟨content, hread⟩ := read_of_locate h.wellFormed hlocate hmapper
  · simp [Disk.read, Disk.find, Disk.resolve, hcheck, bind, Except.bind]
  · rw [hread, htouch.read (h.apart mapper (located_eq hlocate ▸ hmapper)) hread]

/-! ## The index without snapshots -/

/-- The index that mapper files give as the files stand. -/
def ofMappers (settings : Settings) (files : Disk) (mappers : List LocatedMapper) :
    Except Fault TableIndex := do
  let _ ← WorkPlan.choose settings.workers settings.executor mappers.length
  let found ← Workers.results (readMapper settings) files mappers
  return found.foldl (fun index mentions => mentions.foldl addMention index) []

theorem ofMappers_eq_ok {settings : Settings} {files : Disk} {mappers : List LocatedMapper}
    {index : TableIndex} :
    ofMappers settings files mappers = .ok index ↔
      (∃ plan, WorkPlan.choose settings.workers settings.executor mappers.length = .ok plan) ∧
      ∃ found, Workers.results (readMapper settings) files mappers = .ok found ∧
        index = found.foldl (fun index mentions => mentions.foldl addMention index) [] := by
  unfold ofMappers
  rw [bind_eq_ok]
  constructor
  · rintro ⟨plan, hplan, hrest⟩
    obtain ⟨found, hfound, hindex⟩ := bind_eq_ok.1 hrest
    cases hindex
    exact ⟨⟨plan, hplan⟩, found, hfound, rfl⟩
  · rintro ⟨⟨plan, hplan⟩, found, hfound, rfl⟩
    exact ⟨plan, hplan, bind_eq_ok.2 ⟨found, hfound, rfl⟩⟩

/-- The index depends on the plan of the work and on what the mapper files give. -/
theorem ofMappers_congr {settings settings' : Settings} {files files' : Disk}
    {mappers : List LocatedMapper} (hworkers : settings'.workers = settings.workers)
    (hexecutor : settings'.executor = settings.executor)
    (h : ∀ mapper ∈ mappers,
      readMapper settings' files' mapper = readMapper settings files mapper) :
    ofMappers settings' files' mappers = ofMappers settings files mappers := by
  have hresults : Workers.results (readMapper settings') files' mappers =
      Workers.results (readMapper settings) files mappers := by
    unfold Workers.results
    exact mapM_congr fun mapper hmapper => by rw [h mapper hmapper]
  unfold ofMappers
  rw [hworkers, hexecutor, hresults]

theorem IsDistinct.foldl_addMention {index : TableIndex} (h : index.IsDistinct)
    (mentions : List Mapper.Mentions) : (mentions.foldl TableIndex.addMention index).IsDistinct :=
  List.foldlRecOn mentions _ h fun _ hstart mention _ => hstart.addMention mention

theorem isDistinct_ofMappers {settings : Settings} {files : Disk} {mappers : List LocatedMapper}
    {index : TableIndex} (h : ofMappers settings files mappers = .ok index) :
    index.IsDistinct := by
  obtain ⟨-, found, -, rfl⟩ := ofMappers_eq_ok.1 h
  have hstart : IsDistinct [] := List.nodup_nil
  exact List.foldlRecOn found _ hstart fun _ hindex mentions _ => hindex.foldl_addMention mentions

/-- A mapper file gives statements that have names. -/
theorem statementId_of_readMapper {settings : Settings} {files : Disk} {mapper : LocatedMapper}
    {mentions : List Mapper.Mentions}
    (h : (readMapper settings files mapper).map (·.2) = .ok mentions) {mention : Mapper.Mentions}
    (hmention : mention ∈ mentions) : mention.1.statementId ≠ "" := by
  obtain ⟨⟨messages, found⟩, hread, rfl⟩ := map_eq_ok.1 h
  obtain ⟨⟨messages', statements⟩, hload, hfound⟩ := bind_eq_ok.1 hread
  cases hfound
  obtain ⟨s, hs, rfl⟩ := List.mem_map.1 hmention
  exact Mapper.statementId_of_load hload hs

theorem isNamed_ofMappers {settings : Settings} {files : Disk} {mappers : List LocatedMapper}
    {index : TableIndex} (h : ofMappers settings files mappers = .ok index) : index.IsNamed := by
  obtain ⟨-, found, hfound, rfl⟩ := ofMappers_eq_ok.1 h
  have hstart : IsNamed [] := fun entry hentry => by cases hentry
  refine List.foldlRecOn found _ hstart fun _ hindex mentions hmentions => ?_
  obtain ⟨mapper, -, hread⟩ := exists_of_mem_mapM hfound hmentions
  exact List.foldlRecOn mentions _ hindex fun _ hindex mention hmention =>
    hindex.addMention (statementId_of_readMapper hread hmention)

/-! ## Steps -/

section
variable (settings : Settings) (file : SnapshotFile) (fingerprint : String)
  (whole : Json → Prop)

/-- The progress after a mapper file, whatever becomes of the snapshot. -/
def Progress.next (settings : Settings) (progress : Progress) (mentions : List Mapper.Mentions) :
    Progress :=
  let progress := progress.add mentions
  if settings.tableIndexFlush ≤ (progress.index.length : Int) - progress.saved then
    { progress with saved := progress.index.length }
  else progress

theorem Progress.index_next (progress : Progress) (mentions : List Mapper.Mentions) :
    (progress.next settings mentions).index = mentions.foldl addMention progress.index := by
  unfold next
  dsimp only
  split <;> rfl

theorem Progress.index_foldl_next (progress : Progress) (found : List (List Mapper.Mentions)) :
    (found.foldl (Progress.next settings) progress).index =
      found.foldl (fun index mentions => mentions.foldl addMention index) progress.index := by
  induction found generalizing progress with
  | nil => rfl
  | cons mentions found ih => rw [List.foldl_cons, ih, Progress.index_next, List.foldl_cons]

/-- A step takes the statements of a mapper file over, and may leave an incomplete snapshot. -/
theorem Progress.step_spec (progress : Progress) (mentions : List Mapper.Mentions) (w : Workspace)
    (h : progress.index.IsDistinct) :
    (progress.next settings mentions).index.IsDistinct ∧
      ∃ w', (Progress.step settings file fingerprint progress mentions).outcome w =
        (.ok (progress.next settings mentions), w') ∧
        w.Touches file.path (file.IsRemnant fingerprint whole) w' := by
  have hnext : (progress.add mentions).index.IsDistinct := h.foldl_addMention mentions
  refine ⟨by rw [index_next]; exact hnext, ?_⟩
  unfold Progress.step Progress.next
  dsimp only
  split
  · obtain ⟨saved, w', hsave, htouch⟩ :=
      file.save_spec fingerprint (plain_json hnext) false nofun w
    rw [Work.outcome_bind_ok hsave]
    exact ⟨w', rfl, htouch⟩
  · exact ⟨w, rfl, .refl _ _ w⟩

/-- Indexing gives the index of the mapper files if it ends. It does so if it is not cancelled and
there is such an index. -/
theorem index_spec {mappers : List LocatedMapper} {w : Workspace}
    (hwhole : ∀ index, ofMappers settings w.files mappers = .ok index → whole index.json)
    (hsteady : ∀ w', w.Touches file.path (file.IsRemnant fingerprint whole) w' →
      ∀ mapper ∈ mappers,
        readMapper settings w'.files mapper = readMapper settings w.files mapper) :
    ∃ result w', (index settings file fingerprint mappers).outcome w = (result, w') ∧
      w.Touches file.path (file.IsRemnant fingerprint whole) w' ∧
      (∀ found, result = .ok found →
        ∃ index, ofMappers settings w.files mappers = .ok index ∧ found = index.map .str) ∧
      (w.signal = none → ∀ index, ofMappers settings w.files mappers = .ok index →
        result = .ok (index.map .str)) := by
  have hstep : ∀ mapper ∈ mappers, ∀ mentions,
      (readMapper settings w.files mapper).map (·.2) = .ok mentions → ∀ progress w, _ :=
    fun _ _ mentions _ progress => Progress.step_spec settings file fingerprint whole progress mentions
  have hstart : ({} : Progress).index.IsDistinct := List.nodup_nil
  obtain ⟨reached, fault?, w₁, hfold, hreached, htouch, hsound, hcomplete⟩ :=
    Workers.foldWith_spec hstep hsteady settings hstart
  unfold index
  rw [Work.outcome_bind_ok hfold]
  cases fault? with
  | some fault =>
    refine ⟨.error fault, w₁, rfl, htouch, (fun found h => by cases h), ?_⟩
    intro hsignal index hindex
    obtain ⟨hplan, found, hfound, -⟩ := ofMappers_eq_ok.1 hindex
    cases hcomplete hsignal hplan found hfound
  | none =>
    obtain ⟨hplan, found, hfound, rfl⟩ := hsound rfl
    have hindex := ofMappers_eq_ok.2 ⟨hplan, found, hfound, rfl⟩
    rw [Progress.index_foldl_next] at hreached
    obtain ⟨saved, w₂, hsave, htouch'⟩ :=
      file.save_spec fingerprint (plain_json hreached) true (fun _ => hwhole _ hindex) w₁
    rw [← Progress.index_foldl_next settings {}] at hsave hindex
    simp only
    rw [Work.outcome_bind_ok hsave]
    refine ⟨_, _, rfl, (htouch.trans htouch').trans (.of_files rfl id), ?_, ?_⟩
    · intro answer hanswer
      cases hanswer
      exact ⟨_, hindex, rfl⟩
    · intro _ index hindex'
      rw [hindex] at hindex'
      cases hindex'
      rfl

end

/-! ## Building -/

/-- The data of an index that there is. -/
def IsJsonOf (index? : Except Fault TableIndex) (data : Json) : Prop :=
  ∃ index, index? = .ok index ∧ data = index.json

section
variable (settings : Settings) (journal : String) (modules : List BuildModule)

/-- The bytes whose digest is the fingerprint. -/
def hashed (files : Disk) : Bytes :=
  Fingerprint.input files .content (notes settings.resolveIncludes (located settings modules files))
    ((located settings modules files).map (·.1))

/-- The index of the mapper files of modules, made without a snapshot. -/
def fresh (files : Disk) : Except Fault TableIndex := do
  let mappers ← locate files settings modules
  let _ ← (fingerprint files settings.resolveIncludes mappers).mapError FileError.fault
  ofMappers settings files mappers

variable {settings modules}

theorem fresh_eq_ok {files : Disk} {index : TableIndex}
    (h : fresh settings modules files = .ok index) :
    locate files settings modules = .ok (located settings modules files) ∧
      ofMappers settings files (located settings modules files) = .ok index := by
  obtain ⟨mappers, hlocate, hrest⟩ := bind_eq_ok.1 h
  obtain ⟨_, -, hindex⟩ := bind_eq_ok.1 hrest
  rw [located_eq hlocate]
  exact ⟨hlocate, hindex⟩

theorem digest_eq_of_fingerprint {files : Disk} {mappers : List LocatedMapper} {digest : String}
    (hlocate : locate files settings modules = .ok mappers)
    (h : fingerprint files settings.resolveIncludes mappers = .ok digest) :
    digest = Sha256.digest (hashed settings modules files) := by
  unfold fingerprint Fingerprint.digest at h
  unfold hashed
  rw [located_eq hlocate]
  split at h
  · cases h
  · exact (Except.ok.inj h).symm

/-- A build ends in a fault before it does anything, or it loads the index or makes it. -/
theorem build_cases (w : Workspace) :
    (∃ fault w', (build settings journal modules).outcome w = (.error fault, w') ∧
      w'.files = w.files ∧ w'.signal = w.signal ∧ fresh settings modules w.files = .error fault) ∨
    (∃ mappers w', (build settings journal modules).outcome w =
        (loadOrIndex settings (snapshotFile settings journal)
          (Sha256.digest (hashed settings modules w.files)) mappers).outcome w' ∧
      w'.files = w.files ∧ w'.signal = w.signal ∧
      locate w.files settings modules = .ok mappers ∧
      fresh settings modules w.files = ofMappers settings w.files mappers) := by
  cases hlocate : locate w.files settings modules with
  | error fault =>
    refine .inl ⟨fault, ?_⟩
    simp only [build, Work.outcome_bind, SnapshotFile.outcome_log, Work.outcome_files, hlocate,
      Work.outcome_ofExcept_error]
    exact ⟨_, rfl, rfl, rfl, by simp [fresh, hlocate, bind, Except.bind]⟩
  | ok mappers =>
    cases hprint : fingerprint w.files settings.resolveIncludes mappers with
    | error e =>
      refine .inl ⟨e.fault, ?_⟩
      simp only [build, Work.outcome_bind, SnapshotFile.outcome_log, Work.outcome_files, hlocate,
        Work.outcome_ofExcept_ok, Work.ofFiles, hprint, Except.mapError,
        Work.outcome_ofExcept_error]
      exact ⟨_, rfl, rfl, rfl, by simp [fresh, hlocate, hprint, bind, Except.bind, Except.mapError]⟩
    | ok digest =>
      have hdigest := digest_eq_of_fingerprint hlocate hprint
      refine .inr ⟨mappers, ?_⟩
      simp only [build, Work.outcome_bind, SnapshotFile.outcome_log, Work.outcome_files, hlocate,
        Work.outcome_ofExcept_ok, Work.ofFiles, hprint, Except.mapError, hdigest]
      exact ⟨_, rfl, rfl, rfl, trivial, by
        simp [fresh, hlocate, hprint, bind, Except.bind, Except.mapError]⟩

/-- Indexing gives the index that the mapper files gave before the snapshot was touched. Loading may
have deleted the snapshot, which is none of the mapper files. -/
theorem index_touched_spec {w w₁ : Workspace} (hsteady : IsSteady settings modules w.files)
    {mappers : List LocatedMapper} (hlocate : locate w.files settings modules = .ok mappers)
    {digest : String}
    (htouch : w.Touches settings.tableIndexFile ((snapshotFile settings journal).IsRemnant digest
      (IsJsonOf (ofMappers settings w.files mappers))) w₁) :
    ∃ result w',
      (index settings (snapshotFile settings journal) digest mappers).outcome w₁ = (result, w') ∧
      w.Touches settings.tableIndexFile ((snapshotFile settings journal).IsRemnant digest
        (IsJsonOf (ofMappers settings w.files mappers))) w' ∧
      (∀ found, result = .ok found →
        ∃ index, ofMappers settings w.files mappers = .ok index ∧ found = index.map .str) ∧
      (w.signal = none → ∀ index, ofMappers settings w.files mappers = .ok index →
        result = .ok (index.map .str)) := by
  have hsame : ofMappers settings w₁.files mappers = ofMappers settings w.files mappers :=
    ofMappers_congr rfl rfl fun mapper hmapper => hsteady.readMapper_eq hlocate htouch hmapper
  obtain ⟨result, w', hindex, htouch', hsound, hcomplete⟩ :=
    index_spec settings (snapshotFile settings journal) digest
      (IsJsonOf (ofMappers settings w.files mappers))
      (fun index hindex => ⟨index, hsame ▸ hindex, rfl⟩)
      fun w' htouch' mapper hmapper =>
        (hsteady.readMapper_eq hlocate (htouch.trans htouch') hmapper).trans
          (hsteady.readMapper_eq hlocate htouch hmapper).symm
  rw [hsame] at hsound hcomplete
  refine ⟨result, w', hindex, htouch.trans htouch', hsound, ?_⟩
  intro hsignal
  exact hcomplete (htouch.signal hsignal)

theorem loadCached_touches (file : SnapshotFile) (digest : String) {allowed : Bytes → Prop}
    (w : Workspace) : w.Touches file.path allowed ((loadCached file (.str digest)).outcome w).2 :=
  file.loadAs_touches _ _ _ _ w

/-- What is given is the index of the snapshot, if that is used, and else the one that the mapper
files give. -/
theorem loadOrIndex_spec {w : Workspace} (hsteady : IsSteady settings modules w.files)
    {mappers : List LocatedMapper} (hlocate : locate w.files settings modules = .ok mappers)
    (digest : String) :
    ∃ result w',
      (loadOrIndex settings (snapshotFile settings journal) digest mappers).outcome w =
        (result, w') ∧
      w.Touches settings.tableIndexFile ((snapshotFile settings journal).IsRemnant digest
        (IsJsonOf (ofMappers settings w.files mappers))) w' ∧
      (∀ found, result = .ok found →
        ∃ state, (snapshotFile settings journal).state w.files (.str digest) = .ok state ∧
          (state.value? ofJson = some found ∨ state.value? ofJson = none ∧
            ∃ index, ofMappers settings w.files mappers = .ok index ∧ found = index.map .str)) ∧
      (∀ state, (snapshotFile settings journal).state w.files (.str digest) = .ok state →
        state.value? ofJson = none → w.signal = none →
          ∀ index, ofMappers settings w.files mappers = .ok index →
            result = .ok (index.map .str)) := by
  have htouch : w.Touches settings.tableIndexFile
      ((snapshotFile settings journal).IsRemnant digest
        (IsJsonOf (ofMappers settings w.files mappers)))
      ((loadCached (snapshotFile settings journal) (.str digest)).outcome w).2 :=
    loadCached_touches (snapshotFile settings journal) digest w
  unfold loadOrIndex
  cases hstate : (snapshotFile settings journal).state w.files (.str digest) with
  | error fault =>
    have hload : (loadCached (snapshotFile settings journal) (.str digest)).outcome w =
        (.error fault, w) := SnapshotFile.outcome_loadAs_stuck _ _ _ _ hstate
    rw [Work.outcome_bind_error hload]
    exact ⟨.error fault, w, rfl, .refl _ _ w, nofun, nofun⟩
  | ok state =>
    obtain ⟨w₁, hload, -⟩ : ∃ w₁, (loadCached (snapshotFile settings journal)
        (.str digest)).outcome w = (.ok (state.value? ofJson), w₁) ∧ _ :=
      SnapshotFile.outcome_loadAs _ _ _ _ hstate
    rw [hload] at htouch
    rw [Work.outcome_bind_ok hload]
    cases hvalue : state.value? ofJson with
    | some found =>
      refine ⟨.ok found, w₁, rfl, htouch, ?_, ?_⟩
      · intro answer hanswer
        cases hanswer
        exact ⟨state, rfl, .inl hvalue⟩
      · intro _ hjudged hunused
        cases hjudged
        cases hvalue.symm.trans hunused
    | none =>
      obtain ⟨result, w₂, hindex, htouch, hsound, hcomplete⟩ :=
        index_touched_spec journal hsteady hlocate htouch
      refine ⟨result, w₂, hindex, htouch, ?_, fun _ _ _ => hcomplete⟩
      intro found hresult
      exact ⟨state, rfl, .inr ⟨hvalue, hsound found hresult⟩⟩

/-- What a build leaves and gives. -/
theorem build_spec {w : Workspace} (hsteady : IsSteady settings modules w.files) :
    ∃ result w', (build settings journal modules).outcome w = (result, w') ∧
      w.Touches settings.tableIndexFile ((snapshotFile settings journal).IsRemnant
        (Sha256.digest (hashed settings modules w.files))
        (IsJsonOf (fresh settings modules w.files))) w' ∧
      (∀ found, result = .ok found →
        (∃ mappers, locate w.files settings modules = .ok mappers ∧
          fresh settings modules w.files = ofMappers settings w.files mappers) ∧
        ∃ state, (snapshotFile settings journal).state w.files
            (.str (Sha256.digest (hashed settings modules w.files))) = .ok state ∧
          (state.value? ofJson = some found ∨ state.value? ofJson = none ∧
            ∃ index, fresh settings modules w.files = .ok index ∧ found = index.map .str)) ∧
      (∀ state, (snapshotFile settings journal).state w.files
          (.str (Sha256.digest (hashed settings modules w.files))) = .ok state →
        state.value? ofJson = none → w.signal = none →
          ∀ index, fresh settings modules w.files = .ok index →
            result = .ok (index.map .str)) := by
  obtain ⟨fault, w', hbuild, hfiles, hsignal, hfresh⟩ |
    ⟨mappers, w₁, hbuild, hfiles, hsignal, hlocate, hfresh⟩ := build_cases journal w
  · refine ⟨.error fault, w', hbuild, .of_files hfiles fun h => hsignal.trans h,
      (fun found h => by cases h), ?_⟩
    intro _ _ _ _ index hindex
    rw [hfresh] at hindex
    cases hindex
  · rw [← hfiles] at hsteady hlocate
    obtain ⟨result, w₂, hrest, htouch, hsound, hcomplete⟩ := loadOrIndex_spec journal hsteady
      hlocate (Sha256.digest (hashed settings modules w.files))
    rw [hfiles] at hlocate hsound hcomplete htouch
    rw [← hfresh] at hsound hcomplete htouch
    refine ⟨result, w₂, hbuild.trans hrest, ?_, ?_, ?_⟩
    · exact (Workspace.Touches.of_files hfiles fun h => hsignal.trans h).trans htouch
    · intro found hresult
      exact ⟨⟨mappers, hlocate, hfresh⟩, hsound found hresult⟩
    · intro state hstate hunused hnone
      exact hcomplete state hstate hunused (hsignal.trans hnone)

/-- A build that finds no snapshot of any use gives the index that there is. -/
theorem build_of_unused {w : Workspace} (hsteady : IsSteady settings modules w.files)
    {state : SnapshotState}
    (hstate : (snapshotFile settings journal).state w.files
      (.str (Sha256.digest (hashed settings modules w.files))) = .ok state)
    (hunused : state.value? ofJson = none) (hsignal : w.signal = none) {index : TableIndex}
    (hindex : fresh settings modules w.files = .ok index) :
    ((build settings journal modules).outcome w).1 = .ok (index.map .str) := by
  obtain ⟨result, w', hbuild, -, -, hcomplete⟩ := build_spec journal hsteady
  rw [hbuild]
  exact hcomplete state hstate hunused hsignal index hindex

/-- What may be left of the snapshots of builds, whatever their settings. -/
def IsLeft (file : SnapshotFile) (bytes : Bytes) : Prop :=
  ∃ settings modules files, file.IsRemnant (Sha256.digest (hashed settings modules files))
    (IsJsonOf (fresh settings modules files)) bytes

/-- Where there is nothing but what builds left, a build gives an index of texts. -/
theorem build_texts (hmode : settings.cacheValidation = .fingerprint) {w : Workspace}
    (hsteady : IsSteady settings modules w.files)
    (hleft : ∀ bytes, w.files.contentAt settings.tableIndexFile = some bytes →
      IsLeft (snapshotFile settings journal) bytes)
    {found : TableIndex Json} (hfound : ((build settings journal modules).outcome w).1 = .ok found) :
    ∃ index : TableIndex, index.IsDistinct ∧ index.IsNamed ∧ found = index.map .str := by
  have hfresh : ∃ settings modules files index,
      fresh settings modules files = .ok index ∧ found = index.map .str := by
    obtain ⟨result, w', hbuild, -, hsound, -⟩ := build_spec journal hsteady
    rw [hbuild] at hfound
    obtain ⟨-, state, hstate, hvalue | ⟨-, index, hindex, hmap⟩⟩ := hsound found hfound
    · obtain ⟨data, hdata, hjson⟩ := Option.bind_eq_some_iff.1 hvalue
      obtain ⟨bytes, hread⟩ := SnapshotFile.read_of_data? hstate hdata
      obtain ⟨settings', modules', files', hremnant⟩ := hleft bytes (Disk.contentAt_of_read hread)
      obtain ⟨⟨index, hindex, rfl⟩, -⟩ := hremnant.whole_of_used
        (by simp [snapshotFile, hmode]) hread hstate hdata
      rw [ofJson_json] at hjson
      cases hjson
      exact ⟨settings', modules', files', index, hindex, rfl⟩
    · exact ⟨settings, modules, w.files, index, hindex, hmap⟩
  obtain ⟨settings', modules', files', index, hindex, hmap⟩ := hfresh
  have hmappers := (fresh_eq_ok hindex).2
  exact ⟨index, isDistinct_ofMappers hmappers, isNamed_ofMappers hmappers, hmap⟩

end

end TableIndex

end Ripple
