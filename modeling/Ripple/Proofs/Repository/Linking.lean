-- SUMMARY: What linking gives and leaves, from snapshots and from source files.
import Ripple.Proofs.Cache.Snapshot
import Ripple.Proofs.Repository.Resolution
import Ripple.Proofs.Workers

/-!
# Linking statements to repository methods

Linking gives the mappings of a usable snapshot, or else those that the source files call for, as
far as they were not read before. It leaves no snapshot but beginnings of those that it wrote.
-/

namespace Ripple.Repository

/-! ## Reading source files -/

theorem keep_spec (journal : String) (place : Path) (allowed : Bytes → Prop) (declared : Declared)
    (found : Path × Option (List String)) (w : Workspace) :
    ∃ w', (keep journal declared found).outcome w =
        (.ok (putField found.1 found.2 declared), w') ∧ w.Touches place allowed w' := by
  unfold keep
  split
  · exact ⟨_, rfl, .of_files rfl id⟩
  · exact ⟨w, rfl, .refl place allowed w⟩

theorem unread_eq_ok {files : Disk} {known : Declared} {paths found : List Path} :
    unread files known paths = .ok found ↔
      ∃ present, paths.filterM files.isFileAt = .ok present ∧
        found = present.filter fun path => (known.lookup path).isNone := by
  unfold unread
  rw [bind_eq_ok]
  refine exists_congr fun present => and_congr_right fun _ => ?_
  exact ⟨fun h => (Except.ok.inj h).symm, fun h => congrArg Except.ok h.symm⟩

/-- The files to read are those that are there and of which nothing is known. -/
theorem mem_unread {files : Disk} {known : Declared} {paths found : List Path}
    (h : unread files known paths = .ok found) {path : Path} :
    path ∈ found ↔ (path ∈ paths ∧ ∃ content, files.read path = .ok content) ∧
      known.lookup path = none := by
  obtain ⟨present, hpresent, rfl⟩ := unread_eq_ok.1 h
  simp [mem_filterM hpresent, Disk.isFileAt_iff]

theorem readDeclared_eq_ok {settings : Settings} {files : Disk} {path key : Path}
    {messages : List Message} {names : Option (List String)}
    (h : readDeclared settings files path = .ok (messages, key, names)) : key = path := by
  obtain ⟨encoding, -, hrest⟩ := bind_eq_ok.1 h
  obtain ⟨⟨messages', names'⟩, -, hreturn⟩ := bind_eq_ok.1 hrest
  cases hreturn
  rfl

/-- What was read is found under its path. -/
theorem lookup_foldl_putField {settings : Settings} {files : Disk} {paths : List Path}
    {found : List (Path × Option (List String))}
    (h : Workers.results (readDeclared settings) files paths = .ok found) (start : Declared)
    (path : Path) :
    (found.foldl (fun declared entry => putField entry.1 entry.2 declared) start).lookup path =
      if path ∈ paths then some ((readDeclared settings files path).toOption.bind (·.2.2))
      else start.lookup path := by
  induction paths generalizing found start with
  | nil =>
    cases h
    rfl
  | cons first paths ih =>
    obtain ⟨entry, later, hentry, hlater, rfl⟩ := Workers.results_cons_eq_ok.1 h
    obtain ⟨⟨messages, key, names⟩, hread, rfl⟩ := map_eq_ok.1 hentry
    obtain rfl := readDeclared_eq_ok hread
    rw [List.foldl_cons, ih hlater]
    -- A path that comes again is read again, to the same result.
    by_cases hlater : path ∈ paths
    · simp [hlater]
    · by_cases hkey : path = key
      · simp [hkey, hread, Except.toOption]
      · simp [hlater, hkey, lookup_putField_of_ne hkey]

/-- Once the files are read, what is known of a file is what was known, and else what it
declares. -/
theorem lookup_of_unread {settings : Settings} {files : Disk} {known : Declared}
    {paths found : List Path} (h : unread files known paths = .ok found)
    {entries : List (Path × Option (List String))}
    (hentries : Workers.results (readDeclared settings) files found = .ok entries) {path : Path}
    (hpath : path ∈ paths) :
    (entries.foldl (fun declared entry => putField entry.1 entry.2 declared) known).lookup path =
      recalled? settings files known path := by
  rw [lookup_foldl_putField hentries]
  unfold recalled? declared?
  cases hknown : known.lookup path with
  | some names =>
    have hread : path ∉ found := by simp [mem_unread h, hknown]
    rw [if_neg hread]
    rfl
  | none =>
    cases hread : files.read path with
    | ok content =>
      rw [if_pos ((mem_unread h).2 ⟨⟨hpath, content, hread⟩, hknown⟩)]
      rfl
    | error e =>
      have hmissing : path ∉ found := by simp [mem_unread h, hread]
      rw [if_neg hmissing]
      rfl

/-- What was known stays, and what comes to it is what files declare. -/
structure Learns (settings : Settings) (files : Disk) (known declared : Declared) : Prop where
  kept {path : Path} {names : Option (List String)} :
    known.lookup path = some names → declared.lookup path = some names
  recalled {path : Path} {names : Option (List String)} :
    declared.lookup path = some names → recalled? settings files known path = some names

namespace Learns

variable {settings : Settings} {files : Disk} {known declared : Declared}

theorem refl (settings : Settings) (files : Disk) (known : Declared) :
    Learns settings files known known where
  kept h := h
  recalled h := by simp [recalled?, h]

/-- One more file of which nothing was known. -/
theorem put (h : Learns settings files known declared) {path : Path}
    {names : Option (List String)} (hknown : known.lookup path = none)
    (hnames : declared? settings files path = some names) :
    Learns settings files known (putField path names declared) where
  kept {other} _ hother := by
    have hne : other ≠ path := by
      rintro rfl
      cases hknown.symm.trans hother
    rw [lookup_putField_of_ne hne]
    exact h.kept hother
  recalled {other} _ hother := by
    by_cases hne : other = path
    · subst hne
      rw [lookup_putField_self] at hother
      cases hother
      simp [recalled?, hknown, hnames]
    · rw [lookup_putField_of_ne hne] at hother
      exact h.recalled hother

end Learns

theorem declared?_of_readDeclared {settings : Settings} {files : Disk} {path : Path}
    {content : Bytes} (hread : files.read path = .ok content)
    {entry : Path × Option (List String)}
    (h : (readDeclared settings files path).map (·.2) = .ok entry) :
    entry.1 = path ∧ declared? settings files path = some entry.2 := by
  obtain ⟨⟨messages, key, names⟩, hdeclared, rfl⟩ := map_eq_ok.1 h
  refine ⟨readDeclared_eq_ok hdeclared, ?_⟩
  simp [declared?, hread, hdeclared, Except.toOption]

/-! ## Mapping tables -/

section
variable (linker : Linker) (file : SnapshotFile) (fingerprint : String) (declared : Declared)

theorem mapTables_touches (whole : Json → Prop) (mappings : RepositoryMappings) (unsaved : Int)
    (tables : AnchoredTables) :
    (mapTables linker file fingerprint declared mappings unsaved tables).Touches file.path
      (file.IsRemnant fingerprint whole) := by
  induction tables generalizing mappings unsaved with
  | nil => exact .pure _
  | cons entry rest ih =>
    refine .bind .isCancelled fun cancelled => ?_
    split
    · exact .throw _
    · refine .bind (.ofExcept _) fun _ => ?_
      dsimp only
      split
      · exact .bind (file.save_leaves fingerprint (RepositoryMappings.plain_json _) false nofun)
          fun _ => ih _ 0
      · exact ih _ (unsaved + 1)

/-- Tables get their mappings in their order. -/
theorem mapTables_gives {mappings : RepositoryMappings} (unsaved : Int) {tables : AnchoredTables}
    (h : (List.map (·.1) mappings ++ List.map (·.1) tables).Nodup) :
    (mapTables linker file fingerprint declared mappings unsaved tables).Gives
      (· = mappings ++ mappingsOf declared tables) := by
  induction tables generalizing mappings unsaved with
  | nil => exact .pure (List.append_nil mappings).symm
  | cons entry rest ih =>
    obtain ⟨table, anchors⟩ := entry
    have hnew : table ∉ List.map (·.1) mappings := by
      rw [List.nodup_append] at h
      exact fun hmem => h.2.2 _ hmem _ (by simp) rfl
    have hnext : (List.map (·.1) (mappings ++ [(table, mappingOf declared table anchors)]) ++
        List.map (·.1) rest).Nodup := by
      simpa using h
    have hmappings : mappings ++ mappingsOf declared ((table, anchors) :: rest) =
        mappings ++ [(table, mappingOf declared table anchors)] ++ mappingsOf declared rest := by
      simp [mappingsOf]
    refine .of_bind fun cancelled => ?_
    split
    · exact .throw _
    · refine .of_bind fun _ => ?_
      dsimp only
      rw [putField_of_notMem _ hnew, hmappings]
      split
      · exact .of_bind fun _ => ih 0 hnext
      · exact ih (unsaved + 1) hnext

/-- All tables get their mappings, and the snapshot that is complete holds them all. -/
theorem mapIndex_spec {tables : AnchoredTables} (h : (List.map (·.1) tables).Nodup)
    (whole : Json → Prop) (hwhole : whole (mappingsOf declared tables).json) :
    (mapIndex linker file fingerprint declared tables).Touches file.path
        (file.IsRemnant fingerprint whole) ∧
      (mapIndex linker file fingerprint declared tables).Gives
        (· = (mappingsOf declared tables).map .str) := by
  have hnodup : (List.map (·.1) ([] : RepositoryMappings) ++ List.map (·.1) tables).Nodup := h
  have hgives := mapTables_gives linker file fingerprint declared 0 hnodup
  constructor
  · refine .bind_gives (mapTables_touches linker file fingerprint declared whole [] 0 tables) hgives
      fun mappings hmappings => ?_
    subst hmappings
    exact .bind (file.save_leaves fingerprint (RepositoryMappings.plain_json _) true
      fun _ => hwhole) fun _ => .bind file.log_touches fun _ => .pure _
  · exact .bind hgives fun mappings hmappings => .of_bind fun _ => .of_bind fun _ =>
      .pure (by rw [hmappings]; rfl)

variable {linker declared} in
/-- Where every statement can be mapped, all tables are, unless the work is cancelled. -/
theorem mapTables_returns {tables : AnchoredTables} (hcheck : ∀ entry ∈ tables,
      ∀ anchor ∈ entry.2, checkAnchor linker.policy declared anchor = .ok ())
    (mappings : RepositoryMappings) (unsaved : Int) {w : Workspace} (hsignal : w.signal = none) :
    ∃ found w', (mapTables linker file fingerprint declared mappings unsaved tables).outcome w =
      (.ok found, w') := by
  induction tables generalizing mappings unsaved w with
  | nil => exact ⟨mappings, w, rfl⟩
  | cons entry rest ih =>
    have hasked : Work.isCancelled.outcome w = (.ok false, w) := by
      rw [Work.outcome_isCancelled, hsignal]
    have hrest := ih fun entry hentry => hcheck entry (List.mem_cons_of_mem _ hentry)
    have hchecked : entry.2.forM (checkAnchor linker.policy declared) = .ok () :=
      forM_eq_ok.2 (hcheck entry List.mem_cons_self)
    rw [mapTables, Work.outcome_bind_ok hasked]
    simp only [Bool.false_eq_true, if_false, hchecked]
    rw [Work.outcome_bind_ok (Work.outcome_ofExcept_ok () w)]
    generalize putField entry.1 (mappingOf declared entry.1 entry.2) mappings = next
    split
    · obtain ⟨saved, w₁, hsave⟩ :=
        file.save_returns (RepositoryMappings.json next) (.str fingerprint) (.bool false) w
      have htouch :=
        file.save_touches (RepositoryMappings.json next) (.str fingerprint) (.bool false) w
      rw [hsave] at htouch
      rw [Work.outcome_bind_ok hsave]
      exact hrest _ 0 (htouch.signal hsignal)
    · exact hrest _ (unsaved + 1) hsignal

end

/-! ## Linking -/

theorem plan_touches (file : SnapshotFile) (declared : Declared) (index : TableIndex Json)
    {allowed : Bytes → Prop} : (plan file declared index).Touches file.path allowed := by
  refine .bind (.ofExcept _) fun tables => .bind .files fun files => ?_
  refine .bind (.ofExcept _) fun fingerprint => .bind (file.loadAs_touches _ _ _ _) fun found? => ?_
  cases found? with
  | some mappings => exact .pure _
  | none => exact .bind .files fun files => .bind (.ofExcept _) fun paths => .pure _

/-- What loading a snapshot may do to the files: they stay, or the snapshot is deleted. -/
def Discards (place : Path) (files files' : Disk) : Prop :=
  files' = files ∨ files.delete place = .ok files'

/-- A snapshot that can be judged is loaded. It is left, or deleted if it is not used. -/
theorem outcome_loadCached {file : SnapshotFile} {print : Json} {w : Workspace}
    {state : SnapshotState} (h : file.state w.files print = .ok state) :
    ∃ w', (loadCached file print).outcome w = (.ok (state.value? RepositoryMappings.ofJson), w') ∧
      Discards file.path w.files w'.files := by
  obtain ⟨w', hload, hdeleted, hkept⟩ := file.outcome_loadAs RepositoryMappings.ofJson _ _ h
  refine ⟨w', hload, ?_⟩
  cases hdiscarded : state.isDiscarded RepositoryMappings.ofJson with
  | false => exact .inl (hkept hdiscarded)
  | true => exact .inr (hdeleted hdiscarded)

/-- What is planned: the mappings of the snapshot, if that is used, or else to read the source files
that are there and were not read yet. -/
theorem plan_spec (file : SnapshotFile) (known : Declared) (index : TableIndex) (w : Workspace) :
    ∃ result w', (plan file known (index.map .str)).outcome w = (result, w') ∧
      Discards file.path w.files w'.files ∧
      (∀ answer, result = .ok answer → ∃ fingerprint state,
        print w.files index = .ok fingerprint ∧
        file.state w.files (.str fingerprint) = .ok state ∧
        match answer with
        | .cached mappings => state.value? RepositoryMappings.ofJson = some mappings
        | .read tables fingerprint' paths =>
          state.value? RepositoryMappings.ofJson = none ∧ tables = anchors index ∧
            fingerprint' = fingerprint ∧ unread w'.files known (sources index) = .ok paths) ∧
      (∀ fingerprint state, print w.files index = .ok fingerprint →
        file.state w.files (.str fingerprint) = .ok state →
        (∃ paths, unread w'.files known (sources index) = .ok paths) →
          ∃ answer, result = .ok answer) := by
  simp only [plan, anchored_map_str, fingerprint_map_str, Work.outcome_bind,
    Work.outcome_ofExcept_ok, Work.outcome_files]
  cases hprint : print w.files index with
  | error fault => exact ⟨_, _, rfl, .inl rfl, nofun, nofun⟩
  | ok fingerprint =>
    cases hstate : file.state w.files (.str fingerprint) with
    | error fault =>
      have hload : (loadCached file (.str fingerprint)).outcome w = (.error fault, w) :=
        file.outcome_loadAs_stuck _ _ _ hstate
      simp only [Work.outcome_ofExcept_ok, hload]
      refine ⟨_, _, rfl, .inl rfl, nofun, ?_⟩
      intro _ _ hprint' hjudged
      cases hprint'
      cases hstate.symm.trans hjudged
    | ok state =>
      obtain ⟨w₁, hload, hfiles⟩ := outcome_loadCached hstate
      simp only [Work.outcome_ofExcept_ok, hload]
      cases hvalue : state.value? RepositoryMappings.ofJson with
      | some mappings =>
        refine ⟨_, _, rfl, hfiles, fun answer hanswer => ?_, fun _ _ _ _ _ => ⟨_, rfl⟩⟩
        cases hanswer
        exact ⟨fingerprint, state, rfl, hstate, hvalue⟩
      | none =>
        simp only [Work.outcome_bind, Work.outcome_files, Work.ofFiles]
        cases hunread : unread w₁.files known (candidates (anchors index)) with
        | error e =>
          refine ⟨_, _, rfl, hfiles, nofun, ?_⟩
          rintro - - - - ⟨paths, hpaths⟩
          cases hunread.symm.trans hpaths
        | ok paths =>
          refine ⟨_, _, rfl, hfiles, fun answer hanswer => ?_, fun _ _ _ _ _ => ⟨_, rfl⟩⟩
          cases hanswer
          exact ⟨fingerprint, state, rfl, hstate, hvalue, rfl, rfl, hunread⟩

/-- What a linking does: it makes a plan, and gives up, takes the mappings of the snapshot, or reads
source files and maps tables. -/
theorem link_cases (linker : Linker) (known : Declared) (index : TableIndex Json) (w : Workspace) :
    ∃ w₀ answer w₁, w₀.files = w.files ∧ w₀.signal = w.signal ∧
      (plan (snapshotFile linker.settings linker.journal) known index).outcome w₀ = (answer, w₁) ∧
      ((∃ fault, answer = .error fault ∧
        (link linker known index).outcome w = (.ok (known, .error fault), w₁)) ∨
      (∃ mappings, answer = .ok (.cached mappings) ∧
        (link linker known index).outcome w = (.ok (known, .ok mappings), w₁)) ∨
      ∃ tables fingerprint paths, answer = .ok (.read tables fingerprint paths) ∧
        (link linker known index).outcome w =
          (readAndMap linker (snapshotFile linker.settings linker.journal) known tables fingerprint
            paths).outcome w₁) := by
  generalize hfile : snapshotFile linker.settings linker.journal = file
  -- The first message changes no file.
  obtain ⟨w₀, hstart, hfiles, hsignal⟩ : ∃ w₀, (file.log .info
      "--- Linking mapper statements to repository methods ---").outcome w = (.ok (), w₀) ∧
      w₀.files = w.files ∧ w₀.signal = w.signal := ⟨_, file.outcome_log _ _ w, rfl, rfl⟩
  rcases hplan : (plan file known index).outcome w₀ with ⟨answer, w₁⟩
  refine ⟨w₀, answer, w₁, hfiles, hsignal, hplan, ?_⟩
  simp only [link, hfile]
  rw [Work.outcome_bind_ok hstart, Work.outcome_bind_attempt hplan]
  cases answer with
  | error fault => exact .inl ⟨fault, rfl, rfl⟩
  | ok answer =>
    cases answer with
    | cached mappings => exact .inr (.inl ⟨mappings, rfl, rfl⟩)
    | read tables fingerprint paths => exact .inr (.inr ⟨tables, fingerprint, paths, rfl, rfl⟩)

/-- What may be left of the snapshots of a linking. -/
def IsLeft (settings : Settings) (journal : String) (files : Disk) (known : Declared)
    (index : TableIndex) (bytes : Bytes) : Prop :=
  ∃ fingerprint, print files index = .ok fingerprint ∧
    (snapshotFile settings journal).IsRemnant fingerprint
      (· = (relinked settings files known index).json) bytes

/-- The source files that are not known yet can be looked for and read. -/
def IsReadable (linker : Linker) (files : Disk) (known : Declared) (index : TableIndex) : Prop :=
  ∃ paths, unread files known (sources index) = .ok paths ∧
    (∃ plan, WorkPlan.choose linker.settings.workers linker.settings.executor paths.length =
      .ok plan) ∧
    ∃ found, Workers.results (readDeclared linker.settings) files paths = .ok found

section
variable {linker : Linker} {index : TableIndex} {known : Declared} {w w₁ : Workspace}

/-- The snapshot does not lie at the place of a source file. -/
def IsApart (linker : Linker) (index : TableIndex) (files : Disk) : Prop :=
  ∀ path ∈ sources index, files.wayTo path ≠ files.wayTo linker.settings.repositoryMappingFile

theorem read_of_discards {files files' : Disk} (hapart : IsApart linker index files)
    (hfiles : Discards linker.settings.repositoryMappingFile files files') {path : Path}
    (hpath : path ∈ sources index) {content : Bytes} :
    files'.read path = .ok content ↔ files.read path = .ok content := by
  obtain rfl | hdelete := hfiles
  · rfl
  · exact Disk.read_delete hdelete (hapart path hpath)

theorem declared?_of_discards {files files' : Disk} (hapart : IsApart linker index files)
    (hfiles : Discards linker.settings.repositoryMappingFile files files') {path : Path}
    (hpath : path ∈ sources index) :
    declared? linker.settings files' path = declared? linker.settings files path :=
  declared?_congr rfl fun _ => read_of_discards hapart hfiles hpath

theorem Discards.keeps {place : Path} {files files' : Disk} (h : Discards place files files') :
    files.KeepsBut [files.wayTo place] files' := by
  obtain rfl | hdelete := h
  · exact .refl _ _
  · exact Disk.keepsBut_delete hdelete

theorem IsApart.discards {files files' : Disk} (h : IsApart linker index files)
    (hfiles : Discards linker.settings.repositoryMappingFile files files') :
    IsApart linker index files' := by
  intro path hpath
  rw [hfiles.keeps.wayTo, hfiles.keeps.wayTo]
  exact h path hpath

/-- What can be read without a snapshot, and with nothing known, can be read at any time. -/
theorem IsReadable.of_discards {files files' : Disk} (hapart : IsApart linker index files)
    (hfiles : Discards linker.settings.repositoryMappingFile files files')
    (h : IsReadable linker files' [] index) (known : Declared) :
    IsReadable linker files known index := by
  obtain ⟨paths, hpaths, ⟨plan, hplan⟩, hresults⟩ := h
  have hread {path : Path} (hpath : path ∈ sources index) {content : Bytes} :
      files'.read path = .ok content ↔ files.read path = .ok content :=
    read_of_discards hapart hfiles hpath
  obtain ⟨present, hpresent, hkept⟩ := unread_eq_ok.1 hpaths
  have hall : present.filter (fun path => (([] : Declared).lookup path).isNone) = present :=
    List.filter_eq_self.2 fun _ _ => rfl
  rw [hall] at hkept
  subst hkept
  -- The same source files are there.
  have hpresent' : (sources index).filterM files.isFileAt = .ok paths := by
    obtain ⟨hasked, hpaths⟩ := filterM_eq_ok.1 hpresent
    refine filterM_eq_ok.2 ⟨fun path hpath => hfiles.keeps.exists_isFileAt (hasked path hpath), ?_⟩
    rw [hpaths]
    refine List.filter_congr fun path hpath => ?_
    have hfile : files'.isFileAt path = .ok true ↔ files.isFileAt path = .ok true := by
      rw [Disk.isFileAt_iff, Disk.isFileAt_iff]
      exact exists_congr fun content => hread hpath
    obtain ⟨b, hb⟩ := hasked path hpath
    obtain ⟨b', hb'⟩ := hfiles.keeps.exists_isFileAt ⟨b, hb⟩
    rw [hb, hb'] at hfile ⊢
    cases b <;> cases b' <;> simp_all [Except.toOption]
  refine ⟨_, unread_eq_ok.2 ⟨paths, hpresent', rfl⟩,
    Workers.choose_of_le hplan (List.length_filter_le _ _), ?_⟩
  refine exists_mapM_iff.2 fun path hpath => ?_
  obtain ⟨hpath, -⟩ := List.mem_filter.1 hpath
  obtain ⟨⟨hsource, content, hcontent⟩, -⟩ := (mem_unread hpaths).1 hpath
  have hsame : readDeclared linker.settings files path = readDeclared linker.settings files' path :=
    readDeclared_congr rfl (((hread hsource).1 hcontent).trans hcontent.symm)
  rw [hsame]
  exact exists_mapM_iff.1 hresults path hpath

theorem checkAnchor_anchorOf (hpolicy : ∀ type, ∃ b, linker.policy.isAccessTypeAny type = .ok b)
    (declared : Declared) (s : Statement) :
    checkAnchor linker.policy declared (anchorOf s) = .ok () := by
  unfold checkAnchor
  cases declared.lookup (anchorOf s).file with
  | none => rfl
  | some names =>
    obtain ⟨b, hb⟩ := hpolicy (anchorOf s).file.stem
    simp only [hb, bind, Except.bind]
    rfl

/-- All tables are mapped where the policy knows every layer, unless the work is cancelled. -/
theorem mapIndex_returns (hpolicy : ∀ type, ∃ b, linker.policy.isAccessTypeAny type = .ok b)
    (index : TableIndex) (file : SnapshotFile) (fingerprint : String) (declared : Declared)
    (hsignal : w.signal = none) :
    ∃ found w', (mapIndex linker file fingerprint declared (anchors index)).outcome w =
      (.ok found, w') := by
  have hcheck : ∀ entry ∈ anchors index, ∀ anchor ∈ entry.2,
      checkAnchor linker.policy declared anchor = .ok () := by
    intro entry hentry anchor hanchor
    obtain ⟨⟨table, statements⟩, -, rfl⟩ := List.mem_map.1 hentry
    obtain ⟨s, -, rfl⟩ := List.mem_map.1 hanchor
    exact checkAnchor_anchorOf hpolicy declared s
  obtain ⟨mappings, w₁, hmappings⟩ := mapTables_returns file fingerprint hcheck [] 0 hsignal
  obtain ⟨saved, w₂, hsave⟩ := file.save_returns mappings.json (.str fingerprint) (.bool true) w₁
  unfold mapIndex
  rw [Work.outcome_bind_ok hmappings, Work.outcome_bind_ok hsave]
  exact ⟨_, _, rfl⟩

theorem nodup_anchors (hindex : index.IsDistinct) : (List.map (·.1) (anchors index)).Nodup := by
  simpa [anchors, Function.comp_def, TableIndex.IsDistinct, TableIndex.tables] using hindex

section
variable {paths : List Path} (hapart : IsApart linker index w.files)
  (hfiles : Discards linker.settings.repositoryMappingFile w.files w₁.files)
  (hunread : unread w₁.files known (sources index) = .ok paths)
include hapart hfiles hunread

/-- What a file declares that is to be read is not known yet, so it comes to what is known. -/
theorem Learns.put_read {path : Path} (hpath : path ∈ paths) {entry : Path × Option (List String)}
    (hentry : (readDeclared linker.settings w₁.files path).map (·.2) = .ok entry)
    {declared : Declared} (hlearns : Learns linker.settings w.files known declared) :
    Learns linker.settings w.files known (putField entry.1 entry.2 declared) := by
  obtain ⟨⟨hsource, content, hcontent⟩, hknown⟩ := (mem_unread hunread).1 hpath
  obtain ⟨rfl, hdeclared⟩ := declared?_of_readDeclared hcontent hentry
  rw [declared?_of_discards hapart hfiles hsource] at hdeclared
  exact hlearns.put hknown hdeclared

/-- Workers see the files that are there when they are asked, but no source file changes. -/
theorem readDeclared_of_touches {allowed : Bytes → Prop} {v : Workspace}
    (htouch : w₁.Touches linker.settings.repositoryMappingFile allowed v) {path : Path}
    (hpath : path ∈ paths) :
    readDeclared linker.settings v.files path = readDeclared linker.settings w₁.files path := by
  obtain ⟨⟨hsource, content, hcontent⟩, -⟩ := (mem_unread hunread).1 hpath
  have hway := hapart.discards hfiles path hsource
  exact readDeclared_congr rfl ((htouch.read hway hcontent).trans hcontent.symm)

/-- All that mappings look up is what is known of the source files of their statements. -/
theorem mappingsOf_read {found : List (Path × Option (List String))}
    (hfound : Workers.results (readDeclared linker.settings) w₁.files paths = .ok found) :
    mappingsOf (found.foldl (fun declared entry => putField entry.1 entry.2 declared) known)
      (anchors index) = relinked linker.settings w.files known index := by
  refine mappingsOf_congr fun entry hentry anchor hanchor => ?_
  have hsource := file_mem_sources hentry hanchor
  rw [lookup_of_unread hunread hfound hsource, lookup_recalledIn, if_pos hsource, recalled?,
    recalled?, declared?_of_discards hapart hfiles hsource]

/-- Source files are read and tables mapped. This succeeds where the source files can be read and
the policy knows every layer, unless the work is cancelled. -/
theorem readAndMap_spec (hindex : index.IsDistinct) {fingerprint : String}
    (hprint : print w.files index = .ok fingerprint) :
    ∃ declared result w', (readAndMap linker (snapshotFile linker.settings linker.journal) known
        (anchors index) fingerprint paths).outcome w₁ = (.ok (declared, result), w') ∧
      w₁.Touches linker.settings.repositoryMappingFile
        (IsLeft linker.settings linker.journal w.files known index) w' ∧
      Learns linker.settings w.files known declared ∧
      (∀ mappings, result = .ok mappings →
        mappings = (relinked linker.settings w.files known index).map .str ∧
          IsReadable linker w₁.files known index) ∧
      (w₁.signal = none → (∀ type, ∃ b, linker.policy.isAccessTypeAny type = .ok b) →
        IsReadable linker w₁.files known index → ∃ mappings, result = .ok mappings) := by
  obtain ⟨declared, fault?, w₂, hfold, hlearns, htouch, hsound, hcomplete⟩ :=
    Workers.foldWith_spec
      (fun path hpath entry hentry declared v hlearns =>
        ⟨Learns.put_read hapart hfiles hunread hpath hentry hlearns,
          keep_spec linker.journal linker.settings.repositoryMappingFile
            (IsLeft linker.settings linker.journal w.files known index) declared entry v⟩)
      (fun v htouch path hpath => readDeclared_of_touches hapart hfiles hunread htouch hpath)
      linker.settings (.refl linker.settings w.files known)
  unfold readAndMap
  rw [Work.outcome_bind_ok hfold]
  cases fault? with
  | some fault =>
    refine ⟨_, _, _, rfl, htouch, hlearns, nofun, ?_⟩
    rintro hsignal - ⟨paths', hpaths, hplan, found, hfound⟩
    cases hunread.symm.trans hpaths
    cases hcomplete hsignal hplan found hfound
  | none =>
    obtain ⟨hplan, found, hfound, rfl⟩ := hsound rfl
    have hmappings := mappingsOf_read hapart hfiles hunread hfound
    generalize found.foldl (fun declared entry => putField entry.1 entry.2 declared) known =
      declared at hlearns hmappings
    obtain ⟨htouches, hgives⟩ := mapIndex_spec linker
      (snapshotFile linker.settings linker.journal) fingerprint declared (nodup_anchors hindex)
      (fun data => data = (relinked linker.settings w.files known index).json) (by rw [hmappings])
    rcases hmap : (mapIndex linker (snapshotFile linker.settings linker.journal) fingerprint
      declared (anchors index)).outcome w₂ with ⟨result, w₃⟩
    have htouch' := htouches w₂
    rw [hmap] at htouch'
    simp only
    rw [Work.outcome_bind_attempt hmap]
    refine ⟨_, _, _, rfl, htouch.trans (htouch'.mono fun bytes hbytes => ?_), hlearns, ?_, ?_⟩
    · exact ⟨fingerprint, hprint, hbytes⟩
    · rintro mappings rfl
      rw [hgives w₂ mappings w₃ hmap, hmappings]
      exact ⟨rfl, paths, hunread, hplan, found, hfound⟩
    · intro hsignal hpolicy _
      obtain ⟨mappings, w₄, hreturns⟩ := mapIndex_returns hpolicy index
        (snapshotFile linker.settings linker.journal) fingerprint declared (htouch.signal hsignal)
      rw [hmap] at hreturns
      exact ⟨mappings, congrArg Prod.fst hreturns⟩

end

/-- What comes of a linking. Its mappings are those of the snapshot, if that is used, and else those
of the index. There are some where the snapshot can be judged, the source files can be read and the
policy knows every layer, unless the work is cancelled. -/
structure Links (linker : Linker) (index : TableIndex) (known : Declared) (w : Workspace)
    (declared : Declared) (result : Except Fault (RepositoryMappings Json)) (w' : Workspace) :
    Prop where
  touches : w.Touches linker.settings.repositoryMappingFile
    (IsLeft linker.settings linker.journal w.files known index) w'
  learns : Learns linker.settings w.files known declared
  sound (mappings : RepositoryMappings Json) (h : result = .ok mappings) : ∃ fingerprint state,
    print w.files index = .ok fingerprint ∧
    (snapshotFile linker.settings linker.journal).state w.files (.str fingerprint) = .ok state ∧
    (state.value? RepositoryMappings.ofJson = some mappings ∨
      state.value? RepositoryMappings.ofJson = none ∧
        mappings = (relinked linker.settings w.files known index).map .str ∧
        ∃ files, Discards linker.settings.repositoryMappingFile w.files files ∧
          IsReadable linker files known index)
  complete (hsignal : w.signal = none)
    (hpolicy : ∀ type, ∃ b, linker.policy.isAccessTypeAny type = .ok b) {fingerprint : String}
    (hprint : print w.files index = .ok fingerprint) {state : SnapshotState}
    (hstate : (snapshotFile linker.settings linker.journal).state w.files (.str fingerprint) =
      .ok state)
    (hreadable : ∀ files, Discards linker.settings.repositoryMappingFile w.files files →
      IsReadable linker files known index) : ∃ mappings, result = .ok mappings

theorem link_links (known : Declared) (hindex : index.IsDistinct)
    (hapart : IsApart linker index w.files) :
    ∃ declared result w', (link linker known (index.map .str)).outcome w =
        (.ok (declared, result), w') ∧ Links linker index known w declared result w' := by
  obtain ⟨w₀, answer, w₁, hfiles₀, hsignal₀, hplan, hlink⟩ :=
    link_cases linker known (index.map .str) w
  obtain ⟨answer', w₁', hplan', hfiles₁, hanswer, hreturns⟩ :=
    plan_spec (snapshotFile linker.settings linker.journal) known index w₀
  cases hplan.symm.trans hplan'
  have htouch₀ : w.Touches linker.settings.repositoryMappingFile
      (IsLeft linker.settings linker.journal w.files known index) w₀ :=
    .of_files hfiles₀ fun h => hsignal₀.trans h
  have htouch₁ := htouch₀.trans
    (plan_touches (snapshotFile linker.settings linker.journal) known (index.map .str) w₀)
  rw [hplan] at htouch₁
  rw [hfiles₀] at hfiles₁ hanswer hreturns
  obtain ⟨fault, rfl, hlink⟩ | ⟨mappings, rfl, hlink⟩ |
    ⟨tables, fingerprint', paths, rfl, hlink⟩ := hlink
  · refine ⟨_, _, _, hlink, htouch₁, .refl _ _ _, nofun, ?_⟩
    intro _ _ fingerprint hprint state hstate hreadable
    obtain ⟨paths, hpaths, -⟩ := hreadable _ hfiles₁
    obtain ⟨answer, hanswer⟩ := hreturns fingerprint state hprint hstate ⟨paths, hpaths⟩
    cases hanswer
  · obtain ⟨fingerprint, state, hprint, hstate, hused⟩ := hanswer _ rfl
    refine ⟨_, _, _, hlink, htouch₁, .refl _ _ _, fun found hfound => ?_,
      fun _ _ _ _ _ _ _ => ⟨mappings, rfl⟩⟩
    cases hfound
    exact ⟨fingerprint, state, hprint, hstate, .inl hused⟩
  · obtain ⟨_, state, hprint, hstate, hunused, rfl, rfl, hunread⟩ := hanswer _ rfl
    obtain ⟨declared, result, w₂, hread, htouch₂, hlearns, hsound, hcomplete⟩ :=
      readAndMap_spec hapart hfiles₁ hunread hindex hprint
    refine ⟨declared, result, w₂, hlink.trans hread, htouch₁.trans htouch₂, hlearns, ?_, ?_⟩
    · intro mappings hmappings
      obtain ⟨hmade, hreadable⟩ := hsound mappings hmappings
      exact ⟨fingerprint', state, hprint, hstate,
        .inr ⟨hunused, hmade, w₁.files, hfiles₁, hreadable⟩⟩
    · intro hsignal hpolicy _ _ _ _ hreadable
      exact hcomplete (htouch₁.signal hsignal) hpolicy (hreadable _ hfiles₁)

/-- The first linking gives the mappings of the snapshot, if that is used, and else those of the
index. -/
theorem link_spec (linker : Linker) (hindex : index.IsDistinct)
    (hapart : ∀ path ∈ sources index,
      w.files.wayTo path ≠ w.files.wayTo linker.settings.repositoryMappingFile) :
    ∃ declared result w', (link linker [] (index.map .str)).outcome w =
        (.ok (declared, result), w') ∧
      w.Touches linker.settings.repositoryMappingFile
        (IsLeft linker.settings linker.journal w.files [] index) w' ∧
      ∀ mappings, result = .ok mappings → ∃ fingerprint state,
        print w.files index = .ok fingerprint ∧
        (snapshotFile linker.settings linker.journal).state w.files (.str fingerprint) =
          .ok state ∧
        (state.value? RepositoryMappings.ofJson = some mappings ∨
          state.value? RepositoryMappings.ofJson = none ∧
            mappings = (linked linker.settings w.files index).map .str) := by
  obtain ⟨declared, result, w', hlink, hlinks⟩ := link_links [] hindex hapart
  refine ⟨declared, result, w', hlink, hlinks.touches, fun mappings hmappings => ?_⟩
  obtain ⟨fingerprint, state, hprint, hstate, hused | ⟨hunused, hmade, -⟩⟩ :=
    hlinks.sound mappings hmappings
  · exact ⟨fingerprint, state, hprint, hstate, .inl hused⟩
  · exact ⟨fingerprint, state, hprint, hstate, .inr ⟨hunused, hmade⟩⟩

end

theorem readAndMap_returns (linker : Linker) (file : SnapshotFile) (known : Declared)
    (tables : AnchoredTables) (fingerprint : String) (paths : List Path) :
    (readAndMap linker file known tables fingerprint paths).Returns := by
  have hkeep : ∀ declared found, (keep linker.journal declared found).Returns := by
    intro declared found w
    obtain ⟨w', hw', -⟩ := keep_spec linker.journal { } (fun _ => True) declared found w
    exact ⟨_, w', hw'⟩
  refine .bind (Workers.foldWith_returns hkeep _ _ _) fun reached => ?_
  obtain ⟨declared, fault?⟩ := reached
  cases fault? with
  | some fault => exact .pure _
  | none => exact .bind (fun w => ⟨_, _, Work.outcome_attempt _ w⟩) fun _ => .pure _

/-- Whatever index is linked, a fault comes with what is known by then. -/
theorem link_returns (linker : Linker) (known : Declared) (index : TableIndex Json) :
    (link linker known index).Returns := by
  intro w
  obtain ⟨-, -, w₁, -, -, -, ⟨fault, -, hlink⟩ | ⟨mappings, -, hlink⟩ |
    ⟨tables, fingerprint, paths, -, hlink⟩⟩ := link_cases linker known index w
  · exact ⟨_, w₁, hlink⟩
  · exact ⟨_, w₁, hlink⟩
  · rw [hlink]
    exact readAndMap_returns linker _ known tables fingerprint paths w₁

/-- Where there is no snapshot to use, every table gets its mapping, whatever the source files
are. -/
theorem link_gives {linker : Linker} {known declared : Declared} {index : TableIndex}
    (hindex : index.IsDistinct) {w w' : Workspace} {mappings : RepositoryMappings Json}
    (hunused : ∀ wanted state, (snapshotFile linker.settings linker.journal).state w.files wanted =
      .ok state → state.data? = none)
    (h : (link linker known (index.map .str)).outcome w = (.ok (declared, .ok mappings), w')) :
    mappings = (mappingsOf declared (anchors index)).map .str := by
  obtain ⟨w₀, answer, w₁, hfiles, -, hplan, hlink⟩ := link_cases linker known (index.map .str) w
  obtain ⟨answer', w₁', hplan', -, hanswer, -⟩ :=
    plan_spec (snapshotFile linker.settings linker.journal) known index w₀
  cases hplan.symm.trans hplan'
  rw [hfiles] at hanswer
  obtain ⟨fault, -, hlink⟩ | ⟨found, rfl, -⟩ | ⟨tables, print, paths, rfl, hlink⟩ := hlink
  · cases h.symm.trans hlink
  · obtain ⟨_, state, -, hstate, hused⟩ := hanswer _ rfl
    obtain ⟨data, hdata, -⟩ := Option.bind_eq_some_iff.1 hused
    cases (hunused _ state hstate).symm.trans hdata
  · obtain ⟨_, _, -, -, -, rfl, -⟩ := hanswer _ rfl
    rw [hlink] at h
    obtain ⟨⟨known', fault?⟩, w₃, -, h⟩ := Work.outcome_bind_eq_ok h
    cases fault? with
    | some fault => cases h
    | none =>
      obtain ⟨made, w₄, hmade, h⟩ := Work.outcome_bind_eq_ok h
      cases h
      rw [Work.outcome_attempt] at hmade
      have hgives := (mapIndex_spec linker (snapshotFile linker.settings linker.journal) print
        declared (nodup_anchors hindex) (fun _ => True) trivial).2
      refine hgives w₃ mappings _ (Prod.ext ?_ rfl)
      exact Except.ok.inj (congrArg Prod.fst hmade)

end Ripple.Repository
