-- SUMMARY: What the bytes under the fingerprint of the mapper files tell apart, and two trees that they do not.
import Ripple.Proofs.BuildModule.Scanned
import Ripple.Proofs.Digest.Fingerprint
import Ripple.Proofs.Table.Building
import Mathlib.Data.Finset.Max

/-! # What the fingerprint of the mapper files tells apart

The bytes that are hashed are the notes, then the paths, each with the content of its file, and
every part ends with a zero. A content may hold zeros itself, so the same bytes can be divided in
different ways. Together with the sizes of the contents they tell the mapper files, the names of
their modules and the contents, and without the sizes they do if no content holds a zero.
-/

namespace Ripple

theorem eq_of_map_eq {α β : Type} {f : α → β} {items items' : List α}
    (hinj : ∀ item ∈ items, ∀ item' ∈ items', f item = f item' → item = item')
    (h : items.map f = items'.map f) : items = items' := by
  apply List.ext_getElem (by simpa using congrArg List.length h)
  intro i hi hi'
  have hat : f items[i] = f items'[i] := by simpa [hi, hi'] using congrArg (·[i]?) h
  exact hinj _ (List.getElem_mem hi) _ (List.getElem_mem hi') hat

namespace TableIndex

/-! ## Located files -/

/-- The mapper files of one module, with its name. -/
def locateIn (files : Disk) (settings : Settings) (modules : List BuildModule) (m : BuildModule) :
    Except Fault (List LocatedMapper) :=
  (m.mapperFiles files settings modules).map fun listed => listed.map fun path => (path, m.name)

section Locating

variable {files : Disk} {settings : Settings} {modules : List BuildModule}
  {mappers : List LocatedMapper}

theorem exists_of_locate (h : locate files settings modules = .ok mappers) :
    ∃ found, modules.mapM (locateIn files settings modules) = .ok found ∧
      mappers = found.flatten := by
  obtain ⟨found, hfound, hmappers⟩ := bind_eq_ok.1 h
  exact ⟨found, hfound, (Except.ok.inj hmappers).symm⟩

theorem mem_flatten_of_mapM {some : List BuildModule} {found : List (List LocatedMapper)}
    (h : some.mapM (locateIn files settings modules) = .ok found) {mapper : LocatedMapper}
    (hmapper : mapper ∈ found.flatten) :
    ∃ m ∈ some, ∃ listed, m.mapperFiles files settings modules = .ok listed ∧
      mapper.1 ∈ listed ∧ mapper.2 = m.name := by
  obtain ⟨located, hlocated, hmem⟩ := List.mem_flatten.1 hmapper
  obtain ⟨m, hm, hin⟩ := exists_of_mem_mapM h hlocated
  obtain ⟨listed, hlisted, rfl⟩ := map_eq_ok.1 hin
  obtain ⟨path, hpath, rfl⟩ := List.mem_map.1 hmem
  exact ⟨m, hm, listed, hlisted, hpath, rfl⟩

/-- No file is located twice in modules with different roots. -/
theorem nodup_of_mapM (hwf : files.tree.wellFormed = true) {some : List BuildModule}
    (hsome : some ⊆ modules) (hroots : (some.map (·.root)).Nodup)
    {found : List (List LocatedMapper)}
    (h : some.mapM (locateIn files settings modules) = .ok found) :
    (found.flatten.map (·.1)).Nodup := by
  induction some generalizing found with
  | nil =>
    cases h
    exact List.nodup_nil
  | cons m later ih =>
    obtain ⟨first, rest, hfirst, hrest, rfl⟩ := mapM_cons_eq_ok.1 h
    obtain ⟨listed, hlisted, rfl⟩ := map_eq_ok.1 hfirst
    obtain ⟨hnew, hroots⟩ := List.nodup_cons.1 hroots
    have hlater := ih (List.subset_of_cons_subset hsome) hroots hrest
    have hpaths : (listed.map fun path => (path, m.name)).map (·.1) = listed := by
      simp [Function.comp_def]
    rw [List.flatten_cons, List.map_append, hpaths, List.nodup_append]
    refine ⟨BuildModule.nodup_of_mapperFiles hwf hlisted, hlater, ?_⟩
    rintro path hpath path' hpath' rfl
    obtain ⟨mapper, hmapper, rfl⟩ := List.mem_map.1 hpath'
    obtain ⟨m', hm', listed', hlisted', hpath', -⟩ := mem_flatten_of_mapM hrest hmapper
    have hsame := BuildModule.root_unique_of_mapperFiles hwf (hsome List.mem_cons_self)
      (hsome (List.mem_cons_of_mem _ hm')) hlisted hlisted' hpath hpath' rfl
    exact hnew (List.mem_map.2 ⟨m', hm', hsame.symm⟩)

end Locating

/-- What is known of mapper files that were located. -/
structure AreLocated (mappers : List LocatedMapper) : Prop where
  distinct : (mappers.map (·.1)).Nodup
  proper : ∀ mapper ∈ mappers, mapper.1.IsProper ∧ mapper.1.names ≠ []
  zeroFree : ∀ mapper ∈ mappers, '\x00' ∉ mapper.1.text.toList ∧ '\x00' ∉ mapper.2.toList
  slashFree : ∀ mapper ∈ mappers, '/' ∉ mapper.2.toList
  /-- The files of one folder belong to one module. -/
  siblings : ∀ first ∈ mappers, ∀ second ∈ mappers,
    first.1.parent = second.1.parent → first.2 = second.2

/-- The name of a module is the last name of its root. -/
theorem notMem_name {m : BuildModule} (hname : m.name = m.root.name) (hproper : m.root.IsProper)
    (hzero : m.root.hasZero = false) : '\x00' ∉ m.name.toList ∧ '/' ∉ m.name.toList := by
  rw [hname]
  by_cases hne : m.root.names = []
  · simp [Path.name, hne]
  · have hmem := Path.name_mem_names hne
    have hfree := List.any_eq_false.1 hzero _ hmem
    exact ⟨by simpa using hfree, (hproper.parts _ hmem).no_slash⟩

theorem areLocated_of_locate {files : Disk} (hwf : files.tree.wellFormed = true)
    {settings : Settings} {modules : List BuildModule}
    (hscanned : BuildModule.AreScanned settings modules) {mappers : List LocatedMapper}
    (h : locate files settings modules = .ok mappers) : AreLocated mappers := by
  obtain ⟨found, hfound, rfl⟩ := exists_of_locate h
  have hproper : ∀ mapper ∈ found.flatten, mapper.1.IsProper ∧ mapper.1.names ≠ [] ∧
      mapper.1.hasZero = false ∧ '\x00' ∉ mapper.2.toList ∧ '/' ∉ mapper.2.toList := by
    intro mapper hmapper
    obtain ⟨m, hm, listed, hlisted, hpath, hname⟩ := mem_flatten_of_mapM hfound hmapper
    obtain ⟨hzero, -, way, name, hway, hparts⟩ :=
      BuildModule.exists_way_of_mem_mapperFiles hwf hlisted hpath
    -- the root was read from a text and the names below it are names of files
    have hroot := hscanned.isProper_root hm
    rw [hname, hway]
    exact ⟨hroot.down fun part hpart => Path.isPart_of_isFileName (hparts part hpart), by simp,
      Disk.hasZero_down hzero hparts, notMem_name (hscanned.name_eq hm) hroot hzero⟩
  refine ⟨nodup_of_mapM hwf (fun _ hm => hm) hscanned.nodup_roots hfound, ?_, ?_, ?_, ?_⟩
  · intro mapper hmapper
    obtain ⟨hpath, hne, -⟩ := hproper mapper hmapper
    exact ⟨hpath, hne⟩
  · intro mapper hmapper
    obtain ⟨hpath, hne, hzero, hname, -⟩ := hproper mapper hmapper
    exact ⟨Path.zero_notMem_text hpath hne hzero, hname⟩
  · intro mapper hmapper
    exact (hproper mapper hmapper).2.2.2.2
  · intro first hfirst second hsecond hparent
    obtain ⟨m, hm, listed, hlisted, hpath, hname⟩ := mem_flatten_of_mapM hfound hfirst
    obtain ⟨m', hm', listed', hlisted', hpath', hname'⟩ := mem_flatten_of_mapM hfound hsecond
    have hroots :=
      BuildModule.root_unique_of_mapperFiles hwf hm hm' hlisted hlisted' hpath hpath' hparent
    rw [hname, hname', hscanned.name_eq hm, hscanned.name_eq hm', hroots]

/-! ## Notes -/

/-- The note on a mapper file. -/
def mapperNote (mapper : LocatedMapper) : String :=
  mapper.1.text ++ "=" ++ mapper.2

theorem notes_eq (includes : Bool) (mappers : List LocatedMapper) :
    notes includes mappers =
      ("resolve_includes=" ++ if includes then "True" else "False") :: mappers.map mapperNote :=
  rfl

section Notes

variable {mappers mappers' : List LocatedMapper} {mapper mapper' : LocatedMapper}

theorem length_mapperNote (mapper : LocatedMapper) :
    (mapperNote mapper).length = mapper.1.text.length + 1 + mapper.2.length := by
  have hmark : ("=" : String).length = 1 := rfl
  simp [mapperNote, String.length_append, hmark]

/-- Names of modules have no slashes, so a note tells the folder. -/
theorem parent_eq_of_mapperNote (h : AreLocated mappers) (h' : AreLocated mappers')
    (hmapper : mapper ∈ mappers) (hmapper' : mapper' ∈ mappers')
    (heq : mapperNote mapper = mapperNote mapper') : mapper.1.parent = mapper'.1.parent := by
  obtain ⟨hproper, hne⟩ := h.proper mapper hmapper
  obtain ⟨hproper', hne'⟩ := h'.proper mapper' hmapper'
  unfold mapperNote at heq
  rw [String.append_assoc, String.append_assoc] at heq
  exact Path.parent_eq_of_text_append hproper hproper' hne hne'
    (by simp [h.slashFree mapper hmapper]) (by simp [h'.slashFree mapper' hmapper']) heq

/-- If a note can be read with a shorter name on the other side, then so can those on the files of
the folder, and each of them stands there for a longer path. The longest path has none. -/
theorem length_name_le (h : AreLocated mappers) (h' : AreLocated mappers')
    (hnotes : ∀ mapper ∈ mappers, ∃ mapper' ∈ mappers', mapperNote mapper' = mapperNote mapper)
    (hpaths : ∀ mapper' ∈ mappers', ∃ mapper ∈ mappers, mapper.1 = mapper'.1)
    (hmapper : mapper ∈ mappers) (hmapper' : mapper' ∈ mappers')
    (heq : mapperNote mapper = mapperNote mapper') : mapper.2.length ≤ mapper'.2.length := by
  by_contra hlt
  have hparent := parent_eq_of_mapperNote h h' hmapper hmapper' heq
  obtain ⟨longest, hlongest, hmax⟩ := Finset.exists_max_image
    ((mappers.map (·.1)).toFinset.filter (·.parent = mapper.1.parent)) (·.text.length)
    ⟨mapper.1, by simpa using ⟨mapper.2, hmapper⟩⟩
  simp only [Finset.mem_filter, List.mem_toFinset, List.mem_map] at hlongest hmax
  -- the note on the longest path is on the other side that on a path which is longer still
  obtain ⟨⟨sibling, hsibling, rfl⟩, hfolder⟩ := hlongest
  obtain ⟨other, hother, hnote⟩ := hnotes sibling hsibling
  have hfolder' : other.1.parent = mapper.1.parent :=
    (parent_eq_of_mapperNote h' h hother hsibling hnote).trans hfolder
  have hname := h.siblings sibling hsibling mapper hmapper hfolder
  have hname' := h'.siblings other hother mapper' hmapper' (hfolder'.trans hparent)
  obtain ⟨back, hback, hsame⟩ := hpaths other hother
  have hle := hmax other.1 ⟨⟨back, hback, hsame⟩, hfolder'⟩
  have hlength := congrArg String.length hnote
  rw [length_mapperNote, length_mapperNote, hname, hname'] at hlength
  omega

/-- Notes on the same files are the same only for the same modules. -/
theorem eq_of_mapperNote (h : AreLocated mappers) (h' : AreLocated mappers')
    (hnotes : mappers.map mapperNote = mappers'.map mapperNote)
    (hpaths : ∀ path, path ∈ mappers.map (·.1) ↔ path ∈ mappers'.map (·.1))
    (hmapper : mapper ∈ mappers) (hmapper' : mapper' ∈ mappers')
    (heq : mapperNote mapper = mapperNote mapper') : mapper = mapper' := by
  have hle := length_name_le h h'
    (fun m hm => List.mem_map.1 (hnotes ▸ List.mem_map_of_mem hm))
    (fun m hm => List.mem_map.1 ((hpaths m.1).2 (List.mem_map_of_mem hm))) hmapper hmapper' heq
  have hge := length_name_le h' h
    (fun m hm => List.mem_map.1 (hnotes ▸ List.mem_map_of_mem hm))
    (fun m hm => List.mem_map.1 ((hpaths m.1).1 (List.mem_map_of_mem hm))) hmapper' hmapper heq.symm
  have htexts := congrArg String.toList heq
  simp only [mapperNote, String.toList_append, List.append_assoc] at htexts
  have hlength : mapper.2.toList.length = mapper'.2.toList.length := by
    rw [String.length_toList, String.length_toList]
    exact Nat.le_antisymm hle hge
  -- with names of one length both notes are cut at the same place
  obtain ⟨hpath, hname⟩ := List.append_inj' htexts (by simp [hlength])
  have hpath := Path.text_injective (h.proper mapper hmapper).1 (h'.proper mapper' hmapper').1
    (String.toList_injective hpath)
  exact Prod.ext hpath (String.toList_injective (List.append_cancel_left hname))

theorem eq_of_map_mapperNote (h : AreLocated mappers) (h' : AreLocated mappers')
    (hnotes : mappers.map mapperNote = mappers'.map mapperNote)
    (hpaths : ∀ path, path ∈ mappers.map (·.1) ↔ path ∈ mappers'.map (·.1)) :
    mappers = mappers' := by
  refine eq_of_map_eq ?_ hnotes
  intro mapper hmapper mapper' hmapper' heq
  exact eq_of_mapperNote h h' hnotes hpaths hmapper hmapper' heq

end Notes

/-! ## What is hashed -/

/-- The mapper files of a build: modules that were scanned, and the files located in them. -/
structure Sources where
  settings : Settings
  modules : List BuildModule
  files : Disk
  mappers : List LocatedMapper
  scanned : BuildModule.AreScanned settings modules
  wellFormed : files.tree.wellFormed = true
  located : locate files settings modules = .ok mappers

namespace Sources

/-- The bytes that are hashed for a mapper file. -/
def bytesOf (sources : Sources) (path : Path) : Bytes :=
  Fingerprint.fileBytes sources.files .content path

def paths (sources : Sources) : List Path :=
  Fingerprint.pathSet (sources.mappers.map (·.1))

/-- The sizes of the files in the order in which they are hashed. -/
def sizes (sources : Sources) : List Nat :=
  sources.paths.map fun path => (sources.bytesOf path).length

/-- The bytes whose digest is the fingerprint. -/
def hashed (sources : Sources) : Bytes :=
  TableIndex.hashed sources.settings sources.modules sources.files

/-- The same way to read the same files, in the same modules and with the same contents. -/
structure Same (first second : Sources) : Prop where
  includes : first.settings.resolveIncludes = second.settings.resolveIncludes
  mappers : first.mappers = second.mappers
  contents : ∀ mapper ∈ first.mappers, first.files.read mapper.1 = second.files.read mapper.1

/-- No zero is in a mapper file. -/
def IsZeroFree (sources : Sources) : Prop :=
  ∀ mapper ∈ sources.mappers, ∀ content, sources.files.read mapper.1 = .ok content → 0 ∉ content

theorem hashed_eq (sources : Sources) :
    sources.hashed =
      (notes sources.settings.resolveIncludes sources.mappers).flatMap Fingerprint.textPart ++
        Fingerprint.fileParts sources.bytesOf sources.paths := by
  unfold hashed TableIndex.hashed
  rw [located_eq sources.located]
  rfl

theorem areLocated (sources : Sources) : AreLocated sources.mappers :=
  areLocated_of_locate sources.wellFormed sources.scanned sources.located

theorem mem_paths {sources : Sources} {path : Path} :
    path ∈ sources.paths ↔ path ∈ sources.mappers.map (·.1) :=
  Fingerprint.mem_pathSet

theorem length_paths (sources : Sources) : sources.paths.length = sources.mappers.length := by
  have hdistinct : (sources.mappers.map (·.1)).eraseDups = sources.mappers.map (·.1) :=
    eraseDups_of_pairwise (sources.areLocated.distinct.imp fun hne => by simpa using hne.symm)
  unfold paths Fingerprint.pathSet
  rw [(Text.sortWith_perm _ _).length_eq, hdistinct, List.length_map]

theorem zero_notMem_note (sources : Sources) :
    ∀ note ∈ notes sources.settings.resolveIncludes sources.mappers, '\x00' ∉ note.toList := by
  rw [notes_eq, List.forall_mem_cons]
  constructor
  · cases sources.settings.resolveIncludes <;> decide +kernel
  · intro note hnote
    obtain ⟨mapper, hmapper, rfl⟩ := List.mem_map.1 hnote
    obtain ⟨hpath, hname⟩ := sources.areLocated.zeroFree mapper hmapper
    simp [mapperNote, hpath, hname]

theorem isProper_of_mem_paths {sources : Sources} {path : Path} (h : path ∈ sources.paths) :
    path.IsProper ∧ '\x00' ∉ path.text.toList := by
  obtain ⟨mapper, hmapper, rfl⟩ := List.mem_map.1 (mem_paths.1 h)
  exact ⟨(sources.areLocated.proper mapper hmapper).1,
    (sources.areLocated.zeroFree mapper hmapper).1⟩

/-- What is hashed for a file is its content, if it can be read. -/
theorem bytesOf_eq (sources : Sources) (path : Path) :
    sources.bytesOf path = (sources.files.read path).toOption.getD Fingerprint.missing := by
  unfold bytesOf Fingerprint.fileBytes Disk.read
  cases hfind : sources.files.find path with
  | error e => rfl
  | ok entry => cases entry <;> rfl

section Equal

variable {first second : Sources}

/-- A path that no file can have is refused everywhere, and all other files can be read. -/
theorem read_eq_of_bytesOf {mapper : LocatedMapper} (hfirst : mapper ∈ first.mappers)
    (hsecond : mapper ∈ second.mappers) (h : first.bytesOf mapper.1 = second.bytesOf mapper.1) :
    first.files.read mapper.1 = second.files.read mapper.1 := by
  obtain ⟨e, hcheck⟩ | ⟨content, hread⟩ :=
    read_of_locate first.wellFormed first.located hfirst
  · simp [Disk.read, Disk.find, Disk.resolve, hcheck, bind, Except.bind]
  · obtain ⟨e, hcheck⟩ | ⟨content', hread'⟩ :=
      read_of_locate second.wellFormed second.located hsecond
    · simp [Disk.read, Disk.find, Disk.resolve, hcheck, bind, Except.bind]
    · rw [bytesOf_eq, bytesOf_eq, hread, hread'] at h
      rw [hread, hread']
      exact congrArg Except.ok h

/-- The first note is that on includes. -/
theorem includes_eq_of_hashed (h : first.hashed = second.hashed) :
    first.settings.resolveIncludes = second.settings.resolveIncludes := by
  rw [hashed_eq, hashed_eq, notes_eq, notes_eq, List.flatMap_cons, List.flatMap_cons,
    List.append_assoc, List.append_assoc] at h
  have hfirst := first.zero_notMem_note _ List.mem_cons_self
  have hsecond := second.zero_notMem_note _ List.mem_cons_self
  have hflags := (Fingerprint.textPart_append_inj hfirst hsecond h).1
  revert hflags
  cases first.settings.resolveIncludes <;> cases second.settings.resolveIncludes <;>
    decide +kernel

/-- Notes and parts of the same paths with the same bytes come from the same sources. -/
theorem same_of_parts (hnotes : notes first.settings.resolveIncludes first.mappers =
      notes second.settings.resolveIncludes second.mappers)
    (hincludes : first.settings.resolveIncludes = second.settings.resolveIncludes)
    (hparts : first.paths.map (fun path => (path.text, first.bytesOf path)) =
      second.paths.map fun path => (path.text, second.bytesOf path)) : first.Same second := by
  have htexts : first.paths.map Path.text = second.paths.map Path.text := by
    simpa [Function.comp_def] using congrArg (List.map Prod.fst) hparts
  have hpaths : first.paths = second.paths := by
    refine eq_of_map_eq ?_ htexts
    intro path hpath path' hpath' htext
    exact Path.text_injective (isProper_of_mem_paths hpath).1 (isProper_of_mem_paths hpath').1 htext
  have hmappers : first.mappers = second.mappers := by
    refine eq_of_map_mapperNote first.areLocated second.areLocated (List.cons.inj hnotes).2 ?_
    intro path
    rw [← mem_paths, ← mem_paths, hpaths]
  refine ⟨hincludes, hmappers, ?_⟩
  intro mapper hmapper
  rw [← hpaths, List.map_inj_left] at hparts
  have hmem : mapper.1 ∈ first.paths := mem_paths.2 (List.mem_map_of_mem hmapper)
  exact read_eq_of_bytesOf hmapper (hmappers ▸ hmapper) (Prod.ext_iff.1 (hparts mapper.1 hmem)).2

theorem same_of_hashed (h : first.hashed = second.hashed) (hsizes : first.sizes = second.sizes) :
    first.Same second := by
  have hincludes := includes_eq_of_hashed h
  -- the sizes tell how many files there are, and so how many notes
  have hcount : first.mappers.length = second.mappers.length := by
    rw [← length_paths, ← length_paths]
    simpa [sizes] using congrArg List.length hsizes
  rw [hashed_eq, hashed_eq] at h
  obtain ⟨hnotes, hfiles⟩ := Fingerprint.textParts_append_inj (by simp [notes_eq, hcount])
    first.zero_notMem_note second.zero_notMem_note h
  exact same_of_parts hnotes hincludes (Fingerprint.fileParts_inj
    (fun _ hpath => (isProper_of_mem_paths hpath).2)
    (fun _ hpath => (isProper_of_mem_paths hpath).2) hsizes hfiles)

theorem Same.hashed_eq (h : first.Same second) :
    first.hashed = second.hashed ∧ first.sizes = second.sizes := by
  have hpaths : first.paths = second.paths := by simp only [paths, h.mappers]
  have hbytes : ∀ path ∈ first.paths, first.bytesOf path = second.bytesOf path := by
    intro path hpath
    obtain ⟨mapper, hmapper, rfl⟩ := List.mem_map.1 (mem_paths.1 hpath)
    rw [bytesOf_eq, bytesOf_eq, h.contents mapper hmapper]
  constructor
  · rw [Sources.hashed_eq, Sources.hashed_eq, h.includes, h.mappers, ← hpaths]
    congr 1
    exact List.flatMap_congr fun path hpath => by rw [hbytes path hpath]
  · unfold sizes
    rw [← hpaths]
    exact List.map_congr_left fun path hpath => by rw [hbytes path hpath]

theorem IsZeroFree.zero_notMem_pieces {sources : Sources} (h : sources.IsZeroFree) :
    ∀ piece ∈ Fingerprint.pieces sources.bytesOf
      (notes sources.settings.resolveIncludes sources.mappers) sources.paths, 0 ∉ piece := by
  intro piece hpiece
  simp only [Fingerprint.pieces, List.mem_append, List.mem_map, List.mem_flatMap, List.mem_cons,
    List.not_mem_nil, or_false] at hpiece
  obtain ⟨note, hnote, rfl⟩ | ⟨path, hpath, rfl | rfl⟩ := hpiece
  · exact Fingerprint.zero_notMem_encode_toList (sources.zero_notMem_note note hnote)
  · exact Fingerprint.zero_notMem_encode_toList (isProper_of_mem_paths hpath).2
  · obtain ⟨mapper, hmapper, rfl⟩ := List.mem_map.1 (mem_paths.1 hpath)
    rw [bytesOf_eq]
    cases hread : sources.files.read mapper.1 with
    | error e => exact Fingerprint.zero_notMem_stampBytes none
    | ok content => exact h mapper hmapper content hread

theorem sizes_eq_of_isZeroFree (h : first.hashed = second.hashed) (hfirst : first.IsZeroFree)
    (hsecond : second.IsZeroFree) : first.sizes = second.sizes := by
  rw [hashed_eq, hashed_eq, ← Fingerprint.flatMap_part_pieces,
    ← Fingerprint.flatMap_part_pieces] at h
  have hpieces :=
    Fingerprint.parts_inj hfirst.zero_notMem_pieces hsecond.zero_notMem_pieces h
  -- a note and two parts for each mapper file, so the parts tell how many there are
  have hcount : first.mappers.length = second.mappers.length := by
    have hlength := congrArg List.length hpieces
    simp only [Fingerprint.length_pieces, length_paths, notes_eq, List.length_cons,
      List.length_map] at hlength
    omega
  have hbytes := Fingerprint.map_bytes_of_pieces (by simp [notes_eq, hcount]) hpieces
  simpa [sizes, Function.comp_def] using congrArg (List.map List.length) hbytes

end Equal

/-- Sources are the same exactly if the same bytes are hashed for them and the sizes of their files
are the same. The bytes alone always tell whether includes are resolved, and they tell all of the
sources as long as no file holds a zero. -/
theorem same_iff_hashed (first second : Sources) :
    (first.hashed = second.hashed →
      first.settings.resolveIncludes = second.settings.resolveIncludes) ∧
    (first.Same second ↔ first.hashed = second.hashed ∧ first.sizes = second.sizes) ∧
    (first.IsZeroFree → second.IsZeroFree →
      (first.Same second ↔ first.hashed = second.hashed)) := by
  refine ⟨includes_eq_of_hashed, ⟨Same.hashed_eq, fun h => same_of_hashed h.1 h.2⟩, ?_⟩
  intro hfirst hsecond
  exact ⟨fun h => h.hashed_eq.1,
    fun h => same_of_hashed h (sizes_eq_of_isZeroFree h hfirst hsecond)⟩

/-- A tree of one module with two mapper files. -/
def twoFiles (first second : Bytes) : Disk where
  home := []
  tree := .folder [("m", .folder [("src", .folder [("com", .folder
    [("A.xml", .file first 0), ("B.xml", .file second 0)])])])]

def twoModules : List BuildModule :=
  [⟨"m", ⟨"", ["m"]⟩, some ⟨"", ["m", "src"]⟩, none⟩]

def twoMappers : List LocatedMapper :=
  [(⟨"", ["m", "src", "com", "A.xml"]⟩, "m"), (⟨"", ["m", "src", "com", "B.xml"]⟩, "m")]

/-- The end of a file, and the path of the second of two files. -/
def border : Bytes :=
  0 :: Fingerprint.textPart "m/src/com/B.xml"

/-- The border is the content of the first file. -/
def endingSources : Sources where
  settings := .standard
  modules := twoModules
  files := twoFiles border []
  mappers := twoMappers
  scanned := ⟨twoFiles border [], "scan", "m", by decide +kernel, by decide +kernel⟩
  wellFormed := by decide +kernel
  located := by decide +kernel

/-- The border is the content of the second file. -/
def beginningSources : Sources where
  settings := .standard
  modules := twoModules
  files := twoFiles [] border
  mappers := twoMappers
  scanned := ⟨twoFiles [] border, "scan", "m", by decide +kernel, by decide +kernel⟩
  wellFormed := by decide +kernel
  located := by decide +kernel

/-- A content may go over the border to the next file. -/
theorem hashed_eq_over_border :
    endingSources.hashed = beginningSources.hashed ∧ ¬ endingSources.Same beginningSources := by
  constructor
  · decide +kernel
  · intro h
    have hread := h.contents (⟨"", ["m", "src", "com", "A.xml"]⟩, "m") List.mem_cons_self
    exact absurd hread (by decide +kernel)

end Sources

end TableIndex

end Ripple
