-- SUMMARY: The entry of a statement, specified by the source file beside its mapper file.
import Ripple.Repository.Linking
import Ripple.Proofs.Digest.Fingerprint
import Ripple.Proofs.Files.Disk
import Ripple.Proofs.Repository.Mapping
import Ripple.Proofs.Table.Index
import Ripple.Proofs.Text.Order

/-!
# What statements are linked to

The entry of a statement is said here without the work of linking: it depends on the source file
beside the mapper only. The mappings of an index hold these entries.
-/

namespace Ripple

@[simp]
theorem Json.shown_str (s : String) : (Json.str s).shown = s := rfl

@[simp]
theorem Statement.map_shown_map_str (s : Statement) : (s.map Json.str).map Json.shown = s := rfl

namespace Repository

/-! ## Anchors -/

def anchorOf (s : Statement) : Anchor :=
  ⟨s.mapperPath, .str s.statementId⟩

theorem ofStatement_map_str (s : Statement) :
    Anchor.ofStatement (s.map .str) = .ok (anchorOf s) := rfl

/-- The statements of an index as they are linked. -/
def anchors (index : TableIndex) : AnchoredTables :=
  List.map (fun (table, statements) => (table, statements.map anchorOf)) index

theorem anchored_map_str (index : TableIndex) : anchored (index.map .str) = .ok (anchors index) := by
  refine mapM_map_eq_ok (fun (table, statements) => ?_) index
  have hstatements : (statements.map (Statement.map Json.str)).mapM Anchor.ofStatement =
      .ok (statements.map anchorOf) :=
    mapM_map_eq_ok ofStatement_map_str statements
  simp only [hstatements, bind, Except.bind]
  rfl

/-- The source files beside the mappers of an index. -/
def sources (index : TableIndex) : List Path :=
  candidates (anchors index)

theorem file_mem_sources {index : TableIndex} {entry : String × List Anchor}
    (hentry : entry ∈ anchors index) {anchor : Anchor} (hanchor : anchor ∈ entry.2) :
    anchor.file ∈ sources index := by
  unfold sources candidates
  rw [Fingerprint.mem_pathSet, List.mem_flatMap]
  exact ⟨entry, hentry, List.mem_map.2 ⟨anchor, hanchor, rfl⟩⟩

theorem anchorOf_file_mem_sources {index : TableIndex} {table : String}
    {statements : List Statement} (hentry : (table, statements) ∈ index) {s : Statement}
    (hs : s ∈ statements) : (anchorOf s).file ∈ sources index :=
  file_mem_sources (List.mem_map.2 ⟨_, hentry, rfl⟩) (List.mem_map.2 ⟨s, hs, rfl⟩)

/-- The fingerprint of an index and of the source files beside its mappers. -/
def print (files : Disk) (index : TableIndex) : Except Fault String :=
  (Fingerprint.digest files .stamp (notes index) (sources index)).mapError FileError.fault

theorem fingerprint_map_str (files : Disk) (index : TableIndex) :
    fingerprint files (index.map .str) (candidates (anchors index)) = print files index := by
  have hwritable : (List.all (index.map Json.str) fun entry => entry.2.all isWritable) = true := by
    simp [TableIndex.map, Statement.map, isWritable]
  have hshown : (index.map Json.str).map Json.shown = index := by
    simp [TableIndex.map, Function.comp_def]
  unfold fingerprint print
  refine (if_pos hwritable).trans ?_
  rw [hshown]
  rfl

/-- The bytes whose digest is the fingerprint. -/
def hashed (files : Disk) (index : TableIndex) : Bytes :=
  Fingerprint.input files .stamp (notes index) (sources index)

/-- There is a fingerprint unless a path holds a zero, whatever the files are. -/
theorem print_eq_ok {files : Disk} {index : TableIndex} {fingerprint : String} :
    print files index = .ok fingerprint ↔
      (sources index).any Path.hasZero = false ∧ fingerprint = Sha256.digest (hashed files index) := by
  unfold print Fingerprint.digest hashed
  split
  · rename_i hzero
    simp [hzero, Except.mapError]
  · rename_i hzero
    simp [hzero, Except.mapError, eq_comm]

/-! ## Entries -/

/-- What a source file declares: nothing is known of one that is not there, and of one that cannot
be parsed it is only known that it is there. -/
def declared? (settings : Settings) (files : Disk) (path : Path) : Option (Option (List String)) :=
  match files.read path with
  | .error _ => none
  | .ok _ => some ((readDeclared settings files path).toOption.bind (·.2.2))

/-- The entry of a statement, as the files stand. -/
def resolution (settings : Settings) (files : Disk) (s : Statement) : String :=
  let file := repositoryFile (Path.ofText s.mapperPath)
  match declared? settings files file with
  | none => "[N/A]-" ++ file.stem
  | some names =>
    if (names.getD []).contains s.statementId then file.stem ++ "." ++ s.statementId
    else "[N/A]-" ++ file.stem ++ "." ++ s.statementId

theorem readDeclared_congr {settings settings' : Settings} {files files' : Disk} {path : Path}
    (hencoding : settings'.encoding = settings.encoding)
    (h : files'.read path = files.read path) :
    readDeclared settings' files' path = readDeclared settings files path := by
  simp only [readDeclared, Java.loadMethodNames, Java.CompilationUnit.load, hencoding, h]

/-- What a source file declares depends on whether it is there and on its content. -/
theorem declared?_congr {settings settings' : Settings} {files files' : Disk} {path : Path}
    (hencoding : settings'.encoding = settings.encoding)
    (h : ∀ content, files'.read path = .ok content ↔ files.read path = .ok content) :
    declared? settings' files' path = declared? settings files path := by
  unfold declared?
  cases hread : files.read path with
  | ok content =>
    have hread' := (h content).2 hread
    rw [hread', readDeclared_congr hencoding (hread'.trans hread.symm)]
  | error e =>
    cases hread' : files'.read path with
    | error e' => rfl
    | ok content => cases hread.symm.trans ((h content).1 hread')

/-- The size of a file and the time of its last change. -/
def stamp? (files : Disk) (path : Path) : Option (Nat × Int) :=
  match files.find path with
  | .ok (.file content modified) => some (content.length, modified)
  | _ => none

/-- A file whose size and time of the last change stay the same has the same content. -/
def IsStamped (files files' : Disk) (path : Path) : Prop :=
  ∀ content content' modified, files.find path = .ok (.file content modified) →
    files'.find path = .ok (.file content' modified) → content.length = content'.length →
      content = content'

theorem stamp?_eq_some {files : Disk} {path : Path} {size : Nat} {modified : Int} :
    stamp? files path = some (size, modified) ↔
      ∃ content, files.find path = .ok (.file content modified) ∧ content.length = size := by
  unfold stamp?
  cases files.find path with
  | error e => simp
  | ok entry => cases entry <;> simp [and_comm]

theorem fileBytes_stamp (files : Disk) (path : Path) :
    Fingerprint.fileBytes files .stamp path = Fingerprint.stampBytes (stamp? files path) := by
  unfold Fingerprint.fileBytes stamp?
  cases files.find path with
  | error e => rfl
  | ok entry => cases entry <;> rfl

/-- The bytes that are hashed tell the stamps of the source files. -/
theorem stamp?_of_hashed {files files' : Disk} {index : TableIndex}
    (h : hashed files index = hashed files' index) {path : Path} (hpath : path ∈ sources index) :
    stamp? files path = stamp? files' path := by
  have hzero (disk : Disk) (path : Path) : 0 ∉ Fingerprint.fileBytes disk .stamp path := by
    rw [fileBytes_stamp]
    exact Fingerprint.zero_notMem_stampBytes _
  have hbytes := Fingerprint.fileBytes_of_input (hzero files) (hzero files') h hpath
  rw [fileBytes_stamp, fileBytes_stamp] at hbytes
  exact Fingerprint.stampBytes_injective hbytes

theorem IsStamped.refl (files : Disk) (path : Path) : IsStamped files files path := by
  intro content content' modified hfind hfind' _
  cases hfind.symm.trans hfind'
  rfl

theorem IsStamped.symm {files files' : Disk} {path : Path} (h : IsStamped files files' path) :
    IsStamped files' files path :=
  fun content content' modified hfind hfind' hsize =>
    (h content' content modified hfind' hfind hsize.symm).symm

theorem IsStamped.read {files files' : Disk} {path : Path} (h : IsStamped files files' path)
    (hstamp : stamp? files path = stamp? files' path) {content : Bytes}
    (hread : files.read path = .ok content) : files'.read path = .ok content := by
  obtain ⟨modified, hfind⟩ := Disk.read_eq_ok_iff_find.1 hread
  obtain ⟨content', hfind', hsize⟩ :=
    stamp?_eq_some.1 (hstamp ▸ stamp?_eq_some.2 ⟨content, hfind, rfl⟩)
  obtain rfl := h content content' modified hfind hfind' hsize.symm
  exact Disk.read_eq_ok_iff_find.2 ⟨modified, hfind'⟩

/-- The entry of a statement depends on the stamp of its source file, if stamps tell edits. -/
theorem resolution_congr {settings settings' : Settings} {files files' : Disk} {s : Statement}
    (hencoding : settings'.encoding = settings.encoding)
    (h : IsStamped files' files (anchorOf s).file)
    (hstamp : stamp? files' (anchorOf s).file = stamp? files (anchorOf s).file) :
    resolution settings' files' s = resolution settings files s := by
  have hread (content : Bytes) : files'.read (anchorOf s).file = .ok content ↔
      files.read (anchorOf s).file = .ok content :=
    ⟨h.read hstamp, h.symm.read hstamp.symm⟩
  have hdeclared : declared? settings' files' (repositoryFile (Path.ofText s.mapperPath)) =
      declared? settings files (repositoryFile (Path.ofText s.mapperPath)) :=
    declared?_congr hencoding hread
  unfold resolution
  dsimp only
  rw [hdeclared]

/-- What the source files of some paths declare. -/
def declaredIn (settings : Settings) (files : Disk) (paths : List Path) : Declared :=
  paths.filterMap fun path => (declared? settings files path).map fun names => (path, names)

theorem lookup_declaredIn (settings : Settings) (files : Disk) (paths : List Path) (path : Path) :
    (declaredIn settings files paths).lookup path =
      if path ∈ paths then declared? settings files path else none :=
  lookup_filterMap_keys (declared? settings files) paths path

/-- What is known of a source file once the files are read: what was known of it before, and else
what it declares. -/
def recalled? (settings : Settings) (files : Disk) (known : Declared) (path : Path) :
    Option (Option (List String)) :=
  (known.lookup path).or (declared? settings files path)

/-- What is known of the source files of some paths. -/
def recalledIn (settings : Settings) (files : Disk) (known : Declared) (paths : List Path) :
    Declared :=
  paths.filterMap fun path =>
    (recalled? settings files known path).map fun names => (path, names)

theorem lookup_recalledIn (settings : Settings) (files : Disk) (known : Declared)
    (paths : List Path) (path : Path) :
    (recalledIn settings files known paths).lookup path =
      if path ∈ paths then recalled? settings files known path else none :=
  lookup_filterMap_keys (recalled? settings files known) paths path

theorem contains_map_str (names : List String) (id : String) :
    (names.map Json.str).contains (.str id) = names.contains id := by
  induction names with
  | nil => rfl
  | cons name names ih => simp only [List.map_cons, List.contains_cons, Json.beq_str, ih]

/-- A statement gets its entry, whatever the file is found under. -/
theorem resolve_anchorOf {settings : Settings} {files : Disk} {declared : Declared} {s : Statement}
    (hid : s.statementId ≠ "")
    (hdeclared : declared.lookup (anchorOf s).file = declared? settings files (anchorOf s).file) :
    resolve declared (anchorOf s) = resolution settings files s := by
  have hempty : s.statementId.isEmpty = false := by simpa using hid
  have hjson : (Json.str s.statementId).isEmpty = false := hempty
  unfold resolve resolution
  rw [hdeclared]
  simp only [anchorOf, Anchor.file]
  cases declared? settings files (repositoryFile (Path.ofText s.mapperPath)) with
  | none => simp [Name.unresolved, Name.unresolvedMark]
  | some names =>
    simp only [methodEntry, contains_map_str, Json.shown_str, hjson, hempty, Name.unresolved,
      Name.unresolvedMark, Bool.false_eq_true, if_false]

/-! ## The mappings -/

/-- The mappings of tables to what was declared. -/
def mappingsOf (declared : Declared) (tables : AnchoredTables) : RepositoryMappings :=
  List.map (fun (table, anchors) => (table, mappingOf declared table anchors)) tables

/-- Mappings depend on which source files are there and on the entries of the statements. -/
theorem mappingsOf_congr_resolve {declared declared' : Declared} {tables : AnchoredTables}
    (h : ∀ entry ∈ tables, ∀ anchor ∈ entry.2,
      (declared'.lookup anchor.file).isSome = (declared.lookup anchor.file).isSome ∧
        resolve declared' anchor = resolve declared anchor) :
    mappingsOf declared' tables = mappingsOf declared tables := by
  refine List.map_congr_left fun (table, anchors) hentry => ?_
  have hmethods : anchors.map (resolve declared') = anchors.map (resolve declared) :=
    List.map_congr_left fun anchor hanchor => (h _ hentry anchor hanchor).2
  have hclasses : (anchors.map Anchor.file).filter (fun file => (declared'.lookup file).isSome) =
      (anchors.map Anchor.file).filter fun file => (declared.lookup file).isSome := by
    refine List.filter_congr fun file hfile => ?_
    obtain ⟨anchor, hanchor, rfl⟩ := List.mem_map.1 hfile
    exact (h _ hentry anchor hanchor).1
  simp only [mappingOf, hmethods, hclasses]

/-- Mappings depend on what is known of the source files beside the mappers. -/
theorem mappingsOf_congr {declared declared' : Declared} {tables : AnchoredTables}
    (h : ∀ entry ∈ tables, ∀ anchor ∈ entry.2,
      declared'.lookup anchor.file = declared.lookup anchor.file) :
    mappingsOf declared' tables = mappingsOf declared tables := by
  refine mappingsOf_congr_resolve fun entry hentry anchor hanchor => ?_
  unfold resolve
  rw [h entry hentry anchor hanchor]
  exact ⟨rfl, rfl⟩

theorem resolve_of_mappingsOf {declared declared' : Declared} {tables : AnchoredTables}
    (h : mappingsOf declared' tables = mappingsOf declared tables)
    {entry : String × List Anchor} (hentry : entry ∈ tables) {anchor : Anchor}
    (hanchor : anchor ∈ entry.2) : resolve declared' anchor = resolve declared anchor := by
  have hmapping := congrArg (fun mapping => mapping.2.methods) (List.map_inj_left.1 h entry hentry)
  exact List.map_inj_left.1 hmapping anchor hanchor

/-- The mappings of an index, as the files stand. -/
def linked (settings : Settings) (files : Disk) (index : TableIndex) : RepositoryMappings :=
  mappingsOf (declaredIn settings files (sources index)) (anchors index)

theorem lookup_linked (settings : Settings) (files : Disk) (index : TableIndex) (table : String) :
    List.lookup table (linked settings files index) = (List.lookup table index).map fun statements =>
      mappingOf (declaredIn settings files (sources index)) table (statements.map anchorOf) := by
  unfold linked mappingsOf anchors
  generalize declaredIn settings files (sources index) = declared
  induction index with
  | nil => rfl
  | cons entry index ih =>
    obtain ⟨t, statements⟩ := entry
    simp only [List.map_cons, List.lookup_cons]
    cases htable : table == t with
    | true =>
      obtain rfl : table = t := by simpa using htable
      rfl
    | false => exact ih

/-- The mapping of a table holds the entries of its statements, in their order. -/
theorem methods_linked {settings : Settings} {files : Disk} {index : TableIndex}
    (hnamed : ∀ entry ∈ index, ∀ s ∈ entry.2, s.statementId ≠ "") (table : String) :
    (List.lookup table (linked settings files index)).map (·.methods) =
      (List.lookup table index).map fun statements =>
        statements.map (resolution settings files) := by
  rw [lookup_linked, Option.map_map]
  refine Option.map_congr fun statements hstatements => ?_
  have hentry := mem_of_lookup hstatements
  simp only [Function.comp_apply, mappingOf, List.map_map]
  refine List.map_congr_left fun s hs => ?_
  apply resolve_anchorOf (hnamed _ hentry s hs)
  rw [lookup_declaredIn, if_pos (anchorOf_file_mem_sources hentry hs)]

theorem isKeyed_mappingsOf (declared : Declared) {index : TableIndex} (h : index.IsDistinct) :
    (mappingsOf declared (anchors index)).IsKeyed where
  distinct := by
    simpa [mappingsOf, anchors, Function.comp_def, TableIndex.IsDistinct, TableIndex.tables] using h
  table entry hentry := by
    obtain ⟨⟨table, anchors⟩, -, rfl⟩ := List.mem_map.1 hentry
    rfl

theorem isKeyed_linked (settings : Settings) (files : Disk) {index : TableIndex}
    (h : index.IsDistinct) : (linked settings files index).IsKeyed :=
  isKeyed_mappingsOf _ h

/-- The mappings of an index, by what was known before and else as the files stand. -/
def relinked (settings : Settings) (files : Disk) (known : Declared) (index : TableIndex) :
    RepositoryMappings :=
  mappingsOf (recalledIn settings files known (sources index)) (anchors index)

theorem relinked_nil (settings : Settings) (files : Disk) (index : TableIndex) :
    relinked settings files [] index = linked settings files index := rfl

end Repository

end Ripple
