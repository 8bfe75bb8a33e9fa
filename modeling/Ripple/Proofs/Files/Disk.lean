-- SUMMARY: Writing, making folders and deleting change nothing but one file of the disk.
import Ripple.Files.Disk
import Ripple.Proofs.Except
import Ripple.Proofs.Files.Entry

/-! # Changes of the disk

Writing a file, making its folders and deleting it change nothing but that file: all other files
stay as they are, and all folders stay.
-/

namespace Ripple

namespace Disk

/-- What is at a resolved way. -/
def kindAt (disk : Disk) (way : List String) : Option Kind :=
  disk.tree.kindAt way

/-- The content of the file where a path leads. -/
def contentAt (disk : Disk) (path : Path) : Option Bytes :=
  match disk.kindAt (disk.wayTo path) with
  | some (.file content _) => some content
  | _ => none

theorem contentAt_eq_some {disk : Disk} {path : Path} {content : Bytes} :
    disk.contentAt path = some content ↔
      ∃ modified, disk.kindAt (disk.wayTo path) = some (.file content modified) := by
  unfold contentAt
  split
  · rename_i found modified hkind
    simp [hkind]
  · rename_i hkind
    simp only [reduceCtorEq, false_iff, not_exists]
    exact fun modified hfile => hkind content modified hfile

theorem advance_eq (disk : Disk) (way : List String) (name : String) :
    disk.advance way name = match disk.kindAt way with
      | none => .error .notFound
      | some (.file ..) => .error .notFolder
      | some .folder =>
        if maxNameSize < name.utf8ByteSize then .error .tooLong else .ok (nextWay way name) := by
  unfold advance kindAt Entry.kindAt
  cases disk.tree.at? way with
  | none => rfl
  | some entry => cases entry <;> rfl

/-- A step succeeds exactly at a folder, with a name that is not too long. -/
theorem advance_eq_ok {disk : Disk} {way next : List String} {name : String} :
    disk.advance way name = .ok next ↔
      disk.kindAt way = some .folder ∧ name.utf8ByteSize ≤ maxNameSize ∧ next = nextWay way name := by
  rw [advance_eq]
  cases disk.kindAt way with
  | none => simp
  | some kind =>
    cases kind with
    | file => simp
    | folder =>
      simp only [true_and]
      split
      · simp; omega
      · simp [eq_comm]; omega

theorem foldlM_advance_eq {disk : Disk} {names way final : List String}
    (h : names.foldlM disk.advance way = .ok final) : final = names.foldl nextWay way := by
  induction names generalizing way with
  | nil =>
    cases h
    rfl
  | cons name names ih =>
    rw [List.foldlM_cons] at h
    obtain ⟨next, hnext, hrest⟩ := bind_eq_ok.1 h
    obtain ⟨-, -, rfl⟩ := advance_eq_ok.1 hnext
    exact ih hrest

theorem resolve_eq_ok {disk : Disk} {path : Path} {way : List String} :
    disk.resolve path = .ok way ↔
      checkPath path = .ok () ∧ path.names.foldlM disk.advance (disk.startOf path) = .ok way := by
  unfold resolve
  cases checkPath path with
  | error e => simp [bind, Except.bind]
  | ok u => simp [bind, Except.bind]

theorem resolve_eq_wayTo {disk : Disk} {path : Path} {way : List String}
    (h : disk.resolve path = .ok way) : way = disk.wayTo path :=
  foldlM_advance_eq (resolve_eq_ok.1 h).2

/-- What is at a path. -/
theorem find_eq_ok {disk : Disk} {path : Path} {entry : Entry} :
    disk.find path = .ok entry ↔
      ∃ way, disk.resolve path = .ok way ∧ disk.tree.at? way = some entry := by
  unfold find
  rw [bind_eq_ok]
  refine exists_congr fun way => and_congr_right fun _ => ?_
  cases disk.tree.at? way <;> simp

theorem isFolderAt_eq_true {disk : Disk} {path : Path} :
    disk.isFolderAt path = .ok true ↔ ∃ entries, disk.find path = .ok (.folder entries) := by
  unfold isFolderAt entryAt
  cases disk.find path with
  | error e => cases e <;> simp [bind, Except.bind, pure, Except.pure]
  | ok entry => cases entry <;> simp [bind, Except.bind, pure, Except.pure, Entry.isFolder]

theorem read_eq_ok_iff_find {disk : Disk} {path : Path} {content : Bytes} :
    disk.read path = .ok content ↔ ∃ modified, disk.find path = .ok (.file content modified) := by
  unfold read
  cases disk.find path with
  | error e => simp [bind, Except.bind]
  | ok entry => cases entry <;> simp [bind, Except.bind]

/-- What can be read are the files. -/
theorem read_eq_ok {disk : Disk} {path : Path} {content : Bytes} :
    disk.read path = .ok content ↔
      ∃ way modified, disk.resolve path = .ok way ∧
        disk.kindAt way = some (.file content modified) := by
  rw [read_eq_ok_iff_find]
  constructor
  · rintro ⟨modified, hfind⟩
    obtain ⟨way, hway, hat⟩ := find_eq_ok.1 hfind
    exact ⟨way, modified, hway, by simp [kindAt, Entry.kindAt, hat, Entry.kind]⟩
  · rintro ⟨way, modified, hway, hkind⟩
    obtain ⟨entry, hat, hentry⟩ := Option.map_eq_some_iff.1 hkind
    refine ⟨modified, find_eq_ok.2 ⟨way, hway, ?_⟩⟩
    cases entry with
    | folder entries => cases hentry
    | file found time =>
      cases hentry
      exact hat

theorem existsAt_of_read {disk : Disk} {path : Path} {content : Bytes}
    (h : disk.read path = .ok content) : disk.existsAt path = .ok true := by
  unfold read at h
  obtain ⟨entry, hfind, -⟩ := bind_eq_ok.1 h
  unfold existsAt entryAt
  rw [hfind]
  rfl

theorem contentAt_of_read {disk : Disk} {path : Path} {content : Bytes}
    (h : disk.read path = .ok content) : disk.contentAt path = some content := by
  obtain ⟨way, modified, hway, hkind⟩ := read_eq_ok.1 h
  exact contentAt_eq_some.2 ⟨modified, resolve_eq_wayTo hway ▸ hkind⟩

/-- A way leads on where there are at least the same folders. -/
theorem foldlM_advance_of_folders {disk disk' : Disk}
    (h : ∀ way, disk.kindAt way = some .folder → disk'.kindAt way = some .folder)
    {names start final : List String} (hfold : names.foldlM disk.advance start = .ok final) :
    names.foldlM disk'.advance start = .ok final := by
  induction names generalizing start with
  | nil => exact hfold
  | cons name names ih =>
    rw [List.foldlM_cons] at hfold ⊢
    obtain ⟨next, hnext, hrest⟩ := bind_eq_ok.1 hfold
    obtain ⟨hfolder, hname, rfl⟩ := advance_eq_ok.1 hnext
    exact bind_eq_ok.2 ⟨_, advance_eq_ok.2 ⟨h _ hfolder, hname, rfl⟩, ih hrest⟩

/-- A name that is too long stays so where there are at least the same folders. -/
theorem foldlM_advance_tooLong {disk disk' : Disk}
    (h : ∀ way, disk.kindAt way = some .folder → disk'.kindAt way = some .folder)
    {names start : List String} (hfold : names.foldlM disk.advance start = .error .tooLong) :
    names.foldlM disk'.advance start = .error .tooLong := by
  induction names generalizing start with
  | nil => cases hfold
  | cons name names ih =>
    rw [List.foldlM_cons] at hfold ⊢
    cases hnext : disk.advance start name with
    | ok next =>
      obtain ⟨hfolder, hname, rfl⟩ := advance_eq_ok.1 hnext
      rw [hnext] at hfold
      rw [advance_eq_ok.2 ⟨h _ hfolder, hname, rfl⟩]
      exact ih hfold
    | error e =>
      rw [hnext] at hfold
      cases hfold
      rw [advance_eq] at hnext ⊢
      split at hnext
      · cases hnext
      · cases hnext
      · rename_i hfolder
        rw [h _ hfolder]
        split at hnext
        · rename_i hlong
          exact congrArg (· >>= names.foldlM disk'.advance) (if_pos hlong)
        · cases hnext

/-! ## Frames -/

/-- All files but those at some ways are the same, and all folders are still there. -/
structure KeepsBut (changed : List (List String)) (disk disk' : Disk) : Prop where
  home : disk'.home = disk.home
  folder {place : List String} :
    disk.kindAt place = some .folder → disk'.kindAt place = some .folder
  file {place : List String} (hplace : place ∉ changed) (content : Bytes) (modified : Int) :
    disk'.kindAt place = some (.file content modified) ↔
      disk.kindAt place = some (.file content modified)

namespace KeepsBut

variable {changed more : List (List String)} {disk disk' disk'' : Disk}

theorem refl (changed : List (List String)) (disk : Disk) : KeepsBut changed disk disk where
  home := rfl
  folder h := h
  file _ _ _ := Iff.rfl

theorem trans (h : KeepsBut changed disk disk') (h' : KeepsBut changed disk' disk'') :
    KeepsBut changed disk disk'' where
  home := h'.home.trans h.home
  folder hfolder := h'.folder (h.folder hfolder)
  file hplace content modified :=
    (h'.file hplace content modified).trans (h.file hplace content modified)

theorem mono (h : KeepsBut changed disk disk') (hmore : changed ⊆ more) :
    KeepsBut more disk disk' where
  home := h.home
  folder := h.folder
  file hplace := h.file fun hmem => hplace (hmore hmem)

theorem startOf (h : KeepsBut changed disk disk') (path : Path) :
    disk'.startOf path = disk.startOf path := by
  simp [Disk.startOf, h.home]

theorem wayTo (h : KeepsBut changed disk disk') (path : Path) :
    disk'.wayTo path = disk.wayTo path := by
  simp [Disk.wayTo, h.startOf]

/-- A path that leads somewhere still leads there. -/
theorem resolve (h : KeepsBut changed disk disk') {path : Path} {final : List String}
    (hresolve : disk.resolve path = .ok final) : disk'.resolve path = .ok final := by
  rw [resolve_eq_ok] at hresolve ⊢
  rw [h.startOf]
  exact ⟨hresolve.1, foldlM_advance_of_folders (fun _ => h.folder) hresolve.2⟩

/-- Another file is read as before. -/
theorem read (h : KeepsBut changed disk disk') {path : Path} (hpath : disk.wayTo path ∉ changed)
    {content : Bytes} (hread : disk.read path = .ok content) : disk'.read path = .ok content := by
  obtain ⟨final, modified, hresolve, hkind⟩ := read_eq_ok.1 hread
  rw [← resolve_eq_wayTo hresolve] at hpath
  exact read_eq_ok.2 ⟨final, modified, h.resolve hresolve, (h.file hpath _ _).2 hkind⟩

theorem contentAt (h : KeepsBut changed disk disk') {path : Path}
    (hpath : disk.wayTo path ∉ changed) : disk'.contentAt path = disk.contentAt path := by
  apply Option.ext
  intro content
  rw [contentAt_eq_some, contentAt_eq_some, h.wayTo]
  exact exists_congr fun modified => h.file hpath content modified

/-- What can be asked about afterwards could be asked about before. -/
theorem exists_isFileAt (h : KeepsBut changed disk disk') {path : Path}
    (hafter : ∃ b, disk'.isFileAt path = .ok b) : ∃ b, disk.isFileAt path = .ok b := by
  -- Only a name that is too long is a fault here; every other error means that there is no file.
  have hlong : disk.find path = .error .tooLong → disk'.find path = .error .tooLong := by
    unfold find Disk.resolve
    rw [h.startOf]
    cases checkPath path with
    | error e => exact id
    | ok u =>
      cases hfold : path.names.foldlM disk.advance (disk.startOf path) with
      | ok final => cases hat : disk.tree.at? final <;> simp [bind, Except.bind, hat]
      | error e =>
        intro he
        simp only [bind, Except.bind] at he
        cases he
        simp [bind, Except.bind, foldlM_advance_tooLong (fun _ => h.folder) hfold]
  unfold isFileAt entryAt at hafter ⊢
  cases hfind : disk.find path with
  | ok entry => exact ⟨_, rfl⟩
  | error e =>
    cases e with
    | tooLong =>
      rw [hlong hfind] at hafter
      obtain ⟨b, hb⟩ := hafter
      cases hb
    | notFound | notFolder | isFolder | zeroInPath | brokenOff => exact ⟨_, rfl⟩

end KeepsBut

theorem kindAt_dropLast {disk : Disk} {way : List String} (hne : way ≠ [])
    (h : disk.kindAt way ≠ none) : disk.kindAt way.dropLast = some .folder :=
  Entry.kindAt_dropLast hne h

theorem kindAt_put {disk : Disk} {way : List String} {new : Entry} (hne : way ≠ [])
    (hparent : disk.kindAt way.dropLast = some .folder) (hnew : new.IsLeaf)
    (hold : disk.kindAt way ≠ some .folder) (place : List String) :
    (disk.put way new).kindAt place = if place = way then some new.kind else disk.kindAt place :=
  Entry.kindAt_put hne hparent hnew hold place

/-- A change at one place that was no folder keeps all else. -/
theorem keepsBut_of_kindAt {disk disk' : Disk} {way : List String} (hhome : disk'.home = disk.home)
    (hold : disk.kindAt way ≠ some .folder)
    (hplace : ∀ place, place ≠ way → disk'.kindAt place = disk.kindAt place) :
    disk.KeepsBut [way] disk' where
  home := hhome
  folder {place} hfolder := by
    have hne : place ≠ way := by
      rintro rfl
      exact hold hfolder
    rwa [hplace place hne]
  file hmem content modified := by rw [hplace _ (by simpa using hmem)]

/-- What a write that succeeds has found. -/
theorem write_eq_ok {disk disk' : Disk} {path : Path} {content : Bytes} {modified : Int}
    (h : disk.write path content modified = .ok disk') :
    ∃ way, disk.resolve path = .ok way ∧ way ≠ [] ∧ disk.kindAt way ≠ some .folder ∧
      disk.kindAt way.dropLast = some .folder ∧ disk' = disk.put way (.file content modified) := by
  unfold write at h
  obtain ⟨way, hway, h⟩ := bind_eq_ok.1 h
  refine ⟨way, hway, ?_⟩
  split at h
  · cases h
  · rename_i hne
    split at h
    · cases h
    · rename_i hold
      split at h
      · rename_i entries hparent
        cases h
        refine ⟨by simpa using hne, ?_, by simp [kindAt, Entry.kindAt, hparent, Entry.kind], rfl⟩
        intro hfolder
        obtain ⟨entry, hat, hkind⟩ := Option.map_eq_some_iff.1 hfolder
        obtain ⟨entries, rfl⟩ := Entry.exists_folder_of_kind hkind
        exact hold entries hat
      · cases h
      · cases h

/-- Writing a file changes nothing else. -/
theorem keepsBut_write {disk disk' : Disk} {path : Path} {content : Bytes} {modified : Int}
    (h : disk.write path content modified = .ok disk') : disk.KeepsBut [disk.wayTo path] disk' := by
  obtain ⟨way, hway, hne, hold, hparent, rfl⟩ := write_eq_ok h
  rw [← resolve_eq_wayTo hway]
  refine keepsBut_of_kindAt rfl hold fun place hplace => ?_
  rw [kindAt_put hne hparent (Entry.isLeaf_file ..) hold, if_neg hplace]

/-- A written file is read back. -/
theorem read_write {disk disk' : Disk} {path : Path} {content : Bytes} {modified : Int}
    (h : disk.write path content modified = .ok disk') : disk'.read path = .ok content := by
  have hkeeps := keepsBut_write h
  obtain ⟨way, hway, hne, hold, hparent, rfl⟩ := write_eq_ok h
  refine read_eq_ok.2 ⟨way, modified, hkeeps.resolve hway, ?_⟩
  rw [kindAt_put hne hparent (Entry.isLeaf_file ..) hold, if_pos rfl]
  rfl

/-- Appending writes the whole file again. -/
theorem append_eq_ok {disk disk' : Disk} {path : Path} {content : Bytes}
    (h : disk.append path content = .ok disk') : ∃ whole, disk.write path whole 0 = .ok disk' := by
  unfold append at h
  split at h
  · exact ⟨_, h⟩
  · exact ⟨_, h⟩
  · cases h

/-- A file in a folder, which can be written again. -/
def Holds (disk : Disk) (path : Path) (content : Bytes) : Prop :=
  ∃ way modified, disk.resolve path = .ok way ∧ way ≠ [] ∧
    disk.kindAt way = some (.file content modified)

theorem Holds.read {disk : Disk} {path : Path} {content : Bytes} (h : disk.Holds path content) :
    disk.read path = .ok content := by
  obtain ⟨way, modified, hway, -, hkind⟩ := h
  exact read_eq_ok.2 ⟨way, modified, hway, hkind⟩

theorem holds_write {disk disk' : Disk} {path : Path} {content : Bytes} {modified : Int}
    (h : disk.write path content modified = .ok disk') : disk'.Holds path content := by
  obtain ⟨way, hway, hne, -⟩ := write_eq_ok h
  obtain ⟨way', modified', hway', hkind⟩ := read_eq_ok.1 (read_write h)
  obtain rfl : way = way' := Except.ok.inj (((keepsBut_write h).resolve hway).symm.trans hway')
  exact ⟨way, modified', hway', hne, hkind⟩

/-- A file that is there can be written anew. -/
theorem Holds.write {disk : Disk} {path : Path} {old : Bytes} (h : disk.Holds path old)
    (content : Bytes) (modified : Int) : ∃ disk', disk.write path content modified = .ok disk' := by
  obtain ⟨way, time, hway, hne, hkind⟩ := h
  have hparent := kindAt_dropLast hne (by rw [hkind]; simp)
  obtain ⟨entry, hat, hfile⟩ := Option.map_eq_some_iff.1 hkind
  obtain ⟨above, habove, hfolder⟩ := Option.map_eq_some_iff.1 hparent
  obtain ⟨entries, rfl⟩ := Entry.exists_folder_of_kind hfolder
  have hempty : way.isEmpty = false := by simpa using hne
  refine ⟨disk.put way (.file content modified), ?_⟩
  unfold Disk.write
  rw [hway]
  cases entry with
  | folder entries => cases hfile
  | file old time => simp [bind, Except.bind, hempty, hat, habove]

/-- What is added to a file stands behind what it holds. -/
theorem Holds.append {disk : Disk} {path : Path} {old : Bytes} (h : disk.Holds path old)
    (content : Bytes) :
    ∃ disk', disk.append path content = .ok disk' ∧ disk'.Holds path (old ++ content) := by
  obtain ⟨disk', hwrite⟩ := h.write (old ++ content) 0
  refine ⟨disk', ?_, holds_write hwrite⟩
  unfold Disk.append
  rw [h.read]
  exact hwrite

/-- What a deletion that succeeds has found. -/
theorem delete_eq_ok {disk disk' : Disk} {path : Path} (h : disk.delete path = .ok disk') :
    ∃ way content modified, disk.resolve path = .ok way ∧
      disk.kindAt way = some (.file content modified) ∧
      disk' = { disk with tree := disk.tree.removeAt way } := by
  unfold delete at h
  obtain ⟨way, hway, h⟩ := bind_eq_ok.1 h
  split at h
  · rename_i content modified hat
    cases h
    exact ⟨way, content, modified, hway, by simp [kindAt, Entry.kindAt, hat, Entry.kind], rfl⟩
  · cases h
  · cases h

/-- Deleting a file changes nothing but its place. -/
theorem kindAt_delete {disk disk' : Disk} {path : Path} (h : disk.delete path = .ok disk') :
    (∀ place, place ≠ disk.wayTo path → disk'.kindAt place = disk.kindAt place) ∧
      (∀ content modified, disk'.kindAt (disk.wayTo path) ≠ some (.file content modified)) ∧
      (disk'.kindAt (disk.wayTo path) = some .folder →
        ∀ place, place ≠ disk.wayTo path → disk.kindAt place = none) := by
  obtain ⟨way, content, modified, hway, hold, rfl⟩ := delete_eq_ok h
  rw [← resolve_eq_wayTo hway]
  by_cases hne : way = []
  · -- The whole tree is a file, and there is no other place.
    subst hne
    have hnone : ∀ place, place ≠ [] → disk.kindAt place = none := by
      intro place hplace
      obtain ⟨name, names, rfl⟩ := List.exists_cons_of_ne_nil hplace
      unfold kindAt at hold ⊢
      cases htree : disk.tree with
      | folder entries => simp [htree, Entry.kind] at hold
      | file content modified => exact (Entry.isLeaf_file content modified).kindAt_cons name names
    refine ⟨fun place hplace => ?_, (fun content modified hfile => by cases hfile), fun _ => hnone⟩
    obtain ⟨name, names, rfl⟩ := List.exists_cons_of_ne_nil hplace
    rw [hnone _ hplace]
    exact Entry.isLeaf_empty.kindAt_cons name names
  · have hfolder : disk.kindAt way ≠ some .folder := by rw [hold]; simp
    have hparent := kindAt_dropLast hne (by rw [hold]; simp)
    have hremove := Entry.kindAt_remove hne hparent hfolder
    have hself : ({ disk with tree := disk.tree.removeAt way } : Disk).kindAt way = none :=
      (hremove way).trans (if_pos rfl)
    refine ⟨fun place hplace => (hremove place).trans (if_neg hplace), ?_, ?_⟩
    · intro content modified hfile
      cases hself.symm.trans hfile
    · intro hfolder
      cases hself.symm.trans hfolder

theorem keepsBut_delete {disk disk' : Disk} {path : Path} (h : disk.delete path = .ok disk') :
    disk.KeepsBut [disk.wayTo path] disk' := by
  obtain ⟨way, content, modified, hway, hold, hdisk⟩ := delete_eq_ok h
  refine keepsBut_of_kindAt (by rw [hdisk]) ?_ (kindAt_delete h).1
  rw [← resolve_eq_wayTo hway, hold]
  simp

/-- Where a file was deleted there is none. -/
theorem contentAt_delete {disk disk' : Disk} {path : Path} (h : disk.delete path = .ok disk') :
    disk'.contentAt path = none := by
  rw [Option.eq_none_iff_forall_ne_some]
  intro content hcontent
  obtain ⟨modified, hkind⟩ := contentAt_eq_some.1 hcontent
  rw [(keepsBut_delete h).wayTo] at hkind
  exact (kindAt_delete h).2.1 _ _ hkind

/-- Deleting a file takes nothing else away and brings nothing up. -/
theorem read_delete {disk disk' : Disk} {place path : Path} (h : disk.delete place = .ok disk')
    (hne : disk.wayTo path ≠ disk.wayTo place) {content : Bytes} :
    disk'.read path = .ok content ↔ disk.read path = .ok content := by
  refine ⟨fun hread => ?_, (keepsBut_delete h).read (by simpa using hne)⟩
  obtain ⟨final, modified, hresolve, hkind⟩ := read_eq_ok.1 hread
  have hfinal : final ≠ disk.wayTo place := by
    rw [resolve_eq_wayTo hresolve, (keepsBut_delete h).wayTo]
    exact hne
  obtain ⟨hothers, -, hself⟩ := kindAt_delete h
  rw [hothers final hfinal] at hkind
  -- A deletion makes a folder only where the whole tree was the file, and then `path` is nothing.
  have hfolder : ∀ way, disk'.kindAt way = some .folder → disk.kindAt way = some .folder := by
    intro way hway
    by_cases hplace : way = disk.wayTo place
    · rw [hplace] at hway
      rw [hself hway final hfinal] at hkind
      cases hkind
    · rwa [hothers way hplace] at hway
  refine read_eq_ok.2 ⟨final, modified, ?_, hkind⟩
  rw [resolve_eq_ok, (keepsBut_delete h).startOf] at hresolve
  exact resolve_eq_ok.2 ⟨hresolve.1, foldlM_advance_of_folders hfolder hresolve.2⟩

/-- What can be read can be deleted. -/
theorem delete_of_read {disk : Disk} {path : Path} {content : Bytes}
    (h : disk.read path = .ok content) : ∃ disk', disk.delete path = .ok disk' := by
  obtain ⟨modified, hfind⟩ := read_eq_ok_iff_find.1 h
  obtain ⟨way, hway, hat⟩ := find_eq_ok.1 hfind
  unfold delete
  rw [hway]
  simp [bind, Except.bind, hat]

theorem read_of_delete {disk disk' : Disk} {path : Path} (h : disk.delete path = .ok disk') :
    ∃ content, disk.read path = .ok content := by
  obtain ⟨way, content, modified, hway, hkind, -⟩ := delete_eq_ok h
  exact ⟨content, read_eq_ok.2 ⟨way, modified, hway, hkind⟩⟩

/-- The disk without the file at a path, if there is one. -/
def without (disk : Disk) (path : Path) : Disk :=
  (disk.delete path).toOption.getD disk

theorem without_cases (disk : Disk) (path : Path) :
    disk.delete path = .ok (disk.without path) ∨
      (∃ e, disk.delete path = .error e) ∧ disk.without path = disk := by
  unfold without
  cases disk.delete path with
  | ok disk' => exact .inl rfl
  | error e => exact .inr ⟨⟨e, rfl⟩, rfl⟩

theorem read_without (disk : Disk) (path : Path) (content : Bytes) :
    (disk.without path).read path ≠ .ok content := by
  intro hread
  obtain hdelete | ⟨⟨e, herror⟩, hsame⟩ := disk.without_cases path
  · cases (contentAt_delete hdelete).symm.trans (contentAt_of_read hread)
  · rw [hsame] at hread
    obtain ⟨disk', hdelete⟩ := delete_of_read hread
    cases herror.symm.trans hdelete

theorem isFileAt_iff {disk : Disk} {path : Path} :
    disk.isFileAt path = .ok true ↔ ∃ content, disk.read path = .ok content := by
  unfold isFileAt entryAt read
  cases hfind : disk.find path with
  | error e => cases e <;> simp [bind, Except.bind, pure, Except.pure]
  | ok entry => cases entry <;> simp [bind, Except.bind, Entry.isFolder, pure, Except.pure]

/-- A new folder in a folder. -/
theorem keepsBut_newFolder {disk : Disk} {start : List String} {name : String}
    (hnone : disk.kindAt (nextWay start name) = none) (hfolder : disk.kindAt start = some .folder) :
    disk.KeepsBut [] (disk.put (nextWay start name) .empty) := by
  have hnext : nextWay start name = start ++ [name] := by
    unfold nextWay at hnone ⊢
    split
    · -- The folder above a folder exists.
      rename_i hup
      rw [if_pos hup] at hnone
      by_cases hstart : start = []
      · rw [hstart] at hnone hfolder
        rw [List.dropLast_nil, hfolder] at hnone
        cases hnone
      · have habove := kindAt_dropLast hstart (by rw [hfolder]; simp)
        rw [hnone] at habove
        cases habove
    · rfl
  rw [hnext] at hnone ⊢
  have hkind := kindAt_put (List.append_ne_nil_of_right_ne_nil start (List.cons_ne_nil name []))
    (by rwa [List.dropLast_concat]) Entry.isLeaf_empty (by rw [hnone]; simp)
  refine ⟨rfl, ?_, ?_⟩
  · intro place hplace
    rw [hkind]
    split
    · rfl
    · exact hplace
  · intro place _ content modified
    rw [hkind]
    split
    · rename_i hplace
      rw [hplace, hnone]
      simp [Entry.kind, Entry.empty]
    · rfl

/-- Making folders changes no file. -/
theorem keepsBut_makeFrom (disk : Disk) (start names : List String) :
    disk.KeepsBut [] (disk.makeFrom start names).1 := by
  induction names generalizing disk start with
  | nil => exact .refl [] disk
  | cons name names ih =>
    rw [makeFrom]
    split
    · exact .refl [] disk
    · rename_i next hnext
      split
      · exact ih disk next
      · exact .refl [] disk
      · rename_i hnone
        obtain ⟨hfolder, -, rfl⟩ := advance_eq_ok.1 hnext
        refine KeepsBut.trans (keepsBut_newFolder ?_ ?_) (ih _ _)
        · simp [kindAt, Entry.kindAt, hnone]
        · exact hfolder

theorem keepsBut_makeFolders (disk : Disk) (path : Path) :
    disk.KeepsBut [] (disk.makeFolders path).1 := by
  unfold makeFolders
  split
  · exact .refl [] disk
  · exact keepsBut_makeFrom disk _ _

end Disk

end Ripple
