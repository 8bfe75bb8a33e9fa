-- SUMMARY: Names and paths of scanned modules, and the one module that all mapper files of a folder belong to.
import Ripple.Proofs.BuildModule.Partition
import Ripple.Proofs.Path.Text

/-! # Modules that a scan found

A module is named after its folder, and the paths of the folders are those that files can have. The
mapper files of one folder all belong to one module, also if the files have changed since the scan.
-/

namespace Ripple

theorem Path.isPart_of_isFileName {name : String} (h : Entry.isFileName name = true) :
    IsPart name := by
  simp only [Entry.isFileName, Bool.and_eq_true, Bool.not_eq_true', bne_iff_ne, ne_eq,
    String.isEmpty_eq_false_iff, List.contains_eq_mem, decide_eq_false_iff_not] at h
  exact ⟨h.1.1.1.1.1, h.1.1.1.1.2, h.1.1.2⟩

namespace BuildModule

/-- Modules that a scan of some files found. -/
def AreScanned (settings : Settings) (modules : List BuildModule) : Prop :=
  ∃ (files : Disk) (journal : String) (root : String), files.tree.wellFormed = true ∧
    (scan files settings journal (Path.ofText root)).2 = .ok modules

section Scanned

variable {settings : Settings} {modules : List BuildModule} {m : BuildModule}

theorem name_of_scan {files : Disk} {journal : String} {root : Path}
    (h : (scan files settings journal root).2 = .ok modules) (hm : m ∈ modules) :
    m.name = m.root.name := by
  unfold scan at h
  split at h
  · cases h
  · cases h
    cases hm
  · dsimp only at h
    split at h
    · cases h
    · rename_i hmodules
      cases h
      obtain ⟨folder, -, hfolder⟩ := exists_of_mem_mapM hmodules hm
      obtain ⟨source, resource, rfl⟩ := exists_of_ofRoot hfolder
      rfl

theorem AreScanned.isProper_root (h : AreScanned settings modules) (hm : m ∈ modules) :
    m.root.IsProper := by
  obtain ⟨files, journal, root, hwf, hscan⟩ := h
  obtain ⟨entry, way, entries, hfind, hroot, hat, -⟩ := (scan_roots hwf hscan).2 m hm
  have hnames := (Entry.wellFormed_at (Disk.wellFormed_of_find hwf hfind) hat).2
  rw [hroot]
  exact (Path.isProper_ofText root).down fun name hname =>
    Path.isPart_of_isFileName (hnames name hname)

theorem AreScanned.name_eq (h : AreScanned settings modules) (hm : m ∈ modules) :
    m.name = m.root.name := by
  obtain ⟨files, journal, root, -, hscan⟩ := h
  exact name_of_scan hscan hm

theorem AreScanned.nodup_roots (h : AreScanned settings modules) :
    (modules.map (·.root)).Nodup := by
  obtain ⟨files, journal, root, hwf, hscan⟩ := h
  exact (scan_roots hwf hscan).1

end Scanned

section Folder

variable {files : Disk} {settings : Settings} {modules : List BuildModule} {m m' : BuildModule}
  {listed listed' : List Path} {path path' : Path}

/-- Which folder is the deepest above a file does not depend on its last name. -/
theorem isDeepestAbove_child {roots : List Path} {root folder : Path} {name name' : String}
    (h : IsDeepestAbove roots root (folder.child name)) :
    IsDeepestAbove roots root (folder.child name') := by
  have habove (other : Path) {name name' : String}
      (h : other.isAbove (folder.child name) = true) :
      other.isAbove (folder.child name') = true := by
    obtain ⟨way, hway, heq⟩ := Path.isAbove_iff.1 h
    obtain ⟨way, last, rfl⟩ := (List.eq_nil_or_concat' way).resolve_left hway
    rw [← Path.down_child] at heq
    obtain ⟨rfl, -⟩ := Path.child_inj.1 heq
    exact Path.isAbove_iff.2 ⟨way ++ [name'], by simp, Path.down_child _ _ _⟩
  -- the same folders are above both files
  exact ⟨habove root h.above, fun other hother hname => h.deepest other hother (habove other hname)⟩

/-- What is known of a file that is listed for a module. -/
theorem exists_way_of_mem_mapperFiles (hwf : files.tree.wellFormed = true)
    (h : mapperFiles files settings m modules = .ok listed) (hpath : path ∈ listed) :
    m.root.hasZero = false ∧ IsDeepestAbove (modules.map (·.root)) m.root path ∧
      ∃ way name, path = m.root.down (way ++ [name]) ∧
        ∀ part ∈ way ++ [name], Entry.isFileName part = true := by
  unfold mapperFiles at h
  have hfound := (List.mem_filter.1 ((mem_filterM h).1 hpath).1).1
  obtain ⟨entry, way, name, hfind, rfl, ⟨content, modified, hat⟩, -, -, hway⟩ :=
    (Disk.mem_filesBelow hwf).1 hfound
  obtain ⟨start, hstart, -⟩ := Disk.find_eq_ok.1 hfind
  have hcheck := Disk.checkPath_eq_ok.1 (Disk.resolve_eq_ok.1 hstart).1
  refine ⟨hcheck.1, ?_, way, name, rfl,
    (Entry.wellFormed_at (Disk.wellFormed_of_find hwf hfind) hat).2⟩
  exact isDeepestAbove_iff.2 fun above part below heq => (hway above part below heq).2

/-- The files of one folder are listed for one module. -/
theorem root_unique_of_mapperFiles (hwf : files.tree.wellFormed = true) (hm : m ∈ modules)
    (hm' : m' ∈ modules) (h : mapperFiles files settings m modules = .ok listed)
    (h' : mapperFiles files settings m' modules = .ok listed') (hpath : path ∈ listed)
    (hpath' : path' ∈ listed') (hparent : path.parent = path'.parent) : m.root = m'.root := by
  obtain ⟨-, hdeepest, way, name, rfl, -⟩ := exists_way_of_mem_mapperFiles hwf h hpath
  obtain ⟨-, hdeepest', way', name', rfl, -⟩ := exists_way_of_mem_mapperFiles hwf h' hpath'
  rw [Path.parent_down_concat, Path.parent_down_concat] at hparent
  rw [← Path.down_child] at hdeepest hdeepest'
  rw [← hparent] at hdeepest'
  exact root_unique (List.mem_map_of_mem hm) (List.mem_map_of_mem hm') hdeepest
    (isDeepestAbove_child hdeepest')

end Folder

end BuildModule

end Ripple
