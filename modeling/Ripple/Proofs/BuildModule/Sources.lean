-- SUMMARY: Source files are listed once and completely, also for nested modules, but for long paths.
import Ripple.Proofs.BuildModule.Partition

/-! # Every source file is found once

The folders of sources may lie inside each other, and paths that are spelled differently may lead to
one place. A file is listed by the first path that leads to it, so it is listed once, and all source
files are listed that some module's walk comes to: those with no excluded folder between the
module's folder of sources and the file. Only files in folders whose path is too long are passed
over.
-/

namespace Ripple.BuildModule

/-! ## Paths of different files -/

/-- What is kept of some paths: one path for each place that they lead to. -/
structure KeepsPlaces (files : Disk) (paths : List Path) (found : List (List String) × List Path) :
    Prop where
  places : found.1 = found.2.map files.wayTo
  nodup : found.1.Nodup
  kept : ∀ path ∈ found.2, path ∈ paths
  covered : ∀ path ∈ paths, files.wayTo path ∈ found.1

theorem KeepsPlaces.addFile {files : Disk} {paths : List Path}
    {found : List (List String) × List Path} (h : KeepsPlaces files paths found) (path : Path) :
    KeepsPlaces files (paths ++ [path]) (addFile files found path) := by
  unfold BuildModule.addFile
  simp only [List.contains_eq_mem, decide_eq_true_eq]
  split
  · rename_i hplace
    refine ⟨h.places, h.nodup, fun kept hkept => List.mem_append_left _ (h.kept kept hkept), ?_⟩
    intro later hlater
    obtain hlater | hlater := List.mem_append.1 hlater
    · exact h.covered later hlater
    · rwa [List.mem_singleton.1 hlater]
  · rename_i hplace
    refine ⟨by simp [h.places], ?_, ?_, ?_⟩
    · exact h.nodup.append (List.nodup_singleton _) (by simpa using hplace)
    · intro kept hkept
      exact List.mem_append.2 ((List.mem_append.1 hkept).imp_left (h.kept kept))
    · intro later hlater
      obtain hlater | hlater := List.mem_append.1 hlater
      · exact List.mem_append_left _ (h.covered later hlater)
      · rw [List.mem_singleton.1 hlater]
        exact List.mem_append_right _ (List.mem_singleton_self _)

theorem KeepsPlaces.foldl {files : Disk} {before : List Path}
    {found : List (List String) × List Path} (h : KeepsPlaces files before found)
    (paths : List Path) :
    KeepsPlaces files (before ++ paths) (paths.foldl (BuildModule.addFile files) found) := by
  induction paths generalizing before found with
  | nil => simpa using h
  | cons path paths ih =>
    rw [List.append_cons, List.foldl_cons]
    exact ih (h.addFile path)

theorem keepsPlaces_distinctFiles (files : Disk) (paths : List Path) :
    KeepsPlaces files paths
      ((distinctFiles files paths).map files.wayTo, distinctFiles files paths) := by
  have hempty : KeepsPlaces files [] ([], []) := ⟨rfl, List.nodup_nil, by simp, by simp⟩
  have hkeeps := hempty.foldl paths
  rw [List.nil_append] at hkeeps
  unfold distinctFiles
  rwa [← hkeeps.places]

/-! ## Source files -/

/-- A source file inside a folder: one with the ending, and no excluded folder between. -/
structure IsSourceFile (files : Disk) (excluded : List String) (source path : Path) : Prop where
  inside : source.IsInside path
  file : files.tree.HoldsFile (files.wayTo path)
  ending : ".java".toList <:+ path.name.toList
  entered : ∀ name ∈ between source path, name ∉ excluded

section

variable {files : Disk} {settings others : Settings} {journal : String} {root source path : Path}
  {modules : List BuildModule} {m : BuildModule}

theorem isFolderAt_of_firstFolder? {paths : List Path}
    (h : firstFolder? files paths = .ok (some path)) :
    files.isFolderAt path = .ok true := by
  induction paths with
  | nil => cases h
  | cons first paths ih =>
    obtain ⟨isFolder, hfirst, h⟩ := bind_eq_ok.1 h
    cases isFolder with
    | true =>
      cases h
      exact hfirst
    | false => exact ih h

/-- The folder of sources of a module, if it has one, is there. -/
theorem find_source_of_ofRoot (h : ofRoot files settings root = .ok m)
    (hsource : m.source = some source) :
    ∃ entries, files.find source = .ok (.folder entries) := by
  unfold ofRoot at h
  obtain ⟨sourceDir, -, h⟩ := bind_eq_ok.1 h
  obtain ⟨resource, -, h⟩ := bind_eq_ok.1 h
  split at h
  · cases h
  · obtain ⟨found, hfound, h⟩ := bind_eq_ok.1 h
    cases h
    cases hsource
    cases hfirst : firstFolder? files [root.below sourceDir] with
    | error e =>
      rw [hfirst] at hfound
      cases hfound
    | ok found =>
      rw [hfirst] at hfound
      cases hfound
      exact Disk.isFolderAt_eq_true.1 (isFolderAt_of_firstFolder? hfirst)

theorem find_source_of_scan (h : (scan files settings journal root).2 = .ok modules)
    (hm : m ∈ modules) (hsource : m.source = some source) :
    ∃ entries, files.find source = .ok (.folder entries) := by
  unfold scan at h
  split at h
  · cases h
  · cases h
    cases hm
  · dsimp only at h
    split at h
    · cases h
    · rename_i hmodules
      cases h
      obtain ⟨folder, -, hfolder⟩ := exists_of_mem_mapM hmodules hm
      exact find_source_of_ofRoot hfolder hsource

/-- The files that the walk of a folder of sources comes to. -/
theorem mem_filesBelow_source (hwf : files.tree.wellFormed = true) {entries : List (String × Entry)}
    (hfind : files.find source = .ok (.folder entries)) {excluded : List String} :
    path ∈ files.filesBelow source ".java" excluded [] ↔
      IsSourceFile files excluded source path ∧
        path.parent.text.utf8ByteSize ≤ Disk.maxPathSize := by
  obtain ⟨place, hplace, hat⟩ := Disk.find_eq_ok.1 hfind
  have hplace := Disk.resolve_eq_wayTo hplace
  subst hplace
  rw [Disk.mem_filesBelow hwf]
  constructor
  · rintro ⟨entry, way, name, hentry, rfl, hfile, hending, hshort, hway⟩
    rw [hfind] at hentry
    cases hentry
    -- no entry of a folder is called like the way back
    have hnames : ".." ∉ way ++ [name] := by
      obtain ⟨content, modified, hcontent⟩ := hfile
      intro hback
      have hname := (Entry.wellFormed_at (Disk.wellFormed_of_find hwf hfind) hcontent).2 ".." hback
      exact absurd hname (by decide)
    refine ⟨⟨Path.isInside_iff.2 ⟨_, by simp, rfl, hnames⟩, ?_, ?_, ?_⟩, ?_⟩
    · rw [files.wayTo_down source hnames]
      exact (Entry.holdsFile_append hat _).2 hfile
    · rwa [Path.name_down_concat]
    · rw [between_down]
      intro part hpart
      obtain ⟨above, below, heq⟩ := List.append_of_mem hpart
      exact (hway above part below heq).1
    · rwa [Path.parent_down_concat]
  · rintro ⟨⟨hinside, hfile, hending, hentered⟩, hshort⟩
    obtain ⟨names, hne, rfl, hnames⟩ := Path.isInside_iff.1 hinside
    obtain rfl | ⟨way, name, rfl⟩ := List.eq_nil_or_concat' names
    · exact absurd rfl hne
    · rw [files.wayTo_down source hnames, Entry.holdsFile_append hat] at hfile
      rw [Path.name_down_concat] at hending
      rw [between_down] at hentered
      rw [Path.parent_down_concat] at hshort
      refine ⟨_, way, name, hfind, rfl, hfile, hending, hshort, ?_⟩
      rintro above part below rfl
      exact ⟨hentered part (by simp), List.not_mem_nil⟩

/-- Source files are listed by different places, and the files that are listed are the source files
of all modules, except in folders whose path is too long. -/
theorem sourceFiles_exact (hwf : files.tree.wellFormed = true)
    (hscan : (scan files settings journal root).2 = .ok modules) :
    ((sourceFiles files others modules).map files.wayTo).Nodup ∧
    (∀ path ∈ sourceFiles files others modules, ∃ m ∈ modules, ∃ source, m.source = some source ∧
      IsSourceFile files (excludedNames others) source path ∧
      path.parent.text.utf8ByteSize ≤ Disk.maxPathSize) ∧
    ∀ m ∈ modules, ∀ source path, m.source = some source →
      IsSourceFile files (excludedNames others) source path →
      path.parent.text.utf8ByteSize ≤ Disk.maxPathSize →
        ∃ listed ∈ sourceFiles files others modules, files.wayTo listed = files.wayTo path := by
  obtain ⟨-, hnodup, hkept, hcovered⟩ := keepsPlaces_distinctFiles files
    ((modules.filterMap (·.source)).flatMap fun source =>
      files.filesBelow source ".java" (excludedNames others) [])
  refine ⟨hnodup, ?_, ?_⟩
  · intro path hpath
    obtain ⟨source, hsource, hbelow⟩ := List.mem_flatMap.1 (hkept path hpath)
    obtain ⟨m, hm, hsource⟩ := List.mem_filterMap.1 hsource
    obtain ⟨entries, hfind⟩ := find_source_of_scan hscan hm hsource
    exact ⟨m, hm, source, hsource, (mem_filesBelow_source hwf hfind).1 hbelow⟩
  · intro m hm source path hsource hfile hshort
    obtain ⟨entries, hfind⟩ := find_source_of_scan hscan hm hsource
    have hbelow := (mem_filesBelow_source hwf hfind).2 ⟨hfile, hshort⟩
    refine List.mem_map.1 (hcovered path (List.mem_flatMap.2 ⟨source, ?_, hbelow⟩))
    exact List.mem_filterMap.2 ⟨m, hm, hsource⟩

end

/-- A module that lies inside the folder of sources of another. -/
def nestedSources : Disk where
  home := []
  tree := .folder [("top", .folder [("app", .folder
    [("pom.xml", .file [] 0),
      ("src", .folder
        [("App.java", .file [] 0),
          ("target", .folder [("Old.java", .file [] 0)]),
          ("plugin", .folder
            [("pom.xml", .file [] 0), ("src", .folder [("Plugin.java", .file [] 0)])])])])])]

def appModule : BuildModule :=
  ⟨"app", ⟨"", ["top", "app"]⟩, some ⟨"", ["top", "app", "src"]⟩, none⟩

def pluginModule : BuildModule :=
  ⟨"plugin", ⟨"", ["top", "app", "src", "plugin"]⟩,
    some ⟨"", ["top", "app", "src", "plugin", "src"]⟩, none⟩

/-- The source file of the inner module, which is one of the outer module too, is listed. -/
theorem sourceFiles_exact_nestedSources :
    nestedSources.tree.wellFormed = true ∧
    (scan nestedSources .standard "scan" { names := ["top"] }).2 = .ok [appModule, pluginModule] ∧
    ((sourceFiles nestedSources .standard [appModule, pluginModule]).map nestedSources.wayTo).Nodup ∧
    ∃ listed ∈ sourceFiles nestedSources .standard [appModule, pluginModule],
      nestedSources.wayTo listed = ["top", "app", "src", "plugin", "src", "Plugin.java"] := by
  have hwf : nestedSources.tree.wellFormed = true := by decide +kernel
  have hscan : (scan nestedSources .standard "scan" { names := ["top"] }).2 =
      .ok [appModule, pluginModule] := rfl
  have hfile : IsSourceFile nestedSources (excludedNames .standard)
      ⟨"", ["top", "app", "src", "plugin", "src"]⟩
      ⟨"", ["top", "app", "src", "plugin", "src", "Plugin.java"]⟩ := by
    refine ⟨Path.isInside_iff.2 ⟨["Plugin.java"], by simp, rfl, by decide⟩, ⟨[], 0, rfl⟩, ?_, ?_⟩
    · decide
    · exact fun name hname => absurd hname List.not_mem_nil
  have hexact := @sourceFiles_exact _ _ .standard _ _ _ hwf hscan
  exact ⟨hwf, hscan, hexact.1, hexact.2.2 pluginModule (by simp) _ _ rfl hfile (by decide)⟩

example : sourceFiles nestedSources .standard [appModule, pluginModule] =
    [⟨"", ["top", "app", "src", "App.java"]⟩,
      ⟨"", ["top", "app", "src", "plugin", "src", "Plugin.java"]⟩] := rfl

section LongWay

/-- What is in a folder with a source file, and another some folders further down. -/
def sourceEntries : List (String × Entry) :=
  [("src", .folder [("A.java", .file (Utf8.encode "class A { }".toList) 0),
    ("com", .folder [("acme", .folder [("sales", .folder [("order", .folder
      [("B.java", .file (Utf8.encode "class B { }".toList) 0)])])])])])]

def sourceTree : Disk where
  home := []
  tree := .folder [("m", .folder sourceEntries)]

/-- The folder as a module, found at any path to it. -/
def sourceModule (root : Path) : BuildModule where
  name := root.name
  root := root
  source := some (root.below "src")
  resource := none

theorem wellFormed_sourceTree : sourceTree.tree.wellFormed = true := by
  decide +kernel

theorem moduleRoots_sourceTree {root : Path}
    (hfind : sourceTree.find root = .ok (.folder sourceEntries)) :
    moduleRoots sourceTree .standard root = [] := by
  have hnone : ∀ file ∈ (Entry.folder sourceEntries).contents.map (·.1),
      isDescriptor .standard (file.getLastD "") = false := by
    decide
  have hroots : rootsBelow sourceTree .standard root = [] := by
    refine List.eq_nil_iff_forall_not_mem.2 fun folder hfolder => ?_
    obtain ⟨entry, way, name, hfound, -, hfile, hdescriptor, -⟩ :=
      (mem_rootsBelow wellFormed_sourceTree).1 hfolder
    cases hfind.symm.trans hfound
    have hname := hnone _ hfile.mem_contents
    rw [List.getLastD_concat, hdescriptor] at hname
    cases hname
  simp [moduleRoots, hroots]

theorem scan_sourceTree {root : Path}
    (hfind : sourceTree.find root = .ok (.folder sourceEntries))
    (hshort : ∀ way ∈ [["src", "main", "resources"], ["src", "resources"], ["src"]],
      (root.down way).text.utf8ByteSize ≤ Disk.maxPathSize)
    (journal : String) :
    (scan sourceTree .standard journal root).2 = .ok [sourceModule root] := by
  have hfolder : sourceTree.isFolderAt root = .ok true := Disk.isFolderAt_eq_true.2 ⟨_, hfind⟩
  have hmain : sourceTree.isFolderAt (root.below "src/main/resources") = .ok false :=
    Disk.isFolderAt_down_eq_false hfind (by decide) (hshort _ (by decide)) nofun
  have hresources : sourceTree.isFolderAt (root.below "src/resources") = .ok false :=
    Disk.isFolderAt_down_eq_false hfind (by decide) (hshort _ (by decide)) nofun
  have hsource : sourceTree.isFolderAt (root.below "src") = .ok true :=
    Disk.isFolderAt_eq_true.2
      ⟨_, Disk.find_down wellFormed_sourceTree hfind rfl (hshort _ (by decide))⟩
  have hmodule : ofRoot sourceTree .standard root = .ok (sourceModule root) := by
    simp [ofRoot, Settings.standard, Datum.asText, Datum.leadingTexts, firstFolder?, hmain,
      hresources, hsource, sourceModule, Except.mapError, bind, Except.bind, pure, Except.pure]
  simp [scan, hfolder, moduleRoots_sourceTree hfind, hmodule]

/-- With the default settings, a file in a folder whose path is too long is not listed, though it is
a source file of a module. -/
theorem exists_unlisted_sourceFile : ∃ m source path,
    Settings.load (some 4) sourceTree none [] = .ok .standard ∧
    (scan sourceTree .standard "scan" (backAndForth 814)).2 = .ok [m] ∧ m.source = some source ∧
    IsSourceFile sourceTree (excludedNames .standard) source path ∧
    ∀ listed ∈ sourceFiles sourceTree .standard [m],
      sourceTree.wayTo listed ≠ sourceTree.wayTo path := by
  have hwf := wellFormed_sourceTree
  have hfind : sourceTree.find (backAndForth 814) = .ok (.folder sourceEntries) :=
    find_backAndForth rfl rfl (by decide)
  -- The folder of the sources has a path of 4075 bytes, and the one of the deep file one of 4096.
  have hshort : ∀ way ∈ [["src", "main", "resources"], ["src", "resources"], ["src"]],
      ((backAndForth 814).down way).text.utf8ByteSize ≤ Disk.maxPathSize :=
    size_text_down_backAndForth_le (by decide)
  have hlong : Disk.maxPathSize < (((backAndForth 814).down ["src"]).down
      ["com", "acme", "sales", "order"]).text.utf8ByteSize := by
    rw [Path.down_down, List.singleton_append,
      size_text_down_backAndForth 814 (List.cons_ne_nil _ _)]
    decide
  generalize backAndForth 814 = root at hfind hshort hlong
  have hfindSource : sourceTree.find (root.down ["src"]) = _ :=
    Disk.find_down hwf hfind rfl (hshort _ (by decide))
  have hfile : IsSourceFile sourceTree (excludedNames .standard) (root.down ["src"])
      ((root.down ["src"]).down (["com", "acme", "sales", "order"] ++ ["B.java"])) := by
    obtain ⟨place, hplace, hat⟩ := Disk.find_eq_ok.1 hfindSource
    obtain rfl := Disk.resolve_eq_wayTo hplace
    refine ⟨Path.isInside_iff.2 ⟨_, by simp, rfl, by decide⟩, ?_, ?_, ?_⟩
    · rw [Disk.wayTo_down _ _ (by decide)]
      exact (Entry.holdsFile_append hat _).2 ⟨_, _, rfl⟩
    · rw [Path.name_down_concat]
      decide
    · rw [between_down]
      decide
  refine ⟨sourceModule root, root.down ["src"], _, rfl, scan_sourceTree hfind hshort "scan", rfl,
    hfile, ?_⟩
  intro listed hlisted heq
  -- One place inside the folder has one path inside it, so the long path would be listed.
  have hbelow := (keepsPlaces_distinctFiles _ _).kept listed hlisted
  have hsources : [sourceModule root].filterMap (·.source) = [root.down ["src"]] := rfl
  rw [hsources, List.flatMap_singleton] at hbelow
  obtain ⟨hlisted, hle⟩ := (mem_filesBelow_source hwf hfindSource).1 hbelow
  obtain rfl := Disk.eq_of_wayTo_inside hlisted.inside hfile.inside heq
  rw [Path.parent_down_concat] at hle
  omega

end LongWay

end Ripple.BuildModule
