-- SUMMARY: Mapper files belong to the module with the deepest root above them; the listing is exact but for long paths.
import Ripple.BuildModule.Files
import Ripple.Proofs.Files.Once
import Ripple.Proofs.Settings.Standard
import Ripple.Settings.Reading

/-! # Every mapper file has one module

A mapper file belongs to the module with the deepest root above it. The walk of a module stops at
the roots inside it, so it lists exactly the files that belong to the module, each once, and no file
is listed for two modules. Only files in folders whose path is too long are passed over.
-/

namespace Ripple

/-- The places where a list occurs in another. -/
theorem Text.occursIn_iff {α : Type} [BEq α] [LawfulBEq α] {part whole : List α} :
    Text.occursIn part whole = true ↔ part <:+: whole := by
  induction whole with
  | nil => simp [Text.occursIn]
  | cons a whole ih => simp [Text.occursIn, ih, List.infix_cons_iff]

namespace Datum

theorem text_mem_of_mem_leadingTexts {items : List Datum} {text : String}
    (h : text ∈ (leadingTexts items).1) : .text text ∈ items := by
  fun_induction leadingTexts items with
  | case1 => cases h
  | case2 first rest texts faulty hrest ih =>
    rw [hrest] at ih
    obtain rfl | hlater := List.mem_cons.1 h
    · exact List.mem_cons_self
    · exact List.mem_cons_of_mem _ (ih hlater)
  | case3 => cases h

/-- The values that are tried are all of them, or end before one that is no text. -/
theorem leadingTexts_cases (items : List Datum) :
    ((leadingTexts items).2 = false ∧ ∀ text, .text text ∈ items → text ∈ (leadingTexts items).1) ∨
      ((leadingTexts items).2 = true ∧ ∃ item ∈ items, ∀ text, item ≠ .text text) := by
  fun_induction leadingTexts items with
  | case1 => simp
  | case2 first rest texts faulty hrest ih =>
    rw [hrest] at ih
    obtain ⟨hfaulty, htexts⟩ | ⟨hfaulty, item, hitem, hne⟩ := ih
    · refine .inl ⟨hfaulty, ?_⟩
      intro text htext
      obtain heq | htext := List.mem_cons.1 htext
      · cases heq
        exact List.mem_cons_self
      · exact List.mem_cons_of_mem _ (htexts text htext)
    · exact .inr ⟨hfaulty, item, List.mem_cons_of_mem _ hitem, hne⟩
  | case3 item rest hne => exact .inr ⟨rfl, item, List.mem_cons_self, hne⟩

end Datum

namespace BuildModule

/-- A relative path is tested for the markers that are texts, unless a marker is no text. -/
theorem hasPathMarker_cases (markers : List Datum) (relative : String) :
    (∃ found, hasPathMarker markers relative = .ok found ∧ (found = true ↔
      ∃ marker, .text marker ∈ markers ∧ marker.toList <:+: relative.toList)) ∨
    (hasPathMarker markers relative = .error .wrongType ∧
      ∃ marker ∈ markers, ∀ text, marker ≠ .text text) := by
  unfold hasPathMarker
  simp only
  split
  · rename_i hfound
    obtain ⟨marker, hmarker, hoccurs⟩ := List.any_eq_true.1 hfound
    have hmem := Datum.text_mem_of_mem_leadingTexts hmarker
    exact .inl ⟨true, rfl, by simpa using ⟨marker, hmem, Text.occursIn_iff.1 hoccurs⟩⟩
  · rename_i hfound
    obtain ⟨hfaulty, htexts⟩ | ⟨hfaulty, hmarker⟩ := Datum.leadingTexts_cases markers
    · refine .inl ⟨false, by rw [hfaulty]; rfl, iff_of_false (by simp) ?_⟩
      rintro ⟨marker, hmarker, hoccurs⟩
      exact hfound (List.any_eq_true.2 ⟨marker, htexts marker hmarker, Text.occursIn_iff.2 hoccurs⟩)
    · exact .inr ⟨by rw [hfaulty]; rfl, hmarker⟩

section Roots

variable {files : Disk} {settings : Settings} {root : Path}

/-- A folder of the tree below another, with a path that is short enough. -/
def IsFolderBelow (files : Disk) (root folder : Path) : Prop :=
  ∃ entry way entries, files.find root = .ok entry ∧ folder = root.down way ∧
    entry.at? way = some (.folder entries) ∧ folder.text.utf8ByteSize ≤ Disk.maxPathSize

/-- The roots below a folder are the folders that hold a descriptor, if the walk comes to them. -/
theorem mem_rootsBelow (hwf : files.tree.wellFormed = true) {folder : Path} :
    folder ∈ rootsBelow files settings root ↔
      ∃ entry way name, files.find root = .ok entry ∧ folder = root.down way ∧
        entry.HoldsFile (way ++ [name]) ∧ isDescriptor settings name = true ∧
        folder.text.utf8ByteSize ≤ Disk.maxPathSize ∧
        ∀ part ∈ way, part ∉ excludedNames settings := by
  unfold rootsBelow
  cases hfind : files.find root with
  | error e => simp
  | ok entry =>
    have hentry := Disk.wellFormed_of_find hwf hfind
    simp only [List.mem_filterMap, Option.ite_none_right_eq_some, Option.some.injEq,
      Entry.mem_walk hentry]
    constructor
    · rintro ⟨-, ⟨way, entries, rfl, hat, hcomes⟩, hnames, rfl⟩
      obtain ⟨hfolder, hway⟩ := Entry.wellFormed_at hentry hat
      obtain ⟨hshort, henter⟩ := (Entry.comesTo_iff hway).1 hcomes
      obtain ⟨name, hname, hdescriptor⟩ := List.any_eq_true.1 hnames
      rw [Entry.mem_fileNames hfolder, ← Entry.holdsFile_folder_singleton,
        ← Entry.holdsFile_append hat] at hname
      refine ⟨entry, way, name, rfl, rfl, hname, hdescriptor, hshort, ?_⟩
      intro part hpart
      obtain ⟨above, below, heq⟩ := List.append_of_mem hpart
      simpa using henter above part below heq
    · rintro ⟨found, way, name, hfound, rfl, hfile, hdescriptor, hshort, hway⟩
      cases hfound
      obtain ⟨entries, hat⟩ := hfile.exists_folder
      obtain ⟨hfolder, hnames⟩ := Entry.wellFormed_at hentry hat
      rw [Entry.holdsFile_append hat, Entry.holdsFile_folder_singleton,
        ← Entry.mem_fileNames hfolder] at hfile
      refine ⟨_, ⟨way, entries, rfl, hat, (Entry.comesTo_iff hnames).2 ⟨hshort, ?_⟩⟩,
        List.any_eq_true.2 ⟨name, hfile, hdescriptor⟩, rfl⟩
      rintro above part below rfl
      simpa using hway part (by simp)

theorem isFolderBelow_of_mem_rootsBelow (hwf : files.tree.wellFormed = true) {folder : Path}
    (h : folder ∈ rootsBelow files settings root) : IsFolderBelow files root folder := by
  obtain ⟨entry, way, name, hfind, rfl, hfile, -, hshort, -⟩ := (mem_rootsBelow hwf).1 h
  obtain ⟨entries, hat⟩ := hfile.exists_folder
  exact ⟨entry, way, entries, hfind, rfl, hat, hshort⟩

theorem nodup_rootsBelow (hwf : files.tree.wellFormed = true) :
    (rootsBelow files settings root).Nodup := by
  unfold rootsBelow
  split
  · exact List.nodup_nil
  · rename_i entry hfind
    have hentry := Disk.wellFormed_of_find hwf hfind
    refine List.Pairwise.filterMap _ ?_ (List.pairwise_map.1 (Entry.nodup_walk hentry))
    intro first second hne folder hfolder folder' hfolder'
    simp only [Option.ite_none_right_eq_some, Option.some.injEq] at hfolder hfolder'
    rwa [← hfolder.2, ← hfolder'.2]

theorem moduleRoots_sublist (files : Disk) (settings : Settings) (root : Path) :
    (moduleRoots files settings root).Sublist (rootsBelow files settings root) := by
  unfold moduleRoots
  simp only
  split
  · exact List.erase_sublist
  · exact .refl _

/-- A module has the name of its folder. -/
theorem exists_of_ofRoot {folder : Path} {m : BuildModule}
    (h : ofRoot files settings folder = .ok m) :
    ∃ source resource, m = ⟨folder.name, folder, source, resource⟩ := by
  unfold ofRoot at h
  obtain ⟨source, -, h⟩ := bind_eq_ok.1 h
  obtain ⟨resource, -, h⟩ := bind_eq_ok.1 h
  split at h
  · cases h
  · obtain ⟨found, -, h⟩ := bind_eq_ok.1 h
    cases h
    exact ⟨_, _, rfl⟩

theorem root_of_ofRoot {folder : Path} {m : BuildModule}
    (h : ofRoot files settings folder = .ok m) : m.root = folder := by
  obtain ⟨source, resource, rfl⟩ := exists_of_ofRoot h
  rfl

theorem roots_of_mapM {folders : List Path} {modules : List BuildModule}
    (h : folders.mapM (ofRoot files settings) = .ok modules) : modules.map (·.root) = folders := by
  induction folders generalizing modules with
  | nil =>
    cases h
    rfl
  | cons folder folders ih =>
    obtain ⟨m, later, hm, hlater, rfl⟩ := mapM_cons_eq_ok.1 h
    rw [List.map_cons, root_of_ofRoot hm, ih hlater]

theorem isFolderBelow_self (h : files.isFolderAt root = .ok true) :
    IsFolderBelow files root root := by
  obtain ⟨entries, hfind⟩ := Disk.isFolderAt_eq_true.1 h
  exact ⟨_, [], entries, hfind, (Path.down_nil root).symm, rfl, Disk.size_text_le_of_find hfind⟩

/-- The modules that a scan finds are at different folders of the tree. -/
theorem scan_roots (hwf : files.tree.wellFormed = true) {journal : String}
    {modules : List BuildModule} (h : (scan files settings journal root).2 = .ok modules) :
    (modules.map (·.root)).Nodup ∧ ∀ m ∈ modules, IsFolderBelow files root m.root := by
  unfold scan at h
  split at h
  · cases h
  · cases h
    simp
  · rename_i hfolder
    simp only at h
    split at h
    · cases h
    · rename_i modules' hmodules
      cases h
      have hroots := roots_of_mapM hmodules
      -- a tree without descriptors is one module
      split at hroots
      · have hroot : ∀ m ∈ modules, m.root = root := by
          intro m hm
          have hmem := List.mem_map_of_mem (f := (·.root)) hm
          rw [hroots] at hmem
          exact List.mem_singleton.1 hmem
        refine ⟨by rw [hroots]; exact List.nodup_singleton root, ?_⟩
        intro m hm
        rw [hroot m hm]
        exact isFolderBelow_self hfolder
      · have hsub := moduleRoots_sublist files settings root
        refine ⟨by rw [hroots]; exact (nodup_rootsBelow hwf).sublist hsub, ?_⟩
        intro m hm
        have hmem : m.root ∈ moduleRoots files settings root := by
          rw [← hroots]
          exact List.mem_map_of_mem hm
        exact isFolderBelow_of_mem_rootsBelow hwf (hsub.subset hmem)

end Roots

/-- The names of the folders between a folder and a path below it. -/
def between (folder path : Path) : List String :=
  (path.names.drop folder.names.length).dropLast

theorem between_down (folder : Path) (way : List String) (name : String) :
    between folder (folder.down (way ++ [name])) = way := by
  simp [between]

/-- A mapper file of the tree below a folder: one with the ending that describes no module. -/
structure IsMapperFile (files : Disk) (settings : Settings) (root path : Path) : Prop where
  file : ∃ entry way, files.find root = .ok entry ∧ path = root.down way ∧ entry.HoldsFile way
  ending : ".xml".toList <:+ path.name.toList
  noDescriptor : isDescriptor settings path.name = false

/-- The deepest of some folders that are above a path. -/
structure IsDeepestAbove (roots : List Path) (root path : Path) : Prop where
  above : root.isAbove path = true
  deepest : ∀ other ∈ roots, other.isAbove path = true → other.names.length ≤ root.names.length

/-- Whether a file is a mapper file of the module at a root: the root is the deepest above it, no
folder between them is excluded, and the way from the root to the file has one of the markers. -/
structure BelongsTo (settings : Settings) (roots : List Path) (root path : Path) : Prop where
  nearest : IsDeepestAbove roots root path
  entered : ∀ name ∈ between root path, name ∉ excludedNames settings
  marked : ∃ marker, .text marker ∈ settings.mapperPathMarkers ∧
    marker.toList <:+: (path.relativeText root).toList

section Files

variable {files : Disk} {settings : Settings} {journal : String} {root path : Path}
  {modules : List BuildModule} {m : BuildModule}

/-- No root is on the way to a file exactly if the module's root is the deepest above it. -/
theorem isDeepestAbove_iff {way : List String} {name : String} :
    IsDeepestAbove (modules.map (·.root)) m.root (m.root.down (way ++ [name])) ↔
      ∀ above part below, way = above ++ part :: below →
        m.root.down (above ++ [part]) ∉ m.nestedRoots modules := by
  constructor
  · rintro ⟨-, hdeepest⟩ above part below rfl hmem
    obtain ⟨hroot, -⟩ := List.mem_filter.1 hmem
    have habove : (m.root.down (above ++ [part])).isAbove
        (m.root.down (above ++ part :: below ++ [name])) = true := by
      rw [Path.down_isAbove_down]
      exact ⟨⟨below ++ [name], by simp⟩, by simp⟩
    have hle := hdeepest _ hroot habove
    simp only [Path.down_names, List.length_append, List.length_singleton] at hle
    omega
  · intro hway
    refine ⟨Path.isAbove_iff.2 ⟨way ++ [name], by simp, rfl⟩, ?_⟩
    intro other hother habove
    by_contra hlt
    -- A deeper root is below this one and above the file, so it is on the way.
    have hbelow : m.root.isAbove other = true :=
      Path.isAbove_of_length_lt (Path.isAbove_iff.2 ⟨way ++ [name], by simp, rfl⟩) habove
        (Nat.lt_of_not_le hlt)
    obtain ⟨first, hfirst, rfl⟩ := Path.isAbove_iff.1 hbelow
    obtain ⟨hbegins, hne⟩ := Path.down_isAbove_down.1 habove
    obtain rfl | ⟨rest, hrest⟩ := List.prefix_concat_iff.1 hbegins
    · exact hne rfl
    · obtain rfl | ⟨above, part, rfl⟩ := List.eq_nil_or_concat' first
      · exact hfirst rfl
      · refine hway above part rest (by simp [← hrest]) (List.mem_filter.2 ⟨?_, ?_⟩)
        · simpa using hother
        · simpa using hbelow

/-- The files that a module's walk comes to. -/
theorem mem_filesBelow_root (hwf : files.tree.wellFormed = true)
    (hroot : IsFolderBelow files root m.root) :
    path ∈ files.filesBelow m.root ".xml" (excludedNames settings) (m.nestedRoots modules) ↔
      (∃ entry way, files.find root = .ok entry ∧ path = root.down way ∧ entry.HoldsFile way) ∧
      ".xml".toList <:+ path.name.toList ∧ path.parent.text.utf8ByteSize ≤ Disk.maxPathSize ∧
      IsDeepestAbove (modules.map (·.root)) m.root path ∧
      ∀ name ∈ between m.root path, name ∉ excludedNames settings := by
  obtain ⟨entry, start, entries, hfind, hstart, hat, hshort⟩ := hroot
  have hfolder : files.find m.root = .ok (.folder entries) := by
    rw [hstart] at hshort ⊢
    exact Disk.find_down hwf hfind hat hshort
  rw [Disk.mem_filesBelow hwf]
  -- ways from the module's root are those from the root of the tree that begin with `start`
  constructor
  · rintro ⟨sub, way, name, hsub, rfl, hfile, hending, hlength, hway⟩
    rw [hfolder] at hsub
    cases hsub
    rw [Path.name_down_concat, Path.parent_down_concat, between_down, isDeepestAbove_iff]
    refine ⟨⟨entry, start ++ (way ++ [name]), hfind, ?_, ?_⟩, hending, hlength, ?_, ?_⟩
    · rw [hstart, Path.down_down]
    · exact (Entry.holdsFile_append hat _).2 hfile
    · intro above part below heq
      exact (hway above part below heq).2
    · intro part hpart
      obtain ⟨above, below, heq⟩ := List.append_of_mem hpart
      exact (hway above part below heq).1
  · rintro ⟨⟨found, target, hfound, rfl, hfile⟩, hending, hlength, hdeepest, hentered⟩
    rw [hfind] at hfound
    cases hfound
    obtain ⟨rest, hrest, htarget⟩ := Path.isAbove_iff.1 hdeepest.above
    obtain rfl | ⟨way, name, rfl⟩ := List.eq_nil_or_concat' rest
    · exact absurd rfl hrest
    · rw [htarget] at hending hlength hdeepest hentered ⊢
      rw [Path.name_down_concat] at hending
      rw [Path.parent_down_concat] at hlength
      rw [between_down] at hentered
      rw [isDeepestAbove_iff] at hdeepest
      rw [hstart, Path.down_down, Path.down_inj] at htarget
      rw [htarget, Entry.holdsFile_append hat] at hfile
      refine ⟨_, way, name, hfolder, rfl, hfile, hending, hlength, ?_⟩
      rintro above part below rfl
      exact ⟨hentered part (by simp), hdeepest above part below rfl⟩

/-- The files that are listed for a module are those that belong to it, except in folders whose
path is too long. -/
theorem mem_mapperFiles (hwf : files.tree.wellFormed = true)
    (hroot : IsFolderBelow files root m.root) {listed : List Path}
    (h : mapperFiles files settings m modules = .ok listed) :
    path ∈ listed ↔ IsMapperFile files settings root path ∧
      BelongsTo settings (modules.map (·.root)) m.root path ∧
      path.parent.text.utf8ByteSize ≤ Disk.maxPathSize := by
  unfold mapperFiles at h
  rw [mem_filterM h, List.mem_filter, mem_filesBelow_root hwf hroot]
  constructor
  · rintro ⟨⟨⟨hfile, hending, hshort, hnearest, hentered⟩, hdescriptor⟩, hmarked⟩
    refine ⟨⟨hfile, hending, by simpa using hdescriptor⟩, ⟨hnearest, hentered, ?_⟩, hshort⟩
    obtain ⟨found, hfound, hiff⟩ | ⟨herror, -⟩ :=
      hasPathMarker_cases settings.mapperPathMarkers (path.relativeText m.root)
    · rw [hmarked] at hfound
      cases hfound
      exact hiff.1 rfl
    · rw [hmarked] at herror
      cases herror
  · rintro ⟨⟨hfile, hending, hdescriptor⟩, ⟨hnearest, hentered, hmarked⟩, hshort⟩
    have hcandidate := (mem_filesBelow_root hwf hroot).2
      ⟨hfile, hending, hshort, hnearest, hentered⟩
    refine ⟨⟨⟨hfile, hending, hshort, hnearest, hentered⟩, by simpa using hdescriptor⟩, ?_⟩
    obtain ⟨found, hfound⟩ := (filterM_eq_ok.1 h).1 path
      (List.mem_filter.2 ⟨hcandidate, by simpa using hdescriptor⟩)
    obtain ⟨found', hfound', hiff⟩ | ⟨herror, -⟩ :=
      hasPathMarker_cases settings.mapperPathMarkers (path.relativeText m.root)
    · rw [hfound', hiff.2 hmarked]
    · rw [hfound] at herror
      cases herror

theorem nodup_of_mapperFiles (hwf : files.tree.wellFormed = true) {listed : List Path}
    (h : mapperFiles files settings m modules = .ok listed) : listed.Nodup := by
  unfold mapperFiles at h
  rw [(filterM_eq_ok.1 h).2]
  exact ((Disk.nodup_filesBelow hwf _ _ _ _).filter _).filter _

/-- Listing the files of a module is a fault only if some marker is no text. -/
theorem mapperFiles_cases (files : Disk) (settings : Settings) (m : BuildModule)
    (modules : List BuildModule) :
    (∃ listed, mapperFiles files settings m modules = .ok listed) ∨
      (mapperFiles files settings m modules = .error .wrongType ∧
        ∃ marker ∈ settings.mapperPathMarkers, ∀ text, marker ≠ .text text) := by
  cases h : mapperFiles files settings m modules with
  | ok listed => exact .inl ⟨listed, rfl⟩
  | error fault =>
    obtain ⟨path, -, hfault⟩ := exists_of_filterM_eq_error h
    obtain ⟨found, hfound, -⟩ | ⟨herror, hmarker⟩ :=
      hasPathMarker_cases settings.mapperPathMarkers (path.relativeText m.root)
    · rw [hfault] at hfound
      cases hfound
    · rw [hfault] at herror
      cases herror
      exact .inr ⟨rfl, hmarker⟩

theorem root_unique {roots : List Path} {first second : Path}
    (hfirst : first ∈ roots) (hsecond : second ∈ roots) (habove : IsDeepestAbove roots first path)
    (habove' : IsDeepestAbove roots second path) : first = second := by
  have hle := habove.deepest second hsecond habove'.above
  have hge := habove'.deepest first hfirst habove.above
  exact Path.eq_of_isAbove_of_length_eq habove.above habove'.above (by omega)

/-- Mapper files are divided among the modules that a scan finds. For each module the files that
belong to it are listed, each once, except in folders whose path is too long; it is a fault to come
to a marker that is no text. No file is listed for two modules. -/
theorem mapperFiles_partition (hwf : files.tree.wellFormed = true)
    (hscan : (scan files settings journal root).2 = .ok modules) :
    (∀ m ∈ modules,
      (∃ listed, mapperFiles files settings m modules = .ok listed ∧ listed.Nodup ∧
        ∀ path, path ∈ listed ↔ IsMapperFile files settings root path ∧
          BelongsTo settings (modules.map (·.root)) m.root path ∧
          path.parent.text.utf8ByteSize ≤ Disk.maxPathSize) ∨
      (mapperFiles files settings m modules = .error .wrongType ∧
        ∃ marker ∈ settings.mapperPathMarkers, ∀ text, marker ≠ .text text)) ∧
    ∀ first ∈ modules, ∀ second ∈ modules, ∀ listed listed',
      mapperFiles files settings first modules = .ok listed →
      mapperFiles files settings second modules = .ok listed' →
      ∀ path ∈ listed, path ∈ listed' → first = second := by
  obtain ⟨hnodup, hroots⟩ := scan_roots hwf hscan
  constructor
  · intro m hm
    obtain ⟨listed, hlisted⟩ | hfault := mapperFiles_cases files settings m modules
    · refine .inl ⟨listed, hlisted, nodup_of_mapperFiles hwf hlisted, ?_⟩
      intro path
      exact mem_mapperFiles hwf (hroots m hm) hlisted
    · exact .inr hfault
  · intro first hfirst second hsecond listed listed' hlisted hlisted' path hpath hpath'
    have hbelongs := ((mem_mapperFiles hwf (hroots first hfirst) hlisted).1 hpath).2.1
    have hbelongs' := ((mem_mapperFiles hwf (hroots second hsecond) hlisted').1 hpath').2.1
    have hroot := root_unique (List.mem_map_of_mem hfirst) (List.mem_map_of_mem hsecond)
      hbelongs.nearest hbelongs'.nearest
    exact List.inj_on_of_nodup_map hnodup hfirst hsecond hroot

end Files

/-- A folder with a descriptor, a module in it and another inside that. -/
def nestedFiles : Disk where
  home := []
  tree := .folder [("app", .folder
    [("pom.xml", .file [] 0), ("src", .folder [("com", .folder [("App.xml", .file [] 0)])]),
      ("core", .folder
        [("pom.xml", .file [] 0),
          ("src", .folder [("com", .folder [("Core.xml", .file [] 0)])]),
          ("target", .folder [("src", .folder [("com", .folder [("Old.xml", .file [] 0)])])]),
          ("plugin", .folder
            [("pom.xml", .file [] 0),
              ("src", .folder [("com", .folder [("Plugin.xml", .file [] 0)])])])])])]

def nestedModules : List BuildModule :=
  [⟨"core", ⟨"", ["app", "core"]⟩, some ⟨"", ["app", "core", "src"]⟩, none⟩,
    ⟨"plugin", ⟨"", ["app", "core", "plugin"]⟩, some ⟨"", ["app", "core", "plugin", "src"]⟩, none⟩]

theorem standard_markers :
    ∀ marker ∈ Settings.standard.mapperPathMarkers, ∃ text, marker = .text text := by
  simp [Settings.standard]

/-- Both modules have their files listed, and no file is listed for both. -/
theorem mapperFiles_partition_nestedFiles :
    nestedFiles.tree.wellFormed = true ∧
    (scan nestedFiles .standard "scan" { names := ["app"] }).2 = .ok nestedModules ∧
    ∀ m ∈ nestedModules, ∃ listed, mapperFiles nestedFiles .standard m nestedModules = .ok listed ∧
      listed.Nodup ∧ ∀ path, path ∈ listed ↔
        IsMapperFile nestedFiles .standard { names := ["app"] } path ∧
        BelongsTo .standard (nestedModules.map (·.root)) m.root path ∧
        path.parent.text.utf8ByteSize ≤ Disk.maxPathSize := by
  have hwf : nestedFiles.tree.wellFormed = true := by decide +kernel
  have hscan : (scan nestedFiles .standard "scan" { names := ["app"] }).2 = .ok nestedModules := rfl
  refine ⟨hwf, hscan, ?_⟩
  intro m hm
  obtain hlisted | ⟨-, marker, hmarker, hne⟩ := (mapperFiles_partition hwf hscan).1 m hm
  · exact hlisted
  · obtain ⟨text, htext⟩ := standard_markers marker hmarker
    exact absurd htext (hne text)

section LongWay

/-- A path that goes back and forth some times before it stays in a folder. -/
def backAndForth (count : Nat) : Path where
  names := "m" :: (List.replicate count ["..", "m"]).flatten

theorem backAndForth_succ (count : Nat) :
    backAndForth (count + 1) = (backAndForth count).down ["..", "m"] := by
  simp [backAndForth, Path.down, List.replicate_succ']

theorem size_text_backAndForth (count : Nat) :
    (backAndForth count).text.utf8ByteSize = 1 + 5 * count := by
  induction count with
  | zero => decide
  | succ count ih =>
    have hturn : ("/".intercalate ["..", "m"]).utf8ByteSize = 4 := by decide
    rw [backAndForth_succ, Path.size_text_down (List.cons_ne_nil _ _) (List.cons_ne_nil _ _), ih,
      hturn]
    omega

theorem size_text_down_backAndForth (count : Nat) {way : List String} (hway : way ≠ []) :
    ((backAndForth count).down way).text.utf8ByteSize =
      1 + 5 * count + 1 + ("/".intercalate way).utf8ByteSize := by
  rw [Path.size_text_down (List.cons_ne_nil _ _) hway, size_text_backAndForth]

/-- What goes on from there is not too long, as long as its names are short enough. -/
theorem size_text_down_backAndForth_le {count : Nat} {ways : List (List String)}
    (h : ∀ way ∈ ways, way ≠ [] ∧
      1 + 5 * count + 1 + ("/".intercalate way).utf8ByteSize ≤ Disk.maxPathSize) :
    ∀ way ∈ ways, ((backAndForth count).down way).text.utf8ByteSize ≤ Disk.maxPathSize := by
  intro way hway
  obtain ⟨hne, hle⟩ := h way hway
  rwa [size_text_down_backAndForth count hne]

/-- Going back and forth leads to the folder. -/
theorem find_backAndForth {files : Disk} {entries : List (String × Entry)} (hhome : files.home = [])
    (htree : files.tree = .folder [("m", .folder entries)]) {count : Nat}
    (h : 1 + 5 * count ≤ Disk.maxPathSize) :
    files.find (backAndForth count) = .ok (.folder entries) := by
  have hfolder : files.kindAt ["m"] = some .folder := by
    rw [Disk.kindAt, htree]
    rfl
  have htop : files.kindAt [] = some .folder := by
    rw [Disk.kindAt, htree]
    rfl
  have hsteps : (backAndForth count).names.foldlM files.advance [] = .ok ["m"] := by
    clear h
    induction count with
    | zero => exact bind_eq_ok.2 ⟨["m"], Disk.advance_eq_ok.2 ⟨htop, by decide, rfl⟩, rfl⟩
    | succ count ih =>
      rw [backAndForth_succ, Path.down_names, List.foldlM_append]
      refine bind_eq_ok.2 ⟨["m"], ih, bind_eq_ok.2 ⟨[], ?_, bind_eq_ok.2 ⟨["m"], ?_, rfl⟩⟩⟩
      · exact Disk.advance_eq_ok.2 ⟨hfolder, by decide, rfl⟩
      · exact Disk.advance_eq_ok.2 ⟨htop, by decide, rfl⟩
  have hcheck : Disk.checkPath (backAndForth count) = .ok () := by
    refine Disk.checkPath_eq_ok.2 ⟨?_, ?_⟩
    · simp [Path.hasZero, backAndForth]
    · rwa [size_text_backAndForth]
  have hstart : files.startOf (backAndForth count) = [] := by
    simp [Disk.startOf, backAndForth, hhome]
  have hresolve : files.resolve (backAndForth count) = .ok ["m"] :=
    Disk.resolve_eq_ok.2 ⟨hcheck, by rw [hstart, hsteps]⟩
  exact Disk.find_eq_ok.2 ⟨["m"], hresolve, by rw [htree]; rfl⟩

/-- What is in a module with a mapper file among its resources, and another in a folder there. -/
def mapperEntries : List (String × Entry) :=
  let mapper : Entry := .file (Utf8.encode "<mapper/>".toList) 0
  [("pom.xml", .file [] 0), ("src", .folder [("main", .folder [("resources", .folder
    [("B.xml", mapper), ("mapper", .folder [("A.xml", mapper)])])])])]

def mapperTree : Disk where
  home := []
  tree := .folder [("m", .folder mapperEntries)]

/-- The module, found at any path to it. -/
def mapperModule (root : Path) : BuildModule where
  name := root.name
  root := root
  source := some (root.below "src")
  resource := some (root.below "src/main/resources")

theorem wellFormed_mapperTree : mapperTree.tree.wellFormed = true := by
  decide +kernel

/-- Only the module itself holds a descriptor. -/
theorem moduleRoots_mapperTree {root : Path}
    (hfind : mapperTree.find root = .ok (.folder mapperEntries)) :
    moduleRoots mapperTree .standard root = [root] := by
  have hwf := wellFormed_mapperTree
  have honly : ∀ file ∈ (Entry.folder mapperEntries).contents.map (·.1),
      isDescriptor .standard (file.getLastD "") = true → file.dropLast = [] := by
    decide
  have hroots : rootsBelow mapperTree .standard root = [root] := by
    refine List.perm_singleton.1 ((List.perm_ext_iff_of_nodup (nodup_rootsBelow hwf)
      (List.nodup_singleton root)).2 fun folder => ?_)
    rw [mem_rootsBelow hwf, List.mem_singleton]
    constructor
    · rintro ⟨entry, way, name, hfound, rfl, hfile, hdescriptor, -⟩
      cases hfind.symm.trans hfound
      have hway := honly _ hfile.mem_contents (by simpa using hdescriptor)
      rw [List.dropLast_concat] at hway
      rw [hway, Path.down_nil]
    · rintro rfl
      exact ⟨_, [], "pom.xml", hfind, (Path.down_nil _).symm, ⟨[], 0, rfl⟩, rfl,
        Disk.size_text_le_of_find hfind, by simp⟩
  simp [moduleRoots, hroots]

theorem scan_mapperTree {root : Path}
    (hfind : mapperTree.find root = .ok (.folder mapperEntries))
    (hshort : ∀ way ∈ [["src", "main", "resources"], ["src"]],
      (root.down way).text.utf8ByteSize ≤ Disk.maxPathSize)
    (journal : String) :
    (scan mapperTree .standard journal root).2 = .ok [mapperModule root] := by
  have hwf := wellFormed_mapperTree
  have hfolder : mapperTree.isFolderAt root = .ok true := Disk.isFolderAt_eq_true.2 ⟨_, hfind⟩
  have hresource : mapperTree.isFolderAt (root.below "src/main/resources") = .ok true :=
    Disk.isFolderAt_eq_true.2 ⟨_, Disk.find_down hwf hfind rfl (hshort _ (by decide))⟩
  have hsource : mapperTree.isFolderAt (root.below "src") = .ok true :=
    Disk.isFolderAt_eq_true.2 ⟨_, Disk.find_down hwf hfind rfl (hshort _ (by decide))⟩
  have hmodule : ofRoot mapperTree .standard root = .ok (mapperModule root) := by
    simp [ofRoot, Settings.standard, Datum.asText, Datum.leadingTexts, firstFolder?, hresource,
      hsource, mapperModule, Except.mapError, bind, Except.bind, pure, Except.pure]
  simp [scan, hfolder, moduleRoots_mapperTree hfind, hmodule]

/-- The file in the folder among the resources is one of the module. -/
theorem belongsTo_mapperModule (root : Path) :
    BelongsTo .standard [(mapperModule root).root] (mapperModule root).root
      (root.down (["src", "main", "resources", "mapper"] ++ ["A.xml"])) := by
  refine ⟨⟨?_, ?_⟩, ?_, ?_⟩
  · exact Path.isAbove_iff.2 ⟨_, by simp, rfl⟩
  · intro other hother _
    obtain rfl := List.mem_singleton.1 hother
    exact Nat.le_refl _
  · rw [mapperModule, between_down]
    decide
  · refine ⟨"src/main/resources/", by simp [Settings.standard], Text.occursIn_iff.1 ?_⟩
    simp only [Path.relativeText, mapperModule, Path.down_names, List.drop_left]
    decide

/-- With the default settings, a mapper file in a folder whose path is too long is not listed,
though it belongs to the module. -/
theorem exists_unlisted_mapperFile : ∃ m listed path,
    Settings.load (some 4) mapperTree none [] = .ok .standard ∧
    (scan mapperTree .standard "scan" (backAndForth 814)).2 = .ok [m] ∧
    mapperFiles mapperTree .standard m [m] = .ok listed ∧
    IsMapperFile mapperTree .standard (backAndForth 814) path ∧
    BelongsTo .standard [m.root] m.root path ∧ path ∉ listed := by
  have hfind : mapperTree.find (backAndForth 814) = .ok (.folder mapperEntries) :=
    find_backAndForth rfl rfl (by decide)
  -- The folder of the resources has a path of 4090 bytes, and the folder in it one of 4097.
  have hshort : ∀ way ∈ [["src", "main", "resources"], ["src"]],
      ((backAndForth 814).down way).text.utf8ByteSize ≤ Disk.maxPathSize :=
    size_text_down_backAndForth_le (by decide)
  have hlong : Disk.maxPathSize <
      ((backAndForth 814).down ["src", "main", "resources", "mapper"]).text.utf8ByteSize := by
    rw [size_text_down_backAndForth 814 (List.cons_ne_nil _ _)]
    decide
  generalize backAndForth 814 = root at hfind hshort hlong
  have hscan := scan_mapperTree hfind hshort "scan"
  have hfile : IsMapperFile mapperTree .standard root
      (root.down (["src", "main", "resources", "mapper"] ++ ["A.xml"])) := by
    refine ⟨⟨_, _, hfind, rfl, _, _, rfl⟩, ?_, ?_⟩
    · rw [Path.name_down_concat]
      decide
    · rw [Path.name_down_concat]
      decide
  obtain ⟨listed, hlisted⟩ | ⟨-, marker, hmarker, hne⟩ :=
    mapperFiles_cases mapperTree .standard (mapperModule root) [mapperModule root]
  · refine ⟨mapperModule root, listed, _, rfl, hscan, hlisted, hfile,
      belongsTo_mapperModule root, ?_⟩
    intro hmem
    have hroot : IsFolderBelow mapperTree root (mapperModule root).root :=
      isFolderBelow_self (Disk.isFolderAt_eq_true.2 ⟨_, hfind⟩)
    have hle := ((mem_mapperFiles wellFormed_mapperTree hroot hlisted).1 hmem).2.2
    rw [Path.parent_down_concat] at hle
    omega
  · obtain ⟨text, htext⟩ := standard_markers marker hmarker
    exact absurd htext (hne text)

end LongWay

end BuildModule

end Ripple
