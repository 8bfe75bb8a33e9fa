-- SUMMARY: Well-formed trees, the folders that a walk comes to, and the files that it finds there.
import Ripple.Files.Changes
import Ripple.Files.Walk
import Ripple.Proofs.Files.Disk
import Ripple.Proofs.Path
import Ripple.Proofs.Text.Order

/-! # Files found by walking

A walk comes to the folders that are entered on the way and whose paths are not too long. In a tree
whose names can be names of files, whatever is found can be read, unless its path is longer than
paths can be.
-/

namespace Ripple

namespace Entry

/-- Whether a file can have this name. -/
def isFileName (name : String) : Bool :=
  !name.isEmpty && name != "." && name != ".." && !name.toList.contains '/' &&
    !name.toList.contains '\x00' && decide (name.utf8ByteSize ≤ Disk.maxNameSize)

mutual

/-- Whether the names in a tree can be names of files, and are different in each folder. -/
def wellFormed : Entry → Bool
  | .file .. => true
  | .folder entries => decide (entries.map (·.1)).Nodup && allWellFormed entries

def allWellFormed : List (String × Entry) → Bool
  | [] => true
  | (name, entry) :: rest => isFileName name && wellFormed entry && allWellFormed rest

end

theorem wellFormed_of_mem {entries : List (String × Entry)} (h : allWellFormed entries = true)
    {name : String} {entry : Entry} (hmem : (name, entry) ∈ entries) :
    isFileName name = true ∧ entry.wellFormed = true := by
  induction entries with
  | nil => cases hmem
  | cons first rest ih =>
    obtain ⟨firstName, firstEntry⟩ := first
    simp only [allWellFormed, Bool.and_eq_true] at h
    obtain heq | hrest := List.mem_cons.1 hmem
    · cases heq
      exact h.1
    · exact ih h.2 hrest

theorem wellFormed_folder {entries : List (String × Entry)}
    (h : (Entry.folder entries).wellFormed = true) :
    (entries.map (·.1)).Nodup ∧ ∀ name entry, (name, entry) ∈ entries →
      isFileName name = true ∧ entry.wellFormed = true := by
  simp only [wellFormed, Bool.and_eq_true, decide_eq_true_eq] at h
  exact ⟨h.1, fun _ _ => wellFormed_of_mem h.2⟩

theorem mem_inNameOrder {α : Type} {visits : List (String × List α)} {a : α} :
    a ∈ inNameOrder visits ↔ ∃ visit ∈ visits, a ∈ visit.2 := by
  simp [inNameOrder, List.mem_flatMap, Text.mem_sortedBy]

theorem walkAll_eq_map (enter : Path → String → Bool) (here : Path)
    (entries : List (String × Entry)) :
    walkAll enter here entries = entries.map fun child =>
      (child.1, if enter here child.1 then walk enter (here.child child.1) child.2 else []) := by
  induction entries with
  | nil => rfl
  | cons first rest ih =>
    obtain ⟨name, entry⟩ := first
    rw [walkAll, ih, List.map_cons]

/-- What is visited below a folder. -/
theorem mem_inNameOrder_walkAll {enter : Path → String → Bool} {here : Path}
    {entries : List (String × Entry)} {visit : Path × List String} :
    visit ∈ inNameOrder (walkAll enter here entries) ↔ ∃ name entry, (name, entry) ∈ entries ∧
      enter here name = true ∧ visit ∈ walk enter (here.child name) entry := by
  simp only [mem_inNameOrder, walkAll_eq_map, List.mem_map]
  constructor
  · rintro ⟨-, ⟨⟨name, entry⟩, hmem, rfl⟩, hvisit⟩
    split at hvisit
    · exact ⟨name, entry, hmem, ‹_›, hvisit⟩
    · cases hvisit
  · rintro ⟨name, entry, hmem, henter, hvisit⟩
    exact ⟨_, ⟨(name, entry), hmem, rfl⟩, by simpa [henter] using hvisit⟩

/-- Whether a walk comes to the folder at the end of a way: all folders on the way have paths that
are short enough, and are entered from the one above. -/
def comesTo (enter : Path → String → Bool) (here : Path) : List String → Bool
  | [] => decide (here.text.utf8ByteSize ≤ Disk.maxPathSize)
  | name :: way =>
    decide (here.text.utf8ByteSize ≤ Disk.maxPathSize) && enter here name &&
      comesTo enter (here.child name) way

theorem lookup_of_at? {entry sub : Entry} {name : String} {way : List String}
    (h : entry.at? (name :: way) = some sub) :
    ∃ entries next, entry = .folder entries ∧ entries.lookup name = some next ∧
      next.at? way = some sub := by
  cases entry with
  | file content modified => simp [at?, child?, entries] at h
  | folder entries =>
    rw [at?, child?_folder] at h
    obtain ⟨next, hlookup, hnext⟩ := Option.bind_eq_some_iff.1 h
    exact ⟨entries, next, rfl, hlookup, hnext⟩

theorem exists_way_of_mem_walk {enter : Path → String → Bool} {here : Path} {entry : Entry}
    (hwf : entry.wellFormed = true) {visit : Path × List String}
    (h : visit ∈ walk enter here entry) :
    ∃ way entries, visit = (here.down way, fileNames entries) ∧
      entry.at? way = some (.folder entries) ∧ comesTo enter here way = true := by
  match entry with
  | .file .. =>
    rw [walk] at h
    cases h
  | .folder entries =>
    rw [walk] at h
    split at h
    · cases h
    · rename_i hshort
      -- the folder itself is visited, or one below an entry, whose name is then first on the way
      obtain rfl | hbelow := List.mem_cons.1 h
      · exact ⟨[], entries, by simp, rfl, by simpa [comesTo] using hshort⟩
      · obtain ⟨name, sub, hmem, henter, hvisit⟩ := mem_inNameOrder_walkAll.1 hbelow
        obtain ⟨hkeys, hnames⟩ := wellFormed_folder hwf
        obtain ⟨way, below, hvisit, hat, hcomes⟩ :=
          exists_way_of_mem_walk (hnames name sub hmem).2 hvisit
        refine ⟨name :: way, below, ?_, ?_, ?_⟩
        · rw [hvisit, Path.child_down]
        · rw [at?, child?_folder, lookup_of_mem hkeys hmem]
          exact hat
        · simpa [comesTo, henter, hcomes] using hshort
termination_by sizeOf entry
decreasing_by
  have hentries := List.sizeOf_lt_of_mem hmem
  simp only [Prod.mk.sizeOf_spec, Entry.folder.sizeOf_spec] at hentries ⊢
  omega

theorem mem_walk_of_comesTo {enter : Path → String → Bool} {here : Path} {entry : Entry}
    {way : List String} {entries : List (String × Entry)}
    (hat : entry.at? way = some (.folder entries)) (h : comesTo enter here way = true) :
    (here.down way, fileNames entries) ∈ walk enter here entry := by
  induction way generalizing here entry with
  | nil =>
    cases hat
    rw [comesTo, decide_eq_true_eq] at h
    rw [walk, if_neg (Nat.not_lt.2 h), Path.down_nil]
    exact List.mem_cons_self
  | cons name names ih =>
    obtain ⟨children, sub, rfl, hlookup, hsub⟩ := lookup_of_at? hat
    simp only [comesTo, Bool.and_eq_true, decide_eq_true_eq] at h
    rw [walk, if_neg (Nat.not_lt.2 h.1.1), ← Path.child_down]
    refine List.mem_cons_of_mem _ (mem_inNameOrder_walkAll.2 ⟨name, sub, ?_, h.1.2, ?_⟩)
    · exact mem_of_lookup hlookup
    · exact ih hsub h.2

/-- The folders that are visited, with the names of their files. -/
theorem mem_walk {enter : Path → String → Bool} {here : Path} {entry : Entry}
    (hwf : entry.wellFormed = true) {visit : Path × List String} :
    visit ∈ walk enter here entry ↔ ∃ way entries, visit = (here.down way, fileNames entries) ∧
      entry.at? way = some (.folder entries) ∧ comesTo enter here way = true := by
  constructor
  · exact exists_way_of_mem_walk hwf
  · rintro ⟨way, entries, rfl, hat, hcomes⟩
    exact mem_walk_of_comesTo hat hcomes

theorem mem_fileNames {entries : List (String × Entry)}
    (hwf : (Entry.folder entries).wellFormed = true) {name : String} :
    name ∈ fileNames entries ↔
      ∃ content modified, entries.lookup name = some (.file content modified) := by
  have hkeys := (wellFormed_folder hwf).1
  simp only [fileNames, Text.mem_sorted, List.mem_map, List.mem_filter]
  constructor
  · rintro ⟨⟨name, entry⟩, ⟨hmem, hfile⟩, rfl⟩
    cases entry with
    | folder below => cases hfile
    | file content modified => exact ⟨content, modified, lookup_of_mem hkeys hmem⟩
  · rintro ⟨content, modified, hlookup⟩
    exact ⟨_, ⟨mem_of_lookup hlookup, rfl⟩, rfl⟩

/-- What a way leads to in a tree of this kind is of this kind, and so are the names on the way. -/
theorem wellFormed_at {root entry : Entry} (hwf : root.wellFormed = true) {way : List String}
    (h : root.at? way = some entry) :
    entry.wellFormed = true ∧ ∀ name ∈ way, isFileName name = true := by
  induction way generalizing root with
  | nil =>
    cases h
    exact ⟨hwf, by simp⟩
  | cons name names ih =>
    obtain ⟨entries, sub, rfl, hlookup, hsub⟩ := lookup_of_at? h
    obtain ⟨hname, hbelow⟩ := (wellFormed_folder hwf).2 name sub (mem_of_lookup hlookup)
    obtain ⟨hentry, hnames⟩ := ih hbelow hsub
    exact ⟨hentry, List.forall_mem_cons.2 ⟨hname, hnames⟩⟩

theorem ne_empty_of_isFileName {name : String} (h : isFileName name = true) : name ≠ "" := by
  rintro rfl
  simp [isFileName] at h

/-- It is enough that the last path on the way is short, since the others are not longer. -/
theorem comesTo_iff {enter : Path → String → Bool} {here : Path} {way : List String}
    (hway : ∀ name ∈ way, isFileName name = true) :
    comesTo enter here way = true ↔
      (here.down way).text.utf8ByteSize ≤ Disk.maxPathSize ∧
      ∀ above name below, way = above ++ name :: below → enter (here.down above) name = true := by
  induction way generalizing here with
  | nil => simp [comesTo]
  | cons next names ih =>
    obtain ⟨hnext, hnames⟩ := List.forall_mem_cons.1 hway
    simp only [comesTo, Bool.and_eq_true, decide_eq_true_eq, ih hnames, Path.child_down]
    constructor
    · rintro ⟨⟨-, henter⟩, hshort, hbelow⟩
      refine ⟨hshort, ?_⟩
      intro above name below heq
      cases above with
      | nil =>
        cases heq
        simpa using henter
      | cons first above =>
        cases heq
        exact hbelow above name below rfl
    · rintro ⟨hshort, henter⟩
      -- names are not empty, so the path at the end is the longest
      have hne : ∀ name ∈ next :: names, name ≠ "" := fun name hname =>
        ne_empty_of_isFileName (hway name hname)
      refine ⟨⟨Nat.le_trans (here.size_text_le_down hne) hshort, ?_⟩, hshort, ?_⟩
      · simpa using henter [] next names rfl
      · rintro above name below rfl
        exact henter (next :: above) name below rfl

/-- Whether a way leads to a file. -/
def HoldsFile (entry : Entry) (way : List String) : Prop :=
  ∃ content modified, entry.at? way = some (.file content modified)

theorem holdsFile_append {entry sub : Entry} {way : List String} (h : entry.at? way = some sub)
    (below : List String) : entry.HoldsFile (way ++ below) ↔ sub.HoldsFile below := by
  simp [HoldsFile, at?_append, h]

theorem holdsFile_folder_singleton {entries : List (String × Entry)} {name : String} :
    (Entry.folder entries).HoldsFile [name] ↔
      ∃ content modified, entries.lookup name = some (.file content modified) := by
  simp [HoldsFile, at?, child?_folder]

theorem mem_contentsOfAll {entries : List (String × Entry)} {file : List String × Bytes} :
    file ∈ contentsOfAll entries ↔ ∃ name entry, (name, entry) ∈ entries ∧
      ∃ below ∈ entry.contents, file = (name :: below.1, below.2) := by
  induction entries with
  | nil => simp [contentsOfAll]
  | cons first rest ih =>
    obtain ⟨firstName, firstEntry⟩ := first
    simp only [contentsOfAll, List.mem_append, List.mem_map, ih, List.mem_cons, Prod.mk.injEq,
      or_and_right, exists_or]
    refine or_congr_left ?_
    constructor
    · rintro ⟨below, hbelow, rfl⟩
      exact ⟨firstName, firstEntry, ⟨rfl, rfl⟩, below, hbelow, rfl⟩
    · rintro ⟨_, _, ⟨rfl, rfl⟩, below, hbelow, rfl⟩
      exact ⟨below, hbelow, rfl⟩

/-- Every file of a tree is among its contents. -/
theorem HoldsFile.mem_contents {entry : Entry} {way : List String} (h : entry.HoldsFile way) :
    way ∈ entry.contents.map (·.1) := by
  obtain ⟨content, modified, hat⟩ := h
  refine List.mem_map.2 ⟨(way, content), ?_, rfl⟩
  induction way generalizing entry with
  | nil =>
    cases hat
    exact List.mem_singleton_self _
  | cons name way ih =>
    obtain ⟨entries, sub, rfl, hlookup, hsub⟩ := lookup_of_at? hat
    exact mem_contentsOfAll.2 ⟨name, sub, mem_of_lookup hlookup, _, ih hsub, rfl⟩

/-- A file is in a folder. -/
theorem HoldsFile.exists_folder {entry : Entry} {way : List String} {name : String}
    (h : entry.HoldsFile (way ++ [name])) : ∃ entries, entry.at? way = some (.folder entries) := by
  obtain ⟨content, modified, hat⟩ := h
  have hkind : entry.kindAt (way ++ [name]) ≠ none := by simp [kindAt, hat]
  obtain ⟨folder, hfolder, hkind⟩ :=
    Option.map_eq_some_iff.1 (kindAt_above (List.cons_ne_nil name []) hkind)
  obtain ⟨entries, rfl⟩ := exists_folder_of_kind hkind
  exact ⟨entries, hfolder⟩

end Entry

namespace Disk

/-- Names that do not go back are added to the way. -/
theorem wayTo_down (disk : Disk) (folder : Path) {way : List String} (hway : ".." ∉ way) :
    disk.wayTo (folder.down way) = disk.wayTo folder ++ way := by
  have hsteps (start : List String) : way.foldl nextWay start = start ++ way := by
    induction way generalizing start with
    | nil => simp
    | cons name way ih =>
      have hname : ¬(name == "..") = true := by simpa using (List.ne_of_not_mem_cons hway).symm
      rw [List.foldl_cons, ih (List.not_mem_of_not_mem_cons hway), nextWay, if_neg hname,
        List.append_assoc, List.singleton_append]
  rw [wayTo, wayTo, Path.down_names, List.foldl_append, hsteps]
  rfl

/-- A path inside a folder leads to a place below the folder's. -/
theorem wayTo_inside {folder path : Path} (h : folder.IsInside path) (disk : Disk) :
    disk.wayTo folder <+: disk.wayTo path := by
  obtain ⟨way, -, rfl, hforward⟩ := Path.isInside_iff.1 h
  exact ⟨way, (disk.wayTo_down folder hforward).symm⟩

/-- Paths inside a folder that lead to one place are equal. -/
theorem eq_of_wayTo_inside {disk : Disk} {folder path path' : Path} (h : folder.IsInside path)
    (h' : folder.IsInside path') (heq : disk.wayTo path = disk.wayTo path') : path = path' := by
  obtain ⟨way, -, rfl, hforward⟩ := Path.isInside_iff.1 h
  obtain ⟨way', -, rfl, hforward'⟩ := Path.isInside_iff.1 h'
  rw [disk.wayTo_down folder hforward, disk.wayTo_down folder hforward',
    List.append_cancel_left_eq] at heq
  rw [heq]

/-- Names that lead to something are followed to it. -/
theorem foldlM_advance_names {disk : Disk} {way names : List String}
    (hnames : ∀ name ∈ names, Entry.isFileName name = true)
    (hexists : disk.kindAt (way ++ names) ≠ none) :
    names.foldlM disk.advance way = .ok (way ++ names) := by
  induction names generalizing way with
  | nil =>
    rw [List.append_nil]
    rfl
  | cons name names ih =>
    have hfolder : disk.kindAt way = some .folder :=
      Entry.kindAt_above (List.cons_ne_nil name names) hexists
    have hname := hnames name (by simp)
    simp only [Entry.isFileName, Bool.and_eq_true, decide_eq_true_eq, bne_iff_ne] at hname
    have hnext : nextWay way name = way ++ [name] := by simp [nextWay, hname.1.1.1.2]
    rw [List.append_cons] at hexists ⊢
    rw [List.foldlM_cons, advance_eq_ok.2 ⟨hfolder, hname.2, rfl⟩, hnext]
    exact ih (fun later hlater => hnames later (by simp [hlater])) hexists

theorem wellFormed_of_find {disk : Disk} (hwf : disk.tree.wellFormed = true) {path : Path}
    {entry : Entry} (h : disk.find path = .ok entry) : entry.wellFormed = true := by
  obtain ⟨way, -, hat⟩ := find_eq_ok.1 h
  exact (Entry.wellFormed_at hwf hat).1

theorem checkPath_eq_ok {path : Path} : checkPath path = .ok () ↔
    path.hasZero = false ∧ path.text.utf8ByteSize ≤ maxPathSize := by
  unfold checkPath
  by_cases hzero : path.hasZero
  · simp [hzero]
  · by_cases hlong : maxPathSize < path.text.utf8ByteSize
    · simp [hzero, hlong]
    · simp [hzero, hlong, Nat.le_of_not_lt hlong]

theorem size_text_le_of_find {disk : Disk} {path : Path} {entry : Entry}
    (h : disk.find path = .ok entry) : path.text.utf8ByteSize ≤ maxPathSize := by
  obtain ⟨way, hway, -⟩ := find_eq_ok.1 h
  exact (checkPath_eq_ok.1 (resolve_eq_ok.1 hway).1).2

theorem hasZero_down {path : Path} (h : path.hasZero = false) {way : List String}
    (hway : ∀ name ∈ way, Entry.isFileName name = true) : (path.down way).hasZero = false := by
  simp only [Path.hasZero, Path.down_names, List.any_append, Bool.or_eq_false_iff] at h ⊢
  refine ⟨h, List.any_eq_false.2 ?_⟩
  intro name hname
  have hname := hway name hname
  simp only [Entry.isFileName, Bool.and_eq_true] at hname
  simpa using hname.1.2

theorem checkPath_down {folder : Path} (hfolder : checkPath folder = .ok ()) {way : List String}
    (hway : ∀ name ∈ way, Entry.isFileName name = true)
    (hshort : (folder.down way).text.utf8ByteSize ≤ maxPathSize) :
    checkPath (folder.down way) = .ok () :=
  checkPath_eq_ok.2 ⟨hasZero_down (checkPath_eq_ok.1 hfolder).1 hway, hshort⟩

/-- Below a folder that exists, a path leads on from there. -/
theorem resolve_down {disk : Disk} {folder : Path} {start : List String}
    (hstart : disk.resolve folder = .ok start) {way : List String}
    (hnames : ∀ name ∈ way, Entry.isFileName name = true)
    (hshort : (folder.down way).text.utf8ByteSize ≤ maxPathSize) :
    disk.resolve (folder.down way) = way.foldlM disk.advance start := by
  obtain ⟨hcheck, hsteps⟩ := resolve_eq_ok.1 hstart
  have hbegin : disk.startOf (folder.down way) = disk.startOf folder := rfl
  unfold resolve
  rw [checkPath_down hcheck hnames hshort, Path.down_names, List.foldlM_append, hbegin, hsteps]
  rfl

/-- What is below a folder is found there, unless its path is too long. -/
theorem find_down {disk : Disk} (hwf : disk.tree.wellFormed = true) {folder : Path}
    {entry sub : Entry} (hfind : disk.find folder = .ok entry) {way : List String}
    (hat : entry.at? way = some sub)
    (hshort : (folder.down way).text.utf8ByteSize ≤ maxPathSize) :
    disk.find (folder.down way) = .ok sub := by
  obtain ⟨start, hstart, hentry⟩ := find_eq_ok.1 hfind
  have hsub : disk.tree.at? (start ++ way) = some sub := by simp [Entry.at?_append, hentry, hat]
  have hnames := (Entry.wellFormed_at (wellFormed_of_find hwf hfind) hat).2
  refine find_eq_ok.2 ⟨start ++ way, ?_, hsub⟩
  rw [resolve_down hstart hnames hshort]
  apply foldlM_advance_names hnames
  simp [kindAt, Entry.kindAt, hsub]

theorem foldlM_advance_ne_tooLong {disk : Disk} {way names : List String}
    (hnames : ∀ name ∈ names, Entry.isFileName name = true) :
    names.foldlM disk.advance way ≠ .error .tooLong := by
  induction names generalizing way with
  | nil => nofun
  | cons name names ih =>
    rw [List.foldlM_cons, advance_eq]
    cases disk.kindAt way with
    | none => nofun
    | some kind =>
      cases kind with
      | file => nofun
      | folder =>
        have hname := hnames name (by simp)
        simp only [Entry.isFileName, Bool.and_eq_true, decide_eq_true_eq] at hname
        simp only [Nat.not_lt.2 hname.2, if_false]
        exact ih fun later hlater => hnames later (by simp [hlater])

/-- Where a folder holds no folder, none is found. -/
theorem isFolderAt_down_eq_false {disk : Disk} {folder : Path} {entry : Entry}
    (hfind : disk.find folder = .ok entry) {way : List String}
    (hnames : ∀ name ∈ way, Entry.isFileName name = true)
    (hshort : (folder.down way).text.utf8ByteSize ≤ maxPathSize)
    (hnone : ∀ entries, entry.at? way ≠ some (.folder entries)) :
    disk.isFolderAt (folder.down way) = .ok false := by
  obtain ⟨start, hstart, hentry⟩ := find_eq_ok.1 hfind
  have hresolve := resolve_down hstart hnames hshort
  cases hfound : disk.find (folder.down way) with
  | error e =>
    have hne : e ≠ .tooLong := by
      rintro rfl
      unfold find at hfound
      rw [hresolve] at hfound
      cases hsteps : way.foldlM disk.advance start with
      | error e =>
        rw [hsteps] at hfound
        cases hfound
        exact foldlM_advance_ne_tooLong hnames hsteps
      | ok final =>
        simp only [hsteps, bind, Except.bind] at hfound
        split at hfound <;> cases hfound
    unfold isFolderAt entryAt
    rw [hfound]
    cases e with
    | tooLong => exact absurd rfl hne
    | _ => rfl
  | ok sub =>
    obtain ⟨final, hfinal, hat⟩ := find_eq_ok.1 hfound
    have hforward : ".." ∉ way := fun hmem => absurd (hnames _ hmem) (by decide)
    rw [resolve_eq_wayTo hfinal, wayTo_down _ _ hforward, ← resolve_eq_wayTo hstart,
      Entry.at?_append, hentry] at hat
    unfold isFolderAt entryAt
    rw [hfound]
    cases sub with
    | file => rfl
    | folder entries => exact absurd hat (hnone entries)

/-- The files below a folder: those with the ending in folders whose path is short enough, with no
excluded name and no pruned folder on the way. -/
theorem mem_filesBelow {disk : Disk} (hwf : disk.tree.wellFormed = true) {folder path : Path}
    {suffix : String} {excluded : List String} {pruned : List Path} :
    path ∈ disk.filesBelow folder suffix excluded pruned ↔
      ∃ entry way name, disk.find folder = .ok entry ∧ path = folder.down (way ++ [name]) ∧
        entry.HoldsFile (way ++ [name]) ∧ suffix.toList <:+ name.toList ∧
        (folder.down way).text.utf8ByteSize ≤ maxPathSize ∧
        ∀ above part below, way = above ++ part :: below →
          part ∉ excluded ∧ folder.down (above ++ [part]) ∉ pruned := by
  unfold filesBelow
  cases hfind : disk.find folder with
  | error e => simp
  | ok entry =>
    have hentry := wellFormed_of_find hwf hfind
    simp only [List.mem_flatMap, List.mem_map, List.mem_filter, List.isSuffixOf_iff_suffix,
      Entry.mem_walk hentry]
    constructor
    · rintro ⟨-, ⟨way, entries, rfl, hat, hcomes⟩, name, ⟨hname, hsuffix⟩, rfl⟩
      obtain ⟨hfolder, hway⟩ := Entry.wellFormed_at hentry hat
      rw [Entry.mem_fileNames hfolder, ← Entry.holdsFile_folder_singleton,
        ← Entry.holdsFile_append hat] at hname
      obtain ⟨hshort, henter⟩ := (Entry.comesTo_iff hway).1 hcomes
      refine ⟨entry, way, name, rfl, Path.down_child folder way name, hname, hsuffix, hshort, ?_⟩
      intro above part below heq
      simpa [Path.down_child] using henter above part below heq
    · rintro ⟨found, way, name, hfound, rfl, hfile, hsuffix, hshort, hway⟩
      cases hfound
      -- the folder of the file is where the walk has to come to
      obtain ⟨entries, hat⟩ := hfile.exists_folder
      obtain ⟨hfolder, hnames⟩ := Entry.wellFormed_at hentry hat
      rw [Entry.holdsFile_append hat, Entry.holdsFile_folder_singleton,
        ← Entry.mem_fileNames hfolder] at hfile
      refine ⟨_, ⟨way, entries, rfl, hat, (Entry.comesTo_iff hnames).2 ⟨hshort, ?_⟩⟩, name,
        ⟨hfile, hsuffix⟩, Path.down_child folder way name⟩
      intro above part below heq
      simpa [Path.down_child] using hway above part below heq

/-- What is found by walking can be read, unless its path is too long. -/
theorem read_of_mem_filesBelow {disk : Disk} (hwf : disk.tree.wellFormed = true) {folder path : Path}
    {suffix : String} {excluded : List String} {pruned : List Path}
    (h : path ∈ disk.filesBelow folder suffix excluded pruned) :
    (∃ e, checkPath path = .error e) ∨ ∃ content, disk.read path = .ok content := by
  obtain ⟨entry, way, name, hfind, rfl, ⟨content, modified, hat⟩, -⟩ := (mem_filesBelow hwf).1 h
  cases hcheck : checkPath (folder.down (way ++ [name])) with
  | error e => exact .inl ⟨e, rfl⟩
  | ok u =>
    have hshort := (checkPath_eq_ok.1 hcheck).2
    exact .inr ⟨content, read_eq_ok_iff_find.2 ⟨modified, find_down hwf hfind hat hshort⟩⟩

end Disk

end Ripple
