-- SUMMARY: Indices and mappings that were saved as complete snapshots are loaded as they were.
import Ripple.Table.Building
import Ripple.Proofs.Cache.Snapshot
import Ripple.Proofs.Repository.Mapping
import Ripple.Proofs.Settings.Standard
import Ripple.Proofs.Table.Index
import Ripple.Repository.Linking

/-!
# What is saved is loaded again

An index that was saved as a complete snapshot is found again as it was: with all fields of its
statements, whatever characters they hold, and in its order. So are mappings.
-/

namespace Ripple

/-! ## When a file can be written -/

/-- Whether a file can be written does not hang on its content. -/
theorem Disk.exists_write_iff (disk : Disk) (path : Path) (content content' : Bytes) :
    (∃ disk', disk.write path content 0 = .ok disk') ↔
      ∃ disk', disk.write path content' 0 = .ok disk' := by
  unfold Disk.write
  cases disk.resolve path with
  | error e => exact Iff.rfl
  | ok way =>
    simp only [bind, Except.bind]
    split
    · exact Iff.rfl
    · split
      · exact Iff.rfl
      · split <;> simp

/-- The write that is due is not broken off, the folders above the file are there or can be made,
and no folder is in its place. -/
structure Workspace.CanWrite (w : Workspace) (path : Path) : Prop where
  fate : w.fates 0 = .done
  folders : (w.files.makeFolders path.parent).2 = .ok ()
  place : ∃ files, (w.files.makeFolders path.parent).1.write path [] 0 = .ok files

theorem Work.writeFile_eq_ok_iff (path : Path) (content : Bytes) (w : Workspace) :
    ((writeFile path content).outcome w).1 = .ok (.ok ()) ↔ w.CanWrite path := by
  unfold writeFile
  rw [outcome_bind_ok (outcome_makeFolders path.parent w)]
  rcases hfolders : (w.files.makeFolders path.parent).2 with e | ⟨⟨⟩⟩
  · refine ⟨fun h => (by cases h), fun h => ?_⟩
    rw [h.folders] at hfolders
    cases hfolders
  · dsimp only
    rw [outcome_bind_ok (outcome_nextFate _)]
    dsimp only
    cases hfate : w.fates 0 with
    | done =>
      have hplace := (w.files.makeFolders path.parent).1.exists_write_iff path content []
      dsimp only
      rw [outcome_tryChange]
      dsimp only
      split
      · rename_i files hwrite
        exact ⟨fun _ => ⟨hfate, hfolders, hplace.1 ⟨files, hwrite⟩⟩, fun _ => rfl⟩
      · rename_i e hwrite
        refine ⟨fun h => (by cases h), fun h => ?_⟩
        obtain ⟨files, hwritten⟩ := hplace.2 h.place
        cases hwrite.symm.trans hwritten
    | brokenOff kept =>
      -- Whatever such a write leaves behind, it tells that it broke off.
      have hbroken (h : w.CanWrite path) : False := by
        rw [h.fate] at hfate
        cases hfate
      cases kept with
      | none => exact ⟨fun h => (by cases h), fun h => (hbroken h).elim⟩
      | some kept =>
        refine ⟨fun h => ?_, fun h => (hbroken h).elim⟩
        dsimp only at h
        rw [outcome_bind, outcome_tryChange] at h
        dsimp only at h
        split at h <;> cases h

namespace SnapshotFile

/-! ## Complete snapshots -/

/-- How the fingerprint of a snapshot is written, if it has one. -/
def printJson (fingerprint : Option String) : Json :=
  fingerprint.elim .null .str

section
variable (file : SnapshotFile) {data : Json} (fingerprint : Option String)

theorem plain_complete (hdata : data.Plain) :
    (envelope file.kind data (printJson fingerprint) (.bool true)).Plain := by
  cases fingerprint with
  | some print => exact plain_envelope file.kind hdata print true
  | none =>
    refine .obj (by simp) ?_
    intro field hfield
    simp only [List.mem_cons, List.not_mem_nil, or_false] at hfield
    obtain rfl | rfl | rfl | rfl | rfl := hfield
    · exact .str file.kind
    · exact .int (show (Nat.toDigits 10 1).length ≤ Text.maxIntegerDigits by decide)
    · exact .null
    · exact .bool true
    · exact hdata

/-- A complete snapshot is used where its own fingerprint is wanted, in either mode. -/
theorem judge_complete (hdata : data.isEmpty = false) :
    file.judge (printJson fingerprint)
      (envelope file.kind data (printJson fingerprint) (.bool true)) = .usable data := by
  have hcomplete : (Json.bool true).isEmpty = false := rfl
  cases fingerprint <;>
    simp [judge, envelope, printJson, Json.field?, Json.beq_str, hcomplete, hdata]

theorem state_complete (hplain : data.Plain) (hdata : data.isEmpty = false) {files : Disk}
    (hread : files.read file.path =
      .ok (file.bytesOf data (printJson fingerprint) (.bool true))) :
    file.state files (printJson fingerprint) = .ok (.usable data) := by
  unfold state
  rw [Disk.existsAt_of_read hread, hread]
  simp only [bytesOf_eq_encode, Utf8.decode?_encode,
    Json.read_render Json.Layout.line_isPlain (file.plain_complete fingerprint hplain),
    file.judge_complete fingerprint hdata]

/-- Saving works exactly if the file can be written, and leaves the snapshot there. -/
theorem save_iff_canWrite (data fingerprint complete : Json) (w : Workspace) :
    ∃ saved w', (file.save data fingerprint complete).outcome w = (.ok saved, w') ∧
      (saved = true ↔ w.CanWrite file.path) ∧
      (saved = true →
        w'.files.read file.path = .ok (file.bytesOf data fingerprint complete)) := by
  rw [bytesOf_eq_encode]
  generalize hbytes : Utf8.encode
    (Json.renderAt .line 0 (envelope file.kind data fingerprint complete)) = bytes
  have hiff := Work.writeFile_eq_ok_iff file.path bytes w
  obtain ⟨written, w', hwrite⟩ := Work.Returns.writeFile file.path bytes w
  unfold save
  dsimp only
  rw [hbytes, Work.outcome_bind_ok hwrite]
  cases written with
  | error e =>
    rw [hwrite] at hiff
    refine ⟨false, _, rfl, ⟨nofun, fun h => ?_⟩, nofun⟩
    cases hiff.2 h
  | ok u =>
    obtain ⟨w'', hwrite', hholds⟩ := Work.outcome_writeFile_ok (congrArg Prod.fst hwrite)
    cases hwrite.symm.trans hwrite'
    rw [hwrite] at hiff
    exact ⟨true, w', rfl, ⟨fun _ => hiff.1 rfl, fun _ => rfl⟩, fun _ => hholds.read⟩

/-- Saving data as a complete snapshot works exactly if the file can be written, and loading with
the same fingerprint then gives a value. -/
def Restores {α : Type} (data : Json) (load : Json → Work (Option α)) (value : α)
    (w : Workspace) : Prop :=
  ∃ saved w', (file.save data (printJson fingerprint) (.bool true)).outcome w = (.ok saved, w') ∧
    (saved = true ↔ w.CanWrite file.path) ∧
    (saved = true →
      ∃ w'', (load (printJson fingerprint)).outcome w' = (.ok (some value), w''))

theorem restores_loadAs {α : Type} {parse : Json → Except Fault α} {value : α}
    (hplain : data.Plain) (hdata : data.isEmpty = false) (hparse : parse data = .ok value)
    (title : String) (loaded : α → String) (w : Workspace) :
    file.Restores fingerprint data (file.loadAs parse title loaded) value w := by
  obtain ⟨saved, w', hsave, hiff, hread⟩ :=
    file.save_iff_canWrite data (printJson fingerprint) (.bool true) w
  refine ⟨saved, w', hsave, hiff, fun hsaved => ?_⟩
  obtain ⟨w'', hload, -⟩ := file.outcome_loadAs parse title loaded
    (file.state_complete fingerprint hplain hdata (hread hsaved))
  refine ⟨w'', ?_⟩
  rw [hload, SnapshotState.value?, SnapshotState.data?, Option.bind_some, hparse]
  rfl

end

end SnapshotFile

/-! ## Indices and mappings -/

/-- Every index of tables and all mappings that stand under their tables, unless they are empty, are
loaded as they were saved: every text of every field, the tables in their order and the statements
in theirs. -/
theorem loadCached_of_saved (settings : Settings) (journal : String)
    (fingerprint : Option String) (w : Workspace) :
    (∀ index : TableIndex, index.IsDistinct → index ≠ [] →
      (TableIndex.snapshotFile settings journal).Restores fingerprint index.json
        (TableIndex.loadCached (TableIndex.snapshotFile settings journal))
        (index.map .str) w) ∧
    (∀ mappings : RepositoryMappings, mappings.IsKeyed → mappings ≠ [] →
      (Repository.snapshotFile settings journal).Restores fingerprint mappings.json
        (Repository.loadCached (Repository.snapshotFile settings journal))
        (mappings.map .str) w) := by
  constructor
  · intro index hdistinct hindex
    have hdata : index.json.isEmpty = false := by
      rw [TableIndex.isEmpty_json]
      simpa using hindex
    exact SnapshotFile.restores_loadAs _ fingerprint (TableIndex.plain_json hdistinct) hdata
      (TableIndex.ofJson_json index) _ _ w
  · intro mappings hkeyed hmappings
    have hdata : mappings.json.isEmpty = false := by
      rw [RepositoryMappings.isEmpty_json]
      simpa using hmappings
    exact SnapshotFile.restores_loadAs _ fingerprint mappings.plain_json hdata
      (RepositoryMappings.ofJson_json hkeyed) _ _ w

/-- An index with marks of JSON, line ends and characters of several lengths in its texts. -/
def escapedIndex : TableIndex :=
  [("T\"", [⟨"m\r\n", "a\\b.xml", "", "é", "select", "FROM\tT\x00"⟩,
      ⟨"", "", "n", "😀", "\u2028", "\x7b\x7d"⟩]),
    ("", [])]

/-- Mappings with such texts. -/
def escapedMappings : RepositoryMappings :=
  [("T\"", ⟨"T\"", ["a\\b.xml"], [], ["[N/A]-é", "\r"]⟩), ("", ⟨"", [], ["\n"], []⟩)]

theorem loadCached_of_saved_escaped :
    (escapedIndex.IsDistinct ∧ escapedIndex ≠ [] ∧ escapedMappings.IsKeyed ∧
      escapedMappings ≠ []) ∧
    (∃ w' w'', ((TableIndex.snapshotFile .standard "").save escapedIndex.json (.str "f")
        (.bool true)).outcome {} = (.ok true, w') ∧
      (TableIndex.loadCached (TableIndex.snapshotFile .standard "") (.str "f")).outcome w' =
        (.ok (some (escapedIndex.map .str)), w'')) ∧
    (∃ w' w'', ((Repository.snapshotFile .standard "").save escapedMappings.json .null
        (.bool true)).outcome {} = (.ok true, w') ∧
      (Repository.loadCached (Repository.snapshotFile .standard "") .null).outcome w' =
        (.ok (some (escapedMappings.map .str)), w'')) := by
  have hdistinct : escapedIndex.IsDistinct := by
    unfold TableIndex.IsDistinct
    decide
  have hkeyed : escapedMappings.IsKeyed := ⟨by decide, by decide⟩
  have hindex : escapedIndex ≠ [] := by simp [escapedIndex]
  have hmappings : escapedMappings ≠ [] := by simp [escapedMappings]
  refine ⟨⟨hdistinct, hindex, hkeyed, hmappings⟩, ?_, ?_⟩
  · obtain ⟨saved, w', hsave, hiff, hload⟩ :=
      (loadCached_of_saved .standard "" (some "f") {}).1 escapedIndex hdistinct hindex
    obtain rfl : saved = true := hiff.2 ⟨rfl, rfl, _, rfl⟩
    obtain ⟨w'', hload⟩ := hload rfl
    exact ⟨w', w'', hsave, hload⟩
  · obtain ⟨saved, w', hsave, hiff, hload⟩ :=
      (loadCached_of_saved .standard "" none {}).2 escapedMappings hkeyed hmappings
    obtain rfl : saved = true := hiff.2 ⟨rfl, rfl, _, rfl⟩
    obtain ⟨w'', hload⟩ := hload rfl
    exact ⟨w', w'', hsave, hload⟩

end Ripple
