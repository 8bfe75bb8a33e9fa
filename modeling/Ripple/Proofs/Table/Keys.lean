-- SUMMARY: Tables of an index are in their normal form and have statements.
import Ripple.Proofs.Sql.TableReference
import Ripple.Proofs.Table.Building

/-!
# The tables of an index

An index that is made from mapper files, whatever they hold and whatever becomes of its snapshots,
has nothing but names of tables in their normal form, each with a statement.
-/

namespace Ripple.TableIndex

/-- Every table is under its normal name and has a statement. -/
def IsFilled (index : TableIndex) : Prop :=
  ∀ entry ∈ index, Sql.IsTable entry.1 ∧ entry.2 ≠ []

theorem addNew_ne_nil (statement : Statement) (statements : List Statement) :
    addNew statement statements ≠ [] := by
  unfold addNew
  split
  · rintro rfl
    contradiction
  · simp

theorem IsFilled.add {index : TableIndex} (h : index.IsFilled) (statement : Statement)
    {table : String} (htable : Sql.IsTable table) : (index.add statement table).IsFilled := by
  intro entry hentry
  obtain rfl | hentry := mem_putField hentry
  · exact ⟨htable, addNew_ne_nil _ _⟩
  · exact h entry hentry

theorem IsFilled.addMention {index : TableIndex} (h : index.IsFilled)
    {mention : Statement × List String} (htables : ∀ table ∈ mention.2, Sql.IsTable table) :
    (index.addMention mention).IsFilled :=
  List.foldlRecOn mention.2 _ h fun _ hindex table htable =>
    hindex.add mention.1 (htables table htable)

/-- A statement of a mapper file is mentioned with the tables that it names. -/
theorem tables_of_readMapper {settings : Settings} {files : Disk} {mapper : LocatedMapper}
    {mentions : List Mapper.Mentions}
    (h : (readMapper settings files mapper).map (·.2) = .ok mentions) {mention : Mapper.Mentions}
    (hmention : mention ∈ mentions) : mention.2 = Sql.tables mention.1.rawSql := by
  obtain ⟨⟨messages, found⟩, hread, rfl⟩ := map_eq_ok.1 h
  obtain ⟨⟨messages', statements⟩, -, hfound⟩ := bind_eq_ok.1 hread
  cases hfound
  obtain ⟨s, -, hs⟩ := List.mem_map.1 hmention
  simp only [← hs]

/-- What is true of an index all along. -/
structure IsSound (index : TableIndex) : Prop where
  distinct : index.IsDistinct
  filled : index.IsFilled

theorem isSound_nil : IsSound [] where
  distinct := List.nodup_nil
  filled := by simp [IsFilled]

section
variable (settings : Settings) (file : SnapshotFile) (fingerprint : String)

theorem Progress.step_gives {mentions : List Mapper.Mentions}
    (hmentions : ∀ mention ∈ mentions, ∀ table ∈ mention.2, Sql.IsTable table)
    {progress : Progress} (h : progress.index.IsSound) :
    (Progress.step settings file fingerprint progress mentions).Gives (·.index.IsSound) := by
  have hnext : (progress.add mentions).index.IsSound := by
    refine ⟨h.distinct.foldl_addMention mentions, ?_⟩
    exact List.foldlRecOn mentions _ h.filled fun _ hindex mention hmention =>
      hindex.addMention (hmentions mention hmention)
  unfold Progress.step
  dsimp only
  split
  · exact .of_bind fun _ => .pure hnext
  · exact .pure hnext

/-- What indexing gives, whatever becomes of the files meanwhile. -/
theorem index_gives (mappers : List LocatedMapper) :
    (index settings file fingerprint mappers).Gives fun found =>
      ∃ index : TableIndex, index.IsSound ∧ found = index.map .str := by
  have hstep : ∀ files mapper mentions,
      (readMapper settings files mapper).map (·.2) = .ok mentions → ∀ progress : Progress,
        progress.index.IsSound →
          (Progress.step settings file fingerprint progress mentions).Gives (·.index.IsSound) := by
    intro files mapper mentions hmentions progress hprogress
    refine Progress.step_gives settings file fingerprint ?_ hprogress
    intro mention hmention table htable
    rw [tables_of_readMapper hmentions hmention] at htable
    exact Sql.isTable_of_mem_tables htable
  have hstart : ({} : Progress).index.IsSound := isSound_nil
  have hfold := Workers.foldWith_gives hstep settings hstart mappers
  refine .bind hfold fun reached hreached => ?_
  obtain ⟨progress, fault?⟩ := reached
  cases fault? with
  | some fault => exact .throw fault
  | none => exact .of_bind fun _ => .of_bind fun _ => .pure ⟨progress.index, hreached, rfl⟩

end

section
variable (settings : Settings) (journal : String) (modules : List BuildModule)

/-- A beginning of a snapshot of an index. -/
def IsOwn (bytes : Bytes) : Prop :=
  ∃ fingerprint, (snapshotFile settings journal).IsRemnant fingerprint (fun _ => True) bytes

theorem index_leaves (fingerprint : String) (mappers : List LocatedMapper) :
    (index settings (snapshotFile settings journal) fingerprint mappers).Touches
      settings.tableIndexFile (IsOwn settings journal) := by
  -- The files may change while they are read, so nothing is asked of the indices that are saved.
  have hstep := Progress.step_spec settings (snapshotFile settings journal) fingerprint fun _ => True
  have htouches : ∀ (progress : Progress) mentions, progress.index.IsDistinct →
      (Progress.step settings (snapshotFile settings journal) fingerprint progress
        mentions).Touches settings.tableIndexFile (IsOwn settings journal) := by
    intro progress mentions hprogress w
    obtain ⟨-, w', hnext, htouch⟩ := hstep progress mentions w hprogress
    rw [hnext]
    exact htouch.mono fun bytes hbytes => ⟨fingerprint, hbytes⟩
  have hgives : ∀ (progress : Progress) mentions, progress.index.IsDistinct →
      (Progress.step settings (snapshotFile settings journal) fingerprint progress
        mentions).Gives (·.index.IsDistinct) := by
    intro progress mentions hprogress w next w' hnext
    obtain ⟨hdistinct, w₁, hspec, -⟩ := hstep progress mentions w hprogress
    cases hnext.symm.trans hspec
    exact hdistinct
  have hstart : ({} : Progress).index.IsDistinct := List.nodup_nil
  obtain ⟨hfold, hreaches⟩ :
      (Workers.foldWith settings (readMapper settings) _ ({} : Progress) mappers).Touches _ _ ∧ _ :=
    Workers.foldWith_touches htouches hgives settings hstart mappers
  refine .bind_gives hfold hreaches fun reached hreached => ?_
  obtain ⟨progress, fault?⟩ := reached
  cases fault? with
  | some fault => exact .throw fault
  | none =>
    refine .bind (.mono ?_ fun bytes hbytes => ⟨fingerprint, hbytes⟩) fun _ => ?_
    · exact (snapshotFile settings journal).save_leaves fingerprint (plain_json hreached) true
        fun _ => trivial
    · exact .bind (snapshotFile settings journal).log_touches fun _ => .pure _

/-- A build leaves nothing but beginnings of its snapshots, whatever the mapper files are. -/
theorem build_leaves : (build settings journal modules).Touches settings.tableIndexFile
    (IsOwn settings journal) := by
  refine .bind (snapshotFile settings journal).log_touches fun _ => .bind .files fun files => ?_
  refine .bind (.ofExcept _) fun mappers => ?_
  refine .bind (snapshotFile settings journal).log_touches fun _ => ?_
  refine .bind (.ofExcept _) fun fingerprint => ?_
  refine .bind ((snapshotFile settings journal).loadAs_touches _ _ _ _) fun found? => ?_
  cases found? with
  | some index => exact .pure _
  | none => exact index_leaves settings journal fingerprint mappers

variable {settings journal modules}

/-- Where there is no snapshot, a build makes the index. -/
theorem build_of_absent {w w' : Workspace} {found : TableIndex Json}
    (habsent : w.files.contentAt settings.tableIndexFile = none)
    (h : (build settings journal modules).outcome w = (.ok found, w')) :
    ∃ index : TableIndex, index.IsSound ∧ found = index.map .str := by
  obtain ⟨fault, w₁, hbuild, -⟩ | ⟨mappers, w₁, hbuild, hfiles, -⟩ := build_cases journal w
  · rw [h] at hbuild
    cases hbuild
  · rw [h] at hbuild
    obtain ⟨found?, w₂, hload, hrest⟩ := Work.outcome_bind_eq_ok hbuild.symm
    obtain ⟨state, hstate, rfl⟩ := SnapshotFile.loadAs_eq_ok hload
    cases hvalue : state.value? ofJson with
    | none =>
      rw [hvalue] at hrest
      exact index_gives settings _ _ mappers w₂ found w' hrest
    | some index =>
      -- A snapshot that is used has been read, but there was none.
      obtain ⟨data, hdata, -⟩ := Option.bind_eq_some_iff.1 hvalue
      obtain ⟨bytes, hread⟩ := SnapshotFile.read_of_data? hstate hdata
      rw [hfiles] at hread
      cases habsent.symm.trans (Disk.contentAt_of_read hread)

end

end Ripple.TableIndex
