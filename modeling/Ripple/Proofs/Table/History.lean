-- SUMMARY: Builds over changing trees that share a snapshot, and when an old index goes unnoticed.
import Ripple.Proofs.Settings.Standard
import Ripple.Proofs.Table.Building

/-!
# Builds that share a snapshot

Builds follow each other, over trees that change in any way. Whatever became of them, a snapshot
that is used holds the index of an earlier build, and that build hashed the same bytes. So the
snapshot goes unnoticed exactly if builds that hashed the same bytes give the same index.
-/

namespace Ripple

theorem Statement.map_str_injective : (Statement.map Json.str).Injective := by
  rintro ⟨⟩ ⟨⟩ h
  simp only [Statement.map, Statement.mk.injEq, Json.str.injEq] at h ⊢
  exact h

namespace TableIndex

theorem map_str_injective : (TableIndex.map Json.str).Injective := by
  refine List.map_injective_iff.2 ?_
  rintro ⟨table, statements⟩ ⟨table', statements'⟩ h
  obtain ⟨rfl, hstatements⟩ := Prod.mk.inj h
  rw [List.map_injective_iff.2 Statement.map_str_injective hstatements]

/-- A build with the workspace that it starts in. The workspace tells when the build is cancelled
and what becomes of its writes. Being killed during a write leaves what the write leaves that breaks
off, if no later write comes so far as to touch the file. -/
structure Run where
  flush : Int
  includes : Bool
  modules : List BuildModule
  before : Workspace

namespace Run

section
variable (base : Settings) (journal : String) (run : Run)

def settings : Settings :=
  { base with tableIndexFlush := run.flush, resolveIncludes := run.includes }

/-- What the build gives. -/
def result : Except Fault (TableIndex Json) :=
  ((build (run.settings base) journal run.modules).outcome run.before).1

/-- The workspace that the build leaves. -/
def after : Workspace :=
  ((build (run.settings base) journal run.modules).outcome run.before).2

/-- What a build gives that keeps its snapshot elsewhere and is not cancelled. -/
def scratch (spare : Path) : Except Fault (TableIndex Json) :=
  ((build { run.settings base with tableIndexFile := spare } journal run.modules).outcome
    { run.before with signal := none }).1

/-- The bytes whose digest is the fingerprint. -/
def hashed : Bytes :=
  TableIndex.hashed (run.settings base) run.modules run.before.files

/-- The index that the mapper files give. -/
def fresh : Except Fault TableIndex :=
  TableIndex.fresh (run.settings base) run.modules run.before.files

/-- What the build has to look at: the mapper files with their modules and contents. -/
def inputs : Bool × List (LocatedMapper × Except FileError Bytes) :=
  (run.includes, (located (run.settings base) run.modules run.before.files).map fun mapper =>
    (mapper, run.before.files.read mapper.1))

/-- The build finds the whole snapshot of an earlier one that hashed the same bytes. -/
structure Finds (past : Run) (index : TableIndex) : Prop where
  fresh : past.fresh base = .ok index
  hashed : past.hashed base = run.hashed base
  nonempty : index ≠ []
  read : run.before.files.read base.tableIndexFile = .ok ((snapshotFile base journal).bytesOf
    index.json (.str (Sha256.digest (run.hashed base))) (.bool true))

end

end Run

/-- Builds with the same place for their snapshots, the latest first. Between two of them the files
may change in any way, but nobody else puts a file at that place. -/
inductive History (base : Settings) (journal : String) : List Run → Prop where
  | nil : History base journal []
  | cons {run : Run} {earlier : List Run} (rest : History base journal earlier)
      (steady : IsSteady (run.settings base) run.modules run.before.files)
      (kept : ∀ bytes, run.before.files.contentAt base.tableIndexFile = some bytes →
        ∃ last ∈ earlier.head?,
          (last.after base journal).files.contentAt base.tableIndexFile = some bytes) :
      History base journal (run :: earlier)

section
variable {base : Settings} {journal : String}

/-- Whatever is at the place of the snapshot was left by a build. -/
theorem History.isRemnant {runs : List Run} (h : History base journal runs) {last : Run}
    (hlast : last ∈ runs.head?) {bytes : Bytes}
    (hbytes : (last.after base journal).files.contentAt base.tableIndexFile = some bytes) :
    ∃ past ∈ runs, (snapshotFile base journal).IsRemnant (Sha256.digest (past.hashed base))
      (IsJsonOf (past.fresh base)) bytes := by
  induction h generalizing last with
  | nil => cases hlast
  | @cons run earlier rest steady kept ih =>
    cases hlast
    obtain ⟨result, w', hbuild, htouch, -⟩ := build_spec journal steady
    unfold Run.after at hbytes
    rw [hbuild] at hbytes
    obtain hbefore | hleft := htouch.content bytes hbytes
    · obtain ⟨last', hlast', hbytes'⟩ := kept bytes hbefore
      obtain ⟨past, hpast, hremnant⟩ := ih hlast' hbytes'
      exact ⟨past, by simp [hpast], hremnant⟩
    · exact ⟨run, by simp, hleft⟩

variable {run past : Run} {earlier : List Run} {index : TableIndex} {found : TableIndex Json}

/-- What is known of a build that ends. -/
theorem History.result_spec (h : History base journal (run :: earlier))
    (hresult : run.result base journal = .ok found) :
    (∃ mappers, locate run.before.files (run.settings base) run.modules = .ok mappers ∧
      run.fresh base = ofMappers (run.settings base) run.before.files mappers) ∧
    ∃ state, (snapshotFile base journal).state run.before.files
        (.str (Sha256.digest (run.hashed base))) = .ok state ∧
      (state.value? ofJson = some found ∨ state.value? ofJson = none ∧
        ∃ index, run.fresh base = .ok index ∧ found = index.map .str) := by
  cases h with
  | cons rest steady kept =>
    obtain ⟨result, w', hbuild, -, hsound, -⟩ := build_spec journal steady
    unfold Run.result at hresult
    rw [hbuild] at hresult
    exact hsound found hresult

/-- A snapshot that is found so is used. -/
theorem Run.Finds.value?_eq (hmode : base.cacheValidation = .fingerprint)
    (h : run.Finds base journal past index) {state : SnapshotState}
    (hstate : (snapshotFile base journal).state run.before.files
      (.str (Sha256.digest (run.hashed base))) = .ok state) :
    state.value? ofJson = some (index.map .str) := by
  have hplain : index.json.Plain := plain_json (isDistinct_ofMappers (fresh_eq_ok h.fresh).2)
  have hempty : index.json.isEmpty = false := by
    rw [isEmpty_json]
    simpa using h.nonempty
  rw [SnapshotFile.state_whole hplain (by simp [snapshotFile, hmode]) h.read] at hstate
  cases hstate
  simp [hempty, SnapshotState.value?, SnapshotState.data?, ofJson_json, Except.toOption]

/-- A build gives the index that its mapper files give, or that of an earlier build whose snapshot
it finds. -/
theorem History.result_cases (hmode : base.cacheValidation = .fingerprint)
    (h : History base journal (run :: earlier))
    (hdigest : ∀ past ∈ earlier,
      Sha256.digest (past.hashed base) = Sha256.digest (run.hashed base) →
        past.hashed base = run.hashed base)
    (hresult : run.result base journal = .ok found) :
    (∃ index, run.fresh base = .ok index ∧ found = index.map .str) ∨
      ∃ past ∈ earlier, ∃ index, run.Finds base journal past index ∧ found = index.map .str := by
  obtain ⟨-, state, hstate, hcached | ⟨-, hfresh⟩⟩ := h.result_spec hresult
  · -- The snapshot is used, so it is a whole one of an earlier build.
    cases h with
    | cons rest steady kept =>
      obtain ⟨data, hdata, hjson⟩ := Option.bind_eq_some_iff.1 hcached
      obtain ⟨bytes, hread⟩ := SnapshotFile.read_of_data? hstate hdata
      obtain ⟨last, hlast, hbytes⟩ := kept bytes (Disk.contentAt_of_read hread)
      obtain ⟨past, hpast, hremnant⟩ := rest.isRemnant hlast hbytes
      obtain ⟨⟨index, hindex, rfl⟩, hnonempty, hstored, hread⟩ := hremnant.whole_of_used
        (by simp [snapshotFile, hmode]) hread hstate hdata
      rw [ofJson_json] at hjson
      cases hjson
      rw [isEmpty_json] at hnonempty
      exact .inr ⟨past, hpast, index, ⟨hindex, hdigest past hpast hstored,
        List.isEmpty_eq_false_iff.1 hnonempty, hread⟩, rfl⟩
  · exact .inl hfresh

/-- A build that finds nothing gives the index that its mapper files give. -/
theorem Run.scratch_eq_ok {spare : Path}
    (hspare : run.before.files.existsAt spare = .ok false)
    (hsteady : IsSteady { run.settings base with tableIndexFile := spare } run.modules
      run.before.files) :
    run.scratch base journal spare = .ok found ↔
      ∃ index, run.fresh base = .ok index ∧ found = index.map .str := by
  have hstart : IsSteady { run.settings base with tableIndexFile := spare } run.modules
      ({ run.before with signal := none } : Workspace).files := hsteady
  obtain ⟨result, w', hbuild, -, hsound, hcomplete⟩ := build_spec journal hstart
  have hresult : run.scratch base journal spare = result := congrArg Prod.fst hbuild
  rw [hresult]
  constructor
  · intro hfound
    obtain ⟨-, state, hstate, hcached | ⟨-, hfresh⟩⟩ := hsound found hfound
    · obtain ⟨data, hdata, -⟩ := Option.bind_eq_some_iff.1 hcached
      obtain ⟨bytes, hread⟩ := SnapshotFile.read_of_data? hstate hdata
      cases hspare.symm.trans (Disk.existsAt_of_read hread)
    · exact hfresh
  · rintro ⟨index, hfresh, rfl⟩
    exact hcomplete .absent (SnapshotFile.state_of_absent hspare _) rfl rfl index hfresh

/-- Builds that look at the same things give the same index. -/
theorem Run.fresh_congr (hinputs : past.inputs base = run.inputs base)
    (hpast : past.fresh base = .ok index) (hrun : ∃ mappers,
      locate run.before.files (run.settings base) run.modules = .ok mappers ∧
      run.fresh base = ofMappers (run.settings base) run.before.files mappers) :
    run.fresh base = .ok index := by
  obtain ⟨mappers, hlocate, hfresh⟩ := hrun
  obtain ⟨-, hindex⟩ := fresh_eq_ok hpast
  obtain ⟨hincludes, hmappers⟩ := Prod.mk.inj hinputs
  have hlocated := congrArg (List.map Prod.fst) hmappers
  simp only [List.map_map, Function.comp_def, List.map_id', located_eq hlocate] at hlocated
  rw [hlocated, located_eq hlocate, List.map_inj_left] at hmappers
  rw [hlocated] at hindex
  rw [hfresh, ← hindex]
  refine ofMappers_congr rfl rfl fun mapper hmapper => ?_
  exact readMapper_congr hincludes.symm (Prod.mk.inj (hmappers mapper hmapper)).2.symm

/-- The snapshot goes unnoticed if and only if no build finds one that an earlier build made of the
same bytes but with another index. So it does if the same bytes are only hashed for the same
inputs. -/
theorem History.scratch_eq_result_iff (hmode : base.cacheValidation = .fingerprint)
    (hhistory : History base journal (run :: earlier))
    (hdigest : ∀ past ∈ earlier,
      Sha256.digest (past.hashed base) = Sha256.digest (run.hashed base) →
        past.hashed base = run.hashed base)
    {spare : Path} (hspare : run.before.files.existsAt spare = .ok false)
    (hsteady : IsSteady { run.settings base with tableIndexFile := spare } run.modules
      run.before.files)
    (hresult : run.result base journal = .ok found) :
    (run.scratch base journal spare = .ok found ↔
      ∀ past ∈ earlier, ∀ index, run.Finds base journal past index →
        run.fresh base = .ok index) ∧
    ((∀ past ∈ earlier, past.hashed base = run.hashed base → past.inputs base = run.inputs base) →
      run.scratch base journal spare = .ok found) := by
  obtain ⟨hlocated, state, hstate, hused⟩ := hhistory.result_spec hresult
  have hexact : run.scratch base journal spare = .ok found ↔
      ∀ past ∈ earlier, ∀ index, run.Finds base journal past index →
        run.fresh base = .ok index := by
    rw [Run.scratch_eq_ok hspare hsteady]
    constructor
    · rintro ⟨fresh, hfresh, rfl⟩ past hpast index hfinds
      rw [hfinds.value?_eq hmode hstate] at hused
      obtain hused | ⟨hunused, -⟩ := hused
      · rw [hfresh, map_str_injective (Option.some.inj hused)]
      · cases hunused
    · intro hsame
      obtain hfresh | ⟨past, hpast, index, hfinds, rfl⟩ :=
        hhistory.result_cases hmode hdigest hresult
      · exact hfresh
      · exact ⟨index, hsame past hpast index hfinds, rfl⟩
  refine ⟨hexact, fun hinputs => hexact.2 fun past hpast index hfinds => ?_⟩
  exact Run.fresh_congr (hinputs past hpast hfinds.hashed) hfinds.fresh hlocated

end

/-- A module with one mapper file, and what is in the folder of the caches. -/
def sampleDisk (caches : List (String × Entry)) : Disk where
  home := ["home"]
  tree := .folder [("home", .folder [
    ("m", .folder [("src", .folder [("com", .folder [("A.xml", .file (Utf8.encode
      "<mapper namespace=\"n\"><select id=\"s\">FROM T</select></mapper>".toList) 0)])])]),
    (".impact_cache", .folder caches)])]

def sampleModule : BuildModule where
  name := "m"
  root := { names := ["m"] }
  source := none
  resource := none

/-- A build that is killed when it has opened its snapshot. -/
def killedRun : Run where
  flush := 1
  includes := false
  modules := [sampleModule]
  before := { files := sampleDisk [], fates := fun _ => .brokenOff (some 0) }

/-- A build that finds what the killed one left. -/
def nextRun : Run where
  flush := 1000
  includes := false
  modules := [sampleModule]
  before := { files := sampleDisk [("table_xml_mapping.json", .file [] 0)] }

theorem history_killedRun : History .standard "" [nextRun, killedRun] := by
  refine .cons (.cons .nil (by decide +kernel) ?_) (by decide +kernel) ?_
  · intro bytes hbytes
    have hnone : killedRun.before.files.contentAt Settings.standard.tableIndexFile = none := by
      decide +kernel
    rw [hnone] at hbytes
    cases hbytes
  · intro bytes hbytes
    refine ⟨killedRun, rfl, ?_⟩
    rw [← hbytes]
    decide +kernel

theorem scratch_eq_result_killedRun : History .standard "" [nextRun, killedRun] ∧
    ∃ found, nextRun.result .standard "" = .ok found ∧
      nextRun.scratch .standard "" { names := ["spare"] } = .ok found := by
  refine ⟨history_killedRun, ?_⟩
  cases hresult : nextRun.result .standard "" with
  | error fault =>
    have hok : (nextRun.result .standard "").isOk = true := by decide +kernel
    rw [hresult] at hok
    cases hok
  | ok found =>
    have hhashed : ∀ past ∈ [killedRun], past.hashed .standard = nextRun.hashed .standard := by
      decide +kernel
    have hinputs : ∀ past ∈ [killedRun], past.inputs .standard = nextRun.inputs .standard := by
      decide +kernel
    exact ⟨found, rfl, (History.scratch_eq_result_iff rfl history_killedRun
      (fun past hpast _ => hhashed past hpast) (by decide +kernel) (by decide +kernel) hresult).2
      fun past hpast _ => hinputs past hpast⟩

end TableIndex

end Ripple
