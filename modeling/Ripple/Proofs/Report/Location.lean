-- SUMMARY: Reports and graphs are written inside the folders that are meant for them.
import Ripple.CommandLine.Application
import Ripple.Proofs.Files.Walk
import Ripple.Proofs.Graph.Union
import Ripple.Proofs.Text.Upper

/-!
# Where reports and graphs are written

The name of a table stands in the names of files as it is, with all its slashes. What keeps the
files inside the folder that they are meant for is that a table's normal name has no point: so no
part of the path is two points, and no file outside the folder is written.
-/

namespace Ripple

namespace Path

/-- A text that begins with a letter and has but one point stays inside a folder, whatever slashes
it has. -/
theorem isInside_below (folder : Path) {text : String} {letter : Char}
    (hhead : text.toList.head? = some letter) (hletter : letter ∉ ['/', '.'])
    (hpoints : text.toList.count '.' ≤ 1) : folder.IsInside (folder.below text) := by
  obtain ⟨rest, htext⟩ := List.head?_eq_some_iff.1 hhead
  simp only [List.mem_cons, List.not_mem_nil, or_false, not_or] at hletter
  have hroot : (ofText text).root = "" := by
    simp [ofText, htext, rootOf, hletter.1]
  have hbelow : folder.below text = folder.down (ofText text).names := by
    simp [below, join, hroot, down]
  rw [hbelow]
  refine isInside_iff.2 ⟨_, ?_, rfl, ?_⟩
  · -- the piece in front of the first slash begins with the letter
    obtain ⟨piece, hpiece⟩ : ∃ piece, letter :: piece ∈ Text.splitWhen (· == '/') text.toList := by
      rw [htext, Text.splitWhen, if_neg (by simpa using hletter.1)]
      split <;> exact ⟨_, List.mem_cons_self⟩
    have hname : String.ofList (letter :: piece) ≠ "." := by
      intro heq
      have hletters := congrArg String.toList heq
      rw [String.toList_ofList] at hletters
      exact hletter.2 (List.cons.inj hletters).1
    refine List.ne_nil_of_mem (List.mem_filter.2 ⟨List.mem_map_of_mem hpiece, ?_⟩)
    rw [Bool.and_eq_true, bne_iff_ne]
    exact ⟨by simp, hname⟩
  · -- two points side by side are two points of the text
    intro hmem
    obtain ⟨piece, hpiece, hname⟩ := List.mem_map.1 (List.mem_filter.1 hmem).1
    have hpiece' : piece = ['.', '.'] := by
      simpa using congrArg String.toList hname
    have hle := (Text.sublist_of_mem_splitWhen hpiece).count_le '.'
    rw [hpiece'] at hle
    exact absurd (Nat.le_trans hle hpoints) (by decide)

end Path

/-! ## Names of files -/

/-- The part of a name behind its last point has none, and upper case brings none in. -/
theorem TableName.point_notMem_normalize (name : String) : '.' ∉ (normalize name).toList := by
  rw [normalize, String.toList_ofList]
  intro hmem
  obtain hmem | hmark := Text.mem_or_notMem_marks hmem
  · have hlast := (List.mem_filter.1 (Text.mem_of_mem_trim hmem)).1
    exact absurd (Text.mem_of_mem_afterLast hlast).2 (by decide)
  · exact hmark (by decide)

namespace Moment

theorem point_notMem_toString (n : Nat) : '.' ∉ (toString n).toList := by
  intro hmem
  have hdigit : '.' ∈ Nat.toDigits 10 n := by rwa [← Nat.toList_repr]
  exact absurd (Nat.isDigit_of_mem_toDigits (by omega) (by omega) hdigit) (by decide)

theorem point_notMem_twoDigits (n : Nat) : '.' ∉ (twoDigits n).toList := by
  unfold twoDigits
  split
  · simpa using point_notMem_toString n
  · exact point_notMem_toString n

theorem point_notMem_stamp (moment : Moment) : '.' ∉ moment.stamp.toList := by
  have hyear := point_notMem_toString moment.year
  simp only [stamp, String.toList_append, List.mem_append, not_or]
  simp only [point_notMem_twoDigits, hyear, not_false_eq_true, true_and, and_true]
  decide

end Moment

section Places

variable {table : String}

theorem toList_reportFileName (table extension stamp : String) :
    (reportFileName table extension stamp).toList = "impact_analysis_".toList ++ table.toList ++
      "_".toList ++ stamp.toList ++ ".".toList ++ extension.toList := by
  have hname : reportFileName table extension stamp =
    "impact_analysis_" ++ table ++ "_" ++ stamp ++ "." ++ extension := rfl
  simp only [hname, String.toList_append]

theorem Report.isInside_file (h : '.' ∉ table.toList) (format : ReportFormat) (folder : Path)
    (moment : Moment) : folder.IsInside (Report.file format folder moment.stamp table) := by
  have hname := toList_reportFileName table format.extension moment.stamp
  have hhead : (reportFileName table format.extension moment.stamp).toList.head? = some 'i' := by
    rw [hname]
    simp
  have hextension : format.extension.toList.count '.' = 0 := by cases format <;> decide
  have hpoints : (reportFileName table format.extension moment.stamp).toList.count '.' = 1 := by
    rw [hname]
    simp [List.count_eq_zero.2 h, List.count_eq_zero.2 moment.point_notMem_stamp, hextension]
  exact Path.isInside_below folder hhead (by decide) (Nat.le_of_eq hpoints)

theorem CommandLine.Application.isInside_graphFile (h : '.' ∉ table.toList) (folder : Path) :
    folder.IsInside (graphFile folder table) := by
  have hhead : ("impact_graph_" ++ table ++ ".json").toList.head? = some 'i' := by simp
  have hpoints : ("impact_graph_" ++ table ++ ".json").toList.count '.' = 1 := by
    simp [List.count_eq_zero.2 h]
  exact Path.isInside_below folder hhead (by decide) (Nat.le_of_eq hpoints)

end Places

/-! ## What is written -/

/-- No file has changed but some at places below a folder's. -/
def Workspace.ChangesInside (folder : Path) (w w' : Workspace) : Prop :=
  ∃ changed : List (List String), (∀ place ∈ changed, w.files.wayTo folder <+: place) ∧
    w.files.KeepsBut changed w'.files

namespace Work

/-- Whatever the work comes to, no file outside a folder is changed. -/
def ChangesInside (folder : Path) (work : Work α) : Prop :=
  ∀ w : Workspace, w.ChangesInside folder (work.outcome w).2

namespace ChangesInside

variable {folder : Path}

theorem pure (a : α) : (pure a : Work α).ChangesInside folder :=
  fun w => ⟨[], by simp, .refl [] w.files⟩

theorem bind {work : Work α} {next : α → Work β} (h : work.ChangesInside folder)
    (hnext : ∀ a, (next a).ChangesInside folder) : (work >>= next).ChangesInside folder := by
  intro w
  have hwork := h w
  rcases houtcome : work.outcome w with ⟨result, w'⟩
  rw [houtcome] at hwork
  cases result with
  | error fault =>
    rw [outcome_bind_error houtcome]
    exact hwork
  | ok a =>
    rw [outcome_bind_ok houtcome]
    obtain ⟨changed, hplaces, hkeeps⟩ := hwork
    obtain ⟨later, hlater, hkeeps'⟩ := hnext a w'
    refine ⟨changed ++ later, ?_, ?_⟩
    · -- the folder is at the same place all the time
      rw [hkeeps.wayTo folder] at hlater
      intro place hplace
      exact (List.mem_append.1 hplace).elim (hplaces place) (hlater place)
    · exact (hkeeps.mono (List.subset_append_left changed later)).trans
        (hkeeps'.mono (List.subset_append_right changed later))

theorem ofExcept (result : Except Fault α) : (ofExcept result).ChangesInside folder := by
  cases result with
  | ok a => exact .pure a
  | error fault => exact fun w => ⟨[], by simp, .refl [] w.files⟩

theorem of_touches {work : Work α} {path : Path} {allowed : Bytes → Prop}
    (h : work.Touches path allowed) (hpath : folder.IsInside path) :
    work.ChangesInside folder := by
  intro w
  refine ⟨[w.files.wayTo path], ?_, (h w).keeps⟩
  intro place hplace
  rw [List.mem_singleton.1 hplace]
  exact Disk.wayTo_inside hpath w.files

end ChangesInside

end Work

section Writing

theorem Report.touches_worked (path : Path) (change : Except FileError Unit) :
    (Report.worked change).Touches path fun _ => True := by
  unfold Report.worked
  split
  · exact .pure true
  · exact .throw _
  · exact .pure false

theorem Report.touches_writeText (path : Path) (text : String) :
    (Report.writeText path text).Touches path fun _ => True :=
  .bind (.writeFile path fun _ => trivial) fun change => touches_worked path change

theorem Report.touches_writeMade (path : Path) (text : Except Fault String) :
    (Report.writeMade path text).Touches path fun _ => True := by
  refine .bind (.makeFolders _) fun change => .bind (touches_worked path change) fun ready => ?_
  cases ready
  · exact .pure false
  · exact .bind (.ofExcept text) fun made => touches_writeText path made

theorem Report.touches_save (journal : String) (format : ReportFormat) (folder : Path)
    (stamp : String) (result : ImpactResult Json) :
    (Report.save journal format folder stamp result).Touches
      (Report.file format folder stamp result.table) fun _ => True := by
  refine .bind (touches_writeMade _ _) fun written => ?_
  cases written
  · exact .bind .log fun _ => .pure none
  · exact .bind .log fun _ => .pure _

theorem ChainGraph.touches_save (graph : ChainGraph) (journal : String) (path : Path) :
    (graph.save journal path).Touches path fun _ => True := by
  refine .bind .log fun _ => .bind (Report.touches_writeText _ _) fun written => ?_
  cases written
  · exact .bind .log fun _ => .pure false
  · exact .bind .log fun _ => .pure true

end Writing

namespace CommandLine.Application

section
variable (args : Arguments) (settings : Settings) (moment : Moment) {result : ImpactResult Json}
  (h : '.' ∉ result.table.toList)
include h

theorem changesInside_draw :
    (draw args settings result).ChangesInside (args.outputDir.getD settings.cacheDir) := by
  unfold draw
  split
  · refine .bind (.ofExcept _) fun graph => .bind ?_ fun _ => .pure _
    exact .of_touches (graph.touches_save _ _) (isInside_graphFile h _)
  · exact .pure _

theorem changesInside_publish :
    (publish args settings moment.stamp result).ChangesInside
      (args.outputDir.getD settings.cacheDir) := by
  have hdraw := changesInside_draw args settings h
  unfold publish
  cases hfolder : args.outputDir with
  | none =>
    rw [hfolder] at hdraw
    exact .bind (.ofExcept _) fun text => .bind (.pure _) fun output => .bind hdraw fun _ => .pure _
  | some folder =>
    rw [hfolder] at hdraw
    refine .bind ?_ fun _ => .bind (.pure _) fun output => .bind hdraw fun _ => .pure _
    exact .of_touches (Report.touches_save _ _ _ _ _) (Report.isInside_file h _ folder moment)

end

end CommandLine.Application

namespace Analyzer

open CommandLine

/-- Whatever is asked for, the files of the answer are inside the folders that they are meant for.
The table of an answer has no point, so the paths of its report and of its graph lead into the
folder and never back, and publishing the answer changes no file outside. -/
theorem outputs_stay_inside (analyzer : Analyzer) (query : String) (messages : List Message)
    (result : ImpactResult Json) (hanswer : analyzer.analyze query = .ok (messages, result)) :
    result.table = TableName.normalize query ∧ '.' ∉ result.table.toList ∧
    (∀ (format : ReportFormat) (folder : Path) (moment : Moment),
      folder.IsInside (Report.file format folder moment.stamp result.table)) ∧
    (∀ folder : Path, folder.IsInside (Application.graphFile folder result.table)) ∧
    ∀ (args : Arguments) (settings : Settings) (moment : Moment),
      (Application.publish args settings moment.stamp result).ChangesInside
        (args.outputDir.getD settings.cacheDir) := by
  obtain ⟨finding, hresult⟩ := exists_finding_of_analyze hanswer
  have htable : result.table = TableName.normalize query := by
    rw [hresult, Impact.table_ofFinding]
  have hpoint : '.' ∉ result.table.toList := by
    rw [htable]
    exact TableName.point_notMem_normalize query
  exact ⟨htable, hpoint, Report.isInside_file hpoint, Application.isInside_graphFile hpoint,
    fun args settings moment => Application.changesInside_publish args settings moment hpoint⟩

/-- An analyzer that knows no table. -/
def overNothing : Analyzer :=
  ofIndices { settings := .standard, policy := Policy.standard.map .text } {}

/-- Quotes are dropped after the part behind the last point is taken, so the points are gone before
what stands around them comes together. -/
theorem outputs_stay_inside_quoted : ∃ messages result,
    overNothing.analyze "[../]etc/passwd" = .ok (messages, result) ∧
    result.table = "/ETC/PASSWD" ∧ '.' ∉ result.table.toList ∧
    Path.IsInside { names := ["out"] } (Report.file .text { names := ["out"] }
      (Moment.stamp ⟨2024, 3, 5, 14, 7, 9⟩) result.table) := by
  have hname : TableName.normalize "[../]etc/passwd" = "/ETC/PASSWD" := by decide +kernel
  have hfind : Impact.find overNothing.indices (TableName.normalize "[../]etc/passwd") =
      .ok .unknown := rfl
  have hanswer := (analyze_eq_ok_iff rfl hfind).2 ⟨rfl, rfl, rfl, rfl⟩
  obtain ⟨htable, hpoint, hreport, -⟩ := outputs_stay_inside overNothing _ _ _ hanswer
  exact ⟨_, _, hanswer, htable.trans hname, hpoint, hreport .text _ _⟩

-- the slashes of the table are folders below the folder of reports
example : (Report.file .text { names := ["out"] } "20240305_140709" "/ETC/PASSWD").names =
    ["out", "impact_analysis_", "ETC", "PASSWD_20240305_140709.txt"] := by
  decide +kernel

end Analyzer

end Ripple
