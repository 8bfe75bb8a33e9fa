-- SUMMARY: The walk through a well-formed tree lists no folder and no file twice.
import Ripple.Proofs.Files.Walk
import Mathlib.Data.List.Nodup

/-! # A walk lists nothing twice

Names are different in each folder, so the folders that are visited have different paths, and so
have the files in them.
-/

namespace Ripple

namespace Entry

theorem inNameOrder_perm {α : Type} (visits : List (String × List α)) :
    (inNameOrder visits).Perm (visits.flatMap (·.2)) :=
  (Text.sortWith_perm _ visits).flatMap_right _

theorem nodup_fileNames {entries : List (String × Entry)}
    (hwf : (Entry.folder entries).wellFormed = true) : (fileNames entries).Nodup := by
  have hkeys := (wellFormed_folder hwf).1
  refine (Text.sortWith_perm _ _).nodup_iff.2 ?_
  exact hkeys.sublist (List.filter_sublist.map _)

/-- What is visited below one folder is not visited below another beside it. -/
theorem disjoint_walk (enter : Path → String → Bool) (here : Path) {first second : String × Entry}
    (hfirst : first.2.wellFormed = true) (hsecond : second.2.wellFormed = true)
    (hne : first.1 ≠ second.1) :
    List.Disjoint ((walk enter (here.child first.1) first.2).map (·.1))
      ((walk enter (here.child second.1) second.2).map (·.1)) := by
  intro path hpath hpath'
  obtain ⟨visit, hvisit, rfl⟩ := List.mem_map.1 hpath
  obtain ⟨visit', hvisit', heq⟩ := List.mem_map.1 hpath'
  obtain ⟨way, entries, rfl, -⟩ := (mem_walk hfirst).1 hvisit
  obtain ⟨way', entries', rfl, -⟩ := (mem_walk hsecond).1 hvisit'
  simp only [Path.child_down, Path.down_inj, List.cons.injEq] at heq
  exact hne heq.1.symm

theorem nodup_walk {enter : Path → String → Bool} {here : Path} {entry : Entry}
    (hwf : entry.wellFormed = true) : ((walk enter here entry).map (·.1)).Nodup := by
  match entry with
  | .file .. => simp [walk]
  | .folder entries =>
    obtain ⟨hkeys, hentries⟩ := wellFormed_folder hwf
    rw [walk]
    split
    · exact List.nodup_nil
    · rw [List.map_cons, List.nodup_cons]
      constructor
      · -- whatever is visited below an entry has a longer path
        intro hmem
        obtain ⟨visit, hvisit, heq⟩ := List.mem_map.1 hmem
        obtain ⟨name, sub, hsub, -, hvisit⟩ := mem_inNameOrder_walkAll.1 hvisit
        obtain ⟨way, below, rfl, -⟩ := (mem_walk (hentries name sub hsub).2).1 hvisit
        rw [Path.child_down] at heq
        simpa [Path.down] using congrArg Path.names heq
      · refine ((inNameOrder_perm _).map _).nodup_iff.2 ?_
        rw [walkAll_eq_map, List.flatMap_map, List.map_flatMap, List.nodup_flatMap]
        constructor
        · rintro ⟨name, sub⟩ hsub
          split
          · exact nodup_walk (hentries name sub hsub).2
          · exact List.nodup_nil
        · -- entries have different names, which all paths below them begin with
          refine (List.pairwise_map.1 hkeys).imp_of_mem ?_
          rintro first second hfirst hsecond hne
          have hdisjoint :=
            disjoint_walk enter here (hentries _ _ hfirst).2 (hentries _ _ hsecond).2 hne
          simp only [Function.onFun]
          split
          · split
            · exact hdisjoint
            · simp
          · simp
termination_by sizeOf entry
decreasing_by
  have hsize := List.sizeOf_lt_of_mem hsub
  simp only [Prod.mk.sizeOf_spec, Entry.folder.sizeOf_spec] at hsize ⊢
  omega

end Entry

theorem Disk.nodup_filesBelow {disk : Disk} (hwf : disk.tree.wellFormed = true) (folder : Path)
    (suffix : String) (excluded : List String) (pruned : List Path) :
    (disk.filesBelow folder suffix excluded pruned).Nodup := by
  unfold filesBelow
  cases hfind : disk.find folder with
  | error e => exact List.nodup_nil
  | ok entry =>
    have hentry := wellFormed_of_find hwf hfind
    refine List.nodup_flatMap.2 ⟨?_, ?_⟩
    · intro visit hvisit
      obtain ⟨way, entries, rfl, hat, -⟩ := (Entry.mem_walk hentry).1 hvisit
      have hnames := Entry.nodup_fileNames (Entry.wellFormed_at hentry hat).1
      exact (hnames.filter _).map fun _ _ heq => (Path.child_inj.1 heq).2
    · refine (List.pairwise_map.1 (Entry.nodup_walk hentry)).imp ?_
      intro first second hne path hfirst hsecond
      obtain ⟨name, -, rfl⟩ := List.mem_map.1 hfirst
      obtain ⟨name', -, heq⟩ := List.mem_map.1 hsecond
      exact hne (Path.child_inj.1 heq).1.symm

end Ripple
