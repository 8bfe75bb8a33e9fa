-- SUMMARY: What is at a way of names after putting or removing at another.
import Ripple.Files.Entry
import Ripple.Proofs.Fields

/-! # Changes of a tree of files

What is at a way of names after something was put at or removed from one way of the tree.
-/

namespace Ripple

/-- What is at a place of a tree, without what is below it. -/
inductive Kind where
  | file (content : Bytes) (modified : Int)
  | folder
deriving DecidableEq, Repr

namespace Entry

def kind : Entry → Kind
  | .file content modified => .file content modified
  | .folder _ => .folder

/-- What is at a way of names. -/
def kindAt (root : Entry) (way : List String) : Option Kind :=
  (root.at? way).map kind

@[simp]
theorem kindAt_nil (root : Entry) : root.kindAt [] = some root.kind := rfl

theorem child?_folder (entries : List (String × Entry)) (name : String) :
    (Entry.folder entries).child? name = entries.lookup name :=
  map_snd_find? entries name

@[simp]
theorem kindAt_folder_cons (entries : List (String × Entry)) (name : String) (names : List String) :
    (Entry.folder entries).kindAt (name :: names) = (entries.lookup name).bind (·.kindAt names) := by
  simp only [kindAt, at?, child?_folder, Option.map_bind]
  rfl

theorem exists_folder_of_kind {entry : Entry} (h : entry.kind = .folder) :
    ∃ entries, entry = .folder entries := by
  cases entry with
  | file => cases h
  | folder entries => exact ⟨entries, rfl⟩

/-- A way in two parts. -/
theorem at?_append (root : Entry) (first second : List String) :
    root.at? (first ++ second) = (root.at? first).bind (·.at? second) := by
  induction first generalizing root with
  | nil => rfl
  | cons name names ih =>
    simp only [List.cons_append, at?, Option.bind_assoc]
    exact Option.bind_congr fun sub _ => ih sub

/-- What is above something is a folder. -/
theorem kindAt_above {root : Entry} {way below : List String} (hne : below ≠ [])
    (h : root.kindAt (way ++ below) ≠ none) : root.kindAt way = some .folder := by
  obtain ⟨name, names, rfl⟩ := List.exists_cons_of_ne_nil hne
  unfold kindAt at h ⊢
  rw [at?_append] at h
  cases hat : root.at? way with
  | none => simp [hat] at h
  | some entry =>
    cases entry with
    | file content modified => simp [hat, at?, child?, entries] at h
    | folder entries => rfl

theorem kindAt_dropLast {root : Entry} {way : List String} (hne : way ≠ [])
    (h : root.kindAt way ≠ none) : root.kindAt way.dropLast = some .folder := by
  rw [← List.dropLast_concat_getLast hne] at h
  exact kindAt_above (List.cons_ne_nil _ []) h

/-- An entry with nothing below it: a file or an empty folder. -/
def IsLeaf (entry : Entry) : Prop :=
  entry.entries = []

theorem isLeaf_file (content : Bytes) (modified : Int) : (Entry.file content modified).IsLeaf := rfl

theorem isLeaf_empty : Entry.empty.IsLeaf := rfl

theorem IsLeaf.kindAt_cons {entry : Entry} (h : entry.IsLeaf) (name : String)
    (names : List String) : entry.kindAt (name :: names) = none := by
  have hnone : entry.child? name = none := by simp [child?, show entry.entries = [] from h]
  simp [kindAt, at?, hnone]

theorem find?_of_lookup {entries : List (String × Entry)} {name : String} {sub : Entry}
    (h : entries.lookup name = some sub) : ∃ key, entries.find? (·.1 == name) = some (key, sub) := by
  rw [← map_snd_find?] at h
  obtain ⟨⟨key, found⟩, hfind, rfl⟩ := Option.map_eq_some_iff.1 h
  exact ⟨key, hfind⟩

theorem put_singleton (new : Entry) (name : String) (entries : List (String × Entry)) :
    put new [name] (.folder entries) = .folder (putField name new entries) := rfl

theorem put_cons (new : Entry) {name : String} {entries : List (String × Entry)} {sub : Entry}
    (h : entries.lookup name = some sub) {names : List String} (hne : names ≠ []) :
    put new (name :: names) (.folder entries) =
      .folder (putField name (put new names sub) entries) := by
  obtain ⟨key, hfind⟩ := find?_of_lookup h
  obtain ⟨next, names, rfl⟩ := List.exists_cons_of_ne_nil hne
  simp only [put, hfind]

theorem remove_singleton (name : String) (entries : List (String × Entry)) :
    remove [name] (.folder entries) = .folder (entries.filter (·.1 != name)) := rfl

theorem remove_cons {name : String} {entries : List (String × Entry)} {sub : Entry}
    (h : entries.lookup name = some sub) {names : List String} (hne : names ≠ []) :
    remove (name :: names) (.folder entries) =
      .folder (putField name (remove names sub) entries) := by
  obtain ⟨key, hfind⟩ := find?_of_lookup h
  obtain ⟨next, names, rfl⟩ := List.exists_cons_of_ne_nil hne
  simp only [remove, hfind]

/-- The parent of a place below a folder's entry. -/
theorem exists_child_of_parent {root : Entry} {name : String} {names : List String}
    (h : root.kindAt (name :: names).dropLast = some .folder) :
    ∃ entries, root = .folder entries ∧ (names ≠ [] →
      ∃ sub, entries.lookup name = some sub ∧ sub.kindAt names.dropLast = some .folder) := by
  cases root with
  | file content modified =>
    cases names with
    | nil => cases h
    | cons next names => simp [kindAt, at?, child?, entries] at h
  | folder entries =>
    refine ⟨entries, rfl, fun hne => ?_⟩
    rw [List.dropLast_cons_of_ne_nil hne, kindAt_folder_cons] at h
    exact Option.bind_eq_some_iff.1 h

/-- Nothing is below a place that is no folder. -/
theorem kindAt_below {entries : List (String × Entry)} {name : String}
    (h : (Entry.folder entries).kindAt [name] ≠ some .folder) (next : String)
    (names : List String) : (entries.lookup name).bind (·.kindAt (next :: names)) = none := by
  cases hlookup : entries.lookup name with
  | none => rfl
  | some old =>
    cases old with
    | file content modified => exact (isLeaf_file content modified).kindAt_cons next names
    | folder below => exact absurd (by simp [hlookup, kind]) h

/-- Only the one place changes when a leaf is put where there is no folder. -/
theorem kindAt_put {new root : Entry} {way : List String} (hne : way ≠ [])
    (hparent : root.kindAt way.dropLast = some .folder) (hnew : new.IsLeaf)
    (hold : root.kindAt way ≠ some .folder) (place : List String) :
    (put new way root).kindAt place = if place = way then some new.kind else root.kindAt place := by
  induction way generalizing root place with
  | nil => exact absurd rfl hne
  | cons name names ih =>
    obtain ⟨entries, rfl, hsub⟩ := exists_child_of_parent hparent
    cases place with
    | nil =>
      by_cases hnames : names = []
      · subst hnames
        simp [put_singleton, kind]
      · obtain ⟨sub, hlookup, -⟩ := hsub hnames
        simp [put_cons new hlookup hnames, kind]
    | cons first rest =>
      by_cases hnames : names = []
      · subst hnames
        rw [put_singleton, kindAt_folder_cons, kindAt_folder_cons]
        by_cases hfirst : first = name
        · subst hfirst
          cases rest with
          | nil => simp
          | cons second rest => simp [hnew.kindAt_cons, kindAt_below hold]
        · simp [lookup_putField_of_ne hfirst, hfirst]
      · obtain ⟨sub, hlookup, hparent'⟩ := hsub hnames
        rw [put_cons new hlookup hnames, kindAt_folder_cons, kindAt_folder_cons]
        by_cases hfirst : first = name
        · subst hfirst
          rw [kindAt_folder_cons, hlookup] at hold
          simp [hlookup, ih hnames hparent' hold rest]
        · simp [lookup_putField_of_ne hfirst, hfirst]

/-- Only the one place changes when a file is removed. -/
theorem kindAt_remove {root : Entry} {way : List String} (hne : way ≠ [])
    (hparent : root.kindAt way.dropLast = some .folder) (hold : root.kindAt way ≠ some .folder)
    (place : List String) :
    (remove way root).kindAt place = if place = way then none else root.kindAt place := by
  induction way generalizing root place with
  | nil => exact absurd rfl hne
  | cons name names ih =>
    obtain ⟨entries, rfl, hsub⟩ := exists_child_of_parent hparent
    cases place with
    | nil =>
      by_cases hnames : names = []
      · subst hnames
        simp [remove_singleton, kind]
      · obtain ⟨sub, hlookup, -⟩ := hsub hnames
        simp [remove_cons hlookup hnames, kind]
    | cons first rest =>
      by_cases hnames : names = []
      · subst hnames
        rw [remove_singleton, kindAt_folder_cons, kindAt_folder_cons]
        by_cases hfirst : first = name
        · subst hfirst
          cases rest with
          | nil => simp [lookup_filter_self]
          | cons second rest => simp [lookup_filter_self, kindAt_below hold]
        · simp [lookup_filter_of_ne hfirst, hfirst]
      · obtain ⟨sub, hlookup, hparent'⟩ := hsub hnames
        rw [remove_cons hlookup hnames, kindAt_folder_cons, kindAt_folder_cons]
        by_cases hfirst : first = name
        · subst hfirst
          rw [kindAt_folder_cons, hlookup] at hold
          simp [hlookup, ih hnames hparent' hold rest]
        · simp [lookup_putField_of_ne hfirst, hfirst]

end Entry

end Ripple
