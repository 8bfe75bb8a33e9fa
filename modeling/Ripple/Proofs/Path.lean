-- SUMMARY: Paths above and inside other paths, and the sizes of their texts.
import Ripple.Path
import Mathlib.Data.List.Basic

/-! # Paths below a path

A path is above another if the other adds names to it. With each name that is added the text of a
path gets longer, so a path that is short enough has none above it that is too long.
-/

namespace Ripple.Path

/-- A path with some more names. -/
def down (base : Path) (way : List String) : Path :=
  { base with names := base.names ++ way }

@[simp]
theorem down_root (base : Path) (way : List String) : (base.down way).root = base.root := rfl

@[simp]
theorem down_names (base : Path) (way : List String) :
    (base.down way).names = base.names ++ way := rfl

@[simp]
theorem down_nil (base : Path) : base.down [] = base := by
  simp [down]

@[simp]
theorem down_down (base : Path) (first second : List String) :
    (base.down first).down second = base.down (first ++ second) := by
  simp [down]

theorem child_eq_down (base : Path) (name : String) : base.child name = base.down [name] := rfl

theorem child_down (base : Path) (name : String) (way : List String) :
    (base.child name).down way = base.down (name :: way) := by
  rw [child_eq_down, down_down, List.singleton_append]

theorem down_child (base : Path) (way : List String) (name : String) :
    (base.down way).child name = base.down (way ++ [name]) := by
  rw [child_eq_down, down_down]

@[simp]
theorem down_inj {base : Path} {first second : List String} :
    base.down first = base.down second ↔ first = second := by
  simp [down]

theorem child_inj {first second : Path} {name name' : String} :
    first.child name = second.child name' ↔ first = second ∧ name = name' := by
  obtain ⟨root, names⟩ := first
  obtain ⟨root', names'⟩ := second
  simp [child, and_assoc]

theorem parent_down_concat (base : Path) (way : List String) (name : String) :
    (base.down (way ++ [name])).parent = base.down way := by
  simp [parent, down, ← List.append_assoc]

theorem name_down_concat (base : Path) (way : List String) (name : String) :
    (base.down (way ++ [name])).name = name := by
  simp [Path.name, down, ← List.append_assoc]

/-- The paths above a path are those that it adds names to. -/
theorem isAbove_iff {path other : Path} :
    path.isAbove other = true ↔ ∃ way, way ≠ [] ∧ other = path.down way := by
  simp only [isAbove, Bool.and_eq_true, beq_iff_eq, bne_iff_ne, List.isPrefixOf_iff_prefix]
  constructor
  · rintro ⟨⟨hroot, hne⟩, way, hway⟩
    refine ⟨way, ?_, ?_⟩
    · rintro rfl
      exact hne (by rw [← hway, List.append_nil])
    · rw [down, hroot, hway]
  · rintro ⟨way, hway, rfl⟩
    exact ⟨⟨rfl, by simpa using hway⟩, List.prefix_append _ _⟩

theorem down_isAbove_down {base : Path} {first second : List String} :
    (base.down first).isAbove (base.down second) = true ↔ first <+: second ∧ first ≠ second := by
  rw [isAbove_iff]
  constructor
  · rintro ⟨way, hway, heq⟩
    rw [down_down, down_inj] at heq
    exact ⟨⟨way, heq.symm⟩, by simpa [heq] using hway⟩
  · rintro ⟨⟨way, rfl⟩, hne⟩
    exact ⟨way, by simpa using hne, by simp⟩

/-- Of two paths above a path the shorter is above the longer. -/
theorem isAbove_of_length_lt {first second path : Path} (hfirst : first.isAbove path = true)
    (hsecond : second.isAbove path = true) (hlt : first.names.length < second.names.length) :
    first.isAbove second = true := by
  obtain ⟨way, -, rfl⟩ := isAbove_iff.1 hfirst
  obtain ⟨way', -, heq⟩ := isAbove_iff.1 hsecond
  have hroot : first.root = second.root := by simpa using congrArg Path.root heq
  have hnames : first.names ++ way = second.names ++ way' := congrArg Path.names heq
  have hbegins : first.names <+: second.names :=
    List.prefix_of_prefix_length_le (List.prefix_append _ way)
      (hnames ▸ List.prefix_append _ way') (Nat.le_of_lt hlt)
  obtain ⟨between, hbetween⟩ := hbegins
  refine isAbove_iff.2 ⟨between, ?_, by rw [down, hroot, hbetween]⟩
  rintro rfl
  simp [← hbetween] at hlt

theorem eq_of_isAbove_of_length_eq {first second path : Path} (hfirst : first.isAbove path = true)
    (hsecond : second.isAbove path = true) (heq : first.names.length = second.names.length) :
    first = second := by
  obtain ⟨way, -, rfl⟩ := isAbove_iff.1 hfirst
  obtain ⟨way', -, hsame⟩ := isAbove_iff.1 hsecond
  have hroot : first.root = second.root := by simpa using congrArg Path.root hsame
  have hnames : first.names = second.names :=
    (List.append_inj (congrArg Path.names hsame) heq).1
  obtain ⟨root, names⟩ := first
  cases hroot
  cases hnames
  rfl

/-- A path that leads from a folder into it, and never back. -/
structure IsInside (folder path : Path) : Prop where
  above : folder.isAbove path = true
  forward : ".." ∉ path.names.drop folder.names.length

/-- The paths inside a folder add names to it that do not go back. -/
theorem isInside_iff {folder path : Path} :
    folder.IsInside path ↔ ∃ way, way ≠ [] ∧ path = folder.down way ∧ ".." ∉ way := by
  constructor
  · rintro ⟨habove, hforward⟩
    obtain ⟨way, hne, rfl⟩ := isAbove_iff.1 habove
    exact ⟨way, hne, rfl, by rwa [down_names, List.drop_left] at hforward⟩
  · rintro ⟨way, hne, rfl, hforward⟩
    exact ⟨isAbove_iff.2 ⟨way, hne, rfl⟩, by rwa [down_names, List.drop_left]⟩

section Size

theorem size_slash : ("/" : String).utf8ByteSize = 1 := by decide

theorem size_intercalate_append {first second : List String} (hfirst : first ≠ [])
    (hsecond : second ≠ []) :
    ("/".intercalate (first ++ second)).utf8ByteSize =
      ("/".intercalate first).utf8ByteSize + 1 + ("/".intercalate second).utf8ByteSize := by
  induction first with
  | nil => exact absurd rfl hfirst
  | cons name names ih =>
    cases names with
    | nil =>
      obtain ⟨next, names, rfl⟩ := List.exists_cons_of_ne_nil hsecond
      simp [String.intercalate_cons_cons, size_slash]
    | cons next names =>
      have ih := ih (List.cons_ne_nil next names)
      simp only [List.cons_append, String.intercalate_cons_cons, String.utf8ByteSize_append,
        size_slash] at ih ⊢
      omega

theorem text_of_names {path : Path} (h : path.names ≠ []) :
    path.text = path.root ++ "/".intercalate path.names := by
  simp [text, h]

theorem size_text_down {path : Path} {way : List String} (hnames : path.names ≠ [])
    (hway : way ≠ []) : (path.down way).text.utf8ByteSize =
      path.text.utf8ByteSize + 1 + ("/".intercalate way).utf8ByteSize := by
  rw [text_of_names hnames, text_of_names (by simp [hnames])]
  simp only [down_root, down_names, String.utf8ByteSize_append]
  rw [size_intercalate_append hnames hway]
  omega

theorem size_pos {name : String} (h : name ≠ "") : 0 < name.utf8ByteSize :=
  Nat.pos_of_ne_zero fun hzero => h (String.utf8ByteSize_eq_zero_iff.1 hzero)

theorem size_text_le_child (path : Path) {name : String} (hname : name ≠ "") :
    path.text.utf8ByteSize ≤ (path.child name).text.utf8ByteSize := by
  have hpos := size_pos hname
  have hchild : (path.child name).names ≠ [] := by simp [child]
  rw [text_of_names hchild]
  by_cases hnames : path.names = []
  · -- The empty path is written as a point, which is no longer than a name.
    by_cases hroot : path.root = ""
    · have htext : path.text = "." := by simp [text, hnames, hroot]
      have hpoint : (".": String).utf8ByteSize = 1 := by decide
      rw [htext, hpoint]
      simp only [child, hnames, hroot, List.nil_append, String.intercalate_singleton,
        String.utf8ByteSize_append]
      omega
    · simp [text, hnames, hroot, child]
  · rw [text_of_names hnames]
    simp only [child, String.utf8ByteSize_append]
    rw [size_intercalate_append hnames (List.cons_ne_nil name [])]
    omega

/-- A path is no shorter than those above it. -/
theorem size_text_le_down (path : Path) {way : List String} (hway : ∀ name ∈ way, name ≠ "") :
    path.text.utf8ByteSize ≤ (path.down way).text.utf8ByteSize := by
  induction way generalizing path with
  | nil => simp
  | cons name names ih =>
    rw [← child_down]
    have hchild := size_text_le_child path (hway name List.mem_cons_self)
    exact Nat.le_trans hchild (ih (path.child name) fun later hlater => hway later (.tail _ hlater))

end Size

end Ripple.Path
