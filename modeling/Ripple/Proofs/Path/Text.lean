-- SUMMARY: Paths are read back from their texts, which are different for different paths.
import Ripple.Proofs.Path
import Ripple.Proofs.Text.Lines

/-! # Paths and their texts

A path that was read from a text is read again from its own text, so different paths of this kind
have different texts. What is added behind the text of a path belongs to its last name as long as it
holds no slash.
-/

namespace Ripple

/-- Pieces without marks are what the text between the marks is cut into. -/
theorem Text.splitWhen_intercalate {α : Type} {p : α → Bool} {mark : α} (hmark : p mark = true)
    {pieces : List (List α)} (hne : pieces ≠ []) (h : ∀ piece ∈ pieces, ∀ a ∈ piece, p a = false) :
    splitWhen p ([mark].intercalate pieces) = pieces := by
  induction pieces with
  | nil => exact absurd rfl hne
  | cons piece pieces ih =>
    cases pieces with
    | nil =>
      rw [List.intercalate_singleton, splitWhen_eq_singleton (h piece List.mem_cons_self)]
    | cons next pieces =>
      have hrest := ih (List.cons_ne_nil next pieces) fun later hlater =>
        h later (List.mem_cons_of_mem _ hlater)
      rw [List.intercalate_cons_cons, List.append_assoc, List.singleton_append,
        splitWhen_append_cons (h piece List.mem_cons_self) hmark, hrest]

namespace Path

/-- A name that is kept when a path is read. -/
structure IsPart (name : String) : Prop where
  ne_empty : name ≠ ""
  ne_point : name ≠ "."
  no_slash : '/' ∉ name.toList

/-- A path such as is read from a text. -/
structure IsProper (path : Path) : Prop where
  root : path.root = "" ∨ path.root = "/" ∨ path.root = "//"
  parts : ∀ name ∈ path.names, IsPart name

theorem rootOf_cases (text : List Char) :
    rootOf text = "" ∨ rootOf text = "/" ∨ rootOf text = "//" := by
  unfold rootOf
  split <;> simp

theorem isProper_ofText (text : String) : (ofText text).IsProper where
  root := rootOf_cases text.toList
  parts := by
    intro name hname
    simp only [ofText, List.mem_filter, List.mem_map, Bool.and_eq_true, Bool.not_eq_true',
      bne_iff_ne, String.isEmpty_eq_false_iff] at hname
    obtain ⟨⟨piece, hpiece, rfl⟩, hempty, hpoint⟩ := hname
    refine ⟨hempty, hpoint, ?_⟩
    rw [String.toList_ofList]
    intro hslash
    exact absurd (Text.mem_of_mem_splitWhen hpiece hslash).2 (by decide)

theorem IsProper.down {path : Path} (h : path.IsProper) {way : List String}
    (hway : ∀ name ∈ way, IsPart name) : (path.down way).IsProper where
  root := h.root
  parts := by
    intro name hname
    obtain hname | hname := List.mem_append.1 hname
    · exact h.parts name hname
    · exact hway name hname

/-- The names of a path stand between slashes. -/
theorem toList_text {path : Path} (h : path.names ≠ []) :
    path.text.toList =
      path.root.toList ++ ['/'].intercalate (path.names.map String.toList) := by
  rw [text_of_names h, String.toList_append, String.toList_intercalate]
  rfl

theorem mem_of_mem_intercalate {mark c : Char} {pieces : List (List Char)}
    (h : c ∈ [mark].intercalate pieces) : c = mark ∨ ∃ piece ∈ pieces, c ∈ piece := by
  induction pieces with
  | nil => cases h
  | cons piece pieces ih =>
    cases pieces with
    | nil => exact .inr ⟨piece, List.mem_cons_self, by simpa using h⟩
    | cons next pieces =>
      simp only [List.intercalate_cons_cons, List.mem_append, List.mem_singleton, or_assoc] at h
      obtain hpiece | rfl | hrest := h
      · exact .inr ⟨piece, List.mem_cons_self, hpiece⟩
      · exact .inl rfl
      · exact (ih hrest).imp_right fun ⟨later, hlater, hc⟩ =>
          ⟨later, List.mem_cons_of_mem _ hlater, hc⟩

theorem zero_notMem_text {path : Path} (h : path.IsProper) (hne : path.names ≠ [])
    (hzero : path.hasZero = false) : '\x00' ∉ path.text.toList := by
  rw [toList_text hne, List.mem_append]
  rintro (hroot | hnames)
  · obtain hempty | hslash | hslashes := h.root <;> simp_all
  · obtain hslash | ⟨piece, hpiece, hmem⟩ := mem_of_mem_intercalate hnames
    · exact absurd hslash (by decide)
    · obtain ⟨name, hname, rfl⟩ := List.mem_map.1 hpiece
      have hfree := List.any_eq_false.1 hzero name hname
      simp [hmem] at hfree

theorem rootOf_append {root : String} (hroot : root = "" ∨ root = "/" ∨ root = "//") {c : Char}
    (hc : c ≠ '/') (rest : List Char) : rootOf (root.toList ++ c :: rest) = root := by
  obtain rfl | rfl | rfl := hroot
  · simp [rootOf, hc]
  · simp [rootOf, hc]
  · simp [rootOf, hc]

/-- The slashes of a root give empty names only. -/
theorem splitWhen_root_append {root : String} (hroot : root = "" ∨ root = "/" ∨ root = "//")
    (rest : List Char) : ∃ count, Text.splitWhen (· == '/') (root.toList ++ rest) =
      List.replicate count [] ++ Text.splitWhen (· == '/') rest := by
  obtain rfl | rfl | rfl := hroot
  · exact ⟨0, by simp⟩
  · exact ⟨1, by simp [Text.splitWhen]⟩
  · exact ⟨2, by simp [Text.splitWhen, List.replicate]⟩

theorem splitWhen_names {names : List String} (hne : names ≠ []) (h : ∀ name ∈ names, IsPart name) :
    Text.splitWhen (· == '/') (['/'].intercalate (names.map String.toList)) =
      names.map String.toList := by
  apply Text.splitWhen_intercalate (by decide) (by simpa using hne)
  intro piece hpiece c hc
  obtain ⟨name, hname, rfl⟩ := List.mem_map.1 hpiece
  rw [beq_eq_false_iff_ne]
  rintro rfl
  exact (h name hname).no_slash hc

/-- The text of names begins with a letter of the first. -/
theorem exists_cons_of_names {names : List String} (hne : names ≠ [])
    (h : ∀ name ∈ names, IsPart name) :
    ∃ c rest, c ≠ '/' ∧ ['/'].intercalate (names.map String.toList) = c :: rest := by
  obtain ⟨name, names, rfl⟩ := List.exists_cons_of_ne_nil hne
  have hname := h name List.mem_cons_self
  obtain ⟨c, letters, hletters⟩ : ∃ c letters, name.toList = c :: letters :=
    List.exists_cons_of_ne_nil (by simpa using hname.ne_empty)
  have hc : c ≠ '/' := by
    rintro rfl
    exact hname.no_slash (hletters ▸ List.mem_cons_self)
  cases names with
  | nil => exact ⟨c, letters, hc, by simp [hletters]⟩
  | cons next names => exact ⟨c, _, hc, by simp [List.intercalate_cons_cons, hletters]; rfl⟩

/-- A path that was read is read again from its text. -/
theorem ofText_text {path : Path} (h : path.IsProper) : ofText path.text = path := by
  obtain ⟨root, names⟩ := path
  by_cases hne : names = []
  · -- the empty path and the two roots alone
    subst hne
    obtain rfl | rfl | rfl := h.root <;> decide +kernel
  · have htext : (⟨root, names⟩ : Path).text.toList = _ := toList_text hne
    obtain ⟨c, rest, hc, hrest⟩ := exists_cons_of_names hne h.parts
    obtain ⟨count, hcount⟩ :=
      splitWhen_root_append h.root (['/'].intercalate (names.map String.toList))
    have hkept : names.filter (fun name => !name.isEmpty && name != ".") = names := by
      rw [List.filter_eq_self]
      intro name hname
      simp [(h.parts name hname).ne_empty, (h.parts name hname).ne_point]
    -- the pieces in front of the first slashes are empty and are left out
    unfold ofText
    rw [htext, hcount, splitWhen_names hne h.parts, hrest, rootOf_append h.root hc]
    simp [hkept, Function.comp_def]

theorem text_injective {first second : Path} (hfirst : first.IsProper) (hsecond : second.IsProper)
    (h : first.text = second.text) : first = second := by
  rw [← ofText_text hfirst, ← ofText_text hsecond, h]

/-! ## Longer last names -/

theorem parent_child_name {path : Path} (h : path.names ≠ []) :
    path.parent.child path.name = path := by
  have hnames := List.dropLast_append_getLast h
  simp [parent, child, Path.name, List.getLastD_eq_getLast?, List.getLast?_eq_getLast_of_ne_nil h,
    hnames]

theorem intercalate_concat_append (names : List String) (name ending : String) :
    "/".intercalate (names ++ [name ++ ending]) = "/".intercalate (names ++ [name]) ++ ending := by
  induction names with
  | nil => simp
  | cons first names ih =>
    cases names with
    | nil => simp [String.intercalate_cons_cons, String.append_assoc]
    | cons second names =>
      simp only [List.cons_append, String.intercalate_cons_cons] at ih ⊢
      rw [ih, String.append_assoc, String.append_assoc, String.append_assoc]

theorem text_child_append (folder : Path) (name ending : String) :
    (folder.child (name ++ ending)).text = (folder.child name).text ++ ending := by
  rw [text_of_names (by simp [child]), text_of_names (by simp [child])]
  simp only [child]
  rw [intercalate_concat_append, String.append_assoc]

theorem IsPart.append {name ending : String} (h : IsPart name) (hending : '/' ∉ ending.toList) :
    IsPart (name ++ ending) where
  ne_empty := by simp [h.ne_empty]
  ne_point := by
    intro hpoint
    have hletters : name.toList ++ ending.toList = ['.'] := by
      simpa using congrArg String.toList hpoint
    obtain ⟨hname, -⟩ | ⟨hname, -⟩ := List.append_eq_singleton_iff.1 hletters
    · exact h.ne_empty (String.toList_eq_nil_iff.1 hname)
    · exact h.ne_point (String.toList_injective hname)
  no_slash := by simp [h.no_slash, hending]

theorem name_mem_names {path : Path} (h : path.names ≠ []) : path.name ∈ path.names := by
  simp [Path.name, List.getLastD_eq_getLast?, List.getLast?_eq_getLast_of_ne_nil h]

theorem IsProper.child_append {path : Path} (h : path.IsProper) (hne : path.names ≠ [])
    {ending : String} (hending : '/' ∉ ending.toList) :
    (path.parent.child (path.name ++ ending)).IsProper := by
  have hparent : path.parent.IsProper :=
    ⟨h.root, fun name hname => h.parts name (List.dropLast_subset _ hname)⟩
  refine hparent.down ?_
  intro name hname
  obtain rfl := List.mem_singleton.1 hname
  exact (h.parts _ (name_mem_names hne)).append hending

/-- What has no slash does not lead out of the folder of a path. -/
theorem parent_eq_of_text_append {first second : Path} (hfirst : first.IsProper)
    (hsecond : second.IsProper) (hne : first.names ≠ []) (hne' : second.names ≠ [])
    {ending ending' : String} (hending : '/' ∉ ending.toList) (hending' : '/' ∉ ending'.toList)
    (h : first.text ++ ending = second.text ++ ending') : first.parent = second.parent := by
  -- both sides are texts of paths with a longer last name
  rw [← parent_child_name hne, ← parent_child_name hne', ← text_child_append,
    ← text_child_append] at h
  have hsame := text_injective (hfirst.child_append hne hending)
    (hsecond.child_append hne' hending') h
  exact (child_inj.1 hsame).1

end Path

end Ripple
