-- SUMMARY: What fingerprints tell apart: the bytes that are hashed, divided into their parts.
import Ripple.Digest.Fingerprint
import Ripple.Proofs.Text.Order
import Ripple.Proofs.Text.Utf8

/-!
# What fingerprints tell apart

Every part of the input of a fingerprint ends with a zero. The stamp of a file holds none, so the
zeros tell where stamps end, and inputs for the same paths are the same only if all stamps are. A
content may hold zeros; inputs are divided in one way only if the sizes of the contents are known or
if they hold none.
-/

namespace Ripple.Fingerprint

theorem mem_pathSet {paths : List Path} {path : Path} : path ∈ pathSet paths ↔ path ∈ paths := by
  unfold pathSet
  rw [(Text.sortWith_perm _ _).mem_iff, List.mem_eraseDups]

/-- Two lists that go up to the first occurrence of the same item. -/
theorem append_cons_inj {α : Type} {item : α} {first second rest rest' : List α}
    (hfirst : item ∉ first) (hsecond : item ∉ second)
    (h : first ++ item :: rest = second ++ item :: rest') : first = second ∧ rest = rest' := by
  induction first generalizing second with
  | nil =>
    cases second with
    | nil => exact ⟨rfl, (List.cons.inj h).2⟩
    | cons other second =>
      obtain ⟨rfl, -⟩ := List.cons.inj h
      exact absurd List.mem_cons_self hsecond
  | cons other first ih =>
    cases second with
    | nil =>
      obtain ⟨rfl, -⟩ := List.cons.inj h
      exact absurd List.mem_cons_self hfirst
    | cons other' second =>
      obtain ⟨rfl, hlater⟩ := List.cons.inj h
      obtain ⟨rfl, hrest⟩ := ih (fun hmem => hfirst (List.mem_cons_of_mem _ hmem))
        (fun hmem => hsecond (List.mem_cons_of_mem _ hmem)) hlater
      exact ⟨rfl, hrest⟩

theorem part_append_inj {first second rest rest' : Bytes} (hfirst : 0 ∉ first)
    (hsecond : 0 ∉ second) (h : part first ++ rest = part second ++ rest') :
    first = second ∧ rest = rest' := by
  unfold part at h
  rw [List.append_assoc, List.append_assoc] at h
  exact append_cons_inj hfirst hsecond h

/-! ## Stamps -/

/-- What stands for a file with a size and a time of its last change, or for none. -/
def stampBytes : Option (Nat × Int) → Bytes
  | none => missing
  | some (size, modified) => Utf8.encode (toString size ++ ":" ++ toString modified).toList

theorem isDigit_of_mem_toDigits {n : Nat} {c : Char} (h : c ∈ Nat.toDigits 10 n) :
    c.isDigit = true :=
  Nat.isDigit_of_mem_toDigits (by omega) (by omega) h

theorem toDigits_inj {m n : Nat} (h : Nat.toDigits 10 m = Nat.toDigits 10 n) : m = n := by
  have hvalues := congrArg (fun digits => Nat.ofDigitChars 10 digits 0) h
  simpa only [Nat.ofDigitChars_ten_toDigits] using hvalues

theorem toList_toString_ofNat (n : Nat) : (toString (Int.ofNat n)).toList = Nat.toDigits 10 n :=
  Nat.toList_repr

theorem toList_toString_negSucc (n : Nat) :
    (toString (Int.negSucc n)).toList = '-' :: Nat.toDigits 10 (n + 1) := by
  have htext : toString (Int.negSucc n) = "-" ++ Nat.repr (n + 1) := rfl
  rw [htext, String.toList_append, Nat.toList_repr]
  rfl

theorem toString_int_injective {m n : Int} (h : toString m = toString n) : m = n := by
  have htexts := congrArg String.toList h
  have hminus (k l : Nat) : '-' :: Nat.toDigits 10 (k + 1) ≠ Nat.toDigits 10 l := by
    intro heq
    have hdigit : '-' ∈ Nat.toDigits 10 l := heq ▸ List.mem_cons_self
    exact absurd (isDigit_of_mem_toDigits hdigit) (by decide)
  cases m with
  | ofNat m =>
    cases n with
    | ofNat n =>
      rw [toList_toString_ofNat, toList_toString_ofNat] at htexts
      rw [toDigits_inj htexts]
    | negSucc n =>
      rw [toList_toString_ofNat, toList_toString_negSucc] at htexts
      exact absurd htexts.symm (hminus n m)
  | negSucc m =>
    cases n with
    | ofNat n =>
      rw [toList_toString_ofNat, toList_toString_negSucc] at htexts
      exact absurd htexts (hminus m n)
    | negSucc n =>
      rw [toList_toString_negSucc, toList_toString_negSucc, List.cons.injEq] at htexts
      rw [Nat.succ.inj (toDigits_inj htexts.2)]

/-- The text of a stamp. -/
theorem toList_stamp (size : Nat) (modified : Int) :
    (toString size ++ ":" ++ toString modified).toList =
      Nat.toDigits 10 size ++ ':' :: (toString modified).toList := by
  simp

theorem colon_notMem_toDigits (n : Nat) : ':' ∉ Nat.toDigits 10 n :=
  fun h => absurd (isDigit_of_mem_toDigits h) (by decide)

/-- Different stamps are written differently. -/
theorem stampBytes_injective : Function.Injective stampBytes := by
  -- No size begins like what stands for a missing file.
  have hmissing (size : Nat) (modified : Int) : stampBytes none ≠ stampBytes (some (size, modified)) := by
    intro h
    have htexts := Utf8.encode_injective h
    rw [toList_stamp] at htexts
    cases hdigits : Nat.toDigits 10 size with
    | nil => exact absurd hdigits Nat.toDigits_ne_nil
    | cons c digits =>
      rw [hdigits] at htexts
      obtain ⟨rfl, -⟩ := List.cons.inj htexts
      have hdigit := isDigit_of_mem_toDigits (hdigits ▸ List.mem_cons_self)
      exact absurd hdigit (by decide)
  intro stamp stamp' h
  cases stamp with
  | none =>
    cases stamp' with
    | none => rfl
    | some stamp' => exact absurd h (hmissing stamp'.1 stamp'.2)
  | some stamp =>
    cases stamp' with
    | none => exact absurd h.symm (hmissing stamp.1 stamp.2)
    | some stamp' =>
      have htexts := Utf8.encode_injective h
      rw [toList_stamp, toList_stamp] at htexts
      obtain ⟨hsize, hmodified⟩ :=
        append_cons_inj (colon_notMem_toDigits _) (colon_notMem_toDigits _) htexts
      rw [Option.some.injEq, Prod.ext_iff]
      exact ⟨toDigits_inj hsize, toString_int_injective (String.toList_injective hmodified)⟩

theorem toNat_ne_zero_of_isDigit {c : Char} (h : c.isDigit = true) : c.toNat ≠ 0 := by
  intro hzero
  have hchar : c = Char.ofNat 0 := by rw [← hzero, Char.ofNat_toNat]
  subst hchar
  cases h

/-- The text of a stamp holds digits, a colon and a sign. -/
theorem zero_notMem_stampBytes (stamp : Option (Nat × Int)) : 0 ∉ stampBytes stamp := by
  have hdigits (n : Nat) : ∀ c ∈ Nat.toDigits 10 n, c.toNat ≠ 0 :=
    fun c hc => toNat_ne_zero_of_isDigit (isDigit_of_mem_toDigits hc)
  cases stamp with
  | none => decide
  | some stamp =>
    obtain ⟨size, modified⟩ := stamp
    apply Utf8.zero_notMem_encode
    rw [toList_stamp]
    intro c hc
    rw [List.mem_append, List.mem_cons] at hc
    obtain hc | rfl | hc := hc
    · exact hdigits size c hc
    · decide
    · cases modified with
      | ofNat n =>
        rw [toList_toString_ofNat] at hc
        exact hdigits n c hc
      | negSucc n =>
        rw [toList_toString_negSucc, List.mem_cons] at hc
        obtain rfl | hc := hc
        · decide
        · exact hdigits (n + 1) c hc

/-- Inputs for the same notes and paths are the same only if all that stands for the files is, where
that holds no zeros. -/
theorem fileBytes_of_input {files files' : Disk} {measure : Measure} {notes : List String}
    {paths : List Path} (hzero : ∀ path, 0 ∉ fileBytes files measure path)
    (hzero' : ∀ path, 0 ∉ fileBytes files' measure path)
    (h : input files measure notes paths = input files' measure notes paths) {path : Path}
    (hpath : path ∈ paths) : fileBytes files measure path = fileBytes files' measure path := by
  have hparts := List.append_cancel_left h
  rw [← mem_pathSet] at hpath
  generalize pathSet paths = all at hparts hpath
  induction all with
  | nil => cases hpath
  | cons first rest ih =>
    rw [List.flatMap_cons, List.flatMap_cons, List.append_assoc, List.append_assoc] at hparts
    obtain ⟨hfirst, hrest⟩ :=
      part_append_inj (hzero first) (hzero' first) (List.append_cancel_left hparts)
    obtain rfl | hpath := List.mem_cons.1 hpath
    · exact hfirst
    · exact ih hrest hpath

/-! ## Contents -/

theorem zero_notMem_encode_toList {text : String} (h : '\x00' ∉ text.toList) :
    0 ∉ Utf8.encode text.toList := by
  apply Utf8.zero_notMem_encode
  intro c hc hzero
  have hchar : c = '\x00' := by rw [← Char.ofNat_toNat c, hzero]
  exact h (hchar ▸ hc)

theorem textPart_append_inj {first second : String} {rest rest' : Bytes}
    (hfirst : '\x00' ∉ first.toList) (hsecond : '\x00' ∉ second.toList)
    (h : textPart first ++ rest = textPart second ++ rest') : first = second ∧ rest = rest' := by
  obtain ⟨htexts, hrest⟩ := part_append_inj (zero_notMem_encode_toList hfirst)
    (zero_notMem_encode_toList hsecond) h
  exact ⟨String.toList_injective (Utf8.encode_injective htexts), hrest⟩

/-- As many texts on both sides are the same if what is made of them is. -/
theorem textParts_append_inj {texts texts' : List String} {rest rest' : Bytes}
    (hlength : texts.length = texts'.length) (hzero : ∀ text ∈ texts, '\x00' ∉ text.toList)
    (hzero' : ∀ text ∈ texts', '\x00' ∉ text.toList)
    (h : texts.flatMap textPart ++ rest = texts'.flatMap textPart ++ rest') :
    texts = texts' ∧ rest = rest' := by
  induction texts generalizing texts' with
  | nil =>
    obtain rfl := List.length_eq_zero_iff.1 hlength.symm
    exact ⟨rfl, h⟩
  | cons text texts ih =>
    obtain ⟨text', texts', rfl⟩ := List.exists_cons_of_length_eq_add_one hlength.symm
    obtain ⟨hfirst, hlater⟩ := List.forall_mem_cons.1 hzero
    obtain ⟨hfirst', hlater'⟩ := List.forall_mem_cons.1 hzero'
    rw [List.flatMap_cons, List.flatMap_cons, List.append_assoc, List.append_assoc] at h
    obtain ⟨htext, htexts⟩ := textPart_append_inj hfirst hfirst' h
    obtain ⟨rfl, hrest⟩ := ih (Nat.succ.inj hlength) hlater hlater' htexts
    exact ⟨by rw [htext], hrest⟩

/-- What is hashed for paths, each with what stands for its file. -/
def fileParts (bytes : Path → Bytes) (paths : List Path) : Bytes :=
  paths.flatMap fun path => textPart path.text ++ part (bytes path)

/-- The sizes tell where the parts of files end. -/
theorem fileParts_inj {bytes bytes' : Path → Bytes} {paths paths' : List Path}
    (hzero : ∀ path ∈ paths, '\x00' ∉ path.text.toList)
    (hzero' : ∀ path ∈ paths', '\x00' ∉ path.text.toList)
    (hsizes : paths.map (fun path => (bytes path).length) =
      paths'.map fun path => (bytes' path).length)
    (h : fileParts bytes paths = fileParts bytes' paths') :
    paths.map (fun path => (path.text, bytes path)) =
      paths'.map fun path => (path.text, bytes' path) := by
  induction paths generalizing paths' with
  | nil =>
    obtain rfl := List.map_eq_nil_iff.1 hsizes.symm
    rfl
  | cons path paths ih =>
    cases paths' with
    | nil => cases hsizes
    | cons path' paths' =>
      obtain ⟨hsize, hsizes⟩ := List.cons.inj hsizes
      obtain ⟨hfirst, hlater⟩ := List.forall_mem_cons.1 hzero
      obtain ⟨hfirst', hlater'⟩ := List.forall_mem_cons.1 hzero'
      simp only [fileParts, List.flatMap_cons, List.append_assoc] at h
      obtain ⟨htext, hcontents⟩ := textPart_append_inj hfirst hfirst' h
      obtain ⟨hpart, hrest⟩ := List.append_inj hcontents (by simp [part, hsize])
      have hbytes := List.append_cancel_right hpart
      rw [List.map_cons, List.map_cons, ih hlater hlater' hsizes hrest, htext, hbytes]

/-- Parts without zeros are the same if they are joined to the same bytes. -/
theorem parts_inj {pieces pieces' : List Bytes} (hzero : ∀ piece ∈ pieces, 0 ∉ piece)
    (hzero' : ∀ piece ∈ pieces', 0 ∉ piece) (h : pieces.flatMap part = pieces'.flatMap part) :
    pieces = pieces' := by
  induction pieces generalizing pieces' with
  | nil =>
    cases pieces' with
    | nil => rfl
    | cons piece' pieces' => simp [part] at h
  | cons piece pieces ih =>
    cases pieces' with
    | nil => simp [part] at h
    | cons piece' pieces' =>
      obtain ⟨hfirst, hlater⟩ := List.forall_mem_cons.1 hzero
      obtain ⟨hfirst', hlater'⟩ := List.forall_mem_cons.1 hzero'
      obtain ⟨hpiece, hpieces⟩ := part_append_inj hfirst hfirst' h
      rw [hpiece, ih hlater hlater' hpieces]

/-- The parts of the input of a fingerprint. -/
def pieces (bytes : Path → Bytes) (notes : List String) (paths : List Path) : List Bytes :=
  notes.map (fun note => Utf8.encode note.toList) ++
    paths.flatMap fun path => [Utf8.encode path.text.toList, bytes path]

theorem flatMap_part_pieces (bytes : Path → Bytes) (notes : List String) (paths : List Path) :
    (pieces bytes notes paths).flatMap part = notes.flatMap textPart ++ fileParts bytes paths := by
  have hfile (path : Path) : [Utf8.encode path.text.toList, bytes path].flatMap part =
      textPart path.text ++ part (bytes path) := by simp [textPart]
  have hnote (note : String) : part (Utf8.encode note.toList) = textPart note := rfl
  simp only [pieces, fileParts, List.flatMap_append, List.flatMap_map, List.flatMap_assoc, hfile,
    hnote]

theorem length_pieces (bytes : Path → Bytes) (notes : List String) (paths : List Path) :
    (pieces bytes notes paths).length = notes.length + 2 * paths.length := by
  simp [pieces, List.length_flatMap, Nat.mul_comm]

/-- Behind as many notes every second part stands for a file. -/
theorem map_bytes_of_pieces {bytes bytes' : Path → Bytes} {notes notes' : List String}
    {paths paths' : List Path} (hlength : notes.length = notes'.length)
    (h : pieces bytes notes paths = pieces bytes' notes' paths') :
    paths.map bytes = paths'.map bytes' := by
  obtain ⟨-, hpaths⟩ := List.append_inj h (by simp [hlength])
  clear h
  induction paths generalizing paths' with
  | nil =>
    cases paths' with
    | nil => rfl
    | cons path' paths' => cases hpaths
  | cons path paths ih =>
    cases paths' with
    | nil => cases hpaths
    | cons path' paths' =>
      obtain ⟨hpair, hrest⟩ := List.append_inj hpaths rfl
      obtain ⟨-, hbytes⟩ := List.cons.inj hpair
      rw [List.map_cons, List.map_cons, ih hrest, (List.cons.inj hbytes).1]

end Ripple.Fingerprint
