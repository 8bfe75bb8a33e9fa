-- SUMMARY: What loading a snapshot does for any bytes in its file: what is found, deleted and refused.
import Ripple.Proofs.Cache.RoundTrip
import Ripple.Proofs.Json.LongInteger

/-!
# Loading a snapshot, whatever its file holds

Any file can be in the place of a snapshot. What is found in it, whether it is deleted and whether
loading stops is said here in terms of its bytes. Loading stops only at a path that cannot be asked
about and at a text with an integer of too many digits.
-/

namespace Ripple

/-- What becomes of an operation that may find something at a place and may delete it: it stops, it
finds, it deletes if and only if it is said so, and changes no files otherwise. -/
structure Work.Settles (work : Work (Option α)) (w : Workspace) (place : Path) (stops : Prop)
    (finds : α → Prop) (deletes : Prop) : Prop where
  stops_iff : (∃ fault, (work.outcome w).1 = .error fault) ↔ stops
  finds_iff (a : α) : (work.outcome w).1 = .ok (some a) ↔ finds a
  deleted (h : deletes) : w.files.delete place = .ok (work.outcome w).2.files
  kept (h : ¬deletes) : (work.outcome w).2.files = w.files

namespace Work.Settles

variable {work : Work (Option α)} {w w' : Workspace} {place : Path} {stops : Prop}
  {finds : α → Prop} {deletes : Prop}

theorem of_stuck {fault : Fault} (houtcome : work.outcome w = (.error fault, w)) (hstops : stops)
    (hfinds : ∀ a, ¬finds a) (hdeletes : ¬deletes) :
    work.Settles w place stops finds deletes where
  stops_iff := iff_of_true ⟨fault, by rw [houtcome]⟩ hstops
  finds_iff a := iff_of_false (by rw [houtcome]; nofun) (hfinds a)
  deleted h := absurd h hdeletes
  kept _ := by rw [houtcome]

theorem of_returns {found? : Option α} (houtcome : work.outcome w = (.ok found?, w'))
    (hstops : ¬stops) (hfinds : ∀ a, finds a ↔ found? = some a)
    (hdeleted : deletes → w.files.delete place = .ok w'.files)
    (hkept : ¬deletes → w'.files = w.files) : work.Settles w place stops finds deletes where
  stops_iff := iff_of_false (by rw [houtcome]; nofun) hstops
  finds_iff a := by rw [houtcome, hfinds, Except.ok.injEq]
  deleted := by rwa [houtcome]
  kept := by rwa [houtcome]

end Work.Settles

namespace SnapshotState

variable {parse : Json → Except Fault α} {state : SnapshotState}

theorem value?_eq_some_iff {a : α} :
    state.value? parse = some a ↔ ∃ data, state.data? = some data ∧ parse data = .ok a := by
  rw [value?, Option.bind_eq_some_iff]
  refine exists_congr fun data => and_congr_right fun _ => ?_
  cases parse data <;> simp [Except.toOption]

theorem isDiscarded_iff : state.isDiscarded parse = true ↔
    state.isRefused = true ∨ ∃ data fault, state.data? = some data ∧ parse data = .error fault := by
  rw [isDiscarded, Bool.or_eq_true]
  refine or_congr_right ?_
  cases state.data? with
  | none => exact iff_of_false nofun nofun
  | some data =>
    cases hparse : parse data with
    | error fault =>
      exact iff_of_true (by rw [Option.any_some, hparse]; rfl) ⟨data, fault, rfl, hparse⟩
    | ok a =>
      refine iff_of_false (by rw [Option.any_some, hparse]; nofun) ?_
      rintro ⟨_, fault, hdata, herror⟩
      cases hdata
      cases hparse.symm.trans herror

end SnapshotState

theorem Json.beq_str_iff {value : Json} {s : String} :
    (value == .str s) = true ↔ value = .str s := by
  cases value with
  | str t => rw [beq_str, beq_iff_eq, Json.str.injEq]
  | real x =>
    have hfalse : (Json.real x == .str s) = false := by
      change sameNumber (number? (.real x)) none = false
      rcases number? (.real x) with _ | _ | _ <;> rfl
    exact iff_of_false (Bool.eq_false_iff.1 hfalse) nofun
  | _ => exact iff_of_false (Bool.eq_false_iff.1 rfl) nofun

namespace SnapshotFile

variable (file : SnapshotFile)

/-! ## What a file holds -/

/-- The file is there and its bytes are a text. -/
def HasText (files : Disk) (text : List Char) : Prop :=
  ∃ bytes, files.read file.path = .ok bytes ∧ Utf8.decode? bytes = some text

/-- A snapshot of the right kind, with its data. -/
structure IsSnapshot (value data : Json) : Prop where
  kind_eq : value.field? "kind" = some (.str file.kind)
  data_eq : value.field? "data" = some data

/-- A snapshot whose data are used. Where it has to match it is complete, and has the fingerprint if
one is given. -/
structure Accepts (print? : Option String) (value data : Json) : Prop
    extends file.IsSnapshot value data where
  inhabited : data.isEmpty = false
  complete (h : file.strict = true) :
    ∃ complete, value.field? "complete" = some complete ∧ complete.isEmpty = false
  fingerprint (h : file.strict = true) (print : String) (hprint : print? = some print) :
    value.field? "fingerprint" = some (.str print)

/-- The file is a snapshot whose data are used. -/
def Accepted (files : Disk) (print? : Option String) (data : Json) : Prop :=
  ∃ text value,
    file.HasText files text ∧ Json.read text = .ok value ∧ file.Accepts print? value data

/-- The file is there but is no text, no JSON or no snapshot of the right kind. -/
def Refused (files : Disk) : Prop :=
  ∃ bytes, files.read file.path = .ok bytes ∧ ∀ text, Utf8.decode? bytes = some text →
    Json.read text = .error .malformed ∨
      ∃ value, Json.read text = .ok value ∧ ∀ data, ¬file.IsSnapshot value data

/-- The path cannot be asked about, or the file holds an integer of too many digits. -/
def Stuck (files : Disk) : Prop :=
  (∃ e, files.existsAt file.path = .error e) ∨
    ∃ text, file.HasText files text ∧ Json.read text = .error .longInteger

/-! ## What it is judged to be -/

section
variable {file} {files : Disk} {print? : Option String} {value data : Json}

theorem judge_eq_foreign_iff :
    file.judge (printJson print?) value = .foreign ↔ ∀ data, ¬file.IsSnapshot value data := by
  unfold judge
  split
  · rename_i data kind hdata hkind
    by_cases hsame : kind = .str file.kind
    · subst hsame
      refine iff_of_false ?_ fun hnone => hnone data ⟨hkind, hdata⟩
      simp only [Json.beq_str, beq_self_eq_true, Bool.not_true, Bool.false_eq_true, if_false]
      repeat' split
      all_goals nofun
    · have hne : (kind == .str file.kind) = false := by
        rw [Bool.eq_false_iff, ne_eq, Json.beq_str_iff]
        exact hsame
      refine iff_of_true (by rw [hne]; rfl) fun data hsnapshot => ?_
      exact hsame (Option.some.inj (hkind.symm.trans hsnapshot.kind_eq))
  · rename_i hnone
    exact iff_of_true rfl fun data hsnapshot => hnone _ _ hsnapshot.data_eq hsnapshot.kind_eq

theorem getD_null_isEmpty_iff {field? : Option Json} :
    (field?.getD .null).isEmpty = false ↔ ∃ value, field? = some value ∧ value.isEmpty = false := by
  cases field? with
  | none => simp [Json.isEmpty]
  | some value => simp

theorem getD_null_beq_iff {field? : Option Json} {s : String} :
    (field?.getD .null == .str s) = true ↔ field? = some (.str s) := by
  rw [Json.beq_str_iff]
  cases field? with
  | none => simp
  | some value => simp

/-- What a snapshot of the right kind is worth. -/
theorem judge_of_isSnapshot (h : file.IsSnapshot value data) (print? : Option String) :
    file.judge (printJson print?) value = .usable data ↔ data.isEmpty = false ∧
      (file.strict = true → ((value.field? "complete").getD .null).isEmpty = false ∧
        ∀ print, print? = some print →
          ((value.field? "fingerprint").getD .null == .str print) = true) := by
  unfold judge
  rw [h.data_eq, h.kind_eq]
  simp only [Json.beq_str, beq_self_eq_true, Bool.not_true, Bool.false_eq_true, if_false]
  -- the tests in the order in which they are made
  cases data.isEmpty with
  | true => simp
  | false =>
    cases file.strict with
    | false => simp
    | true =>
      cases ((value.field? "complete").getD .null).isEmpty with
      | true => simp
      | false =>
        cases print? with
        | none => simp [printJson]
        | some print =>
          cases ((value.field? "fingerprint").getD .null == .str print) <;> simp [printJson, *]

theorem isSnapshot_of_judge {print : Json} (h : file.judge print value = .usable data) :
    file.IsSnapshot value data := by
  unfold judge at h
  split at h
  · rename_i found kind hdata hkind
    split at h
    · cases h
    · rename_i hsame
      rw [Bool.not_eq_true, Bool.not_eq_false', Json.beq_str_iff] at hsame
      -- the data that are used are those of the snapshot
      have hfound : found = data := by
        repeat' split at h
        all_goals cases h
        all_goals rfl
      exact ⟨hkind.trans (congrArg some hsame), hdata.trans (congrArg some hfound)⟩
  · cases h

theorem judge_eq_usable_iff :
    file.judge (printJson print?) value = .usable data ↔ file.Accepts print? value data := by
  constructor
  · intro h
    have hsnapshot := isSnapshot_of_judge h
    obtain ⟨hdata, hstrict⟩ := (judge_of_isSnapshot hsnapshot print?).1 h
    exact ⟨hsnapshot, hdata, fun hmode => getD_null_isEmpty_iff.1 (hstrict hmode).1,
      fun hmode print hprint => getD_null_beq_iff.1 ((hstrict hmode).2 print hprint)⟩
  · intro h
    refine (judge_of_isSnapshot h.toIsSnapshot print?).2 ⟨h.inhabited, fun hmode => ?_⟩
    exact ⟨getD_null_isEmpty_iff.2 (h.complete hmode),
      fun print hprint => getD_null_beq_iff.2 (h.fingerprint hmode print hprint)⟩

/-- A file that can be read is judged by its text. -/
theorem state_of_read {bytes : Bytes} (hread : files.read file.path = .ok bytes) (print : Json) :
    (Utf8.decode? bytes = none ∧ file.state files print = .ok .corrupted) ∨
    ∃ text, Utf8.decode? bytes = some text ∧
      (Json.read text = .error .malformed ∧ file.state files print = .ok .corrupted ∨
      Json.read text = .error .longInteger ∧ file.state files print = .error .invalidValue ∨
      ∃ value, Json.read text = .ok value ∧
        file.state files print = .ok (file.judge print value)) := by
  unfold state
  rw [Disk.existsAt_of_read hread, hread]
  dsimp only
  cases hdecode : Utf8.decode? bytes with
  | none => exact .inl ⟨rfl, rfl⟩
  | some text =>
    refine .inr ⟨text, rfl, ?_⟩
    dsimp only
    cases hjson : Json.read text with
    | error e =>
      cases e with
      | malformed => exact .inl ⟨rfl, rfl⟩
      | longInteger => exact .inr (.inl ⟨rfl, rfl⟩)
    | ok value => exact .inr (.inr ⟨value, rfl, rfl⟩)

/-- A file that cannot be read is not judged. -/
theorem state_of_unread {e : FileError} (hread : files.read file.path = .error e) (print : Json) :
    (∃ e, files.existsAt file.path = .error e) ∧ (∃ fault, file.state files print = .error fault) ∨
    (¬∃ e, files.existsAt file.path = .error e) ∧
      (file.state files print = .ok .absent ∨ file.state files print = .ok .unreadable) := by
  unfold state
  rw [hread]
  rcases files.existsAt file.path with e | _ | _
  · exact .inl ⟨⟨e, rfl⟩, _, rfl⟩
  · exact .inr ⟨nofun, .inl rfl⟩
  · exact .inr ⟨nofun, .inr rfl⟩

theorem accepted_iff : file.Accepted files print? data ↔
    file.state files (printJson print?) = .ok (.usable data) := by
  constructor
  · rintro ⟨text, value, ⟨bytes, hread, htext⟩, hjson, haccepts⟩
    unfold state
    rw [Disk.existsAt_of_read hread, hread]
    simp only [htext, hjson, judge_eq_usable_iff.2 haccepts]
  · intro h
    obtain ⟨bytes, hread⟩ := read_of_state h nofun nofun
    -- data are found only where the text is JSON
    obtain ⟨-, hstate⟩ | ⟨text, htext, ⟨-, hstate⟩ | ⟨-, hstate⟩ | ⟨value, hjson, hstate⟩⟩ :=
      state_of_read hread (printJson print?)
    · cases h.symm.trans hstate
    · cases h.symm.trans hstate
    · cases h.symm.trans hstate
    · have hjudge := Except.ok.inj (hstate.symm.trans h)
      exact ⟨text, value, ⟨bytes, hread, htext⟩, hjson, judge_eq_usable_iff.1 hjudge⟩

theorem refused_iff (print? : Option String) : file.Refused files ↔
    file.state files (printJson print?) = .ok .corrupted ∨
      file.state files (printJson print?) = .ok .foreign := by
  constructor
  · rintro ⟨bytes, hread, hrefused⟩
    obtain ⟨-, hstate⟩ | ⟨text, htext, ⟨-, hstate⟩ | ⟨hjson, -⟩ | ⟨value, hjson, hstate⟩⟩ :=
      state_of_read hread (printJson print?)
    · exact .inl hstate
    · exact .inl hstate
    · obtain hbad | ⟨value, hgood, -⟩ := hrefused text htext
      · cases hjson.symm.trans hbad
      · cases hjson.symm.trans hgood
    · obtain hbad | ⟨value, hgood, hnone⟩ := hrefused text htext
      · cases hjson.symm.trans hbad
      · cases hjson.symm.trans hgood
        exact .inr (by rw [hstate, judge_eq_foreign_iff.2 hnone])
  · intro h
    obtain ⟨bytes, hread⟩ : ∃ bytes, files.read file.path = .ok bytes :=
      h.elim (fun h => read_of_state h nofun nofun) fun h => read_of_state h nofun nofun
    refine ⟨bytes, hread, fun text htext => ?_⟩
    obtain ⟨hnone, -⟩ | ⟨text', htext', ⟨hjson, -⟩ | ⟨-, hstate⟩ | ⟨value, hjson, hstate⟩⟩ :=
      state_of_read hread (printJson print?)
    · cases hnone.symm.trans htext
    · cases htext.symm.trans htext'
      exact .inl hjson
    · rw [hstate] at h
      obtain h | h := h <;> cases h
    · cases htext.symm.trans htext'
      obtain h | h := h <;> have hjudge := Except.ok.inj (hstate.symm.trans h)
      · exact absurd hjudge (file.judge_ne_corrupted _ _)
      · exact .inr ⟨value, hjson, judge_eq_foreign_iff.1 hjudge⟩

theorem stuck_iff (print? : Option String) :
    file.Stuck files ↔ ∃ fault, file.state files (printJson print?) = .error fault := by
  constructor
  · rintro (⟨e, hexists⟩ | ⟨text, ⟨bytes, hread, htext⟩, hjson⟩) <;> unfold state
    · rw [hexists]
      exact ⟨_, rfl⟩
    · rw [Disk.existsAt_of_read hread, hread]
      simp only [htext, hjson]
      exact ⟨_, rfl⟩
  · rintro ⟨fault, h⟩
    cases hread : files.read file.path with
    | error e =>
      obtain ⟨hexists, -⟩ | ⟨-, hstate | hstate⟩ := state_of_unread hread (printJson print?)
      · exact .inl hexists
      · cases h.symm.trans hstate
      · cases h.symm.trans hstate
    | ok bytes =>
      obtain ⟨-, hstate⟩ | ⟨text, htext, ⟨-, hstate⟩ | ⟨hjson, -⟩ | ⟨value, -, hstate⟩⟩ :=
        state_of_read hread (printJson print?)
      · cases h.symm.trans hstate
      · cases h.symm.trans hstate
      · exact .inr ⟨text, ⟨bytes, hread, htext⟩, hjson⟩
      · cases h.symm.trans hstate

end

/-! ## What becomes of it -/

section
variable {w : Workspace} {state : SnapshotState}

section
variable {file} {print? : Option String}

theorem not_accepted_of_stuck {fault : Fault}
    (h : file.state w.files (printJson print?) = .error fault) (data : Json) :
    ¬file.Accepted w.files print? data := fun haccepted => by
  cases h.symm.trans (accepted_iff.1 haccepted)

theorem not_refused_of_stuck {fault : Fault}
    (h : file.state w.files (printJson print?) = .error fault) : ¬file.Refused w.files := by
  rw [refused_iff print?, h]
  nofun

theorem accepted_iff_data? (h : file.state w.files (printJson print?) = .ok state) (data : Json) :
    file.Accepted w.files print? data ↔ state.data? = some data := by
  rw [accepted_iff, h]
  cases state <;> simp [SnapshotState.data?]

theorem refused_iff_isRefused (h : file.state w.files (printJson print?) = .ok state) :
    file.Refused w.files ↔ state.isRefused = true := by
  rw [refused_iff print?, h]
  cases state <;> simp [SnapshotState.isRefused]

theorem not_stuck (h : file.state w.files (printJson print?) = .ok state) :
    ¬file.Stuck w.files := by
  rw [stuck_iff print?, h]
  nofun

end

theorem load_settles (print? : Option String) (w : Workspace) :
    (file.load (printJson print?)).Settles w file.path (file.Stuck w.files)
      (file.Accepted w.files print?) (file.Refused w.files) := by
  cases hstate : file.state w.files (printJson print?) with
  | error fault =>
    exact .of_stuck (file.outcome_load_stuck hstate) ((stuck_iff print?).2 ⟨fault, hstate⟩)
      (not_accepted_of_stuck hstate) (not_refused_of_stuck hstate)
  | ok state =>
    obtain ⟨w', houtcome, hdeleted, hkept⟩ := file.outcome_load hstate
    have hrefused := refused_iff_isRefused hstate
    exact .of_returns houtcome (not_stuck hstate) (accepted_iff_data? hstate)
      (fun h => hdeleted (hrefused.1 h)) fun h => hkept (Bool.eq_false_iff.2 (mt hrefused.2 h))

/-- Where the data are read as something, a snapshot whose data cannot be is deleted too. -/
theorem loadAs_settles (parse : Json → Except Fault α) (title : String) (loaded : α → String)
    (print? : Option String) (w : Workspace) :
    (file.loadAs parse title loaded (printJson print?)).Settles w file.path (file.Stuck w.files)
      (fun a => ∃ data, file.Accepted w.files print? data ∧ parse data = .ok a)
      (file.Refused w.files ∨
        ∃ data fault, file.Accepted w.files print? data ∧ parse data = .error fault) := by
  cases hstate : file.state w.files (printJson print?) with
  | error fault =>
    refine .of_stuck (file.outcome_loadAs_stuck parse title loaded hstate)
      ((stuck_iff print?).2 ⟨fault, hstate⟩) ?_ ?_
    · rintro a ⟨data, haccepted, -⟩
      exact not_accepted_of_stuck hstate data haccepted
    · rintro (hrefused | ⟨data, -, haccepted, -⟩)
      · exact not_refused_of_stuck hstate hrefused
      · exact not_accepted_of_stuck hstate data haccepted
  | ok state =>
    obtain ⟨w', houtcome, hdeleted, hkept⟩ := file.outcome_loadAs parse title loaded hstate
    have hdiscards : (file.Refused w.files ∨
        ∃ data fault, file.Accepted w.files print? data ∧ parse data = .error fault) ↔
          state.isDiscarded parse = true := by
      simp only [accepted_iff_data? hstate, refused_iff_isRefused hstate]
      exact SnapshotState.isDiscarded_iff.symm
    refine .of_returns houtcome (not_stuck hstate) (fun a => ?_)
      (fun h => hdeleted (hdiscards.1 h)) fun h => hkept (Bool.eq_false_iff.2 (mt hdiscards.2 h))
    simp only [accepted_iff_data? hstate]
    exact SnapshotState.value?_eq_some_iff.symm

end

end SnapshotFile

/-! ## Data of the wrong shape -/

/-- The faults of data that do not have the shape of an index or of mappings. -/
def shapeFaults : List Fault :=
  [.wrongType, .missingPart, .missingKey "module_name", .missingKey "mapper_path",
    .missingKey "namespace", .missingKey "statement_id", .missingKey "table_name"]

namespace EndsOnlyIn

theorem foldlM {ε α β : Type} {errors : List ε} {f : β → α → Except ε β}
    (hf : ∀ b a, EndsOnlyIn errors (f b a)) (items : List α) (start : β) :
    EndsOnlyIn errors (items.foldlM f start) := by
  induction items generalizing start with
  | nil => exact ok start
  | cons item items ih => exact bind (hf start item) ih

theorem required {key : String} (hkey : .missingKey key ∈ shapeFaults) (record : Json) :
    EndsOnlyIn shapeFaults (record.required key) := by
  unfold Json.required
  split
  · split
    · exact ok _
    · exact error hkey
  · exact error (by simp [shapeFaults])

theorem items (value : Json) : EndsOnlyIn shapeFaults value.items := by
  unfold Json.items
  split
  case h_5 => exact error (by simp [shapeFaults])
  all_goals exact ok _

end EndsOnlyIn

theorem TableIndex.endsOnlyIn_ofJson (data : Json) : EndsOnlyIn shapeFaults (ofJson data) := by
  have hrecord (record : Json) : EndsOnlyIn shapeFaults (Statement.ofRecord record) := by
    refine .bind (.required (by simp [shapeFaults]) record) fun _ => ?_
    refine .bind (.required (by simp [shapeFaults]) record) fun _ => ?_
    refine .bind (.required (by simp [shapeFaults]) record) fun _ => ?_
    exact .bind (.required (by simp [shapeFaults]) record) fun _ => .ok _
  unfold ofJson
  split
  · refine .mapM fun field _ => .bind (.items field.2) fun records => ?_
    exact .bind (.mapM fun record _ => hrecord record) fun _ => .ok _
  · exact .error (by simp [shapeFaults])

theorem RepositoryMappings.endsOnlyIn_ofJson (data : Json) :
    EndsOnlyIn shapeFaults (ofJson data) := by
  have hlist (record : Json) (key : String) :
      EndsOnlyIn shapeFaults (TableMapping.listField record key) := by
    unfold TableMapping.listField
    split
    · exact .items _
    · exact .ok _
  have hrecord (record : Json) : EndsOnlyIn shapeFaults (TableMapping.ofRecord record) := by
    refine .bind (.required (by simp [shapeFaults]) record) fun _ => ?_
    refine .bind (hlist record _) fun _ => .bind (hlist record _) fun _ => ?_
    exact .bind (hlist record _) fun _ => .ok _
  refine .bind (.items data) fun records => .bind (.mapM fun record _ => hrecord record) fun _ => ?_
  refine .foldlM (fun mappings mapping => ?_) _ _
  unfold put
  split
  · exact .ok _
  · exact .error (by simp [shapeFaults])

namespace SnapshotFile

/-- What cannot be read has the wrong shape. -/
theorem loadAs_settles_of_shape (file : SnapshotFile) {parse : Json → Except Fault α}
    (hparse : ∀ data, EndsOnlyIn shapeFaults (parse data)) (title : String) (loaded : α → String)
    (print? : Option String) (w : Workspace) :
    (file.loadAs parse title loaded (printJson print?)).Settles w file.path (file.Stuck w.files)
      (fun a => ∃ data, file.Accepted w.files print? data ∧ parse data = .ok a)
      (file.Refused w.files ∨ ∃ data, file.Accepted w.files print? data ∧
        ∃ fault ∈ shapeFaults, parse data = .error fault) := by
  have hshape (data : Json) : (∃ fault ∈ shapeFaults, parse data = .error fault) ↔
      ∃ fault, parse data = .error fault :=
    ⟨fun ⟨fault, _, herror⟩ => ⟨fault, herror⟩,
      fun ⟨fault, herror⟩ => ⟨fault, hparse data fault herror, herror⟩⟩
  simp only [hshape, ← exists_and_left]
  exact file.loadAs_settles parse title loaded print? w

/-- Whatever is in the place of a snapshot, loading it settles. Data are found if and only if they
are accepted, and the file is deleted if and only if it is refused or its data have the wrong shape.
Loading stops only where the path cannot be asked about or the text has a run of too many digits. -/
theorem loading_settles (file : SnapshotFile) (print? : Option String) (w : Workspace) :
    (file.load (printJson print?)).Settles w file.path (file.Stuck w.files)
      (file.Accepted w.files print?) (file.Refused w.files) ∧
    (TableIndex.loadCached file (printJson print?)).Settles w file.path (file.Stuck w.files)
      (fun index => ∃ data, file.Accepted w.files print? data ∧ TableIndex.ofJson data = .ok index)
      (file.Refused w.files ∨ ∃ data, file.Accepted w.files print? data ∧
        ∃ fault ∈ shapeFaults, TableIndex.ofJson data = .error fault) ∧
    (Repository.loadCached file (printJson print?)).Settles w file.path (file.Stuck w.files)
      (fun mappings => ∃ data, file.Accepted w.files print? data ∧
        RepositoryMappings.ofJson data = .ok mappings)
      (file.Refused w.files ∨ ∃ data, file.Accepted w.files print? data ∧
        ∃ fault ∈ shapeFaults, RepositoryMappings.ofJson data = .error fault) ∧
    (file.Stuck w.files → (∃ e, w.files.existsAt file.path = .error e) ∨
      ∃ text, file.HasText w.files text ∧ Json.HasLongRun text) := by
  refine ⟨file.load_settles print? w,
    file.loadAs_settles_of_shape TableIndex.endsOnlyIn_ofJson _ _ print? w,
    file.loadAs_settles_of_shape RepositoryMappings.endsOnlyIn_ofJson _ _ print? w, ?_⟩
  exact Or.imp_right fun ⟨text, htext, hlong⟩ => ⟨text, htext, Json.hasLongRun_of_read hlong⟩

/-! ## An integer of too many digits -/

def longNumber : List Char :=
  List.replicate (Text.maxIntegerDigits + 1) '1'

/-- A snapshot in the home folder. -/
def homeFile : SnapshotFile :=
  ⟨.ofText "snapshot.json", "table_index", true, "table_impact.cache"⟩

/-- A workspace where it holds a long number. -/
def overLongNumber : Workspace where
  files := {
    tree := .folder [("home", .folder [("snapshot.json", .file (Utf8.encode longNumber) 0)])]
    home := ["home"] }

/-- Loading stops at a file that is there. -/
theorem load_stops_overLongNumber :
    homeFile.HasText overLongNumber.files longNumber ∧
    ∃ fault, ((homeFile.load (printJson none)).outcome overLongNumber).1 = .error fault := by
  have htext : homeFile.HasText overLongNumber.files longNumber :=
    ⟨Utf8.encode longNumber, rfl, Utf8.decode?_encode _⟩
  have hread : Json.read longNumber = .error .longInteger := by
    refine Json.read_of_long (fun c hc => ?_) ?_ ?_
    · rw [List.eq_of_mem_replicate hc]
      decide
    · simp [longNumber, List.head?_replicate]
    · simp [longNumber]
  exact ⟨htext, (homeFile.load_settles none overLongNumber).stops_iff.2 (.inr ⟨_, htext, hread⟩)⟩

end SnapshotFile

end Ripple
