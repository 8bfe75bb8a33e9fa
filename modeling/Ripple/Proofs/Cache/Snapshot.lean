-- SUMMARY: How snapshots are judged by fingerprint and completeness, and why a broken one is never used.
import Ripple.Cache.Snapshot
import Ripple.Proofs.Json.Cut
import Ripple.Proofs.Text.Utf8
import Ripple.Proofs.Workspace

/-!
# What a snapshot is found to be

A snapshot that was written to its end is judged by its fingerprint and by whether it is complete.
One whose write broke off is never used.
-/

namespace Ripple

/-- The data that are used. -/
def SnapshotState.data? : SnapshotState → Option Json
  | .usable data => some data
  | _ => none

/-- What is used, as it is read. -/
def SnapshotState.value? (parse : Json → Except Fault α) (state : SnapshotState) : Option α :=
  state.data?.bind fun data => (parse data).toOption

/-- What is deleted: what is no JSON or no snapshot of the right kind. -/
def SnapshotState.isRefused : SnapshotState → Bool
  | .corrupted | .foreign => true
  | _ => false

/-- What is deleted where the data are read as something: also data that cannot be. -/
def SnapshotState.isDiscarded (parse : Json → Except Fault α) (state : SnapshotState) : Bool :=
  state.isRefused || state.data?.any fun data => !(parse data).isOk

namespace SnapshotFile

/-- The bytes of a snapshot. -/
def bytesOf (file : SnapshotFile) (data fingerprint complete : Json) : Bytes :=
  Utf8.encode (Json.render .line (envelope file.kind data fingerprint complete)).toList

theorem bytesOf_eq_encode (file : SnapshotFile) (data fingerprint complete : Json) :
    file.bytesOf data fingerprint complete =
      Utf8.encode (Json.renderAt .line 0 (envelope file.kind data fingerprint complete)) := by
  rw [bytesOf, Json.render, String.toList_ofList]

theorem plain_envelope (kind : String) {data : Json} (hdata : data.Plain) (fingerprint : String)
    (complete : Bool) : (envelope kind data (.str fingerprint) (.bool complete)).Plain := by
  refine .obj (by simp) ?_
  intro field hfield
  simp only [List.mem_cons, List.not_mem_nil, or_false] at hfield
  obtain rfl | rfl | rfl | rfl | rfl := hfield
  · exact .str kind
  · exact .int (show (Nat.toDigits 10 1).length ≤ Text.maxIntegerDigits by decide)
  · exact .str fingerprint
  · exact .bool complete
  · exact hdata

section
variable {file : SnapshotFile} {files : Disk} {data : Json} {stored : String} {complete : Bool}

/-- What a snapshot is worth where it has to match. -/
theorem judge_envelope (hstrict : file.strict = true) (data : Json) (stored wanted : String)
    (complete : Bool) :
    file.judge (.str wanted) (envelope file.kind data (.str stored) (.bool complete)) =
      if data.isEmpty then .hollow
      else if !complete then .incomplete
      else if stored = wanted then .usable data
      else .outdated := by
  simp [judge, envelope, Json.field?, Json.beq_str, hstrict, Json.isEmpty]

/-- A snapshot that can be judged can be read. -/
theorem read_of_state {wanted : Json} {state : SnapshotState}
    (hstate : file.state files wanted = .ok state) (habsent : state ≠ .absent)
    (hunreadable : state ≠ .unreadable) : ∃ bytes, files.read file.path = .ok bytes := by
  unfold SnapshotFile.state at hstate
  cases hread : files.read file.path with
  | ok bytes => exact ⟨bytes, rfl⟩
  | error e =>
    rw [hread] at hstate
    split at hstate
    · cases hstate
    · cases hstate
      exact absurd rfl habsent
    · cases hstate
      exact absurd rfl hunreadable

theorem state_of_absent (h : files.existsAt file.path = .ok false) (wanted : Json) :
    file.state files wanted = .ok .absent := by
  unfold state
  rw [h]

theorem read_of_data? {wanted : Json} {state : SnapshotState}
    (hstate : file.state files wanted = .ok state) {found : Json}
    (hfound : state.data? = some found) : ∃ bytes, files.read file.path = .ok bytes := by
  refine read_of_state hstate ?_ ?_
  · rintro rfl
    cases hfound
  · rintro rfl
    cases hfound

/-- A snapshot that was written to its end. -/
theorem state_whole (hdata : data.Plain) (hstrict : file.strict = true)
    (hread : files.read file.path = .ok (file.bytesOf data (.str stored) (.bool complete)))
    (wanted : String) :
    file.state files (.str wanted) = .ok (
      if data.isEmpty then .hollow
      else if !complete then .incomplete
      else if stored = wanted then .usable data
      else .outdated) := by
  have hplain := plain_envelope file.kind hdata stored complete
  unfold state
  rw [Disk.existsAt_of_read hread, hread]
  simp only [bytesOf_eq_encode, Utf8.decode?_encode,
    Json.read_render Json.Layout.line_isPlain hplain, judge_envelope hstrict]

/-- A snapshot whose write broke off. -/
theorem state_cut (hdata : data.Plain) {kept : Nat}
    (hkept : kept < (file.bytesOf data (.str stored) (.bool complete)).length)
    (hread : files.read file.path =
      .ok ((file.bytesOf data (.str stored) (.bool complete)).take kept)) (wanted : Json) :
    file.state files wanted = .ok .corrupted := by
  have hplain := plain_envelope file.kind hdata stored complete
  unfold state
  rw [Disk.existsAt_of_read hread, hread]
  simp only [bytesOf_eq_encode] at hkept ⊢
  cases hdecode : Utf8.decode? ((Utf8.encode (Json.renderAt .line 0
      (envelope file.kind data (.str stored) (.bool complete)))).take kept) with
  | none => rfl
  | some found =>
    -- The cut is between two characters, so the text breaks off too.
    obtain ⟨hbegins, hbytes⟩ := Utf8.decode?_take_encode hdecode
    have hcut : Text.IsCut found (Json.renderAt .line 0
        (envelope file.kind data (.str stored) (.bool complete))) := by
      refine ⟨hbegins, ?_⟩
      rintro rfl
      have hlength := congrArg List.length hbytes
      rw [List.length_take] at hlength
      omega
    simp only [Json.read_cut_obj Json.Layout.line_isPlain hplain hcut]

/-- Of what a write may leave of a snapshot, only the whole is used, and that only if it is complete
and has the right fingerprint. -/
theorem data?_of_take (hdata : data.Plain) (hstrict : file.strict = true) {kept : Nat}
    (hread : files.read file.path =
      .ok ((file.bytesOf data (.str stored) (.bool complete)).take kept)) {wanted : String}
    {state : SnapshotState} (hstate : file.state files (.str wanted) = .ok state) {found : Json}
    (hfound : state.data? = some found) :
    found = data ∧ data.isEmpty = false ∧ stored = wanted ∧ complete = true ∧
      files.read file.path = .ok (file.bytesOf data (.str stored) (.bool complete)) := by
  by_cases hkept : kept < (file.bytesOf data (.str stored) (.bool complete)).length
  · rw [state_cut hdata hkept hread] at hstate
    cases hstate
    cases hfound
  · rw [List.take_of_length_le (Nat.le_of_not_lt hkept)] at hread
    rw [state_whole hdata hstrict hread] at hstate
    cases hstate
    split at hfound
    · cases hfound
    · rename_i hempty
      split at hfound
      · cases hfound
      · rename_i hcomplete
        split at hfound
        · rename_i hstored
          cases hfound
          exact ⟨rfl, by simpa using hempty, hstored, by simpa using hcomplete, hread⟩
        · cases hfound

end

/-! ## Loading and saving -/

section
variable (file : SnapshotFile)

@[simp]
theorem outcome_log (severity : Severity) (text : String) (w : Workspace) :
    (file.log severity text).outcome w =
      (.ok (), { w with journal := w.journal ++ [⟨severity, file.journal, text⟩] }) := rfl

theorem log_touches {place : Path} {allowed : Bytes → Prop} {severity : Severity} {text : String} :
    (file.log severity text).Touches place allowed :=
  .log

theorem delete_touches {allowed : Bytes → Prop} : file.delete.Touches file.path allowed := by
  refine .bind (.delete file.path) fun result => ?_
  split
  · exact .pure ()
  · exact .pure ()
  · exact .throw _
  · exact file.log_touches

theorem load_touches (fingerprint : Json) {allowed : Bytes → Prop} :
    (file.load fingerprint).Touches file.path allowed := by
  refine .bind .files fun files => .bind (.ofExcept _) fun state => ?_
  cases state with
  | absent => exact .bind file.log_touches fun _ => .pure _
  | unreadable => exact .bind file.log_touches fun _ => .pure _
  | corrupted =>
    exact .bind file.log_touches fun _ => .bind file.delete_touches fun _ => .pure _
  | «foreign» =>
    exact .bind file.log_touches fun _ => .bind file.delete_touches fun _ => .pure _
  | hollow => exact .pure _
  | incomplete => exact .bind file.log_touches fun _ => .pure _
  | outdated => exact .bind file.log_touches fun _ => .pure _
  | usable data => exact .bind file.log_touches fun _ => .pure _

variable {w : Workspace} {print : Json} {state : SnapshotState}

/-- What is reported and deleted is not used. A file that can be read can be deleted. -/
theorem outcome_discard {bytes : Bytes} (h : w.files.read file.path = .ok bytes)
    (severity : Severity) (text : String) :
    ∃ w', (do file.log severity text; file.delete; return none : Work (Option α)).outcome w =
      (.ok none, w') ∧ w.files.delete file.path = .ok w'.files := by
  obtain ⟨files, hdelete⟩ := Disk.delete_of_read h
  rw [Work.outcome_bind_ok (file.outcome_log severity text w)]
  unfold SnapshotFile.delete
  rw [Work.outcome_bind, Work.outcome_bind, Work.outcome_tryChange, hdelete]
  exact ⟨_, rfl, rfl⟩

theorem outcome_load_stuck {fault : Fault} (h : file.state w.files print = .error fault) :
    (file.load print).outcome w = (.error fault, w) := by
  unfold load
  rw [Work.outcome_bind_ok (Work.outcome_files w), h]
  exact Work.outcome_bind_error (Work.outcome_ofExcept_error fault w) _

/-- What is judged is used or not, and deleted if it is refused. -/
theorem outcome_load (h : file.state w.files print = .ok state) :
    ∃ w', (file.load print).outcome w = (.ok state.data?, w') ∧
      (state.isRefused = true → w.files.delete file.path = .ok w'.files) ∧
      (state.isRefused = false → w'.files = w.files) := by
  unfold load
  rw [Work.outcome_bind_ok (Work.outcome_files w), h,
    Work.outcome_bind_ok (Work.outcome_ofExcept_ok state w)]
  cases state with
  | absent | unreadable | hollow | incomplete | outdated | usable =>
    exact ⟨_, rfl, nofun, fun _ => rfl⟩
  | corrupted | «foreign» =>
    -- Only what could be read is refused, so it can be deleted.
    obtain ⟨bytes, hread⟩ := read_of_state h nofun nofun
    obtain ⟨w', hdiscard, hfiles⟩ := file.outcome_discard hread .error _
    exact ⟨w', hdiscard, fun _ => hfiles, nofun⟩

section
variable {α : Type} (parse : Json → Except Fault α) (title : String) (loaded : α → String)

theorem loadAs_touches (print : Json) {allowed : Bytes → Prop} :
    (file.loadAs parse title loaded print).Touches file.path allowed := by
  refine .bind (file.load_touches print) fun data? => ?_
  cases data? with
  | none => exact .pure none
  | some data =>
    simp only
    cases parse data with
    | error fault =>
      exact .bind file.log_touches fun _ => .bind file.delete_touches fun _ => .pure none
    | ok value => exact .bind file.log_touches fun _ => .pure (some value)

theorem outcome_loadAs_stuck {fault : Fault} (h : file.state w.files print = .error fault) :
    (file.loadAs parse title loaded print).outcome w = (.error fault, w) :=
  Work.outcome_bind_error (file.outcome_load_stuck h) _

/-- What is loaded is what the snapshot is used for. It is left, or deleted if it is not used. -/
theorem outcome_loadAs (h : file.state w.files print = .ok state) :
    ∃ w', (file.loadAs parse title loaded print).outcome w = (.ok (state.value? parse), w') ∧
      (state.isDiscarded parse = true → w.files.delete file.path = .ok w'.files) ∧
      (state.isDiscarded parse = false → w'.files = w.files) := by
  obtain ⟨w₁, hload, hdeleted, hkept⟩ := file.outcome_load h
  unfold loadAs SnapshotState.value? SnapshotState.isDiscarded
  rw [Work.outcome_bind_ok hload]
  cases hdata : state.data? with
  | none => exact ⟨w₁, rfl, by simpa using hdeleted, by simpa using hkept⟩
  | some data =>
    -- Data that are used are still there, so they are deleted here or not at all.
    have hused : state.isRefused = false := by
      cases state with
      | usable => rfl
      | _ => cases hdata
    have hfiles := hkept hused
    simp only [hused, Bool.false_or, Option.any_some, Option.bind_some]
    cases parse data with
    | error fault =>
      obtain ⟨bytes, hread⟩ := read_of_data? h hdata
      rw [← hfiles] at hread ⊢
      obtain ⟨w₂, hdiscard, hdelete⟩ := file.outcome_discard hread .error _
      exact ⟨w₂, hdiscard, fun _ => hdelete, nofun⟩
    | ok value => exact ⟨_, rfl, nofun, fun _ => hfiles⟩

variable {file parse title loaded} in
theorem loadAs_eq_ok {w' : Workspace} {found : Option α}
    (h : (file.loadAs parse title loaded print).outcome w = (.ok found, w')) :
    ∃ state, file.state w.files print = .ok state ∧ found = state.value? parse := by
  cases hstate : file.state w.files print with
  | error fault => cases h.symm.trans (file.outcome_loadAs_stuck parse title loaded hstate)
  | ok state =>
    obtain ⟨w₁, hload, -⟩ := file.outcome_loadAs parse title loaded hstate
    cases h.symm.trans hload
    exact ⟨state, rfl, rfl⟩

end

/-- Saving leaves a beginning of the snapshot, if it changes anything. -/
theorem save_touches (data fingerprint complete : Json) :
    (file.save data fingerprint complete).Touches file.path fun bytes =>
      ∃ kept, bytes = (file.bytesOf data fingerprint complete).take kept := by
  rw [bytesOf_eq_encode]
  refine .bind (.writeFile file.path fun kept => ⟨kept, rfl⟩) fun result => ?_
  cases result with
  | ok u => exact .pure _
  | error e => exact .bind file.log_touches fun _ => .pure _

/-- Saving never ends in a fault. -/
theorem save_returns (data fingerprint complete : Json) :
    (file.save data fingerprint complete).Returns := by
  refine .bind (.writeFile file.path _) fun result => ?_
  cases result with
  | ok u => exact .pure _
  | error e => exact .bind .log fun _ => .pure _

end

/-! ## Remnants -/

/-- What may be left of snapshots with a fingerprint: a beginning of one of them. What is marked as
complete is the `whole`. -/
def IsRemnant (file : SnapshotFile) (fingerprint : String) (whole : Json → Prop) (bytes : Bytes) :
    Prop :=
  ∃ (data : Json) (complete : Bool) (kept : Nat), data.Plain ∧ (complete = true → whole data) ∧
    bytes = (file.bytesOf data (.str fingerprint) (.bool complete)).take kept

section
variable {file : SnapshotFile} {fingerprint : String} {whole : Json → Prop}

theorem save_leaves (file : SnapshotFile) (fingerprint : String) {data : Json}
    (hdata : data.Plain) (complete : Bool) (hcomplete : complete = true → whole data) :
    (file.save data (.str fingerprint) (.bool complete)).Touches file.path
      (file.IsRemnant fingerprint whole) := by
  refine (file.save_touches data (.str fingerprint) (.bool complete)).mono ?_
  rintro bytes ⟨kept, hbytes⟩
  exact ⟨data, complete, kept, hdata, hcomplete, hbytes⟩

theorem save_spec (file : SnapshotFile) (fingerprint : String) {data : Json} (hdata : data.Plain)
    (complete : Bool) (hcomplete : complete = true → whole data) (w : Workspace) :
    ∃ saved w', (file.save data (.str fingerprint) (.bool complete)).outcome w = (.ok saved, w') ∧
      w.Touches file.path (file.IsRemnant fingerprint whole) w' := by
  obtain ⟨saved, w', hsave⟩ := file.save_returns data (.str fingerprint) (.bool complete) w
  have htouch := file.save_leaves fingerprint hdata complete hcomplete w
  rw [hsave] at htouch
  exact ⟨saved, w', hsave, htouch⟩

/-- A remnant can be judged. -/
theorem IsRemnant.exists_state {bytes : Bytes} (h : file.IsRemnant fingerprint whole bytes)
    (hstrict : file.strict = true) {files : Disk} (hread : files.read file.path = .ok bytes)
    (wanted : String) : ∃ state, file.state files (.str wanted) = .ok state := by
  obtain ⟨data, complete, kept, hplain, -, rfl⟩ := h
  by_cases hkept : kept < (file.bytesOf data (.str fingerprint) (.bool complete)).length
  · exact ⟨_, state_cut hplain hkept hread _⟩
  · rw [List.take_of_length_le (Nat.not_lt.1 hkept)] at hread
    exact ⟨_, state_whole hplain hstrict hread wanted⟩

/-- What is used of a remnant is the whole. -/
theorem IsRemnant.whole_of_used {bytes : Bytes} (h : file.IsRemnant fingerprint whole bytes)
    (hstrict : file.strict = true) {files : Disk} (hread : files.read file.path = .ok bytes)
    {wanted : String} {state : SnapshotState} (hstate : file.state files (.str wanted) = .ok state)
    {data : Json} (hdata : state.data? = some data) :
    whole data ∧ data.isEmpty = false ∧ fingerprint = wanted ∧
      files.read file.path = .ok (file.bytesOf data (.str wanted) (.bool true)) := by
  obtain ⟨stored, complete, kept, hplain, hcomplete, rfl⟩ := h
  obtain ⟨rfl, hempty, rfl, rfl, hread⟩ := data?_of_take hplain hstrict hread hstate hdata
  exact ⟨hcomplete rfl, hempty, rfl, hread⟩

theorem judge_ne_corrupted (file : SnapshotFile) (wanted value : Json) :
    file.judge wanted value ≠ .corrupted := by
  unfold judge
  repeat' split
  all_goals nofun

/-- What is left of a snapshot of another kind is of no use. -/
theorem IsRemnant.data?_of_kind {other : SnapshotFile} {bytes : Bytes}
    (h : other.IsRemnant fingerprint whole bytes) (hkind : other.kind ≠ file.kind) {files : Disk}
    (hread : files.read file.path = .ok bytes) {wanted : Json} {state : SnapshotState}
    (hstate : file.state files wanted = .ok state) : state.data? = none := by
  obtain ⟨data, complete, kept, hplain, -, rfl⟩ := h
  by_cases hkept : kept < (other.bytesOf data (.str fingerprint) (.bool complete)).length
  · -- Where the text breaks off is seen before the kind is.
    have hcut : SnapshotFile.state { file with kind := other.kind } files wanted = .ok .corrupted := by
      have hkept : kept < (bytesOf { file with kind := other.kind } data (.str fingerprint)
        (.bool complete)).length := hkept
      exact state_cut hplain hkept hread wanted
    unfold SnapshotFile.state at hcut hstate
    rw [Disk.existsAt_of_read hread] at hcut hstate
    simp only [hread] at hcut hstate
    split at hstate
    · cases hstate
      rfl
    · rename_i text hdecode
      simp only [hdecode] at hcut
      split at hstate
      · cases hstate
        rfl
      · cases hstate
      · rename_i value hvalue
        simp only [hvalue, Except.ok.injEq] at hcut
        exact absurd hcut (judge_ne_corrupted _ _ _)
  · rw [List.take_of_length_le (Nat.not_lt.1 hkept), bytesOf_eq_encode] at hread
    have hwhole := plain_envelope other.kind hplain fingerprint complete
    unfold SnapshotFile.state at hstate
    rw [Disk.existsAt_of_read hread, hread] at hstate
    simp only [Utf8.decode?_encode, Json.read_render Json.Layout.line_isPlain hwhole] at hstate
    cases hstate
    simp [judge, envelope, Json.field?, Json.beq_str, hkind, SnapshotState.data?]

end

end SnapshotFile

end Ripple
