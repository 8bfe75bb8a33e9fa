-- SUMMARY: What operations on the workspace give and leave, most of all which files stay as they are.
import Ripple.Workspace
import Ripple.Proofs.Files.Disk

/-! # Operations on the workspace

What an operation gives and what it leaves. Most operations leave everything as it is but one file.
-/

namespace Ripple

variable {α β : Type}

namespace Work

/-- What an operation gives in a workspace, and the workspace that it leaves. -/
def outcome (work : Work α) (w : Workspace) : Except Fault α × Workspace :=
  work.run.run w

@[simp]
theorem outcome_pure (a : α) (w : Workspace) : (pure a : Work α).outcome w = (.ok a, w) := rfl

@[simp]
theorem outcome_throw (fault : Fault) (w : Workspace) :
    (throw fault : Work α).outcome w = (.error fault, w) := rfl

theorem outcome_bind (work : Work α) (next : α → Work β) (w : Workspace) :
    (work >>= next).outcome w = match work.outcome w with
      | (.ok a, w') => (next a).outcome w'
      | (.error fault, w') => (.error fault, w') := by
  rcases h : work.outcome w with ⟨result, w'⟩
  unfold outcome at h ⊢
  rw [ExceptT.run_bind, StateT.run_bind, h]
  cases result <;> rfl

/-- An operation that succeeds, with what comes next. -/
theorem outcome_bind_ok {work : Work α} {w w' : Workspace} {a : α}
    (h : work.outcome w = (.ok a, w')) (next : α → Work β) :
    (work >>= next).outcome w = (next a).outcome w' := by
  rw [outcome_bind, h]

theorem outcome_bind_error {work : Work α} {w w' : Workspace} {fault : Fault}
    (h : work.outcome w = (.error fault, w')) (next : α → Work β) :
    (work >>= next).outcome w = (.error fault, w') := by
  rw [outcome_bind, h]

/-- Of an operation that succeeds both parts succeed. -/
theorem outcome_bind_eq_ok {work : Work α} {next : α → Work β} {w w' : Workspace} {b : β}
    (h : (work >>= next).outcome w = (.ok b, w')) :
    ∃ a w₁, work.outcome w = (.ok a, w₁) ∧ (next a).outcome w₁ = (.ok b, w') := by
  rcases hwork : work.outcome w with ⟨result, w₁⟩
  cases result with
  | error fault =>
    rw [outcome_bind_error hwork] at h
    cases h
  | ok a =>
    rw [outcome_bind_ok hwork] at h
    exact ⟨a, w₁, rfl, h⟩

@[simp]
theorem outcome_report (messages : List Message) (w : Workspace) :
    (report messages).outcome w = (.ok (), { w with journal := w.journal ++ messages }) := rfl

@[simp]
theorem outcome_log (severity : Severity) (source text : String) (w : Workspace) :
    (log severity source text).outcome w =
      (.ok (), { w with journal := w.journal ++ [⟨severity, source, text⟩] }) := rfl

@[simp]
theorem outcome_files (w : Workspace) : files.outcome w = (.ok w.files, w) := rfl

@[simp]
theorem outcome_ofExcept_ok (a : α) (w : Workspace) :
    (ofExcept (.ok a)).outcome w = (.ok a, w) := rfl

@[simp]
theorem outcome_ofExcept_error (fault : Fault) (w : Workspace) :
    (ofExcept (.error fault) : Work α).outcome w = (.error fault, w) := rfl

@[simp]
theorem outcome_attempt (work : Work α) (w : Workspace) :
    (attempt work).outcome w = (.ok (work.outcome w).1, (work.outcome w).2) := rfl

/-- What comes next after an attempt, whatever became of it. -/
theorem outcome_bind_attempt {work : Work α} {w w' : Workspace} {result : Except Fault α}
    (h : work.outcome w = (result, w')) (next : Except Fault α → Work β) :
    (attempt work >>= next).outcome w = (next result).outcome w' := by
  rw [outcome_bind, outcome_attempt, h]

/-- A change of the files that fails changes nothing. -/
theorem outcome_tryChange (change : Disk → Except FileError Disk) (w : Workspace) :
    (tryChange change).outcome w = match change w.files with
      | .ok changed => (.ok (.ok ()), { w with files := changed })
      | .error e => (.ok (.error e), w) := by
  unfold tryChange
  rw [outcome_bind_ok (outcome_files w)]
  cases change w.files <;> rfl

theorem outcome_makeFolders (path : Path) (w : Workspace) :
    (makeFolders path).outcome w =
      (.ok (w.files.makeFolders path).2, { w with files := (w.files.makeFolders path).1 }) := rfl

theorem outcome_nextFate (w : Workspace) :
    nextFate.outcome w =
      (.ok (w.fates 0), { w with fates := fun number => w.fates (number + 1) }) := rfl

theorem outcome_isCancelled (w : Workspace) :
    isCancelled.outcome w = match w.signal with
      | none => (.ok false, w)
      | some 0 => (.ok true, w)
      | some (n + 1) => (.ok false, { w with signal := some n }) := by
  have hget : (get : Work Workspace).outcome w = (.ok w, w) := rfl
  unfold isCancelled
  rw [outcome_bind_ok hget]
  cases w.signal with
  | none => rfl
  | some n => cases n <;> rfl

/-- Asking the signal has an answer and changes no file. Without a signal the answer is no, however
often it is asked. -/
theorem isCancelled_spec (w : Workspace) :
    ∃ cancelled w', isCancelled.outcome w = (.ok cancelled, w') ∧ w'.files = w.files ∧
      (w.signal = none → cancelled = false ∧ w'.signal = none) := by
  rw [outcome_isCancelled]
  split
  · exact ⟨false, w, rfl, rfl, fun h => ⟨rfl, h⟩⟩
  · rename_i hsignal
    exact ⟨true, w, rfl, rfl, fun h => by rw [hsignal] at h; cases h⟩
  · rename_i hsignal
    exact ⟨false, _, rfl, rfl, fun h => by rw [hsignal] at h; cases h⟩

/-- An operation that never ends in a fault. -/
def Returns (work : Work α) : Prop :=
  ∀ w, ∃ a w', work.outcome w = (.ok a, w')

namespace Returns

theorem pure (a : α) : (pure a : Work α).Returns :=
  fun w => ⟨a, w, rfl⟩

theorem bind {work : Work α} {next : α → Work β} (h : work.Returns)
    (hnext : ∀ a, (next a).Returns) : (work >>= next).Returns := by
  intro w
  obtain ⟨a, w₁, hwork⟩ := h w
  rw [outcome_bind_ok hwork]
  exact hnext a w₁

theorem log {severity : Severity} {source text : String} : (log severity source text).Returns :=
  fun w => ⟨_, _, outcome_log severity source text w⟩

theorem tryChange (change : Disk → Except FileError Disk) : (tryChange change).Returns := by
  intro w
  rw [outcome_tryChange]
  split <;> exact ⟨_, _, rfl⟩

/-- A write that fails is a result, not a fault. -/
theorem writeFile (path : Path) (content : Bytes) : (writeFile path content).Returns := by
  refine .bind (fun w => ⟨_, _, outcome_makeFolders path.parent w⟩) fun result => ?_
  cases result with
  | error e => exact .pure _
  | ok u =>
    refine .bind (fun w => ⟨_, _, outcome_nextFate w⟩) fun fate => ?_
    cases fate with
    | done => exact .tryChange _
    | brokenOff kept =>
      cases kept with
      | none => exact .pure _
      | some kept => exact .bind (.tryChange _) fun _ => .pure _

end Returns

/-- A write that succeeds leaves the file with its content. -/
theorem outcome_writeFile_ok {path : Path} {content : Bytes} {w : Workspace}
    (h : ((writeFile path content).outcome w).1 = .ok (.ok ())) :
    ∃ w', (writeFile path content).outcome w = (.ok (.ok ()), w') ∧
      w'.files.Holds path content := by
  unfold writeFile at h ⊢
  rw [outcome_bind_ok (outcome_makeFolders path.parent w)] at h ⊢
  generalize (w.files.makeFolders path.parent).2 = made at h ⊢
  cases made with
  | error e => cases h
  | ok u =>
    dsimp only at h ⊢
    rw [outcome_bind_ok (outcome_nextFate _)] at h ⊢
    dsimp only at h ⊢
    generalize w.fates 0 = fate at h ⊢
    cases fate with
    | done =>
      dsimp only at h ⊢
      rw [outcome_tryChange] at h ⊢
      split at h
      · rename_i changed hchange
        exact ⟨_, rfl, Disk.holds_write hchange⟩
      · cases h
    | brokenOff kept =>
      cases kept with
      | none => cases h
      | some kept =>
        obtain ⟨result, w', hresult⟩ := Returns.tryChange (·.write path (content.take kept) 0)
          { w with
            files := (w.files.makeFolders path.parent).1
            fates := fun number => w.fates (number + 1) }
        dsimp only at h
        rw [outcome_bind_ok hresult] at h
        cases h

/-- What becomes of a write does not hang on the journal. -/
theorem writeFile_journal (path : Path) (content : Bytes) (w : Workspace) (journal : List Message) :
    ((writeFile path content).outcome { w with journal }).1 =
      ((writeFile path content).outcome w).1 := by
  unfold writeFile
  rw [outcome_bind_ok (outcome_makeFolders path.parent w),
    outcome_bind_ok (outcome_makeFolders path.parent { w with journal })]
  dsimp only
  cases (w.files.makeFolders path.parent).2 with
  | error e => rfl
  | ok u =>
    dsimp only
    rw [outcome_bind_ok (outcome_nextFate _), outcome_bind_ok (outcome_nextFate _)]
    dsimp only
    cases w.fates 0 with
    | done =>
      dsimp only
      rw [outcome_tryChange, outcome_tryChange]
      dsimp only
      split <;> rfl
    | brokenOff kept =>
      cases kept with
      | none => rfl
      | some kept =>
        dsimp only
        rw [outcome_bind, outcome_bind, outcome_tryChange, outcome_tryChange]
        dsimp only
        cases (w.files.makeFolders path.parent).1.write path (content.take kept) 0 <;> rfl

/-- An operation that gives nothing but results with a property, if it gives any. -/
def Gives (property : α → Prop) (work : Work α) : Prop :=
  ∀ (w : Workspace) (a : α) (w' : Workspace), work.outcome w = (.ok a, w') → property a

namespace Gives

variable {property : α → Prop}

theorem pure {a : α} (h : property a) : (pure a : Work α).Gives property := by
  intro w b w' hb
  cases hb
  exact h

theorem throw (fault : Fault) : (throw fault : Work α).Gives property := by
  intro w b w' hb
  cases hb

theorem bind {first : β → Prop} {work : Work β} {next : β → Work α} (h : work.Gives first)
    (hnext : ∀ b, first b → (next b).Gives property) : (work >>= next).Gives property := by
  intro w a w' ha
  obtain ⟨b, w₁, hb, ha⟩ := Work.outcome_bind_eq_ok ha
  exact hnext b (h w b w₁ hb) w₁ a w' ha

theorem of_bind {work : Work β} {next : β → Work α} (hnext : ∀ b, (next b).Gives property) :
    (work >>= next).Gives property :=
  bind (fun _ _ _ _ => trivial) fun b (_ : True) => hnext b

end Gives

end Work

/-! ## Frames -/

/-- Nothing has changed but the file at a place, and what is there now was there before or is one of
some contents. A signal that is never given stays so. -/
structure Workspace.Touches (place : Path) (allowed : Bytes → Prop) (w w' : Workspace) : Prop where
  keeps : w.files.KeepsBut [w.files.wayTo place] w'.files
  content (bytes : Bytes) (h : w'.files.contentAt place = some bytes) :
    w.files.contentAt place = some bytes ∨ allowed bytes
  signal : w.signal = none → w'.signal = none

namespace Workspace.Touches

variable {place : Path} {allowed more : Bytes → Prop} {w w' w'' : Workspace}

theorem of_files (hfiles : w'.files = w.files) (hsignal : w.signal = none → w'.signal = none) :
    w.Touches place allowed w' where
  keeps := by
    rw [hfiles]
    exact .refl _ _
  content bytes h := by
    rw [hfiles] at h
    exact .inl h
  signal := hsignal

theorem refl (place : Path) (allowed : Bytes → Prop) (w : Workspace) :
    w.Touches place allowed w :=
  of_files rfl id

theorem trans (h : w.Touches place allowed w') (h' : w'.Touches place allowed w'') :
    w.Touches place allowed w'' where
  keeps := h.keeps.trans (by rw [← h.keeps.wayTo place]; exact h'.keeps)
  content bytes hbytes := (h'.content bytes hbytes).elim (h.content bytes) .inr
  signal hsignal := h'.signal (h.signal hsignal)

theorem mono (h : w.Touches place allowed w') (hmore : ∀ bytes, allowed bytes → more bytes) :
    w.Touches place more w' where
  keeps := h.keeps
  content bytes hbytes := (h.content bytes hbytes).imp_right (hmore bytes)
  signal := h.signal

/-- A file elsewhere is read as before. -/
theorem read (h : w.Touches place allowed w') {path : Path}
    (hne : w.files.wayTo path ≠ w.files.wayTo place) {content : Bytes}
    (hread : w.files.read path = .ok content) : w'.files.read path = .ok content :=
  h.keeps.read (by simpa using hne) hread

theorem contentAt (h : w.Touches place allowed w') {path : Path}
    (hne : w.files.wayTo path ≠ w.files.wayTo place) :
    w'.files.contentAt path = w.files.contentAt path :=
  h.keeps.contentAt (by simpa using hne)

end Workspace.Touches

namespace Work

/-- Whatever becomes of an operation, it changes nothing but the file at a place. -/
def Touches (place : Path) (allowed : Bytes → Prop) (work : Work α) : Prop :=
  ∀ w : Workspace, w.Touches place allowed (work.outcome w).2

namespace Touches

variable {place : Path} {allowed more : Bytes → Prop}

theorem pure (a : α) : (pure a : Work α).Touches place allowed :=
  fun w => .refl place allowed w

theorem throw (fault : Fault) : (throw fault : Work α).Touches place allowed :=
  fun w => .refl place allowed w

/-- One operation after the other, where something is known of the result in between. -/
theorem bind_gives {property : α → Prop} {work : Work α} {next : α → Work β}
    (h : work.Touches place allowed) (hgives : work.Gives property)
    (hnext : ∀ a, property a → (next a).Touches place allowed) :
    (work >>= next).Touches place allowed := by
  intro w
  have hfirst := h w
  rcases hwork : work.outcome w with ⟨result, w'⟩
  rw [hwork] at hfirst
  cases result with
  | error fault =>
    rw [outcome_bind_error hwork]
    exact hfirst
  | ok a =>
    rw [outcome_bind_ok hwork]
    exact hfirst.trans (hnext a (hgives w a w' hwork) w')

theorem bind {work : Work α} {next : α → Work β} (h : work.Touches place allowed)
    (hnext : ∀ a, (next a).Touches place allowed) : (work >>= next).Touches place allowed :=
  h.bind_gives (fun _ _ _ _ => trivial) fun a (_ : True) => hnext a

theorem mono {work : Work α} (h : work.Touches place allowed)
    (hmore : ∀ bytes, allowed bytes → more bytes) : work.Touches place more :=
  fun w => (h w).mono hmore

theorem log {severity : Severity} {source text : String} :
    (log severity source text).Touches place allowed :=
  fun _ => .of_files rfl id

theorem files : files.Touches place allowed :=
  fun w => .refl place allowed w

theorem ofExcept (result : Except Fault α) : (ofExcept result).Touches place allowed := by
  cases result with
  | ok a => exact .pure a
  | error fault => exact .throw fault

theorem isCancelled : isCancelled.Touches place allowed := by
  intro w
  obtain ⟨cancelled, w', hasked, hfiles, hsignal⟩ := isCancelled_spec w
  rw [hasked]
  exact .of_files hfiles fun hnone => (hsignal hnone).2

/-- Deleting a file leaves nothing at its place. -/
theorem delete (path : Path) : (tryChange (·.delete path)).Touches path allowed := by
  intro w
  rw [outcome_tryChange]
  split
  · rename_i changed hdelete
    refine ⟨Disk.keepsBut_delete hdelete, ?_, id⟩
    intro bytes hbytes
    rw [Disk.contentAt_delete hdelete] at hbytes
    cases hbytes
  · exact .refl path allowed w

/-- Making folders changes no file. -/
theorem makeFolders (path : Path) : (makeFolders path).Touches place allowed := by
  intro w
  have hkeeps := w.files.keepsBut_makeFolders path
  refine ⟨hkeeps.mono (List.nil_subset _), ?_, id⟩
  intro bytes hbytes
  rw [outcome_makeFolders, hkeeps.contentAt (List.not_mem_nil)] at hbytes
  exact .inl hbytes

theorem nextFate : nextFate.Touches place allowed :=
  fun _ => .of_files rfl id

theorem write (path : Path) {content : Bytes} (hcontent : allowed content) :
    (tryChange (·.write path content 0)).Touches path allowed := by
  intro w
  rw [outcome_tryChange]
  split
  · rename_i changed hwrite
    refine ⟨Disk.keepsBut_write hwrite, ?_, id⟩
    intro bytes hbytes
    rw [Disk.contentAt_of_read (Disk.read_write hwrite)] at hbytes
    cases hbytes
    exact .inr hcontent
  · exact .refl path allowed w

/-- What a file holds after appending is left open here. -/
theorem append (path : Path) (content : Bytes) :
    (tryChange (·.append path content)).Touches path fun _ => True := by
  intro w
  rw [outcome_tryChange]
  split
  · rename_i changed happend
    obtain ⟨whole, hwrite⟩ := Disk.append_eq_ok happend
    exact ⟨Disk.keepsBut_write hwrite, fun _ _ => .inr trivial, id⟩
  · exact .refl path _ w

/-- Of what is written at least a beginning is there, unless nothing has changed. -/
theorem writeFile (path : Path) {content : Bytes} (hcontent : ∀ kept, allowed (content.take kept)) :
    (writeFile path content).Touches path allowed := by
  refine .bind (.makeFolders _) fun result => ?_
  cases result with
  | error e => exact .pure _
  | ok u =>
    refine .bind .nextFate fun fate => ?_
    cases fate with
    | done =>
      have hwhole := hcontent content.length
      rw [List.take_length] at hwhole
      exact .write path hwhole
    | brokenOff kept =>
      cases kept with
      | none => exact .pure _
      | some kept => exact .bind (.write path (hcontent kept)) fun _ => .pure _

end Touches

end Work

end Ripple
