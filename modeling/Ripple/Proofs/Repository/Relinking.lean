-- SUMMARY: Repeated linkings by one linker, over source files that change, and when their mappings are up to date.
import Ripple.Proofs.Policy.Layers
import Ripple.Proofs.Repository.Linking
import Ripple.Proofs.Settings.Standard

/-!
# Linking anew

One linker links the same index again and again while source files come, change and go. What it has
read of a source file it keeps, and it does not read the file again. So the mappings that it makes
are those of the files as they were when they were first read, and they are saved with the
fingerprint of the files as they are. They are those of a new linker exactly if no file that was
read has lost a statement, or gained one, since then.
-/

namespace Ripple.Repository

/-! ## Entries that tell what is known -/

/-- The entry for a statement of a repository class of which this is known. -/
def entryOf (stem id : String) (known? : Option (Option (List String))) : String :=
  known?.elim ("[N/A]-" ++ stem) fun names =>
    if (names.getD []).contains id then stem ++ "." ++ id else "[N/A]-" ++ stem ++ "." ++ id

theorem resolve_eq_entryOf {s : Statement} (hid : s.statementId ≠ "") (declared : Declared) :
    resolve declared (anchorOf s) = entryOf (anchorOf s).file.stem s.statementId
      (declared.lookup (anchorOf s).file) := by
  have hempty : s.statementId.isEmpty = false := by simpa using hid
  have hjson : (Json.str s.statementId).isEmpty = false := hempty
  unfold resolve entryOf
  cases declared.lookup (anchorOf s).file with
  | none => rfl
  | some names =>
    simp only [Option.elim_some, methodEntry, anchorOf, contains_map_str, Json.shown_str, hjson,
      Name.unresolved, Name.unresolvedMark, hempty, Bool.false_eq_true, if_false]

/-- The names that are known of a source file. -/
def namesOf (known? : Option (Option (List String))) : List String :=
  (known?.getD none).getD []

/-- An entry tells whether the source file is there and whether it declares the statement. -/
theorem entryOf_eq_iff (stem id : String) (known? known?' : Option (Option (List String))) :
    entryOf stem id known? = entryOf stem id known?' ↔
      known?.isSome = known?'.isSome ∧
        (namesOf known?).contains id = (namesOf known?').contains id := by
  -- The entry for a file that is there has one more point than the one for a file that is not.
  have hfound : "[N/A]-" ++ stem ≠ stem ++ "." ++ id := by
    intro h
    have hpoints := congrArg (fun text => text.toList.count '.') h
    simp at hpoints
  have hlost : "[N/A]-" ++ stem ≠ "[N/A]-" ++ stem ++ "." ++ id := by
    intro h
    have hpoints := congrArg (fun text => text.toList.count '.') h
    simp at hpoints
  have hmarked : stem ++ "." ++ id ≠ "[N/A]-" ++ stem ++ "." ++ id := by
    intro h
    have hlengths := congrArg String.length h
    simp at hlengths
  cases known? with
  | none =>
    cases known?' with
    | none => simp [entryOf]
    | some names' =>
      simp only [entryOf, Option.elim_none, Option.elim_some]
      split <;> simp [hfound, hlost]
  | some names =>
    cases known?' with
    | none =>
      simp only [entryOf, Option.elim_none, Option.elim_some]
      split <;> simp [hfound.symm, hlost.symm]
    | some names' =>
      simp only [entryOf, namesOf, Option.elim_some, Option.getD_some, Option.isSome_some, true_and]
      cases (names.getD []).contains id <;> cases (names'.getD []).contains id <;>
        simp [hmarked, hmarked.symm]

/-- What is known of the source file of a statement still holds: the file is there, and it declares
the statement if it did so before. -/
def IsCurrent (settings : Settings) (files : Disk) (known : Declared) (s : Statement) : Prop :=
  ∀ names, known.lookup (anchorOf s).file = some names →
    ∃ now, declared? settings files (anchorOf s).file = some now ∧
      (s.statementId ∈ now.getD [] ↔ s.statementId ∈ names.getD [])

section
variable {settings : Settings} {files : Disk} {known : Declared} {index : TableIndex}

/-- What is known holds still if it makes no difference to the entry. -/
theorem isCurrent_iff_entryOf {s : Statement} :
    IsCurrent settings files known s ↔
      (recalled? settings files known (anchorOf s).file).isSome =
        (declared? settings files (anchorOf s).file).isSome ∧
      entryOf (anchorOf s).file.stem s.statementId
          (recalled? settings files known (anchorOf s).file) =
        entryOf (anchorOf s).file.stem s.statementId
          (declared? settings files (anchorOf s).file) := by
  rw [entryOf_eq_iff, IsCurrent, recalled?]
  cases known.lookup (anchorOf s).file with
  | none => simp
  | some names =>
    cases declared? settings files (anchorOf s).file with
    | none => simp
    | some now =>
      simp only [Option.some_or, Option.some.injEq, Option.isSome_some, namesOf, Option.getD_some,
        forall_eq', exists_eq_left', true_and]
      rw [Bool.eq_iff_iff, List.contains_iff_mem, List.contains_iff_mem]
      exact iff_comm

/-- What is known makes no difference to the mappings of an index exactly if it holds still for
every statement. -/
theorem relinked_eq_linked_iff (hnamed : index.IsNamed) :
    relinked settings files known index = linked settings files index ↔
      ∀ entry ∈ index, ∀ s ∈ entry.2, IsCurrent settings files known s := by
  have hlookups {entry : String × List Statement} (hentry : entry ∈ index) {s : Statement}
      (hs : s ∈ entry.2) :
      (recalledIn settings files known (sources index)).lookup (anchorOf s).file =
          recalled? settings files known (anchorOf s).file ∧
        (declaredIn settings files (sources index)).lookup (anchorOf s).file =
          declared? settings files (anchorOf s).file := by
    have hsource := anchorOf_file_mem_sources hentry hs
    rw [lookup_recalledIn, lookup_declaredIn, if_pos hsource, if_pos hsource]
    exact ⟨rfl, rfl⟩
  constructor
  · intro h entry hentry s hs
    have hresolve := resolve_of_mappingsOf h (List.mem_map_of_mem hentry)
      (List.mem_map_of_mem hs)
    obtain ⟨hrecalled, hdeclared⟩ := hlookups hentry hs
    rw [resolve_eq_entryOf (hnamed entry hentry s hs), hrecalled,
      resolve_eq_entryOf (hnamed entry hentry s hs), hdeclared] at hresolve
    exact isCurrent_iff_entryOf.2 ⟨((entryOf_eq_iff _ _ _ _).1 hresolve).1, hresolve⟩
  · intro h
    refine mappingsOf_congr_resolve fun anchored hanchored anchor hanchor => ?_
    obtain ⟨entry, hentry, rfl⟩ := List.mem_map.1 hanchored
    obtain ⟨s, hs, rfl⟩ := List.mem_map.1 hanchor
    obtain ⟨hrecalled, hdeclared⟩ := hlookups hentry hs
    rw [resolve_eq_entryOf (hnamed entry hentry s hs), hrecalled,
      resolve_eq_entryOf (hnamed entry hentry s hs), hdeclared]
    exact isCurrent_iff_entryOf.1 (h entry hentry s hs)

end

/-! ## Rounds -/

/-- One linking after others: what the linker knows of source files, and the workspace in which it
starts. -/
structure Round where
  known : Declared
  before : Workspace

namespace Round

section
variable (linker : Linker) (index : TableIndex) (round : Round)

/-- What comes of the linking. -/
def outcome : Except Fault (Declared × Except Fault (RepositoryMappings Json)) × Workspace :=
  (link linker round.known (index.map .str)).outcome round.before

/-- The mappings that the linking gives. -/
def result : Except Fault (RepositoryMappings Json) :=
  (round.outcome linker index).1.bind (·.2)

/-- What the linker knows of source files afterwards. -/
def learnt : Declared :=
  ((round.outcome linker index).1.map (·.1)).toOption.getD round.known

/-- The workspace that the linking leaves. -/
def after : Workspace :=
  (round.outcome linker index).2

/-- What a new linker gives at this moment where there is no snapshot. -/
def fresh : Except Fault (RepositoryMappings Json) :=
  ((link linker [] (index.map .str)).outcome { round.before with
    files := round.before.files.without linker.settings.repositoryMappingFile }).1.bind (·.2)

/-- The mappings that the linking makes if it uses no snapshot. -/
def made : RepositoryMappings :=
  relinked linker.settings round.before.files round.known index

/-- The linking finds the whole snapshot of the mappings that an earlier one made, with the same
stamps of the source files. -/
structure Finds (past : Round) : Prop where
  hashed : hashed past.before.files index = hashed round.before.files index
  nonempty : index ≠ []
  read : ∃ fingerprint, print round.before.files index = .ok fingerprint ∧
    round.before.files.read linker.settings.repositoryMappingFile =
      .ok ((snapshotFile linker.settings linker.journal).bytesOf (past.made linker index).json
        (.str fingerprint) (.bool true))

end

end Round

/-- Linkings of one index by one linker, the latest first. It starts with nothing known and without
a snapshot. Between two linkings the files may change in any way, but nobody else puts a file at the
place of the snapshot. -/
inductive History (linker : Linker) (index : TableIndex) : List Round → Prop where
  | nil : History linker index []
  | cons {round : Round} {earlier : List Round} (rest : History linker index earlier)
      (known : round.known = (earlier.head?.map (·.learnt linker index)).getD [])
      (apart : IsApart linker index round.before.files)
      (kept : ∀ bytes,
        round.before.files.contentAt linker.settings.repositoryMappingFile = some bytes →
          ∃ last ∈ earlier.head?, (last.after linker index).files.contentAt
            linker.settings.repositoryMappingFile = some bytes) :
      History linker index (round :: earlier)

section
variable {linker : Linker} {index : TableIndex} {round past last : Round} {earlier rounds : List Round}

theorem Round.links (hindex : index.IsDistinct) (hapart : IsApart linker index round.before.files) :
    Links linker index round.known round.before (round.learnt linker index)
      (round.result linker index) (round.after linker index) := by
  obtain ⟨declared, found, w', hlink, hlinks⟩ := link_links round.known hindex hapart
  unfold learnt result after outcome
  rw [hlink]
  exact hlinks

namespace History

theorem apart_of_mem (h : History linker index rounds) (hmem : past ∈ rounds) :
    IsApart linker index past.before.files := by
  induction h with
  | nil => cases hmem
  | cons rest known apart kept ih =>
    obtain rfl | hmem := List.mem_cons.1 hmem
    · exact apart
    · exact ih hmem

/-- Whatever is at the place of the snapshot was left by a linking. -/
theorem isLeft (hindex : index.IsDistinct) (h : History linker index rounds)
    (hlast : last ∈ rounds.head?) {bytes : Bytes}
    (hbytes : (last.after linker index).files.contentAt linker.settings.repositoryMappingFile =
      some bytes) :
    ∃ past ∈ rounds,
      IsLeft linker.settings linker.journal past.before.files past.known index bytes := by
  induction h generalizing last with
  | nil => cases hlast
  | @cons round earlier rest known apart kept ih =>
    cases hlast
    obtain hbefore | hleft := (Round.links hindex apart).touches.content bytes hbytes
    · obtain ⟨last', hlast', hbytes'⟩ := kept bytes hbefore
      obtain ⟨past, hpast, hleft⟩ := ih hlast' hbytes'
      exact ⟨past, List.mem_cons_of_mem _ hpast, hleft⟩
    · exact ⟨round, List.mem_cons_self, hleft⟩

/-- What is known of a source file is what it declared at an earlier linking. -/
theorem declared?_of_known (hindex : index.IsDistinct) (h : History linker index (round :: earlier))
    {path : Path} {names : Option (List String)} (hknown : round.known.lookup path = some names) :
    ∃ past ∈ earlier, declared? linker.settings past.before.files path = some names := by
  generalize hrounds : round :: earlier = rounds at h
  induction h generalizing round earlier with
  | nil => cases hrounds
  | @cons round' earlier' rest known apart kept ih =>
    cases hrounds
    rw [known] at hknown
    cases earlier' with
    | nil => cases hknown
    | cons last before =>
      have hlinks := Round.links hindex (rest.apart_of_mem List.mem_cons_self)
      have hrecalled := hlinks.learns.recalled hknown
      -- The linking before knew it already, or has read it itself.
      cases hlast : last.known.lookup path with
      | some names' =>
        rw [recalled?, hlast] at hrecalled
        obtain ⟨past, hpast, hdeclared⟩ := ih (hlast.trans hrecalled) rfl
        exact ⟨past, List.mem_cons_of_mem _ hpast, hdeclared⟩
      | none =>
        rw [recalled?, hlast] at hrecalled
        exact ⟨last, List.mem_cons_self, hrecalled⟩

theorem of_mem (h : History linker index rounds) (hmem : past ∈ rounds) :
    ∃ before, History linker index (past :: before) ∧ before ⊆ rounds := by
  induction h with
  | nil => cases hmem
  | @cons round earlier rest known apart kept ih =>
    obtain rfl | hmem := List.mem_cons.1 hmem
    · exact ⟨earlier, .cons rest known apart kept, List.subset_cons_self _ _⟩
    · obtain ⟨before, hbefore, hsubset⟩ := ih hmem
      exact ⟨before, hbefore, fun other hother => List.mem_cons_of_mem _ (hsubset hother)⟩

end History

/-! ## A new linker -/

theorem discards_without (place : Path) (files : Disk) :
    Discards place files (files.without place) := by
  obtain hdelete | ⟨-, hsame⟩ := files.without_cases place
  · exact .inr hdelete
  · exact .inl hsame

/-- A new linker without a snapshot gives the mappings of the index as the files stand. Its success
shows that the source files can be read. -/
theorem Round.fresh_spec (hindex : index.IsDistinct)
    (hapart : IsApart linker index round.before.files) {mappings : RepositoryMappings Json}
    (h : round.fresh linker index = .ok mappings) :
    mappings = (linked linker.settings round.before.files index).map .str ∧
      IsReadable linker (round.before.files.without linker.settings.repositoryMappingFile) []
        index ∧
      ∃ fingerprint state,
        print (round.before.files.without linker.settings.repositoryMappingFile) index =
          .ok fingerprint ∧
        (snapshotFile linker.settings linker.journal).state
          (round.before.files.without linker.settings.repositoryMappingFile) (.str fingerprint) =
            .ok state := by
  have hdiscards := discards_without linker.settings.repositoryMappingFile round.before.files
  have hread := round.before.files.read_without linker.settings.repositoryMappingFile
  unfold fresh at h
  -- From here on nothing but `hdiscards` and `hread` is used of these files.
  generalize round.before.files.without linker.settings.repositoryMappingFile = files at *
  have hapart' := hapart.discards hdiscards
  obtain ⟨declared, result, w', hlink, hlinks⟩ :=
    link_links (w := { round.before with files }) [] hindex hapart'
  rw [hlink] at h
  obtain ⟨fingerprint, state, hprint, hstate, hused | ⟨-, hmade, files', hfiles', hreadable⟩⟩ :=
    hlinks.sound mappings h
  · -- There is no snapshot that could be used.
    obtain ⟨data, hdata, -⟩ := Option.bind_eq_some_iff.1 hused
    obtain ⟨bytes, hbytes⟩ := SnapshotFile.read_of_data? hstate hdata
    exact absurd hbytes (hread bytes)
  · refine ⟨?_, ?_, fingerprint, state, hprint, hstate⟩
    · rw [hmade, relinked_nil]
      refine congrArg (RepositoryMappings.map Json.str) ?_
      refine mappingsOf_congr fun entry hentry anchor hanchor => ?_
      have hsource := file_mem_sources hentry hanchor
      rw [lookup_declaredIn, lookup_declaredIn, if_pos hsource, if_pos hsource]
      exact declared?_of_discards hapart hdiscards hsource
    · obtain rfl | hdelete := hfiles'
      · exact hreadable
      · obtain ⟨content, hcontent⟩ := Disk.read_of_delete hdelete
        exact absurd hcontent (hread content)

namespace History

variable {found : RepositoryMappings Json}

theorem apart (h : History linker index (round :: earlier)) :
    IsApart linker index round.before.files :=
  h.apart_of_mem List.mem_cons_self

/-- What is at the place of the snapshot when a linking starts was left by an earlier one. -/
theorem isLeft_of_content (hindex : index.IsDistinct) (h : History linker index (round :: earlier))
    {bytes : Bytes}
    (hbytes : round.before.files.contentAt linker.settings.repositoryMappingFile = some bytes) :
    ∃ past ∈ earlier,
      IsLeft linker.settings linker.journal past.before.files past.known index bytes := by
  cases h with
  | cons rest known apart kept =>
    obtain ⟨last, hlast, hbytes'⟩ := kept bytes hbytes
    exact rest.isLeft hindex hlast hbytes'

/-- Where a new linker succeeds, the linker does so whatever it knows. -/
theorem exists_result (hmode : linker.settings.cacheValidation = .fingerprint)
    (hpolicy : ∀ type, ∃ b, linker.policy.isAccessTypeAny type = .ok b)
    (hindex : index.IsDistinct) (h : History linker index (round :: earlier))
    (hsignal : round.before.signal = none) (hfresh : round.fresh linker index = .ok found) :
    ∃ mappings, round.result linker index = .ok mappings := by
  have hstrict : (snapshotFile linker.settings linker.journal).strict = true := by
    simp [snapshotFile, hmode]
  obtain ⟨-, hreadable, fingerprint, state, hprint, hstate⟩ := Round.fresh_spec hindex h.apart hfresh
  have hreadable' : ∀ files, Discards linker.settings.repositoryMappingFile round.before.files files →
      IsReadable linker files round.known index := by
    rintro files (rfl | hdelete)
    · exact hreadable.of_discards h.apart (discards_without _ _) round.known
    · -- The snapshot was deleted, as for the new linker.
      obtain hsame | ⟨⟨e, herror⟩, -⟩ :=
        round.before.files.without_cases linker.settings.repositoryMappingFile
      · obtain rfl := Except.ok.inj (hdelete.symm.trans hsame)
        exact hreadable.of_discards (h.apart.discards (.inr hdelete)) (.inl rfl) round.known
      · cases herror.symm.trans hdelete
  have hprinted : print round.before.files index =
      .ok (Sha256.digest (hashed round.before.files index)) :=
    print_eq_ok.2 ⟨(print_eq_ok.1 hprint).1, rfl⟩
  obtain ⟨state', hstate'⟩ : ∃ state', (snapshotFile linker.settings linker.journal).state
      round.before.files (.str (Sha256.digest (hashed round.before.files index))) = .ok state' := by
    obtain hdelete | ⟨-, hsame⟩ :=
      round.before.files.without_cases linker.settings.repositoryMappingFile
    · -- There is a file, which an earlier linking left.
      obtain ⟨bytes, hread⟩ := Disk.read_of_delete hdelete
      obtain ⟨past, -, fingerprint', -, hremnant⟩ :=
        h.isLeft_of_content hindex (Disk.contentAt_of_read hread)
      exact hremnant.exists_state hstrict hread _
    · rw [hsame] at hprint hstate
      obtain rfl := Except.ok.inj (hprinted.symm.trans hprint)
      exact ⟨state, hstate⟩
  exact (Round.links hindex h.apart).complete hsignal hpolicy hprinted hstate' hreadable'

/-- The mappings of a linking are those that it makes, or those of an earlier one whose snapshot it
finds. -/
theorem result_cases (hmode : linker.settings.cacheValidation = .fingerprint)
    (hindex : index.IsDistinct) (h : History linker index (round :: earlier))
    (hdigest : ∀ past ∈ earlier,
      Sha256.digest (hashed past.before.files index) =
        Sha256.digest (hashed round.before.files index) →
      hashed past.before.files index = hashed round.before.files index)
    (hresult : round.result linker index = .ok found) :
    ∃ source ∈ round :: earlier, (source = round ∨ round.Finds linker index source) ∧
      found = (source.made linker index).map .str := by
  have hstrict : (snapshotFile linker.settings linker.journal).strict = true := by
    simp [snapshotFile, hmode]
  obtain ⟨fingerprint, state, hprint, hstate, hused | ⟨-, hmade, -⟩⟩ :=
    (Round.links hindex h.apart).sound found hresult
  · -- The snapshot is used, so it is a whole one of an earlier linking.
    obtain ⟨data, hdata, hjson⟩ := Option.bind_eq_some_iff.1 hused
    obtain ⟨bytes, hread⟩ := SnapshotFile.read_of_data? hstate hdata
    obtain ⟨past, hpast, stored, hstored, hremnant⟩ :=
      h.isLeft_of_content hindex (Disk.contentAt_of_read hread)
    obtain ⟨rfl, hnonempty, rfl, hread⟩ := hremnant.whole_of_used hstrict hread hstate hdata
    have hkeyed : (past.made linker index).IsKeyed := isKeyed_mappingsOf _ hindex
    have hmappings : RepositoryMappings.ofJson (past.made linker index).json =
        .ok ((past.made linker index).map .str) := RepositoryMappings.ofJson_json hkeyed
    have htables : index ≠ [] := by
      rintro rfl
      cases hnonempty
    have hsame : hashed past.before.files index = hashed round.before.files index :=
      hdigest past hpast ((print_eq_ok.1 hstored).2.symm.trans (print_eq_ok.1 hprint).2)
    refine ⟨past, List.mem_cons_of_mem _ hpast, .inr ⟨hsame, htables, stored, hprint, hread⟩, ?_⟩
    rw [← Round.made, hmappings] at hjson
    exact (Option.some.inj hjson).symm
  · exact ⟨round, List.mem_cons_self, .inl rfl, hmade⟩

/-- Where the stamps are the same, source files declare the same, and what a linking made there
would be made now by what it knew. -/
theorem made_eq_relinked
    (hedits : ∀ past ∈ earlier, ∀ path ∈ sources index,
      IsStamped past.before.files round.before.files path)
    (hpast : past ∈ round :: earlier) (hsource : past = round ∨ round.Finds linker index past) :
    past.made linker index =
      relinked linker.settings round.before.files past.known index := by
  obtain rfl | hfinds := hsource
  · rfl
  obtain rfl | hpast := List.mem_cons.1 hpast
  · rfl
  refine mappingsOf_congr fun entry hentry anchor hanchor => ?_
  have hfile := file_mem_sources hentry hanchor
  have hstamp := stamp?_of_hashed hfinds.hashed hfile
  have hstamped := hedits past hpast _ hfile
  have hdeclared : declared? linker.settings past.before.files anchor.file =
      declared? linker.settings round.before.files anchor.file :=
    declared?_congr rfl fun content => ⟨hstamped.read hstamp, hstamped.symm.read hstamp.symm⟩
  rw [lookup_recalledIn, lookup_recalledIn, if_pos hfile, if_pos hfile, recalled?, recalled?,
    hdeclared]

/-- A linker that links again succeeds where a new one does. It gives the same mappings exactly if
what it knew, when the mappings were made, makes no difference to them now: if every source file
that it had read is still there and declares the statements that it declared before. This is so if
no source file that was there at an earlier linking declares anything else now. -/
theorem result_eq_fresh_iff (hmode : linker.settings.cacheValidation = .fingerprint)
    (hpolicy : ∀ type, ∃ b, linker.policy.isAccessTypeAny type = .ok b)
    (hindex : index.IsDistinct) (h : History linker index (round :: earlier))
    (hsignal : round.before.signal = none)
    (hdigest : ∀ past ∈ earlier,
      Sha256.digest (hashed past.before.files index) =
        Sha256.digest (hashed round.before.files index) →
      hashed past.before.files index = hashed round.before.files index)
    (hedits : ∀ past ∈ earlier, ∀ path ∈ sources index,
      IsStamped past.before.files round.before.files path)
    {fresh : RepositoryMappings Json} (hfresh : round.fresh linker index = .ok fresh) :
    (∃ source ∈ round :: earlier, (source = round ∨ round.Finds linker index source) ∧
      round.result linker index =
        .ok ((relinked linker.settings round.before.files source.known index).map .str) ∧
      (round.result linker index = .ok fresh ↔
        relinked linker.settings round.before.files source.known index =
          linked linker.settings round.before.files index) ∧
      (index.IsNamed → (round.result linker index = .ok fresh ↔
        ∀ entry ∈ index, ∀ s ∈ entry.2,
          IsCurrent linker.settings round.before.files source.known s))) ∧
    ((∀ past ∈ earlier, ∀ path ∈ sources index, ∀ names,
        declared? linker.settings past.before.files path = some names →
          declared? linker.settings round.before.files path = some names) →
      round.result linker index = .ok fresh) := by
  obtain ⟨mappings, hresult⟩ := h.exists_result hmode hpolicy hindex hsignal hfresh
  obtain ⟨source, hsource, hfinds, rfl⟩ := h.result_cases hmode hindex hdigest hresult
  obtain ⟨rfl, -⟩ := Round.fresh_spec hindex h.apart hfresh
  rw [made_eq_relinked hedits hsource hfinds] at hresult
  have hiff : round.result linker index =
        .ok ((linked linker.settings round.before.files index).map .str) ↔
      relinked linker.settings round.before.files source.known index =
        linked linker.settings round.before.files index := by
    rw [hresult, Except.ok.injEq]
    exact RepositoryMappings.map_str_injective.eq_iff
  refine ⟨⟨source, hsource, hfinds, hresult, hiff, fun hnamed => ?_⟩, fun hsame => ?_⟩
  · rw [hiff, relinked_eq_linked_iff hnamed]
  · rw [hiff]
    refine mappingsOf_congr fun entry hentry anchor hanchor => ?_
    have hfile := file_mem_sources hentry hanchor
    rw [lookup_recalledIn, lookup_declaredIn, if_pos hfile, if_pos hfile, recalled?]
    cases hknown : source.known.lookup anchor.file with
    | none => exact Option.none_or
    | some names =>
      -- What is known was declared at an earlier linking, and nothing has changed since.
      obtain ⟨before, hbefore, hsubset⟩ := h.of_mem hsource
      obtain ⟨past, hpast, hdeclared⟩ := hbefore.declared?_of_known hindex hknown
      have hnow : declared? linker.settings round.before.files anchor.file = some names := by
        obtain rfl | hpast := List.mem_cons.1 (hsubset hpast)
        · exact hdeclared
        · exact hsame past hpast _ hfile names hdeclared
      rw [hnow]
      exact Option.some_or

end History

end

/-! ## A source file that gains a method -/

def sampleLinker : Linker where
  settings := .standard
  policy := Policy.standard.map .text
  journal := ""

def sampleIndex : TableIndex :=
  [("T", [⟨"m", "m/src/com/A.xml", "n", "a", "select", "FROM T"⟩])]

def sampleSource : Path :=
  { names := ["m", "src", "A.java"] }

/-- The first linking, with a source file that is empty. -/
def firstRound : Round where
  known := []
  before := { files := {
    home := ["home"]
    tree := .folder [("home", .folder [("m", .folder [("src", .folder [("A.java", .file [] 0)])]),
      (".impact_cache", .empty)])] } }

/-- The next linking, after the source file was given the method. -/
def editedRound : Round where
  known := firstRound.learnt sampleLinker sampleIndex
  before := { files := ((firstRound.after sampleLinker sampleIndex).files.write sampleSource
    (Utf8.encode "class A{void a(){}}".toList) 1).toOption.getD .empty }

def methodsIn (result : Except Fault (RepositoryMappings Json)) : Option (List (List String)) :=
  result.toOption.map (List.map fun entry => entry.2.methods.map Json.shown)

theorem editedRound_facts :
    (∀ round ∈ [firstRound, editedRound], ∀ path ∈ sources sampleIndex,
      round.before.files.wayTo path ≠
        round.before.files.wayTo Settings.standard.repositoryMappingFile) ∧
    firstRound.before.files.contentAt Settings.standard.repositoryMappingFile = none ∧
    editedRound.before.files.contentAt Settings.standard.repositoryMappingFile =
      (firstRound.after sampleLinker sampleIndex).files.contentAt
        Settings.standard.repositoryMappingFile ∧
    (∀ path ∈ sources sampleIndex, stamp? firstRound.before.files path = some (0, 0) ∧
      stamp? editedRound.before.files path = some (19, 1)) ∧
    Sha256.digest (hashed firstRound.before.files sampleIndex) ≠
      Sha256.digest (hashed editedRound.before.files sampleIndex) ∧
    methodsIn (editedRound.result sampleLinker sampleIndex) = some [["[N/A]-A.a"]] ∧
    methodsIn (editedRound.fresh sampleLinker sampleIndex) = some [["A.a"]] := by
  decide +kernel

theorem history_editedRound : History sampleLinker sampleIndex [editedRound, firstRound] := by
  obtain ⟨hapart, hnone, hkept, -⟩ := editedRound_facts
  refine .cons (.cons .nil rfl (hapart firstRound (by simp)) ?_) rfl
    (hapart editedRound (by simp)) ?_
  · intro bytes hbytes
    cases hnone.symm.trans hbytes
  · intro bytes hbytes
    exact ⟨firstRound, rfl, hkept.symm.trans hbytes⟩

/-- The edit changes the time of the source file. -/
theorem isStamped_editedRound : ∀ past ∈ [firstRound], ∀ path ∈ sources sampleIndex,
    IsStamped past.before.files editedRound.before.files path := by
  obtain ⟨-, -, -, hstamps, -⟩ := editedRound_facts
  intro past hpast path hpath content content' modified hfind hfind' _
  obtain rfl := List.mem_singleton.1 hpast
  obtain ⟨hstamp, hstamp'⟩ := hstamps path hpath
  obtain ⟨_, hfound, -⟩ := stamp?_eq_some.1 hstamp
  obtain ⟨_, hfound', -⟩ := stamp?_eq_some.1 hstamp'
  cases hfind.symm.trans hfound
  cases hfind'.symm.trans hfound'

theorem result_eq_fresh_iff_editedRound :
    History sampleLinker sampleIndex [editedRound, firstRound] ∧
      ∃ fresh, editedRound.fresh sampleLinker sampleIndex = .ok fresh ∧
        ∃ source ∈ [editedRound, firstRound],
          editedRound.result sampleLinker sampleIndex = .ok fresh ↔
            ∀ entry ∈ sampleIndex, ∀ s ∈ entry.2,
              IsCurrent .standard editedRound.before.files source.known s := by
  obtain ⟨-, -, -, -, hdigest, -, hmethods⟩ := editedRound_facts
  refine ⟨history_editedRound, ?_⟩
  cases hfresh : editedRound.fresh sampleLinker sampleIndex with
  | error fault =>
    rw [hfresh] at hmethods
    cases hmethods
  | ok fresh =>
    have hpolicy : ∀ type, ∃ b, sampleLinker.policy.isAccessTypeAny type = .ok b :=
      fun type => ⟨_, Policy.isAccessTypeAny_map_text Policy.standard type⟩
    have hdistinct : sampleIndex.IsDistinct := List.nodup_singleton _
    obtain ⟨⟨source, hsource, -, -, -, hiff⟩, -⟩ := History.result_eq_fresh_iff rfl hpolicy
      hdistinct history_editedRound rfl
      (fun past hpast hsame => absurd (List.mem_singleton.1 hpast ▸ hsame) hdigest)
      isStamped_editedRound hfresh
    exact ⟨fresh, rfl, source, hsource, hiff (by unfold TableIndex.IsNamed; decide)⟩

/-- The linker does not read the source file again. So the method is not found, and a new linker
finds it. -/
theorem result_ne_fresh_editedRound :
    History sampleLinker sampleIndex [editedRound, firstRound] ∧
      (∀ past ∈ [firstRound], ∀ path ∈ sources sampleIndex,
        IsStamped past.before.files editedRound.before.files path) ∧
      ∃ found fresh, editedRound.result sampleLinker sampleIndex = .ok found ∧
        editedRound.fresh sampleLinker sampleIndex = .ok fresh ∧ found ≠ fresh := by
  obtain ⟨-, -, -, -, -, hfound, hfresh⟩ := editedRound_facts
  refine ⟨history_editedRound, isStamped_editedRound, ?_⟩
  cases hresult : editedRound.result sampleLinker sampleIndex with
  | error fault =>
    rw [hresult] at hfound
    cases hfound
  | ok found =>
    cases hnew : editedRound.fresh sampleLinker sampleIndex with
    | error fault =>
      rw [hnew] at hfresh
      cases hfresh
    | ok fresh =>
      refine ⟨found, fresh, rfl, rfl, ?_⟩
      rintro rfl
      rw [hresult] at hfound
      rw [hnew] at hfresh
      exact absurd (hfound.symm.trans hfresh) (by decide)

end Ripple.Repository
