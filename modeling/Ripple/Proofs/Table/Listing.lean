-- SUMMARY: What a new index lists under each table, and in which order.
import Ripple.Proofs.Settings.Standard
import Ripple.Proofs.Table.Building

/-!
# What a new index lists

An index that is made from mapper files has the tables that their statements name. Under each of
them it lists the statements that name it, file by file and in the order of each file; of those with
one identity the first counts, even if the others have another text.
-/

namespace Ripple

/-- The first statement of each identity. -/
def firsts : List Statement → List Statement
  | [] => []
  | s :: rest => s :: (firsts rest).filter (·.identity != s.identity)

/-- A mapper file gives statements or messages, unless its encoding is at fault. -/
theorem Mapper.load_returns_iff {files : Disk} {path : Path}
    (hzero : files.read path ≠ .error .zeroInPath) (includes : Bool) (moduleName : String) :
    (∃ found, load files includes path moduleName = .ok found) ↔
      ∀ bytes e, files.read path = .ok bytes → Xml.Node.parse bytes = .error e →
        e = .malformed := by
  constructor
  · rintro ⟨found, hfound⟩ bytes e hread hparse
    cases e with
    | malformed => rfl
    | _ =>
      simp only [load, hread, hparse] at hfound
      cases hfound
  · intro h
    unfold load
    cases hread : files.read path with
    | error e =>
      cases e with
      | zeroInPath => exact absurd hread hzero
      | _ => exact ⟨_, rfl⟩
    | ok bytes =>
      cases hparse : Xml.Node.parse bytes with
      | error e =>
        obtain rfl := h bytes e hread hparse
        simp only [hparse]
        exact ⟨_, rfl⟩
      | ok root =>
        simp only [hparse]
        split
        · exact ⟨_, rfl⟩
        · exact ⟨_, rfl⟩

namespace TableIndex

/-- The statements that name a table. -/
def naming (table : String) (statements : List Statement) : List Statement :=
  statements.filter fun s => (Sql.tables s.rawSql).contains table

/-- Whether an index has exactly the tables that statements name, with the first statement of each
identity among those that name the table. -/
structure IsListing (index : TableIndex) (statements : List Statement) : Prop where
  distinct : index.IsDistinct
  tables_iff : ∀ table, table ∈ index.tables ↔ ∃ s ∈ statements, table ∈ Sql.tables s.rawSql
  statements_eq : ∀ table, index.statements table = firsts (naming table statements)

/-! ## Adding statements -/

theorem addNew_of_mem {s other : Statement} {statements : List Statement}
    (hother : other ∈ statements) (hsame : other.identity = s.identity) :
    addNew s statements = statements := by
  rw [addNew, if_pos]
  exact List.any_eq_true.2 ⟨other, hother, by simp [hsame]⟩

theorem addNew_of_forall {s : Statement} {statements : List Statement}
    (h : ∀ other ∈ statements, other.identity ≠ s.identity) :
    addNew s statements = statements ++ [s] := by
  rw [addNew, if_neg]
  simpa using h

theorem addNew_addNew (s : Statement) (statements : List Statement) :
    addNew s (addNew s statements) = addNew s statements := by
  by_cases h : ∃ other ∈ statements, other.identity = s.identity
  · obtain ⟨other, hother, hsame⟩ := h
    rw [addNew_of_mem hother hsame, addNew_of_mem hother hsame]
  · rw [addNew_of_forall fun other hother hsame => h ⟨other, hother, hsame⟩]
    exact addNew_of_mem (List.mem_append_right _ List.mem_cons_self) rfl

/-- A statement behind others counts if it is the first of its identity. -/
theorem firsts_append_singleton (statements : List Statement) (s : Statement) :
    firsts (statements ++ [s]) = addNew s (firsts statements) := by
  induction statements with
  | nil => rfl
  | cons first rest ih =>
    rw [List.cons_append, firsts, firsts, ih]
    by_cases hfirst : first.identity = s.identity
    · -- the first statement of all has its identity, so it is dropped at once
      rw [addNew_of_mem List.mem_cons_self hfirst]
      congr 1
      unfold addNew
      split
      · rfl
      · simp [hfirst]
    · by_cases h : ∃ other ∈ firsts rest, other.identity = s.identity
      · obtain ⟨other, hother, hsame⟩ := h
        have hkept : other ∈ (firsts rest).filter (·.identity != first.identity) := by
          rw [List.mem_filter, hsame]
          exact ⟨hother, by simpa using Ne.symm hfirst⟩
        rw [addNew_of_mem hother hsame, addNew_of_mem (List.mem_cons_of_mem _ hkept) hsame]
      · have hnew : ∀ other ∈ first :: (firsts rest).filter (·.identity != first.identity),
            other.identity ≠ s.identity := by
          intro other hother
          obtain rfl | hother := List.mem_cons.1 hother
          · exact hfirst
          · exact fun hsame => h ⟨other, (List.mem_filter.1 hother).1, hsame⟩
        rw [addNew_of_forall hnew,
          addNew_of_forall fun other hother hsame => h ⟨other, hother, hsame⟩, List.filter_append,
          List.cons_append, List.filter_cons_of_pos (by simpa using Ne.symm hfirst),
          List.filter_nil]

theorem statements_add (index : TableIndex) (s : Statement) (table other : String) :
    (index.add s table).statements other =
      if other = table then addNew s (index.statements table) else index.statements other := by
  unfold add
  split
  next h =>
    subst h
    simp [statements, lookup_putField_self]
  next h => simp [statements, lookup_putField_of_ne h]

theorem mem_tables_add (index : TableIndex) (s : Statement) (table other : String) :
    other ∈ (index.add s table).tables ↔ other = table ∨ other ∈ index.tables := by
  unfold add tables
  by_cases hmem : table ∈ List.map (·.1) index
  · rw [keys_putField_of_mem _ hmem]
    constructor
    · exact .inr
    · rintro (rfl | hother)
      · exact hmem
      · exact hother
  · rw [putField_of_notMem _ hmem, List.map_append, List.mem_append, or_comm]
    simp

theorem statements_addMention (index : TableIndex) (mention : Mapper.Mentions) (table : String) :
    (index.addMention mention).statements table =
      if table ∈ mention.2 then addNew mention.1 (index.statements table)
      else index.statements table := by
  obtain ⟨s, tables⟩ := mention
  unfold addMention
  induction tables generalizing index with
  | nil => rfl
  | cons first rest ih =>
    rw [List.foldl_cons, ih, statements_add]
    by_cases hfirst : table = first
    · subst hfirst
      simp only [List.mem_cons_self, if_true, addNew_addNew, ite_self]
    · simp only [hfirst, List.mem_cons, false_or, if_false]

theorem mem_tables_addMention (index : TableIndex) (mention : Mapper.Mentions) (table : String) :
    table ∈ (index.addMention mention).tables ↔ table ∈ mention.2 ∨ table ∈ index.tables := by
  obtain ⟨s, tables⟩ := mention
  unfold addMention
  induction tables generalizing index with
  | nil => simp
  | cons first rest ih =>
    rw [List.foldl_cons, ih, mem_tables_add, List.mem_cons, or_left_comm, or_assoc]

/-! ## Whole files -/

/-- One more statement is listed where it belongs. -/
theorem IsListing.addMention {index : TableIndex} {statements : List Statement}
    (h : index.IsListing statements) (s : Statement) :
    (index.addMention (s, Sql.tables s.rawSql)).IsListing (statements ++ [s]) where
  distinct := h.distinct.addMention _
  tables_iff table := by
    rw [mem_tables_addMention, h.tables_iff]
    dsimp only
    constructor
    · rintro (hnew | ⟨other, hother, htable⟩)
      · exact ⟨s, List.mem_append_right _ List.mem_cons_self, hnew⟩
      · exact ⟨other, List.mem_append_left _ hother, htable⟩
    · rintro ⟨other, hother, htable⟩
      obtain hother | hother := List.mem_append.1 hother
      · exact .inr ⟨other, hother, htable⟩
      · obtain rfl := List.mem_singleton.1 hother
        exact .inl htable
  statements_eq table := by
    rw [statements_addMention, naming, List.filter_append]
    dsimp only
    split
    next hnames =>
      rw [List.filter_cons_of_pos (by simpa using hnames), List.filter_nil,
        firsts_append_singleton, h.statements_eq, naming]
    next hother =>
      rw [List.filter_cons_of_neg (by simpa using hother), List.filter_nil, List.append_nil,
        h.statements_eq, naming]

/-- The index of some statements. -/
def ofStatements (statements : List Statement) : TableIndex :=
  statements.foldl (fun index s => index.addMention (s, Sql.tables s.rawSql)) []

theorem isListing_ofStatements (statements : List Statement) :
    (ofStatements statements).IsListing statements := by
  unfold ofStatements
  induction statements using List.reverseRecOn with
  | nil =>
    refine ⟨List.nodup_nil, ?_, fun table => rfl⟩
    intro table
    simp [tables]
  | append_singleton statements s ih =>
    rw [List.foldl_append, List.foldl_cons, List.foldl_nil]
    exact ih.addMention s

/-- The statements of mapper files, file by file. -/
def parsed (settings : Settings) (files : Disk) (mappers : List LocatedMapper) :
    Except Fault (List Statement) :=
  (mappers.mapM fun mapper =>
    (Mapper.load files settings.resolveIncludes mapper.1 mapper.2).map (·.2)).map List.flatten

theorem map_snd_readMapper (settings : Settings) (files : Disk) (mapper : LocatedMapper) :
    (readMapper settings files mapper).map (·.2) =
      ((Mapper.load files settings.resolveIncludes mapper.1 mapper.2).map (·.2)).map
        (List.map fun s => (s, Sql.tables s.rawSql)) := by
  obtain ⟨path, moduleName⟩ := mapper
  simp only [readMapper, Mapper.loadMentions]
  cases Mapper.load files settings.resolveIncludes path moduleName with
  | error fault => rfl
  | ok found => rfl

theorem results_readMapper (settings : Settings) (files : Disk) (mappers : List LocatedMapper) :
    Workers.results (readMapper settings) files mappers =
      (mappers.mapM fun mapper =>
        (Mapper.load files settings.resolveIncludes mapper.1 mapper.2).map (·.2)).map
          (List.map (List.map fun s => (s, Sql.tables s.rawSql))) := by
  rw [Workers.results, ← mapM_map]
  exact mapM_congr fun mapper _ => map_snd_readMapper settings files mapper

/-- The index of mapper files is that of their statements. -/
theorem ofMappers_eq_ok_iff_parsed {settings : Settings} {files : Disk}
    {mappers : List LocatedMapper} {index : TableIndex} :
    ofMappers settings files mappers = .ok index ↔
      (∃ plan, WorkPlan.choose settings.workers settings.executor mappers.length = .ok plan) ∧
      ∃ statements, parsed settings files mappers = .ok statements ∧
        index = ofStatements statements := by
  have hsame : ∀ found : List (List Statement),
      (found.map (List.map fun s => (s, Sql.tables s.rawSql))).foldl
          (fun index mentions => mentions.foldl addMention index) [] =
        ofStatements found.flatten := by
    intro found
    rw [ofStatements, List.foldl_flatten, List.foldl_map]
    simp only [List.foldl_map]
  rw [ofMappers_eq_ok, results_readMapper]
  refine and_congr_right fun _ => ?_
  unfold parsed
  simp only [map_eq_ok]
  constructor
  · rintro ⟨_, ⟨found, hfound, rfl⟩, rfl⟩
    exact ⟨_, ⟨found, hfound, rfl⟩, hsame found⟩
  · rintro ⟨_, ⟨found, hfound, rfl⟩, rfl⟩
    exact ⟨_, ⟨found, hfound, rfl⟩, (hsame found).symm⟩

/-! ## Building -/

section
variable {settings : Settings} {modules : List BuildModule} {files : Disk}
  {mappers : List LocatedMapper} {digest : String}

theorem hasZero_of_fingerprint
    (hprint : fingerprint files settings.resolveIncludes mappers = .ok digest)
    {mapper : LocatedMapper} (hmapper : mapper ∈ mappers) : mapper.1.hasZero = false := by
  unfold fingerprint Fingerprint.digest at hprint
  split at hprint
  · cases hprint
  · rename_i hzero
    rw [Bool.not_eq_true, List.any_eq_false] at hzero
    simpa using hzero mapper.1 (List.mem_map.2 ⟨mapper, hmapper, rfl⟩)

/-- A mapper file with a fingerprint is read, or its path is too long. -/
theorem read_ne_zeroInPath (hwf : files.tree.wellFormed = true)
    (hlocate : locate files settings modules = .ok mappers)
    (hprint : fingerprint files settings.resolveIncludes mappers = .ok digest)
    {mapper : LocatedMapper} (hmapper : mapper ∈ mappers) :
    files.read mapper.1 ≠ .error .zeroInPath := by
  have hzero := hasZero_of_fingerprint hprint hmapper
  obtain ⟨e, hcheck⟩ | ⟨content, hcontent⟩ := read_of_locate hwf hlocate hmapper
  · have hlong : e ≠ .zeroInPath := by
      rintro rfl
      unfold Disk.checkPath at hcheck
      simp only [hzero, Bool.false_eq_true, if_false] at hcheck
      split at hcheck
      · cases hcheck
      · cases hcheck
    simpa [Disk.read, Disk.find, Disk.resolve, hcheck, bind, Except.bind] using hlong
  · simp [hcontent]

/-- The mapper files of a build are parsed exactly if none has an encoding that is at fault. -/
theorem exists_parsed_iff (hwf : files.tree.wellFormed = true)
    (hlocate : locate files settings modules = .ok mappers)
    (hprint : fingerprint files settings.resolveIncludes mappers = .ok digest) :
    (∃ statements, parsed settings files mappers = .ok statements) ↔
      ∀ mapper ∈ mappers, ∀ bytes e, files.read mapper.1 = .ok bytes →
        Xml.Node.parse bytes = .error e → e = .malformed := by
  unfold parsed
  rw [exists_map_iff, exists_mapM_iff]
  refine forall₂_congr fun mapper hmapper => ?_
  rw [exists_map_iff]
  apply Mapper.load_returns_iff
  exact read_ne_zeroInPath hwf hlocate hprint hmapper

theorem fresh_eq_ofMappers (hlocate : locate files settings modules = .ok mappers)
    (hprint : fingerprint files settings.resolveIncludes mappers = .ok digest) :
    fresh settings modules files = ofMappers settings files mappers := by
  simp [fresh, hlocate, hprint, bind, Except.bind, Except.mapError]

/-- An index that is given was made of the statements, if no snapshot is of use. -/
theorem parsed_of_build {journal : String} {w : Workspace}
    (hsteady : IsSteady settings modules w.files)
    (hlocate : locate w.files settings modules = .ok mappers)
    (hprint : fingerprint w.files settings.resolveIncludes mappers = .ok digest)
    (hunused : ∀ state, (snapshotFile settings journal).state w.files (.str digest) = .ok state →
      state.value? ofJson = none)
    {found : TableIndex Json}
    (hfound : ((build settings journal modules).outcome w).1 = .ok found) :
    ∃ state statements,
      (snapshotFile settings journal).state w.files (.str digest) = .ok state ∧
      (∃ plan, WorkPlan.choose settings.workers settings.executor mappers.length = .ok plan) ∧
      parsed settings w.files mappers = .ok statements ∧
      found = (ofStatements statements).map .str := by
  obtain ⟨result, w', hbuild, -, hgiven, -⟩ := build_spec journal hsteady
  rw [hbuild] at hfound
  obtain ⟨-, state, hstate, hused⟩ := hgiven found hfound
  rw [← digest_eq_of_fingerprint hlocate hprint] at hstate
  rw [hunused state hstate] at hused
  obtain hused | ⟨-, index, hindex, rfl⟩ := hused
  · cases hused
  · rw [fresh_eq_ofMappers hlocate hprint] at hindex
    obtain ⟨hplan, statements, hstatements, rfl⟩ := ofMappers_eq_ok_iff_parsed.1 hindex
    exact ⟨state, statements, hstate, hplan, hstatements, rfl⟩

/-- Where no snapshot is of use, a build that is not cancelled gives an index exactly if the
snapshot can be judged, the work can be planned and no mapper file has an encoding that is at fault.
Then the index lists the statements of the mapper files. -/
theorem build_lists_iff (journal : String) {w : Workspace}
    (hsteady : IsSteady settings modules w.files) (hsignal : w.signal = none)
    (hlocate : locate w.files settings modules = .ok mappers)
    (hprint : fingerprint w.files settings.resolveIncludes mappers = .ok digest)
    (hunused : ∀ state, (snapshotFile settings journal).state w.files (.str digest) = .ok state →
      state.value? ofJson = none) :
    ((∃ found, ((build settings journal modules).outcome w).1 = .ok found) ↔
      (∃ state, (snapshotFile settings journal).state w.files (.str digest) = .ok state) ∧
      (∃ plan, WorkPlan.choose settings.workers settings.executor mappers.length = .ok plan) ∧
      ∀ mapper ∈ mappers, ∀ bytes e, w.files.read mapper.1 = .ok bytes →
        Xml.Node.parse bytes = .error e → e = .malformed) ∧
    ∀ found, ((build settings journal modules).outcome w).1 = .ok found →
      ∃ statements index, parsed settings w.files mappers = .ok statements ∧
        IsListing index statements ∧ found = index.map .str := by
  have hparsed := exists_parsed_iff hsteady.wellFormed hlocate hprint
  refine ⟨⟨?_, ?_⟩, ?_⟩
  · rintro ⟨found, hfound⟩
    obtain ⟨state, statements, hstate, hplan, hstatements, -⟩ :=
      parsed_of_build hsteady hlocate hprint hunused hfound
    exact ⟨⟨state, hstate⟩, hplan, hparsed.1 ⟨statements, hstatements⟩⟩
  · rintro ⟨⟨state, hstate⟩, hplan, hdecoded⟩
    obtain ⟨statements, hstatements⟩ := hparsed.2 hdecoded
    have hindex := ofMappers_eq_ok_iff_parsed.2 ⟨hplan, statements, hstatements, rfl⟩
    rw [← fresh_eq_ofMappers hlocate hprint] at hindex
    have hvalue := hunused state hstate
    rw [digest_eq_of_fingerprint hlocate hprint] at hstate
    exact ⟨_, build_of_unused journal hsteady hstate hvalue hsignal hindex⟩
  · intro found hfound
    obtain ⟨-, statements, -, -, hstatements, rfl⟩ :=
      parsed_of_build hsteady hlocate hprint hunused hfound
    exact ⟨statements, ofStatements statements, hstatements, isListing_ofStatements statements, rfl⟩

end

/-! ## Two files -/

/-- A module with two mapper files, and no snapshot. -/
def pairOfMappers (first second : String) : Workspace where
  files :=
    { home := ["home"]
      tree := .folder [("home", .folder [("m", .folder [("src", .folder [("com", .folder
        [("A.xml", .file (Utf8.encode first.toList) 0),
          ("B.xml", .file (Utf8.encode second.toList) 0)])])])])] }

def moduleOfPair : BuildModule where
  name := "m"
  root := { names := ["m"] }
  source := none
  resource := none

def locatedPair : List LocatedMapper :=
  [({ names := ["m", "src", "com", "A.xml"] }, "m"),
    ({ names := ["m", "src", "com", "B.xml"] }, "m")]

section
variable (first second : String)

theorem exists_fingerprint_pair : ∃ digest,
    fingerprint (pairOfMappers first second).files false locatedPair = .ok digest := by
  unfold fingerprint Fingerprint.digest
  rw [if_neg (by decide +kernel)]
  exact ⟨_, rfl⟩

theorem state_pair (digest : String) :
    (snapshotFile .standard "").state (pairOfMappers first second).files (.str digest) =
      .ok .absent := by
  have habsent : (pairOfMappers first second).files.existsAt (snapshotFile .standard "").path =
      .ok false := rfl
  simp only [SnapshotFile.state, habsent]

theorem unused_pair {digest : String} {state : SnapshotState}
    (h : (snapshotFile .standard "").state (pairOfMappers first second).files (.str digest) =
      .ok state) : state.value? ofJson = none := by
  rw [state_pair] at h
  cases h
  rfl

end

/-- A file with two statements of one identity, and a malformed one. -/
def oneIdentity : Workspace :=
  pairOfMappers ("<mapper namespace=\"n\"><select id=\"s\">FROM T</select>" ++
    "<update id=\"s\">UPDATE U FROM T</update></mapper>") "<mapper"

theorem build_lists_iff_oneIdentity :
    IsSteady .standard [moduleOfPair] oneIdentity.files ∧
      locate oneIdentity.files .standard [moduleOfPair] = .ok locatedPair ∧
      ∃ found statements index,
        ((build .standard "" [moduleOfPair]).outcome oneIdentity).1 = .ok found ∧
        parsed .standard oneIdentity.files locatedPair = .ok statements ∧
        statements.map (·.kind) = ["select", "update"] ∧
        IsListing index statements ∧ found = index.map .str := by
  have hsteady : IsSteady .standard [moduleOfPair] oneIdentity.files := by decide +kernel
  have hlocate : locate oneIdentity.files .standard [moduleOfPair] = .ok locatedPair := by
    decide +kernel
  have hkinds : (parsed .standard oneIdentity.files locatedPair).toOption.map (·.map (·.kind)) =
      some ["select", "update"] := by
    decide +kernel
  obtain ⟨digest, hprint⟩ := exists_fingerprint_pair _ "<mapper"
  cases hparsed : parsed .standard oneIdentity.files locatedPair with
  | error fault =>
    rw [hparsed] at hkinds
    cases hkinds
  | ok statements =>
    obtain ⟨hreturns, hlists⟩ :=
      build_lists_iff "" hsteady rfl hlocate hprint fun state => unused_pair _ _
    have hdecoded :=
      (exists_parsed_iff hsteady.wellFormed hlocate hprint).1 ⟨statements, hparsed⟩
    obtain ⟨found, hfound⟩ := hreturns.2 ⟨⟨_, state_pair _ _ digest⟩, ⟨_, rfl⟩, hdecoded⟩
    obtain ⟨statements', index, hstatements, hindex, hmap⟩ := hlists found hfound
    cases hparsed.symm.trans hstatements
    rw [hparsed] at hkinds
    exact ⟨hsteady, hlocate, found, statements, index, hfound, rfl, Option.some.inj hkinds, hindex,
      hmap⟩

/-- A file with an encoding that nobody knows, and one with a statement. -/
def strangeEncoding : Workspace :=
  pairOfMappers ("<?xml version=\"1.0\" encoding=\"plain\"?>" ++
    "<mapper namespace=\"n\"><select id=\"a\">FROM T</select></mapper>")
    "<mapper namespace=\"n\"><select id=\"s\">FROM T</select></mapper>"

/-- There is no index, so the statement of the second file is not listed either. -/
theorem build_strangeEncoding :
    IsSteady .standard [moduleOfPair] strangeEncoding.files ∧
      locate strangeEncoding.files .standard [moduleOfPair] = .ok locatedPair ∧
      (parsed .standard strangeEncoding.files (locatedPair.drop 1)).toOption.map
        (·.map (·.statementId)) = some ["s"] ∧
      ∀ found, ((build .standard "" [moduleOfPair]).outcome strangeEncoding).1 ≠ .ok found := by
  have hsteady : IsSteady .standard [moduleOfPair] strangeEncoding.files := by decide +kernel
  have hlocate : locate strangeEncoding.files .standard [moduleOfPair] = .ok locatedPair := by
    decide +kernel
  refine ⟨hsteady, hlocate, by decide +kernel, ?_⟩
  intro found hfound
  have hfault : (parsed .standard strangeEncoding.files locatedPair).isOk = false := by
    decide +kernel
  obtain ⟨digest, hprint⟩ := exists_fingerprint_pair _ _
  obtain ⟨-, statements, -, -, hstatements, -⟩ :=
    parsed_of_build hsteady hlocate hprint (fun state => unused_pair _ _) hfound
  rw [hstatements] at hfault
  cases hfault

end TableIndex

end Ripple
