-- SUMMARY: Paths of declared types, and the qualified names that a file knows them by.
import Ripple.Proofs.Fields
import Ripple.Proofs.Java.Names
import Ripple.Proofs.Name.Method

/-! # Names of declared types

A type has a path, the names of the types around it from the outermost, and its own. Its qualified
name is that path inside the package. A file declares its types under the last names of their paths,
and of types with one last name the first counts. So where these names are distinct, each stands for
its own type; and where a file does not declare a name, its imports and its package tell what the
name stands for.
-/

namespace Ripple

namespace Name

/-- A further segment stands behind a point. -/
theorem join_append_singleton {segments : List String} (h : segments ≠ []) (last : String) :
    join (segments ++ [last]) = join segments ++ "." ++ last := by
  induction segments with
  | nil => exact absurd rfl h
  | cons segment segments ih =>
    cases segments with
    | nil => rw [join_singleton, List.singleton_append, join_pair]
    | cons next segments =>
      have ih := ih (List.cons_ne_nil next segments)
      simp only [join, List.cons_append, String.intercalate_cons_cons] at ih ⊢
      rw [ih]
      simp only [String.append_assoc]

theorem join_ne_empty {segments : List String} (h : segments ≠ [])
    (hsegments : ∀ segment ∈ segments, segment ≠ "") : join segments ≠ "" := by
  obtain ⟨before, last, rfl⟩ := (List.eq_nil_or_concat' segments).resolve_left h
  have hlast : last ≠ "" := hsegments last (by simp)
  cases before with
  | nil => rwa [List.nil_append, join_singleton]
  | cons first before =>
    rw [join_append_singleton (List.cons_ne_nil first before)]
    simp

end Name

theorem Text.cutFirst?_of_no_mark {α : Type} {p : α → Bool} {s : List α}
    (h : ∀ a ∈ s, p a = false) : Text.cutFirst? p s = none := by
  induction s with
  | nil => rfl
  | cons a s ih =>
    have ha : p a = false := h a List.mem_cons_self
    simp [Text.cutFirst?, ha, ih fun b hb => h b (.tail _ hb)]

/-! ## Declaring types by their paths -/

/-- The simple name of the type with a path. -/
def simpleName (path : List String) : String :=
  path.getLastD ""

@[simp]
theorem simpleName_append_singleton (path : List String) (name : String) :
    simpleName (path ++ [name]) = name := by
  simp [simpleName]

namespace NameContext

variable (context : NameContext)

/-- The qualified name of the type with a path. -/
def pathName (path : List String) : String :=
  context.inPackage (Name.join path)

/-- The name of the type whose path this is; on the outermost level there is none. -/
def outerName? (path : List String) : Option String :=
  if path.isEmpty then none else some (context.pathName path)

theorem inPackage_ne_empty {name : String} (h : name ≠ "") : context.inPackage name ≠ "" := by
  unfold inPackage
  split
  · exact h
  · simp

theorem outerName?_append_singleton (path : List String) (name : String) :
    context.outerName? (path ++ [name]) = some (context.pathName (path ++ [name])) := by
  simp [outerName?]

/-- The name that a type is declared under is that of its path. -/
theorem declaredName_outerName? {path : List String} (hpath : ∀ segment ∈ path, segment ≠ "")
    (name : String) :
    context.declaredName name (context.outerName? path) = context.pathName (path ++ [name]) := by
  by_cases hempty : path = []
  · subst hempty
    rw [List.nil_append, pathName, Name.join_singleton]
    rfl
  · have houter : context.pathName path ≠ "" :=
      context.inPackage_ne_empty (Name.join_ne_empty hempty hpath)
    have hsome : context.outerName? path = some (context.pathName path) := by
      simp [outerName?, hempty]
    rw [hsome, declaredName, if_neg (by simpa using houter), pathName, pathName,
      Name.join_append_singleton hempty]
    unfold inPackage
    split
    · rfl
    · simp only [String.append_assoc]

section Declare

@[simp]
theorem package_declare (name qualified : String) :
    (context.declare name qualified).package = context.package := by
  unfold declare
  split <;> rfl

@[simp]
theorem imports_declare (name qualified : String) :
    (context.declare name qualified).imports = context.imports := by
  unfold declare
  split <;> rfl

/-- A type that has the name of an earlier one is not found. -/
theorem lookup_declare (name qualified other : String) :
    (context.declare name qualified).declared.lookup other =
      (context.declared ++ [(name, qualified)]).lookup other := by
  unfold declare
  split
  next hany =>
    obtain ⟨entry, hentry, hname⟩ := List.any_eq_true.1 hany
    obtain rfl : entry.1 = name := by simpa using hname
    -- the new entry would be last, so it is found neither under its own name nor under another
    by_cases hother : other = entry.1
    · subst hother
      have hfound : (context.declared.lookup entry.1).isSome := by
        rw [Option.isSome_iff_ne_none]
        intro hnone
        simpa using List.lookup_eq_none_iff.1 hnone entry hentry
      obtain ⟨found, hfound⟩ := Option.isSome_iff_exists.1 hfound
      rw [List.lookup_append, hfound]
      rfl
    · have hne : (other == entry.1) = false := beq_eq_false_iff_ne.2 hother
      rw [List.lookup_append, List.lookup_cons, hne]
      simp
  next => rfl

/-- Declares the types with some paths, in order. -/
def declarePaths (paths : List (List String)) : NameContext :=
  paths.foldl (fun context path => context.declare (simpleName path) (context.pathName path))
    context

@[simp]
theorem package_declarePaths (paths : List (List String)) :
    (context.declarePaths paths).package = context.package := by
  induction paths generalizing context with
  | nil => rfl
  | cons path paths ih => exact (ih _).trans (context.package_declare _ _)

@[simp]
theorem imports_declarePaths (paths : List (List String)) :
    (context.declarePaths paths).imports = context.imports := by
  induction paths generalizing context with
  | nil => rfl
  | cons path paths ih => exact (ih _).trans (context.imports_declare _ _)

variable {context} in
theorem pathName_congr {other : NameContext} (h : other.package = context.package) :
    other.pathName = context.pathName := by
  funext path
  simp only [pathName, inPackage, h]

variable {context} in
theorem outerName?_congr {other : NameContext} (h : other.package = context.package) :
    other.outerName? = context.outerName? := by
  funext path
  simp only [outerName?, pathName_congr h]

theorem declarePaths_append (first second : List (List String)) :
    context.declarePaths (first ++ second) = (context.declarePaths first).declarePaths second :=
  List.foldl_append

theorem lookup_declarePaths (paths : List (List String)) (name : String) :
    (context.declarePaths paths).declared.lookup name =
      (context.declared ++ paths.map fun path => (simpleName path, context.pathName path)).lookup
        name := by
  induction paths generalizing context with
  | nil => simp [declarePaths]
  | cons path paths ih =>
    have hnext : (context.declarePaths (path :: paths)) =
        (context.declare (simpleName path) (context.pathName path)).declarePaths paths := rfl
    rw [hnext, ih, List.lookup_append, lookup_declare, pathName_congr (context.package_declare _ _),
      ← List.lookup_append, List.append_assoc]
    rfl

end Declare

section Qualify

variable {context}

theorem qualify_of_isName {name : String} (h : Java.IsName name) :
    context.qualify name = context.qualifySimple name := by
  rw [qualify, if_neg (by simpa using h.ne_empty), Text.cutFirst?_of_no_mark h.no_point]

theorem qualifySimple_of_lookup {name qualified : String}
    (h : context.declared.lookup name = some qualified) :
    context.qualifySimple name = qualified := by
  rw [← map_snd_find?, Option.map_eq_some_iff] at h
  obtain ⟨entry, hentry, rfl⟩ := h
  simp only [qualifySimple, hentry]

theorem qualifySimple_of_lookup_eq_none {name : String}
    (h : context.declared.lookup name = none) :
    context.qualifySimple name =
      (context.imports.find? (importsName · name)).getD (context.inPackage name) := by
  rw [← map_snd_find?, Option.map_eq_none_iff] at h
  rw [qualifySimple, h]
  cases context.imports.find? (importsName · name) <;> rfl

end Qualify

end NameContext

/-! ## The types of a file -/

namespace Java

mutual

/-- The paths of the types that a node declares, where `outer` is the path of the type around it. -/
def Node.typePaths (outer : List String) : Node → List (List String)
  | .mk role _ _ children =>
    match role with
    | .type name _ => (outer ++ [name]) :: memberTypePaths (outer ++ [name]) children
    | _ => []

def memberTypePaths (outer : List String) : List Node → List (List String)
  | [] => []
  | node :: nodes => node.typePaths outer ++ memberTypePaths outer nodes

end

/-- The paths of all types that a file declares, at any depth. -/
def CompilationUnit.typePaths (unit : CompilationUnit) : List (List String) :=
  memberTypePaths [] unit.types

theorem IsName.ne_empty_append {path : List String} {name : String} (hname : IsName name)
    (hpath : ∀ segment ∈ path, segment ≠ "") : ∀ segment ∈ path ++ [name], segment ≠ "" := by
  simpa [or_imp, forall_and] using ⟨hpath, hname.ne_empty⟩

mutual

theorem Node.isName_of_mem_typePaths {outer : List String} :
    ∀ {node : Node}, node.IsNamed → ∀ path ∈ node.typePaths outer, IsName (simpleName path)
  | .mk role _ _ children, h, path, hpath => by
    obtain ⟨hrole, -, hchildren⟩ := Node.isNamed_mk.1 h
    cases role with
    | type name superclass =>
      obtain rfl | hpath := List.mem_cons.1 hpath
      · rw [simpleName_append_singleton]
        exact hrole
      · exact isName_of_mem_memberTypePaths hchildren path hpath
    | _ => cases hpath

theorem isName_of_mem_memberTypePaths {outer : List String} :
    ∀ {nodes : List Node}, AllNamed nodes → ∀ path ∈ memberTypePaths outer nodes,
      IsName (simpleName path)
  | [], _, path, hpath => by cases hpath
  | node :: nodes, h, path, hpath => by
    obtain ⟨hnode, hnodes⟩ := allNamed_cons.1 h
    obtain hpath | hpath := List.mem_append.1 hpath
    · exact Node.isName_of_mem_typePaths hnode path hpath
    · exact isName_of_mem_memberTypePaths hnodes path hpath

end

mutual

/-- A node declares the types that have its paths. -/
theorem Node.declareTypes_eq {path : List String} (hpath : ∀ segment ∈ path, segment ≠ "")
    (context : NameContext) : ∀ {node : Node}, node.IsNamed →
      node.declareTypes (context.outerName? path) context =
        context.declarePaths (node.typePaths path)
  | .mk role _ _ children, h => by
    obtain ⟨hrole, -, hchildren⟩ := Node.isNamed_mk.1 h
    cases role with
    | type name superclass =>
      have hname : IsName name := hrole
      rw [Node.declareTypes, Node.typePaths]
      simp only [context.declaredName_outerName? hpath]
      -- the members are declared in the context that has this type, which is of the same package
      have hsame := context.package_declare name (context.pathName (path ++ [name]))
      rw [← context.outerName?_append_singleton, ← NameContext.outerName?_congr hsame,
        declareAll_eq (hname.ne_empty_append hpath) _ hchildren]
      simp [NameContext.declarePaths]
    | _ => rfl

theorem declareAll_eq {path : List String} (hpath : ∀ segment ∈ path, segment ≠ "")
    (context : NameContext) : ∀ {nodes : List Node}, AllNamed nodes →
      declareAll (context.outerName? path) context nodes =
        context.declarePaths (memberTypePaths path nodes)
  | [], _ => rfl
  | node :: nodes, h => by
    obtain ⟨hnode, hnodes⟩ := allNamed_cons.1 h
    have hsame := context.package_declarePaths (node.typePaths path)
    rw [declareAll, memberTypePaths, Node.declareTypes_eq hpath context hnode,
      ← NameContext.outerName?_congr hsame, declareAll_eq hpath _ hnodes,
      NameContext.declarePaths_append]

end

namespace CompilationUnit

variable {unit : CompilationUnit} (h : AllNamed unit.types)
include h

theorem nameContext_eq : unit.nameContext =
    NameContext.declarePaths ⟨unit.package, unit.imports, []⟩ unit.typePaths := by
  have hnone : ∀ segment ∈ ([] : List String), segment ≠ "" := by simp
  exact declareAll_eq hnone _ h

theorem package_nameContext : unit.nameContext.package = unit.package := by
  rw [nameContext_eq h, NameContext.package_declarePaths]

theorem imports_nameContext : unit.nameContext.imports = unit.imports := by
  rw [nameContext_eq h, NameContext.imports_declarePaths]

theorem lookup_declared (name : String) : unit.nameContext.declared.lookup name =
    (unit.typePaths.map fun path => (simpleName path, unit.nameContext.pathName path)).lookup
      name := by
  have hsame : unit.nameContext.pathName =
      NameContext.pathName ⟨unit.package, unit.imports, []⟩ :=
    NameContext.pathName_congr (package_nameContext h)
  rw [hsame, nameContext_eq h, NameContext.lookup_declarePaths, List.nil_append]

/-- Where no two types have one simple name, each name stands for its own type. -/
theorem qualify_simpleName (hnodup : (unit.typePaths.map simpleName).Nodup) {path : List String}
    (hpath : path ∈ unit.typePaths) :
    unit.nameContext.qualify (simpleName path) = unit.nameContext.pathName path := by
  rw [NameContext.qualify_of_isName (isName_of_mem_memberTypePaths h path hpath)]
  apply NameContext.qualifySimple_of_lookup
  rw [lookup_declared h]
  apply lookup_of_mem
  · simpa [Function.comp_def] using hnodup
  · exact List.mem_map_of_mem hpath

/-- A name that the file does not declare stands for what its first import says, or for a type of
its package. -/
theorem qualify_of_not_declared {name : String} (hname : IsName name)
    (hforeign : name ∉ unit.typePaths.map simpleName) :
    unit.nameContext.qualify name =
      (unit.imports.find? (NameContext.importsName · name)).getD
        (unit.nameContext.inPackage name) := by
  have hnone : unit.nameContext.declared.lookup name = none := by
    rw [lookup_declared h, List.lookup_eq_none_iff]
    intro entry hentry
    obtain ⟨path, hpath, rfl⟩ := List.mem_map.1 hentry
    rw [bne_iff_ne]
    rintro rfl
    exact hforeign (List.mem_map_of_mem hpath)
  rw [NameContext.qualify_of_isName hname, NameContext.qualifySimple_of_lookup_eq_none hnone,
    imports_nameContext h]

end CompilationUnit

end Java

end Ripple
