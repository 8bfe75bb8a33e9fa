-- SUMMARY: When a package makes no difference to the layers of a type.
import Ripple.Policy.Reading
import Ripple.Proofs.Name.Method

/-!
# Packages

The layers of a type are told from the segments of its name that begin with an upper-case letter and
from the last segment. So a type belongs to the same layers with its package as without it, if no
segment of the package begins with an upper-case letter, and only then.
-/

namespace Ripple

/-! ## Names with a package -/

namespace Name

/-- Whether no segment begins with an upper-case letter. -/
def IsPackage (package : String) : Prop :=
  ∀ segment ∈ segments package, ∀ c ∈ segment.toList.head?, Text.isUpperCase c = false

theorem segments_append (package name : String) :
    segments (package ++ "." ++ name) = segments package ++ segments name := by
  have hpoint : isPoint '.' = true := rfl
  simp [segments, Text.splitWhen_append_mark _ hpoint]

theorem simple_append (package name : String) : simple (package ++ "." ++ name) = simple name := by
  simp only [simple_eq_getLast, segments_append]
  exact List.getLast_append_of_ne_nil _ (segments_ne_nil name)

theorem isQualified_append (owner method : String) :
    isQualified (owner ++ "." ++ method) = true := by
  simp [isQualified, isPoint]

/-- A package in front of an identifier belongs to its type, if the identifier has one. -/
theorem ownerOf_append_of_isQualified {id : String} (h : isQualified id = true)
    (package : String) : ownerOf (package ++ "." ++ id) = package ++ "." ++ ownerOf id := by
  cases hcut : Text.cutLast? isPoint id.toList with
  | none =>
    obtain ⟨c, hc, hpoint⟩ := List.any_eq_true.1 h
    rw [Text.cutLast?_eq_none hcut c hc] at hpoint
    cases hpoint
  | some parts =>
    obtain ⟨owner, method⟩ := parts
    obtain ⟨mark, hmark, hid, hmethod⟩ := Text.cutLast?_eq_some hcut
    -- the last point stays the last one
    have hpackage : Text.cutLast? isPoint (package ++ "." ++ id).toList =
        some ((package ++ "." ++ String.ofList owner).toList, method) := by
      have hlast := Text.cutLast?_append_mark (package.toList ++ '.' :: owner) hmark hmethod
      simpa [hid] using hlast
    simp only [ownerOf, splitMethod, hcut, hpackage, String.ofList_toList]

end Name

namespace Policy

/-! ## Packages that do not count -/

section
variable {package : String}

/-- No segment of a package is taken for the name of a type. -/
theorem typeNames_append (h : Name.IsPackage package) (type : String) :
    typeNames (package ++ "." ++ type) = typeNames type := by
  have hnone : (Name.segments package).filter
      (fun segment => segment.toList.head?.any Text.isUpperCase) = [] := by
    rw [List.filter_eq_nil_iff]
    intro segment hsegment
    rw [Bool.not_eq_true, Option.any_eq_false]
    exact h segment hsegment
  simp only [typeNames, Name.segments_append, Name.simple_append, List.filter_append, hnone,
    List.nil_append]

theorem classifies_append (h : Name.IsPackage package) (markers suffixes : List String)
    (type : String) :
    classifies markers suffixes (package ++ "." ++ type) = classifies markers suffixes type := by
  simp only [classifies, Name.simple_append, typeNames_append h]

theorem classifiesAny_append (h : Name.IsPackage package) (markers suffixes : List Datum)
    (type : String) :
    classifiesAny markers suffixes (package ++ "." ++ type) =
      classifiesAny markers suffixes type := by
  simp only [classifiesAny, Name.simple_append, typeNames_append h]

end

/-- A method without a type needs no case of its own, since a type without a name has no layer. -/
theorem isBusinessMethod_eq (policy : Policy) (method : String) :
    policy.isBusinessMethod method = policy.isBusinessType (Name.ownerOf method) := by
  by_cases howner : Name.ownerOf method = ""
  · have hnone : policy.isBusinessType "" = false := rfl
    simp [isBusinessMethod, howner, hnone]
  · simp [isBusinessMethod, howner]

theorem isBusinessMethodAny_eq (policy : Policy Datum) (method : String) :
    policy.isBusinessMethodAny method =
      classifiesAny policy.businessMarkers policy.businessSuffixes (Name.ownerOf method) := by
  unfold isBusinessMethodAny
  split
  next howner =>
    rw [howner]
    rfl
  next => rfl

/-! ## Packages that count -/

theorem mem_typeNames {type segment : String} (hsegment : segment ∈ Name.segments type)
    (hupper : segment.toList.head?.any Text.isUpperCase = true) : segment ∈ typeNames type := by
  have hmem : segment ∈ (Name.segments type).filter
      fun segment => segment.toList.head?.any Text.isUpperCase :=
    List.mem_filter.2 ⟨hsegment, hupper⟩
  unfold typeNames
  rwa [if_neg]
  rw [List.isEmpty_iff]
  exact List.ne_nil_of_mem hmem

/-- The policy with one marker of the business layer and nothing else. -/
def marking (marker : String) : Policy :=
  { businessMarkers := [marker], businessSuffixes := [], accessMarkers := [], accessSuffixes := [] }

theorem isBusinessType_marking {marker type : String} :
    (marking marker).isBusinessType type = true ↔
      Name.simple type ≠ "" ∧ ∃ name ∈ typeNames type, hasMarker name marker = true := by
  simp [marking, isBusinessType, classifies]

theorem hasMarker_self (name : String) : hasMarker name name = true := by
  unfold hasMarker
  cases name.toList <;> simp [Text.occursIn]

/-- A segment of a package that begins with an upper-case letter marks every type of the package,
but not a type with a small letter for its name. -/
theorem isBusinessType_marking_segment {package segment : String}
    (hsegment : segment ∈ Name.segments package)
    (hupper : segment.toList.head?.any Text.isUpperCase = true) :
    (marking segment).isBusinessType (package ++ "." ++ "x") = true ∧
      (marking segment).isBusinessType "x" = false := by
  constructor
  · refine isBusinessType_marking.2 ⟨?_, segment, mem_typeNames ?_ hupper, hasMarker_self segment⟩
    · rw [Name.simple_append]
      decide
    · rw [Name.segments_append]
      exact List.mem_append_left _ hsegment
  · rw [Bool.eq_false_iff, ne_eq, isBusinessType_marking]
    rintro ⟨-, name, hname, hmarker⟩
    have hnames : typeNames "x" = ["x"] := by decide
    obtain rfl : name = "x" := by simpa [hnames] using hname
    unfold hasMarker at hmarker
    cases hletters : segment.toList with
    | nil => simp [hletters] at hupper
    | cons c letters =>
      rw [hletters] at hupper hmarker
      obtain ⟨rfl, -⟩ : c = 'x' ∧ letters = [] := by simpa [Text.occursIn] using hmarker
      have hsmall : Text.isUpperCase 'x' = false := by decide
      simp [hsmall] at hupper

/-- Packages do not count. A type belongs to the same layers with a package as without it, and so
does an identifier with one of its methods, whatever the policy is: one of texts, or one with
conventions that are a fault where they are used. This is so exactly for the packages in which no
segment begins with an upper-case letter. -/
theorem package_ignored_iff (package : String) :
    Name.IsPackage package ↔ ∀ type method : String,
      (∀ policy : Policy,
        policy.isBusinessType (package ++ "." ++ type) = policy.isBusinessType type ∧
        policy.isAccessType (package ++ "." ++ type) = policy.isAccessType type ∧
        policy.isBusinessMethod (package ++ "." ++ type ++ "." ++ method) =
          policy.isBusinessMethod (type ++ "." ++ method)) ∧
      ∀ policy : Policy Datum,
        classifiesAny policy.businessMarkers policy.businessSuffixes (package ++ "." ++ type) =
          classifiesAny policy.businessMarkers policy.businessSuffixes type ∧
        policy.isAccessTypeAny (package ++ "." ++ type) = policy.isAccessTypeAny type ∧
        policy.isAccessTypeAny (Name.ownerOf (package ++ "." ++ type ++ "." ++ method)) =
          policy.isAccessTypeAny (Name.ownerOf (type ++ "." ++ method)) ∧
        policy.isBusinessMethodAny (package ++ "." ++ type ++ "." ++ method) =
          policy.isBusinessMethodAny (type ++ "." ++ method) := by
  constructor
  · intro h type method
    have howner : Name.ownerOf (package ++ "." ++ type ++ "." ++ method) =
        package ++ "." ++ Name.ownerOf (type ++ "." ++ method) := by
      have hqualified := Name.isQualified_append type method
      simpa only [String.append_assoc] using Name.ownerOf_append_of_isQualified hqualified package
    refine ⟨fun policy => ⟨?_, ?_, ?_⟩, fun policy => ⟨?_, ?_, ?_, ?_⟩⟩
    · exact classifies_append h _ _ type
    · exact classifies_append h _ _ type
    · rw [isBusinessMethod_eq, isBusinessMethod_eq, howner]
      exact classifies_append h _ _ _
    · exact classifiesAny_append h _ _ type
    · exact classifiesAny_append h _ _ type
    · rw [howner]
      exact classifiesAny_append h _ _ _
    · rw [isBusinessMethodAny_eq, isBusinessMethodAny_eq, howner]
      exact classifiesAny_append h _ _ _
  · -- a segment that begins with an upper-case letter is a marker that tells two names apart
    intro h segment hsegment c hc
    rw [Bool.eq_false_iff]
    intro hupper
    have hbegins : segment.toList.head?.any Text.isUpperCase = true :=
      (Option.any_eq_true _ _).2 ⟨c, hc, hupper⟩
    obtain ⟨hwith, hwithout⟩ := isBusinessType_marking_segment hsegment hbegins
    have hsame := ((h "x" "").1 (marking segment)).1
    rw [hwith, hwithout] at hsame
    cases hsame

-- a folder of services makes no service, unless it is spelled like a type
example : Policy.standard.isBusinessMethod "com.acme.service.OrderService.Helper.load" = true ∧
    Policy.standard.isBusinessMethod "com.acme.service.Helper.load" = false ∧
    Policy.standard.isBusinessMethod "com.acme.Service.Helper.load" = true := by
  decide +kernel

end Policy

end Ripple
