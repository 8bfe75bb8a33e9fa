-- SUMMARY: Naming policies, and the layers that they tell from the name of a type.
import Ripple.Name.Method
import Ripple.Text.CharClass

/-! # Naming policies

The layer of a type is told from its name.
-/

namespace Ripple

/-- How types of the two layers are named: with a marker somewhere in the name of the type or of a
type around it, or with a suffix. -/
structure Policy (ν : Type := String) where
  businessMarkers : List ν
  businessSuffixes : List ν
  accessMarkers : List ν
  accessSuffixes : List ν
deriving DecidableEq, Repr

namespace Policy

/-- The policy where nothing else is said. -/
def standard : Policy where
  businessMarkers := ["Service", "Facade", "Manager"]
  businessSuffixes := ["BL", "Logic"]
  accessMarkers := ["DbCmd", "Repository"]
  accessSuffixes := ["Cmd", "DAO", "Dao"]

def map (f : ν → μ) (policy : Policy ν) : Policy μ where
  businessMarkers := policy.businessMarkers.map f
  businessSuffixes := policy.businessSuffixes.map f
  accessMarkers := policy.accessMarkers.map f
  accessSuffixes := policy.accessSuffixes.map f

/-- The names of a type and of the types around it: the segments that begin with an upper-case
letter, or the last one if there is no such segment. -/
def typeNames (type : String) : List String :=
  let upper := (Name.segments type).filter fun segment =>
    segment.toList.head?.any Text.isUpperCase
  if upper.isEmpty then [Name.simple type] else upper

def hasMarker (name marker : String) : Bool :=
  Text.occursIn marker.toList name.toList

def hasSuffix (name suffix : String) : Bool :=
  suffix.toList.isSuffixOf name.toList

/-- Whether a type has one of the markers or suffixes. -/
def classifies (markers suffixes : List String) (type : String) : Bool :=
  let simple := Name.simple type
  !simple.isEmpty &&
    ((typeNames type).any (fun name => markers.any (hasMarker name)) ||
      suffixes.any (hasSuffix simple))

def isBusinessType (policy : Policy) (type : String) : Bool :=
  classifies policy.businessMarkers policy.businessSuffixes type

def isAccessType (policy : Policy) (type : String) : Bool :=
  classifies policy.accessMarkers policy.accessSuffixes type

/-- Whether a method belongs to a type of the business layer. -/
def isBusinessMethod (policy : Policy) (method : String) : Bool :=
  let owner := Name.ownerOf method
  !owner.isEmpty && policy.isBusinessType owner

end Policy

/-- How the layers are told apart. -/
structure Layers where
  /-- Which methods belong to the business layer. -/
  isBusiness : String → Bool
  /-- Which types belong to the data access layer. -/
  isAccess : String → Bool

/-- The layers that a policy tells apart. -/
def Policy.layers (policy : Policy) : Layers :=
  ⟨policy.isBusinessMethod, policy.isAccessType⟩

end Ripple
