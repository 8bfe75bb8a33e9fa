-- SUMMARY: Naming policies read from a file, and layers told by conventions that may be no texts.
import Ripple.Policy.Basic
import Ripple.Workspace
import Ripple.Yaml.Document

/-! # Reading naming policies

A policy file names some of the conventions and leaves the others as they are. The conventions are
taken over as they are written; one that is no text is a fault where it is used.
-/

namespace Ripple.Policy

def source : String := "table_impact.policy"

/-- The suffixes that conventions stand for. A pair stands for two. -/
def alternatives (suffixes : List Datum) : List Datum :=
  suffixes.flatMap fun
    | .pair first second => [first, second]
    | suffix => [suffix]

/-- Whether a type has one of the markers or suffixes. They are tried in order, and it is a fault to
come to one that is no text. -/
def classifiesAny (markers suffixes : List Datum) (type : String) : Except Fault Bool :=
  let simple := Name.simple type
  let (markers, faultyMarker) := Datum.leadingTexts markers
  let (suffixes, faultySuffix) := Datum.leadingTexts (alternatives suffixes)
  let names := if faultyMarker then (typeNames type).take 1 else typeNames type
  if simple.isEmpty then .ok false
  else if names.any fun name => markers.any (hasMarker name) then .ok true
  else if faultyMarker then .error .wrongType
  else if suffixes.any (hasSuffix simple) then .ok true
  else if faultySuffix then .error .wrongType
  else .ok false

/-- Whether a method belongs to a type of the business layer. -/
def isBusinessMethodAny (policy : Policy Datum) (method : String) : Except Fault Bool :=
  match Name.ownerOf method with
  | "" => .ok false
  | owner => classifiesAny policy.businessMarkers policy.businessSuffixes owner

/-- Whether a type belongs to the data access layer. -/
def isAccessTypeAny (policy : Policy Datum) (type : String) : Except Fault Bool :=
  classifiesAny policy.accessMarkers policy.accessSuffixes type

/-- Whether all conventions are texts, so that no classification is a fault. -/
def hasOnlyTexts (policy : Policy Datum) : Bool :=
  let isText (value : Datum) : Bool := value.asText.toBool
  policy.businessMarkers.all isText && policy.businessSuffixes.all isText &&
    policy.accessMarkers.all isText && policy.accessSuffixes.all isText

/-- The layers that a policy tells apart where no classification is a fault. -/
def layersAny (policy : Policy Datum) : Layers :=
  let holds (answer : Except Fault Bool) : Bool :=
    match answer with
    | .ok b => b
    | .error _ => false
  ⟨fun method => holds (policy.isBusinessMethodAny method),
    fun type => holds (policy.isAccessTypeAny type)⟩

/-- A section of a policy file. One that is absent or empty says nothing. -/
def section? (key : String) (definitions : Datum) : Datum :=
  match definitions.field? key with
  | some value => if value.isEmpty then .map [] else value
  | none => .map []

/-- A list of a section, or what is said without it. -/
def entries (part : Datum) (key : String) (fallback : List Datum) : Except Fault (List Datum) :=
  match part.fields?, part.field? key with
  | none, _ => .error .missingPart
  | some _, some value => value.items
  | some _, none => .ok fallback

/-- The policy that definitions make of another. -/
def override (base : Policy Datum) (definitions : Datum) : Except Fault (Policy Datum) := do
  let business := section? "business_layer" definitions
  let access := section? "data_access" definitions
  return {
    businessMarkers := ← entries business "markers" base.businessMarkers
    businessSuffixes := ← entries business "suffixes" base.businessSuffixes
    accessMarkers := ← entries access "markers" base.accessMarkers
    accessSuffixes := ← entries access "suffixes" base.accessSuffixes }

/-- The policy that a file makes of another, and the messages about it. Without the file the policy
stays as it is. -/
def load (files : Disk) (journal : String) (path : Path) (base : Policy Datum) :
    Except Fault (List Message × Policy Datum) :=
  match files.entryAt path with
  | .error e => .error e.fault
  | .ok (some (.file bytes _)) =>
    match Yaml.read bytes with
    | .error .malformedDocument =>
      let text := "Failed to load naming policy file " ++ path.text
      .ok ([⟨.error, journal, text⟩], base)
    | .error fault => .error fault
    | .ok definitions => do
      let definitions := if definitions.isEmpty then .map [] else definitions
      if definitions.fields?.isSome then
        let policy ← override base definitions
        .ok ([⟨.info, journal, "Loaded naming policy from " ++ path.text⟩], policy)
      else
        let text := "Naming policy file " ++ path.text ++ " must contain a mapping."
        .ok ([⟨.error, journal, text⟩], base)
  | .ok _ => .ok ([], base)

end Ripple.Policy
