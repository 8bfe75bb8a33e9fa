-- SUMMARY: Policies of texts classify without faults.
import Ripple.Policy.Reading

/-!
# Policies of texts

A policy whose conventions are all texts classifies without a fault, and as the plain policy does.
-/

namespace Ripple

/-- All of a list of texts is read. -/
theorem Datum.leadingTexts_map_text (texts : List String) :
    Datum.leadingTexts (texts.map .text) = (texts, false) := by
  induction texts with
  | nil => rfl
  | cons text rest ih => simp [Datum.leadingTexts, ih]

namespace Policy

theorem alternatives_map_text (suffixes : List String) :
    alternatives (suffixes.map .text) = suffixes.map .text := by
  induction suffixes with
  | nil => rfl
  | cons suffix rest ih => simpa [alternatives] using ih

theorem classifiesAny_map_text (markers suffixes : List String) (type : String) :
    classifiesAny (markers.map .text) (suffixes.map .text) type =
      .ok (classifies markers suffixes type) := by
  simp only [classifiesAny, classifies, alternatives_map_text, Datum.leadingTexts_map_text,
    Bool.false_eq_true, if_false]
  cases (Name.simple type).isEmpty with
  | true => rfl
  | false =>
    cases (typeNames type).any fun name => markers.any (hasMarker name) with
    | true => rfl
    | false => cases suffixes.any (hasSuffix (Name.simple type)) <;> rfl

variable (policy : Policy)

theorem hasOnlyTexts_map_text : (policy.map Datum.text).hasOnlyTexts = true := by
  simp [hasOnlyTexts, Policy.map, Datum.asText, Except.toBool]

theorem isBusinessMethodAny_map_text (method : String) :
    (policy.map .text).isBusinessMethodAny method = .ok (policy.isBusinessMethod method) := by
  unfold isBusinessMethodAny isBusinessMethod
  split
  next howner => simp [howner]
  next owner hne =>
    have hfull : (Name.ownerOf method).isEmpty = false := by simpa using hne
    simp only [hfull, Bool.not_false, Bool.true_and]
    exact classifiesAny_map_text ..

theorem isAccessTypeAny_map_text (type : String) :
    (policy.map .text).isAccessTypeAny type = .ok (policy.isAccessType type) :=
  classifiesAny_map_text ..

/-- The layers of a policy of texts. -/
theorem layersAny_map_text : (policy.map .text).layersAny = policy.layers := by
  simp only [layersAny, layers, isBusinessMethodAny_map_text, isAccessTypeAny_map_text]

end Policy

end Ripple
