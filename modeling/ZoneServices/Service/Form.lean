import ZoneServices.Json.Fields

/-!
# Settings forms

A service may present its settings in steps, each of which is a form that shows some of its fields.
-/

namespace ZoneServices

/-- One step of the settings of a service. -/
structure SettingsForm where
  beforeText : Text := []
  afterText : Text := []
  fields : List Text
  /-- The step that follows, unless this one is the last. -/
  nextStep : Option Int32 := none
deriving DecidableEq, Repr

namespace SettingsForm

/-- JSON form of a form; empty texts and the step after the last one are left out. -/
def encode (form : SettingsForm) : Json :=
  .object <|
    Json.optionalMember "beforeText" form.beforeText.isEmpty (.string form.beforeText)
      ++ Json.optionalMember "afterText" form.afterText.isEmpty (.string form.afterText)
      ++ [("fields".toList, .ofList .string form.fields)]
      ++ match form.nextStep with
         | some step => [("nextStep".toList, .ofInt step.toInt)]
         | none => []

/-- The form of a JSON form, in which only the fields cannot be missing. -/
def decode? (value : Json) : Option SettingsForm := do
  let [beforeText, afterText, fields, nextStep] ←
      value.fields? ["beforeText", "afterText", "fields", "nextStep"]
    | none
  return {
    beforeText := ← Json.defaulting Json.text? [] beforeText
    afterText := ← Json.defaulting Json.text? [] afterText
    fields := ← Json.required (Json.list? Json.text?) fields
    nextStep := ← Json.optional Json.int32? nextStep }

end SettingsForm

end ZoneServices
