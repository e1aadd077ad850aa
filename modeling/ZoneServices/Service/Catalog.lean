import ZoneServices.Json.Fields

/-!
# Descriptions of kinds

What an editor of zones is told about a kind of service: names, family, categories, and where a
service of the kind may be placed.
-/

namespace ZoneServices

/-- A broad group of kinds. -/
inductive ServiceFamily where
  | byPurpose
  | provider
  | hidden
deriving DecidableEq, Repr

namespace ServiceFamily

/-- The name that a family is stored under. -/
def name : ServiceFamily → String
  | .byPurpose => "abstract"
  | .provider => "provider"
  | .hidden => "hidden"

/-- The family of a name. -/
def ofName? (name : Text) : Option ServiceFamily :=
  [.byPurpose, .provider, .hidden].find? fun family : ServiceFamily => family.name.toList == name

/-- The JSON form of a family. -/
def encode (family : ServiceFamily) : Json :=
  .string family.name.toList

/-- The family of a JSON form: its name, alone or as the key of a null. -/
def decode? : Json → Option ServiceFamily
  | .string name => ofName? name
  | .object [(name, .null)] => ofName? name
  | _ => none

end ServiceFamily

/-- Where a service of a kind may be placed. -/
structure ServiceRestrictions where
  /-- Nothing else may be on its subdomain. -/
  alone : Bool := false
  /-- Kinds that may not be on its subdomain. -/
  exclusive : List Text := []
  /-- Only kinds with this restriction may be on its subdomain. -/
  nearAlone : Bool := false
  /-- No other service of the kind may be on its subdomain. -/
  single : Bool := false
  /-- It may only be at the origin of the zone. -/
  rootOnly : Bool := false
  /-- Record types that have to be supported. -/
  neededTypes : List Text := []
deriving DecidableEq, Repr

namespace ServiceRestrictions

/-- JSON form of restrictions; empty lists are left out. -/
def encode (restrictions : ServiceRestrictions) : Json :=
  .object <|
    [("alone".toList, .bool restrictions.alone)]
      ++ Json.optionalMember "exclusive" restrictions.exclusive.isEmpty
        (.ofList .string restrictions.exclusive)
      ++ [("nearAlone".toList, .bool restrictions.nearAlone),
        ("single".toList, .bool restrictions.single),
        ("rootOnly".toList, .bool restrictions.rootOnly)]
      ++ Json.optionalMember "needTypes" restrictions.neededTypes.isEmpty
        (.ofList .string restrictions.neededTypes)

/-- The restrictions of a JSON form; those that are missing do not hold. -/
def decode? (value : Json) : Option ServiceRestrictions := do
  let [alone, exclusive, nearAlone, single, rootOnly, neededTypes] ←
      value.fields? ["alone", "exclusive", "nearAlone", "single", "rootOnly", "needTypes"]
    | none
  return {
    alone := ← Json.defaulting Json.flag? false alone
    exclusive := ← Json.defaulting (Json.list? Json.text?) [] exclusive
    nearAlone := ← Json.defaulting Json.flag? false nearAlone
    single := ← Json.defaulting Json.flag? false single
    rootOnly := ← Json.defaulting Json.flag? false rootOnly
    neededTypes := ← Json.defaulting (Json.list? Json.text?) [] neededTypes }

end ServiceRestrictions

/-- The description of a kind. -/
structure ServiceDescription where
  name : Text
  description : Text
  family : ServiceFamily
  categories : List Text
  restrictions : ServiceRestrictions
deriving DecidableEq, Repr

namespace ServiceDescription

/-- The JSON form of a description. -/
def encode (description : ServiceDescription) : Json :=
  .ofMembers
    [ ("name", .string description.name),
      ("description", .string description.description),
      ("family", description.family.encode),
      ("categories", .ofList .string description.categories),
      ("restrictions", description.restrictions.encode) ]

/-- The description of a JSON form; categories and restrictions may be missing. -/
def decode? (value : Json) : Option ServiceDescription := do
  let [name, description, family, categories, restrictions] ←
      value.fields? ["name", "description", "family", "categories", "restrictions"]
    | none
  return {
    name := ← Json.required Json.text? name
    description := ← Json.required Json.text? description
    family := ← Json.required ServiceFamily.decode? family
    categories := ← Json.defaulting (Json.list? Json.text?) [] categories
    restrictions := ← Json.defaulting ServiceRestrictions.decode? {} restrictions }

end ServiceDescription

end ZoneServices
