import ZoneServices.Json.Fields

/-!
# Settings

How large a zone may be to be analysed, and which time to live a zone without records has.  Both
have to be greater than zero to be of use, which is asked for apart from reading them.
-/

namespace ZoneServices

/-- The settings of the analysis. -/
structure Settings where
  /-- Zones with more records are refused. -/
  maxRecords : Nat := 10000
  /-- Time to live of a zone without records, in seconds. -/
  emptyTtl : UInt32 := 3600
deriving DecidableEq, Repr

/-- Why settings are of no use. -/
inductive SettingsFault where
  | noRecords
  | noTtl
deriving DecidableEq, Repr

/-- The complaint about settings that cannot be used. -/
def SettingsFault.message : SettingsFault → String
  | .noRecords => "maxRecordsPerZone must be greater than 0"
  | .noTtl => "defaultZoneTtl must be greater than 0"

namespace Settings

/-- Checks that settings allow records, and that they give an empty zone a time to live. -/
def validate (settings : Settings) : Except SettingsFault Unit :=
  if settings.maxRecords = 0 then .error .noRecords
  else if settings.emptyTtl = 0 then .error .noTtl
  else .ok ()

/-- The names of the fields in a document. -/
def fieldNames : List String := ["maxRecordsPerZone", "defaultZoneTtl"]

/-- Settings as an object with all of its fields. -/
def encode (settings : Settings) : Json :=
  .ofMembers
    [ ("maxRecordsPerZone", .ofNat settings.maxRecords),
      ("defaultZoneTtl", .ofNat settings.emptyTtl.toNat) ]

/-- The settings of an object, in which missing fields have their defaults. -/
def decode? (value : Json) : Option Settings := do
  let [maxRecords, emptyTtl] ← value.fields? fieldNames
    | none
  let defaults : Settings := {}
  return {
    maxRecords := ← Json.defaulting Json.count? defaults.maxRecords maxRecords
    emptyTtl := ← Json.defaulting Json.word32? defaults.emptyTtl emptyTtl }

end Settings

end ZoneServices
