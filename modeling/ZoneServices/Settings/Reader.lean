import ZoneServices.Settings
import ZoneServices.Yaml.Document

/-!
# Reading settings

The settings are a mapping, in which each may be left out and others are passed over, or a
document without a node.  A setting that is there has to be a number, and it may be there only
once.
-/

namespace ZoneServices

/-- Why a text does not give settings. -/
inductive SettingsError where
  | malformed
  | invalid (fault : SettingsFault)
deriving DecidableEq, Repr

/-- What is said of settings that cannot be read or used. -/
def SettingsError.message : SettingsError → String
  | .malformed => "Failed to parse engine settings"
  | .invalid fault => fault.message

namespace Settings

/-- The number below a limit that a member gives, another one if there is no such member. -/
def numberOf? (members : List (Yaml × Yaml)) (name : String) (limit missing : Nat) : Option Nat :=
  match members.filter fun member => member.1.text? == some name.toList with
  | [] => some missing
  | [member] => member.2.natural?.filter (· < limit)
  | _ => none

/-- The settings of a document; those that are left out have their defaults. -/
def ofDocument? : Yaml.Document → Option Settings
  | .empty | .node (.scalar .plain _ []) => some {}
  | .node (.mapping members) =>
    let defaults : Settings := {}
    if members.all fun member => member.1.text?.isSome then do
      let maxRecords ← numberOf? members "maxRecordsPerZone" UInt64.size defaults.maxRecords
      let emptyTtl ← numberOf? members "defaultZoneTtl" UInt32.size defaults.emptyTtl.toNat
      return { maxRecords, emptyTtl := UInt32.ofNat emptyTtl }
    else
      none
  | .node _ => none

/-- The settings that a text writes, if they can be used. -/
def read (text : Text) : Except SettingsError Settings :=
  match (Yaml.read? text).bind ofDocument? with
  | none => .error .malformed
  | some settings =>
    match settings.validate with
    | .ok () => .ok settings
    | .error fault => .error (.invalid fault)

end Settings

end ZoneServices
