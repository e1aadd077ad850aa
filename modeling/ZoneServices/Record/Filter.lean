import ZoneServices.Record.Basic

/-!
# Record filters

Search criteria for records.  A record matches a filter if it meets every criterion that is set;
an empty text and a time to live of zero set nothing.  Names are compared up to the case of
ASCII letters, the canonical text as it stands.
-/

namespace ZoneServices

/-- Criteria for records. -/
structure RecordFilter where
  ownerStart : Text := []
  owner : Text := []
  ownerEnd : Text := []
  contained : Text := []
  type : Option RecordType := none
  ttl : UInt32 := 0
deriving DecidableEq, Repr

namespace RecordFilter

/-- Whether a text starts with another, up to the case of ASCII letters. -/
def startsWithFolded (text start : Text) : Bool :=
  match Text.splitAtOctet? text (Text.octetSize start) with
  | some (head, _) => Text.sameFolded head start
  | none => false

/-- Whether a text ends with another, up to the case of ASCII letters. -/
def endsWithFolded (text ending : Text) : Bool :=
  Text.octetSize ending ≤ Text.octetSize text
    && match Text.splitAtOctet? text (Text.octetSize text - Text.octetSize ending) with
       | some (_, tail) => Text.sameFolded tail ending
       | none => false

/-- The filter that sets nothing but a type. -/
def ofType (type : RecordType) : RecordFilter :=
  { type := some type }

/-- A filter that also asks for an owner, which is made absolute. -/
def withOwner (filter : RecordFilter) (owner : Text) : RecordFilter :=
  { filter with owner := Owner.qualified owner }

/-- Whether a record meets every criterion of a filter. -/
def accepts (filter : RecordFilter) (record : Record) : Bool :=
  startsWithFolded record.owner filter.ownerStart
    && endsWithFolded record.owner filter.ownerEnd
    && (filter.owner.isEmpty || Text.sameFolded record.owner filter.owner)
    && (match filter.type with
        | some type => record.type == type
        | none => true)
    && (filter.ttl == 0 || record.ttl == filter.ttl)
    && (filter.contained.isEmpty || Text.occursIn filter.contained record.write)

end RecordFilter

end ZoneServices
