import ZoneServices.Record.Reader

/-!
# Listings of records

A listing has one record on each line.  Lines that are blank or start with a semicolon hold
none.  The first line that should hold a record and does not is reported by its place among all
lines of the listing.
-/

namespace ZoneServices.Record

/--
A line of a listing that is no record: its place, counted from one, and what is wrong with it.
-/
structure ListingError where
  line : Nat
  cause : RecordError
deriving DecidableEq, Repr

/-- What is said of a listing: which line is wrong, counted from one. -/
def ListingError.message (error : ListingError) : String :=
  let line := error.line
  s!"Invalid record on line {line}"

/-- Whether a line holds no record, because it is blank or a comment. -/
def isSkipped (line : Text) : Bool :=
  match Text.trim line with
  | [] => true
  | character :: _ => character == ';'

/-- The records of the lines of a listing, the first of which has the given place. -/
def readLines : (place : Nat) → List Text → Except ListingError (List Record)
  | _, [] => .ok []
  | place, line :: rest =>
    if isSkipped line then
      readLines (place + 1) rest
    else
      match read line with
      | .error cause => .error ⟨place, cause⟩
      | .ok record =>
        match readLines (place + 1) rest with
        | .error error => .error error
        | .ok records => .ok (record :: records)

/-- The records of a listing, in their order. -/
def readListing (text : Text) : Except ListingError (List Record) :=
  readLines 1 (Text.lines text)

end ZoneServices.Record
