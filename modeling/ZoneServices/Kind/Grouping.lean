import ZoneServices.Registry

/-!
# Groups of records

Some kinds gather all records of one owner in one service.  The first record of an owner starts
the service and the others are added to it, in their order; the letter case of owners does not
matter.
-/

namespace ZoneServices.Grouping

variable {Memory Body Kind Item : Type} [ServiceBody Body] [ServiceKind Kind] [Hosts Body Kind]

/--
Gathers records whose owners, as far as they have a service already, are given with its place.
-/
def gather (read? : Record → Option Item) (start : Item → Kind) (add : Kind → Item → Kind)
    (places : List (Text × Slot)) : List (Nat × Record) → Recognizer Memory Body
  | [] => return
  | (id, record) :: rest =>
    match read? record with
    | none => gather read? start add places rest
    | some item =>
      let owner := Text.fold record.owner
      match places.lookup owner with
      | some slot => do
        Recognition.extend Kind id slot fun kind _ => add kind item
        gather read? start add places rest
      | none => do
        let slot ← Recognition.use id record.owner (start item)
        -- The service keeps the spelling of this record; others find it by the folded owner.
        gather read? start add ((owner, slot) :: places) rest

end ZoneServices.Grouping
