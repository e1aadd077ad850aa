import ZoneServices.Proofs.Address
import ZoneServices.Proofs.Analysis.Classification
import ZoneServices.Proofs.Record.Strings

/-!
# What the kinds write

For each kind it is told here which records a body makes, and what the recognizer of the kind reads
from such records again.  A body that was read from a record is not always one that can be
written: a challenge may have an empty token, and an exchanger an empty target.
-/

namespace ZoneServices

open Text

/-! ## Challenges -/

namespace Challenge

/-- A challenge is written as one text record on its label before the subdomain. -/
theorem records_eq {challenge : Challenge} (nonempty : challenge.token ≠ []) (subdomain : Text)
    (ttl : UInt32) (origin : Text) :
    challenge.records subdomain ttl origin =
      .ok [⟨Owner.resolve (Owner.join [label, subdomain]) origin, .txt, ttl,
        CharacterString.writeText challenge.token⟩] := by
  rw [records, if_neg (by simpa using nonempty), Record.ofText_eq]

/-- A challenge with an empty token is refused. -/
theorem records_eq_error {challenge : Challenge} (empty : challenge.token = []) (subdomain : Text)
    (ttl : UInt32) (origin : Text) :
    ∃ error, challenge.records subdomain ttl origin = .error error := by
  rw [records, empty]
  exact ⟨_, rfl⟩

/-- The token of a challenge is read from the record that it is written in. -/
theorem readChallenge?_written (owner : Text) (ttl : UInt32) (token : Text) :
    readChallenge? ⟨owner, .txt, ttl, CharacterString.writeText token⟩ =
      some (owner.drop ownerStart.length, ⟨token⟩) := by
  rw [readChallenge?, Record.strings?_writeText, Record.joinedText_writeText]
  rfl

theorem isStem_label : IsStem label where
  solid := isSolid_iff_all.mpr (by decide)
  noApex := by decide
  noEscape := by decide
  labels := by decide

/-- What the owner of a challenge is made of, unless it is the bare label. -/
theorem exists_stem {owner : Text} (plain : IsPlain owner)
    (starts : RecordFilter.startsWithFolded owner ownerStart = true)
    (more : fold owner ≠ ownerStart) :
    ∃ first stem, owner = first ++ '.' :: stem ++ ['.'] ∧ fold first = label ∧ IsStem stem
      ∧ owner.drop ownerStart.length = stem ++ ['.'] := by
  rcases startsWithFolded_iff.mp starts with ⟨head, tail, rfl, same⟩
  have lower : fold ownerStart = ownerStart := by decide
  have dot : endsWithDot head = true := by
    rw [endsWithDot_of_fold_eq same]
    decide
  rcases endsWithDot_iff.mp dot with ⟨first, rfl⟩
  have firstSame : fold first = label := by
    have ends : fold first ++ ['.'] = label ++ ['.'] := by
      rw [← ownerStart, ← lower, ← same, fold_append]
      rfl
    exact List.append_cancel_right ends
  have tailNonempty : tail ≠ [] := by
    rintro rfl
    rw [List.append_nil, same, lower] at more
    exact more rfl
  rcases (List.eq_nil_or_concat tail).resolve_left tailNonempty with ⟨stem, last, rfl⟩
  rw [List.concat_eq_append] at plain ⊢
  have shape : (first ++ ['.']) ++ (stem ++ [last]) = (first ++ '.' :: stem) ++ [last] := by simp
  have size : (first ++ ['.']).length = ownerStart.length := length_eq_of_fold_eq same
  rw [shape] at plain
  rcases plain with root | ⟨whole, isStem, ends⟩
  · have long := congrArg List.length root
    simp at long
    omega
  · rcases List.append_inj' ends rfl with ⟨rfl, final⟩
    cases final
    refine ⟨first, stem, shape, firstSame, (IsStem.append_iff.mp isStem).2, ?_⟩
    rw [← size, List.drop_left]

end Challenge

/-! ## Mail exchangers -/

namespace MailExchanger

/-- An exchanger whose target is made absolute. -/
def settled (exchanger : MailExchanger) : MailExchanger :=
  match Name.readAscii? (Owner.qualified exchanger.target) with
  | some exchange => ⟨exchanger.preference, exchange.write⟩
  | none => exchanger

/-- The payload that an exchanger is written in. -/
def writtenPayload (exchanger : MailExchanger) : Text :=
  Numeral.decimal exchanger.preference.toNat ++ ' ' :: exchanger.settled.target

/-- Whether the target of an exchanger is a name that was read and is not empty. -/
structure IsNamed (exchanger : MailExchanger) (exchange : Name) : Prop where
  accepted : Name.AreAccepted exchange.labels
  target : exchanger.target = exchange.write
  nonempty : exchange.write ≠ []

theorem write_absolute_ne_nil (labels : List Text) : (⟨labels, true⟩ : Name).write ≠ [] :=
  List.append_ne_nil_of_right_ne_nil _ (List.cons_ne_nil _ _)

variable {exchanger : MailExchanger} {exchange : Name}

theorem settled_eq (named : exchanger.IsNamed exchange) :
    exchanger.settled =
      ⟨exchanger.preference, ({ exchange with absolute := true } : Name).write⟩ := by
  rw [settled, named.target, Name.readAscii?_qualified_write named.accepted named.nonempty]

/-- A settled exchanger names the same host, absolutely. -/
theorem isNamed_settled (named : exchanger.IsNamed exchange) :
    exchanger.settled.IsNamed { exchange with absolute := true } where
  accepted := named.accepted
  target := by rw [settled_eq named]
  nonempty := write_absolute_ne_nil _

theorem settled_settled (named : exchanger.IsNamed exchange) :
    exchanger.settled.settled = exchanger.settled := by
  rw [settled_eq (isNamed_settled named), settled_eq named]

theorem trimEndDots_settled (named : exchanger.IsNamed exchange) :
    trimEndDots exchanger.settled.target = trimEndDots exchanger.target := by
  rw [settled_eq named, named.target]
  cases absolute : exchange.absolute with
  | true => simp [Name.write, absolute]
  | false => simp [Name.write, absolute]

/-- A settled exchanger is written as before. -/
theorem writtenPayload_settled (named : exchanger.IsNamed exchange) :
    exchanger.settled.writtenPayload = exchanger.writtenPayload := by
  have preference : exchanger.settled.preference = exchanger.preference := by
    rw [settled_eq named]
  rw [writtenPayload, settled_settled named, preference, ← writtenPayload]

/-- An exchanger that names a host is written as its preference and the host. -/
theorem payload_eq (named : exchanger.IsNamed exchange) (subdomain : Text) :
    exchanger.payload subdomain = .ok exchanger.writtenPayload := by
  have nonempty : exchanger.target ≠ [] := by
    rw [named.target]
    exact named.nonempty
  rw [payload, if_neg (by simpa using nonempty), writtenPayload, settled_eq named, named.target,
    Name.readAscii?_qualified_write named.accepted named.nonempty]

/-- An exchanger without a target is refused. -/
theorem payload_eq_error (empty : exchanger.target = []) (subdomain : Text) :
    ∃ error, exchanger.payload subdomain = .error error := by
  rw [payload, empty]
  exact ⟨_, rfl⟩

theorem isBareToken_settled (named : exchanger.IsNamed exchange) :
    Payload.IsBareToken exchanger.settled.target := by
  rw [settled_eq named]
  exact Name.isBareToken_write named.accepted (write_absolute_ne_nil _)

theorem isTrimmed_writtenPayload (named : exchanger.IsNamed exchange) :
    IsTrimmed exchanger.writtenPayload := by
  have isName := isBareToken_settled named
  have around := isTrimmed_append (Numeral.isSolid_decimal exchanger.preference.toNat)
    (Numeral.decimal_ne_nil _) [' '] isName.solid isName.nonempty
  simpa [writtenPayload] using around

/-- What a payload has to say for an exchanger to be read from it. -/
theorem ofPayload?_eq_some_iff {payload : Text} {exchanger : MailExchanger} :
    ofPayload? payload = some exchanger ↔
      (words payload).length = 2 ∧ ∃ preference exchange,
        (Payload.tokens? payload).bind Payload.exchanger? = some (preference, exchange)
          ∧ exchanger = ⟨preference, exchange.write⟩ := by
  rw [ofPayload?]
  split
  · rename_i two
    rw [Option.map_eq_some_iff]
    constructor
    · rintro ⟨⟨preference, exchange⟩, read, rfl⟩
      exact ⟨two, preference, exchange, read, rfl⟩
    · rintro ⟨_, preference, exchange, read, rfl⟩
      exact ⟨(preference, exchange), read, rfl⟩
  · rename_i other
    constructor
    · intro found
      cases found
    · rintro ⟨two, _⟩
      exact absurd two other

/-- The labels of a host that was read are accepted in a name. -/
theorem areAccepted_of_exchanger? {tokens : List Text} {preference : UInt16} {exchange : Name}
    (read : Payload.exchanger? tokens = some (preference, exchange)) :
    Name.AreAccepted exchange.labels := by
  unfold Payload.exchanger? at read
  split at read
  · split at read
    · rename_i found
      cases read
      exact Name.areAccepted_of_readInternational? found
    · cases read
  · cases read

/-- The preference and the absolute name are read from the payload of an exchanger. -/
theorem exchanger?_writtenPayload (named : exchanger.IsNamed exchange)
    (kept : Name.readInternational? ({ exchange with absolute := true } : Name).write =
      some { exchange with absolute := true }) :
    (Payload.tokens? exchanger.writtenPayload).bind Payload.exchanger? =
      some (exchanger.preference, { exchange with absolute := true }) := by
  rw [writtenPayload, Payload.tokens?_pair (Payload.isBareToken_decimal _)
    (isBareToken_settled named), Option.bind_some, Payload.exchanger?, Numeral.word16?_decimal,
    settled_eq named, kept]

/-- An exchanger is read from the payload that it is written in, and is absolute there. -/
theorem ofPayload?_writtenPayload (named : exchanger.IsNamed exchange)
    (kept : Name.readInternational? ({ exchange with absolute := true } : Name).write =
      some { exchange with absolute := true }) :
    ofPayload? exchanger.writtenPayload = some exchanger.settled := by
  refine ofPayload?_eq_some_iff.mpr ⟨?_, exchanger.preference, { exchange with absolute := true },
    exchanger?_writtenPayload named kept, settled_eq named⟩
  rw [writtenPayload, Payload.words_pair (Payload.isBareToken_decimal _)
    (isBareToken_settled named)]
  rfl

end MailExchanger

namespace MailExchangers

theorem mapM_eq_ok {Value Result Fault : Type} {action : Value → Except Fault Result}
    {result : Value → Result} {values : List Value}
    (goes : ∀ value ∈ values, action value = .ok (result value)) :
    values.mapM action = .ok (values.map result) := by
  induction values with
  | nil => rfl
  | cons value rest step =>
      rcases List.forall_mem_cons.mp goes with ⟨first, others⟩
      rw [List.mapM_cons, first, step others]
      rfl

theorem mapM_eq_error {Value Result Fault : Type} {action : Value → Except Fault Result}
    {values : List Value} {value : Value} (member : value ∈ values)
    (fails : ∃ fault, action value = .error fault) :
    ∃ fault, values.mapM action = .error fault := by
  induction values with
  | nil => cases member
  | cons head rest step =>
      rw [List.mapM_cons]
      cases found : action head with
      | error fault => exact ⟨fault, rfl⟩
      | ok result =>
          have later : value ∈ rest := by
            rcases List.mem_cons.mp member with rfl | later
            · rcases fails with ⟨fault, failed⟩
              cases found.symm.trans failed
            · exact later
          rcases step later with ⟨fault, failed⟩
          rw [failed]
          exact ⟨fault, rfl⟩

/-- A group of exchangers is written in order, one record each. -/
theorem records_eq (mail : MailExchangers)
    (named : ∀ exchanger ∈ mail.exchangers, ∃ exchange, exchanger.IsNamed exchange)
    (subdomain : Text) (ttl : UInt32) (origin : Text) :
    mail.records subdomain ttl origin =
      .ok (mail.exchangers.map fun exchanger =>
        ⟨Owner.resolve subdomain origin, .mx, ttl, exchanger.writtenPayload⟩) := by
  apply mapM_eq_ok
  intro exchanger member
  rcases named exchanger member with ⟨exchange, isNamed⟩
  rw [MailExchanger.payload_eq isNamed]
  exact congrArg Except.ok (Record.make_eq (MailExchanger.isTrimmed_writtenPayload isNamed)
    (Record.settledPayload_of_form (by decide) (by decide) _) subdomain ttl origin)

/-- One exchanger without a target refuses the whole group. -/
theorem records_eq_error (mail : MailExchangers) {exchanger : MailExchanger}
    (member : exchanger ∈ mail.exchangers) (empty : exchanger.target = []) (subdomain : Text)
    (ttl : UInt32) (origin : Text) :
    ∃ error, mail.records subdomain ttl origin = .error error := by
  apply mapM_eq_error member
  rcases MailExchanger.payload_eq_error empty subdomain with ⟨error, failed⟩
  rw [failed]
  exact ⟨error, rfl⟩

end MailExchangers

/-! ## Servers -/

namespace Server

/-- A server is written in order, one record for each address. -/
theorem records_eq (server : Server) (nonempty : server.addresses ≠ []) (subdomain : Text)
    (ttl : UInt32) (origin : Text) :
    server.records subdomain ttl origin =
      .ok (server.addresses.map fun address =>
        ⟨Owner.resolve subdomain origin, addressType address, ttl, address.write⟩) := by
  rw [records, if_neg (by simpa using nonempty)]
  congr 1
  apply List.map_congr_left
  intro address _
  have settled : Record.settledPayload (addressType address) address.write = address.write := by
    have type : addressType address = .a ∨ addressType address = .aaaa := by
      cases address with
      | v4 _ => exact .inl rfl
      | v6 _ => exact .inr rfl
    apply Record.settledPayload_of_form
    all_goals
      rcases type with type | type
      all_goals
        rw [type]
        decide
  exact Record.make_eq (Address.isSolid_write address).isTrimmed settled subdomain ttl origin

/-- The record of an address gives the address back. -/
theorem address?_written (owner : Text) (ttl : UInt32) (address : Address) :
    address? ⟨owner, addressType address, ttl, address.write⟩ = some address := by
  rw [address?, Address.read?_write]
  exact if_pos rfl

end Server

/-! ## Aliases -/

namespace Alias

theorem isSolid_target {record : Record} (nonempty : record.target ≠ []) :
    IsSolid record.target := by
  rw [Record.target] at nonempty ⊢
  cases found : (words record.payload).getLast? with
  | none =>
      rw [found] at nonempty
      exact absurd rfl nonempty
  | some word => exact (mem_words (List.mem_of_getLast? found)).1

/-- A link is written as one record with its target completed. -/
theorem records_eq {link : Alias} (solid : IsSolid link.target) (nonempty : link.target ≠ [])
    (subdomain : Text) (ttl : UInt32) (origin : Text) :
    link.records subdomain ttl origin =
      .ok [⟨Owner.resolve subdomain origin, .cname, ttl, Owner.qualified link.target⟩] := by
  rw [records, if_neg (by simpa using nonempty),
    Record.make_eq (Owner.isSolid_qualified solid).isTrimmed
      (Record.settledPayload_of_form (by decide) (by decide) _)]

/-- The target of an alias is read from the record that it is written in, and is absolute there. -/
theorem readAlias?_written {target : Text} (solid : IsSolid target) (nonempty : target ≠ [])
    (owner : Text) (ttl : UInt32) :
    readAlias? ⟨owner, .cname, ttl, Owner.qualified target⟩ =
      some (owner, ⟨Owner.qualified target⟩) := by
  have word := words_of_isSolid (Owner.isSolid_qualified solid) (Owner.qualified_ne_nil nonempty)
  have last : (⟨owner, .cname, ttl, Owner.qualified target⟩ : Record).target =
      Owner.qualified target := by
    rw [Record.target, word]
    rfl
  rw [readAlias?, last, if_neg (by simpa using Owner.qualified_ne_nil nonempty)]

end Alias

/-! ## Orphans -/

namespace Orphan

/-- An orphan is written as it was, but for its owner's case and its time to live. -/
theorem records_eq {record : Record} (isRead : record.IsRead) (other : record.type ≠ .zero)
    {subdomain origin : Text} (same : fold record.owner = fold (Owner.resolve subdomain origin))
    (ttl : UInt32) :
    (ofRecord record).records subdomain ttl origin =
      .ok [{ record with owner := Owner.resolve subdomain origin, ttl := ttl }] := by
  have again := Record.read_write (Record.isRead_of_fold_eq isRead same ttl) other
  rw [records]
  split
  · rename_i found read
    exact congrArg (fun found => Except.ok [found]) (Except.ok.inj (read.symm.trans again))
  · rename_i cause read
    cases read.symm.trans again

/-- An orphan of the type zero is refused. -/
theorem records_eq_error {record : Record} (isRead : record.IsRead) (zero : record.type = .zero)
    {subdomain origin : Text} (same : fold record.owner = fold (Owner.resolve subdomain origin))
    (ttl : UInt32) :
    ∃ error, (ofRecord record).records subdomain ttl origin = .error error := by
  have again := Record.read_write_zero (Record.isRead_of_fold_eq isRead same ttl) zero
  rw [records]
  split
  · rename_i found read
    cases read.symm.trans again
  · exact ⟨_, rfl⟩

end Orphan

end ZoneServices
