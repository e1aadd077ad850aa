import ZoneServices.Kind.Builtin
import ZoneServices.Proofs.Synthesis.Writing

/-!
# Valid records

A service that cannot form valid records has to say so.  The kinds go about this in different ways:
a challenge writes its token in quotes, a server has addresses that were read, an orphan is read
again as a whole, an exchanger has its target read under the ASCII rule, and an alias only looks
whether there is a target at all.  The first three never write a record that is not valid.  The
other two do if their target is no name in any language, which is the rule that the validation
goes by; the main theorem says so exactly.
-/

namespace ZoneServices

open Text

/-! ## Kinds that always write valid records -/

namespace Challenge

theorem validate_of_mem_records {challenge : Challenge} {subdomain origin : Text} {ttl : UInt32}
    {records : List Record} (made : challenge.records subdomain ttl origin = .ok records) :
    ∀ record ∈ records, record.validate = .ok () := by
  have nonempty : challenge.token ≠ [] := by
    intro empty
    rcases records_eq_error empty subdomain ttl origin with ⟨error, failed⟩
    cases made.symm.trans failed
  cases made.symm.trans (records_eq nonempty subdomain ttl origin)
  rw [List.forall_mem_singleton, Record.validate_eq_ok_iff]
  exact ⟨_, Payload.normalize_writeText _⟩

end Challenge

namespace Server

/-- The text of an address needs no quotes. -/
theorem isBareToken_write (address : Address) : Payload.IsBareToken address.write where
  bare := Address.forall_mem_write (by decide) (by decide) (by decide) address
  nonempty := by
    intro empty
    have read := Address.read?_write address
    rw [empty] at read
    cases read

/-- The text of an address is accepted as the payload of its type. -/
theorem normalize_write (address : Address) :
    ∃ canonical, Payload.normalize (addressType address) address.write = .ok canonical := by
  have token := Payload.tokens?_of_isBareToken (isBareToken_write address)
  cases address with
  | v4 address =>
      refine Payload.exists_keepTokens_iff.mpr ⟨_, token, ?_⟩
      change (Ipv4.read? address.write).isSome = true
      rw [Ipv4.read?_write]
      rfl
  | v6 address =>
      refine Payload.exists_keepTokens_iff.mpr ⟨_, token, ?_⟩
      change (Ipv6.read? address.write).isSome = true
      rw [Ipv6.read?_write]
      rfl

theorem validate_of_mem_records {server : Server} {subdomain origin : Text} {ttl : UInt32}
    {records : List Record} (made : server.records subdomain ttl origin = .ok records) :
    ∀ record ∈ records, record.validate = .ok () := by
  have nonempty : server.addresses ≠ [] := by
    intro empty
    rw [Server.records, empty] at made
    cases made
  cases made.symm.trans (records_eq server nonempty subdomain ttl origin)
  intro record member
  rcases List.mem_map.mp member with ⟨address, _, rfl⟩
  exact Record.validate_eq_ok_iff.mpr (normalize_write address)

end Server

namespace Orphan

theorem validate_of_mem_records {orphan : Orphan} {subdomain origin : Text} {ttl : UInt32}
    {records : List Record} (made : orphan.records subdomain ttl origin = .ok records) :
    ∀ record ∈ records, record.validate = .ok () := by
  rw [Orphan.records] at made
  split at made
  · rename_i record read
    cases made
    rw [List.forall_mem_singleton, Record.validate_eq_ok_iff]
    exact ⟨_, (Record.isRead_of_read read).canonical⟩
  · cases made

end Orphan

/-! ## Kinds that may write other records -/

namespace Alias

/-- Whether the target of an alias, made absolute, starts with a name in any language. -/
def IsReadable (link : Alias) : Prop :=
  ∃ token rest, Payload.tokens? (trim (Owner.qualified link.target)) = some (token :: rest)
    ∧ (Name.readInternational? token).isSome

/-- A link is written as a valid record exactly if its target is readable. -/
theorem forall_validate_iff {link : Alias} {subdomain origin : Text} {ttl : UInt32}
    {records : List Record} (made : link.records subdomain ttl origin = .ok records) :
    (∀ record ∈ records, record.validate = .ok ()) ↔ link.IsReadable := by
  have form : RecordType.cname.form = .host := by decide
  rw [Alias.records] at made
  split at made
  · cases made
  · cases made
    rw [List.forall_mem_singleton, Record.validate_eq_ok_iff, Record.make,
      Record.settledPayload_of_form (by decide) (by decide), Payload.normalize, form]
    dsimp only
    rw [Payload.exists_keepTokens_iff]
    constructor
    · rintro ⟨tokens, read, accepted⟩
      cases tokens with
      | nil => cases accepted
      | cons token rest => exact ⟨token, rest, read, accepted⟩
    · rintro ⟨token, rest, read, isName⟩
      exact ⟨token :: rest, read, isName⟩

end Alias

namespace MailExchanger

/-- Whether the target of an exchanger is written as a name in any language. -/
def IsReadable (exchanger : MailExchanger) : Prop :=
  ∃ exchange, Name.readAscii? (Owner.qualified exchanger.target) = some exchange
    ∧ (Name.readInternational? exchange.write).isSome

variable {exchanger : MailExchanger}

/-- A written exchanger names an acceptable host behind its preference. -/
theorem exists_of_payload_eq_ok {subdomain payload : Text}
    (made : exchanger.payload subdomain = .ok payload) :
    ∃ exchange, Name.readAscii? (Owner.qualified exchanger.target) = some exchange
      ∧ payload = Numeral.decimal exchanger.preference.toNat ++ ' ' :: exchange.write := by
  rw [MailExchanger.payload] at made
  split at made
  · cases made
  · split at made
    · rename_i exchange read
      cases made
      exact ⟨exchange, read, rfl⟩
    · cases made

/-- What was read of a text that was made absolute is written as a bare token. -/
theorem isBareToken_write_of_readAscii? {exchange : Name} {target : Text}
    (read : Name.readAscii? (Owner.qualified target) = some exchange) :
    Payload.IsBareToken exchange.write := by
  have absolute : exchange.absolute = true :=
    (Name.absolute_of_readWith? read).trans (Owner.endsWithDot_qualified target)
  have shape : exchange = ⟨exchange.labels, true⟩ := by
    rw [← absolute]
  apply Name.isBareToken_write (Name.areAccepted_of_readAscii? read)
  rw [shape]
  exact write_absolute_ne_nil _

/-- A payload of an exchanger is valid if the name in it is one in any language. -/
theorem exists_normalize_iff {preference : UInt16} {exchange : Name}
    (token : Payload.IsBareToken exchange.write) :
    (∃ canonical,
        Payload.normalize .mx (Numeral.decimal preference.toNat ++ ' ' :: exchange.write) =
          .ok canonical) ↔
      (Name.readInternational? exchange.write).isSome := by
  have form : RecordType.mx.form = .exchanger := by decide
  have tokens := Payload.tokens?_pair (Payload.isBareToken_decimal preference.toNat) token
  rw [Payload.normalize, form]
  dsimp only
  rw [Payload.exists_keepTokens_iff, tokens]
  have accepts : Payload.acceptsTokens [Numeral.decimal preference.toNat, exchange.write]
      .exchanger = (Name.readInternational? exchange.write).isSome := by
    rw [Payload.acceptsTokens, Payload.exchanger?, Numeral.word16?_decimal]
    cases Name.readInternational? exchange.write with
    | none => rfl
    | some name => rfl
  constructor
  · rintro ⟨_, same, accepted⟩
    cases same
    rw [← accepts]
    exact accepted
  · intro isName
    exact ⟨_, rfl, accepts.trans isName⟩

/-- The record of an exchanger is valid exactly if its target is readable. -/
theorem validate_make_iff {subdomain payload origin : Text} {ttl : UInt32}
    (made : exchanger.payload subdomain = .ok payload) :
    (Record.make subdomain .mx ttl origin payload).validate = .ok () ↔ exchanger.IsReadable := by
  rcases exists_of_payload_eq_ok made with ⟨exchange, read, rfl⟩
  have token := isBareToken_write_of_readAscii? read
  have trimmed := isTrimmed_append (Numeral.isSolid_decimal exchanger.preference.toNat)
    (Numeral.decimal_ne_nil _) [' '] token.solid token.nonempty
  rw [List.append_assoc, List.singleton_append] at trimmed
  rw [Record.validate_eq_ok_iff, Record.make,
    Record.settledPayload_of_form (by decide) (by decide), trim_of_isTrimmed trimmed,
    exists_normalize_iff token]
  constructor
  · intro isName
    exact ⟨exchange, read, isName⟩
  · rintro ⟨other, again, isName⟩
    cases read.symm.trans again
    exact isName

end MailExchanger

namespace MailExchangers

theorem forall₂_of_mapM_eq_ok {Value Result Fault : Type} {action : Value → Except Fault Result}
    {values : List Value} {results : List Result} (done : values.mapM action = .ok results) :
    List.Forall₂ (fun value result => action value = .ok result) values results := by
  induction values generalizing results with
  | nil =>
      cases done
      exact .nil
  | cons value rest step =>
      rw [List.mapM_cons] at done
      rcases Record.exists_of_bind_eq_ok done with ⟨result, first, done⟩
      rcases Record.exists_of_bind_eq_ok done with ⟨others, later, done⟩
      cases done
      exact .cons first (step later)

/-- All records of a group are valid exactly if each exchanger in it is readable. -/
theorem forall_validate_iff {mail : MailExchangers} {subdomain origin : Text} {ttl : UInt32}
    {records : List Record} (made : mail.records subdomain ttl origin = .ok records) :
    (∀ record ∈ records, record.validate = .ok ()) ↔
      ∀ exchanger ∈ mail.exchangers, exchanger.IsReadable := by
  have pairs := forall₂_of_mapM_eq_ok made
  clear made
  generalize mail.exchangers = exchangers at pairs
  induction pairs with
  | nil => exact iff_of_true (fun _ member => nomatch member) (fun _ member => nomatch member)
  | @cons exchanger record _ _ first _ step =>
      have valid : record.validate = .ok () ↔ exchanger.IsReadable := by
        cases found : exchanger.payload subdomain with
        | error error =>
            rw [found] at first
            cases first
        | ok payload =>
            rw [found] at first
            cases first
            exact MailExchanger.validate_make_iff found
      rw [List.forall_mem_cons, List.forall_mem_cons]
      exact and_congr valid step

end MailExchangers

/-! ## All kinds -/

namespace Builtin

/-- Whether the targets that a body has are names in any language where they are written. -/
def IsReadable : Builtin → Prop
  | .challenge _ => True
  | .mailExchangers mail => ∀ exchanger ∈ mail.exchangers, exchanger.IsReadable
  | .server _ => True
  | .link target => target.IsReadable
  | .orphan _ => True

/--
The records that a service writes are valid exactly if the targets of its exchangers, or of its
alias, are names in any language.  So the services without targets write valid records alone.
-/
theorem forall_validate_records_iff {body : Builtin} {subdomain origin : Text} {ttl : UInt32}
    {records : List Record}
    (made : ServiceBody.records body subdomain ttl origin = .ok records) :
    (∀ record ∈ records, record.validate = .ok ()) ↔ body.IsReadable := by
  cases body with
  | challenge challenge => exact iff_of_true (Challenge.validate_of_mem_records made) trivial
  | mailExchangers mail => exact MailExchangers.forall_validate_iff made
  | server server => exact iff_of_true (Server.validate_of_mem_records made) trivial
  | link target => exact Alias.forall_validate_iff made
  | orphan orphan => exact iff_of_true (Orphan.validate_of_mem_records made) trivial

theorem forall_validate_records_iff_of_relays :
    ∃ records,
      ServiceBody.records (.mailExchangers ⟨[⟨10, "mail".toList⟩, ⟨20, "*.example.net".toList⟩]⟩ :
          Builtin) "www".toList 300 "example.com.".toList = .ok records
        ∧ records.length = 2 ∧ ∀ record ∈ records, record.validate = .ok () := by
  have made : ServiceBody.records
      (.mailExchangers ⟨[⟨10, "mail".toList⟩, ⟨20, "*.example.net".toList⟩]⟩ : Builtin)
      "www".toList 300 "example.com.".toList =
        .ok [ ⟨"www.example.com.".toList, .mx, 300, "10 mail.".toList⟩,
          ⟨"www.example.com.".toList, .mx, 300, "20 *.example.net.".toList⟩ ] := by
    decide +kernel
  refine ⟨_, made, rfl, (forall_validate_records_iff made).mpr ?_⟩
  intro exchanger member
  rcases List.mem_cons.mp member with rfl | member
  · exact ⟨⟨["mail".toList], true⟩, by decide +kernel, by decide +kernel⟩
  · rw [List.mem_singleton.mp member]
    exact ⟨⟨[['*'], "example".toList, "net".toList], true⟩, by decide +kernel, by decide +kernel⟩

/-- An alias of a text with an empty label is stored, and is written as a record all the same. -/
theorem not_forall_validate_records_of_emptyLabel :
    (ServiceKind.decode? (.object [("Target".toList, .string "a..b".toList)]) : Option Alias) =
        some ⟨"a..b".toList⟩
      ∧ Record.checkOwner "example.com.".toList = .ok ()
      ∧ Record.checkOwner (Owner.resolve "www".toList "example.com.".toList) = .ok ()
      ∧ ServiceBody.records (.link ⟨"a..b".toList⟩ : Builtin) "www".toList 300
          "example.com.".toList =
        .ok [⟨"www.example.com.".toList, .cname, 300, "a..b.".toList⟩]
      ∧ (⟨"www.example.com.".toList, .cname, 300, "a..b.".toList⟩ : Record).validate ≠ .ok () := by
  refine ⟨?_, ?_, ?_, ?_, ?_⟩
  all_goals decide +kernel

/-- An underscore inside a label is in the ASCII rule, but in no language. -/
example :
    ServiceBody.records (.mailExchangers ⟨[⟨10, "under_score".toList⟩]⟩ : Builtin) "www".toList 300
        "example.com.".toList =
      .ok [⟨"www.example.com.".toList, .mx, 300, "10 under_score.".toList⟩]
    ∧ (⟨"www.example.com.".toList, .mx, 300, "10 under_score.".toList⟩ : Record).validate ≠
      .ok () := by
  refine ⟨?_, ?_⟩
  all_goals decide +kernel

end Builtin

end ZoneServices
