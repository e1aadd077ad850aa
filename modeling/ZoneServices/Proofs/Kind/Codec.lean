import ZoneServices.Kind.Builtin
import ZoneServices.Proofs.Address
import ZoneServices.Proofs.Json.Fields

/-!
# Bodies that are restored

The body of a service is stored as a part of a JSON text.  It is restored if its JSON form can be
written as text, is not nested too deep, and is decoded, in normal form, as the body that it was
made of.  This holds of every body of a built-in kind, whatever texts and numbers it has.
-/

namespace ZoneServices

/-- How deep the JSON form of a body may be nested; that of a zone has four more levels. -/
def Json.bodyDepthLimit : Nat := Json.depthLimit - 4

namespace ServiceBody

variable {Body : Type} [ServiceBody Body]

/-- The JSON form of a body can be stored, and is decoded as that body. -/
structure IsRestoredBy (decode? : Json → Option Body) (body : Body) : Prop where
  storable : (encode body).IsStorable Json.bodyDepthLimit
  decoded : decode? (encode body).normalize = some body

/-- A body whose JSON form is tidy and decoded is restored. -/
theorem isRestoredBy_of_isTidy {decode? : Json → Option Body} {body : Body} {limit : Nat}
    (within : limit ≤ Json.bodyDepthLimit) (tidy : (encode body).IsTidy limit)
    (decoded : decode? (encode body) = some body) : IsRestoredBy decode? body where
  storable := tidy.toIsStorable.mono within
  decoded := by rw [tidy.normal, decoded]

/-- A body that its kind restores is restored as one of any type that has it among its own. -/
theorem IsRestoredBy.inject {Kind : Type} [ServiceKind Kind] [Hosts Body Kind] {kind : Kind}
    (restored : IsRestoredBy ServiceKind.decode? kind) :
    IsRestoredBy (fun value => (ServiceKind.decode? value).map fun kind : Kind => Hosts.inject kind)
      (Hosts.inject kind : Body) where
  storable := by
    rw [Hosts.encode_inject]
    exact restored.storable
  decoded := by rw [Hosts.encode_inject, restored.decoded, Option.map_some]

end ServiceBody

open ServiceBody (IsRestoredBy isRestoredBy_of_isTidy)

/-! ## Bodies of texts -/

theorem Challenge.isRestored (challenge : Challenge) :
    IsRestoredBy ServiceKind.decode? challenge := by
  have fields : (ServiceBody.encode challenge).fields? ["Challenge"] =
      some [some (.string challenge.token)] :=
    Json.fields?_singleton ..
  have tidy : (ServiceBody.encode challenge).IsTidy (0 + 1) := by
    apply Json.IsTidy.ofMembers (List.pairwise_singleton ..)
    exact List.forall_mem_singleton.mpr (.string challenge.token)
  apply isRestoredBy_of_isTidy (by decide) tidy
  simp only [ServiceKind.decode?, fields, Json.required_some, Json.text?_string,
    Option.bind_eq_bind, Option.bind_some, Option.pure_def]

theorem Alias.isRestored (link : Alias) :
    IsRestoredBy ServiceKind.decode? link := by
  have fields : (ServiceBody.encode link).fields? ["Target"] =
      some [some (.string link.target)] :=
    Json.fields?_singleton ..
  have tidy : (ServiceBody.encode link).IsTidy (0 + 1) := by
    apply Json.IsTidy.ofMembers (List.pairwise_singleton ..)
    exact List.forall_mem_singleton.mpr (.string link.target)
  apply isRestoredBy_of_isTidy (by decide) tidy
  simp only [ServiceKind.decode?, fields, Json.required_some, Json.text?_string,
    Option.bind_eq_bind, Option.bind_some, Option.pure_def]

theorem Orphan.isRestored (orphan : Orphan) :
    IsRestoredBy ServiceKind.decode? orphan := by
  have fields : (ServiceBody.encode orphan).fields? ["Type", "Rdata"] =
      some [some (.string orphan.type), some (.string orphan.payload)] := by
    apply Json.fields?_ofMembers
    change ["Rdata", "Type"].Nodup
    decide
  have tidy : (ServiceBody.encode orphan).IsTidy (0 + 1) := by
    apply Json.IsTidy.ofMembers
    · change ["Rdata".toList, "Type".toList].Pairwise (· < ·)
      decide
    · exact List.forall_mem_cons.mpr
        ⟨.string orphan.payload, List.forall_mem_singleton.mpr (.string orphan.type)⟩
  apply isRestoredBy_of_isTidy (by decide) tidy
  simp only [ServiceKind.decode?, fields, Json.required_some, Json.text?_string,
    Option.bind_eq_bind, Option.bind_some, Option.pure_def]

/-! ## Bodies of lists -/

/-- Every server is restored from its JSON form, whatever addresses it has. -/
theorem Server.isRestored (server : Server) :
    IsRestoredBy ServiceKind.decode? server := by
  have fields : (ServiceBody.encode server).fields? ["Addresses"] =
      some [some (.ofList (fun address => .string address.write) server.addresses)] :=
    Json.fields?_singleton ..
  have addresses : Json.list? (fun address => address.text?.bind Address.read?)
      (.ofList (fun address => .string address.write) server.addresses) =
        some server.addresses := by
    apply Json.list?_ofList
    intro address _
    rw [Json.text?_string, Option.bind_some, Address.read?_write]
  have tidy : (ServiceBody.encode server).IsTidy (0 + 1 + 1) := by
    apply Json.IsTidy.ofMembers (List.pairwise_singleton ..)
    refine List.forall_mem_singleton.mpr ?_
    exact Json.IsTidy.ofList fun address _ => .string address.write
  apply isRestoredBy_of_isTidy (by decide) tidy
  simp only [ServiceKind.decode?, fields, Json.required_some, addresses, Option.bind_eq_bind,
    Option.bind_some, Option.pure_def]

namespace MailExchanger

theorem isTidy_encode (exchanger : MailExchanger) : exchanger.encode.IsTidy (0 + 1) := by
  have fits : exchanger.preference.toNat < UInt64.size :=
    Nat.lt_trans exchanger.preference.toNat_lt (by decide)
  apply Json.IsTidy.ofMembers
  · change ["Preference".toList, "Target".toList].Pairwise (· < ·)
    decide
  · exact List.forall_mem_cons.mpr
      ⟨.ofNat fits, List.forall_mem_singleton.mpr (.string exchanger.target)⟩

theorem decode?_encode (exchanger : MailExchanger) : decode? exchanger.encode = some exchanger := by
  have fields : exchanger.encode.fields? ["Preference", "Target"] =
      some [some (.ofNat exchanger.preference.toNat), some (.string exchanger.target)] := by
    have distinct : ["Preference", "Target"].Nodup := by decide
    rw [encode, Json.fields?_ofMembers]
    · simp [List.lookup_cons]
    · exact distinct
  rw [decode?, fields, Option.bind_eq_bind, Option.bind_some]
  simp only [Json.required_some, Json.word16?_ofNat, Json.text?_string, Option.bind_eq_bind,
    Option.bind_some, Option.pure_def]

end MailExchanger

/-- All exchangers of a service are restored from their JSON form. -/
theorem MailExchangers.isRestored (mail : MailExchangers) :
    IsRestoredBy ServiceKind.decode? mail := by
  have fields : (ServiceBody.encode mail).fields? ["MXs"] =
      some [some (.ofList MailExchanger.encode mail.exchangers)] :=
    Json.fields?_singleton ..
  have exchangers : Json.list? MailExchanger.decode?
      (.ofList MailExchanger.encode mail.exchangers) = some mail.exchangers :=
    Json.list?_ofList fun exchanger _ => exchanger.decode?_encode
  have tidy : (ServiceBody.encode mail).IsTidy (0 + 1 + 1 + 1) := by
    apply Json.IsTidy.ofMembers (List.pairwise_singleton ..)
    refine List.forall_mem_singleton.mpr ?_
    exact Json.IsTidy.ofList fun exchanger _ => exchanger.isTidy_encode
  apply isRestoredBy_of_isTidy (by decide) tidy
  simp only [ServiceKind.decode?, fields, Json.required_some, exchangers, Option.bind_eq_bind,
    Option.bind_some, Option.pure_def]

end ZoneServices
