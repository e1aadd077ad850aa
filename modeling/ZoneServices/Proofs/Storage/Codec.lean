import ZoneServices.Proofs.ServiceId
import ZoneServices.Proofs.Timestamp
import ZoneServices.Zone.Storage

/-!
# Stored forms that are decoded

The header of a service and that of a zone are decoded from the members that store them, though
empty comments and missing dates are left out.  So a stored service is decoded if its body is in
normal form, and a stored zone if all its services are.
-/

namespace ZoneServices

/-! ## Identifiers and moments -/

/-- A stored id of a service is read back as itself. -/
theorem ServiceId.decode?_encode (id : ServiceId) : decode? id.encode = some id :=
  decode?_eq_some_iff.mpr rfl

/-- A stored id of a zone is read back as itself. -/
theorem ZoneId.decode?_encode (id : ZoneId) : decode? id.encode = some id := by
  rw [decode?, encode, Json.int64?_ofInt, Option.map_some]

/-- A stored id of a user is read back as itself. -/
theorem UserId.decode?_encode (id : UserId) : decode? id.encode = some id := by
  rw [decode?, encode, Json.int64?_ofInt, Option.map_some]

/-- A stored moment is read back as itself. -/
theorem Timestamp.decode?_encode (moment : Timestamp) : decode? moment.encode = some moment := by
  rw [decode?, encode, Json.text?_string, Option.bind_some, read?_write]

/-! ## Services -/

theorem Json.isTidy_of_mem_optionalMember {key : String} {omitted : Bool} {text : Text}
    {member : Text × Json} (isMember : member ∈ optionalMember key omitted (.string text)) :
    member.2.IsTidy 0 := by
  rw [optionalMember] at isMember
  split at isMember
  · cases isMember
  · rw [List.mem_singleton.mp isMember]
    exact .string text

namespace ServiceHeader

theorem isTidy_of_mem_members {header : ServiceHeader} (fits : header.resources < UInt64.size)
    {member : Text × Json} (isMember : member ∈ header.members) : member.2.IsTidy 0 := by
  rcases List.mem_append.mp isMember with front | last
  · rcases List.mem_append.mp front with front | userComment
    · rcases List.mem_append.mp front with front | comment
      · simp only [List.mem_cons, List.not_mem_nil, or_false] at front
        rcases front with rfl | rfl | rfl | rfl
        · exact .string _
        · exact .string _
        · exact .string _
        · exact .ofWord _
      · exact Json.isTidy_of_mem_optionalMember comment
    · exact Json.isTidy_of_mem_optionalMember userComment
  · rw [List.mem_singleton.mp last]
    exact .ofNat fits

/--
The stored members of a header are found again under their names, an omitted comment as absent.
-/
theorem memberFields?_members (header : ServiceHeader) (body : Json) :
    (Json.object (header.members ++ [("Service".toList, body)])).memberFields? fieldNames =
      some [some (.string header.kind), some header.id.encode, some (.string header.subdomain),
        some (.ofNat header.ttl.toNat),
        if header.comment.isEmpty then none else some (.string header.comment),
        if header.userComment.isEmpty then none else some (.string header.userComment),
        some (.ofNat header.resources)] := by
  rw [members]
  cases header.comment with
  | nil =>
      cases header.userComment with
      | nil => rfl
      | cons first others => rfl
  | cons character rest =>
      cases header.userComment with
      | nil => rfl
      | cons first others => rfl

/-- The body stands beside the header's members, under its own name. -/
theorem memberFields?_service (header : ServiceHeader) (body : Json) :
    (Json.object (header.members ++ [("Service".toList, body)])).memberFields? ["Service"] =
      some [some body] := by
  rw [members]
  cases header.comment with
  | nil =>
      cases header.userComment with
      | nil => rfl
      | cons first others => rfl
  | cons character rest =>
      cases header.userComment with
      | nil => rfl
      | cons first others => rfl

/-- A comment left out because it is empty is read as the empty comment. -/
theorem defaulting_comment (comment : Text) :
    Json.defaulting Json.text? [] (if comment.isEmpty then none else some (.string comment)) =
      some comment := by
  cases comment with
  | nil => rfl
  | cons first others => rfl

/-- The members of a header give the header back. -/
theorem ofFields?_members {header : ServiceHeader} (fits : header.resources < UInt64.size) :
    ofFields? [some (.string header.kind), some header.id.encode, some (.string header.subdomain),
        some (.ofNat header.ttl.toNat),
        if header.comment.isEmpty then none else some (.string header.comment),
        if header.userComment.isEmpty then none else some (.string header.userComment),
        some (.ofNat header.resources)] = some header := by
  simp only [ofFields?, Json.required_some, Json.defaulting_some, Json.text?_string,
    ServiceId.decode?_encode, Json.word32?_ofNat, defaulting_comment, Json.count?_ofNat fits,
    Option.bind_some, Option.bind_eq_bind, Option.pure_def]

end ServiceHeader

namespace StoredService

/-- A stored service is decoded if its body is in normal form. -/
theorem decode?_encode {stored : StoredService} (fits : stored.header.resources < UInt64.size)
    (normal : stored.body.normalize = stored.body) : decode? stored.encode = some stored := by
  rw [decode?, encode, ServiceHeader.memberFields?_members, Option.bind_some,
    ServiceHeader.ofFields?_members fits, ServiceHeader.memberFields?_service]
  simp only [Option.bind_eq_bind, Option.bind_some, normal]
  rfl

/-- A stored service nests one level deeper than its body. -/
theorem isStorable_encode {stored : StoredService} (fits : stored.header.resources < UInt64.size)
    {limit : Nat} (storable : stored.body.IsStorable limit) :
    stored.encode.IsStorable (limit + 1) := by
  apply Json.IsStorable.object
  intro member isMember
  rcases List.mem_append.mp isMember with header | body
  · have tidy := ServiceHeader.isTidy_of_mem_members fits header
    exact tidy.toIsStorable.mono (Nat.zero_le limit)
  · rw [List.mem_singleton.mp body]
    exact storable

end StoredService

/-! ## Zones -/

namespace ZoneHeader

theorem isTidy_of_mem_presentMember {Item : Type} {key : String} {encode : Item → Json}
    (each : ∀ item, (encode item).IsTidy 0) {item : Option Item} {member : Text × Json}
    (isMember : member ∈ presentMember key encode item) : member.2.IsTidy 0 := by
  cases item with
  | none => cases isMember
  | some item =>
      rw [List.mem_singleton.mp isMember]
      exact each item

theorem isTidy_of_mem_members {header : ZoneHeader} {member : Text × Json}
    (isMember : member ∈ header.members) : member.2.IsTidy 0 := by
  rcases List.mem_append.mp isMember with front | published
  · rcases List.mem_append.mp front with front | commitDate
    · rcases List.mem_append.mp front with front | commitMessage
      · simp only [List.mem_cons, List.not_mem_nil, or_false] at front
        rcases front with rfl | rfl | rfl | rfl
        · exact .ofInt (Json.fitsWord_toInt _)
        · exact .ofInt (Json.fitsWord_toInt _)
        · exact .ofWord _
        · exact .string _
      · exact isTidy_of_mem_presentMember (fun _ => .string _) commitMessage
    · exact isTidy_of_mem_presentMember (fun _ => .string _) commitDate
  · exact isTidy_of_mem_presentMember (fun _ => .string _) published

/-- The stored members of a zone's header are found again under their names. -/
theorem memberFields?_members (header : ZoneHeader) (services : Json) :
    (Json.object (header.members ++ [("services".toList, services)])).memberFields? fieldNames =
      some [some header.id.encode, some header.author.encode,
        some (.ofNat header.defaultTtl.toNat), some header.lastModified.encode,
        header.commitMessage.map .string, header.commitDate.map Timestamp.encode,
        header.published.map Timestamp.encode] := by
  rw [members]
  cases header.commitMessage
  all_goals
    cases header.commitDate
    all_goals
      cases header.published
      all_goals rfl

theorem memberFields?_services (header : ZoneHeader) (services : Json) :
    (Json.object (header.members ++ [("services".toList, services)])).memberFields? ["services"] =
      some [some services] := by
  rw [members]
  cases header.commitMessage
  all_goals
    cases header.commitDate
    all_goals
      cases header.published
      all_goals rfl

theorem optional_map {Item : Type} {encode : Item → Json} {decode : Json → Option Item}
    (decoded : ∀ item, decode (encode item) = some item) (written : ∀ item, encode item ≠ .null)
    (item : Option Item) : Json.optional decode (item.map encode) = some item := by
  cases item with
  | none => rfl
  | some item =>
      rw [Option.map_some, Json.optional, decoded item, Option.map_some]
      intro null
      exact written item null

/-- The members of a zone's header give the header back. -/
theorem ofFields?_members (header : ZoneHeader) :
    ofFields? [some header.id.encode, some header.author.encode,
        some (.ofNat header.defaultTtl.toNat), some header.lastModified.encode,
        header.commitMessage.map .string, header.commitDate.map Timestamp.encode,
        header.published.map Timestamp.encode] = some header := by
  have message := optional_map Json.text?_string (fun text null => by cases null)
    header.commitMessage
  have moment : ∀ moment : Timestamp, moment.encode ≠ .null := by
    intro moment null
    cases null
  simp only [ofFields?, Json.required_some, ZoneId.decode?_encode, UserId.decode?_encode,
    Json.word32?_ofNat, Timestamp.decode?_encode, message,
    optional_map Timestamp.decode?_encode moment, Option.bind_some, Option.bind_eq_bind,
    Option.pure_def]

end ZoneHeader

namespace StoredZone

/-- A stored zone is decoded if all its services are. -/
theorem decode?_encode {stored : StoredZone}
    (each : ∀ entry ∈ stored.services.entries, ∀ service ∈ entry.2,
      StoredService.decode? service.encode = some service) :
    decode? stored.encode = some stored := by
  have services : Json.directory? (Json.list? StoredService.decode?)
      (encodeServices stored.services) = some stored.services := by
    apply Json.directory?_object
    intro entry member
    exact Json.list?_ofList (each entry member)
  rw [decode?, encode, ZoneHeader.memberFields?_members, Option.bind_some,
    ZoneHeader.ofFields?_members, ZoneHeader.memberFields?_services]
  simp only [Option.bind_eq_bind, Option.bind_some, Json.defaulting_some, services,
    Option.pure_def]

/-- A stored zone nests three levels deeper than its services. -/
theorem isStorable_encode {stored : StoredZone} {limit : Nat}
    (each : ∀ entry ∈ stored.services.entries, ∀ service ∈ entry.2,
      service.encode.IsStorable limit) : stored.encode.IsStorable (limit + 3) := by
  apply Json.IsStorable.object
  intro member isMember
  rcases List.mem_append.mp isMember with header | services
  · exact (ZoneHeader.isTidy_of_mem_members header).toIsStorable.mono (Nat.zero_le _)
  · rw [List.mem_singleton.mp services]
    apply Json.IsStorable.object
    intro filed isFiled
    rcases List.mem_map.mp isFiled with ⟨entry, isEntry, rfl⟩
    apply Json.IsStorable.array
    intro element isElement
    rcases List.mem_map.mp isElement with ⟨service, isService, rfl⟩
    exact each entry isEntry service isService

end StoredZone

end ZoneServices
