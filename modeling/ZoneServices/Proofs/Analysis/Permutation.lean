import Mathlib.Data.Multiset.MapFold
import ZoneServices.Proofs.Analysis.Conservation
import ZoneServices.Proofs.Analysis.UsualTtl
import ZoneServices.Proofs.Name.Escape

/-!
# Records in another order

The order of the records of a zone settles which record of an owner comes first.  On that depend
the letter case of the subdomain, the time to live of the service, and the order in which the
service lists what it holds.  Nothing else does: in any other order of the records the zone has the
same time to live, as many dropped records, and services that hold the same.

A recognizer that gathers records goes by owners in lower case, so a group of records is told by its
owner and its items up to their order.  Each owner has one group, of all its items, and therefore
records in another order make groups of the same owners and items.
-/

namespace ZoneServices

open Directory

/-! ## What a service holds -/

/-- What a service holds of one record. -/
inductive PayloadItem where
  | exchanger (exchanger : MailExchanger)
  | address (address : Address)
  | token (token : Text)
  | target (target : Text)
  | payload (type payload : Text)
deriving DecidableEq, Repr

/-- What a body holds of its records, in their order. -/
def Builtin.items : Builtin → List PayloadItem
  | .challenge body => [.token body.token]
  | .mailExchangers body => body.exchangers.map .exchanger
  | .server body => body.addresses.map .address
  | .link body => [.target body.target]
  | .orphan body => [.payload body.type body.payload]

/-- What does not depend on the order of the records in a service. -/
structure Content where
  /-- Subdomain of the service, in lower case. -/
  subdomain : Text
  kind : Text
  items : Multiset PayloadItem
deriving DecidableEq

/-- The content of a service. -/
def Service.content (service : Service Builtin) : Content where
  subdomain := Text.fold service.header.subdomain
  kind := service.header.kind
  items := service.body.items

/-- The contents of all services of an analysis. -/
def Analysis.contents (analysis : Analysis Builtin) : Multiset Content :=
  analysis.allServices.map Service.content

/-- The content of a service that is made of a record, of which the owner is in any letter case. -/
theorem content_service (premises : Premises) (record : Record) (name : Text) (body : Builtin) :
    (premises.service record name body).content =
      { subdomain := Owner.relativeTo (Text.fold name) premises.origin
        kind := ServiceBody.kindKey body
        items := body.items } := by
  rw [Owner.relativeTo_fold]
  rfl

/-! ## Groups without their order -/

namespace Group

variable {Item : Type}

/-- The owner and the items of a group, up to letter case and the order of the items. -/
def summary (group : Group Item) : Text × Multiset Item :=
  (group.owner, group.items)

/-- The summary of the group of an owner does not depend on the order of its entries. -/
theorem map_summary_ofBlock? {owner : Text} {left right : List (Record × Item)}
    (same : left.Perm right) (owned : ∀ entry ∈ left, Text.fold entry.1.owner = owner) :
    (ofBlock? left).map summary = (ofBlock? right).map summary := by
  cases left with
  | nil => rw [List.nil_perm.mp same]
  | cons entry rest =>
      cases right with
      | nil => exact absurd same.symm (List.not_perm_nil_cons entry rest)
      | cons other others =>
          have first := owned entry List.mem_cons_self
          have second := owned other (same.mem_iff.mpr List.mem_cons_self)
          have items : (((entry :: rest).map Prod.snd : List Item) : Multiset Item) =
              ((other :: others).map Prod.snd : List Item) :=
            Multiset.coe_eq_coe.mpr (same.map Prod.snd)
          exact congrArg some (Prod.ext (first.trans second.symm) items)

/-- The summaries of groups are told owner by owner. -/
theorem mem_summaries_iff {entries : List (Record × Item)} {told : Text × Multiset Item} :
    told ∈ (ofEntries entries).map summary ↔
      (ofBlock? (entries.filter (isOf told.1))).map summary = some told := by
  rw [List.mem_map]
  constructor
  · rintro ⟨group, member, rfl⟩
    exact congrArg (Option.map summary) (mem_ofEntries_iff.mp member)
  · intro found
    rcases Option.map_eq_some_iff.mp found with ⟨group, made, rfl⟩
    exact ⟨group, mem_ofEntries_iff.mpr made, rfl⟩

/-- No two groups have the same owner and items. -/
theorem nodup_summaries (entries : List (Record × Item)) :
    ((ofEntries entries).map summary).Nodup := by
  apply List.Nodup.of_map Prod.fst
  rw [List.map_map]
  exact nodup_owners entries

/-- Entries in another order make groups of the same owners and items. -/
theorem perm_summaries {left right : List (Record × Item)} (same : left.Perm right) :
    ((ofEntries left).map summary).Perm ((ofEntries right).map summary) := by
  -- No owner has two groups, so it is enough that each summary is on both sides or on neither.
  rw [List.perm_ext_iff_of_nodup (nodup_summaries left) (nodup_summaries right)]
  intro told
  have owned : ∀ entry ∈ left.filter (isOf told.1), Text.fold entry.1.owner = told.1 :=
    fun entry member => beq_iff_eq.mp (List.mem_filter.mp member).2
  rw [mem_summaries_iff, mem_summaries_iff, map_summary_ofBlock? (same.filter _) owned]

end Group

/-! ## Services of records in another order -/

section

variable {left right : List Record} (same : left.Perm right) (premises : Premises)

include same

theorem perm_contents_challenges :
    ((premises.challenges left).map Service.content).Perm
      ((premises.challenges right).map Service.content) :=
  (same.filterMap _).map _

theorem perm_contents_aliases :
    ((premises.aliases left).map Service.content).Perm
      ((premises.aliases right).map Service.content) :=
  (same.filterMap _).map _

theorem perm_contents_orphans :
    (((premises.orphans left).map premises.orphan).map Service.content).Perm
      (((premises.orphans right).map premises.orphan).map Service.content) :=
  ((same.filter _).map _).map _

/-- Services that are made of groups hold the same if their groups have the same summaries. -/
theorem perm_contents_groups {Item : Type} (read? : Record → Option Item)
    {make : Group Item → Service Builtin} (tell : Text × Multiset Item → Content)
    (told : ∀ group, (make group).content = tell group.summary) :
    (((Group.ofEntries (left.filterMap (paired? read?))).map make).map Service.content).Perm
      (((Group.ofEntries (right.filterMap (paired? read?))).map make).map Service.content) := by
  have bySummary : ∀ groups : List (Group Item),
      (groups.map make).map Service.content = (groups.map Group.summary).map tell := by
    intro groups
    rw [List.map_map, List.map_map]
    exact List.map_congr_left fun group _ => told group
  rw [bySummary, bySummary]
  exact (Group.perm_summaries (same.filterMap _)).map tell

theorem perm_contents_mail :
    (((mailGroups left).map premises.mailService).map Service.content).Perm
      (((mailGroups right).map premises.mailService).map Service.content) := by
  apply perm_contents_groups same exchangerOf? fun summary =>
    { subdomain := Owner.relativeTo summary.1 premises.origin
      kind := ServiceKind.key MailExchangers
      items := summary.2.map .exchanger }
  intro group
  rw [mailService_eq, content_service]
  rfl

theorem perm_contents_servers :
    (((serverGroups left).map premises.serverService).map Service.content).Perm
      (((serverGroups right).map premises.serverService).map Service.content) := by
  apply perm_contents_groups same addressOf? fun summary =>
    { subdomain := Owner.relativeTo summary.1 premises.origin
      kind := ServiceKind.key Server
      items := summary.2.map .address }
  intro group
  rw [serverService_eq, content_service]
  rfl

/-- Records in another order make services that hold the same. -/
theorem perm_contents_services :
    ((premises.services left).map Service.content).Perm
      ((premises.services right).map Service.content) := by
  simp only [Premises.services, List.map_append]
  exact ((((perm_contents_challenges same premises).append
    (perm_contents_mail same premises)).append
    (perm_contents_servers same premises)).append
    (perm_contents_aliases same premises)).append
    (perm_contents_orphans same premises)

theorem Premises.ofZone_of_perm (origin : Text) (emptyTtl : UInt32) :
    ofZone origin left emptyTtl = ofZone origin right emptyTtl := by
  rw [ofZone, ofZone, mostUsedTtl_of_perm same]

end

/-! ## Analyses of records in another order -/

/-- The services of an analysis are those of its records, and hold the same in any order. -/
theorem contents_eq (premises : Premises) (records : List Record) {analysis : Analysis Builtin}
    (filed : analysis.services = collect Premises.subdomain (premises.services records)) :
    analysis.contents = ((premises.services records).map Service.content : List Content) := by
  have all : analysis.allServices =
      inOrder (collect Premises.subdomain (premises.services records)) :=
    congrArg inOrder filed
  rw [Analysis.contents, all]
  exact Multiset.coe_eq_coe.mpr ((perm_inOrder_collect _).map _)

/--
Analyses of the same records in two orders both succeed and find the same default time to live, as
many dropped records, and services of the same contents.
-/
theorem analyses_agree_of_perm (settings : Settings) (origin : Text) {left right : List Record}
    (same : left.Perm right) (within : left.length ≤ settings.maxRecords) :
    ∃ first second,
      (Registry.builtin : Registry Unit Builtin).analyze settings origin left = .ok first
        ∧ (Registry.builtin : Registry Unit Builtin).analyze settings origin right = .ok second
        ∧ first.defaultTtl = second.defaultTtl
        ∧ first.dropped = second.dropped
        ∧ first.contents = second.contents := by
  have premises := Premises.ofZone_of_perm same origin settings.emptyTtl
  refine ⟨_, _, analyze_builtin settings origin left within,
    analyze_builtin settings origin right (same.length_eq ▸ within), ?_, ?_, ?_⟩
  · rw [premises]
  · rw [premises]
    exact same.countP_eq _
  · rw [contents_eq _ left rfl, contents_eq _ right rfl, premises]
    exact Multiset.coe_eq_coe.mpr (perm_contents_services same _)

/-- Addresses of one name in two spellings, at times to live that are used equally often. -/
def spelledZone : List Record :=
  [ ⟨"www.example.com.".toList, .a, 300, "192.0.2.1".toList⟩,
    ⟨"WWW.example.com.".toList, .a, 60, "192.0.2.2".toList⟩ ]

/-- What any analysis of the spelled zone contains. -/
def spelledContent : Content where
  subdomain := "www".toList
  kind := "abstract.Server".toList
  items := {.address (.v4 ⟨192, 0, 2, 1⟩), .address (.v4 ⟨192, 0, 2, 2⟩)}

/-- The order of the spelled zone shows in its analyses, but not in their contents. -/
theorem analyses_agree_of_perm_of_spelledZone :
    spelledZone.Perm spelledZone.reverse ∧ spelledZone.length ≤ ({} : Settings).maxRecords ∧
      ∃ first second,
        (Registry.builtin : Registry Unit Builtin).analyze {} "example.com.".toList spelledZone =
            .ok first
          ∧ (Registry.builtin : Registry Unit Builtin).analyze {} "example.com.".toList
            spelledZone.reverse = .ok second
          ∧ first.allServices.map (·.header.subdomain) = ["www".toList]
          ∧ second.allServices.map (·.header.subdomain) = ["WWW".toList]
          ∧ first.defaultTtl = second.defaultTtl
          ∧ first.dropped = second.dropped
          ∧ first.contents = {spelledContent}
          ∧ second.contents = {spelledContent} := by
  have same : spelledZone.Perm spelledZone.reverse := (List.reverse_perm spelledZone).symm
  have within : spelledZone.length ≤ ({} : Settings).maxRecords := by decide
  rcases analyses_agree_of_perm {} "example.com.".toList same within with
    ⟨first, second, analyzedFirst, analyzedSecond, sameTtl, sameDropped, sameContents⟩
  have contained : first.contents = {spelledContent} := by
    cases (analyze_builtin _ _ _ within).symm.trans analyzedFirst
    decide +kernel
  refine ⟨same, within, first, second, analyzedFirst, analyzedSecond, ?_, ?_, sameTtl,
    sameDropped, contained, sameContents ▸ contained⟩
  · cases (analyze_builtin _ _ _ within).symm.trans analyzedFirst
    decide +kernel
  · cases (analyze_builtin _ _ _ (by decide)).symm.trans analyzedSecond
    decide +kernel

end ZoneServices
