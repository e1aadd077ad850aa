import ZoneServices.Domain
import ZoneServices.Proofs.Name.Escape
import ZoneServices.Proofs.Record.Grammar

/-!
# Names of domains

The name of a domain is made absolute and then read as any name is, relative or absolute; the owner
of a record is read in the same way and has to be absolute.  As the name ends with a dot when it is
read, both ask for the same: whatever blanks, dots and escapes a text has, a domain is made of it
exactly if its name is long enough and may own a record.

So the name of a domain can be the origin of its zone: it is read as the owner in a line of a
record, and a domain that is made of it again has the same name.
-/

namespace ZoneServices

open Text

namespace Record

theorem checkOwner_qualified_iff {name : Text} :
    checkOwner (Owner.qualified name) = .ok () ↔
      ∃ found, Name.readAscii? (Owner.qualified name) = some found := by
  rw [checkOwner_iff_readAscii?]
  constructor
  · rintro ⟨found, read, _⟩
    exact ⟨found, read⟩
  · rintro ⟨found, read⟩
    exact ⟨found, read,
      (Name.absolute_of_readWith? read).trans (Owner.endsWithDot_qualified name)⟩

/-- An owner can take the place of another one in a line. -/
theorem read_of_checkOwner {owner : Text} (checked : checkOwner owner = .ok ())
    {other rest : Text} {blank : Char} (solid : IsSolid other) (named : other ≠ [])
    (isBlank_blank : isBlank blank = true) {record : Record}
    (read : Record.read (other ++ blank :: rest) = .ok record) :
    Record.read (owner ++ blank :: rest) = .ok { record with owner := owner } := by
  have isOwner := isOwnerText_of_checkOwner checked
  have nonempty : owner ≠ [] := by
    rintro rfl
    cases isOwner.endsWithDot
  rcases read_eq_ok_iff.mp read with ⟨words, cut, _, ttl, type, _, filled, payload⟩
  rcases Line.read_eq_ok_iff.mp cut with ⟨behindOwner, behindTtl, behindType, first, others⟩
  rw [nextWord?_append solid named isBlank_blank] at first
  cases first
  have replaced : Line.read (owner ++ blank :: rest) = .ok { words with owner := owner } :=
    Line.read_eq_ok_iff.mpr
      ⟨_, behindTtl, behindType, nextWord?_append isOwner.solid nonempty isBlank_blank rest, others⟩
  exact read_eq_ok_iff.mpr ⟨_, replaced, rfl, ttl, type, checked, filled, payload⟩

end Record

namespace Domain

variable {owner : UserId} {provider : ProviderId} {text : Text} {domain : Domain}

/-- A domain as it is before anything is known of it but its name. -/
def fresh (owner : UserId) (provider : ProviderId) (name : Text) : Domain :=
  { id := ⟨0⟩, owner, provider, name, group := [], history := [] }

/-- A domain is made of a text exactly if its name is long enough and may own a record. -/
theorem make_eq_ok_iff :
    make owner provider text = .ok domain ↔
      leastSize ≤ octetSize (trimEndDots (trim text))
        ∧ Record.checkOwner (Owner.qualified (trim text)) = .ok ()
        ∧ domain = fresh owner provider (Owner.qualified (trim text)) := by
  rw [make, Record.checkOwner_qualified_iff]
  rw [Owner.trimEndDots_qualified]
  split
  · rename_i short
    exact iff_of_false (fun made => nomatch made) fun long => absurd short (Nat.not_lt.mpr long.1)
  · rename_i long
    cases read : Name.readAscii? (Owner.qualified (trim text)) with
    | none => simp
    | some name =>
        constructor
        · intro made
          cases made
          exact ⟨Nat.le_of_not_lt long, ⟨name, rfl⟩, rfl⟩
        · rintro ⟨_, _, rfl⟩
          rfl

/--
The name of a domain may own records, and is read as an owner in every line that is read with
another one.  It is long enough, and a domain made of it has this name again.
-/
theorem name_of_make (made : make owner provider text = .ok domain) :
    Record.checkOwner domain.name = .ok ()
      ∧ (∀ (other rest : Text) (blank : Char) (record : Record), IsSolid other → other ≠ [] →
        isBlank blank = true → Record.read (other ++ blank :: rest) = .ok record →
        Record.read (domain.name ++ blank :: rest) = .ok { record with owner := domain.name })
      ∧ leastSize ≤ octetSize (trimEndDots domain.name)
      ∧ ∀ owner provider,
        make owner provider domain.name = .ok (fresh owner provider domain.name) := by
  rcases make_eq_ok_iff.mp made with ⟨long, checked, rfl⟩
  have named : (fresh owner provider (Owner.qualified (trim text))).name =
      Owner.qualified (trim text) := rfl
  rw [named]
  have trimmed : trim (Owner.qualified (trim text)) = Owner.qualified (trim text) :=
    trim_of_isTrimmed (isOwnerText_of_checkOwner checked).solid.isTrimmed
  have sized : leastSize ≤ octetSize (trimEndDots (Owner.qualified (trim text))) := by
    rwa [Owner.trimEndDots_qualified]
  refine ⟨checked, ?_, sized, ?_⟩
  · intro other rest blank record solid someOther isBlank_blank read
    exact Record.read_of_checkOwner checked solid someOther isBlank_blank read
  · intro owner provider
    apply make_eq_ok_iff.mpr
    rw [trimmed, Owner.qualified_qualified]
    exact ⟨sized, checked, rfl⟩

/-- Blanks around a name do not count, and an escaped dot at its end does not stand for the root. -/
theorem name_of_make_of_looseText :
    make ⟨1⟩ ⟨2⟩ " Example.com\\ ".toList = .ok (fresh ⟨1⟩ ⟨2⟩ "Example.com\\.".toList)
      ∧ Record.checkOwner "Example.com\\.".toList = .ok ()
      ∧ Record.read "www. 300 IN A 192.0.2.1".toList =
        .ok ⟨"www.".toList, .a, 300, "192.0.2.1".toList⟩
      ∧ Record.read "Example.com\\. 300 IN A 192.0.2.1".toList =
        .ok ⟨"Example.com\\.".toList, .a, 300, "192.0.2.1".toList⟩
      ∧ leastSize ≤ octetSize (trimEndDots "Example.com\\.".toList)
      ∧ make ⟨3⟩ ⟨4⟩ "Example.com\\.".toList = .ok (fresh ⟨3⟩ ⟨4⟩ "Example.com\\.".toList) := by
  have made : make ⟨1⟩ ⟨2⟩ " Example.com\\ ".toList =
      .ok (fresh ⟨1⟩ ⟨2⟩ "Example.com\\.".toList) := by decide +kernel
  have read : Record.read "www. 300 IN A 192.0.2.1".toList =
      .ok ⟨"www.".toList, .a, 300, "192.0.2.1".toList⟩ := by decide +kernel
  rcases name_of_make made with ⟨checked, asOwner, long, again⟩
  refine ⟨made, checked, read, ?_, long, again ⟨3⟩ ⟨4⟩⟩
  exact asOwner "www.".toList "300 IN A 192.0.2.1".toList ' ' _ (isSolid_iff_all.mpr (by decide))
    (by decide) (by decide) read

end Domain

end ZoneServices
