import ZoneServices.Proofs.Analysis.Refinement
import ZoneServices.Proofs.Name.Label
import ZoneServices.Proofs.Synthesis.Grouped
import ZoneServices.Proofs.Text.Lossy

/-!
# What challenges are written as

The service of a challenge holds a text.  It is read from the strings of a record one by one, and
octets that are not those of a character are replaced.  So the text is written as the octets it was
read from exactly if each of the strings is well-formed by itself; a character that is cut in two by
the end of a string is lost.

The owner of the challenge is written as the label before the absolute form of the name that it
stands on.
-/

namespace ZoneServices

open Directory Text

namespace Challenge

/-- An owner under the label of challenges, cut behind the label. -/
theorem exists_behind {owner : Text} (under : ownerStart <+: fold owner) :
    ∃ first, owner = first ++ '.' :: owner.drop ownerStart.length ∧ fold first = label := by
  rcases under with ⟨rest, cut⟩
  have same : fold (owner.take ownerStart.length) = ownerStart := by
    rw [fold, List.map_take, ← fold, ← cut, List.take_left]
  have dot : endsWithDot (owner.take ownerStart.length) = true := by
    rw [← endsWithDot_fold, same]
    decide
  rcases endsWithDot_iff.mp dot with ⟨first, whole⟩
  refine ⟨first, ?_, ?_⟩
  · rw [← List.singleton_append, ← List.append_assoc, ← whole, List.take_append_drop]
  · rw [whole, fold_append, ownerStart] at same
    exact List.append_cancel_right same

/-- The owner of a challenge is written again, letter case aside, exactly if it is not moved. -/
theorem fold_owner_iff {owner : Text} (under : ownerStart <+: fold owner)
    (checked : Record.checkOwner owner = .ok ()) (origin : Text) :
    fold (Owner.resolve (Owner.join
        [label, Owner.relativeTo (owner.drop ownerStart.length) origin]) origin) = fold owner ↔
      ¬ Owner.IsMoved origin (owner.drop ownerStart.length) := by
  rcases exists_behind under with ⟨first, whole, same⟩
  have noDot : '.' ∉ first := by
    rw [mem_iff_of_fold_eq (by decide) (same.trans (by decide : label = fold label))]
    decide
  have noEscape : '\\' ∉ first := by
    rw [mem_iff_of_fold_eq (by decide) (same.trans (by decide : label = fold label))]
    decide
  have folded : fold owner = fold (label ++ '.' :: owner.drop ownerStart.length) := by
    conv_lhs => rw [whole]
    rw [fold_append, fold_append, same]
    rfl
  rw [whole] at checked
  rw [folded]
  exact fold_resolve_join_iff isStem_label (Record.checkOwner_behind noDot noEscape checked)

end Challenge

/-! ## Strings -/

/-- The octets of the text of a record are those of its strings, read one by one. -/
theorem encode_joinedText {record : Record} {strings : List Octets}
    (found : record.strings? = some strings) :
    Utf8.encode record.joinedText =
      (strings.map fun octets => Utf8.encode (Utf8.decodeLossy octets)).flatten := by
  rw [Record.joinedText, Record.texts, found, Option.getD_some, Utf8.encode_flatten, List.map_map]
  rfl

/-- The strings that a text is written in have the octets of the text. -/
theorem strings?_written (owner : Text) (ttl : UInt32) (text : Text) :
    ∃ strings, (⟨owner, .txt, ttl, CharacterString.writeText text⟩ : Record).strings? = some strings
      ∧ strings.flatten = Utf8.encode text := by
  refine ⟨_, Record.strings?_writeText owner ttl text, ?_⟩
  rw [← Utf8.encode_flatten, CharacterString.flatten_ofText]

/-! ## Challenges of a zone -/

/-- How a challenge is written that was read from a record. -/
structure Record.KeepsChallenge (origin : Text) (record written : Record) : Prop where
  type : written.type = .txt
  /-- The owner is that of the record, letter case aside, unless it is moved. -/
  owner : ¬ Owner.IsMoved origin (record.owner.drop Challenge.ownerStart.length) →
    fold written.owner = fold record.owner
  /-- The octets are those of the strings of the record if each of these is well-formed. -/
  strings : ∃ strings again, record.strings? = some strings ∧ written.strings? = some again
    ∧ again.flatten = (strings.map fun octets => Utf8.encode (Utf8.decodeLossy octets)).flatten
    ∧ (again.flatten = strings.flatten ↔
      ∀ octets ∈ strings, (Utf8.decode? octets).isSome = true)

theorem Challenge.keepsChallenge {record : Record} (isRead : record.IsRead)
    (claimed : IsChallenge record) {origin : Text} {ttl : UInt32} {written : List Record}
    (made : (⟨record.joinedText⟩ : Challenge).records
      (Owner.relativeTo (record.owner.drop ownerStart.length) origin) ttl origin = .ok written) :
    ∃ again, written = [again] ∧ record.KeepsChallenge origin again := by
  have nonempty : (⟨record.joinedText⟩ : Challenge).token ≠ [] := by
    intro empty
    rcases records_eq_error empty (Owner.relativeTo (record.owner.drop ownerStart.length) origin)
      ttl origin with ⟨error, failed⟩
    cases failed.symm.trans made
  cases (records_eq nonempty _ ttl origin).symm.trans made
  refine ⟨_, rfl, rfl, ?_, ?_⟩
  · exact (fold_owner_iff claimed.2.2 isRead.owner origin).mpr
  · rcases Option.isSome_iff_exists.mp claimed.2.1 with ⟨strings, found⟩
    rcases strings?_written (Owner.resolve (Owner.join
      [label, Owner.relativeTo (record.owner.drop ownerStart.length) origin]) origin) ttl
      record.joinedText with ⟨again, foundAgain, octets⟩
    rw [encode_joinedText found] at octets
    refine ⟨strings, again, found, foundAgain, octets, ?_⟩
    rw [octets]
    exact Utf8.flatten_encode_decodeLossy_eq_iff

/--
The challenge of a record that was read, in any zone, is written as one text record, which has the
owner of the record unless it is moved, and the octets of its strings if these are well-formed.
-/
theorem challenge_written (settings : Settings) (origin : Text) {records : List Record}
    (within : records.length ≤ settings.maxRecords) {line : Text} {record : Record}
    (read : Record.read line = .ok record) (member : record ∈ records)
    (claimed : IsChallenge record) :
    ∃ analysis service challenge,
      (Registry.builtin : Registry Unit Builtin).analyze settings origin records = .ok analysis
        ∧ service ∈ analysis.allServices
        ∧ service.header.id = ServiceId.ofRecord record
        ∧ service.body = .challenge challenge
        ∧ ∀ ttl written, challenge.records service.header.subdomain ttl origin = .ok written →
          ∃ again, written = [again] ∧ record.KeepsChallenge origin again := by
  let premises := Premises.ofZone origin records settings.emptyTtl
  have classified : premises.service record (record.owner.drop Challenge.ownerStart.length)
      (.challenge ⟨record.joinedText⟩) ∈ premises.classified records := by
    simp only [Premises.classified, List.mem_append, List.mem_map, List.mem_filter,
      decide_eq_true_eq]
    exact .inl (.inl (.inl (.inl ⟨record, ⟨member, claimed⟩, rfl⟩)))
  rcases exists_mem_allServices within classified with ⟨analysis, analyzed, listed⟩
  refine ⟨analysis, _, ⟨record.joinedText⟩, analyzed, listed, rfl, rfl, ?_⟩
  intro ttl written made
  have place : Owner.relativeTo (record.owner.drop Challenge.ownerStart.length) premises.origin =
      Owner.relativeTo (record.owner.drop Challenge.ownerStart.length) origin :=
    Owner.relativeTo_qualified _ origin
  apply Challenge.keepsChallenge (Record.isRead_of_read read) claimed
  rw [← place]
  exact made

/-- A challenge whose strings are well-formed, under a label in another letter case. -/
def accentedChallenge : Record :=
  ⟨"_Scaleway-Challenge.WWW.example.com.".toList, .txt, 300, "\"café\" \"1\"".toList⟩

theorem challenge_written_of_accentedChallenge :
    [accentedChallenge].length ≤ ({} : Settings).maxRecords
      ∧ Record.read accentedChallenge.write = .ok accentedChallenge
      ∧ IsChallenge accentedChallenge
      ∧ ∃ challenge again,
        (⟨challenge⟩ : Challenge).records "WWW".toList 60 "example.com.".toList = .ok [again]
          ∧ fold again.owner = fold accentedChallenge.owner
          ∧ again.strings?.map List.flatten = some [99, 97, 102, 195, 169, 49] := by
  have within : [accentedChallenge].length ≤ ({} : Settings).maxRecords := by decide
  have read : Record.read accentedChallenge.write = .ok accentedChallenge := by decide +kernel
  have claimed : IsChallenge accentedChallenge := by decide +kernel
  have strings : accentedChallenge.strings? = some [[99, 97, 102, 195, 169], [49]] := by
    decide +kernel
  have stays : ¬ Owner.IsMoved "example.com.".toList
      (accentedChallenge.owner.drop Challenge.ownerStart.length) :=
    (Challenge.fold_owner_iff claimed.2.2 (Record.isRead_of_read read).owner _).mp
      (by decide +kernel)
  rcases challenge_written {} "example.com.".toList within read List.mem_cons_self claimed with
    ⟨analysis, service, challenge, analyzed, listed, _, held, written⟩
  have services : (analysis.allServices.map fun service =>
      (service.header.subdomain, service.body)) =
        [("WWW".toList, .challenge ⟨"café1".toList⟩)] := by
    cases (analyze_builtin _ _ _ within).symm.trans analyzed
    decide +kernel
  have only : (service.header.subdomain, service.body) =
      ("WWW".toList, .challenge ⟨"café1".toList⟩) := by
    rw [← List.mem_singleton, ← services]
    exact List.mem_map_of_mem listed
  rw [held, Prod.mk.injEq, Builtin.challenge.injEq] at only
  rcases only with ⟨place, rfl⟩
  rw [place] at written
  have nonempty : (⟨"café1".toList⟩ : Challenge).token ≠ [] := by decide
  have made := Challenge.records_eq nonempty "WWW".toList 60 "example.com.".toList
  rcases written 60 _ made with ⟨again, one, kept⟩
  rcases kept.strings with ⟨_, againStrings, found, foundAgain, _, same⟩
  cases strings.symm.trans found
  refine ⟨within, read, claimed, "café1".toList, again, one ▸ made, kept.owner stays, ?_⟩
  rw [foundAgain]
  exact congrArg some (same.mpr (by decide +kernel))

/-- A challenge with an octet that is not part of a character. -/
def brokenChallenge : Record :=
  ⟨"_scaleway-challenge.example.com.".toList, .txt, 300, "\"\\255\"".toList⟩

/-- Not every challenge is written with the octets that it was read from. -/
theorem not_challenge_written_of_brokenChallenge :
    Record.checkOwner "example.com.".toList = .ok ()
      ∧ Record.read "_scaleway-challenge.example.com. 300 IN TXT \"\\255\"".toList =
        .ok brokenChallenge
      ∧ IsChallenge brokenChallenge
      ∧ brokenChallenge.strings? = some [[255]]
      ∧ ∃ analysis,
        (Registry.builtin : Registry Unit Builtin).analyze {} "example.com.".toList
            [brokenChallenge] = .ok analysis
          ∧ (analysis.allServices.map fun service => (service.header.subdomain, service.body)) =
            [([], .challenge ⟨[Char.ofNat 0xFFFD]⟩)]
          ∧ ∃ written,
            (⟨[Char.ofNat 0xFFFD]⟩ : Challenge).records [] 300 "example.com.".toList =
                .ok [written]
              ∧ written.strings? = some [[239, 191, 189]]
              ∧ written.strings?.map List.flatten ≠
                brokenChallenge.strings?.map List.flatten := by
  refine ⟨by decide +kernel, by decide +kernel, by decide +kernel, by decide +kernel, _,
    analyze_builtin {} "example.com.".toList [brokenChallenge] (by decide), ?_, _,
    Challenge.records_eq (by decide) _ _ _, ?_, ?_⟩
  · decide +kernel
  · decide +kernel
  · decide +kernel

end ZoneServices
