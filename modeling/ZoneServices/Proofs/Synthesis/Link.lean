import ZoneServices.Proofs.Analysis.Refinement
import ZoneServices.Proofs.Name.Absolute
import ZoneServices.Proofs.Synthesis.Grouped

/-!
# What aliases point at

The payload of an alias is read twice.  To decide whether it is one, it is cut into tokens, and the
first token has to be the name of a host.  The service that is made of it holds its last word.
Words and tokens are not the same: a comment is no token, quotes and parentheses are not part of
tokens, and more tokens than one are accepted.

For a payload of one word, the target of the service denotes the host exactly if the word is a bare
token and does not end inside an escape.  Of an unquoted payload with more words, the first is the
host and the last is the target.  Whenever the target denotes the host, the record that the service
is written as names that host again.
-/

namespace ZoneServices

open Text

/-- The host that a payload names by its first token. -/
def Payload.hostOf? (payload : Text) : Option Name := (tokens? payload).bind host?

/-- Of a payload without quotes, the parser takes the first word as the host. -/
theorem Payload.hostOf?_of_isUnquoted {payload : Text} (unquoted : IsUnquoted payload) :
    hostOf? payload = (words payload).head?.bind Name.readInternational? := by
  rw [hostOf?, tokens?_of_isUnquoted unquoted, Option.bind_some]
  cases words payload with
  | nil => rfl
  | cons first rest => rfl

theorem Payload.hostOf?_of_isBareToken {token : Text} (isToken : IsBareToken token) :
    hostOf? token = Name.readInternational? token := by
  rw [hostOf?_of_isUnquoted isToken.isUnquoted, words_of_isSolid isToken.solid isToken.nonempty]
  rfl

namespace Record

variable {record : Record}

/-- The payload of an alias that was read always names a host. -/
theorem exists_hostOf? (isRead : record.IsRead) (type : record.type = .cname) :
    ∃ host, Payload.hostOf? record.payload = some host := by
  have canonical : Payload.keepTokens .host record.payload = .ok record.payload := by
    rw [← isRead.canonical, type]
    rfl
  rw [Payload.keepTokens] at canonical
  split at canonical
  · rename_i tokens found
    split at canonical
    · rename_i accepted
      rw [Payload.hostOf?, found, Option.bind_some]
      exact Option.isSome_iff_exists.mp accepted
    · cases canonical
  · cases canonical

theorem target_ne_nil (isRead : record.IsRead) : record.target ≠ [] := by
  intro empty
  rw [target_eq_nil_iff, trim_of_isTrimmed isRead.trimmed] at empty
  exact isRead.nonempty empty

/-- Of a payload in one word, the last word is the payload itself. -/
theorem target_of_isSolid (isRead : record.IsRead) (solid : IsSolid record.payload) :
    record.target = record.payload := by
  rw [target, words_of_isSolid solid isRead.nonempty]
  rfl

/-- The target of an alias of one word denotes the host exactly if the word is the whole token. -/
theorem denotes_target_iff (isRead : record.IsRead) (solid : IsSolid record.payload) {host : Name}
    (found : Payload.hostOf? record.payload = some host) :
    Name.Denotes record.target host ↔
      Payload.IsBareToken record.payload ∧ ¬ Name.EndsInEscape record.payload := by
  have readsItself : Payload.IsBareToken record.payload →
      Name.readInternational? record.payload = some host := by
    intro isToken
    rw [← Payload.hostOf?_of_isBareToken isToken, found]
  rw [target_of_isSolid isRead solid]
  constructor
  · intro denotes
    rcases denotes with ⟨name, read, same⟩
    have whole := Name.isBareToken_of_readInternational? read (Owner.isSolid_qualified solid)
      (Owner.qualified_ne_nil isRead.nonempty)
    have isToken : Payload.IsBareToken record.payload :=
      ⟨fun character member => whole.bare character (Owner.subset_qualified _ member),
        isRead.nonempty⟩
    exact ⟨isToken, (Name.denotes_iff (readsItself isToken) isRead.nonempty).mp ⟨name, read, same⟩⟩
  · rintro ⟨isToken, closed⟩
    exact (Name.denotes_iff (readsItself isToken) isRead.nonempty).mpr closed

end Record

/-- A target that denotes a host is written as a payload that names the host. -/
theorem Alias.exists_hostOf?_written {target : Text} (solid : IsSolid target)
    (nonempty : target ≠ []) {host : Name} (denotes : Name.Denotes target host) :
    ∃ name, Payload.hostOf? (Owner.qualified target) = some name
      ∧ name.IsSame { host with absolute := true } := by
  rcases denotes with ⟨name, read, same⟩
  have isToken := Name.isBareToken_of_readInternational? read (Owner.isSolid_qualified solid)
    (Owner.qualified_ne_nil nonempty)
  exact ⟨name, by rw [Payload.hostOf?_of_isBareToken isToken, read], same⟩

/--
The alias of a record that was read, in any zone: for a payload of one word its target denotes the
host that the record names exactly if the word is a bare token that does not end inside an escape.
The host of an unquoted payload is its first word.  A target that denotes the host is written as a
record that names it.
-/
theorem link_names_host (settings : Settings) (origin : Text) {records : List Record}
    (within : records.length ≤ settings.maxRecords) {line : Text} {record : Record}
    (read : Record.read line = .ok record) (member : record ∈ records)
    (type : record.type = .cname) :
    ∃ host, Payload.hostOf? record.payload = some host
      ∧ (IsSolid record.payload → (Name.Denotes record.target host ↔
        Payload.IsBareToken record.payload ∧ ¬ Name.EndsInEscape record.payload))
      ∧ (Payload.IsUnquoted record.payload →
        (words record.payload).head?.bind Name.readInternational? = some host)
      ∧ ∃ analysis service,
        (Registry.builtin : Registry Unit Builtin).analyze settings origin records = .ok analysis
          ∧ service ∈ analysis.allServices
          ∧ service.header.id = ServiceId.ofRecord record
          ∧ service.body = .link ⟨record.target⟩
          ∧ ∀ ttl, ∃ again,
            (⟨record.target⟩ : Alias).records service.header.subdomain ttl origin = .ok [again]
              ∧ again.type = .cname
              ∧ (Name.Denotes record.target host → ∃ name,
                Payload.hostOf? again.payload = some name
                  ∧ name.IsSame { host with absolute := true }) := by
  have isRead := Record.isRead_of_read read
  have nonempty := Record.target_ne_nil isRead
  have solid := Alias.isSolid_target nonempty
  have isAlias : IsAlias record :=
    ⟨type, by rw [trim_of_isTrimmed isRead.trimmed]; exact isRead.nonempty⟩
  let premises := Premises.ofZone origin records settings.emptyTtl
  have classified : premises.service record record.owner (.link ⟨record.target⟩) ∈
      premises.classified records := by
    simp only [Premises.classified, List.mem_append, List.mem_map, List.mem_filter,
      decide_eq_true_eq]
    exact .inl (.inr ⟨record, ⟨member, isAlias⟩, rfl⟩)
  rcases Record.exists_hostOf? isRead type with ⟨host, found⟩
  rcases exists_mem_allServices within classified with ⟨analysis, analyzed, listed⟩
  refine ⟨host, found, fun oneWord => Record.denotes_target_iff isRead oneWord found, ?_, analysis,
    _, analyzed, listed, rfl, rfl, ?_⟩
  · intro unquoted
    rw [← Payload.hostOf?_of_isUnquoted unquoted, found]
  · intro ttl
    exact ⟨_, Alias.records_eq solid nonempty _ _ _, rfl,
      Alias.exists_hostOf?_written solid nonempty⟩

/-- An alias of one word whose target is not absolute and is in capital letters. -/
def relativeLink : Record :=
  ⟨"www.example.com.".toList, .cname, 300, "HOST.Example.net".toList⟩

theorem link_names_host_of_relativeLink :
    [relativeLink].length ≤ ({} : Settings).maxRecords
      ∧ Record.read relativeLink.write = .ok relativeLink
      ∧ relativeLink.type = .cname
      ∧ IsSolid relativeLink.payload
      ∧ Payload.hostOf? relativeLink.payload =
        some ⟨["host".toList, "example".toList, "net".toList], false⟩
      ∧ ∃ again name,
        (⟨relativeLink.target⟩ : Alias).records "www".toList 60 "example.com.".toList = .ok [again]
          ∧ Payload.hostOf? again.payload = some name
          ∧ name.IsSame ⟨["host".toList, "example".toList, "net".toList], true⟩ := by
  have within : [relativeLink].length ≤ ({} : Settings).maxRecords := by decide
  have read : Record.read relativeLink.write = .ok relativeLink := by decide +kernel
  have solid : IsSolid relativeLink.payload := isSolid_iff_all.mpr (by decide +kernel)
  have named : Payload.hostOf? relativeLink.payload =
      some ⟨["host".toList, "example".toList, "net".toList], false⟩ := by decide +kernel
  have isToken : Payload.IsBareToken relativeLink.payload :=
    ⟨List.all_eq_true.mp (by decide +kernel), by decide⟩
  rcases link_names_host {} "example.com.".toList within read List.mem_cons_self rfl with
    ⟨host, found, oneWord, _, analysis, service, analyzed, listed, _, held, written⟩
  cases named.symm.trans found
  have denotes := (oneWord solid).mpr ⟨isToken, by decide +kernel⟩
  have places : analysis.allServices.map (·.header.subdomain) = ["www".toList] := by
    cases (analyze_builtin _ _ _ within).symm.trans analyzed
    decide +kernel
  have place : service.header.subdomain = "www".toList := by
    rw [← List.mem_singleton, ← places]
    exact List.mem_map_of_mem listed
  rcases written 60 with ⟨again, made, _, kept⟩
  rcases kept denotes with ⟨name, foundAgain, same⟩
  exact ⟨within, read, rfl, solid, named, again, name, place ▸ made, foundAgain, same⟩

/-- An alias with a word more than its host. -/
def surplusLink : Record :=
  ⟨"www.example.com.".toList, .cname, 300, "a.example.net. b.example.net.".toList⟩

/-- Not every alias keeps pointing at the host that it was accepted for. -/
theorem not_link_names_host_of_surplusLink :
    Record.read "www.example.com. 300 IN CNAME a.example.net. b.example.net.".toList =
        .ok surplusLink
      ∧ Payload.hostOf? surplusLink.payload =
        some ⟨["a".toList, "example".toList, "net".toList], true⟩
      ∧ surplusLink.target = "b.example.net.".toList
      ∧ ¬ Name.Denotes surplusLink.target ⟨["a".toList, "example".toList, "net".toList], true⟩
      ∧ ∃ analysis,
        (Registry.builtin : Registry Unit Builtin).analyze {} "example.com.".toList
            [surplusLink] = .ok analysis
          ∧ (analysis.allServices.map fun service => (service.header.subdomain, service.body)) =
            [("www".toList, .link ⟨"b.example.net.".toList⟩)]
          ∧ ∃ written,
            (⟨"b.example.net.".toList⟩ : Alias).records "www".toList 300 "example.com.".toList =
                .ok [written]
              ∧ Payload.hostOf? written.payload =
                some ⟨["b".toList, "example".toList, "net".toList], true⟩ := by
  have other : Name.readInternational? (Owner.qualified surplusLink.target) =
      some ⟨["b".toList, "example".toList, "net".toList], true⟩ := by decide +kernel
  refine ⟨by decide +kernel, by decide +kernel, by decide +kernel, ?_, _,
    analyze_builtin {} "example.com.".toList [surplusLink] (by decide), by decide +kernel, _,
    Alias.records_eq (isSolid_iff_all.mpr (by decide)) (by decide) _ _ _, by decide +kernel⟩
  rintro ⟨name, read, same⟩
  cases other.symm.trans read
  exact absurd same.labels (by decide)

end ZoneServices
