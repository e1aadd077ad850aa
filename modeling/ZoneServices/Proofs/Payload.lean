import ZoneServices.Payload.Grammar
import ZoneServices.Proofs.CharacterString
import ZoneServices.Proofs.Name.Reader

/-!
# Payloads in canonical form

The canonical form of a payload is canonical: it is accepted again and stays as it is.  It neither
starts nor ends with a blank and is not empty, if what it was made from is so, which lets it stand
at the end of a line.

The tokens of a payload without quotes, parentheses and comments are its words.  So two bare words
with a space between them are two tokens, like the number and the written name that a mail exchanger
is written with.
-/

namespace ZoneServices.Payload

open ZoneServices.Text

/-! ## Bare tokens -/

/-- Whether a character stands for itself in a bare token, at its start as well as inside. -/
def isBare (character : Char) : Bool :=
  !(isBlank character || isControl character || ['@', '$', '(', ')', '"', ';'].contains character)

/-- A token that is not quoted. -/
structure IsBareToken (token : Text) : Prop where
  bare : ∀ character ∈ token, isBare character = true
  nonempty : token ≠ []

theorem IsBareToken.solid {token : Text} (isToken : IsBareToken token) : IsSolid token := by
  intro character member
  have bare := isToken.bare character member
  simp only [isBare, Bool.not_eq_true', Bool.or_eq_false_iff] at bare
  exact bare.1.1

/-- A bare character has no meaning of its own to a walk. -/
theorem ordinary_of_isBare {character : Char} (bare : isBare character = true) :
    isBlank character = false ∧ isControl character = false ∧ character ≠ '@' ∧ character ≠ '$'
      ∧ character ≠ '(' ∧ character ≠ ')' ∧ character ≠ '"' ∧ character ≠ ';'
      ∧ character ≠ '\r' := by
  have notReturn : character ≠ '\r' := by
    rintro rfl
    exact absurd bare (by decide)
  simp only [isBare, Bool.not_eq_true', Bool.or_eq_false_iff, List.contains_eq_mem,
    decide_eq_false_iff_not, List.mem_cons, List.not_mem_nil, or_false, not_or] at bare
  exact ⟨bare.1.1, bare.1.2, bare.2.1, bare.2.2.1, bare.2.2.2.1, bare.2.2.2.2.1,
    bare.2.2.2.2.2.1, bare.2.2.2.2.2.2, notReturn⟩

theorem step_between {character : Char} (bare : isBare character = true) (tokens : List Text) :
    Walk.step ⟨tokens, .between⟩ character = some ⟨tokens, .bare [character]⟩ := by
  rcases ordinary_of_isBare bare with
    ⟨solid, printed, noApex, noOrigin, noOpen, noClose, noQuote, noComment, noReturn⟩
  simp [Walk.step, Walk.stepBetween, solid, printed, noApex, noOrigin, noOpen, noClose, noQuote,
    noComment, noReturn]

theorem step_bare {character : Char} (bare : isBare character = true) (tokens : List Text)
    (word : Text) :
    Walk.step ⟨tokens, .bare word⟩ character = some ⟨tokens, .bare (character :: word)⟩ := by
  rcases ordinary_of_isBare bare with ⟨solid, printed, _, _, _, noClose, _, noComment, _⟩
  simp [Walk.step, solid, printed, noClose, noComment]

theorem stepBetween_blank {character : Char} (blank : isBlank character = true)
    (noReturn : character ≠ '\r') (tokens : List Text) :
    Walk.stepBetween tokens character = some ⟨tokens, .between⟩ := by
  have distinct : ∀ {other : Char}, isBlank other = false → character ≠ other := by
    rintro other solid rfl
    rw [blank] at solid
    cases solid
  have noApex : character ≠ '@' := distinct (by decide)
  have noOrigin : character ≠ '$' := distinct (by decide)
  have noClose : character ≠ ')' := distinct (by decide)
  have noOpen : character ≠ '(' := distinct (by decide)
  have noQuote : character ≠ '"' := distinct (by decide)
  have noComment : character ≠ ';' := distinct (by decide)
  simp [Walk.stepBetween, noApex, noOrigin, noClose, noOpen, noQuote, noComment, noReturn, blank]

theorem step_bare_blank {character : Char} (blank : isBlank character = true)
    (noReturn : character ≠ '\r') (tokens : List Text) (word : Text) :
    Walk.step ⟨tokens, .bare word⟩ character = some ⟨word.reverse :: tokens, .between⟩ := by
  have noClose : character ≠ ')' := by
    rintro rfl
    exact absurd blank (by decide)
  simp only [Walk.step, if_neg noClose, blank, Bool.true_or, if_true]
  exact stepBetween_blank blank noReturn _

/-- A payload without quotes, parentheses, comments and ends of lines that are cut. -/
def IsUnquoted (payload : Text) : Prop :=
  ∀ character ∈ payload, isBare character = true ∨ isBlank character = true ∧ character ≠ '\r'

/-- A walk over an unquoted payload finds its words, from between tokens and inside of a word. -/
theorem run_unquoted {payload : Text} (unquoted : IsUnquoted payload) (tokens : List Text) :
    (payload.foldlM Walk.step ⟨tokens, .between⟩).bind Walk.finish? =
        some (tokens.reverse ++ words payload)
      ∧ ∀ {word : Text}, IsSolid word → word ≠ [] →
        (payload.foldlM Walk.step ⟨tokens, .bare word.reverse⟩).bind Walk.finish? =
          some (tokens.reverse ++ words (word ++ payload)) := by
  induction payload generalizing tokens with
  | nil =>
      constructor
      · simp [Walk.finish?, words]
      · intro word solid nonempty
        rw [List.append_nil, words_of_isSolid solid nonempty]
        simp [Walk.finish?]
  | cons character rest step =>
      rcases List.forall_mem_cons.mp unquoted with ⟨bare | ⟨blank, noReturn⟩, others⟩
      · have solidCharacter : IsSolid [character] :=
          List.forall_mem_singleton.mpr (ordinary_of_isBare bare).1
        constructor
        · rw [List.foldlM_cons, step_between bare]
          exact (step others tokens).2 solidCharacter (List.cons_ne_nil _ _)
        · intro word solid nonempty
          have longer := (step others tokens).2 (solid.append solidCharacter)
            (List.append_ne_nil_of_left_ne_nil nonempty _)
          rw [List.reverse_append, List.append_assoc] at longer
          rw [List.foldlM_cons, step_bare bare]
          exact longer
      · constructor
        · have stepped : Walk.step ⟨tokens, .between⟩ character = some ⟨tokens, .between⟩ :=
            stepBetween_blank blank noReturn tokens
          have skipped : words (character :: rest) = words rest := by
            rw [words.eq_def]
            exact if_pos blank
          rw [List.foldlM_cons, stepped, skipped]
          exact (step others tokens).1
        · intro word solid nonempty
          have more := (step others (word :: tokens)).1
          rw [List.reverse_cons, List.append_assoc] at more
          rw [List.foldlM_cons, step_bare_blank blank noReturn, List.reverse_reverse,
            words_append solid nonempty blank]
          exact more

/-- The tokens of an unquoted payload are its words. -/
theorem tokens?_of_isUnquoted {payload : Text} (unquoted : IsUnquoted payload) :
    tokens? payload = some (words payload) :=
  (run_unquoted unquoted []).1

theorem IsBareToken.isUnquoted {token : Text} (isToken : IsBareToken token) : IsUnquoted token :=
  fun character member => .inl (isToken.bare character member)

/-- A bare token is the only token of its text. -/
theorem tokens?_of_isBareToken {token : Text} (isToken : IsBareToken token) :
    tokens? token = some [token] := by
  rw [tokens?_of_isUnquoted isToken.isUnquoted, words_of_isSolid isToken.solid isToken.nonempty]

theorem words_pair {first second : Text} (isFirst : IsBareToken first)
    (isSecond : IsBareToken second) : words (first ++ ' ' :: second) = [first, second] := by
  rw [words_append isFirst.solid isFirst.nonempty (by decide),
    words_of_isSolid isSecond.solid isSecond.nonempty]

/-- Two bare words with a space between them are two tokens. -/
theorem tokens?_pair {first second : Text} (isFirst : IsBareToken first)
    (isSecond : IsBareToken second) : tokens? (first ++ ' ' :: second) = some [first, second] := by
  have unquoted : IsUnquoted (first ++ ' ' :: second) :=
    List.forall_mem_append.mpr ⟨isFirst.isUnquoted,
      List.forall_mem_cons.mpr ⟨.inr (by decide), isSecond.isUnquoted⟩⟩
  rw [tokens?_of_isUnquoted unquoted, words_pair isFirst isSecond]

theorem isBareToken_decimal (value : Nat) : IsBareToken (Numeral.decimal value) where
  bare := Numeral.of_mem_toDigits (by omega) (by decide) value
  nonempty := Numeral.decimal_ne_nil value

end ZoneServices.Payload

namespace ZoneServices.Name

open ZoneServices.Text

theorem isBare_of_isSafe {first : Bool} {character : Char} (safe : isSafe first character = true) :
    Payload.isBare character = true := by
  have checked : ∀ first : Bool, (List.range 128).all fun point =>
      !isSafe first (Char.ofNat point) || Payload.isBare (Char.ofNat point) := by decide
  have found := of_toNat_lt
    (fun character => !isSafe first character || Payload.isBare character)
    (checked first) (toNat_lt_of_isSafe safe)
  rwa [safe, Bool.not_true, Bool.false_or] at found

theorem isBare_of_mem_writeCharacter {first : Bool} {character : Char}
    (safe : isSafe first character = true) :
    ∀ other ∈ writeCharacter first character, Payload.isBare other = true := by
  rw [writeCharacter]
  split
  · exact List.forall_mem_singleton.mpr (isBare_of_isSafe safe)
  · exact List.forall_mem_cons.mpr
      ⟨by decide, List.forall_mem_singleton.mpr (isBare_of_isSafe safe)⟩

/-- The written form of a safe label is made of bare characters. -/
theorem isBare_of_mem_writeLabel {label : Text} (safe : IsSafeLabel label) :
    ∀ character ∈ writeLabel label, Payload.isBare character = true := by
  cases label with
  | nil => cases safe
  | cons first rest =>
      intro character member
      rcases List.mem_append.mp member with member | member
      · exact isBare_of_mem_writeCharacter safe.1 character member
      · rcases List.mem_flatMap.mp member with ⟨other, inRest, written⟩
        exact isBare_of_mem_writeCharacter (safe.2 other inRest) character written

/-- A written name is a bare token, unless it is empty. -/
theorem isBareToken_write {name : Name} (accepted : AreAccepted name.labels)
    (nonempty : name.write ≠ []) : Payload.IsBareToken name.write where
  nonempty := nonempty
  bare := by
    intro character member
    rcases List.mem_append.mp member with member | member
    · have ofDot : ∀ other ∈ ['.'], Payload.isBare other = true :=
        List.forall_mem_singleton.mpr (by decide)
      refine forall_mem_joined ofDot ?_ character member
      intro piece inPieces
      rcases List.mem_map.mp inPieces with ⟨label, inLabels, rfl⟩
      exact isBare_of_mem_writeLabel (accepted.safe label inLabels)
    · split at member
      · rw [List.mem_singleton.mp member]
        decide
      · cases member

end ZoneServices.Name

namespace ZoneServices.Payload

open ZoneServices.Text

/-! ## Canonical forms -/

theorem isHexDigit_toLower (character : Char) :
    isHexDigit character.toLower = isHexDigit character := by
  cases letter : character.isAlpha with
  | false => rw [toLower_of_not_isAlpha letter]
  | true =>
      have checked := of_isAlpha
        (fun letter => isHexDigit letter.toLower == isHexDigit letter) (by decide) letter
      exact beq_iff_eq.mp checked

theorem toNat_lt_of_isHexDigit {character : Char} (digit : isHexDigit character = true) :
    character.toNat < 128 := by
  have bounds : ('9'.val.toNat, 'f'.val.toNat, 'F'.val.toNat) = (57, 102, 70) := rfl
  have same : character.toNat = character.val.toNat := rfl
  simp only [isHexDigit, hexDigit?, Char.le_def, UInt32.le_iff_toNat_le] at digit
  simp only [Prod.mk.injEq] at bounds
  split at digit
  · omega
  · split at digit
    · omega
    · split at digit
      · omega
      · cases digit

theorem isBlank_of_isHexDigit {character : Char} (digit : isHexDigit character = true) :
    isBlank character = false := by
  have found := Name.of_toNat_lt
    (fun character => !isHexDigit character || !isBlank character) (by decide)
    (toNat_lt_of_isHexDigit digit)
  simpa [digit] using found

namespace Generic

theorem isSolid_fold {digits : Text} (hexadecimal : digits.all isHexDigit = true) :
    IsSolid (fold digits) := by
  intro character member
  rcases List.mem_map.mp member with ⟨other, inDigits, rfl⟩
  apply isBlank_of_isHexDigit
  rw [isHexDigit_toLower]
  exact List.all_eq_true.mp hexadecimal other inDigits

/-- The canonical generic form has three words if there are any digits. -/
theorem words_write {length : Nat} {digits : Text} (hexadecimal : digits.all isHexDigit = true)
    (nonempty : digits ≠ []) :
    words (write length digits) = [mark, Numeral.decimal length, fold digits] := by
  have markSolid : IsSolid mark := isSolid_iff_all.mpr (by decide)
  have folded : fold digits ≠ [] := fun none => nonempty (fold_eq_nil_iff.mp none)
  rw [write, if_neg (by simpa using nonempty), List.append_assoc, List.cons_append,
    words_append markSolid (by decide) (by decide),
    words_append (Numeral.isSolid_decimal length) (Numeral.decimal_ne_nil length) (by decide),
    words_of_isSolid (isSolid_fold hexadecimal) folded]

/-- What a payload in generic form is made of. -/
theorem normalize_eq_ok_iff {payload canonical : Text} :
    normalize payload = .ok canonical ↔
      ∃ size pieces length, words payload = mark :: size :: pieces
        ∧ Numeral.count? size = some length ∧ pieces.flatten.all isHexDigit = true
        ∧ length * 2 = pieces.flatten.length ∧ canonical = write length pieces.flatten := by
  constructor
  · intro normalized
    rw [normalize] at normalized
    split at normalized
    · cases normalized
    · rename_i first rest cut
      split at normalized
      · cases normalized
      · rename_i marked
        split at normalized
        · cases normalized
        · rename_i size pieces
          split at normalized
          · cases normalized
          · rename_i length counted
            dsimp only at normalized
            split at normalized
            · cases normalized
            · rename_i hexadecimal
              split at normalized
              · cases normalized
              · rename_i same
                cases normalized
                rw [not_not.mp marked] at cut
                exact ⟨size, pieces, length, cut, counted, by simpa using hexadecimal,
                  by simpa using same, rfl⟩
  · rintro ⟨size, pieces, length, cut, counted, hexadecimal, same, rfl⟩
    rw [normalize, cut]
    dsimp only
    rw [if_neg (by simp), counted]
    dsimp only
    rw [hexadecimal, if_neg (by decide), if_neg (by simpa using same)]

/-- The generic form of some octets is canonical. -/
theorem normalize_write {length : Nat} {digits : Text} (fits : length < UInt64.size)
    (hexadecimal : digits.all isHexDigit = true) (size : length * 2 = digits.length) :
    normalize (write length digits) = .ok (write length digits) := by
  by_cases empty : digits = []
  · subst empty
    have none : length = 0 := by
      rw [List.length_nil] at size
      omega
    subst none
    rfl
  · have folded : (fold digits).all isHexDigit = true := by
      rw [fold, List.all_map]
      simpa [Function.comp_def, isHexDigit_toLower] using hexadecimal
    have counted : Numeral.count? (Numeral.decimal length) = some length :=
      Numeral.unsigned?_decimal fits
    have again : write length (fold digits) = write length digits := by
      rw [write, write, fold_fold, if_neg (by simpa [fold_eq_nil_iff] using empty),
        if_neg (by simpa using empty)]
    refine normalize_eq_ok_iff.mpr
      ⟨_, [fold digits], length, words_write hexadecimal empty, counted, ?_⟩
    rw [List.flatten_singleton, length_fold, again]
    exact ⟨folded, size, rfl⟩

/-- A canonical generic form has two digits for each octet, and a length of 64 bits. -/
theorem exists_of_normalize {payload canonical : Text}
    (normalized : normalize payload = .ok canonical) :
    ∃ length digits, canonical = write length digits ∧ length < UInt64.size
      ∧ digits.all isHexDigit = true ∧ length * 2 = digits.length := by
  rcases normalize_eq_ok_iff.mp normalized with
    ⟨size, pieces, length, _, counted, hexadecimal, same, rfl⟩
  exact ⟨length, _, rfl, Numeral.lt_of_unsigned? counted, hexadecimal, same⟩

/-- The canonical generic form is its own. -/
theorem normalize_idempotent {payload canonical : Text}
    (normalized : normalize payload = .ok canonical) : normalize canonical = .ok canonical := by
  rcases exists_of_normalize normalized with ⟨length, digits, rfl, fits, hexadecimal, size⟩
  exact normalize_write fits hexadecimal size

theorem isTrimmed_write {length : Nat} {digits : Text}
    (hexadecimal : digits.all isHexDigit = true) :
    IsTrimmed (write length digits) := by
  have markSolid : IsSolid mark := isSolid_iff_all.mpr (by decide)
  by_cases empty : digits = []
  · subst empty
    have zeroSolid : IsSolid ['0'] := isSolid_iff_all.mpr (by decide)
    exact isTrimmed_append markSolid (by decide) [' '] zeroSolid (by decide)
  · have folded : fold digits ≠ [] := fun none => empty (fold_eq_nil_iff.mp none)
    have around := isTrimmed_append markSolid (by decide)
      (' ' :: Numeral.decimal length ++ [' ']) (isSolid_fold hexadecimal) folded
    rw [write, if_neg (by simpa using empty)]
    simpa using around

theorem isTrimmed_normalize {payload canonical : Text}
    (normalized : normalize payload = .ok canonical) : IsTrimmed canonical ∧ canonical ≠ [] := by
  rcases exists_of_normalize normalized with ⟨length, digits, rfl, _, hexadecimal, _⟩
  refine ⟨isTrimmed_write hexadecimal, ?_⟩
  rw [write]
  split
  · simp [mark]
  · simp [mark]

end Generic

/-! ## All types -/

/-- What the canonical form of a payload is made of. -/
inductive IsCanonicalOf (type : RecordType) (payload canonical : Text) : Prop
  | strings {strings : List Octets} (form : type.form = .strings)
      (read : CharacterString.readAll payload = .ok strings)
      (written : canonical = CharacterString.writeAll strings)
  | generic (form : type.form = .generic) (normalized : Generic.normalize payload = .ok canonical)
  | kept (same : canonical = payload)

/-- What a payload is normalized to is a canonical form of its type. -/
theorem isCanonicalOf_of_normalize {type : RecordType} {payload canonical : Text}
    (normalized : normalize type payload = .ok canonical) :
    IsCanonicalOf type payload canonical := by
  rw [normalize] at normalized
  split at normalized
  · rename_i form
    split at normalized
    · rename_i strings read
      cases normalized
      exact .strings form read rfl
    · cases normalized
  · rename_i form
    split at normalized
    · rename_i generic
      cases normalized
      exact .generic form generic
    · cases normalized
  · cases normalized
    exact .kept rfl
  · rw [keepTokens] at normalized
    split at normalized
    · split at normalized
      · cases normalized
        exact .kept rfl
      · cases normalized
    · cases normalized

/-- The canonical form of a payload is canonical. -/
theorem normalize_idempotent {type : RecordType} {payload canonical : Text}
    (normalized : normalize type payload = .ok canonical) :
    normalize type canonical = .ok canonical := by
  cases isCanonicalOf_of_normalize normalized with
  | strings form read written =>
      rw [normalize, form, written]
      dsimp only
      rw [CharacterString.readAll_writeAll_of_read read]
  | generic form generic =>
      rw [normalize, form]
      dsimp only
      rw [Generic.normalize_idempotent generic]
  | kept same =>
      subst same
      exact normalized

/-- A payload of tokens is kept exactly if its form accepts the tokens. -/
theorem exists_keepTokens_iff {form : PayloadForm} {payload : Text} :
    (∃ canonical, keepTokens form payload = .ok canonical) ↔
      ∃ tokens, tokens? payload = some tokens ∧ acceptsTokens tokens form = true := by
  rw [keepTokens]
  cases tokens? payload with
  | none =>
      constructor
      · rintro ⟨_, kept⟩
        cases kept
      · rintro ⟨_, read, _⟩
        cases read
  | some tokens =>
      dsimp only
      constructor
      · rintro ⟨_, kept⟩
        split at kept
        · rename_i accepted
          exact ⟨tokens, rfl, accepted⟩
        · cases kept
      · rintro ⟨_, read, accepted⟩
        cases read
        exact ⟨payload, if_pos accepted⟩

/-- The payload of a text record is made canonical by way of its strings. -/
theorem normalize_txt_eq_ok_iff {payload canonical : Text} :
    normalize .txt payload = .ok canonical ↔
      ∃ strings, CharacterString.readAll payload = .ok strings
        ∧ CharacterString.writeAll strings = canonical := by
  have form : RecordType.txt.form = .strings := by decide
  rw [normalize, form]
  dsimp only
  cases CharacterString.readAll payload with
  | error fault => simp
  | ok strings => simp

/-- The payload that carries a text is canonical. -/
theorem normalize_writeText (text : Text) :
    normalize .txt (CharacterString.writeText text) = .ok (CharacterString.writeText text) :=
  normalize_txt_eq_ok_iff.mpr ⟨_, CharacterString.readAll_writeText text, rfl⟩

/-- Types that only exist in messages have no payloads. -/
theorem form_ne_nothing {type : RecordType} {payload canonical : Text}
    (normalized : normalize type payload = .ok canonical) : type.form ≠ .nothing := by
  intro form
  rw [normalize, form] at normalized
  dsimp only at normalized
  rw [keepTokens] at normalized
  split at normalized
  · cases normalized
  · cases normalized

/-- The canonical form of a payload that can end a line can end it as well. -/
theorem isTrimmed_normalize {type : RecordType} {payload canonical : Text}
    (trimmed : IsTrimmed payload) (nonempty : payload ≠ [])
    (normalized : normalize type payload = .ok canonical) :
    IsTrimmed canonical ∧ canonical ≠ [] := by
  cases isCanonicalOf_of_normalize normalized with
  | @strings strings form read written =>
      rcases List.exists_cons_of_ne_nil nonempty with ⟨character, rest, rfl⟩
      have some : strings ≠ [] := by
        rintro rfl
        exact CharacterString.readAll_ne_nil List.mem_cons_self (trimmed.first character rfl) read
      rcases CharacterString.exists_writeAll some with ⟨inner, quoted⟩
      refine ⟨written ▸ CharacterString.isTrimmed_writeAll some, ?_⟩
      rw [written, quoted]
      exact List.cons_ne_nil _ _
  | generic form generic => exact Generic.isTrimmed_normalize generic
  | kept same =>
      rw [same]
      exact ⟨trimmed, nonempty⟩

/-! ## Line feeds -/

theorem lineFeed_not_mem_of_isSolid {text : Text} (solid : IsSolid text) : '\n' ∉ text := by
  intro member
  have blank := solid _ member
  cases blank

theorem Generic.lineFeed_not_mem_write {length : Nat} {digits : Text}
    (hexadecimal : digits.all isHexDigit = true) : '\n' ∉ write length digits := by
  have inLength := lineFeed_not_mem_of_isSolid (Numeral.isSolid_decimal length)
  have inDigits := lineFeed_not_mem_of_isSolid (isSolid_fold hexadecimal)
  rw [write]
  split
  · decide
  · simp [mark, inLength, inDigits]

/-- Making a payload canonical brings no line feed into it. -/
theorem lineFeed_not_mem_normalize {type : RecordType} {payload canonical : Text}
    (normalized : normalize type payload = .ok canonical) (free : '\n' ∉ payload) :
    '\n' ∉ canonical := by
  cases isCanonicalOf_of_normalize normalized with
  | strings form read written =>
      rw [written]
      intro member
      have notControl := CharacterString.isControl_of_mem_writeAll member
      cases notControl
  | generic form generic =>
      rcases Generic.exists_of_normalize generic with ⟨_, _, rfl, _, hexadecimal, _⟩
      exact Generic.lineFeed_not_mem_write hexadecimal
  | kept same =>
      rw [same]
      exact free

end ZoneServices.Payload
