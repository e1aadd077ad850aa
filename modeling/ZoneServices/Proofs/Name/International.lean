import ZoneServices.Proofs.Payload

/-!
# Characters that labels keep

A label in any language is converted and composed before it is written in ASCII.  Characters that
are of no use in a name, such as quotes, parentheses and dots, are not changed by this: they are not
made of others, join no other, and stay where they are among the marks.

So no label in any language has one of the characters that mean something in a payload, and a dot
at the end of a label is still at its end when the label is written in ASCII.
-/

namespace ZoneServices.Name

open Text

/-! ## Characters that stay alone -/

/-- A character that is not made of others and joins no other. -/
structure StaysAlone (character : Char) : Prop where
  whole : parts? character = none
  first : ∀ other, composed? character other = none
  second : ∀ other, composed? other character = none

/-- Whether a character is of no use in a label: a dot, a star, or one that payloads do not bear. -/
def isOdd (character : Char) : Bool :=
  !Payload.isBare character || character == '.' || character == '*'

/-- No odd character of ASCII takes part in a composition. -/
theorem compositionRows_checked :
    ∀ row ∈ compositionRows, 128 ≤ row.1
      ∧ (∃ bases, row.2.1 = String.ofList bases
        ∧ (bases.all fun base => 128 ≤ base.toNat || !isOdd base) = true)
      ∧ ∃ results, row.2.2 = String.ofList results
        ∧ (results.all fun result => 128 ≤ result.toNat) = true := by
  -- Row by row, since decoding the texts of the whole table at once takes long.
  unfold compositionRows
  repeat refine List.forall_mem_cons.mpr ⟨⟨by decide, ⟨_, rfl, by decide +kernel⟩, _, rfl,
    by decide +kernel⟩, ?_⟩
  exact fun row member => absurd member List.not_mem_nil

theorem lookup_zip_eq_none {left right : List Char} {character : Char} (absent : character ∉ left) :
    (left.zip right).lookup character = none := by
  refine List.lookup_eq_none_iff.mpr ?_
  intro pair member
  rw [bne_iff_ne]
  rintro rfl
  exact absent (List.of_mem_zip member).1

theorem staysAlone_of_isOdd {character : Char} (ascii : character.toNat < 128)
    (odd : isOdd character = true) : StaysAlone character := by
  have rows : ∀ row ∈ compositionRows, row.1 ≠ character.toNat
      ∧ character ∉ row.2.1.toList ∧ character ∉ row.2.2.toList := by
    intro row member
    rcases compositionRows_checked row member with
      ⟨mark, ⟨bases, isBases, ordinary⟩, results, isResults, large⟩
    rw [isBases, isResults, String.toList_ofList, String.toList_ofList]
    rw [List.all_eq_true] at ordinary large
    refine ⟨by omega, ?_, ?_⟩
    · intro inBases
      have checked := ordinary character inBases
      simp only [odd, Bool.not_true, Bool.or_false, decide_eq_true_eq] at checked
      omega
    · intro inResults
      have checked := large character inResults
      rw [decide_eq_true_eq] at checked
      omega
  constructor
  · have noSyllable : syllableParts? character = none := by
      rw [syllableParts?]
      simp [show character.toNat < 0xAC00 by omega]
    rw [parts?, noSyllable]
    refine List.findSome?_eq_none_iff.mpr ?_
    rintro ⟨mark, bases, results⟩ member
    dsimp only
    rw [lookup_zip_eq_none (rows _ member).2.2]
    rfl
  · intro other
    have noSyllable : composedSyllable? character other = none := by
      rw [composedSyllable?]
      simp [show ¬ 0x1100 ≤ character.toNat by omega, show ¬ 0xAC00 ≤ character.toNat by omega]
    rw [composed?, noSyllable]
    refine List.findSome?_eq_none_iff.mpr ?_
    rintro ⟨mark, bases, results⟩ member
    dsimp only
    rw [lookup_zip_eq_none (rows _ member).2.1, ite_self]
  · intro other
    have noSyllable : composedSyllable? other character = none := by
      rw [composedSyllable?]
      simp [show ¬ 0x1161 ≤ character.toNat by omega, show ¬ 0x11A7 < character.toNat by omega]
    rw [composed?, noSyllable]
    refine List.findSome?_eq_none_iff.mpr ?_
    rintro ⟨mark, bases, results⟩ member
    exact if_neg (by simpa using (rows _ member).1)

/-! ## Composition -/

variable {character : Char} {text : Text}

/-- A character that has no parts stays whole, whatever depth is left. -/
theorem takeApart_of_whole (whole : parts? character = none) (depth : Nat) (others : Text) :
    takeApart depth character others = character :: others := by
  cases depth with
  | zero => rfl
  | succ depth => rw [takeApart, whole]

/-- A character that stays alone is still there when a text is taken apart. -/
theorem mem_decompose (alone : StaysAlone character) (member : character ∈ text) :
    character ∈ decompose text := by
  refine List.mem_flatMap.mpr ⟨character, member, ?_⟩
  rw [takeApart_of_whole alone.whole]
  exact List.mem_cons_self

theorem perm_settle (character : Char) (text : Text) :
    (settle character text).Perm (character :: text) := by
  induction text with
  | nil => exact List.Perm.refl _
  | cons next rest step =>
      rw [settle]
      split
      · exact (step.cons next).trans (List.Perm.swap character next rest)
      · exact List.Perm.refl _

/-- Putting marks in order loses and adds no character. -/
theorem perm_orderMarks (text : Text) : (orderMarks text).Perm text := by
  induction text with
  | nil => exact List.Perm.refl _
  | cons character rest step =>
      exact (perm_settle character (orderMarks rest)).trans (step.cons character)

/-- A character that stays alone is not lost when marks join the characters before them. -/
theorem mem_joinMarks (alone : StaysAlone character) {base : Char} {marks : Text}
    (member : character ∈ base :: (marks ++ text)) : character ∈ joinMarks base marks text := by
  induction text generalizing base marks with
  | nil => simpa [joinMarks] using member
  | cons next rest step =>
      rw [joinMarks]
      split
      · rename_i joined found
        -- Neither of the two that are joined is a character that stays alone.
        apply step
        have both : composed? base next = some joined := by
          split at found
          · cases found
          · exact found
        have notBase : character ≠ base := by
          rintro rfl
          cases (alone.first next).symm.trans both
        have notNext : character ≠ next := by
          rintro rfl
          cases (alone.second base).symm.trans both
        simp only [List.mem_cons, List.mem_append, notBase, notNext, false_or] at member ⊢
        exact .inr member
      · simp only [List.mem_cons, List.mem_append] at member
        split
        · simp only [List.cons_append, List.mem_cons, List.mem_append, List.mem_reverse]
          rcases member with same | inMarks | same | inRest
          · exact .inl same
          · exact .inr (.inl inMarks)
          · exact .inr (.inr (step (by simp [same])))
          · exact .inr (.inr (step (by simp [inRest])))
        · apply step
          simp only [List.cons_append, List.mem_cons, List.mem_append]
          rcases member with same | inMarks | same | inRest
          · exact .inl same
          · exact .inr (.inr (.inl inMarks))
          · exact .inr (.inl same)
          · exact .inr (.inr (.inr inRest))

theorem mem_compose (alone : StaysAlone character) (member : character ∈ text) :
    character ∈ compose text := by
  rw [compose]
  split
  · exact member
  · have ordered := (perm_orderMarks (decompose text)).mem_iff.mpr (mem_decompose alone member)
    split
    · rename_i empty
      rw [empty] at ordered
      cases ordered
    · rename_i first rest cut
      rw [cut] at ordered
      exact mem_joinMarks alone ordered

/-! ## What no label has -/

/-- ASCII characters that no label shows as they stand are converted to themselves. -/
theorem convert?_of_isOdd (ascii : character.toNat < 128) (odd : isOdd character = true) :
    convert? character = some [character] := by
  have lower := of_toNat_lt (fun character => !isOdd character || character.toLower == character)
    (by decide) ascii
  rw [odd, Bool.not_true, Bool.false_or, beq_iff_eq] at lower
  rw [convert?, if_pos (by simpa [Text.isAscii] using ascii), lower]

/-- What a text is written as, and what its labels do not have. -/
theorem exists_of_toAscii? {isDenied : Char → Bool} {written : Text}
    (read : toAscii? isDenied text = some written) :
    ∃ converted, text.mapM convert? = some converted
      ∧ (∀ label ∈ fields '.' (compose converted.flatten), ∀ character ∈ label,
        isAscii character = true → isDenied character = false)
      ∧ written = joined ['.'] ((fields '.' (compose converted.flatten)).map inAscii) := by
  rw [toAscii?] at read
  split at read
  · cases read
  · rename_i converted found
    dsimp only at read
    split at read
    · cases read
    · split at read
      · cases read
      · rename_i undenied
        cases read
        refine ⟨converted, found, ?_, rfl⟩
        simp only [Bool.or_eq_true, List.any_eq_true, Bool.and_eq_true, not_or, not_exists,
          not_and, Bool.not_eq_true] at undenied
        exact undenied.1.1

/-- An odd character that is denied to labels is in no text that is written in ASCII. -/
theorem not_mem_of_toAscii? {isDenied : Char → Bool} {written : Text}
    (read : toAscii? isDenied text = some written) (ascii : character.toNat < 128)
    (odd : isOdd character = true) (notDot : character ≠ '.')
    (denied : isDenied character = true) : character ∉ text := by
  intro member
  rcases exists_of_toAscii? read with ⟨converted, found, undenied, _⟩
  rcases exists_of_mem_mapM found character member with ⟨piece, inConverted, same⟩
  cases (convert?_of_isOdd ascii odd).symm.trans same
  have kept : character ∈ compose converted.flatten :=
    mem_compose (staysAlone_of_isOdd ascii odd)
      (List.mem_flatten.mpr ⟨_, inConverted, List.mem_singleton_self character⟩)
  rcases exists_mem_fields '.' notDot kept with ⟨label, inLabels, inLabel⟩
  have allowed := undenied label inLabels character inLabel
    (by simpa [Text.isAscii] using ascii)
  rw [denied] at allowed
  cases allowed

/-- A control character outside ASCII is in no text that is written in ASCII. -/
theorem toAscii?_eq_none_of_isControl {isDenied : Char → Bool} (member : character ∈ text)
    (control : isControl character = true) (large : 128 ≤ character.toNat) :
    toAscii? isDenied text = none := by
  have refused : isRefused character = true := by
    refine List.any_eq_true.mpr ⟨(0x80, 0xA0), List.mem_cons_self, ?_⟩
    simp only [isControl, Bool.or_eq_true, Bool.and_eq_true, decide_eq_true_eq] at control ⊢
    omega
  have notAscii : ¬ Text.isAscii character = true := by
    simpa [Text.isAscii] using large
  have unconverted : convert? character = none := by
    rw [convert?, if_neg notAscii, if_pos refused]
  rw [toAscii?, mapM_eq_none_of_mem member unconverted]

theorem toAscii?_nil {isDenied : Char → Bool} : toAscii? isDenied [] = some [] := rfl

/-- The classes of labels in any language: those of the ASCII rule alone, and all others. -/
theorem internationalLabel?_cases {label written : Text}
    (accepted : internationalLabel? label = some written) :
    asciiLabel? label = some written ∧ (label = wildcard ∨ label.head? = some '_')
      ∨ toAscii? (fun character => !isAlphanumeric character && character != '-') label =
          some written
        ∧ label.head? ≠ some '_' ∧ label ≠ [] := by
  rw [internationalLabel?] at accepted
  split at accepted
  · rename_i plain
    rw [Bool.or_eq_true, decide_eq_true_eq, beq_iff_eq] at plain
    exact .inl ⟨accepted, plain⟩
  · rename_i ordinary
    rw [Bool.or_eq_true, decide_eq_true_eq, beq_iff_eq, not_or] at ordinary
    right
    split at accepted
    · cases accepted
    · rename_i ascii found
      split at accepted
      · rename_i labelled
        refine ⟨by rw [found, (asciiLabel?_eq_some_iff.mp accepted).1], ordinary.2, ?_⟩
        rintro rfl
        cases toAscii?_nil.symm.trans found
        exact absurd labelled (by decide)
      · cases accepted

theorem isBare_of_mem_safeLabel {label : Text} (safe : IsSafeLabel label)
    (member : character ∈ label) : Payload.isBare character = true := by
  cases label with
  | nil => cases member
  | cons first rest =>
      rcases List.mem_cons.mp member with rfl | inRest
      · exact isBare_of_isSafe safe.1
      · exact isBare_of_isSafe (safe.2 character inRest)

/-- The characters of a label are those that a payload bears, but for blanks. -/
theorem isBare_of_mem_label {label written : Text}
    (accepted : internationalLabel? label = some written) (member : character ∈ label)
    (notBlank : isBlank character = false) : Payload.isBare character = true := by
  by_contra notBare
  rw [Bool.not_eq_true] at notBare
  have odd : isOdd character = true := by simp [isOdd, notBare]
  rcases internationalLabel?_cases accepted with ⟨plain, _⟩ | ⟨found, _⟩
  · rw [isBare_of_mem_safeLabel (asciiLabel?_eq_some_iff.mp plain).2.1 member] at notBare
    cases notBare
  · by_cases ascii : character.toNat < 128
    · have checked := of_toNat_lt (fun character => Payload.isBare character || character != '.'
        && (!isAlphanumeric character && character != '-')) (by decide) ascii
      rw [notBare, Bool.false_or, Bool.and_eq_true, bne_iff_ne] at checked
      exact not_mem_of_toAscii? found ascii odd checked.1 checked.2 member
    · have control : isControl character = true := by
        have small : ['@', '$', '(', ')', '"', ';'].all (·.toNat < 128) = true := by decide
        have ordinary : character ∉ ['@', '$', '(', ')', '"', ';'] := by
          intro special
          exact ascii (of_decide_eq_true (List.all_eq_true.mp small character special))
        simpa [Payload.isBare, notBlank, ordinary] using notBare
      cases (toAscii?_eq_none_of_isControl member control (Nat.le_of_not_lt ascii)).symm.trans found

/-! ## A dot at the end of a label -/

theorem settle_append_dot (character : Char) (text : Text) :
    settle character (text ++ ['.']) = settle character text ++ ['.'] := by
  have noMark : markClass '.' = 0 := by decide +kernel
  induction text with
  | nil => rw [List.nil_append, settle, settle, noMark]; rfl
  | cons next rest step =>
      rw [List.cons_append, settle, settle, step]
      split
      · rfl
      · rfl

/-- Marks are put in order alike in front of a dot. -/
theorem orderMarks_append_dot (text : Text) :
    orderMarks (text ++ ['.']) = orderMarks text ++ ['.'] := by
  induction text with
  | nil => rfl
  | cons character rest step =>
      rw [List.cons_append, orderMarks, List.foldr_cons, ← orderMarks, step, settle_append_dot]
      rfl

theorem joinMarks_append_dot (base : Char) (marks text : Text) :
    joinMarks base marks (text ++ ['.']) = joinMarks base marks text ++ ['.'] := by
  have alone : StaysAlone '.' := staysAlone_of_isOdd (by decide) (by decide)
  have noMark : markClass '.' = 0 := by decide +kernel
  induction text generalizing base marks with
  | nil => simp [joinMarks, alone.second, noMark]
  | cons next rest step =>
      rw [List.cons_append, joinMarks, joinMarks]
      split
      · exact step _ _
      · split
        · rw [step, List.append_assoc]
        · exact step _ _

theorem compose_append_dot (text : Text) : compose (text ++ ['.']) = compose text ++ ['.'] := by
  have ascii : (text ++ ['.']).all Text.isAscii = text.all Text.isAscii := by
    rw [List.all_append]
    exact Bool.and_true _
  have alone : StaysAlone '.' := staysAlone_of_isOdd (by decide) (by decide)
  have cut : decompose (text ++ ['.']) = decompose text ++ ['.'] := by
    rw [decompose, List.flatMap_append, ← decompose, List.flatMap_singleton,
      takeApart_of_whole alone.whole]
  rw [compose, compose, ascii, cut, orderMarks_append_dot]
  split
  · rfl
  · cases orderMarks (decompose text) with
    | nil => rfl
    | cons first rest => exact joinMarks_append_dot first [] rest

theorem joined_append_nil {separator : Text} {pieces : List Text} (nonempty : pieces ≠ []) :
    joined separator (pieces ++ [[]]) = joined separator pieces ++ separator := by
  induction pieces with
  | nil => exact absurd rfl nonempty
  | cons piece rest step =>
      by_cases alone : rest = []
      · rw [alone, List.singleton_append, joined_cons _ (List.cons_ne_nil _ _), joined_singleton,
          joined_singleton, List.append_nil]
      · rw [List.cons_append, joined_cons _ (by simp), joined_cons _ alone, step alone,
          List.append_assoc, List.append_assoc]

/-- A dot at the end of a text is at its end when the text is written in ASCII. -/
theorem toAscii?_append_dot {isDenied : Char → Bool} {written again : Text}
    (read : toAscii? isDenied text = some written)
    (readAgain : toAscii? isDenied (text ++ ['.']) = some again) : again = written ++ ['.'] := by
  rcases exists_of_toAscii? read with ⟨converted, found, _, rfl⟩
  rcases exists_of_toAscii? readAgain with ⟨more, foundMore, _, rfl⟩
  have dot : convert? '.' = some ['.'] := convert?_of_isOdd (by decide) (by decide)
  have grown : more = converted ++ [['.']] := by
    rw [List.mapM_append, found, List.mapM_cons, dot] at foundMore
    cases foundMore
    rfl
  have shown : inAscii [] = [] := rfl
  rw [grown, List.flatten_append, List.flatten_singleton, compose_append_dot,
    fields_append_separator, fields, List.map_append, List.map_singleton, shown, joined_append_nil]
  rw [Ne, List.map_eq_nil_iff]
  exact fields_ne_nil _ _

/-- A dot at the end of a label is at its end when the label is written in ASCII. -/
theorem internationalLabel?_append_dot {label written again : Text}
    (accepted : internationalLabel? label = some written)
    (acceptedAgain : internationalLabel? (label ++ ['.']) = some again) :
    again = written ++ ['.'] := by
  have notWildcard : label ++ ['.'] ≠ wildcard := by
    intro same
    exact absurd (congrArg List.getLast? same) (by simp [wildcard])
  have notStar : toAscii? (fun character => !isAlphanumeric character && character != '-')
      (wildcard ++ ['.']) ≠ some again := by
    intro found
    exact not_mem_of_toAscii? found (by decide) (by decide) (by decide) (by decide)
      List.mem_cons_self
  rcases internationalLabel?_cases accepted with ⟨plain, special⟩ | ⟨found, ordinary, named⟩
  · cases (asciiLabel?_eq_some_iff.mp plain).1
    rcases internationalLabel?_cases acceptedAgain with ⟨plainAgain, _⟩ | ⟨foundAgain, other, _⟩
    · exact (asciiLabel?_eq_some_iff.mp plainAgain).1
    · rcases special with rfl | service
      · exact absurd foundAgain notStar
      · exact absurd (by rw [List.head?_append, service]; rfl) other
  · have noService : (label ++ ['.']).head? ≠ some '_' := by
      rcases List.exists_cons_of_ne_nil named with ⟨first, rest, rfl⟩
      exact ordinary
    rcases internationalLabel?_cases acceptedAgain with ⟨_, wild | service⟩ | ⟨foundAgain, _⟩
    · exact absurd wild notWildcard
    · exact absurd service noService
    · exact toAscii?_append_dot found foundAgain

end ZoneServices.Name
