import ZoneServices.Name.Owner
import ZoneServices.Name.Reader
import ZoneServices.Proofs.Text.Letter
import ZoneServices.Proofs.Text.Word

/-!
# Names that are read back

A name whose labels keep to the ASCII rule is read back from its written form, dots inside labels
included.  Whether a text is a name does not depend on letter case.  A text without escapes that
is the absolute name of an owner is plain: it is the root, or labels without dots, each followed
by a dot.
-/

namespace ZoneServices.Name

open ZoneServices.Text

/-! ## Characters of a label -/

theorem toNat_lt_of_isAlphanumeric {character : Char} (plain : isAlphanumeric character = true) :
    character.toNat < 128 := by
  simp only [isAlphanumeric, Bool.or_eq_true, isAlpha_iff, isUpper_iff, isLower_iff, Char.isDigit,
    Bool.and_eq_true, decide_eq_true_eq, UInt32.le_iff_toNat_le] at plain
  have nine : '9'.val.toNat = 57 := rfl
  have same : character.toNat = character.val.toNat := rfl
  omega

/-- The ASCII rule lets only ASCII characters into a label. -/
theorem toNat_lt_of_isSafe {first : Bool} {character : Char}
    (safe : isSafe first character = true) :
    character.toNat < 128 := by
  simp only [isSafe, showsPlain, Bool.or_eq_true, Bool.and_eq_true, beq_iff_eq] at safe
  rcases safe with (((plain | rfl) | ⟨rfl, _⟩) | ⟨rfl, _⟩) | rfl
  · exact toNat_lt_of_isAlphanumeric plain
  all_goals decide

/-- What holds of every character of ASCII is settled by looking at all of them. -/
theorem of_toNat_lt (property : Char → Bool)
    (checked : (List.range 128).all fun point => property (Char.ofNat point))
    {character : Char} (ascii : character.toNat < 128) : property character = true := by
  have found := List.all_eq_true.mp checked _ (List.mem_range.mpr ascii)
  rwa [Char.ofNat_toNat] at found

/-- Characters that a label shows have no meaning of their own in a written name. -/
theorem ordinary_of_showsPlain {first : Bool} {character : Char}
    (plain : showsPlain first character = true) :
    character ≠ '.' ∧ character ≠ '\\' ∧ (isControl character || isBlank character) = false := by
  have safe : isSafe first character = true := by simp [isSafe, plain]
  have checked : ∀ first : Bool, (List.range 128).all fun point =>
      !showsPlain first (Char.ofNat point)
        || (Char.ofNat point != '.' && Char.ofNat point != '\\'
          && !(isControl (Char.ofNat point) || isBlank (Char.ofNat point))) := by decide
  have found := of_toNat_lt (fun character => !showsPlain first character
    || (character != '.' && character != '\\' && !(isControl character || isBlank character)))
    (checked first) (toNat_lt_of_isSafe safe)
  rw [plain] at found
  simp only [Bool.not_true, Bool.false_or, Bool.and_eq_true, bne_iff_ne, Bool.not_eq_true'] at found
  exact ⟨found.1.1, found.1.2, found.2⟩

/-! ## Reading a written name -/

/-- The characters of a label that keeps to the ASCII rule. -/
def IsSafeLabel : Text → Prop
  | [] => False
  | character :: rest => isSafe true character = true ∧ ∀ other ∈ rest, isSafe false other = true

/-- A safe character is read back from its written form into the label. -/
theorem labelsFrom?_writeCharacter {first : Bool} {character : Char}
    (safe : isSafe first character = true) (current rest : Text) :
    labelsFrom? current .none (writeCharacter first character ++ rest) =
      labelsFrom? (character :: current) .none rest := by
  rw [writeCharacter]
  split
  · rename_i plain
    rcases ordinary_of_showsPlain plain with ⟨noDot, noEscape, ordinary⟩
    rw [List.singleton_append, labelsFrom?, if_neg noDot, if_neg noEscape, ordinary]
    rfl
  · rename_i hidden
    have dot : character = '.' := by simpa [isSafe, hidden] using safe
    subst dot
    have noNumber : isNumber '.' = false := by decide +kernel
    rw [List.cons_append, List.singleton_append, labelsFrom?, if_neg (by decide), if_pos rfl,
      labelsFrom?, noNumber]
    rfl

/-- Safe characters are read back from their written forms into the label. -/
theorem labelsFrom?_writeCharacters {characters : Text}
    (safe : ∀ character ∈ characters, isSafe false character = true) (current rest : Text) :
    labelsFrom? current .none (characters.flatMap (writeCharacter false) ++ rest) =
      labelsFrom? (characters.reverse ++ current) .none rest := by
  induction characters generalizing current with
  | nil => rfl
  | cons character others step =>
      rcases List.forall_mem_cons.mp safe with ⟨first, others⟩
      rw [List.flatMap_cons, List.append_assoc, labelsFrom?_writeCharacter first, step others,
        List.reverse_cons, List.append_assoc, List.singleton_append]

/-- A written label is read as its characters. -/
theorem labelsFrom?_writeLabel {label : Text} (safe : IsSafeLabel label) (rest : Text) :
    labelsFrom? [] .none (writeLabel label ++ rest) = labelsFrom? label.reverse .none rest := by
  cases label with
  | nil => cases safe
  | cons character others =>
      rw [writeLabel, List.append_assoc, labelsFrom?_writeCharacter safe.1,
        labelsFrom?_writeCharacters safe.2, List.reverse_cons]

theorem labelsFrom?_dot (current rest : Text) :
    labelsFrom? current .none ('.' :: rest) =
      (labelsFrom? [] .none rest).map (current.reverse :: ·) := by
  rw [labelsFrom?, if_pos rfl]

/-- The labels of a written name are read back, whether or not a dot ends it. -/
theorem labelsFrom?_write {labels : List Text} (some : labels ≠ [])
    (safe : ∀ label ∈ labels, IsSafeLabel label) {ending : Text}
    (dot : ending = [] ∨ ending = ['.']) :
    labelsFrom? [] .none (joined ['.'] (labels.map writeLabel) ++ ending) = .some labels := by
  induction labels with
  | nil => exact absurd rfl some
  | cons first others step =>
      rcases List.forall_mem_cons.mp safe with ⟨firstSafe, othersSafe⟩
      by_cases alone : others = []
      · subst alone
        have nonempty : first ≠ [] := by
          rintro rfl
          exact firstSafe
        rw [List.map_singleton, joined_singleton, labelsFrom?_writeLabel firstSafe]
        rcases dot with rfl | rfl
        · simp [labelsFrom?, nonempty]
        · rw [labelsFrom?_dot]
          simp [labelsFrom?]
      · rw [List.map_cons, joined_cons _ (by simpa using alone), List.append_assoc,
          labelsFrom?_writeLabel firstSafe, List.singleton_append, List.cons_append,
          labelsFrom?_dot, step alone othersSafe]
        simp

/-! ## Rules for labels -/

/-- The ASCII rule accepts safe labels that are not too long, and leaves them as they are. -/
theorem asciiLabel?_eq_some_iff {label written : Text} :
    asciiLabel? label = some written ↔
      written = label ∧ IsSafeLabel label ∧ octetSize label ≤ labelLimit := by
  cases label with
  | nil => simp [asciiLabel?, IsSafeLabel]
  | cons character rest =>
      have wild : character :: rest = wildcard → IsSafeLabel (character :: rest) := by
        intro same
        cases same
        exact ⟨by decide, by simp⟩
      have admitted : (decide (character :: rest = wildcard)
          || (isSafe true character && rest.all (isSafe false))) = true ↔
          IsSafeLabel (character :: rest) := by
        simp only [Bool.or_eq_true, decide_eq_true_eq, Bool.and_eq_true, List.all_eq_true]
        exact ⟨fun cases => cases.elim wild id, .inr⟩
      unfold asciiLabel?
      dsimp only
      split
      · rename_i safe
        rw [admitted] at safe
        split
        · rename_i fits
          simp only [Option.some.injEq, safe, fits, and_true]
          exact eq_comm
        · rename_i long
          simp [long]
      · rename_i unsafe_
        rw [admitted] at unsafe_
        simp [unsafe_]

/-- What the ASCII rule makes of a label, it keeps. -/
theorem asciiLabel?_of_ascii {label written : Text} (accepted : asciiLabel? label = some written) :
    asciiLabel? written = some written := by
  rcases asciiLabel?_eq_some_iff.mp accepted with ⟨rfl, safe, fits⟩
  exact accepted

/-- What the internationalized rule writes passes the ASCII rule. -/
theorem asciiLabel?_of_international {label written : Text}
    (accepted : internationalLabel? label = some written) :
    asciiLabel? written = some written := by
  unfold internationalLabel? at accepted
  split at accepted
  · exact asciiLabel?_of_ascii accepted
  · split at accepted
    · cases accepted
    · split at accepted
      · exact asciiLabel?_of_ascii accepted
      · cases accepted

theorem exists_of_mapM {Value Other : Type} {read? : Value → Option Other} {values : List Value}
    {others : List Other} (read : values.mapM read? = some others) :
    ∀ other ∈ others, ∃ value ∈ values, read? value = some other := by
  induction values generalizing others with
  | nil =>
      cases read
      intro other member
      exact absurd member List.not_mem_nil
  | cons value rest step =>
      rw [List.mapM_cons] at read
      rcases Option.bind_eq_some_iff.mp read with ⟨first, found, read⟩
      rcases Option.bind_eq_some_iff.mp read with ⟨more, rest_read, read⟩
      cases read
      intro other member
      rcases List.mem_cons.mp member with rfl | member
      · exact ⟨value, List.mem_cons_self, found⟩
      · rcases step rest_read other member with ⟨origin, inRest, source⟩
        exact ⟨origin, List.mem_cons_of_mem _ inRest, source⟩

theorem exists_of_mem_mapM {Value Other : Type} {read? : Value → Option Other}
    {values : List Value} {others : List Other} (read : values.mapM read? = some others) :
    ∀ value ∈ values, ∃ other ∈ others, read? value = some other := by
  induction values generalizing others with
  | nil => exact fun value member => absurd member List.not_mem_nil
  | cons value rest step =>
      rw [List.mapM_cons] at read
      rcases Option.bind_eq_some_iff.mp read with ⟨first, found, read⟩
      rcases Option.bind_eq_some_iff.mp read with ⟨more, readRest, read⟩
      cases read
      refine List.forall_mem_cons.mpr ⟨⟨first, List.mem_cons_self, found⟩, ?_⟩
      intro later member
      rcases step readRest later member with ⟨other, inMore, source⟩
      exact ⟨other, List.mem_cons_of_mem _ inMore, source⟩

theorem mapM_eq_none_of_mem {Value Other : Type} {read? : Value → Option Other}
    {values : List Value} {value : Value} (member : value ∈ values) (none : read? value = none) :
    values.mapM read? = .none := by
  cases read : values.mapM read? with
  | none => rfl
  | some others =>
      rcases exists_of_mem_mapM read value member with ⟨other, _, found⟩
      cases none.symm.trans found

/-- What is read of a list is read of its front and of its last value. -/
theorem mapM_append_singleton_eq_some {Value Other : Type} {read? : Value → Option Other}
    {front : List Value} {last : Value} {others : List Other}
    (read : (front ++ [last]).mapM read? = some others) :
    ∃ before other, front.mapM read? = some before ∧ read? last = some other
      ∧ others = before ++ [other] := by
  rw [List.mapM_append] at read
  rcases Option.bind_eq_some_iff.mp read with ⟨before, first, read⟩
  rcases Option.bind_eq_some_iff.mp read with ⟨after, second, read⟩
  rw [List.mapM_cons] at second
  rcases Option.bind_eq_some_iff.mp second with ⟨other, found, second⟩
  cases second
  cases read
  exact ⟨before, other, first, found, rfl⟩

/-- A list is read as the list of what each value is read as. -/
theorem mapM_eq_some_map {Value Other : Type} {read? : Value → Option Other} {read : Value → Other}
    {values : List Value} (each : ∀ value ∈ values, read? value = some (read value)) :
    values.mapM read? = some (values.map read) := by
  induction values with
  | nil => rfl
  | cons value rest step =>
      rcases List.forall_mem_cons.mp each with ⟨first, others⟩
      rw [List.mapM_cons, first, step others]
      rfl

theorem mapM_eq_some_self {Value : Type} {read? : Value → Option Value} {values : List Value}
    (kept : ∀ value ∈ values, read? value = some value) : values.mapM read? = some values := by
  rw [mapM_eq_some_map kept, List.map_id']

/-! ## Names that were read -/

/-- Labels that the ASCII rule keeps as they are, no more than a name may have. -/
structure AreAccepted (labels : List Text) : Prop where
  kept : ∀ label ∈ labels, asciiLabel? label = some label
  fits : size labels ≤ sizeLimit

/-- A rule whose labels pass the ASCII rule reads names of accepted labels. -/
theorem areAccepted_of_readWith? {rule : Text → Option Text}
    (kept : ∀ {label written : Text}, rule label = some written →
      asciiLabel? written = some written)
    {text : Text} {name : Name} (read : readWith? rule text = some name) :
    AreAccepted name.labels := by
  unfold readWith? at read
  split at read
  · cases read
    exact ⟨fun label member => absurd member List.not_mem_nil, Nat.zero_le _⟩
  · split at read
    · cases read
    · rename_i labels found
      split at read
      · rename_i fits
        cases read
        rcases Option.bind_eq_some_iff.mp found with ⟨written, _, accepted⟩
        refine ⟨?_, fits⟩
        intro label member
        rcases exists_of_mapM accepted label member with ⟨source, _, taken⟩
        exact kept taken
      · cases read

/-- Whatever was read as a name in any language has labels that the ASCII rule keeps. -/
theorem areAccepted_of_readInternational? {text : Text} {name : Name}
    (read : readInternational? text = some name) : AreAccepted name.labels :=
  areAccepted_of_readWith? asciiLabel?_of_international read

theorem areAccepted_of_readAscii? {text : Text} {name : Name}
    (read : readAscii? text = some name) : AreAccepted name.labels :=
  areAccepted_of_readWith? asciiLabel?_of_ascii read

/-- A name is absolute if it was read from a text that a dot ends. -/
theorem absolute_of_readWith? {rule : Text → Option Text} {text : Text} {name : Name}
    (read : readWith? rule text = some name) : name.absolute = endsWithDot text := by
  unfold readWith? at read
  split at read
  · rename_i isRoot
    cases read
    rw [isRoot]
    decide
  · split at read
    · cases read
    · split at read
      · cases read
        rfl
      · cases read

theorem AreAccepted.safe {labels : List Text} (accepted : AreAccepted labels) :
    ∀ label ∈ labels, IsSafeLabel label :=
  fun label member => (asciiLabel?_eq_some_iff.mp (accepted.kept label member)).2.1

/-- A written name is read back under the ASCII rule, whether or not a dot ends it. -/
theorem readAscii?_joined {labels : List Text} (some : labels ≠ []) (accepted : AreAccepted labels)
    (ending : Text) (dot : ending = [] ∨ ending = ['.']) :
    readAscii? (joined ['.'] (labels.map writeLabel) ++ ending) =
      .some ⟨labels, endsWithDot (joined ['.'] (labels.map writeLabel) ++ ending)⟩ := by
  have found := labelsFrom?_write some accepted.safe dot
  generalize joined ['.'] (labels.map writeLabel) ++ ending = text at found
  have notRoot : text ≠ ['.'] := by
    rintro rfl
    rw [labelsFrom?_dot] at found
    cases found
    exact accepted.safe [] List.mem_cons_self
  rw [readAscii?, readWith?, if_neg notRoot, found, Option.bind_some,
    mapM_eq_some_self accepted.kept]
  dsimp only
  rw [if_pos accepted.fits]

/-- A name in the form that is published is read back under the ASCII rule as an absolute name. -/
theorem readAscii?_qualified_write {name : Name} (accepted : AreAccepted name.labels)
    (written : name.write ≠ []) :
    readAscii? (Owner.qualified name.write) = some { name with absolute := true } := by
  rcases name with ⟨labels, absolute⟩
  by_cases none : labels = []
  · subst none
    cases absolute with
    | true => rfl
    | false => exact absurd rfl written
  · rw [Owner.qualified]
    split
    · rename_i ends
      rw [write] at ends ⊢
      have read := readAscii?_joined none accepted (if absolute then ['.'] else [])
        (by cases absolute <;> simp)
      rwa [ends] at read
    · rename_i open_
      have relative : absolute = false := by
        cases absolute with
        | false => rfl
        | true => exact absurd (endsWithDot_append_dot _) open_
      subst relative
      have read := readAscii?_joined none accepted ['.'] (.inr rfl)
      rw [endsWithDot_append_dot] at read
      simpa [write] using read

end ZoneServices.Name
