import ZoneServices.Proofs.Name.Reader
import ZoneServices.Record.Reader

/-!
# Names of owners

Whether a name may own a record does not depend on its letter case.  An owner without escapes is
plain, and for plain owners the two forms inside and outside of a zone agree: the absolute form of
the relative form of an owner is the owner up to the letter case of the origin, and the relative
form of that absolute form is again the same.

The same holds for the name that a label is put before, which is how the owners of challenges are
made.
-/

namespace ZoneServices

open Text

namespace Text

theorem endsWithDot_fold (text : Text) : endsWithDot (fold text) = endsWithDot text := by
  rw [endsWithDot, endsWithDot, fold, List.getLast?_map]
  cases text.getLast? with
  | none => rfl
  | some last =>
      have same := eq_iff_of_toLower_eq '.' (by decide) (toLower_toLower last)
      rw [Bool.eq_iff_iff]
      simpa using same

theorem endsWithDot_of_fold_eq {left right : Text} (same : fold left = fold right) :
    endsWithDot left = endsWithDot right := by
  rw [← endsWithDot_fold left, same, endsWithDot_fold]

theorem isSolid_of_fold_eq {left right : Text} (same : fold left = fold right)
    (solid : IsSolid left) : IsSolid right := by
  rw [isSolid_iff_all] at solid ⊢
  rw [← solid]
  refine (all_eq_of_fold_eq ?_ same).symm
  intro left right same
  rw [isBlank_eq_of_toLower_eq same]

/-- No dot is left at the end when the last dots are trimmed. -/
theorem not_endsWithDot_trimEndDots (text : Text) : endsWithDot (trimEndDots text) = false := by
  rw [endsWithDot, beq_eq_false_iff_ne]
  intro last
  cases getLast?_dropEndWhile last

end Text

namespace Name

/-! ## Letter case -/

/-- The ASCII rule does not look at letter case. -/
theorem isSafe_eq_of_toLower_eq {first : Bool} {left right : Char}
    (same : left.toLower = right.toLower) : isSafe first left = isSafe first right := by
  cases first with
  | false => exact eq_of_toLower_eq true (by decide) same
  | true => exact eq_of_toLower_eq true (by decide) same

theorem octalDigit?_eq_of_toLower_eq {left right : Char} (same : left.toLower = right.toLower) :
    octalDigit? left = octalDigit? right := by
  rw [octalDigit?, octalDigit?, digit?_eq_of_toLower_eq same]

theorem fold_reverse_eq {left right : Text} (same : fold left = fold right) :
    fold left.reverse = fold right.reverse := by
  rw [fold, fold, List.map_reverse, List.map_reverse, ← fold, ← fold, same]

theorem isSafeLabel_of_fold_eq {left right : Text} (same : fold left = fold right)
    (safe : IsSafeLabel left) : IsSafeLabel right := by
  cases left with
  | nil => cases safe
  | cons character rest =>
      cases right with
      | nil => cases same
      | cons other others =>
          simp only [fold_cons, List.cons.injEq] at same
          have rests : rest.all (isSafe false) = others.all (isSafe false) :=
            all_eq_of_fold_eq isSafe_eq_of_toLower_eq same.2
          rw [IsSafeLabel, ← List.all_eq_true] at safe ⊢
          rwa [← isSafe_eq_of_toLower_eq same.1, ← rests]

theorem areAccepted_of_fold_eq {left right : List Text} (same : left.map fold = right.map fold)
    (accepted : AreAccepted left) : AreAccepted right := by
  rcases accepted with ⟨kept, fits⟩
  have sizes : size left = size right := by
    clear kept fits
    induction left generalizing right with
    | nil => rw [List.map_eq_nil_iff.mp same.symm]
    | cons label rest step =>
        cases right with
        | nil => cases same
        | cons other others =>
            simp only [List.map_cons, List.cons.injEq] at same
            rw [size, size, octetSize_eq_of_fold_eq same.1, step same.2]
  refine ⟨?_, sizes ▸ fits⟩
  intro label member
  have folded : fold label ∈ left.map fold := same ▸ List.mem_map_of_mem member
  rcases List.mem_map.mp folded with ⟨other, inLeft, equal⟩
  rcases asciiLabel?_eq_some_iff.mp (kept other inLeft) with ⟨_, safe, short⟩
  exact asciiLabel?_eq_some_iff.mpr
    ⟨rfl, isSafeLabel_of_fold_eq equal safe, octetSize_eq_of_fold_eq equal ▸ short⟩

theorem map_cons_of_fold_eq {first second : Text} (begun : fold first = fold second)
    {labels others : Option (List Text)}
    (behind : labels.map (List.map fold) = others.map (List.map fold)) :
    (labels.map (first :: ·)).map (List.map fold) =
      (others.map (second :: ·)).map (List.map fold) := by
  cases labels with
  | none =>
      rw [Option.map_eq_none_iff.mp behind.symm]
      rfl
  | some found =>
      rcases Option.map_eq_some_iff.mp behind.symm with ⟨more, rfl, equal⟩
      simp [equal, begun]

/-- The labels that two texts are cut into differ in letter case alone if the texts do. -/
theorem labelsFrom?_of_fold_eq {left right current other : Text} (escape : Escape)
    (same : fold left = fold right) (begun : fold current = fold other) :
    (labelsFrom? current escape left).map (List.map fold) =
      (labelsFrom? other escape right).map (List.map fold) := by
  induction left generalizing right current other escape with
  | nil =>
      rw [fold_eq_nil_iff.mp same.symm, labelsFrom?, labelsFrom?]
      have empty : current.isEmpty = other.isEmpty := by
        rw [Bool.eq_iff_iff, List.isEmpty_iff, List.isEmpty_iff, ← fold_eq_nil_iff, begun,
          fold_eq_nil_iff]
      rw [empty]
      cases other.isEmpty with
      | true => rfl
      | false => simp [fold_reverse_eq begun]
  | cons character rest step =>
      cases right with
      | nil => cases same
      | cons second others =>
          simp only [fold_cons, List.cons.injEq] at same
          rcases same with ⟨characters, rests⟩
          have grown : fold (character :: current) = fold (second :: other) := by
            rw [fold_cons, fold_cons, characters, begun]
          -- The reader is steered by dots, backslashes, digits and blanks, and none of these is a
          -- letter; so both texts take it from each state to the same next state.
          cases escape with
          | none =>
              have dots := eq_iff_of_toLower_eq '.' (by decide) characters
              have escapes := eq_iff_of_toLower_eq '\\' (by decide) characters
              rw [labelsFrom?, labelsFrom?, isControl_eq_of_toLower_eq characters,
                isBlank_eq_of_toLower_eq characters]
              simp only [dots, escapes]
              split
              · exact map_cons_of_fold_eq (fold_reverse_eq begun) (step .none rests rfl)
              · split
                · exact step .begun rests begun
                · split
                  · rfl
                  · exact step .none rests grown
          | begun =>
              rw [labelsFrom?, labelsFrom?, isNumber_eq_of_toLower_eq characters,
                octalDigit?_eq_of_toLower_eq characters]
              split
              · cases octalDigit? second with
                | none => rfl
                | some digit => exact step (.oneDigit digit) rests begun
              · exact step .none rests grown
          | oneDigit first =>
              rw [labelsFrom?, labelsFrom?, octalDigit?_eq_of_toLower_eq characters]
              cases octalDigit? second with
              | none => rfl
              | some digit => exact step (.twoDigits first digit) rests begun
          | twoDigits first last =>
              rw [labelsFrom?, labelsFrom?, octalDigit?_eq_of_toLower_eq characters]
              cases octalDigit? second with
              | none => rfl
              | some digit =>
                  apply step .none rests
                  rw [fold_cons, fold_cons, begun]

/-- The ASCII rule leaves labels as they are. -/
theorem mapM_asciiLabel?_eq_some {labels written : List Text}
    (read : labels.mapM asciiLabel? = some written) :
    written = labels ∧ ∀ label ∈ labels, asciiLabel? label = some label := by
  induction labels generalizing written with
  | nil =>
      cases read
      exact ⟨rfl, fun label member => absurd member List.not_mem_nil⟩
  | cons label rest step =>
      rw [List.mapM_cons] at read
      rcases Option.bind_eq_some_iff.mp read with ⟨first, found, read⟩
      rcases Option.bind_eq_some_iff.mp read with ⟨more, readRest, read⟩
      cases read
      rcases step readRest with ⟨rfl, kept⟩
      rcases asciiLabel?_eq_some_iff.mp found with ⟨rfl, _, _⟩
      exact ⟨rfl, List.forall_mem_cons.mpr ⟨found, kept⟩⟩

end Name

namespace Record

/-- What makes a name that of an owner. -/
theorem checkOwner_eq_ok_iff {name : Text} :
    checkOwner name = .ok () ↔
      name = ['.'] ∨ endsWithDot name = true
        ∧ ∃ labels, Name.labelsFrom? [] .none name = some labels ∧ Name.AreAccepted labels := by
  by_cases isRoot : name = ['.']
  · subst isRoot
    simp only [true_or, iff_true]
    rfl
  · have notRoot : ¬ name = ['.'] := isRoot
    simp only [isRoot, false_or]
    rw [checkOwner, Name.readAscii?, Name.readWith?, if_neg isRoot]
    constructor
    · intro checked
      split at checked
      · cases checked
      · rename_i owner found
        split at found
        · cases found
        · rename_i labels read
          split at found
          · rename_i fits
            cases found
            rcases Option.bind_eq_some_iff.mp read with ⟨source, cut, accepted⟩
            rcases Name.mapM_asciiLabel?_eq_some accepted with ⟨rfl, kept⟩
            dsimp only at checked
            split at checked
            · rename_i ends
              exact ⟨ends, _, cut, kept, fits⟩
            · cases checked
          · cases found
    · rintro ⟨ends, labels, cut, accepted⟩
      rw [cut, Option.bind_some, Name.mapM_eq_some_self accepted.kept]
      dsimp only
      rw [if_pos accepted.fits]
      dsimp only
      rw [if_pos ends]

theorem eq_root_of_fold_eq {name : Text} (same : fold ['.'] = fold name) : name = ['.'] := by
  rcases List.length_eq_one_iff.mp (length_eq_of_fold_eq same).symm with ⟨character, rfl⟩
  simp only [fold_cons, fold_nil, List.cons.injEq, and_true] at same
  rw [(eq_iff_of_toLower_eq '.' (by decide) same).mp rfl]

/-- Letter case does not matter to whether a name may own a record. -/
theorem checkOwner_of_fold_eq {left right : Text} (same : fold left = fold right)
    (checked : checkOwner left = .ok ()) : checkOwner right = .ok () := by
  rw [checkOwner_eq_ok_iff] at checked ⊢
  rcases checked with rfl | ⟨ends, labels, cut, accepted⟩
  · exact .inl (eq_root_of_fold_eq same)
  · right
    refine ⟨endsWithDot_of_fold_eq same ▸ ends, ?_⟩
    have cuts := Name.labelsFrom?_of_fold_eq .none same (rfl : fold [] = fold [])
    rw [cut] at cuts
    rcases Option.map_eq_some_iff.mp cuts.symm with ⟨others, found, equal⟩
    exact ⟨others, found, Name.areAccepted_of_fold_eq equal.symm accepted⟩

end Record

/-! ## Plain names -/

/-- Labels without escapes, with dots between them. -/
structure IsStem (stem : Text) : Prop where
  solid : IsSolid stem
  noApex : '@' ∉ stem
  noEscape : '\\' ∉ stem
  labels : ∀ label ∈ fields '.' stem, label ≠ []

/-- An absolute name without escapes. -/
def IsPlain (name : Text) : Prop :=
  name = ['.'] ∨ ∃ stem, IsStem stem ∧ name = stem ++ ['.']

namespace Name

theorem not_mem_of_isSafeLabel {character : Char}
    (refused : ∀ first, isSafe first character = false) {label : Text} (safe : IsSafeLabel label) :
    character ∉ label := by
  cases label with
  | nil => exact List.not_mem_nil
  | cons head rest =>
      intro member
      rcases List.mem_cons.mp member with rfl | member
      · have admitted := safe.1
        rw [refused] at admitted
        cases admitted
      · have admitted := safe.2 character member
        rw [refused] at admitted
        cases admitted

/-- The labels of a name without escapes are its fields. -/
theorem fields_of_labelsFrom? {text current : Text} {labels : List Text}
    (noEscape : '\\' ∉ text) (read : labelsFrom? current .none (text ++ ['.']) = some labels) :
    IsSolid text ∧ ∃ first others, fields '.' text = first :: others
      ∧ labels = (current.reverse ++ first) :: others := by
  induction text generalizing current labels with
  | nil =>
      rw [List.nil_append, labelsFrom?_dot, labelsFrom?] at read
      cases read
      exact ⟨fun character member => absurd member List.not_mem_nil, [], [], rfl, by simp⟩
  | cons character rest step =>
      rcases List.ne_and_not_mem_of_not_mem_cons noEscape with ⟨notEscape, restNoEscape⟩
      rw [List.cons_append, labelsFrom?, if_neg notEscape.symm] at read
      split at read
      · rename_i dot
        subst dot
        rcases Option.map_eq_some_iff.mp read with ⟨labels, found, rfl⟩
        rcases step restNoEscape found with ⟨solid, first, others, cut, rfl⟩
        refine ⟨isSolid_cons.mpr ⟨by decide, solid⟩, [], first :: others, ?_, by simp⟩
        rw [fields, if_pos rfl, cut]
      · rename_i notDot
        split at read
        · cases read
        · rename_i ordinary
          rcases step restNoEscape read with ⟨solid, first, others, cut, rfl⟩
          have notBlank : isBlank character = false := by
            rw [Bool.not_eq_true, Bool.or_eq_false_iff] at ordinary
            exact ordinary.2
          refine ⟨isSolid_cons.mpr ⟨notBlank, solid⟩, character :: first, others, ?_, by simp⟩
          rw [fields, if_neg notDot, cut]

end Name

/-- An owner without escapes is plain. -/
theorem isPlain_of_checkOwner {name : Text} (checked : Record.checkOwner name = .ok ())
    (noEscape : '\\' ∉ name) : IsPlain name := by
  rcases Record.checkOwner_eq_ok_iff.mp checked with isRoot | ⟨ends, labels, cut, accepted⟩
  · exact .inl isRoot
  · right
    rcases endsWithDot_iff.mp ends with ⟨stem, rfl⟩
    have stemNoEscape : '\\' ∉ stem := fun member => noEscape (List.mem_append_left _ member)
    rcases Name.fields_of_labelsFrom? stemNoEscape cut with ⟨solid, first, others, found, rfl⟩
    rw [List.reverse_nil, List.nil_append, ← found] at accepted
    refine ⟨stem, ⟨solid, ?_, stemNoEscape, ?_⟩, rfl⟩
    · intro apex
      rcases exists_mem_fields '.' (by decide) apex with ⟨label, member, inLabel⟩
      exact Name.not_mem_of_isSafeLabel (by decide) (accepted.safe label member) inLabel
    · rintro label member rfl
      exact accepted.safe [] member

/-! ## Qualified names -/

namespace Owner

theorem isSolid_qualified {name : Text} (solid : IsSolid name) : IsSolid (qualified name) := by
  rw [qualified]
  split
  · exact solid
  · exact solid.append (isSolid_iff_all.mpr (by decide))

theorem subset_qualified (name : Text) : name ⊆ qualified name := by
  rw [qualified]
  split
  · exact List.Subset.refl _
  · exact List.subset_append_left _ _

theorem qualified_ne_nil {name : Text} (nonempty : name ≠ []) : qualified name ≠ [] := by
  rw [qualified]
  split
  · exact nonempty
  · exact List.append_ne_nil_of_left_ne_nil nonempty _

theorem endsWithDot_qualified (name : Text) : endsWithDot (qualified name) = true := by
  rw [qualified]
  split
  · assumption
  · exact endsWithDot_append_dot name

theorem qualified_of_endsWithDot {name : Text} (ends : endsWithDot name = true) :
    qualified name = name := by
  rw [qualified, if_pos ends]

theorem qualified_qualified (name : Text) : qualified (qualified name) = qualified name :=
  qualified_of_endsWithDot (endsWithDot_qualified name)

theorem qualified_trimEndDots (text : Text) :
    qualified (trimEndDots text) = trimEndDots text ++ ['.'] := by
  rw [qualified, not_endsWithDot_trimEndDots]
  rfl

theorem trimEndDots_qualified (name : Text) :
    trimEndDots (qualified name) = trimEndDots name := by
  rw [qualified]
  split
  · rfl
  · exact trimEndDots_append_dot name

/-! ## Dots around a name -/

/-- A text without dots at its ends. -/
structure IsOpen (text : Text) : Prop where
  nonempty : text ≠ []
  notApex : text ≠ apex
  front : text.head? ≠ some '.'
  back : endsWithDot text = false

variable {text : Text}

/-- Dots behind an open text are trimmed off it, and no others. -/
theorem IsOpen.trimDots_append (isOpen : IsOpen text) {dots : Text}
    (trimmed : trimEndDots (text ++ dots) = text) : trimDots (text ++ dots) = text := by
  cases text with
  | nil => exact absurd rfl isOpen.nonempty
  | cons character rest =>
      have notDot : ¬ (character == '.') = true := by
        intro dot
        rw [beq_iff_eq] at dot
        exact isOpen.front (by rw [dot]; rfl)
      have kept : (character :: (rest ++ dots)).dropWhile (· == '.') =
          character :: (rest ++ dots) := List.dropWhile_cons_of_neg notDot
      rw [trimDots, List.cons_append, kept, ← List.cons_append, trimmed]

theorem IsOpen.trimDots_eq (isOpen : IsOpen text) : trimDots text = text := by
  have trimmed : trimEndDots (text ++ []) = text := by
    rw [List.append_nil, trimEndDots_of_not_endsWithDot isOpen.back]
  have whole := isOpen.trimDots_append trimmed
  rwa [List.append_nil] at whole

theorem IsOpen.trimDots_dot (isOpen : IsOpen text) : trimDots (text ++ ['.']) = text := by
  apply isOpen.trimDots_append
  rw [trimEndDots_append_dot, trimEndDots_of_not_endsWithDot isOpen.back]

end Owner

namespace IsStem

theorem ne_nil {stem : Text} (isStem : IsStem stem) : stem ≠ [] := by
  rintro rfl
  exact isStem.labels [] List.mem_cons_self rfl

/-- A stem can be cut at every dot, and put together with one. -/
theorem append_iff {left right : Text} :
    IsStem (left ++ '.' :: right) ↔ IsStem left ∧ IsStem right := by
  constructor
  · rintro ⟨solid, noApex, noEscape, labels⟩
    rw [fields_append_separator] at labels
    simp only [List.mem_append, List.mem_cons, not_or] at noApex noEscape
    refine ⟨⟨?_, noApex.1, noEscape.1, ?_⟩, ⟨?_, noApex.2.2, noEscape.2.2, ?_⟩⟩
    · intro character member
      exact solid character (List.mem_append_left _ member)
    · intro label member
      exact labels label (List.mem_append_left _ member)
    · intro character member
      exact solid character (List.mem_append_right _ (List.mem_cons_of_mem _ member))
    · intro label member
      exact labels label (List.mem_append_right _ member)
  · rintro ⟨leftStem, rightStem⟩
    refine ⟨?_, ?_, ?_, ?_⟩
    · exact leftStem.solid.append (isSolid_cons.mpr ⟨by decide, rightStem.solid⟩)
    · simp [leftStem.noApex, rightStem.noApex]
    · simp [leftStem.noEscape, rightStem.noEscape]
    · rw [fields_append_separator]
      intro label member
      rcases List.mem_append.mp member with member | member
      · exact leftStem.labels label member
      · exact rightStem.labels label member

theorem not_endsWithDot {stem : Text} (isStem : IsStem stem) : endsWithDot stem = false := by
  apply Bool.eq_false_iff.mpr
  intro ends
  rcases endsWithDot_iff.mp ends with ⟨rest, rfl⟩
  exact (append_iff.mp isStem).2.ne_nil rfl

theorem trimEndDots_eq {stem : Text} (isStem : IsStem stem) : trimEndDots stem = stem :=
  trimEndDots_of_not_endsWithDot isStem.not_endsWithDot

theorem trimEndDots_dot {stem : Text} (isStem : IsStem stem) :
    trimEndDots (stem ++ ['.']) = stem := by
  rw [trimEndDots_append_dot, isStem.trimEndDots_eq]

theorem qualified_eq {stem : Text} (isStem : IsStem stem) :
    Owner.qualified stem = stem ++ ['.'] := by
  rw [Owner.qualified, isStem.not_endsWithDot]
  rfl

theorem ne_apex {stem : Text} (isStem : IsStem stem) : stem ≠ Owner.apex := by
  rintro rfl
  exact isStem.noApex List.mem_cons_self

theorem isOpen {stem : Text} (isStem : IsStem stem) : Owner.IsOpen stem where
  nonempty := isStem.ne_nil
  notApex := isStem.ne_apex
  back := isStem.not_endsWithDot
  front := by
    intro dot
    rcases List.head?_eq_some_iff.mp dot with ⟨others, rfl⟩
    have front : IsStem ([] ++ '.' :: others) := isStem
    exact (append_iff.mp front).1.ne_nil rfl

end IsStem

theorem IsPlain.endsWithDot {name : Text} (plain : IsPlain name) : endsWithDot name = true := by
  rcases plain with rfl | ⟨stem, _, rfl⟩
  · rfl
  · exact endsWithDot_append_dot stem

theorem IsPlain.solid {name : Text} (plain : IsPlain name) : IsSolid name := by
  rcases plain with rfl | ⟨stem, isStem, rfl⟩
  · exact isSolid_iff_all.mpr (by decide)
  · exact isStem.solid.append (isSolid_iff_all.mpr (by decide))

theorem IsPlain.qualified_eq {name : Text} (plain : IsPlain name) :
    Owner.qualified name = name :=
  Owner.qualified_of_endsWithDot plain.endsWithDot

/-! ## Forms of an owner -/

namespace Owner

/-- It does not matter whether the origin is written with its dot. -/
theorem relativeTo_qualified (name origin : Text) :
    relativeTo name (qualified origin) = relativeTo name origin := by
  rw [relativeTo, relativeTo, trimEndDots_qualified]

/-- The four ways in which a name is made relative to an origin. -/
theorem relativeTo_cases (name origin : Text) :
    trimEndDots origin = [] ∧ relativeTo name origin = trimEndDots name
      ∨ trimEndDots origin ≠ [] ∧ fold (trimEndDots name) = fold (trimEndDots origin)
        ∧ relativeTo name origin = []
      ∨ (∃ head tail, trimEndDots name = head ++ '.' :: tail
        ∧ fold tail = fold (trimEndDots origin) ∧ trimEndDots origin ≠ []
        ∧ relativeTo name origin = trimEndDots head)
      ∨ relativeTo name origin = qualified (trimEndDots name) := by
  rw [relativeTo]
  split
  · rename_i empty
    exact .inl ⟨List.isEmpty_iff.mp empty, rfl⟩
  · rename_i nonempty
    rw [List.isEmpty_iff] at nonempty
    right
    split
    · rename_i same
      exact .inl ⟨nonempty, sameFolded_iff.mp same, rfl⟩
    · right
      split
      · exact .inr rfl
      · rename_i head tail cut
        split
        · rename_i inZone
          simp only [Bool.and_eq_true, sameFolded_iff] at inZone
          rcases endsWithDot_iff.mp inZone.2 with ⟨rest, rfl⟩
          left
          refine ⟨rest, tail, ?_, inZone.1.2, nonempty, trimEndDots_append_dot rest⟩
          rw [(splitAtOctet?_eq_some_iff.mp cut).1, List.append_assoc, List.singleton_append]
        · exact .inr rfl

/-- The origin relative to itself is the empty text. -/
theorem relativeTo_of_same {name origin : Text} (zone : trimEndDots origin ≠ [])
    (same : fold (trimEndDots name) = fold (trimEndDots origin)) : relativeTo name origin = [] := by
  rw [relativeTo, if_neg (by simpa using zone), if_pos (sameFolded_iff.mpr same)]

/-- The relative form of a name below an origin is what stands before the origin. -/
theorem relativeTo_of_below {name origin head tail : Text}
    (cut : trimEndDots name = head ++ '.' :: tail) (named : head ≠ [])
    (zone : trimEndDots origin ≠ []) (same : fold tail = fold (trimEndDots origin)) :
    relativeTo name origin = trimEndDots head := by
  have longer : fold (trimEndDots name) ≠ fold (trimEndDots origin) := by
    intro equal
    have sizes := length_eq_of_fold_eq (equal.trans same.symm)
    rw [cut, List.length_append, List.length_cons] at sizes
    omega
  have size := octetSize_eq_of_fold_eq same
  have halves : splitAtOctet? (trimEndDots name)
      (octetSize (trimEndDots name) - octetSize (trimEndDots origin)) =
        some (head ++ ['.'], tail) := by
    rw [splitAtOctet?_eq_some_iff, cut]
    constructor
    · rw [List.append_assoc, List.singleton_append]
    · simp only [octetSize_append, octetSize]
      omega
  have inZone : (decide (1 < (head ++ ['.']).length) && sameFolded tail (trimEndDots origin)
      && endsWithDot (head ++ ['.'])) = true := by
    have long := List.length_pos_iff.mpr named
    simp [same, long]
  rw [relativeTo, if_neg (by simpa using zone),
    if_neg (by rw [sameFolded_iff]; exact longer), halves]
  dsimp only
  rw [if_pos inZone, trimEndDots_append_dot]

/-- A name below an origin is made relative to it. -/
theorem relativeTo_append {sub base : Text} (isSub : IsStem sub) (isBase : IsStem base) :
    relativeTo (sub ++ '.' :: base ++ ['.']) (base ++ ['.']) = sub := by
  have whole : IsStem (sub ++ '.' :: base) := IsStem.append_iff.mpr ⟨isSub, isBase⟩
  have zone : trimEndDots (base ++ ['.']) = base := isBase.trimEndDots_dot
  have nonempty : trimEndDots (base ++ ['.']) ≠ [] := by
    rw [zone]
    exact isBase.ne_nil
  rw [relativeTo_of_below whole.trimEndDots_dot isSub.ne_nil nonempty (by rw [zone]),
    isSub.trimEndDots_eq]

theorem resolve_nil (origin : Text) : resolve [] origin = qualified origin := rfl

theorem resolve_of_endsWithDot {name : Text} (solid : IsSolid name) (ends : endsWithDot name = true)
    (origin : Text) : resolve name origin = name := by
  have nonempty : name ≠ [] := by
    rintro rfl
    exact absurd ends (by decide)
  have notApex : name ≠ apex := by
    rintro rfl
    exact absurd ends (by decide)
  rw [resolve, trim_of_isTrimmed solid.isTrimmed]
  simp [nonempty, notApex, ends]

/-- A relative name is put in front of the origin. -/
theorem resolve_of_not_endsWithDot {name : Text} (solid : IsSolid name) (nonempty : name ≠ [])
    (notApex : name ≠ apex) (open_ : endsWithDot name = false) (origin : Text) :
    resolve name origin =
      if trimEndDots origin = [] then name ++ ['.']
      else name ++ '.' :: qualified (trimEndDots origin) := by
  have closed : qualified name = name ++ ['.'] := by
    rw [qualified, open_]
    rfl
  rw [resolve, trim_of_isTrimmed solid.isTrimmed]
  simp [nonempty, notApex, open_, closed]

theorem resolve_of_isPlain {name : Text} (plain : IsPlain name) (origin : Text) :
    resolve name origin = name :=
  resolve_of_endsWithDot plain.solid plain.endsWithDot origin

/-- A stem is put in front of the origin. -/
theorem resolve_of_isStem {sub : Text} (isSub : IsStem sub) (origin : Text) :
    resolve sub origin =
      if trimEndDots origin = [] then sub ++ ['.']
      else sub ++ '.' :: qualified (trimEndDots origin) :=
  resolve_of_not_endsWithDot isSub.solid isSub.ne_nil isSub.ne_apex isSub.not_endsWithDot origin

theorem resolve_root {sub : Text} (isSub : IsStem sub) : resolve sub ['.'] = sub ++ ['.'] := by
  rw [resolve_of_isStem isSub, if_pos (by decide)]

/-- Below a stem that is absolute, another stem is put in front with a dot. -/
theorem resolve_append {sub base : Text} (isSub : IsStem sub) (isBase : IsStem base) :
    resolve sub (base ++ ['.']) = sub ++ '.' :: base ++ ['.'] := by
  rw [resolve_of_isStem isSub, isBase.trimEndDots_dot, if_neg isBase.ne_nil, isBase.qualified_eq,
    List.append_assoc, List.cons_append]

end Owner

/-- How an owner stands to the origin of a zone, and its form relative to it. -/
inductive Placement (origin : Text) : (name relative : Text) → Prop
  /-- The root in the zone of the root. -/
  | root (top : origin = ['.']) : Placement origin ['.'] []
  /-- A name in the zone of the root. -/
  | belowRoot (top : origin = ['.']) {stem : Text} (isStem : IsStem stem) :
      Placement origin (stem ++ ['.']) stem
  /-- The origin, letter case aside. -/
  | apex {base stem : Text} (isBase : IsStem base) (zone : origin = base ++ ['.'])
      (same : fold stem = fold base) : Placement origin (stem ++ ['.']) []
  /-- A name below the origin, letter case aside. -/
  | below {base sub tail : Text} (isBase : IsStem base) (zone : origin = base ++ ['.'])
      (isSub : IsStem sub) (same : fold tail = fold base) :
      Placement origin (sub ++ '.' :: tail ++ ['.']) sub
  /-- A name outside of the zone. -/
  | outside {name : Text} (plain : IsPlain name) (apart : Owner.relativeTo name origin = name) :
      Placement origin name name

/-- Owners stand in one of these ways to an origin that is plain or has an escape. -/
theorem placement_relativeTo {name origin : Text} (plain : IsPlain name)
    (zone : IsPlain origin ∨ '\\' ∈ trimEndDots origin) :
    Placement origin name (Owner.relativeTo name origin) := by
  have restored : Owner.qualified (trimEndDots name) = name := by
    rcases plain with rfl | ⟨stem, isStem, rfl⟩
    · rfl
    · rw [isStem.trimEndDots_dot, isStem.qualified_eq]
  rcases Owner.relativeTo_cases name origin with
    ⟨top, relative⟩ | ⟨nonempty, same, relative⟩
    | ⟨head, tail, cut, same, nonempty, relative⟩ | apart
  -- Only the root has nothing but dots.
  · have isRoot : origin = ['.'] := by
      rcases zone with (isRoot | ⟨base, isBase, rfl⟩) | escape
      · exact isRoot
      · rw [isBase.trimEndDots_dot] at top
        exact absurd top isBase.ne_nil
      · rw [top] at escape
        cases escape
    rw [relative]
    rcases plain with rfl | ⟨stem, isStem, rfl⟩
    · exact .root isRoot
    · rw [isStem.trimEndDots_dot]
      exact .belowRoot isRoot isStem
  · rcases plain with rfl | ⟨stem, isStem, rfl⟩
    · exact absurd (fold_eq_nil_iff.mp same.symm) nonempty
    · rw [isStem.trimEndDots_dot] at same
      rcases zone with (rfl | ⟨base, isBase, rfl⟩) | escape
      · exact absurd rfl nonempty
      · rw [isBase.trimEndDots_dot] at same
        rw [relative]
        exact .apex isBase rfl same
      · exact absurd ((mem_iff_of_fold_eq (by decide) same).mpr escape) isStem.noEscape
  · rcases plain with rfl | ⟨stem, isStem, rfl⟩
    · exact absurd cut (by simp [trimEndDots, dropEndWhile])
    · rw [isStem.trimEndDots_dot] at cut
      subst cut
      rcases IsStem.append_iff.mp isStem with ⟨isHead, isTail⟩
      rw [relative, isHead.trimEndDots_eq]
      rcases zone with (rfl | ⟨base, isBase, rfl⟩) | escape
      · exact absurd rfl nonempty
      · rw [isBase.trimEndDots_dot] at same
        exact .below isBase rfl isHead same
      · exact absurd ((mem_iff_of_fold_eq (by decide) same).mpr escape) isTail.noEscape
  · rw [restored] at apart
    rw [apart]
    exact .outside plain apart

/-- The absolute form of the relative form of an owner is the owner, letter case aside. -/
theorem fold_resolve {name relative origin : Text} (placed : Placement origin name relative) :
    fold (Owner.resolve relative origin) = fold name := by
  cases placed with
  | root top =>
      rw [top]
      rfl
  | belowRoot top isStem => rw [top, Owner.resolve_root isStem]
  | apex isBase zone same =>
      rw [zone, Owner.resolve_nil, IsPlain.qualified_eq (.inr ⟨_, isBase, rfl⟩), fold_append,
        fold_append, same]
  | below isBase zone isSub same =>
      rw [zone, Owner.resolve_append isSub isBase]
      simp only [fold_append, fold_cons, same]
  | outside plain apart => rw [Owner.resolve_of_isPlain plain]

/-- The relative form is that of its own absolute form. -/
theorem relativeTo_resolve {name relative origin : Text} (placed : Placement origin name relative) :
    Owner.relativeTo (Owner.resolve relative origin) origin = relative := by
  cases placed with
  | root top =>
      rw [top]
      rfl
  | belowRoot top isStem =>
      rw [top, Owner.resolve_root isStem, Owner.relativeTo, isStem.trimEndDots_dot]
      rfl
  | apex isBase zone same =>
      rw [zone, Owner.resolve_nil, IsPlain.qualified_eq (.inr ⟨_, isBase, rfl⟩), Owner.relativeTo]
      have nonempty : _ ≠ [] := isBase.ne_nil
      simp [isBase.trimEndDots_eq, nonempty]
  | below isBase zone isSub same =>
      rw [zone, Owner.resolve_append isSub isBase]
      exact Owner.relativeTo_append isSub isBase
  | outside plain apart => rw [Owner.resolve_of_isPlain plain, apart]

/-! ## A label before a name -/

namespace Owner

variable {label text : Text}

/-- A label in front of the empty text stands alone. -/
theorem join_nil (isLabel : IsStem label) : join [label, []] = label := by
  have empty : trimDots [] = [] := rfl
  simp [join, isLabel.isOpen.trimDots_eq, isLabel.ne_nil, isLabel.ne_apex, isAbsoluteLast, empty,
    joined_singleton]

/-- A label is put in front of an open text with a dot. -/
theorem join_open (isLabel : IsStem label) (isOpen : IsOpen text) :
    join [label, text] = label ++ '.' :: text := by
  simp [join, isLabel.isOpen.trimDots_eq, isLabel.ne_nil, isLabel.ne_apex, isOpen.trimDots_eq,
    isOpen.nonempty, isOpen.notApex, isAbsoluteLast, isOpen.back, joined_cons, joined_singleton]

/-- A label is put in front of an absolute text with a dot. -/
theorem join_closed (isLabel : IsStem label) (isOpen : IsOpen text) :
    join [label, text ++ ['.']] = label ++ '.' :: text ++ ['.'] := by
  have long : 0 < text.length := List.length_pos_iff.mpr isOpen.nonempty
  have open_ : endsWithDot (label ++ '.' :: text) = false := by
    rw [endsWithDot_append_cons isOpen.nonempty, isOpen.back]
  simp [join, isLabel.isOpen.trimDots_eq, isLabel.ne_nil, isLabel.ne_apex, isOpen.trimDots_dot,
    isOpen.nonempty, isOpen.notApex, isAbsoluteLast, joined_cons, joined_singleton, long,
    qualified, open_]

end Owner

/-- A label before the relative form of a name is a label before its absolute form. -/
theorem resolve_join {label stem relative origin : Text} (isLabel : IsStem label)
    (placed : Placement origin (stem ++ ['.']) relative) (isStem : IsStem stem) :
    Owner.resolve (Owner.join [label, relative]) origin =
      label ++ '.' :: Owner.resolve relative origin := by
  generalize whole : stem ++ ['.'] = name at placed
  cases placed with
  | root top => exact absurd (List.append_left_eq_self.mp whole) isStem.ne_nil
  | belowRoot top isSub =>
      have both := IsStem.append_iff.mpr ⟨isLabel, isSub⟩
      rw [top, Owner.join_open isLabel isSub.isOpen, Owner.resolve_root both,
        Owner.resolve_root isSub, List.append_assoc, List.cons_append]
  | apex isBase zone same =>
      rw [zone, Owner.join_nil isLabel, Owner.resolve_append isLabel isBase, Owner.resolve_nil,
        IsPlain.qualified_eq (.inr ⟨_, isBase, rfl⟩), List.append_assoc, List.cons_append]
  | below isBase zone isSub same =>
      have both := IsStem.append_iff.mpr ⟨isLabel, isSub⟩
      rw [zone, Owner.join_open isLabel isSub.isOpen, Owner.resolve_append both isBase,
        Owner.resolve_append isSub isBase]
      simp
  | outside plain apart =>
      subst whole
      have both := IsStem.append_iff.mpr ⟨isLabel, isStem⟩
      rw [Owner.join_closed isLabel isStem.isOpen, Owner.resolve_of_isPlain (.inr ⟨_, both, rfl⟩),
        Owner.resolve_of_isPlain plain, List.append_assoc, List.cons_append]

end ZoneServices
