import ZoneServices.Proofs.Name.Owner

/-!
# Owners with escapes

The text of an owner may hold dots that belong to a label, each behind a backslash.  Such a dot may
end a label, and then the dot that ends the label stands right behind it.  The two forms of an owner
inside and outside of a zone are made by taking all dots off the end of a text, so they lose a dot
of the label.

The main theorem says for which owners and origins this happens.  For all others the absolute form
of the relative form of an owner is the owner, letter case aside.
-/

namespace ZoneServices

open Text

/-! ## Characters of an owner -/

namespace Name

/--
How a reader goes on behind a character: what it held of a label is still held or part of a label
that was read, and so is the character, unless it is a dot or belongs to an escape.
-/
theorem exists_of_labelsFrom?_cons {current rest : Text} {escape : Escape} {character : Char}
    {labels : List Text} (read : labelsFrom? current escape (character :: rest) = some labels) :
    ∃ next state others, labelsFrom? next state rest = some others ∧ others ⊆ labels
      ∧ (∀ held ∈ current, held ∈ next ∨ ∃ label ∈ labels, held ∈ label)
      ∧ (character ≠ '.' → character ≠ '\\' → octalDigit? character = none → character ∈ next) := by
  have still : ∀ held ∈ current, held ∈ current ∨ ∃ label ∈ labels, held ∈ label :=
    fun _ => .inl
  have more : ∀ {added : Char}, ∀ held ∈ current,
      held ∈ added :: current ∨ ∃ label ∈ labels, held ∈ label :=
    fun _ member => .inl (List.mem_cons_of_mem _ member)
  cases escape with
  | none =>
      rw [labelsFrom?] at read
      split at read
      · rename_i dot
        rcases Option.map_eq_some_iff.mp read with ⟨others, found, rfl⟩
        refine ⟨[], .none, others, found, List.subset_cons_self _ _, ?_, ?_⟩
        · intro held member
          exact .inr ⟨current.reverse, List.mem_cons_self, List.mem_reverse.mpr member⟩
        · intro notDot
          exact absurd dot notDot
      · split at read
        · rename_i backslash
          refine ⟨current, .begun, labels, read, List.Subset.refl _, still, ?_⟩
          intro _ notBackslash
          exact absurd backslash notBackslash
        · split at read
          · cases read
          · exact ⟨character :: current, .none, labels, read, List.Subset.refl _, more,
              fun _ _ _ => List.mem_cons_self⟩
  | begun =>
      rw [labelsFrom?] at read
      split at read
      · split at read
        · cases read
        · rename_i digit octal
          refine ⟨current, .oneDigit digit, labels, read, List.Subset.refl _, still, ?_⟩
          intro _ _ notOctal
          cases notOctal.symm.trans octal
      · exact ⟨character :: current, .none, labels, read, List.Subset.refl _, more,
          fun _ _ _ => List.mem_cons_self⟩
  | oneDigit first =>
      rw [labelsFrom?] at read
      split at read
      · cases read
      · rename_i digit octal
        refine ⟨current, .twoDigits first digit, labels, read, List.Subset.refl _, still, ?_⟩
        intro _ _ notOctal
        cases notOctal.symm.trans octal
  | twoDigits first second =>
      rw [labelsFrom?] at read
      split at read
      · cases read
      · rename_i digit octal
        refine ⟨_, .none, labels, read, List.Subset.refl _, more, ?_⟩
        intro _ _ notOctal
        cases notOctal.symm.trans octal

theorem octalDigit?_of_isBlank {character : Char} (blank : isBlank character = true) :
    octalDigit? character = none := by
  rw [octalDigit?, digit?]
  split
  · rename_i digit
    have small : character.toNat < 128 := Nat.lt_of_le_of_lt digit.2 (by decide)
    have checked := of_toNat_lt (fun character => !isBlank character
      || !decide ('0' ≤ character ∧ character ≤ '9')) (by decide) small
    simp [blank, digit] at checked
  · rfl

theorem isSafe_of_isBlank {character : Char} (blank : isBlank character = true) (first : Bool) :
    isSafe first character = false := by
  rw [Bool.eq_false_iff]
  intro safe
  have checked := of_toNat_lt (fun character => !isSafe first character || !isBlank character)
    (by cases first <;> decide) (toNat_lt_of_isSafe safe)
  simp [safe, blank] at checked

/-- What a reader holds of a label gets into one of the labels. -/
theorem exists_mem_of_mem_current {current text : Text} {escape : Escape} {labels : List Text}
    (read : labelsFrom? current escape text = some labels) :
    ∀ held ∈ current, ∃ label ∈ labels, held ∈ label := by
  induction text generalizing current escape labels with
  | nil =>
      rw [labelsFrom?] at read
      cases read
      intro held member
      have nonempty : current ≠ [] := List.ne_nil_of_mem member
      exact ⟨current.reverse, by simp [nonempty], List.mem_reverse.mpr member⟩
  | cons character rest step =>
      rcases exists_of_labelsFrom?_cons read with ⟨next, state, others, behind, kept, held, _⟩
      intro other member
      rcases held other member with inNext | inLabel
      · rcases step behind other inNext with ⟨label, inOthers, inLabel⟩
        exact ⟨label, kept inOthers, inLabel⟩
      · exact inLabel

/-- The labels that are read from the end of a text are among those of the text. -/
theorem exists_of_labelsFrom?_append {front rest current : Text} {escape : Escape}
    {labels : List Text} (read : labelsFrom? current escape (front ++ rest) = some labels) :
    ∃ next state others, labelsFrom? next state rest = some others ∧ others ⊆ labels := by
  induction front generalizing current escape labels with
  | nil => exact ⟨current, escape, labels, read, List.Subset.refl _⟩
  | cons character front step =>
      rcases exists_of_labelsFrom?_cons read with ⟨_, _, _, behind, kept, _⟩
      rcases step behind with ⟨next, state, others, found, keptToo⟩
      exact ⟨next, state, others, found, List.Subset.trans keptToo kept⟩

/-- A character of a name that is no dot and no part of an escape is in a label. -/
theorem exists_mem_of_mem_text {text current : Text} {escape : Escape} {labels : List Text}
    (read : labelsFrom? current escape text = some labels) {character : Char}
    (member : character ∈ text) (notDot : character ≠ '.') (notBackslash : character ≠ '\\')
    (notOctal : octalDigit? character = none) : ∃ label ∈ labels, character ∈ label := by
  rcases List.append_of_mem member with ⟨front, rest, rfl⟩
  rcases exists_of_labelsFrom?_append read with ⟨next, state, others, found, kept⟩
  rcases exists_of_labelsFrom?_cons found with ⟨later, after, more, behind, keptToo, _, held⟩
  rcases exists_mem_of_mem_current behind character (held notDot notBackslash notOctal) with
    ⟨label, inMore, inLabel⟩
  exact ⟨label, kept (keptToo inMore), inLabel⟩

/-- A name that is read has no character that no label may have, unless the reader removes it. -/
theorem not_mem_of_labelsFrom? {name : Text} {labels : List Text}
    (read : labelsFrom? [] .none name = some labels)
    (safe : ∀ label ∈ labels, IsSafeLabel label) {character : Char}
    (refused : ∀ first, isSafe first character = false) (notDot : character ≠ '.')
    (notBackslash : character ≠ '\\') (notOctal : octalDigit? character = none) :
    character ∉ name := by
  intro member
  rcases exists_mem_of_mem_text read member notDot notBackslash notOctal with
    ⟨label, inLabels, inLabel⟩
  exact not_mem_of_isSafeLabel refused (safe label inLabels) inLabel

/-- A dot without characters before it ends an empty label. -/
theorem nil_mem_of_labelsFrom?_dot {rest : Text} {labels : List Text}
    (read : labelsFrom? [] .none ('.' :: rest) = some labels) : [] ∈ labels := by
  rw [labelsFrom?_dot] at read
  rcases Option.map_eq_some_iff.mp read with ⟨others, _, rfl⟩
  exact List.mem_cons_self

/-- Of three dots in a row two stand next to each other without a label between them. -/
theorem nil_mem_of_labelsFrom?_dots {current : Text} {escape : Escape} {labels : List Text}
    (read : labelsFrom? current escape ['.', '.', '.'] = some labels) : [] ∈ labels := by
  have noNumber : isNumber '.' = false := by decide +kernel
  have noOctal : octalDigit? '.' = none := by decide
  cases escape with
  | none =>
      rw [labelsFrom?_dot] at read
      rcases Option.map_eq_some_iff.mp read with ⟨others, behind, rfl⟩
      exact List.mem_cons_of_mem _ (nil_mem_of_labelsFrom?_dot behind)
  | begun =>
      rw [labelsFrom?, noNumber, if_neg Bool.false_ne_true, labelsFrom?_dot] at read
      rcases Option.map_eq_some_iff.mp read with ⟨others, behind, rfl⟩
      exact List.mem_cons_of_mem _ (nil_mem_of_labelsFrom?_dot behind)
  | oneDigit first =>
      rw [labelsFrom?, noOctal] at read
      cases read
  | twoDigits first second =>
      rw [labelsFrom?, noOctal] at read
      cases read

end Name

/-! ## Texts of owners -/

namespace Text

theorem isPrefix_trimEndDots (text : Text) : trimEndDots text <+: text := by
  rw [trimEndDots, dropEndWhile, ← List.reverse_suffix, List.reverse_reverse]
  exact List.dropWhile_suffix _

theorem length_trimEndDots_le (text : Text) : (trimEndDots text).length ≤ text.length :=
  (isPrefix_trimEndDots text).length_le

theorem trimEndDots_fold (text : Text) : trimEndDots (fold text) = fold (trimEndDots text) := by
  have dots : ((· == '.') ∘ Char.toLower) = (· == '.') := by
    funext character
    rw [Function.comp_apply, Bool.eq_iff_iff, beq_iff_eq, beq_iff_eq]
    exact eq_iff_of_toLower_eq '.' (by decide) (toLower_toLower character)
  rw [trimEndDots, dropEndWhile, fold, ← List.map_reverse, List.dropWhile_map, dots,
    ← List.map_reverse]
  rfl

end Text

/-- How the text of an owner looks. -/
structure IsOwnerText (name : Text) : Prop where
  solid : IsSolid name
  noApex : '@' ∉ name
  front : name ≠ ['.'] → name.head? ≠ some '.'
  /-- One dot ends the name; another one in front of it belongs to a label. -/
  ends : name = trimEndDots name ++ ['.'] ∨ name = trimEndDots name ++ ['.', '.']

/-- A name without empty labels ends in at most two dots. -/
theorem trimEndDots_of_labelsFrom? {name : Text} {labels : List Text}
    (read : Name.labelsFrom? [] .none name = some labels) (nonempty : [] ∉ labels)
    (ends : endsWithDot name = true) :
    name = trimEndDots name ++ ['.'] ∨ name = trimEndDots name ++ ['.', '.'] := by
  rcases endsWithDot_iff.mp ends with ⟨stem, rfl⟩
  rw [trimEndDots_append_dot]
  cases more : endsWithDot stem with
  | false =>
      left
      rw [trimEndDots_of_not_endsWithDot more]
  | true =>
      right
      rcases endsWithDot_iff.mp more with ⟨inner, rfl⟩
      rw [trimEndDots_append_dot, List.append_assoc, List.singleton_append]
      cases third : endsWithDot inner with
      | false => rw [trimEndDots_of_not_endsWithDot third]
      | true =>
          rcases endsWithDot_iff.mp third with ⟨front, rfl⟩
          simp only [List.append_assoc, List.cons_append] at read
          rcases Name.exists_of_labelsFrom?_append read with ⟨_, _, others, dots, kept⟩
          exact absurd (kept (Name.nil_mem_of_labelsFrom?_dots dots)) nonempty

/-- A checked owner has the shape of an owner. -/
theorem isOwnerText_of_checkOwner {name : Text} (checked : Record.checkOwner name = .ok ()) :
    IsOwnerText name := by
  rcases Record.checkOwner_eq_ok_iff.mp checked with rfl | ⟨ends, labels, read, accepted⟩
  · exact ⟨isSolid_iff_all.mpr (by decide), by decide, fun other => absurd rfl other, .inl rfl⟩
  have nonempty : [] ∉ labels := fun member => accepted.safe [] member
  constructor
  · intro character member
    rw [Bool.eq_false_iff]
    intro blank
    refine Name.not_mem_of_labelsFrom? read accepted.safe (Name.isSafe_of_isBlank blank) ?_ ?_
      (Name.octalDigit?_of_isBlank blank) member
    · rintro rfl
      exact absurd blank (by decide)
    · rintro rfl
      exact absurd blank (by decide)
  · exact Name.not_mem_of_labelsFrom? read accepted.safe (by decide) (by decide) (by decide)
      (by decide)
  · intro _ first
    rcases List.head?_eq_some_iff.mp first with ⟨rest, rfl⟩
    exact nonempty (Name.nil_mem_of_labelsFrom?_dot read)
  · exact trimEndDots_of_labelsFrom? read nonempty ends

/-! ## Forms of an owner with escapes -/

namespace Owner

variable {name origin : Text}

theorem isSolid_trimEndDots (solid : IsSolid name) : IsSolid (trimEndDots name) :=
  fun character member => solid character ((isPrefix_trimEndDots name).subset member)

theorem isSolid_relativeTo (solid : IsSolid name) (origin : Text) :
    IsSolid (relativeTo name origin) := by
  have trimmed := isSolid_trimEndDots solid
  rcases relativeTo_cases name origin with
    ⟨_, relative⟩ | ⟨_, _, relative⟩ | ⟨head, tail, cut, _, _, relative⟩ | relative
  · rwa [relative]
  · rw [relative]
    exact isSolid_iff_all.mpr rfl
  · rw [relative]
    rw [cut] at trimmed
    apply isSolid_trimEndDots
    exact fun character member => trimmed character (List.mem_append_left _ member)
  · rw [relative]
    exact isSolid_qualified trimmed

theorem isSolid_resolve (solid : IsSolid name) (zone : IsSolid origin) :
    IsSolid (resolve name origin) := by
  rw [resolve, trim_of_isTrimmed solid.isTrimmed]
  dsimp only
  split
  · exact isSolid_qualified zone
  · split
    · exact solid
    · split
      · exact isSolid_qualified solid
      · exact solid.append
          (isSolid_cons.mpr ⟨by decide, isSolid_qualified (isSolid_trimEndDots zone)⟩)

/-- An absolute form ends with a dot. -/
theorem endsWithDot_resolve (name origin : Text) : endsWithDot (resolve name origin) = true := by
  rw [resolve]
  dsimp only
  split
  · exact endsWithDot_qualified origin
  · split
    · assumption
    · split
      · exact endsWithDot_qualified _
      · rcases endsWithDot_iff.mp (endsWithDot_qualified (trimEndDots origin)) with ⟨stem, ends⟩
        rw [ends, ← List.cons_append, ← List.append_assoc]
        exact endsWithDot_append_dot _

theorem qualified_fold (name : Text) : qualified (fold name) = fold (qualified name) := by
  rw [qualified, qualified, endsWithDot_fold]
  split
  · rfl
  · rw [fold_append]
    rfl

/-- The relative form of a name in lower case is that of the name, in lower case. -/
theorem relativeTo_fold (name origin : Text) :
    relativeTo (fold name) origin = fold (relativeTo name origin) := by
  have size := octetSize_eq_of_fold_eq (fold_fold (trimEndDots name))
  have same : sameFolded (fold (trimEndDots name)) (trimEndDots origin) =
      sameFolded (trimEndDots name) (trimEndDots origin) := by
    rw [sameFolded, sameFolded, fold_fold]
  rw [relativeTo, relativeTo, trimEndDots_fold, size, same, splitAtOctet?_fold, qualified_fold]
  split
  · rfl
  · split
    · rfl
    · cases splitAtOctet? (trimEndDots name)
          (octetSize (trimEndDots name) - octetSize (trimEndDots origin)) with
      | none => rfl
      | some halves =>
          dsimp only [Option.map_some]
          rw [length_fold, endsWithDot_fold, sameFolded, fold_fold, ← sameFolded]
          split
          · exact trimEndDots_fold halves.1
          · rfl

/--
Whether the absolute form of the relative form of a name is another name, because a dot of a label
is taken for one that ends a name or a label.
-/
inductive IsClipped (origin name : Text) : Prop
  /-- The last label of the name ends in a dot, and the name is not that of the origin. -/
  | last (ends : ['.', '.'] <:+ name) (apart : fold name ≠ fold origin)
  /-- The last label of the origin ends in a dot, which is all that the name lacks of it. -/
  | apex (lacks : fold origin = fold name ++ ['.'])
  /-- The label in front of the origin ends in a dot. -/
  | inner {head tail : Text} (zone : trimEndDots origin ≠ [])
      (cut : trimEndDots name = head ++ '.' :: '.' :: tail)
      (same : fold tail = fold (trimEndDots origin))

end Owner

namespace IsOwnerText

variable {name origin : Text}

theorem endsWithDot (owner : IsOwnerText name) : endsWithDot name = true := by
  rcases owner.ends with one | two
  · rw [one]
    exact endsWithDot_append_dot _
  · rw [two, ← List.singleton_append, ← List.append_assoc]
    exact endsWithDot_append_dot _

theorem qualified_eq (owner : IsOwnerText name) : Owner.qualified name = name :=
  Owner.qualified_of_endsWithDot owner.endsWithDot

theorem eq_root (owner : IsOwnerText name) (empty : trimEndDots name = []) : name = ['.'] := by
  rcases owner.ends with one | two
  · rwa [empty] at one
  · rw [empty] at two
    have front := owner.front (by rw [two]; decide)
    rw [two] at front
    exact absurd rfl front

theorem ne_apex (owner : IsOwnerText name) {front : Text} (starts : front <+: name) :
    front ≠ Owner.apex := by
  rintro rfl
  exact owner.noApex (starts.subset List.mem_cons_self)

/-- The part of a name in front of a dot has more than dots. -/
theorem trimEndDots_ne_nil (owner : IsOwnerText name) {head tail : Text}
    (cut : trimEndDots name = head ++ '.' :: tail) : trimEndDots head ≠ [] := by
  intro empty
  have dot : (trimEndDots name).head? = some '.' := by
    rw [cut]
    cases head with
    | nil => rfl
    | cons character rest =>
        by_cases isDot : character = '.'
        · rw [isDot]
          rfl
        · have kept : character ∈ trimEndDots (character :: rest) :=
            mem_dropEndWhile List.mem_cons_self (by simpa using isDot)
          rw [empty] at kept
          cases kept
  refine owner.front ?_ (head?_dropEndWhile dot)
  rintro rfl
  cases dot

/-- An owner ends in a single dot exactly if just this dot is trimmed. -/
theorem not_suffix_iff (owner : IsOwnerText name) :
    ¬ ['.', '.'] <:+ name ↔ name = trimEndDots name ++ ['.'] := by
  constructor
  · intro other
    rcases owner.ends with one | two
    · exact one
    · exact absurd ⟨_, two.symm⟩ other
  · rintro one ⟨front, whole⟩
    have shorter : front ++ ['.'] = trimEndDots name := by
      rw [one, ← List.singleton_append, ← List.append_assoc] at whole
      exact List.append_cancel_right whole
    have open_ := not_endsWithDot_trimEndDots name
    rw [← shorter, endsWithDot_append_dot] at open_
    cases open_

/-! ### What becomes of an owner -/

/-- An owner equal to the origin up to letter case comes back as the origin. -/
theorem resolve_relativeTo_of_same (owner : IsOwnerText name) (zone : IsOwnerText origin)
    (same : fold (trimEndDots name) = fold (trimEndDots origin)) :
    Owner.resolve (Owner.relativeTo name origin) origin = origin := by
  by_cases top : trimEndDots origin = []
  · rw [top, fold_nil, fold_eq_nil_iff] at same
    rw [owner.eq_root same, zone.eq_root top]
    rfl
  · rw [Owner.relativeTo_of_same top same, Owner.resolve_nil, zone.qualified_eq]

/-- An owner below the origin comes back without the dots that end its own part. -/
theorem resolve_relativeTo_of_below (owner : IsOwnerText name) {head tail : Text}
    (top : trimEndDots origin ≠ []) (cut : trimEndDots name = head ++ '.' :: tail)
    (same : fold tail = fold (trimEndDots origin)) :
    Owner.resolve (Owner.relativeTo name origin) origin =
      trimEndDots head ++ '.' :: trimEndDots origin ++ ['.'] := by
  have nonempty := owner.trimEndDots_ne_nil cut
  have named : head ≠ [] := by
    rintro rfl
    exact nonempty rfl
  have starts : trimEndDots head <+: name := by
    refine (isPrefix_trimEndDots head).trans (List.IsPrefix.trans ?_ (isPrefix_trimEndDots name))
    rw [cut]
    exact List.prefix_append _ _
  have solid : IsSolid (trimEndDots head) :=
    fun character member => owner.solid character (starts.subset member)
  rw [Owner.relativeTo_of_below cut named top same, Owner.resolve_of_not_endsWithDot solid nonempty
    (owner.ne_apex starts) (not_endsWithDot_trimEndDots head), if_neg top,
    Owner.qualified_trimEndDots, List.append_assoc, List.cons_append]

/-- An owner outside the zone comes back with a single dot. -/
theorem resolve_relativeTo_of_outside (owner : IsOwnerText name)
    (apart : fold (trimEndDots name) ≠ fold (trimEndDots origin))
    (outside : ∀ {head tail}, trimEndDots origin ≠ [] → trimEndDots name = head ++ '.' :: tail →
      fold tail ≠ fold (trimEndDots origin)) :
    Owner.resolve (Owner.relativeTo name origin) origin = trimEndDots name ++ ['.'] := by
  rcases Owner.relativeTo_cases name origin with
    ⟨top, relative⟩ | ⟨_, same, _⟩ | ⟨head, tail, cut, same, top, _⟩ | relative
  · have nonempty : trimEndDots name ≠ [] := by
      intro empty
      rw [empty, top] at apart
      exact apart rfl
    rw [relative, Owner.resolve_of_not_endsWithDot (Owner.isSolid_trimEndDots owner.solid) nonempty
      (owner.ne_apex (isPrefix_trimEndDots name)) (not_endsWithDot_trimEndDots name), if_pos top]
  · exact absurd same apart
  · exact absurd same (outside top cut)
  · rw [relative, Owner.qualified_trimEndDots]
    apply Owner.resolve_of_endsWithDot
    · exact (Owner.isSolid_trimEndDots owner.solid).append (isSolid_iff_all.mpr (by decide))
    · exact endsWithDot_append_dot _

theorem length_bounds (owner : IsOwnerText name) :
    (trimEndDots name).length + 1 ≤ name.length
      ∧ name.length ≤ (trimEndDots name).length + 2 := by
  rcases owner.ends with one | two
  · have size := congrArg List.length one
    rw [List.length_append, List.length_singleton] at size
    omega
  · have size := congrArg List.length two
    rw [List.length_append, List.length_cons, List.length_singleton] at size
    omega

/-- Below the origin an owner comes back as it was unless a dot of its own was trimmed. -/
theorem fold_eq_iff_of_below (owner : IsOwnerText name) {head tail : Text}
    (cut : trimEndDots name = head ++ '.' :: tail)
    (same : fold tail = fold (trimEndDots origin)) :
    fold (trimEndDots head ++ '.' :: trimEndDots origin ++ ['.']) = fold name ↔
      ¬ ['.', '.'] <:+ name ∧ ¬ Text.endsWithDot head = true := by
  constructor
  · intro equal
    have sizes := length_eq_of_fold_eq equal
    have cutSizes := congrArg List.length cut
    have tailSizes := length_eq_of_fold_eq same
    have bounds := owner.length_bounds
    simp only [List.length_append, List.length_cons, List.length_nil] at sizes cutSizes
    constructor
    · apply owner.not_suffix_iff.mpr
      apply owner.ends.resolve_right
      intro two
      have longer := congrArg List.length two
      have := length_trimEndDots_le head
      simp only [List.length_append, List.length_cons, List.length_nil] at longer
      omega
    · intro dot
      rcases endsWithDot_iff.mp dot with ⟨stem, rfl⟩
      have := length_trimEndDots_le stem
      rw [trimEndDots_append_dot] at sizes
      rw [List.length_append, List.length_singleton] at cutSizes
      omega
  · rintro ⟨one, open_⟩
    rw [owner.not_suffix_iff.mp one, cut,
      trimEndDots_of_not_endsWithDot (Bool.eq_false_iff.mpr open_)]
    simp [same]

theorem fold_eq_iff_of_outside (owner : IsOwnerText name) :
    fold (trimEndDots name ++ ['.']) = fold name ↔ ¬ ['.', '.'] <:+ name := by
  rw [owner.not_suffix_iff]
  constructor
  · intro equal
    rcases owner.ends with one | two
    · exact one
    · have sizes := length_eq_of_fold_eq equal
      have longer := congrArg List.length two
      simp only [List.length_append, List.length_cons, List.length_nil] at sizes longer
      omega
  · intro one
    rw [← one]

/-! ### When an owner is clipped -/

/-- An owner equal to the origin is clipped exactly if the origin has other dots at its end. -/
theorem isClipped_iff_of_same (owner : IsOwnerText name) (zone : IsOwnerText origin)
    (same : fold (trimEndDots name) = fold (trimEndDots origin)) :
    Owner.IsClipped origin name ↔ fold origin ≠ fold name := by
  constructor
  · intro clipped equal
    cases clipped with
    | last _ apart => exact apart equal.symm
    | apex lacks =>
        have sizes := congrArg List.length (equal.symm.trans lacks)
        simp at sizes
    | inner _ cut sameTail =>
        have sizes := length_eq_of_fold_eq (sameTail.trans same.symm)
        rw [cut, List.length_append, List.length_cons, List.length_cons] at sizes
        omega
  · intro apart
    rcases owner.ends with one | two
    · rcases zone.ends with zoneOne | zoneTwo
      · rw [one, zoneOne, fold_append, fold_append, same] at apart
        exact absurd rfl apart
      · apply Owner.IsClipped.apex
        rw [one, zoneTwo, fold_append, fold_append, same]
        simp
    · exact .last ⟨_, two.symm⟩ apart.symm

/-- Below the origin an owner is clipped exactly if a dot of its own was trimmed. -/
theorem isClipped_iff_of_below (owner : IsOwnerText name) (zone : IsOwnerText origin)
    {head tail : Text} (top : trimEndDots origin ≠ [])
    (cut : trimEndDots name = head ++ '.' :: tail)
    (same : fold tail = fold (trimEndDots origin)) :
    Owner.IsClipped origin name ↔ ['.', '.'] <:+ name ∨ Text.endsWithDot head = true := by
  have longer : (trimEndDots name).length = head.length + 1 + (trimEndDots origin).length := by
    rw [cut, List.length_append, List.length_cons, length_eq_of_fold_eq same]
    omega
  constructor
  · intro clipped
    cases clipped with
    | last ends _ => exact .inl ends
    | apex lacks =>
        have sizes := congrArg List.length lacks
        rw [List.length_append, length_fold, length_fold, List.length_singleton] at sizes
        have := owner.length_bounds
        have := zone.length_bounds
        omega
    | @inner before behind _ doubled sameBehind =>
        right
        have sizes := length_eq_of_fold_eq (same.trans sameBehind.symm)
        have shape : head ++ '.' :: tail = (before ++ ['.']) ++ '.' :: behind := by
          rw [← cut, doubled, List.append_assoc, List.singleton_append]
        rw [(List.append_inj' shape (congrArg Nat.succ sizes)).1, endsWithDot_append_dot]
  · rintro (ends | dot)
    · apply Owner.IsClipped.last ends
      intro equal
      have sizes := length_eq_of_fold_eq equal
      have := owner.length_bounds
      have := zone.length_bounds
      have named : 0 < head.length := by
        rw [List.length_pos_iff]
        rintro rfl
        exact owner.trimEndDots_ne_nil cut rfl
      omega
    · rcases endsWithDot_iff.mp dot with ⟨stem, rfl⟩
      rw [List.append_assoc, List.singleton_append] at cut
      exact .inner top cut same

/-- Outside the zone an owner is clipped exactly if its last label ends with an escaped dot. -/
theorem isClipped_iff_of_outside
    (apart : fold (trimEndDots name) ≠ fold (trimEndDots origin))
    (outside : ∀ {head tail}, trimEndDots origin ≠ [] → trimEndDots name = head ++ '.' :: tail →
      fold tail ≠ fold (trimEndDots origin)) :
    Owner.IsClipped origin name ↔ ['.', '.'] <:+ name := by
  have other : fold name ≠ fold origin := by
    intro equal
    rw [← trimEndDots_fold, equal, trimEndDots_fold] at apart
    exact apart rfl
  constructor
  · intro clipped
    cases clipped with
    | last ends _ => exact ends
    | apex lacks =>
        have trimmed := congrArg trimEndDots lacks
        rw [trimEndDots_append_dot, trimEndDots_fold, trimEndDots_fold] at trimmed
        exact absurd trimmed.symm apart
    | @inner before behind top cut same =>
        have split : trimEndDots name = (before ++ ['.']) ++ '.' :: behind := by
          rw [cut, List.append_assoc, List.singleton_append]
        exact absurd same (outside top split)
  · intro ends
    exact .last ends other

end IsOwnerText

/--
The absolute form of the relative form of an owner is the owner, letter case aside, exactly if it is
not clipped.
-/
theorem fold_resolve_relativeTo_iff {name origin : Text}
    (owner : Record.checkOwner name = .ok ()) (zone : Record.checkOwner origin = .ok ()) :
    fold (Owner.resolve (Owner.relativeTo name origin) origin) = fold name ↔
      ¬ Owner.IsClipped origin name := by
  have owner := isOwnerText_of_checkOwner owner
  have zone := isOwnerText_of_checkOwner zone
  by_cases same : fold (trimEndDots name) = fold (trimEndDots origin)
  · rw [owner.resolve_relativeTo_of_same zone same, owner.isClipped_iff_of_same zone same, not_not]
  · by_cases below : ∃ head tail, trimEndDots origin ≠ [] ∧ trimEndDots name = head ++ '.' :: tail
        ∧ fold tail = fold (trimEndDots origin)
    · rcases below with ⟨head, tail, top, cut, sameTail⟩
      rw [owner.resolve_relativeTo_of_below top cut sameTail,
        owner.isClipped_iff_of_below zone top cut sameTail, not_or]
      exact owner.fold_eq_iff_of_below cut sameTail
    · have outside : ∀ {head tail}, trimEndDots origin ≠ [] →
          trimEndDots name = head ++ '.' :: tail → fold tail ≠ fold (trimEndDots origin) :=
        fun top cut sameTail => below ⟨_, _, top, cut, sameTail⟩
      rw [owner.resolve_relativeTo_of_outside same outside,
        IsOwnerText.isClipped_iff_of_outside same outside]
      exact owner.fold_eq_iff_of_outside

end ZoneServices
