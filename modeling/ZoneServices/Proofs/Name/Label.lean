import ZoneServices.Proofs.Name.Escape

/-!
# A label before an owner

A label that is put before the relative form of a name makes, in absolute form, the label before the
name.  This goes wrong where the relative form has lost a dot of the name, and where there is no
name behind the label: the relative form of nothing at all is the root, but a label before the root
is taken for a label of the zone.

Unlike for the name alone, how many dots the text of the origin ends in does not matter here.
-/

namespace ZoneServices

open Text

/-! ## What is behind a label -/

namespace Name

/-- A dot behind characters without an escape ends a label. -/
theorem labels_of_labelsFrom?_dot {label rest current : Text} {labels : List Text}
    (noDot : '.' ∉ label) (noEscape : '\\' ∉ label)
    (read : labelsFrom? current .none (label ++ '.' :: rest) = some labels) :
    ∃ others, labelsFrom? [] .none rest = some others
      ∧ labels = (current.reverse ++ label) :: others := by
  induction label generalizing current with
  | nil =>
      rw [List.nil_append, labelsFrom?_dot] at read
      rcases Option.map_eq_some_iff.mp read with ⟨others, found, rfl⟩
      exact ⟨others, found, by rw [List.append_nil]⟩
  | cons character label step =>
      rcases List.ne_and_not_mem_of_not_mem_cons noDot with ⟨notDot, noDot⟩
      rcases List.ne_and_not_mem_of_not_mem_cons noEscape with ⟨notEscape, noEscape⟩
      rw [List.cons_append, labelsFrom?, if_neg notDot.symm, if_neg notEscape.symm] at read
      split at read
      · cases read
      · rcases step noDot noEscape read with ⟨others, found, rfl⟩
        exact ⟨others, found, by simp⟩

end Name

/-- What stands behind the first label of an owner is an owner too, unless it is nothing at all. -/
theorem Record.checkOwner_behind {label name : Text} (noDot : '.' ∉ label)
    (noEscape : '\\' ∉ label) (checked : checkOwner (label ++ '.' :: name) = .ok ()) :
    name = [] ∨ name ≠ ['.'] ∧ checkOwner name = .ok () := by
  by_cases bare : name = []
  · exact .inl bare
  right
  rcases checkOwner_eq_ok_iff.mp checked with root | ⟨ends, labels, read, accepted⟩
  · have sizes := congrArg List.length root
    have named := List.length_pos_iff.mpr bare
    simp only [List.length_append, List.length_cons, List.length_nil] at sizes
    omega
  · rcases Name.labels_of_labelsFrom?_dot noDot noEscape read with ⟨others, found, rfl⟩
    have nonempty : [] ∉ others :=
      fun member => accepted.safe [] (List.mem_cons_of_mem _ member)
    have acceptedOthers : Name.AreAccepted others := by
      refine ⟨fun other member => accepted.kept other (List.mem_cons_of_mem _ member), ?_⟩
      have fits := accepted.fits
      rw [Name.size] at fits
      omega
    constructor
    · rintro rfl
      exact nonempty (Name.nil_mem_of_labelsFrom?_dot found)
    · rw [endsWithDot_append_cons bare] at ends
      exact checkOwner_eq_ok_iff.mpr (.inr ⟨ends, others, found, acceptedOthers⟩)

/-! ## Absolute forms -/

namespace Owner

variable {label text : Text}

/--
Whether a label before the relative form of a name is in absolute form no longer before this name,
because there is none, or because a dot of it is taken for one that ends a name or a label.
-/
inductive IsMoved (origin name : Text) : Prop
  /-- Nothing stands behind the label, which is then put before the origin. -/
  | bare (empty : name = []) (zone : trimEndDots origin ≠ [])
  /-- The last label of the name ends in a dot. -/
  | last (ends : ['.', '.'] <:+ name)
  /-- The label in front of the origin ends in a dot. -/
  | inner {head tail : Text} (zone : trimEndDots origin ≠ [])
      (cut : trimEndDots name = head ++ '.' :: '.' :: tail)
      (same : fold tail = fold (trimEndDots origin))

variable {origin name : Text}

theorem isSolid_label_append (isLabel : IsStem label) (solid : IsSolid text) :
    IsSolid (label ++ '.' :: text) :=
  isLabel.solid.append (isSolid_cons.mpr ⟨by decide, solid⟩)

/-- A label in front of a relative name comes to lie inside the zone. -/
theorem resolve_join_open (isLabel : IsStem label) (isOpen : IsOpen text) (solid : IsSolid text)
    (origin : Text) :
    resolve (join [label, text]) origin =
      if trimEndDots origin = [] then label ++ '.' :: text ++ ['.']
      else label ++ '.' :: text ++ '.' :: qualified (trimEndDots origin) := by
  have nonempty : label ++ '.' :: text ≠ [] := List.append_ne_nil_of_left_ne_nil isLabel.ne_nil _
  have notApex : label ++ '.' :: text ≠ apex := by
    intro equal
    have dot : '.' ∈ label ++ '.' :: text := List.mem_append_right _ List.mem_cons_self
    rw [equal] at dot
    exact absurd dot (by decide)
  have open_ : endsWithDot (label ++ '.' :: text) = false := by
    rw [endsWithDot_append_cons isOpen.nonempty, isOpen.back]
  rw [join_open isLabel isOpen,
    resolve_of_not_endsWithDot (isSolid_label_append isLabel solid) nonempty notApex open_]

/-- A label in front of an absolute name stays outside the zone. -/
theorem resolve_join_closed (isLabel : IsStem label) (isOpen : IsOpen text) (solid : IsSolid text)
    (origin : Text) :
    resolve (join [label, text ++ ['.']]) origin = label ++ '.' :: text ++ ['.'] := by
  have closed : IsSolid (label ++ '.' :: text ++ ['.']) :=
    (isSolid_label_append isLabel solid).append (isSolid_iff_all.mpr (by decide))
  rw [join_closed isLabel isOpen, resolve_of_endsWithDot closed (endsWithDot_append_dot _)]

/-- A label in front of the origin comes to lie just below it. -/
theorem resolve_join_nil (isLabel : IsStem label) (origin : Text) :
    resolve (join [label, []]) origin =
      if trimEndDots origin = [] then label ++ ['.']
      else label ++ '.' :: qualified (trimEndDots origin) := by
  rw [join_nil isLabel, resolve_of_isStem isLabel]

end Owner

namespace IsOwnerText

variable {label origin name : Text}

/-- The front of a name has no dots at its front, and none at its end when these are taken off. -/
theorem isOpen_trimEndDots (owner : IsOwnerText name) {front : Text} (starts : front <+: name)
    (nonempty : trimEndDots front ≠ []) : Owner.IsOpen (trimEndDots front) where
  nonempty := nonempty
  notApex := owner.ne_apex ((isPrefix_trimEndDots front).trans starts)
  front := by
    intro dot
    rcases starts with ⟨rest, rfl⟩
    rcases List.head?_eq_some_iff.mp (head?_dropEndWhile dot) with ⟨others, rfl⟩
    refine owner.front ?_ rfl
    intro root
    rw [List.cons_append, List.cons.injEq, List.append_eq_nil_iff] at root
    rw [root.2.1] at nonempty
    exact nonempty (by decide)
  back := not_endsWithDot_trimEndDots front

theorem isSolid_trimEndDots (owner : IsOwnerText name) {front : Text} (starts : front <+: name) :
    IsSolid (trimEndDots front) :=
  fun character member =>
    owner.solid character (((isPrefix_trimEndDots front).trans starts).subset member)

/-! ### What becomes of a label before an owner -/

/-- A label put back on the origin lies just below the origin. -/
theorem resolve_join_of_same (isLabel : IsStem label) (owner : IsOwnerText name)
    (notRoot : name ≠ ['.']) (same : fold (trimEndDots name) = fold (trimEndDots origin)) :
    Owner.resolve (Owner.join [label, Owner.relativeTo name origin]) origin =
      label ++ '.' :: trimEndDots origin ++ ['.'] := by
  have top : trimEndDots origin ≠ [] := by
    intro top
    rw [top, fold_nil, fold_eq_nil_iff] at same
    exact notRoot (owner.eq_root same)
  rw [Owner.relativeTo_of_same top same, Owner.resolve_join_nil isLabel, if_neg top,
    Owner.qualified_trimEndDots, List.append_assoc, List.cons_append]

/-- A label put back on a name below the origin loses the dots that end the own part of the name. -/
theorem resolve_join_of_below (isLabel : IsStem label) (owner : IsOwnerText name)
    {head tail : Text} (top : trimEndDots origin ≠ [])
    (cut : trimEndDots name = head ++ '.' :: tail)
    (same : fold tail = fold (trimEndDots origin)) :
    Owner.resolve (Owner.join [label, Owner.relativeTo name origin]) origin =
      label ++ '.' :: (trimEndDots head ++ '.' :: trimEndDots origin ++ ['.']) := by
  have nonempty := owner.trimEndDots_ne_nil cut
  have named : head ≠ [] := by
    rintro rfl
    exact nonempty rfl
  have starts : head <+: name := by
    refine List.IsPrefix.trans ?_ (isPrefix_trimEndDots name)
    rw [cut]
    exact List.prefix_append _ _
  rw [Owner.relativeTo_of_below cut named top same,
    Owner.resolve_join_open isLabel (owner.isOpen_trimEndDots starts nonempty)
      (owner.isSolid_trimEndDots starts), if_neg top, Owner.qualified_trimEndDots]
  simp

/-- A label put back on a name outside the zone stays there. -/
theorem resolve_join_of_outside (isLabel : IsStem label) (owner : IsOwnerText name)
    (notRoot : name ≠ ['.']) (apart : fold (trimEndDots name) ≠ fold (trimEndDots origin))
    (outside : ∀ {head tail}, trimEndDots origin ≠ [] → trimEndDots name = head ++ '.' :: tail →
      fold tail ≠ fold (trimEndDots origin)) :
    Owner.resolve (Owner.join [label, Owner.relativeTo name origin]) origin =
      label ++ '.' :: (trimEndDots name ++ ['.']) := by
  have nonempty : trimEndDots name ≠ [] := fun empty => notRoot (owner.eq_root empty)
  have isOpen := owner.isOpen_trimEndDots (List.prefix_refl name) nonempty
  have solid := owner.isSolid_trimEndDots (List.prefix_refl name)
  rcases Owner.relativeTo_cases name origin with
    ⟨top, relative⟩ | ⟨_, same, _⟩ | ⟨head, tail, cut, same, top, _⟩ | relative
  · rw [relative, Owner.resolve_join_open isLabel isOpen solid, if_pos top, List.append_assoc,
      List.cons_append]
  · exact absurd same apart
  · exact absurd same (outside top cut)
  · rw [relative, Owner.qualified_trimEndDots, Owner.resolve_join_closed isLabel isOpen solid,
      List.append_assoc, List.cons_append]

/-! ### When a label is moved -/

theorem isMoved_iff_of_below {head tail : Text}
    (top : trimEndDots origin ≠ []) (cut : trimEndDots name = head ++ '.' :: tail)
    (same : fold tail = fold (trimEndDots origin)) :
    Owner.IsMoved origin name ↔ ['.', '.'] <:+ name ∨ Text.endsWithDot head = true := by
  constructor
  · intro moved
    cases moved with
    | bare empty _ =>
        rw [empty] at cut
        exact absurd cut (by simp [trimEndDots, dropEndWhile])
    | last ends => exact .inl ends
    | @inner before behind _ doubled sameBehind =>
        right
        have sizes := length_eq_of_fold_eq (same.trans sameBehind.symm)
        have shape : head ++ '.' :: tail = (before ++ ['.']) ++ '.' :: behind := by
          rw [← cut, doubled, List.append_assoc, List.singleton_append]
        rw [(List.append_inj' shape (congrArg Nat.succ sizes)).1, endsWithDot_append_dot]
  · rintro (ends | dot)
    · exact .last ends
    · rcases endsWithDot_iff.mp dot with ⟨stem, rfl⟩
      rw [List.append_assoc, List.singleton_append] at cut
      exact .inner top cut same

/-- A name that is not below the origin is moved for its own dots alone. -/
theorem isMoved_iff_of_not_below (named : name ≠ [])
    (outside : ∀ {head tail}, trimEndDots origin ≠ [] → trimEndDots name = head ++ '.' :: tail →
      fold tail ≠ fold (trimEndDots origin)) :
    Owner.IsMoved origin name ↔ ['.', '.'] <:+ name := by
  constructor
  · intro moved
    cases moved with
    | bare empty _ => exact absurd empty named
    | last ends => exact ends
    | @inner before behind top cut same =>
        have split : trimEndDots name = (before ++ ['.']) ++ '.' :: behind := by
          rw [cut, List.append_assoc, List.singleton_append]
        exact absurd same (outside top split)
  · exact .last

end IsOwnerText

/-- A common label in front does not matter to whether names are equal. -/
theorem fold_append_label_iff {label left right : Text} :
    fold (label ++ '.' :: left) = fold (label ++ '.' :: right) ↔ fold left = fold right := by
  simp [fold_append]

namespace Owner

variable {label origin : Text}

theorem join_root (isLabel : IsStem label) : join [label, ['.']] = label := by
  have empty : trimDots ['.'] = [] := by decide
  simp [join, isLabel.isOpen.trimDots_eq, isLabel.ne_nil, isLabel.ne_apex, isAbsoluteLast, empty,
    joined_singleton]

/-- The relative form of nothing is nothing in the zone of the root, and the root elsewhere. -/
theorem relativeTo_nil (origin : Text) :
    relativeTo [] origin = if trimEndDots origin = [] then [] else ['.'] := by
  have empty : trimEndDots [] = [] := rfl
  split
  · rename_i top
    rw [relativeTo, empty, top]
    rfl
  · rename_i top
    rcases relativeTo_cases [] origin with
      ⟨isTop, _⟩ | ⟨_, same, _⟩ | ⟨head, tail, cut, _, _, _⟩ | relative
    · exact absurd isTop top
    · exact absurd (fold_eq_nil_iff.mp same.symm) top
    · exact absurd (empty.symm.trans cut) (List.append_ne_nil_of_right_ne_nil _ (by simp)).symm
    · exact relative

/-- The empty name is moved unless the origin is the root. -/
theorem isMoved_nil_iff : IsMoved origin [] ↔ trimEndDots origin ≠ [] := by
  constructor
  · intro moved
    cases moved with
    | bare _ zone => exact zone
    | last ends => exact absurd ends (by decide)
    | inner zone _ _ => exact zone
  · exact .bare rfl

/-- A label before nothing is kept in the zone of the root, and put before any other origin. -/
theorem fold_resolve_join_nil_iff (isLabel : IsStem label) :
    fold (resolve (join [label, relativeTo [] origin]) origin) = fold (label ++ ['.']) ↔
      ¬ IsMoved origin [] := by
  rw [isMoved_nil_iff, not_not, relativeTo_nil]
  split
  · rename_i top
    rw [resolve_join_nil isLabel, if_pos top]
    exact iff_of_true rfl top
  · rename_i top
    rw [join_root isLabel, resolve_of_isStem isLabel, if_neg top, qualified_trimEndDots]
    refine iff_of_false ?_ top
    intro same
    have sizes := length_eq_of_fold_eq same
    simp at sizes

end Owner

/--
The absolute form of a label before the relative form of a name is the label before the name, letter
case aside, exactly if it is not moved.
-/
theorem fold_resolve_join_iff {label name origin : Text} (isLabel : IsStem label)
    (behind : name = [] ∨ name ≠ ['.'] ∧ Record.checkOwner name = .ok ()) :
    fold (Owner.resolve (Owner.join [label, Owner.relativeTo name origin]) origin) =
        fold (label ++ '.' :: name) ↔
      ¬ Owner.IsMoved origin name := by
  rcases behind with rfl | ⟨notRoot, checked⟩
  · exact Owner.fold_resolve_join_nil_iff isLabel
  have owner := isOwnerText_of_checkOwner checked
  have named : name ≠ [] := by
    rintro rfl
    have closed := owner.endsWithDot
    cases closed
  by_cases same : fold (trimEndDots name) = fold (trimEndDots origin)
  · have outside : ∀ {head tail}, trimEndDots origin ≠ [] →
        trimEndDots name = head ++ '.' :: tail → fold tail ≠ fold (trimEndDots origin) := by
      intro head tail _ cut sameTail
      have sizes := length_eq_of_fold_eq (sameTail.trans same.symm)
      rw [cut, List.length_append, List.length_cons] at sizes
      omega
    rw [owner.resolve_join_of_same isLabel notRoot same,
      IsOwnerText.isMoved_iff_of_not_below named outside, List.append_assoc, List.cons_append,
      fold_append_label_iff, fold_append, ← same, ← fold_append]
    exact owner.fold_eq_iff_of_outside
  · by_cases below : ∃ head tail, trimEndDots origin ≠ [] ∧ trimEndDots name = head ++ '.' :: tail
        ∧ fold tail = fold (trimEndDots origin)
    · rcases below with ⟨head, tail, top, cut, sameTail⟩
      rw [owner.resolve_join_of_below isLabel top cut sameTail,
        IsOwnerText.isMoved_iff_of_below top cut sameTail, not_or, fold_append_label_iff]
      exact owner.fold_eq_iff_of_below cut sameTail
    · have outside : ∀ {head tail}, trimEndDots origin ≠ [] →
          trimEndDots name = head ++ '.' :: tail → fold tail ≠ fold (trimEndDots origin) :=
        fun top cut sameTail => below ⟨_, _, top, cut, sameTail⟩
      rw [owner.resolve_join_of_outside isLabel notRoot same outside,
        IsOwnerText.isMoved_iff_of_not_below named outside, fold_append_label_iff]
      exact owner.fold_eq_iff_of_outside

end ZoneServices
