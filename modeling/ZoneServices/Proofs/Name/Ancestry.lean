import ZoneServices.Proofs.Name.Escape

/-!
# Names below an origin

A name lies below the origin of a zone when its last labels are those of the origin, letter case
aside, and others stand before them.  The relative form of a name is made from its text, by a cut at
the size of the origin in octets.  For names of plain labels the cut never falls inside a label: the
text before the origin ends with a dot exactly where whole labels are left over, so the relative
form tells how the name stands to the origin, and which name it is.
-/

namespace ZoneServices

/-! ## Fields and labels -/

namespace Text

theorem fields_fold (text : Text) : fields '.' (fold text) = (fields '.' text).map fold := by
  induction text with
  | nil => rfl
  | cons character rest step =>
      have dots := eq_iff_of_toLower_eq '.' (by decide) (toLower_toLower character)
      rw [fold_cons, fields, fields, step]
      simp only [dots]
      split
      · rfl
      · cases fields '.' rest with
        | nil => rfl
        | cons field others => rfl

theorem fold_joined (pieces : List Text) :
    fold (joined ['.'] pieces) = joined ['.'] (pieces.map fold) := by
  induction pieces with
  | nil => rfl
  | cons piece others step =>
      by_cases alone : others = []
      · subst alone
        rw [joined_singleton, List.map_singleton, joined_singleton]
      · rw [joined_cons piece alone, List.map_cons, joined_cons _ (by simpa using alone),
          fold_append, fold_append, step]
        rfl

theorem joined_append {separator : Text} {front back : List Text} (left : front ≠ [])
    (right : back ≠ []) :
    joined separator (front ++ back) =
      joined separator front ++ (separator ++ joined separator back) := by
  induction front with
  | nil => exact absurd rfl left
  | cons piece others step =>
      by_cases alone : others = []
      · subst alone
        rw [List.singleton_append, joined_cons piece right, joined_singleton]
      · rw [List.cons_append, joined_cons piece (by simp [right]), step alone,
          joined_cons piece alone]
        simp only [List.append_assoc]

end Text

open Text

namespace Owner

/--
A label as it stands in the text of a name, where dots alone part labels.  A label `@` would be
taken for the origin when nothing else is left of a name.
-/
structure IsLabel (label : Text) : Prop where
  nonempty : label ≠ []
  solid : IsSolid label
  noDot : '.' ∉ label
  notApex : label ≠ apex

instance (label : Text) : Decidable (IsLabel label) :=
  decidable_of_iff (label ≠ [] ∧ label.all (!isBlank ·) = true ∧ '.' ∉ label ∧ label ≠ apex)
    ⟨fun ⟨nonempty, solid, noDot, notApex⟩ =>
      ⟨nonempty, isSolid_iff_all.mpr solid, noDot, notApex⟩,
    fun isLabel =>
      ⟨isLabel.nonempty, isSolid_iff_all.mp isLabel.solid, isLabel.noDot, isLabel.notApex⟩⟩

/-- The absolute name of some labels, from the leftmost one on; without labels it is the root. -/
def absolute (labels : List Text) : Text :=
  joined ['.'] labels ++ ['.']

/--
Whether a name lies strictly below a zone, each given by its labels: behind the first labels of the
name come those of the zone, letter case aside.
-/
def IsBelow (zone labels : List Text) : Prop :=
  ∃ above base, labels = above ++ base ∧ above ≠ [] ∧ base.map fold = zone.map fold

variable {labels zone above base : List Text}

/-! ### The text of a name -/

/-- Labels are the fields of their joined text. -/
theorem fields_labels (named : ∀ label ∈ labels, IsLabel label) (some : labels ≠ []) :
    fields '.' (joined ['.'] labels) = labels :=
  fields_joined some fun label member => (named label member).noDot

/-- What stands between two dots of a name is a label. -/
theorem isLabel_of_mem_fields (named : ∀ label ∈ labels, IsLabel label) (some : labels ≠ [])
    {text field : Text} (shape : joined ['.'] labels = text) (member : field ∈ fields '.' text) :
    IsLabel field := by
  rw [← shape, fields_labels named some] at member
  exact named field member

theorem joined_eq_nil_iff (named : ∀ label ∈ labels, IsLabel label) :
    joined ['.'] labels = [] ↔ labels = [] := by
  constructor
  · intro empty
    by_contra some
    exact (isLabel_of_mem_fields named some empty List.mem_cons_self).nonempty rfl
  · rintro rfl
    rfl

theorem not_endsWithDot_joined (named : ∀ label ∈ labels, IsLabel label) :
    endsWithDot (joined ['.'] labels) = false := by
  apply Bool.eq_false_iff.mpr
  intro ends
  rcases endsWithDot_iff.mp ends with ⟨stem, shape⟩
  have some : labels ≠ [] := by
    rintro rfl
    cases ends
  have last : [] ∈ fields '.' (stem ++ ['.']) := by
    rw [fields_append_separator]
    exact List.mem_append_right _ List.mem_cons_self
  exact (isLabel_of_mem_fields named some shape last).nonempty rfl

theorem isSolid_joined (named : ∀ label ∈ labels, IsLabel label) :
    IsSolid (joined ['.'] labels) :=
  forall_mem_joined (isSolid_iff_all.mpr (by decide)) fun label member =>
    (named label member).solid

theorem joined_ne_apex (named : ∀ label ∈ labels, IsLabel label) :
    joined ['.'] labels ≠ apex := by
  intro same
  have some : labels ≠ [] := by
    rintro rfl
    cases same
  exact (isLabel_of_mem_fields named some same List.mem_cons_self).notApex rfl

/-- An absolute name without its dot is the joined text of its labels. -/
theorem trimEndDots_absolute (named : ∀ label ∈ labels, IsLabel label) :
    trimEndDots (absolute labels) = joined ['.'] labels := by
  rw [absolute, trimEndDots_append_dot,
    trimEndDots_of_not_endsWithDot (not_endsWithDot_joined named)]

theorem fold_absolute (labels : List Text) :
    fold (absolute labels) = fold (joined ['.'] labels) ++ ['.'] := by
  rw [absolute, fold_append]
  rfl

/-- Names are the same, letter case aside, exactly if their labels are. -/
theorem fold_joined_eq_iff (named : ∀ label ∈ labels, IsLabel label)
    (zoned : ∀ label ∈ zone, IsLabel label) :
    fold (joined ['.'] labels) = fold (joined ['.'] zone) ↔ labels.map fold = zone.map fold := by
  constructor
  · intro same
    by_cases root : labels = []
    · subst root
      have empty := (joined_eq_nil_iff zoned).mp (fold_eq_nil_iff.mp same.symm)
      rw [empty]
    · have other : zone ≠ [] := by
        rintro rfl
        exact root ((joined_eq_nil_iff named).mp (fold_eq_nil_iff.mp same))
      rw [← fields_labels named root, ← fields_labels zoned other, ← fields_fold, same, fields_fold]
  · intro same
    rw [fold_joined, same, fold_joined]

/-- Absolute names are equal up to letter case exactly if their labels are, one by one. -/
theorem fold_absolute_eq_iff (named : ∀ label ∈ labels, IsLabel label)
    (zoned : ∀ label ∈ zone, IsLabel label) :
    fold (absolute labels) = fold (absolute zone) ↔ labels.map fold = zone.map fold := by
  rw [fold_absolute, fold_absolute, List.append_left_inj, fold_joined_eq_iff named zoned]

/-! ### The relative form of a name -/

/-- Relative to the root a name only loses its dot. -/
theorem relativeTo_of_root {name origin : Text} (top : trimEndDots origin = []) :
    relativeTo name origin = trimEndDots name := by
  rw [relativeTo, top]
  rfl

/-- The origin relative to itself is the empty text, whatever its letter case. -/
theorem relativeTo_absolute_of_same (named : ∀ label ∈ labels, IsLabel label)
    (zoned : ∀ label ∈ zone, IsLabel label)
    (same : fold (absolute labels) = fold (absolute zone)) :
    relativeTo (absolute labels) (absolute zone) = [] := by
  rw [fold_absolute, fold_absolute, List.append_left_inj] at same
  by_cases top : trimEndDots (absolute zone) = []
  · rw [relativeTo_of_root top, trimEndDots_absolute named]
    rw [trimEndDots_absolute zoned] at top
    rw [top] at same
    exact fold_eq_nil_iff.mp same
  · apply relativeTo_of_same top
    rwa [trimEndDots_absolute named, trimEndDots_absolute zoned]

/-- The relative form of a name below a zone has the labels before those of the zone. -/
theorem relativeTo_absolute_of_below (named : ∀ label ∈ above ++ base, IsLabel label)
    (zoned : ∀ label ∈ zone, IsLabel label) (more : above ≠ [])
    (same : base.map fold = zone.map fold) :
    relativeTo (absolute (above ++ base)) (absolute zone) = joined ['.'] above := by
  have aboveNamed : ∀ label ∈ above, IsLabel label :=
    fun label member => named label (List.mem_append_left _ member)
  have baseNamed : ∀ label ∈ base, IsLabel label :=
    fun label member => named label (List.mem_append_right _ member)
  by_cases root : zone = []
  · subst root
    obtain rfl : base = [] := List.map_eq_nil_iff.mp same
    rw [List.append_nil, relativeTo_of_root (trimEndDots_absolute zoned),
      trimEndDots_absolute aboveNamed]
  · have rest : base ≠ [] := by
      rintro rfl
      exact root (List.map_eq_nil_iff.mp same.symm)
    have cut : trimEndDots (absolute (above ++ base)) =
        joined ['.'] above ++ '.' :: joined ['.'] base := by
      rw [trimEndDots_absolute named, joined_append more rest, List.singleton_append]
    have top : trimEndDots (absolute zone) ≠ [] := by
      rw [trimEndDots_absolute zoned]
      exact mt (joined_eq_nil_iff zoned).mp root
    have tails : fold (joined ['.'] base) = fold (trimEndDots (absolute zone)) := by
      rw [trimEndDots_absolute zoned]
      exact (fold_joined_eq_iff baseNamed zoned).mpr same
    rw [relativeTo_of_below cut (mt (joined_eq_nil_iff aboveNamed).mp more) top tails,
      trimEndDots_of_not_endsWithDot (not_endsWithDot_joined aboveNamed)]

/-- A name that is neither the origin nor below it keeps its absolute form. -/
theorem relativeTo_absolute_of_outside (named : ∀ label ∈ labels, IsLabel label)
    (zoned : ∀ label ∈ zone, IsLabel label)
    (other : fold (absolute labels) ≠ fold (absolute zone)) (outside : ¬ IsBelow zone labels) :
    relativeTo (absolute labels) (absolute zone) = absolute labels := by
  have distinct : labels.map fold ≠ zone.map fold := mt (fold_absolute_eq_iff named zoned).mpr other
  rcases relativeTo_cases (absolute labels) (absolute zone) with
    ⟨top, _⟩ | ⟨_, same, _⟩ | ⟨head, tail, cut, same, _, _⟩ | relative
  · rw [trimEndDots_absolute zoned] at top
    obtain rfl : zone = [] := (joined_eq_nil_iff zoned).mp top
    have some : labels ≠ [] := by
      rintro rfl
      exact distinct rfl
    exact absurd ⟨labels, [], (List.append_nil labels).symm, some, rfl⟩ outside
  · rw [trimEndDots_absolute named, trimEndDots_absolute zoned,
      fold_joined_eq_iff named zoned] at same
    exact absurd same distinct
  -- The dot that the cut leaves in front of the origin parts two labels, as every dot does.
  · rw [trimEndDots_absolute named] at cut
    rw [trimEndDots_absolute zoned] at same
    have some : labels ≠ [] := by
      rintro rfl
      exact List.append_ne_nil_of_right_ne_nil head (List.cons_ne_nil '.' tail) cut.symm
    have split : labels = fields '.' head ++ fields '.' tail := by
      rw [← fields_append_separator, ← cut, fields_labels named some]
    have rest : zone ≠ [] := by
      rintro rfl
      obtain rfl : tail = [] := fold_eq_nil_iff.mp same
      have last : [] ∈ labels := by
        rw [split]
        exact List.mem_append_right _ List.mem_cons_self
      exact (named [] last).nonempty rfl
    refine absurd ⟨fields '.' head, fields '.' tail, split, fields_ne_nil '.' head, ?_⟩ outside
    rw [← fields_fold, same, fields_fold, fields_labels zoned rest]
  · rw [relative, qualified_trimEndDots, trimEndDots_absolute named, absolute]

theorem not_isBelow_of_same (same : labels.map fold = zone.map fold) : ¬ IsBelow zone labels := by
  rintro ⟨above, base, rfl, more, tails⟩
  have sizes := congrArg List.length (same.trans tails.symm)
  have some := List.length_pos_iff.mpr more
  simp only [List.length_map, List.length_append] at sizes
  omega

/-! ### How a name stands to an origin -/

/-- The three ways in which a name of plain labels stands to a zone, with its relative form. -/
theorem relativeTo_absolute_cases (named : ∀ label ∈ labels, IsLabel label)
    (zoned : ∀ label ∈ zone, IsLabel label) :
    fold (absolute labels) = fold (absolute zone) ∧ ¬ IsBelow zone labels
        ∧ relativeTo (absolute labels) (absolute zone) = []
      ∨ fold (absolute labels) ≠ fold (absolute zone) ∧ IsBelow zone labels
        ∧ relativeTo (absolute labels) (absolute zone) ≠ []
        ∧ endsWithDot (relativeTo (absolute labels) (absolute zone)) = false
      ∨ fold (absolute labels) ≠ fold (absolute zone) ∧ ¬ IsBelow zone labels
        ∧ relativeTo (absolute labels) (absolute zone) = absolute labels := by
  by_cases same : fold (absolute labels) = fold (absolute zone)
  · exact .inl ⟨same, not_isBelow_of_same ((fold_absolute_eq_iff named zoned).mp same),
      relativeTo_absolute_of_same named zoned same⟩
  · right
    by_cases below : IsBelow zone labels
    · left
      refine ⟨same, below, ?_⟩
      rcases below with ⟨above, base, rfl, more, tails⟩
      have aboveNamed : ∀ label ∈ above, IsLabel label :=
        fun label member => named label (List.mem_append_left _ member)
      rw [relativeTo_absolute_of_below named zoned more tails]
      exact ⟨mt (joined_eq_nil_iff aboveNamed).mp more, not_endsWithDot_joined aboveNamed⟩
    · exact .inr ⟨same, below, relativeTo_absolute_of_outside named zoned same below⟩

theorem resolve_absolute (named : ∀ label ∈ labels, IsLabel label) (origin : Text) :
    resolve (absolute labels) origin = absolute labels :=
  resolve_of_endsWithDot
    ((isSolid_joined named).append (isSolid_iff_all.mpr (by decide))) (endsWithDot_append_dot _)
    origin

/-- Labels before a zone are put back before it. -/
theorem resolve_joined (named : ∀ label ∈ above, IsLabel label)
    (zoned : ∀ label ∈ zone, IsLabel label) (more : above ≠ []) :
    resolve (joined ['.'] above) (absolute zone) = absolute (above ++ zone) := by
  have some : joined ['.'] above ≠ [] := mt (joined_eq_nil_iff named).mp more
  rw [resolve_of_not_endsWithDot (isSolid_joined named) some (joined_ne_apex named)
    (not_endsWithDot_joined named), trimEndDots_absolute zoned]
  by_cases root : zone = []
  · subst root
    rw [List.append_nil, absolute]
    rfl
  · have closed : qualified (joined ['.'] zone) = joined ['.'] zone ++ ['.'] := by
      rw [qualified, not_endsWithDot_joined zoned]
      rfl
    rw [if_neg (mt (joined_eq_nil_iff zoned).mp root), closed, absolute, joined_append more root]
    simp only [List.append_assoc, List.cons_append, List.nil_append]

/-- The absolute form of the relative form of a name is the name, letter case aside. -/
theorem fold_resolve_absolute (named : ∀ label ∈ labels, IsLabel label)
    (zoned : ∀ label ∈ zone, IsLabel label) :
    fold (resolve (relativeTo (absolute labels) (absolute zone)) (absolute zone)) =
      fold (absolute labels) := by
  by_cases same : fold (absolute labels) = fold (absolute zone)
  · have closed : endsWithDot (absolute zone) = true := endsWithDot_append_dot _
    rw [relativeTo_absolute_of_same named zoned same, resolve_nil, qualified_of_endsWithDot closed,
      same]
  · by_cases below : IsBelow zone labels
    · rcases below with ⟨above, base, rfl, more, tails⟩
      have aboveNamed : ∀ label ∈ above, IsLabel label :=
        fun label member => named label (List.mem_append_left _ member)
      rw [relativeTo_absolute_of_below named zoned more tails,
        resolve_joined aboveNamed zoned more, fold_absolute, fold_absolute, fold_joined,
        fold_joined, List.map_append, List.map_append, tails]
    · rw [relativeTo_absolute_of_outside named zoned same below, resolve_absolute named]

/--
The relative form of a name tells how the name stands to the origin: it is empty for the origin
itself, has no dot at its end for a name below it, and is the name for any other.  Its absolute form
is the name, letter case aside, so no two names share their relative form.
-/
theorem relativeTo_absolute_exact (named : ∀ label ∈ labels, IsLabel label)
    (zoned : ∀ label ∈ zone, IsLabel label) :
    (relativeTo (absolute labels) (absolute zone) = [] ↔
        fold (absolute labels) = fold (absolute zone))
      ∧ (relativeTo (absolute labels) (absolute zone) ≠ []
          ∧ endsWithDot (relativeTo (absolute labels) (absolute zone)) = false ↔
        IsBelow zone labels)
      ∧ (relativeTo (absolute labels) (absolute zone) = absolute labels ↔
        fold (absolute labels) ≠ fold (absolute zone) ∧ ¬ IsBelow zone labels)
      ∧ fold (resolve (relativeTo (absolute labels) (absolute zone)) (absolute zone)) =
        fold (absolute labels)
      ∧ ∀ others, (∀ label ∈ others, IsLabel label) →
        relativeTo (absolute others) (absolute zone) =
          relativeTo (absolute labels) (absolute zone) →
        fold (absolute others) = fold (absolute labels) := by
  have closed : endsWithDot (absolute labels) = true := endsWithDot_append_dot _
  have nonempty : absolute labels ≠ [] := List.append_ne_nil_of_right_ne_nil _ (by simp)
  have restored := fold_resolve_absolute named zoned
  have told : ∀ others, (∀ label ∈ others, IsLabel label) →
      relativeTo (absolute others) (absolute zone) = relativeTo (absolute labels) (absolute zone) →
      fold (absolute others) = fold (absolute labels) := by
    intro others othersNamed equal
    rw [← fold_resolve_absolute othersNamed zoned, equal, restored]
  rcases relativeTo_absolute_cases named zoned with
    ⟨same, notBelow, relative⟩ | ⟨other, below, some, open_⟩ | ⟨other, notBelow, relative⟩
  · rw [relative] at restored told ⊢
    exact ⟨iff_of_true rfl same, iff_of_false (fun named => named.1 rfl) notBelow,
      iff_of_false nonempty.symm fun outside => outside.1 same, restored, told⟩
  · refine ⟨iff_of_false some other, iff_of_true ⟨some, open_⟩ below,
      iff_of_false ?_ fun outside => outside.2 below, restored, told⟩
    intro equal
    rw [equal, closed] at open_
    cases open_
  · rw [relative] at restored told ⊢
    refine ⟨iff_of_false nonempty other, iff_of_false ?_ notBelow,
      iff_of_true rfl ⟨other, notBelow⟩, restored, told⟩
    intro named
    cases closed.symm.trans named.2

theorem relativeTo_absolute_exact_of_host :
    (∀ label ∈ ["www".toList, "EXAMPLE".toList, "com".toList], IsLabel label)
      ∧ (∀ label ∈ ["example".toList, "com".toList], IsLabel label)
      ∧ absolute ["www".toList, "EXAMPLE".toList, "com".toList] = "www.EXAMPLE.com.".toList
      ∧ relativeTo "www.EXAMPLE.com.".toList "example.com.".toList ≠ []
      ∧ endsWithDot (relativeTo "www.EXAMPLE.com.".toList "example.com.".toList) = false
      ∧ fold (resolve (relativeTo "www.EXAMPLE.com.".toList "example.com.".toList)
          "example.com.".toList) = fold "www.EXAMPLE.com.".toList := by
  have named : ∀ label ∈ ["www".toList, "EXAMPLE".toList, "com".toList], IsLabel label := by
    decide
  have zoned : ∀ label ∈ ["example".toList, "com".toList], IsLabel label := by decide
  have below : IsBelow ["example".toList, "com".toList]
      ["www".toList, "EXAMPLE".toList, "com".toList] :=
    ⟨["www".toList], ["EXAMPLE".toList, "com".toList], rfl, by decide, by decide⟩
  rcases relativeTo_absolute_exact named zoned with ⟨_, isBelow, _, restored, _⟩
  rcases isBelow.mpr below with ⟨some, open_⟩
  exact ⟨named, zoned, by decide, some, open_, restored⟩

/-- Names that end in the text of the origin, but not in its labels, are outside of the zone. -/
example : relativeTo "notexample.com.".toList "example.com.".toList = "notexample.com.".toList := by
  decide

end Owner

end ZoneServices
