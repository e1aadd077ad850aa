import Mathlib.Data.List.TakeWhile
import ZoneServices.Text.Basic

/-!
# Words and margins

A word is a run of characters none of which is blank.  A line that is put together from words
with one space between them is cut into the same words again, and trimming a text that has no
blank at either end changes nothing.  The dots at the end of a name are treated alike, and so are
fields between the occurrences of a separator.
-/

namespace ZoneServices.Text

/-- A text without blanks. -/
def IsSolid (text : Text) : Prop :=
  ∀ character ∈ text, isBlank character = false

/-- A text with no blank at either end. -/
structure IsTrimmed (text : Text) : Prop where
  first : ∀ character, text.head? = some character → isBlank character = false
  last : ∀ character, text.getLast? = some character → isBlank character = false

theorem IsSolid.isTrimmed {text : Text} (solid : IsSolid text) : IsTrimmed text where
  first _ found := solid _ (List.mem_of_head? found)
  last _ found := solid _ (List.mem_of_getLast? found)

theorem IsSolid.append {left right : Text} (leftSolid : IsSolid left) (rightSolid : IsSolid right) :
    IsSolid (left ++ right) := by
  intro character member
  rcases List.mem_append.mp member with member | member
  · exact leftSolid character member
  · exact rightSolid character member

/-- What stands between two words is trimmed together with them. -/
theorem isTrimmed_append {left right : Text} (leftSolid : IsSolid left) (leftNonempty : left ≠ [])
    (middle : Text) (rightSolid : IsSolid right) (rightNonempty : right ≠ []) :
    IsTrimmed (left ++ middle ++ right) where
  first character found := by
    rcases List.exists_cons_of_ne_nil leftNonempty with ⟨head, rest, rfl⟩
    cases found
    exact leftSolid _ List.mem_cons_self
  last character found := by
    rcases (List.eq_nil_or_concat right).resolve_left rightNonempty with ⟨rest, last, rfl⟩
    rw [List.concat_eq_append, ← List.append_assoc, List.getLast?_concat] at found
    cases found
    exact rightSolid _ (by simp)

theorem isSolid_iff_all {text : Text} : IsSolid text ↔ text.all (!isBlank ·) = true := by
  simp [IsSolid]

theorem isSolid_cons {character : Char} {text : Text} :
    IsSolid (character :: text) ↔ isBlank character = false ∧ IsSolid text :=
  List.forall_mem_cons

/-! ## Ends of a text -/

theorem dropEndWhile_of_getLast? {ofClass : Char → Bool} {text : Text}
    (other : ∀ character, text.getLast? = some character → ofClass character = false) :
    dropEndWhile ofClass text = text := by
  rcases List.eq_nil_or_concat text with rfl | ⟨rest, last, rfl⟩
  · rfl
  · have kept := other last (by simp)
    simp [dropEndWhile, kept]

/-- One more character of the class at the end is dropped as well. -/
theorem dropEndWhile_append_of_class (ofClass : Char → Bool) {character : Char}
    (inClass : ofClass character = true) (text : Text) :
    dropEndWhile ofClass (text ++ [character]) = dropEndWhile ofClass text := by
  simp [dropEndWhile, inClass]

/-- What is left does not end in the class. -/
theorem getLast?_dropEndWhile {ofClass : Char → Bool} {text : Text} {character : Char}
    (last : (dropEndWhile ofClass text).getLast? = some character) :
    ofClass character = false := by
  rw [dropEndWhile, List.getLast?_reverse] at last
  have stopped := List.head?_dropWhile_not ofClass text.reverse
  rwa [last] at stopped

/-- What is left begins as the text did. -/
theorem head?_dropEndWhile {ofClass : Char → Bool} {text : Text} {character : Char}
    (first : (dropEndWhile ofClass text).head? = some character) :
    text.head? = some character := by
  rcases List.dropWhile_suffix ofClass (l := text.reverse) with ⟨dropped, cut⟩
  rw [dropEndWhile, List.head?_reverse] at first
  rw [← List.getLast?_reverse, ← cut, List.getLast?_append, first]
  rfl

/-- No character outside the class is lost. -/
theorem mem_dropEndWhile {ofClass : Char → Bool} {text : Text} {character : Char}
    (member : character ∈ text) (other : ofClass character = false) :
    character ∈ dropEndWhile ofClass text := by
  have cut := List.takeWhile_append_dropWhile (p := ofClass) (l := text.reverse)
  have inCut : character ∈ text.reverse := List.mem_reverse.mpr member
  rw [← cut] at inCut
  rw [dropEndWhile, List.mem_reverse]
  rcases List.mem_append.mp inCut with taken | dropped
  · have inClass := List.all_eq_true.mp List.all_takeWhile character taken
    rw [inClass] at other
    cases other
  · exact dropped

theorem trim_of_isTrimmed {text : Text} (trimmed : IsTrimmed text) : trim text = text := by
  have front : text.dropWhile isBlank = text := by
    cases text with
    | nil => rfl
    | cons character rest =>
        rw [List.dropWhile_cons_of_neg]
        rw [trimmed.first character rfl]
        exact Bool.false_ne_true
  rw [trim, front, dropEndWhile_of_getLast? trimmed.last]

theorem isTrimmed_trim (text : Text) : IsTrimmed (trim text) where
  first character found := by
    have stopped := List.head?_dropWhile_not isBlank text
    rwa [head?_dropEndWhile found] at stopped
  last _ found := getLast?_dropEndWhile found

/-- A text trims to nothing exactly if it is all blank. -/
theorem trim_eq_nil_iff {text : Text} :
    trim text = [] ↔ ∀ character ∈ text, isBlank character = true := by
  rw [trim, dropEndWhile, List.reverse_eq_nil_iff, List.dropWhile_eq_nil_iff]
  constructor
  · intro blank character member
    rw [← List.takeWhile_append_dropWhile (p := isBlank) (l := text)] at member
    rcases List.mem_append.mp member with taken | dropped
    · exact List.all_eq_true.mp List.all_takeWhile character taken
    · exact blank character (List.mem_reverse.mpr dropped)
  · intro blank character member
    exact blank character ((List.dropWhile_sublist isBlank).subset (List.mem_reverse.mp member))

/-! ## Dots -/

@[simp]
theorem endsWithDot_append_dot (text : Text) : endsWithDot (text ++ ['.']) = true := by
  simp [endsWithDot]

/-- A text ends with a dot if it is some stem before one. -/
theorem endsWithDot_iff {text : Text} : endsWithDot text = true ↔ ∃ stem, text = stem ++ ['.'] := by
  constructor
  · intro ends
    exact List.getLast?_eq_some_iff.mp (beq_iff_eq.mp ends)
  · rintro ⟨stem, rfl⟩
    exact endsWithDot_append_dot stem

theorem trimEndDots_of_not_endsWithDot {text : Text} (open_ : endsWithDot text = false) :
    trimEndDots text = text := by
  apply dropEndWhile_of_getLast?
  intro character last
  simpa [endsWithDot, last] using open_

/-- One more dot at the end is trimmed as well. -/
@[simp]
theorem trimEndDots_append_dot (text : Text) :
    trimEndDots (text ++ ['.']) = trimEndDots text :=
  dropEndWhile_append_of_class (· == '.') (beq_self_eq_true '.') text

theorem endsWithDot_append_cons {front text : Text} (nonempty : text ≠ []) :
    endsWithDot (front ++ '.' :: text) = endsWithDot text := by
  rcases (List.eq_nil_or_concat text).resolve_left nonempty with ⟨stem, last, rfl⟩
  rw [List.concat_eq_append, ← List.cons_append, ← List.append_assoc, endsWithDot, endsWithDot,
    List.getLast?_concat, List.getLast?_concat]

/-! ## Words of a text -/

theorem nextWord?_of_isBlank {blank : Char} (isBlank_blank : isBlank blank = true) (text : Text) :
    nextWord? (blank :: text) = nextWord? text := by
  simp [nextWord?, isBlank_blank]

/-- A word at the front of a text, up to a blank, is the next word. -/
theorem nextWord?_append {word : Text} (solid : IsSolid word) (nonempty : word ≠ [])
    {blank : Char} (isBlank_blank : isBlank blank = true) (rest : Text) :
    nextWord? (word ++ blank :: rest) = some (word, blank :: rest) := by
  rcases List.exists_cons_of_ne_nil nonempty with ⟨character, others, rfl⟩
  have first := (isSolid_cons.mp solid).1
  have solid' : ∀ other ∈ character :: others, (!isBlank other) = true := by
    intro other member
    rw [solid other member]
    rfl
  rw [nextWord?, List.cons_append, List.dropWhile_cons_of_neg (by simp [first])]
  dsimp only
  rw [← List.cons_append, List.takeWhile_append_of_pos solid', List.dropWhile_append_of_pos solid']
  simp [isBlank_blank]

/-- A word that is found is solid and not empty. -/
theorem isSolid_of_nextWord? {text word rest : Text} (found : nextWord? text = some (word, rest)) :
    IsSolid word ∧ word ≠ [] := by
  have stopped := List.head?_dropWhile_not isBlank text
  unfold nextWord? at found
  split at found
  · cases found
  · rename_i start cut
    cases found
    constructor
    · intro character member
      simpa using List.all_eq_true.mp (List.all_takeWhile (l := _)) character member
    · cases begin : text.dropWhile isBlank with
      | nil => exact absurd begin cut
      | cons character others =>
          rw [begin] at stopped
          simp_all

/-- The words of a text that starts with a word up to a blank. -/
theorem words_append {word : Text} (solid : IsSolid word) (nonempty : word ≠ [])
    {blank : Char} (isBlank_blank : isBlank blank = true) (rest : Text) :
    words (word ++ blank :: rest) = word :: words rest := by
  induction word with
  | nil => exact absurd rfl nonempty
  | cons character others step =>
      rcases isSolid_cons.mp solid with ⟨first, others_solid⟩
      cases others with
      | nil =>
          rw [List.singleton_append, words]
          simp [first, isBlank_blank, words]
      | cons following more =>
          have second := (isSolid_cons.mp others_solid).1
          have inner := step others_solid (by simp)
          rw [List.cons_append] at inner
          rw [List.cons_append, List.cons_append, words]
          simp [first, second, inner]

/-- A solid text is a single word. -/
theorem words_of_isSolid {word : Text} (solid : IsSolid word) (nonempty : word ≠ []) :
    words word = [word] := by
  induction word with
  | nil => exact absurd rfl nonempty
  | cons character others step =>
      rcases isSolid_cons.mp solid with ⟨first, others_solid⟩
      cases others with
      | nil => simp [words, first]
      | cons following more =>
          have second := (isSolid_cons.mp others_solid).1
          have inner := step others_solid (by simp)
          rw [words]
          simp [first, second, inner]

/-- Every word of a text is solid and not empty. -/
theorem mem_words {text word : Text} (member : word ∈ words text) :
    IsSolid word ∧ word ≠ [] := by
  fun_induction words text generalizing word with
  | case1 => cases member
  | case2 character rest blank step => exact step member
  | case3 character blank =>
      rw [List.mem_singleton] at member
      subst member
      exact ⟨isSolid_cons.mpr ⟨Bool.eq_false_iff.mpr blank, by simp [IsSolid]⟩, by simp⟩
  | case4 character blank following more followingBlank step =>
      rcases List.mem_cons.mp member with rfl | member
      · exact ⟨isSolid_cons.mpr ⟨Bool.eq_false_iff.mpr blank, by simp [IsSolid]⟩, by simp⟩
      · exact step member
  | case5 character blank following more followingBlank none step =>
      rw [none, List.mem_singleton] at member
      subst member
      exact ⟨isSolid_cons.mpr ⟨Bool.eq_false_iff.mpr blank, by simp [IsSolid]⟩, by simp⟩
  | case6 character blank following more followingBlank head others split step =>
      rw [split] at member
      rcases List.mem_cons.mp member with rfl | member
      · have inner := step (split ▸ List.mem_cons_self)
        exact ⟨isSolid_cons.mpr ⟨Bool.eq_false_iff.mpr blank, inner.1⟩, by simp⟩
      · exact step (split ▸ List.mem_cons_of_mem _ member)

/-- Only blanks are lost when a text is cut into words. -/
theorem flatten_words (text : Text) : (words text).flatten = text.filter (!isBlank ·) := by
  fun_induction words text with
  | case1 => rfl
  | case2 character rest blank step => simp [blank, step]
  | case3 character blank => simp [blank]
  | case4 character blank following more followingBlank step => simp [blank, step]
  | case5 character blank following more followingBlank none step =>
      rw [none] at step ⊢
      simp [blank, ← step]
  | case6 character blank following more followingBlank head others split step =>
      rw [split] at step ⊢
      simp [blank, ← step]

/-- Only a text that is all blank has no word. -/
theorem words_eq_nil_iff {text : Text} :
    words text = [] ↔ ∀ character ∈ text, isBlank character = true := by
  fun_induction words text with
  | case1 => simp
  | case2 character rest blank step => simp [blank, step]
  | case3 character blank => simp [blank]
  | case4 character blank following more followingBlank step => simp [blank]
  | case5 character blank following more followingBlank none step => simp [none, blank]
  | case6 character blank following more followingBlank head others split step =>
      simp [split, blank]

/-! ## Fields between separators -/

theorem fields_ne_nil (separator : Char) (text : Text) : fields separator text ≠ [] := by
  fun_cases fields separator text <;> simp

/-- A separator cuts a text into two, whose fields stand one after the other. -/
theorem fields_append_separator (separator : Char) (left right : Text) :
    fields separator (left ++ separator :: right) =
      fields separator left ++ fields separator right := by
  fun_induction fields separator left with
  | case1 => rw [List.nil_append, fields, if_pos rfl, List.singleton_append]
  | case2 rest step => rw [List.cons_append, fields, if_pos rfl, step, List.cons_append]
  | case3 character rest different none step =>
      exact absurd none (fields_ne_nil separator rest)
  | case4 character rest different head others split step =>
      rw [List.cons_append, fields, if_neg different, step, split]
      rfl

theorem fields_of_not_mem {separator : Char} {field : Text} (free : separator ∉ field) :
    fields separator field = [field] := by
  induction field with
  | nil => rfl
  | cons character others step =>
      rcases List.ne_and_not_mem_of_not_mem_cons free with ⟨other, free⟩
      rw [fields, if_neg other.symm, step free]

/-- The first field ends at the first separator. -/
theorem fields_append {separator : Char} {field : Text} (free : separator ∉ field) (rest : Text) :
    fields separator (field ++ separator :: rest) = field :: fields separator rest := by
  rw [fields_append_separator, fields_of_not_mem free]
  rfl

theorem joined_cons {separator : Text} (piece : Text) {pieces : List Text} (more : pieces ≠ []) :
    joined separator (piece :: pieces) = piece ++ (separator ++ joined separator pieces) := by
  rw [joined, List.intercalate_cons_of_ne_nil more, List.append_assoc]
  rfl

theorem joined_singleton (separator piece : Text) : joined separator [piece] = piece :=
  List.intercalate_singleton

/-- Pieces without the separator are the fields of the text that they make with it. -/
theorem fields_joined {separator : Char} {pieces : List Text} (some : pieces ≠ [])
    (free : ∀ piece ∈ pieces, separator ∉ piece) :
    fields separator (joined [separator] pieces) = pieces := by
  induction pieces with
  | nil => exact absurd rfl some
  | cons first others step =>
      rcases List.forall_mem_cons.mp free with ⟨firstFree, othersFree⟩
      by_cases alone : others = []
      · subst alone
        rw [joined_singleton, fields_of_not_mem firstFree]
      · rw [joined_cons first alone, List.singleton_append, fields_append firstFree,
          step alone othersFree]

/-- What holds of the characters of some pieces and of a separator holds in the joined text. -/
theorem forall_mem_joined {property : Char → Prop} {separator : Text} {pieces : List Text}
    (ofSeparator : ∀ character ∈ separator, property character)
    (ofPieces : ∀ piece ∈ pieces, ∀ character ∈ piece, property character) :
    ∀ character ∈ joined separator pieces, property character := by
  induction pieces with
  | nil => exact fun character member => absurd member List.not_mem_nil
  | cons first others step =>
      rcases List.forall_mem_cons.mp ofPieces with ⟨ofFirst, ofOthers⟩
      by_cases alone : others = []
      · subst alone
        rwa [joined_singleton]
      · rw [joined_cons first alone]
        intro character member
        rcases List.mem_append.mp member with member | member
        · exact ofFirst character member
        · rcases List.mem_append.mp member with member | member
          · exact ofSeparator character member
          · exact step ofOthers character member

/-- Every other character of a text is in one of its fields. -/
theorem exists_mem_fields (separator : Char) {character : Char}
    (other : character ≠ separator) {text : Text} (member : character ∈ text) :
    ∃ field ∈ fields separator text, character ∈ field := by
  fun_induction fields separator text with
  | case1 => cases member
  | case2 rest step =>
      rcases List.mem_cons.mp member with same | member
      · exact absurd same other
      · rcases step member with ⟨field, inRest, found⟩
        exact ⟨field, List.mem_cons_of_mem _ inRest, found⟩
  | case3 first rest different none step =>
      rcases List.mem_cons.mp member with rfl | member
      · exact ⟨[character], List.mem_singleton.mpr rfl, List.mem_singleton.mpr rfl⟩
      · rcases step member with ⟨field, inRest, found⟩
        rw [none] at inRest
        cases inRest
  | case4 first rest different head others split step =>
      rcases List.mem_cons.mp member with rfl | member
      · exact ⟨character :: head, List.mem_cons_self, List.mem_cons_self⟩
      · rcases step member with ⟨field, inRest, found⟩
        rw [split] at inRest
        rcases List.mem_cons.mp inRest with rfl | inOthers
        · exact ⟨first :: field, List.mem_cons_self, List.mem_cons_of_mem _ found⟩
        · exact ⟨field, List.mem_cons_of_mem _ inOthers, found⟩

end ZoneServices.Text
