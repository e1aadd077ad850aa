import ZoneServices.Proofs.Text.Word

/-!
# Words and the blanks around them

A text falls into words and runs of blanks.  The next word of a text is told by how the text is put
together: blanks, the word, and a rest that starts with a blank if there is one.  Trimming takes the
blanks from both ends and nothing else.  So what a reader of words does can be said of the texts
that it reads, without the reader.
-/

namespace ZoneServices.Text

/-- A text of blanks alone, which may be empty. -/
def IsMargin (text : Text) : Prop :=
  ∀ character ∈ text, isBlank character = true

/-- What stands between two words. -/
structure IsGap (text : Text) : Prop where
  margin : IsMargin text
  nonempty : text ≠ []

/-- Whether a text is a word, which is not empty and has no blanks. -/
structure IsWord (word : Text) : Prop where
  solid : IsSolid word
  nonempty : word ≠ []

/-- A text that a word may end in front of. -/
def IsBehindWord (text : Text) : Prop :=
  ∀ character, text.head? = some character → isBlank character = true

theorem IsWord.exists_cons {word : Text} (isWord : IsWord word) :
    ∃ character rest, word = character :: rest ∧ isBlank character = false := by
  rcases List.exists_cons_of_ne_nil isWord.nonempty with ⟨character, rest, rfl⟩
  exact ⟨character, rest, rfl, isWord.solid character List.mem_cons_self⟩

theorem IsGap.isBehindWord {gap : Text} (isGap : IsGap gap) (rest : Text) :
    IsBehindWord (gap ++ rest) := by
  rcases List.exists_cons_of_ne_nil isGap.nonempty with ⟨character, others, rfl⟩
  intro first found
  cases found
  exact isGap.margin character List.mem_cons_self

/-- Blanks in front of what is no blank, behind a word, are a gap. -/
theorem IsMargin.isGap {margin rest : Text} (isMargin : IsMargin margin)
    (behind : IsBehindWord (margin ++ rest)) {character : Char}
    (first : rest.head? = some character) (solid : isBlank character = false) : IsGap margin where
  margin := isMargin
  nonempty := by
    rintro rfl
    rw [behind character first] at solid
    cases solid

/-! ## Ends of a text -/

theorem dropWhile_margin {margin : Text} (isMargin : IsMargin margin) (rest : Text) :
    (margin ++ rest).dropWhile isBlank = rest.dropWhile isBlank :=
  List.dropWhile_append_of_pos isMargin

theorem dropEndWhile_margin {margin : Text} (isMargin : IsMargin margin) (text : Text) :
    dropEndWhile isBlank (text ++ margin) = dropEndWhile isBlank text := by
  have reversed : ∀ character ∈ margin.reverse, isBlank character = true :=
    fun character member => isMargin character (List.mem_reverse.mp member)
  rw [dropEndWhile, List.reverse_append, List.dropWhile_append_of_pos reversed, dropEndWhile]

/-- Trimming takes the blanks around a payload away. -/
theorem trim_margins {before payload after : Text} (isBefore : IsMargin before)
    (trimmed : IsTrimmed payload) (isAfter : IsMargin after) :
    trim (before ++ (payload ++ after)) = payload := by
  rw [trim, dropWhile_margin isBefore]
  by_cases empty : payload = []
  · subst empty
    have none : after.dropWhile isBlank = [] := List.dropWhile_eq_nil_iff.mpr isAfter
    rw [List.nil_append, none]
    rfl
  · rcases List.exists_cons_of_ne_nil empty with ⟨character, rest, rfl⟩
    have solid := trimmed.first character rfl
    rw [List.cons_append, List.dropWhile_cons_of_neg (by simp [solid]), ← List.cons_append,
      dropEndWhile_margin isAfter, dropEndWhile_of_getLast? trimmed.last]

/-- What trimming takes away is blank. -/
theorem exists_margins (text : Text) :
    ∃ before after, IsMargin before ∧ IsMargin after ∧ text = before ++ (trim text ++ after) := by
  have front := List.takeWhile_append_dropWhile (p := isBlank) (l := text)
  have back := List.takeWhile_append_dropWhile (p := isBlank)
    (l := (text.dropWhile isBlank).reverse)
  refine ⟨text.takeWhile isBlank, ((text.dropWhile isBlank).reverse.takeWhile isBlank).reverse,
    ?_, ?_, ?_⟩
  · exact List.all_eq_true.mp List.all_takeWhile
  · intro character member
    exact List.all_eq_true.mp List.all_takeWhile character (List.mem_reverse.mp member)
  · have whole := congrArg List.reverse back
    rw [List.reverse_append, List.reverse_reverse] at whole
    rw [trim, dropEndWhile, whole, front]

/-! ## The next word -/

/-- A word behind blanks, up to a blank or to the end, is the next word. -/
theorem nextWord?_margin {margin word rest : Text} (isMargin : IsMargin margin)
    (isWord : IsWord word) (behind : IsBehindWord rest) :
    nextWord? (margin ++ (word ++ rest)) = some (word, rest) := by
  have solid : ∀ character ∈ word, (!isBlank character) = true := by
    intro character member
    rw [isWord.solid character member]
    rfl
  have start : (margin ++ (word ++ rest)).dropWhile isBlank = word ++ rest := by
    rcases isWord.exists_cons with ⟨character, others, rfl, notBlank⟩
    rw [dropWhile_margin isMargin, List.cons_append,
      List.dropWhile_cons_of_neg (by simp [notBlank])]
  have stop : rest.takeWhile (!isBlank ·) = [] ∧ rest.dropWhile (!isBlank ·) = rest := by
    cases rest with
    | nil => exact ⟨rfl, rfl⟩
    | cons blank others =>
        have isBlank_blank := behind blank rfl
        simp [isBlank_blank]
  rw [nextWord?, start]
  split
  · rename_i none
    exact absurd (List.append_eq_nil_iff.mp none).1 isWord.nonempty
  · rw [List.takeWhile_append_of_pos solid, List.dropWhile_append_of_pos solid, stop.1, stop.2,
      List.append_nil]

/-- The next word of a text stands behind blanks, up to a blank or to the end. -/
theorem exists_margin_of_nextWord? {text word rest : Text}
    (found : nextWord? text = some (word, rest)) :
    IsWord word ∧ IsBehindWord rest
      ∧ ∃ margin, IsMargin margin ∧ text = margin ++ (word ++ rest) := by
  have isWord := isSolid_of_nextWord? found
  have whole := List.takeWhile_append_dropWhile (p := isBlank) (l := text)
  unfold nextWord? at found
  split at found
  · cases found
  · rename_i start cut
    cases found
    refine ⟨⟨isWord.1, isWord.2⟩, ?_, text.takeWhile isBlank, ?_, ?_⟩
    · intro character first
      have stopped := List.head?_dropWhile_not (!isBlank ·) (text.dropWhile isBlank)
      rw [first] at stopped
      simpa using stopped
    · exact List.all_eq_true.mp List.all_takeWhile
    · rw [List.takeWhile_append_dropWhile, whole]

/-- Behind a word the next one stands behind a gap. -/
theorem exists_gap_of_nextWord? {text word rest : Text} (behind : IsBehindWord text)
    (found : nextWord? text = some (word, rest)) :
    IsWord word ∧ IsBehindWord rest ∧ ∃ gap, IsGap gap ∧ text = gap ++ (word ++ rest) := by
  rcases exists_margin_of_nextWord? found with ⟨isWord, restBehind, margin, isMargin, rfl⟩
  rcases isWord.exists_cons with ⟨character, others, rfl, solid⟩
  exact ⟨isWord, restBehind, margin, isMargin.isGap behind rfl solid, rfl⟩

end ZoneServices.Text
