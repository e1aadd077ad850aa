import ZoneServices.Kind.Challenge
import ZoneServices.Proofs.Analysis.Classification
import ZoneServices.Proofs.CharacterString
import ZoneServices.Proofs.Name.Owner
import ZoneServices.Proofs.Text.Slice

/-!
# Slices that are always there

Names and texts are cut at offsets that come from somewhere else: from the size of an origin, of a
prefix or of a suffix, from a running count of octets, or from the filter that has selected a
record.  A slice at such an offset is there only if the offset is a boundary of the text that is
cut.  This module writes each of the cutting functions once more with the offsets and guards that
they are run with and with slices that may fail, and shows that none of them does: on every text
they succeed, with the result of the function that cuts by characters.
-/

namespace ZoneServices

open Text

/-! ## Names relative to an origin -/

/-- `Owner.relativeTo` by slices. -/
def Owner.slicedRelativeTo? (name origin : Text) : Option Text :=
  let name := trimEndDots name
  let origin := trimEndDots origin
  if origin.isEmpty then
    some name
  else if sameFolded name origin then
    some []
  else
    let split := octetSize name - octetSize origin
    if octetSize origin + 1 < octetSize name && isBoundary name split then do
      let head ← slice? name 0 split
      let tail ← slice? name split (octetSize name)
      if sameFolded tail origin && endsWithDot head then
        return trimEndDots head
      else
        return qualified name
    else
      some (qualified name)

/-- A text that ends with a dot has another character just if it has another octet. -/
theorem one_lt_octetSize_iff {text : Text} (ends : endsWithDot text = true) :
    1 < octetSize text ↔ 1 < text.length := by
  rcases endsWithDot_iff.mp ends with ⟨stem, rfl⟩
  have dot : octetSize ['.'] = 1 := rfl
  have empty : octetSize stem = 0 ↔ stem = [] := octetSize_eq_zero_iff
  rw [← List.length_eq_zero_iff] at empty
  rw [octetSize_append, dot, List.length_append, List.length_singleton]
  omega

/-- No slice fails when a name is made relative to an origin. -/
theorem Owner.slicedRelativeTo?_eq (name origin : Text) :
    slicedRelativeTo? name origin = some (relativeTo name origin) := by
  rw [slicedRelativeTo?, relativeTo]
  dsimp only
  generalize trimEndDots name = name
  generalize trimEndDots origin = origin
  rw [isBoundary_eq_isSome]
  split
  · rfl
  · split
    · rfl
    · cases cut : splitAtOctet? name (octetSize name - octetSize origin) with
      | none => simp
      | some halves =>
          rcases halves with ⟨head, tail⟩
          rcases splitAtOctet?_eq_some_iff.mp cut with ⟨whole, size⟩
          have first : slice? name 0 (octetSize head) = some head := by
            rw [whole, slice?_head]
          have second : slice? name (octetSize head) (octetSize name) = some tail := by
            rw [whole, slice?_tail]
          rw [← size, first, second]
          simp only [Option.isSome_some, Bool.and_true, Option.bind_eq_bind, Option.bind_some,
            Option.pure_def]
          by_cases below : sameFolded tail origin = true ∧ endsWithDot head = true
          · have long : octetSize origin + 1 < octetSize name ↔ 1 < head.length := by
              rw [← one_lt_octetSize_iff below.2, whole, octetSize_append,
                octetSize_eq_of_fold_eq (sameFolded_iff.mp below.1)]
              omega
            rw [below.1, below.2, Bool.and_self, if_pos rfl, Bool.and_true, Bool.and_true,
              decide_eq_decide.mpr long]
            exact (apply_ite some _ _ _).symm
          · have apart : (sameFolded tail origin && endsWithDot head) = false := by
              rwa [Bool.eq_false_iff, Ne, Bool.and_eq_true]
            rw [apart, Bool.and_assoc, apart, Bool.and_false]
            exact ite_self _

/-! ## Starts and ends of names -/

namespace RecordFilter

/-- `startsWithFolded` by slices. -/
def slicedStartsWith? (text start : Text) : Option Bool :=
  if octetSize start ≤ octetSize text && isBoundary text (octetSize start) then do
    let head ← slice? text 0 (octetSize start)
    return sameFolded head start
  else
    some false

/-- `endsWithFolded` by slices. -/
def slicedEndsWith? (text ending : Text) : Option Bool :=
  if octetSize ending ≤ octetSize text then
    let start := octetSize text - octetSize ending
    if isBoundary text start then do
      let tail ← slice? text start (octetSize text)
      return sameFolded tail ending
    else
      some false
  else
    some false

theorem slicedStartsWith?_eq (text start : Text) :
    slicedStartsWith? text start = some (startsWithFolded text start) := by
  rw [slicedStartsWith?, startsWithFolded, isBoundary_eq_isSome]
  cases cut : splitAtOctet? text (octetSize start) with
  | none => simp
  | some halves =>
      rcases halves with ⟨head, tail⟩
      rcases splitAtOctet?_eq_some_iff.mp cut with ⟨rfl, size⟩
      rw [← size, slice?_head, octetSize_append]
      simp

theorem slicedEndsWith?_eq (text ending : Text) :
    slicedEndsWith? text ending = some (endsWithFolded text ending) := by
  simp only [slicedEndsWith?, endsWithFolded, isBoundary_eq_isSome]
  by_cases short : octetSize ending ≤ octetSize text
  · rw [if_pos short]
    cases cut : splitAtOctet? text (octetSize text - octetSize ending) with
    | none => simp [short]
    | some halves =>
        rcases halves with ⟨head, tail⟩
        rcases splitAtOctet?_eq_some_iff.mp cut with ⟨rfl, size⟩
        rw [← size, slice?_tail, decide_eq_true short]
        rfl
  · simp [short]

end RecordFilter

/-! ## Words -/

namespace Text

/-- Offset of the first blank of a text. -/
def blankOffset? : Text → Option Nat
  | [] => none
  | character :: rest =>
    if isBlank character then some 0 else (blankOffset? rest).map (character.utf8Size + ·)

/-- `nextWord?` by slices. -/
def slicedNextWord? (text : Text) : Option (Option (Text × Text)) :=
  let start := text.dropWhile isBlank
  if start.isEmpty then
    some none
  else do
    let stop := (blankOffset? start).getD (octetSize start)
    let word ← slice? start 0 stop
    let rest ← slice? start stop (octetSize start)
    return some (word, rest)

/-- The first blank is found at the octet behind the first word. -/
theorem blankOffset?_getD (text : Text) :
    (blankOffset? text).getD (octetSize text) = octetSize (text.takeWhile (!isBlank ·)) := by
  induction text with
  | nil => rfl
  | cons character rest step =>
      rw [blankOffset?, List.takeWhile_cons, octetSize]
      cases isBlank character with
      | true => rfl
      | false =>
          have behind : ((blankOffset? rest).map (character.utf8Size + ·)).getD
              (character.utf8Size + octetSize rest) =
                character.utf8Size + (blankOffset? rest).getD (octetSize rest) := by
            cases blankOffset? rest <;> rfl
          exact behind.trans (congrArg (character.utf8Size + ·) step)

theorem slicedNextWord?_eq (text : Text) : slicedNextWord? text = some (nextWord? text) := by
  rw [slicedNextWord?, nextWord?]
  cases start : text.dropWhile isBlank with
  | nil => rfl
  | cons character rest =>
      have cut := List.takeWhile_append_dropWhile (p := (!isBlank ·)) (l := character :: rest)
      have first := slice?_head ((character :: rest).takeWhile (!isBlank ·))
        ((character :: rest).dropWhile (!isBlank ·))
      have second := slice?_tail ((character :: rest).takeWhile (!isBlank ·))
        ((character :: rest).dropWhile (!isBlank ·))
      rw [cut] at first second
      simp [blankOffset?_getD, first, second]

end Text

/-! ## Texts longer than a string -/

namespace CharacterString

/--
The pieces of a text, cut by one turn for each character: those that are complete, where the
running one starts, and where the character stands.
-/
def slicedPieces? (text : Text) :
    (rest : Text) → (pieces : List Text) → (start offset : Nat) → Option (List Text)
  | [], pieces, start, _ =>
    if start < octetSize text || pieces.isEmpty then do
      return pieces ++ [← slice? text start (octetSize text)]
    else
      some pieces
  | character :: rest, pieces, start, offset =>
    if sizeLimit < offset + character.utf8Size - start then do
      let piece ← slice? text start offset
      slicedPieces? text rest (pieces ++ [piece]) offset (offset + character.utf8Size)
    else
      slicedPieces? text rest pieces start (offset + character.utf8Size)

/-- `writeText` by slices. -/
def slicedWriteText? (text : Text) : Option Text := do
  let pieces ← slicedPieces? text text [] 0 0
  return writeAll (pieces.map Utf8.encode)

/-- The running piece always fits, and it is empty only before the first character. -/
theorem slicedPieces?_eq (rest before current : Text) (pieces : List Text)
    (fits : octetSize current ≤ sizeLimit) (begun : current = [] → pieces = []) :
    slicedPieces? (before ++ current ++ rest) rest pieces (octetSize before)
        (octetSize (before ++ current)) =
      some (pieces ++ ofText (current ++ rest)) := by
  -- `before` is what was cut already, `current` the running piece between the two offsets.
  induction rest generalizing before current pieces with
  | nil =>
      rw [List.append_nil, List.append_nil, slicedPieces?, slice?_tail, octetSize_append,
        ofText_of_fits fits]
      by_cases empty : current = []
      · rw [begun empty]
        simp
      · have positive : 0 < octetSize current :=
          Nat.pos_of_ne_zero (mt octetSize_eq_zero_iff.mp empty)
        simp [positive]
  | cons character rest step =>
      have small := character.utf8Size_le_four
      have alone : octetSize [character] = character.utf8Size := rfl
      have size : octetSize (before ++ current) = octetSize before + octetSize current :=
        octetSize_append before current
      have limit : sizeLimit = 255 := rfl
      rw [slicedPieces?]
      by_cases full : sizeLimit < octetSize current + character.utf8Size
      · have nonempty : current ≠ [] := by
          rintro rfl
          rw [octetSize] at full
          omega
        have sliced := slice?_append before current (character :: rest)
        rw [← octetSize_append] at sliced
        have next := step (before ++ current) [character] (pieces ++ [current]) (by omega)
          fun empty => absurd empty (List.cons_ne_nil _ _)
        rw [octetSize_append _ [character], alone, List.append_assoc _ [character],
          List.singleton_append, List.append_assoc pieces] at next
        rw [if_pos (by omega), sliced, ofText_append nonempty fits full]
        exact next
      · have next := step before (current ++ [character]) pieces
          (by rw [octetSize_append]; omega) fun empty => absurd empty (by simp)
        rw [← List.append_assoc, octetSize_append _ [character], alone,
          List.append_assoc _ [character], List.append_assoc current, List.singleton_append] at next
        rw [if_neg (by omega)]
        exact next

/-- No slice fails when a text is cut into strings. -/
theorem slicedWriteText?_eq (text : Text) : slicedWriteText? text = some (writeText text) := by
  have pieces : slicedPieces? text text [] 0 0 = some (ofText text) :=
    slicedPieces?_eq text [] [] [] (Nat.zero_le _) fun _ => rfl
  rw [slicedWriteText?, pieces]
  rfl

end CharacterString

/-! ## Owners of challenges -/

namespace Challenge

/-- The names that some records with a challenge stand for, by slices of their owners. -/
def slicedNames? (found : List (Nat × Record)) : Option (List Text) :=
  found.mapM fun entry => slice? entry.2.owner (octetSize ownerStart) (octetSize entry.2.owner)

/-- An owner can be cut behind a start that it has up to letter case. -/
theorem slice?_of_startsWithFolded {owner start : Text}
    (starts : RecordFilter.startsWithFolded owner start = true) :
    slice? owner (octetSize start) (octetSize owner) = some (owner.drop start.length) := by
  rcases startsWithFolded_iff.mp starts with ⟨head, tail, rfl, same⟩
  have length := congrArg List.length same
  rw [length_fold, length_fold] at length
  rw [← octetSize_eq_of_fold_eq same, slice?_tail, List.drop_left' length]

theorem starts_of_mem_search {Body : Type} {analyzer : Analyzer Body} {entry : Nat × Record}
    (found : entry ∈ analyzer.search challengeFilters) :
    RecordFilter.startsWithFolded entry.2.owner ownerStart = true := by
  rcases List.mem_filterMap.mp found with ⟨⟨cell, id⟩, _, taken⟩
  dsimp only at taken
  split at taken
  · rename_i free
    cases taken
    simp only [challengeFilters, List.any_cons, List.any_nil, Bool.or_false, RecordFilter.accepts,
      Bool.and_eq_true] at free
    exact free.2.1.1.1.1.1
  · cases taken

/-- No slice fails for any record that the recognizer of challenges asks for. -/
theorem slicedNames?_search {Body : Type} (analyzer : Analyzer Body) :
    slicedNames? (analyzer.search challengeFilters) =
      some ((analyzer.search challengeFilters).map fun entry =>
        entry.2.owner.drop ownerStart.length) :=
  Name.mapM_eq_some_map fun _ found => slice?_of_startsWithFolded (starts_of_mem_search found)

end Challenge

/-! ## All slices -/

/--
No slice that is taken of a name or of a text is ever missing: whatever the texts and the records
are, the functions that cut by slices have a result, which is that of the functions that run.
-/
theorem slices_exist :
    (∀ name origin, Owner.slicedRelativeTo? name origin = some (Owner.relativeTo name origin))
      ∧ (∀ text, CharacterString.slicedWriteText? text = some (CharacterString.writeText text))
      ∧ (∀ text start, RecordFilter.slicedStartsWith? text start =
        some (RecordFilter.startsWithFolded text start))
      ∧ (∀ text ending, RecordFilter.slicedEndsWith? text ending =
        some (RecordFilter.endsWithFolded text ending))
      ∧ (∀ text, slicedNextWord? text = some (nextWord? text))
      ∧ ∀ (Body : Type) (analyzer : Analyzer Body),
        Challenge.slicedNames? (analyzer.search challengeFilters) =
          some ((analyzer.search challengeFilters).map fun entry =>
            entry.2.owner.drop Challenge.ownerStart.length) :=
  ⟨Owner.slicedRelativeTo?_eq, CharacterString.slicedWriteText?_eq,
    RecordFilter.slicedStartsWith?_eq, RecordFilter.slicedEndsWith?_eq, slicedNextWord?_eq,
    fun _ => Challenge.slicedNames?_search⟩

end ZoneServices
