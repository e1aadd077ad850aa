import ZoneServices.Proofs.Name.Escape
import ZoneServices.Proofs.Name.International

/-!
# Names that are made absolute

A name that is not absolute is made so by a dot at its end.  The dot ends the name only if the
reader is not inside an escape there: behind a backslash it becomes part of the last label, and
behind digits of an escape nothing can be read.

To see where the reader is, its run over a text is said as a fold of steps, and proved to be the
run of the reader.  The main theorem says that a name in any language still denotes the same host
when it is made absolute, exactly if it does not end inside an escape.
-/

namespace ZoneServices.Name

open Text

/-! ## Steps of a reader -/

/-- How far a reader is inside an escape behind one more character. -/
def Escape.next : Escape → Char → Escape
  | .none, character => if character = '\\' then .begun else .none
  | .begun, character =>
    if isNumber character then
      match octalDigit? character with
      | some first => .oneDigit first
      | Option.none => .none
    else .none
  | .oneDigit first, character =>
    match octalDigit? character with
    | some second => .twoDigits first second
    | Option.none => .none
  | .twoDigits _ _, _ => .none

/-- Whether a text ends inside an escape. -/
def EndsInEscape (text : Text) : Prop := text.foldl Escape.next .none ≠ .none

instance (text : Text) : Decidable (EndsInEscape text) := inferInstanceAs (Decidable (_ ≠ _))

/-- What a reader has read: some labels, and the characters of the next one in reverse. -/
structure Progress where
  labels : List Text
  current : Text
  escape : Escape

namespace Progress

/-- The progress before the first character. -/
def start : Progress := ⟨[], [], .none⟩

/-- The progress behind one more character, unless the character is refused. -/
def step (progress : Progress) (character : Char) : Option Progress :=
  match progress with
  | ⟨labels, current, .none⟩ =>
    if character = '.' then some ⟨labels ++ [current.reverse], [], .none⟩
    else if character = '\\' then some ⟨labels, current, .begun⟩
    else if isControl character || isBlank character then none
    else some ⟨labels, character :: current, .none⟩
  | ⟨labels, current, .begun⟩ =>
    if isNumber character then
      (octalDigit? character).map fun first => ⟨labels, current, .oneDigit first⟩
    else some ⟨labels, character :: current, .none⟩
  | ⟨labels, current, .oneDigit first⟩ =>
    (octalDigit? character).map fun second => ⟨labels, current, .twoDigits first second⟩
  | ⟨labels, current, .twoDigits first second⟩ =>
    (octalDigit? character).map fun third =>
      ⟨labels, Char.ofNat (first * 64 + second * 8 + third) :: current, .none⟩

/-- The labels that were read, with the one under way unless it is empty. -/
def finish (progress : Progress) : List Text :=
  progress.labels ++ if progress.current.isEmpty then [] else [progress.current.reverse]

variable {progress next : Progress} {character : Char}

theorem escape_step (stepped : progress.step character = some next) :
    next.escape = progress.escape.next character := by
  rcases progress with ⟨labels, current, escape⟩
  cases escape with
  | none =>
      simp only [step] at stepped
      split at stepped
      · rename_i dot
        cases stepped
        rw [dot]
        rfl
      · split at stepped
        · rename_i backslash
          cases stepped
          exact (if_pos backslash).symm
        · rename_i other
          split at stepped
          · cases stepped
          · cases stepped
            exact (if_neg other).symm
  | begun =>
      simp only [step] at stepped
      split at stepped
      · rename_i number
        rcases Option.map_eq_some_iff.mp stepped with ⟨first, octal, rfl⟩
        simp only [Escape.next, number, octal, if_true]
      · rename_i other
        cases stepped
        exact (if_neg other).symm
  | oneDigit first =>
      rcases Option.map_eq_some_iff.mp stepped with ⟨second, octal, rfl⟩
      simp only [Escape.next, octal]
  | twoDigits first second =>
      rcases Option.map_eq_some_iff.mp stepped with ⟨third, _, rfl⟩
      rfl

/-- Outside of an escape a reader holds a character, unless it has just read a dot. -/
theorem current_step (stepped : progress.step character = some next) (notDot : character ≠ '.')
    (outside : next.escape = .none) : next.current ≠ [] := by
  rcases progress with ⟨labels, current, escape⟩
  cases escape with
  | none =>
      simp only [step, if_neg notDot] at stepped
      split at stepped
      · cases stepped
        cases outside
      · split at stepped
        · cases stepped
        · cases stepped
          exact List.cons_ne_nil _ _
  | begun =>
      simp only [step] at stepped
      split at stepped
      · rcases Option.map_eq_some_iff.mp stepped with ⟨first, _, rfl⟩
        cases outside
      · cases stepped
        exact List.cons_ne_nil _ _
  | oneDigit first =>
      rcases Option.map_eq_some_iff.mp stepped with ⟨second, _, rfl⟩
      cases outside
  | twoDigits first second =>
      rcases Option.map_eq_some_iff.mp stepped with ⟨third, _, rfl⟩
      exact List.cons_ne_nil _ _

/-- Behind a dot a reader is outside of an escape. -/
theorem escape_step_dot (stepped : progress.step '.' = some next) : next.escape = .none := by
  have noNumber : isNumber '.' = false := by decide +kernel
  have noOctal : octalDigit? '.' = none := by decide
  rw [escape_step stepped]
  cases progress.escape with
  | none => rfl
  | begun => simp [Escape.next, noNumber]
  | oneDigit first => simp [Escape.next, noOctal]
  | twoDigits first second => rfl

/-- What a dot does: it ends the label, belongs to it, or cannot be read. -/
theorem finish_step_dot (named : progress.escape = .none → progress.current ≠ []) :
    (progress.escape = .none →
        ∃ next, progress.step '.' = some next ∧ next.finish = progress.finish)
      ∧ (progress.escape ≠ .none → ∀ next, progress.step '.' = some next →
        next.finish = progress.labels ++ [progress.current.reverse ++ ['.']]) := by
  have noNumber : isNumber '.' = false := by decide +kernel
  have noOctal : octalDigit? '.' = none := by decide
  rcases progress with ⟨labels, current, escape⟩
  cases escape with
  | none =>
      refine ⟨?_, fun inside => absurd rfl inside⟩
      intro outside
      refine ⟨⟨labels ++ [current.reverse], [], .none⟩, by rw [step, if_pos rfl], ?_⟩
      simp [finish, named outside]
  | begun =>
      refine ⟨nofun, ?_⟩
      intro _ next stepped
      rw [step, noNumber] at stepped
      cases stepped
      simp [finish]
  | oneDigit first =>
      refine ⟨nofun, ?_⟩
      intro _ next stepped
      rw [step, noOctal] at stepped
      cases stepped
  | twoDigits first second =>
      refine ⟨nofun, ?_⟩
      intro _ next stepped
      rw [step, noOctal] at stepped
      cases stepped

end Progress

/-! ## Runs of a reader -/

theorem finish_foldlM (labels : List Text) (current : Text) (escape : Escape) (text : Text) :
    (text.foldlM Progress.step ⟨labels, current, escape⟩).map Progress.finish =
      (labelsFrom? current escape text).map (labels ++ ·) := by
  induction text generalizing labels current escape with
  | nil =>
      rw [List.foldlM_nil, labelsFrom?]
      rfl
  | cons character rest step =>
      rw [List.foldlM_cons]
      cases escape with
      | none =>
          rw [labelsFrom?, Progress.step]
          split
          · rw [Option.bind_eq_bind, Option.bind_some, step, Option.map_map]
            congr 1
            funext labels
            simp
          · split
            · exact step _ _ _
            · split
              · rfl
              · exact step _ _ _
      | begun =>
          rw [labelsFrom?, Progress.step]
          split
          · cases octalDigit? character with
            | none => rfl
            | some first => exact step _ _ _
          · exact step _ _ _
      | oneDigit first =>
          rw [labelsFrom?, Progress.step]
          cases octalDigit? character with
          | none => rfl
          | some second => exact step _ _ _
      | twoDigits first second =>
          rw [labelsFrom?, Progress.step]
          cases octalDigit? character with
          | none => rfl
          | some third => exact step _ _ _

/-- The run of the reader as a fold of its steps. -/
theorem labelsFrom?_eq_foldlM (text : Text) :
    labelsFrom? [] .none text = (text.foldlM Progress.step .start).map Progress.finish := by
  rw [Progress.start, finish_foldlM]
  simp

theorem escape_foldlM {text : Text} {progress last : Progress}
    (run : text.foldlM Progress.step progress = some last) :
    last.escape = text.foldl Escape.next progress.escape := by
  induction text generalizing progress with
  | nil =>
      cases run
      rfl
  | cons character rest step =>
      rw [List.foldlM_cons] at run
      rcases Option.bind_eq_some_iff.mp run with ⟨next, stepped, run⟩
      rw [step run, Progress.escape_step stepped]
      rfl

theorem foldlM_append_singleton (text : Text) (character : Char) (progress : Progress) :
    (text ++ [character]).foldlM Progress.step progress =
      (text.foldlM Progress.step progress).bind (·.step character) := by
  simp

/-- A name that is read and ends with a dot does not end inside an escape. -/
theorem not_endsInEscape_of_endsWithDot {text : Text} {labels : List Text}
    (read : labelsFrom? [] .none text = some labels) (ends : endsWithDot text = true) :
    ¬ EndsInEscape text := by
  rcases endsWithDot_iff.mp ends with ⟨stem, rfl⟩
  rw [labelsFrom?_eq_foldlM] at read
  rcases Option.map_eq_some_iff.mp read with ⟨last, run, _⟩
  have outside := escape_foldlM run
  rw [foldlM_append_singleton] at run
  rcases Option.bind_eq_some_iff.mp run with ⟨before, _, stepped⟩
  rw [Progress.escape_step_dot stepped] at outside
  exact not_not.mpr outside.symm

/-- What a reader has at the end of a name that no dot ends. -/
theorem exists_progress {text : Text} {labels : List Text}
    (read : labelsFrom? [] .none text = some labels) (named : text ≠ [])
    (noDot : endsWithDot text = false) :
    ∃ last, text.foldlM Progress.step .start = some last ∧ last.finish = labels
      ∧ last.escape = text.foldl Escape.next .none
      ∧ (last.escape = .none → last.current ≠ []) := by
  rw [labelsFrom?_eq_foldlM] at read
  rcases Option.map_eq_some_iff.mp read with ⟨last, run, finished⟩
  refine ⟨last, run, finished, escape_foldlM run, ?_⟩
  rcases List.eq_nil_or_concat text with rfl | ⟨front, character, rfl⟩
  · exact absurd rfl named
  · rw [List.concat_eq_append, foldlM_append_singleton] at run
    rcases Option.bind_eq_some_iff.mp run with ⟨before, _, stepped⟩
    refine Progress.current_step stepped ?_
    rintro rfl
    rw [List.concat_eq_append, endsWithDot_append_dot] at noDot
    cases noDot

/-- The labels that are read from a name with a dot at its end. -/
theorem labelsFrom?_append_dot {text : Text} {labels : List Text}
    (read : labelsFrom? [] .none text = some labels) (named : text ≠ [])
    (noDot : endsWithDot text = false) :
    (¬ EndsInEscape text → labelsFrom? [] .none (text ++ ['.']) = some labels)
      ∧ (EndsInEscape text → ∀ again, labelsFrom? [] .none (text ++ ['.']) = some again →
        again = labels ++ [['.']]
          ∨ ∃ front label, labels = front ++ [label] ∧ again = front ++ [label ++ ['.']]) := by
  rcases exists_progress read named noDot with ⟨last, run, rfl, escape, held⟩
  rcases Progress.finish_step_dot held with ⟨outside, inside⟩
  have more : labelsFrom? [] .none (text ++ ['.']) = (last.step '.').map Progress.finish := by
    rw [labelsFrom?_eq_foldlM, foldlM_append_singleton, run, Option.bind_some]
  rw [more]
  constructor
  · intro whole
    rw [EndsInEscape, not_not, ← escape] at whole
    rcases outside whole with ⟨next, stepped, same⟩
    rw [stepped, Option.map_some, same]
  · intro cut again readAgain
    rw [EndsInEscape, ← escape] at cut
    rcases Option.map_eq_some_iff.mp readAgain with ⟨next, stepped, rfl⟩
    rw [inside cut next stepped]
    by_cases empty : last.current = []
    · left
      simp [Progress.finish, empty]
    · right
      exact ⟨last.labels, last.current.reverse, by simp [Progress.finish, empty], rfl⟩

/-! ## Names -/

/-- Whether two names are the same, letter case aside. -/
structure IsSame (left right : Name) : Prop where
  labels : left.labels.map fold = right.labels.map fold
  absolute : left.absolute = right.absolute

/-- Whether a text, made absolute, is the name of a host, made absolute. -/
def Denotes (text : Text) (host : Name) : Prop :=
  ∃ name, readInternational? (Owner.qualified text) = some name
    ∧ name.IsSame { host with absolute := true }

theorem readWith?_eq_some_iff {rule : Text → Option Text} {text : Text} (other : text ≠ ['.'])
    {name : Name} :
    readWith? rule text = some name ↔
      ∃ raw, labelsFrom? [] .none text = some raw ∧ raw.mapM rule = some name.labels
        ∧ size name.labels ≤ sizeLimit ∧ name.absolute = endsWithDot text := by
  rcases name with ⟨labels, absolute⟩
  rw [readWith?, if_neg other]
  constructor
  · intro read
    split at read
    · cases read
    · rename_i found
      split at read
      · rename_i fits
        cases read
        rcases Option.bind_eq_some_iff.mp found with ⟨raw, cut, accepted⟩
        exact ⟨raw, cut, accepted, fits, rfl⟩
      · cases read
  · rintro ⟨raw, cut, accepted, fits, rfl⟩
    rw [cut, Option.bind_some, accepted]
    exact if_pos fits

/-- The labels of a name that ends inside an escape are not those of the name with a dot more. -/
theorem labels_ne_of_endsInEscape {labels more written again : List Text}
    (changed : more = labels ++ [['.']]
      ∨ ∃ front label, labels = front ++ [label] ∧ more = front ++ [label ++ ['.']])
    (accepted : labels.mapM internationalLabel? = some written)
    (acceptedMore : more.mapM internationalLabel? = some again) :
    again.map fold ≠ written.map fold := by
  intro same
  rcases changed with rfl | ⟨front, label, rfl, rfl⟩
  · rcases mapM_append_singleton_eq_some acceptedMore with ⟨before, last, found, _, rfl⟩
    cases accepted.symm.trans found
    have length := congrArg List.length same
    simp at length
  · rcases mapM_append_singleton_eq_some accepted with ⟨before, last, found, read, rfl⟩
    rcases mapM_append_singleton_eq_some acceptedMore with ⟨other, longer, foundMore, readMore, rfl⟩
    cases found.symm.trans foundMore
    cases internationalLabel?_append_dot read readMore
    rw [List.map_append, List.map_append] at same
    have length := congrArg List.length (List.cons.inj (List.append_cancel_left same)).1
    simp at length

/-- A name that was read denotes its host when it is made absolute, unless an escape is open. -/
theorem denotes_iff {text : Text} {host : Name} (read : readInternational? text = some host)
    (named : text ≠ []) : Denotes text host ↔ ¬ EndsInEscape text := by
  by_cases isRoot : text = ['.']
  · subst isRoot
    cases read
    exact iff_of_true ⟨root, rfl, rfl, rfl⟩ (by decide)
  rcases (readWith?_eq_some_iff isRoot).mp read with ⟨raw, cut, accepted, fits, absolute⟩
  cases ends : endsWithDot text with
  | true =>
      refine iff_of_true ⟨host, ?_, rfl, ?_⟩ (not_endsInEscape_of_endsWithDot cut ends)
      · rwa [Owner.qualified_of_endsWithDot ends]
      · rw [absolute, ends]
  | false =>
      have longer : text ++ ['.'] ≠ ['.'] := by simpa using named
      rcases labelsFrom?_append_dot cut named ends with ⟨outside, inside⟩
      rw [Denotes, Owner.qualified, ends, if_neg Bool.false_ne_true]
      constructor
      · rintro ⟨name, readMore, same⟩ open_
        rcases (readWith?_eq_some_iff longer).mp readMore with ⟨more, cutMore, acceptedMore, _⟩
        exact labels_ne_of_endsInEscape (inside open_ more cutMore) accepted acceptedMore
          same.labels
      · intro closed
        refine ⟨{ host with absolute := true }, ?_, rfl, rfl⟩
        exact (readWith?_eq_some_iff longer).mpr
          ⟨raw, outside closed, accepted, fits, (endsWithDot_append_dot text).symm⟩

theorem isBare_of_octalDigit? {character : Char} {digit : Nat}
    (octal : octalDigit? character = some digit) : Payload.isBare character = true := by
  have small : character.toNat < 128 := by
    rw [octalDigit?, digit?] at octal
    split at octal
    · rename_i bounds
      exact Nat.lt_of_le_of_lt bounds.2 (by decide)
    · cases octal
  have checked := of_toNat_lt (fun character => !(octalDigit? character).isSome
    || Payload.isBare character) (by decide) small
  simpa [octal] using checked

/-- A name in any language without blanks is a bare token. -/
theorem isBareToken_of_readInternational? {text : Text} {name : Name}
    (read : readInternational? text = some name) (solid : IsSolid text) (named : text ≠ []) :
    Payload.IsBareToken text where
  nonempty := named
  bare := by
    by_cases isRoot : text = ['.']
    · subst isRoot
      exact List.forall_mem_singleton.mpr (by decide)
    rcases (readWith?_eq_some_iff isRoot).mp read with ⟨raw, cut, accepted, _⟩
    intro character member
    by_cases dot : character = '.'
    · rw [dot]
      decide
    by_cases backslash : character = '\\'
    · rw [backslash]
      decide
    cases octal : octalDigit? character with
    | some digit => exact isBare_of_octalDigit? octal
    | none =>
        rcases exists_mem_of_mem_text cut member dot backslash octal with ⟨label, inRaw, inLabel⟩
        rcases exists_of_mem_mapM accepted label inRaw with ⟨written, _, found⟩
        exact isBare_of_mem_label found inLabel (solid character member)

end ZoneServices.Name
