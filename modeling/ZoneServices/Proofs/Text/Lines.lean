import Mathlib.Data.List.Basic
import ZoneServices.Proofs.Text.Word

/-!
# Lines of a text

A text breaks into lines in one way.  A line ends at a line feed, which may follow a carriage return
that belongs to it, and what stands behind the last line feed is a line unless it is empty.  So
lines that are written out one by one, with either end, are the lines of what has been written.
-/

namespace ZoneServices.Text

/-! ## Pieces of a text -/

/-- Fields with a separator behind each of them make the text with a separator at its end. -/
theorem flatMap_fields (separator : Char) (text : Text) :
    (fields separator text).flatMap (· ++ [separator]) = text ++ [separator] := by
  fun_induction fields separator text with
  | case1 => rfl
  | case2 rest step => rw [List.flatMap_cons, step, List.nil_append, List.singleton_append]; rfl
  | case3 character rest different none step =>
      exact absurd none (fields_ne_nil separator rest)
  | case4 character rest different head others split step =>
      rw [split, List.flatMap_cons] at step
      rw [List.flatMap_cons, List.cons_append, List.cons_append, step, List.cons_append]

theorem mem_of_mem_fields {separator character : Char} (other : character ≠ separator)
    {text field : Text} (isField : field ∈ fields separator text) (member : character ∈ field) :
    character ∈ text := by
  have within : character ∈ (fields separator text).flatMap (· ++ [separator]) :=
    List.mem_flatMap.mpr ⟨field, isField, List.mem_append_left _ member⟩
  rw [flatMap_fields, List.mem_append, List.mem_singleton] at within
  exact within.resolve_right other

theorem withoutReturn_of_not_mem {line : Text} (free : '\r' ∉ line) :
    withoutReturn line = line := by
  rw [withoutReturn, if_neg]
  intro last
  exact free (List.mem_of_getLast? last)

/-! ## Breaking a text into lines -/

/-- A text breaks into lines, each of which may end in either way. -/
inductive Breaks : Text → List Text → Prop
  | nothing : Breaks [] []
  | last {line : Text} (free : '\n' ∉ line) (nonempty : line ≠ []) : Breaks line [line]
  | fed {line rest : Text} {lines : List Text} (free : '\n' ∉ line)
      (noReturn : line.getLast? ≠ some '\r') (more : Breaks rest lines) :
      Breaks (line ++ '\n' :: rest) (line :: lines)
  | returned {line rest : Text} {lines : List Text} (free : '\n' ∉ line)
      (more : Breaks rest lines) : Breaks (line ++ '\r' :: '\n' :: rest) (line :: lines)

/-- A text without a line feed is one line, or none when it is empty. -/
theorem lines_of_not_mem {line : Text} (free : '\n' ∉ line) :
    lines line = if line.isEmpty then [] else [line] := by
  rw [lines, fields_of_not_mem free]
  rfl

/-- The first line of a text stands in front of its first line feed. -/
theorem lines_append {line : Text} (free : '\n' ∉ line) (rest : Text) :
    lines (line ++ '\n' :: rest) = withoutReturn line :: lines rest := by
  rcases List.exists_cons_of_ne_nil (fields_ne_nil '\n' rest) with ⟨piece, others, cut⟩
  rw [lines, lines, fields_append free, cut, List.dropLast_cons_cons, List.getLast?_cons_cons,
    List.map_cons]
  rfl

theorem withoutReturn_append_return (line : Text) : withoutReturn (line ++ ['\r']) = line := by
  rw [withoutReturn, List.getLast?_concat, if_pos rfl, List.dropLast_concat]

theorem Breaks.lines_eq {text : Text} {found : List Text} (breaks : Breaks text found) :
    lines text = found := by
  induction breaks with
  | nothing => rfl
  | last free nonempty => rw [lines_of_not_mem free, if_neg (by simpa using nonempty)]
  | fed free noReturn more step => rw [lines_append free, step, withoutReturn, if_neg noReturn]
  | @returned line rest lines free more step =>
      have longer : '\n' ∉ line ++ ['\r'] := by simpa using free
      have shape : line ++ '\r' :: '\n' :: rest = (line ++ ['\r']) ++ '\n' :: rest := by simp
      rw [shape, lines_append longer, withoutReturn_append_return, step]

theorem breaks_lines (text : Text) : Breaks text (lines text) := by
  by_cases fed : '\n' ∈ text
  · rcases List.eq_append_cons_of_mem fed with ⟨line, rest, whole, free⟩
    have more : Breaks rest (lines rest) := breaks_lines rest
    rw [whole, lines_append free]
    -- A carriage return in front of the line feed belongs to the end of the line.
    by_cases returned : line.getLast? = some '\r'
    · rcases List.getLast?_eq_some_iff.mp returned with ⟨front, rfl⟩
      have frontFree : '\n' ∉ front := fun member => free (List.mem_append_left _ member)
      rw [withoutReturn_append_return, List.append_assoc]
      exact .returned frontFree more
    · rw [withoutReturn, if_neg returned]
      exact .fed free returned more
  · rw [lines_of_not_mem fed]
    by_cases empty : text = []
    · subst empty
      exact .nothing
    · rw [if_neg (by simpa using empty)]
      exact .last fed empty
termination_by text.length
decreasing_by
  rw [whole, List.length_append, List.length_cons]
  omega

/-- The breaking of a text into lines is the one that is computed. -/
theorem breaks_iff {text : Text} {found : List Text} : Breaks text found ↔ lines text = found :=
  ⟨Breaks.lines_eq, fun same => same ▸ breaks_lines text⟩

/-! ## Lines that are written out -/

/-- Ways to end a line. -/
def lineEnds : List Text :=
  [['\n'], ['\r', '\n']]

/-- Lines with an end behind each of them break into these lines again. -/
theorem breaks_flatMap {written : List Text} {ending : Text} (isEnd : ending ∈ lineEnds)
    (single : ∀ line ∈ written, '\n' ∉ line ∧ line.getLast? ≠ some '\r') :
    Breaks (written.flatMap (· ++ ending)) written := by
  induction written with
  | nil => exact .nothing
  | cons line others step =>
      rcases List.forall_mem_cons.mp single with ⟨⟨free, noReturn⟩, othersSingle⟩
      have more := step othersSingle
      rw [List.flatMap_cons, List.append_assoc]
      simp only [lineEnds, List.mem_cons, List.not_mem_nil, or_false] at isEnd
      rcases isEnd with rfl | rfl
      · exact .fed free noReturn more
      · exact .returned free more

/-- A text that is its lines: without carriage returns, and not ending with a line feed. -/
structure IsLined (text : Text) : Prop where
  free : '\r' ∉ text
  ends : ∃ last ≠ '\n', text.getLast? = some last

/-- The lines of a text, each with a line feed behind it, make the text with one at its end. -/
theorem IsLined.flatMap_lines {text : Text} (lined : text.IsLined) :
    (lines text).flatMap (· ++ ['\n']) = text ++ ['\n'] := by
  rcases List.eq_nil_or_concat (fields '\n' text) with none | ⟨front, final, split⟩
  · exact absurd none (fields_ne_nil '\n' text)
  rw [List.concat_eq_append] at split
  have whole : text = front.flatMap (· ++ ['\n']) ++ final := by
    have made := flatMap_fields '\n' text
    rw [split, List.flatMap_append, List.flatMap_singleton, ← List.append_assoc] at made
    exact (List.append_cancel_right made).symm
  have nonempty : final ≠ [] := by
    rintro rfl
    rcases lined.ends with ⟨last, other, ends⟩
    rw [whole, List.append_nil] at ends
    rcases List.eq_nil_or_concat front with rfl | ⟨earlier, line, rfl⟩
    · cases ends
    · rw [List.concat_eq_append, List.flatMap_append, List.flatMap_singleton, ← List.append_assoc,
        List.getLast?_concat] at ends
      exact other (Option.some.inj ends).symm
  have same : front.map withoutReturn = front := by
    refine (List.map_congr_left ?_).trans (List.map_id front)
    intro line member
    apply withoutReturn_of_not_mem
    intro returned
    have isField : line ∈ fields '\n' text := by
      rw [split]
      exact List.mem_append_left _ member
    exact lined.free (mem_of_mem_fields (by decide) isField returned)
  have cut : lines text = front ++ [final] := by
    rw [lines, split, List.dropLast_concat, List.getLast?_concat, same]
    simp [nonempty]
  rw [cut, List.flatMap_append, List.flatMap_singleton, ← List.append_assoc, ← whole]

end ZoneServices.Text
