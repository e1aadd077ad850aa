import ZoneServices.Json.Reader
import ZoneServices.Proofs.Json.Token

/-!
# Values that are read back

A value all of whose numbers are read as they are written is read back from both of its written
forms, on one line and over several lines.  Each form is cut into the same tokens, and from these
the value is built up again, whatever arrays and objects are around it.
-/

namespace ZoneServices.Json

/-- Whether every part of a value is one, and every number in it is read as it is written. -/
inductive IsPlain : Json → Prop
  | null : IsPlain .null
  | bool (value : Bool) : IsPlain (.bool value)
  | number {value : Number} (plain : value.IsPlain) : IsPlain (.number value)
  | string (value : Text) : IsPlain (.string value)
  | array {elements : List Json} (each : ∀ element ∈ elements, IsPlain element) :
      IsPlain (.array elements)
  | object {members : List (Text × Json)} (each : ∀ member ∈ members, IsPlain member.2) :
      IsPlain (.object members)

/-! ## The tokens of a value -/

mutual

/-- The tokens of a value. -/
def tokensOf : Json → List Token
  | .string value => [.string (some value)]
  | .array [] => [.arrayStart, .arrayEnd]
  | .array (element :: rest) =>
    .arrayStart :: tokensOf element ++ tokensOfElements rest ++ [.arrayEnd]
  | .object [] => [.objectStart, .objectEnd]
  | .object ((key, value) :: rest) =>
    .objectStart :: .string (some key) :: .colon :: tokensOf value ++ tokensOfMembers rest
      ++ [.objectEnd]
  | value => [.scalar value]

/-- The tokens of the elements of an array after its first one. -/
def tokensOfElements : List Json → List Token
  | [] => []
  | element :: rest => .comma :: tokensOf element ++ tokensOfElements rest

/-- The tokens of the members of an object after its first one. -/
def tokensOfMembers : List (Text × Json) → List Token
  | [] => []
  | (key, value) :: rest =>
    .comma :: .string (some key) :: .colon :: tokensOf value ++ tokensOfMembers rest

end

/-! ## Building up -/

/-- Reads on from a place by some tokens. -/
def advance (place : Place) (tokens : List Token) : Option Place :=
  tokens.foldlM Place.next? place

/-- Tokens are read in two parts as they are read at once. -/
theorem advance_append (place : Place) (earlier later : List Token) :
    advance place (earlier ++ later) = (advance place earlier).bind (advance · later) :=
  List.foldlM_append ..

theorem advance_cons {place next : Place} {token : Token} (step : place.next? token = some next)
    (tokens : List Token) : advance place (token :: tokens) = advance next tokens := by
  rw [advance, List.foldlM_cons, step]
  rfl

/-- Whether the tokens of a value build it up wherever a value is awaited. -/
def BuildsUp (value : Json) : Prop :=
  ∀ outer, advance (.awaitValue outer) (tokensOf value) = some (.after value outer)

/-- The tokens of a value that builds up lead to the place behind that value. -/
theorem BuildsUp.advance_append {value : Json} (builds : BuildsUp value) (outer : List Frame)
    (tokens : List Token) :
    advance (.awaitValue outer) (tokensOf value ++ tokens) =
      advance (.after value outer) tokens := by
  rw [Json.advance_append, builds, Option.bind_some]

/-- The tokens of elements add these elements to the array under way. -/
theorem advance_elements {elements : List Json} (each : ∀ element ∈ elements, BuildsUp element)
    (earlier : List Json) (outer : List Frame) (tokens : List Token) :
    advance (.element earlier outer) (tokensOfElements elements ++ tokens) =
      advance (.element (elements.reverse ++ earlier) outer) tokens := by
  induction elements generalizing earlier with
  | nil => rfl
  | cons element rest step =>
      rcases List.forall_mem_cons.mp each with ⟨first, others⟩
      simp only [tokensOfElements, List.cons_append, List.append_assoc]
      rw [advance_cons rfl, first.advance_append, List.reverse_cons, List.append_assoc]
      exact step others (element :: earlier)

/-- Members as they are kept while they are read, the last one first. -/
def openMembers (members : List (Text × Json)) : OpenMembers :=
  (members.map fun member => (some member.1, member.2)).reverse

/-- The tokens of members add these members to the object under way. -/
theorem advance_members {members : List (Text × Json)}
    (each : ∀ member ∈ members, BuildsUp member.2) (earlier : OpenMembers) (outer : List Frame)
    (tokens : List Token) :
    advance (.member earlier outer) (tokensOfMembers members ++ tokens) =
      advance (.member (openMembers members ++ earlier) outer) tokens := by
  induction members generalizing earlier with
  | nil => rfl
  | cons member rest step =>
      rcases member with ⟨key, value⟩
      rcases List.forall_mem_cons.mp each with ⟨first, others⟩
      simp only [tokensOfMembers, List.cons_append, List.append_assoc]
      rw [advance_cons rfl, advance_cons rfl, advance_cons rfl, first.advance_append, openMembers,
        List.map_cons, List.reverse_cons, List.append_assoc]
      exact step others ((some key, value) :: earlier)

theorem closeObject_openMembers (members : List (Text × Json)) :
    closeObject (openMembers members) = .object members := by
  have given : (members.map fun member => (some member.1, member.2)).mapM
      (fun member : Option Text × Json => member.1.map fun key => (key, member.2)) =
        some members := by
    induction members with
    | nil => rfl
    | cons member rest step => simp [step]
  rw [closeObject, openMembers, List.reverse_reverse, given]

/-- A value in an array is read alike whether or not it is the first one. -/
theorem advance_arrayStart (value : Json) (outer : List Frame) (tokens : List Token) :
    advance (.arrayStart outer) (tokensOf value ++ tokens) =
      advance (.awaitValue (.array [] :: outer)) (tokensOf value ++ tokens) := by
  fun_cases tokensOf value
  all_goals rfl

/-- Every plain value is built up by its own tokens. -/
theorem IsPlain.buildsUp {value : Json} (plain : value.IsPlain) : BuildsUp value := by
  induction plain with
  | null => exact fun outer => rfl
  | bool value => exact fun outer => rfl
  | number plain => exact fun outer => rfl
  | string value => exact fun outer => rfl
  | @array elements each step =>
      intro outer
      cases elements with
      | nil => rfl
      | cons element rest =>
          rcases List.forall_mem_cons.mp step with ⟨first, others⟩
          simp only [tokensOf, List.cons_append, List.append_assoc]
          rw [advance_cons rfl, advance_arrayStart, first.advance_append, Place.after,
            advance_elements others, advance_cons rfl, List.reverse_append, List.reverse_reverse]
          rfl
  | @object members each step =>
      intro outer
      cases members with
      | nil => rfl
      | cons member rest =>
          rcases member with ⟨key, value⟩
          rcases List.forall_mem_cons.mp step with ⟨first, others⟩
          simp only [tokensOf, List.cons_append, List.append_assoc]
          have all : openMembers rest ++ [(some key, value)] =
              openMembers ((key, value) :: rest) := by
            rw [openMembers, openMembers, List.map_cons, List.reverse_cons]
          rw [advance_cons rfl, advance_cons rfl, advance_cons rfl, first.advance_append,
            Place.after, advance_members others, all, advance_cons rfl, closeObject_openMembers]
          rfl

/-! ## Cutting -/

/-- Whether a text is cut into some tokens in front of anything that cannot continue a number. -/
def IsCutInto (text : Text) (tokens : List Token) : Prop :=
  ∀ rest, Ends rest → tokens? (text ++ rest) = (tokens? rest).map (tokens ++ ·)

/-- A word that is cut off as one token is cut into that token. -/
theorem isCutInto_word {word : Text} {token : Token}
    (read : ∀ rest, tokens? (word ++ rest) = (tokens? rest).map (token :: ·)) :
    IsCutInto word [token] := by
  intro rest _
  exact read rest

theorem tokens?_null (rest : Text) :
    tokens? (writeNull ++ rest) = (tokens? rest).map (.scalar .null :: ·) :=
  tokens?_of_readToken rfl rfl

theorem tokens?_bool (value : Bool) (rest : Text) :
    tokens? (writeBool value ++ rest) = (tokens? rest).map (.scalar (.bool value) :: ·) := by
  cases value with
  | false => exact tokens?_of_readToken rfl rfl
  | true => exact tokens?_of_readToken rfl rfl

theorem tokens?_comma (rest : Text) : tokens? (',' :: rest) = (tokens? rest).map (.comma :: ·) :=
  tokens?_of_readToken rfl rfl

theorem tokens?_colon (rest : Text) : tokens? (':' :: rest) = (tokens? rest).map (.colon :: ·) :=
  tokens?_of_readToken rfl rfl

theorem tokens?_arrayStart (rest : Text) :
    tokens? ('[' :: rest) = (tokens? rest).map (.arrayStart :: ·) :=
  tokens?_of_readToken rfl rfl

theorem tokens?_arrayEnd (rest : Text) :
    tokens? (']' :: rest) = (tokens? rest).map (.arrayEnd :: ·) :=
  tokens?_of_readToken rfl rfl

theorem tokens?_objectStart (rest : Text) :
    tokens? ('\x7b' :: rest) = (tokens? rest).map (.objectStart :: ·) :=
  tokens?_of_readToken rfl rfl

theorem tokens?_objectEnd (rest : Text) :
    tokens? ('\x7d' :: rest) = (tokens? rest).map (.objectEnd :: ·) :=
  tokens?_of_readToken rfl rfl

/-! ## One line -/

/-- Elements are cut into their tokens, with a comma between every two. -/
theorem isCutInto_writeElements {element : Json} {rest : List Json}
    (first : IsCutInto (write element) (tokensOf element))
    (others : ∀ element ∈ rest, IsCutInto (write element) (tokensOf element)) :
    IsCutInto (writeElements (element :: rest)) (tokensOf element ++ tokensOfElements rest) := by
  induction rest generalizing element with
  | nil =>
      rw [writeElements, tokensOfElements, List.append_nil]
      exact first
  | cons following rest step =>
      rcases List.forall_mem_cons.mp others with ⟨second, others⟩
      intro text ends
      rw [writeElements]
      simp only [List.append_assoc, List.cons_append]
      rw [first _ (ends_cons rfl _), tokens?_comma, step second others text ends]
      simp only [Option.map_map, Function.comp_def, tokensOfElements, List.cons_append,
        List.append_assoc]

/-- Members are cut into their tokens, with a colon behind each key. -/
theorem isCutInto_writeMembers {key : Text} {value : Json} {rest : List (Text × Json)}
    (first : IsCutInto (write value) (tokensOf value))
    (others : ∀ member ∈ rest, IsCutInto (write member.2) (tokensOf member.2)) :
    IsCutInto (writeMembers ((key, value) :: rest))
      (.string (some key) :: .colon :: tokensOf value ++ tokensOfMembers rest) := by
  induction rest generalizing key value with
  | nil =>
      intro text ends
      rw [writeMembers, List.append_assoc, tokens?_string, List.cons_append, tokens?_colon,
        first text ends]
      simp only [Option.map_map, Function.comp_def, tokensOfMembers, List.cons_append,
        List.append_nil]
  | cons member rest step =>
      rcases member with ⟨otherKey, other⟩
      rcases List.forall_mem_cons.mp others with ⟨second, others⟩
      intro text ends
      rw [writeMembers]
      simp only [List.append_assoc, List.cons_append]
      rw [tokens?_string, tokens?_colon, first _ (ends_cons rfl _), tokens?_comma,
        step second others text ends]
      simp only [Option.map_map, Function.comp_def, tokensOfMembers, List.cons_append,
        List.append_assoc]

/-- The one line of a plain value is cut into its tokens. -/
theorem IsPlain.isCutInto_write {value : Json} (plain : value.IsPlain) :
    IsCutInto (write value) (tokensOf value) := by
  induction plain with
  | null => exact isCutInto_word tokens?_null
  | bool value => exact isCutInto_word (tokens?_bool value)
  | number plain =>
      intro rest ends
      exact tokens?_number plain ends
  | string value => exact isCutInto_word (tokens?_string value)
  | @array elements each step =>
      intro rest ends
      cases elements with
      | nil =>
          rw [write, writeElements]
          simp only [List.cons_append, List.nil_append]
          rw [tokens?_arrayStart, tokens?_arrayEnd]
          simp only [Option.map_map, Function.comp_def, tokensOf, List.cons_append, List.nil_append]
      | cons element others =>
          rcases List.forall_mem_cons.mp step with ⟨first, others⟩
          rw [write]
          simp only [List.append_assoc, List.cons_append, List.nil_append]
          rw [tokens?_arrayStart, isCutInto_writeElements first others _ (ends_cons rfl _),
            tokens?_arrayEnd]
          simp only [Option.map_map, Function.comp_def, tokensOf, List.cons_append,
            List.append_assoc, List.nil_append]
  | @object members each step =>
      intro rest ends
      cases members with
      | nil =>
          rw [write, writeMembers]
          simp only [List.cons_append, List.nil_append]
          rw [tokens?_objectStart, tokens?_objectEnd]
          simp only [Option.map_map, Function.comp_def, tokensOf, List.cons_append, List.nil_append]
      | cons member others =>
          rcases member with ⟨key, value⟩
          rcases List.forall_mem_cons.mp step with ⟨first, others⟩
          rw [write]
          simp only [List.append_assoc, List.cons_append, List.nil_append]
          rw [tokens?_objectStart, isCutInto_writeMembers first others _ (ends_cons rfl _),
            tokens?_objectEnd]
          simp only [Option.map_map, Function.comp_def, tokensOf, List.cons_append,
            List.append_assoc, List.nil_append]

/-! ## Several lines -/

theorem tokens?_lineStart (level : Nat) (rest : Text) :
    tokens? (lineStart level ++ rest) = tokens? rest := by
  have indented : ∀ width, tokens? (List.replicate width ' ' ++ rest) = tokens? rest := by
    intro width
    induction width with
    | zero => rfl
    | succ width step =>
        rw [List.replicate_succ, List.cons_append, tokens?_of_isSpace rfl, step]
  rw [lineStart, List.cons_append, tokens?_of_isSpace rfl, indented]

theorem ends_lineStart (level : Nat) (rest : Text) : Ends (lineStart level ++ rest) :=
  ends_cons rfl _

theorem ends_writeElementLines (level : Nat) (elements : List Json) {rest : Text}
    (ends : Ends rest) : Ends (writeElementLines level elements ++ rest) := by
  cases elements with
  | nil => exact ends
  | cons element others => exact ends_cons rfl _

theorem ends_writeMemberLines (level : Nat) (members : List (Text × Json)) {rest : Text}
    (ends : Ends rest) : Ends (writeMemberLines level members ++ rest) := by
  cases members with
  | nil => exact ends
  | cons member others => exact ends_cons rfl _

/-- The lines of elements are cut into the same tokens as their one line. -/
theorem isCutInto_writeElementLines {level : Nat} {elements : List Json}
    (each : ∀ element ∈ elements, IsCutInto (writeLines level element) (tokensOf element)) :
    IsCutInto (writeElementLines level elements) (tokensOfElements elements) := by
  induction elements with
  | nil =>
      intro rest _
      simp [writeElementLines, tokensOfElements]
  | cons element others step =>
      rcases List.forall_mem_cons.mp each with ⟨first, further⟩
      intro rest ends
      simp only [writeElementLines, List.append_assoc, List.cons_append]
      rw [tokens?_comma, tokens?_lineStart, first _ (ends_writeElementLines _ _ ends),
        step further rest ends]
      simp only [Option.map_map, Function.comp_def, tokensOfElements, List.cons_append,
        List.append_assoc]

/-- The lines of members are cut into the same tokens as their one line. -/
theorem isCutInto_writeMemberLines {level : Nat} {members : List (Text × Json)}
    (each : ∀ member ∈ members, IsCutInto (writeLines level member.2) (tokensOf member.2)) :
    IsCutInto (writeMemberLines level members) (tokensOfMembers members) := by
  induction members with
  | nil =>
      intro rest _
      simp [writeMemberLines, tokensOfMembers]
  | cons member others step =>
      rcases member with ⟨key, value⟩
      rcases List.forall_mem_cons.mp each with ⟨first, further⟩
      intro rest ends
      simp only [writeMemberLines, List.append_assoc, List.cons_append]
      rw [tokens?_comma, tokens?_lineStart, tokens?_string, tokens?_colon, tokens?_of_isSpace rfl,
        first _ (ends_writeMemberLines _ _ ends), step further rest ends]
      simp only [Option.map_map, Function.comp_def, tokensOfMembers, List.cons_append,
        List.append_assoc]

/-- The lines of a plain value are cut into its tokens, however far they are set in. -/
theorem IsPlain.isCutInto_writeLines {value : Json} (plain : value.IsPlain) (level : Nat) :
    IsCutInto (writeLines level value) (tokensOf value) := by
  induction plain generalizing level with
  | null => exact isCutInto_word tokens?_null
  | bool value => exact isCutInto_word (tokens?_bool value)
  | number plain =>
      intro rest ends
      exact tokens?_number plain ends
  | string value => exact isCutInto_word (tokens?_string value)
  | @array elements each step =>
      intro rest ends
      cases elements with
      | nil =>
          rw [writeLines]
          simp only [List.cons_append, List.nil_append]
          rw [tokens?_arrayStart, tokens?_arrayEnd]
          simp only [Option.map_map, Function.comp_def, tokensOf, List.cons_append, List.nil_append]
      | cons element others =>
          rcases List.forall_mem_cons.mp step with ⟨first, further⟩
          have rests := isCutInto_writeElementLines fun element member =>
            further element member (level + 1)
          rw [writeLines]
          simp only [List.append_assoc, List.cons_append, List.nil_append]
          rw [tokens?_arrayStart, tokens?_lineStart,
            first _ _ (ends_writeElementLines _ _ (ends_lineStart _ _)),
            rests _ (ends_lineStart _ _), tokens?_lineStart, tokens?_arrayEnd]
          simp only [Option.map_map, Function.comp_def, tokensOf, List.cons_append,
            List.append_assoc, List.nil_append]
  | @object members each step =>
      intro rest ends
      cases members with
      | nil =>
          rw [writeLines]
          simp only [List.cons_append, List.nil_append]
          rw [tokens?_objectStart, tokens?_objectEnd]
          simp only [Option.map_map, Function.comp_def, tokensOf, List.cons_append, List.nil_append]
      | cons member others =>
          rcases member with ⟨key, value⟩
          rcases List.forall_mem_cons.mp step with ⟨first, further⟩
          have rests := isCutInto_writeMemberLines fun member isMember =>
            further member isMember (level + 1)
          rw [writeLines]
          simp only [List.append_assoc, List.cons_append, List.nil_append]
          rw [tokens?_objectStart, tokens?_lineStart, tokens?_string, tokens?_colon,
            tokens?_of_isSpace rfl, first _ _ (ends_writeMemberLines _ _ (ends_lineStart _ _)),
            rests _ (ends_lineStart _ _), tokens?_lineStart, tokens?_objectEnd]
          simp only [Option.map_map, Function.comp_def, tokensOf, List.cons_append,
            List.append_assoc, List.nil_append]

/-! ## Reading -/

/-- A text that is cut into the tokens of a value is read as that value. -/
theorem read?_of_isCutInto {value : Json} (plain : value.IsPlain) {text : Text}
    (cut : IsCutInto text (tokensOf value)) {rest : Text} (ends : Ends rest)
    (blank : tokens? rest = some []) : read? (text ++ rest) = some value := by
  have built : (tokensOf value).foldlM Place.next? (.awaitValue []) = some (.after value []) :=
    plain.buildsUp []
  rw [read?, cut rest ends, blank, Option.map_some, Option.bind_some, List.append_nil, built]
  rfl

theorem ends_nil : Ends [] := by
  intro character isFirst
  cases isFirst

theorem tokens?_nil : tokens? [] = some [] := by
  rw [tokens?]

/-- Every plain value is read back from its one line. -/
theorem read?_write {value : Json} (plain : value.IsPlain) : read? (write value) = some value := by
  rw [← List.append_nil (write value)]
  exact read?_of_isCutInto plain plain.isCutInto_write ends_nil tokens?_nil

/-- Every plain value is read back from its lines. -/
theorem read?_pretty {value : Json} (plain : value.IsPlain) :
    read? (pretty value) = some value := by
  rw [← List.append_nil (pretty value)]
  exact read?_of_isCutInto plain (plain.isCutInto_writeLines 0) ends_nil tokens?_nil

/-- A line end behind a value does not matter. -/
theorem read?_pretty_newline {value : Json} (plain : value.IsPlain) :
    read? (pretty value ++ ['\n']) = some value := by
  apply read?_of_isCutInto plain (plain.isCutInto_writeLines 0) (ends_cons rfl _)
  rw [tokens?_of_isSpace rfl, tokens?_nil]

end ZoneServices.Json
