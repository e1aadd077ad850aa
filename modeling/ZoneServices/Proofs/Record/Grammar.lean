import ZoneServices.Proofs.Record
import ZoneServices.Proofs.Text.Gap

/-!
# The grammar of record lines

A record line is made of an owner, a time to live, a type and a payload, with the class in front of
the type if it is named, with gaps between them and with any blanks at both ends.  A line is written
out here from its words and its layout, which is all that it has besides them.

The reader takes exactly the lines that can be written in this way with words that tell a record.
What it reads is told by the words, whatever the layout is and however the words are spelt.
-/

namespace ZoneServices

open Text

/-- The word for the class is no word for a type. -/
theorem RecordType.read?_eq_none_of_className {word : Text}
    (isClass : sameFolded word Record.className = true) : read? word = none := by
  rw [read?_eq_of_fold_eq (sameFolded_iff.mp isClass)]
  decide +kernel

namespace Record

/-! ## Lines that are written out -/

/-- What may stand in front of the type: the class in any letter case and a gap, or nothing. -/
inductive IsClassPart : Text → Prop
  | absent : IsClassPart []
  | named {word gap : Text} (isClass : sameFolded word className = true) (isGap : IsGap gap) :
      IsClassPart (word ++ gap)

/-- What a line has besides its words. -/
structure Layout where
  before : Text
  behindOwner : Text
  behindTtl : Text
  classPart : Text
  behindType : Text
  after : Text

/-- Whether all parts of a layout are blank where they have to be. -/
structure Layout.IsProper (layout : Layout) : Prop where
  before : IsMargin layout.before
  behindOwner : IsGap layout.behindOwner
  behindTtl : IsGap layout.behindTtl
  classPart : IsClassPart layout.classPart
  behindType : IsGap layout.behindType
  after : IsMargin layout.after

/-- The line that has some words and a layout. -/
def Layout.line (layout : Layout) (words : Line) : Text :=
  [layout.before, words.owner, layout.behindOwner, words.ttl, layout.behindTtl, layout.classPart,
    words.type, layout.behindType, words.payload, layout.after].flatten

/-- Words that can stand in a line. -/
structure Line.IsProper (words : Line) : Prop where
  owner : IsWord words.owner
  ttl : IsWord words.ttl
  type : IsWord words.type
  payload : IsTrimmed words.payload
  filled : words.payload ≠ []

/-! ## Lines and their words -/

variable {layout : Layout} {words : Line}

theorem isWord_of_className {word : Text} (isClass : sameFolded word className = true) :
    IsWord word where
  solid := isSolid_of_fold_eq (sameFolded_iff.mp isClass).symm (isSolid_iff_all.mpr (by decide))
  nonempty := by
    rintro rfl
    exact absurd isClass (by decide)

/-- The type is found behind the class, if that is named. -/
theorem IsClassPart.isTypeWord {part : Text} (isClassPart : IsClassPart part)
    {margin word rest : Text} (isMargin : IsMargin margin) (isWord : IsWord word)
    (notClass : sameFolded word className = false) (behind : IsBehindWord rest) :
    IsTypeWord (margin ++ (part ++ (word ++ rest))) word rest := by
  cases isClassPart with
  | absent => exact .plain notClass (nextWord?_margin isMargin isWord behind)
  | named isClass isGap =>
      rw [List.append_assoc]
      exact .classed isClass
        (nextWord?_margin isMargin (isWord_of_className isClass) (isGap.isBehindWord _))
        (nextWord?_margin isGap.margin isWord behind)

theorem IsTypeWord.exists_classPart {text word rest : Text} (isTypeWord : IsTypeWord text word rest)
    (behind : IsBehindWord text) :
    IsWord word ∧ IsBehindWord rest ∧ ∃ gap part, IsGap gap ∧ IsClassPart part
      ∧ text = gap ++ (part ++ (word ++ rest)) := by
  cases isTypeWord with
  | plain notClass found =>
      rcases exists_gap_of_nextWord? behind found with ⟨isWord, restBehind, gap, isGap, rfl⟩
      exact ⟨isWord, restBehind, gap, [], isGap, .absent, rfl⟩
  | classed isClass first found =>
      rcases exists_gap_of_nextWord? behind first with ⟨_, classBehind, gap, isGap, rfl⟩
      rcases exists_gap_of_nextWord? classBehind found with ⟨isWord, restBehind, next, isNext, rfl⟩
      refine ⟨isWord, restBehind, gap, _, isGap, .named isClass isNext, ?_⟩
      rw [List.append_assoc]

/-- The words that a line was written from are found in it, unless the type is the class. -/
theorem read_layout_line (isProper : layout.IsProper) (areWords : words.IsProper)
    (notClass : sameFolded words.type className = false) :
    Line.read (layout.line words) = .ok words := by
  refine Line.read_eq_ok_iff.mpr ⟨_, _, _,
    nextWord?_margin isProper.before areWords.owner (isProper.behindOwner.isBehindWord _),
    nextWord?_margin isProper.behindOwner.margin areWords.ttl (isProper.behindTtl.isBehindWord _),
    isProper.classPart.isTypeWord isProper.behindTtl.margin areWords.type notClass
      (isProper.behindType.isBehindWord _), ?_⟩
  rw [List.flatten_cons, List.flatten_cons, List.flatten_singleton]
  exact trim_margins isProper.behindType.margin areWords.payload isProper.after

/-- A line with a payload is written from its words in a layout. -/
theorem exists_layout_of_read {text : Text} (read : Line.read text = .ok words)
    (filled : words.payload ≠ []) :
    words.IsProper ∧ ∃ layout : Layout, layout.IsProper ∧ text = layout.line words := by
  rcases Line.read_eq_ok_iff.mp read with ⟨_, _, behindType, owner, ttl, type, payload⟩
  rcases exists_margin_of_nextWord? owner with ⟨isOwner, ownerBehind, before, isBefore, rfl⟩
  rcases exists_gap_of_nextWord? ownerBehind ttl with
    ⟨isTtl, ttlBehind, behindOwner, isBehindOwner, rfl⟩
  rcases type.exists_classPart ttlBehind with
    ⟨isType, typeBehind, behindTtl, part, isBehindTtl, isClassPart, rfl⟩
  rcases exists_margins behindType with ⟨front, after, isFront, isAfter, cut⟩
  have trimmed := isTrimmed_trim behindType
  rw [payload] at cut trimmed
  subst cut
  rcases List.exists_cons_of_ne_nil filled with ⟨character, others, split⟩
  have first : (words.payload ++ after).head? = some character := by
    rw [split]
    rfl
  have solid : isBlank character = false := trimmed.first character (by rw [split]; rfl)
  have isBehindType : IsGap front := isFront.isGap typeBehind first solid
  refine ⟨⟨isOwner, isTtl, isType, trimmed, filled⟩,
    ⟨before, behindOwner, behindTtl, part, front, after⟩,
    ⟨isBefore, isBehindOwner, isBehindTtl, isClassPart, isBehindType, isAfter⟩, ?_⟩
  simp [Layout.line]

/-! ## What words tell -/

/-- A record is what the words of a line tell. -/
structure Line.Tells (words : Line) (record : Record) : Prop where
  owner : words.owner = record.owner
  named : ∃ name, Name.readAscii? words.owner = some name ∧ name.absolute = true
  ttl : Numeral.word32? words.ttl = some record.ttl
  type : RecordType.read? words.type = some record.type
  payload : Payload.normalize record.type words.payload = .ok record.payload

/-- Words for the same record that may be spelt in different ways. -/
structure Line.IsAlike (words others : Line) : Prop where
  owner : words.owner = others.owner
  ttl : Numeral.word32? words.ttl = Numeral.word32? others.ttl
  payload : ∃ type, RecordType.read? words.type = some type
    ∧ RecordType.read? others.type = some type
    ∧ ∀ payload, Payload.normalize type words.payload = .ok payload ↔
      Payload.normalize type others.payload = .ok payload

theorem checkOwner_iff_readAscii? {owner : Text} :
    checkOwner owner = .ok () ↔
      ∃ name, Name.readAscii? owner = some name ∧ name.absolute = true := by
  rw [checkOwner]
  cases Name.readAscii? owner with
  | none => simp
  | some name => cases absolute : name.absolute <;> simp [absolute]

/-- A line that is written out is read as a record exactly if its words tell the record. -/
theorem read_layout_line_eq_ok_iff (isProper : layout.IsProper) (areWords : words.IsProper)
    (known : (RecordType.read? words.type).isSome = true) {record : Record} :
    Record.read (layout.line words) = .ok record ↔ words.Tells record := by
  have notClass : sameFolded words.type className = false := by
    cases isClass : sameFolded words.type className with
    | false => rfl
    | true =>
        rw [RecordType.read?_eq_none_of_className isClass] at known
        cases known
  have cut := read_layout_line isProper areWords notClass
  rw [read_eq_ok_iff]
  constructor
  · rintro ⟨found, read, owner, ttl, type, checked, _, payload⟩
    rw [cut] at read
    cases read
    exact ⟨owner, checkOwner_iff_readAscii?.mp checked, ttl, type, payload⟩
  · rintro ⟨owner, named, ttl, type, payload⟩
    exact ⟨words, cut, owner, ttl, type, checkOwner_iff_readAscii?.mpr named, areWords.filled,
      payload⟩

/-- Words that are alike tell the same record. -/
theorem Line.IsAlike.tells_iff {others : Line} (alike : words.IsAlike others) {record : Record} :
    words.Tells record ↔ others.Tells record := by
  rcases alike with ⟨owner, ttl, type, first, second, payload⟩
  constructor
  · rintro ⟨sameOwner, named, sameTtl, sameType, samePayload⟩
    rw [first] at sameType
    cases sameType
    exact ⟨owner ▸ sameOwner, owner ▸ named, ttl ▸ sameTtl, second, (payload _).mp samePayload⟩
  · rintro ⟨sameOwner, named, sameTtl, sameType, samePayload⟩
    rw [second] at sameType
    cases sameType
    exact ⟨owner ▸ sameOwner, owner ▸ named, ttl ▸ sameTtl, first, (payload _).mpr samePayload⟩

/--
A text is read as a record exactly if it can be written out, in some layout, from words that tell
the record.  What is read does not depend on the layout, nor on how the words are spelt: words with
the same owner, the same number, the same type and a payload of the same canonical form give the
same record, and the letter case of the word for the type does not matter to the type.
-/
theorem read_iff_exists_layout (text : Text) (record : Record) :
    (Record.read text = .ok record ↔
      ∃ (layout : Layout) (words : Line), layout.IsProper ∧ words.IsProper ∧ words.Tells record
        ∧ text = layout.line words)
    ∧ (∀ (layout other : Layout) (words others : Line), layout.IsProper → other.IsProper →
        words.IsProper → others.IsProper → words.IsAlike others →
        (Record.read (layout.line words) = .ok record ↔
          Record.read (other.line others) = .ok record))
    ∧ ∀ word same : Text, fold word = fold same →
        RecordType.read? word = RecordType.read? same := by
  refine ⟨⟨?_, ?_⟩, ?_, fun _ _ => RecordType.read?_eq_of_fold_eq⟩
  · intro read
    rcases read_eq_ok_iff.mp read with ⟨words, cut, owner, ttl, type, checked, filled, payload⟩
    rcases exists_layout_of_read cut filled with ⟨areWords, layout, isProper, written⟩
    exact ⟨layout, words, isProper, areWords,
      ⟨owner, checkOwner_iff_readAscii?.mp checked, ttl, type, payload⟩, written⟩
  · rintro ⟨layout, words, isProper, areWords, tells, rfl⟩
    have known : (RecordType.read? words.type).isSome = true := by
      rw [tells.type]
      rfl
    exact (read_layout_line_eq_ok_iff isProper areWords known).mpr tells
  · intro layout other words others isProper otherIsProper areWords areOthers alike
    rcases alike.payload with ⟨type, first, second, _⟩
    rw [read_layout_line_eq_ok_iff isProper areWords (Option.isSome_of_eq_some first),
      read_layout_line_eq_ok_iff otherIsProper areOthers (Option.isSome_of_eq_some second)]
    exact alike.tells_iff

end Record

end ZoneServices
