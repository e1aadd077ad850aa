import Mathlib.Data.List.Forall2
import ZoneServices.CommandLine.Run
import ZoneServices.Proofs.Record.Canonical
import ZoneServices.Proofs.Record.Grammar
import ZoneServices.Proofs.Text.Lines

/-!
# Listings of records, line by line

A listing is read line by line.  Lines are numbered before any is passed over, so the place of a
faulty line is the one that it has in the text, and the first faulty line ends the reading.  A
listing without a faulty line is read as the records of its lines, none lost and none added.

Records that were read from single lines can be written out, one on each line.  No canonical text of
such a record falls apart into several lines, and none is passed over as long as its owner does not
start like a comment.  So what is written out is read back, unless a record has the type of number
zero, whose canonical text is not read.
-/

namespace ZoneServices

open Text

namespace Record

/-! ## Lines that hold no record -/

/-- A line that holds no record: a blank line, or a comment behind a semicolon. -/
def IsPassedOver (line : Text) : Prop :=
  IsMargin line ∨ ∃ margin comment, IsMargin margin ∧ line = margin ++ ';' :: comment

theorem head?_trim_comment {margin : Text} (isMargin : IsMargin margin) (comment : Text) :
    (trim (margin ++ ';' :: comment)).head? = some ';' := by
  have start : (margin ++ ';' :: comment).dropWhile isBlank = ';' :: comment :=
    dropWhile_margin isMargin _
  have kept : ';' ∈ trim (margin ++ ';' :: comment) := by
    rw [trim, start]
    exact mem_dropEndWhile List.mem_cons_self (by decide)
  rcases List.exists_cons_of_ne_nil (List.ne_nil_of_mem kept) with ⟨first, rest, trimmed⟩
  have found : (dropEndWhile isBlank (';' :: comment)).head? = some first := by
    rw [← start]
    exact congrArg List.head? trimmed
  rw [trimmed]
  exact (head?_dropEndWhile found).symm

/-- The reader skips just the lines that hold no record. -/
theorem isSkipped_iff {line : Text} : isSkipped line = true ↔ IsPassedOver line := by
  rw [isSkipped]
  constructor
  · intro skipped
    rcases exists_margins line with ⟨before, after, isBefore, _, whole⟩
    split at skipped
    · rename_i trimmed
      exact .inl (trim_eq_nil_iff.mp trimmed)
    · rename_i first rest trimmed
      rw [trimmed, beq_iff_eq.mp skipped] at whole
      exact .inr ⟨before, rest ++ after, isBefore, whole⟩
  · rintro (blank | ⟨margin, comment, isMargin, rfl⟩)
    · rw [trim_eq_nil_iff.mpr blank]
    · have first := head?_trim_comment isMargin comment
      split
      · rfl
      · rename_i trimmed
        rw [trimmed] at first
        cases first
        rfl

instance : DecidablePred IsPassedOver :=
  fun _ => decidable_of_iff _ isSkipped_iff

/-! ## Reading line by line -/

/-- A line that can stand in a listing. -/
def IsListable (line : Text) : Prop :=
  IsPassedOver line ∨ ∃ record, read line = .ok record

/-- The lines of a listing that hold records. -/
def recordLines (lines : List Text) : List Text :=
  lines.filter fun line => ¬ IsPassedOver line

/-- The first faulty line of a listing, whose lines are counted on from a place. -/
def IsFirstFault (place : Nat) (lines : List Text) (error : ListingError) : Prop :=
  ∃ before line after, lines = before ++ line :: after ∧ error.line = place + before.length
    ∧ (∀ earlier ∈ before, IsListable earlier)
    ∧ ¬ IsPassedOver line ∧ read line = .error error.cause

variable {place : Nat} {line : Text} {rest : List Text} {error : ListingError}

theorem not_isListable {cause : RecordError} (holds : ¬ IsPassedOver line)
    (refused : read line = .error cause) : ¬ IsListable line := by
  rintro (passed | ⟨record, accepted⟩)
  · exact holds passed
  · rw [refused] at accepted
    cases accepted

/-- A line without fault moves the search for one to the next line. -/
theorem isFirstFault_cons_of_isListable (listable : IsListable line) :
    IsFirstFault place (line :: rest) error ↔ IsFirstFault (place + 1) rest error := by
  constructor
  · rintro ⟨before, faulty, after, cut, counted, earlier, holds, refused⟩
    cases before with
    | nil =>
        cases cut
        exact absurd listable (not_isListable holds refused)
    | cons first others =>
        cases cut
        refine ⟨others, faulty, after, rfl, ?_, (List.forall_mem_cons.mp earlier).2, holds, refused⟩
        rw [counted, List.length_cons]
        omega
  · rintro ⟨before, faulty, after, rfl, counted, earlier, holds, refused⟩
    refine ⟨line :: before, faulty, after, rfl, ?_, List.forall_mem_cons.mpr ⟨listable, earlier⟩,
      holds, refused⟩
    rw [counted, List.length_cons]
    omega

/-- A refused line is the first fault if no line stands before it. -/
theorem isFirstFault_cons_of_refused {cause : RecordError} (holds : ¬ IsPassedOver line)
    (refused : read line = .error cause) :
    IsFirstFault place (line :: rest) error ↔ error = ⟨place, cause⟩ := by
  constructor
  · rintro ⟨before, faulty, after, cut, counted, earlier, _, faultyRefused⟩
    cases before with
    | nil =>
        cases cut
        rw [refused] at faultyRefused
        cases error
        cases counted
        cases faultyRefused
        rfl
    | cons first others =>
        cases cut
        exact absurd (earlier _ List.mem_cons_self) (not_isListable holds refused)
  · rintro rfl
    exact ⟨[], line, rest, rfl, rfl, nofun, holds, refused⟩

/-- How a line and the reading of the lines after it make the reading of them all. -/
inductive ReadsFrom (place : Nat) (line : Text) (rest : List Text) : Prop
  | passed (passed : IsPassedOver line)
      (reading : readLines place (line :: rest) = readLines (place + 1) rest)
  | refused {cause : RecordError} (holds : ¬ IsPassedOver line) (refused : read line = .error cause)
      (reading : readLines place (line :: rest) = .error ⟨place, cause⟩)
  | accepted {record : Record} (holds : ¬ IsPassedOver line) (accepted : read line = .ok record)
      (reading : readLines place (line :: rest) =
        (readLines (place + 1) rest).map (record :: ·))

/-- Each line is passed over, read or refused. -/
theorem readsFrom (place : Nat) (line : Text) (rest : List Text) : ReadsFrom place line rest := by
  by_cases passed : IsPassedOver line
  · refine .passed passed ?_
    rw [readLines, if_pos (isSkipped_iff.mpr passed)]
  · have kept : ¬ isSkipped line = true := fun skipped => passed (isSkipped_iff.mp skipped)
    cases found : read line with
    | error cause =>
        refine .refused passed found ?_
        rw [readLines, if_neg kept, found]
    | ok record =>
        refine .accepted passed found ?_
        rw [readLines, if_neg kept, found]
        dsimp only
        cases readLines (place + 1) rest <;> rfl

theorem recordLines_cons_of_passed (passed : IsPassedOver line) :
    recordLines (line :: rest) = recordLines rest :=
  List.filter_cons_of_neg (by simpa using passed)

theorem recordLines_cons_of_holds (holds : ¬ IsPassedOver line) :
    recordLines (line :: rest) = line :: recordLines rest :=
  List.filter_cons_of_pos (by simpa using holds)

/-- What is read of some lines are the records of the lines that hold one, in their order. -/
theorem readLines_eq_ok_iff {lines : List Text} {records : List Record} :
    readLines place lines = .ok records ↔
      List.Forall₂ (fun line record => read line = .ok record) (recordLines lines) records := by
  induction lines generalizing place records with
  | nil =>
      rw [readLines, Except.ok.injEq, recordLines, List.filter_nil, List.forall₂_nil_left_iff,
        eq_comm]
  | cons line rest step =>
      cases readsFrom place line rest with
      | passed passed reading => rw [reading, recordLines_cons_of_passed passed, step]
      | refused holds refused reading =>
          rw [reading, recordLines_cons_of_holds holds, List.forall₂_cons_left_iff]
          simp [refused]
      | accepted holds accepted reading =>
          rw [reading, recordLines_cons_of_holds holds, List.forall₂_cons_left_iff]
          constructor
          · intro made
            cases others : readLines (place + 1) rest with
            | error error =>
                rw [others] at made
                cases made
            | ok found =>
                rw [others] at made
                cases made
                exact ⟨_, found, accepted, step.mp others, rfl⟩
          · rintro ⟨record, found, isRecord, others, rfl⟩
            rw [accepted] at isRecord
            cases isRecord
            rw [step.mpr others]
            rfl

/-- Reading stops at the first fault. -/
theorem readLines_eq_error_iff {lines : List Text} :
    readLines place lines = .error error ↔ IsFirstFault place lines error := by
  induction lines generalizing place with
  | nil =>
      refine iff_of_false nofun ?_
      rintro ⟨before, faulty, after, cut, _⟩
      simp at cut
  | cons line rest step =>
      cases readsFrom place line rest with
      | passed passed reading =>
          rw [reading, isFirstFault_cons_of_isListable (.inl passed), step]
      | refused holds refused reading =>
          rw [reading, isFirstFault_cons_of_refused holds refused, Except.error.injEq, eq_comm]
      | accepted holds accepted reading =>
          rw [reading, isFirstFault_cons_of_isListable (.inr ⟨_, accepted⟩), ← step]
          cases readLines (place + 1) rest <;> simp [Except.map]

/-- Lines are read exactly if each of them can stand in a listing. -/
theorem exists_readLines_iff {lines : List Text} :
    (∃ records, readLines place lines = .ok records) ↔ ∀ line ∈ lines, IsListable line := by
  constructor
  · rintro ⟨records, made⟩ line member
    by_cases passed : IsPassedOver line
    · exact .inl passed
    · have kept : line ∈ recordLines lines := List.mem_filter.mpr ⟨member, by simpa using passed⟩
      rcases List.mem_iff_getElem.mp kept with ⟨index, bound, rfl⟩
      have each := readLines_eq_ok_iff.mp made
      exact .inr ⟨_, each.get bound (each.length_eq ▸ bound)⟩
  · intro listable
    cases made : readLines place lines with
    | ok records => exact ⟨records, rfl⟩
    | error error =>
        rcases readLines_eq_error_iff.mp made with ⟨before, line, after, rfl, _, _, holds, refused⟩
        exact absurd (listable line (by simp)) (not_isListable holds refused)

/-! ## Records written out -/

/-- A record that was read from a single line and whose owner does not start like a comment. -/
structure IsFromLine (record : Record) : Prop where
  line : ∃ line, '\n' ∉ line ∧ read line = .ok record
  owner : record.owner.head? ≠ some ';'

variable {record : Record}

/-- The payload of a record that was read from a single line has no line feed. -/
theorem lineFeed_not_mem_payload {text : Text} (free : '\n' ∉ text)
    (accepted : read text = .ok record) : '\n' ∉ record.payload := by
  rcases read_eq_ok_iff.mp accepted with ⟨words, cut, _, _, _, _, filled, normalized⟩
  rcases exists_layout_of_read cut filled with ⟨_, layout, _, rfl⟩
  refine Payload.lineFeed_not_mem_normalize normalized fun member => free ?_
  exact List.mem_flatten.mpr ⟨words.payload, by simp, member⟩

/--
The canonical text of a record is taken for a comment exactly if its owner starts with a semicolon.
-/
theorem isPassedOver_write_iff (isRead : IsRead record) :
    IsPassedOver record.write ↔ record.owner.head? = some ';' := by
  rcases List.exists_cons_of_ne_nil isRead.named with ⟨first, others, owner⟩
  have solid : isBlank first = false :=
    isRead.solid first (owner ▸ List.mem_cons_self)
  have starts : ∃ behind, record.write = first :: behind := by
    rw [write, owner]
    exact ⟨_, rfl⟩
  rcases starts with ⟨behind, written⟩
  rw [owner, List.head?_cons, Option.some.injEq, written]
  constructor
  · rintro (blank | ⟨margin, comment, isMargin, same⟩)
    · rw [blank first List.mem_cons_self] at solid
      cases solid
    -- The owner is solid, so the margin in front of the semicolon can only be empty.
    · cases margin with
      | nil => exact (List.cons.inj same).1
      | cons blank more =>
          cases same
          rw [isMargin first List.mem_cons_self] at solid
          cases solid
  · rintro rfl
    exact .inr ⟨[], behind, nofun, rfl⟩

/-- The payload ends the canonical text and is trimmed, so no carriage return ends the text. -/
theorem getLast?_write_ne_return (isRead : IsRead record) :
    record.write.getLast? ≠ some '\r' := by
  rcases List.eq_nil_or_concat record.payload with none | ⟨front, last, payload⟩
  · exact absurd none isRead.nonempty
  · rw [List.concat_eq_append] at payload
    have solid := isRead.trimmed.last last (by rw [payload, List.getLast?_concat])
    have ends : record.write.getLast? = some last := by
      rw [write, payload, ← List.cons_append, ← List.append_assoc, List.getLast?_concat]
    rw [ends]
    rintro ⟨⟩
    cases solid

namespace IsFromLine

theorem isRead (isFromLine : IsFromLine record) : IsRead record := by
  rcases isFromLine.line with ⟨_, _, accepted⟩
  exact isRead_of_read accepted

/-- The canonical text of a record that came from a line stays on one line. -/
theorem lineFeed_not_mem_write (isFromLine : IsFromLine record) : '\n' ∉ record.write := by
  rcases isFromLine.line with ⟨text, free, accepted⟩
  have inOwner := Payload.lineFeed_not_mem_of_isSolid isFromLine.isRead.solid
  have inTtl := Payload.lineFeed_not_mem_of_isSolid (Numeral.isSolid_decimal record.ttl.toNat)
  have inType := Payload.lineFeed_not_mem_of_isSolid (RecordType.isSolid_write record.type)
  have inPayload := lineFeed_not_mem_payload free accepted
  have inClass : '\n' ∉ className := by decide
  simp [write, inOwner, inTtl, inType, inPayload, inClass]

/-- The canonical text is one line, from which the end of the line takes nothing. -/
theorem single (isFromLine : IsFromLine record) :
    '\n' ∉ record.write ∧ record.write.getLast? ≠ some '\r' :=
  ⟨isFromLine.lineFeed_not_mem_write, getLast?_write_ne_return isFromLine.isRead⟩

/-- A record that came from a line is read back unless its type is zero. -/
theorem read_write_iff_type (isFromLine : IsFromLine record) :
    read record.write = .ok record ↔ record.type ≠ .zero := by
  constructor
  · intro again zero
    rw [read_write_zero isFromLine.isRead zero] at again
    cases again
  · exact read_write isFromLine.isRead

end IsFromLine

/-- No canonical text is passed over when records are read back. -/
theorem recordLines_map_write {records : List Record}
    (fromLines : ∀ record ∈ records, IsFromLine record) :
    recordLines (records.map write) = records.map write := by
  refine List.filter_eq_self.mpr ?_
  intro line member
  rcases List.mem_map.mp member with ⟨record, inRecords, rfl⟩
  have isFromLine := fromLines record inRecords
  simpa [isPassedOver_write_iff isFromLine.isRead] using isFromLine.owner

/-- Canonical texts that stand one on each line are read back unless one is of type zero. -/
theorem readLines_map_write_iff {records : List Record}
    (fromLines : ∀ record ∈ records, IsFromLine record) :
    readLines place (records.map write) = .ok records ↔
      ∀ record ∈ records, record.type ≠ .zero := by
  rw [readLines_eq_ok_iff, recordLines_map_write fromLines, List.forall₂_map_left_iff,
    List.forall₂_same]
  exact forall₂_congr fun record member => (fromLines record member).read_write_iff_type

end Record

/-! ## Analyzing a listing -/

namespace CommandLine

variable {text : Text} {error : Record.ListingError}

theorem loadInput_of_inputOctets {m : Type → Type} [Monad m] [LawfulMonad m]
    (system : CommandSystem m) (given : system.inputOctets = pure (Utf8.encode text)) :
    loadInput system none = pure (.ok text) := by
  rw [loadInput, given]
  simp only [pure_bind, Utf8.decode?_encode]

/-- A refused listing ends the command with the error of the listing. -/
theorem analyzeText_of_refused (refused : Record.readListing text = .error error)
    (settings : Settings) (origin : Text) (now : Timestamp) :
    analyzeText settings origin text now = .error (.listing error) := by
  rw [analyzeText, refused]
  rfl

/-- A listing with a faulty line is not analyzed: the command fails and has no output. -/
theorem run_analyze_of_refused {m : Type → Type} [Monad m] [LawfulMonad m]
    (system : CommandSystem m) (origin : Text) {input : Option Text} (settings : Option Text)
    (maxRecords : Option Nat) (given : loadInput system input = pure (.ok text))
    (refused : Record.readListing text = .error error) :
    run system (.analyze origin input settings maxRecords) = (do
      match ← loadSettings system settings maxRecords with
      | .error error => return .failed error
      | .ok _ =>
        let _ ← system.now
        return .failed (.listing error)) := by
  rw [run, given]
  apply bind_congr
  intro loaded
  cases loaded with
  | error error => rfl
  | ok settings => simp only [pure_bind, analyzeText_of_refused refused]

end CommandLine

namespace Record

/-! ## Listings -/

/--
A listing is read if every line of its text can stand in one, as the records of the lines that hold
one in their order; otherwise its first faulty line is reported, by its place among all lines, and
the listing is not analyzed.  Canonical texts of records that were read from single lines are lines
of their own, and are read back exactly if no record has the type of number zero.
-/
theorem readListing_by_lines (text : Text) :
    (∀ found, Breaks text found ↔ lines text = found)
      ∧ ((∃ records, readListing text = .ok records) ↔
        ∀ line ∈ lines text, IsPassedOver line ∨ ∃ record, read line = .ok record)
      ∧ (∀ records, readListing text = .ok records ↔
        List.Forall₂ (fun line record => read line = .ok record)
          ((lines text).filter fun line => ¬ IsPassedOver line) records)
      ∧ (∀ error, readListing text = .error error ↔ IsFirstFault 1 (lines text) error)
      ∧ (∀ error, readListing text = .error error →
        (∀ settings origin now,
          CommandLine.analyzeText settings origin text now = .error (.listing error))
        ∧ ∀ {m : Type → Type} [Monad m] [LawfulMonad m] (system : CommandSystem m) (origin : Text)
            (input settings : Option Text) (maxRecords : Option Nat),
          CommandLine.loadInput system input = pure (.ok text) →
          CommandLine.run system (.analyze origin input settings maxRecords) = (do
            match ← CommandLine.loadSettings system settings maxRecords with
            | .error error => return .failed error
            | .ok _ =>
              let _ ← system.now
              return .failed (.listing error)))
      ∧ ∀ records, (∀ record ∈ records, IsFromLine record) →
        (∀ ending ∈ lineEnds,
          lines (records.flatMap fun record => record.write ++ ending) = records.map write)
        ∧ (lines text = records.map write →
          (readListing text = .ok records ↔ ∀ record ∈ records, record.type ≠ .zero)) := by
  refine ⟨fun _ => breaks_iff, exists_readLines_iff, fun _ => readLines_eq_ok_iff,
    fun _ => readLines_eq_error_iff, ?_, ?_⟩
  · intro error refused
    refine ⟨CommandLine.analyzeText_of_refused refused, ?_⟩
    intro m _ _ system origin input settings maxRecords given
    exact CommandLine.run_analyze_of_refused system origin settings maxRecords given refused
  · intro records fromLines
    constructor
    · intro ending isEnd
      have singles : ∀ line ∈ records.map write, '\n' ∉ line ∧ line.getLast? ≠ some '\r' := by
        intro line member
        rcases List.mem_map.mp member with ⟨record, inRecords, rfl⟩
        exact (fromLines record inRecords).single
      have broken := breaks_flatMap isEnd singles
      rw [List.flatMap_map] at broken
      exact broken.lines_eq
    · intro written
      rw [readListing, written]
      exact readLines_map_write_iff fromLines

/-- A listing with a comment, a blank line and both ends of lines; the last line has none. -/
def mixedListing : Text :=
  "; zone\r\n \n\twww.example.com. 300 in A 192.0.2.1\r\n ;x\nexample.com. 5 Type16 a\\010b".toList

/-- An address, and a text with the end of a line in it. -/
def mixedRecords : List Record :=
  [⟨"www.example.com.".toList, .a, 300, "192.0.2.1".toList⟩,
    ⟨"example.com.".toList, .txt, 5, "\"a\\010b\"".toList⟩]

/-- A listing whose third line lacks all but an owner. -/
def brokenListing : Text :=
  "; zone\n\nbroken\n".toList

/-- A computer without files, on which the broken listing is typed in. -/
def brokenSystem : CommandSystem Id where
  fileOctets _ := none
  inputOctets := Utf8.encode brokenListing
  now := .epoch

theorem readListing_by_lines_of_mixedListing :
    (readListing mixedListing = .ok mixedRecords
      ∧ (∀ record ∈ mixedRecords, IsFromLine record)
      ∧ readListing (mixedRecords.flatMap fun record => record.write ++ ['\r', '\n']) =
        .ok mixedRecords)
    ∧ readListing brokenListing = .error ⟨3, .missingField "broken".toList .ttl⟩
    ∧ CommandLine.run brokenSystem (.analyze "example.com".toList none none none) =
        .failed (.listing ⟨3, .missingField "broken".toList .ttl⟩) := by
  have read : readListing mixedListing = .ok mixedRecords := by decide +kernel
  have fromLines : ∀ record ∈ mixedRecords, IsFromLine record := by
    refine List.forall_mem_cons.mpr ⟨?_, List.forall_mem_singleton.mpr ?_⟩
    · exact ⟨⟨"www.example.com. 300 in A 192.0.2.1".toList, by decide, by decide +kernel⟩,
        by decide⟩
    · exact ⟨⟨"example.com. 5 Type16 a\\010b".toList, by decide, by decide +kernel⟩, by decide⟩
  have refused : readListing brokenListing = .error ⟨3, .missingField "broken".toList .ttl⟩ := by
    decide +kernel
  have given : CommandLine.loadInput brokenSystem none = pure (.ok brokenListing) :=
    CommandLine.loadInput_of_inputOctets brokenSystem rfl
  refine ⟨⟨read, fromLines, ?_⟩, refused, ?_⟩
  · rcases (readListing_by_lines _).2.2.2.2.2 mixedRecords fromLines with ⟨single, readBack⟩
    exact (readBack (single _ (by decide))).mpr (by decide)
  · exact ((readListing_by_lines brokenListing).2.2.2.2.1 _ refused).2 brokenSystem
      "example.com".toList none none none given

/-- Not every list of records that were read from single lines is read back. -/
theorem not_readListing_of_zeroRecord :
    read "example.com. 300 IN TYPE0 x".toList = .ok zeroRecord
      ∧ zeroRecord.owner.head? ≠ some ';'
      ∧ readListing ([zeroRecord].flatMap fun record => record.write ++ ['\n']) =
        .error ⟨1, .unknownType "example.com. 300 IN ZERO x".toList "ZERO".toList⟩ := by
  decide +kernel

end Record

end ZoneServices
