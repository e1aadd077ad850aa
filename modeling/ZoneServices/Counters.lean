import ZoneServices.Directory
import ZoneServices.Text.Numeral

/-!
# Counters

Counters tell how many analyses succeeded and failed, which kinds of services they recognized,
how many records were kept as orphans or dropped, and of which kinds services could not write
their records.  They are shown in the text format of Prometheus; a counter with labels shows
only the labels that something was counted under.

How long analyses take is no matter of the counters; of the durations only their number is
shown.
-/

namespace ZoneServices

/-- What has been counted. -/
structure Counters where
  succeeded : Nat := 0
  failed : Nat := 0
  recognized : Directory Nat := ∅
  orphans : Nat := 0
  dropped : Nat := 0
  /-- Services that could not write their records, by kind. -/
  unwritten : Directory Nat := ∅

namespace Counters

/-! ## Counting -/

/-- One more under a key, which starts from nothing. -/
def countUnder (directory : Directory Nat) (key : Text) : Directory Nat :=
  directory.alter key fun count => count.getD 0 + 1

/-- Counts an analysis that was given up. -/
def countFailure (counters : Counters) : Counters :=
  { counters with failed := counters.failed + 1 }

/-- Counts an analysis that came to its end. -/
def countSuccess (counters : Counters) : Counters :=
  { counters with succeeded := counters.succeeded + 1 }

/-- Counts a service that was recognized. -/
def countRecognized (counters : Counters) (kind : Text) : Counters :=
  { counters with recognized := countUnder counters.recognized kind }

/-- Counts the records that no recognizer has claimed: orphans, and those that were dropped. -/
def countLeftovers (counters : Counters) (orphans dropped : Nat) : Counters :=
  { counters with
    orphans := counters.orphans + orphans
    dropped := counters.dropped + dropped }

/-- Counts a service that could not write its records. -/
def countUnwritten (counters : Counters) (kind : Text) : Counters :=
  { counters with unwritten := countUnder counters.unwritten kind }

/-! ## Exposition -/

/-- A sample of a family: its label, if it has one, and its value. -/
structure Sample where
  label : Option (String × Text)
  value : Nat

/-- The value of a label, with backslashes, quotes and ends of lines escaped. -/
def writeLabelValue (value : Text) : Text :=
  value.flatMap fun character =>
    if character = '\\' then ['\\', '\\']
    else if character = '"' then ['\\', '"']
    else if character = '\n' then ['\\', 'n']
    else [character]

/-- The line of a sample. -/
def Sample.write (name : String) (sample : Sample) : Text :=
  let label : Text :=
    match sample.label with
    | none => []
    | some (key, value) =>
      '\x7b' :: key.toList ++ '=' :: '"' :: writeLabelValue value ++ ['"', '\x7d']
  name.toList ++ label ++ ' ' :: Numeral.decimal sample.value

/-- The lines of a family whose samples may be named apart from it; none without samples. -/
def writeFamily (name help kind sampleName : String) (samples : List Sample) : List Text :=
  if samples.isEmpty then
    []
  else
    ("# HELP " ++ name ++ " " ++ help).toList :: ("# TYPE " ++ name ++ " " ++ kind).toList
      :: samples.map (Sample.write sampleName)

/-- One sample for each key of a directory, with the key as the value of a label. -/
def samplesOf (key : String) (directory : Directory Nat) : List Sample :=
  directory.entries.map fun entry => ⟨some (key, entry.1), entry.2⟩

/-- The numbers of analyses by the way in which they ended, as far as there were any. -/
def outcomeSamples (counters : Counters) : List Sample :=
  (if counters.failed = 0 then [] else [⟨some ("status", "error".toList), counters.failed⟩])
    ++ if counters.succeeded = 0 then []
       else [⟨some ("status", "success".toList), counters.succeeded⟩]

/-- All families in the text format, in the order of their names. -/
def expose (counters : Counters) : List Text :=
  writeFamily "dnsvc_analyses_total" "Total number of zone analysis passes by status" "counter"
    "dnsvc_analyses_total" counters.outcomeSamples
  ++ writeFamily "dnsvc_analysis_duration_seconds" "Duration of zone analysis passes in seconds"
    "histogram" "dnsvc_analysis_duration_seconds_count" counters.outcomeSamples
  ++ writeFamily "dnsvc_dropped_records_total" "Total number of records dropped during analysis"
    "counter" "dnsvc_dropped_records_total" [⟨none, counters.dropped⟩]
  ++ writeFamily "dnsvc_orphan_records_total" "Total number of records wrapped as orphan services"
    "counter" "dnsvc_orphan_records_total" [⟨none, counters.orphans⟩]
  ++ writeFamily "dnsvc_services_recognized_total"
    "Total number of services produced by recognizers by service type" "counter"
    "dnsvc_services_recognized_total" (samplesOf "service_type" counters.recognized)
  ++ writeFamily "dnsvc_synthesis_failures_total"
    "Total number of services unable to generate their records by service type" "counter"
    "dnsvc_synthesis_failures_total" (samplesOf "service_type" counters.unwritten)

end Counters

end ZoneServices
