import ZoneServices.Text.Numeral

/-!
# Failures of an analysis

An analysis either succeeds as a whole or fails with one error.  A recognizer may fail with an
error of the analysis itself, a refused claim for instance, or with a complaint of its own; it
may put contexts around either. The error of an analysis is found below any contexts, and a
complaint becomes an error that names the recognizer and shows all contexts.
-/

namespace ZoneServices

/-- Why a claim on a record is refused. -/
inductive ClaimFault where
  | unknown (id : Nat)
  | taken (id : Nat)
  /-- There is no service of the kind at the place that the record was to be added to. -/
  | otherKind (kind : Text) (index : Nat) (subdomain : Text)
deriving DecidableEq, Repr

/-- Why an analysis fails. -/
inductive AnalysisError where
  | recognizerFailure (kind reason : Text)
  | claimInconsistency (kind : Text) (fault : ClaimFault)
  | tooManyRecords (origin : Text) (count limit : Nat)
deriving DecidableEq, Repr

/-- What is said of a refused claim. -/
def ClaimFault.message : ClaimFault → String
  | .unknown id => s!"record #{id} does not exist"
  | .taken id => s!"record #{id} is already claimed"
  | .otherKind kind index subdomain =>
    let kind := String.ofList kind
    let subdomain := Text.quoted subdomain
    s!"no {kind} service at slot {index} of {subdomain}"

/-- What is said of a failed analysis. -/
def AnalysisError.message : AnalysisError → String
  | .recognizerFailure kind reason =>
    let kind := Text.quoted kind
    let reason := String.ofList reason
    s!"Service analyzer {kind} failed: {reason}"
  | .claimInconsistency kind fault =>
    let kind := Text.quoted kind
    let reason := fault.message
    s!"Service analyzer {kind} claimed an unavailable record: {reason}"
  | .tooManyRecords origin count limit =>
    let origin := Text.quoted origin
    s!"Zone {origin} has {count} records, above the limit of {limit}"

/-- What went wrong first in a recognizer. -/
inductive Failure.Cause where
  | analysis (error : AnalysisError)
  | complaint (text : Text)
deriving DecidableEq, Repr

/-- A failure of a recognizer. -/
structure Failure where
  cause : Failure.Cause
  /-- The contexts around the cause, the outermost one first. -/
  contexts : List Text := []
deriving DecidableEq, Repr

namespace Failure

/-- An error of the analysis as a failure, without contexts. -/
def ofError (error : AnalysisError) : Failure := ⟨.analysis error, []⟩

/-- A complaint as a failure, without contexts. -/
def ofComplaint (text : Text) : Failure := ⟨.complaint text, []⟩

/-- A failure with another context around all others. -/
def within (failure : Failure) (context : Text) : Failure :=
  { failure with contexts := context :: failure.contexts }

/-- The error that an analysis ends with when the recognizer of a kind fails. -/
def toError (failure : Failure) (kind : Text) : AnalysisError :=
  match failure.cause with
  | .analysis error => error
  | .complaint text =>
    .recognizerFailure kind (Text.joined [':', ' '] (failure.contexts ++ [text]))

end Failure

end ZoneServices
