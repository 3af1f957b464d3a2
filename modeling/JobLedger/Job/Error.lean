import JobLedger.Disk.Basic
import JobLedger.Spec.Error
import JobLedger.Text.Numeral

/-!
# Job errors

What keeps a job from being submitted, and what keeps a caller from seeing
its outcome. A job that ran and failed is no error: that is its outcome.
-/

namespace JobLedger

/-- A span of milliseconds: whole milliseconds below a second, seconds with
as many decimal places as needed from there on. -/
def durationText (ms : UInt64) : String :=
  let n := ms.toNat
  let places := ((Numeral.padded 3 (n % 1000)).toList.reverse.dropWhile (· = '0')).reverse
  if n = 0 then "0ns"
  else if n < 1000 then s!"{n}ms"
  else if places = [] then s!"{n / 1000}s"
  else s!"{n / 1000}.{String.ofList places}s"

example : durationText 600000 = "600s" := by decide +kernel
example : durationText 1050 = "1.05s" := by decide +kernel

/-- What a job definition lacks. -/
inductive JobFault
  | noProducer
  | noOutput
deriving DecidableEq, Repr

def JobFault.message : JobFault → String
  | .noProducer => "no producer given"
  | .noOutput => "no output spec given"

/-- Why the output of a job cannot be written. -/
inductive OutputError
  | cannotCreate (dir : String) (cause : DiskError)
  | disk (cause : DiskError)
deriving DecidableEq, Repr

def OutputError.message : OutputError → String
  | .cannotCreate dir cause => s!"output error: cannot create {dir}: {cause.message}"
  | .disk cause => s!"output error: {cause.message}"

inductive JobError
  | spec (error : SpecError)
  | unknownProducer (name : String)
  | invalid (fault : JobFault)
  | timeout (jobId : String) (waited : UInt64)
deriving DecidableEq, Repr

def JobError.message : JobError → String
  | .spec error => error.message
  | .unknownProducer name => s!"unknown producer '{name}'"
  | .invalid fault => s!"invalid job: {fault.message}"
  | .timeout jobId waited => s!"job {jobId} did not complete within {durationText waited}"

end JobLedger
