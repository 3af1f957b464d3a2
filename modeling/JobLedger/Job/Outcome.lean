import JobLedger.Record.Basic

/-!
# Outcomes

How a job ended: its status, what it counted, what it emitted, and the
first error of a failed job.
-/

namespace JobLedger

/-- An emitted value with the key of the row it came from. -/
structure OutputRecord where
  key : String
  column : String
  value : String
deriving DecidableEq, Repr

structure Outcome where
  status : JobStatus
  counters : Counters
  outputs : List OutputRecord
  error : Option String
deriving DecidableEq

namespace Outcome

def failed (error : String) (counters : Counters) : Outcome := ⟨.failed, counters, [], some error⟩

/-- The outcome of a job whose worker ended without a word. -/
def abandoned : Outcome := failed "job worker exited without reporting an outcome" .empty

def isSuccessful (o : Outcome) : Bool := o.status = .succeeded

end Outcome

end JobLedger
