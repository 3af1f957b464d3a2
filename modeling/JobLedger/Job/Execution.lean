import JobLedger.Job.Definition
import JobLedger.Job.PartFiles

/-!
# Running a job

The producer is given every input row in order, restricted to the columns
it asked for. The first row that fails ends the job, with the counters of
the rows before it; nothing is written then. Otherwise a text output is
written, and the job has succeeded if that works.

Three counters are kept by the engine itself and are always present: rows
processed, rows that emitted something, and rows that did not.
-/

namespace JobLedger.Execution

def processedCounter : String := "PRODUCER_ROWS_PROCESSED"
def emittedCounter : String := "PRODUCER_ROWS_EMITTED"
def skippedCounter : String := "PRODUCER_ROWS_SKIPPED"

/-- What the rows so far have counted and emitted. -/
structure Tally where
  counters : Counters
  outputs : List OutputRecord

/-- Counts a row that did not fail. -/
def addRow (t : Tally) (column key : String) (e : Emission) : Tally where
  counters :=
    ((t.counters.merge e.counters).increment processedCounter 1).increment
      (if e.values.isEmpty then skippedCounter else emittedCounter) 1
  outputs := t.outputs ++ e.values.map fun value => ⟨key, column, value⟩

/-- Why the rows of a job could not all be processed. -/
structure RowFailure where
  key : String
  message : String
  /-- What the rows before had counted. -/
  counters : Counters

def RowFailure.text (f : RowFailure) : String := s!"row '{f.key}': {f.message}"

/-- Hands rows to a producer until one fails. -/
def runRows (p : Producer) : Tally → List InputRow → Except RowFailure Tally
  | t, [] => .ok t
  | t, row :: rows =>
      let e := p.produce (row.project p.request)
      match e.failure with
      | some message => .error ⟨row.key, message, t.counters⟩
      | none => runRows p (addRow t p.outputColumn row.key e) rows

/-- Makes the engine's own counters present. -/
def complete (c : Counters) : Counters :=
  ((c.increment processedCounter 0).increment emittedCounter 0).increment skippedCounter 0

/-- Runs a job to its end. -/
def run (hash : String → Nat) (job : PreparedJob) (d : Disk) : Outcome × Disk :=
  match runRows job.producer ⟨.empty, []⟩ job.input with
  | .error f => (.failed f.text f.counters, d)
  | .ok t =>
      let done : Outcome := ⟨.succeeded, complete t.counters, t.outputs, none⟩
      if job.output.format = .text then
        match PartFiles.write hash job.output t.outputs d with
        | (.ok (), d) => (done, d)
        | (.error e, d) => (.failed e.message done.counters, d)
      else (done, d)

end JobLedger.Execution
