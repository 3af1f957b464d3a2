import JobLedger.History.Columns
import JobLedger.History.Error
import JobLedger.Text.Blank

/-!
# Job records as rows

A record is spread over the cells of one row, each holding text: times as
decimal digits, the status by its name, counters as their JSON text. The
three kinds of writes - the start of a job, its end, an extension - touch
disjoint sets of cells besides the job id, so they may come in any order.

`RecordRow.decode` reads a row back. A cell that was never written leaves
its field absent; a cell that does not read makes the row corrupt, and the
first such cell in the order below is the one reported.
-/

namespace JobLedger.RecordRow

/-- The cells written when a job starts. -/
def startCells (jobId jobName : String) (startTime : UInt64) (configuration : String) :
    List Cell :=
  [.ofText Columns.info Columns.jobId jobId,
   .ofText Columns.info Columns.jobName jobName,
   .ofText Columns.info Columns.startTime (toString startTime.toNat),
   .ofText Columns.info Columns.configuration configuration]

/-- The cells written when a job ends. -/
def endCells (jobId : String) (endTime : UInt64) (status : JobStatus) (counters : Counters) :
    List Cell :=
  [.ofText Columns.info Columns.jobId jobId,
   .ofText Columns.info Columns.endTime (toString endTime.toNat),
   .ofText Columns.info Columns.endStatus status.name,
   .ofText Columns.info Columns.counters counters.toText]

def extensionCell (key value : String) : Cell := .ofText Columns.extended key value

/-- The text of a fixed field. -/
def field (r : Row) (qualifier : String) : Except RecordFault (Option String) :=
  (r.getText Columns.info qualifier).mapError RecordFault.cell

/-- A time in milliseconds, with or without blanks around it. -/
def time (r : Row) (qualifier : String) : Except RecordFault (Option UInt64) := do
  match ← field r qualifier with
  | none => return none
  | some text =>
      match Numeral.readWord (trimChars text.toList) with
      | .ok n => return some n
      | .error fault => .error (.badTime qualifier text fault)

def status (r : Row) : Except RecordFault (Option JobStatus) := do
  match ← field r Columns.endStatus with
  | none => return none
  | some text =>
      match JobStatus.parse text with
      | .ok s => return some s
      | .error fault => .error (.badStatus fault)

def counters (r : Row) : Except RecordFault (Option Counters) := do
  match ← field r Columns.counters with
  | none => return none
  | some text =>
      match Counters.ofText? text with
      | some c => return some c
      | none => .error .badCounters

def extensionTexts : List (String × Bytes) → Except RecordFault (List (String × String))
  | [] => .ok []
  | (key, value) :: r =>
      match Utf8.decode value with
      | .error fault => .error (.badExtension key fault)
      | .ok text => (extensionTexts r).map ((key, text) :: ·)

/-- The record in a row, or the first fault. -/
def read (r : Row) : Except RecordFault JobRecord := do
  let jobName ← field r Columns.jobName
  let startTime ← time r Columns.startTime
  let endTime ← time r Columns.endTime
  let endStatus ← status r
  let counters ← counters r
  let configuration ← field r Columns.configuration
  let extensions ← extensionTexts (r.family Columns.extended)
  return {
    jobId := r.key, jobName, startTime, endTime, endStatus, counters, configuration,
    extensions := .ofList extensions }

def decode (r : Row) : Except HistoryError JobRecord :=
  (read r).mapError (HistoryError.corrupt r.key)

end JobLedger.RecordRow
