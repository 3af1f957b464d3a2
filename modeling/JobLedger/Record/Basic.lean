import JobLedger.Record.Counters

/-!
# Job records

A `JobRecord` is what the history knows about one job. A field that was
never written is absent: the record of a job that was staged and never
finished has its start fields and no end fields, and counts as running.
-/

namespace JobLedger

/-- How a job ended, or that it has not. -/
inductive JobStatus
  | running
  | succeeded
  | failed
deriving DecidableEq, Repr

namespace JobStatus

def all : List JobStatus := [.running, .succeeded, .failed]

/-- The stored name of a status. -/
def name : JobStatus → String
  | .running => "RUNNING"
  | .succeeded => "SUCCEEDED"
  | .failed => "FAILED"

def ofName? (s : String) : Option JobStatus := all.find? (·.name = s)

theorem ofName?_name (s : JobStatus) : ofName? s.name = some s := by cases s <;> decide

theorem ofName?_eq_some_iff {n : String} {s : JobStatus} : ofName? n = some s ↔ s.name = n := by
  constructor
  · intro h
    simpa using List.find?_some h
  · rintro rfl
    exact ofName?_name s

def toJson (s : JobStatus) : Json := .text s.name

/-- A status is written as its name, or as an object whose only key is the
name and whose value is `null`. -/
def ofJson? : Json → Option JobStatus
  | .str (some s) => ofName? s
  | .obj [(some s, .null)] => ofName? s
  | _ => none

end JobStatus

/-- What is wrong with the text of a status. -/
structure StatusFault where
  text : String
deriving DecidableEq, Repr

def StatusFault.message (f : StatusFault) : String :=
  s!"Serialization error: unknown job end status '{f.text}'"

/-- Reads the stored name of a status. -/
def JobStatus.parse (s : String) : Except StatusFault JobStatus :=
  match ofName? s with
  | some status => .ok status
  | none => .error ⟨s⟩

/-- What the history knows about one job. -/
structure JobRecord where
  jobId : String
  jobName : Option String
  /-- Milliseconds since the start of 1970. -/
  startTime : Option UInt64
  endTime : Option UInt64
  endStatus : Option JobStatus
  counters : Option Counters
  /-- The text of the configuration the job was submitted with. -/
  configuration : Option String
  extensions : Dict String String
deriving DecidableEq

namespace JobRecord

/-- The record of a job of which only the id is known. -/
def new (jobId : String) : JobRecord where
  jobId
  jobName := none
  startTime := none
  endTime := none
  endStatus := none
  counters := none
  configuration := none
  extensions := ∅

/-- A job without an end status is still running. -/
def status (r : JobRecord) : JobStatus := r.endStatus.getD .running

/-- How long the job took; zero if it ended before it started. -/
def duration? (r : JobRecord) : Option UInt64 :=
  match r.startTime, r.endTime with
  | some s, some e => some (if s ≤ e then e - s else 0)
  | _, _ => none

def fieldNames : List String :=
  ["job_id", "job_name", "start_time", "end_time", "end_status", "counters", "configuration",
   "extensions"]

def toJson (r : JobRecord) : Json :=
  let time (t : UInt64) : Json := .int t.toNat
  .object [
    ("job_id", .text r.jobId),
    ("job_name", .ofOption .text r.jobName),
    ("start_time", .ofOption time r.startTime),
    ("end_time", .ofOption time r.endTime),
    ("end_status", .ofOption JobStatus.toJson r.endStatus),
    ("counters", .ofOption Counters.toJson r.counters),
    ("configuration", .ofOption .text r.configuration),
    ("extensions", Json.ofDict .text r.extensions)]

def ofJson? (j : Json) : Option JobRecord := do
  let fs ← j.fields? fieldNames
  return {
    jobId := ← fs.required "job_id" Json.text?
    jobName := ← fs.optional "job_name" (Json.nullable? Json.text?)
    startTime := ← fs.optional "start_time" (Json.nullable? Json.word?)
    endTime := ← fs.optional "end_time" (Json.nullable? Json.word?)
    endStatus := ← fs.optional "end_status" (Json.nullable? JobStatus.ofJson?)
    counters := ← fs.optional "counters" (Json.nullable? Counters.ofJson?)
    configuration := ← fs.optional "configuration" (Json.nullable? Json.text?)
    extensions := ← fs.required "extensions" (Json.dict? Json.text?) }

/-- The stored text. -/
def toText (r : JobRecord) : String := r.toJson.toText

def ofText? (s : String) : Option JobRecord := (Json.parse? s).bind ofJson?

end JobRecord

end JobLedger
