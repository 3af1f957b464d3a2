import JobLedger.Job.Context
import JobLedger.Job.Execution
import JobLedger.Text.Numeral
import JobLedger.Text.Quoted

/-!
# Submitted jobs

A submitted job is staged in the history, completed by its engine some
time later, and observed by its caller. The first observation that finds
the job completed records its end; later ones write nothing. Recording is
best effort: a write that fails is dropped and changes nothing about the
job.

A `Submission` is the caller's view as a value, and each thing that can
happen to it is a function: `complete` for the engine, `isComplete` and
`wait` for the caller. The clock is the argument `now`. Any order of these
is a run.
-/

namespace JobLedger

/-- A submitted job. -/
structure Submission (ι : Type) where
  jobId : String
  /-- What the engine reported, once it has. -/
  outcome : Option Outcome
  /-- Where the job is recorded, if anywhere. -/
  history : Option (HistoryStore ι)
  startTime : UInt64
  /-- The end of the job has been recorded, or the attempt was made. -/
  recorded : Bool

namespace Submission

variable {ι σ : Type} [Backend ι σ]

/-- Submits a job that the engine knows as `jobId` from now on, and stages
its record. -/
def start (context : RunContext ι) (job : PreparedJob) (jobId : String) (now : UInt64) (s : σ) :
    Submission ι × σ :=
  let submission : Submission ι := ⟨jobId, none, context.history?, now, false⟩
  match context.history? with
  | none => (submission, s)
  | some h => (submission, (h.stage jobId job.name now job.conf.toText s).2)

/-- Hands a job to an engine, which takes it under an id or refuses it. A job
that is refused is not staged. -/
def submit {ε : Type} (engine : PreparedJob → Except ε String) (context : RunContext ι)
    (job : PreparedJob) (now : UInt64) (s : σ) : Except ε (Submission ι) × σ :=
  match engine job with
  | .error e => (.error e, s)
  | .ok jobId =>
      let (submission, s) := start context job jobId now s
      (.ok submission, s)

/-- The engine reports an outcome. Only the first report counts. -/
def complete (j : Submission ι) (outcome : Outcome) : Submission ι :=
  { j with outcome := j.outcome <|> some outcome }

/-- Records the end of a job at its first observation. The end is never
earlier than the start. -/
def observe (j : Submission ι) (outcome : Outcome) (now : UInt64) (s : σ) : Submission ι × σ :=
  if j.recorded then (j, s)
  else
    let j' := { j with recorded := true }
    match j.history with
    | none => (j', s)
    | some h => (j', (h.finalize j.jobId (max now j.startTime) outcome.status outcome.counters s).2)

/-- Looks whether the job is completed. -/
def isComplete (j : Submission ι) (now : UInt64) (s : σ) : Bool × Submission ι × σ :=
  match j.outcome with
  | some outcome => (true, j.observe outcome now s)
  | none => (false, j, s)

/-- Waits for the job. A job that does not complete in time is an error,
after which it can be waited for again. -/
def wait (j : Submission ι) (timeout now : UInt64) (s : σ) :
    Except JobError Outcome × Submission ι × σ :=
  match j.outcome with
  | some outcome => (.ok outcome, j.observe outcome now s)
  | none => (.error (.timeout j.jobId timeout), j, s)

/-- A short description for diagnostics. -/
def describe (j : Submission ι) : String :=
  s!"JobHandle \x7b job_id: JobId({quoted j.jobId}), complete: {j.outcome.isSome} \x7d"

end Submission

/-- The engine that runs jobs in this process. Its ids carry the number of
the submission. That number is unbounded here: a count of 64 bits would
start again after 2 ^ 64 submissions, which no engine gets to. -/
structure LocalEngine where
  submitted : Nat
deriving DecidableEq, Repr

namespace LocalEngine

/-- An engine that has run nothing yet. -/
def new : LocalEngine := ⟨0⟩

/-- The id of the next submission: its number with at least four digits,
made unique by `unique`. -/
def nextId (e : LocalEngine) (unique : String) : String × LocalEngine :=
  let n := e.submitted + 1
  (s!"job_local_{Numeral.padded 4 n}_{unique}", ⟨n⟩)

/-- Submits a job and runs it to its end. -/
def submit (e : LocalEngine) (hash : String → Nat) (context : RunContext Instance)
    (job : PreparedJob) (unique : String) (now : UInt64) (s : Site) :
    Submission Instance × LocalEngine × Site :=
  let (jobId, e) := e.nextId unique
  let (submission, s) := Submission.start context job jobId now s
  let (outcome, disk) := Execution.run hash job s.disk
  (submission.complete outcome, e, { s with disk })

end LocalEngine

end JobLedger
