import JobLedger.Command.Arguments
import JobLedger.Job.File
import JobLedger.Job.Runner

/-!
# Performing commands

A command is a function from a disk to a disk and a `Reply`: what the
program prints, and its exit status. Everything else that it depends on
is in `Surroundings`.

The status is 0 on success. A failed job, a faulty descriptor and a job
that is not in the history give 1; a history that cannot be reached or
read gives 2.
-/

namespace JobLedger

/-- What a command depends on besides the disk. -/
structure Surroundings where
  environment : String → Option String
  /-- The time, in milliseconds. -/
  now : UInt64
  /-- A text that makes job ids unique. -/
  unique : String
  /-- The hash that spreads rows over part files. -/
  hash : String → Nat

/-- What a program prints and how it exits. -/
structure Reply where
  status : Nat
  output : String
  errors : String
deriving DecidableEq, Repr

namespace Reply

def ok (output : String) : Reply := ⟨0, output, ""⟩

def failure (status : Nat) (message : String) : Reply := ⟨status, "", s!"{message}\n"⟩

/-- The reply to a command line that is no command. Help is an answer, and
everything else a complaint. -/
def ofUsageFault (fault : UsageFault) : Reply :=
  match fault with
  | .helpWanted => ok s!"{fault.message}\n"
  | _ => failure fault.exitStatus s!"error: {fault.message}"

/-- The reply to a command on the history that failed. -/
def ofHistoryError (e : HistoryError) : Reply :=
  failure (if e.isNotFound then 1 else 2) s!"Error: {e.message}"

end Reply

/-- Why a job file is not run to its end. -/
inductive RunError
  | file (cause : DiskError)
  | malformed
  | job (cause : JobError)
deriving DecidableEq, Repr

def RunError.message : RunError → String
  | .file cause => cause.message
  | .malformed => "malformed job file"
  | .job cause => cause.message

def OutputSpec.describe (spec : OutputSpec) : String :=
  s!"format:   {spec.format.token}\nlocation: {spec.location}\nsplits:   {spec.splits.toNat}\n"
    ++ match spec.loadTarget? with
      | some (some table, path) => s!"table:    {table}\npath:     {path}\n"
      | some (none, path) => s!"path:     {path}\n"
      | none => ""

def InputSpec.describe (spec : InputSpec) : String :=
  s!"format:   {spec.format.token}\n"
    ++ String.join (spec.locations.map fun location => s!"location: {location}\n")

namespace Reply

/-- The reply to the check of an output descriptor. -/
def ofOutputText (text : String) : Reply :=
  match OutputSpec.parse text with
  | .ok spec => .ok spec.describe
  | .error e => .failure 1 s!"Invalid output spec: {e.message}"

/-- The reply to the check of an input descriptor. -/
def ofInputText (text : String) : Reply :=
  match InputSpec.parse text with
  | .ok spec => .ok spec.describe
  | .error e => .failure 1 s!"Invalid input spec: {e.message}"

/-- The reply to a job that has ended. -/
def ofOutcome (jobId : String) (outcome : Outcome) : Reply :=
  let error := outcome.error.getD "unknown error"
  let verdict :=
    if outcome.isSuccessful then s!"✓ Job {jobId} succeeded\n"
    else s!"✗ Job {jobId} failed: {error}\n"
  let counters := outcome.counters.toList.map fun c => s!"  {c.1}={c.2.toInt}\n"
  ⟨if outcome.isSuccessful then 0 else 1, verdict ++ String.join counters, ""⟩

end Reply

def HistoryConfig.openInstance (config : HistoryConfig) (s : Site) :
    Except HistoryError Instance × Site :=
  match config.storeUri with
  | none => (.error (.unavailable .noStoreGiven), s)
  | some uri =>
      let (r, s) := s.openInstance uri
      (r.mapError .ofStore, s)

def JobFile.load (address : String) (d : Disk) : Except RunError JobFile := do
  let content ← (d.read address).mapError .file
  match Utf8.decode content with
  | .error _ => .error (.file .notText)
  | .ok text =>
      match ofText? text with
      | some file => .ok file
      | none => .error .malformed

namespace Surroundings

variable (env : Surroundings)

/-- The settings of the environment with those of the command line. -/
def historyConfig (target : HistoryTarget) : HistoryConfig :=
  let c := HistoryConfig.ofEnvironment env.environment
  { c with
    storeUri := target.store <|> c.storeUri
    tableName := target.table.getD c.tableName }

/-- A report takes in as many jobs as there are. -/
def reportLimit : Nat := 1000000000

def reportText (i : Instance) (config : HistoryConfig) (jobId : Option String)
    (options : ReportOptions) (s : Site) : Except HistoryError String := do
  let h ← HistoryStore.openTable i config s
  match jobId with
  | some id => h.report options id s
  | none => h.reportAll options reportLimit s

def report (target : HistoryTarget) (jobId : Option String)
    (options : ReportOptions) (s : Site) : Reply × Site :=
  let config := env.historyConfig target
  match config.openInstance s with
  | (.error e, s) => (.ofHistoryError e, s)
  | (.ok i, s) =>
      match reportText i config jobId options s with
      | .ok text => (.ok text, s)
      | .error e => (.ofHistoryError e, s)

/-- Makes the history table. -/
def install (target : HistoryTarget) (s : Site) : Reply × Site :=
  let config := env.historyConfig target
  match config.openInstance s with
  | (.error e, s) => (.ofHistoryError e, s)
  | (.ok i, s) =>
      match HistoryStore.install i config.tableName s with
      | (.ok true, s) => (.ok s!"✓ Installed table '{config.tableName}'\n", s)
      | (.ok false, s) => (.ok s!"✓ Table '{config.tableName}' already installed\n", s)
      | (.error e, s) => (.ofHistoryError e, s)

/-- The settings of a run: the environment's, those of the job file over
them, and those of the command line over both. -/
def runConfig (request : RunRequest) (file : JobFile) : HistoryConfig :=
  let c := file.config.apply (.ofEnvironment env.environment)
  { c with
    storeUri := request.store <|> c.storeUri
    enabled := c.enabled && !request.noHistory
    waitTimeout := request.timeout.getD c.waitTimeout }

/-- The job of a job file, with its settings. -/
def prepareRun (request : RunRequest) (d : Disk) :
    Except RunError (HistoryConfig × PreparedJob) := do
  let file ← JobFile.load request.file d
  let job ← (file.job.prepare .builtin).mapError .job
  return (env.runConfig request file, job)

/-- Runs a job and waits for it. -/
def run (request : RunRequest) (s : Site) : Reply × Site :=
  match env.prepareRun request s.disk with
  | .error e => (.failure 1 s!"Error: {e.message}", s)
  | .ok (config, job) =>
      let (context, s) := RunContext.ofConfig config s
      let (submission, _, s) := LocalEngine.new.submit env.hash context job env.unique env.now s
      match submission.wait config.waitTimeout env.now s with
      | (.ok outcome, submission, s) => (.ofOutcome submission.jobId outcome, s)
      | (.error e, _, s) => (.failure 1 s!"Error: {e.message}", s)

end Surroundings

def Command.perform (env : Surroundings) : Command → Site → Reply × Site
  | .report target jobId options, s => env.report target jobId options s
  | .install target, s => env.install target s
  | .checkOutput text, s => (.ofOutputText text, s)
  | .checkInput text, s => (.ofInputText text, s)
  | .run request, s => env.run request s

/-- Whether performing a command takes a look at the disk. -/
def Command.usesDisk : Command → Bool
  | .checkOutput _ => false
  | .checkInput _ => false
  | _ => true

end JobLedger
