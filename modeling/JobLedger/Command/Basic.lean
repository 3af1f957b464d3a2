import JobLedger.History.Report

/-!
# Commands

What the program can be asked to do, with everything that the asker said
about it. What was not said is left open here and comes from the
environment or from a job file.
-/

namespace JobLedger

/-- Which history is meant. -/
structure HistoryTarget where
  /-- The address of the storage instance. -/
  store : Option String
  table : Option String
deriving DecidableEq, Repr

structure RunRequest where
  /-- The address of the job file. -/
  file : String
  store : Option String
  noHistory : Bool
  /-- How long to wait for the job, in milliseconds. -/
  timeout : Option UInt64
deriving DecidableEq, Repr

inductive Command
  /-- Prints the history of a job, or of all jobs. -/
  | report (target : HistoryTarget) (jobId : Option String) (options : ReportOptions)
  /-- Makes the history table. -/
  | install (target : HistoryTarget)
  /-- Explains an output descriptor. -/
  | checkOutput (spec : String)
  /-- Explains an input descriptor. -/
  | checkInput (spec : String)
  /-- Runs a job from a file. -/
  | run (request : RunRequest)
deriving DecidableEq, Repr

end JobLedger
