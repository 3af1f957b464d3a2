import JobLedger.Storage.Layout

/-!
# Columns of the history table

One row per job id. The family `info` holds the fixed fields of a record,
the family `extended` one cell per extension.
-/

namespace JobLedger.Columns

def info : String := "info"
def extended : String := "extended"

def jobName : String := "jobName"
def jobId : String := "jobId"
def startTime : String := "startTime"
def endTime : String := "endTime"
def endStatus : String := "jobEndStatus"
def counters : String := "counters"
def configuration : String := "configuration"

/-- The layout of a history table. -/
def layout (tableName : String) : TableLayout where
  name := tableName
  families := [info, extended]
  description := "Job execution history: one row per job id."

end JobLedger.Columns
