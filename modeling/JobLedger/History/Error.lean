import JobLedger.Record.Basic
import JobLedger.Storage.Error
import JobLedger.Text.Numeral

/-!
# History errors

Two questions matter to a caller: is there no history to be reached right
now, and is there no record of this job. Everything else is a fault of one
record or of the storage.
-/

namespace JobLedger

/-- What keeps a row from being a job record. -/
inductive RecordFault
  /-- A cell that holds no text. -/
  | cell (fault : StoredFault)
  | badTime (qualifier text : String) (fault : NumeralFault)
  | badStatus (fault : StatusFault)
  | badCounters
  | badExtension (key : String) (fault : Utf8Fault)
deriving DecidableEq, Repr

def RecordFault.message : RecordFault → String
  | .cell fault => (StoreError.corrupt fault).message
  | .badTime qualifier text fault => s!"{qualifier} '{text}': {fault.message}"
  | .badStatus fault => fault.message
  | .badCounters => s!"Serialization error: {jsonFaultMessage}"
  | .badExtension key fault => s!"extension '{key}' is not UTF-8: {fault.message}"

/-- Why there is no history to be reached. -/
inductive HistoryOutage
  | storage (cause : StoreError)
  /-- No address was given at all. -/
  | noStoreGiven
deriving DecidableEq, Repr

def HistoryOutage.message : HistoryOutage → String
  | .storage cause => cause.message
  | .noStoreGiven => "no storage instance given (use --store or MRKIT_STORE_URI)"

inductive HistoryError
  | unavailable (cause : HistoryOutage)
  | notFound (jobId : String)
  | corrupt (jobId : String) (fault : RecordFault)
  | storage (cause : StoreError)
deriving DecidableEq, Repr

namespace HistoryError

def message : HistoryError → String
  | .unavailable cause => s!"job history unavailable: {cause.message}"
  | .notFound jobId => s!"no job history record for job id '{jobId}'"
  | .corrupt jobId fault => s!"corrupt job history record '{jobId}': {fault.message}"
  | .storage cause => s!"job history storage error: {cause.message}"

def isNotFound : HistoryError → Bool
  | .notFound _ => true
  | _ => false

/-- A storage error as seen by the history. -/
def ofStore (e : StoreError) : HistoryError :=
  if e.isOutage then .unavailable (.storage e) else .storage e

end HistoryError

end JobLedger
