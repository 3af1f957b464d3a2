import JobLedger.Disk.Basic

/-!
# Storage errors

What can go wrong between a table and the place it is kept in. Each error
names its cause; `StoreError.message` is its wording.

An error is an *outage* if the engine cannot be reached or the table is
not there: callers treat both as "no storage for now" and every other
error as a fault of the storage.
-/

namespace JobLedger

/-- Why an address that looks like a file address leads to no directory. -/
inductive FileUrlFault
  /-- The address is no valid URL. -/
  | malformed
  /-- The address names another machine. -/
  | notLocal
deriving DecidableEq, Repr

/-- The wording for an address that is no valid URL. -/
def FileUrlFault.message : FileUrlFault → String
  | .malformed => "malformed URL"
  | .notLocal => "not a local file URL"

/-- Why a storage engine cannot be reached. -/
inductive Outage
  | offline (uri : String)
  | cannotOpen (root : String) (cause : DiskError)
  | rootMissing (root : String)
  | noAddress
  | badAddress (uri : String) (fault : FileUrlFault)
deriving DecidableEq, Repr

def Outage.message : Outage → String
  | .offline uri => s!"{uri} is offline"
  | .cannotOpen root cause => s!"cannot open {root}: {cause.message}"
  | .rootMissing root => s!"storage root {root} is missing"
  | .noAddress => "no storage instance address given"
  | .badAddress uri .malformed =>
      s!"bad storage uri '{uri}': {FileUrlFault.malformed.message}"
  | .badAddress uri .notLocal => s!"'{uri}' is not a local file uri"

/-- What is wrong with stored data. -/
inductive StoredFault
  /-- The text is no JSON of the wanted form. -/
  | json
  | cellNotHex (row family qualifier : String)
  | cellNotText (row family qualifier : String) (fault : Utf8Fault)
deriving DecidableEq, Repr

/-- The wording for a text that is no JSON of the wanted form. -/
def jsonFaultMessage : String := "malformed JSON value"

def StoredFault.message : StoredFault → String
  | .json => jsonFaultMessage
  | .cellNotHex row family qualifier =>
      s!"row '{row}' cell {family}:{qualifier} is not valid hex"
  | .cellNotText row family qualifier fault =>
      s!"row '{row}' cell {family}:{qualifier} is not UTF-8: {fault.message}"

/-- Why the disk refuses an operation of a table. -/
inductive StoreIo
  | invalidTableName (name : String)
  | disk (cause : DiskError)
deriving DecidableEq, Repr

def StoreIo.message : StoreIo → String
  | .invalidTableName name => s!"invalid table name '{name}'"
  | .disk cause => cause.message

inductive StoreError
  | unavailable (cause : Outage)
  | tableNotFound (name : String)
  | tableExists (name : String)
  | unknownFamily (table family : String)
  | io (cause : StoreIo)
  | corrupt (fault : StoredFault)
  | unsupportedScheme (scheme : String)
deriving DecidableEq, Repr

namespace StoreError

def message : StoreError → String
  | .unavailable cause => s!"storage instance unavailable: {cause.message}"
  | .tableNotFound name => s!"table not found: {name}"
  | .tableExists name => s!"table already exists: {name}"
  | .unknownFamily table family => s!"table '{table}' has no column family '{family}'"
  | .io cause => s!"storage I/O error: {cause.message}"
  | .corrupt fault => s!"corrupt stored data: {fault.message}"
  | .unsupportedScheme scheme => s!"unsupported storage scheme '{scheme}'"

/-- The engine cannot be reached, or the table is not there. -/
def isOutage : StoreError → Bool
  | .unavailable _ | .tableNotFound _ => true
  | _ => false

end StoreError

end JobLedger
