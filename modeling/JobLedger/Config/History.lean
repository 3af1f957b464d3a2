import JobLedger.Json.Decode
import JobLedger.Json.Printer
import JobLedger.Text.Blank
import JobLedger.Text.Numeral

/-!
# History settings

Where the history is kept, how it is read and whether it is written at
all. The settings have defaults; an environment overrides the defaults, a
job file overrides the environment, and a command line overrides both.

A value in the environment that cannot be used changes nothing: a blank
address or table name, a number that does not read.
-/

namespace JobLedger

structure HistoryConfig where
  /-- The address of the storage instance; without one nothing is recorded. -/
  storeUri : Option String
  /-- The name of the history table. -/
  tableName : String
  /-- How many rows one scan fetches. -/
  scanBatch : Nat
  /-- How long to wait for a submitted job, in milliseconds. -/
  waitTimeout : UInt64
  /-- Whether jobs are recorded. -/
  enabled : Bool
deriving DecidableEq, Repr

namespace HistoryConfig

def default : HistoryConfig where
  storeUri := none
  tableName := "job_history"
  scanBatch := 64
  waitTimeout := 600000
  enabled := true

instance : Inhabited HistoryConfig := ⟨default⟩

/-- The names of the environment variables. -/
def storeUriVariable : String := "MRKIT_STORE_URI"
def tableNameVariable : String := "MRKIT_HISTORY_TABLE"
def scanBatchVariable : String := "MRKIT_HISTORY_SCAN_BATCH"
def waitTimeoutVariable : String := "MRKIT_WAIT_TIMEOUT_MS"
def enabledVariable : String := "MRKIT_HISTORY_ENABLED"

/-- All of them: no other variable has a say. -/
def variableNames : List String :=
  [storeUriVariable, tableNameVariable, scanBatchVariable, waitTimeoutVariable, enabledVariable]

/-- The texts that switch recording off. -/
def offWords : List String := ["0", "false", "no", "off"]

/-- A text without its blanks, unless nothing is left. -/
def nonBlank? (s : String) : Option String :=
  if trim s = "" then none else some (trim s)

/-- A number of 64 bits in an environment variable. -/
def word? (s : String) : Option UInt64 :=
  match Numeral.readWord s.toList with
  | .ok n => some n
  | .error _ => none

def ofEnvironment (lookup : String → Option String) : HistoryConfig where
  storeUri := (lookup storeUriVariable).bind nonBlank?
  tableName := ((lookup tableNameVariable).bind nonBlank?).getD default.tableName
  scanBatch :=
    match (lookup scanBatchVariable).bind word? with
    | some n => max n.toNat 1
    | none => default.scanBatch
  waitTimeout := ((lookup waitTimeoutVariable).bind word?).getD default.waitTimeout
  enabled :=
    match lookup enabledVariable with
    | some s => trim s ∉ offWords
    | none => default.enabled

def fieldNames : List String :=
  ["store_uri", "table_name", "scan_batch", "wait_timeout_ms", "enabled"]

def toJson (c : HistoryConfig) : Json :=
  .object [
    ("store_uri", .ofOption .text c.storeUri),
    ("table_name", .text c.tableName),
    ("scan_batch", .int c.scanBatch),
    ("wait_timeout_ms", .int c.waitTimeout.toNat),
    ("enabled", .bool c.enabled)]

/-- Every field may be left out and has its default then. -/
def ofJson? (j : Json) : Option HistoryConfig := do
  let fs ← j.fields? fieldNames
  return {
    storeUri := ← fs.orElse "store_uri" default.storeUri (Json.nullable? Json.text?)
    tableName := ← fs.orElse "table_name" default.tableName Json.text?
    scanBatch := ← fs.orElse "scan_batch" default.scanBatch Json.count?
    waitTimeout := ← fs.orElse "wait_timeout_ms" default.waitTimeout Json.word?
    enabled := ← fs.orElse "enabled" default.enabled Json.bool? }

end HistoryConfig

/-- The history settings that a job file may carry. -/
structure ConfigOverrides where
  storeUri : Option String
  tableName : Option String
  scanBatch : Option Nat
  waitTimeout : Option UInt64
  enabled : Option Bool
deriving DecidableEq, Repr

namespace ConfigOverrides

/-- Nothing is overridden. -/
def none : ConfigOverrides := ⟨.none, .none, .none, .none, .none⟩

/-- The settings with the given ones replaced. -/
def apply (o : ConfigOverrides) (c : HistoryConfig) : HistoryConfig where
  storeUri := o.storeUri <|> c.storeUri
  tableName := o.tableName.getD c.tableName
  scanBatch := (o.scanBatch.map (max · 1)).getD c.scanBatch
  waitTimeout := o.waitTimeout.getD c.waitTimeout
  enabled := o.enabled.getD c.enabled

end ConfigOverrides

end JobLedger
