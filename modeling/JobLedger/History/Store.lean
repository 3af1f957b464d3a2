import JobLedger.Config.History
import JobLedger.History.RecordRow
import JobLedger.Storage.Backend
import JobLedger.Text.Quoted

/-!
# The history table

A `HistoryStore` is an opened history table. Its writes go straight to the
table, one row write each, so a write either happens as a whole or not at
all.

Enumeration is a cursor that fetches one page of rows at a time and goes
on behind the last row it has seen. A row that does not decode is one bad
item and no more; a scan that fails is the last item.
-/

namespace JobLedger

/-- An opened history table. -/
structure HistoryStore (ι : Type) where
  inst : ι
  table : TableHandle
  scanBatch : Nat

namespace HistoryStore

variable {ι σ : Type} [Backend ι σ]

/-! ## Installing and opening -/

/-- The second half of an installation: makes the table, unless another
caller has made it since the first look. -/
def createMissing (i : ι) (tableName : String) (s : σ) : Except HistoryError Bool × σ :=
  match Backend.createTable i (Columns.layout tableName) s with
  | (.ok (), s) => (.ok true, s)
  | (.error (.tableExists _), s) => (.ok false, s)
  | (.error e, s) => (.error (.ofStore e), s)

/-- Makes the history table unless it is there. Tells whether this call has
made it. -/
def install (i : ι) (tableName : String) (s : σ) : Except HistoryError Bool × σ :=
  match Backend.tableExists i tableName s with
  | .error e => (.error (.ofStore e), s)
  | .ok true => (.ok false, s)
  | .ok false => createMissing i tableName s

def openTable (i : ι) (config : HistoryConfig) (s : σ) : Except HistoryError (HistoryStore ι) :=
  match Backend.openTable i config.tableName s with
  | .error e => .error (.ofStore e)
  | .ok table => .ok ⟨i, table, max config.scanBatch 1⟩

/-- Opens the history table, which is made first if it is missing. -/
def ensureInstalled (i : ι) (config : HistoryConfig) (s : σ) :
    Except HistoryError (HistoryStore ι) × σ :=
  match install i config.tableName s with
  | (.error e, s) => (.error e, s)
  | (.ok _, s) => (openTable i config s, s)

/-- The name that the table gives itself. -/
def tableName (h : HistoryStore ι) : String := h.table.layout.name

/-- The address of the instance. -/
def uri (h : HistoryStore ι) (s : σ) : String := Backend.uri h.inst s

/-- A short description for diagnostics. -/
def describe (h : HistoryStore ι) (s : σ) : String :=
  let address := quoted (h.uri s)
  let table := quoted h.tableName
  s!"JobHistoryStore \x7b instance: {address}, table: {table}, scan_batch: {h.scanBatch} \x7d"

/-! ## Writing -/

/-- Writes cells into the row of a job. -/
def write (h : HistoryStore ι) (jobId : String) (cells : List Cell) (s : σ) :
    Except HistoryError Unit × σ :=
  let (r, s) := Backend.putRow h.inst h.table jobId cells s
  (r.mapError .ofStore, s)

/-- Records the start of a job. Staging again overwrites the same fields. -/
def stage (h : HistoryStore ι) (jobId jobName : String) (startTime : UInt64)
    (configuration : String) (s : σ) : Except HistoryError Unit × σ :=
  h.write jobId (RecordRow.startCells jobId jobName startTime configuration) s

/-- Records the end of a job, also of one that was never staged. -/
def finalize (h : HistoryStore ι) (jobId : String) (endTime : UInt64) (status : JobStatus)
    (counters : Counters) (s : σ) : Except HistoryError Unit × σ :=
  h.write jobId (RecordRow.endCells jobId endTime status counters) s

/-- Attaches a text to the record of a job. -/
def putExtension (h : HistoryStore ι) (jobId key value : String) (s : σ) :
    Except HistoryError Unit × σ :=
  h.write jobId [RecordRow.extensionCell key value] s

/-! ## Reading -/

/-- The record of one job. -/
def details (h : HistoryStore ι) (jobId : String) (s : σ) : Except HistoryError JobRecord :=
  match Backend.getRow h.inst h.table jobId s with
  | .error e => .error (.ofStore e)
  | .ok none => .error (.notFound jobId)
  | .ok (some r) => RecordRow.decode r

end HistoryStore

/-- An enumeration of the history in progress. -/
structure HistoryCursor (ι : Type) where
  store : HistoryStore ι
  /-- The rows fetched and not yet yielded. -/
  page : List Row
  lastKey : Option String
  finished : Bool

namespace HistoryCursor

variable {ι σ : Type} [Backend ι σ]

/-- An enumeration that has not begun. -/
def start (h : HistoryStore ι) : HistoryCursor ι := ⟨h, [], none, false⟩

/-- An enumeration that is over. -/
def finish (c : HistoryCursor ι) : HistoryCursor ι := { c with finished := true }

/-- The next item, with what is left to enumerate; nothing at the end. -/
def next (c : HistoryCursor ι) (s : σ) :
    Option (Except HistoryError JobRecord) × HistoryCursor ι :=
  if c.finished then (none, c)
  else match c.page with
    | r :: page => (some (RecordRow.decode r), { c with page })
    | [] =>
        match Backend.scan c.store.inst c.store.table c.lastKey c.store.scanBatch s with
        | .error e => (some (.error (.ofStore e)), c.finish)
        | .ok [] => (none, c.finish)
        | .ok (r :: page) =>
            (some (RecordRow.decode r),
              { c with page, lastKey := ((r :: page).getLast?).map (·.key) })

/-- At most `limit` items in a state that does not change. -/
def collect : Nat → HistoryCursor ι → σ → List (Except HistoryError JobRecord)
  | 0, _, _ => []
  | limit + 1, c, s =>
      match c.next s with
      | (none, _) => []
      | (some item, c) => item :: collect limit c s

end HistoryCursor

/-- At most `limit` items of a whole enumeration. -/
def HistoryStore.records {ι σ : Type} [Backend ι σ] (h : HistoryStore ι) (limit : Nat) (s : σ) :
    List (Except HistoryError JobRecord) :=
  (HistoryCursor.start h).collect limit s

end JobLedger
