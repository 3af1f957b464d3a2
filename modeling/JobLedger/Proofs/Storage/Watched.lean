import JobLedger.Job.Context

/-!
# Instances whose writes are noted

A write that fails while a store is offline leaves no trace in the store.
To speak about writes that were attempted, an instance is wrapped into one
that notes them (`Watched`) and passes everything on. What is written
through the wrapper has the same result and the same effect
(`write_watched`).
-/

namespace JobLedger

/-- A change that is asked of an instance. -/
inductive StoreWrite
  | create (layout : TableLayout)
  | delete (name : String)
  | put (table : TableHandle) (key : String) (cells : List Cell)
deriving DecidableEq

/-- A change that was attempted, with its result. -/
structure WriteAttempt where
  write : StoreWrite
  result : Except StoreError Unit

/-- An instance whose writes are noted. -/
structure Watched (ι : Type) where
  inst : ι

/-- A state with the writes that were attempted so far. -/
structure Noted (σ : Type) where
  state : σ
  attempts : List WriteAttempt

variable {ι σ : Type} [Backend ι σ]

def Noted.note (n : Noted σ) (w : StoreWrite) (r : Except StoreError Unit × σ) :
    Except StoreError Unit × Noted σ :=
  (r.1, ⟨r.2, n.attempts ++ [⟨w, r.1⟩]⟩)

instance : Backend (Watched ι) (Noted σ) where
  uri i n := Backend.uri i.inst n.state
  tableExists i name n := Backend.tableExists i.inst name n.state
  createTable i layout n := n.note (.create layout) (Backend.createTable i.inst layout n.state)
  deleteTable i name n := n.note (.delete name) (Backend.deleteTable i.inst name n.state)
  openTable i name n := Backend.openTable i.inst name n.state
  putRow i h key cells n := n.note (.put h key cells) (Backend.putRow i.inst h key cells n.state)
  getRow i h key n := Backend.getRow i.inst h key n.state
  scan i h after limit n := Backend.scan i.inst h after limit n.state

/-- The same history table, with its writes noted. -/
def HistoryStore.watched (h : HistoryStore ι) : HistoryStore (Watched ι) :=
  ⟨⟨h.inst⟩, h.table, h.scanBatch⟩

/-- The same settings and history table, with its writes noted. -/
def RunContext.watched (c : RunContext ι) : RunContext (Watched ι) :=
  ⟨c.config, c.opened.map HistoryStore.watched⟩

omit [Backend ι σ] in
theorem RunContext.history?_watched (c : RunContext ι) :
    c.watched.history? = c.history?.map HistoryStore.watched := by
  rw [history?, history?, watched]
  cases c.config.enabled <;> rfl

/-- A noted write has the result and the effect of the write itself. -/
theorem HistoryStore.write_watched (h : HistoryStore ι) (jobId : String) (cells : List Cell)
    (n : Noted σ) :
    h.watched.write jobId cells n =
      ((h.write jobId cells n.state).1, ⟨(h.write jobId cells n.state).2,
        n.attempts ++ [⟨.put h.table jobId cells,
          (Backend.putRow h.inst h.table jobId cells n.state).1⟩]⟩) := rfl

end JobLedger
