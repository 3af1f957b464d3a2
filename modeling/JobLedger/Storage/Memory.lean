import JobLedger.Storage.Backend

/-!
# Tables in memory

The backend of `memory://` addresses. It can be switched offline, which
makes every operation fail and changes nothing.

A memory instance is its own state, so it needs no name: it is the
backend `Backend Unit Memory`.
-/

namespace JobLedger

/-- A table and its rows by key. -/
structure MemoryTable where
  layout : TableLayout
  rows : Dict String Row
deriving DecidableEq

/-- Writes cells into the row of a key, which starts empty. -/
def MemoryTable.write (t : MemoryTable) (key : String) (cells : List Cell) :
    MemoryTable :=
  { t with rows := t.rows.update key fun r => (r.getD (.empty key)).apply cells }

/-- A storage instance in memory. -/
structure Memory where
  uri : String
  online : Bool
  tables : Dict String MemoryTable
deriving DecidableEq

namespace Memory

/-- A fresh instance. -/
def new (uri : String) : Memory := ⟨uri, true, ∅⟩

instance : Inhabited Memory := ⟨new "memory://"⟩

/-- An outage (`false`) or a recovery (`true`). -/
def setOnline (m : Memory) (online : Bool) : Memory := { m with online }

/-- Refuses everything while the instance is offline. -/
def reachable (m : Memory) : Except StoreError Unit :=
  if m.online then .ok () else .error (.unavailable (.offline m.uri))

def table (m : Memory) (name : String) : Except StoreError MemoryTable := do
  m.reachable
  match m.tables.get? name with
  | some t => .ok t
  | none => .error (.tableNotFound name)

def setTable (m : Memory) (name : String) (t : MemoryTable) : Memory :=
  { m with tables := m.tables.insert name t }

/-- How many rows a table has. -/
def rowCount (m : Memory) (name : String) : Except StoreError Nat := do
  let t ← m.table name
  return t.rows.size

def tableExists (m : Memory) (name : String) : Except StoreError Bool := do
  m.reachable
  return m.tables.contains name

def createTable (m : Memory) (layout : TableLayout) : Except StoreError Memory := do
  m.reachable
  if m.tables.contains layout.name then .error (.tableExists layout.name)
  else return m.setTable layout.name ⟨layout, ∅⟩

def deleteTable (m : Memory) (name : String) : Except StoreError Memory := do
  let _ ← m.table name
  return { m with tables := m.tables.erase name }

def openTable (m : Memory) (name : String) : Except StoreError TableHandle := do
  let t ← m.table name
  return ⟨name, t.layout⟩

def putRow (m : Memory) (h : TableHandle) (key : String) (cells : List Cell) :
    Except StoreError Memory := do
  h.layout.checkCells cells
  let t ← m.table h.layout.name
  return m.setTable h.layout.name (t.write key cells)

def getRow (m : Memory) (h : TableHandle) (key : String) : Except StoreError (Option Row) := do
  let t ← m.table h.layout.name
  return t.rows.get? key

def scan (m : Memory) (h : TableHandle) (after : Option String) (limit : Nat) :
    Except StoreError (List Row) := do
  let t ← m.table h.layout.name
  let behind := match after with
    | some key => t.rows.after key
    | none => t.rows
  return behind.values.take limit

/-- The result of a change that leaves the instance alone when it fails. -/
def outcome (m : Memory) : Except StoreError Memory → Except StoreError Unit × Memory
  | .ok m' => (.ok (), m')
  | .error e => (.error e, m)

instance : Backend Unit Memory where
  uri _ m := m.uri
  tableExists _ name m := m.tableExists name
  createTable _ layout m := m.outcome (m.createTable layout)
  deleteTable _ name m := m.outcome (m.deleteTable name)
  openTable _ name m := m.openTable name
  putRow _ h key cells m := m.outcome (m.putRow h key cells)
  getRow _ h key m := m.getRow h key
  scan _ h after limit m := m.scan h after limit

end Memory

end JobLedger
