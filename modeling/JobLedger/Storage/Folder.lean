import JobLedger.Disk.Ensure
import JobLedger.Storage.Backend
import JobLedger.Storage.RowFile

/-!
# Tables in a directory

The backend of file addresses and plain paths. An instance is a root
directory; a table is a directory below it:

    <root>/<table>/_layout.json
    <root>/<table>/rows/<hexadecimal row key>.json

A table is there as long as its layout file is. Files are replaced through
a temporary file and a rename, so a row is never seen half written.
-/

namespace JobLedger

/-- A storage instance in a directory. -/
structure Folder where
  root : String
deriving DecidableEq, Repr

namespace Folder

def layoutFile : String := "_layout.json"

/-- The directory that holds the rows of a table. -/
def rowsDir : String := "rows"

/-- The address of the instance. -/
def uri (f : Folder) : String := "file://" ++ f.root

/-- Opens the instance at a root, which is made if it is missing. -/
def openAt (root : String) (d : Disk) : Except StoreError Folder × Disk :=
  match d.ensureDir root with
  | (.ok (), d) => (.ok ⟨root⟩, d)
  | (.error e, d) => (.error (.unavailable (.cannotOpen root e)), d)

/-- The names that a table may have. -/
def validName (name : String) : Bool :=
  match name.toList with
  | [] => false
  | '.' :: _ => false
  | cs => cs.all fun c => c.isAlphanum || c = '_' || c = '-' || c = '.'

def tableDir (f : Folder) (name : String) (d : Disk) : Except StoreError String :=
  if d.isDir f.root then
    if validName name then .ok (Disk.child f.root name)
    else .error (.io (.invalidTableName name))
  else .error (.unavailable (.rootMissing f.root))

/-- There is a table in the directory. -/
def hasLayout (dir : String) (d : Disk) : Bool := d.isFile (Disk.child dir layoutFile)

def tableExists (f : Folder) (name : String) (d : Disk) : Except StoreError Bool := do
  let dir ← f.tableDir name d
  return hasLayout dir d

/-- A failure of the disk as a failure of the storage. -/
def ofDisk {α : Type} : Except DiskError α × Disk → Except StoreError α × Disk
  | (r, d) => (r.mapError fun e => .io (.disk e), d)

def createTable (f : Folder) (layout : TableLayout) (d : Disk) : Except StoreError Unit × Disk :=
  match f.tableDir layout.name d with
  | .error e => (.error e, d)
  | .ok dir =>
      if hasLayout dir d then (.error (.tableExists layout.name), d)
      else match ofDisk (d.ensureDir (Disk.child dir rowsDir)) with
        | (.error e, d) => (.error e, d)
        | (.ok (), d) =>
            ofDisk (d.replaceFile dir layoutFile (Utf8.encode layout.toJson.indented))

def deleteTable (f : Folder) (name : String) (d : Disk) : Except StoreError Unit × Disk :=
  match f.tableDir name d with
  | .error e => (.error e, d)
  | .ok dir =>
      if hasLayout dir d then
        match d.removeDir dir with
        | .ok d => (.ok (), d)
        | .error e => (.error (.io (.disk e)), d)
      else (.error (.tableNotFound name), d)

def openTable (f : Folder) (name : String) (d : Disk) : Except StoreError TableHandle := do
  let dir ← f.tableDir name d
  let file := Disk.child dir layoutFile
  if d.isFile file then
    match d.read file with
    | .error e => .error (.io (.disk e))
    | .ok content =>
        match (Json.ofBytes? content).bind TableLayout.ofJson? with
        | some layout => .ok ⟨name, layout⟩
        | none => .error (.corrupt .json)
  else .error (.tableNotFound name)

/-- The directory of the rows of an opened table, if the table is still
there. -/
def rowsAt (f : Folder) (h : TableHandle) (d : Disk) : Except StoreError String :=
  let dir := Disk.child f.root h.name
  if hasLayout dir d then .ok (Disk.child dir rowsDir)
  else .error (.tableNotFound h.layout.name)

/-- The row in a file; nothing if there is no such file. -/
def readRow (d : Disk) (file : String) : Except StoreError (Option Row) :=
  match d.read file with
  | .ok content =>
      match RowFile.decode content with
      | .ok r => .ok (some r)
      | .error fault => .error (.corrupt fault)
  | .error .notFound => .ok none
  | .error e => .error (.io (.disk e))

def getRow (f : Folder) (h : TableHandle) (key : String) (d : Disk) :
    Except StoreError (Option Row) := do
  let rows ← f.rowsAt h d
  readRow d (Disk.child rows (RowFile.name key))

/-- The row that a write starts from, and where it is kept. -/
def rowToWrite (f : Folder) (h : TableHandle) (key : String) (cells : List Cell) (d : Disk) :
    Except StoreError (String × Row) := do
  h.layout.checkCells cells
  let rows ← f.rowsAt h d
  let r ← readRow d (Disk.child rows (RowFile.name key))
  return (rows, (r.getD (.empty key)).apply cells)

def putRow (f : Folder) (h : TableHandle) (key : String) (cells : List Cell) (d : Disk) :
    Except StoreError Unit × Disk :=
  match f.rowToWrite h key cells d with
  | .error e => (.error e, d)
  | .ok (rows, r) => ofDisk (d.replaceFile rows (RowFile.name key) (RowFile.content r))

/-- The row files of a directory behind a key, in the order of their keys. -/
def rowFiles (names : List String) (after : Option String) : List (String × String) :=
  let found := names.filterMap fun name =>
    (RowFile.key? name).bind fun key =>
      match after with
      | some k => if k < key then some (key, name) else none
      | none => some (key, name)
  found.mergeSort fun a b => a.1 ≤ b.1

/-- The rows in files, without those that are gone. -/
def readRows (d : Disk) (rows : String) : List (String × String) → Except StoreError (List Row)
  | [] => .ok []
  | (_, name) :: r => do
      let row ← readRow d (Disk.child rows name)
      let rest ← readRows d rows r
      return row.toList ++ rest

def scan (f : Folder) (h : TableHandle) (after : Option String) (limit : Nat) (d : Disk) :
    Except StoreError (List Row) := do
  let rows ← f.rowsAt h d
  match d.list rows with
  | .error e => .error (.io (.disk e))
  | .ok names => readRows d rows ((rowFiles names after).take limit)

instance : Backend Folder Disk where
  uri f _ := f.uri
  tableExists := tableExists
  createTable := createTable
  deleteTable := deleteTable
  openTable := openTable
  putRow := putRow
  getRow := getRow
  scan := scan

end Folder

end JobLedger
