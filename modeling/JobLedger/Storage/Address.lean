import JobLedger.Storage.FileUrl
import JobLedger.Storage.Folder
import JobLedger.Storage.Memory
import JobLedger.Text.Blank

/-!
# Storage addresses

An address selects a backend: `memory://` a fresh instance in memory, a
`file://` URL or a plain path an instance in a directory. Any other scheme
is refused.

`Site` is everything that instances live in - the disk and the memory
instances opened so far - and `Instance` says which one is meant, so a
program that uses several instances side by side is again a function on
one state.
-/

namespace JobLedger

/-- The scheme of an address: what stands before the first `://`, without
blanks. -/
def uriScheme? (uri : String) : Option String :=
  go [] uri.toList
where
  go (seen : List Char) : List Char → Option String
    | ':' :: '/' :: '/' :: _ =>
        let scheme := trimChars seen.reverse
        if scheme = [] then none else some (.ofList scheme)
    | c :: r => go (c :: seen) r
    | [] => none

/-- A storage instance. -/
inductive Instance
  /-- The memory instance of the given number. -/
  | memory (number : Nat)
  | folder (folder : Folder)
deriving DecidableEq, Repr

/-- The disk and the memory instances. -/
structure Site where
  disk : Disk
  memories : List Memory
deriving DecidableEq

namespace Site

/-- The site of a program that has opened nothing yet. -/
def ofDisk (disk : Disk) : Site := ⟨disk, []⟩

/-- A memory instance. One that was never opened is empty. -/
def memory (s : Site) (number : Nat) : Memory := s.memories.getD number default

def setMemory (s : Site) (number : Nat) (m : Memory) : Site :=
  { s with memories := s.memories.set number m }

/-- Opens a memory instance. -/
def addMemory (s : Site) (m : Memory) : Instance × Site :=
  (.memory s.memories.length, { s with memories := s.memories ++ [m] })

/-- Opens the instance at a root directory. -/
def openFolder (s : Site) (root : String) : Except StoreError Instance × Site :=
  match Folder.openAt root s.disk with
  | (.ok f, disk) => (.ok (.folder f), { s with disk })
  | (.error e, disk) => (.error e, { s with disk })

def openInstance (s : Site) (address : String) : Except StoreError Instance × Site :=
  let uri := trim address
  match uriScheme? uri with
  | some "memory" =>
      let (i, s) := s.addMemory (.new uri)
      (.ok i, s)
  | some "file" =>
      match FileUrl.path? uri with
      | .ok root => s.openFolder root
      | .error fault => (.error (.unavailable (.badAddress uri fault)), s)
  | some scheme => (.error (.unsupportedScheme scheme), s)
  | none =>
      if uri = "" then (.error (.unavailable .noAddress), s) else s.openFolder uri

def changeMemory (s : Site) (number : Nat)
    (f : Memory → Except StoreError Unit × Memory) : Except StoreError Unit × Site :=
  let (r, m) := f (s.memory number)
  (r, s.setMemory number m)

def changeDisk (s : Site) (f : Disk → Except StoreError Unit × Disk) :
    Except StoreError Unit × Site :=
  let (r, disk) := f s.disk
  (r, { s with disk })

instance : Backend Instance Site where
  uri
    | .memory n, s => Backend.uri () (s.memory n)
    | .folder f, s => Backend.uri f s.disk
  tableExists
    | .memory n, name, s => Backend.tableExists () name (s.memory n)
    | .folder f, name, s => Backend.tableExists f name s.disk
  createTable
    | .memory n, layout, s => s.changeMemory n (Backend.createTable () layout)
    | .folder f, layout, s => s.changeDisk (Backend.createTable f layout)
  deleteTable
    | .memory n, name, s => s.changeMemory n (Backend.deleteTable () name)
    | .folder f, name, s => s.changeDisk (Backend.deleteTable f name)
  openTable
    | .memory n, name, s => Backend.openTable () name (s.memory n)
    | .folder f, name, s => Backend.openTable f name s.disk
  putRow
    | .memory n, h, key, cells, s => s.changeMemory n (Backend.putRow () h key cells)
    | .folder f, h, key, cells, s => s.changeDisk (Backend.putRow f h key cells)
  getRow
    | .memory n, h, key, s => Backend.getRow () h key (s.memory n)
    | .folder f, h, key, s => Backend.getRow f h key s.disk
  scan
    | .memory n, h, after, limit, s => Backend.scan () h after limit (s.memory n)
    | .folder f, h, after, limit, s => Backend.scan f h after limit s.disk

end Site

end JobLedger
