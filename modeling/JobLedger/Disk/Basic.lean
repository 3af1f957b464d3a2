import JobLedger.Dict
import JobLedger.Text.Cut
import JobLedger.Text.Utf8

/-!
# A directory tree as a value

Tables in files, part files and job files are all defined over a `Disk`:
a finite tree of directories and files, with the few primitive steps that
a file system offers. What a program does to its files is then a function
on trees, and a program that is stopped half way is a shorter list of
steps.

A file is addressed by a text, resolved the way file systems do it:
components are separated by slashes, every component before the last has
to lead to a directory, `.` stays and `..` goes up, and a trailing slash
asks for a directory. A relative address starts at the working directory.

Names and addresses may be limited in length. A tree without limits
accepts every name.
-/

namespace JobLedger

/-- The names that lead from the top of the tree to a file or directory. -/
abbrev Path := List String

/-- What stands at a path. -/
inductive Node
  | file (content : Bytes)
  | dir
deriving DecidableEq, Repr

/-- Why a step on the tree fails. -/
inductive DiskError
  | notFound
  | notDirectory
  | isDirectory
  | exists
  | nameTooLong
  /-- The address contains the character U+0000. -/
  | nulInName
  /-- No directory above the wanted one can be made. -/
  | noAncestor
  /-- The content of a file is not text. -/
  | notText
deriving DecidableEq, Repr

def DiskError.message : DiskError → String
  | .notFound => "No such file or directory (os error 2)"
  | .notDirectory => "Not a directory (os error 20)"
  | .isDirectory => "Is a directory (os error 21)"
  | .exists => "File exists (os error 17)"
  | .nameTooLong => "File name too long (os error 36)"
  | .nulInName => "file name contained an unexpected NUL byte"
  | .noAncestor => "failed to create whole tree"
  | .notText => "stream did not contain valid UTF-8"

/-- The longest names and addresses, in bytes; without a number there is
no limit. -/
structure NameLimits where
  name : Option Nat
  address : Option Nat
deriving DecidableEq, Repr

/-- The tree, its working directory and its limits. The top directory is
always there and has no entry of its own. -/
structure Disk where
  nodes : Dict Path Node
  workDir : Path
  limits : NameLimits
deriving DecidableEq

namespace Disk

/-- A tree with nothing but the directories down to its working
directory. -/
def empty (workDir : Path) (limits : NameLimits) : Disk where
  nodes := .ofList ((List.range workDir.length).map fun n => (workDir.take (n + 1), .dir))
  workDir
  limits

/-- What stands at a path. -/
def node? (d : Disk) (p : Path) : Option Node :=
  if p = [] then some .dir else d.nodes.get? p

def components (address : String) : List String :=
  (pieces '/' address.toList).map String.ofList

def isAbsolute (address : String) : Bool := address.toList.head? = some '/'

def exceeds (limit : Option Nat) (s : String) : Bool :=
  match limit with
  | some n => n < (Utf8.bytes s).length
  | none => false

/-- Follows components from a path. Each step needs a directory to start
from; what the last one leads to need not exist. -/
def follow (d : Disk) (p : Path) : List String → Except DiskError Path
  | [] => .ok p
  | c :: r =>
      match d.node? p with
      | none => .error .notFound
      | some (.file _) => .error .notDirectory
      | some .dir =>
          if c = "" ∨ c = "." then follow d p r
          else if c = ".." then follow d p.dropLast r
          else if exceeds d.limits.name c then .error .nameTooLong
          else follow d (p ++ [c]) r

/-- Where an address starts. -/
def startOf (d : Disk) (address : String) : Path :=
  if isAbsolute address then [] else d.workDir

/-- The faults of an address that no look at the tree can mend. -/
def checkAddress (d : Disk) (address : String) : Except DiskError Unit :=
  if '\x00' ∈ address.toList then .error .nulInName
  else if address = "" then .error .notFound
  else if exceeds d.limits.address address then .error .nameTooLong
  else .ok ()

/-- The path that an address leads to. -/
def locate (d : Disk) (address : String) : Except DiskError Path := do
  d.checkAddress address
  d.follow (d.startOf address) (components address)

/-- What stands at an address, if anything does. -/
def find? (d : Disk) (address : String) : Option Node :=
  match d.locate address with
  | .ok p => d.node? p
  | .error _ => none

def isDir (d : Disk) (address : String) : Bool :=
  match d.find? address with
  | some .dir => true
  | _ => false

def isFile (d : Disk) (address : String) : Bool :=
  match d.find? address with
  | some (.file _) => true
  | _ => false

/-- The content of a file. -/
def read (d : Disk) (address : String) : Except DiskError Bytes := do
  let p ← d.locate address
  match d.node? p with
  | some (.file content) => .ok content
  | some .dir => .error .isDirectory
  | none => .error .notFound

/-- The names in the directory at a path, in order. -/
def namesAt (d : Disk) (p : Path) : List String :=
  d.nodes.keys.filterMap fun q =>
    match q.getLast? with
    | some name => if q.dropLast = p then some name else none
    | none => none

/-- The names in a directory. They are listed in order, although a file
system may give them in any order. A scan sorts the rows it finds by their
keys, so the difference shows only if two file names stand for one key. -/
def list (d : Disk) (address : String) : Except DiskError (List String) := do
  let p ← d.locate address
  match d.node? p with
  | some .dir => .ok (d.namesAt p)
  | some (.file _) => .error .notDirectory
  | none => .error .notFound

def setNode (d : Disk) (p : Path) (n : Node) : Disk := { d with nodes := d.nodes.insert p n }

/-- The tree without a path and everything below it. -/
def prune (d : Disk) (p : Path) : Disk :=
  { d with nodes := d.nodes.filter fun q _ => !p.isPrefixOf q }

/-! ## Primitive steps -/

/-- Drops the slashes at the end of a list of components. -/
def dropTrailing (cs : List String) : List String :=
  (cs.reverse.dropWhile (· = "")).reverse

/-- Makes one directory. -/
def makeDir (d : Disk) (address : String) : Except DiskError Disk := do
  d.checkAddress address
  let cs := dropTrailing (components address)
  match cs.getLast? with
  | none => .error .exists
  | some name =>
      let p ← d.follow (d.startOf address) (cs.dropLast ++ [""])
      if name = "." ∨ name = ".." then .error .exists
      else if exceeds d.limits.name name then .error .nameTooLong
      else if (d.node? (p ++ [name])).isSome then .error .exists
      else .ok (d.setNode (p ++ [name]) .dir)

/-- Makes an empty file, or empties the one that is there. -/
def create (d : Disk) (address : String) : Except DiskError Disk := do
  let p ← d.locate address
  match d.node? p with
  | some .dir => .error .isDirectory
  | _ => .ok (d.setNode p (.file []))

def append (d : Disk) (address : String) (content : Bytes) : Except DiskError Disk := do
  let p ← d.locate address
  match d.node? p with
  | some .dir => .error .isDirectory
  | some (.file old) => .ok (d.setNode p (.file (old ++ content)))
  | none => .error .notFound

/-- Gives a file another place, where it replaces an earlier file. -/
def rename (d : Disk) (source target : String) : Except DiskError Disk := do
  let p ← d.locate source
  let q ← d.locate target
  match d.node? p with
  | some (.file content) =>
      if d.node? q = some .dir then .error .isDirectory
      else if p = q then .ok d
      else .ok ((d.prune p).setNode q (.file content))
  | some .dir => .error .isDirectory
  | none => .error .notFound

/-- Removes a directory with everything in it. -/
def removeDir (d : Disk) (address : String) : Except DiskError Disk := do
  let p ← d.locate address
  match d.node? p with
  | some .dir => .ok (d.prune p)
  | some (.file _) => .error .notDirectory
  | none => .error .notFound

/-- Removes a file, or a directory with everything in it. -/
def remove (d : Disk) (address : String) : Except DiskError Disk := do
  let p ← d.locate address
  match d.node? p with
  | some _ => .ok (d.prune p)
  | none => .error .notFound

end Disk

end JobLedger
