import JobLedger.Disk.Ensure
import JobLedger.Disk.Step

/-!
# Taking a tree in and giving it back

A `Disk` is a value, and the files that a program works on are not. The
tree is taken in entry by entry with `place`, and what a command did to it
is given back as the list of its `changes`.

The changes first remove what has to go, a directory after everything in
it, and then make what is new, a directory before everything in it.
-/

namespace JobLedger.Disk

/-- The tree with an entry at an address: a file if there is a content, a
directory otherwise. The directories above it are made. -/
def place (d : Disk) (address : String) : Option Bytes → Disk
  | none => (d.ensureDir address).2
  | some content =>
      let (_, d) := d.ensureFirst (ancestors address)
      (run [.create address, .append address content] d).2

/-- A difference between two trees. -/
inductive Change
  | removeFile (path : Path)
  | removeDir (path : Path)
  | makeDir (path : Path)
  /-- A file gets a content, be it there or not. -/
  | write (path : Path) (content : Bytes)
deriving DecidableEq, Repr

def addressOf (p : Path) : String := .ofList ('/' :: joinPieces '/' (p.map String.toList))

/-- The path beside a file at which its next content is prepared. -/
def temporary (p : Path) : Path :=
  p.dropLast ++ (p.getLast?.map (withEnding · "tmp")).toList

/-- What has to go so that a node can stand where another one stood. -/
def removal (p : Path) : Node → Option Node → Option Change
  | .file _, some (.file _) => none
  | .file _, _ => some (.removeFile p)
  | .dir, some .dir => none
  | .dir, _ => some (.removeDir p)

def making (p : Path) : Node → Change
  | .file content => .write p content
  | .dir => .makeDir p

/-- What leads from one tree to another. -/
def changes (before after : Disk) : List Change :=
  before.nodes.entries.reverse.filterMap (fun e => removal e.1 e.2 (after.nodes.get? e.1))
    ++ after.nodes.entries.filterMap fun e =>
      if before.nodes.get? e.1 = some e.2 then none else some (making e.1 e.2)

/-- A tree in which a file gave way to a directory with a file in it. -/
example :
    changes (place (empty ["w"] ⟨none, none⟩) "a" (some [1]))
        (place (empty ["w"] ⟨none, none⟩) "a/b" (some [2]))
      = [.removeFile ["w", "a"], .makeDir ["w", "a"], .write ["w", "a", "b"] [2]] := by
  decide +kernel

end JobLedger.Disk
