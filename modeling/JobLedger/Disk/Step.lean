import JobLedger.Disk.Basic

/-!
# Writing as a list of steps

A file is replaced by writing a temporary file beside it and renaming that
one over it. The write is kept as its list of primitive steps
(`replaceSteps`), so that stopping it after any number of them is a prefix
of the list and the state in between is a tree like any other.
-/

namespace JobLedger.Disk

/-- One primitive change of the tree. -/
inductive Step
  | create (address : String)
  | append (address : String) (content : Bytes)
  | rename (source target : String)
deriving DecidableEq, Repr

def Step.apply : Step → Disk → Except DiskError Disk
  | .create address, d => d.create address
  | .append address content, d => d.append address content
  | .rename source target, d => d.rename source target

/-- Takes steps until one fails; what the earlier ones did stays. -/
def run : List Step → Disk → Except DiskError Unit × Disk
  | [], d => (.ok (), d)
  | s :: r, d =>
      match s.apply d with
      | .ok d => run r d
      | .error e => (.error e, d)

/-- The last component of an address with its ending replaced. The ending
starts at the last point, unless that point is the first character. -/
def withEnding (name ending : String) : String :=
  match cutLast '.' name.toList with
  | some (stem, _) =>
      if stem = [] then name ++ "." ++ ending else .ofList stem ++ "." ++ ending
  | none => name ++ "." ++ ending

/-- The ending of a name: what follows its last point, unless that point is
the first character. -/
def ending? (name : String) : Option String :=
  match cutLast '.' name.toList with
  | some (stem, ending) => if stem = [] then none else some (.ofList ending)
  | none => none

/-- A name without its ending. -/
def stemOf (name : String) : String :=
  match cutLast '.' name.toList with
  | some (stem, _) => if stem = [] then name else .ofList stem
  | none => name

/-- The address of a name in a directory. -/
def child (dir name : String) : String :=
  if dir = "" then name
  else if dir.toList.getLast? = some '/' then dir ++ name
  else dir ++ "/" ++ name

/-- The steps that replace the file `name` of a directory. -/
def replaceSteps (dir name : String) (content : Bytes) : List Step :=
  let temporary := child dir (withEnding name "tmp")
  [.create temporary, .append temporary content, .rename temporary (child dir name)]

def replaceFile (dir name : String) (content : Bytes) (d : Disk) :
    Except DiskError Unit × Disk :=
  run (replaceSteps dir name content) d

example : withEnding "6162.json" "tmp" = "6162.tmp" := by decide
example : withEnding ".json" "tmp" = ".json.tmp" := by decide
example : ending? ".json" = none := by decide

end JobLedger.Disk
