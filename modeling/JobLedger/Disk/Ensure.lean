import JobLedger.Disk.Basic

/-!
# Making a directory and those above it

`Disk.ensureDir` makes a directory that may lack its parents. It tries the
wanted address first and goes up only where something above is missing, so
a directory that is already there costs nothing and changes nothing.

What was made before a failure stays: the result always carries the tree.
-/

namespace JobLedger.Disk

/-- The components that count when going up: empty ones and single dots
do not, except for a dot in front. -/
def upComponents (address : String) : List String :=
  match components address with
  | [] => []
  | c :: r =>
      (if c = "" then [] else [c]) ++ r.filter fun c => c ≠ "" ∧ c ≠ "."

/-- The address of the first `n` components. -/
def stem (address : String) (n : Nat) : String :=
  let body := joinPieces '/' ((upComponents address).take n |>.map String.toList)
  .ofList (if isAbsolute address then '/' :: body else body)

/-- The addresses of the directories above an address, the nearest first.
The last one is the top or the empty address. -/
def ancestors (address : String) : List String :=
  ((List.range (upComponents address).length).reverse).map (stem address)

/-- Makes the first of the directories, and those behind it in the list
where they are missing. -/
def ensureFirst : List String → Disk → Except DiskError Unit × Disk
  | [], d => (.error .noAncestor, d)
  | address :: up, d =>
      if address = "" then (.ok (), d)
      else match d.makeDir address with
        | .ok d => (.ok (), d)
        | .error .notFound =>
            match ensureFirst up d with
            | (.error e, d) => (.error e, d)
            | (.ok (), d) =>
                match d.makeDir address with
                | .ok d => (.ok (), d)
                | .error e => (if d.isDir address then .ok () else .error e, d)
        | .error e => (if d.isDir address then .ok () else .error e, d)

/-- Makes a directory and those above it that are missing. -/
def ensureDir (address : String) (d : Disk) : Except DiskError Unit × Disk :=
  ensureFirst (address :: ancestors address) d

end JobLedger.Disk
