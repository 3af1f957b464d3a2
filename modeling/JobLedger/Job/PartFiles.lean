import JobLedger.Disk.Ensure
import JobLedger.Disk.Step
import JobLedger.Job.Error
import JobLedger.Job.Outcome
import JobLedger.Spec.Output
import JobLedger.Text.Numeral

/-!
# Part files

A text output is a directory of part files. Each emitted value is one line
`key<tab>value`, written to the part that a hash of the key selects, so
the lines of a key are in one part and keep their order.

A part file is made when its first line is written; a part without lines
has no file, however many splits there are. The hash is a parameter.
-/

namespace JobLedger.PartFiles

/-- The name of a part file: its number with at least five digits. -/
def partName (index : Nat) : String := "part-r-" ++ Numeral.padded 5 index

/-- The part that a key belongs to. -/
def partition (hash : String → Nat) (splits : UInt32) (key : String) : Nat :=
  hash key % splits.toNat

/-- The line of an emitted value. -/
def line (r : OutputRecord) : Bytes :=
  Utf8.encode (r.key.toList ++ '\t' :: (r.value.toList ++ ['\n']))

/-- The steps that write records, given the parts that have a file already. -/
def steps (hash : String → Nat) (dir : String) (splits : UInt32) :
    List Nat → List OutputRecord → List Disk.Step
  | _, [] => []
  | opened, r :: rs =>
      let index := partition hash splits r.key
      let file := Disk.child dir (partName index)
      (if index ∈ opened then [] else [.create file])
        ++ .append file (line r) :: steps hash dir splits (index :: opened) rs

/-- Writes records as part files under the location of an output. -/
def write (hash : String → Nat) (spec : OutputSpec) (records : List OutputRecord) (d : Disk) :
    Except OutputError Unit × Disk :=
  match d.ensureDir spec.location with
  | (.error e, d) => (.error (.cannotCreate spec.location e), d)
  | (.ok (), d) =>
      let (r, d) := d.run (steps hash spec.location spec.splits [] records)
      (r.mapError .disk, d)

end JobLedger.PartFiles
