import JobLedger.Disk.Step
import JobLedger.Json.Decode
import JobLedger.Json.Parser
import JobLedger.Json.Printer
import JobLedger.Storage.Row
import JobLedger.Text.Hex

/-!
# Rows as files

A row is kept as a JSON object with its key and its cells, the values in
hexadecimal form. The name of the file is the hexadecimal form of the key,
so the order of the names is the order of the keys.

A file whose JSON has the wrong form and a value that is not hexadecimal
are different faults: the first concerns the file, the second a cell.
-/

namespace JobLedger.RowFile

def ending : String := "json"

def name (key : String) : String := Hex.text (Utf8.bytes key) ++ "." ++ ending

def toJson (r : Row) : Json :=
  .object [
    ("key", .text r.key),
    ("cells", Json.ofDict (Json.ofDict fun value => .text (Hex.text value)) r.cells)]

def content (r : Row) : Bytes := Utf8.encode (toJson r).compact

/-- A key and cells with their written values. -/
abbrev Written := String × Dict String (Dict String String)

def ofJson? (j : Json) : Option Written := do
  let fs ← j.fields? ["key", "cells"]
  return (← fs.required "key" Json.text?,
    ← fs.required "cells" (Json.dict? (Json.dict? Json.text?)))

def decodeFamily (key family : String) :
    List (String × String) → Except StoredFault (List (String × Bytes))
  | [] => .ok []
  | (qualifier, hex) :: r =>
      match Hex.decode? hex.toList with
      | none => .error (.cellNotHex key family qualifier)
      | some value => (decodeFamily key family r).map ((qualifier, value) :: ·)

/-- The cells of all families. -/
def decodeCells (key : String) :
    List (String × Dict String String) → Except StoredFault (List (String × Dict String Bytes))
  | [] => .ok []
  | (family, cells) :: r =>
      match decodeFamily key family cells.entries with
      | .error fault => .error fault
      | .ok values => (decodeCells key r).map ((family, .ofList values) :: ·)

def decode (content : Bytes) : Except StoredFault Row :=
  match (Json.ofBytes? content).bind ofJson? with
  | none => .error .json
  | some (key, cells) => (decodeCells key cells.entries).map fun cells => ⟨key, .ofList cells⟩

/-- The key that a file name stands for, if it is the name of a row file. -/
def key? (fileName : String) : Option String :=
  if Disk.ending? fileName = some ending then
    match Hex.decode? (Disk.stemOf fileName).toList with
    | some bytes =>
        match Utf8.decode bytes with
        | .ok key => some key
        | .error _ => none
    | none => none
  else none

end JobLedger.RowFile
