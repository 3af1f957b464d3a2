import JobLedger.Json.Decode
import JobLedger.Spec.Error
import JobLedger.Text.Cut

/-!
# Input descriptors

An input descriptor `format:location[,location...]` names what a job
reads. The formats that read a table take exactly one location, the
others any number; a location is never empty and has no comma.
-/

namespace JobLedger

/-- How the input of a job is read. -/
inductive InputFormat
  | kiji
  | hTable
  | text
  | smallTextFiles
  | sequenceFile
  | avro
  | avroKeyValue
  | xml
deriving DecidableEq, Repr

namespace InputFormat

/-- Every format, in the order in which formats are listed. -/
def all : List InputFormat :=
  [.kiji, .hTable, .text, .smallTextFiles, .sequenceFile, .avro, .avroKeyValue, .xml]

/-- The name of a format in a descriptor. -/
def token : InputFormat → String
  | .kiji => "kiji"
  | .hTable => "htable"
  | .text => "text"
  | .smallTextFiles => "small-text-files"
  | .sequenceFile => "seq"
  | .avro => "avro"
  | .avroKeyValue => "avrokv"
  | .xml => "xml"

/-- The name of a format on its own, outside a descriptor. -/
def constant : InputFormat → String
  | .kiji => "KIJI"
  | .hTable => "H_TABLE"
  | .text => "TEXT"
  | .smallTextFiles => "SMALL_TEXT_FILES"
  | .sequenceFile => "SEQUENCE_FILE"
  | .avro => "AVRO"
  | .avroKeyValue => "AVRO_KEY_VALUE"
  | .xml => "XML"

/-- The format with the given token. Case matters. -/
def ofToken? (token : String) : Option InputFormat := all.find? (·.token = token)

def ofConstant? (name : String) : Option InputFormat := all.find? (·.constant = name)

def toJson (f : InputFormat) : Json := .text f.constant

/-- The format reads one table and not a set of files. -/
def isTable : InputFormat → Bool
  | .kiji | .hTable => true
  | _ => false

theorem ofToken?_token (f : InputFormat) : ofToken? f.token = some f := by
  cases f <;> decide

theorem ofToken?_eq_some_iff {t : String} {f : InputFormat} :
    ofToken? t = some f ↔ f.token = t := by
  constructor
  · intro h
    simpa using List.find?_some h
  · rintro rfl
    exact ofToken?_token f

end InputFormat

/-- What a job reads. -/
structure InputSpec where
  format : InputFormat
  locations : List String
deriving DecidableEq, Repr

namespace InputSpec

/-- The fault or the descriptor that a text stands for. -/
def parseChars (cs : List Char) : Except SpecFault InputSpec :=
  match cutFirst ':' cs with
  | none => .error .missingLocation
  | some (token, rest) =>
      match InputFormat.ofToken? (.ofList token) with
      | none => .error (.unknownFormat (.ofList token))
      | some format =>
          if rest = [] then .error .missingLocation
          else
            let locations := pieces ',' rest
            if [] ∈ locations then .error .emptyLocation
            else if format.isTable ∧ locations.length ≠ 1 then
              .error (.tooManyLocations format.token locations.length)
            else .ok ⟨format, locations.map String.ofList⟩

/-- Reads a descriptor. -/
def parse (text : String) : Except SpecError InputSpec :=
  (parseChars text.toList).mapError fun fault => ⟨fault, text⟩

/-- The descriptor as text. -/
def render (s : InputSpec) : String :=
  .ofList (s.format.token.toList ++ ':' :: joinPieces ',' (s.locations.map String.toList))

/-- A descriptor is stored as its text. -/
def toJson (s : InputSpec) : Json := .text s.render

def ofJson? (j : Json) : Option InputSpec := do
  match parse (← j.text?) with
  | .ok s => some s
  | .error _ => none

end InputSpec

end JobLedger
