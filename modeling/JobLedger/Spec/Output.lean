import JobLedger.Json.Decode
import JobLedger.Spec.Error
import JobLedger.Text.Cut
import JobLedger.Text.Numeral

/-!
# Output descriptors

An output descriptor `format:location@splits` says how, where and in how
many parts a job writes its results:

    kiji:kiji://hbase/instance/table@123
    hfile:kiji://hbase/instance/table;hdfs://localhost:1234/tmp/foo@8

The format ends at the first colon and the splits start behind the last
`@`, so a location may contain both characters. A descriptor always has a
location and at least one split; both are part of the type.
-/

namespace JobLedger

/-- How the results of a job are written. -/
inductive OutputFormat
  | kiji
  | text
  | sequenceFile
  | mapFile
  | hFile
  | avro
  | avroKeyValue
deriving DecidableEq, Repr

namespace OutputFormat

/-- Every format, in the order in which formats are listed. -/
def all : List OutputFormat :=
  [.kiji, .text, .sequenceFile, .mapFile, .hFile, .avro, .avroKeyValue]

/-- The name of a format in a descriptor. -/
def token : OutputFormat → String
  | .kiji => "kiji"
  | .text => "text"
  | .sequenceFile => "seq"
  | .mapFile => "map"
  | .hFile => "hfile"
  | .avro => "avro"
  | .avroKeyValue => "avrokv"

/-- The name of a format on its own, outside a descriptor. -/
def constant : OutputFormat → String
  | .kiji => "KIJI"
  | .text => "TEXT"
  | .sequenceFile => "SEQUENCE_FILE"
  | .mapFile => "MAP_FILE"
  | .hFile => "H_FILE"
  | .avro => "AVRO"
  | .avroKeyValue => "AVRO_KEY_VALUE"

/-- The format with the given token. Case matters. -/
def ofToken? (token : String) : Option OutputFormat := all.find? (·.token = token)

def ofConstant? (name : String) : Option OutputFormat := all.find? (·.constant = name)

def toJson (f : OutputFormat) : Json := .text f.constant

theorem ofToken?_token (f : OutputFormat) : ofToken? f.token = some f := by
  cases f <;> decide

theorem ofToken?_eq_some_iff {t : String} {f : OutputFormat} :
    ofToken? t = some f ↔ f.token = t := by
  constructor
  · intro h
    simpa using List.find?_some h
  · rintro rfl
    exact ofToken?_token f

end OutputFormat

/-- How, where and in how many parts a job writes its results. -/
structure OutputSpec where
  format : OutputFormat
  location : String
  splits : UInt32
  location_ne : location ≠ ""
  splits_pos : 0 < splits
deriving DecidableEq, Repr

/-- Why parts do not make an output descriptor. -/
inductive OutputFault
  | noSplits
  | noLocation
deriving DecidableEq, Repr

def OutputFault.message : OutputFault → String
  | .noSplits => "Invalid argument: splits must be at least 1, got 0"
  | .noLocation => "Invalid argument: output location must not be empty"

namespace OutputSpec

/-- The descriptor with the given parts. -/
def create (format : OutputFormat) (location : String) (splits : UInt32) :
    Except OutputFault OutputSpec :=
  if hs : 0 < splits then
    if hl : location = "" then .error .noLocation
    else .ok ⟨format, location, splits, hl, hs⟩
  else .error .noSplits

/-- A number of splits: digits only, of a value between one and the
largest number of 32 bits. -/
def splits? (cs : List Char) : Option { n : UInt32 // 0 < n } :=
  if cs ≠ [] ∧ cs.all Char.isDigit then
    match Numeral.read 10 4294967295 cs with
    | .ok n => if h : 0 < UInt32.ofNat n then some ⟨_, h⟩ else none
    | .error _ => none
  else none

/-- The fault or the descriptor that a text stands for. -/
def parseChars (cs : List Char) : Except SpecFault OutputSpec :=
  match cutFirst ':' cs with
  | none => .error .missingLocation
  | some (token, rest) =>
      match OutputFormat.ofToken? (.ofList token) with
      | none => .error (.unknownFormat (.ofList token))
      | some format =>
          if rest = [] then .error .missingLocation
          else match cutLast '@' rest with
            | none => .error .missingSplits
            | some (location, count) =>
                if h : String.ofList location = "" then .error .missingLocation
                else match splits? count with
                  | none => .error (.invalidSplits (.ofList count))
                  | some ⟨splits, hs⟩ => .ok ⟨format, .ofList location, splits, h, hs⟩

/-- Reads a descriptor. -/
def parse (text : String) : Except SpecError OutputSpec :=
  (parseChars text.toList).mapError fun fault => ⟨fault, text⟩

/-- The descriptor as text. -/
def render (s : OutputSpec) : String :=
  s!"{s.format.token}:{s.location}@{s.splits.toNat}"

/-- The table and the path of an output that loads files into a table. The
table ends at the first semicolon of the location; without one there is
only a path. Other formats have no such parts. -/
def loadTarget? (s : OutputSpec) : Option (Option String × String) :=
  if s.format = .hFile then
    match cutFirst ';' s.location.toList with
    | some (table, path) => some (some (.ofList table), .ofList path)
    | none => some (none, s.location)
  else none

/-- A descriptor is stored as its text. -/
def toJson (s : OutputSpec) : Json := .text s.render

def ofJson? (j : Json) : Option OutputSpec := do
  match parse (← j.text?) with
  | .ok s => some s
  | .error _ => none

end OutputSpec

end JobLedger
