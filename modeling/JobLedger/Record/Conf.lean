import JobLedger.Json.Decode
import JobLedger.Json.Parser
import JobLedger.Json.Printer

/-!
# Job configurations

The settings a job was submitted with, as texts by name. The history keeps
them as an indented JSON object, which stays readable when a record is
looked at by hand.

The keys below are written by the submission itself, over whatever the
job's own settings say under them; the one of the input descriptor only if
the job has one.
-/

namespace JobLedger

structure JobConf where
  values : Dict String String
deriving DecidableEq, Inhabited

namespace JobConf

def jobNameKey : String := "mrkit.job.name"

def producerKey : String := "mrkit.producer"

def outputSpecKey : String := "mrkit.output.spec"

def inputSpecKey : String := "mrkit.input.spec"

def versionKey : String := "mrkit.version"

/-- The version recorded with every job. -/
def version : String := "0.1.0"

/-- No settings. -/
def empty : JobConf := ⟨∅⟩

def get? (c : JobConf) (key : String) : Option String := c.values.get? key

def set (c : JobConf) (key value : String) : JobConf := ⟨c.values.insert key value⟩

/-- Settings from a list, in which a later value of a key wins. -/
def ofList (l : List (String × String)) : JobConf := ⟨.ofList l⟩

def toList (c : JobConf) : List (String × String) := c.values.entries

def size (c : JobConf) : Nat := c.values.size

def isEmpty (c : JobConf) : Bool := c.values.isEmpty

def toJson (c : JobConf) : Json := Json.ofDict Json.text c.values

def ofJson? (j : Json) : Option JobConf := (j.dict? Json.text?).map JobConf.mk

/-- The stored text. -/
def toText (c : JobConf) : String := c.toJson.toIndentedText

def ofText? (s : String) : Option JobConf := (Json.parse? s).bind ofJson?

end JobConf

end JobLedger
