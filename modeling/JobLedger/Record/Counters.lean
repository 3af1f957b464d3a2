import JobLedger.Json.Decode
import JobLedger.Json.Parser
import JobLedger.Json.Printer

/-!
# Counters

What a job has counted: signed numbers of 64 bits by name. A counter that
was never written counts zero. The stored text is a JSON object with the
names in order, so a name may contain any character.
-/

namespace JobLedger

/-- Signed numbers by name. -/
structure Counters where
  values : Dict String Int64
deriving DecidableEq, Inhabited

namespace Counters

def empty : Counters := ⟨∅⟩

def get (c : Counters) (name : String) : Int64 := (c.values.get? name).getD 0

def contains (c : Counters) (name : String) : Bool := c.values.contains name

def set (c : Counters) (name : String) (value : Int64) : Counters :=
  ⟨c.values.insert name value⟩

/-- Adds to a counter, which starts at zero. -/
def increment (c : Counters) (name : String) (amount : Int64) : Counters :=
  c.set name (c.get name + amount)

/-- Adds every counter of `other`. -/
def merge (c other : Counters) : Counters :=
  other.values.entries.foldl (fun c e => c.increment e.1 e.2) c

/-- Counters from a list, in which a later value of a name wins. -/
def ofList (l : List (String × Int64)) : Counters := ⟨.ofList l⟩

def toList (c : Counters) : List (String × Int64) := c.values.entries

def size (c : Counters) : Nat := c.values.size

def isEmpty (c : Counters) : Bool := c.values.isEmpty

def toJson (c : Counters) : Json := Json.ofDict (fun n => .int n.toInt) c.values

def ofJson? (j : Json) : Option Counters := (j.dict? Json.signedWord?).map Counters.mk

/-- The stored text. -/
def toText (c : Counters) : String := c.toJson.toText

def ofText? (s : String) : Option Counters := (Json.parse? s).bind ofJson?

end Counters

end JobLedger
