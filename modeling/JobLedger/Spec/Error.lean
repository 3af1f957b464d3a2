/-!
# Faults of data descriptors

A descriptor that does not parse is refused with the first rule it breaks
and with the whole text, so that the message can be read without the job
it came from.
-/

namespace JobLedger

/-- The rule that a descriptor breaks. -/
inductive SpecFault
  | unknownFormat (token : String)
  | missingLocation
  | emptyLocation
  | tooManyLocations (format : String) (count : Nat)
  | missingSplits
  | invalidSplits (text : String)
deriving DecidableEq, Repr

/-- A descriptor that does not parse. -/
structure SpecError where
  fault : SpecFault
  input : String
deriving DecidableEq, Repr

def SpecFault.message : SpecFault → String
  | .unknownFormat token => s!"unknown format '{token}'"
  | .missingLocation => "missing required location"
  | .emptyLocation => "empty location in location list"
  | .tooManyLocations format count =>
      s!"format '{format}' accepts exactly one location, got {count}"
  | .missingSplits => "missing required splits (expected '@<n>' after the location)"
  | .invalidSplits text => s!"invalid splits '{text}' (expected a positive integer)"

def SpecError.message (e : SpecError) : String :=
  s!"{e.fault.message} in spec '{e.input}'"

end JobLedger
