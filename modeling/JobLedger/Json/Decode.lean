import JobLedger.Dict
import JobLedger.Fields
import JobLedger.Json.Basic

/-!
# Typed reading of JSON values

Each reader accepts the values of one type and answers `none` on any
other. Nothing is converted: a number is no text, an absent value is
`null` and not an empty string.
-/

namespace JobLedger.Json

variable {α : Type}

def text? : Json → Option String
  | .str t => t
  | _ => none

def bool? : Json → Option Bool
  | .bool b => some b
  | _ => none

/-- An integer between `low` and `high`. -/
def intIn? (low high : Int) : Json → Option Int
  | .int n => if low ≤ n ∧ n ≤ high then some n else none
  | _ => none

/-- A number of 64 bits. -/
def word? (j : Json) : Option UInt64 :=
  (j.intIn? 0 18446744073709551615).map fun n => UInt64.ofNat n.toNat

/-- A signed number of 64 bits. -/
def signedWord? (j : Json) : Option Int64 :=
  (j.intIn? (-9223372036854775808) 9223372036854775807).map Int64.ofInt

/-- A count, bounded like a number of 64 bits. -/
def count? (j : Json) : Option Nat :=
  (j.intIn? 0 18446744073709551615).map Int.toNat

/-- A value or `null`. -/
def nullable? (read : Json → Option α) : Json → Option (Option α)
  | .null => some none
  | j => (read j).map some

def list? (read : Json → Option α) : Json → Option (List α)
  | .arr items => items.mapM read
  | _ => none

/-- An object with arbitrary keys. A later member of a key wins. -/
def dict? (read : Json → Option α) : Json → Option (Dict String α)
  | .obj members =>
      (members.mapM fun (m : Option String × Json) => do
        let k ← m.1
        let v ← read m.2
        return (k, v)).map Dict.ofList
  | _ => none

/-- The declared fields of a record. -/
def fields? (declared : List String) : Json → Option (Fields Json)
  | .obj members => do
      let members ← members.mapM fun m => m.1.map fun k => (k, m.2)
      Fields.named? declared members
  | .arr items => Fields.listed? declared items
  | _ => none

/-- A dictionary as an object, its keys in order. -/
def ofDict (f : α → Json) (d : Dict String α) : Json :=
  object (d.entries.map fun e => (e.1, f e.2))

end JobLedger.Json
