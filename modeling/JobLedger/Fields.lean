/-!
# Records out of written values

A record is written as an object with named members, or - where the format
allows it - as a list of its fields in the order of their declaration.
`Fields` is the common view of both: which declared field has which value.

The two forms differ in one point. A field that may be empty can be left
out of an object; in a list it has to be there, unless it has a default.

What reads a value may fail, and may have other effects.
-/

namespace JobLedger

/-- The values found for the declared fields of a record. -/
structure Fields (α : Type) where
  /-- The record is written as a list. -/
  positional : Bool
  found : List (String × α)

namespace Fields

variable {α β : Type} {m : Type → Type}

/-- The fields of a record written with named members. Members that are
not declared are ignored; a declared one may occur only once. -/
def named? (declared : List String) (members : List (String × α)) : Option (Fields α) :=
  let found := members.filter fun m => m.1 ∈ declared
  if (found.map (·.1)).Nodup then some ⟨false, found⟩ else none

/-- The fields of a record written as a list, which may be too short but
not too long. -/
def listed? (declared : List String) (items : List α) : Option (Fields α) :=
  if items.length ≤ declared.length then some ⟨true, declared.zip items⟩ else none

def get? (fs : Fields α) (name : String) : Option α := fs.found.lookup name

def required [Alternative m] (fs : Fields α) (name : String) (read : α → m β) : m β :=
  match fs.get? name with
  | none => failure
  | some a => read a

def orElse [Pure m] (fs : Fields α) (name : String) (default : β) (read : α → m β) : m β :=
  match fs.get? name with
  | none => pure default
  | some a => read a

/-- A field that may be empty. -/
def optional (fs : Fields α) (name : String) (read : α → Option (Option β)) :
    Option (Option β) :=
  match fs.get? name with
  | none => if fs.positional then none else some none
  | some a => read a

end Fields

end JobLedger
