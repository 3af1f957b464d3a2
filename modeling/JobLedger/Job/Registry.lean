import JobLedger.Job.Error
import JobLedger.Job.Producer
import JobLedger.Text.Cut
import JobLedger.Text.Upper

/-!
# The producers that jobs can name

A registry finds a producer by its name. The built-in one has three: the
domain of an e-mail address, a name in upper case, and one that always
fails, with which failed jobs are tried out.
-/

namespace JobLedger

namespace Producer

/-- What stands behind the first `@` of `info:email`. A row without the
column emits nothing; an address without `@` emits nothing and is counted. -/
def emailDomain : Producer where
  name := "email-domain"
  request := ["info:email"]
  outputColumn := "derived:domain"
  produce row :=
    match row.get? "info:email" with
    | none => .none
    | some email =>
        match cutFirst '@' email.toList with
        | some (_, domain) => .value (.ofList domain)
        | none => .count "EMAIL_WITHOUT_AT"

/-- `info:name` in upper case. -/
def uppercase : Producer where
  name := "uppercase"
  request := ["info:name"]
  outputColumn := "derived:name_upper"
  produce row :=
    match row.get? "info:name" with
    | none => .none
    | some name => .value (upper name)

/-- Fails on every row. -/
def alwaysFail : Producer where
  name := "always-fail"
  request := ["info:email"]
  outputColumn := "derived:domain"
  produce _ := .fail "this producer always fails"

end Producer

/-- Producers by name. -/
structure Registry where
  producers : Dict String Producer

namespace Registry

def empty : Registry := ⟨∅⟩

/-- Adds a producer under its own name and replaces an earlier one. -/
def register (r : Registry) (p : Producer) : Registry := ⟨r.producers.insert p.name p⟩

def builtin : Registry :=
  ((empty.register .emailDomain).register .uppercase).register .alwaysFail

def get (r : Registry) (name : String) : Except JobError Producer :=
  match r.producers.get? name with
  | some p => .ok p
  | none => .error (.unknownProducer name)

def names (r : Registry) : List String := r.producers.keys

end Registry

end JobLedger
