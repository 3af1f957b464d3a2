import JobLedger.Job.Registry
import JobLedger.Record.Conf
import JobLedger.Spec.Input
import JobLedger.Spec.Output
import JobLedger.Text.Blank
import JobLedger.Text.Quoted

/-!
# Job definitions

A `JobDefinition` is what a caller asks for: plain texts, nothing checked.
`JobDefinition.prepare` turns it into a `PreparedJob`, whose descriptors
are parsed and whose producer is found, so every mistake in a definition
is reported before the job is submitted.

The prepared configuration is the job's own one with the entries of the
submission written over it. A job without an input descriptor has no entry
for it, so what its own configuration says there stays.
-/

namespace JobLedger

structure JobDefinition where
  /-- A blank name stands for one made of the producer's. -/
  name : String
  producer : String
  input : List InputRow
  inputSpec : Option String
  output : String
  /-- Further settings to be recorded with the job. -/
  conf : Dict String String
deriving DecidableEq

/-- A job that can be submitted. -/
structure PreparedJob where
  name : String
  producer : Producer
  input : List InputRow
  inputSpec : Option InputSpec
  output : OutputSpec
  /-- The settings recorded with the job. -/
  conf : JobConf

namespace JobDefinition

/-- A definition that asks for nothing. -/
def empty : JobDefinition := ⟨"", "", [], none, "", ∅⟩

/-- Reads an optional input descriptor. -/
def parseInputSpec : Option String → Except JobError (Option InputSpec)
  | none => .ok none
  | some text =>
      match InputSpec.parse text with
      | .ok s => .ok (some s)
      | .error e => .error (.spec e)

/-- The settings recorded with a job. -/
def recordedConf (conf : Dict String String) (name producer : String) (output : OutputSpec)
    (inputSpec : Option InputSpec) : JobConf :=
  let conf := (JobConf.mk conf).set JobConf.jobNameKey name
    |>.set JobConf.producerKey producer
    |>.set JobConf.outputSpecKey output.render
    |>.set JobConf.versionKey JobConf.version
  match inputSpec with
  | some s => conf.set JobConf.inputSpecKey s.render
  | none => conf

/-- Checks a definition and resolves what it names. -/
def prepare (j : JobDefinition) (registry : Registry) : Except JobError PreparedJob :=
  if trim j.producer = "" then .error (.invalid .noProducer)
  else if trim j.output = "" then .error (.invalid .noOutput)
  else
    match OutputSpec.parse j.output with
    | .error e => .error (.spec e)
    | .ok output => do
        let inputSpec ← parseInputSpec j.inputSpec
        let producer ← registry.get j.producer
        let name := if trim j.name = "" then s!"mrkit-{j.producer}" else j.name
        return {
          name, producer, input := j.input, inputSpec, output
          conf := recordedConf j.conf name producer.name output inputSpec }

def fieldNames : List String := ["name", "producer", "input", "input_spec", "output", "conf"]

/-- Only the producer has to be there. -/
def ofJson? (j : Json) : Option JobDefinition := do
  let fs ← j.fields? fieldNames
  return {
    name := ← fs.orElse "name" "" Json.text?
    producer := ← fs.required "producer" Json.text?
    input := ← fs.orElse "input" [] (Json.list? InputRow.ofJson?)
    inputSpec := ← fs.orElse "input_spec" none (Json.nullable? Json.text?)
    output := ← fs.orElse "output" "" Json.text?
    conf := ← fs.orElse "conf" ∅ (Json.dict? Json.text?) }

end JobDefinition

/-- A short description for diagnostics. -/
def PreparedJob.describe (j : PreparedJob) : String :=
  let name := quoted j.name
  let producer := quoted j.producer.name
  let output := quoted j.output.render
  let rows := j.input.length
  s!"PreparedJob \x7b name: {name}, producer: {producer}, rows: {rows}, output: {output} \x7d"

end JobLedger
