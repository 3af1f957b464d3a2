import JobLedger.Config.History
import JobLedger.Job.Definition
import JobLedger.Yaml.Decode

/-!
# Job files

A job file is a YAML document with a job definition and, if the job wants
others than the environment's, history settings. Settings that it does not
give are left alone.
-/

namespace JobLedger

structure JobFile where
  config : ConfigOverrides
  job : JobDefinition
deriving DecidableEq

namespace JobFile

open Yaml (Document Reading)

/-- An input row may leave its columns out. -/
def row? (d : Document) (n : Yaml.Node) : Reading InputRow := do
  let fs ← d.fields? ["key", "columns"] n
  return {
    key := ← fs.required "key" d.text?
    columns := ← fs.orElse "columns" ∅ (d.dict? d.text?) }

/-- Only the producer has to be there. -/
def definition? (d : Document) (n : Yaml.Node) : Reading JobDefinition := do
  let fs ← d.fields? JobDefinition.fieldNames n
  return {
    name := ← fs.orElse "name" "" d.text?
    producer := ← fs.required "producer" d.text?
    input := ← fs.orElse "input" [] (d.list? (row? d))
    inputSpec := ← fs.orElse "input_spec" none (d.nullable? d.text?)
    output := ← fs.orElse "output" "" d.text?
    conf := ← fs.orElse "conf" ∅ (d.dict? d.text?) }

/-- Every setting may be left out. -/
def overrides? (d : Document) (n : Yaml.Node) : Reading ConfigOverrides := do
  let fs ← d.fields? HistoryConfig.fieldNames n
  return {
    storeUri := ← fs.orElse "store_uri" none (d.nullable? d.text?)
    tableName := ← fs.orElse "table_name" none (d.nullable? d.text?)
    scanBatch := ← fs.orElse "scan_batch" none (d.nullable? d.count?)
    waitTimeout := ← fs.orElse "wait_timeout_ms" none (d.nullable? d.word?)
    enabled := ← fs.orElse "enabled" none (d.nullable? d.bool?) }

/-- The settings and the job. -/
def read? (d : Document) : Reading JobFile := do
  let fs ← d.fields? ["config", "job"] d.root
  let config ← fs.orElse "config" none (d.nullable? (overrides? d))
  let job ← fs.required "job" (definition? d)
  return ⟨config.getD .none, job⟩

/-- Reads a job file. -/
def ofText? (s : String) : Option JobFile := do
  let d ← Document.ofText? s
  d.run? (read? d)

example : (ofText? "job:\n  producer: uppercase\nconfig:\n  scan_batch: 0x10\n").map
    (fun f => (f.job.producer, f.config.scanBatch)) = some ("uppercase", some 16) := by
  decide +kernel

end JobFile

end JobLedger
