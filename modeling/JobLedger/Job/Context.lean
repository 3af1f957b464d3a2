import JobLedger.History.Store
import JobLedger.Storage.Address

/-!
# Run contexts

The settings of a run and the history table its jobs are recorded in, if
there is one. A table that is missing or cannot be reached leaves the
context without history; the jobs run all the same. Switching recording
off hides the history whichever way it came in.
-/

namespace JobLedger

structure RunContext (ι : Type) where
  config : HistoryConfig
  opened : Option (HistoryStore ι)

namespace RunContext

variable {ι σ : Type} [Backend ι σ]

/-- A context that records nothing. -/
def new (config : HistoryConfig) : RunContext ι := ⟨config, none⟩

/-- Opens the history table of an instance. -/
def connect (config : HistoryConfig) (i : ι) (s : σ) : RunContext ι :=
  if config.enabled then
    match HistoryStore.openTable i config s with
    | .ok h => ⟨config, some h⟩
    | .error _ => ⟨config, none⟩
  else ⟨config, none⟩

def withHistory (c : RunContext ι) (h : HistoryStore ι) : RunContext ι :=
  { c with opened := some h }

/-- The history table, unless recording is off. -/
def history? (c : RunContext ι) : Option (HistoryStore ι) :=
  if c.config.enabled then c.opened else none

/-- Opens the instance at the configured address, then its history table. -/
def ofConfig (config : HistoryConfig) (s : Site) : RunContext Instance × Site :=
  match config.storeUri with
  | none => (new config, s)
  | some uri =>
      match s.openInstance uri with
      | (.ok i, s) => (connect config i s, s)
      | (.error _, s) => (new config, s)

end RunContext

end JobLedger
