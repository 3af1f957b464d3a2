import JobLedger.History.Store
import JobLedger.History.Timestamp
import JobLedger.Record.Conf

/-!
# History reports

A report shows one record line by line; a field that was never written has
no line. Counters, configuration and extensions are sections of their own,
shown on demand.

The report of the whole history joins the reports of all records by an
empty line. A record that does not decode is left out; a scan that fails
takes the whole report with it.
-/

namespace JobLedger

structure ReportOptions where
  counters : Bool
  configuration : Bool
  extensions : Bool
deriving DecidableEq, Repr

namespace ReportOptions

/-- Every section. -/
def all : ReportOptions := ⟨true, true, true⟩

/-- No optional section. -/
def summary : ReportOptions := ⟨false, false, false⟩

end ReportOptions

namespace Report

/-- How wide labels are. -/
def labelWidth : Nat := 12

/-- A line with a label in front. -/
def line (label value : String) : String :=
  let padding := String.ofList (List.replicate (labelWidth - label.length) ' ')
  s!"{label}{padding}{value}\n"

/-- A line for a field, if the field is there. -/
def lineFor {α : Type} (label : String) (render : α → String) : Option α → String
  | some value => line label (render value)
  | none => ""

/-- A line of a section. -/
def entry (name value : String) : String := s!"  {name}={value}\n"

/-- The lines that are always shown. -/
def summary (r : JobRecord) : String :=
  lineFor "Job Name:" id r.jobName
    ++ line "Job ID:" r.jobId
    ++ lineFor "Start Time:" Timestamp.format r.startTime
    ++ lineFor "End Time:" Timestamp.format r.endTime
    ++ lineFor "End Status:" JobStatus.name r.endStatus

def countersSection (r : JobRecord) : String :=
  match r.counters with
  | some c =>
      if c.isEmpty then ""
      else "Counters:\n" ++ String.join (c.toList.map fun e => entry e.1 (toString e.2.toInt))
  | none => ""

/-- A configuration is shown by its entries. A text that is no
configuration is shown as it is, line by line. -/
def configurationSection (r : JobRecord) : String :=
  match r.configuration with
  | none => ""
  | some text =>
      "Configuration:\n" ++
        match JobConf.ofText? text with
        | some conf => String.join (conf.toList.map fun e => entry e.1 e.2)
        | none => String.join ((lines text.toList).map fun l => "  " ++ .ofList l ++ "\n")

def extensionsSection (r : JobRecord) : String :=
  if r.extensions.isEmpty then ""
  else "Extensions:\n" ++ String.join (r.extensions.entries.map fun e => entry e.1 e.2)

def render (r : JobRecord) (o : ReportOptions) : String :=
  summary r
    ++ (if o.counters then countersSection r else "")
    ++ (if o.configuration then configurationSection r else "")
    ++ (if o.extensions then extensionsSection r else "")

def addRecord (o : ReportOptions) (text : String) (r : JobRecord) : String :=
  (if text = "" then "" else text ++ "\n") ++ render r o

def ofItems (o : ReportOptions) :
    String → List (Except HistoryError JobRecord) → Except HistoryError String
  | text, [] => .ok text
  | text, .ok r :: items => ofItems o (addRecord o text r) items
  | text, .error (.corrupt _ _) :: items => ofItems o text items
  | _, .error e :: _ => .error e

end Report

namespace HistoryStore

variable {ι σ : Type} [Backend ι σ]

def report (h : HistoryStore ι) (o : ReportOptions) (jobId : String) (s : σ) :
    Except HistoryError String :=
  (h.details jobId s).map (Report.render · o)

/-- The report of the whole history, of which at most `limit` items are
looked at. -/
def reportAll (h : HistoryStore ι) (o : ReportOptions) (limit : Nat) (s : σ) :
    Except HistoryError String :=
  Report.ofItems o "" (h.records limit s)

end HistoryStore

end JobLedger
