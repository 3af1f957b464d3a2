import JobLedger.Proofs.Dict
import JobLedger.Proofs.Job.Tally
import Mathlib.Data.List.Forall2

/-!
# What a job sees of its rows

A producer is handed a row restricted to the columns it asked for. Two rows
have the same restriction exactly if they have the same key and agree on these
columns (`InputRow.project_eq_iff`), however often a column is asked for and
whether or not any row has it.

A run over rows is the run over their restrictions (`runRows_map_project`), so
all that comes of a job, in its outcome and in the tree, is decided by what was
asked for (`run_unaffected_by_other_columns`).
-/

namespace JobLedger

namespace InputRow

/-! ## Restricted rows -/

variable {request : List String} {r r' : InputRow}

/-- A restricted row has of the columns that were asked for those that were
there. -/
theorem get?_project (r : InputRow) (request : List String) (column : String) :
    (r.project request).get? column = if column ∈ request then r.get? column else none := by
  let entries := request.filterMap fun c => (r.get? c).map fun v => (c, v)
  have hentries : ∀ e, e ∈ entries ↔ e.1 ∈ request ∧ r.get? e.1 = some e.2 := by
    intro e
    rw [List.mem_filterMap]
    constructor
    · rintro ⟨c, hc, he⟩
      obtain ⟨v, hv, rfl⟩ := Option.map_eq_some_iff.mp he
      exact ⟨hc, hv⟩
    · rintro ⟨hc, hv⟩
      exact ⟨e.1, hc, by rw [hv]; rfl⟩
  have hfound : (r.project request).get? column =
      if column ∈ entries.map Prod.fst then r.get? column else none :=
    Dict.get?_ofList_of_forall (fun e he => ((hentries e).mp he).2) column
  rw [hfound]
  cases hcolumn : r.get? column with
  | none => simp
  | some v =>
      have hmem : column ∈ entries.map Prod.fst ↔ column ∈ request := by
        rw [List.mem_map]
        constructor
        · rintro ⟨e, he, rfl⟩
          exact ((hentries e).mp he).1
        · exact fun hc => ⟨(column, v), (hentries _).mpr ⟨hc, hcolumn⟩, rfl⟩
      simp only [hmem]

/-- Two rows are the same to whoever asks for some columns: they have the same
key, and each of these columns is missing in both or has one value. -/
structure SameFor (request : List String) (r r' : InputRow) : Prop where
  key : r.key = r'.key
  columns : ∀ column ∈ request, r.get? column = r'.get? column

theorem project_eq_iff : r.project request = r'.project request ↔ SameFor request r r' := by
  constructor
  · intro h
    refine ⟨congrArg (·.key) h, fun column hcolumn => ?_⟩
    have hget := congrArg (·.get? column) h
    simpa only [get?_project, if_pos hcolumn] using hget
  · rintro ⟨hkey, hcolumns⟩
    have hsame : (r.project request).columns = (r'.project request).columns := by
      refine Dict.ext_get? fun column => ?_
      have hproject := get?_project r request column
      have hproject' := get?_project r' request column
      unfold get? at hproject hproject'
      rw [hproject, hproject']
      split
      · next hcolumn => exact hcolumns column hcolumn
      · rfl
    exact congrArg₂ InputRow.mk hkey hsame

/-- What was asked for is all there in a restricted row. -/
theorem project_project (r : InputRow) (request : List String) :
    (r.project request).project request = r.project request :=
  project_eq_iff.mpr ⟨rfl, fun column hcolumn => by rw [get?_project, if_pos hcolumn]⟩

theorem map_project_eq_iff {rows rows' : List InputRow} :
    rows.map (·.project request) = rows'.map (·.project request) ↔
      List.Forall₂ (SameFor request) rows rows' := by
  rw [← List.forall₂_eq_eq_eq, List.forall₂_map_left_iff, List.forall₂_map_right_iff]
  simp only [project_eq_iff]

end InputRow

namespace Execution

/-! ## Runs -/

/-- A run cannot tell rows from their restrictions. -/
theorem runRows_map_project (p : Producer) (t : Tally) (rows : List InputRow) :
    runRows p t (rows.map (·.project p.request)) = runRows p t rows := by
  induction rows generalizing t with
  | nil => rfl
  | cons row rows ih =>
      have hkey : (row.project p.request).key = row.key := rfl
      rw [List.map_cons, runRows, runRows, InputRow.project_project, hkey]
      split
      · rfl
      · exact ih _

/-- A producer sees only what it asked for. Two jobs with the same producer and
the same output whose rows have the same keys in the same order, and agree on
every column that the producer asked for, end in the same way: with the same
status, counters, outputs and error, and with the same tree. What else the rows
hold does not matter, nor do the names and settings of the jobs. -/
theorem run_unaffected_by_other_columns {job job' : PreparedJob}
    (hproducer : job.producer = job'.producer) (houtput : job.output = job'.output)
    (hrows : List.Forall₂ (InputRow.SameFor job.producer.request) job.input job'.input)
    (hash : String → Nat) (d : Disk) : run hash job d = run hash job' d := by
  have hrun : runRows job.producer ⟨.empty, []⟩ job.input =
      runRows job'.producer ⟨.empty, []⟩ job'.input := by
    rw [← hproducer, ← runRows_map_project, InputRow.map_project_eq_iff.mpr hrows,
      runRows_map_project]
  unfold run
  rw [hrun, houtput]

/-- Emits the names of the columns that it sees. It asks for one column twice
and for one that no row has. -/
def lister : Producer where
  name := "lister"
  request := ["info:name", "info:none", "info:name"]
  outputColumn := "derived:column"
  produce row := ⟨row.columns.keys, .empty, none⟩

/-- A job of the lister with one row. -/
def listing (row : InputRow) : PreparedJob :=
  { sampling .text [row] with producer := lister }

/-- An age beside the name changes nothing. -/
theorem age_unseen :
    run (fun _ => 0) (listing named) (.empty [] ⟨none, none⟩) =
      run (fun _ => 0) (listing ⟨"a", .ofList [("info:age", "7"), ("info:name", "Ann")]⟩)
        (.empty [] ⟨none, none⟩) :=
  run_unaffected_by_other_columns rfl rfl (.cons ⟨rfl, by decide +kernel⟩ .nil) _ _

end Execution

end JobLedger
