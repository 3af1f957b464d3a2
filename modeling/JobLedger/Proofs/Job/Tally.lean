import JobLedger.Job.Execution
import JobLedger.Proofs.Record.Totals

/-!
# What a run of rows counts and emits

A job hands its rows to the producer until one fails. `outcome_of_rows` says
how that ends, for every producer: without a failure, the outputs are those of
the rows in order, and each counter is the sum of what the producer added to it
and of the engine's own counts; with one, the counters are those of the rows
before the first failure, and nothing is written.

The producer may add to the engine's own counters, since they have names like
any others. `ownCounters_of_success` says what these counters are worth: they
count rows exactly if what the producer adds to them comes to nothing.

Both rest on one induction over the rows (`runRows_append`): the rows before a
point turn into a list of amounts and a list of outputs.
-/

namespace JobLedger

/-! ## What a job does with its rows -/

namespace PreparedJob

/-- What the producer does with a row, of which it sees the columns it asked
for. -/
def emission (job : PreparedJob) (row : InputRow) : Emission :=
  job.producer.produce (row.project job.producer.request)

/-- The producer does not give up on a row. -/
def Passes (job : PreparedJob) (row : InputRow) : Prop := (job.emission row).failure = none

instance (job : PreparedJob) (row : InputRow) : Decidable (job.Passes row) :=
  inferInstanceAs (Decidable (_ = _))

/-- The values emitted for rows, in order, each with the key of its row. -/
def records (job : PreparedJob) (rows : List InputRow) : List OutputRecord :=
  rows.flatMap fun row =>
    (job.emission row).values.map fun value => ⟨row.key, job.producer.outputColumn, value⟩

/-- How often the engine itself counts rows under a name: all of them, those
with a value and those without. -/
def ownCount (job : PreparedJob) (name : String) (rows : List InputRow) : Nat :=
  (if name = Execution.processedCounter then rows.length else 0)
    + (if name = Execution.emittedCounter then
        rows.countP fun row => !(job.emission row).values.isEmpty else 0)
    + (if name = Execution.skippedCounter then
        rows.countP fun row => (job.emission row).values.isEmpty else 0)

/-- What a counter is worth after rows, given what the producer adds to
counters in each of them. -/
def worth (job : PreparedJob) (added : InputRow → List (String × Int64)) (name : String)
    (rows : List InputRow) : Int :=
  (rows.map fun row => Counters.total name (added row)).sum + job.ownCount name rows

/-- The counters after rows, of which some are present in any case. -/
structure Tallied (job : PreparedJob) (added : InputRow → List (String × Int64))
    (rows : List InputRow) (always : List String) (c : Counters) : Prop where
  sum : ∀ name, Counters.Fits (job.worth added name rows) →
    (c.get name).toInt = job.worth added name rows
  names : ∀ name, c.contains name = true ↔
    name ∈ always ∨ 0 < job.ownCount name rows ∨ ∃ row ∈ rows, ∃ e ∈ added row, e.1 = name

end PreparedJob

namespace Execution

/-- The counters that the engine keeps itself. -/
def ownCounters : List String := [processedCounter, emittedCounter, skippedCounter]

/-! ## One row -/

/-- What the engine counts for a row. -/
def ownAmounts (e : Emission) : List (String × Int64) :=
  [(processedCounter, 1), (if e.values.isEmpty then skippedCounter else emittedCounter, 1)]

theorem addRow_eq (t : Tally) (column key : String) {e : Emission}
    {added : List (String × Int64)} (h : e.counters = Counters.empty.addAll added) :
    addRow t column key e =
      ⟨t.counters.addAll (added ++ ownAmounts e),
        t.outputs ++ e.values.map fun value => ⟨key, column, value⟩⟩ := by
  unfold addRow
  rw [h, Counters.merge_addAll, Counters.addAll_append]
  rfl

theorem ownCount_cons (job : PreparedJob) (name : String) (row : InputRow)
    (rows : List InputRow) :
    job.ownCount name (row :: rows) =
      (ownAmounts (job.emission row)).countP (·.1 = name) + job.ownCount name rows := by
  unfold PreparedJob.ownCount ownAmounts
  simp only [List.countP_cons, List.countP_nil, List.length_cons, decide_eq_true_eq]
  cases (job.emission row).values.isEmpty <;> simp only [Bool.not_true, Bool.not_false, if_true,
    Bool.false_eq_true, if_false, eq_comm (b := name)] <;> split_ifs <;> omega

theorem ownCount_eq_countP (job : PreparedJob) (name : String) (rows : List InputRow) :
    job.ownCount name rows =
      (rows.flatMap fun row => ownAmounts (job.emission row)).countP (·.1 = name) := by
  induction rows with
  | nil => simp [PreparedJob.ownCount]
  | cons row rows ih => rw [ownCount_cons, ih, List.flatMap_cons, List.countP_append]

theorem ownAmounts_one {e : Emission} {a : String × Int64} (h : a ∈ ownAmounts e) : a.2 = 1 := by
  unfold ownAmounts at h
  rcases List.mem_cons.mp h with rfl | h
  · rfl
  · rw [List.mem_singleton.mp h]

/-! ## All rows -/

section

variable {job : PreparedJob} {added : InputRow → List (String × Int64)}

/-- What is counted for rows, amount by amount. -/
def amounts (job : PreparedJob) (added : InputRow → List (String × Int64))
    (rows : List InputRow) : List (String × Int64) :=
  rows.flatMap fun row => added row ++ ownAmounts (job.emission row)

/-- The rows before a point have their amounts counted and their values put
out, as long as none of them fails. -/
theorem runRows_append {rows : List InputRow} (hpass : ∀ row ∈ rows, job.Passes row)
    (hadded : ∀ row ∈ rows, (job.emission row).counters = Counters.empty.addAll (added row))
    (t : Tally) (rest : List InputRow) :
    runRows job.producer t (rows ++ rest) =
      runRows job.producer ⟨t.counters.addAll (amounts job added rows),
        t.outputs ++ job.records rows⟩ rest := by
  induction rows generalizing t with
  | nil => simp [amounts, PreparedJob.records, Counters.addAll]
  | cons row rows ih =>
      obtain ⟨hfirst, hpass'⟩ := List.forall_mem_cons.mp hpass
      obtain ⟨hadd, hadded'⟩ := List.forall_mem_cons.mp hadded
      have hnone : (job.producer.produce (row.project job.producer.request)).failure = none :=
        hfirst
      have hrow := addRow_eq t job.producer.outputColumn row.key hadd
      unfold PreparedJob.emission at hrow
      rw [List.cons_append, runRows]
      simp only [hnone]
      rw [hrow, ih hpass' hadded']
      unfold amounts PreparedJob.records PreparedJob.emission
      simp only [List.flatMap_cons, Counters.addAll_append, List.append_assoc]

theorem total_amounts (name : String) (rows : List InputRow) :
    Counters.total name (amounts job added rows) = job.worth added name rows := by
  have hown : Counters.total name (rows.flatMap fun row => ownAmounts (job.emission row)) =
      job.ownCount name rows := by
    rw [ownCount_eq_countP]
    refine Counters.total_eq_countP name fun a ha => ?_
    obtain ⟨row, -, hrow⟩ := List.mem_flatMap.mp ha
    exact ownAmounts_one hrow
  unfold PreparedJob.worth amounts
  rw [← hown, Counters.total_flatMap, Counters.total_flatMap, ← List.sum_map_add]
  simp only [Counters.total_append]

theorem exists_mem_amounts {name : String} {rows : List InputRow} :
    (∃ e ∈ amounts job added rows, e.1 = name) ↔
      0 < job.ownCount name rows ∨ ∃ row ∈ rows, ∃ e ∈ added row, e.1 = name := by
  unfold amounts
  rw [ownCount_eq_countP, List.countP_pos_iff]
  simp only [List.mem_flatMap, List.mem_append, decide_eq_true_eq]
  constructor
  · rintro ⟨e, ⟨row, hrow, he | he⟩, hname⟩
    · exact .inr ⟨row, hrow, e, he, hname⟩
    · exact .inl ⟨e, ⟨row, hrow, he⟩, hname⟩
  · rintro (⟨e, ⟨row, hrow, he⟩, hname⟩ | ⟨row, hrow, e, he, hname⟩)
    · exact ⟨e, ⟨row, hrow, .inr he⟩, hname⟩
    · exact ⟨e, ⟨row, hrow, .inl he⟩, hname⟩

variable (job added) in
/-- The counters after rows, with zeros for names that are to be present in
any case. -/
def counted (rows : List InputRow) (always : List String) : Counters :=
  Counters.empty.addAll (amounts job added rows ++ always.map fun n => (n, 0))

theorem get_counted (rows : List InputRow) (always : List String) (name : String) :
    (counted job added rows always).get name = Int64.ofInt (job.worth added name rows) := by
  unfold counted
  rw [Counters.get_addAll, Counters.total_append, Counters.total_map_zero, Int.add_zero,
    total_amounts, Counters.get_empty, Int64.zero_add]

theorem tallied_counted (rows : List InputRow) (always : List String) :
    job.Tallied added rows always (counted job added rows always) := by
  refine ⟨fun name hfits => ?_, fun name => ?_⟩
  · rw [get_counted, Counters.toInt_ofInt_of_fits hfits]
  · unfold counted
    rw [Counters.contains_addAll, Counters.contains_empty]
    simp only [List.mem_append, or_and_right, exists_or, exists_mem_amounts, Bool.false_eq_true,
      false_or, List.mem_map]
    constructor
    · rintro (h | ⟨_, ⟨n, hn, rfl⟩, rfl⟩)
      · exact .inr h
      · exact .inl hn
    · rintro (hn | h)
      · exact .inr ⟨(name, 0), ⟨name, hn, rfl⟩, rfl⟩
      · exact .inl h

/-! ## How a job ends -/

/-- Among rows of which one fails there is a first one that does. -/
theorem exists_first_failure {rows : List InputRow} (h : ∃ row ∈ rows, ¬job.Passes row) :
    ∃ before row after message, rows = before ++ row :: after ∧ (∀ r ∈ before, job.Passes r) ∧
      (job.emission row).failure = some message := by
  induction rows with
  | nil =>
      obtain ⟨row, hrow, -⟩ := h
      exact absurd hrow List.not_mem_nil
  | cons first rows ih =>
      cases hfirst : (job.emission first).failure with
      | some message => exact ⟨[], first, rows, message, rfl, nofun, hfirst⟩
      | none =>
          have hrest : ∃ row ∈ rows, ¬job.Passes row := by
            obtain ⟨row, hrow, hfail⟩ := h
            rcases List.mem_cons.mp hrow with rfl | hrow
            · exact absurd hfirst hfail
            · exact ⟨row, hrow, hfail⟩
          obtain ⟨before, row, after, message, rfl, hbefore, hfail⟩ := ih hrest
          exact ⟨first :: before, row, after, message, rfl,
            List.forall_mem_cons.mpr ⟨hfirst, hbefore⟩, hfail⟩

variable (hash : String → Nat) (d : Disk)

/-- If no row fails, it is up to the output. -/
theorem run_of_passes (hpass : ∀ row ∈ job.input, job.Passes row)
    (hadded : ∀ row ∈ job.input,
      (job.emission row).counters = Counters.empty.addAll (added row)) :
    run hash job d =
      if job.output.format = .text then
        match PartFiles.write hash job.output (job.records job.input) d with
        | (.ok (), d) =>
            (⟨.succeeded, counted job added job.input ownCounters, job.records job.input, none⟩, d)
        | (.error e, d) => (.failed e.message (counted job added job.input ownCounters), d)
      else (⟨.succeeded, counted job added job.input ownCounters, job.records job.input, none⟩, d)
      := by
  have hrun := runRows_append hpass hadded ⟨.empty, []⟩ []
  rw [List.append_nil, runRows, List.nil_append] at hrun
  have hcomplete : complete (Counters.empty.addAll (amounts job added job.input)) =
      counted job added job.input ownCounters := by
    unfold counted
    rw [Counters.addAll_append]
    rfl
  unfold run
  rewrite [hrun, ← hcomplete]
  rfl

/-- If a row fails, the job fails with the counters of the rows before the
first one that does. -/
theorem run_of_failure {before after : List InputRow} {row : InputRow} {message : String}
    (hinput : job.input = before ++ row :: after) (hpass : ∀ r ∈ before, job.Passes r)
    (hfail : (job.emission row).failure = some message)
    (hadded : ∀ r ∈ before, (job.emission r).counters = Counters.empty.addAll (added r)) :
    run hash job d =
      (⟨.failed, counted job added before [], [], some s!"row '{row.key}': {message}"⟩, d) := by
  have hrun := runRows_append hpass hadded ⟨.empty, []⟩ (row :: after)
  unfold PreparedJob.emission at hfail
  rw [← hinput, runRows] at hrun
  simp only [hfail] at hrun
  unfold run counted
  rw [hrun, List.map_nil, List.append_nil]
  rfl

end

/-- How a job ends, for every producer, of which only is said what it adds to
counters in each row. If no row fails and a text output can be written, the job
succeeds with the values of the rows and with the counters of all rows, the
engine's own among them in any case. If a row fails, the job fails with the key
and the message of the first such row and with the counters of the rows before
it, and every file is left as it was. -/
theorem outcome_of_rows (hash : String → Nat) (job : PreparedJob) (d : Disk)
    {added : InputRow → List (String × Int64)}
    (hadded : ∀ row ∈ job.input,
      (job.emission row).counters = Counters.empty.addAll (added row)) :
    ((∀ row ∈ job.input, job.Passes row) →
      (job.output.format = .text →
        (PartFiles.write hash job.output (job.records job.input) d).1 = .ok ()) →
      ∃ c, (run hash job d).1 = ⟨.succeeded, c, job.records job.input, none⟩ ∧
        job.Tallied added job.input ownCounters c) ∧
    ((∃ row ∈ job.input, ¬job.Passes row) →
      ∃ before row after message, job.input = before ++ row :: after ∧
        (∀ r ∈ before, job.Passes r) ∧ (job.emission row).failure = some message ∧
        ∃ c, run hash job d = (⟨.failed, c, [], some s!"row '{row.key}': {message}"⟩, d) ∧
          job.Tallied added before [] c) := by
  constructor
  · intro hpass hwrite
    refine ⟨_, ?_, tallied_counted job.input ownCounters⟩
    rw [run_of_passes hash d hpass hadded]
    split
    · next htext =>
      have hok := hwrite htext
      split
      · rfl
      · next e d' he =>
        rw [he] at hok
        cases hok
    · rfl
  · intro hfail
    obtain ⟨before, row, after, message, hinput, hpass, hrow⟩ := exists_first_failure hfail
    have hbefore : ∀ r ∈ before,
        (job.emission r).counters = Counters.empty.addAll (added r) := by
      intro r hr
      refine hadded r ?_
      rw [hinput]
      exact List.mem_append_left _ hr
    exact ⟨before, row, after, message, hinput, hpass, hrow, _,
      run_of_failure hash d hinput hpass hrow hbefore, tallied_counted before []⟩

/-- Emits the name in a row, counts the row under `SEEN` by two steps of one,
and gives up where the row says so. -/
def sampler : Producer where
  name := "sampler"
  request := ["info:name", "info:stop"]
  outputColumn := "derived:name"
  produce row :=
    ⟨(row.get? "info:name").toList, Counters.empty.addAll [("SEEN", 1), ("SEEN", 1)],
      row.get? "info:stop"⟩

/-- A job of the sampler. -/
def sampling (format : OutputFormat) (input : List InputRow) : PreparedJob where
  name := "sampling"
  producer := sampler
  input
  inputSpec := none
  output := ⟨format, "sampled", 4, by decide, by decide⟩
  conf := .ofList []

/-- A row with a name, one that stops the job and one with nothing. -/
def named : InputRow := ⟨"a", .ofList [("info:name", "Ann")]⟩
def stopping : InputRow := ⟨"b", .ofList [("info:stop", "enough")]⟩
def blank : InputRow := ⟨"c", ∅⟩

/-- The sampler with and without a row that stops it. -/
theorem sampling_outcomes :
    (∃ c, (run (fun _ => 0) (sampling .text [named, blank]) (.empty [] ⟨none, none⟩)).1 =
        ⟨.succeeded, c, [⟨"a", "derived:name", "Ann"⟩], none⟩ ∧
      (c.get "SEEN").toInt = 4 ∧ (c.get emittedCounter).toInt = 1) ∧
    (∃ c, run (fun _ => 0) (sampling .text [named, stopping, blank]) (.empty [] ⟨none, none⟩) =
        (⟨.failed, c, [], some "row 'b': enough"⟩, .empty [] ⟨none, none⟩) ∧
      (c.get "SEEN").toInt = 2 ∧ c.contains skippedCounter = false) := by
  constructor
  · obtain ⟨c, hrun, htally⟩ := (outcome_of_rows (fun _ => 0) (sampling .text [named, blank])
      (.empty [] ⟨none, none⟩) fun _ _ => rfl).1 (by decide +kernel)
        fun _ => by decide +kernel
    have hrecords : (sampling .text [named, blank]).records [named, blank] =
        [⟨"a", "derived:name", "Ann"⟩] := by decide +kernel
    refine ⟨c, ?_, (htally.sum "SEEN" (by decide +kernel)).trans (by decide +kernel),
      (htally.sum emittedCounter (by decide +kernel)).trans (by decide +kernel)⟩
    rw [← hrecords]
    exact hrun
  · obtain ⟨before, row, after, message, hinput, hpass, hrow, c, hrun, htally⟩ :=
      (outcome_of_rows (fun _ => 0) (sampling .text [named, stopping, blank])
        (.empty [] ⟨none, none⟩) fun _ _ => rfl).2 ⟨stopping, by decide +kernel, by decide +kernel⟩
    have hnamed : (sampling .text [named, stopping, blank]).Passes named := by decide +kernel
    have hstop : ¬(sampling .text [named, stopping, blank]).Passes stopping := by
      decide +kernel
    -- The first row that fails can only be the second one.
    obtain _ | ⟨first, _ | ⟨second, before⟩⟩ := before
    · obtain ⟨hfirst, -⟩ := List.cons.inj hinput
      rw [← hfirst, hnamed] at hrow
      cases hrow
    · obtain ⟨hfirst, hinput⟩ := List.cons.inj hinput
      obtain ⟨hsecond, -⟩ := List.cons.inj hinput
      have hmessage : (sampling .text [named, stopping, blank]).emission stopping =
          ⟨[], Counters.empty.addAll [("SEEN", 1), ("SEEN", 1)], some "enough"⟩ := by rfl
      rw [← hsecond, hmessage] at hrow
      obtain rfl := Option.some.inj hrow
      rw [← hfirst] at htally
      rw [← hsecond] at hrun
      refine ⟨c, hrun, (htally.sum "SEEN" (by decide +kernel)).trans (by decide +kernel), ?_⟩
      rw [← Bool.not_eq_true, htally.names]
      decide +kernel
    · obtain ⟨-, hinput⟩ := List.cons.inj hinput
      obtain ⟨hsecond, -⟩ := List.cons.inj hinput
      exact absurd (hpass stopping (by simp [hsecond])) hstop

/-! ## What the engine's own counters count -/

/-- What the producer of a job adds to a counter in all rows, as a number of
64 bits. -/
def addedInAll (job : PreparedJob) (name : String) : Int64 :=
  Int64.ofInt (job.input.map fun row => ((job.emission row).counters.get name).toInt).sum

/-- A job that succeeds had no failing row. -/
theorem passes_of_succeeded {hash : String → Nat} {job : PreparedJob} {d : Disk}
    (h : (run hash job d).1.status = .succeeded) : ∀ row ∈ job.input, job.Passes row := by
  intro row hrow
  by_contra hfail
  obtain ⟨before, first, after, message, hinput, hpass, hfirst⟩ :=
    exists_first_failure ⟨row, hrow, hfail⟩
  have hrun := run_of_failure hash d hinput hpass hfirst fun r _ =>
    (Counters.addAll_toList (job.emission r).counters).symm
  rw [hrun] at h
  cases h

/-- A job that succeeds puts out the values of all its rows. -/
theorem outputs_of_succeeded {hash : String → Nat} {job : PreparedJob} {d : Disk}
    (h : (run hash job d).1.status = .succeeded) :
    (run hash job d).1.outputs = job.records job.input := by
  have hrun := run_of_passes hash d (passes_of_succeeded h) fun r _ =>
    (Counters.addAll_toList (job.emission r).counters).symm
  rw [hrun] at h ⊢
  split at h
  · next htext =>
    rw [if_pos htext]
    split at h
    · rfl
    · cases h
  · next htext => rw [if_neg htext]

theorem get_of_succeeded {hash : String → Nat} {job : PreparedJob} {d : Disk}
    (h : (run hash job d).1.status = .succeeded) (name : String) :
    (run hash job d).1.counters.get name =
      addedInAll job name + Int64.ofInt (job.ownCount name job.input) := by
  have hrun := run_of_passes hash d (passes_of_succeeded h) fun r _ =>
    (Counters.addAll_toList (job.emission r).counters).symm
  have hcounters : (run hash job d).1.counters =
      counted job (fun r => (job.emission r).counters.toList) job.input ownCounters := by
    rw [hrun]
    split
    · split <;> rfl
    · rfl
  unfold addedInAll
  rw [hcounters, get_counted, PreparedJob.worth, Int64.ofInt_add]
  simp only [Counters.total_toList]

theorem ownCount_processed (job : PreparedJob) (rows : List InputRow) :
    job.ownCount processedCounter rows = rows.length := by
  unfold PreparedJob.ownCount
  rw [if_pos rfl, if_neg (by decide), if_neg (by decide), Nat.add_zero]

theorem ownCount_emitted (job : PreparedJob) (rows : List InputRow) :
    job.ownCount emittedCounter rows =
      rows.countP fun row => !(job.emission row).values.isEmpty := by
  unfold PreparedJob.ownCount
  rw [if_neg (by decide), if_pos rfl, if_neg (by decide), Nat.zero_add, Nat.add_zero]

theorem ownCount_skipped (job : PreparedJob) (rows : List InputRow) :
    job.ownCount skippedCounter rows =
      rows.countP fun row => (job.emission row).values.isEmpty := by
  unfold PreparedJob.ownCount
  rw [if_neg (by decide), if_neg (by decide), if_pos rfl, Nat.zero_add]

/-- A row has a value or it has none. -/
theorem ownCount_emitted_add_skipped (job : PreparedJob) (rows : List InputRow) :
    job.ownCount emittedCounter rows + job.ownCount skippedCounter rows =
      job.ownCount processedCounter rows := by
  rw [ownCount_emitted, ownCount_skipped, ownCount_processed]
  have hsplit := List.length_eq_countP_add_countP
    (fun row : InputRow => (job.emission row).values.isEmpty) (l := rows)
  simp only [Bool.not_eq_true, Bool.decide_eq_false] at hsplit
  omega

/-- A number of 64 bits and a count that fits add up to the count only if the
number is zero. -/
theorem toInt_add_eq_iff {a : Int64} {n : Nat} (hn : n < 2 ^ 63) :
    (a + Int64.ofInt n).toInt = n ↔ a = 0 := by
  have hfits : (Int64.ofInt n).toInt = n :=
    Counters.toInt_ofInt_of_fits ⟨by omega, by exact_mod_cast hn⟩
  constructor
  · intro h
    rw [← hfits, Int64.toInt_inj] at h
    rw [hfits] at h
    grind
  · rintro rfl
    rw [Int64.zero_add, hfits]

/-- What the engine's own counters of a job that succeeded are worth, whatever
its producer does. They count rows exactly if what the producer adds to them
comes to nothing, and all rows are those with and those without a value exactly
if what it adds is balanced in the same way. -/
theorem ownCounters_of_success {hash : String → Nat} {job : PreparedJob} {d : Disk}
    (h : (run hash job d).1.status = .succeeded) (hfew : job.input.length < 2 ^ 63) :
    let c := (run hash job d).1.counters
    ((c.get processedCounter).toInt = job.input.length ↔
      addedInAll job processedCounter = 0) ∧
    ((c.get emittedCounter).toInt =
        (job.input.countP fun row => !(job.emission row).values.isEmpty) ↔
      addedInAll job emittedCounter = 0) ∧
    (c.get processedCounter = c.get emittedCounter + c.get skippedCounter ↔
      addedInAll job processedCounter =
        addedInAll job emittedCounter + addedInAll job skippedCounter) := by
  intro c
  have hget : ∀ name,
      c.get name = addedInAll job name + Int64.ofInt (job.ownCount name job.input) :=
    get_of_succeeded h
  have hemitted : job.ownCount emittedCounter job.input < 2 ^ 63 := by
    have hle := ownCount_emitted_add_skipped job job.input
    rw [ownCount_processed] at hle
    omega
  rw [hget, hget, hget]
  refine ⟨?_, ?_, ?_⟩
  · rw [ownCount_processed]
    exact toInt_add_eq_iff hfew
  · rw [← ownCount_emitted]
    exact toInt_add_eq_iff hemitted
  · have hsum : Int64.ofInt (job.ownCount processedCounter job.input) =
        Int64.ofInt (job.ownCount emittedCounter job.input) +
          Int64.ofInt (job.ownCount skippedCounter job.input) := by
      rw [← Int64.ofInt_add, ← Int.natCast_add, ownCount_emitted_add_skipped]
    rw [hsum]
    constructor <;> intro hbalance <;> grind

/-- The sampler adds to a counter of its own only, so it leaves the engine's
counters alone. -/
theorem sampling_counts_rows :
    ((run (fun _ => 0) (sampling .text [named, blank]) (.empty [] ⟨none, none⟩)).1.counters.get
        processedCounter).toInt = 2 := by
  have hrun : (run (fun _ => 0) (sampling .text [named, blank]) (.empty [] ⟨none, none⟩)).1.status =
      .succeeded := by decide +kernel
  obtain ⟨hcount, -, -⟩ := ownCounters_of_success hrun (by decide)
  exact hcount.mpr (by decide +kernel)

/-- Counts each row under the name that the engine uses for its own count. -/
def intruder : Producer where
  name := "intruder"
  request := []
  outputColumn := "derived:nothing"
  produce _ := ⟨["v"], Counters.empty.addAll [(processedCounter, 5)], none⟩

/-- A producer can make the engine's counters say something else: with one row,
which has a value, six are said to be processed. -/
theorem intruder_miscounts :
    let o := (run (fun _ => 0) { sampling .text [blank] with producer := intruder }
      (.empty [] ⟨none, none⟩)).1
    o.status = .succeeded ∧ (o.counters.get processedCounter).toInt = 6 ∧
      o.counters.get processedCounter ≠
        o.counters.get emittedCounter + o.counters.get skippedCounter := by
  decide +kernel

end Execution

end JobLedger
