import JobLedger.Proofs.History.FolderEnumeration
import JobLedger.Proofs.Job.Submission

/-!
# What the history tells of a submitted job

The record of a job follows from its two writes, on any backend on which
its row can be followed (`FollowsRow`): a write that succeeds applies its
cells to the row, one that fails leaves it alone. In memory that is so at
any time, in a directory as long as the tree has the image of tables.

`submission_recorded` puts this together with `recordedOnce`.
-/

namespace JobLedger

/-! ## Rows that can be followed -/

/-- What an attempted write makes of the row that it is for. -/
def WriteAttempt.apply (row : Option Row) : WriteAttempt → Option Row
  | ⟨.put _ key cells, .ok ()⟩ => some ((row.getD (.empty key)).apply cells)
  | _ => row

/-- Writes that all succeeded are known by what they wrote. -/
theorem WriteAttempt.eq_map_of_ok {attempts : List WriteAttempt}
    (hok : ∀ a ∈ attempts, a.result = .ok ()) :
    attempts = (attempts.map (·.write)).map fun w => ⟨w, .ok ()⟩ := by
  induction attempts with
  | nil => rfl
  | cons a as ih =>
      obtain ⟨ha, has⟩ := List.forall_mem_cons.mp hok
      rw [List.map_cons, List.map_cons, ← ih has, ← ha]

/-- As long as a state is `valid`, its `row` is the one that is written
through a handle under a key. -/
def FollowsRow {ι σ : Type} [Backend ι σ] (i : ι) (h : TableHandle) (key : String)
    (valid : σ → Prop) (row : σ → Option Row) : Prop :=
  ∀ s cells, valid s → valid (Backend.putRow i h key cells s).2 ∧
    row (Backend.putRow i h key cells s).2 =
      WriteAttempt.apply (row s) ⟨.put h key cells, (Backend.putRow i h key cells s).1⟩

theorem Memory.followsRow (h : TableHandle) (key : String) :
    FollowsRow () h key (fun _ => True) fun m => m.rowAt h.layout.name key := by
  refine fun m cells _ => ⟨trivial, ?_⟩
  simp only [Backend.putRow]
  cases hput : m.putRow h key cells with
  | error e => rfl
  | ok m' =>
      obtain ⟨-, -, t, ht, rfl⟩ := Memory.putRow_eq_ok_iff.mp hput
      exact Memory.rowAt_setTable_write ht ..

/-- The row of a job, if it can be read. -/
def HistoryStore.row? {ι σ : Type} [Backend ι σ] (h : HistoryStore ι) (jobId : String) (s : σ) :
    Option Row :=
  match Backend.getRow h.inst h.table jobId s with
  | .ok row => row
  | .error _ => none

/-- A row that can be read makes the record. -/
theorem HistoryStore.details_of_row? {ι σ : Type} [Backend ι σ] {h : HistoryStore ι}
    {jobId : String} {s : σ} {r : Row} (hrow : h.row? jobId s = some r) :
    h.details jobId s = RecordRow.decode r := by
  rw [row?] at hrow
  rw [details]
  cases hget : Backend.getRow h.inst h.table jobId s with
  | error e => simp [hget] at hrow
  | ok row =>
      rw [hget] at hrow
      obtain rfl : row = some r := hrow
      rfl

/-- The disks that have the image of some tables below the path `p`. -/
def Disk.IsMirror (d₀ : Disk) (p : Path) (d : Disk) : Prop := ∃ m, Mirrors d₀ p d m

section Folder

variable {d₀ : Disk} {p : Path} {f : Folder} (hroot : d₀.locate f.root = .ok p)

include hroot

/-- An opened table has a valid name, and its layout has the same one. -/
theorem Disk.IsMirror.named_of_openTable {d : Disk} (hd : d₀.IsMirror p d) {config : HistoryConfig}
    {h : HistoryStore Folder} (hopen : HistoryStore.openTable f config d = .ok h) :
    h.inst = f ∧ Folder.validName h.table.name = true ∧ h.table.layout.name = h.table.name := by
  obtain ⟨m, hm⟩ := hd
  rw [HistoryStore.openTable] at hopen
  split at hopen
  · cases hopen
  next table htable =>
  obtain rfl := Except.ok.inj hopen
  have hn : Folder.validName config.tableName = true := by
    by_contra hinvalid
    simp only [Backend.openTable, Folder.openTable, Folder.tableDir, hm.isDir_root hroot,
      hinvalid] at htable
    cases htable
  simp only [Backend.openTable, hm.openTable_eq hroot hn,
    Memory.openTable_of_online hm.online] at htable
  split at htable
  · next t ht =>
    obtain rfl := Except.ok.inj htable
    exact ⟨rfl, hm.named ht⟩
  · cases htable

theorem Mirrors.row?_eq {d : Disk} {m : Memory} (hm : Mirrors d₀ p d m) {h : HistoryStore Folder}
    (hf : h.inst = f) (hn : Folder.validName h.table.name = true)
    (hname : h.table.layout.name = h.table.name) (jobId : String) :
    h.row? jobId d = m.rowAt h.table.layout.name jobId := by
  subst hf
  simp only [HistoryStore.row?, Backend.getRow, hm.getRow_eq hroot hn hname]
  rw [Memory.getRow, Memory.table_of_online hm.online, Memory.rowAt]
  cases m.tables.get? h.table.layout.name <;> rfl

theorem Disk.IsMirror.followsRow {h : HistoryStore Folder} (hf : h.inst = f)
    (hn : Folder.validName h.table.name = true) (hname : h.table.layout.name = h.table.name)
    (jobId : String) :
    FollowsRow h.inst h.table jobId (d₀.IsMirror p) (h.row? jobId) := by
  rintro d cells ⟨m, hm⟩
  have hmemory := (Memory.followsRow h.table jobId m cells trivial).2
  have hchange := hm.putRow_sameChange hroot hn hname jobId cells
  subst hf
  simp only [Backend.putRow] at hmemory ⊢
  rcases hchange with ⟨e, hd, hm'⟩ | ⟨d', m', hd, hm', hmirrors⟩
  · rw [hd]
    exact ⟨⟨m, hm⟩, rfl⟩
  · rw [hm'] at hmemory
    rw [hd]
    refine ⟨⟨m', hmirrors⟩, ?_⟩
    rw [hmirrors.row?_eq hroot rfl hn hname, hm.row?_eq hroot rfl hn hname]
    exact hmemory

end Folder

/-! ## The row of a job -/

section Row

variable {ι σ : Type} [Backend ι σ]

/-- What others do in an event leaves a row as it is. -/
def JobEvent.Leaves (valid : σ → Prop) (row : σ → Option Row) : JobEvent σ → Prop
  | .change f => ∀ s, valid s → valid (f s) ∧ row (f s) = row s
  | _ => True

/-- The row of a job is what the attempts have made of it. -/
theorem row_after {h : HistoryStore ι} {jobId : String} {valid : σ → Prop} {row : σ → Option Row}
    (hfollows : FollowsRow h.inst h.table jobId valid row) {row₀ : Option Row}
    {events : List (JobEvent σ)} (hevents : ∀ e ∈ events, e.Leaves valid row)
    {r : JobRun (Watched ι) (Noted σ)} (hh : r.job.history = some h.watched)
    (hid : r.job.jobId = jobId) (hvalid : valid r.store.state)
    (hrow : row r.store.state = r.store.attempts.foldl WriteAttempt.apply row₀) :
    valid (r.after (events.map .noted)).store.state ∧
      row (r.after (events.map .noted)).store.state =
        (r.after (events.map .noted)).store.attempts.foldl WriteAttempt.apply row₀ := by
  induction events generalizing r with
  | nil => exact ⟨hvalid, hrow⟩
  | cons e es ih =>
      have hes := fun e he => hevents e (List.mem_cons_of_mem _ he)
      have hcons : r.after ((e :: es).map .noted) = (r.step e.noted).after (es.map .noted) := rfl
      rw [hcons]
      cases hl : e.lookTime? with
      | none =>
          have hjob := job_step_of_no_look (r := r) (e := e.noted) (e.lookTime?_noted ▸ hl)
          have hstate : valid (r.step e.noted).store.state ∧
              row (r.step e.noted).store.state = row r.store.state := by
            cases e with
            | complete _ | abandon => exact ⟨hvalid, rfl⟩
            | change f => exact hevents _ (List.mem_cons_self ..) _ hvalid
            | isComplete _ | wait _ _ => exact nomatch hl
          refine ih hes (by rw [hjob]; exact hh) (by rw [hjob]; exact hid) hstate.1 ?_
          rw [hstate.2, hrow, attempts_step_of_no_look hl]
      | some now =>
          have hl' : e.noted.lookTime? = some now := e.lookTime?_noted ▸ hl
          cases ho : r.job.outcome with
          | none =>
              rw [step_of_early_look hl' ho]
              exact ih hes hh hid hvalid hrow
          | some outcome =>
              rw [step_of_look hl' ho, observe_watched hh]
              cases hr : r.job.recorded with
              | true => exact ih hes hh hid hvalid hrow
              | false =>
                  have hput := hfollows r.store.state (RecordRow.endCells r.job.jobId
                    (max now r.job.startTime) outcome.status outcome.counters) hvalid
                  refine ih hes hh hid (hid ▸ hput.1) ?_
                  simp only [Bool.false_eq_true, if_false, List.foldl_append, List.foldl_cons,
                    List.foldl_nil, ← hrow]
                  exact hid ▸ hput.2

def recordOfJob (job : PreparedJob) (jobId : String) (now : UInt64) (outcome : Outcome)
    (t : UInt64) : JobRecord :=
  RecordRow.ended (RecordRow.started (.new jobId) job.name now job.conf.toText) (max t now)
    outcome.status outcome.counters

/-- A job whose two writes succeed, while nobody else writes its row. -/
structure Undisturbed (context : RunContext ι) (job : PreparedJob) (jobId : String)
    (now : UInt64) (s : σ) (events : List (JobEvent σ)) (valid : σ → Prop)
    (row : σ → Option Row) : Prop where
  initial : valid s
  fresh : row s = none
  leaves : ∀ e ∈ events, e.Leaves valid row
  succeeded : ∀ a ∈ ((JobRun.start context.watched job jobId now ⟨s, []⟩).after
    (events.map .noted)).store.attempts, a.result = .ok ()

/-- The row of such a job holds its record. -/
theorem Undisturbed.holds {context : RunContext ι} {h : HistoryStore ι}
    (hh : context.history? = some h) {job : PreparedJob} {jobId : String} {now : UInt64} {s : σ}
    {events : List (JobEvent σ)} {valid : σ → Prop} {row : σ → Option Row}
    (hu : Undisturbed context job jobId now s events valid row)
    (hfollows : FollowsRow h.inst h.table jobId valid row) {outcome : Outcome} {t : UInt64}
    (hseen : JobEvent.firstObservation none events = some (outcome, t)) :
    ∃ r, row ((JobRun.start context job jobId now s).after events).store = some r ∧
      RecordRow.Holds (recordOfJob job jobId now outcome t) r := by
  have honce := recordedOnce hh job jobId now s events
  have hattempts := honce.attempts
  rw [hseen, Option.map_some, Option.toList_some] at hattempts
  have hstage := hfollows s (RecordRow.startCells jobId job.name now job.conf.toText) hu.initial
  rw [hu.fresh] at hstage
  have hrow := (row_after hfollows hu.leaves
    (r := .start context.watched job jobId now ⟨s, []⟩) (by rw [start_watched hh])
    (by rw [start_watched hh]) (by rw [start_watched hh]; exact hstage.1)
    (by rw [start_watched hh]; exact hstage.2)).2
  -- Both attempts succeeded, so the row is an empty one with their cells applied.
  rw [WriteAttempt.eq_map_of_ok hu.succeeded, hattempts, honce.same.store] at hrow
  exact ⟨_, hrow, ((RecordRow.holds_empty jobId).started ..).ended ..⟩

end Row

/-! ## The history of a job -/

/-- The end of a job is not recorded earlier than its start. -/
theorem start_le_end (now t : UInt64) : now ≤ max t now := by
  have hmax : max t now = if t ≤ now then now else t := rfl
  rw [hmax]
  split
  · exact UInt64.le_refl now
  · next hlt => exact UInt64.le_of_lt (UInt64.not_le.mp hlt)

/-- What the history tells of a job whose two writes succeeded. -/
structure RecordedAs (job : PreparedJob) (outcome : Outcome) (rec : JobRecord) : Prop where
  jobName : rec.jobName = some job.name
  configuration : rec.configuration.bind JobConf.ofText? = some job.conf
  times : ∃ t t', rec.startTime = some t ∧ rec.endTime = some t' ∧ t ≤ t'
  status : rec.endStatus = some outcome.status
  counters : rec.counters = some outcome.counters

theorem recordedAs_recordOfJob (job : PreparedJob) (jobId : String) (now : UInt64)
    (outcome : Outcome) (t : UInt64) :
    RecordedAs job outcome (recordOfJob job jobId now outcome t) where
  jobName := rfl
  configuration := JobConf.ofText?_toText job.conf
  times := ⟨now, max t now, rfl, rfl, start_le_end now t⟩
  status := rfl
  counters := rfl

/-- Whatever happens to a submitted job, and whatever its history is kept
in, it is recorded once. If it was new, nobody else wrote its row and both
writes succeeded, the history tells what the job was and how it ended, in
memory as well as in a directory. -/
theorem submission_recorded :
    (∀ {ι σ : Type} [Backend ι σ] {context : RunContext ι} {h : HistoryStore ι},
      context.history? = some h → ∀ (job : PreparedJob) (jobId : String) (now : UInt64) (s : σ)
        (events : List (JobEvent σ)), RecordedOnce context h job jobId now s events) ∧
    (∀ {context : RunContext Unit} {h : HistoryStore Unit}, context.history? = some h →
      ∀ {job jobId now} {m : Memory} {events outcome t},
        Undisturbed context job jobId now m events (fun _ => True) (·.rowAt h.tableName jobId) →
        JobEvent.firstObservation none events = some (outcome, t) →
        ∃ rec, h.details jobId (((JobRun.start context job jobId now m).after
            events).store.setOnline true) = .ok rec ∧ RecordedAs job outcome rec) ∧
    (∀ {d₀ d₁ : Disk} {p : Path} {f : Folder} {config : HistoryConfig}
        {context : RunContext Folder} {h : HistoryStore Folder}, d₀.locate f.root = .ok p →
      d₀.IsMirror p d₁ → HistoryStore.openTable f config d₁ = .ok h → context.history? = some h →
      ∀ {job jobId now} {d : Disk} {events outcome t},
        Undisturbed context job jobId now d events (d₀.IsMirror p) (h.row? jobId) →
        JobEvent.firstObservation none events = some (outcome, t) →
        ∃ rec, h.details jobId ((JobRun.start context job jobId now d).after events).store
            = .ok rec ∧ RecordedAs job outcome rec) := by
  refine ⟨fun hh => recordedOnce hh, ?_, ?_⟩
  · intro context h hh job jobId now m events outcome t hu hseen
    obtain ⟨r, hrow, hholds⟩ := hu.holds hh (Memory.followsRow h.table jobId) hseen
    rw [Memory.rowAt] at hrow
    obtain ⟨table, htable, hget⟩ := Option.bind_eq_some_iff.mp hrow
    refine ⟨_, ?_, recordedAs_recordOfJob job jobId now outcome t⟩
    rw [HistoryStore.details_of_table htable, hget]
    exact RecordRow.decode_of_holds hholds
  · intro d₀ d₁ p f config context h hroot hd₁ hopen hh job jobId now d events outcome t hu hseen
    obtain ⟨hf, hn, hname⟩ := hd₁.named_of_openTable hroot hopen
    obtain ⟨r, hrow, hholds⟩ :=
      hu.holds hh (Disk.IsMirror.followsRow hroot hf hn hname jobId) hseen
    refine ⟨_, ?_, recordedAs_recordOfJob job jobId now outcome t⟩
    rw [HistoryStore.details_of_row? hrow]
    exact RecordRow.decode_of_holds hholds

/-- A job that has nothing to do. -/
def idleJob : PreparedJob where
  name := "idle"
  producer := .uppercase
  input := []
  inputSpec := none
  output := ⟨.text, "out", 1, by decide, by decide⟩
  conf := .ofList [(JobConf.jobNameKey, "idle")]

/-- The worker of the job ends without a word. Then the clock goes back, and
after the first look something happens and there is another look. -/
def idleEvents {σ : Type} (e : JobEvent σ) : List (JobEvent σ) :=
  [.isComplete 3, .abandon, .wait 5 2, e, .isComplete 12]

theorem isMirror_withHistory : (Disk.empty [] ⟨none, none⟩).IsMirror [] .withHistory := by
  have hmirrors := mirrors_new (d := .empty [] ⟨none, none⟩) ⟨rfl, rfl⟩ rfl
    (fun _ => Disk.node?_empty _) "memory://"
  have hchange := hmirrors.createTable_sameChange (f := ⟨"/"⟩) (l := Columns.layout "job_history")
    (by decide +kernel) (by decide +kernel)
  rcases hchange with ⟨e, hd, -⟩ | ⟨d', m', hd, -, hm⟩
  · exact ⟨_, by rwa [Disk.withHistory, hd]⟩
  · exact ⟨m', by rwa [Disk.withHistory, hd]⟩

/-- The history table of the two runs below, as it is opened. -/
def openedHistory {ι : Type} (i : ι) : HistoryStore ι :=
  ⟨i, ⟨"job_history", Columns.layout "job_history"⟩, 64⟩

/-- A job that is started at 9 and seen to be over at 2, with an outage
later on, on record in memory; the same job on record in a directory. -/
theorem idleJob_recorded :
    (∃ rec, (openedHistory ()).details "job-1"
        (((JobRun.start ⟨.default, some (openedHistory ())⟩ idleJob "job-1" 9
          ((Memory.new "memory://").setTable "job_history"
            ⟨Columns.layout "job_history", ∅⟩)).after
          (idleEvents (.change (·.setOnline false)))).store.setOnline true) = .ok rec ∧
      RecordedAs idleJob .abandoned rec) ∧
    (∃ rec, (openedHistory (Folder.mk "/")).details "job-1"
        ((JobRun.start ⟨.default, some (openedHistory (Folder.mk "/"))⟩ idleJob "job-1" 9
          .withHistory).after (idleEvents (.complete .abandoned))).store = .ok rec ∧
      RecordedAs idleJob .abandoned rec) := by
  constructor
  · refine submission_recorded.2.1 (h := openedHistory ()) rfl
      ⟨trivial, by decide +kernel, ?_, by decide +kernel⟩ rfl
    simp [idleEvents, JobEvent.Leaves, Memory.setOnline, Memory.rowAt]
  · have htable : Backend.openTable (Folder.mk "/") HistoryConfig.default.tableName
        Disk.withHistory = .ok ⟨"job_history", Columns.layout "job_history"⟩ := by decide +kernel
    have hopen : HistoryStore.openTable (Folder.mk "/") .default Disk.withHistory
        = .ok (openedHistory ⟨"/"⟩) := by
      rw [HistoryStore.openTable, htable]
      rfl
    refine submission_recorded.2.2 (p := []) (by decide +kernel) isMirror_withHistory hopen rfl
      ⟨isMirror_withHistory, by decide +kernel, ?_, by decide +kernel⟩ rfl
    simp [idleEvents, JobEvent.Leaves]

end JobLedger
