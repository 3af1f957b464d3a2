import JobLedger.Proofs.History.RecordRow
import JobLedger.Proofs.History.Store
import Mathlib.Data.List.Induction

/-!
# What the history tells after any writes

A run is any list of writes to a history table in memory, with the instance
going offline and online in between. `details_after_writes` says what the
history knows at the end: of a job that no successful write named, nothing;
of any other job, what the last successful write of each kind said.

The invariant is `Records done m`: the rows of the table are those that the
successful writes `done` name, and the row of a job holds the record that
`done` makes, write by write (`recordOf`). That the record of `done` is the
one with the last word of each kind (`Tells`) is a fact about lists and
does not mention the table.
-/

namespace JobLedger

inductive HistoryWrite
  | stage (jobId jobName : String) (startTime : UInt64) (configuration : String)
  | finalize (jobId : String) (endTime : UInt64) (status : JobStatus) (counters : Counters)
  | extend (jobId key value : String)
deriving DecidableEq

/-- What staging says about a job. -/
structure JobStart where
  jobName : String
  startTime : UInt64
  configuration : String

/-- What finalizing says about a job. -/
structure JobEnd where
  endTime : UInt64
  status : JobStatus
  counters : Counters

namespace HistoryWrite

/-- The job that a write is about. -/
def jobId : HistoryWrite → String
  | stage id .. | finalize id .. | extend id .. => id

/-- The start of a job, in a write that stages it. -/
def start? (id : String) : HistoryWrite → Option JobStart
  | stage id' jobName startTime configuration =>
      if id' = id then some ⟨jobName, startTime, configuration⟩ else none
  | _ => none

/-- The end of a job, in a write that finalizes it. -/
def end? (id : String) : HistoryWrite → Option JobEnd
  | finalize id' endTime status counters =>
      if id' = id then some ⟨endTime, status, counters⟩ else none
  | _ => none

/-- The extension of a job under a key. -/
def extension? (id key : String) : HistoryWrite → Option String
  | extend id' key' value => if id' = id ∧ key' = key then some value else none
  | _ => none

/-- The cells that a write puts into the row of its job. -/
def cells : HistoryWrite → List Cell
  | stage id jobName startTime configuration =>
      RecordRow.startCells id jobName startTime configuration
  | finalize id endTime status counters => RecordRow.endCells id endTime status counters
  | extend _ key value => [RecordRow.extensionCell key value]

/-- The record of the write's job after the write. -/
def update (rec : JobRecord) : HistoryWrite → JobRecord
  | stage _ jobName startTime configuration =>
      RecordRow.started rec jobName startTime configuration
  | finalize _ endTime status counters => RecordRow.ended rec endTime status counters
  | extend _ key value => RecordRow.extended rec key value

end HistoryWrite

/-! ## Runs -/

/-- What may happen to a history table. -/
inductive HistoryEvent
  | write (w : HistoryWrite)
  /-- An outage or a recovery of the instance. -/
  | switch (online : Bool)

/-- A write with its result, and the instance before and after it. -/
structure PerformedWrite where
  write : HistoryWrite
  before : Memory
  result : Except HistoryError Unit
  after : Memory

namespace HistoryStore

def perform {ι σ : Type} [Backend ι σ] (h : HistoryStore ι) (s : σ) :
    HistoryWrite → Except HistoryError Unit × σ
  | .stage id jobName startTime configuration => h.stage id jobName startTime configuration s
  | .finalize id endTime status counters => h.finalize id endTime status counters s
  | .extend id key value => h.putExtension id key value s

/-- Lets events happen in order. The result has the writes that were
performed, and the instance at the end. -/
def runWrites (h : HistoryStore Unit) : List HistoryEvent → Memory → List PerformedWrite × Memory
  | [], m => ([], m)
  | .switch online :: es, m => h.runWrites es (m.setOnline online)
  | .write w :: es, m =>
      let (result, after) := h.perform m w
      let (log, last) := h.runWrites es after
      (⟨w, m, result, after⟩ :: log, last)

theorem runWrites_nil (h : HistoryStore Unit) (m : Memory) : h.runWrites [] m = ([], m) := rfl

theorem runWrites_switch (h : HistoryStore Unit) (online : Bool) (es : List HistoryEvent)
    (m : Memory) : h.runWrites (.switch online :: es) m = h.runWrites es (m.setOnline online) := rfl

theorem runWrites_write (h : HistoryStore Unit) (w : HistoryWrite) (es : List HistoryEvent)
    (m : Memory) :
    h.runWrites (.write w :: es) m =
      (⟨w, m, (h.perform m w).1, (h.perform m w).2⟩ :: (h.runWrites es (h.perform m w).2).1,
        (h.runWrites es (h.perform m w).2).2) := rfl

end HistoryStore

def succeeded (log : List PerformedWrite) : List HistoryWrite :=
  (log.filter fun p => p.result.isOk).map (·.write)

/-! ## The last word of each kind -/

/-- A record has the last word of each kind of write about a job, and
nothing else. -/
structure Tells (done : List HistoryWrite) (id : String) (rec : JobRecord) : Prop where
  jobId : rec.jobId = id
  jobName : rec.jobName = (done.filterMap (·.start? id)).getLast?.map (·.jobName)
  startTime : rec.startTime = (done.filterMap (·.start? id)).getLast?.map (·.startTime)
  configuration :
    rec.configuration = (done.filterMap (·.start? id)).getLast?.map (·.configuration)
  endTime : rec.endTime = (done.filterMap (·.end? id)).getLast?.map (·.endTime)
  endStatus : rec.endStatus = (done.filterMap (·.end? id)).getLast?.map (·.status)
  counters : rec.counters = (done.filterMap (·.end? id)).getLast?.map (·.counters)
  extensions : ∀ key, rec.extensions.get? key = (done.filterMap (·.extension? id key)).getLast?

/-- Two lists of writes say the same about a job: the same starts, the same
ends and, for each key, the same extensions. How these are interleaved, and
what is written about other jobs, does not count. -/
structure SameAbout (id : String) (done done' : List HistoryWrite) : Prop where
  starts : done.filterMap (·.start? id) = done'.filterMap (·.start? id)
  ends : done.filterMap (·.end? id) = done'.filterMap (·.end? id)
  extensions : ∀ key, done.filterMap (·.extension? id key) = done'.filterMap (·.extension? id key)

/-- The record that writes make, one after another. -/
def recordOf (id : String) (done : List HistoryWrite) : JobRecord :=
  done.foldl (fun rec w => if w.jobId = id then w.update rec else rec) (.new id)

theorem recordOf_append (id : String) (done : List HistoryWrite) (w : HistoryWrite) :
    recordOf id (done ++ [w]) =
      if w.jobId = id then w.update (recordOf id done) else recordOf id done := by
  rw [recordOf, List.foldl_append]
  rfl

theorem recordOf_of_unnamed {id : String} {done : List HistoryWrite}
    (h : ∀ w ∈ done, w.jobId ≠ id) : recordOf id done = .new id := by
  unfold recordOf
  induction done with
  | nil => rfl
  | cons w ws ih =>
      obtain ⟨hw, hws⟩ := List.forall_mem_cons.mp h
      rw [List.foldl_cons, if_neg hw]
      exact ih hws

/-- A write about another job says nothing about this one. -/
theorem HistoryWrite.silent {id : String} {w : HistoryWrite} (h : w.jobId ≠ id) :
    w.start? id = none ∧ w.end? id = none ∧ ∀ key, w.extension? id key = none := by
  cases w <;> simp_all [jobId, start?, end?, extension?]

/-- The last word of a list with one more element. -/
theorem getLast?_filterMap_append_singleton {α β : Type} (f : α → Option β) (l : List α) (a : α) :
    ((l ++ [a]).filterMap f).getLast? = (f a).or (l.filterMap f).getLast? := by
  cases h : f a <;> simp [List.filterMap_append, h]

theorem Tells.append {done : List HistoryWrite} {id : String} {rec : JobRecord}
    (h : Tells done id rec) (w : HistoryWrite) :
    Tells (done ++ [w]) id (if w.jobId = id then w.update rec else rec) := by
  have hstarts := getLast?_filterMap_append_singleton (·.start? id) done w
  have hends := getLast?_filterMap_append_singleton (·.end? id) done w
  have hexts key := getLast?_filterMap_append_singleton (·.extension? id key) done w
  by_cases hw : w.jobId = id
  · subst hw
    rw [if_pos rfl]
    -- A write of one kind has the last word of its kind and no other.
    cases w with
    | stage id jobName startTime configuration =>
        have hstart : (HistoryWrite.stage id jobName startTime configuration).start? id
            = some ⟨jobName, startTime, configuration⟩ := if_pos rfl
        rw [HistoryWrite.jobId, hstart, Option.some_or] at hstarts
        refine ⟨h.jobId, ?_, ?_, ?_, ?_, ?_, ?_, fun key => ?_⟩
        iterate 3
          rw [HistoryWrite.jobId, hstarts]
          rfl
        · rw [hends]; exact h.endTime
        · rw [hends]; exact h.endStatus
        · rw [hends]; exact h.counters
        · rw [hexts]; exact h.extensions key
    | finalize id endTime status counters =>
        have hend : (HistoryWrite.finalize id endTime status counters).end? id
            = some ⟨endTime, status, counters⟩ := if_pos rfl
        rw [HistoryWrite.jobId, hend, Option.some_or] at hends
        refine ⟨h.jobId, ?_, ?_, ?_, ?_, ?_, ?_, fun key => ?_⟩
        · rw [hstarts]; exact h.jobName
        · rw [hstarts]; exact h.startTime
        · rw [hstarts]; exact h.configuration
        iterate 3
          rw [HistoryWrite.jobId, hends]
          rfl
        · rw [hexts]; exact h.extensions key
    | extend id key value =>
        refine ⟨h.jobId, ?_, ?_, ?_, ?_, ?_, ?_, fun key' => ?_⟩
        · rw [hstarts]; exact h.jobName
        · rw [hstarts]; exact h.startTime
        · rw [hstarts]; exact h.configuration
        · rw [hends]; exact h.endTime
        · rw [hends]; exact h.endStatus
        · rw [hends]; exact h.counters
        · rw [hexts, HistoryWrite.update, RecordRow.extended, Dict.get?_insert, h.extensions]
          by_cases hk : key = key' <;> simp [HistoryWrite.extension?, HistoryWrite.jobId, hk]
  · obtain ⟨hstart, hend, hext⟩ := HistoryWrite.silent hw
    simp only [hstart, hend, hext, Option.none_or] at hstarts hends hexts
    rw [if_neg hw]
    exact ⟨h.jobId, by rw [hstarts, h.jobName], by rw [hstarts, h.startTime],
      by rw [hstarts, h.configuration], by rw [hends, h.endTime], by rw [hends, h.endStatus],
      by rw [hends, h.counters], fun key => by rw [hexts, h.extensions]⟩

theorem tells_recordOf (id : String) (done : List HistoryWrite) :
    Tells done id (recordOf id done) := by
  induction done using List.reverseRecOn with
  | nil => exact ⟨rfl, rfl, rfl, rfl, rfl, rfl, rfl, fun _ => rfl⟩
  | append_singleton done w ih =>
      rw [recordOf_append]
      exact ih.append w

/-- The last words determine the record. -/
theorem Tells.eq_of_sameAbout {done done' : List HistoryWrite} {id : String}
    {rec rec' : JobRecord} (h : Tells done id rec) (h' : Tells done' id rec')
    (hs : SameAbout id done done') : rec = rec' := by
  have hext : rec.extensions = rec'.extensions := Dict.ext_get? fun key => by
    rw [h.extensions, h'.extensions, hs.extensions]
  have hid := h.jobId.trans h'.jobId.symm
  have hname := h.jobName
  have hstart := h.startTime
  have hconf := h.configuration
  have hend := h.endTime
  have hstatus := h.endStatus
  have hcounters := h.counters
  rw [hs.starts, ← h'.jobName] at hname
  rw [hs.starts, ← h'.startTime] at hstart
  rw [hs.starts, ← h'.configuration] at hconf
  rw [hs.ends, ← h'.endTime] at hend
  rw [hs.ends, ← h'.endStatus] at hstatus
  rw [hs.ends, ← h'.counters] at hcounters
  cases rec
  cases rec'
  simp_all

/-! ## The table under writes -/

theorem HistoryStore.perform_eq {ι σ : Type} [Backend ι σ] (h : HistoryStore ι) (s : σ)
    (w : HistoryWrite) : h.perform s w = h.write w.jobId w.cells s := by
  cases w <;> rfl

theorem HistoryWrite.checkCells_layout (tableName : String) (w : HistoryWrite) :
    (Columns.layout tableName).checkCells w.cells = .ok () := by
  rw [TableLayout.checkCells_eq_ok_iff]
  cases w <;>
    simp [cells, RecordRow.startCells, RecordRow.endCells, RecordRow.extensionCell, Cell.ofText,
      Columns.layout]

/-- A write while the instance is offline. -/
theorem perform_of_offline {h : HistoryStore Unit} {m : Memory} {tableName : String}
    (hl : h.table.layout = Columns.layout tableName) (hm : m.online = false) (w : HistoryWrite) :
    h.perform m w = (.error (.unavailable (.storage (.unavailable (.offline m.uri)))), m) := by
  have hput : m.putRow h.table w.jobId w.cells = .error (.unavailable (.offline m.uri)) := by
    rw [Memory.putRow_of_checked (hl ▸ w.checkCells_layout tableName), Memory.table_of_offline hm]
    rfl
  rw [HistoryStore.perform_eq, HistoryStore.write]
  simp only [Backend.putRow, hput, Memory.outcome_eq]
  rfl

/-- A write while the instance is online and has the table. -/
theorem perform_of_online {h : HistoryStore Unit} {m : Memory} {tableName : String}
    {t : MemoryTable} (hl : h.table.layout = Columns.layout tableName) (hm : m.online = true)
    (ht : m.tables.get? tableName = some t) (w : HistoryWrite) :
    h.perform m w = (.ok (), m.setTable tableName (t.write w.jobId w.cells)) := by
  have hput : m.putRow h.table w.jobId w.cells
      = .ok (m.setTable tableName (t.write w.jobId w.cells)) := by
    rw [Memory.putRow_eq_ok_iff]
    exact ⟨hl ▸ w.checkCells_layout tableName, hm, t, by rw [hl]; exact ht, by rw [hl]; rfl⟩
  rw [HistoryStore.perform_eq, HistoryStore.write]
  simp only [Backend.putRow, hput, Memory.outcome_eq]
  rfl

/-- The rows of a history table are those that the writes `done` name, and
each holds the record that they make. -/
structure Records (done : List HistoryWrite) (t : MemoryTable) : Prop where
  none : ∀ {id}, t.rows.get? id = .none → ∀ w ∈ done, w.jobId ≠ id
  some : ∀ {id r}, t.rows.get? id = .some r →
    (∃ w ∈ done, w.jobId = id) ∧ RecordRow.Holds (recordOf id done) r

/-- A write takes the row of its job to the row of the updated record. -/
theorem HistoryWrite.holds_apply {rec : JobRecord} {r : Row} (h : RecordRow.Holds rec r)
    (w : HistoryWrite) : RecordRow.Holds (w.update rec) (r.apply w.cells) := by
  cases w with
  | stage id jobName startTime configuration => exact h.started ..
  | finalize id endTime status counters => exact h.ended ..
  | extend id key value => exact h.extended ..

/-- What one write preserves. -/
theorem Records.write {done : List HistoryWrite} {t : MemoryTable} (h : Records done t)
    (w : HistoryWrite) : Records (done ++ [w]) (t.write w.jobId w.cells) := by
  constructor
  · intro id hid w' hw'
    rw [Memory.get?_write] at hid
    split at hid
    · cases hid
    · next hne =>
      rcases List.mem_append.mp hw' with hw' | hw'
      · exact h.none hid w' hw'
      · rw [List.mem_singleton.mp hw']
        exact hne
  · intro id r hid
    rw [Memory.get?_write] at hid
    rw [recordOf_append]
    split at hid
    · next heq =>
      rw [heq] at hid
      rw [if_pos heq, ← Option.some.inj hid]
      refine ⟨⟨w, List.mem_append_right _ (List.mem_singleton_self _), heq⟩, w.holds_apply ?_⟩
      cases hr : t.rows.get? id with
      | some r => exact (h.some hr).2
      | none =>
          rw [recordOf_of_unnamed (h.none hr)]
          exact RecordRow.holds_empty id
    · next hne =>
      obtain ⟨⟨w', hw', hid'⟩, hr⟩ := h.some hid
      rw [if_neg hne]
      exact ⟨⟨w', List.mem_append_left _ hw', hid'⟩, hr⟩

/-- The instance has the table, with the rows that `done` makes. -/
def Keeps (tableName : String) (done : List HistoryWrite) (m : Memory) : Prop :=
  ∃ t, m.tables.get? tableName = some t ∧ Records done t

/-- What a performed write says about its instance: offline it fails and
changes nothing, online it succeeds. -/
def PerformedWrite.Sound (p : PerformedWrite) : Prop :=
  (p.before.online = false →
    p.result = .error (.unavailable (.storage (.unavailable (.offline p.before.uri))))
      ∧ p.after = p.before)
  ∧ (p.before.online = true → p.result = .ok ())

theorem succeeded_cons (p : PerformedWrite) (log : List PerformedWrite) :
    succeeded (p :: log) = (if p.result.isOk then [p.write] else []) ++ succeeded log := by
  unfold succeeded
  by_cases h : p.result.isOk <;> simp [h]

/-- What a whole run preserves. -/
theorem runWrites_keeps {h : HistoryStore Unit} {tableName : String}
    (hl : h.table.layout = Columns.layout tableName) (events : List HistoryEvent) {m : Memory}
    {done : List HistoryWrite} (hk : Keeps tableName done m) :
    (∀ p ∈ (h.runWrites events m).1, p.Sound) ∧
      Keeps tableName (done ++ succeeded (h.runWrites events m).1) (h.runWrites events m).2 := by
  induction events generalizing m done with
  | nil =>
      rw [HistoryStore.runWrites_nil]
      exact ⟨by simp, by simpa [succeeded] using hk⟩
  | cons e es ih =>
      cases e with
      | switch online =>
          rw [HistoryStore.runWrites_switch]
          exact ih hk
      | write w =>
          obtain ⟨t, ht, hrec⟩ := hk
          rw [HistoryStore.runWrites_write, succeeded_cons, ← List.append_assoc]
          cases hm : m.online with
          | false =>
              rw [perform_of_offline hl hm w]
              have hk' : Keeps tableName (done ++ []) m := ⟨t, ht, by rwa [List.append_nil]⟩
              obtain ⟨hlog, hkeeps⟩ := ih hk'
              exact ⟨List.forall_mem_cons.mpr ⟨⟨fun _ => ⟨rfl, rfl⟩, by simp [hm]⟩, hlog⟩, hkeeps⟩
          | true =>
              rw [perform_of_online hl hm ht w]
              obtain ⟨hlog, hkeeps⟩ := ih (m := m.setTable tableName (t.write w.jobId w.cells))
                ⟨_, Dict.get?_insert_self .., hrec.write w⟩
              exact ⟨List.forall_mem_cons.mpr ⟨⟨by simp [hm], fun _ => rfl⟩, hlog⟩, hkeeps⟩

/-! ## What the history tells -/

theorem details_of_keeps {h : HistoryStore Unit} {tableName : String}
    (hl : h.table.layout = Columns.layout tableName) {done : List HistoryWrite} {m : Memory}
    (hk : Keeps tableName done m) (id : String) :
    (h.details id (m.setOnline true) = .error (.notFound id) ∧ ∀ w ∈ done, w.jobId ≠ id) ∨
      (h.details id (m.setOnline true) = .ok (recordOf id done) ∧ ∃ w ∈ done, w.jobId = id) := by
  obtain ⟨t, ht, hrec⟩ := hk
  rw [HistoryStore.details_of_table (t := t) (by rw [HistoryStore.tableName, hl]; exact ht)]
  cases hr : t.rows.get? id with
  | none => exact .inl ⟨rfl, hrec.none hr⟩
  | some r => exact .inr ⟨RecordRow.decode_of_holds (hrec.some hr).2, (hrec.some hr).1⟩

/-- A freshly installed history table is empty. -/
theorem keeps_of_ensureInstalled {m₀ m : Memory} {config : HistoryConfig} {h : HistoryStore Unit}
    (hnew : m₀.tables.get? config.tableName = none)
    (hopen : HistoryStore.ensureInstalled () config m₀ = (.ok h, m)) :
    h.table.layout = Columns.layout config.tableName ∧ Keeps config.tableName [] m := by
  cases hon : m₀.online with
  | false =>
      rw [HistoryStore.ensureInstalled_of_offline hon] at hopen
      exact nomatch congrArg Prod.fst hopen
  | true =>
      rw [HistoryStore.ensureInstalled_new hon hnew] at hopen
      obtain ⟨rfl, rfl⟩ := hopen
      exact ⟨rfl, _, Dict.get?_insert_self .., fun _ => nofun, nofun⟩

/-- A job is named by the writes that say something about it. -/
theorem SameAbout.named {id : String} {done done' : List HistoryWrite}
    (hs : SameAbout id done done') (h : ∃ w ∈ done, w.jobId = id) :
    ∃ w ∈ done', w.jobId = id := by
  by_contra hnone
  -- Nothing in `done'` is about the job, so nothing in `done` is.
  have hsilent : ∀ w ∈ done',
      w.start? id = none ∧ w.end? id = none ∧ ∀ key, w.extension? id key = none :=
    fun w hw => HistoryWrite.silent fun hid => hnone ⟨w, hw, hid⟩
  obtain ⟨w, hw, rfl⟩ := h
  cases w with
  | stage id jobName startTime configuration =>
      have hstarts := hs.starts.trans
        (List.filterMap_eq_nil_iff.mpr fun w hw => (hsilent w hw).1)
      exact nomatch (if_pos rfl).symm.trans (List.filterMap_eq_nil_iff.mp hstarts _ hw)
  | finalize id endTime status counters =>
      have hends := hs.ends.trans
        (List.filterMap_eq_nil_iff.mpr fun w hw => (hsilent w hw).2.1)
      exact nomatch (if_pos rfl).symm.trans (List.filterMap_eq_nil_iff.mp hends _ hw)
  | extend id key value =>
      have hexts := (hs.extensions key).trans
        (List.filterMap_eq_nil_iff.mpr fun w hw => (hsilent w hw).2.2 key)
      exact nomatch (if_pos ⟨rfl, rfl⟩).symm.trans (List.filterMap_eq_nil_iff.mp hexts _ hw)

theorem SameAbout.symm {id : String} {done done' : List HistoryWrite}
    (hs : SameAbout id done done') : SameAbout id done' done :=
  ⟨hs.starts.symm, hs.ends.symm, fun key => (hs.extensions key).symm⟩

/-- Whatever is written to a fresh history table, and whenever the instance
is offline: a write fails without a trace exactly when the instance is
offline, and at the end the history tells of each job the last successful
write of each kind, and of no job that no successful write named. What it
tells of a job depends on nothing but the starts, the ends and the
extensions of that job. -/
theorem details_after_writes {m₀ m : Memory} {config : HistoryConfig} {h : HistoryStore Unit}
    (hnew : m₀.tables.get? config.tableName = none)
    (hopen : HistoryStore.ensureInstalled () config m₀ = (.ok h, m))
    (events : List HistoryEvent) :
    (∀ p ∈ (h.runWrites events m).1, p.Sound) ∧
      (∀ id, h.details id ((h.runWrites events m).2.setOnline true) = .error (.notFound id) ↔
        ∀ w ∈ succeeded (h.runWrites events m).1, w.jobId ≠ id) ∧
      (∀ id, (∃ w ∈ succeeded (h.runWrites events m).1, w.jobId = id) →
        ∃ rec, h.details id ((h.runWrites events m).2.setOnline true) = .ok rec ∧
          Tells (succeeded (h.runWrites events m).1) id rec) ∧
      (∀ events' id,
        SameAbout id (succeeded (h.runWrites events m).1) (succeeded (h.runWrites events' m).1) →
        h.details id ((h.runWrites events m).2.setOnline true)
          = h.details id ((h.runWrites events' m).2.setOnline true)) := by
  obtain ⟨hl, hkeeps⟩ := keeps_of_ensureInstalled hnew hopen
  obtain ⟨hsound, hk⟩ := runWrites_keeps hl events hkeeps
  rw [List.nil_append] at hk
  refine ⟨hsound, fun id => ?_, fun id hnamed => ?_, fun events' id hsame => ?_⟩
  · rcases details_of_keeps hl hk id with ⟨hd, hnone⟩ | ⟨hd, w, hw, hid⟩
    · exact ⟨fun _ => hnone, fun _ => hd⟩
    · rw [hd]
      exact ⟨nofun, fun hnone => absurd hid (hnone w hw)⟩
  · obtain ⟨w, hw, hid⟩ := hnamed
    rcases details_of_keeps hl hk id with ⟨-, hnone⟩ | ⟨hd, -⟩
    · exact absurd hid (hnone w hw)
    · exact ⟨_, hd, tells_recordOf id _⟩
  · obtain ⟨-, hk'⟩ := runWrites_keeps hl events' hkeeps
    rw [List.nil_append] at hk'
    rcases details_of_keeps hl hk id with ⟨hd, hnone⟩ | ⟨hd, hnamed⟩ <;>
      rcases details_of_keeps hl hk' id with ⟨hd', hnone'⟩ | ⟨hd', hnamed'⟩
    · rw [hd, hd']
    · obtain ⟨w, hw, hid⟩ := hsame.symm.named hnamed'
      exact absurd hid (hnone w hw)
    · obtain ⟨w, hw, hid⟩ := hsame.named hnamed
      exact absurd hid (hnone' w hw)
    · rw [hd, hd', (tells_recordOf id _).eq_of_sameAbout (tells_recordOf id _) hsame]

/-- A job that ends during an outage is still on record as started. -/
theorem details_after_outage :
    ∃ h m, HistoryStore.ensureInstalled () .default (Memory.new "memory://") = (.ok h, m) ∧
      ∃ rec, h.details "job-1" ((h.runWrites
          [.write (.stage "job-1" "sort" 5 ""), .switch false,
            .write (.finalize "job-1" 9 .succeeded .empty)] m).2.setOnline true) = .ok rec ∧
        Tells [.stage "job-1" "sort" 5 ""] "job-1" rec := by
  have hopen : HistoryStore.ensureInstalled () .default (Memory.new "memory://") = _ :=
    HistoryStore.ensureInstalled_new rfl rfl
  have hafter := details_after_writes rfl hopen
    [.write (.stage "job-1" "sort" 5 ""), .switch false,
      .write (.finalize "job-1" 9 .succeeded .empty)]
  have hdone : ∀ {h m}, (HistoryStore.ensureInstalled () .default (Memory.new "memory://"))
      = (.ok h, m) → succeeded (h.runWrites [.write (.stage "job-1" "sort" 5 ""), .switch false,
        .write (.finalize "job-1" 9 .succeeded .empty)] m).1 = [.stage "job-1" "sort" 5 ""] := by
    rintro h m ⟨⟩
    decide +kernel
  rw [hdone hopen] at hafter
  exact ⟨_, _, hopen, hafter.2.2.1 "job-1" ⟨_, List.mem_singleton_self _, rfl⟩⟩

end JobLedger
