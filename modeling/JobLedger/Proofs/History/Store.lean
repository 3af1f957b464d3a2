import JobLedger.History.Store
import JobLedger.Proofs.Storage.Memory

/-!
# Opening a history table and looking into it

What installing and opening give on an instance in memory that is online,
and what is read from a table that is there. On any backend, looking up a
record is reading its row (`details_eq_ok_iff`).
-/

namespace JobLedger.HistoryStore

theorem scanBatch_pos_of_openTable {ι σ : Type} [Backend ι σ] {i : ι} {config : HistoryConfig}
    {s : σ} {h : HistoryStore ι} (hopen : openTable i config s = .ok h) : 0 < h.scanBatch := by
  rw [openTable] at hopen
  split at hopen
  · exact nomatch hopen
  · rw [← Except.ok.inj hopen]
    exact Nat.le_max_right ..

theorem details_eq_ok_iff {ι σ : Type} [Backend ι σ] {h : HistoryStore ι} {jobId : String}
    {s : σ} {rec : JobRecord} :
    h.details jobId s = .ok rec ↔
      ∃ r, Backend.getRow h.inst h.table jobId s = .ok (some r) ∧ RecordRow.decode r = .ok rec := by
  rw [details]
  rcases Backend.getRow h.inst h.table jobId s with e | _ | r <;> simp

theorem openTable_of_online {m : Memory} {config : HistoryConfig} {t : MemoryTable}
    (hon : m.online = true) (ht : m.tables.get? config.tableName = some t) :
    openTable () config m =
      .ok ⟨(), ⟨config.tableName, t.layout⟩, max config.scanBatch 1⟩ := by
  have hopen : m.openTable config.tableName = .ok ⟨config.tableName, t.layout⟩ := by
    rw [Memory.openTable_of_online hon, ht]
  simp only [openTable, Backend.openTable, hopen]

/-- Installing makes the table where there is none. -/
theorem ensureInstalled_new {m : Memory} {config : HistoryConfig} (hon : m.online = true)
    (hnew : m.tables.get? config.tableName = none) :
    ensureInstalled () config m =
      (.ok ⟨(), ⟨config.tableName, Columns.layout config.tableName⟩, max config.scanBatch 1⟩,
        m.setTable config.tableName ⟨Columns.layout config.tableName, ∅⟩) := by
  have hcreate : m.createTable (Columns.layout config.tableName)
      = .ok (m.setTable config.tableName ⟨Columns.layout config.tableName, ∅⟩) := by
    rw [Memory.createTable_of_online hon]
    simp only [Columns.layout, hnew]
  have hopen : openTable () config
      (m.setTable config.tableName ⟨Columns.layout config.tableName, ∅⟩) = _ :=
    openTable_of_online hon (Dict.get?_insert_self ..)
  simp only [ensureInstalled, install, Backend.tableExists, Memory.tableExists_of_online hon, hnew,
    Option.isSome_none, createMissing, Backend.createTable, hcreate, Memory.outcome, hopen]

theorem ensureInstalled_of_offline {m : Memory} {config : HistoryConfig} (hoff : m.online = false) :
    ensureInstalled () config m =
      (.error (.unavailable (.storage (.unavailable (.offline m.uri)))), m) := by
  have hexists : m.tableExists config.tableName = .error (.unavailable (.offline m.uri)) := by
    rw [Memory.tableExists, Memory.reachable_of_offline hoff]
    rfl
  simp only [ensureInstalled, install, Backend.tableExists, hexists]
  rfl

/-- What is known about a job is what its row says. -/
theorem details_of_table {h : HistoryStore Unit} {m : Memory} {t : MemoryTable}
    (ht : m.tables.get? h.tableName = some t) (jobId : String) :
    h.details jobId (m.setOnline true) = match t.rows.get? jobId with
      | none => .error (.notFound jobId)
      | some r => RecordRow.decode r := by
  have htable : (m.setOnline true).table h.table.layout.name = .ok t :=
    Memory.table_eq_ok_iff.mpr ⟨rfl, ht⟩
  have hget : (m.setOnline true).getRow h.table jobId = .ok (t.rows.get? jobId) := by
    rw [Memory.getRow, htable]
    rfl
  rw [details]
  simp only [Backend.getRow, hget]
  cases t.rows.get? jobId <;> rfl

end JobLedger.HistoryStore
