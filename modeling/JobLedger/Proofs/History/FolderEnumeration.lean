import JobLedger.Proofs.History.Enumeration
import JobLedger.Proofs.Storage.FolderScan

/-!
# What an enumeration of a directory leaves out

`listedRows_after_writes`: after any writes to a new table in a directory,
a scan from the beginning lists the rows that can be read under their keys,
in the order of the bytes of these keys, all but one: the row of the empty
key is never listed. So an enumeration of a history in a directory yields
the record of every job but the one with the empty id
(`unlisted_record_of_empty_id`).
-/

namespace JobLedger

/-- What reading a table in a directory says about the rows that it has. -/
structure ListedRows (f : Folder) (th : TableHandle) (d : Disk) (rows : List Row) : Prop where
  ordered : rows.Pairwise fun r s => Utf8.bytes r.key < Utf8.bytes s.key
  found : ∀ key r, f.getRow th key d = .ok (some r) ↔ r ∈ rows ∧ r.key = key
  scan : ∀ limit, f.scan th none limit d = .ok ((rows.filter fun r => r.key ≠ "").take limit)
  /-- A scan is complete if the row of the empty key is not there. -/
  complete : ∀ limit, f.scan th none limit d = .ok (rows.take limit) ↔
    limit = 0 ∨ ∀ r ∈ rows, r.key ≠ ""
  records : ∀ batch limit, 0 < batch → HistoryStore.records ⟨f, th, batch⟩ limit d =
    ((rows.filter fun r => r.key ≠ "").map RecordRow.decode).take limit
  /-- A record that can be looked up is yielded unless its id is empty. -/
  details : ∀ batch jobId rec, 0 < batch →
    HistoryStore.details ⟨f, th, batch⟩ jobId d = .ok rec →
    ((∃ limit, .ok rec ∈ HistoryStore.records ⟨f, th, batch⟩ limit d) ↔ jobId ≠ "")

/-- Without its first row, a page of a list in key order is another page. -/
theorem take_filter_eq_iff {rows : List Row} (hrows : rows.Pairwise fun r s => r.key < s.key)
    (limit : Nat) :
    (rows.filter fun r => r.key ≠ "").take limit = rows.take limit ↔
      limit = 0 ∨ ∀ r ∈ rows, r.key ≠ "" := by
  constructor
  · intro h
    by_contra hno
    obtain ⟨hlimit, hempty⟩ := not_or.mp hno
    simp only [not_forall, not_not] at hempty
    obtain ⟨r, hr, hkey⟩ := hempty
    -- The empty key comes before all others, so its row is on the page.
    cases rows with
    | nil => exact List.not_mem_nil hr
    | cons a rest =>
        have hfirst : r = a := by
          rcases List.mem_cons.mp hr with hr | hr
          · exact hr
          · have hlt := (List.pairwise_cons.mp hrows).1 r hr
            rw [hkey] at hlt
            exact absurd hlt (List.not_lt_nil a.key.toList)
        obtain ⟨n, rfl⟩ := Nat.exists_eq_succ_of_ne_zero hlimit
        have hmem : r ∈ (a :: rest).take (n + 1) := by simp [hfirst]
        rw [← h] at hmem
        have hkept := (List.mem_filter.mp (List.mem_of_mem_take hmem)).2
        exact of_decide_eq_true hkept hkey
  · rintro (rfl | hall)
    · rfl
    · rw [List.filter_eq_self.mpr fun r hr => decide_eq_true (hall r hr)]

theorem listedRows_of_rowsIn {d₀ d : Disk} {q : Path} {f : Folder} {th : TableHandle}
    (hfresh : f.FreshTable th.name d₀ q) {t : MemoryTable}
    (h : Folder.RowsIn d₀ (f.rowsAddress th.name) q d t) : ListedRows f th d t.rows.values := by
  obtain ⟨hq, hdir, hempty, hlayout⟩ := hfresh
  have hscan := h.scan_eq hq hdir hempty hlayout (Eq.refl th.name)
  have hfound : ∀ key r, f.getRow th key d = .ok (some r) ↔ r ∈ t.rows.values ∧ r.key = key := by
    intro key r
    rw [h.getRow_eq_some_iff hq hdir hempty hlayout rfl, h.keyed.mem_values]
    constructor
    · intro hget
      obtain rfl := h.keyed hget
      exact ⟨hget, rfl⟩
    · rintro ⟨hget, rfl⟩
      exact hget
  have hfirst : ∀ limit, f.scan th none limit d =
      .ok ((t.rows.values.filter fun r => r.key ≠ "").take limit) := by
    intro limit
    rw [hscan, ← h.keyed.listed_values]
    rfl
  have hrecords : ∀ batch limit, 0 < batch → HistoryStore.records ⟨f, th, batch⟩ limit d =
      ((t.rows.values.filter fun r => r.key ≠ "").map RecordRow.decode).take limit := by
    intro batch limit hbatch
    rw [← h.keyed.listed_values]
    exact collect_eq (c := .start ⟨f, th, batch⟩) h.keyed.listed hscan hbatch limit
  refine ⟨h.keyed.values_sorted.imp Utf8.bytes_lt_bytes.mpr, hfound, hfirst, fun limit => ?_,
    hrecords, fun batch jobId rec hbatch hdetails => ?_⟩
  · rw [hfirst, Except.ok.injEq, take_filter_eq_iff h.keyed.values_sorted]
  · obtain ⟨r, hget, hdecode⟩ := HistoryStore.details_eq_ok_iff.mp hdetails
    obtain ⟨hr, rfl⟩ := (hfound jobId r).mp hget
    constructor
    · rintro ⟨limit, hmem⟩
      rw [hrecords batch limit hbatch] at hmem
      obtain ⟨r', hr', hdecode'⟩ := List.mem_map.mp (List.mem_of_mem_take hmem)
      have hkey : some r'.key = some r.key := by
        rw [← itemKey_decode, ← itemKey_decode, hdecode, hdecode']
      rw [← Option.some.inj hkey]
      exact of_decide_eq_true (List.mem_filter.mp hr').2
    · intro hne
      refine ⟨t.rows.values.length, ?_⟩
      rw [hrecords batch _ hbatch, List.take_of_length_le]
      · exact List.mem_map.mpr ⟨r, List.mem_filter.mpr ⟨hr, decide_eq_true hne⟩, hdecode⟩
      · rw [List.length_map]
        exact List.length_filter_le ..

/-- After any writes to a new table in a directory, through any handles of
the table, its rows are listed in key order but for the row of the empty
key. The table may be on any tree, with any limits. -/
theorem listedRows_after_writes {d : Disk} {q : Path} {f : Folder} {th : TableHandle}
    (hfresh : f.FreshTable th.name d q) {writes : List (TableHandle × String × List Cell)}
    (hnames : ∀ w ∈ writes, w.1.name = th.name) :
    ∃ rows, ListedRows f th (f.writeAll d writes) rows := by
  obtain ⟨t, ht⟩ := (Folder.rowsIn_of_empty hfresh.empty (f.rowsAddress th.name) th.layout).writeAll
    hfresh.located hfresh.isDir hnames
  exact ⟨t.rows.values, listedRows_of_rowsIn hfresh ht⟩

/-- The tree with an empty history table below its root. -/
def Disk.withHistory : Disk :=
  (Folder.createTable ⟨"/"⟩ (Columns.layout "job_history") (.empty [] ⟨none, none⟩)).2

/-- A handle of the table. -/
def TableHandle.ofHistory : TableHandle := ⟨"job_history", Columns.layout "job_history"⟩

theorem freshTable_withHistory :
    Folder.FreshTable ⟨"/"⟩ "job_history" Disk.withHistory ["job_history", "rows"] := by
  have hmirrors := mirrors_new (d := .empty [] ⟨none, none⟩) ⟨rfl, rfl⟩ rfl
    (fun _ => Disk.node?_empty _) "memory://"
  exact Folder.freshTable_of_createTable (f := ⟨"/"⟩) (l := Columns.layout "job_history") hmirrors
    (by decide +kernel) (by decide +kernel) (Prod.ext (by decide +kernel) rfl)

/-- Two jobs are staged, one with the empty id, and a write in between is
refused. -/
def stagedTwoJobs : List (TableHandle × String × List Cell) :=
  [(.ofHistory, "job-1", RecordRow.startCells "job-1" "wc" 5 "{}"),
    (.ofHistory, "job-2", [⟨"other", "note", [0x6a]⟩]),
    (.ofHistory, "", RecordRow.startCells "" "wc" 9 "{}")]

theorem listedRows_of_two_jobs :
    ∃ rows, (∃ r ∈ rows, r.key = "") ∧ (∃ r ∈ rows, r.key = "job-1") ∧
      ListedRows ⟨"/"⟩ .ofHistory (Folder.writeAll ⟨"/"⟩ .withHistory stagedTwoJobs) rows := by
  have hnames : ∀ w ∈ stagedTwoJobs, w.1.name = TableHandle.ofHistory.name := by
    simp [stagedTwoJobs]
  obtain ⟨rows, h⟩ := listedRows_after_writes freshTable_withHistory hnames
  have hempty := (h.found "" ((Row.empty "").apply
    (RecordRow.startCells "" "wc" 9 "{}"))).mp (by decide +kernel)
  have hjob := (h.found "job-1" ((Row.empty "job-1").apply
    (RecordRow.startCells "job-1" "wc" 5 "{}"))).mp (by decide +kernel)
  exact ⟨rows, ⟨_, hempty⟩, ⟨_, hjob⟩, h⟩

/-- The history after a job with the empty id was staged. -/
def Disk.emptyIdStaged : Disk :=
  (HistoryStore.stage ⟨Folder.mk "/", .ofHistory, 64⟩ "" "wc" 9 "{}" withHistory).2

/-- The row of the job is found and its record can be looked up, but no scan
lists the row, and no enumeration yields the record. -/
theorem unlisted_record_of_empty_id :
    (∃ r, Folder.getRow ⟨"/"⟩ .ofHistory "" .emptyIdStaged = .ok (some r)) ∧
    (∃ rec, HistoryStore.details ⟨Folder.mk "/", .ofHistory, 64⟩ "" Disk.emptyIdStaged
      = .ok rec) ∧
    (∀ limit, Folder.scan ⟨"/"⟩ .ofHistory none limit .emptyIdStaged = .ok []) ∧
    ∀ limit, HistoryStore.records ⟨Folder.mk "/", .ofHistory, 64⟩ limit Disk.emptyIdStaged
      = [] := by
  have hget : Folder.getRow ⟨"/"⟩ .ofHistory "" .emptyIdStaged =
      .ok (some ((Row.empty "").apply (RecordRow.startCells "" "wc" 9 "{}"))) := by
    decide +kernel
  have hdetails : HistoryStore.details ⟨Folder.mk "/", .ofHistory, 64⟩ "" Disk.emptyIdStaged =
      .ok { JobRecord.new "" with
        jobName := some "wc", startTime := some 9, configuration := some "{}" } := by
    decide +kernel
  have hrows : Folder.rowsAt ⟨"/"⟩ .ofHistory .emptyIdStaged = .ok "/job_history/rows" := by
    decide +kernel
  have hlist : Disk.emptyIdStaged.list "/job_history/rows" = .ok [".json"] := by decide +kernel
  have hfiles : Folder.rowFiles [".json"] none = [] := by decide +kernel
  have hscan : ∀ limit, Folder.scan ⟨"/"⟩ .ofHistory none limit .emptyIdStaged = .ok [] := by
    intro limit
    simp only [Folder.scan, hrows, hlist, hfiles, bind, Except.bind, List.take_nil, Folder.readRows]
  refine ⟨⟨_, hget⟩, ⟨_, hdetails⟩, hscan, fun limit => ?_⟩
  cases limit with
  | zero => rfl
  | succ limit =>
      have hbackend : Backend.scan (Folder.mk "/") .ofHistory none 64 Disk.emptyIdStaged = .ok [] :=
        hscan 64
      rw [HistoryStore.records, HistoryCursor.collect, HistoryCursor.next]
      simp only [HistoryCursor.start, hbackend, Bool.false_eq_true, if_false]

end JobLedger
