import JobLedger.History.Report
import JobLedger.Proofs.History.FolderEnumeration

/-!
# What a damaged row costs

A row of a history in a directory can be damaged in two places. A cell that
does not read concerns one record: its item is an error, and the enumeration
goes on with the next row. A row file that is no row JSON, or holds a value
that is not hexadecimal, fails the scan of its whole page.

`enumeration_of_damaged_rows` says what that means for an enumeration: it
yields the rows on the pages before the first damaged file, then the failure
of the scan, and nothing more. So which undamaged rows are lost depends on
where the file stands on its page (`undamaged_record_lost`), and a report of
the whole history fails.
-/

namespace JobLedger

/-! ## A page that cannot be read -/

/-- The part of a list that fills whole pages. -/
def wholePages {α : Type} (batch : Nat) (l : List α) : List α :=
  l.take (l.length / batch * batch)

theorem wholePages_of_lt {α : Type} {batch : Nat} {l : List α} (h : l.length < batch) :
    wholePages batch l = [] := by
  rw [wholePages, Nat.div_eq_of_lt h, Nat.zero_mul, List.take_zero]

theorem wholePages_of_le {α : Type} {batch : Nat} {l : List α} (hbatch : 0 < batch)
    (h : batch ≤ l.length) :
    wholePages batch l = l.take batch ++ wholePages batch (l.drop batch) := by
  have hpages : l.length / batch * batch = batch + (l.length - batch) / batch * batch := by
    rw [Nat.div_eq_sub_div hbatch h, Nat.succ_mul, Nat.add_comm]
  rw [wholePages, wholePages, hpages, List.take_add, List.length_drop]

/-- The rows before a row, however many of them are listed, are among all rows
before it. -/
theorem MemoryTable.Keyed.mem_before {t : MemoryTable} (ht : t.Keyed) {after : Option String}
    {all rest pre post : List Row} {r s : Row} (hall : t.behind none = all ++ r :: rest)
    (hbehind : t.behind after = pre ++ r :: post) (hs : s ∈ pre) : s ∈ all := by
  have hlt : s.key < r.key := by
    have hsorted := ht.behind_sorted after
    rw [hbehind] at hsorted
    exact (List.pairwise_append.mp hsorted).2.2 s hs r (List.mem_cons_self ..)
  have hmem : s ∈ t.behind none := by
    have hlisted : s ∈ t.behind after := hbehind ▸ List.mem_append_left _ hs
    exact ht.mem_behind.mpr ⟨(ht.mem_behind.mp hlisted).1, nofun⟩
  have hsorted := ht.behind_sorted none
  rw [hall] at hmem hsorted
  refine (List.mem_append.mp hmem).resolve_right fun hs => ?_
  rcases List.mem_cons.mp hs with rfl | hs
  · exact KeyOrder.irrefl _ hlt
  · have hgt := (List.pairwise_cons.mp (List.pairwise_append.mp hsorted).2.1).1 s hs
    exact KeyOrder.irrefl _ (KeyOrder.trans hlt hgt)

section

variable {ι σ : Type} [Backend ι σ]

/-- In this state, the scans of a store list the rows of a table up to a row
that fails each scan that comes to it. -/
def HistoryStore.FailsAt (h : HistoryStore ι) (s : σ) (t : MemoryTable) (r : Row)
    (e : StoreError) : Prop :=
  ∀ after limit pre post, t.behind after = pre ++ r :: post →
    Backend.scan h.inst h.table after limit s =
      if limit ≤ pre.length then .ok (pre.take limit) else .error e

theorem collect_of_finished {c : HistoryCursor ι} (h : c.finished = true) (limit : Nat) (s : σ) :
    c.collect limit s = [] := by
  cases limit with
  | zero => rfl
  | succ limit => rw [HistoryCursor.collect, HistoryCursor.next, if_pos h]

/-- If the first scan fails, its failure is the only item. -/
theorem records_of_failedScan {h : HistoryStore ι} {s : σ} {e : StoreError}
    (hscan : Backend.scan h.inst h.table none h.scanBatch s = .error e) (limit : Nat) :
    h.records limit s = [Except.error (HistoryError.ofStore e)].take limit := by
  cases limit with
  | zero => rfl
  | succ limit =>
      rw [HistoryStore.records, HistoryCursor.collect, HistoryCursor.next]
      simp only [HistoryCursor.start, hscan, Bool.false_eq_true, if_false,
        collect_of_finished (c := HistoryCursor.finish _) rfl, List.take_succ_cons, List.take_nil]

/-- The items to come are the rows on the page, the rows on the pages before
the one that fails, and the failure. -/
theorem collect_of_failsAt {s : σ} {t : MemoryTable} (hkeyed : t.Keyed) {r : Row} {e : StoreError}
    {post : List Row} (limit : Nat) {c : HistoryCursor ι} {pre : List Row}
    (hfails : c.store.FailsAt s t r e) (hbatch : 0 < c.store.scanBatch)
    (hfinished : c.finished = false) (hbehind : t.behind c.lastKey = pre ++ r :: post) :
    c.collect limit s =
      ((c.page ++ wholePages c.store.scanBatch pre).map RecordRow.decode ++
        [Except.error (HistoryError.ofStore e)]).take limit := by
  induction limit generalizing c pre with
  | zero => rfl
  | succ limit ih =>
      have hscan := hfails c.lastKey c.store.scanBatch pre post hbehind
      rw [HistoryCursor.collect]
      rcases c.next_cases s with ⟨hf, -⟩ | ⟨x, page, hp, -, hn⟩ | ⟨e', hp, -, hs, hn⟩ |
        ⟨-, -, hs, -⟩ | ⟨x, page, hp, -, hs, hn⟩
      · exact absurd (hf.symm.trans hfinished) (by decide)
      · have hrest := ih (c := { c with page }) hfails hbatch hfinished hbehind
        simp only [hn, hp, hrest, List.cons_append, List.map_cons, List.take_succ_cons]
      · -- The damaged row is on the next page.
        rw [hs] at hscan
        split at hscan
        · cases hscan
        · next hle =>
          cases hscan
          simp only [hn, hp, wholePages_of_lt (Nat.lt_of_not_le hle),
            collect_of_finished (c := c.finish) rfl, List.append_nil, List.map_nil,
            List.nil_append, List.take_succ_cons, List.take_nil]
      · rw [hs] at hscan
        split at hscan
        · next hle =>
          have hlength := congrArg List.length (Except.ok.inj hscan)
          rw [List.length_take, Nat.min_eq_left hle] at hlength
          exact absurd hlength.symm (Nat.ne_of_lt hbatch).symm
        · cases hscan
      · -- The next page is full and comes before the damaged row.
        rw [hs] at hscan
        split at hscan
        · next hle =>
          have hpage : (t.behind c.lastKey).take c.store.scanBatch = x :: page := by
            rw [hbehind, List.take_append_of_le_length hle]
            exact (Except.ok.inj hscan).symm
          obtain ⟨last, hlast⟩ : ∃ last, (x :: page).getLast? = some last :=
            ⟨_, List.getLast?_eq_some_getLast (List.cons_ne_nil x page)⟩
          have hbehind' : t.behind (some last.key) = pre.drop c.store.scanBatch ++ r :: post := by
            rw [hkeyed.behind_getLast_take (by rw [hpage, hlast]), hbehind,
              List.drop_append_of_le_length hle]
          have hrest := ih (c := { c with page, lastKey := some last.key }) hfails hbatch
            hfinished hbehind'
          simp only [hn, hp, hlast, Option.map_some, hrest, wholePages_of_le hbatch hle,
            ← Except.ok.inj hscan, List.nil_append, List.cons_append, List.map_cons,
            List.take_succ_cons]
        · cases hscan

/-- A failed scan takes the report of the whole history with it, whatever
records came before. -/
theorem ofItems_of_failedScan (o : ReportOptions) (text : String) (rows : List Row)
    (e : StoreError) :
    Report.ofItems o text (rows.map RecordRow.decode ++ [Except.error (.ofStore e)]) =
      .error (.ofStore e) := by
  induction rows generalizing text with
  | nil =>
      rw [List.map_nil, List.nil_append, HistoryError.ofStore]
      split <;> rfl
  | cons r rows ih =>
      rw [List.map_cons, List.cons_append, RecordRow.decode]
      cases RecordRow.read r with
      | ok rec => exact ih _
      | error fault => exact ih _

end

/-! ## Damaged row files -/

namespace Folder

/-- Row files of a table got contents that are no row JSON or hold a value
that is not hexadecimal, and nothing else changed. -/
structure Damaged (f : Folder) (name : String) (d d' : Disk) : Prop where
  workDir : d'.workDir = d.workDir
  limits : d'.limits = d.limits
  nodes : ∀ q, d'.node? q = d.node? q ∨ ∃ p key old content fault,
    d.locate (f.rowsAddress name) = .ok p ∧ q = p ++ [RowFile.name key] ∧
      d.node? q = some (.file old) ∧ d'.node? q = some (.file content) ∧
      RowFile.decode content = .error fault

theorem damaged_setNode {f : Folder} {name : String} {d : Disk} {p : Path}
    (hp : d.locate (f.rowsAddress name) = .ok p) {key : String} {old content : Bytes}
    (hold : d.node? (p ++ [RowFile.name key]) = some (.file old)) {fault : StoredFault}
    (hcontent : RowFile.decode content = .error fault) :
    f.Damaged name d (d.setNode (p ++ [RowFile.name key]) (.file content)) := by
  refine ⟨rfl, rfl, fun q => ?_⟩
  by_cases hq : q = p ++ [RowFile.name key]
  · subst hq
    exact .inr ⟨p, key, old, content, fault, hp, rfl, hold, d.node?_setNode_self (by simp) _,
      hcontent⟩
  · exact .inl (d.node?_setNode_of_ne (by simp) (Ne.symm hq) _)

namespace Damaged

variable {f : Folder} {n : String} {d d' : Disk} (h : f.Damaged n d d')

include h

theorem keepsDirs : Disk.KeepsDirs d d' where
  workDir := h.workDir
  limits := h.limits
  dirs := fun q hq => by
    rcases h.nodes q with hsame | ⟨_, _, _, _, _, -, -, hold, -⟩
    · rw [hsame, hq]
    · rw [hq] at hold
      cases hold

theorem isSome_node? (q : Path) : (d'.node? q).isSome = (d.node? q).isSome := by
  rcases h.nodes q with hsame | ⟨_, _, _, _, _, -, -, hold, hnew, -⟩
  · rw [hsame]
  · rw [hold, hnew]
    rfl

theorem mem_namesAt {p : Path} {file : String} : file ∈ d'.namesAt p ↔ file ∈ d.namesAt p := by
  rw [Disk.mem_namesAt, Disk.mem_namesAt, ← Disk.node?_of_ne_nil d (by simp),
    ← Disk.node?_of_ne_nil d' (by simp), h.isSome_node?]

theorem hasLayout {dir : String} (hlayout : hasLayout dir d = true) :
    Folder.hasLayout dir d' = true := by
  obtain ⟨old, hread⟩ := Disk.isFile_iff.mp hlayout
  obtain ⟨p, hp, hfile⟩ := Disk.read_eq_ok_iff.mp hread
  have hp' := h.keepsDirs.locate hp
  refine Disk.isFile_iff.mpr ?_
  rcases h.nodes p with hsame | ⟨_, _, _, content, _, -, -, -, hnew, -⟩
  · exact ⟨old, Disk.read_eq_ok_iff.mpr ⟨p, hp', hsame.trans hfile⟩⟩
  · exact ⟨content, Disk.read_eq_ok_iff.mpr ⟨p, hp', hnew⟩⟩

/-- A file holds the row that it held, or it is damaged. -/
theorem readRow_cases {file : String} {r : Row} (hr : readRow d file = .ok (some r)) :
    readRow d' file = .ok (some r) ∨ ∃ fault, readRow d' file = .error (.corrupt fault) := by
  obtain ⟨old, hread, hdecode⟩ := readRow_eq_some_iff.mp hr
  obtain ⟨p, hp, hfile⟩ := Disk.read_eq_ok_iff.mp hread
  have hp' := h.keepsDirs.locate hp
  rcases h.nodes p with hsame | ⟨_, _, _, content, fault, -, -, -, hnew, hfault⟩
  · exact .inl (readRow_eq_some_iff.mpr
      ⟨old, Disk.read_eq_ok_iff.mpr ⟨p, hp', hsame.trans hfile⟩, hdecode⟩)
  · refine .inr ⟨fault, ?_⟩
    rw [readRow, Disk.read_eq_ok_iff.mpr ⟨p, hp', hnew⟩]
    simp only [hfault]

end Damaged

/-- The first row file that cannot be read fails the reading of all. -/
theorem readRows_entries_of_error {d : Disk} {dir : String} {pre post : List Row} {r : Row}
    {e : StoreError}
    (hpre : ∀ s ∈ pre, readRow d (Disk.child dir (RowFile.name s.key)) = .ok (some s))
    (hr : readRow d (Disk.child dir (RowFile.name r.key)) = .error e) :
    readRows d dir ((pre ++ r :: post).map RowFile.entry) = .error e := by
  induction pre with
  | nil =>
      rw [List.nil_append, List.map_cons, RowFile.entry, readRows, hr]
      rfl
  | cons s pre ih =>
      rw [List.cons_append, List.map_cons, RowFile.entry, readRows, hpre s (List.mem_cons_self ..),
        ih fun s hs => hpre s (List.mem_cons_of_mem _ hs)]
      rfl

section Scan

variable {d₀ d d' : Disk} {q : Path} {f : Folder} {th : TableHandle} {t : MemoryTable}
  (hfresh : f.FreshTable th.name d₀ q) (h : RowsIn d₀ (f.rowsAddress th.name) q d t)
  (hdamage : f.Damaged th.name d d')

include hfresh h hdamage

theorem rowsAt_of_damaged : f.rowsAt th d' = .ok (f.rowsAddress th.name) := by
  rw [rowsAt, hdamage.hasLayout (h.hasLayout_eq hfresh.isDir hfresh.empty hfresh.layout)]
  rfl

theorem getRow_of_damaged (key : String) :
    f.getRow th key d' = readRow d' (f.rowAddress th.name key) := by
  rw [getRow, rowsAt_of_damaged hfresh h hdamage]
  rfl

/-- A scan still comes to the files of the same rows. -/
theorem scan_of_damaged (after : Option String) (limit : Nat) :
    f.scan th after limit d' = readRows d' (f.rowsAddress th.name)
      (((t.listed.behind after).take limit).map RowFile.entry) := by
  have hkeeps := h.keeps.trans hdamage.keepsDirs
  have hlist : d'.list (f.rowsAddress th.name) = .ok (d'.namesAt q) := by
    rw [Disk.list, hkeeps.locate hfresh.located]
    simp only [bind, Except.bind, hkeeps.dirs q hfresh.isDir]
  rw [scan, rowsAt_of_damaged hfresh h hdamage]
  simp only [bind, Except.bind, hlist, rowFiles_listed h.keyed (d'.nodup_namesAt q)
    (fun file => hdamage.mem_namesAt.trans (h.mem_namesAt file)), List.map_take]

end Scan

end Folder

/-! ## Enumerations of damaged histories -/

namespace HistoryStore

/-- The row is found as it was written. -/
def Intact (h : HistoryStore Folder) (d : Disk) (r : Row) : Prop :=
  h.inst.getRow h.table r.key d = .ok (some r)

/-- Of the files of `rows`, the first damaged one comes right behind those of
`pre`. -/
def FirstDamage (h : HistoryStore Folder) (d : Disk) (rows pre : List Row)
    (fault : StoredFault) : Prop :=
  ∃ r post, rows = pre ++ r :: post ∧ (∀ s ∈ pre, h.Intact d s) ∧
    h.inst.getRow h.table r.key d = .error (.corrupt fault)

/-- What an enumeration makes of rows whose files may be damaged. -/
structure CutAtDamage (h : HistoryStore Folder) (d : Disk) (rows : List Row) : Prop where
  intact_or_damaged : ∀ r ∈ rows,
    h.Intact d r ∨ ∃ fault, h.inst.getRow h.table r.key d = .error (.corrupt fault)
  /-- Without a damaged file, all rows are yielded. -/
  complete : (∀ r ∈ rows, h.Intact d r) →
    ∀ limit, h.records limit d = (rows.map RecordRow.decode).take limit
  /-- The page with the first damaged file and all behind it are lost. -/
  cut : ∀ pre fault, h.FirstDamage d rows pre fault →
    ∀ limit, h.records limit d = ((wholePages h.scanBatch pre).map RecordRow.decode ++
      [Except.error (HistoryError.storage (.corrupt fault))]).take limit
  /-- A report that comes to the page fails. -/
  report : ∀ pre fault, h.FirstDamage d rows pre fault →
    ∀ o limit, (wholePages h.scanBatch pre).length < limit →
      h.reportAll o limit d = .error (.storage (.corrupt fault))

end HistoryStore

theorem cutAtDamage_of_rowsIn {d₀ d d' : Disk} {q : Path} {f : Folder} {th : TableHandle}
    {t : MemoryTable} (hfresh : f.FreshTable th.name d₀ q)
    (h : Folder.RowsIn d₀ (f.rowsAddress th.name) q d t) (hdamage : f.Damaged th.name d d')
    {batch : Nat} (hbatch : 0 < batch) :
    HistoryStore.CutAtDamage ⟨f, th, batch⟩ d' (t.listed.behind none) := by
  have hget := Folder.getRow_of_damaged hfresh h hdamage
  have hscan := Folder.scan_of_damaged hfresh h hdamage
  have hkeyed := h.keyed.listed
  have hread : ∀ r, HistoryStore.Intact ⟨f, th, batch⟩ d' r →
      Folder.readRow d' (f.rowAddress th.name r.key) = .ok (some r) := fun r hr =>
    (hget r.key).symm.trans hr
  have hcut : ∀ pre fault,
      HistoryStore.FirstDamage ⟨f, th, batch⟩ d' (t.listed.behind none) pre fault →
      ∀ limit, HistoryStore.records ⟨f, th, batch⟩ limit d' =
        ((wholePages batch pre).map RecordRow.decode ++
          [Except.error (HistoryError.storage (.corrupt fault))]).take limit := by
    rintro pre fault ⟨r, post, hrows, hpre, hr⟩ limit
    refine collect_of_failsAt (c := .start ⟨f, th, batch⟩) (e := .corrupt fault) hkeyed limit ?_
      hbatch rfl hrows
    intro after limit pre' post' hbehind
    have hpre' : ∀ s ∈ pre', Folder.readRow d' (f.rowAddress th.name s.key) = .ok (some s) :=
      fun s hs => hread s (hpre s (hkeyed.mem_before hrows hbehind hs))
    show f.scan th after limit d' = _
    rw [hscan, hbehind]
    split
    · next hle =>
      rw [List.take_append_of_le_length hle]
      exact Folder.readRows_entries fun s hs => hpre' s (List.mem_of_mem_take hs)
    · next hlt =>
      obtain ⟨n, hn⟩ := Nat.exists_eq_add_of_lt (Nat.lt_of_not_le hlt)
      rw [hn, Nat.add_assoc, List.take_length_add_append, List.take_succ_cons]
      exact Folder.readRows_entries_of_error hpre' ((hget r.key).symm.trans hr)
  refine ⟨fun r hr => ?_, fun hall limit => ?_, hcut,
    fun pre fault hfirst o limit hlimit => ?_⟩
  · rcases hdamage.readRow_cases
      (h.readRow_of_mem_behind hfresh.located hfresh.isDir hr) with hr | ⟨fault, hr⟩
    · exact .inl ((hget r.key).trans hr)
    · exact .inr ⟨fault, (hget r.key).trans hr⟩
  · refine collect_eq (c := .start ⟨f, th, batch⟩) hkeyed (fun after limit => ?_) hbatch limit
    show f.scan th after limit d' = _
    rw [hscan]
    refine Folder.readRows_entries fun r hr => hread r (hall r ?_)
    exact hkeyed.mem_behind.mpr ⟨(hkeyed.mem_behind.mp (List.mem_of_mem_take hr)).1, nofun⟩
  · rw [HistoryStore.reportAll, hcut pre fault hfirst, List.take_of_length_le]
    · exact ofItems_of_failedScan o "" _ (.corrupt fault)
    · rw [List.length_append, List.length_map]
      exact hlimit

/-- After any writes to a new history table in a directory, row files may be
damaged in any way and number. With pages of any size, an enumeration yields
the rows in order up to the page with the first damaged file, of which the
scan fails. -/
theorem enumeration_of_damaged_rows {d d' : Disk} {q : Path} {f : Folder} {th : TableHandle}
    (hfresh : f.FreshTable th.name d q) {writes : List (TableHandle × String × List Cell)}
    (hnames : ∀ w ∈ writes, w.1.name = th.name)
    (hdamage : f.Damaged th.name (f.writeAll d writes) d') :
    ∃ rows, (∀ limit, f.scan th none limit (f.writeAll d writes) = .ok (rows.take limit)) ∧
      ∀ batch, 0 < batch → HistoryStore.CutAtDamage ⟨f, th, batch⟩ d' rows := by
  obtain ⟨t, ht⟩ := (Folder.rowsIn_of_empty hfresh.empty (f.rowsAddress th.name) th.layout).writeAll
    hfresh.located hfresh.isDir hnames
  exact ⟨t.listed.behind none,
    ht.scan_eq hfresh.located hfresh.isDir hfresh.empty hfresh.layout rfl none,
    fun batch hbatch => cutAtDamage_of_rowsIn hfresh ht hdamage hbatch⟩

/-- Two jobs get an extension each. -/
def extendedTwoJobs : List (TableHandle × String × List Cell) :=
  ["job-1", "job-2"].map fun id => (.ofHistory, id, [RecordRow.extensionCell "owner" "ann"])

/-- The row of a job with its extension. -/
def extendedRow (id : String) : Row :=
  (Row.empty id).apply [RecordRow.extensionCell "owner" "ann"]

/-- A row file in which a value is not hexadecimal. -/
def damagedContent : Bytes :=
  Utf8.bytes "\x7b\"key\":\"job-2\",\"cells\":\x7b\"info\":\x7b\"jobName\":\"zz\"\x7d\x7d\x7d"

/-- The history of the two jobs after the file of the second one was
damaged. -/
def Disk.secondJobDamaged : Disk :=
  (Folder.writeAll ⟨"/"⟩ .withHistory extendedTwoJobs).setNode
    (["job_history", "rows"] ++ [RowFile.name "job-2"]) (.file damagedContent)

theorem decode_damagedContent :
    RowFile.decode damagedContent = .error (.cellNotHex "job-2" "info" "jobName") := by
  decide +kernel

theorem damaged_secondJobDamaged :
    Folder.Damaged ⟨"/"⟩ "job_history" (Folder.writeAll ⟨"/"⟩ .withHistory extendedTwoJobs)
      .secondJobDamaged := by
  have hold : Disk.locate (Folder.writeAll ⟨"/"⟩ .withHistory extendedTwoJobs)
        (Folder.rowsAddress ⟨"/"⟩ "job_history") = .ok ["job_history", "rows"] ∧
      (Folder.writeAll ⟨"/"⟩ .withHistory extendedTwoJobs).node?
        (["job_history", "rows"] ++ [RowFile.name "job-2"]) =
        some (.file (RowFile.content (extendedRow "job-2"))) := by decide +kernel
  exact Folder.damaged_setNode hold.1 hold.2 decode_damagedContent

/-- With pages of one row, the first job is yielded before the damaged one. -/
theorem enumeration_of_two_jobs :
    ∃ rows, rows.map (·.key) = ["job-1", "job-2"] ∧
      HistoryStore.FirstDamage ⟨⟨"/"⟩, .ofHistory, 1⟩ .secondJobDamaged rows (rows.take 1)
        (.cellNotHex "job-2" "info" "jobName") ∧
      HistoryStore.CutAtDamage ⟨⟨"/"⟩, .ofHistory, 1⟩ .secondJobDamaged rows := by
  have hnames : ∀ w ∈ extendedTwoJobs, w.1.name = TableHandle.ofHistory.name := by
    simp [extendedTwoJobs]
  obtain ⟨rows, hscan, hcut⟩ :=
    enumeration_of_damaged_rows freshTable_withHistory hnames damaged_secondJobDamaged
  have hfiles : Folder.rowsAt ⟨"/"⟩ .ofHistory
        (Folder.writeAll ⟨"/"⟩ .withHistory extendedTwoJobs) = .ok "/job_history/rows" ∧
      Disk.list (Folder.writeAll ⟨"/"⟩ .withHistory extendedTwoJobs) "/job_history/rows" =
        .ok (["job-1", "job-2"].map RowFile.name) ∧
      Folder.readRows (Folder.writeAll ⟨"/"⟩ .withHistory extendedTwoJobs) "/job_history/rows"
        (["job-1", "job-2"].map fun key => (key, RowFile.name key)) =
        .ok [extendedRow "job-1", extendedRow "job-2"] := by decide +kernel
  have hwritten : Folder.scan ⟨"/"⟩ .ofHistory none 3
      (Folder.writeAll ⟨"/"⟩ .withHistory extendedTwoJobs) =
      .ok [extendedRow "job-1", extendedRow "job-2"] :=
    (Folder.scan_of_names hfiles.1 hfiles.2.1 (by decide) (by decide) 3).trans hfiles.2.2
  have hrows : rows.take 3 = [extendedRow "job-1", extendedRow "job-2"] :=
    Except.ok.inj ((hscan 3).symm.trans hwritten)
  have hlength := congrArg List.length hrows
  rw [List.length_take, List.length_cons, List.length_singleton] at hlength
  rw [List.take_of_length_le (by omega)] at hrows
  subst hrows
  have hread : Folder.getRow ⟨"/"⟩ .ofHistory "job-1" .secondJobDamaged =
        .ok (some (extendedRow "job-1")) ∧
      Folder.getRow ⟨"/"⟩ .ofHistory "job-2" .secondJobDamaged =
        .error (.corrupt (.cellNotHex "job-2" "info" "jobName")) := by decide +kernel
  refine ⟨_, rfl, ⟨extendedRow "job-2", [], rfl, fun s hs => ?_, hread.2⟩, hcut 1 (by decide)⟩
  obtain rfl : s = extendedRow "job-1" := List.mem_singleton.mp hs
  exact hread.1

/-- The file of the first job is not damaged and its record can be looked up,
but with pages of 64 rows no enumeration yields it, and every report of the
whole history fails. -/
theorem undamaged_record_lost :
    Folder.Damaged ⟨"/"⟩ "job_history" (Folder.writeAll ⟨"/"⟩ .withHistory extendedTwoJobs)
      .secondJobDamaged ∧
    (∃ rec, HistoryStore.details ⟨Folder.mk "/", .ofHistory, 64⟩ "job-1" Disk.secondJobDamaged
        = .ok rec ∧
      ∀ limit, .ok rec ∉
        HistoryStore.records ⟨Folder.mk "/", .ofHistory, 64⟩ limit Disk.secondJobDamaged) ∧
    ∀ o limit, 0 < limit → ∃ e,
      HistoryStore.reportAll ⟨Folder.mk "/", .ofHistory, 64⟩ o limit Disk.secondJobDamaged
        = .error e := by
  have hfound : HistoryStore.details ⟨Folder.mk "/", .ofHistory, 64⟩ "job-1"
        Disk.secondJobDamaged = .ok { JobRecord.new "job-1" with
          extensions := .ofList [("owner", "ann")] } ∧
      Folder.rowsAt ⟨"/"⟩ .ofHistory .secondJobDamaged = .ok "/job_history/rows" ∧
      Disk.secondJobDamaged.list "/job_history/rows" =
        .ok (["job-1", "job-2"].map RowFile.name) ∧
      Folder.readRows .secondJobDamaged "/job_history/rows"
        (["job-1", "job-2"].map fun key => (key, RowFile.name key)) =
        .error (.corrupt (.cellNotHex "job-2" "info" "jobName")) := by decide +kernel
  obtain ⟨hdetails, hrows, hlist, hread⟩ := hfound
  have hscan : Folder.scan ⟨"/"⟩ .ofHistory none 64 .secondJobDamaged =
      .error (.corrupt (.cellNotHex "job-2" "info" "jobName")) :=
    (Folder.scan_of_names hrows hlist (by decide) (by decide) 64).trans hread
  have hrecords := records_of_failedScan (h := ⟨Folder.mk "/", .ofHistory, 64⟩) hscan
  refine ⟨damaged_secondJobDamaged, ⟨_, hdetails, fun limit hmem => ?_⟩, fun o limit hlimit => ?_⟩
  · rw [hrecords] at hmem
    exact nomatch List.mem_singleton.mp (List.mem_of_mem_take hmem)
  · rw [HistoryStore.reportAll, hrecords, List.take_of_length_le hlimit]
    exact ⟨_, rfl⟩

end JobLedger
