import JobLedger.Proofs.History.FolderEnumeration

/-!
# When an enumeration of a directory ends

A directory may have files that nobody wrote through a table. A scan selects
them by the keys in their names, but an enumeration goes on behind the key
in the last row, which is inside its file. If that key comes before the name,
the file is behind the cursor again: the enumeration may never end
(`endless_enumeration_of_misfiled_row`).

`enumeration_ends`: if no row comes before the name of its file, an
enumeration ends, whatever else is in the directory. The measure is
`HistoryCursor.toCome`: the rows on the page, the files behind the last key,
and one more item for a scan that fails.
-/

namespace JobLedger

namespace Folder

/-- The names in the directory of the rows of a table; none if it cannot be
listed. -/
def rowNames (f : Folder) (name : String) (d : Disk) : List String :=
  match d.list (f.rowsAddress name) with
  | .error _ => []
  | .ok names => names

/-- No row of a table has a key before the one in the name of its file. -/
def FiledForward (f : Folder) (name : String) (d : Disk) : Prop :=
  ∀ file ∈ f.rowNames name d, ∀ key r, RowFile.key? file = some key →
    readRow d (Disk.child (f.rowsAddress name) file) = .ok (some r) → key ≤ r.key

theorem filedForward_iff {f : Folder} {name : String} {d : Disk} :
    f.FiledForward name d ↔ ∀ file ∈ f.rowNames name d, ∀ key ∈ RowFile.key? file,
      ∀ r ∈ (readRow d (Disk.child (f.rowsAddress name) file)).toOption.join, key ≤ r.key := by
  have hjoin : ∀ (row : Except StoreError (Option Row)) r,
      r ∈ row.toOption.join ↔ row = .ok (some r) := by
    intro row r
    rcases row with e | _ | r' <;> simp [Except.toOption]
  simp only [FiledForward, hjoin, Option.mem_def]
  exact ⟨fun h file hfile key hkey r => h file hfile key r hkey,
    fun h file hfile key r hkey => h file hfile key hkey r⟩

instance (f : Folder) (name : String) (d : Disk) : Decidable (f.FiledForward name d) :=
  decidable_of_iff _ filedForward_iff.symm

/-! ## Files behind a key -/

theorem length_rowFiles_none_le (names : List String) :
    (rowFiles names none).length ≤ names.length := by
  unfold rowFiles
  rw [List.length_mergeSort]
  exact List.length_filterMap_le ..

/-- Behind a later key there are the files of the earlier scan that are
behind that key too. -/
theorem rowFiles_perm_filter {names : List String} {after : Option String} {key : String}
    (hafter : ∀ k ∈ after, k ≤ key) :
    (rowFiles names (some key)).Perm ((rowFiles names after).filter fun e => key < e.1) := by
  unfold rowFiles
  refine (List.mergeSort_perm ..).trans (.trans ?_ ((List.mergeSort_perm ..).symm.filter _))
  rw [List.filter_filterMap]
  refine .of_eq (List.filterMap_congr fun file _ => ?_)
  cases RowFile.key? file with
  | none => rfl
  | some k' =>
      cases after with
      | none =>
          show (if key < k' then some (k', file) else none) = Option.filter _ (some (k', file))
          simp only [Option.filter_some, decide_eq_true_eq]
      | some k =>
          show (if key < k' then some (k', file) else none) =
            Option.filter _ (if k < k' then some (k', file) else none)
          by_cases hk : k < k'
          · simp only [if_pos hk, Option.filter_some, decide_eq_true_eq]
          · have hnot : ¬key < k' := fun hlt => hk (Std.lt_of_le_of_lt (hafter k rfl) hlt)
            rw [if_neg hk, if_neg hnot]
            rfl

/-- Behind the key of a file, or a later key, there are at most the files
listed after that file. -/
theorem length_rowFiles_le {names : List String} {after : Option String} {key : String}
    {pre rest : List (String × String)} {file : String × String}
    (hfiles : rowFiles names after = pre ++ file :: rest) (hkey : file.1 ≤ key) :
    (rowFiles names (some key)).length ≤ rest.length := by
  have hsorted : (rowFiles names after).Pairwise fun a b => a.1 ≤ b.1 :=
    RowFile.pairwise_mergeSort _
  have hfile := mem_rowFiles.mp (hfiles ▸ List.mem_append_right pre (List.mem_cons_self ..))
  have hafter : ∀ k ∈ after, k ≤ key := fun k hk =>
    Std.le_trans (Std.le_of_lt (hfile.2.2 k hk)) hkey
  -- The listing is sorted, so the files up to this one have no later key.
  have hbefore : ∀ e ∈ pre ++ [file], ¬key < e.1 := by
    intro e he
    have hle : e.1 ≤ file.1 := by
      rcases List.mem_append.mp he with hpre | hself
      · rw [hfiles] at hsorted
        exact (List.pairwise_append.mp hsorted).2.2 e hpre file (List.mem_cons_self ..)
      · obtain rfl := List.mem_singleton.mp hself
        exact Std.le_refl e.1
    exact Std.not_lt.mpr (Std.le_trans hle hkey)
  have hnone : (pre ++ [file]).filter (fun e => key < e.1) = [] :=
    List.filter_eq_nil_iff.mpr fun e he hlt => hbefore e he (of_decide_eq_true hlt)
  have hsplit : pre ++ file :: rest = (pre ++ [file]) ++ rest := by simp
  rw [(rowFiles_perm_filter hafter).length_eq, hfiles, hsplit, List.filter_append, hnone,
    List.nil_append]
  exact List.length_filter_le ..

/-- The last row of a page is in one of the files, and no more rows are on
the page than files up to this one. -/
theorem file_of_getLast? {d : Disk} {dir : String} {files : List (String × String)}
    {rows : List Row} (hread : readRows d dir files = .ok rows) {last : Row}
    (hlast : rows.getLast? = some last) :
    ∃ pre file post, files = pre ++ file :: post ∧
      readRow d (Disk.child dir file.2) = .ok (some last) ∧ rows.length ≤ pre.length + 1 := by
  induction files generalizing rows with
  | nil =>
      cases hread
      cases hlast
  | cons file files ih =>
      rw [readRows] at hread
      cases hrow : readRow d (Disk.child dir file.2) with
      | error e =>
          rw [hrow] at hread
          cases hread
      | ok row? =>
          cases hrest : readRows d dir files with
          | error e =>
              rw [hrow, hrest] at hread
              cases hread
          | ok rest =>
              rw [hrow, hrest] at hread
              have hrows : row?.toList ++ rest = rows := Except.ok.inj hread
              have hone : row?.toList.length ≤ 1 := by cases row? <;> simp
              have hlength : rows.length ≤ rest.length + 1 := by
                rw [← hrows, List.length_append]
                omega
              -- The last row is in this file if there is none in the files behind.
              cases hend : rest.getLast? with
              | none =>
                  obtain rfl := List.getLast?_eq_none_iff.mp hend
                  rw [← hrows, List.append_nil] at hlast
                  cases row? with
                  | none => cases hlast
                  | some r =>
                      cases hlast
                      exact ⟨[], file, files, rfl, hrow, hlength⟩
              | some last' =>
                  have hsame : last' = last := by
                    rw [← hrows, List.getLast?_append, hend] at hlast
                    exact Option.some.inj hlast
                  obtain ⟨pre, e, post, hfiles, hlastRow, hle⟩ := ih hrest (hsame ▸ hend)
                  refine ⟨file :: pre, e, post, by rw [hfiles]; rfl, hlastRow, ?_⟩
                  rw [List.length_cons]
                  omega

/-- A scan reads a first part of the files behind its key. -/
theorem readRows_of_scan {f : Folder} {th : TableHandle} {d : Disk} {after : Option String}
    {limit : Nat} {rows : List Row} (h : f.scan th after limit d = .ok rows) :
    readRows d (f.rowsAddress th.name) ((rowFiles (f.rowNames th.name d) after).take limit)
      = .ok rows := by
  rw [scan, rowsAt] at h
  cases hlayout : hasLayout (Disk.child f.root th.name) d with
  | false =>
      rw [hlayout] at h
      cases h
  | true =>
      rw [hlayout] at h
      have h' : (match d.list (f.rowsAddress th.name) with
        | .error e => .error (.io (.disk e))
        | .ok names => readRows d (f.rowsAddress th.name) ((rowFiles names after).take limit)) =
          (.ok rows : Except StoreError (List Row)) := h
      rw [rowNames]
      cases hlist : d.list (f.rowsAddress th.name) with
      | error e =>
          rw [hlist] at h'
          cases h'
      | ok names =>
          rw [hlist] at h'
          exact h'

/-- Behind the last row of a page there are so few files that the page and
they are no more than the files the page was taken from. -/
theorem page_add_behind_le {f : Folder} {th : TableHandle} {d : Disk}
    (hfiled : f.FiledForward th.name d) {after : Option String} {limit : Nat} {rows : List Row}
    (hscan : f.scan th after limit d = .ok rows) {last : Row} (hlast : rows.getLast? = some last) :
    rows.length + (rowFiles (f.rowNames th.name d) (some last.key)).length ≤
      (rowFiles (f.rowNames th.name d) after).length := by
  obtain ⟨pre, file, post, htake, hrow, hlength⟩ :=
    file_of_getLast? (readRows_of_scan hscan) hlast
  have hfiles : rowFiles (f.rowNames th.name d) after =
      pre ++ file :: (post ++ (rowFiles (f.rowNames th.name d) after).drop limit) := by
    conv_lhs => rw [← List.take_append_drop limit (rowFiles _ after), htake]
    simp
  -- The next scan starts behind the key in the last row, not the one in the name of its file.
  have hfile := mem_rowFiles.mp (hfiles ▸ List.mem_append_right pre (List.mem_cons_self ..))
  have hkey : file.1 ≤ last.key := hfiled file.2 hfile.1 file.1 last hfile.2.1 hrow
  have hbehind := length_rowFiles_le hfiles hkey
  have htotal := congrArg List.length hfiles
  rw [List.length_append, List.length_cons] at htotal
  omega

end Folder

/-! ## The measure -/

/-- If each item makes a measure smaller, there are no more items than the
measure says. -/
theorem length_collect_le {ι σ : Type} [Backend ι σ] {s : σ} {measure : HistoryCursor ι → Nat}
    {inv : HistoryCursor ι → Prop}
    (hstep : ∀ c item c', inv c → c.next s = (some item, c') → inv c' ∧ measure c' < measure c)
    (limit : Nat) {c : HistoryCursor ι} (hc : inv c) :
    (c.collect limit s).length ≤ measure c := by
  induction limit generalizing c with
  | zero => exact Nat.zero_le _
  | succ limit ih =>
      rw [HistoryCursor.collect]
      rcases hnext : c.next s with ⟨_ | item, c'⟩
      · exact Nat.zero_le _
      · obtain ⟨hinv, hlt⟩ := hstep c item c' hc hnext
        have hrest := ih hinv
        simp only [List.length_cons]
        omega

/-- No more items are to come than this. -/
def HistoryCursor.toCome (c : HistoryCursor Folder) (d : Disk) : Nat :=
  if c.finished then 0
  else c.page.length +
    (Folder.rowFiles (c.store.inst.rowNames c.store.table.name d) c.lastKey).length + 1

/-- Each item leaves fewer items to come. -/
theorem toCome_next {c c' : HistoryCursor Folder} {d : Disk}
    (hfiled : c.store.inst.FiledForward c.store.table.name d) {item : Except HistoryError JobRecord}
    (hnext : c.next d = (some item, c')) : c'.store = c.store ∧ c'.toCome d < c.toCome d := by
  have hunfinished : c.finished = false := by
    rw [← Bool.not_eq_true]
    intro hf
    rw [HistoryCursor.next, if_pos hf] at hnext
    cases hnext
  rcases c.next_cases d with ⟨-, hn⟩ | ⟨r, page, hp, -, hn⟩ | ⟨e, -, -, -, hn⟩ |
    ⟨-, -, -, hn⟩ | ⟨r, page, hp, -, hs, hn⟩ <;> rw [hn] at hnext <;> cases hnext
  · refine ⟨rfl, ?_⟩
    simp [HistoryCursor.toCome, hunfinished, hp]
  · refine ⟨rfl, ?_⟩
    simp [HistoryCursor.toCome, HistoryCursor.finish, hunfinished]
  · refine ⟨rfl, ?_⟩
    obtain ⟨last, hlast⟩ : ∃ last, (r :: page).getLast? = some last :=
      ⟨_, List.getLast?_eq_some_getLast (List.cons_ne_nil r page)⟩
    have hpage := Folder.page_add_behind_le hfiled hs hlast
    rw [List.length_cons] at hpage
    simp only [HistoryCursor.toCome, hunfinished, hp, hlast, Option.map_some, List.length_nil,
      Bool.false_eq_true, if_false]
    omega

/-- An enumeration of a table in a directory ends, whatever is in the
directory and however long the pages are, if no row there comes before the
name of its file: there is at most one item for each name, and one for a
failed scan. -/
theorem enumeration_ends {f : Folder} {th : TableHandle} {d : Disk}
    (hfiled : f.FiledForward th.name d) (batch limit : Nat) :
    (HistoryStore.records ⟨f, th, batch⟩ limit d).length ≤ (f.rowNames th.name d).length + 1 := by
  have hstep : ∀ (c : HistoryCursor Folder) item c', c.store = ⟨f, th, batch⟩ →
      c.next d = (some item, c') → c'.store = ⟨f, th, batch⟩ ∧ c'.toCome d < c.toCome d := by
    intro c item c' hc hnext
    obtain ⟨hstore, hlt⟩ := toCome_next (by rw [hc]; exact hfiled) hnext
    exact ⟨hstore.trans hc, hlt⟩
  have hbound := length_collect_le hstep limit (c := .start ⟨f, th, batch⟩) rfl
  have hfiles := Folder.length_rowFiles_none_le (f.rowNames th.name d)
  exact hbound.trans (by simpa [HistoryCursor.toCome, HistoryCursor.start] using hfiles)

/-- Of two row files one is ahead of its name, and they are not alone in the
directory. -/
def Disk.rowAhead : Disk :=
  withHistory
    |>.setNode ["job_history", "rows", RowFile.name "a"] (.file (RowFile.content (.empty "b")))
    |>.setNode ["job_history", "rows", RowFile.name "c"] (.file (RowFile.content (.empty "c")))
    |>.setNode ["job_history", "rows", "notes.txt"] (.file [])

theorem enumeration_of_rowAhead_ends :
    Folder.FiledForward ⟨"/"⟩ TableHandle.ofHistory.name .rowAhead ∧
    ∀ limit, (HistoryStore.records ⟨Folder.mk "/", .ofHistory, 1⟩ limit Disk.rowAhead).length
      ≤ 3 + 1 := by
  have hfiled : Folder.FiledForward ⟨"/"⟩ TableHandle.ofHistory.name .rowAhead := by
    decide +kernel
  have hnames : (Folder.rowNames ⟨"/"⟩ TableHandle.ofHistory.name .rowAhead).length = 3 := by
    decide +kernel
  refine ⟨hfiled, fun limit => ?_⟩
  rw [← hnames]
  exact enumeration_ends hfiled 1 limit

/-! ## A misfiled row -/

/-- If the page behind a key ends with a row of this key, an enumeration that
has come to the key goes round in a circle. -/
theorem length_collect_of_circle {ι σ : Type} [Backend ι σ] {h : HistoryStore ι} {s : σ}
    {key : String} {rows : List Row}
    (hscan : Backend.scan h.inst h.table (some key) h.scanBatch s = .ok rows)
    (hlast : rows.getLast?.map (·.key) = some key) (limit : Nat) (page : List Row) :
    (HistoryCursor.collect limit ⟨h, page, some key, false⟩ s).length = limit := by
  induction limit generalizing page with
  | zero => rfl
  | succ limit ih =>
      cases page with
      | cons r page => exact congrArg (· + 1) (ih page)
      | nil =>
          cases rows with
          | nil => cases hlast
          | cons r rest =>
              have hnext : HistoryCursor.next ⟨h, [], some key, false⟩ s =
                  (some (RecordRow.decode r), ⟨h, rest, some key, false⟩) := by
                simp only [HistoryCursor.next, hscan, Bool.false_eq_true, if_false, hlast]
              rw [HistoryCursor.collect, hnext]
              exact congrArg (· + 1) (ih rest)

/-- A history table with one row, which has the key `a` and is in the file of
the key `b`. -/
def Disk.misfiledRow : Disk :=
  withHistory.setNode ["job_history", "rows", RowFile.name "b"]
    (.file (RowFile.content (.empty "a")))

theorem length_records_misfiledRow (limit : Nat) :
    (HistoryStore.records ⟨Folder.mk "/", .ofHistory, 1⟩ limit Disk.misfiledRow).length
      = limit := by
  let h : HistoryStore Folder := ⟨⟨"/"⟩, .ofHistory, 1⟩
  have hfirst : Backend.scan h.inst h.table none h.scanBatch Disk.misfiledRow
      = .ok [Row.empty "a"] := by decide +kernel
  have hagain : Backend.scan h.inst h.table (some "a") h.scanBatch Disk.misfiledRow
      = .ok [Row.empty "a"] := by decide +kernel
  cases limit with
  | zero => rfl
  | succ limit =>
      have hnext : (HistoryCursor.start h).next Disk.misfiledRow =
          (some (RecordRow.decode (.empty "a")), ⟨h, [], some "a", false⟩) := by
        simp only [HistoryCursor.next, HistoryCursor.start, hfirst, Bool.false_eq_true, if_false]
        rfl
      show ((HistoryCursor.start h).collect (limit + 1) Disk.misfiledRow).length = limit + 1
      rw [HistoryCursor.collect, hnext]
      exact congrArg (· + 1) (length_collect_of_circle hagain rfl limit [])

/-- With pages of one row, the enumeration of the table never ends. -/
theorem endless_enumeration_of_misfiled_row :
    ¬∃ n, ∀ limit,
      (HistoryStore.records ⟨Folder.mk "/", .ofHistory, 1⟩ limit Disk.misfiledRow).length ≤ n := by
  rintro ⟨n, hn⟩
  have hmore := hn (n + 1)
  rw [length_records_misfiledRow] at hmore
  omega

end JobLedger
