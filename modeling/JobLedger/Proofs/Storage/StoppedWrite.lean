import JobLedger.Proofs.Disk.StoppedWrite
import JobLedger.Proofs.Storage.Changes
import JobLedger.Proofs.Storage.FolderScan

/-!
# Stopping while a row is written

A program may be stopped at any point of a row write: after its temporary
file was made or emptied, after any of the bytes, after the rename. A stopped
write leaves the table as it was, or it has happened as a whole
(`stopped_write_atomic`). An instance that is opened on the same root
afterwards sees just this, and all later writes go on from there.

What a stopped write can leave behind is a stale temporary file. The
invariant is `StrayTemporary`: two trees that differ in one temporary file of
a row. No reader takes that file for a row (`RowFile.key?_temporary`), and a
row file never has its name, so every operation answers alike on both trees;
a write keeps them alike (`StrayTemporary.putRow`), and so do all writes
(`StrayTemporary.writeAll`). The tree may have other files and any limits.
-/

namespace JobLedger.Folder

/-! ## The steps of a write -/

/-- The steps of a row write, byte by byte. A write that is refused has
none. -/
def writeSteps (f : Folder) (h : TableHandle) (key : String) (cells : List Cell) (d : Disk) :
    List Disk.Step :=
  match f.rowToWrite h key cells d with
  | .error _ => []
  | .ok (rows, r) =>
      (Disk.replaceSteps rows (RowFile.name key) (RowFile.content r)).flatMap Disk.Step.bytewise

/-- The tree after the first steps of a row write. -/
def stoppedWrite (f : Folder) (h : TableHandle) (key : String) (cells : List Cell) (n : Nat)
    (d : Disk) : Disk :=
  (Disk.run ((f.writeSteps h key cells d).take n) d).2

/-- All steps together write the row. -/
theorem stoppedWrite_of_length_le {f : Folder} {h : TableHandle} {key : String}
    {cells : List Cell} {n : Nat} {d : Disk} (hn : (f.writeSteps h key cells d).length ≤ n) :
    f.stoppedWrite h key cells n d = (f.putRow h key cells d).2 := by
  rw [stoppedWrite, List.take_of_length_le hn, writeSteps, putRow]
  cases f.rowToWrite h key cells d with
  | error e => rfl
  | ok w =>
      rw [Disk.run_bytewise]
      rfl

/-- The root of an instance stays where it is when a row is written. -/
theorem locate_putRow {f : Folder} {d : Disk} {p : Path} (hp : d.locate f.root = .ok p)
    (hdir : d.node? p = some .dir) {h : TableHandle} (hn : validName h.name = true) (key : String)
    (cells : List Cell) :
    (f.putRow h key cells d).2.locate f.root = .ok p ∧
      (f.putRow h key cells d).2.node? p = some .dir := by
  cases hwrite : f.rowToWrite h key cells d with
  | error e =>
      rw [putRow, hwrite]
      exact ⟨hp, hdir⟩
  | ok w =>
      obtain ⟨rows, r⟩ := w
      obtain ⟨-, -, rfl, -⟩ := rowToWrite_eq_ok_iff.mp hwrite
      rw [putRow_of_rowToWrite hwrite]
      have hbelow : ∀ q, d.locate (f.rowsAddress h.name) = .ok q →
          ¬q ++ [Disk.withEnding (RowFile.name key) "tmp"] <+: p := by
        intro q hq hprefix
        rw [rowsAddress_eq_below] at hq
        obtain rfl := Disk.path_of_locate_below hp (plainName_of_mem_rows hn) hq
        have hlength := hprefix.length_le
        simp only [List.length_append, List.length_cons, List.length_nil] at hlength
        omega
      have hne := Disk.child_ne_empty (Disk.ne_empty_of_locate hp) h.name
      exact Disk.locate_replaceFile (Disk.child_ne_empty hne rowsDir)
        (RowFile.plainName_name key) (RowFile.plainName_temporary key)
        (RowFile.temporary_ne_name key key) hp hdir hbelow (RowFile.content r)

/-! ## A stale temporary file -/

/-- The path of the temporary file of a row. -/
def temporaryPath (p : Path) (name key : String) : Path :=
  p ++ [name, rowsDir, Disk.withEnding (RowFile.name key) "tmp"]

/-- The trees differ in one temporary file of a row below the root of an
instance. -/
structure StrayTemporary (f : Folder) (p : Path) (name key : String) (d d' : Disk) : Prop where
  same : Disk.SameBut (temporaryPath p name key) d d'
  located : d.locate f.root = .ok p
  isDir : d.node? p = some .dir

theorem length_temporaryPath (p : Path) (name key : String) :
    (temporaryPath p name key).length = p.length + 3 := List.length_append

namespace StrayTemporary

variable {f : Folder} {p : Path} {n k : String} {d d' : Disk} (hs : StrayTemporary f p n k d d')

include hs

theorem isDir_root : d.isDir f.root = true ∧ d'.isDir f.root = true := by
  have hdir := Disk.isDir_iff.mpr ⟨p, hs.located, hs.isDir⟩
  exact ⟨hdir, hs.same.keepsDirs.isDir hdir⟩

/-- Only the temporary file itself may be read differently. -/
theorem read_eq {names : List String} (hn : ∀ n ∈ names, Disk.PlainName n)
    (hlength : names.length ≤ 3) (hne : p ++ names ≠ temporaryPath p n k) :
    d'.read (Disk.below f.root names) = d.read (Disk.below f.root names) :=
  hs.same.read_below hs.located hn (by rw [length_temporaryPath]; omega) hne

theorem read_layoutAddress {name : String} (hn : validName name = true) :
    d'.read (f.layoutAddress name) = d.read (f.layoutAddress name) := by
  rw [layoutAddress_eq_below]
  exact hs.read_eq (plainName_of_mem_layout hn) (by simp) (by simp [temporaryPath])

/-- A file in a directory of rows, unless it is the temporary file. -/
theorem readRow_eq {name file : String} (hn : validName name = true)
    (hfile : Disk.PlainName file) (hne : file ≠ Disk.withEnding (RowFile.name k) "tmp") :
    readRow d' (Disk.child (f.rowsAddress name) file) =
      readRow d (Disk.child (f.rowsAddress name) file) := by
  have hread := hs.read_eq (plainName_of_mem_row hn hfile) (by simp) (by simp [temporaryPath, hne])
  rw [child_rowsAddress, readRow, readRow, hread]

theorem hasLayout_eq {name : String} (hn : validName name = true) :
    hasLayout (Disk.child f.root name) d' = hasLayout (Disk.child f.root name) d := by
  refine Bool.eq_iff_iff.mpr ?_
  rw [hasLayout_iff, hasLayout_iff, hs.read_layoutAddress hn]

theorem rowsAt_eq {h : TableHandle} (hn : validName h.name = true) :
    f.rowsAt h d' = f.rowsAt h d := by
  rw [rowsAt, rowsAt, hs.hasLayout_eq hn]

/-! ### Reading -/

theorem openTable_eq (name : String) : f.openTable name d' = f.openTable name d := by
  rw [openTable, openTable, tableDir, tableDir, hs.isDir_root.1, hs.isDir_root.2]
  cases hn : validName name with
  | false => rfl
  | true =>
      have hread := hs.read_layoutAddress hn
      have hfile := hs.hasLayout_eq hn
      rw [layoutAddress] at hread
      rw [hasLayout, hasLayout] at hfile
      simp only [if_true, bind, Except.bind, hfile, hread]

theorem getRow_eq {h : TableHandle} (hn : validName h.name = true) (key : String) :
    f.getRow h key d' = f.getRow h key d := by
  have hread := hs.readRow_eq hn (RowFile.plainName_name key)
    (RowFile.temporary_ne_name k key).symm
  rw [getRow, getRow, hs.rowsAt_eq hn, rowsAt]
  cases hasLayout (Disk.child f.root h.name) d with
  | false => rfl
  | true =>
      simp only [if_true, bind, Except.bind]
      rw [← rowsAddress, hread]

/-- The temporary file is not listed. -/
theorem rowFiles_namesAt (q : Path) (after : Option String) :
    rowFiles (d'.namesAt q) after = rowFiles (d.namesAt q) after := by
  unfold rowFiles Disk.namesAt
  simp only [List.filterMap_filterMap]
  refine congrArg (List.mergeSort · _) (Dict.filterMap_keys_congr fun q' hq' =>
    hs.same.nodes q' fun heq => hq' ?_)
  subst heq
  refine Option.bind_eq_none_iff.mpr fun name hname => ?_
  have hlast := congrArg List.getLast? (Disk.eq_append_of_nameAt hname)
  have htmp : some (Disk.withEnding (RowFile.name k) "tmp") = some name := by
    simpa [temporaryPath] using hlast
  rw [← Option.some.inj htmp, RowFile.key?_temporary, Option.bind_none]

theorem scan_eq {h : TableHandle} (hn : validName h.name = true) (after : Option String)
    (limit : Nat) : f.scan h after limit d' = f.scan h after limit d := by
  have hplain := plainName_of_mem_rows hn
  have hlocate := hs.same.locate_below hs.located hplain (by simp [length_temporaryPath])
  rw [← rowsAddress_eq_below] at hlocate
  rw [scan, scan, hs.rowsAt_eq hn, rowsAt]
  cases hasLayout (Disk.child f.root h.name) d with
  | false => rfl
  | true =>
      simp only [if_true, bind, Except.bind]
      rw [← rowsAddress, Disk.list, Disk.list, hlocate]
      cases hq : d.locate (f.rowsAddress h.name) with
      | error e => rfl
      | ok q =>
          obtain rfl := Disk.path_of_locate_below hs.located hplain hq
          simp only [bind, Except.bind, hs.same.node?_eq (q := p ++ [h.name, rowsDir])
            (by simp [temporaryPath])]
          cases d.node? (p ++ [h.name, rowsDir]) with
          | none => rfl
          | some node =>
              cases node with
              | file content => rfl
              | dir =>
                  simp only [hs.rowFiles_namesAt]
                  refine readRows_congr fun e he => ?_
                  obtain ⟨-, hkey, -⟩ := mem_rowFiles.mp (List.mem_of_mem_take he)
                  refine hs.readRow_eq hn (RowFile.plainName_of_key? hkey) fun htmp => ?_
                  rw [htmp, RowFile.key?_temporary] at hkey
                  cases hkey

/-! ### Writing -/

theorem rowToWrite_eq {h : TableHandle} (hn : validName h.name = true) (key : String)
    (cells : List Cell) : f.rowToWrite h key cells d' = f.rowToWrite h key cells d := by
  have hread := hs.readRow_eq hn (RowFile.plainName_name key)
    (RowFile.temporary_ne_name k key).symm
  rw [rowToWrite, rowToWrite, hs.rowsAt_eq hn, rowsAt]
  cases h.layout.checkCells cells with
  | error e => rfl
  | ok u =>
      cases hasLayout (Disk.child f.root h.name) d with
      | false => rfl
      | true =>
          simp only [if_true, bind, Except.bind]
          rw [← rowsAddress, hread]

theorem putRow {h : TableHandle} (hn : validName h.name = true) (key : String)
    (cells : List Cell) :
    (f.putRow h key cells d').1 = (f.putRow h key cells d).1 ∧
      StrayTemporary f p n k (f.putRow h key cells d).2 (f.putRow h key cells d').2 := by
  have hwrite' := hs.rowToWrite_eq hn key cells
  obtain ⟨hroot, hdir⟩ := locate_putRow hs.located hs.isDir hn key cells
  cases hwrite : f.rowToWrite h key cells d with
  | error e =>
      rw [hwrite] at hwrite'
      rw [Folder.putRow, Folder.putRow, hwrite, hwrite']
      exact ⟨rfl, hs⟩
  | ok w =>
      obtain ⟨rows, r⟩ := w
      obtain ⟨-, -, rfl, -⟩ := rowToWrite_eq_ok_iff.mp hwrite
      rw [hwrite] at hwrite'
      have hother : p ++ ([h.name, rowsDir] ++ [RowFile.name key]) ≠ temporaryPath p n k := by
        simp [temporaryPath, (RowFile.temporary_ne_name k key).symm]
      have hreplaced := hs.same.replaceFile hs.located (plainName_of_mem_rows hn)
        (RowFile.plainName_name key) (RowFile.plainName_temporary key)
        (by simp [length_temporaryPath]) hother (RowFile.content r)
      rw [← rowsAddress_eq_below] at hreplaced
      rw [putRow_of_rowToWrite hwrite] at hroot hdir ⊢
      rw [putRow_of_rowToWrite hwrite']
      exact ⟨congrArg (Except.mapError _) hreplaced.1, hreplaced.2, hroot, hdir⟩

theorem writeAll {writes : List (TableHandle × String × List Cell)}
    (hn : ∀ w ∈ writes, validName w.1.name = true) :
    StrayTemporary f p n k (f.writeAll d writes) (f.writeAll d' writes) := by
  induction writes generalizing d d' with
  | nil => exact hs
  | cons w ws ih =>
      obtain ⟨hfirst, hrest⟩ := List.forall_mem_cons.mp hn
      exact ih (hs.putRow hfirst w.2.1 w.2.2).2 hrest

end StrayTemporary

/-! ## Stopped writes -/

/-- An instance has the same tables in both trees: they can be opened, read
and scanned alike, and writes have the same results. -/
structure SameTables (f : Folder) (d d' : Disk) : Prop where
  openTable : ∀ name, f.openTable name d' = f.openTable name d
  getRow : ∀ h key, validName h.name = true → f.getRow h key d' = f.getRow h key d
  scan : ∀ h after limit, validName h.name = true →
    f.scan h after limit d' = f.scan h after limit d
  putRow : ∀ h key cells, validName h.name = true →
    (f.putRow h key cells d').1 = (f.putRow h key cells d).1

theorem SameTables.refl (f : Folder) (d : Disk) : f.SameTables d d :=
  ⟨fun _ => rfl, fun _ _ _ => rfl, fun _ _ _ _ => rfl, fun _ _ _ _ => rfl⟩

theorem StrayTemporary.sameTables {f : Folder} {p : Path} {n k : String} {d d' : Disk}
    (hs : StrayTemporary f p n k d d') : f.SameTables d d' :=
  ⟨hs.openTable_eq, fun _ key hn => hs.getRow_eq hn key,
    fun _ after limit hn => hs.scan_eq hn after limit,
    fun _ key cells hn => (hs.putRow hn key cells).1⟩

/-- Short of its last step, a write has changed its temporary file, if
anything. -/
theorem strayTemporary_of_stoppedWrite {f : Folder} {d : Disk} {p : Path}
    (hp : d.locate f.root = .ok p) (hdir : d.node? p = some .dir) {h : TableHandle}
    (hn : validName h.name = true) {key : String} {cells : List Cell} {n : Nat}
    (hlt : n < (f.writeSteps h key cells d).length) :
    f.stoppedWrite h key cells n d = d ∨
      StrayTemporary f p h.name key d (f.stoppedWrite h key cells n d) := by
  rw [writeSteps] at hlt
  rw [stoppedWrite, writeSteps]
  cases hwrite : f.rowToWrite h key cells d with
  | error e =>
      rw [hwrite] at hlt
      exact absurd hlt (Nat.not_lt_zero n)
  | ok w =>
      obtain ⟨rows, r⟩ := w
      obtain ⟨-, -, rfl, -⟩ := rowToWrite_eq_ok_iff.mp hwrite
      rw [hwrite] at hlt
      refine (Disk.run_take_bytewise d hlt).imp id ?_
      rintro ⟨q, written, hq, hnode, hstopped⟩
      rw [child_rowsAddress] at hq
      obtain rfl := Disk.path_of_locate_below hp
        (plainName_of_mem_row hn (RowFile.plainName_temporary key)) hq
      exact ⟨hstopped ▸ Disk.sameBut_setNode hnode written, hp, hdir⟩

theorem openAt_of_isDir {f : Folder} {d : Disk} (hroot : d.isDir f.root = true) :
    openAt f.root d = (.ok f, d) := by
  rw [openAt, Disk.ensureDir_of_isDir hroot]

/-- A row write that is stopped after any number of its steps has not
happened, or it has happened as a whole. An instance can be opened on the
root again, and it has the tables that it had before the write or those after
it; that is still so after any further writes, and each of them has the same
result. -/
theorem stopped_write_atomic {f : Folder} {d : Disk} {h : TableHandle}
    (hroot : d.isDir f.root = true) (hn : validName h.name = true) (key : String)
    (cells : List Cell) (n : Nat) :
    let stopped := f.stoppedWrite h key cells n d
    let written := if n < (f.writeSteps h key cells d).length then d
      else (f.putRow h key cells d).2
    openAt f.root stopped = (.ok f, stopped) ∧
      ∀ writes : List (TableHandle × String × List Cell),
        (∀ w ∈ writes, validName w.1.name = true) →
        f.SameTables (f.writeAll written writes) (f.writeAll stopped writes) := by
  intro stopped written
  obtain ⟨p, hp, hdir⟩ := Disk.isDir_iff.mp hroot
  by_cases hlt : n < (f.writeSteps h key cells d).length
  · have hwritten : written = d := if_pos hlt
    rw [hwritten]
    rcases strayTemporary_of_stoppedWrite hp hdir hn hlt with hsame | hs
    · have hstopped : stopped = d := hsame
      rw [hstopped]
      exact ⟨openAt_of_isDir hroot, fun writes _ => .refl f _⟩
    · exact ⟨openAt_of_isDir hs.isDir_root.2, fun writes hw => (hs.writeAll hw).sameTables⟩
  · have hstopped : stopped = written :=
      (stoppedWrite_of_length_le (Nat.not_lt.mp hlt)).trans (if_neg hlt).symm
    have hwritten : written = (f.putRow h key cells d).2 := if_neg hlt
    rw [hstopped]
    refine ⟨openAt_of_isDir (Disk.isDir_iff.mpr ⟨p, ?_⟩), fun writes _ => .refl f _⟩
    rw [hwritten]
    exact locate_putRow hp hdir hn key cells

/-- The tree with a new table. -/
def newTable : Disk :=
  (createTable ⟨"/"⟩ ⟨"t", ["info"], ""⟩ (.empty [] ⟨none, none⟩)).2

/-- The first row of a table is written, up to the fourth byte. -/
def fourBytesWritten : Disk :=
  stoppedWrite ⟨"/"⟩ ⟨"t", ⟨"t", ["info"], ""⟩⟩ "a" [⟨"info", "v", [1]⟩] 5 newTable

theorem stopped_write_of_new_table :
    fourBytesWritten.node? ["t", "rows", "61.tmp"] = some (.file [0x7b, 0x22, 0x6b, 0x65]) ∧
    openAt "/" fourBytesWritten = (.ok ⟨"/"⟩, fourBytesWritten) ∧
    ∀ writes : List (TableHandle × String × List Cell),
      (∀ w ∈ writes, validName w.1.name = true) →
      SameTables ⟨"/"⟩ (writeAll ⟨"/"⟩ newTable writes)
        (writeAll ⟨"/"⟩ fourBytesWritten writes) := by
  have hlt : 5 < (writeSteps ⟨"/"⟩ ⟨"t", ⟨"t", ["info"], ""⟩⟩ "a" [⟨"info", "v", [1]⟩]
      newTable).length := by decide +kernel
  have hatomic := stopped_write_atomic (f := ⟨"/"⟩) (d := newTable)
    (h := ⟨"t", ⟨"t", ["info"], ""⟩⟩) (by decide +kernel) (by decide) "a" [⟨"info", "v", [1]⟩] 5
  rw [if_pos hlt] at hatomic
  exact ⟨by decide +kernel, hatomic⟩

end JobLedger.Folder
