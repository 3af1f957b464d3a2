import JobLedger.Proofs.Storage.FolderScan
import JobLedger.Proofs.Storage.StoppedWrite

/-!
# What a new table in a directory shows

Whether there is a table is a question about its layout file, and the rows
are kept beside that file. Making a table accepts a directory of rows that is
there already, so a table may be new and show rows. The main statement,
`new_table_shows_leftovers`, says which: on any tree, whatever is left of an
earlier table, the new one opens with its layout and has the rows of the
files that stand in that directory, no more and no fewer.

That rests on what making a table does to the tree (`MadeTable`): below the
directory of the rows nothing changes.
-/

namespace JobLedger.Folder

/-! ## What is left -/

/-- The names of the files in the directory where a table keeps its rows,
whether or not there is a table. The path is that of the root. -/
def leftFiles (p : Path) (name : String) (d : Disk) : List String :=
  d.namesAt (p ++ [name, rowsDir])

/-- The row in one of these files; nothing if there is no such file. -/
def leftRow (f : Folder) (p : Path) (name : String) (d : Disk) (file : String) :
    Except StoreError (Option Row) :=
  if Disk.exceeds d.limits.address (Disk.child (f.rowsAddress name) file) ∨
      Disk.exceeds d.limits.name file then
    .error (.io (.disk .nameTooLong))
  else match d.node? (p ++ [name, rowsDir, file]) with
    | none => .ok none
    | some .dir => .error (.io (.disk .isDirectory))
    | some (.file content) =>
        match RowFile.decode content with
        | .ok r => .ok (some r)
        | .error fault => .error (.corrupt fault)

section

variable {f : Folder} {p : Path} {name file : String} {d : Disk}

theorem mem_leftFiles :
    file ∈ leftFiles p name d ↔ (d.node? (p ++ [name, rowsDir, file])).isSome := by
  rw [leftFiles, Disk.mem_namesAt, List.append_assoc, Disk.node?_of_ne_nil d (by simp)]
  rfl

theorem leftRow_eq_none_iff :
    f.leftRow p name d file = .ok none ↔
      Disk.Fits d.limits (f.rowsAddress name) file ∧ file ∉ leftFiles p name d := by
  rw [leftRow, mem_leftFiles]
  by_cases hlong : Disk.exceeds d.limits.address (Disk.child (f.rowsAddress name) file) ∨
      Disk.exceeds d.limits.name file
  · rw [if_pos hlong]
    refine ⟨nofun, fun ⟨hfits, _⟩ => ?_⟩
    simp [hfits.address, hfits.name] at hlong
  · obtain ⟨haddress, hname⟩ := not_or.mp hlong
    have hfits : Disk.Fits d.limits (f.rowsAddress name) file :=
      ⟨Bool.eq_false_iff.mpr haddress, Bool.eq_false_iff.mpr hname⟩
    rw [if_neg hlong]
    cases d.node? (p ++ [name, rowsDir, file]) with
    | none => simp [hfits]
    | some n =>
        cases n with
        | dir => simp
        | file content => cases hdecode : RowFile.decode content <;> simp [hdecode]

end

/-! ## Reading the rows of files -/

/-- Reading rows is reading the row of each file and leaving out the files
that are gone. -/
theorem readRows_eq_mapM {d : Disk} {rows : String} {read : String → Except StoreError (Option Row)}
    {files : List (String × String)}
    (h : ∀ e ∈ files, readRow d (Disk.child rows e.2) = read e.2) :
    readRows d rows files = (files.mapM fun e => read e.2).map List.reduceOption := by
  induction files with
  | nil => rfl
  | cons e files ih =>
      obtain ⟨hfirst, hrest⟩ := List.forall_mem_cons.mp h
      obtain ⟨key, file⟩ := e
      rw [readRows, hfirst, ih hrest, List.mapM_cons]
      rcases read file with e | _ | r
      · rfl
      · cases files.mapM fun e => read e.2 <;> rfl
      · cases files.mapM fun e => read e.2 <;> rfl

/-- If no file is gone, nothing is read only where there is nothing to read. -/
theorem mapM_read_eq_nil_iff {read : String → Except StoreError (Option Row)}
    {files : List (String × String)} (h : ∀ e ∈ files, read e.2 ≠ .ok none) :
    (files.mapM fun e => read e.2).map List.reduceOption = .ok [] ↔ files = [] := by
  cases files with
  | nil => exact ⟨fun _ => rfl, fun _ => rfl⟩
  | cons e files =>
      have hfirst := h e (List.mem_cons_self ..)
      rw [List.mapM_cons]
      refine ⟨fun hnil => ?_, nofun⟩
      rcases hread : read e.2 with fault | _ | r
      · rw [hread] at hnil
        cases hnil
      · exact absurd hread hfirst
      · rw [hread] at hnil
        cases hrest : files.mapM fun e => read e.2 with
        | error fault => rw [hrest] at hnil; cases hnil
        | ok rows => rw [hrest] at hnil; cases hnil

theorem rowFiles_eq_nil_iff {names : List String} :
    rowFiles names none = [] ↔ ∀ file ∈ names, RowFile.key? file = none := by
  rw [List.eq_nil_iff_forall_not_mem]
  constructor
  · intro h file hfile
    by_contra hkey
    obtain ⟨key, hkey⟩ := Option.ne_none_iff_exists'.mp hkey
    exact h (key, file) (mem_rowFiles.mpr ⟨hfile, hkey, nofun⟩)
  · rintro h e he
    obtain ⟨hfile, hkey, -⟩ := mem_rowFiles.mp he
    exact nomatch (h e.2 hfile).symm.trans hkey

/-! ## Making a table -/

/-- A table is made by making its directories and then writing its layout. -/
theorem exists_steps_of_createTable {f : Folder} {l : TableLayout} {d d' : Disk}
    (h : f.createTable l d = (.ok (), d')) :
    validName l.name = true ∧ ∃ d₁, d.ensureDir (f.rowsAddress l.name) = (.ok (), d₁) ∧
      d₁.replaceFile (Disk.child f.root l.name) layoutFile (Utf8.encode l.toJson.indented) =
        (.ok (), d') := by
  rw [createTable, tableDir] at h
  split at h
  · cases h
  next dir htable =>
  split at htable
  case isFalse => cases htable
  split at htable
  case isFalse => cases htable
  next hn =>
  obtain rfl := Except.ok.inj htable
  split at h
  · cases h
  rw [← rowsAddress] at h
  refine ⟨hn, ?_⟩
  rcases hensure : d.ensureDir (f.rowsAddress l.name) with ⟨_ | _, d₁⟩ <;>
    simp only [ofDisk, hensure, Except.mapError] at h
  · cases h
  · refine ⟨d₁, rfl, ?_⟩
    rcases hwrite : d₁.replaceFile (Disk.child f.root l.name) layoutFile
      (Utf8.encode l.toJson.indented) with ⟨_ | _, d₂⟩ <;> simp only [hwrite] at h
    · cases h
    · rw [(Prod.mk.inj h).2]

/-- Where the layout of a table was written, it can be read, and directories
elsewhere are found as before. -/
theorem read_written_layout {f : Folder} {p : Path} {name : String} {d d' : Disk} {content : Bytes}
    (hroot : d.locate f.root = .ok p) (hn : validName name = true)
    (h : d.replaceFile (Disk.child f.root name) layoutFile content = (.ok (), d')) :
    d' = d.withReplaced (p ++ [name]) layoutFile content ∧
      d'.read (f.layoutAddress name) = .ok content ∧
      ∀ {address q}, d.locate address = .ok q → d.node? q = some .dir →
        ¬p ++ [name] ++ [Disk.withEnding layoutFile "tmp"] <+: q →
        d'.locate address = .ok q ∧ d'.node? q = some .dir := by
  have hne := Disk.child_ne_empty (Disk.ne_empty_of_locate hroot) name
  have hpath : ∀ {q}, d.locate (Disk.child f.root name) = .ok q → q = p ++ [name] := fun hq =>
    ((locate_table_iff hroot hn).mp hq).2.2
  have hstays : ∀ {address q}, d.locate address = .ok q → d.node? q = some .dir →
      ¬p ++ [name] ++ [Disk.withEnding layoutFile "tmp"] <+: q →
      d'.locate address = .ok q ∧ d'.node? q = some .dir := by
    intro address q hq hnode hbelow
    have hkept := Disk.locate_replaceFile hne plainName_layoutFile plainName_temporary (by decide)
      hq hnode (fun q' hq' => hpath hq' ▸ hbelow) content
    rwa [h] at hkept
  rcases Disk.replaceFile_cases hne plainName_layoutFile plainName_temporary (by decide) content with
    ⟨e, hr⟩ | ⟨q, hq, hnode, -, ⟨e, hr⟩ | ⟨-, hr⟩⟩ <;> rw [hr] at h
  · cases h
  · cases h
  · have hfits := Disk.fits_of_replaceFile hne plainName_layoutFile hr
    obtain rfl := hpath hq
    obtain rfl := (Prod.mk.inj h).2
    obtain ⟨hfits', hdir, -⟩ := (locate_table_iff hroot hn).mp hq
    obtain ⟨hroot', hdir'⟩ := hstays hroot hdir fun hprefix =>
      Nat.not_lt.mpr hprefix.length_le (by simp)
    obtain ⟨-, htable⟩ := hstays hq hnode fun hprefix => by simpa using hprefix.length_le
    have hfile := Disk.node?_withReplaced d (p ++ [name]) layoutFile content
    rw [List.append_assoc] at hfile
    exact ⟨rfl, (read_layoutAddress_iff hroot' hn).mpr ⟨⟨hfits', hfits⟩, hdir', htable, hfile⟩,
      hstays⟩

/-- The tree `d'` is `d` with a new table. -/
structure MadeTable (f : Folder) (p : Path) (l : TableLayout) (d d' : Disk) : Prop where
  root : d'.isDir f.root = true
  valid : validName l.name = true
  limits : d'.limits = d.limits
  layout : d'.read (f.layoutAddress l.name) = .ok (Utf8.encode l.toJson.indented)
  rows : d'.locate (f.rowsAddress l.name) = .ok (p ++ [l.name, rowsDir])
  isDir : d'.node? (p ++ [l.name, rowsDir]) = some .dir
  /-- What is in the directory of the rows has been there before. -/
  left : ∀ file, d'.node? (p ++ [l.name, rowsDir, file]) = d.node? (p ++ [l.name, rowsDir, file])

theorem madeTable_of_createTable {f : Folder} {p : Path} {l : TableLayout} {d d' : Disk}
    (hroot : d.locate f.root = .ok p) (hdir : d.node? p = some .dir)
    (hcreate : f.createTable l d = (.ok (), d')) : f.MadeTable p l d d' := by
  obtain ⟨hn, d₁, hensure, hwrite⟩ := exists_steps_of_createTable hcreate
  obtain ⟨hrowsDir, hsame⟩ :=
    Disk.ensureDir_below_of_ok hroot hdir (plainName_of_validName hn) plainName_rowsDir hensure
  have hensured : Disk.ChangedAt (fun _ => False) d d₁ := by
    have hchanged := Disk.ensureDir_changedAt (f.rowsAddress l.name) d
    rwa [hensure] at hchanged
  have hkeeps := hensured.keepsDirs ⟨rfl, rfl, fun _ => id⟩ fun _ => False.elim
  have hroot₁ := hkeeps.locate hroot
  obtain ⟨q, hq, hqdir⟩ := Disk.isDir_iff.mp hrowsDir
  obtain rfl := Disk.path_of_locate_below hroot₁ (plainName_of_mem_rows hn) hq
  obtain ⟨rfl, hlayout, hstays⟩ := read_written_layout hroot₁ hn hwrite
  have htmp : Disk.withEnding layoutFile "tmp" ≠ rowsDir := by decide
  obtain ⟨hrows, hisDir⟩ := hstays hq hqdir (by simpa using htmp)
  exact {
    root := Disk.isDir_iff.mpr
      ⟨p, hstays hroot₁ (hkeeps.dirs p hdir) fun hprefix =>
        Nat.not_lt.mpr hprefix.length_le (by simp)⟩
    valid := hn
    limits := hensured.limits
    layout := hlayout
    rows := hrows
    isDir := hisDir
    left := fun file => by
      rw [Disk.node?_withReplaced_of_ne, hsame _ (by simp) (by simp)]
      simpa [Disk.Replaces] using htmp }

section

variable {f : Folder} {p : Path} {l : TableLayout} {d d' : Disk} (h : f.MadeTable p l d d')

include h

theorem MadeTable.openTable_eq : f.openTable l.name d' = .ok ⟨l.name, l⟩ :=
  openTable_eq_ok_iff.mpr ⟨h.root, h.valid, rfl, _, h.layout, ofBytes?_layout l⟩

theorem MadeTable.rowsAt_eq : f.rowsAt ⟨l.name, l⟩ d' = .ok (f.rowsAddress l.name) := by
  have hthere : hasLayout (Disk.child f.root l.name) d' = true := hasLayout_iff.mpr ⟨_, h.layout⟩
  rw [rowsAt, hthere]
  rfl

/-- A row of the new table is one that was left. -/
theorem MadeTable.readRow_eq {file : String} (hfile : Disk.PlainName file) :
    readRow d' (Disk.child (f.rowsAddress l.name) file) = f.leftRow p l.name d file := by
  have hne := Disk.ne_empty_of_locate h.rows
  rw [readRow, leftRow, Disk.read, ← h.limits]
  by_cases hfits : Disk.Fits d'.limits (f.rowsAddress l.name) file
  · rw [(Disk.locate_child_eq_ok_iff hne hfile).mpr ⟨hfits, _, h.rows, h.isDir, rfl⟩,
      hfits.address, hfits.name, List.append_assoc]
    simp only [bind, Except.bind, List.cons_append, List.nil_append, h.left, Bool.false_eq_true,
      or_self, if_false]
    cases d.node? (p ++ [l.name, rowsDir, file]) with
    | none => rfl
    | some n => cases n <;> rfl
  · have hlong : Disk.exceeds d'.limits.address (Disk.child (f.rowsAddress l.name) file) = true ∨
        Disk.exceeds d'.limits.name file = true := by
      by_contra hshort
      obtain ⟨haddress, hname⟩ := not_or.mp hshort
      exact hfits ⟨Bool.eq_false_iff.mpr haddress, Bool.eq_false_iff.mpr hname⟩
    rw [Disk.locate_child_of_not_fits h.rows h.isDir hfile hfits, if_pos hlong]
    rfl

theorem MadeTable.list_eq : d'.list (f.rowsAddress l.name) = .ok (leftFiles p l.name d) := by
  have hnames : d'.namesAt (p ++ [l.name, rowsDir]) = leftFiles p l.name d :=
    Disk.namesAt_congr fun file => by
      simpa only [List.append_assoc, List.cons_append, List.nil_append] using h.left file
  rw [Disk.list, h.rows]
  simp only [bind, Except.bind, h.isDir, hnames]

theorem MadeTable.getRow_eq (key : String) :
    f.getRow ⟨l.name, l⟩ key d' = f.leftRow p l.name d (RowFile.name key) := by
  rw [getRow, h.rowsAt_eq]
  exact h.readRow_eq (RowFile.plainName_name key)

theorem MadeTable.scan_eq (after : Option String) (limit : Nat) :
    f.scan ⟨l.name, l⟩ after limit d' =
      (((rowFiles (leftFiles p l.name d) after).take limit).mapM fun e =>
        f.leftRow p l.name d e.2).map List.reduceOption := by
  rw [scan, h.rowsAt_eq]
  simp only [bind, Except.bind, h.list_eq]
  refine readRows_eq_mapM fun e he => h.readRow_eq ?_
  obtain ⟨-, hkey, -⟩ := mem_rowFiles.mp (List.mem_of_mem_take he)
  exact RowFile.plainName_of_key? hkey

end

/-! ## When a new table is empty -/

/-- Where there is no table, whatever else there is, a table that is made opens
with its layout and has the rows of the files that were left in the directory
of its rows. So a scan finds nothing exactly if none of them is a row file,
and no row is found under a key exactly if there is room for the name of its
file and no such file was left. -/
theorem new_table_shows_leftovers {f : Folder} {l : TableLayout} {d d' : Disk}
    (hmissing : f.tableExists l.name d = .ok false) (hcreate : f.createTable l d = (.ok (), d')) :
    ∃ p, d.locate f.root = .ok p ∧ f.openTable l.name d' = .ok ⟨l.name, l⟩ ∧
      (∀ key, f.getRow ⟨l.name, l⟩ key d' = f.leftRow p l.name d (RowFile.name key)) ∧
      (∀ after limit, f.scan ⟨l.name, l⟩ after limit d' =
        (((rowFiles (leftFiles p l.name d) after).take limit).mapM fun e =>
          f.leftRow p l.name d e.2).map List.reduceOption) ∧
      (∀ limit, 0 < limit → (f.scan ⟨l.name, l⟩ none limit d' = .ok [] ↔
        ∀ file ∈ leftFiles p l.name d, RowFile.key? file = none)) ∧
      ∀ key, f.getRow ⟨l.name, l⟩ key d' = .ok none ↔
        Disk.Fits d.limits (f.rowsAddress l.name) (RowFile.name key) ∧
          RowFile.name key ∉ leftFiles p l.name d := by
  have hroot : d.isDir f.root = true := by
    rw [tableExists, tableDir] at hmissing
    split at hmissing
    · assumption
    · cases hmissing
  obtain ⟨p, hp, hdir⟩ := Disk.isDir_iff.mp hroot
  have hmade := madeTable_of_createTable hp hdir hcreate
  refine ⟨p, hp, hmade.openTable_eq, hmade.getRow_eq, hmade.scan_eq, fun limit hlimit => ?_,
    fun key => by rw [hmade.getRow_eq, leftRow_eq_none_iff]⟩
  have hleft : ∀ e ∈ (rowFiles (leftFiles p l.name d) none).take limit,
      f.leftRow p l.name d e.2 ≠ .ok none := by
    intro e he hnone
    obtain ⟨hfile, -, -⟩ := mem_rowFiles.mp (List.mem_of_mem_take he)
    exact (leftRow_eq_none_iff.mp hnone).2 hfile
  rw [hmade.scan_eq, mapM_read_eq_nil_iff hleft, List.take_eq_nil_iff,
    or_iff_right hlimit.ne', rowFiles_eq_nil_iff]

/-- A table with one row, of which a removal that failed has taken nothing but
the layout file. -/
def halfDeleted : Disk :=
  (putRow ⟨"/"⟩ ⟨"t", ⟨"t", ["info"], ""⟩⟩ "a" [⟨"info", "v", [1]⟩] newTable).2.prune
    ["t", layoutFile]

/-- What is left of it in a new table is the row of its key. -/
theorem new_table_over_half_deleted :
    ∃ d', createTable ⟨"/"⟩ ⟨"t", ["info"], ""⟩ halfDeleted = (.ok (), d') ∧
      openTable ⟨"/"⟩ "t" d' = .ok ⟨"t", ⟨"t", ["info"], ""⟩⟩ ∧
      ∀ key, getRow ⟨"/"⟩ ⟨"t", ⟨"t", ["info"], ""⟩⟩ key d' = .ok none ↔ key ≠ "a" := by
  have hcreate : createTable ⟨"/"⟩ ⟨"t", ["info"], ""⟩ halfDeleted =
      (.ok (), (createTable ⟨"/"⟩ ⟨"t", ["info"], ""⟩ halfDeleted).2) :=
    Prod.ext (by decide +kernel) rfl
  obtain ⟨p, hp, hopen, -, -, -, hnone⟩ := new_table_shows_leftovers (by decide +kernel) hcreate
  have hroot : halfDeleted.locate "/" = .ok [] := by decide +kernel
  obtain rfl := Except.ok.inj (hp.symm.trans hroot)
  have hleft : leftFiles [] "t" halfDeleted = [RowFile.name "a"] := by decide +kernel
  have hlimits : halfDeleted.Unlimited := ⟨by decide +kernel, by decide +kernel⟩
  refine ⟨_, hcreate, hopen, fun key => ?_⟩
  have hname : RowFile.name key = RowFile.name "a" ↔ key = "a" :=
    ⟨RowFile.name_injective, congrArg RowFile.name⟩
  rw [hnone, hleft, List.mem_singleton, hname]
  exact and_iff_right (hlimits.fits ..)

/-- The table was not there, it is new, and it has a row. -/
theorem row_of_half_deleted_table :
    tableExists ⟨"/"⟩ "t" halfDeleted = .ok false ∧
      ∃ d', createTable ⟨"/"⟩ ⟨"t", ["info"], ""⟩ halfDeleted = (.ok (), d') ∧
        getRow ⟨"/"⟩ ⟨"t", ⟨"t", ["info"], ""⟩⟩ "a" d' =
          .ok (some ((Row.empty "a").apply [⟨"info", "v", [1]⟩])) ∧
        scan ⟨"/"⟩ ⟨"t", ⟨"t", ["info"], ""⟩⟩ none 10 d' =
          .ok [(Row.empty "a").apply [⟨"info", "v", [1]⟩]] :=
  ⟨by decide +kernel, _, Prod.ext (by decide +kernel) rfl, by decide +kernel, by decide +kernel⟩

end JobLedger.Folder
