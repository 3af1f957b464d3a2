import JobLedger.Proofs.Storage.Mirror

/-!
# When a folder finds what it looks for

A table is opened and a row is found exactly if their files can be read
(`openTable_eq_ok_iff`, `getRow_eq_some_iff`), and a file below the root can
be read exactly if every directory on the way is there and no address on the
way is too long (`read_layoutAddress_iff`, `read_rowAddress_iff`). Nothing is
asked of the rest of the tree or of its limits.
-/

namespace JobLedger.Folder

/-- The address of the layout file of a table. -/
def layoutAddress (f : Folder) (name : String) : String :=
  Disk.child (Disk.child f.root name) layoutFile

/-- The address of the directory of the rows of a table. -/
def rowsAddress (f : Folder) (name : String) : String :=
  Disk.child (Disk.child f.root name) rowsDir

/-- The address of the file of a row. -/
def rowAddress (f : Folder) (name key : String) : String :=
  Disk.child (f.rowsAddress name) (RowFile.name key)

theorem layoutAddress_eq_below (f : Folder) (name : String) :
    f.layoutAddress name = Disk.below f.root [name, layoutFile] := rfl

theorem rowsAddress_eq_below (f : Folder) (name : String) :
    f.rowsAddress name = Disk.below f.root [name, rowsDir] := rfl

theorem child_rowsAddress (f : Folder) (name file : String) :
    Disk.child (f.rowsAddress name) file = Disk.below f.root [name, rowsDir, file] := rfl

variable {f : Folder} {d : Disk} {name key : String}

theorem plainName_of_mem_layout (hn : validName name = true) :
    ∀ n ∈ [name, layoutFile], Disk.PlainName n := by
  simp [plainName_of_validName hn, plainName_layoutFile]

theorem plainName_of_mem_rows (hn : validName name = true) :
    ∀ n ∈ [name, rowsDir], Disk.PlainName n := by
  simp [plainName_of_validName hn, plainName_rowsDir]

theorem plainName_of_mem_row (hn : validName name = true) {file : String}
    (hfile : Disk.PlainName file) : ∀ n ∈ [name, rowsDir, file], Disk.PlainName n := by
  simp [plainName_of_validName hn, plainName_rowsDir, hfile]

theorem hasLayout_iff :
    hasLayout (Disk.child f.root name) d = true ↔
      ∃ content, d.read (f.layoutAddress name) = .ok content := Disk.isFile_iff

theorem openTable_eq_ok_iff {h : TableHandle} :
    f.openTable name d = .ok h ↔ d.isDir f.root = true ∧ validName name = true ∧ h.name = name ∧
      ∃ content, d.read (f.layoutAddress name) = .ok content ∧
        (Json.ofBytes? content).bind TableLayout.ofJson? = some h.layout := by
  rw [openTable, tableDir]
  cases d.isDir f.root with
  | false => simp [bind, Except.bind]
  | true =>
      cases validName name with
      | false => simp [bind, Except.bind]
      | true =>
          simp only [if_true, bind, Except.bind, true_and]
          show (if d.isFile (f.layoutAddress name) = true then _ else _) = _ ↔ _
          cases hread : d.read (f.layoutAddress name) with
          | error e =>
              have hfile : d.isFile (f.layoutAddress name) = false := by
                rw [← Bool.not_eq_true, Disk.isFile_iff, hread]
                simp
              simp [hfile]
          | ok content =>
              rw [if_pos (Disk.isFile_iff.mpr ⟨content, hread⟩)]
              have hread' : d.read (Disk.child (Disk.child f.root name) layoutFile) = .ok content :=
                hread
              simp only [hread']
              obtain ⟨hname, layout⟩ := h
              cases hlayout : (Json.ofBytes? content).bind TableLayout.ofJson? with
              | none => simp [hlayout]
              | some l => simp [hlayout, @eq_comm _ name]

theorem readRow_eq_some_iff {file : String} {r : Row} :
    readRow d file = .ok (some r) ↔
      ∃ content, d.read file = .ok content ∧ RowFile.decode content = .ok r := by
  rw [readRow]
  cases d.read file with
  | error e => cases e <;> simp
  | ok content => cases hdecode : RowFile.decode content <;> simp [hdecode]

theorem getRow_eq_some_iff {h : TableHandle} {r : Row} :
    f.getRow h key d = .ok (some r) ↔ hasLayout (Disk.child f.root h.name) d = true ∧
      ∃ content, d.read (f.rowAddress h.name key) = .ok content ∧
        RowFile.decode content = .ok r := by
  rw [getRow, rowsAt]
  cases hasLayout (Disk.child f.root h.name) d with
  | false => simp [bind, Except.bind]
  | true =>
      simp only [if_true, bind, Except.bind, true_and]
      exact readRow_eq_some_iff

/-- A write starts from the row that is there. -/
theorem rowToWrite_eq_ok_iff {h : TableHandle} {cells : List Cell} {rows : String} {r : Row} :
    f.rowToWrite h key cells d = .ok (rows, r) ↔ h.layout.checkCells cells = .ok () ∧
      hasLayout (Disk.child f.root h.name) d = true ∧
      rows = f.rowsAddress h.name ∧
      ∃ row?, readRow d (f.rowAddress h.name key) = .ok row? ∧
        r = (row?.getD (.empty key)).apply cells := by
  rw [rowToWrite, rowsAt]
  cases h.layout.checkCells cells with
  | error e => simp [bind, Except.bind]
  | ok u =>
      cases hasLayout (Disk.child f.root h.name) d with
      | false => simp [bind, Except.bind]
      | true =>
          simp only [if_true, bind, Except.bind, true_and]
          rw [← rowsAddress, ← rowAddress]
          cases readRow d (f.rowAddress h.name key) with
          | error e => simp
          | ok row? => simp [pure, Except.pure, eq_comm]

/-- Writing a row replaces its file. -/
theorem putRow_of_rowToWrite {h : TableHandle} {cells : List Cell} {rows : String} {r : Row}
    (hwrite : f.rowToWrite h key cells d = .ok (rows, r)) :
    f.putRow h key cells d =
      ((d.replaceFile rows (RowFile.name key) (RowFile.content r)).1.mapError fun e =>
        .io (.disk e), (d.replaceFile rows (RowFile.name key) (RowFile.content r)).2) := by
  rw [putRow, hwrite]
  rfl

section Located

variable {p : Path} (hroot : d.locate f.root = .ok p) (hn : validName name = true)

include hroot hn

theorem locate_table_iff {q : Path} :
    d.locate (Disk.child f.root name) = .ok q ↔
      Disk.Fits d.limits f.root name ∧ d.node? p = some .dir ∧ q = p ++ [name] := by
  rw [Disk.locate_child_eq_ok_iff (Disk.ne_empty_of_locate hroot) (plainName_of_validName hn),
    hroot]
  simp

theorem read_layoutAddress_iff {content : Bytes} :
    d.read (f.layoutAddress name) = .ok content ↔
      (Disk.Fits d.limits f.root name ∧ Disk.Fits d.limits (Disk.child f.root name) layoutFile) ∧
      d.node? p = some .dir ∧ d.node? (p ++ [name]) = some .dir ∧
      d.node? (p ++ [name, layoutFile]) = some (.file content) := by
  have hne := Disk.child_ne_empty (Disk.ne_empty_of_locate hroot) name
  simp only [layoutAddress, Disk.read_eq_ok_iff,
    Disk.locate_child_eq_ok_iff hne plainName_layoutFile, locate_table_iff hroot hn]
  constructor
  · rintro ⟨_, ⟨hlayout, _, ⟨hname, hdir, rfl⟩, htable, rfl⟩, hfile⟩
    rw [List.append_assoc] at hfile
    exact ⟨⟨hname, hlayout⟩, hdir, htable, hfile⟩
  · rintro ⟨⟨hname, hlayout⟩, hdir, htable, hfile⟩
    refine ⟨_, ⟨hlayout, _, ⟨hname, hdir, rfl⟩, htable, rfl⟩, ?_⟩
    rwa [List.append_assoc]

theorem read_rowAddress_iff {content : Bytes} :
    d.read (f.rowAddress name key) = .ok content ↔
      (Disk.Fits d.limits f.root name ∧ Disk.Fits d.limits (Disk.child f.root name) rowsDir ∧
        Disk.Fits d.limits (f.rowsAddress name) (RowFile.name key)) ∧
      d.node? p = some .dir ∧ d.node? (p ++ [name]) = some .dir ∧
      d.node? (p ++ [name, rowsDir]) = some .dir ∧
      d.node? (p ++ [name, rowsDir, RowFile.name key]) = some (.file content) := by
  have hne := Disk.child_ne_empty (Disk.ne_empty_of_locate hroot) name
  simp only [rowAddress, rowsAddress, Disk.read_eq_ok_iff,
    Disk.locate_child_eq_ok_iff (Disk.child_ne_empty hne rowsDir) (RowFile.plainName_name key),
    Disk.locate_child_eq_ok_iff hne plainName_rowsDir, locate_table_iff hroot hn]
  constructor
  · rintro ⟨_, ⟨hrow, _, ⟨hrows, _, ⟨hname, hdir, rfl⟩, htable, rfl⟩, hrowsDir, rfl⟩, hfile⟩
    simp only [List.append_assoc, List.cons_append, List.nil_append] at hrowsDir hfile
    exact ⟨⟨hname, hrows, hrow⟩, hdir, htable, hrowsDir, hfile⟩
  · rintro ⟨⟨hname, hrows, hrow⟩, hdir, htable, hrowsDir, hfile⟩
    refine ⟨_, ⟨hrow, _, ⟨hrows, _, ⟨hname, hdir, rfl⟩, htable, rfl⟩, ?_, rfl⟩, ?_⟩ <;>
      simpa only [List.append_assoc, List.cons_append, List.nil_append]

end Located

end JobLedger.Folder
