import JobLedger.Proofs.Disk.Change
import JobLedger.Proofs.Storage.Lookup

/-!
# What the operations of a folder change

Making a table, deleting one and writing a row, each also if it fails half
way on a tree with little room: which paths it may touch, and what is known
of the tree at the time.
-/

namespace JobLedger.Folder

variable {d : Disk} {p : Path} {f : Folder} (hroot : d.locate f.root = .ok p)

include hroot

/-- Making a table touches its layout file and the temporary file of that
one. -/
theorem createTable_cases (l : TableLayout) :
    (f.createTable l d).2 = d ∨
      validName l.name = true ∧ hasLayout (Disk.child f.root l.name) d = false ∧
        (Disk.ChangedAt (p ++ [l.name] ++ [Disk.withEnding layoutFile "tmp"] <+: ·) d
            (f.createTable l d).2 ∨
          Disk.ChangedAt (Disk.Replaces (p ++ [l.name]) layoutFile) d (f.createTable l d).2 ∧
            (f.createTable l d).2.node? (p ++ [l.name]) = some .dir) := by
  rw [createTable, tableDir]
  split
  · exact .inl rfl
  next dir h =>
  split at h
  case isFalse => cases h
  split at h
  case isFalse => cases h
  next hn =>
  obtain rfl := Except.ok.inj h
  split
  · exact .inl rfl
  next hmissing =>
  refine .inr ⟨hn, Bool.eq_false_iff.mpr hmissing, ?_⟩
  -- Making the directories adds directories only; the layout file is written behind that.
  have hensured := Disk.ensureDir_changedAt (Disk.child (Disk.child f.root l.name) rowsDir) d
  cases hr : d.ensureDir (Disk.child (Disk.child f.root l.name) rowsDir) with
  | mk result d' =>
  rw [hr] at hensured
  cases result with
  | error e => exact .inl (hensured.mono fun _ => False.elim)
  | ok u =>
      have hroot' := (hensured.keepsDirs ⟨rfl, rfl, fun _ => id⟩ fun _ => False.elim).locate hroot
      rcases Disk.replaceFile_cases (d := d')
        (Disk.child_ne_empty (Disk.ne_empty_of_locate hroot) l.name) plainName_layoutFile
        plainName_temporary (by decide) (Utf8.encode l.toJson.indented) with
        ⟨e, hr⟩ | ⟨q, hq, hnode, -, hr⟩
      · refine .inl ?_
        simp only [ofDisk, Except.mapError, hr]
        exact hensured.mono fun _ => False.elim
      · obtain ⟨-, -, rfl⟩ := (locate_table_iff hroot' hn).mp hq
        rcases hr with ⟨e, hr⟩ | ⟨-, hr⟩ <;> simp only [ofDisk, Except.mapError, hr]
        · exact .inl ((hensured.mono fun _ => False.elim).trans
            (Disk.withTemporary_changedAt ..))
        · have hwritten := Disk.withReplaced_changedAt d' (p ++ [l.name]) layoutFile
            (Utf8.encode l.toJson.indented)
          refine .inr ⟨(hensured.mono fun _ => False.elim).trans hwritten, ?_⟩
          refine hwritten.dir ?_ hnode
          simp [Disk.Replaces]

theorem deleteTable_cases (name : String) :
    (f.deleteTable name d).2 = d ∨ (f.deleteTable name d).2 = d.prune (p ++ [name]) := by
  rw [deleteTable, tableDir]
  split
  · next h => exact .inl (by simp)
  · next dir h =>
    split at h
    · split at h
      · next hn =>
        obtain rfl := Except.ok.inj h
        split
        · rw [Disk.removeDir]
          cases hq : d.locate (Disk.child f.root name) with
          | error e => exact .inl rfl
          | ok q =>
              obtain ⟨-, -, rfl⟩ := (locate_table_iff hroot hn).mp hq
              simp only [bind, Except.bind]
              cases d.node? (p ++ [name]) with
              | none => exact .inl rfl
              | some n =>
                  cases n with
                  | file content => exact .inl rfl
                  | dir => exact .inr rfl
        · exact .inl rfl
      · cases h
    · cases h

theorem putRow_cases {h : TableHandle} (hn : validName h.name = true) (key : String)
    (cells : List Cell) :
    (∃ e, f.putRow h key cells d = (.error e, d)) ∨
      ∃ row?, h.layout.checkCells cells = .ok () ∧
        hasLayout (Disk.child f.root h.name) d = true ∧
        readRow d (f.rowAddress h.name key) = .ok row? ∧
        d.node? (p ++ [h.name, rowsDir]) = some .dir ∧
        ((∃ e, f.putRow h key cells d = (.error e, d.withTemporary (p ++ [h.name, rowsDir])
            (RowFile.name key) (RowFile.content ((row?.getD (.empty key)).apply cells)))) ∨
          f.putRow h key cells d = (.ok (), d.withReplaced (p ++ [h.name, rowsDir])
            (RowFile.name key) (RowFile.content ((row?.getD (.empty key)).apply cells)))) := by
  cases hwrite : f.rowToWrite h key cells d with
  | error e => exact .inl ⟨e, by rw [putRow, hwrite]⟩
  | ok w =>
      obtain ⟨rows, r⟩ := w
      obtain ⟨hcheck, htable, rfl, row?, hrow, rfl⟩ := rowToWrite_eq_ok_iff.mp hwrite
      rw [putRow_of_rowToWrite hwrite]
      have hne := Disk.child_ne_empty (Disk.ne_empty_of_locate hroot) h.name
      have hne' : f.rowsAddress h.name ≠ "" := Disk.child_ne_empty hne rowsDir
      rcases Disk.replaceFile_cases (d := d) hne' (RowFile.plainName_name key)
        (RowFile.plainName_temporary key) (RowFile.temporary_ne_name key key)
        (RowFile.content ((row?.getD (.empty key)).apply cells)) with
        ⟨e, hr⟩ | ⟨q, hq, hnode, -, hr⟩
      · exact .inl ⟨.io (.disk e), by rw [hr]; rfl⟩
      · obtain ⟨-, _, hq', -, rfl⟩ := (Disk.locate_child_eq_ok_iff hne plainName_rowsDir).mp hq
        obtain ⟨-, -, rfl⟩ := (locate_table_iff hroot hn).mp hq'
        rw [List.append_assoc] at hnode hr
        refine .inr ⟨row?, hcheck, htable, hrow, hnode, ?_⟩
        rcases hr with ⟨e, hr⟩ | ⟨-, hr⟩
        · exact .inl ⟨.io (.disk e), by rw [hr]; rfl⟩
        · exact .inr (by rw [hr]; rfl)

end JobLedger.Folder
