import JobLedger.Proofs.Storage.Changes
import JobLedger.Proofs.Storage.FamilyTrace

/-!
# Which families the rows of a table have

A row may have a family that its table does not declare, if it was written
through a handle that is older than the table
(`undeclared_family_of_stale_handle`), and that is the only way:
`families_of_stored_rows` traces each family of each row to a write under
its key, through a handle of the table that declares the family, at a time
when the table had its layout already.

In a directory the invariant is `Folder.Sound`: a row file has the layout
file of its table beside it, so a table that is made anew starts without
rows, whatever an earlier attempt has left behind.
-/

namespace JobLedger

/-! ## Tables in a directory -/

namespace Folder

/-- Below the root at `p`, every layout file stands in a directory, and every
row file in the directory of the rows of a table. The directories that lead
to the root in `d₀` are still there. -/
structure Sound (d₀ : Disk) (p : Path) (f : Folder) (d : Disk) : Prop where
  keeps : Disk.KeepsDirs d₀ d
  layouts : ∀ n content, d.node? (p ++ [n, layoutFile]) = some (.file content) →
    d.node? (p ++ [n]) = some .dir
  rows : ∀ n key content, validName n = true →
    d.node? (p ++ [n, rowsDir, RowFile.name key]) = some (.file content) →
    d.node? (p ++ [n, rowsDir]) = some .dir ∧ hasLayout (Disk.child f.root n) d = true

/-- A stored row is in its file, and the table has its layout file. -/
theorem files_of_storedRow {f : Folder} {d : Disk} {p : Path} (hroot : d.locate f.root = .ok p)
    {h : TableHandle} {key : String} {r : Row} (hr : StoredRow f d h key r) :
    (∃ content, d.node? (p ++ [h.name, layoutFile]) = some (.file content)) ∧
      ∃ content, d.node? (p ++ [h.name, rowsDir, RowFile.name key]) = some (.file content) ∧
        RowFile.decode content = .ok r := by
  obtain ⟨-, hn, -, content, hread, -⟩ := openTable_eq_ok_iff.mp hr.current
  obtain ⟨-, content', hread', hdecode⟩ := getRow_eq_some_iff.mp hr.row
  exact ⟨⟨content, ((read_layoutAddress_iff hroot hn).mp hread).2.2.2⟩, content',
    ((read_rowAddress_iff hroot hn).mp hread').2.2.2.2, hdecode⟩

section

variable {d₀ d d' : Disk} {p : Path} {f : Folder} (hroot : d₀.locate f.root = .ok p)
  (hdir : d₀.node? p = some .dir) (hempty : ∀ q ≠ [], d₀.node? (p ++ q) = none)
  (hs : Sound d₀ p f d) {P : Path → Prop} (hc : Disk.ChangedAt P d d')

include hroot hdir hs hc

/-- A table is still there if its layout file is. -/
theorem Sound.hasLayout_of_changedAt (hk : Disk.KeepsDirs d₀ d') {n : String}
    (hn : validName n = true) (htable : ¬P (p ++ [n])) (hlayout : ¬P (p ++ [n, layoutFile]))
    (h : hasLayout (Disk.child f.root n) d = true) :
    hasLayout (Disk.child f.root n) d' = true := by
  obtain ⟨content, hread⟩ := hasLayout_iff.mp h
  obtain ⟨hfits, -, htable', hfile⟩ :=
    (read_layoutAddress_iff (hs.keeps.locate hroot) hn).mp hread
  refine hasLayout_iff.mpr ⟨content, (read_layoutAddress_iff (hk.locate hroot) hn).mpr ?_⟩
  exact ⟨hc.limits ▸ hfits, hk.dirs p hdir, hc.dir htable htable', (hc.file_iff hlayout).mpr hfile⟩

/-- A table that opens did so before if its layout file was not touched. -/
theorem Sound.openTable_of_changedAt (hk : Disk.KeepsDirs d₀ d') {n : String} {h : TableHandle}
    (hlayout : ¬P (p ++ [n, layoutFile])) (hopen : f.openTable n d' = .ok h) :
    f.openTable n d = .ok h := by
  obtain ⟨-, hn, rfl, content, hread, hparse⟩ := openTable_eq_ok_iff.mp hopen
  obtain ⟨hfits, -, -, hfile⟩ := (read_layoutAddress_iff (hk.locate hroot) hn).mp hread
  rw [hc.file_iff hlayout] at hfile
  have hroot' := hs.keeps.locate hroot
  have hdir' := hs.keeps.dirs p hdir
  refine openTable_eq_ok_iff.mpr ⟨?_, hn, rfl, content, ?_, hparse⟩
  · simp [Disk.isDir, Disk.find?, hroot', hdir']
  · exact (read_layoutAddress_iff hroot' hn).mpr
      ⟨hc.limits ▸ hfits, hdir', hs.layouts h.name content hfile, hfile⟩

/-- A row that is stored was stored before if neither its file nor the layout
file was touched. -/
theorem Sound.storedRow_of_changedAt (hk : Disk.KeepsDirs d₀ d') {h : TableHandle} {key : String}
    {r : Row} (hlayout : ¬P (p ++ [h.name, layoutFile]))
    (hrow : ¬P (p ++ [h.name, rowsDir, RowFile.name key])) (hr : StoredRow f d' h key r) :
    StoredRow f d h key r := by
  obtain ⟨-, hn, -⟩ := openTable_eq_ok_iff.mp hr.current
  obtain ⟨-, content, hread, hdecode⟩ := getRow_eq_some_iff.mp hr.row
  obtain ⟨hfits, -, -, -, hfile⟩ := (read_rowAddress_iff (hk.locate hroot) hn).mp hread
  rw [hc.file_iff hrow] at hfile
  obtain ⟨hrowsDir, htable⟩ := hs.rows h.name key content hn hfile
  have hroot' := hs.keeps.locate hroot
  obtain ⟨content', hread'⟩ := hasLayout_iff.mp htable
  obtain ⟨-, hdir', htable', -⟩ := (read_layoutAddress_iff hroot' hn).mp hread'
  refine ⟨hs.openTable_of_changedAt hroot hdir hc hk hlayout hr.current,
    getRow_eq_some_iff.mpr ⟨htable, content, ?_, hdecode⟩⟩
  exact (read_rowAddress_iff hroot' hn).mpr ⟨hc.limits ▸ hfits, hdir', htable', hrowsDir, hfile⟩

/-- A change to one table leaves the others as they are. -/
theorem Sound.of_changedAt (hk : Disk.KeepsDirs d₀ d') {n : String}
    (hP : ∀ q, P q → p ++ [n] <+: q)
    (hlayout : ∀ content, d'.node? (p ++ [n, layoutFile]) = some (.file content) →
      d'.node? (p ++ [n]) = some .dir)
    (hrows : ∀ key content, validName n = true →
      d'.node? (p ++ [n, rowsDir, RowFile.name key]) = some (.file content) →
      d'.node? (p ++ [n, rowsDir]) = some .dir ∧ hasLayout (Disk.child f.root n) d' = true) :
    Sound d₀ p f d' := by
  have hother : ∀ n' q, n' ≠ n → ¬P (p ++ n' :: q) := by
    intro n' q hne hq
    have hprefix := hP _ hq
    rw [List.prefix_append_right_inj] at hprefix
    exact hne (List.cons_prefix_cons.mp hprefix).1.symm
  refine ⟨hk, fun n' content hfile => ?_, fun n' key content hn hfile => ?_⟩
  · by_cases hne : n' = n
    · exact hne ▸ hlayout content (hne ▸ hfile)
    · rw [hc.file_iff (hother n' _ hne)] at hfile
      exact hc.dir (hother n' _ hne) (hs.layouts n' content hfile)
  · by_cases hne : n' = n
    · subst hne
      exact hrows key content hn hfile
    · rw [hc.file_iff (hother n' _ hne)] at hfile
      obtain ⟨hrowsDir, htable⟩ := hs.rows n' key content hn hfile
      exact ⟨hc.dir (hother n' _ hne) hrowsDir,
        hs.hasLayout_of_changedAt hroot hdir hc hk hn (hother n' _ hne) (hother n' _ hne) htable⟩

end

/-! ## Steps -/

section

variable {d₀ d : Disk} {p : Path} {f : Folder} (hempty : ∀ q ≠ [], d₀.node? (p ++ q) = none)
  (hs : Sound d₀ p f d)

include hempty hs

/-- A change below the root leaves the way to the root alone. -/
theorem Sound.keepsDirs_of_changedAt {P : Path → Prop} {d' : Disk} (hc : Disk.ChangedAt P d d')
    {n : String} (hP : ∀ q, P q → p ++ [n] <+: q) : Disk.KeepsDirs d₀ d' := by
  refine hc.keepsDirs hs.keeps fun q hq hnode => ?_
  obtain ⟨q', rfl⟩ := hP q hq
  rw [List.append_assoc, hempty _ (by simp)] at hnode
  cases hnode

variable (hroot : d₀.locate f.root = .ok p) (hdir : d₀.node? p = some .dir)

include hroot hdir

theorem Sound.createTable (l : TableLayout) :
    Sound d₀ p f (f.createTable l d).2 ∧
      ∀ {h key r}, StoredRow f (f.createTable l d).2 h key r → StoredRow f d h key r := by
  rcases createTable_cases (hs.keeps.locate hroot) l with h | ⟨hn, hmissing, hchanged⟩
  · rw [h]
    exact ⟨hs, id⟩
  · have hc : Disk.ChangedAt (Disk.Replaces (p ++ [l.name]) layoutFile) d (f.createTable l d).2 :=
      hchanged.elim (fun h => h.mono fun _ => .inr) And.left
    have hP : ∀ q, Disk.Replaces (p ++ [l.name]) layoutFile q → p ++ [l.name] <+: q := by
      rintro q (rfl | hq)
      · exact List.prefix_append ..
      · exact (List.prefix_append ..).trans hq
    have hk := hs.keepsDirs_of_changedAt hempty hc hP
    have hrow : ∀ n key, ¬Disk.Replaces (p ++ [l.name]) layoutFile
        (p ++ [n, rowsDir, RowFile.name key]) := by
      intro n key
      have hne : Disk.withEnding layoutFile "tmp" ≠ rowsDir := by decide
      simp [Disk.Replaces, hne]
    -- A table without a layout has no row files, before and after.
    have hnew : ∀ key content,
        (f.createTable l d).2.node? (p ++ [l.name, rowsDir, RowFile.name key])
          ≠ some (.file content) := by
      intro key content hfile
      rw [hc.file_iff (hrow _ _)] at hfile
      exact absurd (hs.rows l.name key content hn hfile).2 (by rw [hmissing]; simp)
    refine ⟨hs.of_changedAt hroot hdir hc hk hP (fun content hfile => ?_)
      fun key content _ hfile => absurd hfile (hnew key content), fun {h key r} hr => ?_⟩
    · rcases hchanged with htemporary | ⟨-, htable⟩
      · rw [htemporary.file_iff (by simp; decide)] at hfile
        exact htemporary.dir (by simp) (hs.layouts l.name content hfile)
      · exact htable
    · have hname : h.name ≠ l.name := by
        intro hname
        obtain ⟨-, content, hfile, -⟩ := files_of_storedRow (hk.locate hroot) hr
        exact hnew key content (hname ▸ hfile)
      refine hs.storedRow_of_changedAt hroot hdir hc hk ?_ (hrow _ _) hr
      simp [Disk.Replaces, hname, Ne.symm hname]

theorem Sound.deleteTable (name : String) :
    Sound d₀ p f (f.deleteTable name d).2 ∧
      ∀ {h key r}, StoredRow f (f.deleteTable name d).2 h key r → StoredRow f d h key r := by
  rcases deleteTable_cases (hs.keeps.locate hroot) name with h | h <;> rw [h]
  · exact ⟨hs, id⟩
  · have hc := d.prune_changedAt (p := p ++ [name]) (by simp)
    have hk := hs.keepsDirs_of_changedAt hempty hc fun _ => id
    have hgone : ∀ q, (d.prune (p ++ [name])).node? (p ++ name :: q) = none := by
      intro q
      rw [Disk.node?_prune d (by simp), if_pos (by simp)]
    refine ⟨hs.of_changedAt hroot hdir hc hk (fun _ => id) (fun content hfile => ?_)
      (fun key content _ hfile => ?_), fun {h key r} hr => ?_⟩
    · exact nomatch (hgone _).symm.trans hfile
    · exact nomatch (hgone _).symm.trans hfile
    · have hname : h.name ≠ name := by
        rintro rfl
        obtain ⟨⟨content, hfile⟩, -⟩ := files_of_storedRow (hk.locate hroot) hr
        exact nomatch (hgone _).symm.trans hfile
      refine hs.storedRow_of_changedAt hroot hdir hc hk ?_ ?_ hr <;> simp [Ne.symm hname]

theorem Sound.putRow {th : TableHandle} (hn : validName th.name = true) (key : String)
    (cells : List Cell) :
    Sound d₀ p f (f.putRow th key cells d).2 ∧
      ∀ {h key' r family}, StoredRow f (f.putRow th key cells d).2 h key' r →
        r.cells.contains family = true →
        (∃ r₀, StoredRow f d h key' r₀ ∧ r₀.cells.contains family = true) ∨
          f.openTable th.name d = .ok h ∧
            SeenWrite.Brings ⟨th, h, key, cells, (f.putRow th key cells d).1⟩ h key' family := by
  rcases putRow_cases (hs.keeps.locate hroot) hn key cells with
    ⟨e, h⟩ | ⟨row?, hcheck, htable, hrow, hnode, hwritten⟩
  · rw [h]
    exact ⟨hs, fun hr hf => .inl ⟨_, hr, hf⟩⟩
  · have hP : ∀ q, Disk.Replaces (p ++ [th.name, rowsDir]) (RowFile.name key) q →
        p ++ [th.name] <+: q := by
      rintro q (rfl | ⟨q', rfl⟩) <;> simp
    have hlayout : ∀ n, ¬Disk.Replaces (p ++ [th.name, rowsDir]) (RowFile.name key)
        (p ++ [n, layoutFile]) := by
      intro n
      simp [Disk.Replaces]
    have hsound : ∀ {d'}, Disk.ChangedAt (Disk.Replaces (p ++ [th.name, rowsDir])
        (RowFile.name key)) d d' → Disk.KeepsDirs d₀ d' ∧ Sound d₀ p f d' := by
      intro d' hc
      have hk := hs.keepsDirs_of_changedAt hempty hc hP
      have htable' : ¬Disk.Replaces (p ++ [th.name, rowsDir]) (RowFile.name key)
          (p ++ [th.name]) := by simp [Disk.Replaces]
      refine ⟨hk, hs.of_changedAt hroot hdir hc hk hP (fun content hfile => ?_)
        fun _ _ _ _ => ⟨hc.dir (by simp [Disk.Replaces]) hnode,
          hs.hasLayout_of_changedAt hroot hdir hc hk hn htable' (hlayout _) htable⟩⟩
      rw [hc.file_iff (hlayout _)] at hfile
      exact hc.dir htable' (hs.layouts th.name content hfile)
    rcases hwritten with ⟨e, hput⟩ | hput <;> rw [hput]
    · have hc := Disk.withTemporary_changedAt d (p ++ [th.name, rowsDir]) (RowFile.name key)
        (RowFile.content ((row?.getD (.empty key)).apply cells))
      obtain ⟨hk, hsound'⟩ := hsound (hc.mono fun _ => .inr)
      refine ⟨hsound', fun {h key' r family} hr hf => .inl ⟨r, ?_, hf⟩⟩
      refine hs.storedRow_of_changedAt hroot hdir hc hk (by simp) ?_ hr
      simp [RowFile.temporary_ne_name key key']
    · have hc := Disk.withReplaced_changedAt d (p ++ [th.name, rowsDir]) (RowFile.name key)
        (RowFile.content ((row?.getD (.empty key)).apply cells))
      obtain ⟨hk, hsound'⟩ := hsound hc
      refine ⟨hsound', fun {h key' r family} hr hf => ?_⟩
      by_cases hsame : h.name = th.name ∧ key' = key
      · obtain ⟨hname, rfl⟩ := hsame
        have hopen := hs.openTable_of_changedAt hroot hdir hc hk (hlayout h.name) hr.current
        obtain ⟨-, content, hfile, hdecode⟩ := files_of_storedRow (hk.locate hroot) hr
        have hnew := Disk.node?_withReplaced d (p ++ [th.name, rowsDir]) (RowFile.name key')
          (RowFile.content ((row?.getD (.empty key')).apply cells))
        rw [List.append_assoc] at hnew
        rw [hname] at hfile
        cases hfile.symm.trans hnew
        rw [RowFile.decode_content] at hdecode
        rw [← Except.ok.inj hdecode] at hf
        rcases Row.contains_getD_apply hf with ⟨r₀, rfl, hold⟩ | ⟨c, hc, hfamily⟩
        · refine .inl ⟨r₀, ⟨hopen, getRow_eq_some_iff.mpr ?_⟩, hold⟩
          rw [hname]
          exact ⟨htable, readRow_eq_some_iff.mp hrow⟩
        · exact .inr ⟨hname ▸ hopen, rfl, rfl, rfl, hname.symm,
            hasFamily_of_checkCells hcheck hc hfamily, c, hc, hfamily⟩
      · refine .inl ⟨r, hs.storedRow_of_changedAt hroot hdir hc hk (hlayout _) ?_ hr, hf⟩
        rintro (heq | htemporary)
        · rw [List.append_assoc, List.append_cancel_left_eq] at heq
          simp only [List.cons_append, List.nil_append, List.cons.injEq, and_true] at heq
          exact hsame ⟨heq.1, RowFile.name_injective heq.2.2⟩
        · simp [RowFile.temporary_ne_name key key'] at htemporary

end

theorem tracesFamilies {d₀ : Disk} {p : Path} {f : Folder} (hroot : d₀.locate f.root = .ok p)
    (hdir : d₀.node? p = some .dir) (hempty : ∀ q ≠ [], d₀.node? (p ++ q) = none) :
    TracesFamilies f (Sound d₀ p f) fun h => validName h.name = true where
  opened := fun _ hopen => by
    obtain ⟨-, hn, hname, -⟩ := openTable_eq_ok_iff.mp hopen
    rw [hname, hn]
  create := fun l hs => hs.createTable hempty hroot hdir l
  delete := fun name hs => hs.deleteTable hempty hroot hdir name
  put := fun key cells hs hn => hs.putRow hempty hroot hdir hn key cells

theorem sound_of_empty {d : Disk} {p : Path} {f : Folder}
    (hempty : ∀ q ≠ [], d.node? (p ++ q) = none) : Sound d p f d where
  keeps := ⟨rfl, rfl, fun _ => id⟩
  layouts := fun n content hfile => nomatch (hempty [n, layoutFile] (by simp)).symm.trans hfile
  rows := fun n key content _ hfile =>
    nomatch (hempty [n, rowsDir, RowFile.name key] (by simp)).symm.trans hfile

end Folder

/-! ## Sessions -/

/-- What holds of the rows that calls have left: each family was brought by a
write of its own, and if no write went through a stale handle, every family
is one that the table declares. -/
structure FamiliesTraced {ι σ : Type} [Backend ι σ] (i : ι) (s : Session σ)
    (calls : List TableCall) : Prop where
  traced : ∀ h key r family, StoredRow i (s.after i calls).state h key r →
    r.cells.contains family = true → ∃ w ∈ s.writes i calls, w.Brings h key family
  declared : (∀ w ∈ s.writes i calls, w.result = .ok () → w.stale = false) →
    FamiliesDeclared i (s.after i calls).state

theorem TracesFamilies.familiesTraced {ι σ : Type} [Backend ι σ] {i : ι} {valid : σ → Prop}
    {named : TableHandle → Prop} (ht : TracesFamilies i valid named) {s : σ} (hs : valid s)
    (hnew : ∀ name h, Backend.openTable i name s ≠ .ok h) (calls : List TableCall) :
    FamiliesTraced i (.start s) calls := by
  have htraced : ∀ h key r family, StoredRow i ((Session.start s).after i calls).state h key r →
      r.cells.contains family = true →
      ∃ w ∈ (Session.start s).writes i calls, w.Brings h key family := by
    intro h key r family hr hf
    rcases ht.after ⟨hs, by simp [Session.start]⟩ hr hf with ⟨r₀, hr₀, -⟩ | hw
    · exact absurd hr₀.current (hnew _ _)
    · exact hw
  refine ⟨htraced, fun hfresh h key r family hr hf => ?_⟩
  obtain ⟨w, hw, hbrings⟩ := htraced h key r family hr hf
  exact hbrings.hasFamily (hfresh w hw hbrings.landed)

/-- On both backends, for whatever calls are made and in whatever order, each
family of each stored row is in the layout of the handle through which it was
written, and in the layout of the table unless that handle was stale. The
directory may be on any tree, with any limits, as long as it begins empty. -/
theorem families_of_stored_rows :
    (∀ (uri : String) (calls : List TableCall),
      FamiliesTraced () (.start (Memory.new uri)) calls) ∧
    (∀ {d : Disk} {p : Path} {f : Folder}, d.locate f.root = .ok p → d.node? p = some .dir →
      (∀ q ≠ [], d.node? (p ++ q) = none) → ∀ calls : List TableCall,
        FamiliesTraced f (.start d) calls) := by
  refine ⟨fun uri calls => ?_, fun {d p f} hroot hdir hempty calls => ?_⟩
  · refine Memory.tracesFamilies.familiesTraced (Memory.named_new uri)
      (fun name h hopen => ?_) calls
    obtain ⟨-, -, t, ht, -⟩ := Memory.openTable_eq_ok_iff.mp hopen
    cases ht
  · refine (Folder.tracesFamilies hroot hdir hempty).familiesTraced
      (Folder.sound_of_empty hempty) (fun name h hopen => ?_) calls
    obtain ⟨-, hn, -, content, hread, -⟩ := Folder.openTable_eq_ok_iff.mp hopen
    have hfile := ((Folder.read_layoutAddress_iff hroot hn).mp hread).2.2.2
    exact nomatch (hempty [name, Folder.layoutFile] (by simp)).symm.trans hfile

/-- A handle is used after its table was deleted and made again with another
layout. -/
def callsThroughStaleHandle : List TableCall :=
  [.createTable ⟨"jobs", ["info"], ""⟩, .openTable "jobs", .deleteTable "jobs",
    .createTable ⟨"jobs", ["extended"], ""⟩, .putRow 0 "job-1" [⟨"info", "jobId", [0x6a]⟩]]

/-- The write is let in, and the row has a family that the table lacks. -/
theorem undeclared_family_of_stale_handle :
    ¬FamiliesDeclared () ((Session.start (Memory.new "memory://")).after ()
      callsThroughStaleHandle).state ∧
    ¬FamiliesDeclared (Folder.mk "/") ((Session.start (Disk.empty [] ⟨none, none⟩)).after
      (Folder.mk "/") callsThroughStaleHandle).state := by
  let table : TableHandle := ⟨"jobs", ⟨"jobs", ["extended"], ""⟩⟩
  let row : Row := (Row.empty "job-1").put ⟨"info", "jobId", [0x6a]⟩
  have hlacks : table.layout.hasFamily "info" = false := by decide
  have hhas : row.cells.contains "info" = true := by decide +kernel
  refine ⟨fun h => ?_, fun h => ?_⟩
  · have hr : StoredRow () ((Session.start (Memory.new "memory://")).after ()
        callsThroughStaleHandle).state table "job-1" row :=
      ⟨by decide +kernel, by decide +kernel⟩
    exact nomatch hlacks.symm.trans (h table "job-1" row "info" hr hhas)
  · have hr : StoredRow (Folder.mk "/") ((Session.start (Disk.empty [] ⟨none, none⟩)).after
        (Folder.mk "/") callsThroughStaleHandle).state table "job-1" row :=
      ⟨by decide +kernel, by decide +kernel⟩
    exact nomatch hlacks.symm.trans (h table "job-1" row "info" hr hhas)

/-- After a table is made again, a handle that is opened then writes a row
whose families are declared. On a tree with short names, too. -/
theorem declared_families_of_fresh_handle :
    ∃ calls : List TableCall, .putRow 1 "job-1" [⟨"extended", "note", [0x6a]⟩] ∈ calls ∧
      FamiliesDeclared () ((Session.start (Memory.new "memory://")).after () calls).state ∧
      FamiliesDeclared (Folder.mk "/") ((Session.start (Disk.empty [] ⟨some 15, some 40⟩)).after
        (Folder.mk "/") calls).state ∧
      StoredRow (Folder.mk "/") ((Session.start (Disk.empty [] ⟨some 15, some 40⟩)).after
        (Folder.mk "/") calls).state ⟨"jobs", ⟨"jobs", ["extended"], ""⟩⟩ "job-1"
        ((Row.empty "job-1").put ⟨"extended", "note", [0x6a]⟩) := by
  refine ⟨[.createTable ⟨"jobs", ["info"], ""⟩, .openTable "jobs", .deleteTable "jobs",
    .createTable ⟨"jobs", ["extended"], ""⟩, .openTable "jobs",
    .putRow 1 "job-1" [⟨"extended", "note", [0x6a]⟩]], by simp, ?_, ?_, ?_⟩
  · exact (families_of_stored_rows.1 _ _).declared (by decide +kernel)
  · exact (families_of_stored_rows.2 (f := ⟨"/"⟩) (by decide +kernel) rfl
      (fun _ => Disk.node?_empty _) _).declared (by decide +kernel)
  · exact ⟨by decide +kernel, by decide +kernel⟩

end JobLedger
