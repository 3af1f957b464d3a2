import JobLedger.Proofs.Storage.Lookup

/-!
# Scanning a directory that rows are written to

`Folder.RowsIn` says that the directory of the rows holds the files of some
rows and nothing else. Whatever is written, that stays so, with the rows
that the successful writes make (`RowsIn.putRow`): a write on a tree without
room for the names leaves nothing behind.

From there on the table is known by its rows. Each is found under its key
(`RowsIn.getRow_eq_some_iff`), and a scan lists them in order, but for the
row of the empty key (`RowsIn.scan_eq`): the name of its file begins with
the point, so the file counts as one without an ending.
-/

namespace JobLedger

/-- The rows whose files a listing takes for row files. -/
def MemoryTable.listed (t : MemoryTable) : MemoryTable := { t with rows := t.rows.after "" }

theorem lt_of_ne_empty {key : String} (h : key ≠ "") : "" < key := by
  obtain ⟨c, cs, hkey⟩ :=
    List.exists_cons_of_ne_nil fun hnil => h (String.toList_eq_nil_iff.mp hnil)
  show [] < key.toList
  rw [hkey]
  exact List.nil_lt_cons ..

namespace MemoryTable.Keyed

variable {t : MemoryTable} (ht : t.Keyed)

include ht

theorem listed : t.listed.Keyed := ht.after ""

theorem listed_values : t.listed.rows.values = t.rows.values.filter fun r => r.key ≠ "" := by
  rw [Dict.values, Dict.values, List.filter_map]
  refine congrArg (List.map _) (List.filter_congr fun e he => ?_)
  have hkey := ht (Dict.get?_eq_some_iff.mpr he)
  show decide ("" < e.1) = decide (e.2.key ≠ "")
  rw [hkey, decide_eq_decide]
  refine ⟨?_, lt_of_ne_empty⟩
  rintro hlt heq
  exact KeyOrder.irrefl "" (heq ▸ hlt)

end MemoryTable.Keyed

/-- Behind a key, a listing leaves nothing out. -/
theorem MemoryTable.behind_listed (t : MemoryTable) (after : Option String) :
    t.listed.behind after = t.behind (some (after.getD "")) := by
  cases after with
  | none => rfl
  | some key =>
      have hafter : (t.rows.after "").after key = t.rows.after key := Dict.ext_get? fun key' => by
        rw [Dict.get?_after, Dict.get?_after, Dict.get?_after]
        split
        · next hlt =>
          rw [if_pos]
          refine lt_of_ne_empty ?_
          rintro rfl
          exact List.not_lt_nil key.toList hlt
        · rfl
      rw [behind, listed]
      exact congrArg Dict.values hafter

/-- The file of a row, with the key that is in its name. -/
def RowFile.entry (r : Row) : String × String := (r.key, name r.key)

namespace Folder

theorem mem_rowFiles {names : List String} {after : Option String} {e : String × String} :
    e ∈ rowFiles names after ↔
      e.2 ∈ names ∧ RowFile.key? e.2 = some e.1 ∧ ∀ k ∈ after, k < e.1 := by
  unfold rowFiles
  rw [List.mem_mergeSort, List.mem_filterMap]
  constructor
  · rintro ⟨file, hfile, he⟩
    obtain ⟨key, hkey, he⟩ := Option.bind_eq_some_iff.mp he
    cases after with
    | none =>
        cases he
        exact ⟨hfile, hkey, nofun⟩
    | some k =>
        simp only [Option.ite_none_right_eq_some] at he
        obtain ⟨hlt, he⟩ := he
        cases he
        refine ⟨hfile, hkey, fun k' hk' => ?_⟩
        cases hk'
        exact hlt
  · rintro ⟨hfile, hkey, hlt⟩
    refine ⟨e.2, hfile, Option.bind_eq_some_iff.mpr ⟨e.1, hkey, ?_⟩⟩
    cases after with
    | none => rfl
    | some k => exact if_pos (hlt k rfl)

/-- Without a key to start behind, all row files are listed, and the file of
the empty key is not taken for one. -/
theorem rowFiles_none {names : List String} {rows : Dict String Row}
    (hnames : ∀ file, file ∈ names ↔ ∃ key, file = RowFile.name key ∧ rows.contains key = true) :
    rowFiles names none = rowFiles names (some "") := by
  have hfound : ∀ file ∈ names, ((RowFile.key? file).bind fun key => some (key, file)) =
      RowFile.behind? "" file := by
    intro file hfile
    obtain ⟨key, rfl, -⟩ := (hnames file).mp hfile
    rw [RowFile.behind?, RowFile.key?_name]
    by_cases hkey : key = ""
    · rw [if_pos hkey]
      rfl
    · rw [if_neg hkey, Option.bind_some, Option.bind_some, if_pos (lt_of_ne_empty hkey)]
  exact congrArg (List.mergeSort · fun a b => a.1 ≤ b.1) (List.filterMap_congr hfound)

/-- If the names in a directory are those of the files of a table's rows, the
row files behind a key are those of the listed rows behind it. -/
theorem rowFiles_listed {names : List String} {t : MemoryTable} (ht : t.Keyed)
    (hnodup : names.Nodup)
    (hnames : ∀ file, file ∈ names ↔ ∃ key, file = RowFile.name key ∧ t.rows.contains key = true)
    (after : Option String) :
    rowFiles names after = (t.listed.behind after).map RowFile.entry := by
  have hbehind : rowFiles names after = rowFiles names (some (after.getD "")) := by
    cases after with
    | some key => rfl
    | none => exact rowFiles_none hnames
  rw [hbehind, rowFiles_eq hnodup hnames, MemoryTable.behind_listed, MemoryTable.behind,
    Dict.values, List.map_map]
  refine List.map_congr_left fun e he => ?_
  have hkey := ht.after (after.getD "") (Dict.get?_eq_some_iff.mpr he)
  rw [Function.comp_apply, RowFile.entry, hkey]

/-- The row files of keys in order. The file of the empty key is not one. -/
theorem rowFiles_names {keys : List String} (hkeys : keys.Pairwise (· < ·)) (hne : "" ∉ keys) :
    rowFiles (keys.map RowFile.name) none = keys.map fun key => (key, RowFile.name key) := by
  have hfound : ((keys.map RowFile.name).filterMap fun name => (RowFile.key? name).bind fun key =>
      some (key, name)) = keys.map fun key => (key, RowFile.name key) := by
    clear hkeys
    induction keys with
    | nil => rfl
    | cons key keys ih =>
        obtain ⟨hkey, hne⟩ := not_or.mp fun h => hne (List.mem_cons.mpr h)
        rw [List.map_cons, List.filterMap_cons, RowFile.key?_name, if_neg (Ne.symm hkey), ih hne]
        rfl
  have hsorted : (keys.map fun key => (key, RowFile.name key)).Pairwise
      fun a b => decide (a.1 ≤ b.1) = true :=
    List.pairwise_map.mpr (hkeys.imp fun hlt => decide_eq_true (Std.le_of_lt hlt))
  exact (congrArg (List.mergeSort · fun a b => a.1 ≤ b.1) hfound).trans
    (List.mergeSort_of_pairwise hsorted)

/-- A scan of a directory that has the row files of some keys. -/
theorem scan_of_names {f : Folder} {th : TableHandle} {d : Disk} {rows : String}
    {keys : List String} (hrows : f.rowsAt th d = .ok rows)
    (hlist : d.list rows = .ok (keys.map RowFile.name)) (hkeys : keys.Pairwise (· < ·))
    (hne : "" ∉ keys) (limit : Nat) :
    f.scan th none limit d =
      readRows d rows ((keys.map fun key => (key, RowFile.name key)).take limit) := by
  rw [scan, hrows]
  simp only [bind, Except.bind, hlist, rowFiles_names hkeys hne]

theorem readRows_congr {d d' : Disk} {dir : String} {files : List (String × String)}
    (h : ∀ e ∈ files, readRow d' (Disk.child dir e.2) = readRow d (Disk.child dir e.2)) :
    readRows d' dir files = readRows d dir files := by
  induction files with
  | nil => rfl
  | cons e files ih =>
      obtain ⟨hfirst, hrest⟩ := List.forall_mem_cons.mp h
      rw [readRows, readRows, hfirst, ih hrest]

/-- Row files that hold their rows are read one by one. -/
theorem readRows_entries {d : Disk} {dir : String} {rows : List Row}
    (h : ∀ r ∈ rows, readRow d (Disk.child dir (RowFile.name r.key)) = .ok (some r)) :
    readRows d dir (rows.map RowFile.entry) = .ok rows := by
  induction rows with
  | nil => rfl
  | cons r rows ih =>
      rw [List.map_cons, RowFile.entry, readRows, h r (List.mem_cons_self ..),
        ih fun r hr => h r (List.mem_cons_of_mem _ hr)]
      rfl

/-- The tree `d₀` with the rows of `t` written to the directory at `q`, which
was empty. -/
structure RowsIn (d₀ : Disk) (dir : String) (q : Path) (d : Disk) (t : MemoryTable) : Prop where
  keeps : Disk.KeepsDirs d₀ d
  keyed : t.Keyed
  rows : ∀ r ≠ [], d.node? (q ++ r) = t.image (rowsDir :: r)
  fits : ∀ key, t.rows.contains key = true → Disk.Fits d.limits dir (RowFile.name key)
  others : ∀ r, ¬q <+: r → d.node? r = d₀.node? r

theorem rowsIn_of_empty {d : Disk} {q : Path} (hempty : ∀ r ≠ [], d.node? (q ++ r) = none)
    (dir : String) (l : TableLayout) : RowsIn d dir q d ⟨l, ∅⟩ where
  keeps := ⟨rfl, rfl, fun _ => id⟩
  keyed := MemoryTable.keyed_empty l
  rows := fun r hr => by
    rw [hempty r hr]
    match r, hr with
    | [file], _ => rfl
    | _ :: _ :: _, _ => rfl
  fits := fun key hkey => nomatch hkey
  others := fun _ _ => rfl

/-- The row of a key is written to its file. -/
theorem RowsIn.setNode {d₀ d : Disk} {dir : String} {q : Path} {t : MemoryTable}
    (h : RowsIn d₀ dir q d t) {key : String} (hfits : Disk.Fits d.limits dir (RowFile.name key))
    (cells : List Cell) :
    RowsIn d₀ dir q
      (d.setNode (q ++ [RowFile.name key])
        (.file (RowFile.content (((t.rows.get? key).getD (.empty key)).apply cells))))
      (t.write key cells) := by
  have hnode : d.node? (q ++ [RowFile.name key]) ≠ some .dir := by
    rw [h.rows _ (by simp), MemoryTable.image_row]
    cases t.rowIn (RowFile.name key) <;> simp
  refine ⟨h.keeps.trans (Disk.keepsDirs_setNode (by simp) hnode _), h.keyed.write key cells,
    fun r hr => ?_, fun key' hkey' => ?_, fun r hr => ?_⟩
  · rw [Disk.node?_setNode_below d q (by simp), h.keyed.image_write]
    simp only [List.cons.injEq, true_and]
    rw [h.rows r hr]
  · rw [Dict.contains, Memory.get?_write] at hkey'
    split at hkey'
    · next heq => exact heq ▸ hfits
    · exact h.fits key' hkey'
  · rw [Disk.node?_setNode_of_ne d (by simp) (by rintro rfl; exact hr (List.prefix_append ..)),
      h.others r hr]

/-- The layout file is not touched. -/
theorem RowsIn.hasLayout_eq {d₀ d : Disk} {dir : String} {q : Path} {t : MemoryTable}
    (h : RowsIn d₀ dir q d t) (hdir : d₀.node? q = some .dir)
    (hempty : ∀ r ≠ [], d₀.node? (q ++ r) = none) {f : Folder} {n : String}
    (hlayout : hasLayout (Disk.child f.root n) d₀ = true) :
    hasLayout (Disk.child f.root n) d = true := by
  obtain ⟨content, hread⟩ := hasLayout_iff.mp hlayout
  obtain ⟨q', hq', hfile⟩ := Disk.read_eq_ok_iff.mp hread
  have hother : ¬q <+: q' := by
    rintro ⟨r, rfl⟩
    cases r with
    | nil =>
        rw [List.append_nil, hdir] at hfile
        cases hfile
    | cons c r =>
        rw [hempty _ (by simp)] at hfile
        cases hfile
  exact hasLayout_iff.mpr ⟨content, Disk.read_eq_ok_iff.mpr
    ⟨q', h.keeps.locate hq', by rw [h.others q' hother, hfile]⟩⟩

theorem RowsIn.mem_namesAt {d₀ d : Disk} {dir : String} {q : Path} {t : MemoryTable}
    (h : RowsIn d₀ dir q d t) (file : String) :
    file ∈ d.namesAt q ↔ ∃ key, file = RowFile.name key ∧ t.rows.contains key = true :=
  h.keyed.mem_namesAt (fun file => h.rows [file] (by simp)) file

namespace RowsIn

variable {d₀ d : Disk} {q : Path} {f : Folder} {n : String} {t : MemoryTable}
  (hq : d₀.locate (f.rowsAddress n) = .ok q) (hdir : d₀.node? q = some .dir)
  (h : RowsIn d₀ (f.rowsAddress n) q d t)

include hq hdir h

theorem locate_rowAddress {key : String}
    (hfits : Disk.Fits d.limits (f.rowsAddress n) (RowFile.name key)) :
    d.locate (f.rowAddress n key) = .ok (q ++ [RowFile.name key]) :=
  (Disk.locate_child_eq_ok_iff (Disk.ne_empty_of_locate hq) (RowFile.plainName_name key)).mpr
    ⟨hfits, q, h.keeps.locate hq, h.keeps.dirs q hdir, rfl⟩

theorem readRow_eq {key : String}
    (hfits : Disk.Fits d.limits (f.rowsAddress n) (RowFile.name key)) :
    readRow d (f.rowAddress n key) = .ok (t.rows.get? key) :=
  h.keyed.readRow_eq (h.locate_rowAddress hq hdir hfits) (h.rows [RowFile.name key] (by simp))

theorem readRow_of_not_fits {key : String}
    (hfits : ¬Disk.Fits d.limits (f.rowsAddress n) (RowFile.name key)) :
    readRow d (f.rowAddress n key) = .error (.io (.disk .nameTooLong)) := by
  rw [readRow, Disk.read, rowAddress, Disk.locate_child_of_not_fits (h.keeps.locate hq)
    (h.keeps.dirs q hdir) (RowFile.plainName_name key) hfits]
  rfl

/-- A row that is listed is found in its file. -/
theorem readRow_of_mem_behind {r : Row} {after : Option String}
    (hr : r ∈ t.listed.behind after) : readRow d (f.rowAddress n r.key) = .ok (some r) := by
  rw [MemoryTable.behind_listed] at hr
  have hget := (h.keyed.mem_behind.mp hr).1
  rw [h.readRow_eq hq hdir (h.fits _ (Option.isSome_of_eq_some hget)), hget]

/-! ### Writing -/

/-- A write fails and changes nothing, or it writes its row. -/
theorem putRow {th : TableHandle} (hname : th.name = n) (key : String) (cells : List Cell) :
    (∃ e, f.putRow th key cells d = (.error e, d)) ∨
      ∃ d', f.putRow th key cells d = (.ok (), d') ∧
        RowsIn d₀ (f.rowsAddress n) q d' (t.write key cells) := by
  subst hname
  rw [Folder.putRow]
  cases hwrite : f.rowToWrite th key cells d with
  | error e => exact .inl ⟨e, rfl⟩
  | ok w =>
      obtain ⟨rows, r⟩ := w
      obtain ⟨-, -, rfl, row?, hrow, rfl⟩ := rowToWrite_eq_ok_iff.mp hwrite
      -- The row could be read, so there is room for the name of its file.
      have hfits : Disk.Fits d.limits (f.rowsAddress th.name) (RowFile.name key) := by
        by_contra hfits
        rw [h.readRow_of_not_fits hq hdir hfits] at hrow
        cases hrow
      rw [h.readRow_eq hq hdir hfits] at hrow
      obtain rfl := Except.ok.inj hrow
      have hplain := RowFile.plainName_temporary key
      by_cases htemporary : Disk.Fits d.limits (f.rowsAddress th.name)
          (Disk.withEnding (RowFile.name key) "tmp")
      · have hfree : ∀ r, q ++ [Disk.withEnding (RowFile.name key) "tmp"] <+: r →
            d.nodes.get? r = none := by
          rintro _ ⟨r, rfl⟩
          rw [List.append_assoc, ← Disk.node?_of_ne_nil d (by simp), h.rows _ (by simp)]
          cases r with
          | nil =>
              rw [List.append_nil, MemoryTable.image_row,
                MemoryTable.rowIn_eq_none (RowFile.temporary_ne_name key)]
              rfl
          | cons c r => rfl
        have hnode : d.node? (q ++ [RowFile.name key]) ≠ some .dir := by
          rw [h.rows _ (by simp), MemoryTable.image_row]
          cases t.rowIn (RowFile.name key) <;> simp
        have hreplace := Disk.replaceFile_eq (h.keeps.locate hq) (h.keeps.dirs q hdir)
          (RowFile.plainName_name key) hplain (RowFile.temporary_ne_name key key) hfits htemporary
          hfree hnode (RowFile.content (((t.rows.get? key).getD (.empty key)).apply cells))
        exact .inr ⟨_, by simp only [hreplace]; rfl, h.setNode hfits cells⟩
      · have hreplace := Disk.replaceFile_of_not_fits (h.keeps.locate hq) (h.keeps.dirs q hdir)
          hplain htemporary (RowFile.content (((t.rows.get? key).getD (.empty key)).apply cells))
        exact .inl ⟨.io (.disk .nameTooLong), by simp only [hreplace]; rfl⟩

/-! ### Reading -/

variable (hempty : ∀ r ≠ [], d₀.node? (q ++ r) = none)
  (hlayout : hasLayout (Disk.child f.root n) d₀ = true)

include hempty hlayout

theorem rowsAt_eq {th : TableHandle} (hname : th.name = n) :
    f.rowsAt th d = .ok (f.rowsAddress n) := by
  subst hname
  rw [rowsAt, h.hasLayout_eq hdir hempty hlayout]
  rfl

theorem getRow_eq_some_iff {th : TableHandle} (hname : th.name = n) {key : String} {r : Row} :
    f.getRow th key d = .ok (some r) ↔ t.rows.get? key = some r := by
  rw [getRow, h.rowsAt_eq hq hdir hempty hlayout hname]
  show readRow d (f.rowAddress n key) = _ ↔ _
  by_cases hfits : Disk.Fits d.limits (f.rowsAddress n) (RowFile.name key)
  · rw [h.readRow_eq hq hdir hfits, Except.ok.injEq]
  · rw [h.readRow_of_not_fits hq hdir hfits]
    constructor
    · intro herror
      cases herror
    · intro hget
      exact absurd (h.fits key (Option.isSome_of_eq_some hget)) hfits

/-- A scan lists the rows that count as listed. -/
theorem scan_eq {th : TableHandle} (hname : th.name = n) (after : Option String) (limit : Nat) :
    f.scan th after limit d = .ok ((t.listed.behind after).take limit) := by
  have hlist : d.list (f.rowsAddress n) = .ok (d.namesAt q) := by
    rw [Disk.list, h.keeps.locate hq]
    simp only [bind, Except.bind, h.keeps.dirs q hdir]
  rw [scan, h.rowsAt_eq hq hdir hempty hlayout hname]
  simp only [bind, Except.bind, hlist,
    rowFiles_listed h.keyed (d.nodup_namesAt q) h.mem_namesAt, ← List.map_take]
  exact readRows_entries fun r hr =>
    h.readRow_of_mem_behind hq hdir (List.mem_of_mem_take hr)

end RowsIn

/-! ## Writing to a new table -/

/-- A table without rows, whose directory of rows is at `q`. -/
structure FreshTable (f : Folder) (n : String) (d : Disk) (q : Path) : Prop where
  located : d.locate (f.rowsAddress n) = .ok q
  isDir : d.node? q = some .dir
  empty : ∀ r ≠ [], d.node? (q ++ r) = none
  layout : hasLayout (Disk.child f.root n) d = true

/-- A table is fresh when it was just made. -/
theorem freshTable_of_createTable {d₀ d d' : Disk} {p : Path} {m : Memory} {f : Folder}
    (h : Mirrors d₀ p d m) (hroot : d₀.locate f.root = .ok p) {l : TableLayout}
    (hn : validName l.name = true) (hcreate : f.createTable l d = (.ok (), d')) :
    f.FreshTable l.name d' (p ++ [l.name] ++ [rowsDir]) := by
  rcases h.createTable_sameChange hroot hn with ⟨e, he, -⟩ | ⟨d'', m', hd, hm', hmirrors⟩
  · rw [he] at hcreate
    cases hcreate
  · rw [hd] at hcreate
    cases hcreate
    have ht : m'.tables.get? l.name = some ⟨l, ∅⟩ := by
      rw [Memory.createTable_of_online h.online] at hm'
      cases hnew : m.tables.get? l.name with
      | some t =>
          rw [hnew] at hm'
          cases hm'
      | none =>
          rw [hnew] at hm'
          rw [← Except.ok.inj hm']
          exact Dict.get?_insert_self ..
    refine ⟨hmirrors.locate_rowsDir hroot hn ht, hmirrors.node?_rowsDir ht, fun r hr => ?_, ?_⟩
    · simp only [List.append_assoc, List.cons_append, List.nil_append]
      rw [hmirrors.image, Memory.image_cons, ht]
      match r, hr with
      | [file], _ => rfl
      | _ :: _ :: _, _ => rfl
    · rw [hmirrors.hasLayout_eq hroot hn, ht]
      rfl

/-- Writes rows one after the other, each through a handle of its own, and
goes on where one fails. -/
def writeAll (f : Folder) (d : Disk) (writes : List (TableHandle × String × List Cell)) : Disk :=
  writes.foldl (fun d w => (f.putRow w.1 w.2.1 w.2.2 d).2) d

theorem RowsIn.writeAll {d₀ : Disk} {q : Path} {f : Folder} {n : String}
    (hq : d₀.locate (f.rowsAddress n) = .ok q) (hdir : d₀.node? q = some .dir)
    {writes : List (TableHandle × String × List Cell)} (hnames : ∀ w ∈ writes, w.1.name = n)
    {d : Disk} {t : MemoryTable} (h : RowsIn d₀ (f.rowsAddress n) q d t) :
    ∃ t', RowsIn d₀ (f.rowsAddress n) q (f.writeAll d writes) t' := by
  induction writes generalizing d t with
  | nil => exact ⟨t, h⟩
  | cons w ws ih =>
      obtain ⟨hname, hnames⟩ := List.forall_mem_cons.mp hnames
      have hcons : f.writeAll d (w :: ws) = f.writeAll (f.putRow w.1 w.2.1 w.2.2 d).2 ws := rfl
      rw [hcons]
      rcases h.putRow hq hdir hname w.2.1 w.2.2 with ⟨e, hput⟩ | ⟨d', hput, h'⟩ <;> rw [hput]
      · exact ih hnames h
      · exact ih hnames h'

end Folder

end JobLedger
