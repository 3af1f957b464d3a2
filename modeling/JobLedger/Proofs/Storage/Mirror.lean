import JobLedger.Proofs.Disk.Write
import JobLedger.Proofs.Storage.Files
import JobLedger.Proofs.Storage.Memory
import JobLedger.Storage.Folder

/-!
# The tree that mirrors tables in memory

`Memory.image m` is what stands at each path below the root directory of a
folder that holds the tables of `m`: for each table a directory with the
layout file and the directory of the rows, in which each row has its file,
and nothing else. `Mirrors` says that a tree is this image below a root.

Each operation of the folder is then known from the tables: what it finds
is what the tables have, and what it changes takes the image of the tables
to the image of the changed tables.
-/

namespace JobLedger

/-! ## Names -/

namespace Disk

theorem plainName_of_getLast? {name : String} {c : Char} (hlast : name.toList.getLast? = some c)
    (hc : c ≠ '.') (hslash : '/' ∉ name.toList) (hnul : '\x00' ∉ name.toList) :
    PlainName name := by
  refine ⟨hslash, hnul, ?_, ?_, ?_⟩ <;> rintro rfl
  · exact nomatch hlast
  · exact hc (Option.some.inj hlast).symm
  · exact hc (Option.some.inj hlast).symm

end Disk

namespace Folder

theorem plainName_of_validName {name : String} (h : validName name = true) :
    Disk.PlainName name := by
  rw [validName] at h
  split at h
  · exact nomatch h
  · exact nomatch h
  · next hempty hdot =>
    have hall := List.all_eq_true.mp h
    refine ⟨fun hc => absurd (hall _ hc) (by decide), fun hc => absurd (hall _ hc) (by decide),
      ?_, ?_, ?_⟩ <;> rintro rfl
    · exact hempty rfl
    · exact hdot _ rfl
    · exact hdot _ rfl

theorem plainName_layoutFile : Disk.PlainName layoutFile :=
  Disk.plainName_of_getLast? (c := 'n') (by decide) (by decide) (by decide) (by decide)

/-- The temporary file of a layout file. -/
theorem plainName_temporary : Disk.PlainName (Disk.withEnding layoutFile "tmp") :=
  Disk.plainName_of_getLast? (c := 'p') (by decide) (by decide) (by decide) (by decide)

theorem plainName_rowsDir : Disk.PlainName rowsDir :=
  Disk.plainName_of_getLast? (c := 's') (by decide) (by decide) (by decide) (by decide)

end Folder

namespace RowFile

theorem getLast?_name (key : String) : (name key).toList.getLast? = some 'n' := by
  rw [toList_name, List.getLast?_append_of_ne_nil _ (by simp)]
  rfl

theorem not_mem_name {key : String} {c : Char} (hc : ∀ d < 16, c ≠ Hex.digit d)
    (hc' : c ∉ '.' :: ending.toList) : c ∉ (name key).toList := by
  intro h
  rcases mem_toList_name h with ⟨d, hd, hcd⟩ | h
  · exact hc d hd hcd
  · exact hc' h

theorem plainName_name (key : String) : Disk.PlainName (name key) :=
  Disk.plainName_of_getLast? (getLast?_name key) (by decide)
    (not_mem_name (by decide) (by decide)) (not_mem_name (by decide) (by decide))

/-- The temporary file of a row has the ending in place of the row file's,
or behind it. -/
theorem toList_temporary (key : String) :
    ∃ stem, (Disk.withEnding (name key) "tmp").toList = stem ++ ['.', 't', 'm', 'p'] ∧
      ∀ c ∈ stem, c ∈ (name key).toList := by
  rw [Disk.withEnding, cutLast_name]
  simp only
  split
  · exact ⟨(name key).toList, by simp, fun _ => id⟩
  · refine ⟨Hex.encode (Utf8.bytes key), by simp, fun c hc => ?_⟩
    rw [toList_name]
    exact List.mem_append_left _ hc

theorem getLast?_temporary (key : String) :
    (Disk.withEnding (name key) "tmp").toList.getLast? = some 'p' := by
  obtain ⟨stem, hstem, -⟩ := toList_temporary key
  rw [hstem, List.getLast?_append_of_ne_nil _ (by simp)]
  rfl

theorem getLast?_of_key? {file key : String} (h : key? file = some key) :
    file.toList.getLast? = some 'n' := by
  obtain ⟨stem, -, hfile, -⟩ := toList_of_key? h
  rw [hfile, List.getLast?_append_of_ne_nil _ (by simp)]
  rfl

theorem plainName_of_key? {file key : String} (h : key? file = some key) :
    Disk.PlainName file := by
  obtain ⟨stem, bytes, hfile, hbytes⟩ := toList_of_key? h
  have hnot : ∀ {c : Char}, c ≠ '+' → ¬Hex.IsDigit c →
      c ∉ '.' :: ending.toList → c ∉ file.toList := by
    intro c hplus hdigit hending hc
    rw [hfile] at hc
    refine (List.mem_append.mp hc).elim (fun hc => ?_) hending
    exact (Hex.mem_of_decode? hbytes hc).elim hplus hdigit
  exact Disk.plainName_of_getLast? (getLast?_of_key? h) (by decide)
    (hnot (by decide) (by decide) (by decide)) (hnot (by decide) (by decide) (by decide))

/-- No temporary file counts as a row file. -/
theorem key?_temporary (key : String) : key? (Disk.withEnding (name key) "tmp") = none := by
  cases h : key? (Disk.withEnding (name key) "tmp") with
  | none => rfl
  | some key' =>
      have hlast := getLast?_of_key? h
      rw [getLast?_temporary] at hlast
      exact absurd hlast (by decide)

theorem temporary_ne_name (key key' : String) : Disk.withEnding (name key) "tmp" ≠ name key' := by
  intro h
  have hlast := getLast?_temporary key
  rw [h, getLast?_name] at hlast
  exact absurd hlast (by decide)

theorem plainName_temporary (key : String) :
    Disk.PlainName (Disk.withEnding (name key) "tmp") := by
  obtain ⟨stem, hstem, hmem⟩ := toList_temporary key
  have hnot : ∀ {c : Char}, c ∉ (name key).toList → c ∉ ['.', 't', 'm', 'p'] →
      c ∉ (Disk.withEnding (name key) "tmp").toList := fun hc hc' h => by
    rw [hstem] at h
    exact (List.mem_append.mp h).elim (fun h => hc (hmem _ h)) hc'
  exact Disk.plainName_of_getLast? (getLast?_temporary key) (by decide)
    (hnot (plainName_name key).noSlash (by decide)) (hnot (plainName_name key).noNul (by decide))

end RowFile

/-! ## The image of tables -/

def TableLayout.content (l : TableLayout) : Bytes := Utf8.encode l.toJson.indented

/-- The row whose file has a name. -/
def MemoryTable.rowIn (t : MemoryTable) (file : String) : Option Row :=
  t.rows.values.find? fun r => RowFile.name r.key = file

/-- What stands below the directory of a table. -/
def MemoryTable.image (t : MemoryTable) : Path → Option Node
  | [] => some .dir
  | [entry] =>
      if entry = Folder.layoutFile then some (.file t.layout.content)
      else if entry = Folder.rowsDir then some .dir
      else none
  | [entry, file] =>
      if entry = Folder.rowsDir then (t.rowIn file).map fun r => .file (RowFile.content r)
      else none
  | _ :: _ :: _ :: _ => none

/-- What stands below the root directory. -/
def Memory.image (m : Memory) : Path → Option Node
  | [] => some .dir
  | name :: q => (m.tables.get? name).bind (·.image q)

/-- Each row is found in its own file. -/
theorem MemoryTable.Keyed.rowIn_name {t : MemoryTable} (ht : t.Keyed) (key : String) :
    t.rowIn (RowFile.name key) = t.rows.get? key := by
  have hkey : ∀ {r : Row}, r ∈ t.rows.values → RowFile.name r.key = RowFile.name key →
      t.rows.get? key = some r := fun hr hname =>
    RowFile.name_injective hname ▸ ht.mem_values.mp hr
  rw [rowIn]
  cases hfind : t.rows.values.find? fun r => RowFile.name r.key = RowFile.name key with
  | some r =>
      have hname := List.find?_some hfind
      exact (hkey (List.mem_of_find?_eq_some hfind) (of_decide_eq_true hname)).symm
  | none =>
      cases hget : t.rows.get? key with
      | none => rfl
      | some r =>
          obtain rfl := ht hget
          simpa using List.find?_eq_none.mp hfind r (ht.mem_values.mpr hget)

theorem MemoryTable.rowIn_eq_none {t : MemoryTable} {file : String}
    (h : ∀ key, file ≠ RowFile.name key) : t.rowIn file = none := by
  rw [rowIn, List.find?_eq_none]
  intro r _
  simpa using (h r.key).symm

/-! ### Changed tables -/

theorem Memory.image_cons (m : Memory) (name : String) (q : Path) :
    m.image (name :: q) = (m.tables.get? name).bind (·.image q) := rfl

theorem MemoryTable.image_row (t : MemoryTable) (file : String) :
    t.image [Folder.rowsDir, file] = (t.rowIn file).map fun r => .file (RowFile.content r) := rfl

/-- The image after a row was written. -/
theorem MemoryTable.Keyed.image_write {t : MemoryTable} (ht : t.Keyed) (key : String)
    (cells : List Cell) (q : Path) :
    (t.write key cells).image q =
      if q = [Folder.rowsDir, RowFile.name key] then
        some (.file (RowFile.content (((t.rows.get? key).getD (.empty key)).apply cells)))
      else t.image q := by
  have hwrite := ht.write key cells
  match q with
  | [] => rfl
  | [entry] => simp [image, MemoryTable.write]
  | _ :: _ :: _ :: _ => simp [image]
  | [entry, file] =>
      by_cases hentry : entry = Folder.rowsDir
      · subst hentry
        rw [image_row, image_row]
        by_cases hfile : ∃ key', file = RowFile.name key'
        · obtain ⟨key', rfl⟩ := hfile
          rw [hwrite.rowIn_name, ht.rowIn_name, Memory.get?_write]
          by_cases hkey : key = key'
          · subst hkey
            simp
          · have hne : RowFile.name key' ≠ RowFile.name key := fun h =>
              hkey (RowFile.name_injective h).symm
            simp [hkey, hne]
        · have hnone : ∀ key', file ≠ RowFile.name key' := fun key' h => hfile ⟨key', h⟩
          rw [rowIn_eq_none hnone, rowIn_eq_none hnone, if_neg (by simp [hnone key])]
      · simp [image, hentry]

theorem Memory.image_setTable (m : Memory) (name : String) (t : MemoryTable) (q : Path) :
    (m.setTable name t).image q = match q with
      | [] => some .dir
      | name' :: q' => if name = name' then t.image q' else m.image q := by
  cases q with
  | nil => rfl
  | cons name' q' =>
      rw [image_cons, setTable]
      simp only [Dict.get?_insert]
      split
      · rfl
      · rw [image_cons]

/-- The image after a row of a table was written. -/
theorem Memory.Keyed.image_write {m : Memory} (hm : m.Keyed) {name : String} {t : MemoryTable}
    (ht : m.tables.get? name = some t) (key : String) (cells : List Cell) (q : Path) :
    (m.setTable name (t.write key cells)).image q =
      if q = [name, Folder.rowsDir, RowFile.name key] then
        some (.file (RowFile.content (((t.rows.get? key).getD (.empty key)).apply cells)))
      else m.image q := by
  rw [image_setTable]
  cases q with
  | nil => rfl
  | cons name' q' =>
      simp only
      by_cases hname : name = name'
      · subst hname
        rw [if_pos rfl, (hm ht).image_write, image_cons, ht]
        simp
      · simp [hname, Ne.symm hname]

/-- The image after an empty table was made. -/
theorem Memory.image_create {m : Memory} {l : TableLayout} (hnew : m.tables.get? l.name = none)
    (q : Path) :
    (m.setTable l.name ⟨l, ∅⟩).image q =
      if q = [l.name, Folder.layoutFile] then some (.file l.content)
      else if q = [l.name, Folder.rowsDir] then some .dir
      else if q = [l.name] then some .dir
      else m.image q := by
  rw [image_setTable]
  cases q with
  | nil => rfl
  | cons name q' =>
      simp only
      by_cases hname : l.name = name
      · subst hname
        rw [if_pos rfl, image_cons, hnew]
        match q' with
        | [] => simp [MemoryTable.image]
        | [entry] => simp [MemoryTable.image]
        | [entry, file] => simp [MemoryTable.image, MemoryTable.rowIn, Dict.values]
        | _ :: _ :: _ :: _ => simp [MemoryTable.image]
      · simp [hname, Ne.symm hname]

/-- The image after a table was deleted. -/
theorem Memory.image_erase (m : Memory) (name : String) (q : Path) :
    ({ m with tables := m.tables.erase name } : Memory).image q =
      if [name] <+: q then none else m.image q := by
  cases q with
  | nil => simp [image]
  | cons name' q' =>
      rw [image_cons, image_cons]
      simp only [Dict.get?_erase]
      by_cases hname : name = name'
      · simp [hname]
      · simp [hname]

/-! ## Listing row files -/

/-- A file with the key of its row, if it is a row file behind a key. -/
def RowFile.behind? (after file : String) : Option (String × String) :=
  (key? file).bind fun key => if after < key then some (key, file) else none

/-- The file of a row is listed if its key is behind the given one. The
empty key is behind no key, so it does not matter that its file is not
taken for a row file. -/
theorem RowFile.behind?_name (after key : String) :
    behind? after (name key) = if after < key then some (key, name key) else none := by
  rw [behind?, key?_name]
  by_cases hempty : key = ""
  · have hlt : ¬after < "" := List.not_lt_nil after.toList
    rw [if_pos hempty, hempty, if_neg hlt]
    rfl
  · rw [if_neg hempty, Option.bind_some]

theorem RowFile.file_of_behind? {after file : String} {e : String × String}
    (h : behind? after file = some e) : e.2 = file := by
  obtain ⟨key, -, h⟩ := Option.bind_eq_some_iff.mp h
  split at h
  · rw [← Option.some.inj h]
  · cases h

/-- The entry is the file of a row behind a key. -/
def RowFile.IsBehind (rows : Dict String Row) (after : String) (e : String × String) : Prop :=
  ∃ key, rows.contains key ∧ after < key ∧ (key, name key) = e

theorem RowFile.mem_filterMap_behind? {names : List String} {rows : Dict String Row}
    (hnames : ∀ file, file ∈ names ↔ ∃ key, file = name key ∧ rows.contains key)
    {after : String} {e : String × String} :
    e ∈ names.filterMap (behind? after) ↔ IsBehind rows after e := by
  rw [List.mem_filterMap]
  constructor
  · rintro ⟨file, hfile, he⟩
    obtain ⟨key, rfl, hkey⟩ := (hnames file).mp hfile
    rw [behind?_name] at he
    split at he
    · next hlt => exact ⟨key, hkey, hlt, Option.some.inj he⟩
    · cases he
  · rintro ⟨key, hkey, hlt, rfl⟩
    exact ⟨_, (hnames _).mpr ⟨key, rfl, hkey⟩, by rw [behind?_name, if_pos hlt]⟩

theorem RowFile.mem_files_after {rows : Dict String Row} {after : String} {e : String × String} :
    (e ∈ (rows.after after).entries.map fun e => (e.1, name e.1)) ↔ IsBehind rows after e := by
  rw [List.mem_map]
  constructor
  · rintro ⟨e', he', rfl⟩
    have hget := Dict.get?_eq_some_iff.mpr he'
    rw [Dict.get?_after] at hget
    split at hget
    · next hlt => exact ⟨e'.1, Option.isSome_of_eq_some hget, hlt, rfl⟩
    · cases hget
  · rintro ⟨key, hkey, hlt, rfl⟩
    obtain ⟨r, hr⟩ := Option.isSome_iff_exists.mp hkey
    exact ⟨(key, r), Dict.get?_eq_some_iff.mp (by rw [Dict.get?_after, if_pos hlt, hr]), rfl⟩

theorem RowFile.pairwise_mergeSort (files : List (String × String)) :
    (files.mergeSort fun a b => a.1 ≤ b.1).Pairwise fun a b => a.1 ≤ b.1 := by
  refine (List.pairwise_mergeSort ?_ ?_ files).imp fun h => of_decide_eq_true h
  · intro a b c hab hbc
    exact decide_eq_true (Std.le_trans (of_decide_eq_true hab) (of_decide_eq_true hbc))
  · intro a b
    simpa using Std.le_total (a := a.1) (b := b.1)

/-- The row files behind a key are the files of the rows behind the key. -/
theorem Folder.rowFiles_eq {names : List String} {rows : Dict String Row} (hnodup : names.Nodup)
    (hnames : ∀ file, file ∈ names ↔ ∃ key, file = RowFile.name key ∧ rows.contains key)
    (after : String) :
    rowFiles names (some after) =
      (rows.after after).entries.map fun e => (e.1, RowFile.name e.1) := by
  have hfound : rowFiles names (some after) =
      (names.filterMap (RowFile.behind? after)).mergeSort fun a b => a.1 ≤ b.1 := rfl
  have hsorted : ((rows.after after).entries.map fun e => (e.1, RowFile.name e.1)).Pairwise
      fun a b => a.1 < b.1 := List.pairwise_map.mpr (rows.after after).sorted
  -- Both lists have the same entries, once each, so they agree up to order.
  have hdistinct : (names.filterMap (RowFile.behind? after)).Nodup :=
    hnodup.filterMap fun _ _ _ he he' =>
      (RowFile.file_of_behind? he).symm.trans (RowFile.file_of_behind? he')
  have hdistinct' := hsorted.imp fun {a b} hlt (heq : a = b) => KeyOrder.irrefl b.1 (heq ▸ hlt)
  have hperm := (List.perm_ext_iff_of_nodup hdistinct hdistinct').mpr fun _ =>
    (RowFile.mem_filterMap_behind? hnames).trans RowFile.mem_files_after.symm
  rw [hfound]
  refine List.Perm.eq_of_pairwise ?_ (RowFile.pairwise_mergeSort _)
    (hsorted.imp fun hlt => Std.le_of_lt hlt) ((List.mergeSort_perm ..).trans hperm)
  intro a b ha hb hab hba
  obtain ⟨key, -, -, rfl⟩ :=
    (RowFile.mem_filterMap_behind? hnames).mp ((List.mergeSort_perm ..).mem_iff.mp ha)
  obtain ⟨key', -, -, rfl⟩ := RowFile.mem_files_after.mp hb
  rw [Std.le_antisymm (a := key) hab hba]

/-- If a directory holds the files of rows, its names are theirs. -/
theorem MemoryTable.Keyed.mem_namesAt {t : MemoryTable} (ht : t.Keyed) {d : Disk} {p : Path}
    (hfiles : ∀ file, d.node? (p ++ [file]) =
      (t.rowIn file).map fun r => .file (RowFile.content r)) (file : String) :
    file ∈ d.namesAt p ↔ ∃ key, file = RowFile.name key ∧ t.rows.contains key = true := by
  rw [Disk.mem_namesAt, ← Disk.node?_of_ne_nil d (by simp), hfiles, Option.isSome_map]
  constructor
  · intro hsome
    by_cases hfile : ∃ key, file = RowFile.name key
    · obtain ⟨key, rfl⟩ := hfile
      rw [ht.rowIn_name] at hsome
      exact ⟨key, rfl, hsome⟩
    · rw [rowIn_eq_none fun key hkey => hfile ⟨key, hkey⟩] at hsome
      exact nomatch hsome
  · rintro ⟨key, rfl, hkey⟩
    rw [ht.rowIn_name]
    exact hkey

theorem MemoryTable.Keyed.readRow_eq {t : MemoryTable} (ht : t.Keyed) {d : Disk} {file : String}
    {q : Path} {key : String} (hq : d.locate file = .ok q)
    (hnode : d.node? q = (t.rowIn (RowFile.name key)).map fun r => .file (RowFile.content r)) :
    Folder.readRow d file = .ok (t.rows.get? key) := by
  have hread : d.read file = match t.rows.get? key with
      | some r => .ok (RowFile.content r)
      | none => .error .notFound := by
    rw [Disk.read, hq]
    simp only [bind, Except.bind, hnode, ht.rowIn_name]
    cases t.rows.get? key <;> rfl
  rw [Folder.readRow, hread]
  cases t.rows.get? key with
  | none => rfl
  | some r => simp only [RowFile.decode_content]

/-- Files of rows that can be read make their rows. -/
theorem Folder.readRows_eq {d : Disk} {dir : String} {t : MemoryTable}
    (hread : ∀ key, t.rows.contains key = true →
      readRow d (Disk.child dir (RowFile.name key)) = .ok (t.rows.get? key))
    {l : List (String × Row)} (hl : ∀ e ∈ l, t.rows.get? e.1 = some e.2) :
    readRows d dir (l.map fun e => (e.1, RowFile.name e.1)) = .ok (l.map (·.2)) := by
  induction l with
  | nil => rfl
  | cons e l ih =>
      have he := hl e (List.mem_cons_self ..)
      rw [List.map_cons, readRows, hread e.1 (Option.isSome_of_eq_some he), he,
        ih fun e he => hl e (List.mem_cons_of_mem _ he)]
      rfl

/-- A scan of a directory in which each row of a table has its file and
nothing else is there. -/
theorem Folder.scanIn_eq {d : Disk} {dir : String} {p : Path} (hp : d.locate dir = .ok p)
    (hnode : d.node? p = some .dir) {t : MemoryTable}
    (hnames : ∀ file, file ∈ d.namesAt p ↔
      ∃ key, file = RowFile.name key ∧ t.rows.contains key = true)
    (hread : ∀ key, t.rows.contains key = true →
      readRow d (Disk.child dir (RowFile.name key)) = .ok (t.rows.get? key))
    (after : String) (limit : Nat) :
    (match d.list dir with
      | .error e => .error (.io (.disk e))
      | .ok names => readRows d dir ((rowFiles names (some after)).take limit)) =
      (.ok ((t.behind (some after)).take limit) : Except StoreError (List Row)) := by
  have hlist : d.list dir = .ok (d.namesAt p) := by
    rw [Disk.list, hp]
    simp only [bind, Except.bind, hnode]
  have hget : ∀ e ∈ (t.rows.after after).entries.take limit, t.rows.get? e.1 = some e.2 := by
    intro e he
    have hget := Dict.get?_eq_some_iff.mpr (List.mem_of_mem_take he)
    rw [Dict.get?_after] at hget
    split at hget
    · exact hget
    · cases hget
  simp only [hlist, rowFiles_eq (d.nodup_namesAt p) hnames, ← List.map_take]
  rw [readRows_eq hread hget, List.map_take]
  rfl

/-! ## Trees that mirror tables -/

/-- The tree with the directories of a new table. -/
def Disk.withTableDirs (d : Disk) (p : Path) (name : String) : Disk :=
  (d.setNode (p ++ [name]) .dir).setNode (p ++ [name] ++ [Folder.rowsDir]) .dir

/-- Below the root at `p`, the tree has the image of the tables and nothing
else, and the directories that lead to the root in `d₀` are still there. -/
structure Mirrors (d₀ : Disk) (p : Path) (d : Disk) (m : Memory) : Prop where
  keeps : Disk.KeepsDirs d₀ d
  unlimited : d.Unlimited
  image : ∀ q, d.node? (p ++ q) = m.image q
  online : m.online = true
  keyed : m.Keyed
  named : ∀ ⦃name t⦄, m.tables.get? name = some t →
    Folder.validName name = true ∧ t.layout.name = name

/-- A change comes out alike on both sides: it is refused with the same
error and changes nothing, or it leads to tables and their mirror. -/
def Mirrors.SameChange (d₀ : Disk) (p : Path) (d : Disk) (r : Except StoreError Unit × Disk)
    (r' : Except StoreError Memory) : Prop :=
  (∃ e, r = (.error e, d) ∧ r' = .error e) ∨
    ∃ d' m', r = (.ok (), d') ∧ r' = .ok m' ∧ Mirrors d₀ p d' m'

namespace Mirrors

variable {d₀ d : Disk} {p : Path} {m : Memory} (h : Mirrors d₀ p d m)

include h

/-! ### What is found -/

theorem node?_root : d.node? p = some .dir := by
  have hnode := h.image []
  rwa [List.append_nil] at hnode

theorem node?_table (name : String) :
    d.node? (p ++ [name]) = (m.tables.get? name).map fun _ => .dir := by
  rw [h.image, Memory.image_cons]
  cases m.tables.get? name <;> rfl

theorem node?_layoutFile {name : String} {t : MemoryTable} (ht : m.tables.get? name = some t) :
    d.node? (p ++ [name] ++ [Folder.layoutFile]) = some (.file t.layout.content) := by
  rw [List.append_assoc, h.image, List.singleton_append, Memory.image_cons, ht]
  rfl

theorem node?_rowsDir {name : String} {t : MemoryTable} (ht : m.tables.get? name = some t) :
    d.node? (p ++ [name] ++ [Folder.rowsDir]) = some .dir := by
  rw [List.append_assoc, h.image, List.singleton_append, Memory.image_cons, ht]
  rfl

theorem node?_rowFile {name : String} {t : MemoryTable} (ht : m.tables.get? name = some t)
    (file : String) :
    d.node? (p ++ [name] ++ [Folder.rowsDir] ++ [file]) =
      (t.rowIn file).map fun r => .file (RowFile.content r) := by
  rw [List.append_assoc, List.append_assoc, h.image, List.singleton_append, Memory.image_cons, ht]
  rfl

/-- The names in the directory of the rows are those of the row files. -/
theorem mem_rowsDir {name : String} {t : MemoryTable} (ht : m.tables.get? name = some t)
    (file : String) :
    file ∈ d.namesAt (p ++ [name] ++ [Folder.rowsDir]) ↔
      ∃ key, file = RowFile.name key ∧ t.rows.contains key :=
  (h.keyed ht).mem_namesAt (h.node?_rowFile ht) file

/-- Nothing stands where the image has nothing. -/
theorem get?_of_image {q : Path} (hq : q ≠ []) (hnone : m.image q = none) :
    d.nodes.get? (p ++ q) = none := by
  rw [← Disk.node?_of_ne_nil d (by simp [hq]), h.image, hnone]

theorem named_setTable {name : String} {t : MemoryTable} (hn : Folder.validName name = true)
    (ht : t.layout.name = name) ⦃name' : String⦄ ⦃t' : MemoryTable⦄
    (h' : (m.setTable name t).tables.get? name' = some t') :
    Folder.validName name' = true ∧ t'.layout.name = name' := by
  rw [Memory.setTable, Dict.get?_insert] at h'
  split at h'
  · next heq =>
    obtain rfl := Option.some.inj h'
    exact heq ▸ ⟨hn, ht⟩
  · exact h.named h'

/-! ### The directories of a new table -/

theorem node?_of_new {name : String} (ht : m.tables.get? name = none) (q : Path) :
    d.node? (p ++ name :: q) = none := by
  rw [h.image, Memory.image_cons, ht, Option.bind_none]

theorem keepsDirs_withTableDirs {name : String} (ht : m.tables.get? name = none) :
    Disk.KeepsDirs d (d.withTableDirs p name) := by
  have hnone := h.node?_of_new ht []
  have hnone' := h.node?_of_new ht [Folder.rowsDir]
  refine (Disk.keepsDirs_setNode (by simp) (by simp [hnone]) .dir).trans
    (Disk.keepsDirs_setNode (by simp) ?_ .dir)
  rw [Disk.node?_setNode_of_ne d (by simp) (by simp), List.append_assoc, List.singleton_append,
    hnone']
  simp

theorem node?_withTableDirs (name : String) (q : Path) :
    (d.withTableDirs p name).node? (p ++ q) =
      if q = [name, Folder.rowsDir] then some .dir
      else if q = [name] then some .dir
      else m.image q := by
  rw [Disk.withTableDirs, List.append_assoc, Disk.node?_setNode_below _ p (by simp),
    Disk.node?_setNode_below d p (by simp), h.image]
  rfl

section Located

variable {f : Folder} (hroot : d₀.locate f.root = .ok p)

include hroot

theorem locate_root : d.locate f.root = .ok p := h.keeps.locate hroot

theorem isDir_root : d.isDir f.root = true := by
  rw [Disk.isDir, Disk.find?, h.locate_root hroot]
  simp only [h.node?_root]

theorem locate_table {name : String} (hn : Folder.validName name = true) :
    d.locate (Disk.child f.root name) = .ok (p ++ [name]) := by
  rw [Disk.locate_child h.unlimited (h.locate_root hroot) (Folder.plainName_of_validName hn),
    h.node?_root]

theorem tableDir_eq {name : String} (hn : Folder.validName name = true) :
    f.tableDir name d = .ok (Disk.child f.root name) := by
  rw [Folder.tableDir, if_pos (h.isDir_root hroot), if_pos hn]

theorem locate_layoutFile {name : String} (hn : Folder.validName name = true) :
    d.locate (Disk.child (Disk.child f.root name) Folder.layoutFile) =
      match m.tables.get? name with
      | some _ => .ok (p ++ [name] ++ [Folder.layoutFile])
      | none => .error .notFound := by
  rw [Disk.locate_child h.unlimited (h.locate_table hroot hn) Folder.plainName_layoutFile,
    h.node?_table]
  cases m.tables.get? name <;> rfl

/-- A table is found exactly if the instance has it. -/
theorem hasLayout_eq {name : String} (hn : Folder.validName name = true) :
    Folder.hasLayout (Disk.child f.root name) d = (m.tables.get? name).isSome := by
  rw [Folder.hasLayout, Disk.isFile, Disk.find?, h.locate_layoutFile hroot hn]
  cases ht : m.tables.get? name with
  | none => rfl
  | some t => simp only [h.node?_layoutFile ht, Option.isSome_some]

theorem locate_rowsDir {name : String} {t : MemoryTable} (hn : Folder.validName name = true)
    (ht : m.tables.get? name = some t) :
    d.locate (Disk.child (Disk.child f.root name) Folder.rowsDir) =
      .ok (p ++ [name] ++ [Folder.rowsDir]) := by
  rw [Disk.locate_child h.unlimited (h.locate_table hroot hn) Folder.plainName_rowsDir,
    h.node?_table, ht]
  rfl

theorem readRow_eq {name : String} {t : MemoryTable} (hn : Folder.validName name = true)
    (ht : m.tables.get? name = some t) (key : String) :
    Folder.readRow d (Disk.child (Disk.child (Disk.child f.root name) Folder.rowsDir)
      (RowFile.name key)) = .ok (t.rows.get? key) := by
  refine (h.keyed ht).readRow_eq ?_ (h.node?_rowFile ht _)
  rw [Disk.locate_child h.unlimited (h.locate_rowsDir hroot hn ht) (RowFile.plainName_name key),
    h.node?_rowsDir ht]

/-- The rows of an opened table, which may have been deleted since. -/
theorem rowsAt_eq {handle : TableHandle} (hn : Folder.validName handle.name = true)
    (hname : handle.layout.name = handle.name) :
    f.rowsAt handle d = match m.tables.get? handle.layout.name with
      | some _ => .ok (Disk.child (Disk.child f.root handle.name) Folder.rowsDir)
      | none => .error (.tableNotFound handle.layout.name) := by
  rw [Folder.rowsAt, h.hasLayout_eq hroot hn, hname]
  cases m.tables.get? handle.name <;> rfl

/-! ### Reading -/

theorem tableExists_eq {name : String} (hn : Folder.validName name = true) :
    f.tableExists name d = m.tableExists name := by
  rw [Folder.tableExists, h.tableDir_eq hroot hn, Memory.tableExists_of_online h.online,
    ← h.hasLayout_eq hroot hn]
  rfl

theorem openTable_eq {name : String} (hn : Folder.validName name = true) :
    f.openTable name d = m.openTable name := by
  rw [Folder.openTable, h.tableDir_eq hroot hn, Memory.openTable_of_online h.online]
  simp only [bind, Except.bind]
  cases ht : m.tables.get? name with
  | none =>
      have hfile : d.isFile (Disk.child (Disk.child f.root name) Folder.layoutFile) = false := by
        rw [← Folder.hasLayout, h.hasLayout_eq hroot hn, ht]
        rfl
      rw [hfile]
      rfl
  | some t =>
      have hfile : d.isFile (Disk.child (Disk.child f.root name) Folder.layoutFile) = true := by
        rw [← Folder.hasLayout, h.hasLayout_eq hroot hn, ht]
        rfl
      have hread : d.read (Disk.child (Disk.child f.root name) Folder.layoutFile)
          = .ok t.layout.content := by
        rw [Disk.read, h.locate_layoutFile hroot hn, ht]
        simp only [bind, Except.bind, h.node?_layoutFile ht]
      rw [hfile, hread]
      simp only [TableLayout.content, ofBytes?_layout, if_true]

theorem getRow_eq {handle : TableHandle} (hn : Folder.validName handle.name = true)
    (hname : handle.layout.name = handle.name) (key : String) :
    f.getRow handle key d = m.getRow handle key := by
  rw [Folder.getRow, h.rowsAt_eq hroot hn hname, Memory.getRow, Memory.table_of_online h.online]
  cases ht : m.tables.get? handle.layout.name with
  | none => rfl
  | some t => exact h.readRow_eq hroot hn (hname ▸ ht) key

theorem scan_eq {handle : TableHandle} (hn : Folder.validName handle.name = true)
    (hname : handle.layout.name = handle.name) (after : String) (limit : Nat) :
    f.scan handle (some after) limit d = m.scan handle (some after) limit := by
  rw [Folder.scan, h.rowsAt_eq hroot hn hname]
  cases ht : m.tables.get? handle.layout.name with
  | none =>
      rw [Memory.scan, Memory.table_of_online h.online, ht]
      rfl
  | some t =>
      have ht' : m.tables.get? handle.name = some t := hname ▸ ht
      rw [Memory.scan_of_online h.online ht]
      exact Folder.scanIn_eq (h.locate_rowsDir hroot hn ht') (h.node?_rowsDir ht')
        (h.mem_rowsDir ht') (fun key _ => h.readRow_eq hroot hn ht' key) after limit

/-! ### Changing -/

theorem putRow_sameChange {handle : TableHandle} (hn : Folder.validName handle.name = true)
    (hname : handle.layout.name = handle.name) (key : String) (cells : List Cell) :
    SameChange d₀ p d (f.putRow handle key cells d) (m.putRow handle key cells) := by
  rw [Folder.putRow, Folder.rowToWrite]
  cases hc : handle.layout.checkCells cells with
  | error e => exact .inl ⟨e, rfl, Memory.putRow_of_unknownFamily hc⟩
  | ok u =>
      rw [Memory.putRow_of_checked hc, h.rowsAt_eq hroot hn hname, Memory.table_of_online h.online]
      cases ht : m.tables.get? handle.layout.name with
      | none => exact .inl ⟨_, rfl, rfl⟩
      | some t =>
          have ht' : m.tables.get? handle.name = some t := hname ▸ ht
          simp only [bind, Except.bind, h.readRow_eq hroot hn ht', pure, Except.pure]
          have hnode : d.node? (p ++ [handle.name] ++ [Folder.rowsDir] ++ [RowFile.name key])
              ≠ some .dir := by
            rw [h.node?_rowFile ht']
            cases t.rowIn (RowFile.name key) <;> simp
          have hfree : ∀ q, p ++ [handle.name] ++ [Folder.rowsDir] ++
              [Disk.withEnding (RowFile.name key) "tmp"] <+: q → d.nodes.get? q = none := by
            rintro _ ⟨q, rfl⟩
            simp only [List.append_assoc, List.cons_append, List.nil_append]
            refine h.get?_of_image (by simp) ?_
            rw [Memory.image_cons, ht', Option.bind_some]
            cases q with
            | nil =>
                rw [MemoryTable.image_row,
                  MemoryTable.rowIn_eq_none (RowFile.temporary_ne_name key)]
                rfl
            | cons c r => rfl
          rw [Disk.replaceFile_eq (h.locate_rowsDir hroot hn ht')
            (h.node?_rowsDir ht') (RowFile.plainName_name key) (RowFile.plainName_temporary key)
            (RowFile.temporary_ne_name key key) (h.unlimited.fits ..) (h.unlimited.fits ..) hfree
            hnode]
          simp only [List.append_assoc, List.cons_append, List.nil_append] at hnode ⊢
          refine .inr ⟨_, _, rfl, rfl, ?_⟩
          exact {
            keeps := h.keeps.trans (Disk.keepsDirs_setNode (by simp) hnode _)
            unlimited := h.unlimited.setNode ..
            image := fun q => by
              rw [Disk.node?_setNode_below d p (by simp), h.keyed.image_write ht, hname, h.image]
            online := h.online
            keyed := h.keyed.setTable ((h.keyed ht).write key cells) _
            named := h.named_setTable (by rw [hname]; exact hn) (h.named ht).2 }

theorem createTable_sameChange {l : TableLayout} (hn : Folder.validName l.name = true) :
    SameChange d₀ p d (f.createTable l d) (m.createTable l) := by
  rw [Folder.createTable, h.tableDir_eq hroot hn, Memory.createTable_of_online h.online]
  simp only [h.hasLayout_eq hroot hn]
  cases ht : m.tables.get? l.name with
  | some t => exact .inl ⟨_, rfl, rfl⟩
  | none =>
      have hname := Folder.plainName_of_validName hn
      have himage : ∀ q, m.image (l.name :: q) = none := fun q => by
        rw [Memory.image_cons, ht, Option.bind_none]
      have hnone' : d.node? (p ++ [l.name] ++ [Folder.rowsDir]) = none := by
        rw [List.append_assoc]
        exact h.node?_of_new ht _
      have hensure := Disk.ensureDir_below_missing h.unlimited (h.locate_root hroot) h.node?_root
        hname Folder.plainName_rowsDir (h.node?_of_new ht []) hnone'
      rw [← Disk.withTableDirs] at hensure
      simp only [Option.isSome_none, hensure, Folder.ofDisk, Except.mapError, Bool.false_eq_true,
        if_false]
      -- The layout file is written to the tree with the two new directories.
      have hkeeps := h.keepsDirs_withTableDirs ht
      have hunlimited : (d.withTableDirs p l.name).Unlimited :=
        (h.unlimited.setNode ..).setNode ..
      have hnode : (d.withTableDirs p l.name).node? (p ++ [l.name]) = some .dir := by
        simp [h.node?_withTableDirs]
      have hfile : (d.withTableDirs p l.name).node? (p ++ [l.name] ++ [Folder.layoutFile])
          ≠ some .dir := by
        have hne : Folder.layoutFile ≠ Folder.rowsDir := by decide
        rw [List.append_assoc, h.node?_withTableDirs, List.singleton_append, himage,
          if_neg (by simpa using hne), if_neg (by simp)]
        simp
      have hfree : ∀ q, p ++ [l.name] ++ [Disk.withEnding Folder.layoutFile "tmp"] <+: q →
          (d.withTableDirs p l.name).nodes.get? q = none := by
        rintro _ ⟨q, rfl⟩
        have hne : Disk.withEnding Folder.layoutFile "tmp" ≠ Folder.rowsDir := by decide
        simp only [List.append_assoc, List.cons_append, List.nil_append]
        rw [← Disk.node?_of_ne_nil _ (by simp), h.node?_withTableDirs, himage,
          if_neg (by simp [hne]), if_neg (by simp)]
      rw [Disk.replaceFile_eq (hkeeps.locate (h.locate_table hroot hn)) hnode
        Folder.plainName_layoutFile Folder.plainName_temporary (by decide) (hunlimited.fits ..)
        (hunlimited.fits ..) hfree hfile]
      refine .inr ⟨_, _, rfl, rfl, ?_⟩
      rw [List.append_assoc, List.singleton_append] at hfile ⊢
      exact {
        keeps := (h.keeps.trans hkeeps).trans (Disk.keepsDirs_setNode (by simp) hfile _)
        unlimited := hunlimited.setNode ..
        image := fun q => by
          rw [Disk.node?_setNode_below _ p (by simp), h.node?_withTableDirs,
            Memory.image_create ht]
          rfl
        online := h.online
        keyed := h.keyed.setTable (MemoryTable.keyed_empty l) _
        named := h.named_setTable hn rfl }

/-- What is below the root may be deleted, since no way to the root leads
through it. -/
theorem deleteTable_sameChange (hempty : ∀ q ≠ [], d₀.node? (p ++ q) = none) {name : String}
    (hn : Folder.validName name = true) :
    SameChange d₀ p d (f.deleteTable name d) (m.deleteTable name) := by
  rw [Folder.deleteTable, h.tableDir_eq hroot hn, Memory.deleteTable_of_online h.online]
  simp only [h.hasLayout_eq hroot hn]
  cases ht : m.tables.get? name with
  | none => exact .inl ⟨_, rfl, rfl⟩
  | some t =>
      have hremove : d.removeDir (Disk.child f.root name) = .ok (d.prune (p ++ [name])) := by
        rw [Disk.removeDir, h.locate_table hroot hn]
        simp only [bind, Except.bind, h.node?_table, ht, Option.map_some]
      have hprune := d.node?_prune (p := p ++ [name]) (by simp)
      simp only [Option.isSome_some, if_true, hremove]
      refine .inr ⟨_, _, rfl, rfl, ?_⟩
      exact {
        keeps := ⟨h.keeps.workDir, h.keeps.limits, fun q hq => by
          have hkept : ¬p ++ [name] <+: q := by
            rintro ⟨r, rfl⟩
            rw [List.append_assoc, hempty _ (by simp)] at hq
            cases hq
          rw [hprune, if_neg hkept]
          exact h.keeps.dirs q hq⟩
        unlimited := ⟨h.unlimited.name, h.unlimited.address⟩
        image := fun q => by
          rw [hprune, h.image, Memory.image_erase]
          simp
        online := h.online
        keyed := fun name' t' h' => by
          rw [Dict.get?_erase] at h'
          split at h'
          · cases h'
          · exact h.keyed h'
        named := fun name' t' h' => by
          rw [Dict.get?_erase] at h'
          split at h'
          · cases h'
          · exact h.named h' }

end Located

end Mirrors

/-- An empty directory mirrors an instance without tables. -/
theorem mirrors_new {d : Disk} {p : Path} (hd : d.Unlimited) (hnode : d.node? p = some .dir)
    (hempty : ∀ q ≠ [], d.node? (p ++ q) = none) (uri : String) : Mirrors d p d (.new uri) where
  keeps := ⟨rfl, rfl, fun _ => id⟩
  unlimited := hd
  image := fun q => by
    cases q with
    | nil => rwa [List.append_nil]
    | cons c r => exact hempty _ (by simp)
  online := rfl
  keyed := Memory.keyed_new uri
  named := nofun

end JobLedger
