import JobLedger.Proofs.Disk.Made
import JobLedger.Proofs.Disk.SameWay
import JobLedger.Proofs.Storage.FileUrl
import JobLedger.Proofs.Storage.Mirror
import Mathlib.Data.List.Flatten

/-!
# The address of an instance in a directory

An instance gives `file://` and its root as its address. Opened again, this is a
URL: it leads back to the same directory if the root is absolute and a URL takes
it as it is (`PlainRoot`), and then everything that one instance writes the
other one reads (`Folder.Agrees`). A relative root stands where the URL has its
host, and characters that mean something in a URL lead elsewhere
(`own_address_refused_or_astray`).

Single dots and slashes that say nothing are all that gets lost on the way. A
root that has none of them comes back as it was (`TidyRoot`).
-/

namespace JobLedger

/-! ## Two roots of one directory -/

namespace Folder

/-- Whatever is asked of two instances, they answer the same and leave the same
tree. -/
structure Agrees (f f' : Folder) (d : Disk) : Prop where
  tableExists : ∀ name, f'.tableExists name d = f.tableExists name d
  createTable : ∀ layout, f'.createTable layout d = f.createTable layout d
  deleteTable : ∀ name, f'.deleteTable name d = f.deleteTable name d
  openTable : ∀ name, f'.openTable name d = f.openTable name d
  putRow : ∀ h key cells, f'.putRow h key cells d = f.putRow h key cells d
  getRow : ∀ h key, f'.getRow h key d = f.getRow h key d
  scan : ∀ h after limit, f'.scan h after limit d = f.scan h after limit d

section

variable {f f' : Folder} (h : Disk.SameWay f.root f'.root) {d : Disk}
  (hd : d.limits.address = none)

include h hd

theorem tableDir_cases (hdir : d.isDir f.root = true) (name : String) :
    (∃ e, f.tableDir name d = .error e ∧ f'.tableDir name d = .error e) ∨
      validName name = true ∧ f.tableDir name d = .ok (Disk.child f.root name) ∧
        f'.tableDir name d = .ok (Disk.child f'.root name) := by
  rw [tableDir, tableDir, h.isDir_eq hd, hdir]
  by_cases hname : validName name = true <;> simp [hname]

theorem hasLayout_sameWay (name : String) :
    hasLayout (Disk.child f'.root name) d = hasLayout (Disk.child f.root name) d := by
  rw [hasLayout, hasLayout, ((h.child name).leadsAlike_child layoutFile).isFile_eq hd]

theorem rowsAt_cases (th : TableHandle) :
    (∃ e, f.rowsAt th d = .error e ∧ f'.rowsAt th d = .error e) ∨
      ∃ rows rows', f.rowsAt th d = .ok rows ∧ f'.rowsAt th d = .ok rows' ∧
        Disk.SameWay rows rows' ∧ Disk.LeadsAlike rows rows' := by
  rw [rowsAt, rowsAt, hasLayout_sameWay h hd]
  cases hasLayout (Disk.child f.root th.name) d with
  | true =>
      have hdirs := h.child th.name
      exact .inr ⟨_, _, rfl, rfl, hdirs.child rowsDir, hdirs.leadsAlike_child rowsDir⟩
  | false => exact .inl ⟨_, rfl, rfl⟩

end

theorem readRow_leadsAlike {a a' : String} (h : Disk.LeadsAlike a a') {d : Disk}
    (hd : d.limits.address = none) : readRow d a' = readRow d a := by
  rw [readRow, readRow, h.read_eq hd]

theorem readRows_sameWay {a a' : String} (h : Disk.SameWay a a') {d : Disk}
    (hd : d.limits.address = none) (files : List (String × String)) :
    readRows d a' files = readRows d a files := by
  induction files with
  | nil => rfl
  | cons file files ih =>
      rw [readRows, readRows, readRow_leadsAlike (h.leadsAlike_child _) hd, ih]

/-- Two roots that lead the same way are roots of one instance. -/
theorem agrees_of_sameWay {f f' : Folder} (h : Disk.SameWay f.root f'.root) {d : Disk}
    (hd : d.limits.address = none) (hdir : d.isDir f.root = true) : f.Agrees f' d where
  tableExists name := by
    rw [tableExists, tableExists]
    rcases tableDir_cases h hd hdir name with ⟨e, he, he'⟩ | ⟨-, hok, hok'⟩
    · rw [he, he']
    · rw [hok, hok']
      exact congrArg Except.ok (hasLayout_sameWay h hd name)
  createTable layout := by
    rw [createTable, createTable]
    rcases tableDir_cases h hd hdir layout.name with ⟨e, he, he'⟩ | ⟨hname, hok, hok'⟩
    · rw [he, he']
    · have hdirs := h.child layout.name
      have hlimits := (Disk.ensureDir_changedAt
        (Disk.child (Disk.child f.root layout.name) rowsDir) d).limits
      rw [hok, hok']
      simp only [hasLayout_sameWay h hd, hdirs.ensureDir_child_eq hd plainName_rowsDir]
      cases hmade : d.ensureDir (Disk.child (Disk.child f.root layout.name) rowsDir) with
      | mk result d₁ =>
          rw [hmade] at hlimits
          cases result with
          | error e => rfl
          | ok u => simp only [ofDisk, Except.mapError, hdirs.replaceFile_eq (hlimits ▸ hd)]
  deleteTable name := by
    rw [deleteTable, deleteTable]
    rcases tableDir_cases h hd hdir name with ⟨e, he, he'⟩ | ⟨-, hok, hok'⟩
    · rw [he, he']
    · rw [hok, hok']
      simp only [hasLayout_sameWay h hd, (h.leadsAlike_child name).removeDir_eq hd]
  openTable name := by
    rw [openTable, openTable]
    rcases tableDir_cases h hd hdir name with ⟨e, he, he'⟩ | ⟨-, hok, hok'⟩
    · rw [he, he']
    · have hfile := (h.child name).leadsAlike_child layoutFile
      rw [hok, hok']
      simp only [bind, Except.bind, hfile.isFile_eq hd, hfile.read_eq hd]
  putRow th key cells := by
    rw [putRow, putRow, rowToWrite, rowToWrite]
    cases th.layout.checkCells cells with
    | error e => rfl
    | ok u =>
        rcases rowsAt_cases h hd th with ⟨e, he, he'⟩ | ⟨rows, rows', hok, hok', hrows, -⟩
        · rw [he, he']
        · rw [hok, hok']
          simp only [bind, Except.bind, readRow_leadsAlike (hrows.leadsAlike_child _) hd]
          cases readRow d (Disk.child rows (RowFile.name key)) with
          | error e => rfl
          | ok r => exact congrArg ofDisk (hrows.replaceFile_eq hd _ _)
  getRow th key := by
    rw [getRow, getRow]
    rcases rowsAt_cases h hd th with ⟨e, he, he'⟩ | ⟨rows, rows', hok, hok', hrows, -⟩
    · rw [he, he']
    · rw [hok, hok']
      exact readRow_leadsAlike (hrows.leadsAlike_child _) hd
  scan th after limit := by
    rw [scan, scan]
    rcases rowsAt_cases h hd th with ⟨e, he, he'⟩ | ⟨rows, rows', hok, hok', hrows, hlist⟩
    · rw [he, he']
    · rw [hok, hok']
      simp only [bind, Except.bind, hlist.list_eq hd, readRows_sameWay hrows hd]

end Folder

/-! ## The address of a root -/

/-- A root that its address holds as it is. -/
structure PlainRoot (root : String) : Prop where
  plain : FileUrl.Plain root.toList
  /-- Going up is resolved in the address without a look at the tree. -/
  noUp : ".." ∉ Disk.components root
  /-- Addresses are trimmed. -/
  ends : ∀ c ∈ root.toList.getLast?, ¬isBlank c = true ∧ ¬FileUrl.isEdge c = true

instance (root : String) : Decidable (PlainRoot root) :=
  decidable_of_iff
    (FileUrl.Plain root.toList ∧ ".." ∉ Disk.components root ∧
      root.toList.getLast?.all (fun c => !isBlank c && !FileUrl.isEdge c) = true)
    ⟨fun h => ⟨h.1, h.2.1, by simpa [Option.all_eq_true] using h.2.2⟩,
      fun h => ⟨h.plain, h.noUp, by simpa [Option.all_eq_true] using h.ends⟩⟩

/-- A root in which an address leaves nothing out and adds nothing. -/
structure TidyRoot (root : String) : Prop where
  noStay : "." ∉ Disk.components root
  front : ¬"//".toList <+: root.toList
  noDrive : root.toList.getLast? ≠ some ':' ∧ root.toList.getLast? ≠ some '|'

theorem names_eq_filter (address : String) :
    Disk.names address =
      ((pieces '/' address.toList).filter FileUrl.leadsOn).map String.ofList := by
  rw [Disk.names, Disk.components, List.filter_map]
  congr 1
  refine List.filter_congr fun s _ => ?_
  simp [FileUrl.leadsOn, FileUrl.ofList_eq_iff]

theorem mem_components_ofList {s : List Char} {address : String} :
    String.ofList s ∈ Disk.components address ↔ s ∈ pieces '/' address.toList := by
  rw [Disk.components, List.mem_map]
  constructor
  · rintro ⟨t, ht, heq⟩
    rwa [← String.ofList_injective heq]
  · exact fun h => ⟨s, h, rfl⟩

theorem exists_tail_of_isAbsolute {root : String} (h : Disk.isAbsolute root = true) :
    ∃ r, root.toList = '/' :: r := by
  rw [Disk.isAbsolute, decide_eq_true_eq] at h
  obtain ⟨r, hr⟩ := List.head?_eq_some_iff.mp h
  exact ⟨r, hr⟩

section

variable {root : String} {r : List Char} (hr : root.toList = '/' :: r)

include hr

/-- Behind the slash in front are the components of the root. -/
theorem not_mem_pieces_of_tail {s : List Char} (h : String.ofList s ∉ Disk.components root) :
    s ∉ pieces '/' r := by
  have hpieces : s ∉ pieces '/' root.toList := mt mem_components_ofList.mpr h
  rw [hr, pieces, if_pos rfl] at hpieces
  exact List.not_mem_of_not_mem_cons hpieces

theorem sameWay_settledPath {slash : List Char} (hslash : slash = [] ∨ slash = ['/']) :
    Disk.SameWay root (.ofList (FileUrl.settledPath r ++ slash)) := by
  refine ⟨by simp [Disk.isAbsolute, hr], by simp [Disk.isAbsolute, FileUrl.settledPath], ?_⟩
  have hpieces : (pieces '/' (FileUrl.settledPath r ++ slash)).filter FileUrl.leadsOn =
      (pieces '/' (FileUrl.settledPath r)).filter FileUrl.leadsOn := by
    rcases hslash with rfl | rfl
    · rw [List.append_nil]
    · rw [pieces_append, List.filter_append]
      exact List.append_nil _
  rw [names_eq_filter, names_eq_filter, String.toList_ofList, hpieces, FileUrl.pieces_settledPath,
    List.filter_cons_of_neg (by decide), FileUrl.filter_dropEmpty, FileUrl.filter_settled, hr,
    pieces, if_pos rfl, List.filter_cons_of_neg (by decide)]

theorem TidyRoot.settledPath_eq (h : TidyRoot root) : FileUrl.settledPath r = root.toList := by
  have hfront : r.head? ≠ some '/' := by
    intro hhead
    obtain ⟨r', rfl⟩ := List.head?_eq_some_iff.mp hhead
    exact h.front (hr ▸ ⟨r', rfl⟩)
  rw [FileUrl.settledPath_eq_self (not_mem_pieces_of_tail hr h.noStay) hfront, hr]

end

namespace PlainRoot

variable {root : String} (h : PlainRoot root)

include h

/-- What the address of an absolute root leads to leads the same way. It is one
slash longer at most. -/
theorem exists_sameWay (habs : Disk.isAbsolute root = true) :
    ∃ root', FileUrl.path? ("file://" ++ root) = .ok root' ∧ Disk.SameWay root root' ∧
      (Utf8.bytes root').length ≤ (Utf8.bytes (root ++ "/")).length ∧
      (TidyRoot root → root' = root) := by
  obtain ⟨r, hr⟩ := exists_tail_of_isAbsolute habs
  obtain ⟨slash, hslash, hpath, hdrive⟩ := FileUrl.path?_of_plain (hr ▸ h.plain)
    (not_mem_pieces_of_tail hr h.noUp) (hr ▸ fun c hc => (h.ends c hc).2)
  have haddress : String.ofList ("file://".toList ++ '/' :: r) = "file://" ++ root := by
    rw [← hr, String.ofList_append, String.ofList_toList, String.ofList_toList]
  have hslash' : slash = [] ∨ slash = ['/'] := by simpa using hslash
  refine ⟨.ofList (FileUrl.settledPath r ++ slash), by rw [← haddress, hpath],
    sameWay_settledPath hr hslash', ?_, fun htidy => ?_⟩
  · have hshort : slash.Sublist "/".toList := by
      rcases hslash' with rfl | rfl
      · exact List.nil_sublist _
      · exact List.Sublist.refl _
    rw [Utf8.bytes, Utf8.bytes, String.toList_ofList, String.toList_append, hr]
    exact (((FileUrl.settledPath_sublist r).append hshort).flatMap _).length_le
  · rw [htidy.settledPath_eq hr] at hdrive ⊢
    have hnil : slash = [] := by
      by_contra hne
      exact (hdrive hne).elim htidy.noDrive.1 htidy.noDrive.2
    rw [hnil, List.append_nil, String.ofList_toList]

/-- The address is read as a file URL. -/
theorem openInstance_eq (hne : root ≠ "") (s : Site) :
    s.openInstance ("file://" ++ root) =
      match FileUrl.path? ("file://" ++ root) with
      | .ok root' => s.openFolder root'
      | .error fault => (.error (.unavailable (.badAddress ("file://" ++ root) fault)), s) := by
  have hlast : ∀ c ∈ ("file://" ++ root).toList.getLast?, ¬isBlank c = true := by
    have hroot : root.toList ≠ [] := mt String.toList_eq_nil_iff.mp hne
    rw [String.toList_append, List.getLast?_append_of_ne_nil _ hroot]
    exact fun c hc => (h.ends c hc).1
  have htrim : trim ("file://" ++ root) = "file://" ++ root := by
    have hfirst : ∀ c ∈ ("file://" ++ root).toList.head?, ¬isBlank c = true := by
      rw [String.toList_append]
      rintro c ⟨⟩
      decide
    rw [trim, trimChars_eq_self hfirst hlast, String.ofList_toList]
  have hscheme : uriScheme? ("file://" ++ root) = some "file" := by
    rw [uriScheme?, String.toList_append]
    rfl
  rw [Site.openInstance, htrim, hscheme]
  rfl

end PlainRoot

/-- Opening a root that can be opened makes a directory of it. -/
theorem Site.isDir_of_openFolder {root : String} (hne : root ≠ "") {s s' : Site} {i : Instance}
    (h : s.openFolder root = (.ok i, s')) :
    i = .folder ⟨root⟩ ∧ s'.disk.isDir root = true ∧ s'.disk.limits = s.disk.limits := by
  rw [openFolder, Folder.openAt] at h
  have hlimits := (Disk.ensureDir_changedAt root s.disk).limits
  cases hmade : s.disk.ensureDir root with
  | mk result d =>
      rw [hmade] at h hlimits
      cases result with
      | error e => cases h
      | ok u =>
          cases h
          exact ⟨rfl, Disk.isDir_of_ensureDir hne hmade, hlimits⟩

theorem Site.openFolder_of_isDir {root : String} {s : Site} (h : s.disk.isDir root = true) :
    s.openFolder root = (.ok (.folder ⟨root⟩), s) := by
  rw [openFolder, Folder.openAt, Disk.ensureDir_of_isDir h]

/-- **The address of an instance in a directory leads back to it if it holds the
root as it is.** Opened again, it is the same directory, and nothing changes; it
is the same instance if nothing in the root gets lost, and one that answers alike
in any case. A relative root becomes the host of the address, and is refused
unless this is a name of the machine itself or a drive is on the way. -/
theorem reopened_by_own_address {root : String} (h : PlainRoot root) :
    (Disk.isAbsolute root = true → ∀ {s s' : Site} {i : Instance},
      s.openFolder root = (.ok i, s') →
      TidyRoot root ∨ Disk.exceeds s.disk.limits.address (root ++ "/") = false →
      ∃ f', s'.openInstance (Backend.uri i s') = (.ok (.folder f'), s') ∧
        (∃ p, s'.disk.locate root = .ok p ∧ s'.disk.node? p = some .dir ∧
          s'.disk.locate f'.root = .ok p) ∧
        (TidyRoot root → i = .folder f') ∧
        ∀ d : Disk, d.limits.address = none → d.isDir root = true →
          Folder.Agrees ⟨root⟩ f' d) ∧
    (root ≠ "" → Disk.isAbsolute root = false →
      (∀ s ∈ pieces '/' root.toList, FileUrl.isDrive s = false) →
      (∀ s ∈ (pieces '/' root.toList).head?, FileUrl.host? s ≠ some .local) →
      ∃ fault, ∀ s : Site, s.openInstance ("file://" ++ root) =
        (.error (.unavailable (.badAddress ("file://" ++ root) fault)), s)) := by
  refine ⟨fun habs s s' i hopen hroom => ?_, fun hne habs hdrive hhost => ?_⟩
  · have hne := Disk.ne_empty_of_isAbsolute habs
    obtain ⟨rfl, hdir, hlimits⟩ := Site.isDir_of_openFolder hne hopen
    obtain ⟨root', hpath, hway, hlength, htidy⟩ := h.exists_sameWay habs
    obtain ⟨p, hp, hnode⟩ := Disk.isDir_iff.mp hdir
    have hcheck := (Disk.locate_eq_ok_iff.mp hp).1
    have hfits : Disk.exceeds s'.disk.limits.address root' = false := by
      rcases hroom with ht | hroom
      · rw [htidy ht]
        exact (Disk.checkAddress_eq_ok_iff.mp hcheck).2.2
      · exact Disk.exceeds_of_length_le hlength (hlimits ▸ hroom)
    have hp' := hway.locate_of_dir hp hnode (hway.checkAddress_of_fits hcheck hfits)
    have hdir' : s'.disk.isDir root' = true := Disk.isDir_iff.mpr ⟨p, hp', hnode⟩
    refine ⟨⟨root'⟩, ?_, ⟨p, hp, hnode, hp'⟩, fun ht => by rw [htidy ht],
      fun d hd hroot => Folder.agrees_of_sameWay hway hd hroot⟩
    have hopen' := h.openInstance_eq hne s'
    rw [hpath] at hopen'
    exact hopen'.trans (Site.openFolder_of_isDir hdir')
  · have hroot : root.toList ≠ [] := mt String.toList_eq_nil_iff.mp hne
    obtain ⟨fault, hpath⟩ := FileUrl.path?_of_relative h.plain hroot (fun c hc => (h.ends c hc).2)
      hdrive hhost
    rw [String.ofList_append, String.ofList_toList, String.ofList_toList] at hpath
    refine ⟨fault, fun s => ?_⟩
    rw [h.openInstance_eq hne, hpath]

/-- A root with a single dot in it is left without the dot, which makes no
difference. -/
theorem reopened_of_var_and_refused_of_st :
    let opened := (Site.ofDisk (.empty [] ⟨none, none⟩)).openFolder "/var/./st"
    (opened.1 = .ok (.folder ⟨"/var/./st"⟩) ∧
      ∃ f', opened.2.openInstance "file:///var/./st" = (.ok (.folder f'), opened.2) ∧
        opened.2.disk.locate f'.root = .ok ["var", "st"] ∧
        Folder.Agrees ⟨"/var/./st"⟩ f' opened.2.disk) ∧
    ∃ fault, ∀ s : Site, s.openInstance "file://st" =
      (.error (.unavailable (.badAddress "file://st" fault)), s) := by
  intro opened
  constructor
  · have hplain : PlainRoot "/var/./st" := by decide +kernel
    have hfolder : opened.1 = .ok (.folder ⟨"/var/./st"⟩) := by decide +kernel
    have hopen : (Site.ofDisk (.empty [] ⟨none, none⟩)).openFolder "/var/./st" =
        (.ok (.folder ⟨"/var/./st"⟩), opened.2) := Prod.ext hfolder rfl
    have hroot : opened.2.disk.locate "/var/./st" = .ok ["var", "st"] := by decide +kernel
    obtain ⟨f', hself, ⟨p, hp, -, hp'⟩, -, hagrees⟩ :=
      (reopened_by_own_address hplain).1 (by decide +kernel) hopen (.inr rfl)
    exact ⟨hfolder, f', hself, by rw [hp', ← hp, hroot],
      hagrees opened.2.disk (by decide +kernel) (by decide +kernel)⟩
  · have hplain : PlainRoot "st" := by decide +kernel
    exact (reopened_by_own_address hplain).2 (by decide) (by decide +kernel) (by decide +kernel)
      (by decide +kernel)

/-- A relative root has an address that is refused, and an address with an
escape in it leads to another directory, where the table is missing. -/
theorem own_address_refused_or_astray :
    let top := Site.ofDisk (.empty [] ⟨none, none⟩)
    let relative := top.openFolder "st"
    let escaped := top.openFolder "/a%20b"
    let created := Backend.createTable (Instance.folder ⟨"/a%20b"⟩) ⟨"t", ["info"], ""⟩ escaped.2
    let reopened := created.2.openInstance (Backend.uri (Instance.folder ⟨"/a%20b"⟩) created.2)
    relative.1 = .ok (.folder ⟨"st"⟩) ∧
      relative.2.openInstance (Backend.uri (Instance.folder ⟨"st"⟩) relative.2) =
        (.error (.unavailable (.badAddress "file://st" .notLocal)), relative.2) ∧
      escaped.1 = .ok (.folder ⟨"/a%20b"⟩) ∧ created.1 = .ok () ∧
      reopened.1 = .ok (.folder ⟨"/a b"⟩) ∧
      Backend.tableExists (Instance.folder ⟨"/a%20b"⟩) "t" reopened.2 = .ok true ∧
      Backend.tableExists (Instance.folder ⟨"/a b"⟩) "t" reopened.2 = .ok false := by
  decide +kernel

end JobLedger
