import JobLedger.Proofs.Dict
import JobLedger.Storage.Memory
import Mathlib.Data.List.Sort

/-!
# What the memory backend does

One equation per operation, in terms of the tables of the instance. A
handle leads to the table of its layout's name, and every other table stays
as it is.

Whatever happens to an instance, a row is kept under its own key
(`keyed_run`), so a scan lists the rows behind a key in the order of their
keys (`mem_behind`, `behind_sorted`), and the next scan goes on where the
last one stopped (`behind_getLast_take`).
-/

namespace JobLedger.Memory

theorem reachable_of_online {m : Memory} (h : m.online = true) : m.reachable = .ok () := by
  rw [reachable, if_pos h]

theorem reachable_of_offline {m : Memory} (h : m.online = false) :
    m.reachable = .error (.unavailable (.offline m.uri)) := by
  rw [reachable, h]
  rfl

theorem table_of_offline {m : Memory} (h : m.online = false) (name : String) :
    m.table name = .error (.unavailable (.offline m.uri)) := by
  rw [table, reachable_of_offline h]
  rfl

theorem table_of_online {m : Memory} (h : m.online = true) (name : String) :
    m.table name = match m.tables.get? name with
      | some t => .ok t
      | none => .error (.tableNotFound name) := by
  rw [table, reachable_of_online h]
  rfl

theorem table_eq_ok_iff {m : Memory} {name : String} {t : MemoryTable} :
    m.table name = .ok t ↔ m.online = true ∧ m.tables.get? name = some t := by
  cases h : m.online with
  | false => simp [table_of_offline h]
  | true =>
      rw [table_of_online h]
      cases m.tables.get? name <;> simp

/-! ## Tables -/

theorem tableExists_of_online {m : Memory} (h : m.online = true) (name : String) :
    m.tableExists name = .ok (m.tables.get? name).isSome := by
  rw [tableExists, reachable_of_online h]
  rfl

theorem createTable_of_online {m : Memory} (h : m.online = true) (l : TableLayout) :
    m.createTable l = match m.tables.get? l.name with
      | some _ => .error (.tableExists l.name)
      | none => .ok (m.setTable l.name ⟨l, ∅⟩) := by
  rw [createTable, reachable_of_online h, Dict.contains]
  cases m.tables.get? l.name <;> rfl

theorem deleteTable_of_online {m : Memory} (h : m.online = true) (name : String) :
    m.deleteTable name = match m.tables.get? name with
      | some _ => .ok { m with tables := m.tables.erase name }
      | none => .error (.tableNotFound name) := by
  rw [deleteTable, table_of_online h]
  cases m.tables.get? name <;> rfl

theorem openTable_of_online {m : Memory} (h : m.online = true) (name : String) :
    m.openTable name = match m.tables.get? name with
      | some t => .ok ⟨name, t.layout⟩
      | none => .error (.tableNotFound name) := by
  rw [openTable, table_of_online h]
  cases m.tables.get? name <;> rfl

/-! ## Writing rows -/

theorem putRow_of_unknownFamily {m : Memory} {h : TableHandle} {key : String} {cells : List Cell}
    {e : StoreError} (he : h.layout.checkCells cells = .error e) :
    m.putRow h key cells = .error e := by
  rw [putRow, he]
  rfl

theorem putRow_of_checked {m : Memory} {h : TableHandle} {key : String} {cells : List Cell}
    (hc : h.layout.checkCells cells = .ok ()) :
    m.putRow h key cells = (m.table h.layout.name).map fun t =>
      m.setTable h.layout.name (t.write key cells) := by
  rw [putRow, hc]
  cases m.table h.layout.name <;> rfl

/-- A write that succeeds changes the row of its key and nothing else. -/
theorem putRow_eq_ok_iff {m m' : Memory} {h : TableHandle} {key : String} {cells : List Cell} :
    m.putRow h key cells = .ok m' ↔ h.layout.checkCells cells = .ok () ∧ m.online = true ∧
      ∃ t, m.tables.get? h.layout.name = some t ∧
        m' = m.setTable h.layout.name (t.write key cells) := by
  cases hc : h.layout.checkCells cells with
  | error e => simp [putRow_of_unknownFamily hc]
  | ok u =>
      rw [putRow_of_checked hc]
      cases ht : m.table h.layout.name with
      | error e =>
          refine ⟨(fun h => by cases h), ?_⟩
          rintro ⟨-, hon, t, hget, -⟩
          rw [table_eq_ok_iff.mpr ⟨hon, hget⟩] at ht
          cases ht
      | ok t =>
          obtain ⟨hon, hget⟩ := table_eq_ok_iff.mp ht
          simp [Except.map, hon, hget, eq_comm]

theorem get?_write (t : MemoryTable) (key key' : String) (cells : List Cell) :
    (t.write key cells).rows.get? key' =
      if key = key' then some (((t.rows.get? key).getD (.empty key)).apply cells)
      else t.rows.get? key' := Dict.get?_update ..

/-- The row of a key in a table, if there is one. -/
def rowAt (m : Memory) (tableName key : String) : Option Row :=
  (m.tables.get? tableName).bind (·.rows.get? key)

theorem rowAt_setTable_write {m : Memory} {name : String} {t : MemoryTable}
    (ht : m.tables.get? name = some t) (key : String) (cells : List Cell) :
    (m.setTable name (t.write key cells)).rowAt name key =
      some (((m.rowAt name key).getD (.empty key)).apply cells) := by
  rw [rowAt, rowAt, setTable, ht]
  simp only [Dict.get?_insert_self, Option.bind_some, get?_write, if_pos]

theorem outcome_eq (m : Memory) (r : Except StoreError Memory) :
    m.outcome r = (r.map fun _ => (), r.toOption.getD m) := by
  cases r <;> rfl

/-! ## Histories of an instance -/

/-- What may happen to an instance. A write may come through any handle. -/
inductive Change
  /-- An outage or a recovery. -/
  | switch (online : Bool)
  | create (layout : TableLayout)
  | delete (name : String)
  | put (h : TableHandle) (key : String) (cells : List Cell)

/-- The instance after a change, also after one that was refused. -/
def change (m : Memory) : Change → Memory
  | .switch online => m.setOnline online
  | .create layout => (Backend.createTable () layout m).2
  | .delete name => (Backend.deleteTable () name m).2
  | .put h key cells => (Backend.putRow () h key cells m).2

/-! ### What a change can do -/

theorem change_create (m : Memory) (l : TableLayout) :
    m.change (.create l) = m ∨
      m.online = true ∧ m.tables.get? l.name = none ∧
        m.change (.create l) = m.setTable l.name ⟨l, ∅⟩ := by
  simp only [change, Backend.createTable]
  cases hon : m.online with
  | false => exact .inl (by rw [createTable, reachable_of_offline hon]; rfl)
  | true =>
      rw [createTable_of_online hon]
      cases m.tables.get? l.name with
      | some t => exact .inl rfl
      | none => exact .inr ⟨rfl, rfl, rfl⟩

theorem change_delete (m : Memory) (name : String) :
    m.change (.delete name) = m ∨
      m.online = true ∧ m.change (.delete name) = { m with tables := m.tables.erase name } := by
  simp only [change, Backend.deleteTable]
  cases hon : m.online with
  | false => exact .inl (by rw [deleteTable, table_of_offline hon]; rfl)
  | true =>
      rw [deleteTable_of_online hon]
      cases m.tables.get? name with
      | none => exact .inl rfl
      | some t => exact .inr ⟨rfl, hon ▸ rfl⟩

theorem change_put (m : Memory) (h : TableHandle) (key : String) (cells : List Cell) :
    m.change (.put h key cells) = m ∨
      ∃ t, m.online = true ∧ m.tables.get? h.layout.name = some t ∧
        m.change (.put h key cells) = m.setTable h.layout.name (t.write key cells) := by
  simp only [change, Backend.putRow]
  cases hput : m.putRow h key cells with
  | error e => exact .inl rfl
  | ok m' =>
      obtain ⟨-, hon, t, ht, rfl⟩ := putRow_eq_ok_iff.mp hput
      exact .inr ⟨t, hon, ht, rfl⟩

/-- The instance after changes in order. -/
def run (m : Memory) (changes : List Change) : Memory := changes.foldl change m

end Memory

/-- Every row is kept under its own key. -/
def MemoryTable.Keyed (t : MemoryTable) : Prop := ∀ ⦃key r⦄, t.rows.get? key = some r → r.key = key

theorem MemoryTable.keyed_empty (l : TableLayout) : (⟨l, ∅⟩ : MemoryTable).Keyed := by
  intro key r h
  rw [Dict.get?_empty] at h
  cases h

theorem MemoryTable.Keyed.write {t : MemoryTable} (ht : t.Keyed) (key : String)
    (cells : List Cell) : (t.write key cells).Keyed := by
  intro key' r hr
  rw [Memory.get?_write] at hr
  split at hr
  · next heq =>
    rw [← Option.some.inj hr, Row.key_apply, ← heq]
    cases hget : t.rows.get? key with
    | none => rfl
    | some r => exact ht hget
  · exact ht hr

namespace Memory

section Tables

variable {P : String → MemoryTable → Prop} {m : Memory}
  (hm : ∀ ⦃name t⦄, m.tables.get? name = some t → P name t)

include hm

theorem tables_setTable {name : String} {t : MemoryTable} (ht : P name t) :
    ∀ ⦃name' t'⦄, (m.setTable name t).tables.get? name' = some t' → P name' t' := by
  intro name' t' h
  rw [setTable, Dict.get?_insert] at h
  split at h
  · next hname => rwa [← hname, ← Option.some.inj h]
  · exact hm h

/-- What new tables have and writes keep, every table has after a change if
it did before. -/
theorem tables_change (hnew : ∀ l, P l.name ⟨l, ∅⟩)
    (hwrite : ∀ {name t}, P name t → ∀ key cells, P name (t.write key cells)) (c : Change) :
    ∀ ⦃name t⦄, (m.change c).tables.get? name = some t → P name t := by
  cases c with
  | switch online => exact hm
  | create l =>
      rcases change_create m l with h | ⟨-, -, h⟩ <;> rw [h]
      · exact hm
      · exact tables_setTable hm (hnew l)
  | delete name =>
      rcases change_delete m name with h | ⟨-, h⟩ <;> rw [h]
      · exact hm
      · intro name' t ht
        rw [Dict.get?_erase] at ht
        split at ht
        · cases ht
        · exact hm ht
  | put h key cells =>
      rcases change_put m h key cells with h' | ⟨t, -, ht, h'⟩ <;> rw [h']
      · exact hm
      · exact tables_setTable hm (hwrite (hm ht) key cells)

end Tables

/-- Every table keeps every row under its own key. -/
def Keyed (m : Memory) : Prop := ∀ ⦃name t⦄, m.tables.get? name = some t → t.Keyed

theorem keyed_new (uri : String) : (new uri).Keyed := nofun

theorem Keyed.setTable {m : Memory} (hm : m.Keyed) {t : MemoryTable} (ht : t.Keyed)
    (name : String) : (m.setTable name t).Keyed :=
  tables_setTable (P := fun _ t => t.Keyed) hm ht

theorem Keyed.change {m : Memory} (hm : m.Keyed) (c : Change) : (m.change c).Keyed :=
  tables_change (P := fun _ t => t.Keyed) hm MemoryTable.keyed_empty (fun ht => ht.write) c

/-- The change is no outage and does not delete the table. -/
def Change.Spares (tableName : String) : Change → Prop
  | .switch online => online = true
  | .delete name => name ≠ tableName
  | .create _ | .put .. => True

/-- A table that is spared stays within reach and loses no row. -/
theorem change_of_spares {m : Memory} {name : String} {t : MemoryTable} {c : Change}
    (hc : c.Spares name) (hon : m.online = true) (ht : m.tables.get? name = some t) :
    (m.change c).online = true ∧ ∃ t', (m.change c).tables.get? name = some t' ∧
      ∀ key, t.rows.contains key → t'.rows.contains key := by
  cases c with
  | switch online => exact ⟨hc, t, ht, fun _ => id⟩
  | create l =>
      rcases change_create m l with h | ⟨-, hnone, h⟩ <;> rw [h]
      · exact ⟨hon, t, ht, fun _ => id⟩
      · have hne : l.name ≠ name := by
          rintro rfl
          exact nomatch hnone.symm.trans ht
        exact ⟨hon, t, (Dict.get?_insert_of_ne _ hne _).trans ht, fun _ => id⟩
  | delete name' =>
      rcases change_delete m name' with h | ⟨-, h⟩ <;> rw [h]
      · exact ⟨hon, t, ht, fun _ => id⟩
      · exact ⟨hon, t, by rw [Dict.get?_erase, if_neg hc, ht], fun _ => id⟩
  | put h key cells =>
      rcases change_put m h key cells with h' | ⟨t', -, ht', h'⟩ <;> rw [h']
      · exact ⟨hon, t, ht, fun _ => id⟩
      · by_cases hname : h.layout.name = name
        · have hsame : t' = t := Option.some.inj (ht'.symm.trans (hname ▸ ht))
          refine ⟨hon, t'.write key cells, hname ▸ Dict.get?_insert_self .., fun key' hkey => ?_⟩
          rw [Dict.contains, get?_write, hsame]
          split
          · rfl
          · exact hkey
        · exact ⟨hon, t, (Dict.get?_insert_of_ne _ hname _).trans ht, fun _ => id⟩

theorem keyed_run {m : Memory} (hm : m.Keyed) (changes : List Change) : (m.run changes).Keyed := by
  induction changes generalizing m with
  | nil => exact hm
  | cons c cs ih => exact ih (hm.change c)

end Memory

/-! ## Scans -/

/-- The rows behind a key, or all rows. -/
def MemoryTable.behind (t : MemoryTable) (after : Option String) : List Row :=
  (match after with
    | some key => t.rows.after key
    | none => t.rows).values

theorem Memory.scan_of_online {m : Memory} {h : TableHandle} {t : MemoryTable}
    (hon : m.online = true) (ht : m.tables.get? h.layout.name = some t) (after : Option String)
    (limit : Nat) : m.scan h after limit = .ok ((t.behind after).take limit) := by
  rw [scan, table_eq_ok_iff.mpr ⟨hon, ht⟩]
  rfl

/-- In a list in key order, every other row comes before the last one. -/
theorem Row.eq_or_lt_of_getLast? {l : List Row} (hl : l.Pairwise fun r s => r.key < s.key)
    {r s : Row} (hr : l.getLast? = some r) (hs : s ∈ l) : s = r ∨ s.key < r.key := by
  obtain ⟨init, rfl⟩ := List.getLast?_eq_some_iff.mp hr
  rcases List.mem_append.mp hs with hs | hs
  · exact .inr ((List.pairwise_append.mp hl).2.2 s hs r (List.mem_singleton_self r))
  · exact .inl (List.mem_singleton.mp hs)

namespace MemoryTable.Keyed

variable {t : MemoryTable} (ht : t.Keyed)

include ht

theorem mem_values {r : Row} : r ∈ t.rows.values ↔ t.rows.get? r.key = some r := by
  rw [Dict.values, List.mem_map, Dict.get?_eq_some_iff]
  constructor
  · rintro ⟨e, he, rfl⟩
    rwa [ht (Dict.get?_eq_some_iff.mpr he)]
  · exact fun h => ⟨_, h, rfl⟩

theorem values_sorted : t.rows.values.Pairwise fun r s => r.key < s.key := by
  rw [Dict.values, List.pairwise_map]
  refine t.rows.sorted.imp_of_mem fun ha hb hlt => ?_
  rwa [ht (Dict.get?_eq_some_iff.mpr ha), ht (Dict.get?_eq_some_iff.mpr hb)]

theorem after (key : String) : Keyed { t with rows := t.rows.after key } := by
  intro key' r h
  rw [Dict.get?_after] at h
  split at h
  · exact ht h
  · cases h

theorem mem_behind {r : Row} {after : Option String} :
    r ∈ t.behind after ↔ t.rows.get? r.key = some r ∧ ∀ key ∈ after, key < r.key := by
  cases after with
  | none => simpa [behind] using ht.mem_values
  | some key =>
      refine (ht.after key).mem_values.trans ?_
      rw [Dict.get?_after]
      by_cases h : key < r.key
      · rw [if_pos h]
        exact ⟨fun hr => ⟨hr, fun key' hkey => Option.some.inj hkey ▸ h⟩, And.left⟩
      · rw [if_neg h]
        exact ⟨(fun hr => by cases hr), fun hr => absurd (hr.2 key rfl) h⟩

theorem behind_sorted (after : Option String) :
    (t.behind after).Pairwise fun r s => r.key < s.key := by
  cases after with
  | none => exact ht.values_sorted
  | some key => exact (ht.after key).values_sorted

/-- The rows of a page come before the rows that do not fit on it. -/
theorem page_lt {after : Option String} {limit : Nat} {r s : Row}
    (hr : r ∈ (t.behind after).take limit) (hs : s ∈ (t.behind after).drop limit) :
    r.key < s.key := by
  have hsorted := ht.behind_sorted after
  rw [← List.take_append_drop limit (t.behind after)] at hsorted
  exact (List.pairwise_append.mp hsorted).2.2 r hr s hs

/-- Behind the last row of a page are the rows that did not fit on it. -/
theorem behind_getLast_take {after : Option String} {limit : Nat} {r : Row}
    (hr : ((t.behind after).take limit).getLast? = some r) :
    t.behind (some r.key) = (t.behind after).drop limit := by
  have hmem : ∀ s, s ∈ t.behind (some r.key) ↔ s ∈ (t.behind after).drop limit := by
    have hlast := List.mem_of_getLast? hr
    have hpage := (ht.behind_sorted after).sublist (List.take_sublist limit _)
    intro s
    constructor
    · intro hs
      obtain ⟨hget, hlt⟩ := ht.mem_behind.mp hs
      have hafter := (ht.mem_behind.mp (List.mem_of_mem_take hlast)).2
      have hall : s ∈ t.behind after :=
        ht.mem_behind.mpr ⟨hget, fun key hkey => KeyOrder.trans (hafter key hkey) (hlt _ rfl)⟩
      rw [← List.take_append_drop limit (t.behind after)] at hall
      refine (List.mem_append.mp hall).resolve_left fun hs => ?_
      rcases Row.eq_or_lt_of_getLast? hpage hr hs with rfl | hgt
      · exact KeyOrder.irrefl _ (hlt _ rfl)
      · exact KeyOrder.irrefl _ (KeyOrder.trans hgt (hlt _ rfl))
    · intro hs
      refine ht.mem_behind.mpr ⟨(ht.mem_behind.mp (List.mem_of_mem_drop hs)).1, ?_⟩
      rintro _ ⟨⟩
      exact ht.page_lt hlast hs
  have hirrefl : Std.Irrefl fun r s : Row => r.key < s.key := ⟨fun _ => KeyOrder.irrefl _⟩
  have hantisymm : Std.Antisymm fun r s : Row => r.key < s.key :=
    ⟨fun _ _ h h' => absurd (KeyOrder.trans h h') (KeyOrder.irrefl _)⟩
  exact (ht.behind_sorted _).eq_of_mem_iff
    ((ht.behind_sorted after).sublist (List.drop_sublist ..)) hmem

end MemoryTable.Keyed

end JobLedger
