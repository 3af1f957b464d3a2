import JobLedger.Proofs.Storage.Refinement
import JobLedger.Proofs.Storage.Row

/-!
# Tracing the families of a row

A write is checked against the layout that its handle has, not against the
one that the table has now, and handles outlive tables. What can still be
said is where a family of a row comes from: `SeenWrite.Brings` is a write
that puts it there.

What is needed of a backend is `TracesFamilies`: one call adds no family to
a row but by such a write. The run then goes by induction on the calls
(`TracesFamilies.after`), once for all backends. Tables in memory have the
property (`Memory.tracesFamilies`).
-/

namespace JobLedger

/-! ## Rows and writes -/

section

variable {ι σ : Type} [Backend ι σ]

/-- The row is kept under a key of the table that opens as `h`. -/
structure StoredRow (i : ι) (s : σ) (h : TableHandle) (key : String) (r : Row) : Prop where
  current : Backend.openTable i h.name s = .ok h
  row : Backend.getRow i h key s = .ok (some r)

/-- Every row has only families that the layout of its table declares. -/
def FamiliesDeclared (i : ι) (s : σ) : Prop :=
  ∀ h key r family, StoredRow i s h key r → r.cells.contains family = true →
    h.layout.hasFamily family = true

end

/-- A write of a session: the handle that it goes through, what the table opens
as at that time, and how it ended. -/
structure SeenWrite where
  through : TableHandle
  current : TableHandle
  key : String
  cells : List Cell
  result : Except StoreError Unit
deriving DecidableEq

namespace SeenWrite

/-- The write puts a family into the row of a key, while the table opens
as `h`. -/
structure Brings (w : SeenWrite) (h : TableHandle) (key family : String) : Prop where
  landed : w.result = .ok ()
  current : w.current = h
  key : w.key = key
  name : w.through.name = h.name
  declared : w.through.layout.hasFamily family = true
  written : ∃ c ∈ w.cells, c.family = family

/-- The handle declares a family that the table does not. -/
def stale (w : SeenWrite) : Bool :=
  w.through.layout.families.any fun family => !w.current.layout.hasFamily family

theorem Brings.hasFamily {w : SeenWrite} {h : TableHandle} {key family : String}
    (hw : w.Brings h key family) (hs : w.stale = false) : h.layout.hasFamily family = true := by
  have hdeclared := hw.declared
  rw [TableLayout.hasFamily, decide_eq_true_eq] at hdeclared
  rw [stale, hw.current, List.any_eq_false] at hs
  simpa using hs family hdeclared

end SeenWrite

namespace Session

variable {ι σ : Type} [Backend ι σ]

/-- The session after calls in order. -/
def after (i : ι) (s : Session σ) (calls : List TableCall) : Session σ :=
  calls.foldl (fun s c => (s.call i c).2) s

/-- The write that a call asks for, if there are the handle and the table. -/
def write? (i : ι) (s : Session σ) : TableCall → Option SeenWrite
  | .putRow handle key cells =>
      s.handles[handle]?.bind fun th =>
        match Backend.openTable i th.name s.state with
        | .ok current =>
            some ⟨th, current, key, cells, (Backend.putRow i th key cells s.state).1⟩
        | .error _ => none
  | _ => none

/-- The writes that calls ask for, in order. -/
def writes (i : ι) (s : Session σ) : List TableCall → List SeenWrite
  | [] => []
  | c :: cs => (s.write? i c).toList ++ (s.call i c).2.writes i cs

end Session

/-! ## One step and a run -/

section

variable {ι σ : Type} [Backend ι σ]

/-- In `valid` states and through `named` handles, nothing but a write puts a
family into a row, and it puts only families that its handle declares. -/
structure TracesFamilies (i : ι) (valid : σ → Prop) (named : TableHandle → Prop) : Prop where
  opened : ∀ {s name h}, valid s → Backend.openTable i name s = .ok h → named h
  create : ∀ {s} l, valid s → valid (Backend.createTable i l s).2 ∧
    ∀ {h key r}, StoredRow i (Backend.createTable i l s).2 h key r → StoredRow i s h key r
  delete : ∀ {s} name, valid s → valid (Backend.deleteTable i name s).2 ∧
    ∀ {h key r}, StoredRow i (Backend.deleteTable i name s).2 h key r → StoredRow i s h key r
  put : ∀ {s th} key cells, valid s → named th → valid (Backend.putRow i th key cells s).2 ∧
    ∀ {h key' r family}, StoredRow i (Backend.putRow i th key cells s).2 h key' r →
      r.cells.contains family = true →
      (∃ r₀, StoredRow i s h key' r₀ ∧ r₀.cells.contains family = true) ∨
        Backend.openTable i th.name s = .ok h ∧
          SeenWrite.Brings ⟨th, h, key, cells, (Backend.putRow i th key cells s).1⟩ h key' family

variable {i : ι} {valid : σ → Prop} {named : TableHandle → Prop}

/-- What one call preserves, and where it puts families. -/
theorem TracesFamilies.call (ht : TracesFamilies i valid named) {s : Session σ}
    (hs : valid s.state ∧ ∀ h ∈ s.handles, named h) (c : TableCall) :
    (valid (s.call i c).2.state ∧ ∀ h ∈ (s.call i c).2.handles, named h) ∧
      ∀ {h key r family}, StoredRow i (s.call i c).2.state h key r →
        r.cells.contains family = true →
        (∃ r₀, StoredRow i s.state h key r₀ ∧ r₀.cells.contains family = true) ∨
          ∃ w ∈ s.write? i c, w.Brings h key family := by
  cases c with
  | tableExists name => exact ⟨hs, fun hr hf => .inl ⟨_, hr, hf⟩⟩
  | createTable l =>
      obtain ⟨hvalid, hrows⟩ := ht.create l hs.1
      exact ⟨⟨hvalid, hs.2⟩, fun hr hf => .inl ⟨_, hrows hr, hf⟩⟩
  | deleteTable name =>
      obtain ⟨hvalid, hrows⟩ := ht.delete name hs.1
      exact ⟨⟨hvalid, hs.2⟩, fun hr hf => .inl ⟨_, hrows hr, hf⟩⟩
  | openTable name =>
      simp only [Session.call]
      cases hopen : Backend.openTable i name s.state with
      | error e => exact ⟨hs, fun hr hf => .inl ⟨_, hr, hf⟩⟩
      | ok th =>
          refine ⟨⟨hs.1, fun h hh => ?_⟩, fun hr hf => .inl ⟨_, hr, hf⟩⟩
          rcases List.mem_append.mp hh with hh | hh
          · exact hs.2 h hh
          · rw [List.mem_singleton.mp hh]
            exact ht.opened hs.1 hopen
  | putRow handle key cells =>
      rw [Session.call, Session.through, Session.write?]
      cases hget : s.handles[handle]? with
      | none => exact ⟨hs, fun hr hf => .inl ⟨_, hr, hf⟩⟩
      | some th =>
          obtain ⟨hvalid, hrows⟩ := ht.put key cells hs.1 (hs.2 th (List.mem_of_getElem? hget))
          refine ⟨⟨hvalid, hs.2⟩, fun hr hf => ?_⟩
          rcases hrows hr hf with hold | ⟨hopen, hnew⟩
          · exact .inl hold
          · refine .inr ⟨_, ?_, hnew⟩
            simp [hopen]
  | getRow handle key | scan handle after limit =>
      rw [Session.call, Session.through]
      cases s.handles[handle]? <;> exact ⟨hs, fun hr hf => .inl ⟨_, hr, hf⟩⟩

/-- Every family of a row that calls have left was there before, or one of
their writes has brought it. -/
theorem TracesFamilies.after (ht : TracesFamilies i valid named) {calls : List TableCall}
    {s : Session σ} (hs : valid s.state ∧ ∀ h ∈ s.handles, named h) {h : TableHandle}
    {key : String} {r : Row} {family : String} (hr : StoredRow i (s.after i calls).state h key r)
    (hf : r.cells.contains family = true) :
    (∃ r₀, StoredRow i s.state h key r₀ ∧ r₀.cells.contains family = true) ∨
      ∃ w ∈ s.writes i calls, w.Brings h key family := by
  induction calls generalizing s with
  | nil => exact .inl ⟨r, hr, hf⟩
  | cons c cs ih =>
      obtain ⟨hvalid, hcall⟩ := ht.call hs c
      have hwrites : s.writes i (c :: cs) = (s.write? i c).toList ++ (s.call i c).2.writes i cs :=
        rfl
      rw [hwrites]
      rcases ih hvalid hr with ⟨r₀, hr₀, hf₀⟩ | ⟨w, hw, hbrings⟩
      · rcases hcall hr₀ hf₀ with hold | ⟨w, hw, hbrings⟩
        · exact .inl hold
        · exact .inr ⟨w, List.mem_append_left _ (Option.mem_toList.mpr hw), hbrings⟩
      · exact .inr ⟨w, List.mem_append_right _ hw, hbrings⟩

end

theorem hasFamily_of_checkCells {l : TableLayout} {cells : List Cell} {c : Cell} {family : String}
    (hcheck : l.checkCells cells = .ok ()) (hc : c ∈ cells) (hfamily : c.family = family) :
    l.hasFamily family = true := by
  rw [TableLayout.hasFamily, ← hfamily]
  exact decide_eq_true (TableLayout.checkCells_eq_ok_iff.mp hcheck c hc)

/-! ## Tables in memory -/

namespace Memory

/-- Every table is kept under the name that its layout has. -/
def Named (m : Memory) : Prop := ∀ ⦃name t⦄, m.tables.get? name = some t → t.layout.name = name

theorem named_new (uri : String) : (new uri).Named := nofun

theorem Named.setTable {m : Memory} (hm : m.Named) {name : String} (t : MemoryTable)
    (ht : t.layout.name = name) : (m.setTable name t).Named :=
  tables_setTable (P := fun name t => t.layout.name = name) hm ht

theorem Named.change {m : Memory} (hm : m.Named) (c : Change) : (m.change c).Named :=
  tables_change (P := fun name t => t.layout.name = name) hm (fun _ => rfl) (fun ht _ _ => ht) c

theorem named_run {m : Memory} (hm : m.Named) (changes : List Change) : (m.run changes).Named := by
  induction changes generalizing m with
  | nil => exact hm
  | cons c cs ih => exact ih (hm.change c)

theorem openTable_eq_ok_iff {m : Memory} {name : String} {h : TableHandle} :
    m.openTable name = .ok h ↔
      m.online = true ∧ h.name = name ∧ ∃ t, m.tables.get? name = some t ∧ t.layout = h.layout := by
  obtain ⟨hname, layout⟩ := h
  rw [openTable]
  cases ht : m.table name with
  | error e =>
      constructor
      · intro h
        cases h
      · rintro ⟨hon, -, t, hget, -⟩
        rw [table_eq_ok_iff.mpr ⟨hon, hget⟩] at ht
        cases ht
  | ok t =>
      obtain ⟨hon, hget⟩ := table_eq_ok_iff.mp ht
      simp [hon, hget, bind, Except.bind, pure, Except.pure, @eq_comm _ name]

theorem storedRow_iff {m : Memory} (hm : m.Named) {h : TableHandle} {key : String} {r : Row} :
    StoredRow () m h key r ↔ m.online = true ∧
      ∃ t, m.tables.get? h.name = some t ∧ t.layout = h.layout ∧ t.rows.get? key = some r := by
  have hrow : ∀ {t}, m.online = true → m.tables.get? h.name = some t → t.layout = h.layout →
      m.getRow h key = .ok (t.rows.get? key) := by
    intro t hon ht hlayout
    rw [← hm ht, hlayout] at ht
    rw [getRow, table_eq_ok_iff.mpr ⟨hon, ht⟩]
    rfl
  constructor
  · rintro ⟨hopen, hget⟩
    obtain ⟨hon, -, t, ht, hlayout⟩ := openTable_eq_ok_iff.mp hopen
    exact ⟨hon, t, ht, hlayout, Except.ok.inj ((hrow hon ht hlayout).symm.trans hget)⟩
  · rintro ⟨hon, t, ht, hlayout, hget⟩
    exact ⟨openTable_eq_ok_iff.mpr ⟨hon, rfl, t, ht, hlayout⟩,
      (hrow hon ht hlayout).trans (by rw [hget])⟩

theorem tracesFamilies : TracesFamilies () Named fun h => h.layout.name = h.name where
  opened := by
    intro m name h hm hopen
    obtain ⟨-, rfl, t, ht, hlayout⟩ := openTable_eq_ok_iff.mp hopen
    rw [← hlayout, hm ht]
  create := by
    intro m l hm
    have hm' := hm.change (.create l)
    refine ⟨hm', fun {h key r} hr => (storedRow_iff hm).mpr ?_⟩
    obtain ⟨hon', t, ht, hlayout, hget⟩ := (storedRow_iff hm').mp hr
    rcases change_create m l with h | ⟨-, -, h⟩ <;> rw [h] at hon' ht
    · exact ⟨hon', t, ht, hlayout, hget⟩
    · rw [setTable, Dict.get?_insert] at ht
      split at ht
      · rw [← Option.some.inj ht, Dict.get?_empty] at hget
        cases hget
      · exact ⟨hon', t, ht, hlayout, hget⟩
  delete := by
    intro m name hm
    have hm' := hm.change (.delete name)
    refine ⟨hm', fun {h key r} hr => (storedRow_iff hm).mpr ?_⟩
    obtain ⟨hon', t, ht, hlayout, hget⟩ := (storedRow_iff hm').mp hr
    rcases change_delete m name with h | ⟨-, h⟩ <;> rw [h] at hon' ht
    · exact ⟨hon', t, ht, hlayout, hget⟩
    · rw [Dict.get?_erase] at ht
      split at ht
      · cases ht
      · exact ⟨hon', t, ht, hlayout, hget⟩
  put := by
    intro m th key cells hm hth
    simp only [Backend.putRow]
    cases hput : m.putRow th key cells with
    | error e => exact ⟨hm, fun hr hf => .inl ⟨_, hr, hf⟩⟩
    | ok m' =>
        obtain ⟨hcheck, hon, t, ht, rfl⟩ := putRow_eq_ok_iff.mp hput
        have hm' := hm.setTable (t.write key cells) (show t.layout.name = _ from hm ht)
        refine ⟨hm', fun {h key' r family} hr hf => ?_⟩
        obtain ⟨-, t', ht', hlayout, hget⟩ := (storedRow_iff hm').mp hr
        rw [setTable, Dict.get?_insert] at ht'
        split at ht'
        · next hname =>
          obtain rfl := Option.some.inj ht'
          rw [hname] at ht
          have hold : ∀ {r₀}, t.rows.get? key' = some r₀ → StoredRow () m h key' r₀ :=
            fun hr₀ => (storedRow_iff hm).mpr ⟨hon, t, ht, hlayout, hr₀⟩
          rw [get?_write] at hget
          split at hget
          · next hkey =>
            subst hkey
            rw [← Option.some.inj hget] at hf
            rcases Row.contains_getD_apply hf with ⟨r₀, hr₀, hf⟩ | ⟨c, hc, hfamily⟩
            · exact .inl ⟨r₀, hold hr₀, hf⟩
            · rw [hth] at hname
              refine .inr ⟨openTable_eq_ok_iff.mpr ⟨hon, hname.symm, t, hname ▸ ht, hlayout⟩,
                rfl, rfl, rfl, hname, hasFamily_of_checkCells hcheck hc hfamily, c, hc, hfamily⟩
          · exact .inl ⟨r, hold hget, hf⟩
        · exact .inl ⟨r, (storedRow_iff hm).mpr ⟨hon, t', ht', hlayout, hget⟩, hf⟩

end Memory

end JobLedger
