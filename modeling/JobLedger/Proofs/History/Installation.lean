import JobLedger.Proofs.History.Store
import JobLedger.Proofs.Storage.FamilyTrace
import Mathlib.Data.List.Induction
import Mathlib.Logic.Function.Basic

/-!
# Installing a history table from many sides

Installing looks for the table first and makes it then, and other callers
may come in between. `concurrent_installs` says that this does no harm: for
any number of callers, in any order of their steps, every call is answered,
one of them has made the table if it was missing and none if it was there,
and what callers with an open table have written meanwhile is still in it.

A call is cut into its steps by `InstallStage.step`; two steps on end are the
whole of `HistoryStore.install` (`InstallStage.step_step`). The invariant is
`Installing.Sound`. Its core is the phase: as long as there is no table no
call has returned, and from then on the table is the one of the beginning, or
the one that a single call has made, with all writes since.
-/

namespace JobLedger

/-! ## A table and writes to it -/

structure RowWrite where
  key : String
  cells : List Cell
deriving DecidableEq

namespace MemoryTable

/-- The value at one place of the row of a key. -/
def cell? (t : MemoryTable) (key family qualifier : String) : Option Bytes :=
  (t.rows.get? key).bind (·.get? family qualifier)

theorem cell?_write (t : MemoryTable) (key key' : String) (cells : List Cell)
    (family qualifier : String) :
    (t.write key cells).cell? key' family qualifier =
      if key = key' then (lastValue? cells family qualifier).or (t.cell? key' family qualifier)
      else t.cell? key' family qualifier := by
  rw [cell?, Memory.get?_write]
  split
  · next h =>
    rw [Option.bind_some, Row.get?_apply, cell?, h]
    cases t.rows.get? key' <;> rfl
  · rfl

theorem contains_write (t : MemoryTable) (key key' : String) (cells : List Cell) :
    (t.write key cells).rows.contains key' = true ↔
      t.rows.contains key' = true ∨ key = key' := by
  rw [Dict.contains, Memory.get?_write, Dict.contains]
  split
  · next h => simp [h]
  · next h => simp [h]

/-- The table after writes in order. -/
def writeAll (t : MemoryTable) (ws : List RowWrite) : MemoryTable :=
  ws.foldl (fun t w => t.write w.key w.cells) t

theorem writeAll_append (t : MemoryTable) (ws : List RowWrite) (w : RowWrite) :
    t.writeAll (ws ++ [w]) = (t.writeAll ws).write w.key w.cells := by
  rw [writeAll, List.foldl_append]
  rfl

/-- All cells that writes put under a key, in order. -/
def cellsUnder (key : String) (ws : List RowWrite) : List Cell :=
  (ws.filter (·.key = key)).flatMap (·.cells)

theorem cellsUnder_append (key : String) (ws : List RowWrite) (w : RowWrite) :
    cellsUnder key (ws ++ [w]) = cellsUnder key ws ++ if w.key = key then w.cells else [] := by
  rw [cellsUnder, List.filter_append, List.flatMap_append]
  by_cases h : w.key = key <;> simp [cellsUnder, h]

/-- The table `t` is `t₀` with writes: it has lost nothing of either, and has
nothing else. -/
structure Grown (t₀ : MemoryTable) (ws : List RowWrite) (t : MemoryTable) : Prop where
  layout : t.layout = t₀.layout
  rows : ∀ key, t.rows.contains key = true ↔
    t₀.rows.contains key = true ∨ ∃ w ∈ ws, w.key = key
  /-- The last write of a place wins. -/
  cells : ∀ key family qualifier, t.cell? key family qualifier =
    (lastValue? (cellsUnder key ws) family qualifier).or (t₀.cell? key family qualifier)
  unwritten : ws = [] → t = t₀

theorem grown_writeAll (t₀ : MemoryTable) (ws : List RowWrite) : t₀.Grown ws (t₀.writeAll ws) := by
  induction ws using List.reverseRecOn with
  | nil => exact ⟨rfl, by simp [writeAll], fun _ _ _ => rfl, fun _ => rfl⟩
  | append_singleton ws w ih =>
      rw [writeAll_append]
      refine ⟨ih.layout, fun key => ?_, fun key family qualifier => ?_, by simp⟩
      · rw [contains_write, ih.rows, or_assoc]
        simp [or_and_right, exists_or]
      · rw [cell?_write, ih.cells, cellsUnder_append]
        split
        · rw [lastValue?_append, Option.or_assoc]
        · rw [List.append_nil]

end MemoryTable

/-! ## The steps of a call -/

/-- How far a call of `HistoryStore.install` has come. -/
inductive InstallStage
  | begun
  /-- It has looked, and there was no table. -/
  | missed
  | returned (answer : Except HistoryError Bool)

namespace InstallStage

/-- What a call does in one go: it looks for the table, and if there was none
it makes it. -/
def step {ι σ : Type} [Backend ι σ] (i : ι) (tableName : String) (s : σ) :
    InstallStage → InstallStage × σ
  | .begun =>
      match Backend.tableExists i tableName s with
      | .error e => (.returned (.error (.ofStore e)), s)
      | .ok true => (.returned (.ok false), s)
      | .ok false => (.missed, s)
  | .missed =>
      let (answer, s) := HistoryStore.createMissing i tableName s
      (.returned answer, s)
  | .returned answer => (.returned answer, s)

/-- A call that nothing comes in between of is `HistoryStore.install`. -/
theorem step_step {ι σ : Type} [Backend ι σ] (i : ι) (tableName : String) (s : σ) :
    step i tableName (step i tableName s begun).2 (step i tableName s begun).1 =
      (returned (HistoryStore.install i tableName s).1,
        (HistoryStore.install i tableName s).2) := by
  simp only [step, HistoryStore.install]
  rcases Backend.tableExists i tableName s with e | _ | _ <;> rfl

/-- How many steps a call has before it at most. -/
def stepsLeft : InstallStage → Nat
  | begun => 2
  | missed => 1
  | returned _ => 0

theorem stepsLeft_step {ι σ : Type} [Backend ι σ] (i : ι) (tableName : String) (s : σ)
    (stage : InstallStage) : (step i tableName s stage).1.stepsLeft ≤ stage.stepsLeft - 1 := by
  cases stage with
  | begun =>
      simp only [step]
      rcases Backend.tableExists i tableName s with e | _ | _ <;> simp [stepsLeft]
  | missed | returned answer => exact Nat.le_refl 0

theorem returned_of_stepsLeft {stage : InstallStage} (h : stage.stepsLeft = 0) :
    ∃ answer, stage = returned answer := by
  cases stage with
  | begun | missed => exact nomatch h
  | returned answer => exact ⟨answer, rfl⟩

section Memory

variable {m : Memory} {tableName : String} (hon : m.online = true)

include hon

/-- Where there is no table, a call misses it and then makes it. -/
theorem step_of_none (hnone : m.tables.get? tableName = none) :
    step () tableName m begun = (missed, m) ∧
      step () tableName m missed =
        (returned (.ok true), m.setTable tableName ⟨Columns.layout tableName, ∅⟩) := by
  have hexists : Backend.tableExists () tableName m = .ok false :=
    (Memory.tableExists_of_online hon tableName).trans (by rw [hnone]; rfl)
  have hcreate : m.createTable (Columns.layout tableName) =
      .ok (m.setTable tableName ⟨Columns.layout tableName, ∅⟩) := by
    rw [Memory.createTable_of_online hon]
    simp only [Columns.layout, hnone]
  constructor
  · simp only [step, hexists]
  · simp only [step, HistoryStore.createMissing, Backend.createTable, hcreate, Memory.outcome]

/-- Where there is a table, a call leaves it alone, also if it had missed it. -/
theorem step_of_some {t : MemoryTable} (ht : m.tables.get? tableName = some t)
    {stage : InstallStage} (hstage : stage.stepsLeft ≠ 0) :
    step () tableName m stage = (returned (.ok false), m) := by
  have hexists : Backend.tableExists () tableName m = .ok true :=
    (Memory.tableExists_of_online hon tableName).trans (by rw [ht]; rfl)
  have hcreate : m.createTable (Columns.layout tableName) = .error (.tableExists tableName) := by
    rw [Memory.createTable_of_online hon]
    simp only [Columns.layout, ht]
  cases stage with
  | begun => simp only [step, hexists]
  | missed =>
      simp only [step, HistoryStore.createMissing, Backend.createTable, hcreate, Memory.outcome]
  | returned answer => exact absurd rfl hstage

end Memory

end InstallStage

/-! ## Callers and their steps -/

/-- Callers at one instance in memory. Each of them has one call of
`HistoryStore.install`. -/
structure Installing (κ : Type) where
  memory : Memory
  stages : κ → InstallStage
  /-- The table as a caller has opened it last. -/
  handles : κ → Option TableHandle
  /-- The writes that have succeeded, in order. Nothing reads them. -/
  written : List RowWrite

inductive InstallEvent (κ : Type)
  /-- A call takes its next step. -/
  | install (k : κ)
  | openTable (k : κ)
  /-- A caller that has opened the table writes into it. -/
  | putRow (k : κ) (key : String) (cells : List Cell)
deriving DecidableEq

namespace Installing

variable {κ : Type} [DecidableEq κ]

/-- No call has begun, and callers may have opened the table before. -/
def start (m : Memory) (handles : κ → Option TableHandle) : Installing κ :=
  ⟨m, fun _ => .begun, handles, []⟩

def step (tableName : String) (s : Installing κ) : InstallEvent κ → Installing κ
  | .install k =>
      let (stage, memory) := (s.stages k).step () tableName s.memory
      { s with memory, stages := Function.update s.stages k stage }
  | .openTable k =>
      match Backend.openTable () tableName s.memory with
      | .error _ => s
      | .ok h => { s with handles := Function.update s.handles k (some h) }
  | .putRow k key cells =>
      match s.handles k with
      | none => s
      | some h =>
          match Backend.putRow () h key cells s.memory with
          | (.error _, memory) => { s with memory }
          | (.ok (), memory) => { s with memory, written := s.written ++ [⟨key, cells⟩] }

/-- The state after events in order. -/
def run (tableName : String) (s : Installing κ) (events : List (InstallEvent κ)) : Installing κ :=
  events.foldl (step tableName) s

/-! ## What a step preserves -/

/-- The call has returned this answer. -/
def Answered (stages : κ → InstallStage) (answer : Except HistoryError Bool) (k : κ) : Prop :=
  stages k = .returned answer

theorem answered_update {stages : κ → InstallStage} {k : κ} {stage : InstallStage}
    {answer : Except HistoryError Bool} (k' : κ) :
    Answered (Function.update stages k stage) answer k' ↔
      if k' = k then stage = .returned answer else Answered stages answer k' := by
  rw [Answered, Function.update_apply]
  split <;> rfl

/-- Where the table comes from, and which calls have made it. -/
inductive Origin (tableName : String) (m₀ : Memory) (makers : κ → Prop) : MemoryTable → Prop
  | made (before : m₀.tables.get? tableName = none) (once : ∃! k, makers k) :
      Origin tableName m₀ makers ⟨Columns.layout tableName, ∅⟩
  | found {t₀ : MemoryTable} (before : m₀.tables.get? tableName = some t₀)
      (nobody : ∀ k, ¬makers k) : Origin tableName m₀ makers t₀

/-- There has been no table so far. -/
structure Missing (tableName : String) (m₀ : Memory) (s : Installing κ) : Prop where
  before : m₀.tables.get? tableName = none
  now : s.memory.tables.get? tableName = none
  unwritten : s.written = []
  pending : ∀ answer k, ¬Answered s.stages answer k

/-- The table is `t₀` with the writes so far. -/
structure There (tableName : String) (m₀ : Memory) (t₀ : MemoryTable) (s : Installing κ) :
    Prop where
  origin : Origin tableName m₀ (Answered s.stages (.ok true)) t₀
  now : s.memory.tables.get? tableName = some (t₀.writeAll s.written)

structure Sound (tableName : String) (m₀ : Memory) (s : Installing κ) : Prop where
  online : s.memory.online = true
  named : ∀ k, ∀ h ∈ s.handles k, h.layout.name = tableName
  fine : ∀ answer k, Answered s.stages answer k → ∃ made, answer = .ok made
  phase : Missing tableName m₀ s ∨ ∃ t₀, There tableName m₀ t₀ s
  others : ∀ other, other ≠ tableName → s.memory.tables.get? other = m₀.tables.get? other

variable {tableName : String} {m₀ : Memory}

omit [DecidableEq κ] in
theorem Origin.layout_name {makers : κ → Prop} {t₀ : MemoryTable} (hm₀ : m₀.Named)
    (h : Origin tableName m₀ makers t₀) : t₀.layout.name = tableName := by
  cases h with
  | made before once => rfl
  | found before nobody => exact hm₀ before

omit [DecidableEq κ] in
theorem sound_start (m : Memory) (handles : κ → Option TableHandle) (hon : m.online = true)
    (hnamed : ∀ k, ∀ h ∈ handles k, h.layout.name = tableName) :
    Sound tableName m (start m handles) where
  online := hon
  named := hnamed
  fine := nofun
  phase := by
    cases ht : m.tables.get? tableName with
    | none => exact .inl ⟨ht, ht, rfl, nofun⟩
    | some t₀ => exact .inr ⟨t₀, .found ht nofun, ht⟩
  others _ _ := rfl

/-- A call that steps while there is no table misses it or makes it. -/
theorem Sound.install_of_missing {s : Installing κ} (h : Sound tableName m₀ s)
    (hmissing : Missing tableName m₀ s) (k : κ) :
    Sound tableName m₀ (s.step tableName (.install k)) := by
  obtain ⟨hbegun, hmissed⟩ := InstallStage.step_of_none h.online hmissing.now
  cases hstage : s.stages k with
  | begun =>
      have hpending : ∀ answer k', ¬Answered (Function.update s.stages k .missed) answer k' := by
        intro answer k'
        rw [answered_update]
        split
        · exact nofun
        · exact hmissing.pending answer k'
      simp only [step, hstage, hbegun]
      exact {
        online := h.online
        named := h.named
        fine := fun answer k' hk' => absurd hk' (hpending answer k')
        phase := .inl ⟨hmissing.before, hmissing.now, hmissing.unwritten, hpending⟩
        others := h.others }
  | missed =>
      have hanswered : ∀ answer k',
          Answered (Function.update s.stages k (.returned (.ok true))) answer k' ↔
            k' = k ∧ answer = .ok true := by
        intro answer k'
        rw [answered_update]
        split
        · next heq => simp [heq, eq_comm]
        · next hne => simp [hne, hmissing.pending]
      simp only [step, hstage, hmissed]
      exact {
        online := h.online
        named := h.named
        fine := fun answer k' hk' => ⟨true, ((hanswered answer k').mp hk').2⟩
        phase := .inr ⟨_, .made hmissing.before ⟨k, (hanswered _ k).mpr ⟨rfl, rfl⟩,
          fun k' hk' => ((hanswered _ k').mp hk').1⟩, by
            rw [hmissing.unwritten]
            exact Dict.get?_insert_self ..⟩
        others := fun other hne =>
          (Dict.get?_insert_of_ne _ hne.symm _).trans (h.others other hne) }
  | returned answer => exact absurd hstage (hmissing.pending answer k)

/-- A call that steps while there is a table has not made it. -/
theorem Sound.install_of_there {s : Installing κ} (h : Sound tableName m₀ s) {t₀ : MemoryTable}
    (hthere : There tableName m₀ t₀ s) (k : κ) :
    Sound tableName m₀ (s.step tableName (.install k)) := by
  by_cases hleft : (s.stages k).stepsLeft = 0
  · obtain ⟨answer, hstage⟩ := InstallStage.returned_of_stepsLeft hleft
    have hsame : s.step tableName (.install k) =
        { s with stages := Function.update s.stages k (s.stages k) } := by
      simp only [step, hstage, InstallStage.step]
    rwa [hsame, Function.update_eq_self]
  · have hsame : Answered (Function.update s.stages k (.returned (.ok false))) (.ok true) =
        Answered s.stages (.ok true) := by
      funext k'
      rw [eq_iff_iff, answered_update]
      split
      · next heq =>
        subst heq
        exact ⟨nofun, fun hk' => absurd (by rw [hk']; rfl) hleft⟩
      · rfl
    simp only [step, InstallStage.step_of_some h.online hthere.now hleft]
    exact {
      online := h.online
      named := h.named
      fine := fun answer k' hk' => by
        rw [answered_update] at hk'
        split at hk'
        · exact ⟨false, (InstallStage.returned.inj hk').symm⟩
        · exact h.fine answer k' hk'
      phase := .inr ⟨t₀, hsame ▸ hthere.origin, hthere.now⟩
      others := h.others }

theorem Sound.openTable {s : Installing κ} (h : Sound tableName m₀ s) (hm₀ : m₀.Named) (k : κ) :
    Sound tableName m₀ (s.step tableName (.openTable k)) := by
  rw [step]
  split
  · exact h
  · next th hopen =>
    obtain ⟨-, -, t, ht, hlayout⟩ := Memory.openTable_eq_ok_iff.mp hopen
    have hth : th.layout.name = tableName := by
      rcases h.phase with hmissing | ⟨t₀, hthere⟩
      · exact nomatch hmissing.now.symm.trans ht
      · rw [← hlayout, ← Option.some.inj (hthere.now.symm.trans ht),
          (MemoryTable.grown_writeAll ..).layout, hthere.origin.layout_name hm₀]
    exact { h with
      named := by
        intro k' th' hth'
        simp only [Function.update_apply] at hth'
        split at hth'
        · rwa [← Option.some.inj hth']
        · exact h.named k' th' hth'
      phase := h.phase.imp (fun hmissing => { hmissing with })
        fun ⟨t₀, hthere⟩ => ⟨t₀, { hthere with }⟩ }

theorem Sound.putRow {s : Installing κ} (h : Sound tableName m₀ s) (k : κ) (key : String)
    (cells : List Cell) : Sound tableName m₀ (s.step tableName (.putRow k key cells)) := by
  rw [step]
  split
  · exact h
  · next th hth =>
    have hput : Backend.putRow () th key cells s.memory =
      s.memory.outcome (s.memory.putRow th key cells) := rfl
    rw [hput]
    cases hresult : s.memory.putRow th key cells with
    | error e => exact h
    | ok m =>
        obtain ⟨-, -, t, ht, rfl⟩ := Memory.putRow_eq_ok_iff.mp hresult
        rw [h.named k th hth] at ht ⊢
        rcases h.phase with hmissing | ⟨t₀, hthere⟩
        · exact nomatch hmissing.now.symm.trans ht
        · obtain rfl := Option.some.inj (hthere.now.symm.trans ht)
          exact {
            online := h.online
            named := h.named
            fine := h.fine
            phase := .inr ⟨t₀, hthere.origin, by
              rw [Memory.outcome, MemoryTable.writeAll_append]
              exact Dict.get?_insert_self ..⟩
            others := fun other hne =>
              (Dict.get?_insert_of_ne _ hne.symm _).trans (h.others other hne) }

theorem Sound.step {s : Installing κ} (h : Sound tableName m₀ s) (hm₀ : m₀.Named)
    (e : InstallEvent κ) : Sound tableName m₀ (s.step tableName e) := by
  cases e with
  | install k =>
      rcases h.phase with hmissing | ⟨t₀, hthere⟩
      · exact h.install_of_missing hmissing k
      · exact h.install_of_there hthere k
  | openTable k => exact h.openTable hm₀ k
  | putRow k key cells => exact h.putRow k key cells

theorem Sound.run {s : Installing κ} (h : Sound tableName m₀ s) (hm₀ : m₀.Named)
    (events : List (InstallEvent κ)) : Sound tableName m₀ (s.run tableName events) := by
  induction events generalizing s with
  | nil => exact h
  | cons e es ih => exact ih (h.step hm₀ e)

/-! ## Calls return -/

theorem stepsLeft_step (tableName : String) (s : Installing κ) (k : κ) (e : InstallEvent κ) :
    ((s.step tableName e).stages k).stepsLeft ≤
      (s.stages k).stepsLeft - if e = .install k then 1 else 0 := by
  cases e with
  | install k' =>
      simp only [Installing.step, Function.update_apply, InstallEvent.install.injEq]
      by_cases h : k = k'
      · subst h
        simpa using InstallStage.stepsLeft_step () tableName s.memory (s.stages k)
      · simp [h, Ne.symm h]
  | openTable k' =>
      rw [Installing.step]
      split <;> simp
  | putRow k' key cells =>
      rw [Installing.step]
      split
      · simp
      · split <;> simp

theorem stepsLeft_run (tableName : String) (s : Installing κ) (k : κ)
    (events : List (InstallEvent κ)) :
    ((s.run tableName events).stages k).stepsLeft ≤
      (s.stages k).stepsLeft - events.count (.install k) := by
  induction events generalizing s with
  | nil => exact Nat.le_refl _
  | cons e es ih =>
      have hhead := stepsLeft_step tableName s k e
      have htail := ih (s.step tableName e)
      rw [List.count_cons]
      simp only [run, List.foldl_cons, beq_iff_eq] at htail ⊢
      omega

end Installing

/-! ## All callers together -/

open Installing in
/-- Any number of callers install one history table in an instance in memory
that is online, whatever tables it has; their steps come in any order, with
openings and writes in between. Every call returns after two steps, and no
call fails. A table that was missing is made by one call and has the layout
of a history table; one that was there is made by none. Nothing in it is lost
but by a later write of the same cell, and no other table changes. -/
theorem concurrent_installs {κ : Type} [DecidableEq κ] (uri : String)
    (changes : List Memory.Change) (tableName : String) (handles : κ → Option TableHandle)
    (events : List (InstallEvent κ))
    (hon : ((Memory.new uri).run changes).online = true)
    (hnamed : ∀ k, ∀ h ∈ handles k, h.layout.name = tableName) :
    let before := (Memory.new uri).run changes
    let s := (start before handles).run tableName events
    (∀ answer k, Answered s.stages answer k → ∃ made, answer = .ok made) ∧
      (∀ k, 2 ≤ events.count (.install k) → ∃ made, Answered s.stages (.ok made) k) ∧
      (before.tables.get? tableName = none → (∃ answer k, Answered s.stages answer k) →
        (∃! k, Answered s.stages (.ok true) k) ∧
          ∃ t, s.memory.tables.get? tableName = some t ∧
            MemoryTable.Grown ⟨Columns.layout tableName, ∅⟩ s.written t) ∧
      (∀ t₀, before.tables.get? tableName = some t₀ →
        (∀ k, ¬Answered s.stages (.ok true) k) ∧
          ∃ t, s.memory.tables.get? tableName = some t ∧ t₀.Grown s.written t) ∧
      ∀ other, other ≠ tableName → s.memory.tables.get? other = before.tables.get? other := by
  intro before s
  have hbefore : before.Named := Memory.named_run (Memory.named_new uri) changes
  have hs : Sound tableName before s := (sound_start before handles hon hnamed).run hbefore events
  refine ⟨hs.fine, fun k hk => ?_, fun hnone ⟨answer, k, hk⟩ => ?_, fun t₀ ht₀ => ?_, hs.others⟩
  · have hleft : (s.stages k).stepsLeft ≤ 2 - events.count (.install k) :=
      stepsLeft_run tableName (start before handles) k events
    obtain ⟨answer, hanswer⟩ := InstallStage.returned_of_stepsLeft
      (Nat.le_zero.mp (hleft.trans (Nat.sub_eq_zero_of_le hk).le))
    obtain ⟨made, rfl⟩ := hs.fine answer k hanswer
    exact ⟨made, hanswer⟩
  · rcases hs.phase with hmissing | ⟨t₀, horigin, hnow⟩
    · exact absurd hk (hmissing.pending answer k)
    · cases horigin with
      | made _ once => exact ⟨once, _, hnow, MemoryTable.grown_writeAll ..⟩
      | found hsome => exact nomatch hnone.symm.trans hsome
  · rcases hs.phase with hmissing | ⟨t, horigin, hnow⟩
    · exact nomatch hmissing.before.symm.trans ht₀
    · cases horigin with
      | made hnone => exact nomatch hnone.symm.trans ht₀
      | found hsome nobody =>
          obtain rfl := Option.some.inj (hsome.symm.trans ht₀)
          exact ⟨nobody, _, hnow, MemoryTable.grown_writeAll ..⟩

/-- Two callers miss the table before either has made it, and the first one
writes into its new table before the second one goes on. -/
def twoInstalls : List (InstallEvent Bool) :=
  [.install true, .install false, .install true, .openTable true,
    .putRow true "job-1" [.ofText "info" "jobName" "sort"], .install false]

open Installing in
/-- The row of the first caller is there after the second one is done. -/
theorem installs_of_two_callers :
    let s := (start (Memory.new "memory://") fun _ => none).run "history" twoInstalls
    (∃! k, Answered s.stages (.ok true) k) ∧ Answered s.stages (.ok false) false ∧
      ∃ t, s.memory.tables.get? "history" = some t ∧ t.layout = Columns.layout "history" ∧
        t.cell? "job-1" "info" "jobName" = some (Utf8.bytes "sort") := by
  intro s
  have hfalse : Answered s.stages (.ok false) false := rfl
  have hwritten : s.written = [⟨"job-1", [.ofText "info" "jobName" "sort"]⟩] := by decide +kernel
  have hinstalls := concurrent_installs "memory://" [] "history" (fun _ => none) twoInstalls rfl
    nofun
  obtain ⟨hone, t, ht, hgrown⟩ := hinstalls.2.2.1 rfl ⟨_, _, hfalse⟩
  have hcell : t.cell? "job-1" "info" "jobName" =
      (lastValue? (MemoryTable.cellsUnder "job-1" s.written) "info" "jobName").or none :=
    hgrown.cells "job-1" "info" "jobName"
  rw [hwritten] at hcell
  exact ⟨hone, hfalse, t, ht, hgrown.layout, hcell.trans (by decide +kernel)⟩

end JobLedger
