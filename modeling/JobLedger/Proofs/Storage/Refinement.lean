import JobLedger.Proofs.Storage.Mirror

/-!
# Tables in a directory behave like tables in memory

`folder_refines_memory`: whatever is asked of a folder that starts in an
empty directory, the answers are those of an instance in memory, and a call
that fails leaves no trace. Handles may outlive their tables: they lead to
whatever table has the name at the time.

The two sides are related by `Mirrors`, which every call keeps
(`SameSession.call`).
-/

namespace JobLedger

/-! ## Sessions -/

/-- A call to a storage instance. Rows are reached through the handles
opened so far, counted from the first. -/
inductive TableCall
  | tableExists (name : String)
  | createTable (layout : TableLayout)
  | deleteTable (name : String)
  | openTable (name : String)
  | putRow (handle : Nat) (key : String) (cells : List Cell)
  | getRow (handle : Nat) (key : String)
  | scan (handle : Nat) (after : String) (limit : Nat)

inductive TableAnswer
  | found (r : Except StoreError Bool)
  | done (r : Except StoreError Unit)
  | opened (r : Except StoreError TableHandle)
  | row (r : Except StoreError (Option Row))
  | rows (r : Except StoreError (List Row))
  /-- No handle of that number was opened. -/
  | noHandle
deriving DecidableEq

namespace TableAnswer

/-- The call failed. -/
def isError : TableAnswer → Bool
  | found r => !r.isOk
  | done r => !r.isOk
  | opened r => !r.isOk
  | row r => !r.isOk
  | rows r => !r.isOk
  | noHandle => false

end TableAnswer

/-- The handles opened so far, and what the instance lives in. -/
structure Session (σ : Type) where
  handles : List TableHandle
  state : σ

/-- An answer, with the state before and after the call. -/
structure AnsweredCall (σ : Type) where
  answer : TableAnswer
  before : σ
  after : σ

namespace Session

variable {ι σ : Type} [Backend ι σ]

/-- A session in which nothing was opened yet. -/
def start (state : σ) : Session σ := ⟨[], state⟩

/-- Lets a change happen. -/
def change (s : Session σ) (r : Except StoreError Unit × σ) : TableAnswer × Session σ :=
  (.done r.1, { s with state := r.2 })

/-- Uses a handle, if there is one of that number. -/
def through (s : Session σ) (handle : Nat) (use : TableHandle → TableAnswer × Session σ) :
    TableAnswer × Session σ :=
  match s.handles[handle]? with
  | some h => use h
  | none => (.noHandle, s)

def call (i : ι) (s : Session σ) : TableCall → TableAnswer × Session σ
  | .tableExists name => (.found (Backend.tableExists i name s.state), s)
  | .createTable layout => s.change (Backend.createTable i layout s.state)
  | .deleteTable name => s.change (Backend.deleteTable i name s.state)
  | .openTable name =>
      match Backend.openTable i name s.state with
      | .ok h => (.opened (.ok h), { s with handles := s.handles ++ [h] })
      | .error e => (.opened (.error e), s)
  | .putRow handle key cells =>
      s.through handle fun h => s.change (Backend.putRow i h key cells s.state)
  | .getRow handle key => s.through handle fun h => (.row (Backend.getRow i h key s.state), s)
  | .scan handle after limit =>
      s.through handle fun h => (.rows (Backend.scan i h (some after) limit s.state), s)

/-- Makes calls in order. -/
def run (i : ι) (s : Session σ) : List TableCall → List (AnsweredCall σ)
  | [] => []
  | c :: cs => ⟨(s.call i c).1, s.state, (s.call i c).2.state⟩ :: (s.call i c).2.run i cs

end Session

/-- The names in a call are names that a table may have. -/
def TableCall.Named : TableCall → Prop
  | tableExists name | deleteTable name | openTable name => Folder.validName name = true
  | createTable layout => Folder.validName layout.name = true
  | putRow .. | getRow .. | scan .. => True

/-! ## Both sides of a session -/

/-- A session on a folder and one on its mirror, with the same handles. -/
structure SameSession (d₀ : Disk) (p : Path) (s : Session Disk) (s' : Session Memory) : Prop where
  mirrors : Mirrors d₀ p s.state s'.state
  handles : s.handles = s'.handles
  named : ∀ h ∈ s.handles, Folder.validName h.name = true ∧ h.layout.name = h.name

/-- A call comes out alike on both sides: the same answer, no trace of a
failure, and sessions that still correspond. -/
structure SameCall (d₀ : Disk) (p : Path) (s : Session Disk) (s' : Session Memory)
    (r : TableAnswer × Session Disk) (r' : TableAnswer × Session Memory) : Prop where
  answer : r.1 = r'.1
  untouched : r.1.isError → r.2.state = s.state ∧ r'.2.state = s'.state
  after : SameSession d₀ p r.2 r'.2

section Calls

variable {d₀ : Disk} {p : Path} {s : Session Disk} {s' : Session Memory}
  (h : SameSession d₀ p s s')

include h

/-- A call that only looks. -/
theorem SameSession.look {a a' : TableAnswer} (ha : a = a') :
    SameCall d₀ p s s' (a, s) (a', s') := ⟨ha, fun _ => ⟨rfl, rfl⟩, h⟩

theorem SameSession.change {r : Except StoreError Unit × Disk} {r' : Except StoreError Memory}
    (hr : Mirrors.SameChange d₀ p s.state r r') :
    SameCall d₀ p s s' (s.change r) (s'.change (s'.state.outcome r')) := by
  rcases hr with ⟨e, rfl, rfl⟩ | ⟨d', m', rfl, rfl, hm⟩
  · exact ⟨rfl, fun _ => ⟨rfl, rfl⟩, h.mirrors, h.handles, h.named⟩
  · exact ⟨rfl, nofun, hm, h.handles, h.named⟩

/-- A call through a handle. -/
theorem SameSession.through {handle : Nat} {use : TableHandle → TableAnswer × Session Disk}
    {use' : TableHandle → TableAnswer × Session Memory}
    (huse : ∀ th, Folder.validName th.name = true → th.layout.name = th.name →
      SameCall d₀ p s s' (use th) (use' th)) :
    SameCall d₀ p s s' (s.through handle use) (s'.through handle use') := by
  rw [Session.through, Session.through, ← h.handles]
  cases hget : s.handles[handle]? with
  | none => exact h.look rfl
  | some th =>
      obtain ⟨hn, hname⟩ := h.named th (List.mem_of_getElem? hget)
      exact huse th hn hname

/-- What one call preserves. -/
theorem SameSession.call {f : Folder} (hroot : d₀.locate f.root = .ok p)
    (hempty : ∀ q ≠ [], d₀.node? (p ++ q) = none) {c : TableCall} (hc : c.Named) :
    SameCall d₀ p s s' (s.call f c) (s'.call () c) := by
  cases c with
  | tableExists name => exact h.look (congrArg _ (h.mirrors.tableExists_eq hroot hc))
  | createTable layout => exact h.change (h.mirrors.createTable_sameChange hroot hc)
  | deleteTable name => exact h.change (h.mirrors.deleteTable_sameChange hroot hempty hc)
  | openTable name =>
      have hopen := h.mirrors.openTable_eq hroot hc
      have hopened := Memory.openTable_of_online h.mirrors.online name
      simp only [Session.call, Backend.openTable, hopen, hopened]
      cases ht : s'.state.tables.get? name with
      | none => exact h.look rfl
      | some t =>
          refine ⟨rfl, (fun he => by cases he), h.mirrors, by rw [h.handles], fun th hth => ?_⟩
          rcases List.mem_append.mp hth with hth | hth
          · exact h.named th hth
          · obtain rfl := List.mem_singleton.mp hth
            exact h.mirrors.named ht
  | putRow handle key cells =>
      exact h.through fun th hn hname =>
        h.change (h.mirrors.putRow_sameChange hroot hn hname key cells)
  | getRow handle key =>
      exact h.through fun th hn hname =>
        h.look (congrArg _ (h.mirrors.getRow_eq hroot hn hname key))
  | scan handle after limit =>
      exact h.through fun th hn hname =>
        h.look (congrArg _ (h.mirrors.scan_eq hroot hn hname after limit))

end Calls

/-- What a whole session preserves. -/
theorem SameSession.run {d₀ : Disk} {p : Path} {f : Folder} (hroot : d₀.locate f.root = .ok p)
    (hempty : ∀ q ≠ [], d₀.node? (p ++ q) = none) {calls : List TableCall}
    (hcalls : ∀ c ∈ calls, c.Named) {s : Session Disk} {s' : Session Memory}
    (h : SameSession d₀ p s s') :
    (s.run f calls).map (·.answer) = (s'.run () calls).map (·.answer) ∧
      (∀ c ∈ s.run f calls, c.answer.isError → c.after = c.before) ∧
      (∀ c ∈ s'.run () calls, c.answer.isError → c.after = c.before) := by
  induction calls generalizing s s' with
  | nil => exact ⟨rfl, by simp [Session.run], by simp [Session.run]⟩
  | cons c cs ih =>
      have hcall := h.call hroot hempty (hcalls c (List.mem_cons_self ..))
      obtain ⟨hanswers, hfolder, hmemory⟩ :=
        ih (fun c hc => hcalls c (List.mem_cons_of_mem _ hc)) hcall.after
      simp only [Session.run, List.map_cons, List.forall_mem_cons]
      refine ⟨by rw [hcall.answer, hanswers], ⟨fun he => (hcall.untouched he).1, hfolder⟩,
        fun he => (hcall.untouched ?_).2, hmemory⟩
      rwa [hcall.answer]

/-- A folder in an empty directory answers every session as an instance in
memory does, and on both sides a call that fails changes nothing. The tree
may hold anything elsewhere; names and addresses of any length are allowed. -/
theorem folder_refines_memory {d : Disk} {f : Folder} {p : Path} (hd : d.Unlimited)
    (hroot : d.locate f.root = .ok p) (hnode : d.node? p = some .dir)
    (hempty : ∀ q ≠ [], d.node? (p ++ q) = none) (uri : String) {calls : List TableCall}
    (hcalls : ∀ c ∈ calls, c.Named) :
    ((Session.start d).run f calls).map (·.answer)
        = ((Session.start (Memory.new uri)).run () calls).map (·.answer) ∧
      (∀ c ∈ (Session.start d).run f calls, c.answer.isError → c.after = c.before) ∧
      (∀ c ∈ (Session.start (Memory.new uri)).run () calls,
        c.answer.isError → c.after = c.before) :=
  SameSession.run hroot hempty hcalls ⟨mirrors_new hd hnode hempty uri, rfl, nofun⟩

/-- A handle on a table that is deleted and made again. -/
theorem answers_of_stale_handle :
    ((Session.start (Disk.empty [] ⟨none, none⟩)).run (⟨"/"⟩ : Folder)
      [.createTable ⟨"jobs", ["info"], ""⟩, .openTable "jobs", .deleteTable "jobs",
        .putRow 0 "job-1" [], .createTable ⟨"jobs", ["extended"], ""⟩,
        .putRow 0 "job-1" [⟨"info", "jobId", [0x6a]⟩], .scan 0 "" 8]).map (·.answer) =
      [.done (.ok ()), .opened (.ok ⟨"jobs", ⟨"jobs", ["info"], ""⟩⟩), .done (.ok ()),
        .done (.error (.tableNotFound "jobs")), .done (.ok ()), .done (.ok ()),
        .rows (.ok [(Row.empty "job-1").put ⟨"info", "jobId", [0x6a]⟩])] := by
  have hempty : ∀ q ≠ ([] : Path), (Disk.empty [] ⟨none, none⟩).node? ([] ++ q) = none := by
    intro q hq
    rw [List.nil_append, Disk.node?_of_ne_nil _ hq]
    rfl
  have hname : Folder.validName "jobs" = true := by decide +kernel
  exact (folder_refines_memory ⟨rfl, rfl⟩ (by decide +kernel) rfl hempty "memory://"
    (by simp [TableCall.Named, hname])).1.trans (by decide +kernel)

end JobLedger
