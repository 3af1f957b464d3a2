import JobLedger.Proofs.History.Writes
import JobLedger.Proofs.Job.Recorded

/-!
# The order of jobs and of their ids

An engine numbers its submissions and writes the number into the id of the job,
with at least four digits. Ids are compared as texts, and so are the keys of the
history, so a listing has the jobs in the order of their ids.

Numbers of one width are compared as numbers. A number that is wider than
another one is cut to the other's width first (`jobId_lt_iff`), which puts it
before most numbers of that width. So a listing has the jobs of an engine in the
order of their submission exactly if all their numbers have one width, which
for a new engine ends with the job 9999 (`ids_follow_submissions_iff`).

The invariant of the run is `Holding`: the history is within reach and has a row
for each job submitted so far.
-/

namespace JobLedger

namespace LocalEngine

open Numeral (width)

/-! ## Two ids -/

/-- The id of the submission with a number. -/
def jobId (n : Nat) (unique : String) : String :=
  "job_local_" ++ Numeral.padded 4 n ++ "_" ++ unique

theorem nextId_eq (e : LocalEngine) (unique : String) :
    e.nextId unique = (jobId (e.submitted + 1) unique, ⟨e.submitted + 1⟩) := rfl

theorem toList_jobId (n : Nat) (unique : String) :
    (jobId n unique).toList =
      "job_local_".toList ++ ((Numeral.padded 4 n).toList ++ '_' :: unique.toList) := by
  have hunderscore : "_".toList = ['_'] := rfl
  rw [jobId, String.toList_append, String.toList_append, String.toList_append, hunderscore,
    List.append_assoc, List.append_assoc, List.singleton_append]

theorem append_left_lt_iff {l cs ds : List Char} : l ++ cs < l ++ ds ↔ cs < ds := by
  induction l with
  | nil => rfl
  | cons c l ih => rw [List.cons_append, List.cons_append, List.cons_lt_cons_self, ih]

theorem digit_lt_underscore (c : Char) (h : c.isDigit = true) : c < '_' := by
  have hle := (Char.isDigit_iff_toNat.mp h).2
  show c.toNat < '_'.toNat
  have hnine : '9'.toNat < '_'.toNat := by decide
  omega

/-- The id of the earlier of two submissions is the smaller one exactly if its
number is smaller than the other one cut to its width. -/
theorem jobId_lt_iff {m n : Nat} (h : m < n) (u v : String) :
    jobId m u < jobId n v ↔ m < n / 10 ^ (width 4 n - width 4 m) := by
  have htexts : jobId m u < jobId n v ↔ (jobId m u).toList < (jobId n v).toList := Iff.rfl
  rw [htexts, toList_jobId, toList_jobId, append_left_lt_iff,
    Numeral.padded_append_lt_iff digit_lt_underscore 4 h]

/-- Numbers of one width are compared as numbers. -/
theorem jobId_lt_of_width {m n : Nat} (h : m < n) (hwidth : width 4 n = width 4 m)
    (u v : String) : jobId m u < jobId n v := by
  rw [jobId_lt_iff h, hwidth, Nat.sub_self, Nat.pow_zero, Nat.div_one]
  exact h

/-- Where numbers get wider, the order of ids is broken. -/
theorem jobId_lt_succ_iff (n : Nat) (u v : String) :
    jobId n u < jobId (n + 1) v ↔ width 4 (n + 1) = width 4 n := by
  have hmono := Numeral.width_mono 4 (Nat.le_add_right n 1)
  refine ⟨fun hlt => ?_, fun hwidth => jobId_lt_of_width (Nat.lt_add_one n) hwidth u v⟩
  rw [jobId_lt_iff (Nat.lt_add_one n)] at hlt
  by_contra hwider
  obtain ⟨k, hk⟩ : ∃ k, width 4 (n + 1) - width 4 n = k + 1 :=
    Nat.exists_eq_add_one.mpr (by omega)
  rw [hk, Nat.pow_succ, Nat.mul_comm, ← Nat.div_div_eq_div_mul] at hlt
  have hcut := Nat.div_le_self ((n + 1) / 10) (10 ^ k)
  omega

/-! ## The ids of a run -/

/-- The ids of submissions with successive numbers. -/
def idsFrom (n : Nat) : List String → List String
  | [] => []
  | u :: us => jobId n u :: idsFrom (n + 1) us

theorem mem_idsFrom {id : String} {uniques : List String} {n : Nat} (h : id ∈ idsFrom n uniques) :
    ∃ k < uniques.length, ∃ u, id = jobId (n + k) u := by
  induction uniques generalizing n with
  | nil => exact absurd h List.not_mem_nil
  | cons u us ih =>
      rcases List.mem_cons.mp h with rfl | h
      · exact ⟨0, Nat.zero_lt_succ _, u, rfl⟩
      · obtain ⟨k, hk, v, rfl⟩ := ih h
        exact ⟨k + 1, Nat.succ_lt_succ hk, v, by rw [Nat.add_right_comm, Nat.add_assoc]⟩

/-- The ids of a run are in order exactly if all numbers have one width. -/
theorem pairwise_idsFrom_iff {uniques : List String} {n : Nat} :
    (idsFrom n uniques).Pairwise (· < ·) ↔
      ∀ k < uniques.length, width 4 (n + k) = width 4 n := by
  induction uniques generalizing n with
  | nil => simp [idsFrom]
  | cons u us ih =>
      rw [idsFrom, List.pairwise_cons, ih, List.length_cons]
      constructor
      · rintro ⟨hfirst, hrest⟩ k hk
        cases k with
        | zero => rfl
        | succ k =>
            -- The second id decides whether the second number is wider than the first.
            obtain ⟨v, vs, rfl⟩ := List.exists_cons_of_length_pos (l := us) (by omega)
            have hsecond := (jobId_lt_succ_iff n u v).mp (hfirst _ (List.mem_cons_self ..))
            rw [← hsecond, ← hrest k (by omega), Nat.add_right_comm, Nat.add_assoc]
      · intro hwidth
        refine ⟨fun id hid => ?_, fun k hk => ?_⟩
        · obtain ⟨k, hk, v, rfl⟩ := mem_idsFrom hid
          have hsame := hwidth (k + 1) (by omega)
          rw [← Nat.add_assoc, Nat.add_right_comm] at hsame
          exact jobId_lt_of_width (by omega) hsame u v
        · have hsame := hwidth (k + 1) (by omega)
          rw [← Nat.add_assoc, Nat.add_right_comm] at hsame
          rw [hsame, hwidth 1 (by omega)]

/-- The numbers of a new engine have one width up to 9999. -/
theorem width_from_one_iff {n : Nat} : (∀ k < n, width 4 (1 + k) = width 4 1) ↔ n ≤ 9999 := by
  have hone : width 4 1 = 4 := by decide
  constructor
  · intro h
    by_contra hmany
    have hlast := h 9999 (by omega)
    have hle := (Numeral.width_le_iff (by decide)).mp (Nat.le_of_eq (hlast.trans hone))
    exact absurd hle.2 (by decide)
  · intro hfew k hk
    have hle : width 4 (1 + k) ≤ 4 :=
      (Numeral.width_le_iff (by decide)).mpr ⟨Nat.le_refl 4, by omega⟩
    exact hone ▸ Nat.le_antisymm hle (Nat.le_max_left ..)

/-! ## A run of submissions -/

/-- A job that is handed to an engine, with what makes its id unique and the
time of its submission. -/
structure Arrival where
  job : PreparedJob
  unique : String
  now : UInt64

/-- Submits jobs one after another. -/
def submitAll {ι σ : Type} [Backend ι σ] (context : RunContext ι) :
    LocalEngine → List Arrival → σ → List (Submission ι) × σ
  | _, [], s => ([], s)
  | e, a :: as, s =>
      let (jobId, e) := e.nextId a.unique
      let (submission, s) := Submission.start context a.job jobId a.now s
      let (submissions, s) := submitAll context e as s
      (submission :: submissions, s)

theorem submitAll_cons {ι σ : Type} [Backend ι σ] (context : RunContext ι) (e : LocalEngine)
    (a : Arrival) (as : List Arrival) (s : σ) :
    e.submitAll context (a :: as) s =
      let first := Submission.start context a.job (jobId (e.submitted + 1) a.unique) a.now s
      let rest := submitAll context ⟨e.submitted + 1⟩ as first.2
      (first.1 :: rest.1, rest.2) := rfl

theorem jobId_start {ι σ : Type} [Backend ι σ] (context : RunContext ι) (job : PreparedJob)
    (id : String) (now : UInt64) (s : σ) :
    (Submission.start context job id now s).1.jobId = id := by
  unfold Submission.start
  cases context.history? <;> rfl

theorem jobIds_submitAll {ι σ : Type} [Backend ι σ] (context : RunContext ι) (e : LocalEngine)
    (arrivals : List Arrival) (s : σ) :
    (e.submitAll context arrivals s).1.map (·.jobId) =
      idsFrom (e.submitted + 1) (arrivals.map (·.unique)) := by
  induction arrivals generalizing e s with
  | nil => rfl
  | cons a as ih => simp only [submitAll_cons, List.map_cons, jobId_start, ih, idsFrom]

/-- A listing of a history has some jobs in the given order, each of them once.
Other jobs may stand between them. -/
def ListsInOrder (h : HistoryStore Unit) (limit : Nat) (m : Memory) (ids : List String) : Prop :=
  ((h.records limit m).filterMap itemKey).filter (· ∈ ids) = ids

/-- A history in memory is within reach and has a row for each of some jobs. -/
structure Holding (h : HistoryStore Unit) (ids : List String) (m : Memory) : Prop where
  online : m.online = true
  keyed : m.Keyed
  present : ∃ t, m.tables.get? h.tableName = some t ∧ ∀ id ∈ ids, t.rows.contains id = true

variable {h : HistoryStore Unit} {ids : List String} {m : Memory}

theorem Holding.change (hm : Holding h ids m) {c : Memory.Change} (hc : c.Spares h.tableName) :
    Holding h ids (m.change c) := by
  obtain ⟨t, ht, hids⟩ := hm.present
  obtain ⟨hon, t', ht', hkept⟩ := Memory.change_of_spares hc hm.online ht
  exact ⟨hon, hm.keyed.change c, t', ht', fun id hid => hkept id (hids id hid)⟩

theorem Holding.run (hm : Holding h ids m) {changes : List Memory.Change}
    (hspares : ∀ c ∈ changes, c.Spares h.tableName) : Holding h ids (m.run changes) := by
  induction changes generalizing m with
  | nil => exact hm
  | cons c cs ih =>
      obtain ⟨hc, hcs⟩ := List.forall_mem_cons.mp hspares
      exact ih (hm.change hc) hcs

/-- A listing that has room for all rows has jobs in their order exactly if
their ids are in order, whatever else the history holds. -/
theorem Holding.listsInOrder_iff (hm : Holding h ids m) (hbatch : 0 < h.scanBatch) {limit : Nat}
    (hlimit : ∀ t, m.tables.get? h.tableName = some t → t.rows.size ≤ limit) :
    ListsInOrder h limit m ids ↔ ids.Pairwise (· < ·) := by
  obtain ⟨t, ht, hids⟩ := hm.present
  have hkeyed := hm.keyed ht
  have hrecords : h.records limit m = t.rows.values.map RecordRow.decode := by
    have hlists : h.Lists m t := Memory.scan_of_online hm.online ht
    have hall : h.records limit m = (t.rows.values.map RecordRow.decode).take limit :=
      collect_eq (c := .start h) hkeyed hlists hbatch limit
    have hsize : (t.rows.values.map RecordRow.decode).length ≤ limit := by
      rw [List.length_map, Dict.values, List.length_map]
      exact hlimit t ht
    exact hall.trans (List.take_of_length_le hsize)
  have hkeys : (h.records limit m).filterMap itemKey = t.rows.values.map (·.key) := by
    rw [hrecords, List.filterMap_map, ← List.filterMap_eq_map]
    exact List.filterMap_congr fun r _ => itemKey_decode r
  have hsorted : (t.rows.values.map (·.key)).Pairwise (· < ·) :=
    List.pairwise_map.mpr hkeyed.values_sorted
  rw [ListsInOrder, hkeys]
  constructor
  · intro heq
    rw [← heq]
    exact hsorted.filter _
  · intro hordered
    refine (hsorted.filter _).eq_of_mem_iff hordered fun id => ?_
    rw [List.mem_filter, List.mem_map, decide_eq_true_eq]
    refine and_iff_right_of_imp fun hid => ?_
    obtain ⟨r, hr⟩ := Option.isSome_iff_exists.mp (hids id hid)
    obtain rfl := hkeyed hr
    exact ⟨r, hkeyed.mem_values.mpr hr, rfl⟩

section

variable {context : RunContext Unit} (hh : context.history? = some h)
  (hl : h.table.layout = Columns.layout h.tableName)

include hh hl

/-- What one submission preserves, and what it adds. -/
theorem Holding.start (hm : Holding h ids m) (job : PreparedJob) (id : String) (now : UInt64) :
    Holding h (ids ++ [id]) (Submission.start context job id now m).2 := by
  obtain ⟨t, ht, hids⟩ := hm.present
  have hstage : (Submission.start context job id now m).2 =
      m.setTable h.tableName
        (t.write id (RecordRow.startCells id job.name now job.conf.toText)) := by
    unfold Submission.start
    rw [hh]
    exact congrArg Prod.snd
      (perform_of_online hl hm.online ht (.stage id job.name now job.conf.toText))
  rw [hstage]
  refine ⟨hm.online, hm.keyed.setTable ((hm.keyed ht).write ..) _, _,
    Dict.get?_insert_self .., fun id' hid' => ?_⟩
  rw [Dict.contains, Memory.get?_write]
  split
  · rfl
  · next hne =>
    exact hids id' ((List.mem_append.mp hid').resolve_right fun hmem =>
      hne (List.mem_singleton.mp hmem).symm)

/-- What a whole run of submissions preserves, and what it adds. -/
theorem Holding.submitAll (hm : Holding h ids m) (e : LocalEngine) (arrivals : List Arrival) :
    Holding h (ids ++ (e.submitAll context arrivals m).1.map (·.jobId))
      (e.submitAll context arrivals m).2 := by
  induction arrivals generalizing e ids m with
  | nil => exact (List.append_nil ids).symm ▸ hm
  | cons a as ih =>
      have hrest := ih (hm.start hh hl a.job (jobId (e.submitted + 1) a.unique) a.now)
        ⟨e.submitted + 1⟩
      rw [List.append_assoc] at hrest
      simpa only [submitAll_cons, List.map_cons, jobId_start, List.singleton_append] using hrest

end

/-! ## Ids and submissions -/

/-- How the ids of an engine are ordered. Of two submissions, with whatever
makes their ids unique, the earlier one has the smaller id, byte by byte,
exactly if its number is smaller than the other one cut to its width. So
whatever a history in memory holds when an engine begins to submit jobs, and
whatever happens to it later short of an outage and of its deletion, a listing
with room for all has the jobs in the order of their submission exactly if the
numbers have one width. For a new engine that is so up to 9999 jobs. -/
theorem ids_follow_submissions_iff (e : LocalEngine) :
    (∀ (f : LocalEngine) (u v : String), e.submitted < f.submitted →
      (Utf8.bytes (e.nextId u).1 < Utf8.bytes (f.nextId v).1 ↔
        e.submitted + 1 <
          (f.submitted + 1) / 10 ^ (width 4 (f.submitted + 1) - width 4 (e.submitted + 1)))) ∧
    ∀ {m₁ : Memory} {config : HistoryConfig} {h : HistoryStore Unit} {context : RunContext Unit},
      HistoryStore.openTable () config m₁ = .ok h →
      h.table.layout = Columns.layout h.tableName → context.history? = some h →
      ∀ (uri : String) (before later : List Memory.Change),
        let m := (Memory.new uri).run before
        m.online = true → (m.tables.get? h.tableName).isSome = true →
        (∀ c ∈ later, c.Spares h.tableName) →
        ∀ (arrivals : List Arrival) (limit : Nat),
          let r := e.submitAll context arrivals m
          let ids := r.1.map (·.jobId)
          (∀ t, (r.2.run later).tables.get? h.tableName = some t → t.rows.size ≤ limit) →
          (ListsInOrder h limit (r.2.run later) ids ↔ ∀ k < arrivals.length,
            width 4 (e.submitted + 1 + k) = width 4 (e.submitted + 1)) ∧
          (e = .new → (ListsInOrder h limit (r.2.run later) ids ↔ arrivals.length ≤ 9999)) := by
  refine ⟨fun f u v hlt => ?_, ?_⟩
  · rw [Utf8.bytes_lt_bytes, nextId_eq, nextId_eq]
    exact jobId_lt_iff (Nat.succ_lt_succ hlt) u v
  · intro m₁ config h context hopen hl hh uri before later m hon htable hspares arrivals limit r ids
      hlimit
    obtain ⟨t, ht⟩ := Option.isSome_iff_exists.mp htable
    have hm : Holding h [] m :=
      ⟨hon, Memory.keyed_run (Memory.keyed_new uri) before, t, ht, nofun⟩
    have hholding : Holding h ids (r.2.run later) := (hm.submitAll hh hl e arrivals).run hspares
    have hlists : ListsInOrder h limit (r.2.run later) ids ↔ ∀ k < arrivals.length,
        width 4 (e.submitted + 1 + k) = width 4 (e.submitted + 1) := by
      rw [hholding.listsInOrder_iff (HistoryStore.scanBatch_pos_of_openTable hopen) hlimit,
        show ids = _ from jobIds_submitAll context e arrivals m, pairwise_idsFrom_iff,
        List.length_map]
    refine ⟨hlists, ?_⟩
    rintro rfl
    exact hlists.trans width_from_one_iff

/-- The making of a history table. -/
def tableMade : List Memory.Change := [.create (Columns.layout "job_history")]

/-- Two jobs, of which the second one has the smaller text in its id. -/
def twoArrivals : List Arrival := [⟨idleJob, "z", 9⟩, ⟨idleJob, "a", 7⟩]

/-- Another job is written down between the two, and then the end of the
second one. -/
def twoWrites : List Memory.Change :=
  [.put (openedHistory ()).table "job_local_0001_zz" [],
    .put (openedHistory ()).table "job_local_0002_a"
      (RecordRow.endCells "job_local_0002_a" 10 .succeeded .empty)]

/-- The first two jobs of an engine are listed in order. -/
theorem first_jobs_in_order :
    let r := LocalEngine.new.submitAll ⟨.default, some (openedHistory ())⟩ twoArrivals
      ((Memory.new "memory://").run tableMade)
    Utf8.bytes (LocalEngine.new.nextId "z").1 < Utf8.bytes ((LocalEngine.mk 1).nextId "a").1 ∧
      ListsInOrder (openedHistory ()) 8 (r.2.run twoWrites) (r.1.map (·.jobId)) := by
  intro r
  refine ⟨((ids_follow_submissions_iff .new).1 ⟨1⟩ "z" "a" (by decide)).mpr (by decide), ?_⟩
  have hopen : HistoryStore.openTable () .default ((Memory.new "memory://").run tableMade) =
      .ok (openedHistory ()) :=
    HistoryStore.openTable_of_online (t := ⟨Columns.layout "job_history", ∅⟩) (by decide +kernel)
      (by decide +kernel)
  have hspares : ∀ c ∈ twoWrites, c.Spares (openedHistory ()).tableName := by
    simp [twoWrites, Memory.Change.Spares]
  have hsize : ((r.2.run twoWrites).tables.get? (openedHistory ()).tableName).map
      (·.rows.size) = some 3 := by decide +kernel
  have hall := (ids_follow_submissions_iff .new).2 hopen rfl rfl "memory://" tableMade twoWrites
    (by decide +kernel) (by decide +kernel) hspares twoArrivals 8 fun t ht => by
      have hthree : 3 = t.rows.size :=
        Option.some.inj (hsize.symm.trans (congrArg (Option.map (·.rows.size)) ht))
      omega
  exact (hall.2 rfl).mpr (by decide)

/-- The job 10000 comes before the job 9999, in the order of the ids and in a
listing. -/
theorem later_job_listed_first :
    let r := (LocalEngine.mk 9998).submitAll ⟨.default, some (openedHistory ())⟩ twoArrivals
      ((Memory.new "memory://").run tableMade)
    r.1.map (·.jobId) = ["job_local_9999_z", "job_local_10000_a"] ∧
      ¬Utf8.bytes ((LocalEngine.mk 9998).nextId "z").1 <
        Utf8.bytes ((LocalEngine.mk 9999).nextId "a").1 ∧
      ((openedHistory ()).records 8 r.2).filterMap itemKey =
        ["job_local_10000_a", "job_local_9999_z"] := by
  decide +kernel

end LocalEngine

end JobLedger
