import JobLedger.Proofs.History.DamagedRows
import Mathlib.Data.List.Infix

/-!
# The report of a whole history

A report of a whole history asks for its records one after the other, while
the instance may change. `report_of_history` compares it with looking up each
job on its own: as long as the table stays as it is and no scan fails, it shows
the reports of all jobs in the order of their keys, joined by empty lines. Rows
that are no records leave no trace. A scan that fails is the whole answer.

What is joined is known only by its text: a text that is empty has nothing in
it yet. This is right because no report is empty (`render_ne_empty`).
-/

namespace JobLedger

/-! ## Joining reports -/

namespace Report

theorem render_ne_empty (r : JobRecord) (o : ReportOptions) : render r o ≠ "" := by
  have hline : ∀ label value, line label value ≠ "" := fun label value h =>
    absurd (String.append_eq_empty_iff.mp h).2 (by decide)
  intro h
  simp only [render, summary, String.append_eq_empty_iff] at h
  exact hline _ _ h.1.1.1.1.1.1.2

/-- The report of a row, if it is a record. -/
def ofRow (o : ReportOptions) (r : Row) : Option String :=
  (RecordRow.decode r).toOption.map (render · o)

theorem intercalate_eq_empty_iff {texts : List String} (h : ∀ text ∈ texts, text ≠ "") :
    "\n".intercalate texts = "" ↔ texts = [] := by
  constructor
  · intro hempty
    cases texts with
    | nil => rfl
    | cons text rest =>
        cases rest with
        | nil =>
            rw [String.intercalate_singleton] at hempty
            exact absurd hempty (h text (by simp))
        | cons text' rest =>
            rw [String.intercalate_cons_of_ne_nil (by simp)] at hempty
            simp only [String.append_eq_empty_iff] at hempty
            exact absurd hempty.1.1 (h text (by simp))
  · rintro rfl
    exact String.intercalate_nil

/-- One more record comes behind a line feed, the first one alone. -/
theorem addRecord_intercalate {texts : List String} (h : ∀ text ∈ texts, text ≠ "")
    (o : ReportOptions) (r : JobRecord) :
    addRecord o ("\n".intercalate texts) r = "\n".intercalate (texts ++ [render r o]) := by
  rw [addRecord]
  by_cases htexts : texts = []
  · subst htexts
    rw [String.intercalate_nil, if_pos rfl, String.empty_append, List.nil_append,
      String.intercalate_singleton]
  · rw [if_neg (mt (intercalate_eq_empty_iff h).mp htexts),
      String.intercalate_append_of_ne_nil htexts (by simp), String.intercalate_singleton]

theorem ofItems_intercalate {texts : List String} (h : ∀ text ∈ texts, text ≠ "")
    (o : ReportOptions) (rows : List Row) :
    ofItems o ("\n".intercalate texts) (rows.map RecordRow.decode) =
      .ok ("\n".intercalate (texts ++ rows.filterMap (ofRow o))) := by
  induction rows generalizing texts with
  | nil => rw [List.filterMap_nil, List.append_nil]; rfl
  | cons r rows ih =>
      rw [List.map_cons]
      cases hr : RecordRow.read r with
      | ok rec =>
          have hdecode : RecordRow.decode r = .ok rec := by rw [RecordRow.decode, hr]; rfl
          have htext : ofRow o r = some (render rec o) := by rw [ofRow, hdecode]; rfl
          have htexts : ∀ text ∈ texts ++ [render rec o], text ≠ "" := fun text hmem => by
            rcases List.mem_append.mp hmem with hmem | hmem
            · exact h text hmem
            · exact List.mem_singleton.mp hmem ▸ render_ne_empty rec o
          rw [hdecode, ofItems, addRecord_intercalate h, ih htexts,
            List.filterMap_cons_some htext, List.append_assoc]
          rfl
      | error fault =>
          have hdecode : RecordRow.decode r = .error (.corrupt r.key fault) := by
            rw [RecordRow.decode, hr]
            rfl
          have htext : ofRow o r = none := by rw [ofRow, hdecode]; rfl
          rw [hdecode, ofItems, ih h, List.filterMap_cons_none htext]

/-- The records of rows are joined by empty lines, whatever rows are between
them that are no records. -/
theorem ofItems_rows (o : ReportOptions) (rows : List Row) :
    ofItems o "" (rows.map RecordRow.decode) =
      .ok ("\n".intercalate (rows.filterMap (ofRow o))) := by
  have hnone : ∀ text ∈ ([] : List String), text ≠ "" := nofun
  exact ofItems_intercalate hnone o rows

end Report

/-! ## Looking up each job -/

namespace HistoryStore

/-- The reports of those of the jobs that have one, joined by empty lines. -/
def joinedReports {ι σ : Type} [Backend ι σ] (h : HistoryStore ι) (o : ReportOptions)
    (jobIds : List String) (s : σ) : String :=
  "\n".intercalate (jobIds.filterMap fun jobId => (h.report o jobId s).toOption)

variable {h : HistoryStore Unit} {m : Memory} {t : MemoryTable}
  (ht : m.tables.get? h.tableName = some t)

include ht

theorem report_of_table {key : String} {r : Row} (hr : t.rows.get? key = some r)
    (o : ReportOptions) :
    h.report o key (m.setOnline true) = (RecordRow.decode r).map (Report.render · o) := by
  rw [report, details_of_table ht, hr]

/-- A job of the table that has no report has a corrupt row. -/
theorem corrupt_of_report (hkeyed : t.Keyed) {key : String} (hkey : key ∈ t.rows.keys)
    {o : ReportOptions} {e : HistoryError} (he : h.report o key (m.setOnline true) = .error e) :
    ∃ fault, e = .corrupt key fault := by
  obtain ⟨⟨_, r⟩, hmem, rfl⟩ := List.mem_map.mp hkey
  have hr := Dict.get?_eq_some_iff.mpr hmem
  rw [report_of_table ht hr, RecordRow.decode] at he
  cases hread : RecordRow.read r with
  | ok rec =>
      rw [hread] at he
      cases he
  | error fault =>
      rw [hread] at he
      exact ⟨fault, by rw [← Except.error.inj he, hkeyed hr]⟩

theorem joinedReports_of_table (o : ReportOptions) :
    h.joinedReports o t.rows.keys (m.setOnline true) =
      "\n".intercalate (t.rows.values.filterMap (Report.ofRow o)) := by
  rw [joinedReports, Dict.keys, Dict.values, List.filterMap_map, List.filterMap_map]
  refine congrArg _ (List.filterMap_congr fun e he => ?_)
  have hreport := report_of_table ht (Dict.get?_eq_some_iff.mpr he) o
  rw [Function.comp_apply, hreport, Function.comp_apply, Report.ofRow]
  cases RecordRow.decode e.2 <;> rfl

end HistoryStore

/-! ## Reports during changes -/

namespace Enumeration

/-- The report of the items that are yielded during events. -/
def report (s : Enumeration) (o : ReportOptions) (events : List EnumerationEvent) :
    Except HistoryError String :=
  Report.ofItems o "" (s.yielded events)

theorem yielded_of_finished {s : Enumeration} (h : s.cursor.finished = true)
    (events : List EnumerationEvent) : s.yielded events = [] :=
  List.filterMap_eq_nil_iff.mpr (answers_of_finished h events)

theorem yielded_cons_next (s : Enumeration) (es : List EnumerationEvent) :
    s.yielded (.next :: es) = s.answer.toList ++ (s.step .next).yielded es := by
  rw [yielded, answers, List.filterMap_cons]
  cases s.answer <;> rfl

/-- If nothing changes, the items are those that are collected. -/
theorem yielded_replicate_next (s : Enumeration) (limit : Nat) :
    s.yielded (List.replicate limit .next) = s.cursor.collect limit s.memory := by
  induction limit generalizing s with
  | zero => rfl
  | succ limit ih =>
      rw [List.replicate_succ, yielded_cons_next, HistoryCursor.collect]
      cases hn : s.cursor.next s.memory with
      | mk item c =>
          have hanswer : s.answer = item := congrArg Prod.fst hn
          have hstep : s.step .next = ⟨c, s.memory⟩ :=
            congrArg (fun c => Enumeration.mk c s.memory) (congrArg Prod.snd hn)
          rw [hanswer]
          cases item with
          | some item =>
              rw [ih, hstep]
              rfl
          | none =>
              rw [yielded_of_finished (finished_of_answer (by simp [hanswer]))]
              rfl

/-- An answer is the last one, or it is a row. -/
theorem answer_cases (s : Enumeration) :
    ((s.step .next).cursor.finished = true ∧ ∀ item, s.answer = some item → IsScanFailure item) ∨
      s.cursor.finished = false ∧ ∃ r, s.answer = some (RecordRow.decode r) := by
  by_cases hend : ∀ item, s.answer = some item → IsScanFailure item
  · exact .inl ⟨finished_of_answer hend, hend⟩
  · refine .inr ?_
    simp only [answer] at hend ⊢
    rcases s.cursor.next_cases s.memory with ⟨-, hn⟩ | ⟨r, page, -, hf, hn⟩ | ⟨e, -, -, -, hn⟩ |
      ⟨-, -, -, hn⟩ | ⟨r, page, -, hf, -, hn⟩ <;> rw [hn] at hend ⊢
    · exact absurd (fun item hitem => by cases hitem) hend
    · exact ⟨hf, r, rfl⟩
    · exact absurd (fun item hitem => ⟨e, (Option.some.inj hitem).symm⟩) hend
    · exact absurd (fun item hitem => by cases hitem) hend
    · exact ⟨hf, r, rfl⟩

/-- Before the end all items are rows. -/
theorem yielded_of_not_finished {s : Enumeration} {events : List EnumerationEvent}
    (h : (s.after events).cursor.finished = false) :
    ∃ rows : List Row, s.yielded events = rows.map RecordRow.decode := by
  induction events using List.reverseRecOn with
  | nil => exact ⟨[], rfl⟩
  | append_singleton es e ih =>
      rw [after_append] at h
      rw [yielded_append]
      cases e with
      | change c =>
          obtain ⟨rows, hrows⟩ := ih h
          exact ⟨rows, by rw [hrows]; exact List.append_nil _⟩
      | next =>
          rcases (s.after es).answer_cases with ⟨hf, -⟩ | ⟨hf, r, hr⟩
          · exact absurd (hf.symm.trans h) (by decide)
          · obtain ⟨rows, hrows⟩ := ih hf
            refine ⟨rows ++ [r], ?_⟩
            rw [hrows, yielded_cons_next, hr, List.map_append]
            rfl

/-- A failed scan is the whole report, whatever items came before. -/
theorem report_of_failedScan {s : Enumeration} {es : List EnumerationEvent} {e : StoreError}
    (h : (s.after es).answer = some (.error (.ofStore e))) (o : ReportOptions)
    (es' : List EnumerationEvent) :
    s.report o (es ++ .next :: es') = .error (.ofStore e) := by
  have hfailure : ∀ item, (s.after es).answer = some item → IsScanFailure item :=
    fun item hitem => ⟨e, Option.some.inj (hitem.symm.trans h)⟩
  have hbefore : (s.after es).cursor.finished = false := by
    by_contra hf
    have hn := next_of_finished (Bool.of_not_eq_false hf) (s.after es).memory
    rw [answer, hn] at h
    cases h
  obtain ⟨rows, hrows⟩ := yielded_of_not_finished hbefore
  rw [report, yielded_append, yielded_cons_next, hrows, h,
    yielded_of_finished (finished_of_answer hfailure), List.append_nil]
  exact ofItems_of_failedScan o "" rows e

/-! ### A table that stays as it is -/

/-- An outage that is not noticed makes no difference. -/
theorem next_setOnline {c : HistoryCursor Unit} {m : Memory}
    (h : ∀ item, (c.next m).1 = some item → ¬IsScanFailure item) :
    c.next (m.setOnline true) = c.next m := by
  cases hon : m.online with
  | true => rw [show m.setOnline true = m by rw [Memory.setOnline, ← hon]]
  | false =>
      have hscan : Backend.scan c.store.inst c.store.table c.lastKey c.store.scanBatch m =
          .error (.unavailable (.offline m.uri)) := by
        simp only [Backend.scan, Memory.scan, Memory.table_of_offline hon]
        rfl
      rcases c.next_cases m with ⟨hf, hn⟩ | ⟨r, page, hp, hf, hn⟩ | ⟨e, -, -, -, hn⟩ |
        ⟨-, -, hs, -⟩ | ⟨_, _, -, -, hs, -⟩
      · rw [hn, next_of_finished hf]
      · rw [hn, HistoryCursor.next, hf, hp]
        rfl
      · exact absurd ⟨e, rfl⟩ (h _ (by rw [hn]))
      · cases hscan.symm.trans hs
      · cases hscan.symm.trans hs

/-- One step on a table that stays as it is: the first of the remaining rows
is taken. -/
theorem next_unchanged {s : Enumeration} {t : MemoryTable} (hkeyed : t.Keyed)
    (hbatch : 0 < s.cursor.store.scanBatch)
    (ht : s.memory.tables.get? s.cursor.store.tableName = some t)
    (hscan : ∀ item, s.answer = some item → ¬IsScanFailure item) :
    (s.step .next).cursor.store = s.cursor.store ∧
      match s.cursor.remaining t with
      | [] => s.answer = none
      | r :: rest =>
          s.answer = some (RecordRow.decode r) ∧ (s.step .next).cursor.remaining t = rest := by
  have hlists : s.cursor.store.Lists (s.memory.setOnline true) t :=
    Memory.scan_of_online rfl ht
  obtain ⟨hstore, hnext⟩ := next_remaining hkeyed hlists hbatch
  rw [next_setOnline hscan] at hstore hnext
  refine ⟨hstore, ?_⟩
  cases hr : s.cursor.remaining t with
  | nil =>
      rw [hr] at hnext
      exact hnext.1
  | cons r rest =>
      rw [hr] at hnext
      exact hnext

/-- A run to the end yields all rows that remain. -/
theorem yielded_of_unchanged {s : Enumeration} {t : MemoryTable} (hkeyed : t.Keyed)
    (hbatch : 0 < s.cursor.store.scanBatch) {events : List EnumerationEvent}
    (ht : ∀ es, es <+: events →
      (s.after es).memory.tables.get? s.cursor.store.tableName = some t)
    (hscans : ∀ item, some item ∈ s.answers events → ¬IsScanFailure item)
    (hend : none ∈ s.answers events) :
    s.yielded events = (s.cursor.remaining t).map RecordRow.decode := by
  induction events generalizing s with
  | nil => exact nomatch hend
  | cons e events ih =>
      have hrest : ∀ es, es <+: events →
          ((s.step e).after es).memory.tables.get? s.cursor.store.tableName = some t :=
        fun es hes => ht (e :: es) (List.cons_prefix_cons.mpr ⟨rfl, hes⟩)
      cases e with
      | change c => exact ih hbatch hrest hscans hend
      | next =>
          obtain ⟨hstore, hnext⟩ := next_unchanged hkeyed hbatch (ht [] List.nil_prefix)
            fun item hitem => hscans item (hitem ▸ List.mem_cons_self ..)
          rw [yielded_cons_next]
          cases hr : s.cursor.remaining t with
          | nil =>
              rw [hr] at hnext
              rw [hnext, yielded_of_finished (finished_of_answer (by simp [hnext]))]
              rfl
          | cons r rest =>
              rw [hr] at hnext
              have hrows := ih (s := s.step .next) (hstore ▸ hbatch) (hstore ▸ hrest)
                (fun item hitem => hscans item (List.mem_cons_of_mem _ hitem))
                ((List.mem_cons.mp hend).resolve_left (by simp [hnext.1]))
              rw [hrows, hnext.1, hnext.2]
              rfl

end Enumeration

/-! ## Reports of a history -/

/-- **The report of a whole history is what looking up each job gives.** It is
put together from the items of an enumeration, with pages of any size, and any
changes in between. As long as the table stays as it is and no scan fails, it
has the reports of all jobs that have one, in the order of their keys, joined
by empty lines; a job without one has a corrupt row. If a scan fails, whatever
changed before, the report is its failure and nothing else. -/
theorem report_of_history {m₁ : Memory} {config : HistoryConfig} {h : HistoryStore Unit}
    (hopen : HistoryStore.openTable () config m₁ = .ok h) (uri : String)
    (before : List Memory.Change) (o : ReportOptions) :
    let m := (Memory.new uri).run before
    let s := Enumeration.start h m
    (∀ limit, h.reportAll o limit m = s.report o (List.replicate limit .next)) ∧
    (∀ t, m.tables.get? h.tableName = some t →
      (∀ jobId ∈ t.rows.keys, ∀ e, h.report o jobId (m.setOnline true) = .error e →
        ∃ fault, e = .corrupt jobId fault) ∧
      (m.online = true → ∀ limit, t.rows.size ≤ limit →
        h.reportAll o limit m = .ok (h.joinedReports o t.rows.keys m)) ∧
      ∀ events,
        (∀ es, es <+: events → (s.after es).memory.tables.get? h.tableName = some t) →
        (∀ item, some item ∈ s.answers events → ¬IsScanFailure item) →
        none ∈ s.answers events →
        s.report o events = .ok (h.joinedReports o t.rows.keys (m.setOnline true))) ∧
    ∀ es es' e, (s.after es).answer = some (.error (.ofStore e)) →
      s.report o (es ++ .next :: es') = .error (.ofStore e) := by
  intro m s
  have hbatch := HistoryStore.scanBatch_pos_of_openTable hopen
  have hm : m.Keyed := Memory.keyed_run (Memory.keyed_new uri) before
  refine ⟨fun limit => ?_, fun t ht => ⟨fun jobId hkey e he => ?_, fun hon limit hlimit => ?_,
    fun events hkept hscans hend => ?_⟩, fun es es' e h => ?_⟩
  · rw [Enumeration.report, Enumeration.yielded_replicate_next]
    rfl
  · exact HistoryStore.corrupt_of_report ht (hm ht) hkey he
  · have hsame : m.setOnline true = m := by rw [Memory.setOnline, ← hon]
    have hrecords : h.records limit m = t.rows.values.map RecordRow.decode := by
      refine (collect_eq (c := .start h) (hm ht) (Memory.scan_of_online hon ht) hbatch limit).trans
        (List.take_of_length_le ?_)
      rw [List.length_map]
      exact (List.length_map ..).trans_le hlimit
    rw [← hsame, HistoryStore.joinedReports_of_table ht, hsame, HistoryStore.reportAll, hrecords]
    exact Report.ofItems_rows o _
  · rw [HistoryStore.joinedReports_of_table ht, Enumeration.report,
      Enumeration.yielded_of_unchanged (hm ht) hbatch hkept hscans hend]
    exact Report.ofItems_rows o _
  · exact Enumeration.report_of_failedScan h o es'

/-- Four jobs, of which the first and the third have a row that is no record.
An outage between two items goes unnoticed if it is over in time. -/
theorem report_of_four_jobs :
    ∃ h m, HistoryStore.openTable () { HistoryConfig.default with scanBatch := 0 } m = .ok h ∧
      h.reportAll .summary 4 m = .ok "Job ID:     job-2\n\nJob ID:     job-4\n" ∧
      (Enumeration.start h m).report .summary [.next, .change (.switch false),
        .change (.switch true), .next, .next, .next, .next] =
          .ok "Job ID:     job-2\n\nJob ID:     job-4\n" ∧
      (Enumeration.start h m).report .summary ([.next, .next, .change (.switch false)] ++ [.next]) =
        .error (.unavailable (.storage (.unavailable (.offline "memory://")))) := by
  let config := { HistoryConfig.default with scanBatch := 0 }
  let h : HistoryStore Unit := ⟨(), .ofHistory, 1⟩
  let bad : List Cell := [⟨Columns.info, Columns.endStatus, [255]⟩]
  let before : List Memory.Change := [.create (Columns.layout "job_history"),
    .put .ofHistory "job-1" bad, .put .ofHistory "job-2" [], .put .ofHistory "job-3" bad,
    .put .ofHistory "job-4" []]
  let m := (Memory.new "memory://").run before
  let t := (⟨Columns.layout "job_history", ∅⟩ : MemoryTable).write "job-1" bad
    |>.write "job-2" [] |>.write "job-3" bad |>.write "job-4" []
  let events : List EnumerationEvent := [.next, .change (.switch false), .change (.switch true),
    .next, .next, .next, .next]
  have ht : m.tables.get? config.tableName = some t := by decide +kernel
  have hon : m.online = true := by decide +kernel
  have hopen : HistoryStore.openTable () config m = .ok h :=
    HistoryStore.openTable_of_online hon ht
  obtain ⟨-, htable, hfailed⟩ := report_of_history hopen "memory://" before .summary
  obtain ⟨-, hall, hevents⟩ := htable t ht
  have hkept : ∀ es ∈ events.inits,
      ((Enumeration.start h m).after es).memory.tables.get? "job_history" = some t := by
    decide +kernel
  have hanswers : (Enumeration.start h m).answers events =
      (t.rows.values.map fun r => some (RecordRow.decode r)) ++ [none] := by decide +kernel
  refine ⟨h, m, hopen, (hall hon 4 (by decide +kernel)).trans (by decide +kernel), ?_, ?_⟩
  · refine (hevents events (fun es hes => hkept es ((List.mem_inits es _).mpr hes))
      (fun item hitem => ?_) ?_).trans (by decide +kernel)
    · rw [hanswers] at hitem
      obtain ⟨r, -, rfl⟩ : ∃ r ∈ t.rows.values, RecordRow.decode r = item := by simpa using hitem
      exact not_isScanFailure_decode r
    · rw [hanswers]
      exact List.mem_append_right _ (List.mem_singleton_self none)
  · exact hfailed [.next, .next, .change (.switch false)] [] (.unavailable (.offline "memory://"))
      (by decide +kernel)

end JobLedger
