import JobLedger.History.RecordRow
import JobLedger.Proofs.Json.Codec
import JobLedger.Proofs.Storage.Row

/-!
# Records read back from their rows

`Holds rec r` says that the cells of `r` spell the record `rec`, field by
field. A row that holds a record is read as that record
(`decode_of_holds`), and each kind of write takes a row that holds a record
to one that holds the record with the written fields replaced. So the
reader never meets a corrupt cell that a writer has made, in whatever order
the writes came.
-/

namespace JobLedger

/-- The stored form of a time. -/
def RecordRow.timeText (t : UInt64) : String := toString t.toNat

/-- The cells of a row spell a record. Cells that no field is read from
may hold anything. -/
structure RecordRow.Holds (rec : JobRecord) (r : Row) : Prop where
  key : r.key = rec.jobId
  jobName : r.get? Columns.info Columns.jobName = rec.jobName.map Utf8.bytes
  startTime : r.get? Columns.info Columns.startTime
    = rec.startTime.map fun t => Utf8.bytes (timeText t)
  endTime : r.get? Columns.info Columns.endTime
    = rec.endTime.map fun t => Utf8.bytes (timeText t)
  endStatus : r.get? Columns.info Columns.endStatus
    = rec.endStatus.map fun s => Utf8.bytes s.name
  counters : r.get? Columns.info Columns.counters
    = rec.counters.map fun c => Utf8.bytes c.toText
  configuration : r.get? Columns.info Columns.configuration = rec.configuration.map Utf8.bytes
  extensions : r.familyDict Columns.extended
    = rec.extensions.mapValues fun _ text => Utf8.bytes text

namespace RecordRow

/-! ## Reading -/

theorem field_eq {r : Row} {qualifier : String} {text : Option String}
    (h : r.get? Columns.info qualifier = text.map Utf8.bytes) : field r qualifier = .ok text := by
  unfold field Row.getText
  rw [h]
  cases text with
  | none => rfl
  | some s => simp [Except.mapError]

theorem time_eq {r : Row} {qualifier : String} {t : Option UInt64}
    (h : r.get? Columns.info qualifier = t.map fun t => Utf8.bytes (timeText t)) :
    time r qualifier = .ok t := by
  have hfield : field r qualifier = .ok (t.map timeText) :=
    field_eq (by rw [h, Option.map_map]; rfl)
  unfold time
  rw [hfield]
  cases t with
  | none => rfl
  | some t =>
      have hdigits : (timeText t).toList = Nat.toDigits 10 t.toNat := by simp [timeText]
      have hread := Numeral.readWord_trimChars_toDigits t
      rw [← hdigits] at hread
      simp only [Option.map_some, bind, Except.bind, hread]
      rfl

theorem status_eq {r : Row} {s : Option JobStatus}
    (h : r.get? Columns.info Columns.endStatus = s.map fun s => Utf8.bytes s.name) :
    status r = .ok s := by
  have hfield : field r Columns.endStatus = .ok (s.map JobStatus.name) :=
    field_eq (by rw [h, Option.map_map]; rfl)
  unfold status
  rw [hfield]
  cases s with
  | none => rfl
  | some s =>
      simp only [Option.map_some, bind, Except.bind, JobStatus.parse, JobStatus.ofName?_name]
      rfl

theorem counters_eq {r : Row} {c : Option Counters}
    (h : r.get? Columns.info Columns.counters = c.map fun c => Utf8.bytes c.toText) :
    counters r = .ok c := by
  have hfield : field r Columns.counters = .ok (c.map Counters.toText) :=
    field_eq (by rw [h, Option.map_map]; rfl)
  unfold counters
  rw [hfield]
  cases c with
  | none => rfl
  | some c =>
      simp only [Option.map_some, bind, Except.bind, Counters.ofText?_toText]
      rfl

theorem extensionTexts_map : ∀ l : List (String × String),
    extensionTexts (l.map fun e => (e.1, Utf8.bytes e.2)) = .ok l
  | [] => rfl
  | e :: r => by
      rw [List.map_cons, extensionTexts, Utf8.decode_bytes, extensionTexts_map r]
      rfl

/-- A row that holds a record is read as that record. -/
theorem decode_of_holds {rec : JobRecord} {r : Row} (h : Holds rec r) : decode r = .ok rec := by
  have hext : extensionTexts (r.family Columns.extended) = .ok rec.extensions.entries := by
    rw [Row.family, h.extensions]
    exact extensionTexts_map rec.extensions.entries
  rw [decode, read, field_eq h.jobName, time_eq h.startTime, time_eq h.endTime,
    status_eq h.endStatus, counters_eq h.counters, field_eq h.configuration, hext]
  simp only [bind, Except.bind, pure, Except.pure, Except.mapError, Dict.ofList_entries, h.key]

/-- A record that is read from any row is about the job of the row's key. -/
theorem jobId_of_read {r : Row} {rec : JobRecord} (h : read r = .ok rec) : rec.jobId = r.key := by
  have hbind {α β : Type} {x : Except RecordFault α} {f : α → Except RecordFault β} {b : β} :
      (x >>= f) = .ok b ↔ ∃ a, x = .ok a ∧ f a = .ok b := by cases x <;> simp [bind, Except.bind]
  simp only [read, hbind] at h
  obtain ⟨_, -, _, -, _, -, _, -, _, -, _, -, _, -, h⟩ := h
  cases h
  rfl

/-! ## Writing -/

theorem holds_empty (jobId : String) : Holds (.new jobId) (.empty jobId) :=
  ⟨rfl, rfl, rfl, rfl, rfl, rfl, rfl, rfl⟩

def started (rec : JobRecord) (jobName : String) (startTime : UInt64) (configuration : String) :
    JobRecord :=
  { rec with
    jobName := some jobName, startTime := some startTime, configuration := some configuration }

def ended (rec : JobRecord) (endTime : UInt64) (status : JobStatus) (counters : Counters) :
    JobRecord :=
  { rec with endTime := some endTime, endStatus := some status, counters := some counters }

def extended (rec : JobRecord) (key value : String) : JobRecord :=
  { rec with extensions := rec.extensions.insert key value }

theorem Holds.started {rec : JobRecord} {r : Row} (h : Holds rec r) (jobId jobName : String)
    (startTime : UInt64) (configuration : String) :
    Holds (started rec jobName startTime configuration)
      (r.apply (startCells jobId jobName startTime configuration)) := by
  have hcell : ∀ q, (r.apply (startCells jobId jobName startTime configuration)).get? Columns.info q
      = if q = Columns.configuration then some (Utf8.bytes configuration)
        else if q = Columns.startTime then some (Utf8.bytes (timeText startTime))
        else if q = Columns.jobName then some (Utf8.bytes jobName)
        else if q = Columns.jobId then some (Utf8.bytes jobId)
        else r.get? Columns.info q := by
    intro q
    simp only [startCells, Row.apply, List.foldl_cons, List.foldl_nil, Row.get?_put, Cell.ofText,
      true_and, eq_comm (b := q), timeText]
  refine ⟨by rw [Row.key_apply, h.key]; rfl, ?_, ?_, ?_, ?_, ?_, ?_, ?_⟩
  · exact hcell _
  · exact hcell _
  · exact (hcell _).trans h.endTime
  · exact (hcell _).trans h.endStatus
  · exact (hcell _).trans h.counters
  · exact hcell _
  · have hne : ∀ c ∈ startCells jobId jobName startTime configuration,
        c.family ≠ Columns.extended := by
      simp [startCells, Cell.ofText, Columns.info, Columns.extended]
    rw [Row.familyDict_apply_of_ne hne, h.extensions]
    rfl

theorem Holds.ended {rec : JobRecord} {r : Row} (h : Holds rec r) (jobId : String)
    (endTime : UInt64) (status : JobStatus) (counters : Counters) :
    Holds (ended rec endTime status counters)
      (r.apply (endCells jobId endTime status counters)) := by
  have hcell : ∀ q, (r.apply (endCells jobId endTime status counters)).get? Columns.info q
      = if q = Columns.counters then some (Utf8.bytes counters.toText)
        else if q = Columns.endStatus then some (Utf8.bytes status.name)
        else if q = Columns.endTime then some (Utf8.bytes (timeText endTime))
        else if q = Columns.jobId then some (Utf8.bytes jobId)
        else r.get? Columns.info q := by
    intro q
    simp only [endCells, Row.apply, List.foldl_cons, List.foldl_nil, Row.get?_put, Cell.ofText,
      true_and, eq_comm (b := q), timeText]
  refine ⟨by rw [Row.key_apply, h.key]; rfl, ?_, ?_, ?_, ?_, ?_, ?_, ?_⟩
  · exact (hcell _).trans h.jobName
  · exact (hcell _).trans h.startTime
  · exact hcell _
  · exact hcell _
  · exact hcell _
  · exact (hcell _).trans h.configuration
  · have hne : ∀ c ∈ endCells jobId endTime status counters, c.family ≠ Columns.extended := by
      simp [endCells, Cell.ofText, Columns.info, Columns.extended]
    rw [Row.familyDict_apply_of_ne hne, h.extensions]
    rfl

theorem Holds.extended {rec : JobRecord} {r : Row} (h : Holds rec r) (key value : String) :
    Holds (extended rec key value) (r.apply [extensionCell key value]) := by
  have hcell : ∀ q, (r.apply [extensionCell key value]).get? Columns.info q
      = r.get? Columns.info q := by
    intro q
    have hne : Columns.extended ≠ Columns.info := by decide
    exact (Row.get?_put ..).trans (if_neg fun h => hne h.1)
  refine ⟨h.key, (hcell _).trans h.jobName, (hcell _).trans h.startTime,
    (hcell _).trans h.endTime, (hcell _).trans h.endStatus, (hcell _).trans h.counters,
    (hcell _).trans h.configuration, ?_⟩
  have hfamily := Row.familyDict_put r (extensionCell key value) Columns.extended
  have hext : (extensionCell key value).family = Columns.extended := rfl
  rw [if_pos hext, h.extensions] at hfamily
  refine hfamily.trans (Dict.ext_get? fun k => ?_)
  rw [Dict.get?_insert, Dict.get?_mapValues, Dict.get?_mapValues, RecordRow.extended,
    Dict.get?_insert]
  by_cases hk : key = k
  · subst hk
    simp [extensionCell, Cell.ofText]
  · simp [extensionCell, Cell.ofText, hk]

end RecordRow

end JobLedger
