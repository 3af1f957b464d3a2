import JobLedger.Proofs.History.RecordRow
import JobLedger.Proofs.Text.Blank

/-!
# Which rows are records

`decoding_of_rows` says of every row, whatever bytes its cells hold, whether
it is read as a record and as which one. Each field is read from one cell, and
its text means a value or nothing (`IsTime`, `IsStatus`, `IsCounters`); the
meanings are said without the reader. A row is a record if every cell that a
field is read from means something (`Readable`), and then the one with these
values (`Means`). No other cell matters.

A value may be spelled in several ways, such as a time with blanks around it.
Written again it has one spelling: the cells of a record (`presentCells`) make
a row that is read as that record.
-/

namespace JobLedger

/-! ## What stored texts mean -/

/-- The bytes are a text of the value. -/
def Spells {α : Type} (IsText : String → α → Prop) (bs : Bytes) (a : α) : Prop :=
  ∃ text, bs = Utf8.bytes text ∧ IsText text a

theorem spells_bytes_iff {α : Type} {IsText : String → α → Prop} {text : String} {a : α} :
    Spells IsText (Utf8.bytes text) a ↔ IsText text a := by
  constructor
  · rintro ⟨text', h, ha⟩
    rwa [Utf8.bytes_injective h]
  · exact fun ha => ⟨text, rfl, ha⟩

/-- A time is a decimal number of 64 bits, with any blanks around it. -/
def IsTime (text : String) (t : UInt64) : Prop :=
  ∃ before digits after, text.toList = before ++ digits ++ after ∧
    (∀ c ∈ before, isBlank c = true) ∧ (∀ c ∈ after, isBlank c = true) ∧
    Numeral.IsDecimal digits t.toNat

def IsStatus (text : String) (s : JobStatus) : Prop := text = s.name

/-- Counters are a JSON object whose values are numbers of 64 bits with a sign.
Of two members of one name the later one counts. -/
def IsCounters (text : String) (c : Counters) : Prop :=
  ∃ members : List (String × Int),
    Json.parse? text = some (.object (members.map fun m => (m.1, .int m.2))) ∧
    (∀ m ∈ members, Int64.minValue.toInt ≤ m.2 ∧ m.2 ≤ Int64.maxValue.toInt) ∧
    c = .ofList (members.map fun m => (m.1, Int64.ofInt m.2))

theorem readWord_trimChars_eq_ok_iff {text : String} {t : UInt64} :
    Numeral.readWord (trimChars text.toList) = .ok t ↔ IsTime text t := by
  rw [Numeral.readWord_eq_ok_iff]
  constructor
  · intro h
    obtain ⟨before, after, htext, hbefore, hafter⟩ := exists_eq_trimChars text.toList
    exact ⟨before, _, after, htext, hbefore, hafter, h⟩
  · rintro ⟨before, digits, after, htext, hbefore, hafter, hdigits⟩
    rw [htext, trimChars_append hbefore hafter
      (fun c hc => hdigits.not_isBlank c (List.mem_of_mem_head? hc))
      fun c hc => hdigits.not_isBlank c (List.mem_of_getLast? hc)]
    exact hdigits

theorem JobStatus.parse_eq_ok_iff {text : String} {s : JobStatus} :
    JobStatus.parse text = .ok s ↔ IsStatus text s := by
  rw [JobStatus.parse, IsStatus, eq_comm (a := text), ← JobStatus.ofName?_eq_some_iff]
  cases JobStatus.ofName? text <;> simp

theorem Counters.ofText?_eq_some_iff {text : String} {c : Counters} :
    Counters.ofText? text = some c ↔ IsCounters text c := by
  rw [Counters.ofText?, Option.bind_eq_some_iff]
  constructor
  · rintro ⟨j, hj, hc⟩
    obtain ⟨members, hrange, rfl, rfl⟩ := Counters.ofJson?_eq_some_iff.mp hc
    exact ⟨members, hj, hrange, rfl⟩
  · rintro ⟨members, hj, hrange, rfl⟩
    exact ⟨_, hj, Counters.ofJson?_eq_some_iff.mpr ⟨members, hrange, rfl, rfl⟩⟩

namespace RecordRow

/-! ## Reading a field -/

theorem field_cases (r : Row) (qualifier : String) :
    (r.get? Columns.info qualifier = none ∧ field r qualifier = .ok none) ∨
      (∃ text, r.get? Columns.info qualifier = some (Utf8.bytes text) ∧
        field r qualifier = .ok (some text)) ∨
      ∃ bs fault, r.get? Columns.info qualifier = some bs ∧ (∀ text, bs ≠ Utf8.bytes text) ∧
        field r qualifier = .error fault := by
  unfold field Row.getText
  cases hcell : r.get? Columns.info qualifier with
  | none => exact .inl ⟨rfl, rfl⟩
  | some bs =>
      refine .inr ?_
      cases hbs : Utf8.decode bs with
      | ok text => exact .inl ⟨text, by rw [Utf8.decode_eq_ok_iff.mp hbs], by simp only [hbs]; rfl⟩
      | error fault =>
          refine .inr ⟨bs, _, rfl, fun text htext => ?_, by simp only [hbs]; rfl⟩
          exact nomatch hbs.symm.trans (Utf8.decode_eq_ok_iff.mpr htext)

/-- A reader of one field is known by what it makes of the field's text. -/
theorem bind_field_eq_ok_iff {α : Type} {IsText : String → α → Prop} {r : Row} {qualifier : String}
    {g : Option String → Except RecordFault (Option α)} (hnone : g none = .ok none)
    (htext : ∀ text v, g (some text) = .ok v ↔ ∃ a, IsText text a ∧ some a = v) {v : Option α} :
    (field r qualifier >>= g) = .ok v ↔
      Option.Rel (Spells IsText) (r.get? Columns.info qualifier) v := by
  rcases field_cases r qualifier with ⟨hcell, hf⟩ | ⟨text, hcell, hf⟩ | ⟨bs, fault, hcell, hbs, hf⟩
  · have hbind : (field r qualifier >>= g) = .ok none := by rw [hf]; exact hnone
    rw [hcell, hbind]
    constructor
    · rintro ⟨⟩
      exact .none
    · rintro ⟨⟩
      rfl
  · have hbind : (field r qualifier >>= g) = g (some text) := by rw [hf]; rfl
    rw [hcell, hbind, htext]
    constructor
    · rintro ⟨a, ha, rfl⟩
      exact .some (spells_bytes_iff.mpr ha)
    · rintro ⟨⟩
      next a ha => exact ⟨a, spells_bytes_iff.mp ha, rfl⟩
  · have hbind : (field r qualifier >>= g) = .error fault := by rw [hf]; rfl
    rw [hcell, hbind]
    simp only [reduceCtorEq, false_iff]
    rintro ⟨⟩
    next a ha =>
      obtain ⟨text, htext, -⟩ := ha
      exact hbs text htext

theorem field_eq_ok_iff {r : Row} {qualifier : String} {v : Option String} :
    field r qualifier = .ok v ↔
      Option.Rel (Spells (· = ·)) (r.get? Columns.info qualifier) v := by
  rw [← bind_field_eq_ok_iff (g := .ok) rfl fun text v => by simp]
  cases field r qualifier <;> rfl

theorem time_eq_ok_iff {r : Row} {qualifier : String} {v : Option UInt64} :
    time r qualifier = .ok v ↔ Option.Rel (Spells IsTime) (r.get? Columns.info qualifier) v := by
  unfold time
  refine bind_field_eq_ok_iff ?_ fun text v => ?_
  · rfl
  simp only [← readWord_trimChars_eq_ok_iff]
  cases Numeral.readWord (trimChars text.toList) <;> simp [pure, Except.pure]

theorem status_eq_ok_iff {r : Row} {v : Option JobStatus} :
    status r = .ok v ↔
      Option.Rel (Spells IsStatus) (r.get? Columns.info Columns.endStatus) v := by
  unfold status
  refine bind_field_eq_ok_iff ?_ fun text v => ?_
  · rfl
  simp only [← JobStatus.parse_eq_ok_iff]
  cases JobStatus.parse text <;> simp [pure, Except.pure]

theorem counters_eq_ok_iff {r : Row} {v : Option Counters} :
    counters r = .ok v ↔
      Option.Rel (Spells IsCounters) (r.get? Columns.info Columns.counters) v := by
  unfold counters
  refine bind_field_eq_ok_iff ?_ fun text v => ?_
  · rfl
  simp only [← Counters.ofText?_eq_some_iff]
  cases Counters.ofText? text <;> simp [pure, Except.pure]

/-! ## Extensions -/

theorem extensionTexts_eq_ok_iff {l : List (String × Bytes)} {texts : List (String × String)} :
    extensionTexts l = .ok texts ↔ l = texts.map fun e => (e.1, Utf8.bytes e.2) := by
  constructor
  · intro h
    induction l generalizing texts with
    | nil =>
        obtain rfl := Except.ok.inj h
        rfl
    | cons e l ih =>
        obtain ⟨key, value⟩ := e
        rw [extensionTexts] at h
        cases hvalue : Utf8.decode value with
        | error fault => simp only [hvalue, reduceCtorEq] at h
        | ok text =>
            simp only [hvalue] at h
            cases hl : extensionTexts l with
            | error fault =>
                rw [hl] at h
                cases h
            | ok rest =>
                rw [hl] at h
                obtain rfl := Except.ok.inj h
                rw [Utf8.decode_eq_ok_iff.mp hvalue, ih hl]
                rfl
  · rintro rfl
    exact extensionTexts_map texts

theorem rel_text_iff {cell : Option Bytes} {v : Option String} :
    Option.Rel (Spells (· = ·)) cell v ↔ cell = v.map Utf8.bytes := by
  constructor
  · rintro (⟨_, h, rfl⟩ | _)
    · rw [h]
      rfl
    · rfl
  · rintro rfl
    cases v with
    | none => exact .none
    | some text => exact .some ⟨text, rfl, rfl⟩

/-- The extensions of a row are read as the dictionary of their texts. -/
theorem extensionTexts_family_iff {r : Row} {d : Dict String String} :
    (∃ texts, extensionTexts (r.family Columns.extended) = .ok texts ∧ .ofList texts = d) ↔
      ∀ key, r.get? Columns.extended key = (d.get? key).map Utf8.bytes := by
  have hdict : (∀ key, r.get? Columns.extended key = (d.get? key).map Utf8.bytes) ↔
      r.familyDict Columns.extended = d.mapValues fun _ text => Utf8.bytes text := by
    constructor
    · intro h
      refine Dict.ext_get? fun key => ?_
      rw [Row.get?_familyDict, h, Dict.get?_mapValues]
    · intro h key
      rw [← Row.get?_familyDict, h, Dict.get?_mapValues]
  rw [hdict]
  constructor
  · rintro ⟨texts, htexts, rfl⟩
    have hentries := extensionTexts_eq_ok_iff.mp htexts
    have hsorted : texts.Pairwise fun a b => a.1 < b.1 := by
      have h := (r.familyDict Columns.extended).sorted
      rw [← Row.family, hentries, List.pairwise_map] at h
      exact h
    exact Dict.ext (hentries.trans (congrArg (List.map _) (Dict.entries_ofList hsorted).symm))
  · intro h
    refine ⟨d.entries, extensionTexts_eq_ok_iff.mpr ?_, Dict.ofList_entries d⟩
    rw [Row.family, h]
    rfl

/-! ## Reading a row -/

/-- The cells of a row mean the fields of a record. -/
structure Means (r : Row) (rec : JobRecord) : Prop where
  jobId : rec.jobId = r.key
  jobName : r.get? Columns.info Columns.jobName = rec.jobName.map Utf8.bytes
  startTime : Option.Rel (Spells IsTime) (r.get? Columns.info Columns.startTime) rec.startTime
  endTime : Option.Rel (Spells IsTime) (r.get? Columns.info Columns.endTime) rec.endTime
  endStatus :
    Option.Rel (Spells IsStatus) (r.get? Columns.info Columns.endStatus) rec.endStatus
  counters :
    Option.Rel (Spells IsCounters) (r.get? Columns.info Columns.counters) rec.counters
  configuration :
    r.get? Columns.info Columns.configuration = rec.configuration.map Utf8.bytes
  extensions : ∀ key, r.get? Columns.extended key = (rec.extensions.get? key).map Utf8.bytes

theorem read_eq_ok_iff {r : Row} {rec : JobRecord} : read r = .ok rec ↔ Means r rec := by
  have hbind {α β : Type} {x : Except RecordFault α} {f : α → Except RecordFault β} {b : β} :
      (x >>= f) = .ok b ↔ ∃ a, x = .ok a ∧ f a = .ok b := by cases x <;> simp [bind, Except.bind]
  simp only [read, hbind, field_eq_ok_iff, time_eq_ok_iff, status_eq_ok_iff, counters_eq_ok_iff,
    rel_text_iff]
  constructor
  · rintro ⟨_, hname, _, hstart, _, hend, _, hstatus, _, hcounters, _, hconf, texts, htexts, h⟩
    cases h
    exact ⟨rfl, hname, hstart, hend, hstatus, hcounters, hconf,
      extensionTexts_family_iff.mp ⟨texts, htexts, rfl⟩⟩
  · intro h
    obtain ⟨texts, htexts, hdict⟩ := extensionTexts_family_iff.mpr h.extensions
    refine ⟨_, h.jobName, _, h.startTime, _, h.endTime, _, h.endStatus, _, h.counters, _,
      h.configuration, texts, htexts, ?_⟩
    rw [← h.jobId, hdict]
    rfl

/-- Every cell that a field is read from means something. -/
structure Readable (r : Row) : Prop where
  jobName : ∀ bs ∈ r.get? Columns.info Columns.jobName, ∃ text, bs = Utf8.bytes text
  startTime : ∀ bs ∈ r.get? Columns.info Columns.startTime, ∃ t, Spells IsTime bs t
  endTime : ∀ bs ∈ r.get? Columns.info Columns.endTime, ∃ t, Spells IsTime bs t
  endStatus : ∀ bs ∈ r.get? Columns.info Columns.endStatus, ∃ s, Spells IsStatus bs s
  counters : ∀ bs ∈ r.get? Columns.info Columns.counters, ∃ c, Spells IsCounters bs c
  configuration : ∀ bs ∈ r.get? Columns.info Columns.configuration, ∃ text, bs = Utf8.bytes text
  extensions : ∀ key, ∀ bs ∈ r.get? Columns.extended key, ∃ text, bs = Utf8.bytes text

theorem exists_rel_iff {α β : Type} {R : α → β → Prop} {o : Option α} :
    (∃ v, Option.Rel R o v) ↔ ∀ a ∈ o, ∃ b, R a b := by
  cases o with
  | none => exact ⟨fun _ => nofun, fun _ => ⟨none, .none⟩⟩
  | some a =>
      constructor
      · rintro ⟨_, ⟨⟩⟩ _ ⟨⟩
        next b hb => exact ⟨b, hb⟩
      · intro h
        obtain ⟨b, hb⟩ := h a rfl
        exact ⟨some b, .some hb⟩

theorem exists_map_bytes_iff {o : Option Bytes} :
    (∃ v : Option String, o = v.map Utf8.bytes) ↔ ∀ bs ∈ o, ∃ text, bs = Utf8.bytes text := by
  simp only [← rel_text_iff, exists_rel_iff, Spells]
  simp

/-- Cells that are all texts are those of a dictionary of texts. -/
theorem exists_texts {r : Row} {family : String}
    (h : ∀ key, ∀ bs ∈ r.get? family key, ∃ text, bs = Utf8.bytes text) :
    ∃ d : Dict String String, ∀ key, r.get? family key = (d.get? key).map Utf8.bytes := by
  refine ⟨(r.familyDict family).mapValues fun _ bs => (Utf8.decode bs).toOption.getD "",
    fun key => ?_⟩
  rw [Dict.get?_mapValues, Row.get?_familyDict]
  cases hcell : r.get? family key with
  | none => rfl
  | some bs =>
      obtain ⟨text, rfl⟩ := h key bs hcell
      rw [Option.map_some, Utf8.decode_bytes]
      rfl

theorem exists_means_iff {r : Row} : (∃ rec, Means r rec) ↔ Readable r := by
  constructor
  · rintro ⟨rec, h⟩
    exact ⟨exists_map_bytes_iff.mp ⟨_, h.jobName⟩, exists_rel_iff.mp ⟨_, h.startTime⟩,
      exists_rel_iff.mp ⟨_, h.endTime⟩, exists_rel_iff.mp ⟨_, h.endStatus⟩,
      exists_rel_iff.mp ⟨_, h.counters⟩, exists_map_bytes_iff.mp ⟨_, h.configuration⟩,
      fun key => exists_map_bytes_iff.mp ⟨_, h.extensions key⟩⟩
  · intro h
    obtain ⟨jobName, hname⟩ := exists_map_bytes_iff.mpr h.jobName
    obtain ⟨startTime, hstart⟩ := exists_rel_iff.mpr h.startTime
    obtain ⟨endTime, hend⟩ := exists_rel_iff.mpr h.endTime
    obtain ⟨endStatus, hstatus⟩ := exists_rel_iff.mpr h.endStatus
    obtain ⟨counters, hcounters⟩ := exists_rel_iff.mpr h.counters
    obtain ⟨configuration, hconf⟩ := exists_map_bytes_iff.mpr h.configuration
    obtain ⟨extensions, hext⟩ := exists_texts h.extensions
    exact ⟨⟨r.key, jobName, startTime, endTime, endStatus, counters, configuration, extensions⟩,
      rfl, hname, hstart, hend, hstatus, hcounters, hconf, hext⟩

theorem decode_eq_ok_iff {r : Row} {rec : JobRecord} : decode r = .ok rec ↔ Means r rec := by
  rw [← read_eq_ok_iff, decode]
  cases read r <;> simp [Except.mapError]

/-- A row that is not read is corrupt, and it is named. -/
theorem decode_of_not_readable {r : Row} (h : ¬Readable r) :
    ∃ fault, decode r = .error (.corrupt r.key fault) := by
  rw [decode]
  cases hread : read r with
  | ok rec => exact absurd (exists_means_iff.mp ⟨rec, read_eq_ok_iff.mp hread⟩) h
  | error fault => exact ⟨fault, rfl⟩

/-! ## Cells that do not matter -/

/-- The columns that the fixed fields are read from. -/
def fieldColumns : List String :=
  [Columns.jobName, Columns.startTime, Columns.endTime, Columns.endStatus, Columns.counters,
    Columns.configuration]

/-- Two rows differ at most in cells that no field is read from. -/
structure SameFields (r r' : Row) : Prop where
  key : r'.key = r.key
  fields : ∀ q ∈ fieldColumns, r'.get? Columns.info q = r.get? Columns.info q
  extensions : ∀ key, r'.get? Columns.extended key = r.get? Columns.extended key

/-- Rows with the same fields are read alike, or are corrupt for the same
reason. -/
theorem decode_of_sameFields {r r' : Row} (h : SameFields r r') : decode r' = decode r := by
  have hfield : ∀ q ∈ fieldColumns, field r' q = field r q := fun q hq => by
    rw [field, field, Row.getText, Row.getText, h.fields q hq, h.key]
  have htime : ∀ q ∈ fieldColumns, time r' q = time r q := fun q hq => by
    rw [time, time, hfield q hq]
  have hfamily : r'.family Columns.extended = r.family Columns.extended := by
    refine congrArg Dict.entries (Dict.ext_get? fun key => ?_)
    rw [Row.get?_familyDict, Row.get?_familyDict, h.extensions]
  have hstatus : status r' = status r := by
    rw [status, status, hfield _ (by simp [fieldColumns])]
  have hcounters : counters r' = counters r := by
    rw [counters, counters, hfield _ (by simp [fieldColumns])]
  have hread : read r' = read r := by
    rw [read, read, hfield _ (by simp [fieldColumns]), htime _ (by simp [fieldColumns]),
      htime _ (by simp [fieldColumns]), hstatus, hcounters,
      hfield Columns.configuration (by simp [fieldColumns]), hfamily, h.key]
  rw [decode, decode, hread, h.key]

/-! ## The cells of a record -/

/-- The columns of the fields that a record does not have. -/
def absentColumns (rec : JobRecord) : List String :=
  ([(Columns.jobName, rec.jobName.isNone), (Columns.startTime, rec.startTime.isNone),
    (Columns.endTime, rec.endTime.isNone), (Columns.endStatus, rec.endStatus.isNone),
    (Columns.counters, rec.counters.isNone),
    (Columns.configuration, rec.configuration.isNone)].filter (·.2)).map (·.1)

/-- The cells that are written when a job starts and ends, whatever is said of
the fields that the record does not have. -/
def fixedCells (rec : JobRecord) : List Cell :=
  startCells rec.jobId (rec.jobName.getD "") (rec.startTime.getD 0) (rec.configuration.getD "")
    ++ endCells rec.jobId (rec.endTime.getD 0) (rec.endStatus.getD .running)
      (rec.counters.getD .empty)

/-- The cells of a record: those of the start and the end of the job for the
fields that it has, and those of its extensions. -/
def presentCells (rec : JobRecord) : List Cell :=
  (fixedCells rec).filter (fun c => c.qualifier ∉ absentColumns rec)
    ++ rec.extensions.entries.map fun e => extensionCell e.1 e.2

/-- The cell of a fixed field is written if the record has the field. -/
theorem get?_presentCells {α : Type} {rec : JobRecord} {q : String} {o : Option α}
    {value : α → Bytes} (habsent : q ∈ absentColumns rec ↔ o = none)
    (hcell : ∀ a ∈ o, lastValue? (fixedCells rec) Columns.info q = some (value a)) :
    ((Row.empty rec.jobId).apply (presentCells rec)).get? Columns.info q = o.map value := by
  have hne : ∀ c ∈ rec.extensions.entries.map (fun e => extensionCell e.1 e.2),
      c.family ≠ Columns.info := by
    intro c hc
    obtain ⟨e, -, rfl⟩ := List.mem_map.mp hc
    exact (by decide : Columns.extended ≠ Columns.info)
  have hempty : (Row.empty rec.jobId).get? Columns.info q = none := rfl
  rw [presentCells, Row.apply_append, Row.get?_apply_of_ne hne, Row.get?_apply, hempty,
    Option.or_none, lastValue?_filter _ fun q => q ∉ absentColumns rec]
  cases o with
  | none => exact if_neg (by simpa using habsent.mpr rfl)
  | some a =>
      have hq : q ∉ absentColumns rec := fun h => nomatch habsent.mp h
      rw [if_pos (decide_eq_true hq), hcell a rfl]
      rfl

theorem familyDict_extensionCells (r : Row) (l : List (String × String)) :
    (r.apply (l.map fun e => extensionCell e.1 e.2)).familyDict Columns.extended =
      (l.map fun e => (e.1, Utf8.bytes e.2)).foldl (fun d e => d.insert e.1 e.2)
        (r.familyDict Columns.extended) := by
  induction l generalizing r with
  | nil => rfl
  | cons e l ih =>
      have hext : (extensionCell e.1 e.2).family = Columns.extended := rfl
      have hput := Row.familyDict_put r (extensionCell e.1 e.2) Columns.extended
      rw [if_pos hext] at hput
      exact (ih _).trans (by rw [hput]; rfl)

theorem familyDict_presentCells (rec : JobRecord) :
    ((Row.empty rec.jobId).apply (presentCells rec)).familyDict Columns.extended =
      rec.extensions.mapValues fun _ text => Utf8.bytes text := by
  have hne : ∀ c ∈ (fixedCells rec).filter (fun c => c.qualifier ∉ absentColumns rec),
      c.family ≠ Columns.extended := by
    intro c hc
    have hfixed : ∀ c ∈ fixedCells rec, c.family ≠ Columns.extended := by
      simp [fixedCells, startCells, endCells, Cell.ofText, Columns.info, Columns.extended]
    exact hfixed c (List.mem_filter.mp hc).1
  rw [presentCells, Row.apply_append, familyDict_extensionCells, Row.familyDict_apply_of_ne hne]
  exact Dict.ofList_map (fun _ text => Utf8.bytes text) rec.extensions

theorem holds_presentCells (rec : JobRecord) :
    Holds rec ((Row.empty rec.jobId).apply (presentCells rec)) := by
  refine ⟨by rw [Row.key_apply]; rfl, ?_, ?_, ?_, ?_, ?_, ?_, familyDict_presentCells rec⟩
  all_goals
    refine get?_presentCells ?_ fun a ha => ?_
    · simp [absentColumns, Columns.jobName, Columns.startTime, Columns.endTime,
        Columns.endStatus, Columns.counters, Columns.configuration]
    · rw [fixedCells, ha]
      rfl

/-! ## The rows that are records -/

/-- **Every row is read as a record or is corrupt, by the cells of its
fields.** A row is read just if each of these cells means something; else it is
corrupt, and named. The record has the values that the cells mean, and no other
cell matters. Written into an empty row of the same key, the record is read
again. -/
theorem decoding_of_rows (r : Row) :
    ((∃ rec, decode r = .ok rec) ↔ Readable r) ∧
    (¬Readable r → ∃ fault, decode r = .error (.corrupt r.key fault)) ∧
    (∀ rec, decode r = .ok rec ↔ Means r rec) ∧
    (∀ r', SameFields r r' → decode r' = decode r) ∧
    ∀ rec, decode r = .ok rec →
      decode ((Row.empty r.key).apply (presentCells rec)) = .ok rec := by
  refine ⟨?_, decode_of_not_readable, fun rec => decode_eq_ok_iff, fun _ => decode_of_sameFields,
    fun rec hrec => ?_⟩
  · rw [← exists_means_iff]
    exact exists_congr fun rec => decode_eq_ok_iff
  · rw [← (decode_eq_ok_iff.mp hrec).jobId]
    exact decode_of_holds (holds_presentCells rec)

/-- A row whose start time has blanks around it, with a cell that no field is
read from. -/
def blankRow : Row :=
  (Row.empty "job-1").apply
    [.ofText Columns.info Columns.startTime " +007\n", ⟨Columns.info, "note", [255]⟩]

/-- The row is read and its record written without the blanks; without the text
of a status it would be corrupt. -/
theorem decoding_of_blankRow :
    ∃ rec, rec.startTime = some 7 ∧ decode blankRow = .ok rec ∧
      decode ((Row.empty "job-1").apply (presentCells rec)) = .ok rec ∧
      decode ((Row.empty "job-1").apply [.ofText Columns.info Columns.startTime " +007\n"]) =
        .ok rec ∧
      ∃ fault, decode (blankRow.apply [.ofText Columns.info Columns.endStatus "DONE"]) =
        .error (.corrupt "job-1" fault) := by
  have hread : decode blankRow = .ok { JobRecord.new "job-1" with startTime := some 7 } := by
    decide +kernel
  have hsame : SameFields blankRow
      ((Row.empty "job-1").apply [.ofText Columns.info Columns.startTime " +007\n"]) :=
    ⟨rfl, by decide +kernel, fun _ => rfl⟩
  have hstatus : ¬Readable (blankRow.apply [.ofText Columns.info Columns.endStatus "DONE"]) := by
    intro h
    obtain ⟨s, text, htext, hname⟩ := h.endStatus (Utf8.bytes "DONE") (by decide +kernel)
    rw [Utf8.bytes_injective htext.symm, IsStatus] at hname
    cases s <;> exact absurd hname (by decide)
  obtain ⟨-, -, -, hframe, hback⟩ := decoding_of_rows blankRow
  obtain ⟨-, hcorrupt, -⟩ :=
    decoding_of_rows (blankRow.apply [.ofText Columns.info Columns.endStatus "DONE"])
  exact ⟨_, rfl, hread, hback _ hread, (hframe _ hsame).trans hread, hcorrupt hstatus⟩

end RecordRow
end JobLedger
