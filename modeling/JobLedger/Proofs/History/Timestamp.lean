import JobLedger.Proofs.History.Calendar
import JobLedger.Proofs.Text.Cut
import JobLedger.Proofs.Text.Numeral

/-!
# The text of an instant

Calendar and clock give each second a stamp (`Stamp.ofSeconds_spec`), and no two
seconds the same one. The text of an instant is that of the stamp of its second,
with the weekday of the date.

Such a text is cut at its blanks and colons, and the numbers in it are read as
numbers: this gives back the stamp (`read?_text`). Instants behind the last
representable year are shown as plain milliseconds, which are not read as a stamp.
So `format_shows_utc_date` says what the text of an instant shows, and which
instants have the same text.
-/

namespace JobLedger.Timestamp

/-! ## Stamps -/

/-- A second of a day, as a calendar and a clock show it. -/
structure Stamp where
  date : Date
  hour : Nat
  minute : Nat
  second : Nat
deriving DecidableEq

/-- The days of a week. -/
def weekNames : List String := ["Mon", "Tue", "Wed", "Thu", "Fri", "Sat", "Sun"]

/-- The months of a year. -/
def yearNames : List String :=
  ["Jan", "Feb", "Mar", "Apr", "May", "Jun", "Jul", "Aug", "Sep", "Oct", "Nov", "Dec"]

/-- The weekday of a date: the calendar begins with a Monday. -/
def Date.weekday (d : Date) : String := weekNames.getD (d.ordinal % 7) ""

def Date.monthName (d : Date) : String := yearNames.getD (d.month - 1) ""

namespace Stamp

structure IsValid (st : Stamp) : Prop where
  date : st.date.IsValid
  hour : st.hour < 24
  minute : st.minute < 60
  second : st.second < 60

/-- The seconds from the start of 1970. -/
def seconds (st : Stamp) : Int :=
  ((st.date.ordinal : Int) - (Date.mk 1970 1 1).ordinal) * 86400 + st.hour * 3600 +
    st.minute * 60 + st.second

/-- Weekday, month, day, time of day and year. -/
def text (st : Stamp) : String :=
  let day := Numeral.padded 2 st.date.day
  let hour := Numeral.padded 2 st.hour
  let minute := Numeral.padded 2 st.minute
  let second := Numeral.padded 2 st.second
  let date := st.date
  s!"{date.weekday} {date.monthName} {day} {hour}:{minute}:{second} UTC {yearText date.year}"

/-- The time of day in the text. -/
def clockText (st : Stamp) : List Char :=
  (Numeral.padded 2 st.hour).toList ++ ':' :: ((Numeral.padded 2 st.minute).toList ++
    ':' :: (Numeral.padded 2 st.second).toList)

/-- What stands between the blanks of the text. -/
def parts (st : Stamp) : List (List Char) :=
  [st.date.weekday.toList, st.date.monthName.toList, (Numeral.padded 2 st.date.day).toList,
    st.clockText, ['U', 'T', 'C'], (yearText st.date.year).toList]

/-- The stamp with as many seconds behind the start of 1970. -/
def ofSeconds (n : Nat) : Stamp :=
  ⟨dateOfDays (n / 86400), n % 86400 / 3600, n % 86400 % 3600 / 60, n % 86400 % 60⟩

theorem ofSeconds_spec (n : Nat) : (ofSeconds n).IsValid ∧ (ofSeconds n).seconds = n := by
  obtain ⟨hvalid, hordinal⟩ := dateOfDays_spec (n / 86400)
  refine ⟨⟨hvalid, ?_, ?_, ?_⟩, ?_⟩
  · show n % 86400 / 3600 < 24
    omega
  · show n % 86400 % 3600 / 60 < 60
    omega
  · show n % 86400 % 60 < 60
    omega
  · rw [seconds]
    simp only [ofSeconds, hordinal]
    omega

theorem IsValid.eq_of_seconds_eq {st st' : Stamp} (h : st.IsValid) (h' : st'.IsValid)
    (heq : st.seconds = st'.seconds) : st = st' := by
  have hh := h.hour
  have hm := h.minute
  have hs := h.second
  have hh' := h'.hour
  have hm' := h'.minute
  have hs' := h'.second
  rw [seconds, seconds] at heq
  have hdate : st.date = st'.date := h.date.eq_of_ordinal_eq h'.date (by omega)
  rw [hdate] at heq
  have hhour : st.hour = st'.hour := by omega
  have hminute : st.minute = st'.minute := by omega
  have hsecond : st.second = st'.second := by omega
  cases st
  cases st'
  exact mk.injEq .. ▸ ⟨hdate, hhour, hminute, hsecond⟩

end Stamp

/-- Weeks go on from the start of the calendar to 1970 and beyond. -/
theorem weekday_eq (n : Nat) : weekday n = (dateOfDays n).weekday := by
  have hnames : ∀ k < 7, weekdayNames.getD k "" = weekNames.getD ((719162 + k) % 7) "" := by decide
  rw [weekday, Date.weekday, (dateOfDays_spec n).2, ordinal_epoch,
    hnames _ (Nat.mod_lt _ (by decide)), Nat.add_mod_mod]

theorem format_of_lt {ms : UInt64} (h : ms.toNat < limit) :
    format ms = (Stamp.ofSeconds (ms.toNat / 1000)).text := by
  rw [format, if_pos h]
  simp only [weekday_eq]
  rfl

theorem format_of_ge {ms : UInt64} (h : limit ≤ ms.toNat) :
    format ms = s!"{ms.toNat} ms" := by rw [format, if_neg (Nat.not_lt.mpr h)]

/-! ## The text read back -/

/-- The number in a text of digits. -/
def number? (cs : List Char) : Option Nat := (Numeral.read 10 Numeral.maxWord cs).toOption

/-- The weekday and the stamp that a text shows. -/
def read? (text : String) : Option (String × Stamp) :=
  match pieces ' ' text.toList with
  | [weekday, month, day, time, ['U', 'T', 'C'], year] =>
      match pieces ':' time with
      | [hour, minute, second] => do
          let month ← yearNames.findIdx? (·.toList = month)
          let date := ⟨← number? year, month + 1, ← number? day⟩
          return (.ofList weekday, ⟨date, ← number? hour, ← number? minute, ← number? second⟩)
      | _ => none
  | _ => none

theorem number?_eq_some_iff {cs : List Char} {n : Nat} :
    number? cs = some n ↔ Numeral.IsDecimal cs n ∧ n ≤ Numeral.maxWord := by
  rw [← Numeral.read_eq_ok_iff_isDecimal, number?]
  cases Numeral.read 10 Numeral.maxWord cs <;> simp [Except.toOption]

theorem isDecimal_yearText (n : Nat) : Numeral.IsDecimal (yearText n).toList n := by
  rw [yearText]
  split
  · exact Numeral.isDecimal_padded 4 n
  · refine ⟨Nat.toDigits 10 n, .inr ?_, Nat.toDigits_ne_nil,
      fun c hc => Numeral.isDigit_of_mem_toDigits hc, Nat.ofDigitChars_ten_toDigits⟩
    simp [toString]

theorem Stamp.toList_text (st : Stamp) : st.text.toList = joinPieces ' ' st.parts := by
  simp [Stamp.text, Stamp.parts, Stamp.clockText, joinPieces, toString]

/-- What is no digit, no sign, no colon and in no name is in no part. -/
theorem Stamp.not_mem_parts {c : Char} (hdigit : c.isDigit = false) (hplus : c ≠ '+')
    (hcolon : c ≠ ':') (hname : ∀ s ∈ "" :: "UTC" :: weekNames ++ yearNames, c ∉ s.toList)
    (st : Stamp) : ∀ p ∈ st.parts, c ∉ p := by
  have hpadded : ∀ {n : Nat}, c ∉ (Numeral.padded 2 n).toList :=
    (Numeral.isDecimal_padded ..).not_mem hplus hdigit
  have hnames : ∀ {names : List String}, names ⊆ weekNames ++ yearNames →
      ∀ i, c ∉ (names.getD i "").toList := by
    intro names hsub i
    rw [List.getD_eq_getElem?_getD]
    cases hi : names[i]? with
    | none => exact hname "" (List.mem_cons_self ..)
    | some s =>
        have hmem := hsub (List.mem_of_getElem? hi)
        exact hname s (List.mem_cons_of_mem _ (List.mem_cons_of_mem _ hmem))
  intro p hp
  simp only [parts, List.mem_cons, List.not_mem_nil, or_false] at hp
  rcases hp with rfl | rfl | rfl | rfl | rfl | rfl
  · exact hnames (List.subset_append_left ..) _
  · exact hnames (List.subset_append_right ..) _
  · exact hpadded
  · simp only [clockText, List.mem_append, List.mem_cons, not_or]
    exact ⟨hpadded, hcolon, hpadded, hcolon, hpadded⟩
  · exact hname "UTC" (List.mem_cons_of_mem _ (List.mem_cons_self ..))
  · exact (isDecimal_yearText _).not_mem hplus hdigit

/-- The parts of a stamp's text are told apart by its blanks. -/
theorem pieces_text (st : Stamp) : pieces ' ' st.text.toList = st.parts := by
  rw [st.toList_text, pieces_joinPieces (by simp [Stamp.parts])]
  exact Stamp.not_mem_parts (by decide) (by decide) (by decide) (by decide) st

theorem pieces_clockText (st : Stamp) : pieces ':' st.clockText =
    [(Numeral.padded 2 st.hour).toList, (Numeral.padded 2 st.minute).toList,
      (Numeral.padded 2 st.second).toList] := by
  have hcolon : ∀ {n : Nat}, ':' ∉ (Numeral.padded 2 n).toList := fun {n} =>
    (Numeral.isDecimal_padded 2 n).not_mem (by decide) (by decide)
  rw [Stamp.clockText, pieces_append, pieces_append, pieces_of_not_mem hcolon,
    pieces_of_not_mem hcolon, pieces_of_not_mem hcolon]
  rfl

theorem findIdx?_yearNames : ∀ i < 12,
    yearNames.findIdx? (·.toList = (yearNames.getD i "").toList) = some i := by
  decide

/-- A text of a stamp shows that stamp, and the weekday of its date. -/
theorem read?_text {st : Stamp} (h : st.IsValid) (hyear : st.date.year ≤ Numeral.maxWord) :
    read? st.text = some (st.date.weekday, st) := by
  have hmonth := h.date.month
  have hmonthName : yearNames.findIdx? (·.toList = st.date.monthName.toList) =
      some (st.date.month - 1) := findIdx?_yearNames _ (by omega)
  have hnumber : ∀ {n : Nat}, n ≤ 60 → number? (Numeral.padded 2 n).toList = some n := fun hn =>
    number?_eq_some_iff.mpr ⟨Numeral.isDecimal_padded .., Nat.le_trans hn (by decide)⟩
  have hday : st.date.day ≤ 60 := by
    have hlengths : ∀ leap, ∀ m < 12, (monthLengths leap).getD m 0 ≤ 31 := by decide
    have := hlengths (isLeap st.date.year) (st.date.month - 1) (by omega)
    have := h.date.day
    omega
  have hh := h.hour
  have hm := h.minute
  have hs := h.second
  rw [read?, pieces_text, Stamp.parts]
  simp only [pieces_clockText, hmonthName, hnumber hday, hnumber (show st.hour ≤ 60 by omega),
    number?_eq_some_iff.mpr ⟨isDecimal_yearText _, hyear⟩, String.ofList_toList,
    hnumber (show st.minute ≤ 60 by omega), hnumber (show st.second ≤ 60 by omega)]
  show some (st.date.weekday, (⟨⟨st.date.year, st.date.month - 1 + 1, st.date.day⟩, st.hour,
    st.minute, st.second⟩ : Stamp)) = _
  rw [Nat.sub_add_cancel hmonth.1]

/-! ## Instants out of range -/

/-- The last year whose dates are representable. -/
def lastYear : Nat := 262142

theorem lastYear_le : lastYear ≤ Numeral.maxWord := by decide

theorem toList_plain (n : Nat) : s!"{n} ms".toList = Nat.toDigits 10 n ++ [' ', 'm', 's'] := by
  simp [toString]

theorem read?_plain (n : Nat) : read? s!"{n} ms" = none := by
  have hblank : ' ' ∉ Nat.toDigits 10 n := fun h =>
    absurd (Numeral.isDigit_of_mem_toDigits h) (by decide)
  rw [read?, toList_plain, pieces_append, pieces_of_not_mem hblank, pieces_of_not_mem (by decide)]
  rfl

theorem plain_injective {m n : Nat} (h : s!"{m} ms" = s!"{n} ms") : m = n := by
  have hlist := congrArg String.toList h
  rw [toList_plain, toList_plain] at hlist
  rw [← Nat.ofDigitChars_ten_toDigits (n := m), List.append_cancel_right hlist,
    Nat.ofDigitChars_ten_toDigits]

/-- The limit is the first new year that is not representable. -/
theorem lt_limit_iff {st : Stamp} (h : st.IsValid) {ms : Nat} (hms : st.seconds = ↑(ms / 1000)) :
    st.date.year ≤ lastYear ↔ ms < limit := by
  have hnew : (Date.mk (lastYear + 1) 1 1).ordinal = 95745399 := Date.ordinal_eq lastYear 1 1
  have hh := h.hour
  have hm := h.minute
  have hs := h.second
  rw [h.date.year_le_iff, hnew]
  rw [Stamp.seconds, ordinal_epoch] at hms
  unfold limit
  omega

/-! ## What the text of an instant shows -/

/-- The second of an instant is representable. -/
def InRange (ms : UInt64) : Prop :=
  ∃ st : Stamp, st.IsValid ∧ st.seconds = ↑(ms.toNat / 1000) ∧ st.date.year ≤ lastYear

theorem inRange_iff {ms : UInt64} : InRange ms ↔ ms.toNat < limit := by
  constructor
  · rintro ⟨st, hvalid, hseconds, hyear⟩
    exact (lt_limit_iff hvalid hseconds).mp hyear
  · intro hlt
    obtain ⟨hvalid, hseconds⟩ := Stamp.ofSeconds_spec (ms.toNat / 1000)
    exact ⟨_, hvalid, hseconds, (lt_limit_iff hvalid hseconds).mpr hlt⟩

theorem format_stamp {ms : UInt64} {st : Stamp} (h : st.IsValid)
    (hseconds : st.seconds = ↑(ms.toNat / 1000)) (hyear : st.date.year ≤ lastYear) :
    format ms = st.text ∧ read? (format ms) = some (st.date.weekday, st) := by
  have hlt := (lt_limit_iff h hseconds).mp hyear
  obtain ⟨hvalid, hseconds'⟩ := Stamp.ofSeconds_spec (ms.toNat / 1000)
  obtain rfl := h.eq_of_seconds_eq hvalid (hseconds.trans hseconds'.symm)
  rw [format_of_lt hlt]
  exact ⟨rfl, read?_text h (Nat.le_trans hyear lastYear_le)⟩

theorem format_of_not_inRange {ms : UInt64} (h : ¬InRange ms) : format ms = s!"{ms.toNat} ms" :=
  format_of_ge (Nat.not_lt.mp fun hlt => h (inRange_iff.mpr hlt))

theorem format_eq_format_iff {ms ms' : UInt64} : format ms = format ms' ↔
    ms = ms' ∨ InRange ms ∧ InRange ms' ∧ ms.toNat / 1000 = ms'.toNat / 1000 := by
  -- A text of a stamp is read, the other ones are not.
  have hmixed : ∀ {m n : UInt64}, InRange m → ¬InRange n → format m ≠ format n := by
    rintro m n ⟨st, hvalid, hseconds, hyear⟩ hn h
    obtain ⟨-, hread⟩ := format_stamp hvalid hseconds hyear
    rw [h, format_of_not_inRange hn, read?_plain] at hread
    cases hread
  constructor
  · intro h
    by_cases hms : InRange ms <;> by_cases hms' : InRange ms'
    · refine .inr ⟨hms, hms', ?_⟩
      obtain ⟨st, hvalid, hseconds, hyear⟩ := hms
      obtain ⟨st', hvalid', hseconds', hyear'⟩ := hms'
      obtain ⟨-, hread⟩ := format_stamp hvalid hseconds hyear
      obtain ⟨-, hread'⟩ := format_stamp hvalid' hseconds' hyear'
      rw [h, hread'] at hread
      obtain rfl := (Prod.mk.inj (Option.some.inj hread)).2
      exact Int.ofNat_inj.mp (hseconds.symm.trans hseconds')
    · exact absurd h (hmixed hms hms')
    · exact absurd h.symm (hmixed hms' hms)
    · rw [format_of_not_inRange hms, format_of_not_inRange hms'] at h
      exact .inl (UInt64.toNat_inj.mp (plain_injective h))
  · rintro (rfl | ⟨hms, hms', hseconds⟩)
    · rfl
    · rw [format_of_lt (inRange_iff.mp hms), format_of_lt (inRange_iff.mp hms'), hseconds]

/-- Every instant has one stamp, and up to the last representable year its text shows
that stamp and the weekday of its date: read back, it gives the second of the instant. Beyond that
year the text is the number of milliseconds. So two instants have the same text exactly if they are
the same or two of the same representable second. -/
theorem format_shows_utc_date (ms ms' : UInt64) :
    (∃! st : Stamp, st.IsValid ∧ st.seconds = ↑(ms.toNat / 1000)) ∧
    (∀ st : Stamp, st.IsValid → st.seconds = ↑(ms.toNat / 1000) →
      if st.date.year ≤ lastYear then
        format ms = st.text ∧ read? (format ms) = some (st.date.weekday, st)
      else format ms = s!"{ms.toNat} ms") ∧
    (format ms = format ms' ↔
      ms = ms' ∨ InRange ms ∧ InRange ms' ∧ ms.toNat / 1000 = ms'.toNat / 1000) := by
  refine ⟨?_, ?_, format_eq_format_iff⟩
  · obtain ⟨hvalid, hseconds⟩ := Stamp.ofSeconds_spec (ms.toNat / 1000)
    exact ⟨_, ⟨hvalid, hseconds⟩,
      fun st ⟨h, h'⟩ => h.eq_of_seconds_eq hvalid (h'.trans hseconds.symm)⟩
  · intro st hvalid hseconds
    split
    · next hyear => exact format_stamp hvalid hseconds hyear
    · next hyear =>
      exact format_of_ge (Nat.not_lt.mp fun hlt => hyear ((lt_limit_iff hvalid hseconds).mpr hlt))

/-- A second of 2013, and the first one that is shown as milliseconds. -/
theorem texts_of_a_date_and_of_milliseconds :
    let st : Stamp := ⟨⟨2013, 1, 1⟩, 0, 26, 40⟩
    let beyond : Stamp := ⟨⟨262143, 1, 1⟩, 0, 0, 0⟩
    (st.IsValid ∧ st.seconds = 1357000000 ∧ st.text = "Tue Jan 01 00:26:40 UTC 2013" ∧
      format 1357000000000 = st.text ∧ read? st.text = some ("Tue", st)) ∧
    (beyond.IsValid ∧ beyond.seconds = 8210266876800 ∧
      format 8210266876800000 = "8210266876800000 ms") ∧
    format 1357000000000 ≠ format 8210266876800000 := by
  intro st beyond
  have hordinal : st.date.ordinal = 734868 := Date.ordinal_eq 2012 1 1
  have hbeyond : beyond.date.ordinal = 95745399 := Date.ordinal_eq 262142 1 1
  have hvalid : st.IsValid := ⟨⟨by decide, by decide, by decide⟩, by decide, by decide, by decide⟩
  have hvalid' : beyond.IsValid :=
    ⟨⟨by decide, by decide, by decide⟩, by decide, by decide, by decide⟩
  have hseconds : st.seconds = 1357000000 := by
    rw [Stamp.seconds, hordinal, ordinal_epoch]
    decide
  have hseconds' : beyond.seconds = 8210266876800 := by
    rw [Stamp.seconds, hbeyond, ordinal_epoch]
    decide
  have hweekday : st.date.weekday = "Tue" := by
    rw [Date.weekday, hordinal]
    decide
  obtain ⟨-, hshown, hsame⟩ := format_shows_utc_date 1357000000000 8210266876800000
  obtain ⟨-, hplain, -⟩ := format_shows_utc_date 8210266876800000 0
  have hformat := hshown st hvalid hseconds
  have hformat' := hplain beyond hvalid' hseconds'
  rw [if_pos (by decide)] at hformat
  rw [if_neg (by decide)] at hformat'
  refine ⟨⟨hvalid, hseconds, ?_, hformat.1, ?_⟩, ⟨hvalid', hseconds', hformat'⟩, fun h => ?_⟩
  · rw [Stamp.text, hweekday]
    decide +kernel
  · rw [← hformat.1, hformat.2, hweekday]
  · rcases hsame.mp h with heq | ⟨-, -, heq⟩
    · cases heq
    · exact absurd heq (by decide)

end JobLedger.Timestamp
