import JobLedger.History.Timestamp
import Mathlib.Algebra.GroupWithZero.Nat

/-!
# The calendar

A date is numbered by the days before it, counted from the first of January of
the year 1 (`Date.ordinal`): the lengths of the years before its year, of the months before
its month and the days before its day are added up, with a leap day as the rules
of the calendar give it. No closed form is used for that number.

`dateOfDays_spec` says that the arithmetic with eras finds the date whose number
is the one of the first of January 1970 and `n` more. The proof goes the
way of the arithmetic, from within a year that starts in March (`marchDate_spec`)
to the years of an era (`yearOfEra_eq`). By `Date.IsValid.eq_of_ordinal_eq` it is the only
date with that number.
-/

namespace JobLedger.Timestamp

/-! ## Dates -/

/-- Every fourth year has a leap day, but of the full centuries only every
fourth one. -/
def isLeap (year : Nat) : Bool := 4 ∣ year ∧ (¬100 ∣ year ∨ 400 ∣ year)

def yearLength (year : Nat) : Nat := if isLeap year then 366 else 365

/-- The lengths of the months of a year with or without a leap day. -/
def monthLengths (leap : Bool) : List Nat :=
  [31, if leap then 29 else 28, 31, 30, 31, 30, 31, 31, 30, 31, 30, 31]

namespace Date

/-- The calendar has such a day. -/
structure IsValid (d : Date) : Prop where
  year : 1 ≤ d.year
  month : 1 ≤ d.month ∧ d.month ≤ 12
  day : 1 ≤ d.day ∧ d.day ≤ (monthLengths (isLeap d.year)).getD (d.month - 1) 0

/-- How many days there are from the first of January of the year 1 to a date: those of
the years before it, of the months of its year before it, and of its month before it. -/
def ordinal (d : Date) : Nat :=
  ((List.range (d.year - 1)).map fun k => yearLength (k + 1)).sum +
    ((monthLengths (isLeap d.year)).take (d.month - 1)).sum + (d.day - 1)

end Date

/-! ## Years -/

/-- The leap days of the first years. -/
def leapDays (years : Nat) : Nat := years / 4 - years / 100 + years / 400

theorem leapDays_succ (years : Nat) :
    leapDays (years + 1) = leapDays years + if isLeap (years + 1) then 1 else 0 := by
  have hle : years / 100 ≤ years / 4 := Nat.div_le_div_left (by decide) (by decide)
  have h4 : 100 ∣ years + 1 → 4 ∣ years + 1 := Nat.dvd_trans (by decide)
  have h100 : 400 ∣ years + 1 → 100 ∣ years + 1 := Nat.dvd_trans (by decide)
  simp only [leapDays, isLeap, decide_eq_true_eq, Nat.succ_div]
  generalize years / 100 = x at *
  generalize years / 4 = y at *
  by_cases hy : 4 ∣ years + 1 <;> by_cases hx : 100 ∣ years + 1 <;>
    by_cases hz : 400 ∣ years + 1 <;> simp_all <;> omega

theorem leapDays_mono {m n : Nat} (h : m ≤ n) : leapDays m ≤ leapDays n := by
  induction h with
  | refl => exact Nat.le_refl _
  | step _ ih => exact Nat.le_trans ih (leapDays_succ _ ▸ Nat.le_add_right ..)

theorem sum_yearLength (years : Nat) :
    ((List.range years).map fun k => yearLength (k + 1)).sum = 365 * years + leapDays years := by
  induction years with
  | zero => rfl
  | succ n ih =>
      rw [List.range_succ, List.map_append, List.sum_append, ih, leapDays_succ]
      simp only [List.map_cons, List.map_nil, List.sum_cons, List.sum_nil, yearLength]
      split <;> omega

theorem Date.ordinal_eq (year month day : Nat) : (Date.mk (year + 1) month day).ordinal =
    365 * year + leapDays year + ((monthLengths (isLeap (year + 1))).take (month - 1)).sum +
      (day - 1) := by
  rw [ordinal, Nat.add_sub_cancel, sum_yearLength]

/-! ## Months

Counted from March, the months of a year begin after `(153 * m + 2) / 5` days: five
months take 153 days, and the leap day is the last day of the year. -/

/-- March to December follow January, February and the months between. -/
theorem sum_months_of_march : ∀ leap, ∀ m < 10,
    ((monthLengths leap).take (m + 2)).sum = (if leap then 60 else 59) + (153 * m + 2) / 5 := by
  decide

theorem length_of_march : ∀ leap, ∀ m < 10,
    (153 * m + 2) / 5 + (monthLengths leap).getD (m + 2) 0 = (153 * (m + 1) + 2) / 5 := by
  decide

/-- The day of the year `year`, counted from March, with `n` days before it. -/
def marchDate (year n : Nat) : Date :=
  let m := (5 * n + 2) / 153
  let month := if m < 10 then m + 3 else m - 9
  { year := year + (if month ≤ 2 then 1 else 0)
    month
    day := n - (153 * m + 2) / 5 + 1 }

theorem marchDate_spec {year n : Nat} (hn : n < 365 + if isLeap (year + 2) then 1 else 0) :
    (marchDate (year + 1) n).IsValid ∧
      (marchDate (year + 1) n).ordinal + 306 = 365 * (year + 1) + leapDays (year + 1) + n := by
  have hleap := leapDays_succ year
  have hn' : n < 366 := by
    split at hn <;> omega
  obtain ⟨m, hm⟩ : ∃ m, m = (5 * n + 2) / 153 := ⟨_, rfl⟩
  rcases Nat.lt_or_ge m 10 with hlt | hge
  · have hdate : marchDate (year + 1) n = ⟨year + 1, m + 3, n - (153 * m + 2) / 5 + 1⟩ := by
      simp [marchDate, ← hm, hlt]
    have hbefore := sum_months_of_march (isLeap (year + 1)) m hlt
    have hlength := length_of_march (isLeap (year + 1)) m hlt
    rw [hdate]
    refine ⟨⟨by simp, by simp; omega, by simp, ?_⟩, ?_⟩
    · show n - (153 * m + 2) / 5 + 1 ≤ (monthLengths (isLeap (year + 1))).getD (m + 2) 0
      omega
    · rw [Date.ordinal_eq, Nat.add_sub_cancel, hleap, show m + 3 - 1 = m + 2 from rfl, hbefore]
      split <;> omega
  · have hdate : marchDate (year + 1) n = ⟨year + 2, m - 9, n - (153 * m + 2) / 5 + 1⟩ := by
      have hmonth : m - 9 ≤ 2 := by omega
      simp [marchDate, ← hm, Nat.not_lt.mpr hge, hmonth]
    rw [hdate]
    -- January and February belong to the next year.
    obtain rfl | rfl : m = 10 ∨ m = 11 := by omega
    · have hbefore : ((monthLengths (isLeap (year + 2))).take 0).sum = 0 := rfl
      refine ⟨⟨by simp, by simp, by simp, ?_⟩, ?_⟩
      · show n - 306 + 1 ≤ 31
        omega
      · rw [Date.ordinal_eq, Nat.add_sub_cancel, hbefore]
        omega
    · have hbefore : ((monthLengths (isLeap (year + 2))).take 1).sum = 31 := by simp [monthLengths]
      refine ⟨⟨by simp, by simp, by simp, ?_⟩, ?_⟩
      · show n - 337 + 1 ≤ if isLeap (year + 2) then 29 else 28
        split <;> simp_all <;> omega
      · rw [Date.ordinal_eq, Nat.add_sub_cancel, hbefore]
        omega

/-! ## Eras

An era is 400 years. Its centuries have 24 leap days, the last one 25, so the days
before a day of an era are made of whole centuries, whole groups of four years, whole
years and the days of the last year, each with the leap day at its end. -/

theorem exists_century {e : Nat} (he : e < eraDays) : ∃ c q t n, c ≤ 3 ∧ q ≤ 24 ∧ t ≤ 3 ∧
    e = 36524 * c + 1461 * q + 365 * t + n ∧ n ≤ 365 ∧ (n = 365 → t = 3 ∧ (q = 24 → c = 3)) := by
  unfold eraDays at he
  obtain ⟨c, r, hc, her, hr, hr3⟩ : ∃ c r, c ≤ 3 ∧ e = 36524 * c + r ∧ r ≤ 36524 ∧
      (r = 36524 → c = 3) := ⟨min 3 (e / 36524), e - 36524 * min 3 (e / 36524), by omega⟩
  obtain ⟨q, u, hq, hu⟩ : ∃ q u, r = 1461 * q + u ∧ u < 1461 := ⟨r / 1461, r % 1461, by omega⟩
  obtain ⟨t, n, ht, hun, hn, hn3⟩ : ∃ t n, t ≤ 3 ∧ u = 365 * t + n ∧ n ≤ 365 ∧ (n = 365 → t = 3) :=
    ⟨min 3 (u / 365), u - 365 * min 3 (u / 365), by omega⟩
  exact ⟨c, q, t, n, by omega⟩

/-- Without the leap days before it, an era's days are years of 365 days. -/
theorem yearOfEra_eq {c q t n e : Nat} (hc : c ≤ 3) (hq : q ≤ 24) (ht : t ≤ 3)
    (he : e = 36524 * c + 1461 * q + 365 * t + n) (hn : n ≤ 365)
    (hleap : n = 365 → t = 3 ∧ (q = 24 → c = 3)) :
    (e - e / 1460 + e / 36524 - e / 146096) / 365 = 100 * c + 4 * q + t := by
  obtain ⟨δ, hδ, h4, hδ'⟩ : ∃ δ ≤ 1, e / 1460 = 25 * c + q + δ ∧
      (δ = 1 ↔ 1460 ≤ 24 * c + q + 365 * t + n) := by
    by_cases h : 1460 ≤ 24 * c + q + 365 * t + n
    · exact ⟨1, by omega⟩
    · exact ⟨0, by omega⟩
  have h100 : e / 36524 - e / 146096 = c ∧ e / 146096 ≤ e / 36524 := by
    by_cases h : e = 146096
    · subst h
      omega
    · have : e / 36524 = c := by omega
      omega
  have hdays : e - e / 1460 + e / 36524 - e / 146096 = 365 * (100 * c + 4 * q + t) + (n - δ) := by
    omega
  omega

theorem dateOfDays_eq (n : Nat) : ∃ year k, dateOfDays n = marchDate (year + 1) k ∧
    (k < 365 + if isLeap (year + 2) then 1 else 0) ∧
    365 * (year + 1) + leapDays (year + 1) + k = n + epochDays := by
  have hlt : (n + epochDays) % eraDays < eraDays := Nat.mod_lt _ (by decide)
  have hera := Nat.div_add_mod (n + epochDays) eraDays
  have hdate : dateOfDays n = marchDate
      (((n + epochDays) % eraDays - (n + epochDays) % eraDays / 1460 +
        (n + epochDays) % eraDays / 36524 - (n + epochDays) % eraDays / 146096) / 365 +
        (n + epochDays) / eraDays * 400) _ := rfl
  obtain ⟨c, q, t, k, hc, hq, ht, he, hk, hleap⟩ := exists_century hlt
  rw [yearOfEra_eq hc hq ht he hk hleap] at hdate
  generalize (n + epochDays) % eraDays = e at *
  generalize (n + epochDays) / eraDays = era at *
  have hk' : e - (365 * (100 * c + 4 * q + t) + (100 * c + 4 * q + t) / 4 -
      (100 * c + 4 * q + t) / 100) = k := by omega
  rw [hk'] at hdate
  have hpos : 1 ≤ 100 * c + 4 * q + t + era * 400 := by
    unfold epochDays eraDays at hera
    omega
  obtain ⟨year, hyear⟩ : ∃ year, 100 * c + 4 * q + t + era * 400 = year + 1 :=
    ⟨_, (Nat.sub_add_cancel hpos).symm⟩
  rw [hyear] at hdate
  refine ⟨year, k, hdate, ?_, ?_⟩
  · rcases Nat.lt_or_eq_of_le hk with hlt | rfl
    · exact Nat.lt_add_right _ hlt
    · -- The day is the leap day of the year that begins two months before it.
      obtain ⟨rfl, hcentury⟩ := hleap rfl
      have hleap : isLeap (year + 2) = true := by
        rw [isLeap, decide_eq_true_eq]
        refine ⟨by omega, ?_⟩
        by_cases hq' : q = 24
        · have := hcentury hq'
          exact .inr (by omega)
        · exact .inl (by omega)
      simp [hleap]
  · rw [← hyear, ← hera, leapDays]
    unfold eraDays
    omega

theorem ordinal_epoch : (Date.mk 1970 1 1).ordinal = 719162 := Date.ordinal_eq 1969 1 1

/-- The date that is `n` days behind the start of 1970: it exists, and it has as many
days before it as that. -/
theorem dateOfDays_spec (n : Nat) : (dateOfDays n).IsValid ∧
    (dateOfDays n).ordinal = (Date.mk 1970 1 1).ordinal + n := by
  obtain ⟨year, k, hdate, hk, hdays⟩ := dateOfDays_eq n
  obtain ⟨hvalid, hordinal⟩ := marchDate_spec hk
  rw [hdate, ordinal_epoch]
  refine ⟨hvalid, ?_⟩
  unfold epochDays at hdays
  omega

/-! ## Different dates have different ordinals -/

theorem sum_take_lt : ∀ leap, ∀ m < 12, ∀ m' < 12, m < m' →
    ((monthLengths leap).take m).sum + (monthLengths leap).getD m 0 ≤
      ((monthLengths leap).take m').sum := by
  decide

theorem sum_take_le : ∀ leap, ∀ m < 12,
    ((monthLengths leap).take m).sum + (monthLengths leap).getD m 0 ≤
      if leap then 366 else 365 := by
  decide

namespace Date

variable {d d' : Date}

/-- The days before a date are those of the years before its year, and not all of
its own. -/
theorem IsValid.ordinal_bounds (h : d.IsValid) :
    365 * (d.year - 1) + leapDays (d.year - 1) ≤ d.ordinal ∧
      d.ordinal < 365 * d.year + leapDays d.year := by
  obtain ⟨year, hyear⟩ : ∃ year, d.year = year + 1 := ⟨_, (Nat.sub_add_cancel h.year).symm⟩
  have hlength := sum_take_le (isLeap d.year) (d.month - 1) (by have := h.month; omega)
  have hday := h.day
  have hleap := leapDays_succ year
  rw [ordinal, sum_yearLength]
  rw [hyear] at *
  rw [Nat.add_sub_cancel]
  constructor
  · omega
  · split at hleap <;> simp_all <;> omega

/-- The dates up to a year are those before the next new year. -/
theorem IsValid.year_le_iff (h : d.IsValid) {year : Nat} :
    d.year ≤ year ↔ d.ordinal < (Date.mk (year + 1) 1 1).ordinal := by
  have hbounds := h.ordinal_bounds
  have hnew : (Date.mk (year + 1) 1 1).ordinal = 365 * year + leapDays year := ordinal_eq year 1 1
  rw [hnew]
  constructor
  · intro hle
    have := leapDays_mono hle
    omega
  · intro hlt
    refine Nat.le_of_not_lt fun hgt => ?_
    have := leapDays_mono (Nat.le_sub_one_of_lt hgt)
    omega

theorem IsValid.year_le (h : d.IsValid) (h' : d'.IsValid) (hle : d.ordinal ≤ d'.ordinal) :
    d.year ≤ d'.year :=
  h.year_le_iff.mpr (Nat.lt_of_le_of_lt hle (h'.year_le_iff.mp (Nat.le_refl _)))

/-- A date is known by the days before it. -/
theorem IsValid.eq_of_ordinal_eq (h : d.IsValid) (h' : d'.IsValid)
    (heq : d.ordinal = d'.ordinal) : d = d' := by
  have hyear : d.year = d'.year :=
    Nat.le_antisymm (h.year_le h' (Nat.le_of_eq heq)) (h'.year_le h (Nat.le_of_eq heq.symm))
  have hlt : d.month - 1 < 12 ∧ d'.month - 1 < 12 := by
    have := h.month
    have := h'.month
    omega
  have hd := h.day
  have hd' := h'.day
  rw [ordinal, ordinal, ← hyear] at heq
  rw [← hyear] at hd'
  have hmonth : d.month - 1 = d'.month - 1 := by
    rcases Nat.lt_trichotomy (d.month - 1) (d'.month - 1) with hm | hm | hm
    · have := sum_take_lt (isLeap d.year) _ hlt.1 _ hlt.2 hm
      omega
    · exact hm
    · have := sum_take_lt (isLeap d.year) _ hlt.2 _ hlt.1 hm
      omega
  rw [hmonth] at heq
  have hm := h.month
  have hm' := h'.month
  have hmonth' : d.month = d'.month := by omega
  have hday : d.day = d'.day := by omega
  cases d
  cases d'
  exact mk.injEq .. ▸ ⟨hyear, hmonth', hday⟩

end Date

end JobLedger.Timestamp
